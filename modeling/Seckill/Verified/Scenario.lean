import Seckill.Verified.History

/-! # Schedules

The pieces that concrete runs are put together from: stores that agree, as
`prepareForSeckill` leaves them, and the moves of one thread that takes a request and
serves it.
-/

namespace Seckill

open CStr CallTree Threads

/-- Stores in agreement: the same users, no orders, `n` goods on both sides. -/
def agreeing (users : List (Str × Str)) (n : Nat) : Stores where
  totalCount := decimal n
  redisUsers := users.foldr (fun u h => h.insert u.1 u.2) ∅
  redisOrders := ∅
  workList := []
  weight := Char.toNat
  usrInfo := users
  gTotalcount := some n
  orderInfo := []
  redisMax := 100
  mysqlMax := 100

/-- `n` calls of thread `t` that all succeed. -/
def go (t n : Nat) : List (Move server) := List.replicate n (.go t .ok)

/-- Thread `t` passes the gate and takes a request. -/
def takes (t : Nat) (q : Request) : List (Move server) :=
  .start t .handleRPCS :: go t 5 ++ [.go t (.deliver q.worker q.usrname q.usrkey)]

/-- Thread `t` takes a request and serves it up to its `EXEC`. -/
def queues (t : Nat) (q : Request) : List (Move server) := takes t q ++ go t 17

/-- Thread `t` serves the rest of a request that it has taken, with the fates `f` and `g` for
    the `UPDATE` and for `mysql_commit`. -/
def serves (t : Nat) (q : Request) (f g : Fate) : List (Move server) :=
  queues t q ++ go t 4 ++ [.go t f] ++ go t 1 ++ [.go t g] ++ go t 7

/-- The condition that asks nothing. -/
abbrev anything : Condition server := meets fun _ _ _ => true

end Seckill
