import Seckill.Verified.Rules

/-! # What a run shows

The requests, grants, commits and answers of a run, read off its events alone, newest
first.  The results of this development speak of these; their proofs go through the
records of the threads, and the last section ties the two together.
-/

namespace Seckill

open CStr CallTree Threads

/-! ## Requests -/

structure Request where
  worker : WorkerId
  usrname : Str
  usrkey : Str
  deriving DecidableEq

/-- The request that `cq_->Next` delivers with this fate. -/
def Fate.request : Fate → Option Request
  | .deliver w usrname usrkey => some ⟨w, usrname, usrkey⟩
  | _ => none

def delivered : History server → List Request
  | [] => []
  | .call _ (.grpc .next) f _ :: h => f.request.toList ++ delivered h
  | _ :: h => delivered h

/-- The request that thread `t` has taken and not answered yet. -/
def serving (t : Nat) : History server → Option Request
  | [] => none
  | .call t' (.grpc .next) f _ :: h => if t' = t then f.request else serving t h
  | .call t' (.grpc (.finish _ _)) _ _ :: h => if t' = t then none else serving t h
  | _ :: h => serving t h

/-- No request is in progress. -/
def AtRest (h : History server) : Prop := ∀ t, serving t h = none

/-! ## Grants, orders and answers -/

/-- The requests whose `EXEC` went through. -/
def grants : History server → List Request
  | [] => []
  | .call t (.redis (.command _ .exec)) _ r :: h =>
    if granted r then (serving t h).toList ++ grants h else grants h
  | _ :: h => grants h

/-- The grants since thread `t` last looked a user up in `order_info`. -/
def grantsSinceCheck (t : Nat) : History server → List Request
  | [] => []
  | .call t' (.redis (.command _ (.hget .orderInfo _))) _ _ :: h =>
    if t' = t then [] else grantsSinceCheck t h
  | .call t' (.redis (.command _ .exec)) _ r :: h =>
    if granted r then (serving t' h).toList ++ grantsSinceCheck t h else grantsSinceCheck t h
  | _ :: h => grantsSinceCheck t h

/-- The requests whose `mysql_commit` succeeded. -/
def orders : History server → List Request
  | [] => []
  | .call t (.mysql (.commit _)) _ error :: h =>
    if error then orders h else (serving t h).toList ++ orders h
  | _ :: h => orders h

/-- The threads whose `EXEC` went through and that have neither committed in MySQL nor
    counted their failure. -/
def inFlight : History server → List Nat
  | [] => []
  | .call t (.redis (.command _ .exec)) _ r :: h => if granted r then t :: inFlight h else inFlight h
  | .call t (.mysql (.commit _)) _ error :: h => if error then inFlight h else (inFlight h).erase t
  | .call t (.counter .incFailedCount) _ _ :: h => (inFlight h).erase t
  | _ :: h => inFlight h

/-- The threads between a refill `SET total_count` that was answered `OK` and their
    `*failedCount_ = 0`. -/
def refilling : History server → List Nat
  | [] => []
  | .call t (.redis (.command _ (.set _))) _ r :: h =>
    if isOK r then t :: refilling h else refilling h
  | .call t (.counter (.setFailedCount _)) _ _ :: h => (refilling h).erase t
  | _ :: h => refilling h

/-- An answer: the request, the result sent with `Finish`, and the run up to then. -/
structure Answer where
  request : Request
  result : Str
  thread : Nat
  past : History server

def answers : History server → List Answer
  | [] => []
  | .call t (.grpc (.finish _ result)) _ _ :: h =>
    (serving t h).toList.map (⟨·, result, t, h⟩) ++ answers h
  | _ :: h => answers h

/-- What `MysqlPool::getOneConnect` gave thread `t` last. -/
def handle (t : Nat) : History server → Option SessId
  | [] => none
  | .call t' (.mysql .getOneConnect) _ r :: h => if t' = t then r else handle t h
  | _ :: h => handle t h

/-- What thread `t` got for its last `GET total_count`. -/
def lastGet (t : Nat) : History server → Option Str
  | [] => none
  | .call t' (.redis (.command _ .get)) _ r :: h =>
    if t' = t then r.bind RedisReply.str else lastGet t h
  | _ :: h => lastGet t h

/-! ## The records of the threads agree -/

/-- The count a thread goes by in its transaction. -/
def RedisPhase.count : RedisPhase → Option Str
  | .free | .refused | .watched => none
  | .counted v | .opened v | .decred v | .queued v _ => some v

def Local.count (l : Local) : Option Str := l.redis.phase.count

theorem noteCmd_count {l : Local} {cmd : RedisCmd} {r : Option RedisReply} {v : Str}
    (get : cmd ≠ .get) (count : (l.noteCmd cmd r).redis.phase.count = some v) :
    l.redis.phase.count = some v := by
  unfold Local.noteCmd at count
  (repeat' split at count) <;>
    simp_all [Local.setPhase, Local.grant, Local.retried, RedisPhase.count]

variable {ok : Condition server} {s₀ : Server} {h : History server} {cfg : Config server}

/-- After a `GET` the thread goes by the text of the reply, or by none. -/
theorem noteGet_count {l : Local} {reply : Option RedisReply} {v : Str}
    (count : (l.noteGet reply).redis.phase.count = some v) : reply.bind RedisReply.str = some v := by
  unfold Local.noteGet at count
  split at count
  next text =>
    rw [text]
    split at count <;> exact count
  next => cases count

/-- The count a thread goes by is the one it read last. -/
theorem lastGet_eq (run : Run ok s₀ h cfg) :
    ∀ t v, (locals watch h t).count = some v → lastGet t h = some v := by
  refine server_invariant
    (fun h _ ls => ∀ t v, (ls t).count = some v → lastGet t h = some v)
    ?initial ?redis ?mysql ?counter ?grpc ?start run
  case initial => exact fun _ _ => nofun
  case redis =>
    intro h cfg t c f r x _ inv _ _ _ t' v count
    by_cases same : t' = t
    · subst same
      rw [Function.update_self] at count
      cases c with
      -- a thread without a context, or with a new one, has read no count
      | getOneConnect | close c => cases count
      | command c cmd =>
        by_cases get : cmd = .get
        · subst get
          simp only [lastGet, if_true]
          exact noteGet_count count
        · have before := inv t' v (noteCmd_count get count)
          cases cmd <;> first | exact before | exact absurd rfl get
    · rw [Function.update_of_ne same] at count
      have before := inv t' v count
      cases c with
      | getOneConnect | close c => exact before
      | command c cmd =>
        by_cases get : cmd = .get
        · subst get
          simpa only [lastGet, if_neg (Ne.symm same)] using before
        · cases cmd <;> first | exact before | exact absurd rfl get
  case mysql =>
    intro h cfg t c f r x _ inv _ _ _ t' v count
    rw [update_eq Local.count (by simp [Local.count])] at count
    exact inv t' v count
  case counter =>
    intro h cfg t c f r x _ inv _ _ _ t' v count
    rw [update_eq Local.count (by simp [Local.count])] at count
    exact inv t' v count
  case grpc =>
    intro h cfg t c f r x _ inv _ _ _ t' v count
    rw [update_eq Local.count (by simp [Local.count])] at count
    exact inv t' v count
  case start =>
    intro h cfg t e _ inv _ settled t' v count
    have same : (Local.begin e).count = (locals watch h t).count := by
      rw [Local.count, Local.count, settled.redis]
      cases e <;> rfl
    rw [update_eq Local.count same] at count
    exact inv t' v count

theorem delivered_suffix {past : History server} (before : past <:+ h) :
    delivered past <:+ delivered h := by
  obtain ⟨later, rfl⟩ := before
  induction later with
  | nil => exact List.suffix_rfl
  | cons ev later ih =>
    refine ih.trans ?_
    rw [List.cons_append]
    cases ev with
    | start t e => exact List.suffix_rfl
    | call t c f r =>
      cases c with
      | grpc c => cases c <;> first | exact List.suffix_rfl | exact List.suffix_append _ _
      | redis c | mysql c | counter c | crash why => exact List.suffix_rfl

theorem delivered_cons (ev : Event server) : ∀ q ∈ delivered h, q ∈ delivered (ev :: h) :=
  fun _ member => (delivered_suffix (List.suffix_cons ev h)).subset member

end Seckill
