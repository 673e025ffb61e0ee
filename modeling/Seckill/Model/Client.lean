import Seckill.Lib.Threads
import Seckill.Model.Prepare

/-! # The test client

`onSeckill`, `prepareTestData` and the threads of `main` in `seckill_client.cc`.  The two
counters are globals, raised under `mtx` and read once more outside it; each access is a
call of its own.  `SeckillClient::seckill` is one call, whose reply is what the server
answered or `"RPC failed"`, and so is `checkSeckillInfo`, which `Seckill.Model.Audit` has,
with the `success_count` that it reads; that it deletes the pool is not modelled.
-/

namespace Seckill

open CStr CallTree Threads

/-! ## The calls of a thread -/

inductive ClientCall where
  | seckill (usrName usrKey : Str)
  | lock
  | unlock
  | successCount
  | setSuccessCount (n : Int32)
  | responseCount
  | setResponseCount (n : Int32)
  | checkSeckillInfo (successCount : Int32)

@[reducible] def ClientCall.Reply : ClientCall → Type
  | .seckill _ _ => Str
  | .lock | .unlock | .setSuccessCount _ | .setResponseCount _ => Unit
  | .successCount | .responseCount => Int32
  | .checkSeckillInfo _ => Bool

/-- What the environment decides: the reply to a request, and the verdict on a database. -/
inductive ClientFate where
  | ok
  | replied (reply : Str)
  | verdict (isnormol : Bool)

structure ClientState where
  mtx : Option Nat := none
  successCount : Int32 := 0
  responseCount : Int32 := 0

def ClientState.exec (t : Nat) :
    (c : ClientCall) → ClientFate → ClientState → Option (c.Reply × ClientState)
  | .seckill _ _, .replied reply, s => some (reply, s)
  | .lock, .ok, s => if s.mtx = none then some ((), { s with mtx := some t }) else none
  | .unlock, .ok, s => some ((), { s with mtx := none })
  | .successCount, .ok, s => some (s.successCount, s)
  | .setSuccessCount n, .ok, s => some ((), { s with successCount := n })
  | .responseCount, .ok, s => some (s.responseCount, s)
  | .setResponseCount n, .ok, s => some ((), { s with responseCount := n })
  | .checkSeckillInfo _, .verdict isnormol, s => some (isnormol, s)
  | _, _, _ => none

abbrev ClientCode (α : Type) := Prog ClientCall ClientCall.Reply α

def client (c : ClientCall) : ClientCode c.Reply := .perform c

/-! ## The program -/

section OnSeckill

variable (generateMD5 : Str → Fin 16 → UInt8) (total : Nat)

/-- The key that a thread sends for user `i`. -/
def clientKey (i : Int) : Str :=
  Prepare.toString (generateMD5 (decimal i ++ decimal i ++ Prepare.salt))

/-- `onSeckill`, where `total` stands for the `500` of its comparison, which is `NUM_THREADS`. -/
def onSeckill (i : Int) : ClientCode Unit := do
  let md5Str := clientKey generateMD5 i
  let name := decimal i
  let reply ← client (.seckill name md5Str)
  let resI := atoi reply
  client .lock
  if resI = 1 then
    client (.setSuccessCount ((← client .successCount) + 1))
  client (.setResponseCount ((← client .responseCount) + 1))
  client .unlock
  -- outside the lock: several threads may see the last count
  if (← client .responseCount) = Int32.ofNat total then
    let _ ← client (.checkSeckillInfo (← client .successCount))

/-- The client: its threads, `mtx` and the counters. -/
abbrev testClient : Machine ClientCall ClientCall.Reply where
  State := ClientState
  Fate := ClientFate
  Entry := Int
  exec := ClientState.exec
  body := onSeckill generateMD5 total

end OnSeckill

/-! ## The test data -/

/-- `prepareTestData`, where `rand j` is what `rand()` gives for place `j` of `data`. -/
def prepareTestData (testType : Int) (rand : Nat → Nat) (j : Nat) : Int :=
  if testType = 1 then rand j % 400
  else if testType = 2 then rand j % 400 + 400
  else if testType = 3 then rand j % 5
  else if testType = 4 then rand j % 5 + 400
  else if testType = 5 then rand j % 600
  else 0

end Seckill
