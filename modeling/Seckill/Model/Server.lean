import Seckill.Model.Mysql
import Seckill.Lib.Threads

/-! # The shared state of the server process

Next to the two stores the process has the counters of `ServerImpl::Run` behind
`rwlock_`, and the gRPC completion queue with the `Worker` objects it hands between
threads.  gRPC is taken at its contract: a `Worker` registered with `Requestseckill`
is delivered once, with some request, and a `Worker` passed to `Finish` is delivered
once after that, each to one thread and in any order.
-/

namespace Seckill

open CStr CallTree Threads

abbrev WorkerId := Nat

/-! ## Counters -/

/-- `failedCounter`, `sucNum_` and the thread that holds `rwlock_`. -/
structure Counters where
  failedCount : Int := 0
  successNum : Int := 0
  rwlock : Option Nat := none
  deriving DecidableEq

inductive CounterCall where
  | wrlock
  | unlock
  | failedCount
  | setFailedCount (n : Int)
  | incFailedCount
  | successNum
  | incSuccessNum

@[reducible] def CounterCall.Reply : CounterCall → Type
  | .failedCount | .successNum => Int
  | .wrlock | .unlock | .setFailedCount _ | .incFailedCount | .incSuccessNum => Unit

def Counters.exec (s : Counters) (t : Nat) : (c : CounterCall) → Fate → Option (c.Reply × Counters)
  | .wrlock, .ok => if s.rwlock = none then some ((), { s with rwlock := some t }) else none
  | .unlock, .ok => some ((), { s with rwlock := none })
  | .failedCount, .ok => some (s.failedCount, s)
  | .setFailedCount n, .ok => some ((), { s with failedCount := n })
  | .incFailedCount, .ok => some ((), { s with failedCount := s.failedCount + 1 })
  | .successNum, .ok => some (s.successNum, s)
  | .incSuccessNum, .ok => some ((), { s with successNum := s.successNum + 1 })
  | _, _ => none

/-! ## Workers and the completion queue -/

inductive WorkerStatus where
  | create
  | process
  | finish
  deriving DecidableEq

/-- The members of a `Worker` that its calls read and write: `status_`, `request_` and
    the result of `response_`. -/
structure WorkerObj where
  status : WorkerStatus := .create
  usrname : Str := []
  usrkey : Str := []
  result : Str := []
  deriving DecidableEq

structure GrpcState where
  worker : WorkerId → Option WorkerObj
  fresh : WorkerId
  registered : List WorkerId
  finishing : List WorkerId

inductive GrpcCall where
  | alloc
  | status (w : WorkerId)
  | setStatus (w : WorkerId) (status : WorkerStatus)
  | requestseckill (w : WorkerId)
  | usrname (w : WorkerId)
  | usrkey (w : WorkerId)
  | setResult (w : WorkerId) (result : Str)
  | result (w : WorkerId)
  | finish (w : WorkerId) (result : Str)
  | delete (w : WorkerId)
  | next

@[reducible] def GrpcCall.Reply : GrpcCall → Type
  | .alloc | .next => WorkerId
  | .status _ => WorkerStatus
  | .usrname _ | .usrkey _ | .result _ => Str
  | .setStatus _ _ | .requestseckill _ | .setResult _ _ | .finish _ _ | .delete _ => Unit

namespace GrpcState

def setWorker (s : GrpcState) (w : WorkerId) (x : Option WorkerObj) : GrpcState :=
  { s with worker := Function.update s.worker w x }

/-- A member of a `Worker` that was deleted cannot be used. -/
def exec (s : GrpcState) : (c : GrpcCall) → Fate → Option (c.Reply × GrpcState)
  | .alloc, .ok => some (s.fresh, { s.setWorker s.fresh (some {}) with fresh := s.fresh + 1 })
  | .status w, .ok => (s.worker w).map fun x => (x.status, s)
  | .setStatus w st, .ok => (s.worker w).map fun x => ((), s.setWorker w (some { x with status := st }))
  | .requestseckill w, .ok =>
    (s.worker w).map fun _ => ((), { s with registered := s.registered ++ [w] })
  | .usrname w, .ok => (s.worker w).map fun x => (x.usrname, s)
  | .usrkey w, .ok => (s.worker w).map fun x => (x.usrkey, s)
  | .setResult w r, .ok => (s.worker w).map fun x => ((), s.setWorker w (some { x with result := r }))
  | .result w, .ok => (s.worker w).map fun x => (x.result, s)
  | .finish w _, .ok => (s.worker w).map fun _ => ((), { s with finishing := s.finishing ++ [w] })
  | .delete w, .ok => (s.worker w).map fun _ => ((), s.setWorker w none)
  | .next, .deliver w usrname usrkey =>
    if w ∈ s.registered then
      (s.worker w).map fun x =>
        (w, { s.setWorker w (some { x with usrname := usrname, usrkey := usrkey }) with
          registered := s.registered.erase w })
    else none
  | .next, .finished w =>
    if w ∈ s.finishing then some (w, { s with finishing := s.finishing.erase w }) else none
  | _, _ => none

end GrpcState

/-! ## All calls -/

/-- The ways a `NULL` pointer is used. -/
inductive Crash where
  | nullContext
  | nullHandle
  | nullStr
  deriving DecidableEq

inductive Call where
  | redis (c : RedisCall)
  | mysql (c : MysqlCall)
  | counter (c : CounterCall)
  | grpc (c : GrpcCall)
  | crash (why : Crash)

@[reducible] def Call.Reply : Call → Type
  | .redis c => c.Reply
  | .mysql c => c.Reply
  | .counter c => c.Reply
  | .grpc c => c.Reply
  | .crash _ => Empty

structure Server where
  redis : RedisState
  mysql : MysqlState
  counters : Counters
  grpc : GrpcState

/-- Each call acts on its own part of the state; a crash does not return. -/
def Server.exec (t : Nat) : (c : Call) → Fate → Server → Option (c.Reply × Server)
  | .redis c, f, s => (s.redis.exec c f).map fun x => (x.1, { s with redis := x.2 })
  | .mysql c, f, s => (s.mysql.exec c f).map fun x => (x.1, { s with mysql := x.2 })
  | .counter c, f, s => (s.counters.exec t c f).map fun x => (x.1, { s with counters := x.2 })
  | .grpc c, f, s => (s.grpc.exec c f).map fun x => (x.1, { s with grpc := x.2 })
  | .crash _, _, _ => none

/-! ## Programs of the server -/

abbrev Code (α : Type) := Prog Call Call.Reply α

def invoke (c : Call) : Code c.Reply := .perform c

def crash {α : Type} (why : Crash) : Code α := .call (.crash why) nofun

/-- `redisCommand`, which dereferences its context. -/
def redisCommand (redisconn : Option ConnId) (cmd : RedisCmd) : Code (Option RedisReply) :=
  match redisconn with
  | some c => invoke (.redis (.command c cmd))
  | none => crash .nullContext

def redisGetOneConnect : Code (Option ConnId) := invoke (.redis .getOneConnect)

def redisClose (redisconn : Option ConnId) : Code Unit :=
  match redisconn with
  | some c => invoke (.redis (.close c))
  | none => pure ()

/-- A `mysql_*` call, which dereferences its handle. -/
def onHandle {α : Type} (connection : Option SessId) (call : SessId → Code α) : Code α :=
  match connection with
  | some m => call m
  | none => crash .nullHandle

def mysqlAutocommit (connection : Option SessId) (mode : Bool) : Code Bool :=
  onHandle connection fun m => invoke (.mysql (.autocommit m mode))

def mysqlQuery (connection : Option SessId) (stmt : Stmt) : Code Bool :=
  onHandle connection fun m => invoke (.mysql (.query m stmt))

def mysqlFetchRows (connection : Option SessId) : Code (List (List Str)) :=
  onHandle connection fun m => invoke (.mysql (.fetchRows m))

def mysqlRollback (connection : Option SessId) : Code Bool :=
  onHandle connection fun m => invoke (.mysql (.rollback m))

def mysqlCommit (connection : Option SessId) : Code Bool :=
  onHandle connection fun m => invoke (.mysql (.commit m))

def mysqlGetOneConnect : Code (Option SessId) := invoke (.mysql .getOneConnect)

def mysqlClose (connection : Option SessId) : Code Unit :=
  match connection with
  | some m => invoke (.mysql (.close m))
  | none => pure ()

def counter (c : CounterCall) : Code c.Reply := invoke (.counter c)

def grpc (c : GrpcCall) : Code c.Reply := invoke (.grpc c)

end Seckill
