import Seckill.Model.Worker

/-! # The protocol of a handler thread

What a thread's own calls and replies say about it (`Local`, updated by `note`), and
which call it may make next (`allowed`).  Replies are arbitrary here: the protocol is a
fact of control flow alone, and `Verified.Conformance` proves that every program of the
server follows it.  What the shared state adds is proved over the protocol, in the
modules after that one.
-/

namespace Seckill

open CStr CallTree Threads

/-! ## What a thread knows about itself -/

/-- Where a thread is in the Redis transaction: `refused` after a `WATCH` that was not
    answered `OK`, `counted v` after `GET` answered `v` under one that was, and
    `queued v user` when `DECR` and the `HMSET` of `user` are sent. -/
inductive RedisPhase where
  | free
  | refused
  | watched
  | counted (v : Str)
  | opened (v : Str)
  | decred (v : Str)
  | queued (v user : Str)

/-- Where a thread is between `mysql_autocommit(OFF)` and `mysql_autocommit(ON)`: `locked n`
    after the `SELECT` gave `total_count = n > 0`, `doomed` after a failed statement, `tried`
    after a `mysql_commit` that answered an error. -/
inductive MysqlPhase where
  | clean
  | off
  | selected
  | locked (n : Int)
  | updated (n : Int)
  | inserted (n : Int)
  | tried (n : Int)
  | doomed

/-- Where a thread is in its `rwlock_` section: the values read of `*failedCount_`, and
    `refilled` between a `SET total_count` that was answered `OK` and `*failedCount_ = 0`. -/
inductive LockPhase where
  | free
  | held
  | saw (first last : Int)
  | refilled (n : Int)

/-- Where a thread is in a turn of `HandleRPCS`: at the gate before and after the reply to
    `llen`, turned back, let through, or past `cq_->Next`. -/
inductive Stage where
  | gate
  | saw (workingNum : Int)
  | shut
  | pass
  | out
  deriving DecidableEq

/-- Why a request can be answered `"0"`. -/
inductive Cause where
  | stranger
  | hasOrder
  | badReply
  | soldOut
  | refused
  | failed
  deriving DecidableEq

structure RedisLocal where
  ctx : Option ConnId := none
  phase : RedisPhase := .free

structure MysqlLocal where
  con : Option SessId := none
  phase : MysqlPhase := .clean

/-- What a thread does with `Worker` objects: the one delivered to it, with its request
    until that is answered, and the one it is creating.  `branch` is the `status_` that
    `Proceed` found, `marked` says that it was set to `FINISH` and `ready` that the new
    `Worker`'s was set to `PROCESS`; `message` is the result that was read to be sent. -/
structure Task where
  worker : Option WorkerId := none
  newborn : Option WorkerId := none
  ready : Bool := false
  request : Option (Str × Str) := none
  branch : Option WorkerStatus := none
  marked : Bool := false
  userName : Option Str := none
  userKey : Option Str := none
  answer : Option Str := none
  message : Option Str := none

/-- What became of the request so far: `checked` that Redis had no order of the user,
    `granted` that an `EXEC` went through, `unit` that its unit is neither sold nor counted as
    failed, `paid` that `mysql_commit` was called, and `owes` that `*successNum_` was not
    raised since. -/
structure Job extends Task where
  checked : Bool := false
  granted : Bool := false
  unit : Bool := false
  tries : Nat := 0
  lost : Nat := 0
  why : Option Cause := none
  paid : Bool := false
  owes : Bool := false

/-- `noContext` and `noHandle` say that the thread was given `NULL` by a pool. -/
structure Local where
  redis : RedisLocal := {}
  sql : MysqlLocal := {}
  lock : LockPhase := .free
  stage : Stage := .out
  job : Job := {}
  fallback : Bool := false
  noContext : Bool := false
  noHandle : Bool := false

/-! ## What a call and its reply add -/

/-- `EXEC` was answered with an array of more than one element. -/
def granted : Option RedisReply → Bool
  | some (.array elements) => 1 < elements
  | _ => false

def Job.noteHget (j : Job) : HashKey → Option RedisReply → Job
  | .usrInfo, some (.string str) =>
    if j.userKey = some (cStr str) then j else { j with why := some .stranger }
  | .usrInfo, _ => { j with why := some .stranger }
  | .orderInfo, some (.string _) => { j with why := some .hasOrder, checked := false }
  | .orderInfo, _ => { j with checked := true }

def Job.noteStatus (j : Job) (w : WorkerId) (st : WorkerStatus) : Job :=
  if j.newborn = some w then { j with ready := true }
  else if st = .finish then { j with marked := true }
  else j

def Job.noteRegistered (j : Job) (w : WorkerId) : Job :=
  if j.newborn = some w then { j with newborn := none, ready := false }
  else { j with worker := none, request := none }

namespace Local

def setPhase (l : Local) (p : RedisPhase) : Local := { l with redis := ⟨l.redis.ctx, p⟩ }

def setSql (l : Local) (p : MysqlPhase) : Local := { l with sql := ⟨l.sql.con, p⟩ }

def setWhy (l : Local) (cause : Cause) : Local := { l with job := { l.job with why := some cause } }

def clearWhy (l : Local) : Local := { l with job := { l.job with why := none } }

def retried (l : Local) (nil : Bool) : Local :=
  { l with job := { l.job with tries := l.job.tries + 1, lost := l.job.lost + nil.toNat } }

def grant (l : Local) : Local :=
  { l with job := { l.job with granted := true, unit := true, why := none } }

def noteGet (l : Local) (reply : Option RedisReply) : Local :=
  match l.redis.phase, reply.bind RedisReply.str with
  | .watched, some v =>
    if 0 < atoi v then (l.setPhase (.counted v)).clearWhy
    else (l.setPhase (.counted v)).setWhy .soldOut
  | _, _ => (l.setPhase .free).setWhy .badReply

def noteCmd (l : Local) : RedisCmd → Option RedisReply → Local
  | .watch, r => l.setPhase (if isOK r then .watched else .refused)
  | .get, r => l.noteGet r
  | .multi, r =>
    match l.redis.phase with
    | .counted v => if isOK r then l.setPhase (.opened v) else (l.setPhase .free).retried false
    | _ => l
  | .decr, _ =>
    match l.redis.phase with
    | .opened v => l.setPhase (.decred v)
    | _ => l
  | .hmset .orderInfo user _, _ =>
    match l.redis.phase with
    | .decred v => l.setPhase (.queued v user)
    | _ => l
  | .exec, r =>
    if granted r then (l.setPhase .free).grant else (l.setPhase .free).retried (r == some .nil)
  | .unwatch, _ => l.setPhase .free
  | .set _, r =>
    match l.lock with
    | .saw _ last => if isOK r then { l with lock := .refilled last } else l
    | _ => l
  | .hget key _, r => { l with job := l.job.noteHget key r }
  | .llen, some (.integer n) => { l with stage := .saw n }
  | .llen, _ => { l with stage := .pass }
  | .hmset .usrInfo _ _, _ | .lpush _, _ | .lpop, _ => l

def noteQuery (l : Local) : Stmt → Bool → Local
  | .selectUsrKey _, _ | .selectOrder _, _ => l
  | .selectGoods, error => if error then (l.setSql .off).setWhy .refused else l.setSql .selected
  | .updateGoods _, error =>
    match l.sql.phase with
    | .locked n => if error then (l.setSql .doomed).setWhy .failed else l.setSql (.updated n)
    | _ => l
  | .insertOrder _ _, error =>
    match l.sql.phase with
    | .updated n => if error then (l.setSql .doomed).setWhy .failed else l.setSql (.inserted n)
    | _ => l

def noteRows (l : Local) (rows : List (List Str)) : Local :=
  match l.sql.phase with
  | .selected =>
    if 0 < lastCount rows then l.setSql (.locked (lastCount rows))
    else (l.setSql .off).setWhy .refused
  | _ => l

def noteCommit (l : Local) (error : Bool) : Local :=
  { l with
    sql := ⟨l.sql.con, match l.sql.phase, error with
      | .inserted n, true => .tried n
      | _, _ => .off⟩
    job := { l.job with unit := l.job.unit && error, paid := true, owes := true } }

def noteMysql (l : Local) : (c : MysqlCall) → c.Reply → Local
  | .getOneConnect, r => { l with sql := ⟨r, .clean⟩, noHandle := r.isNone }
  | .close _, _ => { l with sql := ⟨none, .clean⟩ }
  | .autocommit _ mode, _ => l.setSql (if mode then .clean else .off)
  | .query _ stmt, error => l.noteQuery stmt error
  | .fetchRows _, rows => l.noteRows rows
  | .rollback _, _ => l.setSql .off
  | .commit _, error => l.noteCommit error

def noteCounter (l : Local) : (c : CounterCall) → c.Reply → Local
  | .wrlock, _ => { l with lock := .held }
  | .unlock, _ => { l with lock := .free }
  | .failedCount, n =>
    match l.lock with
    | .saw first _ => { l with lock := .saw first n }
    | _ => { l with lock := .saw n n }
  | .setFailedCount _, _ => { l with lock := .held }
  | .incFailedCount, _ => { l with job := { l.job with unit := false } }
  | .successNum, n =>
    match l.stage with
    | .gate => if n < 50 then l else { l with stage := .pass }
    | .saw workingNum => { l with stage := if workingNum ≥ 50 - n then .shut else .pass }
    | _ => l
  | .incSuccessNum, _ => { l with job := { l.job with owes := false } }

def noteGrpc (l : Local) : (c : GrpcCall) → Fate → c.Reply → Local
  | .alloc, _, w => { l with job := { l.job with newborn := some w, ready := false } }
  | .status _, _, st => { l with job := { l.job with branch := some st } }
  | .setStatus w st, _, _ => { l with job := l.job.noteStatus w st }
  | .requestseckill w, _, _ => { l with job := l.job.noteRegistered w }
  | .usrname _, _, s => { l with job := { l.job with userName := some s } }
  | .usrkey _, _, s => { l with job := { l.job with userKey := some s } }
  | .setResult _ r, _, _ => { l with job := { l.job with answer := some r, message := none } }
  | .result _, _, r => { l with job := { l.job with message := some r } }
  | .finish _ _, _, _ =>
    { l with job := { l.job with worker := none, request := none, unit := false } }
  | .delete _, _, _ => { l with job := { l.job with worker := none, request := none } }
  | .next, .deliver _ usrname usrkey, w =>
    { l with stage := .out, job := { worker := some w, request := some (usrname, usrkey) } }
  | .next, _, w => { l with stage := .out, job := { worker := some w } }

def note (l : Local) : (c : Call) → Fate → c.Reply → Local
  | .redis .getOneConnect, _, r => { l with redis := ⟨r, .free⟩, noContext := r.isNone }
  | .redis (.close _), _, _ => { l with redis := ⟨none, .free⟩ }
  | .redis (.command _ cmd), _, r => l.noteCmd cmd r
  | .mysql c, _, r => l.noteMysql c r
  | .counter c, _, r => l.noteCounter c r
  | .grpc c, f, r => l.noteGrpc c f r
  | .crash _, _, r => r.elim

/-! ## Which calls are allowed -/

/-- The thread is serving a request. -/
def AtWork (l : Local) : Prop := l.job.worker.isSome ∧ l.job.branch = some .process

/-- The thread holds a unit, or serves without Redis. -/
def MaySell (l : Local) : Prop := l.job.unit = true ∨ l.fallback = true

def AllowsCmd (l : Local) : RedisCmd → Prop
  | .watch => l.redis.phase = .free ∧ l.job.granted = false
  | .hget _ field => (l.redis.phase = .free ∧ l.job.granted = false) ∧ l.AtWork ∧
      l.job.userKey.isSome ∧ ∃ name, l.job.userName = some name ∧ field = cStr name
  | .get => l.redis.phase = .refused ∨ l.redis.phase = .watched
  | .multi => ∃ v, l.redis.phase = .counted v ∧ 0 < atoi v
  | .decr => ∃ v, l.redis.phase = .opened v
  | .hmset .orderInfo user _ =>
    ∃ v name, l.redis.phase = .decred v ∧ l.job.userName = some name ∧ user = cStr name
  | .hmset .usrInfo _ _ => False
  | .exec => (l.job.granted = false ∧ l.job.checked = true ∧ l.job.paid = false) ∧ l.AtWork ∧
      ∃ v name, l.redis.phase = .queued v (cStr name) ∧ l.job.userName = some name ∧ 0 < atoi v
  | .unwatch => l.redis.phase = .free ∨ ∃ v, l.redis.phase = .counted v
  | .set value => l.redis.phase = .free ∧
      ∃ first last, l.lock = .saw first last ∧ 0 < first ∧ value = decimal last
  | .lpush _ | .lpop => l.redis.phase = .free ∧ l.stage = .out
  | .llen => l.redis.phase = .free ∧ l.stage = .gate

def AllowsStmt (l : Local) : Stmt → Prop
  | .selectUsrKey _ => l.sql.phase = .clean
  | .selectOrder _ => l.sql.phase = .off
  | .selectGoods => l.sql.phase = .off ∧ l.MaySell
  | .updateGoods count => ∃ n, l.sql.phase = .locked n ∧ 0 < n ∧ count = n - 1
  | .insertOrder name _ => (l.sql.phase = .doomed ∨ ∃ n, l.sql.phase = .updated n) ∧
      ∃ usrName, l.job.userName = some usrName ∧ name = cStr usrName

def AllowsMysql (l : Local) : MysqlCall → Prop
  | .getOneConnect => l.sql = ⟨none, .clean⟩ ∧ l.job.unit = false
  | .close m => l.sql = ⟨some m, .clean⟩
  | .autocommit m false => l.sql = ⟨some m, .clean⟩
  | .autocommit m true => l.sql = ⟨some m, .off⟩ ∨ ∃ n, l.sql = ⟨some m, .tried n⟩
  | .query m stmt => l.sql.con = some m ∧ l.AllowsStmt stmt
  | .fetchRows m => l.sql.con = some m ∧
      (l.sql.phase = .clean ∨ l.sql.phase = .off ∨ l.sql.phase = .selected)
  | .rollback m => l.sql = ⟨some m, .doomed⟩
  | .commit m => (∃ n, l.sql = ⟨some m, .inserted n⟩) ∧ l.MaySell ∧ l.AtWork ∧ l.job.paid = false

def AllowsCounter (l : Local) : CounterCall → Prop
  | .wrlock => l.lock = .free
  | .unlock => l.lock = .held ∨ ∃ first last, l.lock = .saw first last
  | .failedCount => l.lock = .held ∨ ∃ first last, l.lock = .saw first last
  | .setFailedCount n => n = 0 ∧ ∃ k, l.lock = .refilled k
  | .incFailedCount => l.lock = .held ∧ l.MaySell ∧ l.sql.phase = .off ∧
      l.job.why = some .failed
  | .successNum => l.stage = .gate ∨ ∃ n, l.stage = .saw n
  | .incSuccessNum => l.job.owes = true ∧ l.stage = .out

/-- What the thread may answer, and why. -/
def Answers (l : Local) (r : Str) : Prop :=
  r = one ∧ l.job.paid = true ∨
    r = zero ∧ l.job.paid = false ∧
      (l.fallback = true ∨ l.job.why.isSome ∨ l.job.tries = RETRYCOUNT) ∧
      (l.job.unit = true → l.job.why = some .refused)

def AllowsGrpc (l : Local) : GrpcCall → Prop
  | .alloc => l.job.newborn = none ∧ l.job.branch = some .process ∧ l.stage = .out
  | .status w => l.job.worker = some w ∧ l.job.branch = none
  | .setStatus w st => l.job.newborn = some w ∧ st = .process ∨
      l.job.newborn = none ∧ l.job.worker = some w ∧
        (l.job.branch = some .create ∧ st = .process ∨ l.job.branch = some .process ∧ st = .finish)
  | .requestseckill w => l.job.newborn = some w ∧ l.job.ready = true ∨
      l.job.newborn = none ∧ l.job.worker = some w ∧ l.job.branch = some .create
  | .usrname w => l.job.worker = some w ∧ l.job.branch = some .process ∧ l.job.userName = none
  | .usrkey w => l.job.worker = some w ∧ l.job.branch = some .process ∧ l.job.userKey = none
  | .result w => l.job.worker = some w ∧ l.job.branch = some .process
  | .delete w => l.job.worker = some w ∧ l.job.branch = some .finish
  | .setResult w r => l.job.worker = some w ∧ l.job.branch = some .process ∧ l.Answers r
  | .finish w r => l.job.worker = some w ∧ l.job.newborn = none ∧
      l.job.branch = some .process ∧ l.job.marked = true ∧ l.job.message = some r ∧
      l.job.owes = false ∧ l.stage = .out ∧ ∃ a, l.job.answer = some a ∧ l.Answers a
  | .next => l.job = {} ∧ l.stage = .pass

def AllowsCrash (l : Local) : Crash → Prop
  | .nullContext => l.noContext = true
  | .nullHandle => l.noHandle = true ∧ l.MaySell
  | .nullStr => True

def Allowed (l : Local) : Call → Prop
  | .redis .getOneConnect => l.redis = ⟨none, .free⟩
  | .redis (.close c) => l.redis = ⟨some c, .free⟩
  | .redis (.command c cmd) => l.redis.ctx = some c ∧ l.AllowsCmd cmd
  | .mysql c => l.AllowsMysql c
  | .counter c => l.AllowsCounter c
  | .grpc c => l.AllowsGrpc c
  | .crash why => l.AllowsCrash why

def begin : Entry → Local
  | .handleRPCS => { stage := .gate }
  | .fallback => { stage := .pass, fallback := true }

/-- What a turn of the loop leaves behind: nothing held, nothing open, and it did not stop
    between the gate and `cq_->Next`. -/
structure Settled (l : Local) : Prop where
  redis : l.redis = {}
  sql : l.sql = {}
  lock : l.lock = .free
  stage : l.stage ≠ .pass
  worker : l.job.worker = none
  newborn : l.job.newborn = none
  request : l.job.request = none
  unit : l.job.unit = false
  owes : l.job.owes = false

end Local

/-- The protocol of the handler threads, as a monitor of the server's programs. -/
abbrev watch : Watch server where
  Local := Local
  allowed := Local.Allowed
  note := Local.note
  idle := {}
  begin := Local.begin
  settled := Local.Settled

end Seckill
