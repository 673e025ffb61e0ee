import Seckill.Lib.Leases
import Seckill.Verified.Conformance

/-! # Rules for invariants of the server

What each kind of call leaves alone, of the thread's record and of the shared state, and
the invariant rule of the library with one case for each part of the server.
-/

namespace Seckill

open CStr CallTree Threads

/-! ## What a call leaves alone of the record -/

namespace Local

variable {l : Local} {f : Fate}

@[simp] theorem note_redis {c : RedisCall} {r : c.Reply} :
    (l.note (.redis c) f r).sql = l.sql ∧ (l.note (.redis c) f r).job.toTask = l.job.toTask ∧
      (l.note (.redis c) f r).job.paid = l.job.paid ∧
      (l.note (.redis c) f r).job.owes = l.job.owes ∧
      (l.note (.redis c) f r).fallback = l.fallback ∧
      (l.note (.redis c) f r).noHandle = l.noHandle := by
  cases c with
  | getOneConnect | close c => exact ⟨rfl, rfl, rfl, rfl, rfl, rfl⟩
  | command c cmd =>
    simp only [note]
    unfold noteCmd noteGet Job.noteHget
    (repeat' split) <;> exact ⟨rfl, rfl, rfl, rfl, rfl, rfl⟩

@[simp] theorem note_command {c : ConnId} {cmd : RedisCmd} {r : Option RedisReply} :
    (l.note (.redis (.command c cmd)) f r).redis.ctx = l.redis.ctx ∧
      (l.note (.redis (.command c cmd)) f r).noContext = l.noContext := by
  simp only [note]
  unfold noteCmd noteGet Job.noteHget
  (repeat' split) <;> exact ⟨rfl, rfl⟩

/-- In its lock section a thread's command can only be the refill. -/
theorem note_redis_lock {c : RedisCall} {r : c.Reply} :
    (l.note (.redis c) f r).lock = l.lock ∨
      ∃ first last, l.lock = .saw first last ∧ (l.note (.redis c) f r).lock = .refilled last := by
  cases c with
  | getOneConnect | close c => exact Or.inl rfl
  | command c cmd =>
    simp only [note]
    unfold noteCmd noteGet
    (repeat' split) <;> first | exact Or.inl rfl | skip
    next lock _ => exact Or.inr ⟨_, _, lock, rfl⟩

@[simp] theorem note_mysql {c : MysqlCall} {r : c.Reply} :
    (l.note (.mysql c) f r).redis = l.redis ∧ (l.note (.mysql c) f r).lock = l.lock ∧
      (l.note (.mysql c) f r).stage = l.stage ∧
      (l.note (.mysql c) f r).job.toTask = l.job.toTask ∧
      (l.note (.mysql c) f r).job.checked = l.job.checked ∧
      (l.note (.mysql c) f r).job.granted = l.job.granted ∧
      (l.note (.mysql c) f r).job.tries = l.job.tries ∧
      (l.note (.mysql c) f r).job.lost = l.job.lost ∧
      (l.note (.mysql c) f r).fallback = l.fallback ∧
      (l.note (.mysql c) f r).noContext = l.noContext := by
  cases c with
  | query m stmt =>
    simp only [note, noteMysql]
    unfold noteQuery
    (repeat' split) <;> exact ⟨rfl, rfl, rfl, rfl, rfl, rfl, rfl, rfl, rfl, rfl⟩
  | fetchRows m =>
    simp only [note, noteMysql]
    unfold noteRows
    (repeat' split) <;> exact ⟨rfl, rfl, rfl, rfl, rfl, rfl, rfl, rfl, rfl, rfl⟩
  | getOneConnect | close m | autocommit m mode | rollback m | commit m =>
    exact ⟨rfl, rfl, rfl, rfl, rfl, rfl, rfl, rfl, rfl, rfl⟩

theorem note_con {c : MysqlCall} {r : c.Reply} (get : c ≠ .getOneConnect)
    (close : ∀ m, c ≠ .close m) : (l.note (.mysql c) f r).sql.con = l.sql.con := by
  cases c with
  | getOneConnect => exact absurd rfl get
  | close m => exact absurd rfl (close m)
  | query m stmt =>
    simp only [note, noteMysql]
    unfold noteQuery
    (repeat' split) <;> rfl
  | fetchRows m =>
    simp only [note, noteMysql]
    unfold noteRows
    (repeat' split) <;> rfl
  | autocommit m mode | rollback m | commit m => rfl

theorem note_noHandle {c : MysqlCall} {r : c.Reply} (get : c ≠ .getOneConnect) :
    (l.note (.mysql c) f r).noHandle = l.noHandle := by
  cases c with
  | getOneConnect => exact absurd rfl get
  | query m stmt =>
    simp only [note, noteMysql]
    unfold noteQuery
    (repeat' split) <;> rfl
  | fetchRows m =>
    simp only [note, noteMysql]
    unfold noteRows
    (repeat' split) <;> rfl
  | close m | autocommit m mode | rollback m | commit m => rfl

@[simp] theorem note_counter {c : CounterCall} {r : c.Reply} :
    (l.note (.counter c) f r).redis = l.redis ∧ (l.note (.counter c) f r).sql = l.sql ∧
      (l.note (.counter c) f r).job.toTask = l.job.toTask ∧
      (l.note (.counter c) f r).job.checked = l.job.checked ∧
      (l.note (.counter c) f r).job.granted = l.job.granted ∧
      (l.note (.counter c) f r).job.tries = l.job.tries ∧
      (l.note (.counter c) f r).job.lost = l.job.lost ∧
      (l.note (.counter c) f r).job.why = l.job.why ∧
      (l.note (.counter c) f r).job.paid = l.job.paid ∧
      (l.note (.counter c) f r).fallback = l.fallback ∧
      (l.note (.counter c) f r).noContext = l.noContext ∧
      (l.note (.counter c) f r).noHandle = l.noHandle := by
  simp only [note]
  unfold noteCounter
  (repeat' split) <;> exact ⟨rfl, rfl, rfl, rfl, rfl, rfl, rfl, rfl, rfl, rfl, rfl, rfl⟩

@[simp] theorem note_grpc {c : GrpcCall} {r : c.Reply} :
    (l.note (.grpc c) f r).redis = l.redis ∧ (l.note (.grpc c) f r).sql = l.sql ∧
      (l.note (.grpc c) f r).lock = l.lock ∧ (l.note (.grpc c) f r).fallback = l.fallback ∧
      (l.note (.grpc c) f r).noContext = l.noContext ∧
      (l.note (.grpc c) f r).noHandle = l.noHandle := by
  simp only [note]
  unfold noteGrpc
  (repeat' split) <;> exact ⟨rfl, rfl, rfl, rfl, rfl, rfl⟩

/-- Only `EXEC` grants. -/
theorem noteCmd_granted {cmd : RedisCmd} {r : Option RedisReply} (other : cmd ≠ .exec) :
    (l.noteCmd cmd r).job.granted = l.job.granted := by
  unfold noteCmd noteGet Job.noteHget
  (repeat' split) <;> first | rfl | exact absurd rfl other

/-- Redis is no reason for MySQL to refuse. -/
theorem noteCmd_refused {cmd : RedisCmd} {r : Option RedisReply}
    (refused : (l.noteCmd cmd r).job.why = some .refused) : l.job.why = some .refused := by
  unfold noteCmd noteGet Job.noteHget at refused
  (repeat' split at refused) <;> first | exact refused | cases refused

/-- Only a granted `EXEC` gives a thread a unit. -/
theorem noteCmd_unit {cmd : RedisCmd} {r : Option RedisReply}
    (ungranted : cmd = .exec → granted r = false) : (l.noteCmd cmd r).job.unit = l.job.unit := by
  unfold noteCmd noteGet Job.noteHget
  (repeat' split) <;> first | rfl | simp_all

/-- Only `mysql_commit` pays. -/
theorem note_mysql_paid {c : MysqlCall} {r : c.Reply} (other : ∀ m, c ≠ .commit m) :
    (l.note (.mysql c) f r).job.paid = l.job.paid ∧
      (l.note (.mysql c) f r).job.unit = l.job.unit ∧
      (l.note (.mysql c) f r).job.owes = l.job.owes := by
  cases c with
  | commit m => exact absurd rfl (other m)
  | query m stmt =>
    simp only [note, noteMysql]
    unfold noteQuery
    (repeat' split) <;> exact ⟨rfl, rfl, rfl⟩
  | fetchRows m =>
    simp only [note, noteMysql]
    unfold noteRows
    (repeat' split) <;> exact ⟨rfl, rfl, rfl⟩
  | getOneConnect | close m | autocommit m mode | rollback m => exact ⟨rfl, rfl, rfl⟩

theorem note_mysql_unit {c : MysqlCall} {r : c.Reply}
    (unit : (l.note (.mysql c) f r).job.unit = true) : l.job.unit = true := by
  by_cases commit : ∃ m, c = .commit m
  · obtain ⟨m, rfl⟩ := commit
    exact (Bool.and_eq_true_iff.mp unit).1
  · rwa [(note_mysql_paid fun m eq => commit ⟨m, eq⟩).2.1] at unit

theorem note_counter_unit {c : CounterCall} {r : c.Reply}
    (unit : (l.note (.counter c) f r).job.unit = true) : l.job.unit = true := by
  simp only [note] at unit
  unfold noteCounter at unit
  (repeat' split at unit) <;> first | exact unit | cases unit

theorem note_counter_owes {c : CounterCall} {r : c.Reply} (other : c ≠ .incSuccessNum) :
    (l.note (.counter c) f r).job.owes = l.job.owes := by
  simp only [note]
  unfold noteCounter
  (repeat' split) <;> first | rfl | exact absurd rfl other

theorem noteGrpc_job {c : GrpcCall} {r : c.Reply} (next : c ≠ .next) :
    (l.note (.grpc c) f r).job.checked = l.job.checked ∧
      (l.note (.grpc c) f r).job.granted = l.job.granted ∧
      (l.note (.grpc c) f r).job.paid = l.job.paid ∧
      (l.note (.grpc c) f r).job.owes = l.job.owes := by
  cases c with
  | next => exact absurd rfl next
  | setStatus w st =>
    simp only [note, noteGrpc, Job.noteStatus]
    (repeat' split) <;> exact ⟨rfl, rfl, rfl, rfl⟩
  | requestseckill w =>
    simp only [note, noteGrpc, Job.noteRegistered]
    split <;> exact ⟨rfl, rfl, rfl, rfl⟩
  | alloc | status w | usrname w | usrkey w | setResult w result | result w | finish w result
  | delete w => exact ⟨rfl, rfl, rfl, rfl⟩

theorem note_grpc_unit {c : GrpcCall} {r : c.Reply}
    (unit : (l.note (.grpc c) f r).job.unit = true) : l.job.unit = true := by
  simp only [note] at unit
  unfold noteGrpc Job.noteStatus Job.noteRegistered at unit
  (repeat' split at unit) <;> first | exact unit | cases unit

end Local

/-! ## What a call does -/

namespace RedisState

variable {s s' : RedisState} {c : RedisCall} {f : Fate} {r : c.Reply}

/-- What each call does when it returns. -/
inductive Does (s : RedisState) : (c : RedisCall) → Fate → c.Reply → RedisState → Prop where
  | getOneConnect {f : Fate} {r : Option ConnId} {s' : RedisState}
      (got : s.getOneConnect f.isOk = (r, s')) : Does s .getOneConnect f r s'
  | close (c : ConnId) : Does s (.close c) .ok () (s.close c)
  | command {f : Fate} {r : Option RedisReply} {s' : RedisState} (c : ConnId) (cmd : RedisCmd)
      (sent : s.redisCommand c cmd f = some (r, s')) : Does s (.command c cmd) f r s'

theorem exec_does (done : s.exec c f = some (r, s')) : s.Does c f r s' := by
  cases c with
  | getOneConnect =>
    cases f <;> simp only [exec, Option.some.injEq, reduceCtorEq] at done
    all_goals exact .getOneConnect done
  | close c =>
    cases f <;> cases done
    exact .close c
  | command c cmd => exact .command c cmd done

end RedisState

theorem MysqlState.exec_getOneConnect {s s' : MysqlState} {f : Fate} {r : Option SessId}
    (done : s.exec .getOneConnect f = some (r, s')) :
    ∃ alive connects, s.getOneConnect alive connects = (r, s') := by
  cases f <;> simp only [exec, Option.some.injEq, reduceCtorEq] at done
  all_goals exact ⟨_, _, done⟩

namespace Counters

variable {s s' : Counters} {t : Nat} {c : CounterCall} {f : Fate} {r : c.Reply}

/-- What each call of thread `t` does when it returns. -/
inductive Does (s : Counters) (t : Nat) : (c : CounterCall) → Fate → c.Reply → Counters → Prop where
  | wrlock (nobody : s.rwlock = none) : Does s t .wrlock .ok () { s with rwlock := some t }
  | unlock : Does s t .unlock .ok () { s with rwlock := none }
  | failedCount : Does s t .failedCount .ok s.failedCount s
  | setFailedCount (n : Int) : Does s t (.setFailedCount n) .ok () { s with failedCount := n }
  | incFailedCount :
    Does s t .incFailedCount .ok () { s with failedCount := s.failedCount + 1 }
  | successNum : Does s t .successNum .ok s.successNum s
  | incSuccessNum : Does s t .incSuccessNum .ok () { s with successNum := s.successNum + 1 }

theorem exec_does (done : s.exec t c f = some (r, s')) : s.Does t c f r s' := by
  cases c with
  | wrlock =>
    cases f <;> simp only [exec, reduceCtorEq] at done
    split at done
    next nobody =>
      cases done
      exact .wrlock nobody
    · cases done
  | unlock | failedCount | setFailedCount n | incFailedCount | successNum | incSuccessNum =>
    cases f <;> cases done
    constructor

theorem exec_successNum (other : c ≠ .incSuccessNum) (done : s.exec t c f = some (r, s')) :
    s'.successNum = s.successNum := by
  cases exec_does done with
  | incSuccessNum => exact absurd rfl other
  | wrlock nobody | unlock | failedCount | setFailedCount n | incFailedCount | successNum => rfl

end Counters

namespace GrpcState

variable {s s' : GrpcState} {c : GrpcCall} {f : Fate} {r : c.Reply}

/-- What each call does when it returns. -/
inductive Does (s : GrpcState) : (c : GrpcCall) → Fate → c.Reply → GrpcState → Prop where
  | alloc : Does s .alloc .ok s.fresh { s.setWorker s.fresh (some {}) with fresh := s.fresh + 1 }
  | status (w : WorkerId) {x : WorkerObj} (found : s.worker w = some x) : Does s (.status w) .ok x.status s
  | setStatus (w : WorkerId) (st : WorkerStatus) {x : WorkerObj} (found : s.worker w = some x) :
    Does s (.setStatus w st) .ok () (s.setWorker w (some { x with status := st }))
  | requestseckill (w : WorkerId) {x : WorkerObj} (found : s.worker w = some x) :
    Does s (.requestseckill w) .ok () { s with registered := s.registered ++ [w] }
  | usrname (w : WorkerId) {x : WorkerObj} (found : s.worker w = some x) : Does s (.usrname w) .ok x.usrname s
  | usrkey (w : WorkerId) {x : WorkerObj} (found : s.worker w = some x) : Does s (.usrkey w) .ok x.usrkey s
  | setResult (w : WorkerId) (result : Str) {x : WorkerObj} (found : s.worker w = some x) :
    Does s (.setResult w result) .ok () (s.setWorker w (some { x with result := result }))
  | result (w : WorkerId) {x : WorkerObj} (found : s.worker w = some x) : Does s (.result w) .ok x.result s
  | finish (w : WorkerId) (result : Str) {x : WorkerObj} (found : s.worker w = some x) :
    Does s (.finish w result) .ok () { s with finishing := s.finishing ++ [w] }
  | delete (w : WorkerId) {x : WorkerObj} (found : s.worker w = some x) :
    Does s (.delete w) .ok () (s.setWorker w none)
  | deliver (w : WorkerId) (usrname usrkey : Str) (registered : w ∈ s.registered)
      {x : WorkerObj} (found : s.worker w = some x) :
    Does s .next (.deliver w usrname usrkey) w
      { s.setWorker w (some { x with usrname := usrname, usrkey := usrkey }) with
        registered := s.registered.erase w }
  | finished (w : WorkerId) (finishing : w ∈ s.finishing) :
    Does s .next (.finished w) w { s with finishing := s.finishing.erase w }

theorem exec_does (done : s.exec c f = some (r, s')) : s.Does c f r s' := by
  cases c with
  | alloc =>
    cases f <;> cases done
    exact .alloc
  | next =>
    cases f with
    | deliver w usrname usrkey =>
      simp only [exec] at done
      split at done
      next registered =>
        obtain ⟨x, found, same⟩ := Option.map_eq_some_iff.mp done
        cases same
        exact .deliver _ usrname usrkey registered found
      · cases done
    | finished w =>
      simp only [exec] at done
      split at done
      next finishing =>
        cases done
        exact .finished _ finishing
      · cases done
    | ok | lostBefore | lostAfter | fail | failRollback | connect _ _ => cases done
  | status w | setStatus w st | requestseckill w | usrname w | usrkey w | setResult w result
  | result w | finish w result | delete w =>
    cases f <;> simp only [exec, reduceCtorEq] at done
    obtain ⟨x, found, same⟩ := Option.map_eq_some_iff.mp done
    cases same
    constructor
    exact found

end GrpcState

/-! ## The invariant rule -/

variable {ok : Condition server} {s₀ : Server} {h : History server} {cfg : Config server}

/-- `Run.invariant`, by the part of the state a call acts on. -/
theorem server_invariant (Inv : History server → Server → (Nat → Local) → Prop)
    (initial : Inv [] s₀ fun _ => {})
    (redis : ∀ {h cfg t c f r x}, Run ok s₀ h cfg → Inv h cfg.state (locals watch h) →
      ok h cfg.state (.call t (.redis c) f r) → (locals watch h t).Allowed (.redis c) →
      cfg.state.redis.exec c f = some (r, x) →
      Inv (.call t (.redis c) f r :: h) { cfg.state with redis := x }
        (Function.update (locals watch h) t ((locals watch h t).note (.redis c) f r)))
    (mysql : ∀ {h cfg t c f r x}, Run ok s₀ h cfg → Inv h cfg.state (locals watch h) →
      ok h cfg.state (.call t (.mysql c) f r) → (locals watch h t).Allowed (.mysql c) →
      cfg.state.mysql.exec c f = some (r, x) →
      Inv (.call t (.mysql c) f r :: h) { cfg.state with mysql := x }
        (Function.update (locals watch h) t ((locals watch h t).note (.mysql c) f r)))
    (counter : ∀ {h cfg t c f r x}, Run ok s₀ h cfg → Inv h cfg.state (locals watch h) →
      ok h cfg.state (.call t (.counter c) f r) → (locals watch h t).Allowed (.counter c) →
      cfg.state.counters.exec t c f = some (r, x) →
      Inv (.call t (.counter c) f r :: h) { cfg.state with counters := x }
        (Function.update (locals watch h) t ((locals watch h t).note (.counter c) f r)))
    (grpc : ∀ {h cfg t c f r x}, Run ok s₀ h cfg → Inv h cfg.state (locals watch h) →
      ok h cfg.state (.call t (.grpc c) f r) → (locals watch h t).Allowed (.grpc c) →
      cfg.state.grpc.exec c f = some (r, x) →
      Inv (.call t (.grpc c) f r :: h) { cfg.state with grpc := x }
        (Function.update (locals watch h) t ((locals watch h t).note (.grpc c) f r)))
    (start : ∀ {h cfg t e}, Run ok s₀ h cfg → Inv h cfg.state (locals watch h) →
      ok h cfg.state (.start t e) → (locals watch h t).Settled →
      Inv (.start t e :: h) cfg.state (Function.update (locals watch h) t (.begin e)))
    (run : Run ok s₀ h cfg) : Inv h cfg.state (locals watch h) := by
  refine Run.invariant conforms initial ?_ start run
  intro h cfg t c f r s run inv met allowed exec
  cases c with
  | crash why => exact r.elim
  | redis c =>
    obtain ⟨⟨r', x⟩, own, same⟩ := Option.map_eq_some_iff.mp exec
    cases same
    exact redis run inv met allowed own
  | mysql c =>
    obtain ⟨⟨r', x⟩, own, same⟩ := Option.map_eq_some_iff.mp exec
    cases same
    exact mysql run inv met allowed own
  | counter c =>
    obtain ⟨⟨r', x⟩, own, same⟩ := Option.map_eq_some_iff.mp exec
    cases same
    exact counter run inv met allowed own
  | grpc c =>
    obtain ⟨⟨r', x⟩, own, same⟩ := Option.map_eq_some_iff.mp exec
    cases same
    exact grpc run inv met allowed own

end Seckill
