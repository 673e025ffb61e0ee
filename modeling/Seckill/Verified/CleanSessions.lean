import Seckill.Verified.Holding
import Seckill.Verified.Parts
import Seckill.Verified.Sale
import Seckill.Verified.Scenario

/-! # MySQL connections are given back clean

Three facts make a connection clean where it changes hands.  A session in autocommit mode
has nothing open: that is MySQL's own.  A session out of that mode is in the hands of a
thread between `mysql_autocommit(OFF)` and `(ON)`, and one with a result to be read is in
the hands of a thread between its `SELECT` and its `mysql_free_result`: those two are facts
of the server's programs.
-/

namespace Seckill

open CStr CallTree Threads

/-! ## What MySQL keeps -/

/-- The session a call is made on. -/
def MysqlCall.session : MysqlCall → Option SessId
  | .getOneConnect => none
  | .close m | .autocommit m _ | .query m _ | .fetchRows m | .rollback m | .commit m => some m

/-- A statement that has a result set. -/
def Stmt.reads : Stmt → Bool
  | .selectUsrKey _ | .selectOrder _ | .selectGoods => true
  | .updateGoods _ | .insertOrder _ _ => false

namespace MysqlState

/-- Session `m` has no transaction open: no write, no row and no lock. -/
structure Ended (s : MysqlState) (m : SessId) : Prop where
  closed : (s.session m).inTrx = false
  unwritten : (s.session m).written = none
  unlocked : s.lock ≠ some m
  rowless : ∀ x ∈ s.inserts, x.1 ≠ m

variable {s x : MysqlState} {m m' : SessId}

theorem endTrx_ended : (s.endTrx m).Ended m := by
  refine ⟨by simp [endTrx, setSession], by simp [endTrx, setSession], ?_, ?_⟩
  · simp only [endTrx]
    split
    · simp
    next other => exact other
  · simp [endTrx, setSession]

theorem commitTrx_ended : (s.commitTrx m).Ended m := by
  obtain ⟨closed, unwritten, unlocked, rowless⟩ := endTrx_ended (s := s) (m := m)
  exact ⟨closed, unwritten, unlocked, rowless⟩

/-- A call on session `m` leaves the sessions of others alone. -/
structure Spares (s x : MysqlState) (m : SessId) : Prop where
  beside : Beside s x m
  session : ∀ m', m' ≠ m → x.session m' = s.session m'

theorem Spares.refl : Spares s s m := ⟨.refl, fun _ _ => rfl⟩

theorem Spares.ended (spares : Spares s x m) (other : m' ≠ m) (ended : s.Ended m') :
    x.Ended m' := by
  have same := spares.session m' other
  refine ⟨by rw [same]; exact ended.closed, by rw [same]; exact ended.unwritten, ?_, ?_⟩
  · intro held
    obtain own | before := spares.beside.lock m' held
    · exact other own
    · exact ended.unlocked before
  · rintro ⟨owner, row⟩ member rfl
    have left : (owner, row) ∈ x.inserts.filter fun y => y.1 != m := by simp [member, other]
    rw [spares.beside.inserts] at left
    exact ended.rowless _ (List.mem_filter.mp left).1 rfl

theorem endTrx_spares : Spares s (s.endTrx m) m :=
  ⟨endTrx_beside, fun _ other => Function.update_of_ne other _ _⟩

theorem commitTrx_spares : Spares s (s.commitTrx m) m :=
  ⟨commitTrx_beside, fun _ other => Function.update_of_ne other _ _⟩

/-- What a call on a session leaves: other sessions as they were, its own in mode `auto`, and
    in autocommit mode with nothing open. -/
structure Own (s x : MysqlState) (m : SessId) (auto : Bool) : Prop where
  spares : Spares s x m
  mode : (x.session m).autocommit = auto
  ended : auto = true → x.Ended m

theorem stmtDone_own (spares : Spares s x m)
    (mode : (x.session m).autocommit = (s.session m).autocommit) :
    Own s (x.stmtDone m) m (s.session m).autocommit := by
  have sessions (m' : SessId) (other : m' ≠ m) : (x.stmtDone m).session m' = x.session m' := by
    unfold stmtDone
    split <;> exact Function.update_of_ne other _ _
  refine ⟨⟨spares.beside.trans stmtDone_beside, fun m' other => ?_⟩, ?_, fun on => ?_⟩
  · rw [sessions m' other]
    exact spares.session m' other
  · rw [← mode]
    unfold stmtDone
    split <;> simp [commitTrx, endTrx, setSession]
  · unfold stmtDone
    rw [if_pos (mode.trans on)]
    exact commitTrx_ended

theorem runStmt_own {stmt : Stmt} (ended : (s.session m).autocommit = true → s.Ended m) :
    Own s (s.runStmt m stmt).2 m (s.session m).autocommit := by
  cases stmt with
  | selectUsrKey name | selectOrder name =>
    apply stmtDone_own
    · exact ⟨⟨rfl, fun _ => Or.inr, rfl⟩, fun m' other => Function.update_of_ne other _ _⟩
    · simp [setResult, setSession]
  | selectGoods =>
    apply stmtDone_own
    · refine ⟨⟨rfl, fun m' held => Or.inl ?_, rfl⟩, fun m' other => Function.update_of_ne other _ _⟩
      exact (Option.some.inj held).symm
    · simp [setResult, setSession, takeLock]
  | updateGoods count =>
    simp only [runStmt]
    split
    · exact ⟨.refl, rfl, ended⟩
    · apply stmtDone_own
      · refine ⟨⟨rfl, fun m' held => Or.inl ?_, rfl⟩, fun m' other => Function.update_of_ne other _ _⟩
        exact (Option.some.inj held).symm
      · simp [write, setSession, takeLock]
  | insertOrder name key =>
    simp only [runStmt]
    split
    · exact ⟨.refl, rfl, ended⟩
    · apply stmtDone_own
      · exact ⟨⟨rfl, fun _ => Or.inr, by simp [addInsert]⟩, fun _ _ => rfl⟩
      · rfl

theorem rollbackTrx_own : Own s (s.rollbackTrx m) m (s.session m).autocommit :=
  ⟨endTrx_spares, by simp [rollbackTrx, endTrx, setSession], fun _ => endTrx_ended⟩

theorem commitTrx_own : Own s (s.commitTrx m) m (s.session m).autocommit :=
  ⟨commitTrx_spares, by simp [commitTrx, endTrx, setSession], fun _ => commitTrx_ended⟩

/-- The mode a call that works leaves its session in. -/
def modeAfter (s : MysqlState) (m : SessId) : MysqlCall → Bool
  | .autocommit _ mode => mode
  | _ => (s.session m).autocommit

theorem exec_own {c : MysqlCall} {f : Fate} {r : c.Reply}
    (ended : (s.session m).autocommit = true → s.Ended m) (on : c.session = some m)
    (works : ∀ m' mode, c = .autocommit m' mode → f = .ok) (done : s.exec c f = some (r, x)) :
    Own s x m (s.modeAfter m c) := by
  have same : Own s s m (s.session m).autocommit := ⟨.refl, rfl, ended⟩
  cases c with
  | getOneConnect => cases on
  | close m' =>
    cases f <;> cases done
    exact ⟨⟨⟨rfl, fun _ => Or.inr, rfl⟩, fun _ _ => rfl⟩, rfl, fun auto =>
      have ⟨closed, unwritten, unlocked, rowless⟩ := ended auto
      ⟨closed, unwritten, unlocked, rowless⟩⟩
  | autocommit m' mode =>
    obtain rfl := works m' mode rfl
    cases on
    cases done
    cases mode with
    | false =>
      refine ⟨⟨⟨rfl, fun _ => Or.inr, rfl⟩, fun m' other => Function.update_of_ne other _ _⟩, ?_, nofun⟩
      simp [modeAfter, setSession]
    | true =>
      -- `mysql_autocommit(ON)` commits what is open
      obtain ⟨beside, session⟩ := commitTrx_spares (s := s) (m := m)
      obtain ⟨closed, unwritten, unlocked, rowless⟩ := commitTrx_ended (s := s) (m := m)
      refine ⟨⟨⟨beside.weight, beside.lock, beside.inserts⟩, fun m' other => ?_⟩, ?_, fun _ => ?_⟩
      · exact (Function.update_of_ne other _ _).trans (session m' other)
      · simp [modeAfter, setSession]
      · refine ⟨?_, ?_, unlocked, rowless⟩
        · simpa [setSession] using closed
        · simpa [setSession] using unwritten
  | query m' stmt =>
    cases on
    cases f <;> simp only [exec, query, reduceCtorEq] at done
    case ok =>
      split at done
      · cases done
      · have after : (s.runStmt m stmt).2 = x := congrArg Prod.snd (Option.some.inj done)
        rw [← after]
        exact runStmt_own ended
    case fail =>
      cases done
      exact same
    case failRollback =>
      cases done
      exact rollbackTrx_own
  | fetchRows m' =>
    cases on
    have result : Own s (s.setResult m []) m (s.session m).autocommit := by
      refine ⟨⟨⟨rfl, fun _ => Or.inr, rfl⟩, fun m' other => Function.update_of_ne other _ _⟩,
        by simp [setResult, setSession], fun auto => ?_⟩
      obtain ⟨closed, unwritten, unlocked, rowless⟩ := ended auto
      exact ⟨by simpa [setResult, setSession], by simpa [setResult, setSession], unlocked, rowless⟩
    cases f <;> cases done <;> exact result
  | rollback m' =>
    cases on
    cases f <;> cases done
    · exact rollbackTrx_own
    · exact same
  | commit m' =>
    cases on
    cases f <;> cases done
    · exact commitTrx_own
    · exact same
    · exact rollbackTrx_own

/-! ### `getOneConnect` -/

/-- To close a connection ends what it has open, and touches nothing else of any session. -/
structure Calms (s x : MysqlState) : Prop where
  mode : ∀ m, (x.session m).autocommit = (s.session m).autocommit
  result : ∀ m, (x.session m).result = (s.session m).result
  ended : ∀ m, s.Ended m → x.Ended m

theorem rollbackTrx_calms : Calms s (s.rollbackTrx m) where
  mode m' := by
    by_cases own : m' = m
    · subst own
      simp [rollbackTrx, endTrx, setSession]
    · simp [rollbackTrx, endTrx, setSession, own]
  result m' := by
    by_cases own : m' = m
    · subst own
      simp [rollbackTrx, endTrx, setSession]
    · simp [rollbackTrx, endTrx, setSession, own]
  ended m' ended := by
    by_cases own : m' = m
    · subst own
      exact endTrx_ended
    · exact endTrx_spares.ended own ended

theorem evict_calms (alive : SessId → Bool) (pool : List SessId) (s : MysqlState) :
    Calms s (evict alive pool s) := by
  induction pool generalizing s with
  | nil => exact ⟨fun _ => rfl, fun _ => rfl, fun _ ⟨c, w, l, r⟩ => ⟨c, w, l, r⟩⟩
  | cons dead rest ih =>
    unfold evict
    split
    · exact ⟨fun _ => rfl, fun _ => rfl, fun _ ⟨c, w, l, r⟩ => ⟨c, w, l, r⟩⟩
    · obtain ⟨mode, result, ended⟩ := rollbackTrx_calms (s := s) (m := dead)
      have later := ih { s.rollbackTrx dead with connectCount := s.connectCount - 1 }
      refine ⟨fun m => (later.mode m).trans (mode m), fun m => (later.result m).trans (result m),
        fun m before => later.ended m ?_⟩
      obtain ⟨c, w, l, r⟩ := ended m before
      exact ⟨c, w, l, r⟩

/-- A connection is handed out as it was, or new. -/
theorem getOneConnect_calms {alive : SessId → Bool} {connects : Bool} {r : Option SessId}
    (new : (s.session s.fresh).autocommit = true)
    (ended : ∀ m, (s.session m).autocommit = true → s.Ended m)
    (got : s.getOneConnect alive connects = (r, x)) :
    (∀ m, (x.session m).autocommit = false → (s.session m).autocommit = false) ∧
      (∀ m, (x.session m).result ≠ [] → (s.session m).result ≠ []) ∧
      ∀ m, (x.session m).autocommit = true → x.Ended m := by
  obtain ⟨s', evicted, cases⟩ := s.getOneConnect_cases alive connects
  have calms := evict_calms alive s.mysqlpool s
  have fresh := (s.evict_pool alive s.mysqlpool).2
  rw [← evicted] at calms fresh
  have still (m : SessId) (auto : (s'.session m).autocommit = true) : s'.Ended m := by
    apply calms.ended
    apply ended
    rwa [calms.mode] at auto
  obtain ⟨m, rest, _, taken⟩ | ⟨_, made⟩ | none := cases
  · rw [taken] at got
    cases got
    refine ⟨fun m off => ?_, fun m unread => ?_, fun m auto => ?_⟩
    · rwa [← calms.mode]
    · rwa [← calms.result]
    · obtain ⟨c, w, l, r⟩ := still m auto
      exact ⟨c, w, l, r⟩
  · rw [made] at got
    cases got
    -- nobody had the new session, so it had nothing open before either
    have before := still s'.fresh (by rwa [calms.mode, fresh])
    refine ⟨fun m off => ?_, fun m unread => ?_, fun m auto => ?_⟩ <;>
      by_cases own : m = s'.fresh
    · subst own
      simp [setSession] at off
    · simp only [setSession, Function.update_of_ne own] at off
      rwa [← calms.mode]
    · subst own
      simp [setSession] at unread
    · simp only [setSession, Function.update_of_ne own] at unread
      rwa [← calms.result]
    · subst own
      exact ⟨by simp [setSession], by simp [setSession], before.unlocked, before.rowless⟩
    · simp only [setSession, Function.update_of_ne own] at auto
      obtain ⟨c, w, l, r⟩ := still m auto
      exact ⟨by simpa [setSession, own], by simpa [setSession, own], l, r⟩
  · rw [none] at got
    cases got
    refine ⟨fun m off => ?_, fun m unread => ?_, still⟩
    · rwa [← calms.mode]
    · rwa [← calms.result]

end MysqlState

/-! ## Every result is read -/

/-- Whether a result set is to be read after a call, given whether one was before. -/
def MysqlCall.unreadAfter (unread : Bool) : (c : MysqlCall) → c.Reply → Bool
  | .query _ stmt, error => unread || stmt.reads && !error
  | .fetchRows _, _ => false
  | _, _ => unread

/-- `mysql_use_result` is called where there is a result set, and nothing else is. -/
abbrev reading : Watch server where
  Local := Bool
  allowed unread
    | .mysql (.fetchRows _) => unread = true
    | .mysql _ => unread = false
    | _ => True
  note unread
    | .mysql c, _, r => c.unreadAfter unread r
    | _, _, _ => unread
  idle := false
  begin _ := false
  settled unread := unread = false

/-- The program reads every result it gets. -/
abbrev Reads {α : Type} (p : Code α) : Prop :=
  p.Keeps reading.toMonitor false fun _ unread => unread = false

variable {this : WorkerId} {usrName usrKey : Str} {redisconn : Option ConnId}
  {connection : Option SessId} {α β : Type}

theorem Reads.bind {p : Code α} {f : α → Code β} (first : Reads p) (rest : ∀ a, Reads (f a)) :
    Reads (p >>= f) :=
  Prog.Keeps.bind first fun a unread read => by
    subst read
    exact rest a

/-- A program that makes no call to MySQL reads what it gets, having got nothing. -/
theorem reads_of_noMysql {p : Code α} (only : p.Only Call.NoMysql) : Reads p := by
  apply only.keeps
  · intro c noMysql
    cases c with
    | mysql c => exact absurd noMysql id
    | redis c | counter c | grpc c | crash why => exact ⟨trivial, fun _ _ => rfl⟩
  · exact fun _ => rfl

theorem reads_of_quiet {p : Code α} (only : p.Only Call.Quiet) : Reads p :=
  reads_of_noMysql (only.mono Call.Quiet.noMysql)

theorem onHandle_reads {call : SessId → Code α} (reads : ∀ m, Reads (call m)) :
    Reads (onHandle connection call) := by
  cases connection with
  | none => exact ⟨trivial, nofun⟩
  | some m => exact reads m

theorem mysqlAutocommit_reads {mode : Bool} : Reads (mysqlAutocommit connection mode) :=
  onHandle_reads fun _ => ⟨rfl, fun _ _ => rfl⟩

theorem mysqlRollback_reads : Reads (mysqlRollback connection) :=
  onHandle_reads fun _ => ⟨rfl, fun _ _ => rfl⟩

theorem mysqlCommit_reads : Reads (mysqlCommit connection) :=
  onHandle_reads fun _ => ⟨rfl, fun _ _ => rfl⟩

theorem mysqlClose_reads : Reads (mysqlClose connection) := by
  cases connection with
  | none => exact rfl
  | some m => exact ⟨rfl, fun _ _ => rfl⟩

/-- A statement without a result set. -/
theorem mysqlWrite_reads {stmt : Stmt} (writes : stmt.reads = false) :
    Reads (mysqlQuery connection stmt) :=
  onHandle_reads fun _ => ⟨rfl, fun _ _ => by simp [MysqlCall.unreadAfter, writes]⟩

/-- A `SELECT` and the loop over its rows. -/
theorem select_reads (stmt : Stmt) (connection : Option SessId) (failed : Bool → Code β)
    (fetched : Bool → List (List Str) → Code β) (selects : stmt.reads = true)
    (fails : Reads (failed true)) (fetches : ∀ rows, Reads (fetched false rows)) :
    Reads (do
      let error ← mysqlQuery connection stmt
      if error then failed error
      else
        let rows ← mysqlFetchRows connection
        fetched error rows) := by
  cases connection with
  | none => exact ⟨trivial, nofun⟩
  | some m =>
    refine ⟨rfl, fun f error => ?_⟩
    cases error with
    | true =>
      show Prog.Keeps reading.toMonitor (failed true) (false || stmt.reads && !true) _
      rw [Bool.not_true, Bool.and_false, Bool.or_false]
      exact fails
    | false =>
      refine ⟨?_, fun _ rows => fetches rows⟩
      simp [MysqlCall.unreadAfter, selects]

theorem checkUserInfoMysql_reads : Reads (checkUserInfoMysql usrName usrKey connection) :=
  select_reads _ _ _ _ rfl rfl fun _ => rfl

theorem checkUserHasGotMysql_reads : Reads (checkUserHasGotMysql usrName connection) := by
  have after (hasgot : Bool) :
      Reads (do let _ ← mysqlAutocommit connection true; pure hasgot : Code Bool) :=
    mysqlAutocommit_reads.bind fun _ => rfl
  apply mysqlAutocommit_reads.bind
  exact fun _ => select_reads _ _ _ _ rfl (after false) fun _ => after _

theorem seckillGoodsMysql_reads : Reads (seckillGoodsMysql this usrName usrKey connection) := by
  have finish : Reads (do let _ ← mysqlAutocommit connection true; pure () : Code Unit) :=
    mysqlAutocommit_reads.bind fun _ => rfl
  have fail : Reads (failSale this connection) := by
    apply mysqlRollback_reads.bind
    exact fun _ => ⟨trivial, fun _ _ => ⟨trivial, fun _ _ => ⟨trivial, fun _ _ =>
      ⟨trivial, fun _ _ => finish⟩⟩⟩⟩
  have book : Reads (bookSale this connection) := by
    apply mysqlCommit_reads.bind
    exact fun _ => ⟨trivial, fun _ _ => ⟨trivial, fun _ _ => finish⟩⟩
  have sale (selError : Bool) (totalCount : Int) : Reads (if totalCount > 0 then
      sellGoods this usrName usrKey connection selError totalCount
      else refuseSale this connection) := by
    split
    · apply (mysqlWrite_reads rfl).bind
      intro updateError
      apply (mysqlWrite_reads rfl).bind
      intro insertError
      split
      · exact fail
      · exact book
    · exact ⟨trivial, fun _ _ => finish⟩
  rw [seckillGoodsMysql_eq]
  apply mysqlAutocommit_reads.bind
  intro _
  exact select_reads _ _ _ _ rfl (sale true 0) fun rows => sale false (lastCount rows)

theorem seckillGoodsFrom_reads {fuel repeatCount : Nat} :
    Reads (seckillGoodsFrom this usrName usrKey redisconn connection fuel repeatCount) := by
  induction fuel generalizing repeatCount with
  | zero => exact rfl
  | succ fuel ih =>
    have retry : Reads (if repeatCount + 1 < RETRYCOUNT then
        seckillGoodsFrom this usrName usrKey redisconn connection fuel (repeatCount + 1)
        else setResult this zero) := by
      split
      · exact ih
      · exact ⟨trivial, fun _ _ => rfl⟩
    apply (reads_of_quiet watchCount_quiet).bind
    intro count
    cases count with
    | none => exact ⟨trivial, fun _ _ => rfl⟩
    | some currGoodsCount =>
      show Reads (if currGoodsCount > 0 then _ else _)
      split
      · apply (reads_of_noMysql reserve_noMysql).bind
        intro reserved
        cases reserved with
        | true => exact seckillGoodsMysql_reads
        | false => exact (reads_of_noMysql redisCommand_noMysql).bind fun _ => retry
      · apply (reads_of_quiet refill_quiet).bind
        exact fun _ => ⟨trivial, fun _ _ => rfl⟩

theorem serveRequest_reads : Reads (serveRequest this usrName usrKey redisconn connection) := by
  have answer (result : Str) : Reads (setResult this result) := ⟨trivial, fun _ _ => rfl⟩
  have check : Reads (checkUserInfo usrName usrKey redisconn connection) := by
    cases redisconn with
    | none => exact checkUserInfoMysql_reads
    | some c => exact reads_of_quiet checkUserInfo_quiet
  have got : Reads (checkUserHasGot usrName redisconn connection) := by
    cases redisconn with
    | none => exact checkUserHasGotMysql_reads
    | some c => exact reads_of_quiet checkUserHasGot_quiet
  apply check.bind
  intro registered
  cases registered with
  | false => exact answer zero
  | true =>
    apply got.bind
    intro hasgot
    cases hasgot with
    | true => exact answer zero
    | false =>
      cases redisconn with
      | none => exact seckillGoodsMysql_reads
      | some c => exact seckillGoodsFrom_reads

theorem process_reads : Reads (process this redisconn connection) := by
  apply (reads_of_quiet newWorker_quiet).bind
  intro _
  refine ⟨trivial, fun _ usrName => ⟨trivial, fun _ usrKey => ?_⟩⟩
  apply serveRequest_reads.bind
  intro _
  apply (reads_of_quiet redisClose_quiet).bind
  intro _
  apply mysqlClose_reads.bind
  exact fun _ => ⟨trivial, fun _ _ => ⟨trivial, fun _ _ => rfl⟩⟩

theorem proceedAs_reads {status : WorkerStatus} : Reads (proceedAs this status) := by
  cases status with
  | create => exact ⟨trivial, fun _ _ => ⟨trivial, fun _ _ => rfl⟩⟩
  | process =>
    refine ⟨trivial, fun _ redisconn => ⟨rfl, fun _ connection => ⟨trivial, fun _ _ => ?_⟩⟩⟩
    apply (reads_of_noMysql redisCommand_noMysql).bind
    exact fun _ => process_reads
  | finish =>
    refine ⟨trivial, fun _ redisconn => ?_⟩
    apply (reads_of_noMysql redisCommand_noMysql).bind
    intro _
    apply (reads_of_quiet redisClose_quiet).bind
    exact fun _ => ⟨trivial, fun _ _ => rfl⟩

/-- Every program of the server reads every result it gets. -/
theorem reading_conforms : reading.Conforms := by
  refine ⟨rfl, fun e => ?_⟩
  cases e with
  | handleRPCS =>
    apply (reads_of_quiet admission_quiet).bind
    intro passed
    cases passed with
    | false => exact rfl
    | true => exact ⟨trivial, fun _ _ => ⟨trivial, fun _ _ => proceedAs_reads⟩⟩
  | fallback =>
    refine ⟨trivial, fun _ tag => ⟨trivial, fun _ status => ?_⟩⟩
    cases status with
    | create => exact (proceedAs_reads : Reads (proceedAs tag .create))
    | finish => exact (proceedAs_reads : Reads (proceedAs tag .finish))
    | process =>
      exact ⟨rfl, fun _ connection => ⟨trivial, fun _ _ => process_reads⟩⟩

/-! ## Runs -/

/-- Session `m` has a result set that was not read. -/
def unread (m : SessId) : History server → Bool
  | [] => false
  | .call _ (.mysql c) _ r :: h =>
    if c.session = some m then c.unreadAfter (unread m h) r else unread m h
  | _ :: h => unread m h

/-- Session `m` is as a new connection is. -/
structure Clean (h : History server) (s : MysqlState) (m : SessId) : Prop extends s.Ended m where
  autocommit : (s.session m).autocommit = true
  fetched : (s.session m).result = []
  read : unread m h = false

/-- What keeps connections clean. -/
structure Sessions (h : History server) (s : MysqlState) (ls : Nat → Local) : Prop where
  auto : ∀ m, (s.session m).autocommit = true → s.Ended m
  off : ∀ m, (s.session m).autocommit = false →
    ∃ t, (ls t).sql.con = some m ∧ (ls t).sql.phase ≠ .clean
  result : ∀ m, (s.session m).result ≠ [] ∨ unread m h = true →
    ∃ t, (ls t).sql.con = some m ∧ locals reading h t = true

section Calls

variable {c : MysqlCall} {f : Fate} {r : c.Reply} {l : Local} {m : SessId} {s x : MysqlState}

/-- A result set is read only where `mysql_use_result` is called. -/
theorem unreadAfter_mono {u v : Bool} (less : u = true → v = true)
    (unread : c.unreadAfter u r = true) : c.unreadAfter v r = true := by
  cases c with
  | query m stmt =>
    simp only [MysqlCall.unreadAfter, Bool.or_eq_true] at unread ⊢
    exact unread.imp_left less
  | fetchRows m => cases unread
  | getOneConnect | close m | autocommit m mode | rollback m | commit m => exact less unread

/-- A thread only uses the connection it has. -/
theorem allowed_con (on : c.session = some m) (allowed : l.AllowsMysql c) : l.sql.con = some m := by
  cases c with
  | getOneConnect => cases on
  | close m' =>
    cases on
    exact congrArg MysqlLocal.con allowed
  | autocommit m' mode =>
    cases on
    cases mode with
    | false => exact congrArg MysqlLocal.con allowed
    | true =>
      obtain off | ⟨n, tried⟩ := allowed
      · exact congrArg MysqlLocal.con off
      · exact congrArg MysqlLocal.con tried
  | query m' stmt | fetchRows m' =>
    cases on
    exact allowed.1
  | rollback m' =>
    cases on
    exact congrArg MysqlLocal.con allowed
  | commit m' =>
    cases on
    obtain ⟨⟨n, inserted⟩, _⟩ := allowed
    exact congrArg MysqlLocal.con inserted

/-- Only `mysql_autocommit(ON)` takes a thread out of a transaction. -/
theorem note_phase (on : c.session = some m) (close : ∀ m, c ≠ .close m)
    (mode : ∀ m mode, c ≠ .autocommit m mode) (busy : l.sql.phase ≠ .clean) :
    (l.note (.mysql c) f r).sql.phase ≠ .clean := by
  cases c with
  | getOneConnect => cases on
  | close m' => exact absurd rfl (close m')
  | autocommit m' mode' => exact absurd rfl (mode m' mode')
  | query m' stmt =>
    simp only [Local.note, Local.noteMysql]
    unfold Local.noteQuery
    (repeat' split) <;> first | exact busy | rintro ⟨⟩
  | fetchRows m' =>
    simp only [Local.note, Local.noteMysql]
    unfold Local.noteRows
    (repeat' split) <;> first | exact busy | rintro ⟨⟩
  | rollback m' => rintro ⟨⟩
  | commit m' =>
    simp only [Local.note, Local.noteMysql, Local.noteCommit]
    split <;> rintro ⟨⟩

theorem stmtDone_result : ((s.stmtDone m).session m).result = (s.session m).result := by
  unfold MysqlState.stmtDone
  split <;> simp [MysqlState.commitTrx, MysqlState.endTrx, MysqlState.setSession]

/-- A statement that works and leaves rows to be read where there were none is a `SELECT`. -/
theorem runStmt_result {stmt : Stmt} (rows : ((s.runStmt m stmt).2.session m).result ≠ []) :
    (s.session m).result ≠ [] ∨ stmt.reads = true ∧ (s.runStmt m stmt).1 = false := by
  cases stmt with
  | selectUsrKey name | selectOrder name | selectGoods => exact Or.inr ⟨rfl, rfl⟩
  | updateGoods count =>
    simp only [MysqlState.runStmt] at rows
    split at rows
    · exact Or.inl rows
    · rw [stmtDone_result] at rows
      simp only [MysqlState.write, MysqlState.setSession, Function.update_self] at rows
      exact Or.inl rows
  | insertOrder name key =>
    simp only [MysqlState.runStmt] at rows
    split at rows
    · exact Or.inl rows
    · rw [stmtDone_result] at rows
      exact Or.inl rows

/-- The rows a session has are those of a result set to be read. -/
theorem exec_result (on : c.session = some m) (done : s.exec c f = some (r, x))
    (rows : (x.session m).result ≠ []) :
    c.unreadAfter (decide ((s.session m).result ≠ [])) r = true := by
  have ends : ((s.endTrx m).session m).result = (s.session m).result := by
    simp [MysqlState.endTrx, MysqlState.setSession]
  cases c with
  | getOneConnect => cases on
  | close m' =>
    cases f <;> cases done
    exact decide_eq_true rows
  | autocommit m' mode =>
    cases on
    cases f <;> cases done
    · -- the commit in `mysql_autocommit(ON)` leaves the rows that wait
      apply decide_eq_true
      simp only [MysqlState.setSession, Function.update_self] at rows
      cases mode with
      | false => exact rows
      | true => exact fun empty => rows (ends.trans empty)
    · exact decide_eq_true rows
  | query m' stmt =>
    cases on
    show (decide ((s.session m).result ≠ []) || stmt.reads && !r) = true
    rw [Bool.or_eq_true, decide_eq_true_eq]
    cases f <;> simp only [MysqlState.exec, MysqlState.query, reduceCtorEq] at done
    case ok =>
      split at done
      · cases done
      · have error : (s.runStmt m stmt).1 = r := congrArg Prod.fst (Option.some.inj done)
        have after : (s.runStmt m stmt).2 = x := congrArg Prod.snd (Option.some.inj done)
        rw [← after] at rows
        rw [← error]
        obtain before | ⟨reads, works⟩ := runStmt_result rows
        · exact Or.inl before
        · exact Or.inr (by simp [reads, works])
    -- a statement that fails has no rows, and the ones before stay
    case fail =>
      cases done
      exact Or.inl rows
    case failRollback =>
      cases done
      exact Or.inl (ends ▸ rows)
  | fetchRows m' =>
    cases on
    cases f <;> cases done <;> simp [MysqlState.setResult, MysqlState.setSession] at rows
  | rollback m' =>
    cases on
    cases f <;> cases done <;> apply decide_eq_true
    · exact ends ▸ rows
    · exact rows
  | commit m' =>
    cases on
    cases f <;> cases done <;> apply decide_eq_true
    · exact ends ▸ rows
    · exact rows
    · exact ends ▸ rows

end Calls

section Runs

variable {ok : Condition server} {st : Stores} {h : History server} {cfg : Config server}
  {s x : MysqlState} {ls : Nat → Local} {t : Nat} {l : Local} {m : SessId} {ev : Event server}

/-- A step that has nothing to do with MySQL. -/
theorem Sessions.keep (inv : Sessions h s ls) (sql : l.sql = (ls t).sql)
    (reads : locals reading (ev :: h) = locals reading h)
    (same : ∀ m, unread m (ev :: h) = unread m h) :
    Sessions (ev :: h) s (Function.update ls t l) := by
  have sqls := update_eq Local.sql sql
  refine ⟨inv.auto, fun m off => ?_, fun m rows => ?_⟩
  · obtain ⟨t', con, busy⟩ := inv.off m off
    exact ⟨t', by rwa [sqls], by rwa [sqls]⟩
  · rw [same] at rows
    obtain ⟨t', con, unread⟩ := inv.result m rows
    exact ⟨t', by rwa [sqls], by rwa [reads]⟩

theorem Sessions.mysql {c : MysqlCall} {f : Fate} {r : c.Reply} (inv : Sessions h s ls)
    (holds : HoldsSessions s ls) (works : ∀ m mode, c = .autocommit m mode → f = .ok)
    (allowed : (ls t).AllowsMysql c) (on : c.session = some m)
    (read : c = .close m → locals reading h t = false) (done : s.exec c f = some (r, x)) :
    Sessions (.call t (.mysql c) f r :: h) x
      (Function.update ls t ((ls t).note (.mysql c) f r)) := by
  have con := allowed_con on allowed
  have own := MysqlState.exec_own (inv.auto m) on works done
  -- whoever has another session is another thread
  have others {m' : SessId} (other : m' ≠ m) {t' : Nat} (held : (ls t').sql.con = some m') :
      t' ≠ t := by
    rintro rfl
    exact other (Option.some.inj (held.symm.trans con))
  have unread_other {m' : SessId} (other : m' ≠ m) :
      unread m' (.call t (.mysql c) f r :: h) = unread m' h := by
    apply if_neg
    rw [on]
    exact fun same => other (Option.some.inj same).symm
  refine ⟨fun m' auto => ?_, fun m' off => ?_, fun m' rows => ?_⟩ <;> by_cases mine : m' = m
  · subst mine
    exact own.ended (own.mode.symm.trans auto)
  · rw [own.spares.session m' mine] at auto
    exact own.spares.ended mine (inv.auto m' auto)
  · subst mine
    refine ⟨t, ?_⟩
    rw [Function.update_self]
    have mode := own.mode.symm.trans off
    by_cases switch : ∃ m mode, c = .autocommit m mode
    · obtain ⟨m, auto, rfl⟩ := switch
      cases on
      change auto = false at mode
      subst mode
      exact ⟨con, nofun⟩
    · have other (m : SessId) (mode : Bool) : c ≠ .autocommit m mode :=
        fun eq => switch ⟨m, mode, eq⟩
      have before : (s.session m').autocommit = false := by
        cases c <;> first | exact mode | exact absurd rfl (other _ _)
      obtain ⟨t', held, busy⟩ := inv.off m' before
      obtain rfl := holds.once held con
      have close (m : SessId) : c ≠ .close m := by
        rintro rfl
        exact busy (congrArg MysqlLocal.phase allowed)
      have get : c ≠ .getOneConnect := by
        rintro rfl
        cases on
      exact ⟨(Local.note_con get close).trans con, note_phase on close other busy⟩
  · rw [own.spares.session m' mine] at off
    obtain ⟨t', held, busy⟩ := inv.off m' off
    refine ⟨t', ?_⟩
    rw [Function.update_of_ne (others mine held)]
    exact ⟨held, busy⟩
  · subst mine
    have less : decide ((s.session m').result ≠ []) = true ∨ unread m' h = true →
        locals reading h t = true := by
      rw [decide_eq_true_eq]
      intro before
      obtain ⟨t', held, unread⟩ := inv.result m' before
      obtain rfl := holds.once held con
      exact unread
    have after : c.unreadAfter (locals reading h t) r = true := by
      obtain rows | still := rows
      · exact unreadAfter_mono (fun before => less (Or.inl before)) (exec_result on done rows)
      · have step : unread m' (.call t (.mysql c) f r :: h) = c.unreadAfter (unread m' h) r :=
          if_pos on
        rw [step] at still
        exact unreadAfter_mono (fun before => less (Or.inr before)) still
    have close (m : SessId) : c ≠ .close m := by
      rintro rfl
      cases on
      exact absurd ((read rfl).symm.trans after) nofun
    have get : c ≠ .getOneConnect := by
      rintro rfl
      cases on
    refine ⟨t, ?_, ?_⟩
    · rw [Function.update_self]
      exact (Local.note_con get close).trans con
    · rw [locals_call, Function.update_self]
      exact after
  · rw [own.spares.session m' mine, unread_other mine] at rows
    obtain ⟨t', held, unread⟩ := inv.result m' rows
    have other := others mine held
    refine ⟨t', ?_, ?_⟩
    · rwa [Function.update_of_ne other]
    · rwa [locals_call, Function.update_of_ne other]

theorem Sessions.getOneConnect {f : Fate} {alive : SessId → Bool} {connects : Bool}
    {r : Option SessId} (inv : Sessions h s ls) (holds : HoldsSessions s ls)
    (without : (ls t).sql.con = none) (got : s.getOneConnect alive connects = (r, x)) :
    Sessions (.call t (.mysql .getOneConnect) f r :: h) x
      (Function.update ls t ((ls t).note (.mysql .getOneConnect) f r)) := by
  have new : (s.session s.fresh).autocommit = true := by
    by_contra off
    obtain ⟨t', held, _⟩ := inv.off _ (Bool.not_eq_true _ ▸ off)
    exact Nat.lt_irrefl _ (holds.held_made held)
  obtain ⟨mode, result, ended⟩ := MysqlState.getOneConnect_calms new inv.auto got
  have other {m : SessId} {t' : Nat} (held : (ls t').sql.con = some m) : t' ≠ t := by
    rintro rfl
    exact absurd (without.symm.trans held) nofun
  refine ⟨ended, fun m off => ?_, fun m rows => ?_⟩
  · obtain ⟨t', held, busy⟩ := inv.off m (mode m off)
    refine ⟨t', ?_⟩
    rw [Function.update_of_ne (other held)]
    exact ⟨held, busy⟩
  · obtain ⟨t', held, unread⟩ := inv.result m (rows.imp_left (result m))
    refine ⟨t', ?_, ?_⟩
    · rwa [Function.update_of_ne (other held)]
    · rwa [locals_call, Function.update_of_ne (other held)]

/-- Every `mysql_autocommit` works. -/
def autocommitWorks : History server → Server → Event server → Bool
  | _, _, .call _ (.mysql (.autocommit _ _)) f _ => f.isOk
  | _, _, _ => true

theorem sessions (run : Run (meets autocommitWorks) (boot st) h cfg) :
    Sessions h cfg.state.mysql (locals watch h) := by
  refine server_invariant (fun h s ls => Sessions h s.mysql ls)
    ?initial ?redis ?mysql ?counter ?grpc ?start
    (run.obeys reading_conforms)
  case initial =>
    refine ⟨fun m _ => ⟨rfl, rfl, nofun, nofun⟩, fun m off => absurd off nofun, fun m rows => ?_⟩
    exact absurd rows (by simp [boot, unread])
  case redis =>
    intro h cfg t c f r x _ inv _ _ _
    exact inv.keep (by simp) (Function.update_eq_self t _) fun _ => rfl
  case mysql =>
    intro h cfg t c f r x run inv met allowed exec
    have holds := sessions_exclusive run
    by_cases get : c = .getOneConnect
    · subst get
      have without : (locals watch h t).sql.con = none := congrArg MysqlLocal.con allowed.1
      obtain ⟨_, _, got⟩ := MysqlState.exec_getOneConnect exec
      exact inv.getOneConnect holds without got
    · obtain ⟨m, on⟩ : ∃ m, c.session = some m := by
        cases c <;> first | exact absurd rfl get | exact ⟨_, rfl⟩
      refine inv.mysql holds ?_ allowed on ?_ exec
      · rintro m mode rfl
        exact Fate.eq_ok met.1
      · rintro rfl
        exact met.2
  case counter =>
    intro h cfg t c f r x _ inv _ _ _
    exact inv.keep (by simp) (Function.update_eq_self t _) fun _ => rfl
  case grpc =>
    intro h cfg t c f r x _ inv _ _ _
    exact inv.keep (by simp) (Function.update_eq_self t _) fun _ => rfl
  case start =>
    intro h cfg t e _ inv met settled
    apply inv.keep
    · rw [settled.sql]
      cases e <;> rfl
    · exact Function.update_eq_self_iff.mpr met.2.symm
    · exact fun _ => rfl

theorem Sessions.clean (inv : Sessions h s ls) (unused : ∀ t, (ls t).sql.con = some m →
    (ls t).sql.phase = .clean ∧ locals reading h t = false) : Clean h s m := by
  have auto : (s.session m).autocommit = true := by
    by_contra off
    obtain ⟨t, held, busy⟩ := inv.off m (Bool.not_eq_true _ ▸ off)
    exact busy (unused t held).1
  have read : ¬((s.session m).result ≠ [] ∨ unread m h = true) := by
    intro rows
    obtain ⟨t, held, unread⟩ := inv.result m rows
    exact absurd ((unused t held).2.symm.trans unread) nofun
  rw [not_or, not_not, Bool.not_eq_true] at read
  exact ⟨inv.auto m auto, auto, read.1, read.2⟩

/-- Where every `mysql_autocommit` works, a connection is clean in the pool, when it is given back
    and when it is handed out. -/
theorem connections_clean (run : Run (meets autocommitWorks) (boot st) h cfg) :
    (∀ m ∈ cfg.state.mysql.mysqlpool, Clean h cfg.state.mysql m) ∧
      (∀ t m k, cfg.prog t = .call (.mysql (.close m)) k → Clean h cfg.state.mysql m) ∧
      ∀ t f m h', h = .call t (.mysql .getOneConnect) f (some m) :: h' →
        Clean h cfg.state.mysql m := by
  have inv := sessions run
  have holds := sessions_exclusive run
  refine ⟨fun m free => ?_, fun t m k next => ?_, fun t f m h' got => ?_⟩ <;> apply inv.clean
  · exact fun t held => absurd free (holds.apart held)
  · have sql : (locals watch h t).sql = ⟨some m, .clean⟩ := run.allowed conforms next
    have read : locals reading h t = false := run.allowed reading_conforms next
    intro t' held
    obtain rfl := holds.once held (congrArg MysqlLocal.con sql)
    exact ⟨congrArg MysqlLocal.phase sql, read⟩
  · subst got
    have sql : (locals watch (.call t (.mysql .getOneConnect) f (some m) :: h') t).sql =
        ⟨some m, .clean⟩ := by
      rw [locals_call, Function.update_self]
      rfl
    have read : locals reading (.call t (.mysql .getOneConnect) f (some m) :: h') t = false := by
      rw [locals_call, Function.update_self]
      cases run with
      | step before _ step =>
        cases step with
        | call next _ => exact before.allowed reading_conforms next
    intro t' held
    obtain rfl := holds.once held (congrArg MysqlLocal.con sql)
    exact ⟨congrArg MysqlLocal.phase sql, read⟩

/-- A sale whose `UPDATE` and rollback both fail gives its connection back clean. -/
theorem connections_clean_failed :
    ∃ h cfg, Run (meets autocommitWorks) (boot (agreeing [(['a'], ['k'])] 50)) h cfg ∧
      cfg.state.counters.failedCount = 1 ∧ cfg.state.mysql.mysqlpool = [0] ∧ Clean h cfg.state.mysql 0 := by
  have ran : ((replay autocommitWorks (queues 0 ⟨0, ['a'], ['k']⟩ ++ go 0 4 ++ [.go 0 .fail] ++
      go 0 1 ++ [.go 0 .fail] ++ go 0 9) []
      (initial (boot (agreeing [(['a'], ['k'])] 50)))).any fun x =>
        x.2.state.counters.failedCount == 1 && x.2.state.mysql.mysqlpool == [0]) = true := by
    decide +kernel
  obtain ⟨⟨h, cfg⟩, played, after⟩ := (Option.any_eq_true _ _).mp ran
  simp only [Bool.and_eq_true, beq_iff_eq] at after
  have run : Run (meets autocommitWorks) _ h cfg := replay_meets played
  refine ⟨h, cfg, run, after.1, after.2, ?_⟩
  apply (connections_clean run).1
  rw [after.2]
  exact List.mem_singleton_self 0

end Runs

end Seckill
