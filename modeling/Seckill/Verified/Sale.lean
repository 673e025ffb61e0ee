import Seckill.Lib.Transaction
import Seckill.Model.Worker

/-! # One call of `seckillGoods_mysql`

The call by itself, with an outcome chosen for each of its MySQL calls.  What its session
makes durable is a session of `Lib.Transaction` over the stock and the order rows: `view`
reads that session off the database, each MySQL call acts on the view as its abstract
counterpart does, and the whole call is a `work` of two writes, or nothing.
-/

namespace Seckill

open CStr CallTree Transaction

/-- The stock of goods `'10'` and the orders. -/
structure Shop where
  stock : Option Nat
  rows : List OrderRow
  deriving DecidableEq

/-- What `UPDATE goods_info` writes. -/
def Shop.setStock (count : Int) (shop : Shop) : Shop :=
  { shop with stock := shop.stock.map fun _ => count.toNat }

/-- What `INSERT INTO order_info` writes. -/
def Shop.addRow (name key : Str) (shop : Shop) : Shop :=
  { shop with rows := shop.rows ++ [⟨name, key, ['1', '0']⟩] }

namespace MysqlState

variable {s s' s'' : MysqlState} {m : SessId}

def shop (s : MysqlState) : Shop := ⟨s.gTotalcount, s.orderInfo⟩

/-- The database as session `m` has it. -/
def view (s : MysqlState) (m : SessId) : Trx Shop where
  durable := s.shop
  seen := ⟨s.seenCount m, s.orderInfo ++ s.ownRows m⟩
  autocommit := (s.session m).autocommit

/-! ## Each call on the view -/

theorem ownRows_endTrx : (s.endTrx m).ownRows m = [] := by
  simp [ownRows, endTrx, setSession, List.filter_filter]

theorem commitTrx_view : (s.commitTrx m).view m = (s.view m).commit := by
  have rows : (s.commitTrx m).ownRows m = [] := ownRows_endTrx
  have written : ((s.commitTrx m).session m).written = none := by
    simp [commitTrx, endTrx, setSession]
  have mode : ((s.commitTrx m).session m).autocommit = (s.session m).autocommit := by
    simp [commitTrx, endTrx, setSession]
  simp only [view, seenCount, rows, written, mode, List.append_nil, Option.none_or]
  rfl

theorem rollbackTrx_view : (s.rollbackTrx m).view m = (s.view m).rollback := by
  have rows : (s.rollbackTrx m).ownRows m = [] := ownRows_endTrx
  have written : ((s.rollbackTrx m).session m).written = none := by
    simp [rollbackTrx, endTrx, setSession]
  have mode : ((s.rollbackTrx m).session m).autocommit = (s.session m).autocommit := by
    simp [rollbackTrx, endTrx, setSession]
  simp only [view, seenCount, rows, written, mode, List.append_nil, Option.none_or]
  rfl

/-- A statement is over: its writes are durable in autocommit mode. -/
theorem stmtDone_view :
    (s.stmtDone m).view m = if (s.session m).autocommit then (s.view m).commit else s.view m := by
  unfold stmtDone
  split
  · exact commitTrx_view
  · simp [view, shop, seenCount, ownRows, setSession]

/-- What the others have open is left as it is. -/
structure Beside (s s' : MysqlState) (m : SessId) : Prop where
  weight : s'.weight = s.weight
  lock : ∀ m', s'.lock = some m' → m' = m ∨ s.lock = some m'
  inserts : s'.inserts.filter (fun x => x.1 != m) = s.inserts.filter (fun x => x.1 != m)

theorem Beside.refl : Beside s s m := ⟨rfl, fun _ => Or.inr, rfl⟩

theorem Beside.trans (first : Beside s s' m) (second : Beside s' s'' m) : Beside s s'' m where
  weight := second.weight.trans first.weight
  lock m' held := (second.lock m' held).elim Or.inl (first.lock m')
  inserts := second.inserts.trans first.inserts

/-- A statement that did not have to wait before does not have to now. -/
theorem Beside.blocked {stmt : Stmt} (beside : Beside s s' m) (free : s.blocked m stmt = false) :
    s'.blocked m stmt = false := by
  have others (p : SessId × OrderRow → Bool) (l : List (SessId × OrderRow)) :
      (l.any fun x => x.1 != m && p x) = (l.filter fun x => x.1 != m).any p := by
    rw [List.any_filter]
  cases stmt with
  | selectUsrKey name => rfl
  | selectGoods | updateGoods count =>
    simp only [MysqlState.blocked, Option.any_eq_false, bne_eq_false_iff_eq] at free ⊢
    intro m' held
    obtain own | before := beside.lock m' held
    · exact own
    · exact free m' before
  | selectOrder name | insertOrder name key =>
    simp only [MysqlState.blocked] at free ⊢
    rw [others] at free ⊢
    rw [beside.inserts]
    simpa only [sameName, beside.weight] using free

theorem endTrx_beside : Beside s (s.endTrx m) m := by
  refine ⟨rfl, fun m' held => Or.inr ?_, ?_⟩
  · simp only [endTrx] at held
    split at held
    · cases held
    · exact held
  · simp [endTrx, setSession, List.filter_filter]

theorem commitTrx_beside : Beside s (s.commitTrx m) m := by
  obtain ⟨weight, lock, inserts⟩ := endTrx_beside (s := s) (m := m)
  exact ⟨weight, lock, inserts⟩

theorem stmtDone_beside : Beside s (s.stmtDone m) m := by
  unfold stmtDone
  split
  · exact commitTrx_beside
  · exact ⟨rfl, fun _ => Or.inr, rfl⟩

end MysqlState

/-! ## Outcomes -/

/-- The fate of a call that works, or fails without effect. -/
def fateOf (works : Bool) : Fate := if works then .ok else .fail

/-- The fate of a statement. -/
def outcomeFate : Outcome → Fate
  | .ok => .ok
  | .fail => .fail
  | .failRollback => .failRollback

namespace MysqlState

variable {s : MysqlState} {m : SessId}

/-- A call was answered, left the others alone, and made `y` of the view. -/
structure Step (s : MysqlState) (m : SessId) (y : Trx Shop) (s' : MysqlState) : Prop where
  beside : Beside s s' m
  view : s'.view m = y

theorem autocommit_step (mode works : Bool) :
    ∃ e s', s.autocommit m mode (fateOf works) = some (e, s') ∧
      Step s m ((s.view m).may works fun x => x.setAutocommit mode) s' := by
  cases works with
  | false => exact ⟨true, s, rfl, .refl, rfl⟩
  | true =>
    cases mode with
    | false =>
      refine ⟨false, _, rfl, ⟨rfl, fun _ => Or.inr, rfl⟩, ?_⟩
      simp [view, shop, seenCount, ownRows, setSession, Trx.may, Trx.setAutocommit]
    | true =>
      refine ⟨false, _, rfl, ?_, ?_⟩
      · obtain ⟨weight, lock, inserts⟩ := commitTrx_beside (s := s) (m := m)
        exact ⟨weight, lock, inserts⟩
      · have committed := commitTrx_view (s := s) (m := m)
        simp only [view, shop, seenCount, ownRows, setSession, Function.update_self, Trx.may,
          Trx.setAutocommit, Trx.commit, if_true, Trx.mk.injEq] at committed ⊢
        exact ⟨committed.1, committed.2.1, trivial⟩

theorem rollback_step (works : Bool) :
    ∃ e s', s.rollback m (fateOf works) = some (e, s') ∧
      Step s m ((s.view m).may works Trx.rollback) s' := by
  cases works with
  | false => exact ⟨true, s, rfl, .refl, rfl⟩
  | true => exact ⟨false, _, rfl, endTrx_beside, rollbackTrx_view⟩

theorem commit_step (works : Bool) :
    ∃ e s', s.commit m (fateOf works) = some (e, s') ∧
      Step s m ((s.view m).may works Trx.commit) s' := by
  cases works with
  | false => exact ⟨true, s, rfl, .refl, rfl⟩
  | true => exact ⟨false, _, rfl, commitTrx_beside, commitTrx_view⟩

/-- A statement that fails writes nothing. -/
theorem query_fails (stmt : Stmt) (f : Shop → Shop) {outcome : Outcome} (fails : outcome ≠ .ok) :
    ∃ s', s.query m stmt (outcomeFate outcome) = some (true, s') ∧
      Step s m ((s.view m).attempt f outcome) s' := by
  cases outcome with
  | ok => exact absurd rfl fails
  | fail => exact ⟨s, rfl, .refl, rfl⟩
  | failRollback => exact ⟨_, rfl, endTrx_beside, rollbackTrx_view⟩

/-- A statement whose effect on what the session sees is `f` writes `f`. -/
theorem stmtDone_step {x : MysqlState} {f : Shop → Shop} (beside : Beside s x m)
    (durable : x.shop = s.shop) (mode : (x.session m).autocommit = (s.session m).autocommit)
    (seen : (x.view m).seen = f (s.view m).seen) :
    Step s m ((s.view m).write f) (x.stmtDone m) where
  beside := beside.trans stmtDone_beside
  view := by
    have mode' : (s.view m).autocommit = (s.session m).autocommit := rfl
    rw [stmtDone_view, Trx.write, mode, mode', ← seen]
    split <;> simp only [view, Trx.commit, durable, mode]

/-- The `SELECT ... FOR UPDATE` sees the stock. -/
theorem selectGoods_step (settled : (s.view m).Settled)
    (free : s.blocked m .selectGoods = false) :
    ∃ s', s.query m .selectGoods .ok = some (false, s') ∧ Step s m (s.view m) s' ∧
      (s'.session m).result = (s.gTotalcount.map fun g : Nat => [decimal g]).toList := by
  refine ⟨(s.runStmt m .selectGoods).2, by simp [query, free, runStmt], ?_, ?_⟩
  · simp only [runStmt]
    rw [← settled.write_id]
    refine stmtDone_step ⟨rfl, fun m' held => Or.inl ?_, rfl⟩ rfl ?_ ?_
    · exact (Option.some.inj held).symm
    · simp [setResult, takeLock, setSession]
    · simp [view, seenCount, ownRows, setResult, takeLock, setSession]
  · have seen : s.seenCount m = s.gTotalcount := congrArg Shop.stock settled
    simp only [runStmt]
    unfold stmtDone
    split <;> simp [commitTrx, endTrx, setSession, setResult, takeLock, seen]

theorem updateGoods_step {count : Int} {outcome : Outcome} (range : 0 ≤ count ∧ count ≤ 4294967295)
    (free : outcome = .ok → s.blocked m (.updateGoods count) = false) :
    ∃ s', s.query m (.updateGoods count) (outcomeFate outcome) =
        some (decide (outcome ≠ .ok), s') ∧
      Step s m ((s.view m).attempt (Shop.setStock count) outcome) s' := by
  by_cases done : outcome = .ok
  · subst done
    have inRange : ¬(count < 0 ∨ 4294967295 < count) := by omega
    refine ⟨(s.runStmt m (.updateGoods count)).2,
      by simp [outcomeFate, query, free, runStmt, inRange], ?_⟩
    simp only [runStmt, if_neg inRange]
    refine stmtDone_step ⟨rfl, fun m' held => Or.inl ?_, rfl⟩ rfl ?_ ?_
    · exact (Option.some.inj held).symm
    · simp [write, takeLock, setSession]
    · cases written : (s.session m).written <;> cases stock : s.gTotalcount <;>
        simp [view, Shop.setStock, seenCount, ownRows, write, takeLock, setSession, written, stock]
  · obtain ⟨s', sent, step⟩ := query_fails (s := s) (m := m) (.updateGoods count)
      (Shop.setStock count) done
    exact ⟨s', by simpa [done] using sent, step⟩

/-- The user has an order row the session sees. -/
def taken (s : MysqlState) (m : SessId) (name : Str) : Bool :=
  (s.view m).seen.rows.any fun o => s.sameName o.usrName name

/-- How the `INSERT` ends, the primary key considered. -/
def insertOutcome (s : MysqlState) (m : SessId) (name : Str) (outcome : Outcome) : Outcome :=
  if outcome = .ok ∧ s.taken m name = true then .fail else outcome

theorem insertOrder_step (name key : Str) (outcome : Outcome)
    (free : outcome = .ok → s.blocked m (.insertOrder name key) = false) :
    ∃ s', s.query m (.insertOrder name key) (outcomeFate outcome) =
        some (decide (s.insertOutcome m name outcome ≠ .ok), s') ∧
      Step s m ((s.view m).attempt (Shop.addRow name key) (s.insertOutcome m name outcome)) s' := by
  by_cases done : outcome = .ok
  · subst done
    cases dup : s.taken m name with
    | true =>
      have rows : ((s.orderInfo ++ s.ownRows m).any fun o => s.sameName o.usrName name) = true := dup
      refine ⟨s, ?_, ?_⟩
      · simp [outcomeFate, query, free, runStmt, rows, insertOutcome, dup]
      · simp only [insertOutcome, dup, and_self, if_true]
        exact ⟨.refl, rfl⟩
    | false =>
      have rows : ((s.orderInfo ++ s.ownRows m).any fun o => s.sameName o.usrName name) = false :=
        dup
      refine ⟨(s.runStmt m (.insertOrder name key)).2,
        by simp [outcomeFate, query, free, runStmt, rows, insertOutcome, dup], ?_⟩
      simp only [runStmt, rows, insertOutcome, dup, Bool.false_eq_true, and_false, if_false]
      refine stmtDone_step ⟨rfl, fun _ => Or.inr, ?_⟩ rfl rfl ?_
      · simp [addInsert]
      · simp [view, Shop.addRow, seenCount, ownRows, addInsert]
  · have same : s.insertOutcome m name outcome = outcome := by simp [insertOutcome, done]
    rw [same]
    obtain ⟨s', sent, step⟩ := query_fails (s := s) (m := m) (.insertOrder name key)
      (Shop.addRow name key) done
    exact ⟨s', by simpa [done] using sent, step⟩

end MysqlState

/-! ## The call -/

/-- The outcomes of the MySQL calls of `seckillGoods_mysql`. -/
structure Outcomes where
  off : Bool := true
  select : Outcome := .ok
  fetch : Bool := true
  update : Outcome := .ok
  insert : Outcome := .ok
  rollback : Bool := true
  commit : Bool := true
  on : Bool := true

def Outcomes.fate (o : Outcomes) : Call → Fate
  | .mysql (.autocommit _ false) => fateOf o.off
  | .mysql (.query _ .selectGoods) => outcomeFate o.select
  | .mysql (.fetchRows _) => fateOf o.fetch
  | .mysql (.query _ (.updateGoods _)) => outcomeFate o.update
  | .mysql (.query _ (.insertOrder _ _)) => outcomeFate o.insert
  | .mysql (.rollback _) => fateOf o.rollback
  | .mysql (.commit _) => fateOf o.commit
  | .mysql (.autocommit _ true) => fateOf o.on
  | _ => .ok

/-- The calls of thread `t`, with these outcomes. -/
def answering (t : Nat) (o : Outcomes) (c : Call) (s : Server) : Option (c.Reply × Server) :=
  Server.exec t c (o.fate c) s

/-- What a call of `seckillGoods_mysql` finds: its `Worker`, `rwlock_` free, nothing pending on
    the connection, and a statement that is answered `OK` only if it did not have to wait. -/
structure Called (s : Server) (this : WorkerId) (m : SessId) (name key : Str) (o : Outcomes) :
    Prop where
  worker : ∃ x, s.grpc.worker this = some x
  unlocked : s.counters.rwlock = none
  settled : (s.mysql.view m).Settled
  range : ∀ n, s.mysql.gTotalcount = some n → n < 4294967296
  select : o.select = .ok → s.mysql.blocked m .selectGoods = false
  insert : o.insert = .ok → s.mysql.blocked m (.insertOrder (cStr name) (cStr key)) = false

/-- What the `SELECT` leaves in `total_count`. -/
def Outcomes.totalCount (o : Outcomes) (shop : Shop) : Int :=
  if o.select = .ok ∧ o.fetch = true then (shop.stock.map fun n : Nat => atoi (decimal n)).getD 0
  else 0

/-- Both writes are done. -/
def Outcomes.booked (o : Outcomes) (s : MysqlState) (m : SessId) (name : Str) : Prop :=
  o.update = .ok ∧ s.insertOutcome m name o.insert = .ok

instance {o : Outcomes} {s : MysqlState} {m : SessId} {name : Str} :
    Decidable (o.booked s m name) := inferInstanceAs (Decidable (_ ∧ _))

/-- The session after `mysql_autocommit(OFF)`. -/
def Outcomes.opened (o : Outcomes) (x : Trx Shop) : Trx Shop :=
  { x with autocommit := x.autocommit && !o.off }

/-- The result in the `response_` of a `Worker`. -/
def answerOf (s : Server) (this : WorkerId) : Option Str := (s.grpc.worker this).map WorkerObj.result

/-- What a call of `seckillGoods_mysql` comes to. -/
structure Done (s : Server) (this : WorkerId) (m : SessId) (name key : Str) (o : Outcomes)
    (s' : Server) : Prop where
  sold : 0 < o.totalCount s.mysql.shop →
    s'.mysql.view m = (o.opened (s.mysql.view m)).work
        (Shop.setStock (o.totalCount s.mysql.shop - 1)) (Shop.addRow (cStr name) (cStr key))
        o.update (s.mysql.insertOutcome m (cStr name) o.insert) o.commit o.rollback o.on ∧
      s'.counters.failedCount =
        s.counters.failedCount + (if o.booked s.mysql m (cStr name) then 0 else 1) ∧
      answerOf s' this = some (if o.booked s.mysql m (cStr name) then one else zero)
  refused : ¬0 < o.totalCount s.mysql.shop →
    s'.mysql.shop = s.mysql.shop ∧ s'.counters.failedCount = s.counters.failedCount ∧
      answerOf s' this = some zero

variable {t : Nat} {o : Outcomes} {s : Server} {this : WorkerId} {m : SessId} {name key : Str}
  {x : WorkerObj} {α : Type} {post : α → Server → Prop}

theorem ends_mysql {c : MysqlCall} {k : c.Reply → Code α} {r : c.Reply} {y : MysqlState}
    (done : s.mysql.exec c (o.fate (.mysql c)) = some (r, y))
    (rest : (k r).Ends (answering t o) { s with mysql := y } post) :
    Prog.Ends (answering t o) (.call (.mysql c) k) s post :=
  .call (by simp [answering, Server.exec, done]) rest

theorem ends_counter {c : CounterCall} {k : c.Reply → Code α} {r : c.Reply} {y : Counters}
    (done : s.counters.exec t c .ok = some (r, y))
    (rest : (k r).Ends (answering t o) { s with counters := y } post) :
    Prog.Ends (answering t o) (.call (.counter c) k) s post :=
  .call (by simp [answering, Server.exec, Outcomes.fate, done]) rest

theorem ends_setResult {result : Str} {k : Unit → Code α}
    (worker : s.grpc.worker this = some x)
    (rest : (k ()).Ends (answering t o)
      { s with grpc := s.grpc.setWorker this (some { x with result := result }) } post) :
    Prog.Ends (answering t o) (.call (.grpc (.setResult this result)) k) s post :=
  .call (by simp [answering, Server.exec, Outcomes.fate, GrpcState.exec, worker]) rest

theorem answerOf_set {result : Str} :
    answerOf { s with grpc := s.grpc.setWorker this (some { x with result := result }) } this =
      some result := by
  simp [answerOf, GrpcState.setWorker]

theorem refuseSale_ends (worker : s.grpc.worker this = some x)
    (settled : (s.mysql.view m).Settled) :
    Prog.Ends (answering t o) (refuseSale this (some m)) s fun _ s' => s'.mysql.shop = s.mysql.shop ∧
        s'.counters.failedCount = s.counters.failedCount ∧ answerOf s' this = some zero := by
  refine ends_setResult worker ?_
  obtain ⟨e, y, done, step⟩ := s.mysql.autocommit_step (m := m) true o.on
  refine ends_mysql (c := .autocommit m true) done ?_
  refine .ret ⟨?_, rfl, answerOf_set⟩
  have durable := congrArg Trx.durable step.view
  change y.shop = _ at durable
  change y.shop = _
  rw [durable]
  unfold Trx.may
  split
  · exact congrArg Trx.durable (settled.setAutocommit true).1
  · rfl

theorem failSale_ends (worker : s.grpc.worker this = some x) (unlocked : s.counters.rwlock = none) :
    Prog.Ends (answering t o) (failSale this (some m)) s fun _ s' =>
        s'.mysql.view m = ((s.mysql.view m).may o.rollback Trx.rollback).may o.on
          (fun z => z.setAutocommit true) ∧
        s'.counters.failedCount = s.counters.failedCount + 1 ∧ answerOf s' this = some zero := by
  obtain ⟨e, y, done, step⟩ := s.mysql.rollback_step (m := m) o.rollback
  refine ends_mysql (c := .rollback m) done ?_
  refine ends_counter (c := .wrlock) (r := ()) (if_pos unlocked) ?_
  refine ends_counter (c := .incFailedCount) (r := ()) rfl ?_
  refine ends_counter (c := .unlock) (r := ()) rfl ?_
  refine ends_setResult worker ?_
  obtain ⟨e', z, done', step'⟩ := y.autocommit_step (m := m) true o.on
  refine ends_mysql (c := .autocommit m true) done' ?_
  refine .ret ⟨?_, rfl, answerOf_set⟩
  rw [← step.view]
  exact step'.view

theorem bookSale_ends (worker : s.grpc.worker this = some x) :
    Prog.Ends (answering t o) (bookSale this (some m)) s fun _ s' =>
        s'.mysql.view m = ((s.mysql.view m).may o.commit Trx.commit).may o.on
          (fun z => z.setAutocommit true) ∧
        s'.counters.failedCount = s.counters.failedCount ∧ answerOf s' this = some one := by
  obtain ⟨e, y, done, step⟩ := s.mysql.commit_step (m := m) o.commit
  refine ends_mysql (c := .commit m) done ?_
  refine ends_setResult worker ?_
  refine ends_counter (c := .incSuccessNum) (r := ()) rfl ?_
  obtain ⟨e', z, done', step'⟩ := y.autocommit_step (m := m) true o.on
  refine ends_mysql (c := .autocommit m true) done' ?_
  refine .ret ⟨?_, rfl, answerOf_set⟩
  rw [← step.view]
  exact step'.view

/-- From the `UPDATE` on the call is a unit of work. -/
theorem sellGoods_ends (name key : Str) (n : Int) (worker : s.grpc.worker this = some x)
    (unlocked : s.counters.rwlock = none) (settled : (s.mysql.view m).Settled)
    (range : 0 ≤ n - 1 ∧ n - 1 ≤ 4294967295)
    (free : o.update = .ok → s.mysql.blocked m (.updateGoods (n - 1)) = false)
    (insert : o.insert = .ok → s.mysql.blocked m (.insertOrder (cStr name) (cStr key)) = false) :
    Prog.Ends (answering t o) (sellGoods this name key (some m) false n) s fun _ s' =>
          s'.mysql.view m = (s.mysql.view m).work (Shop.setStock (n - 1))
            (Shop.addRow (cStr name) (cStr key)) o.update
            (s.mysql.insertOutcome m (cStr name) o.insert) o.commit o.rollback o.on ∧
          s'.counters.failedCount =
            s.counters.failedCount + (if o.booked s.mysql m (cStr name) then 0 else 1) ∧
          answerOf s' this = some (if o.booked s.mysql m (cStr name) then one else zero) := by
  obtain ⟨y, updated, step⟩ := s.mysql.updateGoods_step range free
  refine ends_mysql (c := .query m (.updateGoods (n - 1))) updated ?_
  obtain ⟨z, inserted, step'⟩ :=
    y.insertOrder_step (m := m) (cStr name) (cStr key) o.insert
      fun ok => step.beside.blocked (insert ok)
  refine ends_mysql (c := .query m (.insertOrder (cStr name) (cStr key))) inserted ?_
  -- the UPDATE has nothing to do with the rows
  have rows : (y.view m).seen.rows = (s.mysql.view m).seen.rows := by
    rw [step.view]
    cases o.update with
    | ok =>
      simp only [Trx.attempt, Trx.write]
      split <;> rfl
    | fail => rfl
    | failRollback => simp [Trx.attempt, settled.rollback]
  have taken : y.taken m (cStr name) = s.mysql.taken m (cStr name) := by
    simp only [MysqlState.taken, rows, MysqlState.sameName, step.beside.weight]
  have same : y.insertOutcome m (cStr name) o.insert =
      s.mysql.insertOutcome m (cStr name) o.insert := by
    simp only [MysqlState.insertOutcome, taken]
  rw [same] at step' ⊢
  change Prog.Ends _ (if (false || decide (o.update ≠ .ok) ||
    decide (s.mysql.insertOutcome m (cStr name) o.insert ≠ .ok)) = true then _ else _) _ _
  have view : z.view m = ((s.mysql.view m).attempt (Shop.setStock (n - 1)) o.update).attempt
      (Shop.addRow (cStr name) (cStr key)) (s.mysql.insertOutcome m (cStr name) o.insert) := by
    rw [step'.view, step.view]
  by_cases booked : o.booked s.mysql m (cStr name)
  · obtain ⟨first, second⟩ := booked
    have both : o.booked s.mysql m (cStr name) := ⟨first, second⟩
    have all : o.update = .ok ∧ s.mysql.insertOutcome m (cStr name) o.insert = .ok := both
    have passed : ¬(false || decide (o.update ≠ .ok) ||
        decide (s.mysql.insertOutcome m (cStr name) o.insert ≠ .ok)) = true := by
      simp [first, second]
    rw [if_neg passed, if_pos both, if_pos both, Trx.work, if_pos all, ← view, Int.add_zero]
    exact bookSale_ends (s := { s with mysql := z }) worker
  · have failed : (false || decide (o.update ≠ .ok) ||
        decide (s.mysql.insertOutcome m (cStr name) o.insert ≠ .ok)) = true := by
      simp only [Outcomes.booked, not_and_or] at booked
      simpa using booked
    have not_both : ¬(o.update = .ok ∧ s.mysql.insertOutcome m (cStr name) o.insert = .ok) := booked
    rw [if_pos failed, if_neg booked, if_neg booked, Trx.work, if_neg not_both, ← view]
    exact failSale_ends (s := { s with mysql := z }) worker unlocked

/-- The stock that `lastCount` reads off the result of the `SELECT`. -/
theorem lastCount_stock (stock : Option Nat) :
    lastCount (stock.map fun g : Nat => [decimal g]).toList =
      (stock.map fun n : Nat => atoi (decimal n)).getD 0 := by
  cases stock <;> rfl

/-- A count that was read positive is the stock, and leaves a count the column can hold. -/
theorem totalCount_range {shop : Shop} (range : ∀ n, shop.stock = some n → n < 4294967296)
    (positive : 0 < o.totalCount shop) :
    (o.select = .ok ∧ o.fetch = true) ∧
      ∃ n : Nat, shop.stock = some (n + 1) ∧ o.totalCount shop = n + 1 ∧ n < 4294967295 := by
  unfold Outcomes.totalCount at positive ⊢
  split at positive
  next works =>
    refine ⟨works, ?_⟩
    rw [if_pos works]
    cases stock : shop.stock with
    | none => simp [stock] at positive
    | some k =>
      have bound := range k stock
      rw [stock] at positive
      change 0 < atoi (decimal k) at positive
      have exact_count := atoi_decimal_of_pos (n := (k : Int)) (by omega) (by omega) positive
      rw [exact_count] at positive
      obtain ⟨n, rfl⟩ : ∃ n, k = n + 1 := ⟨k - 1, by omega⟩
      refine ⟨n, rfl, ?_, by omega⟩
      change atoi (decimal ((n + 1 : Nat) : Int)) = n + 1
      rw [exact_count]
      rfl
  next => exact absurd positive (Int.lt_irrefl 0)

/-- Nothing is pending after `mysql_autocommit(OFF)` either. -/
theorem opened_settled {x : Trx Shop} (settled : x.Settled) :
    (x.may o.off fun z => z.setAutocommit false) = o.opened x ∧ (o.opened x).Settled := by
  refine ⟨?_, settled⟩
  unfold Trx.may Outcomes.opened
  cases o.off <;> simp [Trx.setAutocommit]

/-- A call of `seckillGoods_mysql` returns, and comes to a unit of work or to nothing. -/
theorem seckillGoodsMysql_ends (called : Called s this m name key o) :
    Prog.Ends (answering t o) (seckillGoodsMysql this name key (some m)) s
      fun _ s' => Done s this m name key o s' := by
  obtain ⟨⟨x, worker⟩, unlocked, settled, range, select, insert⟩ := called
  obtain ⟨e, y, off, step⟩ := s.mysql.autocommit_step (m := m) false o.off
  refine ends_mysql (c := .autocommit m false) off ?_
  obtain ⟨same, settled₁⟩ := opened_settled (o := o) settled
  have view : y.view m = o.opened (s.mysql.view m) := step.view.trans same
  have shop : y.shop = s.mysql.shop := congrArg Trx.durable view
  -- where the SELECT or its stream fails, and where the stock is not positive, nothing is sold
  have refuse {z : MysqlState} (zshop : z.shop = s.mysql.shop) (zsettled : (z.view m).Settled)
      (empty : ¬0 < o.totalCount s.mysql.shop) :
      Prog.Ends (answering t o) (refuseSale this (some m)) { s with mysql := z }
        fun _ s' => Done s this m name key o s' := by
    obtain ⟨a, s', ends, final⟩ := refuseSale_ends (s := { s with mysql := z }) (t := t) (o := o)
      worker zsettled
    refine ⟨a, s', ends, fun positive => absurd positive empty, fun _ => ?_⟩
    exact ⟨final.1.trans zshop, final.2⟩
  by_cases selected : o.select = .ok
  · obtain ⟨z, sent, step', rows⟩ :=
      y.selectGoods_step (view ▸ settled₁) (step.beside.blocked (select selected))
    have fate : o.fate (.mysql (.query m .selectGoods)) = .ok := by
      simp [Outcomes.fate, selected, outcomeFate]
    refine ends_mysql (c := .query m .selectGoods) (r := false) (y := z) (fate ▸ sent) ?_
    have zview : z.view m = o.opened (s.mysql.view m) := step'.view.trans view
    have zshop : z.shop = s.mysql.shop := congrArg Trx.durable zview
    -- the fetch loop leaves the count the SELECT found
    have fetched : ∃ list w, z.exec (.fetchRows m) (o.fate (.mysql (.fetchRows m))) = some (list, w) ∧
        lastCount list = o.totalCount s.mysql.shop ∧ w.view m = z.view m ∧
        MysqlState.Beside z w m := by
      cases stream : o.fetch with
      | true =>
        refine ⟨(z.session m).result, z.setResult m [], ?_, ?_, ?_, ⟨rfl, fun _ => Or.inr, rfl⟩⟩
        · simp [MysqlState.exec, Outcomes.fate, stream, fateOf, MysqlState.fetchRows]
        · rw [rows, lastCount_stock, Outcomes.totalCount, if_pos ⟨selected, stream⟩]
          exact congrArg (fun shop : Shop => (shop.stock.map fun n : Nat => atoi (decimal n)).getD 0) shop
        · simp [MysqlState.view, MysqlState.shop, MysqlState.seenCount, MysqlState.ownRows,
            MysqlState.setResult, MysqlState.setSession]
      | false =>
        refine ⟨[], z.setResult m [], ?_, ?_, ?_, ⟨rfl, fun _ => Or.inr, rfl⟩⟩
        · simp [MysqlState.exec, Outcomes.fate, stream, fateOf, MysqlState.fetchRows]
        · simp [Outcomes.totalCount, stream, lastCount]
        · simp [MysqlState.view, MysqlState.shop, MysqlState.seenCount, MysqlState.ownRows,
            MysqlState.setResult, MysqlState.setSession]
    obtain ⟨list, w, fetch, count, wview, beside⟩ := fetched
    refine ends_mysql (c := .fetchRows m) fetch ?_
    change Prog.Ends _ (if lastCount list > 0 then _ else _) _ _
    rw [count]
    have wview' : w.view m = o.opened (s.mysql.view m) := wview.trans zview
    have all : MysqlState.Beside s.mysql w m := (step.beside.trans step'.beside).trans beside
    by_cases positive : 0 < o.totalCount s.mysql.shop
    · rw [if_pos positive]
      obtain ⟨_, n, _, number, bound⟩ := totalCount_range range positive
      have same_insert : w.insertOutcome m (cStr name) o.insert =
          s.mysql.insertOutcome m (cStr name) o.insert := by
        have rows : (w.view m).seen.rows = (s.mysql.view m).seen.rows := congrArg (·.seen.rows) wview'
        have taken : w.taken m (cStr name) = s.mysql.taken m (cStr name) := by
          simp only [MysqlState.taken, rows, MysqlState.sameName, all.weight]
        simp only [MysqlState.insertOutcome, taken]
      have same_booked : o.booked w m (cStr name) = o.booked s.mysql m (cStr name) := by
        simp only [Outcomes.booked, same_insert]
      obtain ⟨a, s', ends, final⟩ := sellGoods_ends (s := { s with mysql := w }) (t := t) (o := o)
        name key (o.totalCount s.mysql.shop) worker unlocked
        (wview' ▸ settled₁) (by omega)
        (fun _ => all.blocked (show s.mysql.blocked m (.updateGoods _) = false from select selected))
        (fun ok => all.blocked (insert ok))
      refine ⟨a, s', ends, fun _ => ?_, fun empty => absurd positive empty⟩
      simp only [same_insert, same_booked, wview'] at final
      exact final
    · rw [if_neg positive]
      exact refuse (congrArg Trx.durable wview') (wview' ▸ settled₁) positive
  · have empty : ¬0 < o.totalCount s.mysql.shop := by
      simp [Outcomes.totalCount, selected]
    obtain ⟨z, sent, step'⟩ := y.query_fails (m := m) .selectGoods id selected
    refine ends_mysql (c := .query m .selectGoods) sent ?_
    have zview : z.view m = o.opened (s.mysql.view m) := by
      rw [step'.view, view]
      cases outcome : o.select with
      | ok => exact absurd outcome selected
      | fail => rfl
      | failRollback => exact settled₁.rollback
    exact refuse (congrArg Trx.durable zview) (zview ▸ settled₁) empty

end Seckill
