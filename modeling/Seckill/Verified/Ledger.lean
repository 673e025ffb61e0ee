import Seckill.Verified.Holding
import Seckill.Verified.Scenario

/-! # The ledger in MySQL

Stock and orders add up in every committed state.  A thread's session carries exactly the
uncommitted work that its place between `mysql_autocommit(OFF)` and `(ON)` calls for, and
from its `SELECT ... FOR UPDATE` on it owns the row lock, so that the count it computed is
the committed one less one.  What one session does touches no other (`Tame`), but for an
`INSERT` and a commit.
-/

namespace Seckill

open CStr CallTree Threads Leases

/-! ## Sessions do not disturb each other -/

/-- Session `m` has nothing uncommitted. -/
def Quiet (s : MysqlState) (m : SessId) : Prop :=
  (s.session m).written = none ∧ s.ownRows m = []

/-- Nothing changes for session `m`: its own state, and what its lock protects. -/
structure SameFor (s s' : MysqlState) (m : SessId) : Prop where
  session : s'.session m = s.session m
  rows : s'.ownRows m = s.ownRows m
  guarded : s.lock = some m → s'.lock = some m ∧ s'.gTotalcount = s.gTotalcount

/-- A call on session `m` that changes nothing committed and adds no row. -/
structure Tame (s s' : MysqlState) (m : SessId) : Prop where
  others : ∀ m', m' ≠ m → SameFor s s' m'
  count : s'.gTotalcount = s.gTotalcount
  orders : s'.orderInfo = s.orderInfo
  weight : s'.weight = s.weight
  inserts : s'.inserts.Sublist s.inserts

variable {s s' s'' : MysqlState} {m m' : SessId} {x : Session}

theorem SameFor.refl : SameFor s s m := ⟨rfl, rfl, fun lock => ⟨lock, rfl⟩⟩

theorem SameFor.trans (first : SameFor s s' m) (second : SameFor s' s'' m) : SameFor s s'' m where
  session := second.session.trans first.session
  rows := second.rows.trans first.rows
  guarded lock :=
    have after := first.guarded lock
    have later := second.guarded after.1
    ⟨later.1, later.2.trans after.2⟩

namespace Tame

theorem refl : Tame s s m := ⟨fun _ _ => SameFor.refl, rfl, rfl, rfl, List.Sublist.refl _⟩

theorem trans (first : Tame s s' m) (second : Tame s' s'' m) : Tame s s'' m where
  others m' other := (first.others m' other).trans (second.others m' other)
  count := second.count.trans first.count
  orders := second.orders.trans first.orders
  weight := second.weight.trans first.weight
  inserts := second.inserts.trans first.inserts

theorem setSession : Tame s (s.setSession m x) m where
  others _ other := ⟨Function.update_of_ne other _ _, rfl, fun lock => ⟨lock, rfl⟩⟩
  count := rfl
  orders := rfl
  weight := rfl
  inserts := List.Sublist.refl _

theorem takeLock (free : s.lock.any (· != m) = false) : Tame s (s.takeLock m) m where
  others _ other := by
    refine ⟨rfl, rfl, fun lock => ?_⟩
    simp [lock, other] at free
  count := rfl
  orders := rfl
  weight := rfl
  inserts := List.Sublist.refl _

theorem endTrx : Tame s (s.endTrx m) m where
  others m' other := by
    refine ⟨Function.update_of_ne other _ _, ?_, fun lock => ?_⟩
    · simp only [MysqlState.ownRows, MysqlState.endTrx, List.filter_filter]
      congr 1
      refine List.filter_congr fun row _ => ?_
      by_cases own : row.1 = m' <;> simp [own, other]
    · exact ⟨by simp [MysqlState.endTrx, lock, other], rfl⟩
  count := rfl
  orders := rfl
  weight := rfl
  inserts := List.filter_sublist

theorem rollbackTrx : Tame s (s.rollbackTrx m) m := endTrx

/-- To commit nothing changes nothing. -/
theorem commitTrx (quiet : Quiet s m) : Tame s (s.commitTrx m) m where
  others m' other :=
    have ends := (endTrx (s := s) (m := m)).others m' other
    ⟨ends.session, ends.rows, fun lock =>
      ⟨(ends.guarded lock).1, by simp [MysqlState.commitTrx, quiet.1]⟩⟩
  count := by simp [MysqlState.commitTrx, quiet.1]
  orders := by simp [MysqlState.commitTrx, quiet.2]
  weight := rfl
  inserts := List.filter_sublist

theorem stmtDone (quiet : (s.session m).autocommit = true → Quiet s m) :
    Tame s (s.stmtDone m) m := by
  unfold MysqlState.stmtDone
  split
  next on => exact commitTrx (quiet on)
  next => exact setSession

end Tame

theorem endTrx_quiet : Quiet (s.endTrx m) m := by
  refine ⟨by simp [MysqlState.endTrx, MysqlState.setSession], ?_⟩
  simp only [MysqlState.ownRows, MysqlState.endTrx, List.filter_filter]
  simp

/-! ## A session and its thread -/

/-- Session `m` owns the row lock on a stock of `n > 0`. -/
def Locks (s : MysqlState) (m : SessId) (n : Int) : Prop :=
  (s.session m).autocommit = false ∧ s.lock = some m ∧
    ∃ g : Nat, s.gTotalcount = some g ∧ (g : Int) = n ∧ 0 < n

/-- Session `m` has sold one of `n` to the user `name`, and not committed. -/
def Sold (s : MysqlState) (m : SessId) (name : Option Str) (n : Int) : Prop :=
  (s.session m).written = some (n - 1).toNat ∧
    (∃ usrName key, name = some usrName ∧ s.ownRows m = [⟨cStr usrName, key, ['1', '0']⟩]) ∧
    Locks s m n

/-- The session agrees with the thread's place in `seckillGoods_mysql`. -/
def SessionFits (s : MysqlState) (m : SessId) (name : Option Str) : MysqlPhase → Prop
  | .clean => Quiet s m
  | .off => Quiet s m ∧ (s.session m).autocommit = false
  | .selected => Quiet s m ∧ (s.session m).autocommit = false ∧ s.lock = some m ∧
      (s.session m).result = (s.gTotalcount.map fun g : Nat => [decimal g]).toList
  | .locked n => Quiet s m ∧ Locks s m n
  | .updated n => (s.session m).written = some (n - 1).toNat ∧ s.ownRows m = [] ∧ Locks s m n
  | .inserted n => Sold s m name n
  | .tried n => Quiet s m ∧ (s.session m).autocommit = false ∨ Sold s m name n
  | .doomed => (s.session m).autocommit = false

variable {name : Option Str} {p : MysqlPhase} {n : Int}

theorem Quiet.same (same : SameFor s s' m) (quiet : Quiet s m) : Quiet s' m :=
  ⟨by rw [same.session]; exact quiet.1, same.rows.trans quiet.2⟩

theorem Locks.same (same : SameFor s s' m) (locks : Locks s m n) : Locks s' m n := by
  obtain ⟨off, lock, g, count, rest⟩ := locks
  obtain ⟨lock', count'⟩ := same.guarded lock
  exact ⟨by rw [same.session]; exact off, lock', g, count'.trans count, rest⟩

theorem Sold.same (same : SameFor s s' m) (sold : Sold s m name n) : Sold s' m name n := by
  obtain ⟨written, ⟨usrName, key, named, rows⟩, locks⟩ := sold
  exact ⟨by rw [same.session]; exact written, ⟨usrName, key, named, same.rows.trans rows⟩,
    locks.same same⟩

/-- A thread does not notice what other sessions do. -/
theorem SessionFits.same (same : SameFor s s' m) (fits : SessionFits s m name p) :
    SessionFits s' m name p := by
  cases p with
  | clean => exact Quiet.same same fits
  | off => exact ⟨fits.1.same same, by rw [same.session]; exact fits.2⟩
  | selected =>
    obtain ⟨quiet, off, lock, result⟩ := fits
    obtain ⟨lock', count⟩ := same.guarded lock
    refine ⟨quiet.same same, ?_, lock', ?_⟩
    · rw [same.session]
      exact off
    · rw [same.session, count]
      exact result
  | locked n => exact ⟨fits.1.same same, fits.2.same same⟩
  | updated n => exact ⟨by rw [same.session]; exact fits.1, same.rows.trans fits.2.1,
      fits.2.2.same same⟩
  | inserted n => exact Sold.same same fits
  | tried n =>
    obtain ⟨quiet, off⟩ | sold := fits
    · exact Or.inl ⟨quiet.same same, by rw [same.session]; exact off⟩
    · exact Or.inr (sold.same same)
  | doomed =>
    change (s'.session m).autocommit = false
    rw [same.session]
    exact fits

/-- A name that was read stays. -/
theorem SessionFits.named {name' : Option Str} (stays : ∀ usrName, name = some usrName →
    name' = some usrName) (fits : SessionFits s m name p) : SessionFits s m name' p := by
  have sold {n : Int} (sold : Sold s m name n) : Sold s m name' n := by
    obtain ⟨written, ⟨usrName, key, named, rows⟩, locks⟩ := sold
    exact ⟨written, ⟨usrName, key, stays usrName named, rows⟩, locks⟩
  cases p with
  | clean | off | selected | locked n | updated n | doomed => exact fits
  | inserted n => exact sold fits
  | tried n => exact fits.imp_right sold

/-! ## One call of the thread itself -/

theorem quiet_setSession {x : Session} (quiet : Quiet s m)
    (written : x.written = (s.session m).written) : Quiet (s.setSession m x) m :=
  ⟨by simp [MysqlState.setSession, written, quiet.1], quiet.2⟩

theorem quiet_stmtDone (quiet : Quiet s m) : Quiet (s.stmtDone m) m := by
  unfold MysqlState.stmtDone
  split
  · exact endTrx_quiet
  · exact quiet_setSession quiet rfl

/-- A `SELECT` in autocommit mode or not, on a session without uncommitted work. -/
theorem select_tame (rows : List (List Str)) (quiet : Quiet s m) :
    Tame s ((s.setResult m rows).stmtDone m) m ∧ Quiet ((s.setResult m rows).stmtDone m) m ∧
      (((s.setResult m rows).stmtDone m).session m).autocommit = (s.session m).autocommit := by
  have between : Quiet (s.setResult m rows) m := quiet_setSession quiet rfl
  refine ⟨Tame.setSession.trans (Tame.stmtDone fun _ => between), quiet_stmtDone between, ?_⟩
  unfold MysqlState.stmtDone
  split <;> simp [MysqlState.setResult, MysqlState.setSession, MysqlState.commitTrx,
    MysqlState.endTrx]

/-- A statement that is not run leaves everything as it was, or rolls back. -/
theorem query_error {stmt : Stmt} {f : Fate} {error : Bool}
    (sent : s.query m stmt f = some (error, s')) (failed : f ≠ .ok) :
    Tame s s' m ∧ error = true ∧ (s'.session m).autocommit = (s.session m).autocommit ∧
      (Quiet s m → Quiet s' m) := by
  cases f <;> simp only [MysqlState.query, Option.some.injEq, Prod.mk.injEq, reduceCtorEq] at sent
  case ok => exact absurd rfl failed
  case fail =>
    obtain ⟨rfl, rfl⟩ := sent
    exact ⟨Tame.refl, rfl, rfl, id⟩
  case failRollback =>
    obtain ⟨rfl, rfl⟩ := sent
    exact ⟨Tame.rollbackTrx, rfl, by simp [MysqlState.rollbackTrx, MysqlState.endTrx,
      MysqlState.setSession], fun _ => endTrx_quiet⟩

/-- A statement that is run had not to wait. -/
theorem query_ok {stmt : Stmt} {error : Bool} (sent : s.query m stmt .ok = some (error, s')) :
    s.blocked m stmt = false ∧ (error, s') = s.runStmt m stmt := by
  simp only [MysqlState.query] at sent
  split at sent
  · cases sent
  next free => exact ⟨Bool.eq_false_iff.mpr free, (Option.some.inj sent).symm⟩

theorem selectUsrKey_fits {user : Str} {f : Fate} {error : Bool} (fits : SessionFits s m name .clean)
    (sent : s.query m (.selectUsrKey user) f = some (error, s')) :
    Tame s s' m ∧ SessionFits s' m name .clean := by
  by_cases done : f = .ok
  · subst done
    obtain ⟨_, ran⟩ := query_ok sent
    cases ran
    exact ⟨(select_tame _ fits).1, (select_tame _ fits).2.1⟩
  · obtain ⟨tame, _, _, quiet⟩ := query_error sent done
    exact ⟨tame, quiet fits⟩

theorem selectOrder_fits {user : Str} {f : Fate} {error : Bool} (fits : SessionFits s m name .off)
    (sent : s.query m (.selectOrder user) f = some (error, s')) :
    Tame s s' m ∧ SessionFits s' m name .off := by
  by_cases done : f = .ok
  · subst done
    obtain ⟨_, ran⟩ := query_ok sent
    cases ran
    obtain ⟨tame, quiet, same⟩ := select_tame _ fits.1
    exact ⟨tame, quiet, same.trans fits.2⟩
  · obtain ⟨tame, _, same, quiet⟩ := query_error sent done
    exact ⟨tame, quiet fits.1, same.trans fits.2⟩

/-- With autocommit off a statement only leaves the transaction open. -/
theorem stmtDone_off (off : (s.session m).autocommit = false) :
    s.stmtDone m = s.setSession m { s.session m with inTrx := true } := by
  simp [MysqlState.stmtDone, off]

/-- The `SELECT` takes the row lock and reads the committed count. -/
theorem selectGoods_fits {f : Fate} {error : Bool} (fits : SessionFits s m name .off)
    (sent : s.query m .selectGoods f = some (error, s')) :
    Tame s s' m ∧ SessionFits s' m name (if error then .off else .selected) := by
  by_cases done : f = .ok
  · subst done
    obtain ⟨free, ran⟩ := query_ok sent
    cases ran
    obtain ⟨quiet, off⟩ := fits
    have locked : Quiet (s.takeLock m) m := quiet
    obtain ⟨tame, after, same⟩ :=
      select_tame ((s.seenCount m).map fun g : Nat => [decimal g]).toList locked
    refine ⟨(Tame.takeLock free).trans tame, after, same.trans off, ?_⟩
    have still : (((s.takeLock m).setResult m ((s.seenCount m).map fun g : Nat =>
        [decimal g]).toList).session m).autocommit = false := by
      simpa [MysqlState.setResult, MysqlState.setSession, MysqlState.takeLock] using off
    rw [stmtDone_off still]
    simp [MysqlState.setResult, MysqlState.setSession, MysqlState.takeLock, MysqlState.seenCount,
      quiet.1]
  · obtain ⟨tame, rfl, same, quiet⟩ := query_error sent done
    exact ⟨tame, quiet fits.1, same.trans fits.2⟩

/-- The `UPDATE` writes the count read under the lock, less one. -/
theorem updateGoods_fits {f : Fate} {error : Bool} (fits : SessionFits s m name (.locked n))
    (sent : s.query m (.updateGoods (n - 1)) f = some (error, s')) :
    Tame s s' m ∧ SessionFits s' m name (if error then .doomed else .updated n) := by
  obtain ⟨quiet, off, lock, g, count, same, positive⟩ := fits
  by_cases done : f = .ok
  · subst done
    obtain ⟨free, ran⟩ := query_ok sent
    simp only [MysqlState.runStmt] at ran
    split at ran
    · cases ran
      exact ⟨Tame.refl, off⟩
    · cases ran
      have still : (((s.takeLock m).write m ((s.seenCount m).map fun _ => (n - 1).toNat)).session m
          ).autocommit = false := by
        simpa [MysqlState.write, MysqlState.setSession, MysqlState.takeLock] using off
      rw [stmtDone_off still]
      refine ⟨(Tame.takeLock free).trans (Tame.setSession.trans Tame.setSession), ?_, quiet.2, ?_⟩
      · simp [MysqlState.write, MysqlState.setSession, MysqlState.seenCount, quiet.1, count]
      · exact ⟨by simpa [MysqlState.write, MysqlState.setSession, MysqlState.takeLock] using off,
          rfl, g, count, same, positive⟩
  · obtain ⟨tame, rfl, same, _⟩ := query_error sent done
    exact ⟨tame, same.trans off⟩

/-! ## What calls do to the committed rows -/

/-- What is gone from the stock of `N` is in the orders, of which there were `L`. -/
def Stock (N L : Nat) (s : MysqlState) : Prop :=
  ∃ g sold, s.gTotalcount = some g ∧ s.orderInfo.length = L + sold ∧ g + sold = N

/-- All the orders there are, committed or not. -/
def allOrders (s : MysqlState) : List OrderRow := s.orderInfo ++ s.inserts.map Prod.snd

/-- No two of them are of the same name. -/
def Distinct (s : MysqlState) : Prop :=
  (allOrders s).Pairwise fun a b => s.sameName a.usrName b.usrName = false

/-- A call on session `m` that respects the other sessions and the law of the ledger. -/
structure Legal (s s' : MysqlState) (m : SessId) : Prop where
  others : ∀ m', m' ≠ m → SameFor s s' m'
  stock : ∀ N L, Stock N L s → Stock N L s'
  distinct : Distinct s → Distinct s'

theorem sameName_symm {a b : Str} (other : s.sameName a b = false) : s.sameName b a = false := by
  simp only [MysqlState.sameName, beq_eq_false_iff_ne] at other ⊢
  exact Ne.symm other

theorem Tame.legal (tame : Tame s s' m) : Legal s s' m where
  others := tame.others
  stock N L := by
    rw [Stock, Stock, tame.count, tame.orders]
    exact id
  distinct before := by
    simp only [Distinct, allOrders, MysqlState.sameName, tame.orders, tame.weight] at before ⊢
    exact before.sublist ((List.Sublist.refl _).append (tame.inserts.map _))

/-- The rows of one session and the rest are all the uncommitted ones. -/
theorem ownRows_perm :
    (s.ownRows m ++ (s.inserts.filter fun row => row.1 != m).map Prod.snd).Perm
      (s.inserts.map Prod.snd) := by
  rw [MysqlState.ownRows, ← List.map_append]
  exact (List.filter_append_perm (fun row => row.1 == m) s.inserts).map _

/-- To commit a sale takes one from the stock and adds one order. -/
theorem Sold.commit (sold : Sold s m name n) : Legal s (s.commitTrx m) m where
  others m' other := by
    have ends := (Tame.endTrx (s := s) (m := m)).others m' other
    refine ⟨ends.session, ends.rows, fun lock => ?_⟩
    -- the other session cannot have the lock
    obtain ⟨_, _, _, own, _⟩ := sold
    rw [own] at lock
    exact absurd (Option.some.inj lock) (Ne.symm other)
  stock N L := by
    rintro ⟨g, gone, count, orders, sum⟩
    obtain ⟨written, ⟨usrName, key, _, rows⟩, _, _, g', count', same, positive⟩ := sold
    obtain rfl : g = g' := Option.some.inj (count.symm.trans count')
    refine ⟨(n - 1).toNat, gone + 1, by simp [MysqlState.commitTrx, written], ?_, by omega⟩
    simp only [MysqlState.commitTrx, rows, List.length_append, List.length_singleton]
    omega
  distinct before := by
    have perm : (allOrders (s.commitTrx m)).Perm (allOrders s) := by
      simp only [allOrders, MysqlState.commitTrx, MysqlState.endTrx, List.append_assoc]
      exact ownRows_perm.append_left _
    exact (perm.pairwise_iff fun {_ _} other => sameName_symm other).mpr before

theorem insert_legal (row : OrderRow)
    (free : s.inserts.any (fun x => x.1 != m && s.sameName row.usrName x.2.usrName) = false)
    (fresh : (s.orderInfo ++ s.ownRows m).any (fun o => s.sameName o.usrName row.usrName) = false) :
    Legal s (s.addInsert m row) m where
  others m' other := by
    refine ⟨rfl, ?_, fun lock => ⟨lock, rfl⟩⟩
    simp [MysqlState.ownRows, MysqlState.addInsert, Ne.symm other]
  stock N L := id
  distinct before := by
    -- a row is committed, inserted by this session, or by one that would make it wait
    have apart : ∀ o ∈ allOrders s, s.sameName o.usrName row.usrName = false := by
      intro o member
      obtain committed | uncommitted := List.mem_append.mp member
      · exact Bool.eq_false_iff.mpr (List.any_eq_false.mp fresh o (List.mem_append_left _ committed))
      · obtain ⟨⟨m', o'⟩, inserted, rfl⟩ := List.mem_map.mp uncommitted
        by_cases own : m' = m
        · have mine : o' ∈ s.ownRows m :=
            List.mem_map.mpr ⟨(m', o'), List.mem_filter.mpr ⟨inserted, by simp [own]⟩, rfl⟩
          exact Bool.eq_false_iff.mpr (List.any_eq_false.mp fresh o' (List.mem_append_right _ mine))
        · have waits := Bool.eq_false_iff.mpr (List.any_eq_false.mp free (m', o') inserted)
          simp only [bne_iff_ne.mpr own, Bool.true_and] at waits
          exact sameName_symm waits
    have all : allOrders (s.addInsert m row) = allOrders s ++ [row] := by
      simp [allOrders, MysqlState.addInsert]
    rw [Distinct, all]
    refine List.pairwise_append.mpr ⟨before, List.pairwise_singleton _ _, ?_⟩
    intro o member o' last
    rw [List.mem_singleton.mp last]
    exact apart o member

/-- The `INSERT` adds the user's order to the sale, or is refused. -/
theorem insertOrder_fits {usrName key : Str} {f : Fate} {error : Bool}
    (phase : p = .doomed ∨ p = .updated n) (named : name = some usrName)
    (fits : SessionFits s m name p)
    (sent : s.query m (.insertOrder (cStr usrName) key) f = some (error, s')) :
    Legal s s' m ∧ (p = .doomed → SessionFits s' m name .doomed) ∧
      (p = .updated n → SessionFits s' m name (if error then .doomed else .inserted n)) := by
  have off : (s.session m).autocommit = false := by
    obtain rfl | rfl := phase
    · exact fits
    · exact fits.2.2.1
  by_cases done : f = .ok
  · subst done
    obtain ⟨free, ran⟩ := query_ok sent
    simp only [MysqlState.runStmt] at ran
    split at ran
    · -- refused by the primary key, with no effect
      cases ran
      exact ⟨Tame.refl.legal, fun _ => off, fun _ => off⟩
    next fresh =>
      cases ran
      have still : ((s.addInsert m ⟨cStr usrName, key, ['1', '0']⟩).session m).autocommit = false :=
        off
      rw [stmtDone_off still]
      have added := insert_legal ⟨cStr usrName, key, ['1', '0']⟩ free
        (Bool.eq_false_iff.mpr fresh)
      have opened := (Tame.setSession (s := s.addInsert m ⟨cStr usrName, key, ['1', '0']⟩)
        (m := m) (x := { s.session m with inTrx := true })).legal
      refine ⟨⟨fun m' other => (added.others m' other).trans (opened.others m' other),
        fun N L before => opened.stock N L (added.stock N L before),
        fun before => opened.distinct (added.distinct before)⟩, fun _ => ?_, fun updated => ?_⟩
      · simpa [SessionFits, MysqlState.setSession, MysqlState.addInsert] using off
      · subst updated
        obtain ⟨written, rows, _, lock, g, count, same, positive⟩ := fits
        refine ⟨by simpa [MysqlState.setSession, MysqlState.addInsert] using written, ?_, ?_⟩
        · refine ⟨usrName, key, named, ?_⟩
          simp only [MysqlState.ownRows, MysqlState.setSession, MysqlState.addInsert,
            List.filter_append, List.map_append] at rows ⊢
          simp [rows]
        · exact ⟨by simpa [MysqlState.setSession, MysqlState.addInsert] using off, lock, g, count,
            same, positive⟩
  · obtain ⟨tame, rfl, same, _⟩ := query_error sent done
    exact ⟨tame.legal, fun _ => same.trans off, fun _ => same.trans off⟩

/-- Reading the rows of the `SELECT` on the stock gives the committed count, if it is an `int`
    at all. -/
theorem fetchRows_selected {f : Fate} {rows : List (List Str)} {N L : Nat} (stock : Stock N L s)
    (range : N < 4294967296) (fits : SessionFits s m name .selected)
    (sent : s.fetchRows m f = some (rows, s')) :
    Tame s s' m ∧ SessionFits s' m name
      (if 0 < lastCount rows then .locked (lastCount rows) else .off) := by
  obtain ⟨quiet, off, lock, result⟩ := fits
  obtain ⟨g, gone, count, _, sum⟩ := stock
  have quiet' : Quiet (s.setResult m []) m := quiet_setSession quiet rfl
  have off' : ((s.setResult m []).session m).autocommit = false := by
    simpa [MysqlState.setResult, MysqlState.setSession] using off
  cases f <;> simp only [MysqlState.fetchRows, Option.some.injEq, Prod.mk.injEq, reduceCtorEq] at sent
  case ok =>
    obtain ⟨rfl, rfl⟩ := sent
    refine ⟨Tame.setSession, ?_⟩
    split
    next positive =>
      have value : lastCount (s.session m).result = atoi (decimal g) := by
        simp [result, count, lastCount]
      rw [value] at positive ⊢
      have exact_ : atoi (decimal g) = g :=
        atoi_decimal_of_pos (Int.natCast_nonneg g) (by omega) positive
      rw [exact_] at positive ⊢
      exact ⟨quiet', off', lock, g, count, rfl, positive⟩
    · exact ⟨quiet', off'⟩
  case fail =>
    obtain ⟨rfl, rfl⟩ := sent
    exact ⟨Tame.setSession, quiet', off'⟩

theorem fetchRows_fits {f : Fate} {rows : List (List Str)} (phase : p = .clean ∨ p = .off)
    (fits : SessionFits s m name p) (sent : s.fetchRows m f = some (rows, s')) :
    Tame s s' m ∧ SessionFits s' m name p := by
  have after : s' = s.setResult m [] := by
    cases f <;> simp only [MysqlState.fetchRows, Option.some.injEq, Prod.mk.injEq,
      reduceCtorEq] at sent
    all_goals exact sent.2.symm
  subst after
  refine ⟨Tame.setSession, ?_⟩
  obtain rfl | rfl := phase
  · exact quiet_setSession fits rfl
  · exact ⟨quiet_setSession fits.1 rfl,
      by simpa [MysqlState.setResult, MysqlState.setSession] using fits.2⟩

theorem autocommitOff_fits {f : Fate} {error : Bool} (fits : SessionFits s m name .clean)
    (effective : f = .fail → (s.session m).autocommit = false)
    (sent : s.autocommit m false f = some (error, s')) :
    Tame s s' m ∧ SessionFits s' m name .off := by
  cases f <;> simp only [MysqlState.autocommit, Bool.false_eq_true, if_false, Option.some.injEq,
    Prod.mk.injEq, reduceCtorEq] at sent
  case ok =>
    obtain ⟨_, rfl⟩ := sent
    exact ⟨Tame.setSession, quiet_setSession fits rfl, by simp [MysqlState.setSession]⟩
  case fail =>
    obtain ⟨_, rfl⟩ := sent
    exact ⟨Tame.refl, fits, effective rfl⟩

/-- Switching autocommit on commits what a failed `mysql_commit` has left. -/
theorem autocommitOn_fits {f : Fate} {error : Bool} (phase : p = .off ∨ p = .tried n)
    (fits : SessionFits s m name p) (effective : f = .fail → p ≠ .tried n)
    (sent : s.autocommit m true f = some (error, s')) :
    Legal s s' m ∧ SessionFits s' m name .clean := by
  cases f <;> simp only [MysqlState.autocommit, if_true, Option.some.injEq, Prod.mk.injEq,
    reduceCtorEq] at sent
  case ok =>
    obtain ⟨_, rfl⟩ := sent
    have quiet : Quiet ((s.commitTrx m).setSession m
        { (s.commitTrx m).session m with autocommit := true }) m :=
      quiet_setSession (s := s.commitTrx m) endTrx_quiet rfl
    have switched := (Tame.setSession (s := s.commitTrx m) (m := m)
      (x := { (s.commitTrx m).session m with autocommit := true })).legal
    refine ⟨?_, quiet⟩
    have committed : Legal s (s.commitTrx m) m := by
      obtain rfl | rfl := phase
      · exact (Tame.commitTrx fits.1).legal
      · obtain ⟨quiet, _⟩ | sold := fits
        · exact (Tame.commitTrx quiet).legal
        · exact sold.commit
    exact ⟨fun m' other => (committed.others m' other).trans (switched.others m' other),
      fun N L before => switched.stock N L (committed.stock N L before),
      fun before => switched.distinct (committed.distinct before)⟩
  case fail =>
    obtain ⟨_, rfl⟩ := sent
    obtain rfl | rfl := phase
    · exact ⟨Tame.refl.legal, fits.1⟩
    · exact absurd rfl (effective rfl)

theorem rollback_fits {f : Fate} {error : Bool} (fits : SessionFits s m name .doomed)
    (effective : f = .fail → Quiet s m) (sent : s.rollback m f = some (error, s')) :
    Tame s s' m ∧ SessionFits s' m name .off := by
  cases f <;> simp only [MysqlState.rollback, Option.some.injEq, Prod.mk.injEq,
    reduceCtorEq] at sent
  case ok =>
    obtain ⟨_, rfl⟩ := sent
    have off : (s.session m).autocommit = false := fits
    refine ⟨Tame.rollbackTrx, endTrx_quiet, ?_⟩
    simpa [MysqlState.rollbackTrx, MysqlState.endTrx, MysqlState.setSession] using off
  case fail =>
    obtain ⟨_, rfl⟩ := sent
    exact ⟨Tame.refl, effective rfl, fits⟩

/-- A `mysql_commit` that answers an error has rolled back, or has done nothing yet. -/
theorem commit_fits {f : Fate} {error : Bool} (fits : SessionFits s m name (.inserted n))
    (sent : s.commit m f = some (error, s')) :
    Legal s s' m ∧ SessionFits s' m name (if error then .tried n else .off) := by
  have off : (s.session m).autocommit = false := fits.2.2.1
  cases f <;> simp only [MysqlState.commit, Option.some.injEq, Prod.mk.injEq, reduceCtorEq] at sent
  case ok =>
    obtain ⟨rfl, rfl⟩ := sent
    refine ⟨Sold.commit fits, endTrx_quiet, ?_⟩
    simpa [MysqlState.commitTrx, MysqlState.endTrx, MysqlState.setSession] using off
  case fail =>
    obtain ⟨rfl, rfl⟩ := sent
    exact ⟨Tame.refl.legal, Or.inr fits⟩
  case failRollback =>
    obtain ⟨rfl, rfl⟩ := sent
    refine ⟨Tame.rollbackTrx.legal, Or.inl ⟨endTrx_quiet, ?_⟩⟩
    simpa [MysqlState.rollbackTrx, MysqlState.endTrx, MysqlState.setSession] using off

/-! ## The ledger along a run -/

/-- The thread's session agrees with the thread. -/
def SessionInStep (s : MysqlState) (l : Local) : Prop :=
  ∀ m, l.sql.con = some m → SessionFits s m l.job.userName l.sql.phase

/-- The primary key of `order_info` holds at the start. -/
def UniqueNames (st : Stores) : Prop :=
  st.orderInfo.Pairwise fun a b => collate st.weight a.usrName ≠ collate st.weight b.usrName

structure Ledger (N : Nat) (st : Stores) (s : MysqlState) (ls : Nat → Local) : Prop where
  stock : Stock N st.orderInfo.length s
  distinct : UniqueNames st → Distinct s
  fits : ∀ t, SessionInStep s (ls t)
  free : ∀ m, (∀ t, (ls t).sql.con ≠ some m) → Quiet s m

variable {N : Nat} {st : Stores} {ls : Nat → Local} {t : Nat} {l : Local}

/-- A call on the thread's own session. -/
theorem Ledger.session (ledger : Ledger N st s ls) (holds : HoldsSessions s ls)
    (con : (ls t).sql.con = some m) (con' : l.sql.con = some m) (legal : Legal s s' m)
    (own : SessionFits s' m l.job.userName l.sql.phase) :
    Ledger N st s' (Function.update ls t l) where
  stock := legal.stock N _ ledger.stock
  distinct unique := legal.distinct (ledger.distinct unique)
  fits := by
    intro t' m' held
    by_cases same : t' = t
    · subst same
      rw [Function.update_self] at held ⊢
      cases con'.symm.trans held
      exact own
    · rw [Function.update_of_ne same] at held ⊢
      have other : m' ≠ m := fun eq => same (holds.once (eq ▸ held) con)
      exact (ledger.fits t' m' held).same (legal.others m' other)
  free := by
    intro m' nobody
    have other : m' ≠ m := by
      rintro rfl
      exact nobody t (by rw [Function.update_self]; exact con')
    refine (ledger.free m' fun t' held => ?_).same (legal.others m' other)
    by_cases same : t' = t
    · subst same
      exact other (Option.some.inj (held.symm.trans con))
    · exact nobody t' (by rw [Function.update_of_ne same]; exact held)

/-- A call that is not MySQL's. -/
theorem Ledger.keep (ledger : Ledger N st s ls) (sql : l.sql = (ls t).sql)
    (named : ∀ usrName, (ls t).job.userName = some usrName → l.job.userName = some usrName) :
    Ledger N st s (Function.update ls t l) where
  stock := ledger.stock
  distinct := ledger.distinct
  fits := by
    refine forall_update ledger.fits fun m held => ?_
    rw [sql] at held ⊢
    exact (ledger.fits t m held).named named
  free := by
    intro m nobody
    refine ledger.free m fun t' held => nobody t' ?_
    rw [update_eq (fun l : Local => l.sql.con) (congrArg MysqlLocal.con sql)]
    exact held

/-- A thread without a session may get one while those held stay as they are. -/
theorem Ledger.acquire (ledger : Ledger N st s ls) (without : (ls t).sql.con = none)
    (same : ∀ m, (∃ t', (ls t').sql.con = some m) → SameFor s s' m)
    (quiet : ∀ m, Quiet s m → Quiet s' m) (stock : Stock N st.orderInfo.length s')
    (distinct : UniqueNames st → Distinct s')
    (own : SessionInStep s' l) : Ledger N st s' (Function.update ls t l) where
  stock := stock
  distinct := distinct
  fits := by
    intro t' m held
    by_cases eq : t' = t
    · subst eq
      rw [Function.update_self] at held ⊢
      exact own m held
    · rw [Function.update_of_ne eq] at held ⊢
      exact (ledger.fits t' m held).same (same m ⟨t', held⟩)
  free := by
    intro m nobody
    refine quiet m (ledger.free m fun t' held => ?_)
    by_cases eq : t' = t
    · subst eq
      exact absurd (without.symm.trans held) nofun
    · exact nobody t' (by rw [Function.update_of_ne eq]; exact held)

/-- Dead connections at the head of the pool are closed; their sessions are rolled back. -/
theorem evict_spec (alive : SessId → Bool) (pool : List SessId) (s : MysqlState) :
    (∀ m, m ∉ pool → SameFor s (MysqlState.evict alive pool s) m) ∧
      (∀ m, Quiet s m → Quiet (MysqlState.evict alive pool s) m) ∧
      (∀ N L, Stock N L s → Stock N L (MysqlState.evict alive pool s)) ∧
      (Distinct s → Distinct (MysqlState.evict alive pool s)) := by
  induction pool generalizing s with
  | nil => exact ⟨fun _ _ => ⟨rfl, rfl, fun lock => ⟨lock, rfl⟩⟩, fun _ => id, fun _ _ => id, id⟩
  | cons dead rest ih =>
    unfold MysqlState.evict
    split
    · exact ⟨fun _ _ => ⟨rfl, rfl, fun lock => ⟨lock, rfl⟩⟩, fun _ => id, fun _ _ => id, id⟩
    · have tame := Tame.rollbackTrx (s := s) (m := dead)
      obtain ⟨same, quiet, stock, distinct⟩ :=
        ih { s.rollbackTrx dead with connectCount := s.connectCount - 1 }
      refine ⟨fun m absent => ?_, fun m before => quiet m ?_,
        fun N L before => stock N L (tame.legal.stock N L before),
        fun before => distinct (tame.legal.distinct before)⟩
      · have other : m ≠ dead := fun eq => absent (by simp [eq])
        have first := tame.others m other
        have middle : SameFor s { s.rollbackTrx dead with connectCount := s.connectCount - 1 } m :=
          ⟨first.session, first.rows, first.guarded⟩
        exact middle.trans (same m fun member => absent (List.mem_cons_of_mem _ member))
      · by_cases own : m = dead
        · subst own
          exact endTrx_quiet (s := s)
        · have first := tame.others m own
          exact ⟨by rw [← before.1]; exact congrArg Session.written first.session,
            first.rows.trans before.2⟩

theorem Ledger.getOneConnect {alive : SessId → Bool} {connects : Bool} {r : Option SessId}
    (ledger : Ledger N st s ls) (holds : HoldsSessions s ls) (without : (ls t).sql.con = none)
    (sql : l.sql = ⟨r, .clean⟩) (got : s.getOneConnect alive connects = (r, s'')) :
    Ledger N st s'' (Function.update ls t l) := by
  obtain ⟨s', evicted, cases⟩ := s.getOneConnect_cases alive connects
  obtain ⟨same, quiet, stock, distinct⟩ := evict_spec alive s.mysqlpool s
  obtain ⟨sub, fresh⟩ := s.evict_pool alive s.mysqlpool
  rw [← evicted] at same quiet stock distinct sub fresh
  have kept : ∀ m, (∃ t', (ls t').sql.con = some m) → SameFor s s' m :=
    fun m ⟨_, held⟩ => same m (holds.apart held)
  have nobody {m : SessId} (absent : ∀ t', (ls t').sql.con ≠ some m) : Quiet s' m :=
    quiet m (ledger.free m absent)
  obtain ⟨m, rest, pool, taken⟩ | ⟨_, made⟩ | none := cases
  · -- a pooled connection is nobody's, so nothing is open in it
    rw [taken] at got
    cases got
    have free : m ∈ s.mysqlpool := sub.subset (by simp [pool])
    have clean : Quiet s' m := nobody fun t' held => holds.apart held free
    refine ledger.acquire without (fun m held => ?_) quiet (stock N _ ledger.stock)
      (fun unique => distinct (ledger.distinct unique)) fun m' held => ?_
    · exact ⟨(kept m held).session, (kept m held).rows, (kept m held).guarded⟩
    · rw [sql] at held ⊢
      cases held
      exact clean
  · -- nobody can hold a connection that was not made
    rw [made] at got
    cases got
    have clean : Quiet s' s'.fresh :=
      nobody fun t' held => absurd (holds.held_made held) (by rw [fresh]; exact Nat.lt_irrefl _)
    refine ledger.acquire without (fun m held => ?_) (fun m before => ?_) (stock N _ ledger.stock)
      (fun unique => distinct (ledger.distinct unique)) fun m' held => ?_
    · have other : m ≠ s'.fresh := by
        rintro rfl
        obtain ⟨t', held⟩ := held
        exact absurd (holds.held_made held) (by rw [fresh]; exact Nat.lt_irrefl _)
      exact ⟨(Function.update_of_ne other _ _).trans (kept m held).session, (kept m held).rows,
        (kept m held).guarded⟩
    · by_cases own : m = s'.fresh
      · subst own
        exact ⟨by simp [MysqlState.setSession], clean.2⟩
      · exact ⟨by simpa [MysqlState.setSession, own] using (quiet m before).1, (quiet m before).2⟩
    · rw [sql] at held ⊢
      cases held
      exact ⟨by simp [MysqlState.setSession], clean.2⟩
  · rw [none] at got
    cases got
    refine ledger.acquire without kept quiet (stock N _ ledger.stock)
      (fun unique => distinct (ledger.distinct unique)) fun m' held => ?_
    rw [sql] at held
    cases held

theorem Ledger.close (ledger : Ledger N st s ls) (sql : (ls t).sql = ⟨some m, .clean⟩)
    (without : l.sql.con = none) : Ledger N st (s.close m) (Function.update ls t l) where
  stock := ledger.stock
  distinct := ledger.distinct
  fits := by
    refine forall_update ledger.fits fun m' held => ?_
    rw [without] at held
    cases held
  free := by
    intro m' nobody
    have clean : Quiet s m := by
      have fits := ledger.fits t m (by rw [sql])
      rwa [sql] at fits
    by_cases own : m' = m
    · subst own
      exact clean
    · refine ledger.free m' fun t' held => ?_
      by_cases eq : t' = t
      · subst eq
        rw [sql] at held
        exact own (Option.some.inj held).symm
      · exact nobody t' (by rw [Function.update_of_ne eq]; exact held)

/-- The failures of MySQL that the ledger does not stand: `mysql_autocommit(OFF)` without
    effect, and `mysql_rollback` or the commit in `mysql_autocommit(ON)` failing with work
    undone. -/
def SoundMysql : Condition server := fun h s ev =>
  match ev with
  | .call _ (.mysql (.autocommit m false)) .fail _ => (s.mysql.session m).autocommit = false
  | .call t (.mysql (.autocommit _ true)) .fail _ => ∀ n, (locals watch h t).sql.phase ≠ .tried n
  | .call _ (.mysql (.rollback m)) .fail _ => Quiet s.mysql m
  | _ => True

theorem Ledger.query {stmt : Stmt} {f : Fate} {error : Bool} (ledger : Ledger N st s ls)
    (holds : HoldsSessions s ls) (con : (ls t).sql.con = some m)
    (allowed : (ls t).AllowsStmt stmt) (sent : s.query m stmt f = some (error, s')) :
    Ledger N st s' (Function.update ls t ((ls t).note (.mysql (.query m stmt)) f error)) := by
  have fits := ledger.fits t m con
  have held : ((ls t).note (.mysql (.query m stmt)) f error).sql.con = some m := by
    rw [Local.note_con (by simp) (by simp)]
    exact con
  cases stmt with
  | selectUsrKey user =>
    change (ls t).sql.phase = .clean at allowed
    rw [allowed] at fits
    obtain ⟨tame, after⟩ := selectUsrKey_fits fits sent
    refine ledger.session holds con held tame.legal ?_
    simpa [Local.note, Local.noteMysql, Local.noteQuery, allowed] using after
  | selectOrder user =>
    change (ls t).sql.phase = .off at allowed
    rw [allowed] at fits
    obtain ⟨tame, after⟩ := selectOrder_fits fits sent
    refine ledger.session holds con held tame.legal ?_
    simpa [Local.note, Local.noteMysql, Local.noteQuery, allowed] using after
  | selectGoods =>
    rw [allowed.1] at fits
    obtain ⟨tame, after⟩ := selectGoods_fits fits sent
    refine ledger.session holds con held tame.legal ?_
    cases error <;> exact after
  | updateGoods count =>
    obtain ⟨n, locked, positive, rfl⟩ := allowed
    rw [locked] at fits
    obtain ⟨tame, after⟩ := updateGoods_fits fits sent
    refine ledger.session holds con held tame.legal ?_
    simp only [Local.note, Local.noteMysql, Local.noteQuery, locked]
    cases error <;> exact after
  | insertOrder user key =>
    obtain ⟨phase, usrName, named, rfl⟩ := allowed
    obtain doomed | ⟨n, updated⟩ := phase
    · -- the `UPDATE` has failed, and so will the sale
      rw [doomed] at fits
      obtain ⟨legal, after, _⟩ := insertOrder_fits (n := 0) (Or.inl rfl) named fits sent
      refine ledger.session holds con held legal ?_
      simpa only [Local.note, Local.noteMysql, Local.noteQuery, doomed] using after rfl
    · rw [updated] at fits
      obtain ⟨legal, _, after⟩ := insertOrder_fits (Or.inr rfl) named fits sent
      refine ledger.session holds con held legal ?_
      simp only [Local.note, Local.noteMysql, Local.noteQuery, updated]
      cases error <;> exact after rfl

theorem Ledger.fetchRows {f : Fate} {rows : List (List Str)} (range : N < 4294967296)
    (ledger : Ledger N st s ls) (holds : HoldsSessions s ls) (con : (ls t).sql.con = some m)
    (phase : (ls t).sql.phase = .clean ∨ (ls t).sql.phase = .off ∨ (ls t).sql.phase = .selected)
    (sent : s.fetchRows m f = some (rows, s')) :
    Ledger N st s' (Function.update ls t ((ls t).note (.mysql (.fetchRows m)) f rows)) := by
  have fits := ledger.fits t m con
  have held : ((ls t).note (.mysql (.fetchRows m)) f rows).sql.con = some m := by
    rw [Local.note_con (by simp) (by simp)]
    exact con
  by_cases selected : (ls t).sql.phase = .selected
  · rw [selected] at fits
    obtain ⟨tame, after⟩ := fetchRows_selected ledger.stock range fits sent
    refine ledger.session holds con held tame.legal ?_
    simp only [Local.note, Local.noteMysql, Local.noteRows, selected]
    split
    next positive =>
      rw [if_pos positive] at after
      exact after
    next refused =>
      rw [if_neg refused] at after
      exact after
  · have other : (ls t).sql.phase = .clean ∨ (ls t).sql.phase = .off := by
      simpa [selected] using phase
    obtain ⟨tame, after⟩ := fetchRows_fits other fits sent
    refine ledger.session holds con held tame.legal ?_
    simpa only [Local.note, Local.noteMysql, noteRows_of_ne selected] using after

theorem Ledger.mysql {c : MysqlCall} {f : Fate} {r : c.Reply} {h : History server} {s : Server}
    (range : N < 4294967296) (ledger : Ledger N st s.mysql (locals watch h))
    (holds : HoldsSessions s.mysql (locals watch h))
    (sound : SoundMysql h s (.call t (.mysql c) f r))
    (allowed : (locals watch h t).AllowsMysql c) (done : s.mysql.exec c f = some (r, s')) :
    Ledger N st s' (Function.update (locals watch h) t ((locals watch h t).note (.mysql c) f r)) := by
  cases c with
  | getOneConnect =>
    have without : (locals watch h t).sql.con = none := by rw [allowed.1]
    obtain ⟨_, _, got⟩ := MysqlState.exec_getOneConnect done
    exact ledger.getOneConnect holds without rfl got
  | close m =>
    cases f <;> cases done
    exact ledger.close allowed rfl
  | autocommit m mode =>
    cases mode with
    | false =>
      have con : (locals watch h t).sql.con = some m := by rw [allowed]
      have fits := ledger.fits t m con
      rw [allowed] at fits
      have effective : f = .fail → (s.mysql.session m).autocommit = false := by
        rintro rfl
        exact sound
      obtain ⟨tame, after⟩ := autocommitOff_fits fits effective done
      exact ledger.session holds con con tame.legal after
    | true =>
      obtain ⟨p, sql, phase⟩ : ∃ p, (locals watch h t).sql = ⟨some m, p⟩ ∧
          (p = .off ∨ ∃ n, p = .tried n) := by
        obtain off | ⟨n, tried⟩ := allowed
        · exact ⟨_, off, Or.inl rfl⟩
        · exact ⟨_, tried, Or.inr ⟨n, rfl⟩⟩
      have con : (locals watch h t).sql.con = some m := by rw [sql]
      have fits := ledger.fits t m con
      rw [sql] at fits
      -- it may fail only where nothing is left to commit
      have effective (n : Int) : f = .fail → p ≠ .tried n := by
        rintro rfl
        have never := sound n
        rwa [sql] at never
      obtain off | ⟨n, tried⟩ := phase
      · obtain ⟨legal, after⟩ := autocommitOn_fits (n := 0) (Or.inl off) fits (effective 0) done
        exact ledger.session holds con con legal after
      · obtain ⟨legal, after⟩ := autocommitOn_fits (Or.inr tried) fits (effective n) done
        exact ledger.session holds con con legal after
  | query m stmt => exact ledger.query holds allowed.1 allowed.2 done
  | fetchRows m => exact ledger.fetchRows range holds allowed.1 allowed.2 done
  | rollback m =>
    have con : (locals watch h t).sql.con = some m := by rw [allowed]
    have fits := ledger.fits t m con
    rw [allowed] at fits
    have effective : f = .fail → Quiet s.mysql m := by
      rintro rfl
      exact sound
    obtain ⟨tame, after⟩ := rollback_fits fits effective done
    exact ledger.session holds con con tame.legal after
  | commit m =>
    obtain ⟨⟨n, sql⟩, _⟩ := allowed
    have con : (locals watch h t).sql.con = some m := by rw [sql]
    have fits := ledger.fits t m con
    rw [sql] at fits
    obtain ⟨legal, after⟩ := commit_fits fits done
    refine ledger.session holds con con legal ?_
    simp only [Local.note, Local.noteMysql, Local.noteCommit, sql]
    cases r <;> exact after

theorem note_grpc_userName {c : GrpcCall} {f : Fate} {r : c.Reply} {usrName : Str}
    (allowed : l.AllowsGrpc c) (named : l.job.userName = some usrName) :
    (l.note (.grpc c) f r).job.userName = some usrName := by
  cases c with
  | usrname w => exact absurd (named.symm.trans allowed.2.2) nofun
  | next =>
    rw [allowed.1] at named
    cases named
  | setStatus w st =>
    simp only [Local.note, Local.noteGrpc, Job.noteStatus]
    (repeat' split) <;> exact named
  | requestseckill w =>
    simp only [Local.note, Local.noteGrpc, Job.noteRegistered]
    split <;> exact named
  | alloc | status w | usrkey w | setResult w result | result w | finish w result | delete w =>
    exact named

variable {ok : Condition server} {st : Stores} {h : History server} {cfg : Config server}

/-- The ledger stands along every run whose MySQL failures are sound. -/
theorem ledger (range : N < 4294967296) (start : st.gTotalcount = some N)
    (sound : ∀ {h s ev}, ok h s ev → SoundMysql h s ev) (run : Run ok (boot st) h cfg) :
    Ledger N st cfg.state.mysql (locals watch h) := by
  refine server_invariant (fun _ s ls => Ledger N st s.mysql ls)
    ?initial ?redis ?mysql ?counter ?grpc ?start run
  case initial =>
    refine ⟨⟨N, 0, start, rfl, rfl⟩, fun unique => ?_, fun _ _ => (by simp), fun _ _ => ⟨rfl, rfl⟩⟩
    simpa [Distinct, allOrders, boot, MysqlState.sameName, UniqueNames] using unique
  case redis =>
    intro h cfg t c f r x _ inv _ _ _
    exact inv.keep (by simp) (by simp)
  case mysql =>
    intro h cfg t c f r x run inv met allowed exec
    exact inv.mysql range (sessions_exclusive run) (sound met) allowed exec
  case counter =>
    intro h cfg t c f r x _ inv _ _ _
    exact inv.keep (by simp) (by simp)
  case grpc =>
    intro h cfg t c f r x _ inv _ allowed _
    exact inv.keep (by simp) fun usrName => note_grpc_userName allowed
  case start =>
    intro h cfg t e _ inv _ settled
    refine ⟨inv.stock, inv.distinct, forall_update inv.fits ?_, fun m nobody => inv.free m ?_⟩
    · cases e <;> rintro _ ⟨⟩
    · intro t' held
      by_cases same : t' = t
      · subst same
        rw [settled.sql] at held
        cases held
      · exact nobody t' (by rw [Function.update_of_ne same]; exact held)

end Seckill
