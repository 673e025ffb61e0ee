import Seckill.Verified.Sale
import Seckill.Verified.TextRuns

/-! # When `seckillGoods_mysql` is exact, and when it is atomic

Every combination of outcomes of one call for a verbatim request, from any database.  Its failure
branch counts a unit back whoever called, and the branch that finds nothing to sell counts none:
that is right for one of the two callers each time.  And the results of `mysql_autocommit(OFF)` and
`mysql_rollback` are not looked at, so that one write can become durable without the other.
-/

namespace Seckill

open CStr CallTree Transaction

variable {other : Dialect} {t : Nat} {o : Outcomes} {s s' : Server} {this : WorkerId} {m : SessId} {name key : Str}

/-! ## The account of the unit -/

/-- Who calls `seckillGoods_mysql`: `seckillGoods` after an `EXEC` that went through, or at its
    `redisconn == NULL` test. -/
inductive Caller where
  | afterExec
  | noContext
  deriving DecidableEq

/-- The units the caller took from Redis. -/
def Caller.units : Caller → Int
  | .afterExec => 1
  | .noContext => 0

/-- One unit is sold and one order written. -/
def SellsOne (name key : Str) (before after : Shop) : Prop :=
  ∃ n, before.stock = some (n + 1) ∧
    after = ⟨some n, before.rows ++ [⟨cStr name, cStr key, ['1', '0']⟩]⟩

/-- The call commits and answers `"1"`, or leaves the database alone, answers `"0"` and counts the
    caller's units as failed. -/
def Exact (caller : Caller) (this : WorkerId) (name key : Str) (s s' : Server) : Prop :=
  SellsOne name key s.mysql.shop s'.mysql.shop ∧
      s'.counters.failedCount = s.counters.failedCount ∧ answerOf s' this = some one ∨
    s'.mysql.shop = s.mysql.shop ∧
      s'.counters.failedCount = s.counters.failedCount + caller.units ∧
      answerOf s' this = some zero

/-- After an `EXEC` the `SELECT` has to find stock; without a context it has to find none, or both
    writes have to be done. -/
def Caller.fits (caller : Caller) (o : Outcomes) (s : MysqlState) (m : SessId) (name : Str) :
    Prop :=
  match caller with
  | .afterExec => 0 < o.totalCount s.shop
  | .noContext => 0 < o.totalCount s.shop → o.booked s m (cStr name)

/-- Both writes sell one unit. -/
theorem writes_sell {shop : Shop} {n : Nat} (stock : shop.stock = some (n + 1)) :
    SellsOne name key shop
      (Shop.addRow (cStr name) (cStr key) (Shop.setStock ((n : Int) + 1 - 1) shop)) := by
  refine ⟨n, stock, ?_⟩
  simp [Shop.addRow, Shop.setStock, stock]

/-- With the transaction switched on and off and `mysql_commit` and `mysql_rollback` succeeding,
    a call for a verbatim request is exact if and only if its outcomes fit the caller. -/
theorem compensation_exact (caller : Caller) (verbatim : Request.Verbatim ⟨this, name, key⟩)
    (called : Called s this m name key o)
    (works : o.off = true ∧ o.rollback = true ∧ o.commit = true ∧ o.on = true) :
    ∃ s', (seckillGoodsMysql this name key (some m)).alone (readingTexts other o.fate t) s =
        some ((), s') ∧
      (Exact caller this name key s s' ↔ caller.fits o s.mysql m name) := by
  obtain ⟨a, s', ends, done⟩ := seckillGoodsMysql_ends (t := t) called
  refine ⟨s', (seckillGoodsMysql_texts verbatim).trans ends, ?_⟩
  obtain ⟨off, rolls, commits, on⟩ := works
  by_cases positive : 0 < o.totalCount s.mysql.shop
  · obtain ⟨view, failed, answer⟩ := done.sold positive
    obtain ⟨_, n, stock, count, _⟩ := totalCount_range called.range positive
    have settled := (opened_settled (o := o) called.settled).2
    have durable := congrArg Trx.durable view
    rw [commits, rolls, on, Trx.work_exact settled (by simp [Outcomes.opened, off]), count] at durable
    change s'.mysql.shop = if o.booked s.mysql m (cStr name) then _ else s.mysql.shop at durable
    by_cases booked : o.booked s.mysql m (cStr name)
    · -- sold, with nothing to count back
      rw [if_pos booked] at durable failed answer
      have sold : SellsOne name key s.mysql.shop s'.mysql.shop := durable ▸ writes_sell stock
      apply iff_of_true (Or.inl ⟨sold, by omega, answer⟩)
      cases caller with
      | afterExec => exact positive
      | noContext => exact fun _ => booked
    · rw [if_neg booked] at durable failed answer
      cases caller with
      | afterExec => exact iff_of_true (Or.inr ⟨durable, failed, answer⟩) positive
      | noContext =>
        apply iff_of_false
        · rintro (⟨_, _, one⟩ | ⟨_, same, _⟩)
          · rw [answer] at one
            cases one
          · -- a unit is counted back that was never taken
            change _ = s.counters.failedCount + 0 at same
            omega
        · exact fun all => booked (all positive)
  · obtain ⟨same, failed, answer⟩ := done.refused positive
    cases caller with
    | afterExec =>
      apply iff_of_false
      · rintro (⟨_, _, one⟩ | ⟨_, more, _⟩)
        · rw [answer] at one
          cases one
        · -- the unit taken from Redis is not counted back
          change _ = s.counters.failedCount + 1 at more
          omega
      · exact positive
    | noContext =>
      apply iff_of_true
      · exact Or.inr ⟨same, failed.trans (Int.add_zero _).symm, answer⟩
      · exact fun absurd => (positive absurd).elim

/-- A `Worker` with a request, and 50 units in stock. -/
def oneWorker : Server := boot (agreeing [] 50)

theorem oneWorker_called (o : Outcomes) : Called oneWorker 0 0 ['u'] ['k'] o where
  worker := ⟨_, rfl⟩
  unlocked := rfl
  settled := rfl
  range n stock := by
    cases stock
    decide
  select _ := rfl
  insert _ := rfl

/-- The outcomes where only the `INSERT` fails. -/
def insertFails : Outcomes := { insert := .fail }

theorem compensation_exact_insert_fails :
    ∃ s', (seckillGoodsMysql 0 ['u'] ['k'] (some 0)).alone (readingTexts allKeys insertFails.fate 0)
        oneWorker = some ((), s') ∧ Exact .afterExec 0 ['u'] ['k'] oneWorker s' := by
  obtain ⟨s', ends, exact_iff⟩ := compensation_exact (t := 0) .afterExec (by decide)
    (oneWorker_called insertFails) ⟨rfl, rfl, rfl, rfl⟩
  refine ⟨s', ends, exact_iff.mpr ?_⟩
  show 0 < insertFails.totalCount oneWorker.mysql.shop
  decide

def selectFails : Outcomes := { select := .fail }

def updateFails : Outcomes := { update := .fail }

/-- The `SELECT` fails after an `EXEC`: the unit is answered `"0"` and not counted back.  The
    `UPDATE` fails without a context: a unit is counted back that was never taken. -/
theorem compensation_inexact :
    (∃ s', (seckillGoodsMysql 0 ['u'] ['k'] (some 0)).alone (readingTexts allKeys selectFails.fate 0)
        oneWorker = some ((), s') ∧ s'.counters.failedCount = 0 ∧ answerOf s' 0 = some zero ∧
      ¬Exact .afterExec 0 ['u'] ['k'] oneWorker s') ∧
    ∃ s', (seckillGoodsMysql 0 ['u'] ['k'] (some 0)).alone (readingTexts allKeys updateFails.fate 0)
        oneWorker = some ((), s') ∧ s'.counters.failedCount = 1 ∧ answerOf s' 0 = some zero ∧
      ¬Exact .noContext 0 ['u'] ['k'] oneWorker s' := by
  have first : (((seckillGoodsMysql 0 ['u'] ['k'] (some 0)).alone
      (readingTexts allKeys selectFails.fate 0) oneWorker).any fun x =>
        x.2.counters.failedCount == 0 && answerOf x.2 0 == some zero) = true := by decide +kernel
  have second : (((seckillGoodsMysql 0 ['u'] ['k'] (some 0)).alone
      (readingTexts allKeys updateFails.fate 0) oneWorker).any fun x =>
        x.2.counters.failedCount == 1 && answerOf x.2 0 == some zero) = true := by decide +kernel
  constructor
  · obtain ⟨⟨_, s'⟩, ends, after⟩ := (Option.any_eq_true _ _).mp first
    simp only [Bool.and_eq_true, beq_iff_eq] at after
    refine ⟨s', ends, after.1, after.2, ?_⟩
    rintro (⟨_, _, one⟩ | ⟨_, more, _⟩)
    · rw [after.2] at one
      cases one
    · rw [after.1] at more
      cases more
  · obtain ⟨⟨_, s'⟩, ends, after⟩ := (Option.any_eq_true _ _).mp second
    simp only [Bool.and_eq_true, beq_iff_eq] at after
    refine ⟨s', ends, after.1, after.2, ?_⟩
    rintro (⟨_, _, one⟩ | ⟨_, same, _⟩)
    · rw [after.2] at one
      cases one
    · rw [after.1] at same
      cases same

/-! ## The two tables -/

/-- The stock and the orders changed together, by one each, or not at all. -/
def Atomic (name key : Str) (before after : Shop) : Prop :=
  after = before ∨ SellsOne name key before after

/-- One of the two writes was done and the other was not, and it was not undone: autocommit was
    still on, or the rollback failed and `mysql_autocommit(ON)` committed what was left. -/
def Outcomes.tears (o : Outcomes) (s : MysqlState) (m : SessId) (name : Str) : Prop :=
  0 < o.totalCount s.shop ∧
    (o.update = .ok ↔ s.insertOutcome m (cStr name) o.insert ≠ .ok) ∧
    ((o.opened (s.view m)).autocommit = true ∨ o.rollback = false ∧ o.on = true)

/-- A shop is not torn exactly if both writes or none of them reached it. -/
theorem atomic_effect (name key : Str) {shop : Shop} {n : Nat} (stock : shop.stock = some (n + 1))
    (first second : Outcome) (plain : first ≠ .failRollback ∧ second ≠ .failRollback) :
    Atomic name key shop (Trx.effect (Shop.addRow (cStr name) (cStr key)) second
      (Trx.effect (Shop.setStock ((n : Int) + 1 - 1)) first shop)) ↔
        ¬(first = .ok ↔ second ≠ .ok) := by
  obtain ⟨noFirst, noSecond⟩ := plain
  have less : Shop.setStock ((n : Int) + 1 - 1) shop = ⟨some n, shop.rows⟩ := by
    simp [Shop.setStock, stock]
  cases first with
  | failRollback => exact absurd rfl noFirst
  | ok =>
    cases second with
    | failRollback => exact absurd rfl noSecond
    | ok => exact iff_of_true (Or.inr (writes_sell stock)) (by simp)
    | fail =>
      apply iff_of_false
      · -- the unit is gone and there is no order
        simp only [Trx.effect, id_eq, less]
        rintro (same | ⟨k, _, sold⟩)
        · have eq := congrArg Shop.stock same
          rw [stock] at eq
          simp at eq
        · have eq := congrArg (fun shop : Shop => shop.rows.length) sold
          simp at eq
      · simp
  | fail =>
    cases second with
    | failRollback => exact absurd rfl noSecond
    | fail => exact iff_of_true (Or.inl rfl) (by simp)
    | ok =>
      apply iff_of_false
      · -- there is an order and the unit is still there
        simp only [Trx.effect, id_eq, Shop.addRow]
        rintro (same | ⟨k, before, sold⟩)
        · have eq := congrArg (fun shop : Shop => shop.rows.length) same
          simp at eq
        · have eq := congrArg Shop.stock sold
          rw [before] at eq
          simp at eq
      · simp

/-- Whatever calls fail for a verbatim request, each without effect, the stock and the orders stay
    together if and only if the outcomes do not tear them. -/
theorem sale_atomic (verbatim : Request.Verbatim ⟨this, name, key⟩)
    (called : Called s this m name key o)
    (plain : o.update ≠ .failRollback ∧ o.insert ≠ .failRollback) :
    ∃ s', (seckillGoodsMysql this name key (some m)).alone (readingTexts other o.fate t) s =
        some ((), s') ∧
      (Atomic name key s.mysql.shop s'.mysql.shop ↔ ¬o.tears s.mysql m name) := by
  obtain ⟨a, s', ends, done⟩ := seckillGoodsMysql_ends (t := t) called
  refine ⟨s', (seckillGoodsMysql_texts verbatim).trans ends, ?_⟩
  by_cases positive : 0 < o.totalCount s.mysql.shop
  · obtain ⟨view, _, _⟩ := done.sold positive
    obtain ⟨_, n, stock, count, _⟩ := totalCount_range called.range positive
    have settled := (opened_settled (o := o) called.settled).2
    have plain' : o.update ≠ .failRollback ∧
        s.mysql.insertOutcome m (cStr name) o.insert ≠ .failRollback := by
      refine ⟨plain.1, ?_⟩
      unfold MysqlState.insertOutcome
      split
      · simp
      · exact plain.2
    have durable := congrArg Trx.durable view
    rw [Trx.work_durable settled plain', count] at durable
    have whole := atomic_effect name key stock o.update
      (s.mysql.insertOutcome m (cStr name) o.insert) plain'
    -- with one write carried out and the other not it comes to whether the half lasts
    by_cases torn : o.update = .ok ↔ s.mysql.insertOutcome m (cStr name) o.insert ≠ .ok
    · have half : ¬(o.update = .ok ∧ s.mysql.insertOutcome m (cStr name) o.insert = .ok) :=
        fun both => torn.mp both.1 both.2
      have lasts_iff : (o.opened (s.mysql.view m)).Lasts o.update
          (s.mysql.insertOutcome m (cStr name) o.insert) o.commit o.rollback o.on ↔ _ :=
        Trx.lasts_partial half
      split at durable
      next lasts =>
        change s'.mysql.shop = _ at durable
        rw [durable]
        exact iff_of_false (fun atomic => whole.mp atomic torn)
          (not_not.mpr ⟨positive, torn, lasts_iff.mp lasts⟩)
      next undone =>
        exact iff_of_true (Or.inl durable) fun tears => undone (lasts_iff.mpr tears.2.2)
    · apply iff_of_true
      · split at durable
        · change s'.mysql.shop = _ at durable
          rw [durable]
          exact whole.mpr torn
        · exact Or.inl durable
      · exact fun tears => torn tears.2.1
  · obtain ⟨same, _, _⟩ := done.refused positive
    exact iff_of_true (Or.inl same) fun tears => positive tears.1

theorem sale_atomic_insert_fails :
    ∃ s', (seckillGoodsMysql 0 ['u'] ['k'] (some 0)).alone (readingTexts allKeys insertFails.fate 0)
        oneWorker = some ((), s') ∧ Atomic ['u'] ['k'] oneWorker.mysql.shop s'.mysql.shop := by
  obtain ⟨s', ends, atomic_iff⟩ := sale_atomic (t := 0) (by decide) (oneWorker_called insertFails)
    ⟨by decide, by decide⟩
  refine ⟨s', ends, atomic_iff.mpr fun tears => ?_⟩
  exact absurd tears.2.2 (by decide)

def onlyUpdates : Outcomes := { off := false, insert := .fail }

/-- `mysql_autocommit(OFF)` and the `INSERT` fail: the `UPDATE` has committed by itself. -/
theorem sale_torn :
    ∃ s', (seckillGoodsMysql 0 ['u'] ['k'] (some 0)).alone
        (readingTexts allKeys onlyUpdates.fate 0) oneWorker = some ((), s') ∧
      oneWorker.mysql.shop = ⟨some 50, []⟩ ∧ s'.mysql.shop = ⟨some 49, []⟩ ∧
      ¬Atomic ['u'] ['k'] oneWorker.mysql.shop s'.mysql.shop := by
  have ran : (((seckillGoodsMysql 0 ['u'] ['k'] (some 0)).alone
      (readingTexts allKeys onlyUpdates.fate 0) oneWorker).any fun x =>
        x.2.mysql.shop == ⟨some 49, []⟩) = true := by decide +kernel
  obtain ⟨⟨_, s'⟩, ends, after⟩ := (Option.any_eq_true _ _).mp ran
  have after : s'.mysql.shop = ⟨some 49, []⟩ := beq_iff_eq.mp after
  refine ⟨s', ends, rfl, after, ?_⟩
  rw [after]
  rintro (same | ⟨n, _, sold⟩)
  · exact absurd (congrArg Shop.stock same) (by decide)
  · have rows := congrArg (fun shop : Shop => shop.rows.length) sold
    simp at rows

end Seckill
