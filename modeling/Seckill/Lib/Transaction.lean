import Mathlib.Logic.Basic

/-! # Transactions of one session

A session of a database over any data `D`: what is durable, what the session itself sees,
and its autocommit mode.  A write that succeeds changes what the session sees, and in
autocommit mode what is durable with it.

`work` is the usual unit of work: two writes, then a commit if both succeeded and else a
rollback, then autocommit back on, each of which may fail.  `work_exact` says that it is
all or nothing where everything but the writes succeeds, and `work_durable` what is
durable after any failures.
-/

namespace Transaction

variable {D : Type}

/-- How a statement ends: done, refused, or refused with its transaction rolled back. -/
inductive Outcome where
  | ok
  | fail
  | failRollback
  deriving DecidableEq

structure Trx (D : Type) where
  durable : D
  seen : D
  autocommit : Bool

namespace Trx

variable (x : Trx D)

/-- Nothing is pending. -/
def Settled : Prop := x.seen = x.durable

def commit : Trx D := { x with durable := x.seen }

def rollback : Trx D := { x with seen := x.durable }

/-- Switching autocommit on commits what is pending. -/
def setAutocommit (mode : Bool) : Trx D :=
  { (if mode then x.commit else x) with autocommit := mode }

def write (f : D → D) : Trx D :=
  if x.autocommit then { x with durable := f x.seen, seen := f x.seen }
  else { x with seen := f x.seen }

def attempt (f : D → D) : Outcome → Trx D
  | .ok => x.write f
  | .fail => x
  | .failRollback => x.rollback

/-- A call that may fail without effect. -/
def may (works : Bool) (f : Trx D → Trx D) : Trx D := if works then f x else x

/-- Two writes, then all or nothing, then autocommit on. -/
def work (f g : D → D) (first second : Outcome) (commits rolls switches : Bool) : Trx D :=
  let y := (x.attempt f first).attempt g second
  let z := if first = .ok ∧ second = .ok then y.may commits commit else y.may rolls rollback
  z.may switches fun z => z.setAutocommit true

variable {x} {f g : D → D} {first second : Outcome} {commits rolls switches : Bool}

@[simp] theorem Settled.rollback (settled : x.Settled) : x.rollback = x := by
  cases x
  cases settled
  rfl

@[simp] theorem Settled.commit (settled : x.Settled) : x.commit = x := by
  cases x
  cases settled
  rfl

/-- A statement that only reads leaves a session as it is. -/
theorem Settled.write_id (settled : x.Settled) : x.write id = x := by
  obtain ⟨durable, seen, autocommit⟩ := x
  cases settled
  cases autocommit <;> rfl

theorem Settled.setAutocommit (settled : x.Settled) (mode : Bool) :
    x.setAutocommit mode = { x with autocommit := mode } ∧ (x.setAutocommit mode).Settled := by
  unfold Trx.setAutocommit
  rw [settled.commit, ite_self]
  exact ⟨rfl, settled⟩

/-- Where only the writes can fail, a unit of work with autocommit off is all or nothing. -/
theorem work_exact (settled : x.Settled) (off : x.autocommit = false) :
    (x.work f g first second true true true).durable =
      if first = .ok ∧ second = .ok then g (f x.durable) else x.durable := by
  obtain ⟨durable, seen, autocommit⟩ := x
  -- nothing is pending at the start, so a rollback leads back to what is durable
  cases settled
  cases off
  cases first <;> cases second <;>
    simp [work, attempt, write, may, Trx.commit, Trx.rollback,
      Trx.setAutocommit]

/-- What a list of writes makes of the data, as far as they succeeded. -/
def effect (f : D → D) : Outcome → D → D
  | .ok => f
  | .fail | .failRollback => id

/-- What was written stays: with autocommit on at once, else when it is committed, or left over by
    a rollback that failed. -/
def Lasts (x : Trx D) (first second : Outcome) (commits rolls switches : Bool) : Prop :=
  x.autocommit = true ∨ if first = .ok ∧ second = .ok then commits = true ∨ switches = true
    else rolls = false ∧ switches = true

instance : Decidable (Lasts x first second commits rolls switches) :=
  inferInstanceAs (Decidable (_ ∨ ite _ _ _))

theorem lasts_partial (half : ¬(first = .ok ∧ second = .ok)) :
    x.Lasts first second commits rolls switches ↔
      x.autocommit = true ∨ rolls = false ∧ switches = true := by
  rw [Lasts, if_neg half]

/-- What is durable after writes that may fail without effect. -/
theorem work_durable (settled : x.Settled) (plain : first ≠ .failRollback ∧ second ≠ .failRollback) :
    (x.work f g first second commits rolls switches).durable =
      if x.Lasts first second commits rolls switches then effect g second (effect f first x.durable)
      else x.durable := by
  obtain ⟨durable, seen, autocommit⟩ := x
  cases settled
  obtain ⟨noFirst, noSecond⟩ := plain
  -- four outcomes of the writes, and each of the other calls works or not
  cases first <;> cases second <;> first | contradiction | skip
  all_goals
    cases autocommit <;> cases commits <;> cases rolls <;> cases switches <;>
      simp [work, Lasts, attempt, write, may, Trx.commit, Trx.rollback, Trx.setAutocommit, effect]

end Trx

end Transaction
