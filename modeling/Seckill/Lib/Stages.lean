import Mathlib.Data.Bool.Basic
import Mathlib.Data.List.Count
import Mathlib.Data.List.Nodup
import Mathlib.Data.List.Range
import Mathlib.Logic.Function.Basic

/-! # Counting by stage

Things numbered from 0 on, each in a stage of any type.  `census` counts those of the first `n`
whose stage is of some kind; what one move of one thing does to it is `census_move`.
-/

namespace Stages

variable {α : Type*} {P : α → Bool} {n i : Nat} {k : α} {stage : Nat → α}

/-- How many of the first `n` things are in a stage of kind `P`. -/
def census (P : α → Bool) (n : Nat) (stage : Nat → α) : Nat :=
  (List.range n).countP fun i => P (stage i)

@[simp] theorem census_zero : census P 0 stage = 0 := rfl

@[simp] theorem census_succ :
    census P (n + 1) stage = census P n stage + (P (stage n)).toNat := by
  rw [census, List.range_succ, List.countP_append, List.countP_singleton]
  cases P (stage n) <;> rfl

theorem census_outside (outside : n ≤ i) :
    census P n (Function.update stage i k) = census P n stage := by
  induction n with
  | zero => rfl
  | succ n ih =>
    have other : n ≠ i := by omega
    rw [census_succ, census_succ, ih (by omega), Function.update_of_ne other]

/-- One thing leaves its stage and comes into another. -/
theorem census_move (inside : i < n) :
    census P n (Function.update stage i k) + (P (stage i)).toNat =
      census P n stage + (P k).toNat := by
  induction n with
  | zero => omega
  | succ n ih =>
    rw [census_succ, census_succ]
    by_cases last : i = n
    · subst last
      rw [census_outside (Nat.le_refl i), Function.update_self]
      omega
    · have before := ih (by omega)
      have other : n ≠ i := fun same => last same.symm
      rw [Function.update_of_ne other]
      omega

/-- A new thing. -/
theorem census_new : census P (n + 1) (Function.update stage n k) =
    census P n stage + (P k).toNat := by
  rw [census_succ, census_outside (Nat.le_refl n), Function.update_self]

/-- A list that holds the things in some stages, each once, is as long as there are of them. -/
theorem length_eq_census {l : List Nat} (holds : ∀ i, l.count i = (P (stage i)).toNat)
    (inside : ∀ i ∈ l, i < n) : l.length = census P n stage := by
  have once : l.Nodup := by
    rw [List.nodup_iff_count_le_one]
    intro i
    rw [holds]
    exact Bool.toNat_le _
  have same : l.Perm ((List.range n).filter fun i => P (stage i)) := by
    apply (List.perm_ext_iff_of_nodup once (List.nodup_range.filter _)).mpr
    intro i
    have listed : i ∈ l ↔ P (stage i) = true := by
      rw [← List.count_pos_iff, holds]
      cases P (stage i) <;> simp
    rw [List.mem_filter, List.mem_range, listed]
    exact ⟨fun kind => ⟨inside i (listed.mpr kind), kind⟩, And.right⟩
  rw [same.length_eq, census, List.countP_eq_length_filter]

end Stages
