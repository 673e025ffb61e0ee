import Mathlib.Data.List.Basic
import Mathlib.Data.List.Nodup
import Mathlib.Logic.Function.Basic

/-! # Leases

Things that are numbered as they are made, and at every moment are idle in a list, held
by one thread, or gone.  `key` reads off a thread's record what the thread holds.

`Exclusive` is the invariant: nothing is held twice, idle twice, or both, and nothing is
around that was not made yet.  There is one rule for each way a thread's step can move
things about; all of them are instances of `Exclusive.step`.
-/

namespace Leases

variable {L : Type} {key : L → Nat → Prop} {ls : Nat → L} {idle idle' : List Nat}
  {fresh fresh' t i : Nat} {l : L}

structure Exclusive (key : L → Nat → Prop) (ls : Nat → L) (idle : List Nat) (fresh : Nat) :
    Prop where
  once : ∀ {t t' i}, key (ls t) i → key (ls t') i → t = t'
  apart : ∀ {t i}, key (ls t) i → i ∉ idle
  nodup : idle.Nodup
  held_made : ∀ {t i}, key (ls t) i → i < fresh
  idle_made : ∀ {i}, i ∈ idle → i < fresh

namespace Exclusive

/-- Nothing is held at first. -/
theorem init {none : L} (empty : ∀ i, ¬key none i) (nodup : idle.Nodup)
    (made : ∀ i ∈ idle, i < fresh) : Exclusive key (fun _ => none) idle fresh where
  once held := absurd held (empty _)
  apart held := absurd held (empty _)
  nodup := nodup
  held_made held := absurd held (empty _)
  idle_made := made _

/-- One thread moves: what it holds afterwards it held before, took from the idle ones or
    made, and what is idle afterwards was idle before or is given back by it. -/
theorem step (ex : Exclusive key ls idle fresh)
    (own : ∀ j, key l j → key (ls t) j ∨ j ∈ idle ∨ fresh ≤ j)
    (back : ∀ j ∈ idle', j ∈ idle ∨ key (ls t) j) (apart : ∀ j, key l j → j ∉ idle')
    (nodup : idle'.Nodup) (grows : fresh ≤ fresh') (made : ∀ j, key l j → j < fresh') :
    Exclusive key (Function.update ls t l) idle' fresh' := by
  -- what the thread holds now, no other thread holds
  have alone : ∀ {t' j}, t' ≠ t → key l j → ¬key (ls t') j := by
    intro t' j other mine theirs
    obtain held | free | new := own j mine
    · exact other (ex.once theirs held)
    · exact ex.apart theirs free
    · exact absurd (ex.held_made theirs) (Nat.not_lt.mpr new)
  constructor
  · intro t₁ t₂ j first second
    by_cases one : t₁ = t <;> by_cases two : t₂ = t
    · rw [one, two]
    · subst one
      rw [Function.update_self] at first
      rw [Function.update_of_ne two] at second
      exact absurd second (alone two first)
    · subst two
      rw [Function.update_of_ne one] at first
      rw [Function.update_self] at second
      exact absurd first (alone one second)
    · rw [Function.update_of_ne one] at first
      rw [Function.update_of_ne two] at second
      exact ex.once first second
  · intro t' j held free
    by_cases same : t' = t
    · subst same
      rw [Function.update_self] at held
      exact apart j held free
    · rw [Function.update_of_ne same] at held
      obtain free | mine := back j free
      · exact ex.apart held free
      · exact same (ex.once held mine)
  · exact nodup
  · intro t' j held
    by_cases same : t' = t
    · subst same
      rw [Function.update_self] at held
      exact made j held
    · rw [Function.update_of_ne same] at held
      exact Nat.lt_of_lt_of_le (ex.held_made held) grows
  · intro j free
    obtain free | mine := back j free
    · exact Nat.lt_of_lt_of_le (ex.idle_made free) grows
    · exact Nat.lt_of_lt_of_le (ex.held_made mine) grows

/-- Some idle ones are gone, and the thread keeps what it holds or forgets some of it. -/
theorem shrink (ex : Exclusive key ls idle fresh) (rest : idle'.Sublist idle)
    (own : ∀ j, key l j → key (ls t) j) :
    Exclusive key (Function.update ls t l) idle' fresh :=
  ex.step (fun j held => Or.inl (own j held)) (fun _ free => Or.inl (rest.subset free))
    (fun j held free => ex.apart (own j held) (rest.subset free)) (ex.nodup.sublist rest)
    (Nat.le_refl _) (fun j held => ex.held_made (own j held))

theorem keep (ex : Exclusive key ls idle fresh) (own : ∀ j, key l j → key (ls t) j) :
    Exclusive key (Function.update ls t l) idle fresh :=
  ex.shrink (List.Sublist.refl idle) own

/-- The thread takes `i` from the idle ones, some of which may be gone. -/
theorem take (ex : Exclusive key ls idle fresh) (free : i ∈ idle) (rest : idle'.Sublist idle)
    (taken : i ∉ idle') (own : ∀ j, key l j → key (ls t) j ∨ j = i) :
    Exclusive key (Function.update ls t l) idle' fresh := by
  refine ex.step ?_ (fun j free => Or.inl (rest.subset free)) ?_ (ex.nodup.sublist rest)
    (Nat.le_refl _) ?_
  · intro j held
    obtain held | rfl := own j held
    · exact Or.inl held
    · exact Or.inr (Or.inl free)
  · intro j held
    obtain held | rfl := own j held
    · exact fun free => ex.apart held (rest.subset free)
    · exact taken
  · intro j held
    obtain held | rfl := own j held
    · exact ex.held_made held
    · exact ex.idle_made free

/-- The thread makes a new one. -/
theorem make (ex : Exclusive key ls idle fresh) (rest : idle'.Sublist idle)
    (own : ∀ j, key l j → key (ls t) j ∨ j = fresh) :
    Exclusive key (Function.update ls t l) idle' (fresh + 1) := by
  refine ex.step ?_ (fun j free => Or.inl (rest.subset free)) ?_ (ex.nodup.sublist rest)
    (Nat.le_succ _) ?_
  · intro j held
    obtain held | rfl := own j held
    · exact Or.inl held
    · exact Or.inr (Or.inr (Nat.le_refl _))
  · intro j held free
    obtain held | rfl := own j held
    · exact ex.apart held (rest.subset free)
    · exact absurd (ex.idle_made (rest.subset free)) (Nat.lt_irrefl _)
  · intro j held
    obtain held | rfl := own j held
    · exact Nat.lt_succ_of_lt (ex.held_made held)
    · exact Nat.lt_succ_self _

/-- The thread gives `i` back. -/
theorem give (ex : Exclusive key ls idle fresh) (held : key (ls t) i)
    (own : ∀ j, key l j → key (ls t) j ∧ j ≠ i) :
    Exclusive key (Function.update ls t l) (idle ++ [i]) fresh := by
  refine ex.step (fun j mine => Or.inl (own j mine).1) ?_ ?_ ?_ (Nat.le_refl _)
    (fun j mine => ex.held_made (own j mine).1)
  · intro j member
    obtain free | last := List.mem_append.mp member
    · exact Or.inl free
    · rw [List.mem_singleton.mp last]
      exact Or.inr held
  · intro j mine member
    obtain free | last := List.mem_append.mp member
    · exact ex.apart (own j mine).1 free
    · exact (own j mine).2 (List.mem_singleton.mp last)
  · rw [List.nodup_append]
    refine ⟨ex.nodup, List.nodup_singleton i, ?_⟩
    intro j free k last same
    rw [List.mem_singleton.mp last] at same
    exact ex.apart held (same ▸ free)

/-- The order of the idle ones does not matter. -/
theorem perm (ex : Exclusive key ls idle fresh) (same : idle.Perm idle') :
    Exclusive key ls idle' fresh where
  once := ex.once
  apart held free := ex.apart held (same.mem_iff.mpr free)
  nodup := same.nodup_iff.mp ex.nodup
  held_made := ex.held_made
  idle_made free := ex.idle_made (same.mem_iff.mpr free)

end Exclusive

end Leases
