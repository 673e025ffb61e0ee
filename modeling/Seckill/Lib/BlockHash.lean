import Mathlib.Data.List.Basic

/-! # Hashing block by block

A text is taken in blocks of `n` letters, each of which a compression function folds into a
state.  `absorb` is what remains after all whole blocks: the state, and the letters that are
no block yet.  A text may come in pieces (`absorb_append`).
-/

namespace BlockHash

variable {S B : Type} {n : Nat} {compress : S → List B → S} {s : S} {block text rest : List B}

/-- Compress the whole blocks at the front of a text. -/
def absorb (n : Nat) (compress : S → List B → S) (s : S) (text : List B) : S × List B :=
  if 0 < n ∧ n ≤ text.length then absorb n compress (compress s (text.take n)) (text.drop n)
  else (s, text)
termination_by text.length
decreasing_by
  next whole =>
    rw [List.length_drop]
    omega

theorem absorb_short (short : text.length < n) : absorb n compress s text = (s, text) := by
  rw [absorb, if_neg (by omega)]

/-- A block in front of a text is compressed first. -/
theorem absorb_block (some : 0 < n) (whole : block.length = n) :
    absorb n compress s (block ++ rest) = absorb n compress (compress s block) rest := by
  have enough : 0 < n ∧ n ≤ (block ++ rest).length := by
    rw [List.length_append]
    omega
  rw [absorb, if_pos enough, List.take_left' whole, List.drop_left' whole]

/-- What is left is shorter than a block. -/
theorem absorb_left (some : 0 < n) :
    (absorb n compress s text).2.length = text.length % n := by
  fun_induction absorb n compress s text with
  | case1 s text enough ih =>
    rw [ih, List.length_drop, ← Nat.mod_eq_sub_mod enough.2]
  | case2 s text short =>
    have less : text.length < n := by omega
    exact (Nat.mod_eq_of_lt less).symm

/-- A text that comes in two pieces. -/
theorem absorb_append (some : 0 < n) :
    absorb n compress s (text ++ rest) =
      absorb n compress (absorb n compress s text).1 ((absorb n compress s text).2 ++ rest) := by
  fun_induction absorb n compress s text with
  | case1 s text enough ih =>
    have whole : (text.take n).length = n := List.length_take_of_le enough.2
    calc
      absorb n compress s (text ++ rest)
        = absorb n compress s (text.take n ++ (text.drop n ++ rest)) := by
          rw [← List.append_assoc, List.take_append_drop]
      _ = absorb n compress (compress s (text.take n)) (text.drop n ++ rest) :=
          absorb_block some whole
      _ = _ := ih
  | case2 s text short => rfl

end BlockHash
