import Mathlib.Analysis.SpecialFunctions.Trigonometric.Basic
import Mathlib.NumberTheory.Zsqrtd.GaussianInt

/-! # Sines of whole numbers, in integers

The first terms of the series of `exp i` are a Gaussian integer over a factorial, and its
powers come as close to `exp (n i)` as is wanted.  `floor_sin` reads the integer part of a
multiple of `abs (sin n)` off such a power; what it asks for can be decided.
-/

namespace Sine

open Complex GaussianInt Finset

/-- The sum of the first `terms` terms of the series of `exp i`, times `(terms - 1)!`. -/
def series : Nat → GaussianInt
  | 0 => 0
  | terms + 1 => terms * series terms + ⟨0, 1⟩ ^ terms

theorem toComplex_i : toComplex ⟨0, 1⟩ = I := by
  simp [toComplex_def]

theorem series_eq (terms : Nat) :
    toComplex (series (terms + 1)) =
      terms.factorial * ∑ m ∈ range (terms + 1), I ^ m / m.factorial := by
  induction terms with
  | zero => simp [series]
  | succ terms ih =>
    have nonzero : ((terms + 1).factorial : ℂ) ≠ 0 := by exact_mod_cast (terms + 1).factorial_ne_zero
    rw [series, map_add, map_mul, map_natCast, map_pow, toComplex_i, ih, sum_range_succ _ (terms + 1),
      mul_add, mul_div_cancel₀ _ nonzero, Nat.factorial_succ]
    push_cast
    ring

/-- How far the series is from `exp i`, at most. -/
noncomputable def error (terms : Nat) : ℝ := (terms + 2) / ((terms + 1).factorial * (terms + 1))

theorem series_close (terms : Nat) :
    ‖exp I - toComplex (series (terms + 1)) / terms.factorial‖ ≤ error terms := by
  have nonzero : (terms.factorial : ℂ) ≠ 0 := by exact_mod_cast terms.factorial_ne_zero
  have bound := exp_bound (x := I) (by simp) (Nat.succ_pos terms)
  rw [series_eq, mul_div_cancel_left₀ _ nonzero]
  refine bound.trans (le_of_eq ?_)
  simp only [norm_I, one_pow, one_mul, error, div_eq_mul_inv]
  push_cast
  ring

/-- A number close to one on the unit circle has powers close to its powers. -/
theorem pow_close {z w : ℂ} {ε : ℝ} (unit : ‖z‖ = 1) (close : ‖z - w‖ ≤ ε) {n : Nat}
    (small : 2 * n * ε ≤ 1) : ‖z ^ n - w ^ n‖ ≤ 2 * n * ε := by
  have positive : 0 ≤ ε := le_trans (norm_nonneg _) close
  induction n with
  | zero => simp
  | succ n ih =>
    have less : 2 * n * ε ≤ 1 := by
      push_cast at small
      linarith
    have size : ‖w‖ ≤ 1 + ε := by
      calc
        ‖w‖ = ‖z - (z - w)‖ := by rw [sub_sub_cancel]
        _ ≤ ‖z‖ + ‖z - w‖ := norm_sub_le _ _
        _ ≤ 1 + ε := by rw [unit]; linarith
    calc
      ‖z ^ (n + 1) - w ^ (n + 1)‖
        = ‖z ^ n * (z - w) + (z ^ n - w ^ n) * w‖ := by ring_nf
      _ ≤ ‖z ^ n * (z - w)‖ + ‖(z ^ n - w ^ n) * w‖ := norm_add_le _ _
      _ = ‖z - w‖ + ‖z ^ n - w ^ n‖ * ‖w‖ := by simp [unit]
      _ ≤ ε + 2 * n * ε * (1 + ε) := by
        have := mul_le_mul (ih less) size (norm_nonneg _) (by positivity)
        linarith
      _ ≤ 2 * (n + 1 : Nat) * ε := by
        have := mul_le_mul_of_nonneg_right less positive
        push_cast
        linarith

/-- The series that is used: its error is less than 2^-87. -/
def terms : Nat := 25

/-- A power of the series, which stands for a multiple of `exp (n i)`. -/
def power (n : Nat) : GaussianInt := series (terms + 1) ^ n

/-- `t` is the integer part of `scale` times the sine that the series gives for `n`, and not
    by a hair's breadth. -/
def Reads (scale n t : Nat) : Prop :=
  (1000000 * t + 1) * terms.factorial ^ n ≤ 1000000 * scale * (power n).im.natAbs ∧
    1000000 * scale * (power n).im.natAbs + terms.factorial ^ n <
      1000000 * (t + 1) * terms.factorial ^ n

instance (scale n t : Nat) : Decidable (Reads scale n t) := inferInstanceAs (Decidable (_ ∧ _))

theorem error_small : error terms ≤ 1 / 10 ^ 20 := by
  norm_num [error, terms, Nat.factorial]

theorem error_pos : 0 < error terms := by
  unfold error
  positivity

theorem sin_close {n : Nat} (small : n ≤ 1000) :
    |(|Real.sin n| - (power n).im.natAbs / terms.factorial ^ n : ℝ)| ≤ 2 * n * error terms := by
  have below : (n : ℝ) ≤ 1000 := by exact_mod_cast small
  have bound : 2 * n * error terms ≤ 1 := by
    have := mul_le_mul below error_small error_pos.le (by norm_num)
    linarith
  have unit : ‖exp I‖ = 1 := by
    have := norm_exp_ofReal_mul_I 1
    rwa [ofReal_one, one_mul] at this
  have sine : (exp I ^ n).im = Real.sin n := by
    rw [← exp_nat_mul]
    exact_mod_cast exp_ofReal_mul_I_im n
  have value : ((toComplex (series (terms + 1)) / terms.factorial) ^ n).im =
      (power n).im / terms.factorial ^ n := by
    rw [div_pow, ← map_pow, ← Nat.cast_pow, div_natCast_im, GaussianInt.intCast_im, power, Nat.cast_pow]
  calc
    |(|Real.sin n| - (power n).im.natAbs / terms.factorial ^ n : ℝ)|
      = |(|Real.sin n| - |((power n).im / terms.factorial ^ n : ℝ)|)| := by
        rw [abs_div, Nat.cast_natAbs, Int.cast_abs,
          abs_of_nonneg (by positivity : (0 : ℝ) ≤ terms.factorial ^ n)]
    _ ≤ |Real.sin n - (power n).im / terms.factorial ^ n| := abs_abs_sub_abs_le _ _
    _ = |(exp I ^ n - (toComplex (series (terms + 1)) / terms.factorial) ^ n).im| := by
        rw [sub_im, sine, value]
    _ ≤ ‖exp I ^ n - (toComplex (series (terms + 1)) / terms.factorial) ^ n‖ := abs_im_le_norm _
    _ ≤ 2 * n * error terms := pow_close unit (series_close terms) bound

/-- The integer part of a multiple of `abs (sin n)`. -/
theorem floor_sin {scale n t : Nat} (small : n ≤ 1000) (within : scale ≤ 10000000000)
    (reads : Reads scale n t) : ⌊scale * |Real.sin n|⌋₊ = t := by
  obtain ⟨above, below⟩ := reads
  have whole : (0 : ℝ) < terms.factorial ^ n := by positivity
  have lower : (t : ℝ) + 1 / 1000000 ≤ scale * ((power n).im.natAbs / terms.factorial ^ n) := by
    have : ((1000000 * t + 1) * terms.factorial ^ n : ℝ) ≤ 1000000 * scale * (power n).im.natAbs := by
      exact_mod_cast above
    rw [← mul_div_assoc, le_div_iff₀ whole]
    linarith
  have upper : scale * ((power n).im.natAbs / terms.factorial ^ n) + 1 / 1000000 < (t : ℝ) + 1 := by
    have : (1000000 * scale * (power n).im.natAbs + terms.factorial ^ n : ℝ) <
        1000000 * (t + 1) * terms.factorial ^ n := by
      exact_mod_cast below
    rw [← mul_div_assoc, ← lt_sub_iff_add_lt, div_lt_iff₀ whole]
    linarith
  -- the series misses by less than the margin that `Reads` leaves
  have near : |scale * |Real.sin n| - scale * ((power n).im.natAbs / terms.factorial ^ n)| ≤
      (1 / 1000000 : ℝ) := by
    have scale_le : (scale : ℝ) ≤ 10000000000 := by exact_mod_cast within
    have n_le : (n : ℝ) ≤ 1000 := by exact_mod_cast small
    have product := mul_le_mul n_le error_small error_pos.le (by norm_num)
    rw [← mul_sub, abs_mul, Nat.abs_cast]
    calc
      (scale : ℝ) * |(|Real.sin n| - (power n).im.natAbs / terms.factorial ^ n : ℝ)|
        ≤ 10000000000 * (2 * n * error terms) :=
          mul_le_mul scale_le (sin_close small) (abs_nonneg _) (by norm_num)
      _ ≤ 1 / 1000000 := by linarith
  obtain ⟨left, right⟩ := abs_le.mp near
  rw [Nat.floor_eq_iff (by positivity)]
  constructor <;> linarith

end Sine
