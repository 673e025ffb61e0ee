import Mathlib.Data.List.TakeWhile

/-! # C strings and decimal text

Strings as a C or C++ program passes them around, and the conversions between
integers and their decimal text: `std::to_string`, `atoi` with the range of a
32-bit `int`, and the strict reading of a 64-bit integer that refuses any other
spelling of it.  The round trips at the end are what programs that keep a counter
as text rest on.
-/

namespace CStr

/-- A `std::string`, character by character. -/
abbrev Str := List Char

/-- The terminating NUL. -/
def nul : Char := Char.ofNat 0

/-- What a callee sees of `s.c_str()`: everything before the first NUL. -/
def cStr (s : Str) : Str := s.takeWhile (· != nul)

/-- `isspace` in the C locale. -/
def isspace (c : Char) : Bool := c.toNat == 32 || (9 ≤ c.toNat && c.toNat ≤ 13)

/-- Both strings agree up to ASCII case, as `strcasecmp` answering 0. -/
def strcaseEq (a b : Str) : Bool := a.map Char.toLower == b.map Char.toLower

/-- `std::to_string` of an integer. -/
def decimal : Int → Str
  | .ofNat n => Nat.toDigits 10 n
  | .negSucc n => '-' :: Nat.toDigits 10 (n + 1)

/-- The number spelled by the leading digits of a text. -/
def leadingNat (s : Str) : Nat := Nat.ofDigitChars 10 (s.takeWhile Char.isDigit) 0

/-- The integer at the front of a text: blanks, an optional sign, digits. -/
def readInt (s : Str) : Int :=
  match s.dropWhile isspace with
  | [] => 0
  | c :: rest =>
    if c = '-' then - (leadingNat rest : Int)
    else if c = '+' then leadingNat rest
    else leadingNat (c :: rest)

def longMax : Int := 9223372036854775807
def longMin : Int := -9223372036854775808
def intMax : Int := 2147483647

/-- `strtol` in base ten: out of range it answers the nearest `long`. -/
def strtol (s : Str) : Int := max longMin (min longMax (readInt s))

/-- A `long` cast to a 32-bit `int`. -/
def toInt32 (n : Int) : Int := (n + 2147483648) % 4294967296 - 2147483648

/-- `atoi`, which is `strtol` cast to `int`. -/
def atoi (s : Str) : Int := toInt32 (strtol s)

/-- A 64-bit integer read from exactly its own decimal text. -/
def strictInt (s : Str) : Option Int :=
  if decimal (readInt s) = s ∧ longMin ≤ readInt s ∧ readInt s ≤ longMax then some (readInt s)
  else none

/-! ## Round trips -/

theorem takeWhile_isDigit_toDigits (n : Nat) :
    (Nat.toDigits 10 n).takeWhile Char.isDigit = Nat.toDigits 10 n := by
  rw [List.takeWhile_eq_self_iff]
  intro c member
  exact Nat.isDigit_of_mem_toDigits (by decide) (by decide) member

theorem leadingNat_toDigits (n : Nat) : leadingNat (Nat.toDigits 10 n) = n := by
  rw [leadingNat, takeWhile_isDigit_toDigits, Nat.ofDigitChars_ten_toDigits]

/-- A digit is neither a blank nor a sign. -/
theorem isDigit_not_special {c : Char} (digit : c.isDigit = true) :
    isspace c = false ∧ c ≠ '-' ∧ c ≠ '+' := by
  have bounds : 48 ≤ c.toNat ∧ c.toNat ≤ 57 := by
    simpa [Char.isDigit, UInt32.le_iff_toNat_le] using digit
  refine ⟨?_, ?_, ?_⟩
  · simp only [isspace, Bool.or_eq_false_iff, beq_eq_false_iff_ne, Bool.and_eq_false_iff,
      decide_eq_false_iff_not]
    omega
  · rintro rfl
    exact absurd bounds (by decide)
  · rintro rfl
    exact absurd bounds (by decide)

theorem readInt_toDigits (n : Nat) : readInt (Nat.toDigits 10 n) = n := by
  have digits : ∀ c ∈ Nat.toDigits 10 n, c.isDigit = true := fun c member =>
    Nat.isDigit_of_mem_toDigits (by decide) (by decide) member
  have value := leadingNat_toDigits n
  cases text : Nat.toDigits 10 n with
  | nil => exact absurd text Nat.toDigits_ne_nil
  | cons c rest =>
    rw [text] at value
    obtain ⟨noSpace, noMinus, noPlus⟩ := isDigit_not_special (digits c (by simp [text]))
    simp [readInt, noSpace, noMinus, noPlus, value]

/-- Reading back what `std::to_string` wrote. -/
theorem readInt_decimal (n : Int) : readInt (decimal n) = n := by
  cases n with
  | ofNat n => exact readInt_toDigits n
  | negSucc n =>
    have blank : isspace '-' = false := by decide
    simp [decimal, readInt, blank, leadingNat_toDigits, Int.negSucc_eq]

theorem decimal_injective {a b : Int} (same : decimal a = decimal b) : a = b := by
  rw [← readInt_decimal a, same, readInt_decimal]

/-- No NUL cuts the decimal text of an integer off. -/
theorem cStr_decimal (n : Int) : cStr (decimal n) = decimal n := by
  apply List.takeWhile_eq_self_iff.mpr
  have digits (k : Nat) : ∀ c ∈ Nat.toDigits 10 k, (c != nul) = true := by
    intro c member
    have digit : c.isDigit = true := Nat.isDigit_of_mem_toDigits (by decide) (by decide) member
    have other : c ≠ nul := by
      rintro rfl
      exact absurd digit (by decide)
    simpa using other
  cases n with
  | ofNat k => exact digits k
  | negSucc k =>
    -- the sign, and digits after it
    intro c member
    obtain rfl | member := List.mem_cons.mp member
    · decide
    · exact digits (k + 1) c member

theorem strictInt_decimal {n : Int} (low : longMin ≤ n) (high : n ≤ longMax) :
    strictInt (decimal n) = some n := by
  simp [strictInt, readInt_decimal, low, high]

theorem atoi_decimal {n : Int} (low : 0 ≤ n) (high : n ≤ intMax) : atoi (decimal n) = n := by
  simp only [atoi, toInt32, strtol, readInt_decimal, longMin, longMax, intMax] at *
  omega

theorem atoi_range (s : Str) : -2147483648 ≤ atoi s ∧ atoi s ≤ intMax := by
  simp only [atoi, toInt32, intMax]
  omega

/-- A non-negative number whose text `atoi` finds positive is positive, and a `long`. -/
theorem pos_of_atoi_decimal {n : Int} (low : 0 ≤ n) (positive : 0 < atoi (decimal n)) :
    0 < n ∧ n ≤ longMax := by
  simp only [atoi, toInt32, strtol, readInt_decimal, longMin, longMax] at *
  omega

/-- Below 2^32 a number whose text `atoi` finds positive is read exactly. -/
theorem atoi_decimal_of_pos {n : Int} (low : 0 ≤ n) (high : n < 4294967296)
    (positive : 0 < atoi (decimal n)) : atoi (decimal n) = n := by
  simp only [atoi, toInt32, strtol, readInt_decimal, longMin, longMax] at *
  omega

/-- From 2^31 on, and below 2^32, `atoi` finds no number positive. -/
theorem le_intMax_of_atoi_pos {n : Int} (low : 0 ≤ n) (high : n < 4294967296)
    (positive : 0 < atoi (decimal n)) : n ≤ intMax := by
  simp only [atoi, toInt32, strtol, readInt_decimal, longMin, longMax, intMax] at *
  omega

end CStr
