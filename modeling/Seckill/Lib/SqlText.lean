import Seckill.Lib.CString
import Mathlib.Algebra.GroupWithZero.Nat
import Mathlib.Data.List.Basic

/-! # Text with values in quotes

A statement with strings spliced between single quotes, and MySQL's reading of it.  In a
literal a quote ends it unless it is doubled, and a backslash takes the next character with
it.  `lex_render` says exactly which strings come out as they went in.  No reading is wider
than its text, and an escape or a doubled quote is narrower, so a text that is misread
anywhere is never read as its template by an accident further on.
-/

namespace SqlText

open CStr

def quote : Char := Char.ofNat 39

def backslash : Char := Char.ofNat 92

/-- What a backslash and the character after it stand for. -/
def escaped (c : Char) : Str :=
  if c = '0' then [Char.ofNat 0]
  else if c = 'b' then [Char.ofNat 8]
  else if c = 't' then [Char.ofNat 9]
  else if c = 'n' then [Char.ofNat 10]
  else if c = 'r' then [Char.ofNat 13]
  else if c = 'Z' then [Char.ofNat 26]
  else if c = '%' ∨ c = '_' then [backslash, c]
  else [c]

/-- A character outside literals, or the text of a literal. -/
inductive Token where
  | char (c : Char)
  | literal (text : Str)
  deriving DecidableEq

/-- The tokens of a text: with `some text` in a literal that reads `text` so far.  A literal that
    is not ended is no token. -/
def lexFrom : Option Str → Str → Option (List Token)
  | none, [] => some []
  | none, c :: s =>
    if c = quote then lexFrom (some []) s else (lexFrom none s).map (.char c :: ·)
  | some _, [] => none
  | some text, [c] => if c = quote then some [.literal text] else none
  | some text, c :: d :: s =>
    if c = backslash then lexFrom (some (text ++ escaped d)) s
    else if c = quote then
      if d = quote then lexFrom (some (text ++ [quote])) s
      else (lexFrom none (d :: s)).map (.literal text :: ·)
    else lexFrom (some (text ++ [c])) (d :: s)

def lex (s : Str) : Option (List Token) := lexFrom none s

/-- Neither a quote nor a backslash. -/
def Ordinary (c : Char) : Prop := c ≠ quote ∧ c ≠ backslash

instance {c : Char} : Decidable (Ordinary c) := inferInstanceAs (Decidable (_ ∧ _))

/-- Reads as it is written: no quote, and no backslash but before `%` or `_`. -/
def plain : Str → Bool
  | [] => true
  | [c] => decide (Ordinary c)
  | c :: d :: s =>
    if c = backslash then (d = '%' || d = '_') && plain s else c ≠ quote && plain (d :: s)

/-- A value between quotes and the text that follows it. -/
structure Part where
  value : Str
  text : Str

/-- The text of a statement. -/
def render (parts : List Part) : Str :=
  parts.flatMap fun p => quote :: p.value ++ quote :: p.text

/-- The tokens that are meant. -/
def tokens (parts : List Part) : List Token :=
  parts.flatMap fun p => .literal p.value :: p.text.map .char

/-! ## Outside literals -/

variable {a r s t text : Str} {c : Char} {ts : List Token} {parts : List Part}

theorem unquoted_of_all (plain : t.all (· != quote) = true) : ∀ c ∈ t, c ≠ quote := by
  simpa using plain

theorem lexFrom_text (unquoted : ∀ c ∈ t, c ≠ quote) :
    lexFrom none (t ++ s) = (lexFrom none s).map (t.map .char ++ ·) := by
  induction t with
  | nil => simp
  | cons c t ih =>
    have other : c ≠ quote := unquoted c List.mem_cons_self
    have rest := ih fun d member => unquoted d (List.mem_cons_of_mem c member)
    rw [List.cons_append, lexFrom, if_neg other, rest, Option.map_map]
    rfl

theorem lexFrom_text_iff (unquoted : ∀ c ∈ t, c ≠ quote) :
    lexFrom none (t ++ s) = some (t.map .char ++ ts) ↔ lexFrom none s = some ts := by
  rw [lexFrom_text unquoted, Option.map_eq_some_iff]
  simp

/-! ## In a literal -/

theorem quote_ne_backslash : quote ≠ backslash := by decide

theorem lexFrom_escape :
    lexFrom (some text) (backslash :: c :: s) = lexFrom (some (text ++ escaped c)) s := by
  rw [lexFrom, if_pos rfl]

theorem lexFrom_double :
    lexFrom (some text) (quote :: quote :: s) = lexFrom (some (text ++ [quote])) s := by
  rw [lexFrom, if_neg quote_ne_backslash, if_pos rfl, if_pos rfl]

theorem lexFrom_end (after : s.head? ≠ some quote) :
    lexFrom (some text) (quote :: s) = (lexFrom none s).map (.literal text :: ·) := by
  cases s with
  | nil => rfl
  | cons d s =>
    have other : d ≠ quote := fun same => after (congrArg some same)
    simp only [lexFrom, quote_ne_backslash, other, if_true, if_false]

theorem lexFrom_ordinary (ordinary : Ordinary c) :
    lexFrom (some text) (c :: s) = lexFrom (some (text ++ [c])) s := by
  cases s with
  | nil => simp only [lexFrom, ordinary.1, if_false]
  | cons d s => simp only [lexFrom, ordinary.1, ordinary.2, if_false]

theorem special (other : ¬ Ordinary c) : c = quote ∨ c = backslash := by
  by_contra neither
  exact other ⟨fun same => neither (.inl same), fun same => neither (.inr same)⟩

theorem escaped_length : (escaped c).length ≤ 2 := by
  unfold escaped
  split_ifs <;> simp

theorem escaped_short (other : ¬ (c = '%' ∨ c = '_')) : (escaped c).length = 1 := by
  unfold escaped
  rw [if_neg other]
  split_ifs <;> rfl

/-! ## Width -/

/-- The least text that a token takes. -/
def Token.width : Token → Nat
  | .char _ => 1
  | .literal text => text.length + 2

def width (ts : List Token) : Nat := (ts.map Token.width).sum

@[simp] theorem width_nil : width [] = 0 := rfl

@[simp] theorem width_char : width (.char c :: ts) = 1 + width ts := rfl

@[simp] theorem width_literal : width (.literal t :: ts) = t.length + 2 + width ts := rfl

theorem width_text : width (t.map .char ++ ts) = t.length + width ts := by
  induction t with
  | nil => simp
  | cons c t ih =>
    simp only [List.map_cons, List.cons_append, width_char, List.length_cons, ih]
    omega

/-- The text that a literal has taken so far, its opening quote with it. -/
def taken : Option Str → Nat
  | none => 0
  | some text => text.length + 1

/-- A reading is no wider than its text. -/
theorem lexFrom_width {state : Option Str} (read : lexFrom state s = some ts) :
    width ts ≤ taken state + s.length := by
  -- an escape or a doubled quote takes two characters for at most two
  induction state, s using lexFrom.induct generalizing ts with
  | case1 =>
    cases read
    exact Nat.zero_le _
  | case2 s ih =>
    rw [lexFrom, if_pos rfl] at read
    have literal := ih read
    simp only [taken, List.length_nil, List.length_cons] at literal ⊢
    omega
  | case3 c s other ih =>
    rw [lexFrom, if_neg other] at read
    obtain ⟨rest, after, rfl⟩ := Option.map_eq_some_iff.mp read
    have narrow := ih after
    simp only [taken, width_char, List.length_cons] at narrow ⊢
    omega
  | case4 | case6 c other => simp_all [lexFrom]
  | case5 text =>
    cases read
    simp [taken]
  | case7 text d s ih =>
    rw [lexFrom_escape] at read
    have literal := ih read
    have short : (escaped d).length ≤ 2 := escaped_length
    simp only [taken, List.length_append, List.length_cons] at literal ⊢
    omega
  | case8 text s other ih =>
    rw [lexFrom_double] at read
    have literal := ih read
    simp only [taken, List.length_append, List.length_cons, List.length_nil] at literal ⊢
    omega
  | case9 text d s single _ ih =>
    rw [lexFrom_end (by simpa using single)] at read
    obtain ⟨rest, after, rfl⟩ := Option.map_eq_some_iff.mp read
    have narrow := ih after
    simp only [taken, width_literal, List.length_cons] at narrow ⊢
    omega
  | case10 text c d s noEscape noEnd ih =>
    rw [lexFrom_ordinary ⟨noEnd, noEscape⟩] at read
    have literal := ih read
    simp only [taken, List.length_append, List.length_cons, List.length_nil] at literal ⊢
    omega

/-! ## Values between quotes -/

/-- Where two characters were taken for one, too little text is left for the rest. -/
theorem lexFrom_narrow {more rest : Str} (full : width ts = r.length) (one : more.length = 1)
    (two : rest.length + 2 = a.length + 1 + r.length) :
    lexFrom (some (text ++ more)) rest ≠ some (.literal (text ++ a) :: ts) := by
  intro read
  have width := lexFrom_width read
  simp only [taken, width_literal, List.length_append] at width
  omega

/-- A value and its closing quote are read as that value, and what follows at its full width,
    just when the value is plain. -/
theorem lexFrom_value (after : r.head? ≠ some quote) (full : width ts = r.length) (text a : Str) :
    lexFrom (some text) (a ++ quote :: r) = some (.literal (text ++ a) :: ts)
      ↔ plain a = true ∧ lexFrom none r = some ts := by
  -- the cases are those of `plain`; a value that is not plain reads too short somewhere
  induction a using plain.induct generalizing text with
  | case1 =>
    rw [List.nil_append, lexFrom_end after, List.append_nil]
    simp [plain]
  | case2 c =>
    by_cases ordinary : Ordinary c
    · rw [List.singleton_append, lexFrom_ordinary ordinary, lexFrom_end after]
      simp [plain, ordinary]
    · simp only [plain, ordinary, decide_false, Bool.false_eq_true, false_and, iff_false]
      have two : r.length + 2 = [c].length + 1 + r.length := by
        rw [List.length_singleton]
        omega
      rcases special ordinary with rfl | rfl
      · rw [List.singleton_append, lexFrom_double]
        exact lexFrom_narrow full rfl two
      · rw [List.singleton_append, lexFrom_escape]
        exact lexFrom_narrow full (escaped_short (by decide)) two
  | case3 d a ih =>
    rw [List.cons_append, List.cons_append, lexFrom_escape]
    by_cases pattern : d = '%' ∨ d = '_'
    · -- these two keep their backslash
      have both : escaped d = [backslash, d] := by
        rcases pattern with rfl | rfl <;> decide
      rw [both]
      simpa [plain, pattern] using ih (text ++ [backslash, d])
    · have lossy : plain (backslash :: d :: a) = false := by
        simp [plain, not_or.mp pattern]
      simp only [lossy, Bool.false_eq_true, false_and, iff_false]
      apply lexFrom_narrow full (escaped_short pattern)
      simp only [List.length_append, List.length_cons]
      omega
  | case4 c d a noEscape ih =>
    by_cases ordinary : Ordinary c
    · rw [List.cons_append, lexFrom_ordinary ordinary]
      simpa [plain, ordinary.1, noEscape] using ih (text ++ [c])
    obtain rfl : c = quote := (special ordinary).resolve_right noEscape
    have lossy : plain (quote :: d :: a) = false := by
      simp [plain, noEscape]
    simp only [lossy, Bool.false_eq_true, false_and, iff_false]
    by_cases double : d = quote
    · subst double
      rw [List.cons_append, List.cons_append, lexFrom_double]
      apply lexFrom_narrow full rfl
      simp only [List.length_append, List.length_cons]
      omega
    · -- the literal ends where the value has begun
      rw [List.cons_append, lexFrom_end (by simpa using double), Option.map_eq_some_iff]
      rintro ⟨rest, _, same⟩
      simp at same

theorem width_tokens : width (tokens parts) = (render parts).length := by
  induction parts with
  | nil => rfl
  | cons p parts ih =>
    have meant : tokens (p :: parts) = .literal p.value :: (p.text.map .char ++ tokens parts) := by
      simp [tokens]
    have shape : render (p :: parts) = quote :: p.value ++ quote :: p.text ++ render parts := by
      simp [render]
    rw [meant, shape, width_literal, width_text, ih]
    simp only [List.length_append, List.length_cons]
    omega

theorem lexFrom_render (unquoted : ∀ p ∈ parts, ∀ c ∈ p.text, c ≠ quote)
    (apart : ∀ p ∈ parts.dropLast, p.text ≠ []) :
    lexFrom none (render parts) = some (tokens parts) ↔ ∀ p ∈ parts, plain p.value = true := by
  induction parts with
  | nil => simp [render, tokens, lexFrom]
  | cons p parts ih =>
    have text := unquoted p List.mem_cons_self
    have rest := ih fun q member => unquoted q (List.mem_cons_of_mem p member)
    -- the text after a value does not go on with a quote, so its closing quote ends it
    have after : (p.text ++ render parts).head? ≠ some quote := by
      intro first
      cases heads : p.text with
      | cons c t =>
        rw [heads] at first text
        exact text c List.mem_cons_self (Option.some.inj first)
      | nil =>
        cases parts with
        | nil => simp [heads, render] at first
        | cons q parts => exact apart p (by simp) heads
    have apart' : ∀ q ∈ parts.dropLast, q.text ≠ [] := by
      cases parts with
      | nil => simp
      | cons q parts => exact fun q' member => apart q' (by simp [List.dropLast, member])
    have full : width (p.text.map .char ++ tokens parts) = (p.text ++ render parts).length := by
      rw [width_text, width_tokens, List.length_append]
    have shape : render (p :: parts) = quote :: (p.value ++ quote :: (p.text ++ render parts)) := by
      simp [render]
    have meant : tokens (p :: parts) = .literal p.value :: (p.text.map .char ++ tokens parts) := by
      simp [tokens]
    rw [shape, meant, lexFrom, if_pos rfl, List.forall_mem_cons, ← rest apart',
      ← lexFrom_text_iff text]
    exact lexFrom_value after full [] p.value

/-- A statement reads as its template, each value a literal of itself, just when every value is
    plain. -/
theorem lex_render (start : Str) (parts : List Part) (begins : ∀ c ∈ start, c ≠ quote)
    (unquoted : ∀ p ∈ parts, ∀ c ∈ p.text, c ≠ quote) (apart : ∀ p ∈ parts.dropLast, p.text ≠ []) :
    lex (start ++ render parts) = some (start.map .char ++ tokens parts)
      ↔ ∀ p ∈ parts, plain p.value = true :=
  (lexFrom_text_iff begins).trans (lexFrom_render unquoted apart)

/-! ## Values that are cut short -/

/-- A part whose value goes through `f`. -/
def Part.through (f : Str → Str) (p : Part) : Part := { p with value := f p.value }

variable {f : Str → Str}

theorem map_through (whole : ∀ p ∈ parts, f p.value = p.value) :
    parts.map (Part.through f) = parts := by
  induction parts with
  | nil => rfl
  | cons p parts ih =>
    rw [List.forall_mem_cons] at whole
    rw [List.map_cons, ih whole.2, Part.through, whole.1]

/-- Values cut short leave a text too narrow for the whole values. -/
theorem through_eq (cut : ∀ v, f v <+: v)
    (wide : (render parts).length ≤ (render (parts.map (Part.through f))).length) :
    ∀ p ∈ parts, f p.value = p.value := by
  have shape (p : Part) (parts : List Part) :
      (render (p :: parts)).length = p.value.length + p.text.length + 2 + (render parts).length := by
    simp only [render, List.flatMap_cons, List.length_append, List.length_cons]
    omega
  have narrow : ∀ parts : List Part,
      (render (parts.map (Part.through f))).length ≤ (render parts).length := by
    intro parts
    induction parts with
    | nil => exact Nat.le_refl _
    | cons p parts ih =>
      have shorter := (cut p.value).length_le
      rw [List.map_cons, shape, shape]
      simp only [Part.through]
      omega
  induction parts with
  | nil => simp
  | cons p parts ih =>
    have shorter := (cut p.value).length_le
    have rest := narrow parts
    rw [List.map_cons, shape, shape] at wide
    change _ ≤ (f p.value).length + p.text.length + 2 + _ at wide
    rw [List.forall_mem_cons]
    constructor
    · apply (cut p.value).eq_of_length_le
      omega
    · apply ih
      omega

/-- With its values cut short by `f`, a statement reads as its template with the whole values just
    when `f` cuts none of them and every one is plain. -/
theorem lex_render_through (cut : ∀ v, f v <+: v) (start : Str) (parts : List Part)
    (begins : ∀ c ∈ start, c ≠ quote) (unquoted : ∀ p ∈ parts, ∀ c ∈ p.text, c ≠ quote)
    (apart : ∀ p ∈ parts.dropLast, p.text ≠ []) :
    lex (start ++ render (parts.map (Part.through f))) = some (start.map .char ++ tokens parts)
      ↔ ∀ p ∈ parts, f p.value = p.value ∧ plain p.value = true := by
  constructor
  · intro read
    have narrow := lexFrom_width ((lexFrom_text_iff begins).mp read)
    rw [width_tokens] at narrow
    have whole := through_eq cut (by simpa [taken] using narrow)
    rw [map_through whole] at read
    have every := (lex_render start parts begins unquoted apart).mp read
    exact fun p member => ⟨whole p member, every p member⟩
  · intro every
    rw [map_through fun p member => (every p member).1]
    exact (lex_render start parts begins unquoted apart).mpr fun p member => (every p member).2

end SqlText
