import Seckill.Lib.Rfc1321
import Seckill.Lib.Sine
import Seckill.Model.Md5

/-! # `MD5` is the message digest of RFC 1321 -/

namespace Seckill.Md5

open BlockHash

/-! ## The low half of a word -/

/-- The 32 bits of a word that count. -/
def low (x : Uint32) : Rfc1321.Word := x.setWidth 32

@[simp] theorem low_add (x y : Uint32) : low (x + y) = low x + low y :=
  BitVec.setWidth_add x y (by decide)

@[simp] theorem low_ofNat (n : Nat) : low (BitVec.ofNat 64 n) = BitVec.ofNat 32 n := by
  simp [low]

/-- The mask lets `S` rotate the low half. -/
theorem low_S (x : Uint32) {n : Nat} (less : n < 32) : low (S x n) = (low x).rotateLeft n := by
  have mask (k : Nat) : (4294967295 : Uint32).getLsbD k = decide (k < 32) := by
    change (BitVec.ofNat 64 (2 ^ 32 - 1)).getLsbD k = _
    rw [BitVec.getLsbD_ofNat, Nat.testBit_two_pow_sub_one, Bool.and_eq_right_iff_imp]
    intro small
    simp only [decide_eq_true_eq] at small ⊢
    omega
  ext i bound
  simp only [low, S, BitVec.getElem_setWidth, BitVec.getLsbD_or, BitVec.getLsbD_shiftLeft,
    BitVec.getLsbD_ushiftRight, BitVec.getLsbD_and, BitVec.getElem_rotateLeft, Nat.mod_eq_of_lt less,
    mask]
  grind

theorem low_F₁ (x y z : Uint32) : low (F₁ x y z) = Rfc1321.F (low x) (low y) (low z) := by
  ext i bound
  simp only [low, F₁, Rfc1321.F, BitVec.getElem_setWidth, BitVec.getLsbD_xor, BitVec.getLsbD_and,
    BitVec.getElem_or, BitVec.getElem_and, BitVec.getElem_not]
  grind

theorem low_F₂ (x y z : Uint32) : low (F₂ x y z) = Rfc1321.G (low x) (low y) (low z) := by
  ext i bound
  simp only [low, F₂, Rfc1321.G, BitVec.getElem_setWidth, BitVec.getLsbD_xor, BitVec.getLsbD_and,
    BitVec.getElem_or, BitVec.getElem_and, BitVec.getElem_not]
  grind

theorem low_F₃ (x y z : Uint32) : low (F₃ x y z) = Rfc1321.H (low x) (low y) (low z) := by
  simp [low, F₃, Rfc1321.H]

theorem low_F₄ (x y z : Uint32) : low (F₄ x y z) = Rfc1321.I (low x) (low y) (low z) := by
  simp [low, F₄, Rfc1321.I]

theorem low_getUint32 (b : List UInt8) (i : Nat) : low (getUint32 b i) = Rfc1321.word b i := by
  ext j bound
  simp [low, getUint32, Rfc1321.word, widen]
  grind

/-! ## A block -/

namespace Quad

variable {V W : Type} {q : Quad V} {f : V → W}

def map (f : V → W) (q : Quad V) : Quad W := ⟨f q.a, f q.b, f q.c, f q.d⟩

@[simp] theorem get_map {r : Reg} : (q.map f).get r = f (q.get r) := by cases r <;> rfl

theorem map_set {r : Reg} {v : V} : (q.set r v).map f = (q.map f).set r (f v) := by cases r <;> rfl

end Quad

variable {X : Nat → Uint32} {r : Quad Uint32}

/-- The rotation of the standard, with the table as the code has it. -/
def rotates (F : Rfc1321.Word → Rfc1321.Word → Rfc1321.Word → Rfc1321.Word) :
    (Nat → Rfc1321.Word) → Quad Rfc1321.Word → Use → Quad Rfc1321.Word :=
  P F BitVec.rotateLeft (BitVec.ofNat 32)

/-- On the low halves a use of `P` computes with 32 bits. -/
theorem low_P {F : Uint32 → Uint32 → Uint32 → Uint32}
    {F' : Rfc1321.Word → Rfc1321.Word → Rfc1321.Word → Rfc1321.Word}
    (same : ∀ x y z, low (F x y z) = F' (low x) (low y) (low z)) {u : Use} (less : u.s < 32) :
    (P F S (BitVec.ofNat 64) X r u).map low = rotates F' (fun k => low (X k)) (r.map low) u := by
  have get (q : Quad Uint32) (x : Reg) : low (q.get x) = (q.map low).get x := Quad.get_map.symm
  simp only [P, rotates, Quad.map_set, low_add, low_S _ less, same, low_ofNat, get]

theorem low_uses {F : Uint32 → Uint32 → Uint32 → Uint32}
    {F' : Rfc1321.Word → Rfc1321.Word → Rfc1321.Word → Rfc1321.Word}
    (same : ∀ x y z, low (F x y z) = F' (low x) (low y) (low z)) {us : List Use}
    (less : ∀ u ∈ us, u.s < 32) :
    (us.foldl (P F S (BitVec.ofNat 64) X) r).map low =
      us.foldl (rotates F' fun k => low (X k)) (r.map low) := by
  induction us generalizing r with
  | nil => rfl
  | cons u us ih =>
    rw [List.forall_mem_cons] at less
    rw [List.foldl_cons, List.foldl_cons, ih less.2, low_P same less.1]

/-- The registers in the order in which operation `i` takes them. -/
def seat (i : Nat) : Quad Reg :=
  match i % 4 with
  | 0 => ⟨.A, .B, .C, .D⟩
  | 1 => ⟨.D, .A, .B, .C⟩
  | 2 => ⟨.C, .D, .A, .B⟩
  | _ => ⟨.B, .C, .D, .A⟩

def seen (q : Quad Rfc1321.Word) (i : Nat) : Rfc1321.Buffer :=
  ⟨q.get (seat i).a, q.get (seat i).b, q.get (seat i).c, q.get (seat i).d⟩

/-- The constant of operation `i`. -/
def constant (i : Nat) : Nat := ((uses₁ ++ uses₂ ++ uses₃ ++ uses₄).map Use.t).getD i 0

/-- The use of `P` that is operation `i` of the standard. -/
def useAt (i : Nat) : Use :=
  ⟨(seat i).a, (seat i).b, (seat i).c, (seat i).d, Rfc1321.order i, Rfc1321.amount i, constant i⟩

/-- The lists of the code are the operations of the standard, round by round. -/
theorem uses_listed : uses₁ = (List.range' 0 16).map useAt ∧ uses₂ = (List.range' 16 16).map useAt ∧
    uses₃ = (List.range' 32 16).map useAt ∧ uses₄ = (List.range' 48 16).map useAt :=
  ⟨rfl, rfl, rfl, rfl⟩

/-- The constants are the table of sines. -/
theorem constant_eq {i : Nat} (less : i < 64) : BitVec.ofNat 32 (constant i) = Rfc1321.T (i + 1) := by
  have reads : ∀ i < 64, Sine.Reads 4294967296 (i + 1) (constant i) := by decide +kernel
  have floor := Sine.floor_sin (by omega) (by decide) (reads i less)
  rw [Rfc1321.T, ← floor]
  congr

/-- A use of `P` is an operation of the standard. -/
theorem seen_rotates {X : Nat → Rfc1321.Word} {r : Quad Rfc1321.Word} {i : Nat} (less : i < 64) :
    seen (rotates (Rfc1321.aux (i / 16)) X r (useAt i)) (i + 1) =
      Rfc1321.operation X (seen r i) i := by
  have seats : (seat i = ⟨.A, .B, .C, .D⟩ ∧ seat (i + 1) = ⟨.D, .A, .B, .C⟩) ∨
      (seat i = ⟨.D, .A, .B, .C⟩ ∧ seat (i + 1) = ⟨.C, .D, .A, .B⟩) ∨
      (seat i = ⟨.C, .D, .A, .B⟩ ∧ seat (i + 1) = ⟨.B, .C, .D, .A⟩) ∨
      (seat i = ⟨.B, .C, .D, .A⟩ ∧ seat (i + 1) = ⟨.A, .B, .C, .D⟩) := by
    have turn : i % 4 = 0 ∨ i % 4 = 1 ∨ i % 4 = 2 ∨ i % 4 = 3 := by omega
    unfold seat
    obtain turn | turn | turn | turn := turn
    all_goals
      have next : (i + 1) % 4 = (i % 4 + 1) % 4 := by omega
      rw [next, turn]
      simp
  rw [Rfc1321.operation, ← constant_eq less]
  obtain ⟨now, next⟩ | ⟨now, next⟩ | ⟨now, next⟩ | ⟨now, next⟩ := seats
  all_goals
    simp only [seen, now, next, rotates, P, useAt, Quad.get, Quad.set, BitVec.add_assoc]
    rw [BitVec.add_comm]

/-- Operations of one round, one after the other. -/
theorem seen_uses {X : Nat → Rfc1321.Word} {k i n : Nat}
    (within : ∀ j, i ≤ j → j < i + n → j / 16 = k) (less : i + n ≤ 64) (r : Quad Rfc1321.Word) :
    seen (((List.range' i n).map useAt).foldl (rotates (Rfc1321.aux k) X) r) (i + n) =
      (List.range' i n).foldl (Rfc1321.operation X) (seen r i) := by
  induction n generalizing i r with
  | zero => rfl
  | succ n ih =>
    have first : i / 16 = k := within i (by omega) (by omega)
    rw [List.range'_succ, List.map_cons, List.foldl_cons, List.foldl_cons,
      ← seen_rotates (by omega), first]
    have rest := ih (i := i + 1) (fun j lower upper => within j (by omega) (by omega)) (by omega)
      (rotates (Rfc1321.aux k) X r (useAt i))
    rwa [Nat.add_right_comm] at rest

/-- Round `k` of the code is round `k` of the standard. -/
theorem seen_round {F : Uint32 → Uint32 → Uint32 → Uint32} {us : List Use} {k : Nat} (fourth : k < 4)
    (same : ∀ x y z, low (F x y z) = Rfc1321.aux k (low x) (low y) (low z))
    (listed : us = (List.range' (16 * k) 16).map useAt) (less : ∀ u ∈ us, u.s < 32) :
    seen ((us.foldl (P F S (BitVec.ofNat 64) X) r).map low) (16 * k + 16) =
      (List.range' (16 * k) 16).foldl (Rfc1321.operation fun j => low (X j))
        (seen (r.map low) (16 * k)) := by
  rw [low_uses same less, listed]
  exact seen_uses (fun j lower upper => by omega) (by omega) _

/-- The four words as the standard knows them. -/
def words (q : Quad Uint32) : Rfc1321.Buffer := ⟨low q.a, low q.b, low q.c, low q.d⟩

/-- The rounds of the code are those of the standard. -/
theorem words_rounds (r : Quad Uint32) :
    words (rounds X r) =
      (List.range 64).foldl (Rfc1321.operation fun k => low (X k)) (words r) := by
  obtain ⟨list₁, list₂, list₃, list₄⟩ := uses_listed
  let r₁ := uses₁.foldl (P F₁ S (BitVec.ofNat 64) X) r
  let r₂ := uses₂.foldl (P F₂ S (BitVec.ofNat 64) X) r₁
  let r₃ := uses₃.foldl (P F₃ S (BitVec.ofNat 64) X) r₂
  let r₄ := uses₄.foldl (P F₄ S (BitVec.ofNat 64) X) r₃
  have round₁ : seen (r₁.map low) 16 = _ := seen_round (k := 0) (by decide) low_F₁ list₁ (by decide)
  have round₂ : seen (r₂.map low) 32 = _ := seen_round (k := 1) (by decide) low_F₂ list₂ (by decide)
  have round₃ : seen (r₃.map low) 48 = _ := seen_round (k := 2) (by decide) low_F₃ list₃ (by decide)
  have round₄ : seen (r₄.map low) 64 = _ := seen_round (k := 3) (by decide) low_F₄ list₄ (by decide)
  have all : List.range 64 =
      List.range' 0 16 ++ List.range' 16 16 ++ List.range' 32 16 ++ List.range' 48 16 := rfl
  simp only [all, List.foldl_append]
  calc
    words (rounds X r) = seen (r₄.map low) 64 := rfl
    _ = _ := by rw [round₄, round₃, round₂, round₁]; rfl

/-- `md5_process` is the compression of the standard. -/
theorem words_process (state : Quad Uint32) (data : List UInt8) :
    words (process state data) = Rfc1321.compress (words state) data := by
  have rounds := words_rounds (X := fun k => getUint32 data (4 * k)) state
  simp only [low_getUint32] at rounds
  rw [Rfc1321.compress, ← rounds]
  simp only [process, words, low_add]

/-! ## A piece of the message -/

section Copy

variable {dst src : List UInt8} {pos : Nat}

theorem memcpy_length (fits : pos + src.length ≤ dst.length) :
    (memcpy dst pos src).length = dst.length := by
  simp only [memcpy, List.length_append, List.length_take, List.length_drop]
  omega

theorem memcpy_take (fits : pos ≤ dst.length) :
    (memcpy dst pos src).take (pos + src.length) = dst.take pos ++ src := by
  rw [memcpy, List.take_left']
  rw [List.length_append, List.length_take_of_le fits]

end Copy

/-- The loop compresses the whole blocks of its input. -/
theorem blocks_absorb {fuel : Nat} (ctx : Context) {input : List UInt8} (enough : input.length ≤ fuel) :
    absorb 64 Rfc1321.compress (words ctx.state) input =
        (words (blocks fuel ctx input).1.state, (blocks fuel ctx input).2) ∧
      (blocks fuel ctx input).1.buffer = ctx.buffer ∧
      (blocks fuel ctx input).1.total0 = ctx.total0 ∧
      (blocks fuel ctx input).1.total1 = ctx.total1 := by
  induction fuel generalizing ctx input with
  | zero =>
    have short : input.length < 64 := by omega
    rw [blocks]
    exact ⟨absorb_short short, rfl, rfl, rfl⟩
  | succ fuel ih =>
    by_cases long : input.length ≥ 64
    · have less : (input.drop 64).length ≤ fuel := by
        rw [List.length_drop]
        omega
      obtain ⟨absorbed, frame⟩ :=
        ih { ctx with state := process ctx.state (input.take 64) } less
      rw [blocks, if_pos long]
      refine ⟨?_, frame⟩
      rw [← absorbed, words_process, ← absorb_block (by decide) (List.length_take_of_le long),
        List.take_append_drop]
    · have short : input.length < 64 := by omega
      rw [blocks, if_neg long]
      exact ⟨absorb_short short, rfl, rfl, rfl⟩

/-- The context that `md5_update` leaves, from the words `s` and the bytes `text` that were not
    compressed. -/
structure Absorbed (s : Rfc1321.Buffer) (text : List UInt8) (ctx out : Context) : Prop where
  state : words out.state = (absorb 64 Rfc1321.compress s text).1
  front : out.buffer.take (absorb 64 Rfc1321.compress s text).2.length =
    (absorb 64 Rfc1321.compress s text).2
  size : out.buffer.length = 64
  total0 : out.total0 = ctx.total0
  total1 : out.total1 = ctx.total1

theorem whole_absorbs {ctx : Context} {left : Uint32} {input front : List UInt8}
    (size : ctx.buffer.length = 64) (held : ctx.buffer.take left.toNat = front)
    (few : front.length = left.toNat) (fits : left.toNat = 0 ∨ left.toNat + input.length < 64) :
    Absorbed (words ctx.state) (front ++ input) ctx (whole ctx left input) := by
  obtain ⟨absorbed, buffer, total0, total1⟩ :=
    blocks_absorb ctx (Nat.le_refl input.length)
  unfold whole
  cases done : blocks input.length ctx input with | mk out rest =>
  rw [done] at absorbed buffer total0 total1
  simp only at absorbed buffer total0 total1 ⊢
  -- all that was not compressed, with what was held before it
  have all : absorb 64 Rfc1321.compress (words ctx.state) (front ++ input) =
      (words out.state, front ++ rest) := by
    by_cases none : left.toNat = 0
    · have nothing : front = [] := List.eq_nil_of_length_eq_zero (few.trans none)
      rw [nothing, List.nil_append, List.nil_append, absorbed]
    · have short : left.toNat + input.length < 64 := fits.resolve_left none
      have same := absorbed
      rw [absorb_short (by omega), Prod.mk.injEq] at same
      rw [absorb_short (by rw [List.length_append]; omega), ← same.1, ← same.2]
  have room : left.toNat + rest.length < 64 := by
    have less : (absorb 64 Rfc1321.compress (words ctx.state) (front ++ input)).2.length =
        (front ++ input).length % 64 := absorb_left (by decide)
    rw [all, List.length_append] at less
    omega
  split
  · refine ⟨by rw [all], ?_, ?_, total0, total1⟩
    · rw [all]
      have taken : (memcpy out.buffer left.toNat rest).take (left.toNat + rest.length) =
          out.buffer.take left.toNat ++ rest := memcpy_take (by rw [buffer, size]; omega)
      rw [List.length_append, few, taken, buffer, held]
    · rw [memcpy_length (by rw [buffer, size]; omega), buffer, size]
  next none =>
    have nothing : rest = [] := List.eq_nil_of_length_eq_zero (not_not.mp none)
    refine ⟨by rw [all], ?_, by rw [buffer, size], total0, total1⟩
    rw [all, nothing, List.append_nil, buffer, few, held]

theorem feed_absorbs {ctx : Context} {left : Uint32} {input front : List UInt8}
    (size : ctx.buffer.length = 64) (held : ctx.buffer.take left.toNat = front)
    (few : left.toNat < 64) (short : input.length < 18446744073709551616) :
    Absorbed (words ctx.state) (front ++ input) ctx (feed ctx left input) := by
  have number : (BitVec.ofNat 64 input.length).toNat = input.length :=
    Nat.mod_eq_of_lt short
  have fill : (64 - left).toNat = 64 - left.toNat :=
    BitVec.toNat_sub_of_le (BitVec.le_def.mpr few.le)
  have front_length : front.length = left.toNat := by
    rw [← held, List.length_take_of_le (by omega)]
  unfold feed
  simp only [ge_iff_le, BitVec.le_def, number, fill]
  split
  next fills =>
    obtain ⟨_, enough⟩ := fills
    have piece : (input.take (64 - left.toNat)).length = 64 - left.toNat :=
      List.length_take_of_le enough
    -- the buffer is full
    have full : memcpy ctx.buffer left.toNat (input.take (64 - left.toNat)) =
        front ++ input.take (64 - left.toNat) := by
      rw [memcpy, held, piece, List.drop_eq_nil_of_le (by omega), List.append_nil]
    have block : (front ++ input.take (64 - left.toNat)).length = 64 := by
      rw [List.length_append, front_length, piece]
      omega
    have pieces : absorb 64 Rfc1321.compress (words ctx.state) (front ++ input) =
        absorb 64 Rfc1321.compress
          (Rfc1321.compress (words ctx.state) (front ++ input.take (64 - left.toNat)))
          (input.drop (64 - left.toNat)) := by
      rw [← absorb_block (by decide) block, List.append_assoc, List.take_append_drop]
    let next : Context := { ctx with
      buffer := front ++ input.take (64 - left.toNat)
      state := process ctx.state (front ++ input.take (64 - left.toNat)) }
    have rest : Absorbed (words next.state) ([] ++ input.drop (64 - left.toNat)) next
        (whole next 0 (input.drop (64 - left.toNat))) :=
      whole_absorbs block rfl rfl (Or.inl rfl)
    rw [List.nil_append] at rest
    have state : words next.state = _ := words_process _ _
    rw [state] at rest
    rw [full]
    exact ⟨by rw [pieces]; exact rest.state, by rw [pieces]; exact rest.front, rest.size,
      rest.total0, rest.total1⟩
  next short =>
    have fits : left.toNat = 0 ∨ left.toNat + input.length < 64 := by
      by_cases none : left = 0
      · exact Or.inl (by rw [none]; rfl)
      · have := mt (And.intro none) short
        omega
    exact whole_absorbs size held front_length fits

/-! ## The whole message -/

/-- The context after the bytes `text`. -/
structure Takes (ctx : Context) (text : List UInt8) : Prop where
  state : words ctx.state = (absorb 64 Rfc1321.compress Rfc1321.init text).1
  front : ctx.buffer.take (text.length % 64) = (absorb 64 Rfc1321.compress Rfc1321.init text).2
  size : ctx.buffer.length = 64
  total0 : ctx.total0.toNat = 8 * text.length % 4294967296

/-- `( ctx->total[0] >> 3 ) & 0x3F` -/
theorem Takes.left {ctx : Context} {text : List UInt8} (takes : Takes ctx text) :
    ((ctx.total0 >>> 3) &&& 0x3F).toNat = text.length % 64 := by
  have mask : (0x3F : Uint32).toNat = 2 ^ 6 - 1 := rfl
  rw [BitVec.toNat_and, BitVec.toNat_ushiftRight, takes.total0, mask,
    Nat.and_two_pow_sub_one_eq_mod, Nat.shiftRight_eq_div_pow]
  omega

theorem starts_takes {stack : List UInt8} (size : stack.length = 64) : Takes (starts stack) [] := by
  have nothing : absorb 64 Rfc1321.compress Rfc1321.init [] = (Rfc1321.init, []) :=
    absorb_short (by decide)
  refine ⟨?_, ?_, size, rfl⟩
  · rw [nothing]
    rfl
  · rw [nothing]
    rfl

theorem count_total0 {ctx : Context} {input : List UInt8} :
    (count ctx (BitVec.ofNat 64 input.length)).total0.toNat =
      (ctx.total0.toNat + 8 * input.length) % 4294967296 := by
  have mask : (0xFFFFFFFF : Uint32).toNat = 2 ^ 32 - 1 := rfl
  simp only [count, BitVec.toNat_and, mask, Nat.and_two_pow_sub_one_eq_mod, BitVec.toNat_add,
    BitVec.toNat_shiftLeft, BitVec.toNat_ofNat, Nat.shiftLeft_eq]
  omega

theorem update_nil (ctx : Context) : update ctx [] = ctx := rfl

theorem update_absorbs {ctx : Context} {text input : List UInt8} (takes : Takes ctx text)
    (short : input.length < 2305843009213693952) (some : input ≠ []) :
    Absorbed (absorb 64 Rfc1321.compress Rfc1321.init text).1
      ((absorb 64 Rfc1321.compress Rfc1321.init text).2 ++ input)
      (count ctx (BitVec.ofNat 64 input.length)) (update ctx input) := by
  have nonzero : BitVec.ofNat 64 input.length ≠ 0 := by
    intro zero
    have : (BitVec.ofNat 64 input.length).toNat = 0 := by rw [zero]; rfl
    have positive := List.length_pos_of_ne_nil some
    rw [BitVec.toNat_ofNat] at this
    omega
  have few : ((ctx.total0 >>> 3) &&& 0x3F).toNat < 64 := by
    rw [takes.left]
    omega
  have fed : Absorbed _ _ _ (feed (count ctx (BitVec.ofNat 64 input.length))
      ((ctx.total0 >>> 3) &&& 0x3F) input) :=
    feed_absorbs takes.size rfl few (by omega)
  have front : (count ctx (BitVec.ofNat 64 input.length)).buffer.take
      ((ctx.total0 >>> 3) &&& 0x3F).toNat = _ := takes.left ▸ takes.front
  have state : words (count ctx (BitVec.ofNat 64 input.length)).state = _ := takes.state
  rw [front, state] at fed
  rw [update, if_neg nonzero]
  exact fed

/-- `md5_update` goes on from where the message has come to. -/
theorem update_takes {ctx : Context} {text : List UInt8} (takes : Takes ctx text)
    (input : List UInt8) (short : input.length < 2305843009213693952) : Takes (update ctx input) (text ++ input) := by
  by_cases none : input = []
  · rwa [none, update_nil, List.append_nil]
  · have absorbed := update_absorbs takes short none
    have all : absorb 64 Rfc1321.compress Rfc1321.init (text ++ input) = _ :=
      absorb_append (by decide)
    refine ⟨by rw [all]; exact absorbed.state, ?_, absorbed.size, ?_⟩
    · have left : (absorb 64 Rfc1321.compress Rfc1321.init (text ++ input)).2.length =
          (text ++ input).length % 64 := absorb_left (by decide)
      rw [← left, all]
      exact absorbed.front
    · rw [absorbed.total0, count_total0, takes.total0, List.length_append]
      omega

/-! ## The digest -/

/-- A byte of a number, of which only the lowest bits count. -/
theorem byte_eq (n : Uint32) {k : Nat} (few : k ≤ 24) :
    byte (n >>> k) = UInt8.ofBitVec ((low n >>> k).setWidth 8) := by
  have mask (j : Nat) (bound : j < 8) : (255 : Uint32).getLsbD j = true := by
    change (BitVec.ofNat 64 (2 ^ 8 - 1)).getLsbD j = true
    rw [BitVec.getLsbD_ofNat, Nat.testBit_two_pow_sub_one]
    simp
    omega
  unfold byte
  congr 1
  ext j bound
  simp only [low, BitVec.getElem_setWidth, BitVec.getLsbD_and, BitVec.getLsbD_ushiftRight,
    BitVec.getLsbD_setWidth, mask j bound, Bool.and_true]
  have inside : k + j < 32 := by omega
  simp [inside]

theorem putUint32_octets (n : Uint32) : putUint32 n = Rfc1321.octets 4 (low n) := by
  have first : byte n = UInt8.ofBitVec ((low n).setWidth 8) := byte_eq n (k := 0) (by decide)
  rw [putUint32, first, byte_eq n (by decide), byte_eq n (by decide), byte_eq n (by decide)]
  rfl

/-- The bytes of the two counters are the 64 bits of one number. -/
theorem msglen_octets (total0 total1 : Uint32) :
    putUint32 total0 ++ putUint32 total1 = Rfc1321.octets 8 (low total1 ++ low total0) := by
  have lower (k : Nat) (few : k ≤ 24) : ((low total1 ++ low total0) >>> k).setWidth 8 =
      (low total0 >>> k).setWidth 8 := by
    ext j bound
    have inside : k + j < 32 := by omega
    rw [BitVec.getElem_setWidth, BitVec.getElem_setWidth, BitVec.getLsbD_ushiftRight,
      BitVec.getLsbD_ushiftRight, BitVec.getLsbD_append, if_pos inside]
  have upper (k : Nat) (few : k ≤ 24) : ((low total1 ++ low total0) >>> (32 + k)).setWidth 8 =
      (low total1 >>> k).setWidth 8 := by
    ext j bound
    have outside : ¬ 32 + k + j < 32 := by omega
    have same : 32 + k + j - 32 = k + j := by omega
    rw [BitVec.getElem_setWidth, BitVec.getElem_setWidth, BitVec.getLsbD_ushiftRight,
      BitVec.getLsbD_ushiftRight, BitVec.getLsbD_append, if_neg outside, same]
  have eight : Rfc1321.octets 8 (low total1 ++ low total0) =
      (List.range 4).map (fun j =>
        UInt8.ofBitVec (((low total1 ++ low total0) >>> (8 * j)).setWidth 8)) ++
      (List.range 4).map fun j =>
        UInt8.ofBitVec (((low total1 ++ low total0) >>> (32 + 8 * j)).setWidth 8) := rfl
  rw [putUint32_octets, putUint32_octets, eight]
  congr 1
  · apply List.map_congr_left
    intro j few
    rw [lower (8 * j) (by rw [List.mem_range] at few; omega)]
  · apply List.map_congr_left
    intro j few
    rw [upper (8 * j) (by rw [List.mem_range] at few; omega)]

/-- The bytes of padding. -/
theorem padding_take {ctx : Context} {text : List UInt8} (takes : Takes ctx text) :
    padding.take (padn ((ctx.total0 >>> 3) &&& 0x3F)).toNat = Rfc1321.pad text.length := by
  have last := takes.left
  generalize (ctx.total0 >>> 3) &&& 0x3F = left at last
  have count : (padn left).toNat = (119 - text.length % 64) % 64 + 1 := by
    unfold padn
    split
    next few =>
      rw [BitVec.lt_def] at few
      rw [BitVec.toNat_sub_of_le (BitVec.le_def.mpr (Nat.le_of_lt few))]
      change 56 - left.toNat = _
      have : left.toNat < 56 := few
      omega
    next many =>
      rw [BitVec.lt_def] at many
      have : ¬ left.toNat < 56 := many
      have fits : left.toNat ≤ 120 := by omega
      rw [BitVec.toNat_sub_of_le (BitVec.le_def.mpr fits)]
      change 120 - left.toNat = _
      omega
  rw [count, padding, List.take_succ_cons, Rfc1321.pad, List.take_replicate]
  congr 2
  omega

/-- `md5_finish` pads the message with what is in `total` as its length. -/
theorem finish_digest {ctx : Context} {text : List UInt8} (takes : Takes ctx text) :
    finish ctx = Rfc1321.digestAs text (low ctx.total1 ++ low ctx.total0) := by
  have padded := update_takes takes (Rfc1321.pad text.length) (by
    rw [Rfc1321.pad, List.length_cons, List.length_replicate]
    omega)
  have closed := update_takes padded
    (Rfc1321.octets 8 (low ctx.total1 ++ low ctx.total0)) (by
      rw [Rfc1321.octets, List.length_map, List.length_range]
      decide)
  have digest (q : Quad Uint32) : putUint32 q.a ++ putUint32 q.b ++ putUint32 q.c ++ putUint32 q.d =
      (words q).digest := by
    simp only [putUint32_octets, Rfc1321.Buffer.digest, words]
  unfold finish
  simp only
  rw [digest, padding_take takes, msglen_octets, closed.state]
  rfl

/-! ## The length -/

theorem count_total1 {ctx : Context} {input : List UInt8} (short : input.length < 2305843009213693952) :
    (count ctx (BitVec.ofNat 64 input.length)).total1.toNat =
      (ctx.total1.toNat + input.length / 536870912 +
        if (ctx.total0.toNat + 8 * input.length) % 4294967296 < 8 * input.length then 1 else 0) %
          18446744073709551616 := by
  have bits : (BitVec.ofNat 64 input.length <<< 3).toNat = 8 * input.length := by
    rw [BitVec.toNat_shiftLeft, BitVec.toNat_ofNat, Nat.shiftLeft_eq]
    omega
  have shifted : (BitVec.ofNat 64 input.length >>> 29).toNat = input.length / 536870912 := by
    rw [BitVec.toNat_ushiftRight, BitVec.toNat_ofNat, Nat.shiftRight_eq_div_pow]
    omega
  have carry : (count ctx (BitVec.ofNat 64 input.length)).total1 =
      ctx.total1 + BitVec.ofNat 64 input.length >>> 29 +
        if (count ctx (BitVec.ofNat 64 input.length)).total0 < BitVec.ofNat 64 input.length <<< 3
          then 1 else 0 := rfl
  simp only [carry, BitVec.lt_def, count_total0, bits, BitVec.toNat_add, shifted]
  split
  · change (_ % 2 ^ 64 + 1) % 2 ^ 64 = _
    omega
  · change (_ % 2 ^ 64 + 0) % 2 ^ 64 = _
    omega

/-- A context that knows how many bytes it took. -/
structure Counts (ctx : Context) (text : List UInt8) : Prop extends Takes ctx text where
  total1 : ctx.total1.toNat % 4294967296 = 8 * text.length / 4294967296 % 4294967296

/-- Below 2^29 bytes the carry between the two counters is right. -/
theorem update_counts {ctx : Context} {text input : List UInt8} (counts : Counts ctx text)
    (short : input.length < 536870912) : Counts (update ctx input) (text ++ input) := by
  refine ⟨update_takes counts.toTakes input (by omega), ?_⟩
  by_cases none : input = []
  · rw [none, update_nil, List.append_nil]
    exact counts.total1
  · have absorbed := update_absorbs counts.toTakes (by omega) none
    have bits := counts.total0
    have high := counts.total1
    rw [absorbed.total1, count_total1 (by omega), List.length_append, bits]
    split <;> omega

/-- The length in the two counters of a context. -/
theorem length_append {ctx : Context} {text : List UInt8} {high : Nat} (takes : Takes ctx text)
    (total1 : ctx.total1.toNat % 4294967296 = high) :
    low ctx.total1 ++ low ctx.total0 =
      BitVec.ofNat 64 (4294967296 * high + 8 * text.length % 4294967296) := by
  have low0 : (low ctx.total0).toNat = 8 * text.length % 4294967296 := by
    rw [low, BitVec.toNat_setWidth, takes.total0]
    omega
  have low1 : (low ctx.total1).toNat = high := by
    rw [low, BitVec.toNat_setWidth]
    exact total1
  apply BitVec.eq_of_toNat_eq
  rw [BitVec.toNat_append, low0, low1, Nat.shiftLeft_eq, BitVec.toNat_ofNat,
    ← Nat.shiftLeft_eq, ← Nat.shiftLeft_add_eq_or_of_lt (by omega), Nat.shiftLeft_eq]
  omega

/-! ## Results -/

/-- A message that comes in any number of pieces. -/
theorem update_pieces {stack : List UInt8} (size : stack.length = 64) (pieces : List (List UInt8))
    (short : ∀ piece ∈ pieces, piece.length < 536870912) :
    finish (pieces.foldl update (starts stack)) = Rfc1321.md5 pieces.flatten := by
  have counts (ctx : Context) (text : List UInt8) (counts : Counts ctx text) :
      Counts (pieces.foldl update ctx) (text ++ pieces.flatten) := by
    induction pieces generalizing ctx text with
    | nil => rwa [List.flatten_nil, List.append_nil]
    | cons piece pieces ih =>
      rw [List.forall_mem_cons] at short
      rw [List.flatten_cons, ← List.append_assoc]
      exact ih short.2 _ _ (update_counts counts short.1)
  have all := counts _ [] ⟨starts_takes size, rfl⟩
  rw [List.nil_append] at all
  rw [finish_digest all.toTakes, length_append all.toTakes all.total1, Rfc1321.md5]
  congr 1
  apply BitVec.eq_of_toNat_eq
  rw [BitVec.toNat_ofNat, BitVec.toNat_ofNat]
  omega

theorem update_pieces_abc : ∃ pieces : List (List UInt8), pieces = [[0x61], [], [0x62, 0x63]] ∧
    finish (pieces.foldl update (starts (List.replicate 64 7))) = Rfc1321.md5 [0x61, 0x62, 0x63] :=
  ⟨_, rfl, update_pieces (by decide) [[0x61], [], [0x62, 0x63]] (by decide)⟩

/-- `GenerateMD5` gives the digest of RFC 1321 below 2^29 bytes, and from there on the digest
    with a length that is 2^32 bits too large. -/
theorem generateMD5_digest {stack : List UInt8} (size : stack.length = 64) (buffer : List UInt8)
    (fits : buffer.length < 2147483648) :
    generateMD5 stack buffer = Rfc1321.digestAs buffer (BitVec.ofNat 64
      (8 * buffer.length + if buffer.length < 536870912 then 0 else 4294967296)) := by
  have takes := update_takes (starts_takes size) buffer (by omega)
  have high : (update (starts stack) buffer).total1.toNat % 4294967296 =
      8 * buffer.length / 4294967296 + if buffer.length < 536870912 then 0 else 1 := by
    by_cases none : buffer = []
    · rw [none]
      rfl
    · have absorbed := update_absorbs (starts_takes size) (by omega) none
      have zero0 : (starts stack).total0.toNat = 0 := rfl
      have zero1 : (starts stack).total1.toNat = 0 := rfl
      have positive := List.length_pos_of_ne_nil none
      rw [absorbed.total1, count_total1 (by omega), zero0, zero1]
      split <;> split <;> omega
  rw [generateMD5, finish_digest takes, length_append takes high, List.nil_append]
  congr 2
  split <;> omega

theorem generateMD5_digest_abc : generateMD5 (List.replicate 64 7) [0x61, 0x62, 0x63] =
    Rfc1321.digestAs [0x61, 0x62, 0x63] (BitVec.ofNat 64 24) :=
  generateMD5_digest (by decide) [0x61, 0x62, 0x63] (by decide)

end Seckill.Md5
