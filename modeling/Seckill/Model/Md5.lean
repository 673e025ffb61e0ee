import Seckill.Model.Prepare

/-! # `MD5`

`Md5.cc`, on the platform the server runs on: `uint32` is `unsigned long int`, of 64 bits.
The macro `P` and its sixty-four uses are a step function and a list.  `memcpy` is a splice
of lists, so that a copy past the end of the buffer would make it longer.
-/

namespace Seckill.Md5

open CStr

abbrev Uint32 := BitVec 64

/-- Four words, `state[0]` to `state[3]` or the variables `A` to `D`. -/
structure Quad (W : Type) where
  a : W
  b : W
  c : W
  d : W
  deriving DecidableEq

inductive Reg where
  | A | B | C | D
  deriving DecidableEq

namespace Quad

variable {W : Type}

def get (q : Quad W) : Reg → W
  | .A => q.a
  | .B => q.b
  | .C => q.c
  | .D => q.d

def set (q : Quad W) (r : Reg) (w : W) : Quad W :=
  match r with
  | .A => { q with a := w }
  | .B => { q with b := w }
  | .C => { q with c := w }
  | .D => { q with d := w }

end Quad

/-- `md5_context` -/
structure Context where
  total0 : Uint32
  total1 : Uint32
  state : Quad Uint32
  buffer : List UInt8

/-- A `uint8` cast to `uint32`. -/
def widen (b : UInt8) : Uint32 := b.toBitVec.setWidth 64

/-- `(uint8) (n & 0xFF)` -/
def byte (n : Uint32) : UInt8 := UInt8.ofBitVec ((n &&& 0xFF).setWidth 8)

/-- `GET_UINT32` -/
def getUint32 (b : List UInt8) (i : Nat) : Uint32 :=
  widen (b.getD i 0) ||| widen (b.getD (i + 1) 0) <<< 8 ||| widen (b.getD (i + 2) 0) <<< 16 |||
    widen (b.getD (i + 3) 0) <<< 24

/-- `PUT_UINT32` -/
def putUint32 (n : Uint32) : List UInt8 :=
  [byte n, byte (n >>> 8), byte (n >>> 16), byte (n >>> 24)]

def starts (buffer : List UInt8) : Context where
  total0 := 0
  total1 := 0
  state := ⟨0x67452301, 0xEFCDAB89, 0x98BADCFE, 0x10325476⟩
  buffer := buffer

/-! ## `md5_process` -/

/-- The macro `S`. -/
def S (x : Uint32) (n : Nat) : Uint32 := x <<< n ||| (x &&& 0xFFFFFFFF) >>> (32 - n)

/-- A use of the macro `P`. -/
structure Use where
  a : Reg
  b : Reg
  c : Reg
  d : Reg
  k : Nat
  s : Nat
  t : Nat
  deriving DecidableEq

/-- The macro `P`, with the `F` that is defined where it is used. -/
def P {W : Type} [Add W] (F : W → W → W → W) (S : W → Nat → W) (T : Nat → W) (X : Nat → W)
    (r : Quad W) (u : Use) : Quad W :=
  let r := r.set u.a (r.get u.a + (F (r.get u.b) (r.get u.c) (r.get u.d) + X u.k + T u.t))
  r.set u.a (S (r.get u.a) u.s + r.get u.b)

def F₁ (x y z : Uint32) : Uint32 := z ^^^ (x &&& (y ^^^ z))
def F₂ (x y z : Uint32) : Uint32 := y ^^^ (z &&& (x ^^^ y))
def F₃ (x y z : Uint32) : Uint32 := x ^^^ y ^^^ z
def F₄ (x y z : Uint32) : Uint32 := y ^^^ (x ||| ~~~z)

open Reg in
def uses₁ : List Use := [
  ⟨A, B, C, D,  0,  7, 0xD76AA478⟩,
  ⟨D, A, B, C,  1, 12, 0xE8C7B756⟩,
  ⟨C, D, A, B,  2, 17, 0x242070DB⟩,
  ⟨B, C, D, A,  3, 22, 0xC1BDCEEE⟩,
  ⟨A, B, C, D,  4,  7, 0xF57C0FAF⟩,
  ⟨D, A, B, C,  5, 12, 0x4787C62A⟩,
  ⟨C, D, A, B,  6, 17, 0xA8304613⟩,
  ⟨B, C, D, A,  7, 22, 0xFD469501⟩,
  ⟨A, B, C, D,  8,  7, 0x698098D8⟩,
  ⟨D, A, B, C,  9, 12, 0x8B44F7AF⟩,
  ⟨C, D, A, B, 10, 17, 0xFFFF5BB1⟩,
  ⟨B, C, D, A, 11, 22, 0x895CD7BE⟩,
  ⟨A, B, C, D, 12,  7, 0x6B901122⟩,
  ⟨D, A, B, C, 13, 12, 0xFD987193⟩,
  ⟨C, D, A, B, 14, 17, 0xA679438E⟩,
  ⟨B, C, D, A, 15, 22, 0x49B40821⟩]

open Reg in
def uses₂ : List Use := [
  ⟨A, B, C, D,  1,  5, 0xF61E2562⟩,
  ⟨D, A, B, C,  6,  9, 0xC040B340⟩,
  ⟨C, D, A, B, 11, 14, 0x265E5A51⟩,
  ⟨B, C, D, A,  0, 20, 0xE9B6C7AA⟩,
  ⟨A, B, C, D,  5,  5, 0xD62F105D⟩,
  ⟨D, A, B, C, 10,  9, 0x02441453⟩,
  ⟨C, D, A, B, 15, 14, 0xD8A1E681⟩,
  ⟨B, C, D, A,  4, 20, 0xE7D3FBC8⟩,
  ⟨A, B, C, D,  9,  5, 0x21E1CDE6⟩,
  ⟨D, A, B, C, 14,  9, 0xC33707D6⟩,
  ⟨C, D, A, B,  3, 14, 0xF4D50D87⟩,
  ⟨B, C, D, A,  8, 20, 0x455A14ED⟩,
  ⟨A, B, C, D, 13,  5, 0xA9E3E905⟩,
  ⟨D, A, B, C,  2,  9, 0xFCEFA3F8⟩,
  ⟨C, D, A, B,  7, 14, 0x676F02D9⟩,
  ⟨B, C, D, A, 12, 20, 0x8D2A4C8A⟩]

open Reg in
def uses₃ : List Use := [
  ⟨A, B, C, D,  5,  4, 0xFFFA3942⟩,
  ⟨D, A, B, C,  8, 11, 0x8771F681⟩,
  ⟨C, D, A, B, 11, 16, 0x6D9D6122⟩,
  ⟨B, C, D, A, 14, 23, 0xFDE5380C⟩,
  ⟨A, B, C, D,  1,  4, 0xA4BEEA44⟩,
  ⟨D, A, B, C,  4, 11, 0x4BDECFA9⟩,
  ⟨C, D, A, B,  7, 16, 0xF6BB4B60⟩,
  ⟨B, C, D, A, 10, 23, 0xBEBFBC70⟩,
  ⟨A, B, C, D, 13,  4, 0x289B7EC6⟩,
  ⟨D, A, B, C,  0, 11, 0xEAA127FA⟩,
  ⟨C, D, A, B,  3, 16, 0xD4EF3085⟩,
  ⟨B, C, D, A,  6, 23, 0x04881D05⟩,
  ⟨A, B, C, D,  9,  4, 0xD9D4D039⟩,
  ⟨D, A, B, C, 12, 11, 0xE6DB99E5⟩,
  ⟨C, D, A, B, 15, 16, 0x1FA27CF8⟩,
  ⟨B, C, D, A,  2, 23, 0xC4AC5665⟩]

open Reg in
def uses₄ : List Use := [
  ⟨A, B, C, D,  0,  6, 0xF4292244⟩,
  ⟨D, A, B, C,  7, 10, 0x432AFF97⟩,
  ⟨C, D, A, B, 14, 15, 0xAB9423A7⟩,
  ⟨B, C, D, A,  5, 21, 0xFC93A039⟩,
  ⟨A, B, C, D, 12,  6, 0x655B59C3⟩,
  ⟨D, A, B, C,  3, 10, 0x8F0CCC92⟩,
  ⟨C, D, A, B, 10, 15, 0xFFEFF47D⟩,
  ⟨B, C, D, A,  1, 21, 0x85845DD1⟩,
  ⟨A, B, C, D,  8,  6, 0x6FA87E4F⟩,
  ⟨D, A, B, C, 15, 10, 0xFE2CE6E0⟩,
  ⟨C, D, A, B,  6, 15, 0xA3014314⟩,
  ⟨B, C, D, A, 13, 21, 0x4E0811A1⟩,
  ⟨A, B, C, D,  4,  6, 0xF7537E82⟩,
  ⟨D, A, B, C, 11, 10, 0xBD3AF235⟩,
  ⟨C, D, A, B,  2, 15, 0x2AD7D2BB⟩,
  ⟨B, C, D, A,  9, 21, 0xEB86D391⟩]

/-- The sixty-four uses of `P`. -/
def rounds (X : Nat → Uint32) (r : Quad Uint32) : Quad Uint32 :=
  let r := uses₁.foldl (P F₁ S (BitVec.ofNat 64) X) r
  let r := uses₂.foldl (P F₂ S (BitVec.ofNat 64) X) r
  let r := uses₃.foldl (P F₃ S (BitVec.ofNat 64) X) r
  uses₄.foldl (P F₄ S (BitVec.ofNat 64) X) r

/-- `md5_process`: what it makes of `ctx->state`. -/
def process (state : Quad Uint32) (data : List UInt8) : Quad Uint32 :=
  let r := rounds (fun k => getUint32 data (4 * k)) state
  ⟨state.a + r.a, state.b + r.b, state.c + r.c, state.d + r.d⟩

/-! ## `md5_update` and `md5_finish` -/

/-- `memcpy(dst + at, src, length of src)` -/
def memcpy (dst : List UInt8) (pos : Nat) (src : List UInt8) : List UInt8 :=
  dst.take pos ++ src ++ dst.drop (pos + src.length)

/-- The loop `while( length >= 64 )`, with fuel for it. -/
def blocks : Nat → Context → List UInt8 → Context × List UInt8
  | 0, ctx, input => (ctx, input)
  | fuel + 1, ctx, input =>
    if input.length ≥ 64 then
      blocks fuel { ctx with state := process ctx.state (input.take 64) } (input.drop 64)
    else (ctx, input)

/-- `md5_update` from its loop on. -/
def whole (ctx : Context) (left : Uint32) (input : List UInt8) : Context :=
  let (ctx, input) := blocks input.length ctx input
  if input.length ≠ 0 then { ctx with buffer := memcpy ctx.buffer left.toNat input } else ctx

/-- `md5_update` once the length is counted. -/
def feed (ctx : Context) (left : Uint32) (input : List UInt8) : Context :=
  let length : Uint32 := BitVec.ofNat 64 input.length
  let fill := 64 - left
  if left ≠ 0 ∧ length ≥ fill then
    let buffer := memcpy ctx.buffer left.toNat (input.take fill.toNat)
    whole { ctx with buffer := buffer, state := process ctx.state buffer } 0 (input.drop fill.toNat)
  else whole ctx left input

/-- The number of bits in `total`. -/
def count (ctx : Context) (length : Uint32) : Context :=
  let total0 := ctx.total0 + length <<< 3
  let total1 := ctx.total1 + length >>> 29
  -- 64 bits wide here, and cut to 32; what it is compared with below is not cut
  let total0 := total0 &&& 0xFFFFFFFF
  { ctx with
    total0 := total0
    total1 := total1 + if total0 < length <<< 3 then 1 else 0 }

/-- `md5_update`, where `input` has exactly `length` bytes. -/
def update (ctx : Context) (input : List UInt8) : Context :=
  let length : Uint32 := BitVec.ofNat 64 input.length
  if length = 0 then ctx
  else
    let left := (ctx.total0 >>> 3) &&& 0x3F
    feed (count ctx length) left input

def padding : List UInt8 := 0x80 :: List.replicate 63 0

/-- How many bytes of padding come after `last` bytes of a block. -/
def padn (last : Uint32) : Uint32 := if last < 56 then 56 - last else 120 - last

def finish (ctx : Context) : List UInt8 :=
  -- the length is taken before the padding is counted
  let msglen := putUint32 ctx.total0 ++ putUint32 ctx.total1
  let last := (ctx.total0 >>> 3) &&& 0x3F
  let ctx := update ctx (padding.take (padn last).toNat)
  let ctx := update ctx msglen
  putUint32 ctx.state.a ++ putUint32 ctx.state.b ++ putUint32 ctx.state.c ++ putUint32 ctx.state.d

/-- `GenerateMD5`, whose context has whatever `stack` held in its buffer; the bytes that it
    leaves at `m_data`. -/
def generateMD5 (stack buffer : List UInt8) : List UInt8 := finish (update (starts stack) buffer)

end Seckill.Md5
