import Mathlib.Analysis.SpecialFunctions.Trigonometric.Basic
import Seckill.Lib.BlockHash

/-! # MD5

The message digest of RFC 1321, as the standard has it: words of 32 bits, the auxiliary
functions of its four rounds, the table `T` by the sine, and a message padded to whole
blocks with its length at the end.
-/

namespace Rfc1321

open BlockHash

abbrev Word := BitVec 32

/-- The words `A` to `D` of the buffer. -/
@[ext]
structure Buffer where
  A : Word
  B : Word
  C : Word
  D : Word

/-! ## Octets -/

/-- A word of four octets, the low-order one first. -/
def word (octets : List UInt8) (i : Nat) : Word :=
  let octet := fun j => (octets.getD (i + j) 0).toBitVec
  octet 3 ++ octet 2 ++ octet 1 ++ octet 0

/-- The low-order octets of a number, the lowest first. -/
def octets {w : Nat} (count : Nat) (x : BitVec w) : List UInt8 :=
  (List.range count).map fun j => UInt8.ofBitVec ((x >>> (8 * j)).setWidth 8)

/-! ## Step 1 and step 2: the message is padded -/

/-- A single 1 bit, and 0 bits until 64 bits are left of the last block. -/
def pad (length : Nat) : List UInt8 := 0x80 :: List.replicate ((119 - length % 64) % 64) 0

/-- The message in whole blocks, where `bits` stands for its length. -/
def padded (message : List UInt8) (bits : BitVec 64) : List UInt8 :=
  message ++ pad message.length ++ octets 8 bits

/-! ## Step 3: the buffer -/

def init : Buffer := ⟨0x67452301, 0xEFCDAB89, 0x98BADCFE, 0x10325476⟩

/-! ## Step 4: blocks of sixteen words -/

def F (X Y Z : Word) : Word := (X &&& Y) ||| (~~~X &&& Z)
def G (X Y Z : Word) : Word := (X &&& Z) ||| (Y &&& ~~~Z)
def H (X Y Z : Word) : Word := X ^^^ Y ^^^ Z
def I (X Y Z : Word) : Word := Y ^^^ (X ||| ~~~Z)

/-- The integer part of 2^32 times `abs(sin(i))`. -/
noncomputable def T (i : Nat) : Word := BitVec.ofNat 32 ⌊4294967296 * |Real.sin i|⌋₊

/-- The function of round `r`, counted from 0. -/
def aux (r : Nat) : Word → Word → Word → Word :=
  match r with
  | 0 => F
  | 1 => G
  | 2 => H
  | _ => I

/-- The word of the block that operation `i` takes. -/
def order (i : Nat) : Nat :=
  match i / 16 with
  | 0 => i % 16
  | 1 => (5 * i + 1) % 16
  | 2 => (3 * i + 5) % 16
  | _ => (7 * i) % 16

/-- By how much operation `i` rotates. -/
def amount (i : Nat) : Nat :=
  match i / 16, i % 4 with
  | 0, 0 => 7
  | 0, 1 => 12
  | 0, 2 => 17
  | 0, _ => 22
  | 1, 0 => 5
  | 1, 1 => 9
  | 1, 2 => 14
  | 1, _ => 20
  | 2, 0 => 4
  | 2, 1 => 11
  | 2, 2 => 16
  | 2, _ => 23
  | _, 0 => 6
  | _, 1 => 10
  | _, 2 => 15
  | _, _ => 21

/-- Operation `i`, after which the words change places. -/
noncomputable def operation (X : Nat → Word) (q : Buffer) (i : Nat) : Buffer :=
  ⟨q.D, q.B + (q.A + aux (i / 16) q.B q.C q.D + X (order i) + T (i + 1)).rotateLeft (amount i),
    q.B, q.C⟩

/-- The four rounds. -/
noncomputable def compress (q : Buffer) (block : List UInt8) : Buffer :=
  let r := (List.range 64).foldl (operation fun k => word block (4 * k)) q
  ⟨q.A + r.A, q.B + r.B, q.C + r.C, q.D + r.D⟩

/-! ## Step 5: output -/

def Buffer.digest (q : Buffer) : List UInt8 :=
  octets 4 q.A ++ octets 4 q.B ++ octets 4 q.C ++ octets 4 q.D

/-- The digest of a message whose length is taken to be `bits`. -/
noncomputable def digestAs (message : List UInt8) (bits : BitVec 64) : List UInt8 :=
  (absorb 64 compress init (padded message bits)).1.digest

/-- The digest of a message. -/
noncomputable def md5 (message : List UInt8) : List UInt8 :=
  digestAs message (BitVec.ofNat 64 (8 * message.length))

end Rfc1321
