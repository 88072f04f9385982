import Custody.Bytes

/-!
# The SHA-2 family

The compression shared by the members of the family, over a word type with
addition and bitwise operations. A `Variant` fixes the word width, the round
constants, the four mixing functions and the initial registers. A message is
padded with one set bit, zeros and its length in bits to whole blocks of sixteen
words, and the blocks are absorbed one after another. The digest has eight words
by `length_hash`.
-/

namespace Custody.Sha2

/-- The eight working registers. -/
structure Registers (W : Type) where
  a : W
  b : W
  c : W
  d : W
  e : W
  f : W
  g : W
  h : W

/-- The registers in order. -/
def Registers.toList {W : Type} (r : Registers W) : List W := [r.a, r.b, r.c, r.d, r.e, r.f, r.g, r.h]

/-- A member of the family. -/
structure Variant (W : Type) where
  /-- The number of bytes in a word. -/
  width : Nat
  /-- The word of a number, modulo the word size. -/
  ofNat : Nat → W
  /-- The number of a word. -/
  toNat : W → Nat
  /-- The round constants, one for each round. -/
  constants : List W
  /-- The registers before the first block. -/
  initial : Registers W
  /-- The mixing of register `a` in a round. -/
  mixA : W → W
  /-- The mixing of register `e` in a round. -/
  mixE : W → W
  /-- The mixing of the schedule word fifteen places back. -/
  mixOld : W → W
  /-- The mixing of the schedule word two places back. -/
  mixNew : W → W

variable {W : Type} (v : Variant W)

/-- The message followed by one set bit, the fewest zeros and its length in bits, so that the
whole is a multiple of the block size. -/
def Variant.pad (message : Bytes) : Bytes :=
  let block := 16 * v.width
  let filled := (message.length + 1 + 2 * v.width) % block
  message ++ 0x80 :: (List.replicate ((block - filled) % block) 0 ++
    BigEndian.ofNat (2 * v.width) (8 * message.length))

/-- The first `count` pieces of `size` bytes each. -/
def pieces (size : Nat) : (count : Nat) → Bytes → List Bytes
  | 0, _ => []
  | count + 1, bytes => bytes.take size :: pieces size count (bytes.drop size)

/-- The sixteen words of a block. -/
def Variant.words (block : Bytes) : List W :=
  (pieces v.width 16 block).map fun piece => v.ofNat (BigEndian.toNat piece)

variable [Add W] [AndOp W] [XorOp W] [Complement W]

/-- The message schedule: one word for each round, of which the first sixteen are the block. -/
def Variant.schedule (block : List W) : List W :=
  let word (ws : Array W) (back : Nat) : W := ws.getD (ws.size - back) (v.ofNat 0)
  let extend (ws : Array W) : Array W :=
    ws.push (v.mixNew (word ws 2) + word ws 7 + v.mixOld (word ws 15) + word ws 16)
  ((v.constants.drop 16).foldl (fun ws _ => extend ws) block.toArray).toList

/-- One round with its constant and its schedule word. -/
def Variant.round (r : Registers W) (constant word : W) : Registers W :=
  let choice := (r.e &&& r.f) ^^^ (~~~r.e &&& r.g)
  let majority := (r.a &&& r.b) ^^^ (r.a &&& r.c) ^^^ (r.b &&& r.c)
  let first := r.h + v.mixE r.e + choice + constant + word
  let second := v.mixA r.a + majority
  { a := first + second, b := r.a, c := r.b, d := r.c,
    e := r.d + first, f := r.e, g := r.f, h := r.g }

/-- Absorbs one block: all rounds, and then the old registers are added to the new ones. -/
def Variant.absorb (r : Registers W) (block : Bytes) : Registers W :=
  let steps := v.constants.zip (v.schedule (v.words block))
  let s := steps.foldl (fun s step => v.round s step.1 step.2) r
  { a := r.a + s.a, b := r.b + s.b, c := r.c + s.c, d := r.d + s.d,
    e := r.e + s.e, f := r.f + s.f, g := r.g + s.g, h := r.h + s.h }

/-- The digest of a message: the registers after its last block. -/
def Variant.hash (message : Bytes) : Bytes :=
  let padded := v.pad message
  let blocks := pieces (16 * v.width) (padded.length / (16 * v.width)) padded
  (blocks.foldl v.absorb v.initial).toList.flatMap fun word => BigEndian.ofNat v.width (v.toNat word)

@[simp] theorem Variant.length_hash (message : Bytes) : (v.hash message).length = 8 * v.width := by
  simp only [hash, Registers.toList, List.flatMap_cons, List.flatMap_nil, List.length_append,
    BigEndian.length_ofNat, List.length_nil]
  omega

end Custody.Sha2
