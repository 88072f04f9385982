import Custody.Word256

/-!
# The place of a token's leaf

The leaves stand at the bottom of a binary tree of height 256. A `LeafIndex` has one
bit for each level, numbered by weight, and the path from the root takes the heaviest
bit first. `ofTokenId` goes through the bits of the id, byte by byte, and sets those of
the index; `tokenId` goes through the bits of the index and sets those of the id. In
an id, places are counted from the most significant bit of the first byte on.
-/

namespace Custody

/-- The height of the tree of leaves. -/
def treeHeight : Nat := 256

/-- The place of a leaf: one bit for each level, of which bit `i` weighs `2 ^ i`. -/
abbrev LeafIndex := BitVec treeHeight

/-- The byte of which one bit is set, counted from the most significant one. -/
def bitMask (bit : Nat) : UInt8 := 128 >>> UInt8.ofNat bit

/-- The bytes with the bit at a place set. -/
def BigEndian.setBit (bytes : Bytes) (place : Nat) : Bytes :=
  bytes.modify (place / 8) fun byte => byte ||| bitMask (place % 8)

@[simp] theorem BigEndian.length_setBit (bytes : Bytes) (place : Nat) :
    (setBit bytes place).length = bytes.length := List.length_modify ..

/-- The word with the bit at a place set. -/
def Word256.setBit (word : Word256) (place : Nat) : Word256 :=
  ⟨BigEndian.setBit word.bytes place, (BigEndian.length_setBit ..).trans word.length_bytes⟩

namespace LeafIndex

/-- The index with the bit of weight `2 ^ i` set. -/
def set (index : LeafIndex) (i : Nat) : LeafIndex := index ||| BitVec.twoPow treeHeight i

/-- The index with one bit of a byte of the id, if the byte has the bit. -/
def copyBit (id : TokenId) (byte : Fin 32) (index : LeafIndex) (bit : Nat) : LeafIndex :=
  if id.byte byte &&& bitMask bit ≠ 0 then index.set (treeHeight - 1 - (byte * 8 + bit)) else index

/-- The index with the bits of a byte of the id. -/
def copyByte (id : TokenId) (index : LeafIndex) (byte : Fin 32) : LeafIndex :=
  (List.range 8).foldl (copyBit id byte) index

/-- The place of the leaf of a token. -/
def ofTokenId (id : TokenId) : LeafIndex := (List.finRange 32).foldl (copyByte id) 0

/-- The id with the bit at a place, if the index has the bit. -/
def restoreBit (index : LeafIndex) (id : TokenId) (place : Nat) : TokenId :=
  if index.getLsbD (treeHeight - 1 - place) then id.setBit place else id

/-- The token whose leaf stands at the place. -/
def tokenId (index : LeafIndex) : TokenId :=
  (List.range treeHeight).foldl (restoreBit index) .zero

/-- A depth at or below the leaves, where no branch is taken. -/
structure DepthError where
  /-- The depth that was asked for. -/
  depth : Nat
  deriving DecidableEq, Repr

/-- The text of the error. -/
def DepthError.message (error : DepthError) : Bytes :=
  utf8 "leaf path depth " ++ decimal error.depth ++ utf8 " beyond tree height"

/-- A depth at or below the leaves is out of range. -/
def DepthError.kind : DepthError → ArgumentError := fun _ => .outOfRange

/-- The branch taken at a depth, which is zero at the root: `true` is the right one. -/
def branch (index : LeafIndex) (depth : Nat) : Except DepthError Bool :=
  if treeHeight ≤ depth then .error ⟨depth⟩ else .ok (index.getLsbD (treeHeight - 1 - depth))

/-- The bits of the index, the heaviest one first. -/
def path (index : LeafIndex) : List Bool :=
  (List.range treeHeight).map fun depth => index.getLsbD (treeHeight - 1 - depth)

/-- The path as binary digits. -/
def text (index : LeafIndex) : Bytes := index.path.map fun right => if right then 49 else 48

end LeafIndex

end Custody
