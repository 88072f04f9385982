import Custody.Word256

/-!
# Account identities

An `AccountId` is thirty-two bytes: the public key of the account. Identities
are only compared, in byte order, and written into messages. Their text is the
mark `0x` and sixty-four digits; reading takes the mark as optional and refuses
any other number of bytes.
-/

namespace Custody

/-- The public identity of an account. -/
@[ext] structure AccountId where
  /-- The bytes of the public key. -/
  bytes : Bytes
  /-- There are thirty-two of them. -/
  length_bytes : bytes.length = 32
  deriving Repr

namespace AccountId

/-- The identity whose bytes are all zero. -/
def zero : AccountId := ⟨Word256.zero.bytes, Word256.zero.length_bytes⟩

instance : Inhabited AccountId := ⟨zero⟩

instance : DecidableEq AccountId := fun _ _ => decidable_of_iff _ AccountId.ext_iff.symm

/-- Identities are compared byte by byte. -/
instance : Ord AccountId := ⟨fun a b => compare a.bytes b.bytes⟩

instance : LT AccountId := ltOfOrd

/-- Why a text denotes no identity. -/
inductive TextError where
  /-- The text denotes no byte string. -/
  | hex (error : Hex.Error)
  /-- The text denotes this many bytes. -/
  | size (count : Nat)
  deriving DecidableEq, Repr

/-- The text of the error. -/
def TextError.message : TextError → Bytes
  | .hex error => error.message
  | .size count => utf8 "AccountId must be 32 bytes, got " ++ decimal count

/-- A text that denotes no identity is invalid. -/
def TextError.kind : TextError → ArgumentError := fun _ => .invalid

/-- Reads an identity. The digits are judged before their number. -/
def ofHex (text : Bytes) : Except TextError AccountId :=
  match Hex.decode text with
  | .error error => .error (.hex error)
  | .ok bytes => if h : bytes.length = 32 then .ok ⟨bytes, h⟩ else .error (.size bytes.length)

/-- The mark `0x` and sixty-four lower-case digits. -/
def toHex (account : AccountId) : Bytes := utf8 "0x" ++ Hex.encode account.bytes

end AccountId

end Custody
