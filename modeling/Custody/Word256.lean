import Custody.Decimal
import Custody.Hex
import Std.Data.ExtTreeMap

/-!
# 256-bit words

A `Word256` is thirty-two bytes, most significant first: a token id, a block
reference or a digest. Words are ordered as byte strings, and `toNat` reads a
word as a number below `2 ^ 256`. Numerals are accepted in hexadecimal, with one
to sixty-four digits, and in decimal, with any number of digits. The two texts
of a word are its sixty-four hexadecimal digits and its decimal numeral.
-/

namespace Custody

-- Powers are those of the core library, whatever other instances are in scope.
attribute [local instance (2000)] instPowNat

/-- Thirty-two bytes, most significant first. -/
@[ext] structure Word256 where
  /-- The bytes, most significant first. -/
  bytes : Bytes
  /-- There are thirty-two of them. -/
  length_bytes : bytes.length = 32
  deriving DecidableEq, Repr

namespace Word256

/-- The word of a number, which is taken modulo `2 ^ 256`. -/
def ofNat (n : Nat) : Word256 := ⟨BigEndian.ofNat 32 n, BigEndian.length_ofNat 32 n⟩

/-- The word of a machine number, which takes the last eight bytes. -/
def ofUInt64 (value : UInt64) : Word256 where
  bytes := List.replicate 24 0 ++
    (List.range 8).reverse.map fun i => (value >>> UInt64.ofNat (8 * i)).toUInt8
  length_bytes := rfl

/-- The byte at a place, of which the first one is the most significant. -/
def byte (word : Word256) (i : Fin 32) : UInt8 := word.bytes.get (i.cast word.length_bytes.symm)

/-- The number that a word denotes. -/
def toNat (word : Word256) : Nat := BigEndian.toNat word.bytes

/-- The word whose bytes are all zero. -/
def zero : Word256 := ⟨List.replicate 32 0, rfl⟩

instance : Inhabited Word256 := ⟨zero⟩

/-- Whether all bytes are zero. -/
def isZero (word : Word256) : Bool := word.bytes.all (· == 0)

/-- Words are compared byte by byte from the most significant end. -/
instance : Ord Word256 := ⟨fun a b => compare a.bytes b.bytes⟩

instance : LT Word256 := ltOfOrd

/-- One word is at most another unless the other one comes before it. -/
instance : LE Word256 := ⟨fun a b => ¬ b < a⟩

instance : DecidableLE Word256 := fun a b => inferInstanceAs (Decidable (¬ b < a))

theorem compare_def (a b : Word256) : compare a b = compare a.bytes b.bytes := rfl

instance : Std.TransOrd Word256 where
  eq_swap {a b} := by simpa only [compare_def] using Std.OrientedOrd.eq_swap
  isLE_trans first second := Std.TransOrd.isLE_trans (α := Bytes) first second

instance : Std.LawfulEqOrd Word256 where
  compare_self := by simp
  eq_of_compare {a b} same := Word256.ext (by simpa [compare_def] using same)

/-- Why a text denotes no word. -/
inductive NumeralError where
  /-- A hexadecimal numeral has no digit or more than sixty-four. -/
  | hexLength
  /-- The byte is no hexadecimal digit. -/
  | hexDigit (byte : UInt8)
  /-- A decimal numeral has no digit. -/
  | noDecimalDigit
  /-- The byte is no decimal digit. -/
  | decimalDigit (byte : UInt8)
  /-- The number is `2 ^ 256` or more. -/
  | tooLarge
  deriving DecidableEq, Repr

/-- The text of the error. -/
def NumeralError.message : NumeralError → Bytes
  | .hexLength => utf8 "U256: hex string must hold 1 to 64 digits"
  | .hexDigit byte => utf8 "U256: invalid hex digit '" ++ byte :: utf8 "'"
  | .noDecimalDigit => utf8 "U256: empty decimal string"
  | .decimalDigit byte => utf8 "U256: invalid decimal digit '" ++ byte :: utf8 "'"
  | .tooLarge => utf8 "U256: decimal value exceeds 256 bits"

/-- A numeral is out of range when its number is too large, and else it is invalid. -/
def NumeralError.kind : NumeralError → ArgumentError
  | .tooLarge => .outOfRange
  | .hexLength | .hexDigit _ | .noDecimalDigit | .decimalDigit _ => .invalid

/-- The word with the value of a hexadecimal digit set at a place. -/
def setDigit (word : Word256) (place value : Nat) : Word256 :=
  ⟨Hex.setDigit word.bytes place value, (Hex.length_setDigit ..).trans word.length_bytes⟩

/-- Sets hexadecimal digits, of which the last one comes first, at the places below `place`. -/
def fillHex (word : Word256) (place : Nat) : Bytes → Except NumeralError Word256
  | [] => .ok word
  | byte :: rest =>
    match hexDigit? byte with
    | none => .error (.hexDigit byte)
    | some value => fillHex (word.setDigit (place - 1) value) (place - 1) rest

/-- Reads a hexadecimal numeral with an optional mark. The length is judged before the digits,
and of several bad digits the last one is reported. -/
def ofHex (text : Bytes) : Except NumeralError Word256 :=
  let digits := Hex.unmarked text
  if digits.isEmpty ∨ 64 < digits.length then .error .hexLength
  else fillHex zero 64 digits.reverse

/-- Ten times the word and a decimal digit, with what runs over. -/
def pushDigit (word : Word256) (digit : UInt32) : Word256 × UInt32 :=
  (⟨(BigEndian.pushDigit digit word.bytes).1,
    (BigEndian.length_pushDigit ..).trans word.length_bytes⟩,
    (BigEndian.pushDigit digit word.bytes).2)

/-- Reads further decimal digits behind those of the word, and stops at the first byte that is no
digit or that makes the number too large. -/
def scanDecimal (word : Word256) : Bytes → Except NumeralError Word256
  | [] => .ok word
  | byte :: rest =>
    match decimalDigit? byte with
    | none => .error (.decimalDigit byte)
    | some digit =>
      let (next, carry) := word.pushDigit (UInt32.ofNat digit)
      if carry = 0 then scanDecimal next rest else .error .tooLarge

/-- Reads a decimal numeral, with any number of leading zeros. -/
def ofDecimal (text : Bytes) : Except NumeralError Word256 :=
  if text.isEmpty then .error .noDecimalDigit else scanDecimal zero text

/-- Reads a numeral: hexadecimal if it bears the mark, else decimal. -/
def ofNumeral (text : Bytes) : Except NumeralError Word256 :=
  if Hex.isMarked text then ofHex text else ofDecimal text

/-- The mark `0x` and sixty-four lower-case digits. -/
def toHex (word : Word256) : Bytes := utf8 "0x" ++ Hex.encode word.bytes

/-- The decimal numeral of the word, without leading zeros. -/
def toDecimal (word : Word256) : Bytes :=
  if word.isZero then utf8 "0"
  else ((BigEndian.popDigits word.bytes).map fun digit => (48 + digit).toUInt8).reverse

@[simp] theorem toNat_zero : zero.toNat = 0 := rfl

theorem toNat_lt (word : Word256) : word.toNat < 2 ^ (256 : Nat) := by
  have bound := BigEndian.toNat_lt word.bytes
  rw [word.length_bytes] at bound
  exact bound

theorem toNat_ofNat (n : Nat) : (ofNat n).toNat = n % 2 ^ (256 : Nat) :=
  BigEndian.toNat_ofNat 32 n

@[simp] theorem ofNat_toNat (word : Word256) : ofNat word.toNat = word := by
  have back := BigEndian.ofNat_toNat word.bytes
  rw [word.length_bytes] at back
  exact Word256.ext back

theorem toNat_injective {a b : Word256} (same : a.toNat = b.toNat) : a = b := by
  rw [← ofNat_toNat a, same, ofNat_toNat b]

end Word256

/-- The number that names a token. -/
abbrev TokenId := Word256

/-- The number of the block in which the sender's ownership was last confirmed. -/
abbrev BlockNumber := Word256

/-- A SHA-256 digest. -/
abbrev Digest := Word256

end Custody
