import Custody.ErrorCode
import Custody.Numeral

/-!
# Hexadecimal text of byte strings

`encode` writes two lower-case digits a byte. `decode` reads digits of either
case after an optional `0x` or `0X` mark, and refuses an odd number of digits
before it looks at the digits themselves. The pairs of digits are read by their
positions in the text. A refused text with a bad digit is quoted whole, mark
included.
-/

namespace Custody.Hex

/-- Why a text denotes no byte string. -/
inductive Error where
  /-- The number of digits is odd. -/
  | oddLength
  /-- The text holds a byte that is no digit. -/
  | badDigit (text : Bytes)
  deriving DecidableEq, Repr

/-- The text of the error. -/
def Error.message : Error → Bytes
  | .oddLength => utf8 "hex string has odd length"
  | .badDigit text => utf8 "invalid hex digit in '" ++ text ++ utf8 "'"

/-- A text that denotes no byte string is invalid. -/
def Error.kind : Error → ArgumentError := fun _ => .invalid

/-- The text without its `0x` or `0X` mark, if it has one. -/
def unmarked : Bytes → Bytes
  | 48 :: 120 :: rest => rest
  | 48 :: 88 :: rest => rest
  | text => text

/-- Whether the text begins with a `0x` or `0X` mark. -/
def isMarked : Bytes → Bool
  | 48 :: byte :: _ => byte == 120 || byte == 88
  | _ => false

/-- Two lower-case digits a byte, without a mark. -/
def encode (bytes : Bytes) : Bytes :=
  bytes.flatMap fun byte => [hexDigit (byte.toNat / 16), hexDigit (byte.toNat % 16)]

/-- The position of the first digit, which is behind the mark if there is one. -/
def start (text : Bytes) : Nat := if isMarked text then 2 else 0

/-- What stops the reading of pairs of digits. -/
inductive Stop where
  /-- A position past the end of the text was to be read. -/
  | pastEnd
  /-- A byte that was read is no digit. -/
  | noDigit
  deriving DecidableEq, Repr

/-- The bytes that the pairs of digits denote from a position to the end of the text. -/
def bytesFrom (text : Array UInt8) (position : Nat) : Except Stop Bytes :=
  if position < text.size then
    match text[position]?, text[position + 1]? with
    | some high, some low =>
      match hexDigit? high, hexDigit? low with
      | some high, some low =>
        (bytesFrom text (position + 2)).map (UInt8.ofNat (high <<< 4 ||| low) :: ·)
      | _, _ => .error .noDigit
    | _, _ => .error .pastEnd
  else .ok []
termination_by text.size - position

/-- The bytes that a text denotes. -/
def decode (text : Bytes) : Except Error Bytes :=
  if (text.length - start text) % 2 ≠ 0 then .error .oddLength
  else (bytesFrom text.toArray (start text)).mapError fun _ => .badDigit text

/-- The bytes with the value of a digit set at a place. Places are counted from the first digit, two
to a byte, and the digit that stood there is taken to be zero. -/
def setDigit (bytes : Bytes) (place value : Nat) : Bytes :=
  bytes.modify (place / 2) fun byte =>
    byte ||| UInt8.ofNat (if place % 2 = 0 then value <<< 4 else value)

@[simp] theorem length_setDigit (bytes : Bytes) (place value : Nat) :
    (setDigit bytes place value).length = bytes.length := List.length_modify ..

@[simp] theorem length_encode (bytes : Bytes) : (encode bytes).length = 2 * bytes.length := by
  induction bytes with
  | nil => rfl
  | cons byte rest ih =>
    simp only [encode, List.flatMap_cons, List.length_append, List.length_cons, List.length_nil]
    have tail : (encode rest).length = 2 * rest.length := ih
    simp only [encode] at tail
    omega

end Custody.Hex
