import Custody.Hex
import Mathlib.Tactic.Common

/-!
# Hexadecimal text denotes one byte string

A digit is read back as the value it was written for, so the pairs of digits that
`encode` writes are read back as the bytes by `pairs?_encode`. Two byte strings
with the same text are therefore the same.
-/

namespace Custody

/-- A digit of either kind is read back as its value. -/
theorem hexDigit?_hexDigit {value : Nat} (hvalue : value < 16) :
    hexDigit? (hexDigit value) = some value := by
  revert value
  decide

namespace Hex

/-- The bytes that pairs of digits denote, or `none` if some byte is no digit or has no partner. -/
def pairs? : Bytes → Option Bytes
  | [] => some []
  | [_] => none
  | high :: low :: rest => do
    let high ← hexDigit? high
    let low ← hexDigit? low
    let rest ← pairs? rest
    pure (UInt8.ofNat (16 * high + low) :: rest)

/-- The digits of a byte string are read back as the byte string. -/
theorem pairs?_encode (bytes : Bytes) : pairs? (encode bytes) = some bytes := by
  induction bytes with
  | nil => rfl
  | cons byte rest ih =>
      have hbyte : byte.toNat < 256 := byte.toNat_lt
      have hhigh := hexDigit?_hexDigit (show byte.toNat / 16 < 16 by omega)
      have hlow := hexDigit?_hexDigit (show byte.toNat % 16 < 16 by omega)
      have hsum : 16 * (byte.toNat / 16) + byte.toNat % 16 = byte.toNat := Nat.div_add_mod _ _
      have htext : encode (byte :: rest) =
          hexDigit (byte.toNat / 16) :: hexDigit (byte.toNat % 16) :: encode rest := rfl
      rw [htext, pairs?, hhigh, hlow, ih]
      show some (UInt8.ofNat (16 * (byte.toNat / 16) + byte.toNat % 16) :: rest) = _
      rw [hsum, UInt8.ofNat_toNat]

/-- Different byte strings have different texts. -/
theorem encode_injective {a b : Bytes} (h : encode a = encode b) : a = b := by
  have hread := pairs?_encode a
  rw [h, pairs?_encode] at hread
  exact (Option.some.inj hread).symm

end Hex

end Custody
