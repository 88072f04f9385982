import Custody.Bytes

/-!
# Digits and numerals

Decimal and hexadecimal digits as ASCII bytes, the number that a list of digits
denotes in a base, and the decimal numeral of a number. Hexadecimal digits are
read in either case and written in lower case.
-/

namespace Custody

/-- The value of a decimal digit, or `none` for any other byte. -/
def decimalDigit? (byte : UInt8) : Option Nat :=
  if 48 ≤ byte ∧ byte ≤ 57 then some (byte.toNat - 48) else none

/-- The value of a hexadecimal digit of either case, or `none` for any other byte. -/
def hexDigit? (byte : UInt8) : Option Nat :=
  if 48 ≤ byte ∧ byte ≤ 57 then some (byte.toNat - 48)
  else if 97 ≤ byte ∧ byte ≤ 102 then some (byte.toNat - 87)
  else if 65 ≤ byte ∧ byte ≤ 70 then some (byte.toNat - 55)
  else none

/-- The lower-case hexadecimal digit of a value below sixteen. -/
def hexDigit (value : Nat) : UInt8 :=
  if value < 10 then UInt8.ofNat (48 + value) else UInt8.ofNat (87 + value)

/-- The number that a list of digit values denotes in a base, most significant first. -/
def numeralValue (base : Nat) (digits : List Nat) : Nat :=
  digits.foldl (fun n digit => base * n + digit) 0

/-- The decimal numeral of a number, without leading zeros. -/
def decimal (n : Nat) : Bytes := (Nat.toDigits 10 n).map fun digit => UInt8.ofNat digit.toNat

end Custody
