import Custody.Bytes

/-!
# Decimal digits of long numbers

A number is held in a byte string of fixed width, most significant byte first.
`pushDigit` writes a decimal digit behind the number: it multiplies by ten from
the last byte to the first and hands a carry on, and the carry out of the first
byte is what no longer fits. `popDigit` takes the last decimal digit off: it
divides by ten from the first byte to the last and hands a remainder on. Both
are exact, by `toNat_pushDigit` and `toNat_popDigit`, so taking digits off ends.
-/

namespace Custody.BigEndian

-- Powers are those of the core library, whatever other instances are in scope.
attribute [local instance (2000)] instPowNat

/-! ### Multiplying by ten -/

/-- Ten times the number and `carry`, in the same width, with the carry out of the first byte. -/
def pushDigit (carry : UInt32) : Bytes → Bytes × UInt32
  | [] => ([], carry)
  | byte :: rest =>
    let (low, carry) := pushDigit carry rest
    let sum := byte.toUInt32 * 10 + carry
    ((sum &&& 0xff).toUInt8 :: low, sum >>> 8)

@[simp] theorem length_pushDigit (carry : UInt32) (bytes : Bytes) :
    (pushDigit carry bytes).1.length = bytes.length := by
  induction bytes with
  | nil => rfl
  | cons byte rest ih => rw [pushDigit, List.length_cons, List.length_cons, ih]

/-- A byte and its carry make a carry that is a digit again, and nothing is lost. -/
theorem toNat_push_byte (byte : UInt8) {carry : UInt32} (small : carry.toNat < 10) :
    ((byte.toUInt32 * 10 + carry) >>> 8).toNat < 10 ∧
      ((byte.toUInt32 * 10 + carry) >>> 8).toNat * 256 +
          ((byte.toUInt32 * 10 + carry) &&& 0xff).toUInt8.toNat =
        10 * byte.toNat + carry.toNat := by
  have bound := byte.toNat_lt
  have sum : (byte.toUInt32 * 10 + carry).toNat = 10 * byte.toNat + carry.toNat := by
    rw [UInt32.toNat_add, UInt32.toNat_mul, UInt8.toNat_toUInt32]
    show (byte.toNat * 10 % 2 ^ 32 + carry.toNat) % 2 ^ 32 = _
    omega
  have high : ((byte.toUInt32 * 10 + carry) >>> 8).toNat =
      (10 * byte.toNat + carry.toNat) / 256 := by
    rw [UInt32.toNat_shiftRight, sum]
    exact Nat.shiftRight_eq_div_pow _ 8
  have low : ((byte.toUInt32 * 10 + carry) &&& 0xff).toUInt8.toNat =
      (10 * byte.toNat + carry.toNat) % 256 := by
    rw [UInt32.toNat_toUInt8, UInt32.toNat_and, sum]
    show ((10 * byte.toNat + carry.toNat) &&& (2 ^ 8 - 1)) % 2 ^ 8 = _
    rw [Nat.and_two_pow_sub_one_eq_mod]
    omega
  omega

/-- The bytes and the carry out of them make ten times the number and the digit. -/
theorem toNat_pushDigit {digit : UInt32} (small : digit.toNat < 10) (bytes : Bytes) :
    (pushDigit digit bytes).2.toNat < 10 ∧
      (pushDigit digit bytes).2.toNat * 256 ^ bytes.length + toNat (pushDigit digit bytes).1 =
        10 * toNat bytes + digit.toNat := by
  induction bytes with
  | nil => simpa [pushDigit, toNat] using small
  | cons byte rest ih =>
    obtain ⟨smallLow, low⟩ := ih
    obtain ⟨smallSum, sum⟩ := toNat_push_byte byte smallLow
    rw [pushDigit, toNat_cons, toNat_cons, length_pushDigit, List.length_cons, Nat.pow_succ]
    refine ⟨smallSum, ?_⟩
    generalize 256 ^ rest.length = weight at *
    grind

/-! ### Dividing by ten -/

/-- A tenth of the number behind `remainder`, in the same width, with the last remainder. -/
def popDigit (remainder : UInt32) : Bytes → Bytes × UInt32
  | [] => ([], remainder)
  | byte :: rest =>
    let current := remainder <<< 8 ||| byte.toUInt32
    let (low, last) := popDigit (current % 10) rest
    ((current / 10).toUInt8 :: low, last)

@[simp] theorem length_popDigit (remainder : UInt32) (bytes : Bytes) :
    (popDigit remainder bytes).1.length = bytes.length := by
  induction bytes generalizing remainder with
  | nil => rfl
  | cons byte rest ih => rw [popDigit, List.length_cons, List.length_cons, ih]

/-- The quotient of a byte behind a remainder fits a byte. -/
theorem toNat_pop_byte (byte : UInt8) {remainder : UInt32} (small : remainder.toNat < 10) :
    ((remainder <<< 8 ||| byte.toUInt32) % 10).toNat < 10 ∧
      10 * ((remainder <<< 8 ||| byte.toUInt32) / 10).toUInt8.toNat +
          ((remainder <<< 8 ||| byte.toUInt32) % 10).toNat =
        remainder.toNat * 256 + byte.toNat := by
  have bound := byte.toNat_lt
  have current : (remainder <<< 8 ||| byte.toUInt32).toNat =
      remainder.toNat * 256 + byte.toNat := by
    rw [UInt32.toNat_or, UInt32.toNat_shiftLeft, UInt8.toNat_toUInt32]
    show (remainder.toNat <<< 8 % 2 ^ 32) ||| byte.toNat = _
    rw [Nat.mod_eq_of_lt (by rw [Nat.shiftLeft_eq]; omega),
      ← Nat.shiftLeft_add_eq_or_of_lt bound, Nat.shiftLeft_eq]
  have last : ((remainder <<< 8 ||| byte.toUInt32) % 10).toNat =
      (remainder.toNat * 256 + byte.toNat) % 10 := by
    rw [UInt32.toNat_mod, current]
    rfl
  have quotient : ((remainder <<< 8 ||| byte.toUInt32) / 10).toUInt8.toNat =
      (remainder.toNat * 256 + byte.toNat) / 10 := by
    rw [UInt32.toNat_toUInt8, UInt32.toNat_div, current]
    show (remainder.toNat * 256 + byte.toNat) / 10 % 256 = _
    omega
  omega

/-- Ten times the quotient and the last remainder make the number behind the first remainder. -/
theorem toNat_popDigit {remainder : UInt32} (small : remainder.toNat < 10) (bytes : Bytes) :
    (popDigit remainder bytes).2.toNat < 10 ∧
      10 * toNat (popDigit remainder bytes).1 + (popDigit remainder bytes).2.toNat =
        remainder.toNat * 256 ^ bytes.length + toNat bytes := by
  induction bytes generalizing remainder with
  | nil => simpa [popDigit, toNat] using small
  | cons byte rest ih =>
    obtain ⟨smallCurrent, current⟩ := toNat_pop_byte byte small
    obtain ⟨smallLast, last⟩ := ih smallCurrent
    rw [popDigit, toNat_cons, toNat_cons, length_popDigit, List.length_cons, Nat.pow_succ]
    refine ⟨smallLast, ?_⟩
    generalize 256 ^ rest.length = weight at *
    grind

/-- The quotient is the number without its last decimal digit. -/
theorem toNat_popDigit_zero_fst (bytes : Bytes) :
    toNat (popDigit 0 bytes).1 = toNat bytes / 10 := by
  obtain ⟨small, whole⟩ := toNat_popDigit (show (0 : UInt32).toNat < 10 by decide) bytes
  rw [UInt32.toNat_zero] at whole
  omega

/-- The remainder is the last decimal digit of the number. -/
theorem toNat_popDigit_zero_snd (bytes : Bytes) :
    (popDigit 0 bytes).2.toNat = toNat bytes % 10 := by
  obtain ⟨small, whole⟩ := toNat_popDigit (show (0 : UInt32).toNat < 10 by decide) bytes
  rw [UInt32.toNat_zero] at whole
  omega

/-- A quotient with a byte other than zero is less than the number. -/
theorem toNat_popDigit_lt {bytes : Bytes} (more : (popDigit 0 bytes).1.any (· != 0)) :
    toNat (popDigit 0 bytes).1 < toNat bytes := by
  have positive := any_ne_zero_iff.mp more
  have quotient := toNat_popDigit_zero_fst bytes
  omega

/-- The decimal digits of a number, the last one first, until the quotient is zero. -/
def popDigits (bytes : Bytes) : List UInt32 :=
  let popped := popDigit 0 bytes
  popped.2 :: if _more : popped.1.any (· != 0) then popDigits popped.1 else []
termination_by toNat bytes
decreasing_by exact toNat_popDigit_lt _more

end Custody.BigEndian
