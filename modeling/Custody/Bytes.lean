/-!
# Byte strings and their numbers

Every text and every binary value is a byte string. A byte string has two
readings as a number, with the least or the most significant byte first, and a
number has a byte string of each width in either order. Writing a number that
fits the width and reading it back gives the number, by `LittleEndian.toNat_ofNat`
and `BigEndian.toNat_ofNat`.
-/

namespace Custody

-- Powers are those of the core library, whatever other instances are in scope.
attribute [local instance (2000)] instPowNat

/-- A byte string: a text as its UTF-8 bytes, or binary data. -/
abbrev Bytes := List UInt8

/-- The UTF-8 bytes of a text. -/
def utf8 (text : String) : Bytes := text.toList.flatMap String.utf8EncodeChar

/-- The part of a text before its first zero byte. -/
def untilZero (text : Bytes) : Bytes := text.takeWhile (· != 0)

namespace LittleEndian

/-- The number whose base-256 digits are the bytes, least significant first. -/
def toNat (bytes : Bytes) : Nat := bytes.foldr (fun byte rest => byte.toNat + 256 * rest) 0

/-- The `width` lowest base-256 digits of a number, least significant first. -/
def ofNat : (width : Nat) → Nat → Bytes
  | 0, _ => []
  | width + 1, n => UInt8.ofNat n :: ofNat width (n / 256)

@[simp] theorem length_ofNat (width n : Nat) : (ofNat width n).length = width := by
  induction width generalizing n with
  | zero => rfl
  | succ width ih => simp [ofNat, ih]

/-- Reading back what was written gives the number modulo `256 ^ width`. -/
theorem toNat_ofNat (width n : Nat) : toNat (ofNat width n) = n % 256 ^ width := by
  induction width generalizing n with
  | zero => simp [ofNat, toNat, Nat.mod_one]
  | succ width ih =>
    have step : toNat (ofNat (width + 1) n) = n % 256 + 256 * toNat (ofNat width (n / 256)) := by
      simp [toNat, ofNat]
    rw [step, ih, Nat.pow_succ, Nat.mul_comm (256 ^ width), Nat.mod_mul]

theorem toNat_lt (bytes : Bytes) : toNat bytes < 256 ^ bytes.length := by
  induction bytes with
  | nil => simp [toNat]
  | cons byte rest ih =>
    have bound := byte.toNat_lt
    have step : toNat (byte :: rest) = byte.toNat + 256 * toNat rest := rfl
    rw [step, List.length_cons, Nat.pow_succ]
    omega

/-- The digits of the number of a byte string are the byte string. -/
theorem ofNat_toNat (bytes : Bytes) : ofNat bytes.length (toNat bytes) = bytes := by
  induction bytes with
  | nil => rfl
  | cons byte rest ih =>
    have bound := byte.toNat_lt
    have step : toNat (byte :: rest) = byte.toNat + 256 * toNat rest := rfl
    have low : UInt8.ofNat (byte.toNat + 256 * toNat rest) = byte := by
      apply UInt8.toNat_inj.mp
      rw [UInt8.toNat_ofNat']
      omega
    have high : (byte.toNat + 256 * toNat rest) / 256 = toNat rest := by omega
    rw [step, List.length_cons, ofNat, low, high, ih]

/-- What follows a byte string weighs more by its width. -/
theorem toNat_append (low high : Bytes) :
    toNat (low ++ high) = toNat low + 256 ^ low.length * toNat high := by
  induction low with
  | nil => simp [toNat]
  | cons byte rest ih =>
    have step : ∀ tail, toNat (byte :: tail) = byte.toNat + 256 * toNat tail := fun _ => rfl
    have weight :
        256 ^ (rest.length + 1) * toNat high = 256 * (256 ^ rest.length * toNat high) := by
      rw [Nat.pow_succ, Nat.mul_comm (256 ^ _), Nat.mul_assoc]
    rw [List.cons_append, step, step, ih, List.length_cons, weight]
    omega

end LittleEndian

namespace BigEndian

/-- The number whose base-256 digits are the bytes, most significant first. -/
def toNat (bytes : Bytes) : Nat := bytes.foldl (fun n byte => 256 * n + byte.toNat) 0

/-- The `width` lowest base-256 digits of a number, most significant first. -/
def ofNat (width n : Nat) : Bytes := (LittleEndian.ofNat width n).reverse

theorem toNat_eq_reverse (bytes : Bytes) : toNat bytes = LittleEndian.toNat bytes.reverse := by
  simp only [toNat, LittleEndian.toNat, List.foldr_reverse]
  congr 1
  funext n byte
  omega

@[simp] theorem length_ofNat (width n : Nat) : (ofNat width n).length = width := by
  simp [ofNat]

theorem toNat_ofNat (width n : Nat) : toNat (ofNat width n) = n % 256 ^ width := by
  rw [toNat_eq_reverse, ofNat, List.reverse_reverse, LittleEndian.toNat_ofNat]

theorem toNat_lt (bytes : Bytes) : toNat bytes < 256 ^ bytes.length := by
  simpa [toNat_eq_reverse] using LittleEndian.toNat_lt bytes.reverse

theorem ofNat_toNat (bytes : Bytes) : ofNat bytes.length (toNat bytes) = bytes := by
  have back := LittleEndian.ofNat_toNat bytes.reverse
  rw [List.length_reverse] at back
  rw [toNat_eq_reverse, ofNat, back, List.reverse_reverse]

/-- The first byte weighs more than the bytes after it can. -/
theorem toNat_cons (byte : UInt8) (rest : Bytes) :
    toNat (byte :: rest) = byte.toNat * 256 ^ rest.length + toNat rest := by
  rw [toNat_eq_reverse, List.reverse_cons, LittleEndian.toNat_append, List.length_reverse,
    ← toNat_eq_reverse, Nat.mul_comm, Nat.add_comm]
  rfl

/-- The number is zero when all bytes are. -/
theorem toNat_eq_zero_iff {bytes : Bytes} : toNat bytes = 0 ↔ bytes.all (· == 0) := by
  induction bytes with
  | nil => simp [toNat]
  | cons byte rest ih =>
    have weight : 0 < 256 ^ rest.length := Nat.pow_pos (by decide)
    rw [toNat_cons, Nat.add_eq_zero_iff, Nat.mul_eq_zero, ih, List.all_cons, Bool.and_eq_true,
      beq_iff_eq, ← UInt8.toNat_inj]
    simp only [Nat.ne_of_gt weight, or_false]
    rfl

/-- The number is not zero when some byte is not. -/
theorem any_ne_zero_iff {bytes : Bytes} : bytes.any (· != 0) ↔ toNat bytes ≠ 0 := by
  rw [Ne, toNat_eq_zero_iff]
  grind

end BigEndian

end Custody
