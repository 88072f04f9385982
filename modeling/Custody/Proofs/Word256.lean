import Custody.Word256
import Mathlib.Algebra.BigOperators.Fin
import Mathlib.Tactic.Common

/-!
# The order of words

Words are compared byte by byte, and the first byte that differs decides. The
bytes after it never outweigh it, so words are ordered as the numbers that they
denote: `Word256.compare_eq_lt_iff` comes from `BigEndian.compare_eq_compare_toNat`,
which is about byte strings of any one length. The main theorem is
`Word256.order_is_numeric`, which is about every comparison of two words and about
the words of machine numbers.
-/

namespace Custody

-- Powers are those of the core library, whatever other instances are in scope.
attribute [local instance (2000)] instPowNat

/-- Of two numbers with one digit in front, the digits decide unless they are the same. -/
theorem compare_mul_add {base first other rest others : Nat} (hrest : rest < base)
    (hothers : others < base) :
    compare (first * base + rest) (other * base + others) =
      (compare first other).then (compare rest others) := by
  rcases Nat.lt_trichotomy first other with hlt | rfl | hgt
  · have hstep : (first + 1) * base ≤ other * base := Nat.mul_le_mul_right base hlt
    rw [Nat.succ_mul] at hstep
    rw [Nat.compare_eq_lt.mpr hlt, Ordering.lt_then, Nat.compare_eq_lt]
    omega
  · rw [Nat.compare_eq_eq.mpr rfl, Ordering.eq_then]
    simp only [Nat.compare_eq_ite_lt, Nat.add_lt_add_iff_left]
  · have hstep : (other + 1) * base ≤ first * base := Nat.mul_le_mul_right base hgt
    rw [Nat.succ_mul] at hstep
    rw [Nat.compare_eq_gt.mpr hgt, Ordering.gt_then, Nat.compare_eq_gt]
    omega

/-- The digits of a number as quotients by the powers of the base. -/
theorem LittleEndian.map_range_eq_ofNat (width n : Nat) :
    (List.range width).map (fun i => UInt8.ofNat (n / 256 ^ i)) = ofNat width n := by
  induction width generalizing n with
  | zero => rfl
  | succ width ih =>
      rw [List.range_succ_eq_map, List.map_cons, List.map_map, ofNat, ← ih, Nat.pow_zero,
        Nat.div_one]
      congr 2
      funext i
      rw [Function.comp_apply, Nat.succ_eq_add_one, Nat.pow_succ, Nat.mul_comm,
        Nat.div_div_eq_div_mul]

namespace BigEndian

/-- Each byte weighs a power of 256 for every byte after it. -/
theorem toNat_eq_sum (bytes : Bytes) :
    toNat bytes =
      ∑ i : Fin bytes.length, (bytes.get i).toNat * 256 ^ (bytes.length - 1 - i.val) := by
  induction bytes with
  | nil => rfl
  | cons byte rest ih =>
      have hrest : ∀ i : Fin rest.length,
          rest.length + 1 - 1 - i.succ.val = rest.length - 1 - i.val := by
        intro i
        rw [Fin.val_succ]
        omega
      rw [toNat_cons, ih]
      show _ = ∑ i : Fin (rest.length + 1), _ * 256 ^ (rest.length + 1 - 1 - i.val)
      rw [Fin.sum_univ_succ]
      simp only [hrest]
      rfl

theorem toNat_replicate_zero_append (count : Nat) (bytes : Bytes) :
    toNat (List.replicate count 0 ++ bytes) = toNat bytes := by
  induction count with
  | zero => rfl
  | succ count ih => exact ih

/-- Byte strings of one length are ordered as the numbers that they denote. -/
theorem compare_eq_compare_toNat {a b : Bytes} (hlength : a.length = b.length) :
    compare a b = compare (toNat a) (toNat b) := by
  induction a generalizing b with
  | nil =>
      obtain rfl := List.length_eq_zero_iff.mp hlength.symm
      rfl
  | cons first rest ih =>
      cases b with
      | nil => cases hlength
      | cons other others =>
          have hrest : rest.length = others.length := Nat.succ.inj hlength
          have hothers := toNat_lt others
          rw [← hrest] at hothers
          rw [List.compare_cons_cons, UInt8.compare_eq_toNat_compare_toNat, ih hrest, toNat_cons,
            toNat_cons, ← hrest, compare_mul_add (toNat_lt rest) hothers]

end BigEndian

namespace Word256

theorem compare_eq_compare_toNat (a b : Word256) : compare a b = compare a.toNat b.toNat := by
  rw [compare_def, BigEndian.compare_eq_compare_toNat (a.length_bytes.trans b.length_bytes.symm)]
  rfl

/-- Words are ordered as the numbers that they denote. -/
theorem compare_eq_lt_iff {a b : Word256} : compare a b = .lt ↔ a.toNat < b.toNat := by
  rw [compare_eq_compare_toNat, Nat.compare_eq_lt]

theorem toNat_inj {a b : Word256} : a.toNat = b.toNat ↔ a = b :=
  ⟨toNat_injective, congrArg toNat⟩

theorem lt_iff_toNat_lt {a b : Word256} : a < b ↔ a.toNat < b.toNat := compare_eq_lt_iff

theorem le_iff_toNat_le {a b : Word256} : a ≤ b ↔ a.toNat ≤ b.toNat := by
  show ¬ b < a ↔ _
  rw [lt_iff_toNat_lt, Nat.not_lt]

/-- Words are strictly and totally ordered. -/
theorem isStrictTotalOrder : IsStrictTotalOrder Word256 (· < ·) where
  irrefl a h := Nat.lt_irrefl _ (lt_iff_toNat_lt.mp h)
  trans a b c hab hbc :=
    lt_iff_toNat_lt.mpr (Nat.lt_trans (lt_iff_toNat_lt.mp hab) (lt_iff_toNat_lt.mp hbc))
  trichotomous a b hab hba := by
    rw [lt_iff_toNat_lt] at hab hba
    exact toNat_injective (by omega)

/-- The number of a word is the sum of its bytes, of which the first one has the greatest weight. -/
theorem toNat_eq_sum (word : Word256) :
    word.toNat = ∑ i : Fin 32, (word.byte i).toNat * 256 ^ (31 - i.val) := by
  rw [toNat, BigEndian.toNat_eq_sum, ← Fin.sum_congr' _ word.length_bytes.symm]
  apply Finset.sum_congr rfl
  intro i _
  have hbyte : word.bytes.get (i.cast word.length_bytes.symm) = word.byte i := rfl
  rw [hbyte, Fin.val_cast, word.length_bytes]

/-! ### Words of machine numbers -/

/-- The word of a machine number denotes the number. -/
theorem toNat_ofUInt64 (value : UInt64) : (ofUInt64 value).toNat = value.toNat := by
  have hbyte : ∀ i ∈ List.range 8, (value >>> UInt64.ofNat (8 * i)).toUInt8 =
      UInt8.ofNat (value.toNat / 256 ^ i) := by
    intro i hi
    have hi := List.mem_range.mp hi
    rw [← UInt8.toNat_inj, UInt64.toNat_toUInt8, UInt64.toNat_shiftRight, UInt64.toNat_ofNat',
      UInt8.toNat_ofNat', Nat.shiftRight_eq_div_pow, Nat.mod_eq_of_lt (by omega : 8 * i < 2 ^ 64),
      Nat.mod_eq_of_lt (by omega : 8 * i < 64), Nat.pow_mul]
  have hvalue : value.toNat < 256 ^ 8 := value.toNat_lt
  calc (ofUInt64 value).toNat
      = BigEndian.toNat
          ((List.range 8).map fun i => UInt8.ofNat (value.toNat / 256 ^ i)).reverse := by
        rw [toNat, ofUInt64, BigEndian.toNat_replicate_zero_append, List.map_reverse,
          List.map_congr_left hbyte]
    _ = BigEndian.toNat (BigEndian.ofNat 8 value.toNat) := by
        rw [LittleEndian.map_range_eq_ofNat, BigEndian.ofNat]
    _ = value.toNat := by rw [BigEndian.toNat_ofNat, Nat.mod_eq_of_lt hvalue]

/-- Two words compare as their numbers do, by each of the six comparisons, and the number of a word
is the sum of its bytes by weight. So words are strictly and totally ordered, and of two words none
comes before the other exactly when they are the same. The word of a machine number denotes the
number, so words of machine numbers compare as the machine numbers do. -/
theorem order_is_numeric :
    (∀ a b : Word256,
      a.toNat = ∑ i : Fin 32, (a.byte i).toNat * 256 ^ (31 - i.val) ∧
      (a == b) = (a.toNat == b.toNat) ∧ (a != b) = (a.toNat != b.toNat) ∧
      (a < b ↔ a.toNat < b.toNat) ∧ (a > b ↔ a.toNat > b.toNat) ∧
      (a ≤ b ↔ a.toNat ≤ b.toNat) ∧ (a ≥ b ↔ a.toNat ≥ b.toNat)) ∧
    IsStrictTotalOrder Word256 (· < ·) ∧
    (∀ a b : Word256, ¬ a < b ∧ ¬ b < a ↔ a == b) ∧
    (∀ n : UInt64, (ofUInt64 n).toNat = n.toNat) ∧
    (∀ m n : UInt64, (ofUInt64 m == ofUInt64 n) = (m == n) ∧
      (ofUInt64 m < ofUInt64 n ↔ m < n) ∧ (ofUInt64 m ≤ ofUInt64 n ↔ m ≤ n)) := by
  have hsame (a b : Word256) : (a == b) = (a.toNat == b.toNat) := by
    rw [Bool.eq_iff_iff, beq_iff_eq, beq_iff_eq, toNat_inj]
  refine ⟨?_, isStrictTotalOrder, ?_, toNat_ofUInt64, ?_⟩
  · intro a b
    exact ⟨toNat_eq_sum a, hsame a b, congrArg not (hsame a b), lt_iff_toNat_lt, lt_iff_toNat_lt,
      le_iff_toNat_le, le_iff_toNat_le⟩
  · intro a b
    rw [lt_iff_toNat_lt, lt_iff_toNat_lt, beq_iff_eq, ← toNat_inj]
    omega
  · intro m n
    rw [hsame, lt_iff_toNat_lt, le_iff_toNat_le, toNat_ofUInt64, toNat_ofUInt64]
    refine ⟨?_, UInt64.lt_iff_toNat_lt.symm, UInt64.le_iff_toNat_le.symm⟩
    rw [Bool.eq_iff_iff, beq_iff_eq, beq_iff_eq, UInt64.toNat_inj]

end Word256

end Custody
