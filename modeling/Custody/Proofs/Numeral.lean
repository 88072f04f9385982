import Custody.Numeral
import Mathlib.Data.List.Basic
import Mathlib.Data.List.Induction
import Mathlib.Tactic.Common

/-!
# Decimal numerals

`decimalValue` is the number that a text of decimal digits denotes, with any
number of leading zeros. A text is the numeral of a number when it consists of
digits, denotes the number and has no leading zero to spare. Each number has one
numeral, which `decimal` writes, by `isNumeral_iff`. Dropping the leading zeros of
a text of digits leaves the numeral of its number, so the texts that denote a number
are its numeral behind any number of zeros, by `denotes_iff_zeros_append`.
-/

namespace Custody

/-! ### Digits -/

/-- A byte is a decimal digit when it is `0` and the value of the digit. -/
theorem decimalDigit?_eq_some_iff {byte : UInt8} {digit : Nat} :
    decimalDigit? byte = some digit ↔ digit < 10 ∧ byte = UInt8.ofNat (48 + digit) := by
  have hbyte := byte.toNat_lt
  rw [← UInt8.toNat_inj, UInt8.toNat_ofNat']
  unfold decimalDigit?
  split_ifs with hrange
  · obtain ⟨hlow, hhigh⟩ := hrange
    rw [UInt8.le_iff_toNat_le] at hlow hhigh
    have hlow : 48 ≤ byte.toNat := hlow
    have hhigh : byte.toNat ≤ 57 := hhigh
    rw [Option.some.injEq]
    omega
  · rw [UInt8.le_iff_toNat_le, UInt8.le_iff_toNat_le] at hrange
    have hrange : ¬ (48 ≤ byte.toNat ∧ byte.toNat ≤ 57) := hrange
    constructor
    · intro h
      cases h
    · omega

theorem lt_ten_of_decimalDigit? {byte : UInt8} {digit : Nat} (h : decimalDigit? byte = some digit) :
    digit < 10 :=
  (decimalDigit?_eq_some_iff.mp h).1

/-- The value of the digit that is written for a value. -/
theorem decimalDigit?_ofNat {digit : Nat} (hdigit : digit < 10) :
    decimalDigit? (UInt8.ofNat (48 + digit)) = some digit :=
  decimalDigit?_eq_some_iff.mpr ⟨hdigit, rfl⟩

/-! ### The number that a text denotes -/

theorem numeralValue_concat (base : Nat) (digits : List Nat) (digit : Nat) :
    numeralValue base (digits ++ [digit]) = base * numeralValue base digits + digit := by
  rw [numeralValue, List.foldl_append]
  rfl

/-- A last digit multiplies the number of the digits before it by the base. -/
theorem numeralValue_filterMap_concat (base : Nat) {digit? : UInt8 → Option Nat} (text : Bytes)
    {byte : UInt8} {digit : Nat} (h : digit? byte = some digit) :
    numeralValue base ((text ++ [byte]).filterMap digit?) =
      base * numeralValue base (text.filterMap digit?) + digit := by
  have hlast : [byte].filterMap digit? = [digit] := by
    rw [List.filterMap_cons_some h]
    rfl
  rw [List.filterMap_append, hlast, numeralValue_concat]

/-- Leading zeros add nothing. -/
theorem numeralValue_filterMap_zeros_append (base : Nat) {digit? : UInt8 → Option Nat}
    (hzero : digit? 48 = some 0) (count : Nat) (text : Bytes) :
    numeralValue base ((List.replicate count 48 ++ text).filterMap digit?) =
      numeralValue base (text.filterMap digit?) := by
  induction count with
  | zero => rfl
  | succ count ih =>
      rw [List.replicate_succ, List.cons_append, List.filterMap_cons_some hzero]
      exact ih

/-- The number that the decimal digits of a text denote. -/
def decimalValue (text : Bytes) : Nat := numeralValue 10 (text.filterMap decimalDigit?)

theorem decimalValue_concat (text : Bytes) {byte : UInt8} {digit : Nat}
    (h : decimalDigit? byte = some digit) :
    decimalValue (text ++ [byte]) = 10 * decimalValue text + digit :=
  numeralValue_filterMap_concat 10 text h

/-- A leading zero adds nothing. -/
theorem decimalValue_zero_cons (text : Bytes) : decimalValue (48 :: text) = decimalValue text := rfl

theorem decimalValue_dropWhile (text : Bytes) :
    decimalValue (text.dropWhile (· == 48)) = decimalValue text := by
  induction text with
  | nil => rfl
  | cons byte rest ih =>
      rw [List.dropWhile_cons]
      split_ifs with hzero
      · rw [ih, beq_iff_eq.mp hzero, decimalValue_zero_cons]
      · rfl

/-- Further digits make no number smaller. -/
theorem decimalValue_le_append (text more : Bytes) :
    decimalValue text ≤ decimalValue (text ++ more) := by
  induction more using List.reverseRecOn with
  | nil => simp
  | append_singleton more byte ih =>
      rw [← List.append_assoc]
      cases hdigit : decimalDigit? byte with
      | none => simpa [decimalValue, hdigit] using ih
      | some digit =>
          rw [decimalValue_concat _ hdigit]
          omega

/-- The digits up to a position denote no more than all digits. -/
theorem decimalValue_take_le (text : Bytes) (i : Nat) :
    decimalValue (text.take i) ≤ decimalValue text := by
  have h := decimalValue_le_append (text.take i) (text.drop i)
  rwa [List.take_append_drop] at h

/-! ### The numeral of a number -/

/-- The text is the decimal numeral of the number: it consists of digits that denote the number,
and does not begin with a zero unless it is the zero. -/
structure IsNumeral (text : Bytes) (n : Nat) : Prop where
  digits : ∀ byte ∈ text, (decimalDigit? byte).isSome
  value : decimalValue text = n
  ne_nil : text ≠ []
  head_ne_zero : text ≠ utf8 "0" → text.head? ≠ some 48

/-- The last digit of a numeral stands behind the numeral of the other digits, if there are any. -/
theorem decimal_eq (n : Nat) :
    decimal n = (if n < 10 then [] else decimal (n / 10)) ++ [UInt8.ofNat (48 + n % 10)] := by
  have hdigit :
      ∀ digit < 10, UInt8.ofNat (Nat.digitChar digit).toNat = UInt8.ofNat (48 + digit) := by
    decide
  have hmod := Nat.mod_lt n (show 10 > 0 by decide)
  split_ifs with hsmall
  · rw [decimal, Nat.toDigits_of_lt_base hsmall, Nat.mod_eq_of_lt hsmall]
    exact congrArg (fun byte => [byte]) (hdigit n hsmall)
  · rw [decimal, Nat.toDigits_of_base_le (by decide) (by omega), List.map_append, decimal]
    exact congrArg (_ ++ [·]) (hdigit _ hmod)

theorem decimal_zero : decimal 0 = utf8 "0" := rfl

theorem decimal_ne_nil (n : Nat) : decimal n ≠ [] := by
  rw [decimal_eq]
  exact List.append_ne_nil_of_right_ne_nil _ (List.cons_ne_nil _ _)

theorem head?_decimal_ne_zero {n : Nat} (hn : n ≠ 0) : (decimal n).head? ≠ some 48 := by
  induction n using Nat.strongRecOn with
  | _ n ih =>
      rw [decimal_eq]
      split_ifs with hsmall
      · rw [List.nil_append, List.head?_cons, Ne, Option.some.injEq, ← UInt8.toNat_inj,
          UInt8.toNat_ofNat']
        show ¬ (48 + n % 10) % 2 ^ 8 = 48
        omega
      · rw [List.head?_append_of_ne_nil _ (decimal_ne_nil _)]
        exact ih (n / 10) (by omega) (by omega)

theorem isNumeral_decimal (n : Nat) : IsNumeral (decimal n) n := by
  induction n using Nat.strongRecOn with
  | _ n ih =>
      have hlast := decimalDigit?_ofNat (Nat.mod_lt n (show 10 > 0 by decide))
      have hhead : decimal n ≠ utf8 "0" → (decimal n).head? ≠ some 48 := by
        intro hne
        apply head?_decimal_ne_zero
        rintro rfl
        exact hne decimal_zero
      refine ⟨?_, ?_, decimal_ne_nil n, hhead⟩
      · intro byte hbyte
        rw [decimal_eq, List.mem_append, List.mem_singleton] at hbyte
        rcases hbyte with hfront | rfl
        · split_ifs at hfront with hsmall
          · cases hfront
          · exact (ih (n / 10) (by omega)).digits byte hfront
        · rw [hlast]
          rfl
      · rw [decimal_eq, decimalValue_concat _ hlast]
        split_ifs with hsmall
        · show 10 * 0 + n % 10 = n
          omega
        · rw [(ih (n / 10) (by omega)).value]
          omega

/-- A number has no other numeral. -/
theorem IsNumeral.eq_decimal {text : Bytes} {n : Nat} (h : IsNumeral text n) : text = decimal n := by
  induction text using List.reverseRecOn generalizing n with
  | nil => exact absurd rfl h.ne_nil
  | append_singleton front byte ih =>
      obtain ⟨digit, hdigit⟩ := Option.isSome_iff_exists.mp (h.digits byte (by simp))
      obtain ⟨hsmall, rfl⟩ := decimalDigit?_eq_some_iff.mp hdigit
      have hvalue := h.value
      rw [decimalValue_concat _ hdigit] at hvalue
      rw [decimal_eq]
      by_cases hfront : front = []
      · subst hfront
        have hn : n = digit := by
          rw [← hvalue]
          exact Nat.zero_add digit
        rw [hn, if_pos hsmall, Nat.mod_eq_of_lt hsmall]
      · -- The digits in front begin as the text does, so they are a numeral, and not that of zero.
        have hhead : front.head? ≠ some 48 := by
          have hne := h.head_ne_zero (by
            intro hzero
            have hlength := congrArg List.length hzero
            rw [List.length_append] at hlength
            exact hfront (List.length_eq_zero_iff.mp (Nat.succ.inj hlength)))
          rwa [List.head?_append_of_ne_nil _ hfront] at hne
        have hnumeral : IsNumeral front (decimalValue front) :=
          ⟨fun byte hbyte => h.digits byte (List.mem_append_left _ hbyte), rfl, hfront,
            fun _ => hhead⟩
        have hpositive : decimalValue front ≠ 0 := by
          intro hzero
          rw [ih hnumeral, hzero] at hhead
          exact hhead rfl
        have htenth : n / 10 = decimalValue front := by omega
        have hlast : n % 10 = digit := by omega
        rw [if_neg (by omega), htenth, hlast, ← ih hnumeral]

theorem isNumeral_iff {text : Bytes} {n : Nat} : IsNumeral text n ↔ text = decimal n := by
  constructor
  · exact IsNumeral.eq_decimal
  · rintro rfl
    exact isNumeral_decimal n

/-! ### Leading zeros -/

/-- The text without its leading zeros, of which the last one stays if nothing else is left. -/
def withoutZeros (text : Bytes) : Bytes :=
  match text.dropWhile (· == 48) with
  | [] => utf8 "0"
  | digits => digits

/-- A text of digits without its leading zeros is a numeral. -/
theorem withoutZeros_eq_decimal {text : Bytes} (h : ∀ byte ∈ text, (decimalDigit? byte).isSome) :
    withoutZeros text = decimal (decimalValue text) := by
  rw [← decimalValue_dropWhile, withoutZeros]
  generalize hdrop : text.dropWhile (· == 48) = digits
  cases digits with
  | nil => exact decimal_zero.symm
  | cons first rest =>
      have hfirst : first ≠ 48 := by
        have hhead := List.head?_dropWhile_not (· == 48) text
        rw [hdrop] at hhead
        simpa using hhead
      show first :: rest = decimal (decimalValue (first :: rest))
      refine IsNumeral.eq_decimal ⟨?_, rfl, List.cons_ne_nil _ _, ?_⟩
      · intro byte hbyte
        rw [← hdrop] at hbyte
        exact h byte ((List.dropWhile_sublist _).subset hbyte)
      · intro _ hhead
        exact hfirst (Option.some.inj hhead)

theorem decimalValue_zeros_append (count : Nat) (text : Bytes) :
    decimalValue (List.replicate count 48 ++ text) = decimalValue text :=
  numeralValue_filterMap_zeros_append 10 rfl count text

/-- The zeros that are dropped stood in front. -/
theorem exists_eq_zeros_append {text : Bytes} (hne : text ≠ []) :
    ∃ count, text = List.replicate count 48 ++ withoutZeros text := by
  induction text with
  | nil => exact absurd rfl hne
  | cons byte rest ih =>
      by_cases hzero : byte = 48
      · subst hzero
        by_cases hrest : rest = []
        · subst hrest
          exact ⟨0, rfl⟩
        · obtain ⟨count, hcount⟩ := ih hrest
          exact ⟨count + 1, congrArg (List.cons 48) hcount⟩
      · refine ⟨0, ?_⟩
        rw [withoutZeros, List.dropWhile_cons_of_neg (by simpa using hzero)]
        rfl

/-- The texts of digits that denote a number are its numeral behind any number of zeros. -/
theorem denotes_iff_zeros_append {text : Bytes} {n : Nat} :
    text ≠ [] ∧ (∀ byte ∈ text, (decimalDigit? byte).isSome) ∧ decimalValue text = n ↔
      ∃ count, text = List.replicate count 48 ++ decimal n := by
  have hnumeral := isNumeral_decimal n
  constructor
  · rintro ⟨hne, hdigits, rfl⟩
    rw [← withoutZeros_eq_decimal hdigits]
    exact exists_eq_zeros_append hne
  · rintro ⟨count, rfl⟩
    refine ⟨List.append_ne_nil_of_right_ne_nil _ hnumeral.ne_nil, ?_, ?_⟩
    · intro byte hbyte
      rcases List.mem_append.mp hbyte with hzero | hdigit
      · rw [List.eq_of_mem_replicate hzero]
        rfl
      · exact hnumeral.digits byte hdigit
    · rw [decimalValue_zeros_append, hnumeral.value]

end Custody
