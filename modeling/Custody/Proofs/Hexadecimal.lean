import Custody.Word256
import Custody.Proofs.HexCodec
import Custody.Proofs.Numeral
import Mathlib.Tactic.Ring

/-!
# Hexadecimal numerals of words

Reading a hexadecimal numeral sets its digits from the last one to the first, each
in a place that was zero, so that the word denotes the digits that were set.
`HexReading` says what becomes of a text, and `ofHex_reads_numerals` that reading
follows it. The text of a word is its sixty-four digits, which are read back as
the word.
-/

namespace Custody

-- Powers are those of the core library, whatever other instances are in scope.
attribute [local instance (2000)] instPowNat

/-! ### The number that a text denotes -/

/-- The number that the hexadecimal digits of a text denote. -/
def hexValue (text : Bytes) : Nat := numeralValue 16 (text.filterMap hexDigit?)

theorem hexValue_concat (text : Bytes) {byte : UInt8} {digit : Nat}
    (h : hexDigit? byte = some digit) : hexValue (text ++ [byte]) = 16 * hexValue text + digit :=
  numeralValue_filterMap_concat 16 text h

/-- Leading zeros add nothing. -/
theorem hexValue_zeros_append (count : Nat) (text : Bytes) :
    hexValue (List.replicate count 48 ++ text) = hexValue text :=
  numeralValue_filterMap_zeros_append 16 rfl count text

theorem lowercase_lowercase (byte : UInt8) : lowercase (lowercase byte) = lowercase byte := by
  by_cases hupper : 65 ≤ byte ∧ byte ≤ 90
  · have hlower : ¬ (65 ≤ byte + 32 ∧ byte + 32 ≤ 90) := by
      simp only [UInt8.le_iff_toNat_le, UInt8.reduceToNat, UInt8.toNat_add] at hupper ⊢
      omega
    rw [lowercase, lowercase, if_pos hupper, if_neg hlower]
  · rw [lowercase, lowercase, if_neg hupper, if_neg hupper]

/-- A digit has the same value in both cases. -/
theorem hexDigit?_lowercase (byte : UInt8) : hexDigit? (lowercase byte) = hexDigit? byte := by
  apply Option.ext
  intro value
  rw [hexDigit?_eq_some_iff, hexDigit?_eq_some_iff, lowercase_lowercase]

theorem hexValue_map_lowercase (text : Bytes) : hexValue (text.map lowercase) = hexValue text := by
  have hdigits : hexDigit? ∘ lowercase = hexDigit? := funext hexDigit?_lowercase
  rw [hexValue, List.filterMap_map, hdigits, hexValue]

/-- The text of a byte string denotes the number of the byte string. -/
theorem hexValue_encode (bytes : Bytes) : hexValue (Hex.encode bytes) = BigEndian.toNat bytes := by
  induction bytes using List.reverseRecOn with
  | nil => rfl
  | append_singleton front byte ih =>
      have hbyte := byte.toNat_lt
      have hhigh := hexDigit?_hexDigit (show byte.toNat / 16 < 16 by omega)
      have hlow := hexDigit?_hexDigit (show byte.toNat % 16 < 16 by omega)
      have htext : Hex.encode (front ++ [byte]) =
          (Hex.encode front ++ [hexDigit (byte.toNat / 16)]) ++ [hexDigit (byte.toNat % 16)] := by
        rw [Hex.encode, List.flatMap_append, List.append_assoc]
        rfl
      have hnumber : BigEndian.toNat (front ++ [byte]) =
          256 * BigEndian.toNat front + byte.toNat := by
        rw [BigEndian.toNat, List.foldl_append]
        rfl
      rw [htext, hexValue_concat _ hlow, hexValue_concat _ hhigh, ih, hnumber]
      omega

/-! ### Setting digits -/

namespace Hex

/-- Setting a digit in a byte of which the place is zero adds the digit, or sixteen times the digit
in the upper half. -/
theorem toNat_or_digit {byte : UInt8} {value : Nat} (hvalue : value < 16) :
    (byte.toNat = 0 → (byte ||| UInt8.ofNat value).toNat = value) ∧
      (byte.toNat < 16 → (byte ||| UInt8.ofNat (value <<< 4)).toNat = value * 16 + byte.toNat) := by
  constructor
  · intro hzero
    rw [UInt8.toNat_or, hzero, Nat.zero_or, UInt8.toNat_ofNat']
    exact Nat.mod_eq_of_lt (by omega)
  · intro hzero
    have hsmall : value <<< 4 < 2 ^ 8 := by
      rw [Nat.shiftLeft_eq]
      omega
    rw [UInt8.toNat_or, UInt8.toNat_ofNat', Nat.or_comm, Nat.mod_eq_of_lt hsmall,
      shiftLeft_or_eq hzero, Nat.mul_comm]

/-- The first byte is as small as the number makes it. -/
theorem toNat_first_lt {byte : UInt8} {rest : Bytes} {bound : Nat}
    (h : BigEndian.toNat (byte :: rest) < bound * 256 ^ rest.length) : byte.toNat < bound := by
  rw [BigEndian.toNat_cons] at h
  exact Nat.lt_of_mul_lt_mul_right (Nat.lt_of_le_of_lt (Nat.le_add_right _ _) h)

/-- A digit that is set in a place that was zero, with zeros in front of it, adds its weight. -/
theorem toNat_setDigit {bytes : Bytes} {place weight value : Nat} (hvalue : value < 16)
    (hplace : place + 1 + weight = 2 * bytes.length)
    (hzero : BigEndian.toNat bytes < 16 ^ weight) :
    BigEndian.toNat (setDigit bytes place value) =
      value * 16 ^ weight + BigEndian.toNat bytes := by
  induction bytes generalizing place with
  | nil =>
      rw [List.length_nil] at hplace
      omega
  | cons byte rest ih =>
      have hbase : 256 ^ rest.length = 16 ^ (2 * rest.length) := by rw [Nat.pow_mul]
      rw [List.length_cons] at hplace
      rcases place with _ | _ | place
      · -- The place is the upper half of the first byte.
        obtain rfl : weight = 2 * rest.length + 1 := by omega
        rw [Nat.pow_succ, ← hbase, Nat.mul_comm] at hzero
        have hbyte := (toNat_or_digit hvalue).2 (toNat_first_lt hzero)
        have hset : setDigit (byte :: rest) 0 value =
            (byte ||| UInt8.ofNat (value <<< 4)) :: rest := rfl
        rw [hset, BigEndian.toNat_cons, BigEndian.toNat_cons, hbyte, Nat.pow_succ, hbase]
        ring
      · -- The place is the lower half of the first byte.
        obtain rfl : weight = 2 * rest.length := by omega
        rw [← hbase, ← Nat.one_mul (256 ^ _)] at hzero
        have hfirst : byte.toNat = 0 := Nat.lt_one_iff.mp (toNat_first_lt hzero)
        have hset : setDigit (byte :: rest) 1 value = (byte ||| UInt8.ofNat value) :: rest := rfl
        rw [Nat.zero_add, hset, BigEndian.toNat_cons, BigEndian.toNat_cons,
          (toNat_or_digit hvalue).1 hfirst, hbase, hfirst]
        ring
      · have hweight : 16 ^ weight ≤ 1 * 256 ^ rest.length := by
          rw [Nat.one_mul, hbase]
          exact Nat.pow_le_pow_right (by decide) (by omega)
        have hfirst : byte.toNat = 0 :=
          Nat.lt_one_iff.mp (toNat_first_lt (Nat.lt_of_lt_of_le hzero hweight))
        have hset : setDigit (byte :: rest) (place + 2) value =
            byte :: setDigit rest place value := by
          rw [setDigit, setDigit, Nat.add_div_right _ (by decide), Nat.add_mod_right,
            List.modify_succ_cons]
        rw [BigEndian.toNat_cons, hfirst, Nat.zero_mul, Nat.zero_add] at hzero
        rw [hset, BigEndian.toNat_cons, BigEndian.toNat_cons, hfirst, Nat.zero_mul, Nat.zero_add,
          Nat.zero_mul, Nat.zero_add, ih (by omega) hzero]

end Hex

namespace Word256

open Hex (unmarked DigitsOf)

theorem toNat_setDigit {word : Word256} {place weight value : Nat} (hvalue : value < 16)
    (hplace : place + 1 + weight = 64) (hzero : word.toNat < 16 ^ weight) :
    (word.setDigit place value).toNat = value * 16 ^ weight + word.toNat :=
  Hex.toNat_setDigit hvalue (by rw [word.length_bytes]; exact hplace) hzero

/-! ### Reading -/

/-- What reading a text as a hexadecimal numeral comes to. -/
inductive HexReading (text : Bytes) : Except NumeralError Word256 → Prop where
  /-- The number of digits is judged first. -/
  | badLength (hlength : (unmarked text).length = 0 ∨ 64 < (unmarked text).length) :
      HexReading text (.error .hexLength)
  /-- A text of one to sixty-four digits is the word of the number that it denotes. -/
  | number (word : Word256) (hsome : 1 ≤ (unmarked text).length)
      (hroom : (unmarked text).length ≤ 64)
      (hdigits : ∀ byte ∈ unmarked text, (hexDigit? byte).isSome)
      (hvalue : word.toNat = hexValue (unmarked text)) : HexReading text (.ok word)
  /-- Of the bytes that are no digits the last one is quoted. -/
  | badDigit (front : Bytes) (byte : UInt8) (back : Bytes) (hsome : 1 ≤ (unmarked text).length)
      (hroom : (unmarked text).length ≤ 64) (htext : unmarked text = front ++ byte :: back)
      (hbyte : hexDigit? byte = none) (hback : ∀ other ∈ back, (hexDigit? other).isSome) :
      HexReading text (.error (.hexDigit byte))

/-- Filling the places below those that are filled makes the digits stand in front of the word. -/
theorem fillHex_of_digits {word : Word256} {filled : Nat} {digits : Bytes}
    (hroom : filled + digits.length ≤ 64) (hfilled : word.toNat < 16 ^ filled)
    (hdigits : ∀ byte ∈ digits, (hexDigit? byte).isSome) :
    ∃ out, fillHex word (64 - filled) digits = .ok out ∧
      out.toNat = hexValue digits.reverse * 16 ^ filled + word.toNat := by
  induction digits generalizing word filled with
  | nil =>
      have hnil : hexValue [].reverse = 0 := rfl
      exact ⟨word, rfl, by rw [hnil, Nat.zero_mul, Nat.zero_add]⟩
  | cons byte rest ih =>
      rw [List.length_cons] at hroom
      rw [List.forall_mem_cons] at hdigits
      obtain ⟨value, hvalue⟩ := Option.isSome_iff_exists.mp hdigits.1
      have hsixteen := lt_sixteen_of_hexDigit? hvalue
      have hplace : 64 - filled - 1 = 64 - (filled + 1) := by omega
      have hset := toNat_setDigit hsixteen
        (show 64 - (filled + 1) + 1 + filled = 64 by omega) hfilled
      have hnext : (word.setDigit (64 - (filled + 1)) value).toNat < 16 ^ (filled + 1) := by
        have hweight := Nat.mul_le_mul_right (16 ^ filled) hsixteen
        rw [Nat.succ_mul] at hweight
        rw [hset, Nat.pow_succ]
        omega
      obtain ⟨out, hout, hnumber⟩ := ih (by omega) hnext hdigits.2
      refine ⟨out, ?_, ?_⟩
      · rw [fillHex, hvalue, hplace]
        exact hout
      · rw [hnumber, hset, List.reverse_cons, hexValue_concat _ hvalue, Nat.pow_succ]
        ring

/-- Filling stops at the first byte that is no digit. -/
theorem fillHex_of_no_digit {word : Word256} {place : Nat} {before after : Bytes} {byte : UInt8}
    (hbefore : ∀ other ∈ before, (hexDigit? other).isSome) (hbyte : hexDigit? byte = none) :
    fillHex word place (before ++ byte :: after) = .error (.hexDigit byte) := by
  induction before generalizing word place with
  | nil => rw [List.nil_append, fillHex, hbyte]
  | cons first rest ih =>
      rw [List.forall_mem_cons] at hbefore
      obtain ⟨value, hvalue⟩ := Option.isSome_iff_exists.mp hbefore.1
      rw [List.cons_append, fillHex, hvalue]
      exact ih hbefore.2

theorem ofHex_of_length {text : Bytes} (hsome : 1 ≤ (unmarked text).length)
    (hroom : (unmarked text).length ≤ 64) :
    ofHex text = fillHex zero 64 (unmarked text).reverse := by
  have hjudged : ¬ ((unmarked text).isEmpty ∨ 64 < (unmarked text).length) := by
    rw [List.isEmpty_iff_length_eq_zero]
    omega
  rw [ofHex, if_neg hjudged]

/-- A text of one to sixty-four digits is read as the word of its number. -/
theorem ofHex_of_digits {text : Bytes} (hsome : 1 ≤ (unmarked text).length)
    (hroom : (unmarked text).length ≤ 64)
    (hdigits : ∀ byte ∈ unmarked text, (hexDigit? byte).isSome) :
    ∃ out, ofHex text = .ok out ∧ out.toNat = hexValue (unmarked text) := by
  have hfill : 0 + (unmarked text).reverse.length ≤ 64 := by
    rw [List.length_reverse]
    omega
  have hreverse : ∀ byte ∈ (unmarked text).reverse, (hexDigit? byte).isSome := by
    intro byte hbyte
    exact hdigits byte (List.mem_reverse.mp hbyte)
  obtain ⟨out, hout, hnumber⟩ :=
    fillHex_of_digits hfill (show zero.toNat < 16 ^ 0 by decide) hreverse
  rw [List.reverse_reverse, Nat.pow_zero, Nat.mul_one, toNat_zero, Nat.add_zero] at hnumber
  exact ⟨out, (ofHex_of_length hsome hroom).trans hout, hnumber⟩

/-- Reading a text comes to the result that is said of it. -/
theorem HexReading.eq {text : Bytes} {result : Except NumeralError Word256}
    (h : HexReading text result) : ofHex text = result := by
  cases h with
  | badLength hlength =>
      rw [← List.isEmpty_iff_length_eq_zero] at hlength
      rw [ofHex, if_pos hlength]
  | number word hsome hroom hdigits hvalue =>
      obtain ⟨out, hout, hnumber⟩ := ofHex_of_digits hsome hroom hdigits
      rw [hout, toNat_injective (hnumber.trans hvalue.symm)]
  | badDigit front byte back hsome hroom htext hbyte hback =>
      have hreverse : (unmarked text).reverse = back.reverse ++ byte :: front.reverse := by
        simp [htext]
      rw [ofHex_of_length hsome hroom, hreverse]
      apply fillHex_of_no_digit _ hbyte
      intro other hother
      exact hback other (List.mem_reverse.mp hother)

/-- Every text is read in one of the three ways. -/
theorem exists_hexReading (text : Bytes) : ∃ result, HexReading text result := by
  by_cases hlength : (unmarked text).length = 0 ∨ 64 < (unmarked text).length
  · exact ⟨_, .badLength hlength⟩
  have hsome : 1 ≤ (unmarked text).length := by omega
  have hroom : (unmarked text).length ≤ 64 := by omega
  cases hfind : (unmarked text).reverse.find? fun byte => (hexDigit? byte).isNone with
  | none =>
      have hdigits : ∀ byte ∈ unmarked text, (hexDigit? byte).isSome := by
        simpa [Option.isSome_iff_ne_none] using hfind
      obtain ⟨out, _, hnumber⟩ := ofHex_of_digits hsome hroom hdigits
      exact ⟨_, .number out hsome hroom hdigits hnumber⟩
  | some byte =>
      obtain ⟨hbyte, back, front, hreverse, hback⟩ := List.find?_eq_some_iff_append.mp hfind
      refine ⟨_, .badDigit front.reverse byte back.reverse hsome hroom ?_
        (Option.isNone_iff_eq_none.mp hbyte) ?_⟩
      · rw [← List.reverse_reverse (unmarked text), hreverse]
        simp
      · simpa [Option.isSome_iff_ne_none] using hback

/-- Reading a text comes to a result exactly when it is said of it. -/
theorem ofHex_eq_iff {text : Bytes} {result : Except NumeralError Word256} :
    ofHex text = result ↔ HexReading text result := by
  constructor
  · rintro rfl
    obtain ⟨result, h⟩ := exists_hexReading text
    rw [h.eq]
    exact h
  · exact HexReading.eq

/-- Texts of one to sixty-four digits are read, with or without a mark, and no others. -/
theorem exists_ofHex_eq_ok_iff {text : Bytes} :
    (∃ word, ofHex text = .ok word) ↔
      1 ≤ (unmarked text).length ∧ (unmarked text).length ≤ 64 ∧
        ∀ byte ∈ unmarked text, (hexDigit? byte).isSome := by
  constructor
  · rintro ⟨word, h⟩
    cases ofHex_eq_iff.mp h with
    | number _ hsome hroom hdigits => exact ⟨hsome, hroom, hdigits⟩
  · rintro ⟨hsome, hroom, hdigits⟩
    obtain ⟨word, h, _⟩ := ofHex_of_digits hsome hroom hdigits
    exact ⟨word, h⟩

/-- A text that is refused is invalid, whatever the reason. -/
theorem kind_of_ofHex {text : Bytes} {error : NumeralError} (h : ofHex text = .error error) :
    error.kind = .invalid := by
  cases ofHex_eq_iff.mp h with
  | badLength => rfl
  | badDigit => rfl

/-- What a text that is refused as a hexadecimal numeral is refused with: the text of the error. -/
inductive HexRefusal (text : Bytes) : Bytes → Prop where
  /-- The length is named unless there are one to sixty-four bytes behind the mark. -/
  | badLength (hlength : (unmarked text).length = 0 ∨ 64 < (unmarked text).length) :
      HexRefusal text (utf8 "U256: hex string must hold 1 to 64 digits")
  /-- Of the bytes that are no digits the last one is quoted. -/
  | badDigit (front : Bytes) (byte : UInt8) (back : Bytes) (hsome : 1 ≤ (unmarked text).length)
      (hroom : (unmarked text).length ≤ 64) (htext : unmarked text = front ++ byte :: back)
      (hbyte : hexDigit? byte = none) (hback : ∀ other ∈ back, (hexDigit? other).isSome) :
      HexRefusal text (utf8 "U256: invalid hex digit '" ++ byte :: utf8 "'")

theorem hexRefusal_of_ofHex {text : Bytes} {error : NumeralError} (h : ofHex text = .error error) :
    HexRefusal text error.message := by
  cases ofHex_eq_iff.mp h with
  | badLength hlength => exact .badLength hlength
  | badDigit front byte back hsome hroom htext hbyte hback =>
      exact .badDigit front byte back hsome hroom htext hbyte hback

/-! ### Writing -/

/-- A word whose number sixty-four lower-case digits denote has these digits as its text. -/
theorem encode_bytes_eq {word : Word256} {digits : Bytes} (hlength : digits.length = 64)
    (hdigits : ∀ byte ∈ digits, (hexDigit? byte).isSome) (hlower : digits.map lowercase = digits)
    (hvalue : hexValue digits = word.toNat) : Hex.encode word.bytes = digits := by
  obtain ⟨bytes, hbytes⟩ := Option.isSome_iff_exists.mp
    (Hex.isSome_pairs?_iff.mpr ⟨by rw [hlength], hdigits⟩)
  have htext := Hex.pairs?_eq_some_iff.mp hbytes
  rw [hlower] at htext
  have hwidth : bytes.length = 32 := by
    have h := Hex.length_encode bytes
    rw [htext, hlength] at h
    omega
  have hword : (⟨bytes, hwidth⟩ : Word256) = word := by
    apply toNat_injective
    rw [← hvalue, ← htext, hexValue_encode]
    rfl
  rw [← hword, htext]

/-- The text of a word is read back as the word. -/
theorem ofHex_toHex (word : Word256) : ofHex word.toHex = .ok word := by
  have hdigits : unmarked word.toHex = Hex.encode word.bytes := rfl
  have hlength : (unmarked word.toHex).length = 64 := by
    rw [hdigits, Hex.length_encode, word.length_bytes]
  refine HexReading.eq (.number word (by omega) (by omega) ?_ ?_)
  · intro byte hbyte
    exact Hex.isSome_of_mem_encode hbyte
  · exact (hexValue_encode word.bytes).symm

/-- Writing what was read gives the digits in lower case, with zeros in front to make sixty-four. -/
theorem toHex_of_ofHex {text : Bytes} {word : Word256} (h : ofHex text = .ok word) :
    word.toHex = utf8 "0x" ++
      (List.replicate (64 - (unmarked text).length) 48 ++ (unmarked text).map lowercase) := by
  cases ofHex_eq_iff.mp h with
  | number _ hsome hroom hdigits hvalue =>
      rw [toHex]
      congr 1
      apply encode_bytes_eq
      · rw [List.length_append, List.length_replicate, List.length_map]
        omega
      · intro byte hbyte
        rw [List.mem_append, List.mem_replicate, List.mem_map] at hbyte
        rcases hbyte with ⟨_, rfl⟩ | ⟨source, hsource, rfl⟩
        · decide
        · rw [hexDigit?_lowercase]
          exact hdigits source hsource
      · rw [List.map_append, List.map_replicate, List.map_map]
        congr 1
        exact List.map_congr_left fun byte _ => lowercase_lowercase byte
      · rw [hexValue_zeros_append, hexValue_map_lowercase, hvalue]

/-- Reading a hexadecimal numeral comes to the length error unless there are one to sixty-four
digits behind the mark, then to an error that quotes the last byte that is no digit, and else to the
word of the number. Either error is one of an invalid argument, with the text that `HexRefusal`
says. Writing the word gives the digits in lower case, padded to sixty-four, and the text of every word is
read back as the word. -/
theorem ofHex_reads_numerals :
    (∀ text : Bytes, DigitsOf text (unmarked text) ∧
      (∀ result, ofHex text = result ↔ HexReading text result) ∧
      ((∃ word, ofHex text = .ok word) ↔
        1 ≤ (unmarked text).length ∧ (unmarked text).length ≤ 64 ∧
          ∀ byte ∈ unmarked text, (hexDigit? byte).isSome) ∧
      (∀ error, ofHex text = .error error →
        error.kind = .invalid ∧ HexRefusal text error.message) ∧
      (∀ word, ofHex text = .ok word →
        word.toHex = utf8 "0x" ++
          (List.replicate (64 - (unmarked text).length) 48 ++ (unmarked text).map lowercase))) ∧
    (∀ word : Word256, ofHex word.toHex = .ok word) := by
  constructor
  · intro text
    refine ⟨Hex.digitsOf_unmarked text, ?_, exists_ofHex_eq_ok_iff, ?_, ?_⟩
    · intro result
      exact ofHex_eq_iff
    · intro error herror
      exact ⟨kind_of_ofHex herror, hexRefusal_of_ofHex herror⟩
    · intro word
      exact toHex_of_ofHex
  · exact ofHex_toHex

end Word256

end Custody
