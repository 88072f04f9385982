import Custody.Proofs.Numeral
import Custody.Proofs.Word256
import Mathlib.Logic.Function.Iterate

/-!
# Decimal numerals of words

Reading a decimal numeral pushes one digit after another into a word, and a digit
runs over exactly when the number up to it is `2 ^ 256` or more. `DecimalReading`
says what becomes of a text in terms of the first position that stops the reading,
and `ofDecimal_reads_numerals` that reading follows it. Writing pops the digits
off again, and `toDecimal_writes_numerals` says that it ends with the numeral of
the word, which is read back as the word.
-/

namespace Custody

-- Powers are those of the core library, whatever other instances are in scope.
attribute [local instance (2000)] instPowNat

namespace Word256

/-! ### Pushing a digit -/

/-- The pushed word and what runs over make ten times the word and the digit. -/
theorem toNat_pushDigit (word : Word256) {digit : Nat} (hdigit : digit < 10) :
    (word.pushDigit (UInt32.ofNat digit)).2.toNat * 2 ^ (256 : Nat) +
        (word.pushDigit (UInt32.ofNat digit)).1.toNat =
      10 * word.toNat + digit := by
  have hsmall : (UInt32.ofNat digit).toNat = digit := by
    rw [UInt32.toNat_ofNat']
    exact Nat.mod_eq_of_lt (by omega)
  obtain ⟨_, hpushed⟩ := BigEndian.toNat_pushDigit (by rwa [hsmall]) word.bytes
  rw [word.length_bytes, hsmall] at hpushed
  exact hpushed

/-- A digit fits when nothing runs over. -/
theorem pushDigit_snd_eq_zero_iff (word : Word256) {digit : Nat} (hdigit : digit < 10) :
    (word.pushDigit (UInt32.ofNat digit)).2 = 0 ↔ 10 * word.toNat + digit < 2 ^ (256 : Nat) := by
  have hpushed := toNat_pushDigit word hdigit
  have hbound := (word.pushDigit (UInt32.ofNat digit)).1.toNat_lt
  rw [← UInt32.toNat_inj, UInt32.toNat_zero]
  omega

/-- A digit that fits is the last one of the pushed word. -/
theorem toNat_pushDigit_fst (word : Word256) {digit : Nat} (hdigit : digit < 10)
    (hfits : 10 * word.toNat + digit < 2 ^ (256 : Nat)) :
    (word.pushDigit (UInt32.ofNat digit)).1.toNat = 10 * word.toNat + digit := by
  have hpushed := toNat_pushDigit word hdigit
  rw [(pushDigit_snd_eq_zero_iff word hdigit).mpr hfits, UInt32.toNat_zero] at hpushed
  omega

/-! ### One step of reading -/

theorem scanDecimal_of_no_digit (word : Word256) {byte : UInt8} (rest : Bytes)
    (hbyte : decimalDigit? byte = none) :
    scanDecimal word (byte :: rest) = .error (.decimalDigit byte) := by
  rw [scanDecimal, hbyte]

/-- A digit that fits is read. -/
theorem scanDecimal_of_fits (word : Word256) {byte : UInt8} {digit : Nat} (rest : Bytes)
    (hdigit : decimalDigit? byte = some digit)
    (hfits : 10 * word.toNat + digit < 2 ^ (256 : Nat)) :
    scanDecimal word (byte :: rest) = scanDecimal (ofNat (10 * word.toNat + digit)) rest := by
  have hten := lt_ten_of_decimalDigit? hdigit
  have hnext : (word.pushDigit (UInt32.ofNat digit)).1 = ofNat (10 * word.toNat + digit) := by
    rw [← toNat_pushDigit_fst word hten hfits, ofNat_toNat]
  have hcarry := (pushDigit_snd_eq_zero_iff word hten).mpr hfits
  rw [scanDecimal, hdigit]
  dsimp only
  rw [if_pos hcarry, hnext]

/-- A digit that runs over is refused. -/
theorem scanDecimal_of_large (word : Word256) {byte : UInt8} {digit : Nat} (rest : Bytes)
    (hdigit : decimalDigit? byte = some digit)
    (hlarge : 2 ^ (256 : Nat) ≤ 10 * word.toNat + digit) :
    scanDecimal word (byte :: rest) = .error .tooLarge := by
  have hcarry := mt (pushDigit_snd_eq_zero_iff word (lt_ten_of_decimalDigit? hdigit)).mp
    (Nat.not_lt.mpr hlarge)
  rw [scanDecimal, hdigit]
  dsimp only
  rw [if_neg hcarry]

/-! ### Where reading stops -/

/-- Reading a decimal numeral stops at this position: the byte there is no digit, or the number up
to there is `2 ^ 256` or more. -/
def StopsAt (text : Bytes) (i : Nat) : Prop :=
  ∃ byte, text[i]? = some byte ∧
    (decimalDigit? byte = none ∨ 2 ^ (256 : Nat) ≤ decimalValue (text.take (i + 1)))

/-- This position is the first one at which reading stops. -/
def StopsFirstAt (text : Bytes) (i : Nat) : Prop :=
  StopsAt text i ∧ ∀ j < i, ¬ StopsAt text j

/-- What reading a text as a decimal numeral comes to. -/
inductive DecimalReading (text : Bytes) : Except NumeralError Word256 → Prop where
  /-- An empty text is refused. -/
  | empty (hempty : text = []) : DecimalReading text (.error .noDecimalDigit)
  /-- A text that stops nowhere is the word of the number that it denotes. -/
  | number (word : Word256) (hne : text ≠ []) (hnowhere : ∀ i, ¬ StopsAt text i)
      (hvalue : word.toNat = decimalValue text) : DecimalReading text (.ok word)
  /-- The first byte that stops the reading is quoted if it is no digit. -/
  | badDigit (i : Nat) (byte : UInt8) (hfirst : StopsFirstAt text i) (hbyte : text[i]? = some byte)
      (hdigit : decimalDigit? byte = none) : DecimalReading text (.error (.decimalDigit byte))
  /-- The number is too large if the first byte that stops the reading is a digit. -/
  | tooLarge (i : Nat) (byte : UInt8) (hfirst : StopsFirstAt text i) (hbyte : text[i]? = some byte)
      (hdigit : decimalDigit? byte ≠ none) : DecimalReading text (.error .tooLarge)

/-- Reading can stop at one first position only. -/
theorem StopsFirstAt.unique {text : Bytes} {i j : Nat} (hi : StopsFirstAt text i)
    (hj : StopsFirstAt text j) : i = j := by
  rcases Nat.lt_trichotomy i j with hlt | heq | hgt
  · exact absurd hi.1 (hj.2 i hlt)
  · exact heq
  · exact absurd hj.1 (hi.2 j hgt)

theorem StopsFirstAt.ne_nil {text : Bytes} {i : Nat} (h : StopsFirstAt text i) : text ≠ [] := by
  rintro rfl
  obtain ⟨byte, hbyte, _⟩ := h.1
  cases hbyte

/-- Only one byte is the first one that stops the reading. -/
theorem StopsFirstAt.byte_eq {text : Bytes} {i j : Nat} {byte other : UInt8}
    (hi : StopsFirstAt text i) (hbyte : text[i]? = some byte) (hj : StopsFirstAt text j)
    (hother : text[j]? = some other) : byte = other := by
  rw [hi.unique hj, hother] at hbyte
  exact (Option.some.inj hbyte).symm

/-- A text is read in one way only. -/
theorem DecimalReading.unique {text : Bytes} {result other : Except NumeralError Word256}
    (h : DecimalReading text result) (hother : DecimalReading text other) : result = other := by
  cases h with
  | empty hempty =>
      cases hother with
      | empty => rfl
      | number word hne => exact absurd hempty hne
      | badDigit j next hfirst' => exact absurd hempty hfirst'.ne_nil
      | tooLarge j next hfirst' => exact absurd hempty hfirst'.ne_nil
  | number word hne hnowhere hvalue =>
      cases hother with
      | empty hempty => exact absurd hempty hne
      | number word' _ _ hvalue' => rw [toNat_injective (hvalue.trans hvalue'.symm)]
      | badDigit j next hfirst' => exact absurd hfirst'.1 (hnowhere j)
      | tooLarge j next hfirst' => exact absurd hfirst'.1 (hnowhere j)
  | badDigit i byte hfirst hbyte hdigit =>
      cases hother with
      | empty hempty => exact absurd hempty hfirst.ne_nil
      | number word _ hnowhere => exact absurd hfirst.1 (hnowhere i)
      | badDigit j next hfirst' hnext => rw [hfirst.byte_eq hbyte hfirst' hnext]
      | tooLarge j next hfirst' hnext hdigit' =>
          exact absurd hdigit (hfirst.byte_eq hbyte hfirst' hnext ▸ hdigit')
  | tooLarge i byte hfirst hbyte hdigit =>
      cases hother with
      | empty hempty => exact absurd hempty hfirst.ne_nil
      | number word _ hnowhere => exact absurd hfirst.1 (hnowhere i)
      | badDigit j next hfirst' hnext hdigit' =>
          exact absurd hdigit' (hfirst.byte_eq hbyte hfirst' hnext ▸ hdigit)
      | tooLarge => rfl

/-! ### Reading -/

/-- The byte behind some bytes stops the reading when it is no digit or makes the number too
large. -/
theorem stopsAt_length_iff {before rest : Bytes} {byte : UInt8} :
    StopsAt (before ++ byte :: rest) before.length ↔
      decimalDigit? byte = none ∨ 2 ^ (256 : Nat) ≤ decimalValue (before ++ [byte]) := by
  have htake : (before ++ byte :: rest).take (before.length + 1) = before ++ [byte] := by
    rw [List.take_length_add_append]
    rfl
  simp [StopsAt, htake]

/-- Reading the rest of a text behind digits that do not stop it comes to what reading the whole
text does. -/
theorem decimalReading_scanDecimal {word : Word256} (before rest : Bytes)
    (hne : before ++ rest ≠ []) (hbefore : ∀ i < before.length, ¬ StopsAt (before ++ rest) i)
    (hword : word.toNat = decimalValue before) :
    DecimalReading (before ++ rest) (scanDecimal word rest) := by
  -- What is read so far stays in `before`, the word is its number, and nothing in it stops.
  induction rest generalizing word before with
  | nil =>
      rw [List.append_nil] at hne hbefore ⊢
      refine .number word hne ?_ hword
      intro i hstops
      by_cases hi : i < before.length
      · exact hbefore i hi hstops
      · obtain ⟨byte, hbyte, _⟩ := hstops
        rw [List.getElem?_eq_none (Nat.le_of_not_lt hi)] at hbyte
        cases hbyte
  | cons byte rest ih =>
      have hbyte : (before ++ byte :: rest)[before.length]? = some byte := by simp
      cases hdigit : decimalDigit? byte with
      | none =>
          rw [scanDecimal_of_no_digit word rest hdigit]
          exact .badDigit _ byte ⟨stopsAt_length_iff.mpr (.inl hdigit), hbefore⟩ hbyte hdigit
      | some digit =>
          have hsome : decimalDigit? byte ≠ none :=
            Option.ne_none_iff_exists'.mpr ⟨digit, hdigit⟩
          have hvalue : decimalValue (before ++ [byte]) = 10 * word.toNat + digit := by
            rw [decimalValue_concat _ hdigit, hword]
          rcases Nat.lt_or_ge (10 * word.toNat + digit) (2 ^ (256 : Nat)) with hfits | hlarge
          · -- The byte joins the digits before it, and does not stop the reading either.
            rw [scanDecimal_of_fits word rest hdigit hfits]
            have hstays : ¬ StopsAt (before ++ byte :: rest) before.length := by
              rw [stopsAt_length_iff, hvalue]
              rintro (hnone | hlarge)
              · exact hsome hnone
              · omega
            rw [List.append_cons] at hne hbefore hstays ⊢
            apply ih _ hne
            · intro i hi
              rw [List.length_append, List.length_singleton, Nat.lt_succ_iff_lt_or_eq] at hi
              rcases hi with hi | rfl
              · exact hbefore i hi
              · exact hstays
            · rw [toNat_ofNat, Nat.mod_eq_of_lt hfits, hvalue]
          · rw [scanDecimal_of_large word rest hdigit hlarge]
            rw [← hvalue] at hlarge
            exact .tooLarge _ byte ⟨stopsAt_length_iff.mpr (.inr hlarge), hbefore⟩ hbyte hsome

/-- Reading a text comes to one result. -/
theorem decimalReading_ofDecimal (text : Bytes) : DecimalReading text (ofDecimal text) := by
  rw [ofDecimal]
  split_ifs with hempty
  · exact .empty (List.isEmpty_iff.mp hempty)
  · have hne : text ≠ [] := by
      intro h
      exact hempty (List.isEmpty_iff.mpr h)
    exact decimalReading_scanDecimal [] text hne (fun i hi => absurd hi (Nat.not_lt_zero i)) rfl

/-- Nothing stops the reading of a text when it is made of digits and its number fits. -/
theorem forall_not_stopsAt_iff {text : Bytes} :
    (∀ i, ¬ StopsAt text i) ↔
      (∀ byte ∈ text, (decimalDigit? byte).isSome) ∧ decimalValue text < 2 ^ (256 : Nat) := by
  constructor
  · intro hnowhere
    constructor
    · intro byte hbyte
      obtain ⟨i, hi⟩ := List.mem_iff_getElem?.mp hbyte
      rw [← Option.ne_none_iff_isSome]
      intro hnone
      exact hnowhere i ⟨byte, hi, .inl hnone⟩
    · by_contra hlarge
      rcases List.eq_nil_or_concat text with rfl | ⟨front, byte, rfl⟩
      · exact hlarge (by decide)
      · rw [List.concat_eq_append] at hnowhere hlarge
        exact hnowhere front.length (stopsAt_length_iff.mpr (.inr (Nat.le_of_not_lt hlarge)))
  · rintro ⟨hdigits, hfits⟩ i ⟨byte, hbyte, hnone | hlarge⟩
    · have hsome := hdigits byte (List.mem_of_getElem? hbyte)
      rw [hnone] at hsome
      cases hsome
    · have htake := decimalValue_take_le text (i + 1)
      omega

/-- The texts that are read as a word are the texts of digits that denote its number. -/
theorem ofDecimal_eq_ok_iff {text : Bytes} {word : Word256} :
    ofDecimal text = .ok word ↔
      text ≠ [] ∧ (∀ byte ∈ text, (decimalDigit? byte).isSome) ∧
        decimalValue text = word.toNat := by
  have hread := decimalReading_ofDecimal text
  constructor
  · intro h
    rw [h] at hread
    cases hread with
    | number word hne hnowhere hvalue =>
        exact ⟨hne, (forall_not_stopsAt_iff.mp hnowhere).1, hvalue.symm⟩
  · rintro ⟨hne, hdigits, hvalue⟩
    have hfits : decimalValue text < 2 ^ (256 : Nat) := by
      rw [hvalue]
      exact word.toNat_lt
    exact hread.unique
      (.number word hne (forall_not_stopsAt_iff.mpr ⟨hdigits, hfits⟩) hvalue.symm)

/-- A refused text is out of range when the byte that stops its reading is a digit. -/
theorem kind_eq_outOfRange_iff {text : Bytes} {error : NumeralError}
    (h : ofDecimal text = .error error) :
    error.kind = .outOfRange ↔
      ∃ i byte, StopsFirstAt text i ∧ text[i]? = some byte ∧ decimalDigit? byte ≠ none := by
  have hread := decimalReading_ofDecimal text
  rw [h] at hread
  cases hread with
  | empty hempty =>
      constructor
      · intro hkind
        cases hkind
      · rintro ⟨i, byte, hfirst, _⟩
        exact absurd hempty hfirst.ne_nil
  | badDigit i byte hfirst hbyte hdigit =>
      constructor
      · intro hkind
        cases hkind
      · rintro ⟨j, next, hfirst', hnext, hdigit'⟩
        exact absurd hdigit (hfirst.byte_eq hbyte hfirst' hnext ▸ hdigit')
  | tooLarge i byte hfirst hbyte hdigit =>
      exact ⟨fun _ => ⟨i, byte, hfirst, hbyte, hdigit⟩, fun _ => rfl⟩

/-- What a text that is refused as a decimal numeral is refused with: the kind of the error and its
text. -/
inductive DecimalRefusal (text : Bytes) : ArgumentError → Bytes → Prop where
  /-- An empty text is invalid. -/
  | empty (hempty : text = []) : DecimalRefusal text .invalid (utf8 "U256: empty decimal string")
  /-- A text that a byte stops which is no digit is invalid, and the byte is quoted. -/
  | badDigit (i : Nat) (byte : UInt8) (hfirst : StopsFirstAt text i) (hbyte : text[i]? = some byte)
      (hdigit : decimalDigit? byte = none) :
      DecimalRefusal text .invalid (utf8 "U256: invalid decimal digit '" ++ byte :: utf8 "'")
  /-- A text that a digit stops is out of range. -/
  | tooLarge (i : Nat) (byte : UInt8) (hfirst : StopsFirstAt text i) (hbyte : text[i]? = some byte)
      (hdigit : decimalDigit? byte ≠ none) :
      DecimalRefusal text .outOfRange (utf8 "U256: decimal value exceeds 256 bits")

theorem decimalRefusal_of_ofDecimal {text : Bytes} {error : NumeralError}
    (h : ofDecimal text = .error error) : DecimalRefusal text error.kind error.message := by
  have hread := decimalReading_ofDecimal text
  rw [h] at hread
  cases hread with
  | empty hempty => exact .empty hempty
  | badDigit i byte hfirst hbyte hdigit => exact .badDigit i byte hfirst hbyte hdigit
  | tooLarge i byte hfirst hbyte hdigit => exact .tooLarge i byte hfirst hbyte hdigit

/-- Reading a decimal numeral comes to what the first position that stops it decides: the byte there
is quoted if it is no digit, and the number is too large, so out of range, if it is one. A text that
stops nowhere is the word of its number, so just the non-empty texts of digits for numbers below
`2 ^ 256` are read, with any number of leading zeros. Every other text is refused with the kind and
the text that `DecimalRefusal` says. -/
theorem ofDecimal_reads_numerals (text : Bytes) :
    (∀ result, ofDecimal text = result ↔ DecimalReading text result) ∧
    (∀ word, ofDecimal text = .ok word ↔
      text ≠ [] ∧ (∀ byte ∈ text, (decimalDigit? byte).isSome) ∧
        decimalValue text = word.toNat) ∧
    (∀ error, ofDecimal text = .error error → (error.kind = .outOfRange ↔
      ∃ i byte, StopsFirstAt text i ∧ text[i]? = some byte ∧ decimalDigit? byte ≠ none)) ∧
    (∀ error, ofDecimal text = .error error →
      DecimalRefusal text error.kind error.message) := by
  refine ⟨?_, ?_, ?_, fun error => decimalRefusal_of_ofDecimal⟩
  · intro result
    constructor
    · rintro rfl
      exact decimalReading_ofDecimal text
    · exact (decimalReading_ofDecimal text).unique
  · intro word
    exact ofDecimal_eq_ok_iff
  · intro error
    exact kind_eq_outOfRange_iff

/-- The number is too large before the byte that is no digit is reached. -/
example :
    ofDecimal (utf8
      "115792089237316195423570985008687907853269984665640564039457584007913129639936x") =
        .error .tooLarge := by
  decide +kernel

end Word256

/-! ### Popping digits -/

namespace BigEndian

/-- The quotient is not zero when the number has a further digit. -/
theorem any_popDigit_iff (bytes : Bytes) :
    (popDigit 0 bytes).1.any (· != 0) ↔ 10 ≤ toNat bytes := by
  rw [any_ne_zero_iff, toNat_popDigit_zero_fst]
  omega

/-- The digits that are popped off a number, written in the order in which they stood, are its
numeral. -/
theorem reverse_map_popDigits (bytes : Bytes) :
    ((popDigits bytes).map fun digit => (48 + digit).toUInt8).reverse = decimal (toNat bytes) := by
  induction bytes using popDigits.induct with
  | case1 bytes quotient ih =>
      have hlast : (48 + (popDigit 0 bytes).2).toUInt8 = UInt8.ofNat (48 + toNat bytes % 10) := by
        rw [← toNat_popDigit_zero_snd, ← UInt8.toNat_inj]
        simp
      rw [popDigits, decimal_eq, List.map_cons, List.reverse_cons, hlast]
      congr 1
      by_cases hmore : (popDigit 0 bytes).1.any (· != 0)
      · have hten := (any_popDigit_iff bytes).mp hmore
        rw [dif_pos hmore, if_neg (by omega), ih hmore, toNat_popDigit_zero_fst]
      · have hten := mt (any_popDigit_iff bytes).mpr hmore
        rw [dif_neg hmore, if_pos (by omega)]
        rfl

/-- The bytes that are left after so many rounds of popping. -/
def afterRounds (rounds : Nat) (bytes : Bytes) : Bytes :=
  (fun bytes => (popDigit 0 bytes).1)^[rounds] bytes

/-- Every round of popping divides the number by ten. -/
theorem toNat_afterRounds (rounds : Nat) (bytes : Bytes) :
    toNat (afterRounds rounds bytes) = toNat bytes / 10 ^ rounds := by
  induction rounds with
  | zero => exact (Nat.div_one _).symm
  | succ rounds ih =>
      rw [afterRounds, Function.iterate_succ_apply', toNat_popDigit_zero_fst, ← afterRounds, ih,
        Nat.div_div_eq_div_mul, Nat.pow_succ]

/-- A number other than zero has digits left for as many rounds as its numeral is long. -/
theorem any_afterRounds_iff {bytes : Bytes} (hne : toNat bytes ≠ 0) (rounds : Nat) :
    (afterRounds rounds bytes).any (· != 0) ↔ rounds < (decimal (toNat bytes)).length := by
  rw [any_ne_zero_iff, toNat_afterRounds, Ne, Nat.div_eq_zero_iff_lt (Nat.pow_pos (by decide)),
    decimal, List.length_map]
  rcases Nat.eq_zero_or_pos rounds with rfl | hrounds
  · have hlength := Nat.length_toDigits_pos (b := 10) (n := toNat bytes)
    omega
  · rw [← Nat.length_toDigits_le_iff (by decide) hrounds]
    exact Nat.not_le

end BigEndian

namespace Word256

/-! ### Writing -/

theorem isZero_iff (word : Word256) : word.isZero ↔ word.toNat = 0 :=
  BigEndian.toNat_eq_zero_iff.symm

/-- The decimal text of a word is the numeral of its number. -/
theorem toDecimal_eq_decimal (word : Word256) : word.toDecimal = decimal word.toNat := by
  rw [toDecimal]
  split_ifs with hzero
  · rw [(isZero_iff word).mp hzero, decimal_zero]
  · exact BigEndian.reverse_map_popDigits word.bytes

/-- The decimal text of a word is read back as the word. -/
theorem ofDecimal_toDecimal (word : Word256) : ofDecimal word.toDecimal = .ok word := by
  have hnumeral := isNumeral_decimal word.toNat
  rw [toDecimal_eq_decimal]
  exact ofDecimal_eq_ok_iff.mpr ⟨hnumeral.ne_nil, hnumeral.digits, hnumeral.value⟩

/-- Writing what was read drops the leading zeros. -/
theorem toDecimal_of_ofDecimal {text : Bytes} {word : Word256} (h : ofDecimal text = .ok word) :
    word.toDecimal = withoutZeros text := by
  obtain ⟨_, hdigits, hvalue⟩ := ofDecimal_eq_ok_iff.mp h
  rw [toDecimal_eq_decimal, withoutZeros_eq_decimal hdigits, hvalue]

/-- The decimal text of a word is the one numeral of its number: digits without a leading zero to
spare. It is written by popping off digits, which ends after as many rounds as the text is long, and
it is read back as the word. A text that is read as a word is written back without its leading
zeros. -/
theorem toDecimal_writes_numerals :
    (∀ word : Word256, IsNumeral word.toDecimal word.toNat ∧
      word.toDecimal = decimal word.toNat ∧
      (¬ word.isZero → ∀ rounds, (BigEndian.afterRounds rounds word.bytes).any (· != 0) ↔
        rounds < word.toDecimal.length) ∧
      ofDecimal word.toDecimal = .ok word) ∧
    (∀ (text : Bytes) (word : Word256), ofDecimal text = .ok word →
      word.toDecimal = withoutZeros text) ∧
    (∀ n : UInt64, (ofUInt64 n).toDecimal = decimal n.toNat) := by
  refine ⟨?_, ?_, ?_⟩
  · intro word
    have hdecimal := toDecimal_eq_decimal word
    refine ⟨isNumeral_iff.mpr hdecimal, hdecimal, ?_, ofDecimal_toDecimal word⟩
    intro hne rounds
    rw [isZero_iff] at hne
    rw [hdecimal]
    exact BigEndian.any_afterRounds_iff hne rounds
  · intro text word
    exact toDecimal_of_ofDecimal
  · intro n
    rw [toDecimal_eq_decimal, toNat_ofUInt64]

end Word256

end Custody
