import Custody.Proofs.Hex

/-!
# Reading hexadecimal text

Digits of either case denote what their lower-case forms do. `pairs?_eq_some_iff`
says that reading the pairs of digits undoes `encode` up to the case of the
digits, and `bytesFrom_eq_pairs?` that reading them by their positions comes to
the same and stays within the text when the number of digits is even. The main
theorem is `decode_reads_digit_pairs`.
-/

namespace Custody

/-! ### Digits -/

/-- The lower-case form of an ASCII letter. Other bytes stay as they are. -/
def lowercase (byte : UInt8) : UInt8 := if 65 ≤ byte ∧ byte ≤ 90 then byte + 32 else byte

/-- A byte is a digit when its lower-case form is the one that is written for the value. -/
theorem hexDigit?_eq_some_iff {byte : UInt8} {value : Nat} :
    hexDigit? byte = some value ↔ value < 16 ∧ hexDigit value = lowercase byte := by
  have hbyte := byte.toNat_lt
  rw [← UInt8.toNat_inj]
  simp only [hexDigit?, hexDigit, lowercase, UInt8.le_iff_toNat_le, UInt8.reduceToNat]
  split_ifs <;> simp <;> omega

theorem lt_sixteen_of_hexDigit? {byte : UInt8} {value : Nat} (h : hexDigit? byte = some value) :
    value < 16 :=
  (hexDigit?_eq_some_iff.mp h).1

namespace Hex

/-! ### Pairs of digits -/

theorem encode_cons (byte : UInt8) (rest : Bytes) :
    encode (byte :: rest) =
      hexDigit (byte.toNat / 16) :: hexDigit (byte.toNat % 16) :: encode rest := rfl

/-- Every byte of a text that is written is a digit. -/
theorem isSome_of_mem_encode {bytes : Bytes} {byte : UInt8} (h : byte ∈ encode bytes) :
    (hexDigit? byte).isSome := by
  rw [encode, List.mem_flatMap] at h
  obtain ⟨source, _, hbyte⟩ := h
  have hsource := source.toNat_lt
  rw [List.mem_cons, List.mem_singleton] at hbyte
  rcases hbyte with rfl | rfl
  · rw [hexDigit?_hexDigit (by omega)]
    rfl
  · rw [hexDigit?_hexDigit (by omega)]
    rfl

/-- The two halves of the byte of a pair are the values of its digits. -/
theorem toNat_pair {high low : Nat} (hhigh : high < 16) (hlow : low < 16) :
    (UInt8.ofNat (16 * high + low)).toNat / 16 = high ∧
      (UInt8.ofNat (16 * high + low)).toNat % 16 = low := by
  rw [UInt8.toNat_ofNat', Nat.mod_eq_of_lt (by omega)]
  omega

theorem pairs?_of_digits {high low : UInt8} {first second : Nat} (rest : Bytes)
    (hhigh : hexDigit? high = some first) (hlow : hexDigit? low = some second) :
    pairs? (high :: low :: rest) =
      (pairs? rest).map (UInt8.ofNat (16 * first + second) :: ·) := by
  rw [pairs?, hhigh, hlow]
  cases pairs? rest <;> rfl

theorem pairs?_of_no_digit {high low : UInt8} (rest : Bytes)
    (h : hexDigit? high = none ∨ hexDigit? low = none) : pairs? (high :: low :: rest) = none := by
  rw [pairs?]
  rcases h with hhigh | hlow
  · rw [hhigh]
    rfl
  · rw [hlow]
    cases hexDigit? high <;> rfl

/-- Pairs of digits are read as the bytes whose text is their lower-case form. -/
theorem pairs?_eq_some_iff {digits bytes : Bytes} :
    pairs? digits = some bytes ↔ encode bytes = digits.map lowercase := by
  induction digits using pairs?.induct generalizing bytes with
  | case1 =>
      cases bytes with
      | nil => exact ⟨fun _ => rfl, fun _ => rfl⟩
      | cons byte rest => simp [pairs?, encode_cons]
  | case2 byte =>
      constructor
      · intro h
        cases h
      · intro h
        have hlength := congrArg List.length h
        rw [length_encode, List.length_map, List.length_singleton] at hlength
        omega
  | case3 high low rest ih =>
      simp only [pairs?, Option.bind_eq_bind, Option.pure_def, Option.bind_eq_some_iff,
        Option.some.injEq, ih, List.map_cons]
      constructor
      · rintro ⟨first, hfirst, second, hsecond, tail, htail, rfl⟩
        obtain ⟨hfirst, hhigh⟩ := hexDigit?_eq_some_iff.mp hfirst
        obtain ⟨hsecond, hlow⟩ := hexDigit?_eq_some_iff.mp hsecond
        obtain ⟨hdiv, hmod⟩ := toNat_pair hfirst hsecond
        rw [encode_cons, hdiv, hmod, hhigh, hlow, htail]
      · intro h
        cases bytes with
        | nil => cases h
        | cons byte tail =>
            have hbyte := byte.toNat_lt
            rw [encode_cons, List.cons.injEq, List.cons.injEq] at h
            obtain ⟨hhigh, hlow, htail⟩ := h
            refine ⟨byte.toNat / 16, hexDigit?_eq_some_iff.mpr ⟨by omega, hhigh⟩,
              byte.toNat % 16, hexDigit?_eq_some_iff.mpr ⟨by omega, hlow⟩, tail, htail, ?_⟩
            rw [Nat.div_add_mod, UInt8.ofNat_toNat]

/-- Pairs of digits can be read when the digits are digits and none is left alone. -/
theorem isSome_pairs?_iff {digits : Bytes} :
    (pairs? digits).isSome ↔
      digits.length % 2 = 0 ∧ ∀ byte ∈ digits, (hexDigit? byte).isSome := by
  induction digits using pairs?.induct with
  | case1 => simp [pairs?]
  | case2 byte => simp [pairs?]
  | case3 high low rest ih =>
      have hlength : (high :: low :: rest).length % 2 = rest.length % 2 := by
        rw [List.length_cons, List.length_cons]
        omega
      rw [hlength, List.forall_mem_cons, List.forall_mem_cons]
      cases hhigh : hexDigit? high with
      | none => simp [pairs?_of_no_digit rest (.inl hhigh)]
      | some first =>
          cases hlow : hexDigit? low with
          | none => simp [pairs?_of_no_digit rest (.inr hlow)]
          | some second => simpa [pairs?_of_digits rest hhigh hlow] using ih

/-! ### Positions in the text -/

/-- The text without its mark is what follows the position of the first digit. -/
theorem unmarked_eq_drop (text : Bytes) : unmarked text = text.drop (start text) := by
  unfold unmarked
  split
  · rfl
  · rfl
  · next hlower hupper =>
      have hunmarked : isMarked text = false := by
        unfold isMarked
        split
        · next byte rest =>
            rw [Bool.or_eq_false_iff, beq_eq_false_iff_ne, beq_eq_false_iff_ne]
            constructor
            · rintro rfl
              exact hlower rest rfl
            · rintro rfl
              exact hupper rest rfl
        · rfl
      rw [start, hunmarked]
      rfl

theorem length_unmarked (text : Bytes) : (unmarked text).length = text.length - start text := by
  rw [unmarked_eq_drop, List.length_drop]

theorem drop_eq_cons {text : Bytes} {position : Nat} {byte : UInt8}
    (h : text[position]? = some byte) : text.drop position = byte :: text.drop (position + 1) := by
  rw [List.drop_eq_getElem?_toList_append, h]
  rfl

/-- The high digit takes the upper half of the byte. -/
theorem shiftLeft_or_eq {high low : Nat} (hlow : low < 16) :
    high <<< 4 ||| low = 16 * high + low := by
  rw [← Nat.shiftLeft_add_eq_or_of_lt (show low < 2 ^ 4 from hlow), Nat.shiftLeft_eq, Nat.mul_comm]

/-- Reading pairs of digits by their positions comes to what they denote, and no position past the
end is read when the number of digits is even. -/
theorem bytesFrom_eq_pairs? (text : Bytes) (position : Nat)
    (heven : (text.length - position) % 2 = 0) :
    bytesFrom text.toArray position =
      match pairs? (text.drop position) with
      | some bytes => .ok bytes
      | none => .error .noDigit := by
  induction position using bytesFrom.induct text.toArray with
  | case1 position hin high low hlow hhigh first second hsecond hfirst ih =>
      rw [List.getElem?_toArray] at hlow hhigh
      rw [bytesFrom, if_pos hin, List.getElem?_toArray, List.getElem?_toArray, hhigh, hlow,
        drop_eq_cons hhigh, drop_eq_cons hlow, pairs?_of_digits _ hfirst hsecond]
      dsimp only
      rw [hfirst, hsecond]
      dsimp only
      rw [ih (by omega), shiftLeft_or_eq (lt_sixteen_of_hexDigit? hsecond)]
      cases pairs? (text.drop (position + 2)) <;> rfl
  | case2 position hin high low hlow hhigh hdigits =>
      have hnone : hexDigit? high = none ∨ hexDigit? low = none := by
        cases hfirst : hexDigit? high with
        | none => exact .inl rfl
        | some first =>
            cases hsecond : hexDigit? low with
            | none => exact .inr rfl
            | some second => exact (hdigits first second hfirst hsecond).elim
      rw [List.getElem?_toArray] at hlow hhigh
      rw [bytesFrom, if_pos hin, List.getElem?_toArray, List.getElem?_toArray, hhigh, hlow,
        drop_eq_cons hhigh, drop_eq_cons hlow, pairs?_of_no_digit _ hnone]
      rcases hnone with hhigh | hlow
      · dsimp only
        rw [hhigh]
      · dsimp only
        rw [hlow]
        cases hexDigit? high <;> rfl
  | case3 position hin hpast =>
      -- An even number of digits leaves no position without a partner.
      have hhigh : position < text.length := hin
      have hlow : position + 1 < text.length := by omega
      exact (hpast text[position] text[position + 1] (by simp [hhigh]) (by simp [hlow])).elim
  | case4 position hout =>
      rw [bytesFrom, if_neg hout, List.drop_eq_nil_of_le (Nat.le_of_not_lt hout)]
      rfl

/-- A text is decoded by the pairs of its digits, unless their number is odd. -/
theorem decode_eq_pairs? (text : Bytes) :
    decode text =
      if (unmarked text).length % 2 ≠ 0 then .error .oddLength
      else match pairs? (unmarked text) with
        | some bytes => .ok bytes
        | none => .error (.badDigit text) := by
  rw [decode, length_unmarked]
  split_ifs with heven
  · rfl
  · rw [bytesFrom_eq_pairs? text _ (by omega), ← unmarked_eq_drop]
    cases pairs? (unmarked text) <;> rfl

/-! ### Marks -/

/-- The digits of a text stand behind its mark, or are the whole text if it bears none. -/
inductive DigitsOf : Bytes → Bytes → Prop where
  | lower (digits : Bytes) : DigitsOf (utf8 "0x" ++ digits) digits
  | upper (digits : Bytes) : DigitsOf (utf8 "0X" ++ digits) digits
  | bare (text : Bytes)
      (hbare : ∀ rest, text ≠ utf8 "0x" ++ rest ∧ text ≠ utf8 "0X" ++ rest) : DigitsOf text text

theorem digitsOf_unmarked (text : Bytes) : DigitsOf text (unmarked text) := by
  unfold unmarked
  split
  · next rest => exact .lower rest
  · next rest => exact .upper rest
  · next hlower hupper => exact .bare text fun rest => ⟨hlower rest, hupper rest⟩

/-- What is written begins with no mark, as its second byte is a digit. -/
theorem unmarked_encode (bytes : Bytes) : unmarked (encode bytes) = encode bytes := by
  unfold unmarked
  split
  · next rest h =>
      have hx : (hexDigit? 120).isSome :=
        isSome_of_mem_encode (show (120 : UInt8) ∈ encode bytes by rw [h]; simp)
      cases hx
  · next rest h =>
      have hx : (hexDigit? 88).isSome :=
        isSome_of_mem_encode (show (88 : UInt8) ∈ encode bytes by rw [h]; simp)
      cases hx
  · rfl

/-! ### Decoding -/

/-- Texts are decoded as the bytes whose text is the lower-case form of the digits. -/
theorem decode_eq_ok_iff {text bytes : Bytes} :
    decode text = .ok bytes ↔ encode bytes = (unmarked text).map lowercase := by
  rw [decode_eq_pairs?, ← pairs?_eq_some_iff]
  split_ifs with hodd
  · have hnone : pairs? (unmarked text) ≠ some bytes := by
      intro h
      exact hodd (isSome_pairs?_iff.mp (by rw [h]; rfl)).1
    simp [hnone]
  · cases pairs? (unmarked text) <;> simp

/-- A byte is decoded from two digits. -/
theorem length_of_decode {text bytes : Bytes} (h : decode text = .ok bytes) :
    (unmarked text).length = 2 * bytes.length := by
  have hlength := congrArg List.length (decode_eq_ok_iff.mp h)
  rw [length_encode, List.length_map] at hlength
  exact hlength.symm

/-- Texts are decoded when they have an even number of digits and no other byte. -/
theorem exists_decode_eq_ok_iff {text : Bytes} :
    (∃ bytes, decode text = .ok bytes) ↔
      (unmarked text).length % 2 = 0 ∧ ∀ byte ∈ unmarked text, (hexDigit? byte).isSome := by
  simp only [decode_eq_ok_iff, ← pairs?_eq_some_iff]
  rw [← isSome_pairs?_iff, Option.isSome_iff_exists]

/-- An odd number of digits is refused before the digits are looked at. -/
theorem decode_eq_error_iff {text : Bytes} {error : Error} :
    decode text = .error error ↔
      (unmarked text).length % 2 = 1 ∧ error = .oddLength ∨
      (unmarked text).length % 2 = 0 ∧ (∃ byte ∈ unmarked text, hexDigit? byte = none) ∧
        error = .badDigit text := by
  rw [decode_eq_pairs?]
  split_ifs with hodd
  · constructor
    · intro h
      cases h
      exact .inl ⟨by omega, rfl⟩
    · rintro (⟨_, rfl⟩ | ⟨heven, _⟩)
      · rfl
      · exact absurd heven hodd
  · have hsome : (pairs? (unmarked text)).isSome ↔
        ∀ byte ∈ unmarked text, (hexDigit? byte).isSome := by
      rw [isSome_pairs?_iff, and_iff_right (by omega)]
    cases hread : pairs? (unmarked text) with
    | some bytes =>
        constructor
        · intro h
          cases h
        · rintro (⟨hlength, _⟩ | ⟨_, ⟨byte, hbyte, hnone⟩, _⟩)
          · omega
          · have hdigit := hsome.mp (by rw [hread]; rfl) byte hbyte
            rw [hnone] at hdigit
            cases hdigit
    | none =>
        have hbad : ∃ byte ∈ unmarked text, hexDigit? byte = none := by
          by_contra hall
          have hread' := hsome.mpr fun byte hbyte =>
            Option.ne_none_iff_isSome.mp fun hnone => hall ⟨byte, hbyte, hnone⟩
          rw [hread] at hread'
          cases hread'
        constructor
        · intro h
          cases h
          exact .inr ⟨by omega, hbad, rfl⟩
        · rintro (⟨hlength, _⟩ | ⟨_, _, rfl⟩)
          · omega
          · rfl

/-- The text of the error names the odd number of digits, or quotes the refused text. -/
theorem message_of_decode {text : Bytes} {error : Error} (h : decode text = .error error) :
    error.message = if (unmarked text).length % 2 = 1 then utf8 "hex string has odd length"
      else utf8 "invalid hex digit in '" ++ text ++ utf8 "'" := by
  rcases decode_eq_error_iff.mp h with ⟨hodd, rfl⟩ | ⟨heven, _, rfl⟩
  · rw [if_pos hodd]
    rfl
  · rw [if_neg (by omega)]
    rfl

theorem decode_of_unmarked_eq_encode {text bytes : Bytes} (h : unmarked text = encode bytes) :
    decode text = .ok bytes := by
  have hread := pairs?_eq_some_iff.mp (pairs?_encode bytes)
  rw [decode_eq_ok_iff, h, ← hread]

/-- No position past the end is read: an odd number of digits is refused before they are read. -/
theorem bytesFrom_start_ne_pastEnd (text : Bytes) :
    decode text = .error .oddLength ∨ bytesFrom text.toArray (start text) ≠ .error .pastEnd := by
  by_cases hodd : (unmarked text).length % 2 = 1
  · exact .inl (decode_eq_error_iff.mpr (.inl ⟨hodd, rfl⟩))
  · right
    rw [length_unmarked] at hodd
    rw [bytesFrom_eq_pairs? text _ (by omega)]
    cases pairs? (text.drop (start text)) <;> simp

/-- Decoding undoes encoding, with either mark or none, and no text that is written is taken for one
with a mark. A text is decoded when it has an even number of digits behind its mark and no other
byte, and encoding then writes the digits in lower case. Every other text is refused as an invalid
argument. An odd number of digits is refused before any digit is read, so no position past the end
is read, and a byte that is no digit is refused with the whole text, which the error quotes. -/
theorem decode_reads_digit_pairs :
    (∀ bytes : Bytes, unmarked (encode bytes) = encode bytes ∧
      decode (encode bytes) = .ok bytes ∧
      decode (utf8 "0x" ++ encode bytes) = .ok bytes ∧
      decode (utf8 "0X" ++ encode bytes) = .ok bytes) ∧
    (∀ text : Bytes, DigitsOf text (unmarked text) ∧
      ((∃ bytes, decode text = .ok bytes) ↔
        (unmarked text).length % 2 = 0 ∧ ∀ byte ∈ unmarked text, (hexDigit? byte).isSome) ∧
      (∀ bytes, decode text = .ok bytes → encode bytes = (unmarked text).map lowercase) ∧
      (∀ error, decode text = .error error ↔
        (unmarked text).length % 2 = 1 ∧ error = .oddLength ∨
        (unmarked text).length % 2 = 0 ∧ (∃ byte ∈ unmarked text, hexDigit? byte = none) ∧
          error = .badDigit text) ∧
      (∀ error, decode text = .error error → error.kind = .invalid ∧
        error.message = if (unmarked text).length % 2 = 1 then utf8 "hex string has odd length"
          else utf8 "invalid hex digit in '" ++ text ++ utf8 "'") ∧
      (decode text = .error .oddLength ∨
        bytesFrom text.toArray (start text) ≠ .error .pastEnd)) := by
  constructor
  · intro bytes
    have hbare := unmarked_encode bytes
    exact ⟨hbare, decode_of_unmarked_eq_encode hbare, decode_of_unmarked_eq_encode rfl,
      decode_of_unmarked_eq_encode rfl⟩
  · intro text
    refine ⟨digitsOf_unmarked text, exists_decode_eq_ok_iff, ?_, ?_, ?_,
      bytesFrom_start_ne_pastEnd text⟩
    · intro bytes
      exact decode_eq_ok_iff.mp
    · intro error
      exact decode_eq_error_iff
    · intro error herror
      exact ⟨rfl, message_of_decode herror⟩

end Hex

end Custody
