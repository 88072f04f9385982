import Custody.AccountId
import Custody.Proofs.Hexadecimal

/-!
# Identities are read as words are

The digits of an identity are read in pairs from the first one on, those of a word
one by one from the last one on. `AccountId.ofHex_eq_ok_iff` says that both ways
come to the same thirty-two bytes when there are sixty-four digits, and
`AccountId.ofHex_agrees_with_word` that no other text is an identity. A text is
refused for an odd number of digits, else for a byte that is no digit, else for the
number of its bytes.
-/

namespace Custody

open Hex (unmarked DigitsOf)

/-- The bytes of a word that is read from sixty-four digits have these digits as their text. -/
theorem Word256.encode_bytes_of_ofHex {text : Bytes} {word : Word256}
    (hread : ofHex text = .ok word) (hlength : (unmarked text).length = 64) :
    Hex.encode word.bytes = (unmarked text).map lowercase := by
  have htext := toHex_of_ofHex hread
  rw [hlength] at htext
  exact List.append_cancel_left htext

namespace AccountId

/-- The word with the bytes of the identity. -/
def toWord (account : AccountId) : Word256 := ⟨account.bytes, account.length_bytes⟩

/-! ### Reading -/

theorem ofHex_eq_ok_iff_decode {text : Bytes} {account : AccountId} :
    ofHex text = .ok account ↔ Hex.decode text = .ok account.bytes := by
  rw [ofHex]
  cases hread : Hex.decode text with
  | error error => simp
  | ok bytes =>
      dsimp only
      split_ifs with hsize
      · rw [Except.ok.injEq, Except.ok.injEq, AccountId.ext_iff]
      · have hother : bytes ≠ account.bytes := by
          rintro rfl
          exact hsize account.length_bytes
        simp [hother]

/-- An identity is read exactly where the word of its bytes is read from sixty-four digits. -/
theorem ofHex_eq_ok_iff {text : Bytes} {account : AccountId} :
    ofHex text = .ok account ↔
      Word256.ofHex text = .ok account.toWord ∧ (unmarked text).length = 64 := by
  rw [ofHex_eq_ok_iff_decode]
  constructor
  · intro hread
    obtain ⟨_, hdigits⟩ := Hex.exists_decode_eq_ok_iff.mp ⟨_, hread⟩
    have hlength : (unmarked text).length = 64 := by
      rw [Hex.length_of_decode hread, account.length_bytes]
    obtain ⟨word, hword⟩ := Word256.exists_ofHex_eq_ok_iff.mpr ⟨by omega, by omega, hdigits⟩
    -- Both decoders leave bytes whose text is the digits, and only one byte string has that text.
    have htext := (Word256.encode_bytes_of_ofHex hword hlength).trans
      (Hex.decode_eq_ok_iff.mp hread).symm
    have hsame : word = account.toWord := Word256.ext (Hex.encode_injective htext)
    rw [hword, hsame]
    exact ⟨rfl, hlength⟩
  · rintro ⟨hread, hlength⟩
    exact Hex.decode_eq_ok_iff.mpr (Word256.encode_bytes_of_ofHex hread hlength)

theorem exists_ofHex_eq_ok_iff {text : Bytes} :
    (∃ account, ofHex text = .ok account) ↔
      (∃ word, Word256.ofHex text = .ok word) ∧ (unmarked text).length = 64 := by
  constructor
  · rintro ⟨account, h⟩
    obtain ⟨hread, hlength⟩ := ofHex_eq_ok_iff.mp h
    exact ⟨⟨_, hread⟩, hlength⟩
  · rintro ⟨⟨word, hread⟩, hlength⟩
    exact ⟨⟨word.bytes, word.length_bytes⟩, ofHex_eq_ok_iff.mpr ⟨hread, hlength⟩⟩

/-- The text of an identity is read back as the identity. -/
theorem ofHex_toHex (account : AccountId) : ofHex account.toHex = .ok account :=
  ofHex_eq_ok_iff_decode.mpr (Hex.decode_of_unmarked_eq_encode rfl)

/-! ### Refusals -/

/-- Why a text is refused as an identity. -/
inductive Refused (text : Bytes) : TextError → Prop where
  /-- The number of digits is judged first. -/
  | oddLength (hodd : (unmarked text).length % 2 = 1) : Refused text (.hex .oddLength)
  /-- The digits themselves are judged next. -/
  | badDigit (heven : (unmarked text).length % 2 = 0)
      (hbad : ∃ byte ∈ unmarked text, hexDigit? byte = none) : Refused text (.hex (.badDigit text))
  /-- The size is judged last, and the number of bytes that were decoded is named. -/
  | size (bytes : Bytes) (heven : (unmarked text).length % 2 = 0)
      (hdigits : ∀ byte ∈ unmarked text, (hexDigit? byte).isSome)
      (hbytes : Hex.decode text = .ok bytes) (hcount : (unmarked text).length = 2 * bytes.length)
      (hsize : bytes.length ≠ 32) : Refused text (.size bytes.length)

/-- A text is refused for one of three reasons, of which the first that applies is named. -/
theorem ofHex_eq_error_iff {text : Bytes} {error : TextError} :
    ofHex text = .error error ↔ Refused text error := by
  constructor
  · intro h
    rw [ofHex] at h
    cases hread : Hex.decode text with
    | error reason =>
        rw [hread] at h
        cases h
        rcases Hex.decode_eq_error_iff.mp hread with ⟨hodd, rfl⟩ | ⟨heven, hbad, rfl⟩
        · exact .oddLength hodd
        · exact .badDigit heven hbad
    | ok bytes =>
        rw [hread] at h
        dsimp only at h
        split_ifs at h with hsize
        cases h
        obtain ⟨heven, hdigits⟩ := Hex.exists_decode_eq_ok_iff.mp ⟨bytes, hread⟩
        exact .size bytes heven hdigits hread (Hex.length_of_decode hread) hsize
  · intro h
    rw [ofHex]
    cases h with
    | oddLength hodd => rw [Hex.decode_eq_error_iff.mpr (.inl ⟨hodd, rfl⟩)]
    | badDigit heven hbad => rw [Hex.decode_eq_error_iff.mpr (.inr ⟨heven, hbad, rfl⟩)]
    | size bytes _ _ hbytes _ hsize =>
        rw [hbytes]
        exact dif_neg hsize

/-- The text of an error: the odd number of digits, the refused text, or the number of bytes. -/
theorem Refused.message {text : Bytes} {error : TextError} (h : Refused text error) :
    error.message =
      if (unmarked text).length % 2 = 1 then utf8 "hex string has odd length"
      else if ∃ byte ∈ unmarked text, hexDigit? byte = none then
        utf8 "invalid hex digit in '" ++ text ++ utf8 "'"
      else utf8 "AccountId must be 32 bytes, got " ++ decimal ((unmarked text).length / 2) := by
  cases h with
  | oddLength hodd =>
      rw [if_pos hodd]
      rfl
  | badDigit heven hbad =>
      rw [if_neg (by omega), if_pos hbad]
      rfl
  | size bytes heven hdigits hbytes hcount hsize =>
      have hgood : ¬ ∃ byte ∈ unmarked text, hexDigit? byte = none := by
        rintro ⟨byte, hbyte, hnone⟩
        have hdigit := hdigits byte hbyte
        rw [hnone] at hdigit
        cases hdigit
      have hhalf : (unmarked text).length / 2 = bytes.length := by omega
      rw [if_neg (by omega), if_neg hgood, hhalf]
      rfl

/-- Identities are read from the texts from which words are read with sixty-four digits behind the
mark, if there is one, and identity and word then have the same bytes and the same text, which is
read back as the identity. Every other text is refused as invalid: for an odd number of digits, else
for a byte that is no digit, else for the number of bytes that it denotes, which the text of the
error names. The text of every identity is read back as the identity. -/
theorem ofHex_agrees_with_word :
    (∀ text : Bytes, DigitsOf text (unmarked text) ∧
      ((∃ account, ofHex text = .ok account) ↔
        (∃ word, Word256.ofHex text = .ok word) ∧ (unmarked text).length = 64) ∧
      (∀ account, ofHex text = .ok account → ∃ word, Word256.ofHex text = .ok word ∧
        account.bytes = word.bytes ∧ account.toHex = word.toHex ∧
          ofHex word.toHex = .ok account) ∧
      (∀ error, ofHex text = .error error ↔ Refused text error) ∧
      (∀ error, ofHex text = .error error → error.kind = .invalid ∧
        error.message =
          if (unmarked text).length % 2 = 1 then utf8 "hex string has odd length"
          else if ∃ byte ∈ unmarked text, hexDigit? byte = none then
            utf8 "invalid hex digit in '" ++ text ++ utf8 "'"
          else
            utf8 "AccountId must be 32 bytes, got " ++ decimal ((unmarked text).length / 2))) ∧
    (∀ account : AccountId, ofHex account.toHex = .ok account) := by
  constructor
  · intro text
    refine ⟨Hex.digitsOf_unmarked text, exists_ofHex_eq_ok_iff, ?_, ?_, ?_⟩
    · intro account hread
      obtain ⟨hword, _⟩ := ofHex_eq_ok_iff.mp hread
      exact ⟨account.toWord, hword, rfl, rfl, ofHex_toHex account⟩
    · intro error
      exact ofHex_eq_error_iff
    · intro error herror
      exact ⟨rfl, (ofHex_eq_error_iff.mp herror).message⟩
  · exact ofHex_toHex

end AccountId

end Custody
