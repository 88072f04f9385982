import Custody.Transaction
import Mathlib.Tactic.Common

/-!
# What the digest of a body commits to

Every field of a body has its own place in the encoding, so the encoding
determines the body, and any ninety-six bytes are the encoding of the body that
`Body.ofEncoding` reads off them. The digest therefore determines the body up to a
collision, which `Body.digest_eq_iff` exhibits: two encodings that differ and have
one digest. `encoding_binds_body` states what leaves and signatures commit to.
-/

namespace Custody

/-- Two different messages with the same digest. -/
def Collide (first second : Bytes) : Prop :=
  first ≠ second ∧ sha256 first = sha256 second

namespace Transaction

/-- The encoding determines the body. -/
theorem Body.encoding_injective {a b : Body} (h : a.encoding = b.encoding) : a = b := by
  obtain ⟨⟨receiver, hreceiver⟩, ⟨token, htoken⟩, ⟨block, hblock⟩⟩ := a
  obtain ⟨⟨receiver', hreceiver'⟩, ⟨token', htoken'⟩, ⟨block', hblock'⟩⟩ := b
  simp only [encoding, List.append_assoc] at h
  obtain ⟨rfl, hrest⟩ := List.append_inj h (hreceiver.trans hreceiver'.symm)
  obtain ⟨rfl, rfl⟩ := List.append_inj hrest (htoken.trans htoken'.symm)
  rfl

/-- The zero body is written as ninety-six zero bytes. -/
theorem Body.encoding_zero : Body.zero.encoding = List.replicate 96 0 := rfl

/-- Two bodies have the same digest when they are the same or their encodings collide. -/
theorem Body.digest_eq_iff {a b : Body} :
    a.digest = b.digest ↔ a = b ∨ Collide a.encoding b.encoding := by
  constructor
  · intro h
    by_cases hsame : a = b
    · exact .inl hsame
    · refine .inr ⟨?_, h⟩
      intro hencoding
      exact hsame (encoding_injective hencoding)
  · rintro (rfl | ⟨_, hdigest⟩)
    · rfl
    · exact hdigest

/-! ### Reading an encoding back -/

/-- The body that ninety-six bytes denote. -/
def Body.ofEncoding (bytes : Bytes) (hlength : bytes.length = 96) : Body where
  receiver := ⟨bytes.take 32, by rw [List.length_take, hlength]; rfl⟩
  tokenId := ⟨(bytes.drop 32).take 32, by rw [List.length_take, List.length_drop, hlength]; rfl⟩
  prevBlock := ⟨bytes.drop 64, by rw [List.length_drop, hlength]⟩

theorem Body.encoding_ofEncoding (bytes : Bytes) (hlength : bytes.length = 96) :
    (ofEncoding bytes hlength).encoding = bytes := by
  calc (ofEncoding bytes hlength).encoding
      = bytes.take 32 ++ ((bytes.drop 32).take 32 ++ (bytes.drop 32).drop 32) := by
        rw [encoding, ofEncoding, List.append_assoc, List.drop_drop]
    _ = bytes := by rw [List.take_append_drop, List.take_append_drop]

theorem Body.ofEncoding_encoding (body : Body) :
    ofEncoding body.encoding body.length_encoding = body :=
  encoding_injective (encoding_ofEncoding _ _)

/-- A body is encoded as these bytes when they are ninety-six, the first thirty-two of them are the
receiver, and the other two fields are the numbers that the rest denotes, most significant byte
first. -/
theorem Body.encoding_eq_iff {body : Body} {bytes : Bytes} :
    body.encoding = bytes ↔
      bytes.length = 96 ∧ body.receiver.bytes = bytes.take 32 ∧
        body.tokenId.toNat = BigEndian.toNat ((bytes.drop 32).take 32) ∧
        body.prevBlock.toNat = BigEndian.toNat (bytes.drop 64) := by
  constructor
  · rintro rfl
    have hread := (ofEncoding_encoding body).symm
    exact ⟨body.length_encoding, congrArg (·.receiver.bytes) hread,
      congrArg (·.tokenId.toNat) hread, congrArg (·.prevBlock.toNat) hread⟩
  · rintro ⟨hlength, hreceiver, htoken, hblock⟩
    have hbody : body = ofEncoding bytes hlength := by
      obtain ⟨receiver, token, block⟩ := body
      rw [ofEncoding, Body.mk.injEq]
      exact ⟨AccountId.ext hreceiver, Word256.toNat_injective htoken,
        Word256.toNat_injective hblock⟩
    rw [hbody, encoding_ofEncoding]

/-- Exactly the strings of ninety-six bytes are encodings, each of one body. -/
theorem Body.existsUnique_encoding_iff {bytes : Bytes} :
    (∃! body : Body, body.encoding = bytes) ↔ bytes.length = 96 := by
  constructor
  · rintro ⟨body, rfl, _⟩
    exact body.length_encoding
  · intro hlength
    refine ⟨ofEncoding bytes hlength, encoding_ofEncoding bytes hlength, ?_⟩
    intro body hbody
    exact encoding_injective (hbody.trans (encoding_ofEncoding bytes hlength).symm)

/-! ### What the digest commits to -/

/-- Two transactions with the same receiver, token and block have the same body. -/
theorem toBody_eq_iff {a b : Transaction} :
    a.toBody = b.toBody ↔
      a.receiver = b.receiver ∧ a.tokenId = b.tokenId ∧ a.prevBlock = b.prevBlock := by
  obtain ⟨⟨receiver, token, block⟩, sender, signature⟩ := a
  obtain ⟨⟨receiver', token', block'⟩, sender', signature'⟩ := b
  exact Iff.of_eq (Body.mk.injEq ..)

/-- All schemes judge a signature over one body as they judge it over the other exactly when the two
bodies have the same digest. -/
theorem valid_eq_iff_digest_eq {a b : Body} {sender : AccountId} {signature : Bytes} :
    (∀ scheme, valid scheme ⟨a, sender, signature⟩ = valid scheme ⟨b, sender, signature⟩) ↔
      a.digest = b.digest := by
  constructor
  · intro h
    -- A scheme that takes any signature, but only over the digest of the first body.
    have hfirst := h ⟨[], fun message _ _ => .ok (message = a.digest)⟩
    simpa [valid, leaf, eq_comm] using hfirst
  · intro h scheme
    simp only [valid, leaf, h]

/-- The encoding is a bijection between bodies and strings of ninety-six bytes, whose parts are the
receiver and the big-endian numbers of the token and the block. So two transactions for the same
receiver, token and block have the same leaf and the same message to sign, whatever their senders
and signatures, and two with the same leaf are for the same receiver, token and block unless their
encodings collide. What a signature is good for is the message, whatever the scheme. -/
theorem encoding_binds_body :
    (∀ bytes : Bytes, (∃! body : Body, body.encoding = bytes) ↔ bytes.length = 96) ∧
    (∀ (bytes : Bytes) (body : Body), body.encoding = bytes ↔
      bytes.length = 96 ∧ body.receiver.bytes = bytes.take 32 ∧
        body.tokenId.toNat = BigEndian.toNat ((bytes.drop 32).take 32) ∧
        body.prevBlock.toNat = BigEndian.toNat (bytes.drop 64)) ∧
    (∀ a b : Transaction,
      (a.leaf = b.leaf ↔
        (a.receiver = b.receiver ∧ a.tokenId = b.tokenId ∧ a.prevBlock = b.prevBlock) ∨
          Collide a.toBody.encoding b.toBody.encoding) ∧
      (a.toBody.digest = b.toBody.digest ↔ a.leaf = b.leaf)) ∧
    ∀ (a b : Body) (sender : AccountId) (signature : Bytes),
      (∀ scheme, valid scheme ⟨a, sender, signature⟩ = valid scheme ⟨b, sender, signature⟩) ↔
        a.digest = b.digest := by
  refine ⟨fun _ => Body.existsUnique_encoding_iff, fun _ _ => Body.encoding_eq_iff,
    fun a b => ⟨?_, Iff.rfl⟩, fun _ _ _ _ => valid_eq_iff_digest_eq⟩
  rw [← toBody_eq_iff]
  exact Body.digest_eq_iff

end Transaction

end Custody
