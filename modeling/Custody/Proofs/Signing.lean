import Custody.Transaction
import Mathlib.Tactic.Common

/-!
# Which transactions can be signed

A transaction comes into being by attaching a signature to a body, or it comes from
elsewhere with whatever signature it bears. Both ways put one question to the
scheme, since the leaf of a transaction is the digest of its body, but they differ in
how they take a scheme that reaches no verdict: attaching passes the failure on, and
`valid` answers no. The main theorem is `attach_makes_valid_transactions`: what can be
attached to a body is exactly what makes it a valid transaction.
-/

namespace Custody.Transaction

variable {scheme : Scheme} {body : Body} {sender : AccountId} {signature : Bytes}
  {txn : Transaction} {failure : Fault}

/-- A transaction is valid when the scheme accepts its signature. Any other outcome counts as no. -/
theorem valid_iff_verify :
    txn.valid scheme ↔ scheme.verify txn.leaf txn.signature txn.sender = .ok true := by
  unfold valid
  cases scheme.verify txn.leaf txn.signature txn.sender <;> simp

/-- The verdict of the scheme that leads to an error. -/
def SigningError.verdict : SigningError → Except Fault Bool
  | .mismatch => .ok false
  | .fault failure => .error failure

/-! ### The outcome for each verdict of the scheme -/

namespace Body

theorem attach_of_accepted (h : scheme.verify body.digest signature sender = .ok true) :
    body.attach scheme sender signature = .ok { body with sender, signature } := by
  rw [attach, h]

theorem attach_of_refused (h : scheme.verify body.digest signature sender = .ok false) :
    body.attach scheme sender signature = .error .mismatch := by
  rw [attach, h]

theorem attach_of_fault (h : scheme.verify body.digest signature sender = .error failure) :
    body.attach scheme sender signature = .error (.fault failure) := by
  rw [attach, h]

/-! ### The verdict behind each outcome -/

/-- A signature can be attached when the scheme accepts it, and nothing is changed on the way. -/
theorem attach_eq_ok_iff :
    body.attach scheme sender signature = .ok txn ↔
      scheme.verify body.digest signature sender = .ok true ∧
        txn = { body with sender, signature } := by
  cases hverdict : scheme.verify body.digest signature sender with
  | error failure => simp [attach_of_fault hverdict]
  | ok verdict =>
      cases verdict with
      | false => simp [attach_of_refused hverdict]
      | true => simp [attach_of_accepted hverdict, eq_comm]

/-- An error tells the verdict that the scheme gave. -/
theorem attach_eq_error_iff {cause : SigningError} :
    body.attach scheme sender signature = .error cause ↔
      scheme.verify body.digest signature sender = cause.verdict := by
  cases hverdict : scheme.verify body.digest signature sender with
  | error failure =>
      rw [attach_of_fault hverdict]
      cases cause <;> simp [SigningError.verdict]
  | ok verdict =>
      cases verdict with
      | false =>
          rw [attach_of_refused hverdict]
          cases cause <;> simp [SigningError.verdict]
      | true =>
          rw [attach_of_accepted hverdict]
          cases cause <;> simp [SigningError.verdict]

end Body

/-- What attaching a signature gives has the body, the sender and the signature it was made of, and
is valid. Nothing else is. -/
theorem attach_eq_ok_iff_valid :
    body.attach scheme sender signature = .ok txn ↔
      (txn.toBody = body ∧ txn.sender = sender ∧ txn.signature = signature) ∧ txn.valid scheme := by
  rw [Body.attach_eq_ok_iff, valid_iff_verify]
  constructor
  · rintro ⟨hverdict, rfl⟩
    exact ⟨⟨rfl, rfl, rfl⟩, hverdict⟩
  · rintro ⟨⟨rfl, rfl, rfl⟩, hverdict⟩
    exact ⟨hverdict, rfl⟩

/-- The signature of a transaction can be attached to its body when the transaction is valid, and
this gives the transaction back. -/
theorem attach_self_eq_ok_iff {made : Transaction} :
    txn.toBody.attach scheme txn.sender txn.signature = .ok made ↔
      txn.valid scheme ∧ made = txn := by
  rw [Body.attach_eq_ok_iff, valid_iff_verify]
  exact Iff.rfl

theorem exists_ok_iff_valid :
    (∃ made, txn.toBody.attach scheme txn.sender txn.signature = .ok made) ↔ txn.valid scheme := by
  simp only [attach_self_eq_ok_iff, exists_and_left, exists_eq, and_true]

/-- A transaction is invalid when its signature cannot be attached, whatever the reason. -/
theorem valid_eq_false_iff :
    txn.valid scheme = false ↔
      ∃ cause, txn.toBody.attach scheme txn.sender txn.signature = .error cause := by
  rw [← Bool.not_eq_true, ← exists_ok_iff_valid]
  cases txn.toBody.attach scheme txn.sender txn.signature <;> simp

/-- For every scheme, attaching a signature to a body gives a transaction exactly when that body with
that sender and signature is valid, and it is this transaction that it gives, whose leaf is the
digest that was signed. So a transaction from elsewhere is valid exactly when its own signature can
be attached to its own body, which gives the transaction back. Where the scheme answers no, the
error has the code of an invalid signature, and where it reaches no verdict, its own failure is
passed on under no code. The transaction is invalid in both cases, and only then. -/
theorem attach_makes_valid_transactions (scheme : Scheme) :
    (∀ (body : Body) (sender : AccountId) (signature : Bytes) (txn : Transaction),
      body.attach scheme sender signature = .ok txn ↔
        (txn.toBody = body ∧ txn.sender = sender ∧ txn.signature = signature ∧
          txn.leaf = body.digest) ∧ txn.valid scheme) ∧
    (∀ txn : Transaction,
      let attached := txn.toBody.attach scheme txn.sender txn.signature
      let verdict := scheme.verify txn.leaf txn.signature txn.sender
      (txn.valid scheme ↔ ∃ made, attached = .ok made) ∧
      (∀ made, attached = .ok made ↔ txn.valid scheme ∧ made = txn) ∧
      (verdict = .ok false ↔ attached = .error .mismatch) ∧
      (∀ failure, verdict = .error failure ↔ attached = .error (.fault failure)) ∧
      (txn.valid scheme = false ↔ verdict = .ok false ∨ ∃ failure, verdict = .error failure)) ∧
    SigningError.mismatch.code? = some .invalidSignature ∧
    ∀ failure, (SigningError.fault failure).code? = none ∧
      (SigningError.fault failure).message = failure.reason := by
  refine ⟨?_, ?_, rfl, fun _ => ⟨rfl, rfl⟩⟩
  · intro body sender signature txn
    rw [attach_eq_ok_iff_valid]
    constructor
    · rintro ⟨⟨rfl, hsender, hsignature⟩, hvalid⟩
      exact ⟨⟨rfl, hsender, hsignature, rfl⟩, hvalid⟩
    · rintro ⟨⟨hbody, hsender, hsignature, _⟩, hvalid⟩
      exact ⟨⟨hbody, hsender, hsignature⟩, hvalid⟩
  · intro txn attached verdict
    have herror (cause : SigningError) : verdict = cause.verdict ↔ attached = .error cause :=
      Body.attach_eq_error_iff.symm
    refine ⟨exists_ok_iff_valid.symm, fun _ => attach_self_eq_ok_iff, herror .mismatch,
      fun failure => herror (.fault failure), ?_⟩
    rw [valid_eq_false_iff]
    constructor
    · rintro ⟨cause, hcause⟩
      cases cause with
      | mismatch => exact .inl ((herror .mismatch).mpr hcause)
      | fault failure => exact .inr ⟨failure, (herror (.fault failure)).mpr hcause⟩
    · rintro (hrefused | ⟨failure, hfault⟩)
      · exact ⟨.mismatch, (herror .mismatch).mp hrefused⟩
      · exact ⟨.fault failure, (herror (.fault failure)).mp hfault⟩

end Custody.Transaction
