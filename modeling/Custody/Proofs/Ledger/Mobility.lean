import Custody.Proofs.Ledger.Acceptance
import Custody.Proofs.Relationship
import Custody.Proofs.Signing

/-!
# Where an owner can send its token

An owner that can sign is never stuck with a token: `owner_reaches_every_account`
says that one transfer takes it to any other account, except back to the account
that it came from, and that two transfers do that, the first to the owner itself.
Block numbers play no part. Everything follows from `step_handOver`, which says
what a transfer does that the owner signs and submits.
-/

namespace Custody

namespace Transaction

/-- The transaction of a body that the sender signs. -/
def Body.signedBy (sign : Digest → Bytes) (sender : AccountId) (body : Body) : Transaction :=
  { body with sender, signature := sign body.digest }

theorem Body.valid_signedBy {scheme : Scheme} {sign : Digest → Bytes} {sender : AccountId}
    (hsign : ∀ message, scheme.verify message (sign message) sender = .ok true) (body : Body) :
    (body.signedBy sign sender).valid scheme :=
  valid_iff_verify.mpr (hsign _)

/-- A transaction of the owner is a child unless it goes back to the account the token came from. -/
theorem classify_of_owner {txn last : Transaction} (howner : txn.sender = last.receiver) :
    txn.classify last = .child ↔ txn.receiver ≠ last.sender := by
  rw [classify_eq_child_iff]
  exact and_iff_left howner

end Transaction

namespace Ledger

/-- The transfer of a token that its owner signs and submits. -/
def handOver (sign : Digest → Bytes) (owner : AccountId) (token : TokenId) (receiver : AccountId)
    (block : BlockNumber) : Call :=
  .transfer owner (Transaction.Body.signedBy sign owner ⟨receiver, token, block⟩)

section Owner

variable {scheme : Scheme} {ledger : Ledger} {token : TokenId} {last : Transaction}
  {sign : Digest → Bytes} {receiver : AccountId}
  (hlast : ledger.find? token = some last)
  (hsign : ∀ message, scheme.verify message (sign message) last.receiver = .ok true)
include hlast hsign

/-- A transfer that the owner signs and submits is refused when it goes back to the account that
the token came from, and is accepted otherwise. -/
theorem step_handOver (receiver : AccountId) (block : BlockNumber) :
    let txn := Transaction.Body.signedBy sign last.receiver ⟨receiver, token, block⟩
    ledger.step scheme (handOver sign last.receiver token receiver block) =
      if receiver = last.sender then (ledger, .error (.senderNotOwner last.receiver token))
      else (ledger.insert txn,
        .ok (.changed ⟨.transferred, token, last.receiver, receiver, txn.leaf⟩)) := by
  intro txn
  have hentry : ledger.find? txn.tokenId = some last := hlast
  have hvalid : txn.valid scheme := Transaction.Body.valid_signedBy hsign _
  have hcaller : last.receiver = txn.sender := rfl
  have hchild : txn.classify last = .child ↔ receiver ≠ last.sender :=
    Transaction.classify_of_owner rfl
  change ledger.step scheme (.transfer last.receiver txn) = _
  rw [step_transfer, hentry]
  dsimp only
  -- The signature and the caller are as they should be, so the classifier decides.
  rw [if_neg (not_not.mpr hvalid), if_neg (not_not.mpr hcaller)]
  by_cases hreturn : receiver = last.sender
  · rw [if_pos hreturn]
    exact if_pos (mt hchild.mp (not_not.mpr hreturn))
  · rw [if_neg hreturn]
    exact if_neg (not_not.mpr (hchild.mpr hreturn))

theorem accepted_handOver_iff (receiver : AccountId) (block : BlockNumber) :
    (∃ receipt, (ledger.step scheme (handOver sign last.receiver token receiver block)).2 =
      .ok receipt) ↔ receiver ≠ last.sender := by
  rw [step_handOver hlast hsign]
  split_ifs with hreturn <;> simp [hreturn]

/-- One transfer takes the token to an account that it did not come from. -/
theorem handOver_once (hother : receiver ≠ last.sender) (block : BlockNumber) :
    let calls := [handOver sign last.receiver token receiver block]
    AllAccepted scheme ledger calls ∧ (ledger.run scheme calls).1.owner? token = some receiver := by
  intro calls
  have hstep := step_handOver hlast hsign receiver block
  dsimp only at hstep
  rw [if_neg hother] at hstep
  constructor
  · rw [allAccepted_cons, hstep]
    exact ⟨⟨_, rfl⟩, allAccepted_nil _ _⟩
  · simp only [calls, run_cons, hstep]
    exact congrArg (Option.map _) (find?_insert_self ledger _)

/-- Two transfers, the first to the owner itself, take the token to any other account, and also to
the one that it came from. -/
theorem handOver_twice (hcame : last.receiver ≠ last.sender) (hother : receiver ≠ last.receiver)
    (first second : BlockNumber) :
    let calls := [handOver sign last.receiver token last.receiver first,
      handOver sign last.receiver token receiver second]
    AllAccepted scheme ledger calls ∧ (ledger.run scheme calls).1.owner? token = some receiver := by
  intro calls
  have hstep := step_handOver hlast hsign last.receiver first
  dsimp only at hstep
  rw [if_neg hcame] at hstep
  -- The token now comes from its owner, so nothing else keeps it from going anywhere.
  obtain ⟨haccepted, howner⟩ := handOver_once (find?_insert_self ledger
    (Transaction.Body.signedBy sign last.receiver ⟨last.receiver, token, first⟩)) hsign hother second
  constructor
  · rw [allAccepted_cons, hstep]
    exact ⟨⟨_, rfl⟩, haccepted⟩
  · rw [run_cons, hstep]
    exact howner

end Owner

/-- The owner of a token that can sign every message takes the token to any other account in one
transfer, unless the token came from that account. Back to where it came from, one transfer is a
two-cycle and is refused, and two transfers are accepted, of which the first is to the owner itself.
That one is accepted exactly when the token came from another account. -/
theorem owner_reaches_every_account (scheme : Scheme) (ledger : Ledger) (token : TokenId)
    (last : Transaction) (hlast : ledger.find? token = some last) (sign : Digest → Bytes)
    (hsign : ∀ message, scheme.verify message (sign message) last.receiver = .ok true) :
    let owner := last.receiver
    (∀ receiver block, receiver ≠ owner →
      ((∃ receipt, (ledger.step scheme (handOver sign owner token receiver block)).2 =
        .ok receipt) ↔ receiver ≠ last.sender)) ∧
    (∀ receiver, receiver ≠ owner → receiver = last.sender → ∀ first second,
      (Transaction.Body.signedBy sign owner ⟨receiver, token, second⟩).isTwoCycle last ∧
      (∃ cause, (ledger.step scheme (handOver sign owner token receiver second)).2 =
        .error cause ∧ cause.code = .notCurrentOwner) ∧
      let calls := [handOver sign owner token owner first,
        handOver sign owner token receiver second]
      AllAccepted scheme ledger calls ∧
        (ledger.run scheme calls).1.owner? token = some receiver) ∧
    (∀ receiver, receiver ≠ owner → ∀ first second,
      ∃ calls ∈ [[handOver sign owner token receiver second],
          [handOver sign owner token owner first, handOver sign owner token receiver second]],
        AllAccepted scheme ledger calls ∧
          (ledger.run scheme calls).1.owner? token = some receiver) ∧
    ∀ block, (∃ receipt, (ledger.step scheme (handOver sign owner token owner block)).2 =
      .ok receipt) ↔ last.sender ≠ owner := by
  intro owner
  refine ⟨?_, ?_, ?_, ?_⟩
  · intro receiver block _
    exact accepted_handOver_iff hlast hsign receiver block
  · rintro receiver hother rfl first second
    refine ⟨Transaction.isTwoCycle_iff.mpr ⟨rfl, rfl⟩, ?_,
      handOver_twice hlast hsign hother.symm hother first second⟩
    rw [step_handOver hlast hsign, if_pos rfl]
    exact ⟨_, rfl, rfl⟩
  · intro receiver hother first second
    by_cases hreturn : receiver = last.sender
    · refine ⟨_, List.mem_cons_of_mem _ List.mem_cons_self, ?_⟩
      exact handOver_twice hlast hsign (hreturn ▸ hother.symm) hother first second
    · exact ⟨_, List.mem_cons_self, handOver_once hlast hsign hreturn second⟩
  · intro block
    rw [accepted_handOver_iff hlast hsign]
    exact ne_comm

/-- The second account got the token from the first. It can send the token to the third account at
once, and back to the first by way of itself. -/
theorem owner_reaches_giver :
    let token := Word256.ofNat 7
    let owner := Sample.account 2
    let giver := Sample.account 1
    let ledger := (empty.run Sample.scheme [.deposit giver (Sample.hand 7 1 2)]).1
    let sign : Digest → Bytes := fun _ => owner.bytes
    ledger.find? token = some (Sample.hand 7 1 2) ∧
      (∀ message, Sample.scheme.verify message (sign message) owner = .ok true) ∧
      (∃ receipt, (ledger.step Sample.scheme
        (handOver sign owner token (Sample.account 3) .zero)).2 = .ok receipt) ∧
      (∃ cause, (ledger.step Sample.scheme (handOver sign owner token giver .zero)).2 =
        .error cause ∧ cause.code = .notCurrentOwner) ∧
      let calls := [handOver sign owner token owner .zero, handOver sign owner token giver .zero]
      AllAccepted Sample.scheme ledger calls ∧
        (ledger.run Sample.scheme calls).1.owner? token = some giver := by
  intro token owner giver ledger sign
  have hlast : ledger.find? token = some (Sample.hand 7 1 2) := by decide
  have hsign : ∀ message, Sample.scheme.verify message (sign message) owner = .ok true := by
    intro message
    rfl
  obtain ⟨honce, htwice, _, _⟩ :=
    owner_reaches_every_account Sample.scheme ledger token (Sample.hand 7 1 2) hlast sign hsign
  obtain ⟨_, hrefused, haround⟩ := htwice giver (by decide) rfl .zero .zero
  exact ⟨hlast, hsign, (honce (Sample.account 3) .zero (by decide)).mpr (by decide), hrefused,
    haround⟩

end Ledger

end Custody
