import Custody.Proofs.Ledger.Acceptance
import Custody.Proofs.Relationship

/-!
# Only the owner moves a token

Whoever calls, and whatever is submitted, an owned token stays with its owner
until the owner withdraws it or hands it on. `Accepts.moved_by_owner` says so of
one call and `find?_run_of_not_accepted` of a run; `owner_moves_token` states both,
together with the origin of every transaction in the ledger: a genesis list, or a
call by its sender.
-/

namespace Custody.Ledger

/-- `MovesToken scheme token owner call` says that the call is a withdrawal of the token by its
owner, or a transfer of it that the owner makes and signs. -/
inductive MovesToken (scheme : Scheme) (token : TokenId) (owner : AccountId) : Call → Prop where
  | withdraw : MovesToken scheme token owner (.withdraw owner token)
  | transfer (txn : Transaction) :
      txn.tokenId = token →
      txn.sender = owner →
      txn.valid scheme →
      MovesToken scheme token owner (.transfer owner txn)

/-- `Brings txn call` says that the call hands in the transaction: in a genesis list, or as its
sender. -/
inductive Brings (txn : Transaction) : Call → Prop where
  | seed (genesis : List Transaction) : txn ∈ genesis → Brings txn (.seed genesis)
  | deposit : Brings txn (.deposit txn.sender txn)
  | transfer : Brings txn (.transfer txn.sender txn)

variable {scheme : Scheme} {ledger after : Ledger} {call : Call} {receipt : Receipt}
  {token : TokenId} {last txn : Transaction}

/-! ### One call -/

/-- The owner of a token makes every call that moves it, and makes it on that token. -/
theorem MovesToken.caller?_token? {owner : AccountId} (h : MovesToken scheme token owner call) :
    call.caller? = some owner ∧ call.token? = some token := by
  cases h with
  | withdraw => exact ⟨rfl, rfl⟩
  | transfer txn htoken hsender hvalid =>
      subst htoken
      exact ⟨rfl, rfl⟩

/-- An accepted call that changes the entry of an owned token moves it on the owner's behalf. -/
theorem Accepts.moved_by_owner (h : Accepts scheme ledger call after receipt)
    (hlast : ledger.find? token = some last) (hchanged : after.find? token ≠ some last) :
    MovesToken scheme token last.receiver call := by
  cases h with
  | seed genesis hvalid hnodup hfree =>
      -- A genesis list names free tokens only, so it cannot name this one.
      exfalso
      apply hchanged
      have hunnamed : genesis.find? (·.tokenId = token) = none := by
        rw [List.find?_eq_none]
        intro entry hentry hnamed
        have hnone := hfree entry hentry
        rw [of_decide_eq_true hnamed, hlast] at hnone
        cases hnone
      rw [find?_foldl_insert hnodup, hunnamed, Option.none_or, hlast]
  | deposit txn hfree hvalid =>
      have hother : txn.tokenId ≠ token := by
        rintro rfl
        rw [hlast] at hfree
        cases hfree
      exact absurd (find?_insert_of_ne ledger hother ▸ hlast) hchanged
  | transfer txn spent hspent hvalid hchild =>
      by_cases hnamed : txn.tokenId = token
      · subst hnamed
        obtain rfl : last = spent := Option.some.inj (hlast.symm.trans hspent)
        have hsender := (Transaction.classify_eq_child_iff.mp hchild).2
        rw [← hsender]
        exact .transfer txn rfl rfl hvalid
      · exact absurd (find?_insert_of_ne ledger hnamed ▸ hlast) hchanged
  | withdraw withdrawn spent hspent =>
      by_cases hnamed : withdrawn = token
      · subst hnamed
        obtain rfl : last = spent := Option.some.inj (hlast.symm.trans hspent)
        exact .withdraw
      · exact absurd (find?_erase_of_ne ledger hnamed ▸ hlast) hchanged

/-- A call that changes the entry of an owned token is accepted, and moves it on the owner's
behalf. -/
theorem step_moved_by_owner (hlast : ledger.find? token = some last)
    (hchanged : (ledger.step scheme call).1.find? token ≠ some last) :
    (∃ receipt, (ledger.step scheme call).2 = .ok receipt) ∧
      MovesToken scheme token last.receiver call := by
  rcases step_cases scheme ledger call with ⟨after, receipt, h, hstep⟩ | ⟨cause, hstep⟩
  · rw [hstep] at hchanged ⊢
    exact ⟨⟨receipt, rfl⟩, h.moved_by_owner hlast hchanged⟩
  · rw [hstep] at hchanged
    exact absurd hlast hchanged

/-- A transaction that an accepted call puts into the ledger is handed in by the call. -/
theorem Accepts.brings (h : Accepts scheme ledger call after receipt)
    (hnew : ledger.find? token ≠ some txn) (hstored : after.find? token = some txn) :
    Brings txn call := by
  cases h with
  | seed genesis hvalid hnodup hfree =>
      rw [find?_foldl_insert hnodup] at hstored
      rcases Option.or_eq_some_iff.mp hstored with hfound | ⟨_, hfound⟩
      · exact .seed genesis (List.mem_of_find?_eq_some hfound)
      · exact absurd hfound hnew
  | deposit other hfree hvalid =>
      rw [find?_insert] at hstored
      split_ifs at hstored
      · cases hstored
        exact .deposit
      · exact absurd hstored hnew
  | transfer other spent hspent hvalid hchild =>
      rw [find?_insert] at hstored
      split_ifs at hstored
      · cases hstored
        exact .transfer
      · exact absurd hstored hnew
  | withdraw withdrawn spent hspent =>
      rw [find?_erase] at hstored
      split_ifs at hstored
      exact absurd hstored hnew

/-- A call that puts a transaction into the ledger is accepted, and hands the transaction in. -/
theorem step_brings (hnew : ledger.find? token ≠ some txn)
    (hstored : (ledger.step scheme call).1.find? token = some txn) :
    (∃ receipt, (ledger.step scheme call).2 = .ok receipt) ∧ Brings txn call := by
  rcases step_cases scheme ledger call with ⟨after, receipt, h, hstep⟩ | ⟨cause, hstep⟩
  · rw [hstep] at hstored ⊢
    exact ⟨⟨receipt, rfl⟩, h.brings hnew hstored⟩
  · rw [hstep] at hstored
    exact absurd hstored hnew

/-! ### Runs -/

/-- While no call on the token by its owner is accepted, its entry stays. -/
theorem find?_run_of_not_accepted (calls : List Call) (hlast : ledger.find? token = some last)
    (hrefused : ∀ answer ∈ calls.zip (ledger.run scheme calls).2,
      answer.1.caller? = some last.receiver → answer.1.token? = some token →
      ∃ cause, answer.2 = .error cause) :
    (ledger.run scheme calls).1.find? token = some last := by
  induction calls generalizing ledger with
  | nil => exact hlast
  | cons call rest ih =>
      rw [run_cons, List.zip_cons_cons, List.forall_mem_cons] at hrefused
      obtain ⟨hcall, hrest⟩ := hrefused
      show ((ledger.step scheme call).1.run scheme rest).1.find? token = some last
      refine ih ?_ hrest
      -- Only an accepted call of the owner could change the entry.
      by_contra hchanged
      obtain ⟨⟨receipt, hreceipt⟩, hmoves⟩ := step_moved_by_owner hlast hchanged
      obtain ⟨hcaller, htoken⟩ := hmoves.caller?_token?
      obtain ⟨cause, hcause⟩ := hcall hcaller htoken
      rw [hreceipt] at hcause
      cases hcause

/-- A transaction in the ledger after a run was there before, or an accepted call handed it in. -/
theorem brought_of_run (calls : List Call)
    (hstored : (ledger.run scheme calls).1.find? token = some txn) :
    ledger.find? token = some txn ∨
      ∃ answer ∈ calls.zip (ledger.run scheme calls).2,
        (∃ receipt, answer.2 = .ok receipt) ∧ Brings txn answer.1 := by
  induction calls generalizing ledger with
  | nil => exact .inl hstored
  | cons call rest ih =>
      rw [run_cons] at hstored ⊢
      rw [List.zip_cons_cons]
      rcases ih hstored with hstored | ⟨answer, hanswer, hbrings⟩
      · by_cases hold : ledger.find? token = some txn
        · exact .inl hold
        · exact .inr ⟨_, List.mem_cons_self, step_brings hold hstored⟩
      · exact .inr ⟨answer, List.mem_cons_of_mem _ hanswer, hbrings⟩

/-- An owned token leaves its owner, or changes its transaction, only by an accepted call that its
owner makes to withdraw it or to hand it on. Until such a call is accepted, nothing that is
submitted changes its entry. Every transaction in the ledger came by an accepted genesis list or
by an accepted call of its sender. -/
theorem owner_moves_token (scheme : Scheme) (ledger : Ledger) (token : TokenId) :
    (∀ last, ledger.find? token = some last →
      (∀ call, (ledger.step scheme call).1.find? token ≠ some last →
        (∃ receipt, (ledger.step scheme call).2 = .ok receipt) ∧
          MovesToken scheme token last.receiver call) ∧
      ∀ calls : List Call,
        (∀ answer ∈ calls.zip (ledger.run scheme calls).2,
          answer.1.caller? = some last.receiver → answer.1.token? = some token →
          ∃ cause, answer.2 = .error cause) →
        (ledger.run scheme calls).1.find? token = some last) ∧
    ∀ (calls : List Call) (txn : Transaction),
      (ledger.run scheme calls).1.find? token = some txn →
      ledger.find? token = some txn ∨
        ∃ answer ∈ calls.zip (ledger.run scheme calls).2,
          (∃ receipt, answer.2 = .ok receipt) ∧ Brings txn answer.1 := by
  constructor
  · intro last hlast
    constructor
    · intro call hchanged
      exact step_moved_by_owner hlast hchanged
    · intro calls hrefused
      exact find?_run_of_not_accepted calls hlast hrefused
  · intro calls txn hstored
    exact brought_of_run calls hstored

end Custody.Ledger

namespace Custody.Sample

open Ledger (Call)

/-- A ledger on which the first account owns the token. -/
def owned : Ledger := Ledger.empty.insert (hand 7 1 1)

/-- What others may try with the token, and a transfer by the owner to itself. -/
def attempts : List Call :=
  [.transfer (account 2) (hand 7 1 2), .transfer (account 2) (hand 7 2 3),
    .withdraw (account 2) (.ofNat 7), .deposit (account 3) (hand 7 3 3), .seed [hand 7 3 3],
    .transfer (account 1) (hand 7 1 1)]

/-- Why each of the attempts is refused. -/
def refusals : List Ledger.Rejection :=
  [.notSigner .transfer (account 2), .senderNotOwner (account 2) (.ofNat 7),
    .callerNotOwner (account 2) (.ofNat 7), .alreadyDeposited (.ofNat 7),
    .repeatedInGenesis (.ofNat 7), .senderNotOwner (account 1) (.ofNat 7)]

end Custody.Sample

namespace Custody.Ledger

/-- The token stays where it is through the attempts of others, until its owner hands it on. -/
theorem owner_moves_token_of_attempts :
    let before := Sample.owned
    let handOn := Call.transfer (Sample.account 1) (Sample.hand 7 1 2)
    before.find? (.ofNat 7) = some (Sample.hand 7 1 1) ∧
      (before.run Sample.scheme Sample.attempts).2 = Sample.refusals.map .error ∧
      (before.run Sample.scheme Sample.attempts).1.find? (.ofNat 7) =
        some (Sample.hand 7 1 1) ∧
      (before.step Sample.scheme handOn).1.find? (.ofNat 7) = some (Sample.hand 7 1 2) ∧
      MovesToken Sample.scheme (.ofNat 7) (Sample.account 1) handOn ∧
      ∃ answer ∈ [handOn].zip (before.run Sample.scheme [handOn]).2,
        (∃ receipt, answer.2 = .ok receipt) ∧ Brings (Sample.hand 7 1 2) answer.1 := by
  intro before handOn
  obtain ⟨howned, hstored⟩ := owner_moves_token Sample.scheme Sample.owned (.ofNat 7)
  have hlast : before.find? (.ofNat 7) = some (Sample.hand 7 1 1) := by decide
  obtain ⟨hmoves, hkept⟩ := howned (Sample.hand 7 1 1) hlast
  have hrefused : (before.run Sample.scheme Sample.attempts).2 = Sample.refusals.map .error := rfl
  have hafter : (before.step Sample.scheme handOn).1.find? (.ofNat 7) =
      some (Sample.hand 7 1 2) := by decide
  have hnew : before.find? (.ofNat 7) ≠ some (Sample.hand 7 1 2) := by decide
  refine ⟨hlast, hrefused, hkept Sample.attempts ?_, hafter, ?_, ?_⟩
  · intro answer hanswer _ _
    rw [hrefused] at hanswer
    obtain ⟨cause, _, hcause⟩ := List.mem_map.mp (List.of_mem_zip hanswer).2
    exact ⟨cause, hcause.symm⟩
  · refine (hmoves handOn ?_).2
    rw [hafter]
    decide
  · exact (hstored [handOn] (Sample.hand 7 1 2) hafter).resolve_left hnew

end Custody.Ledger
