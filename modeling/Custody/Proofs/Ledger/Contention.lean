import Custody.Proofs.Ledger.OneToken
import Custody.Proofs.Ledger.Ownership

/-!
# Competing spends of a token

An owner can sign several spends of one token, each of which the ledger would
accept. `first_spend_wins` says what happens when they are all submitted, in any
order and among any calls on other tokens: the first is accepted, and its entry
stays, because the owner no longer owns what the others spend. A spend that comes
after a withdrawal finds the token absent, and one that comes after a transfer
finds another owner.
-/

namespace Custody.Ledger

/-- `Spends token owner call` says that the owner withdraws the token or hands it to another
account. -/
inductive Spends (token : TokenId) (owner : AccountId) : Call → Prop where
  | withdraw : Spends token owner (.withdraw owner token)
  | transfer (txn : Transaction) :
      txn.tokenId = token →
      txn.receiver ≠ owner →
      Spends token owner (.transfer owner txn)

/-- The call spends the token and would be accepted if it came next, so it comes from the account
that owns the token. -/
structure CanSpend (scheme : Scheme) (ledger : Ledger) (token : TokenId) (owner : AccountId)
    (call : Call) : Prop where
  spends : Spends token owner call
  accepted : ∃ receipt, (ledger.step scheme call).2 = .ok receipt

/-- The code under which the former owner of a token is refused once the call has spent it. -/
def Call.spentCode : Call → ErrorCode
  | .withdraw .. => .tokenDoesNotExist
  | _ => .notCurrentOwner

/-- The calls that name the token, each with its result, in their order. -/
def answersNaming {α : Type} (token : TokenId) (calls : List Call) (results : List α) :
    List (Call × α) :=
  (calls.zip results).filter (·.1.names token)

theorem answersNaming_cons {α : Type} (token : TokenId) (call : Call) (rest : List Call)
    (result : α) (results : List α) :
    answersNaming token (call :: rest) (result :: results) =
      if call.names token then (call, result) :: answersNaming token rest results
      else answersNaming token rest results := by
  simp only [answersNaming, List.zip_cons_cons, List.filter_cons]

/-- No call that names the token is without an answer. -/
theorem map_fst_answersNaming {α : Type} (token : TokenId) {calls : List Call} {results : List α}
    (hlength : results.length = calls.length) :
    (answersNaming token calls results).map Prod.fst = calls.filter (·.names token) := by
  calc (answersNaming token calls results).map Prod.fst
      = ((calls.zip results).map Prod.fst).filter (·.names token) := by
        rw [List.filter_map]
        rfl
    _ = calls.filter (·.names token) := by
        rw [List.map_fst_zip (Nat.le_of_eq hlength.symm)]

variable {scheme : Scheme} {ledger : Ledger} {token : TokenId} {owner : AccountId}
  {first call : Call} {last : Transaction}

/-! ### One call -/

/-- On two ledgers with the same entry for the token that a call names, the call has the same
result and leaves the same entry. -/
theorem step_local (scheme : Scheme) {a b : Ledger} (hcall : call.token? = some token)
    (h : a.find? token = b.find? token) :
    (a.step scheme call).2 = (b.step scheme call).2 ∧
      (a.step scheme call).1.find? token = (b.step scheme call).1.find? token := by
  cases call with
  | seed genesis => cases hcall
  | deposit caller txn =>
      cases hcall
      exact (TokenCall.deposit caller txn).step_local scheme h
  | transfer caller txn =>
      cases hcall
      exact (TokenCall.transfer caller txn).step_local scheme h
  | withdraw caller token =>
      cases hcall
      exact (TokenCall.withdraw caller token).step_local scheme h

/-- On an absent token a call that would move it finds nothing. -/
theorem MovesToken.step_of_absent (h : MovesToken scheme token owner call)
    (habsent : ledger.find? token = none) :
    ledger.step scheme call = (ledger, .error (.notDeposited token)) := by
  cases h with
  | withdraw => rw [step_withdraw, habsent]
  | transfer txn htoken hsender hvalid =>
      subst htoken
      rw [step_transfer, habsent]

/-- On a token of someone else a call that would move it for the owner is refused. -/
theorem MovesToken.step_of_other_owner (h : MovesToken scheme token owner call)
    (hlast : ledger.find? token = some last) (hother : last.receiver ≠ owner) :
    ∃ cause, ledger.step scheme call = (ledger, .error cause) ∧ cause.code = .notCurrentOwner := by
  cases h with
  | withdraw =>
      refine ⟨.callerNotOwner owner token, ?_, rfl⟩
      rw [step_withdraw, hlast]
      exact if_pos hother.symm
  | transfer txn htoken hsender hvalid =>
      subst htoken hsender
      have hstranger : txn.classify last ≠ .child := by
        intro hchild
        exact hother (Transaction.classify_eq_child_iff.mp hchild).2.symm
      refine ⟨.senderNotOwner txn.sender txn.tokenId, ?_, rfl⟩
      rw [step_transfer, hlast]
      simp [hvalid, hstranger]

/-- A spend that the ledger accepts is signed by the owner. -/
theorem CanSpend.movesToken (h : CanSpend scheme ledger token owner call) :
    MovesToken scheme token owner call := by
  obtain ⟨hspends, receipt, hreceipt⟩ := h
  obtain ⟨after, _, haccepts⟩ := accepts_of_step_ok hreceipt
  cases hspends with
  | withdraw => exact .withdraw
  | transfer txn htoken hother =>
      cases haccepts with
      | transfer _ last hlast hvalid hchild => exact .transfer txn htoken rfl hvalid

/-- Wherever one spend has left its entry, every other one is refused. -/
theorem CanSpend.refused_after (hfirst : CanSpend scheme ledger token owner first)
    (h : CanSpend scheme ledger token owner call) {later : Ledger}
    (hentry : later.find? token = (ledger.step scheme first).1.find? token) :
    ∃ cause, later.step scheme call = (later, .error cause) ∧ cause.code = first.spentCode := by
  obtain ⟨hspends, receipt, hreceipt⟩ := hfirst
  obtain ⟨after, hstep, haccepts⟩ := accepts_of_step_ok hreceipt
  rw [hstep] at hentry
  cases hspends with
  | withdraw =>
      cases haccepts with
      | withdraw _ last hlast =>
          rw [find?_erase_self] at hentry
          exact ⟨_, h.movesToken.step_of_absent hentry, rfl⟩
  | transfer txn htoken hother =>
      cases haccepts with
      | transfer _ last hlast hvalid hchild =>
          rw [find?_insert, if_pos htoken] at hentry
          exact h.movesToken.step_of_other_owner hentry hother

/-! ### Runs -/

/-- While the token has an entry on which every call that names it is refused, the entry stays. -/
theorem run_of_refused {entry : Option Transaction} {code : ErrorCode} (calls : List Call)
    (hentry : ledger.find? token = entry)
    (hrefused : ∀ call ∈ calls, call.names token → ∀ later : Ledger, later.find? token = entry →
      ∃ cause, later.step scheme call = (later, .error cause) ∧ cause.code = code) :
    (∀ answer ∈ answersNaming token calls (ledger.run scheme calls).2,
      ∃ cause, answer.2 = .error cause ∧ cause.code = code) ∧
    (ledger.run scheme calls).1.find? token = entry := by
  induction calls generalizing ledger with
  | nil => exact ⟨by simp [answersNaming], hentry⟩
  | cons call rest ih =>
      rw [List.forall_mem_cons] at hrefused
      obtain ⟨hcall, hrest⟩ := hrefused
      rw [run_cons, answersNaming_cons]
      by_cases hnames : call.names token
      · obtain ⟨cause, hstep, hcode⟩ := hcall hnames ledger hentry
        rw [if_pos hnames, hstep, List.forall_mem_cons]
        obtain ⟨hanswers, hlast⟩ := ih hentry hrest
        exact ⟨⟨⟨cause, rfl, hcode⟩, hanswers⟩, hlast⟩
      · rw [if_neg hnames]
        exact ih ((find?_step_of_not_names scheme ledger hnames).trans hentry) hrest

/-- Of the spends in a run that starts from the entry they all spend, the first is accepted, the
others are refused, and the entry that the first leaves is the last. -/
theorem run_of_canSpend {current : Ledger} (calls : List Call)
    (hentry : current.find? token = ledger.find? token)
    (hcalls : ∀ call ∈ calls, call.names token → CanSpend scheme ledger token owner call)
    (hsome : ∃ call ∈ calls, call.names token) :
    ∃ first receipt others,
      answersNaming token calls (current.run scheme calls).2 = (first, .ok receipt) :: others ∧
      (ledger.step scheme first).2 = .ok receipt ∧
      (∀ answer ∈ others, ∃ cause, answer.2 = .error cause ∧ cause.code = first.spentCode) ∧
      (current.run scheme calls).1.find? token = (ledger.step scheme first).1.find? token := by
  induction calls generalizing current with
  | nil =>
      obtain ⟨_, hmem, _⟩ := hsome
      cases hmem
  | cons call rest ih =>
      rw [List.forall_mem_cons] at hcalls
      obtain ⟨hcall, hrest⟩ := hcalls
      rw [run_cons, answersNaming_cons]
      by_cases hnames : call.names token
      · -- The call is the first spend, and has the result and the entry that it has alone.
        have hfirst := hcall hnames
        obtain ⟨receipt, hreceipt⟩ := hfirst.accepted
        obtain ⟨hresult, hleft⟩ := step_local scheme hfirst.movesToken.caller?_token?.2 hentry
        have hrefused : ∀ other ∈ rest, other.names token → ∀ later : Ledger,
            later.find? token = (ledger.step scheme call).1.find? token →
            ∃ cause, later.step scheme other = (later, .error cause) ∧
              cause.code = call.spentCode := by
          intro other hother hspend later hlater
          exact hfirst.refused_after (hrest other hother hspend) hlater
        obtain ⟨hothers, hlast⟩ := run_of_refused rest hleft hrefused
        rw [if_pos hnames, hresult, hreceipt]
        exact ⟨call, receipt, _, rfl, hreceipt, hothers, hlast⟩
      · rw [if_neg hnames]
        refine ih ((find?_step_of_not_names scheme current hnames).trans hentry) hrest ?_
        obtain ⟨other, hother, hspend⟩ := hsome
        rcases List.mem_cons.mp hother with rfl | hother
        · exact absurd hspend hnames
        · exact ⟨other, hother, hspend⟩

/-- Of competing spends of a token, each of which the ledger would accept from its owner, the first
that is submitted is accepted and the others are refused: the token is absent after a withdrawal,
and has another owner after a transfer. What the first spend makes of the token is final. Neither
the order of the spends nor what is submitted for other tokens in between changes this. -/
theorem first_spend_wins (scheme : Scheme) (ledger : Ledger) (token : TokenId) (owner : AccountId)
    (spends : List Call) (hne : spends ≠ [])
    (hspends : ∀ call ∈ spends, CanSpend scheme ledger token owner call)
    (submitted : List Call) (hsubmitted : (submitted.filter (·.names token)).Perm spends) :
    ∃ first receipt others,
      submitted.filter (·.names token) = first :: others.map Prod.fst ∧
      answersNaming token submitted (ledger.run scheme submitted).2 =
        (first, .ok receipt) :: others ∧
      (ledger.step scheme first).2 = .ok receipt ∧
      (∀ answer ∈ others, ∃ cause, answer.2 = .error cause ∧ cause.code = first.spentCode) ∧
      (ledger.run scheme submitted).1.find? token = (ledger.step scheme first).1.find? token := by
  have hcalls : ∀ call ∈ submitted, call.names token → CanSpend scheme ledger token owner call := by
    intro call hcall hnames
    apply hspends
    rw [← hsubmitted.mem_iff]
    exact List.mem_filter.mpr ⟨hcall, hnames⟩
  have hsome : ∃ call ∈ submitted, call.names token := by
    obtain ⟨call, hcall⟩ := List.exists_mem_of_ne_nil spends hne
    rw [← hsubmitted.mem_iff] at hcall
    exact ⟨call, List.mem_filter.mp hcall⟩
  obtain ⟨first, receipt, others, hanswers, hrest⟩ := run_of_canSpend submitted rfl hcalls hsome
  refine ⟨first, receipt, others, ?_, hanswers, hrest⟩
  rw [← map_fst_answersNaming token (length_run scheme ledger submitted), hanswers, List.map_cons]

end Custody.Ledger

namespace Custody.Sample

open Ledger (Call)

/-- What the owner of the token has signed for it: a withdrawal and three transfers, two of them
the same. -/
def rivals : List Call :=
  [.withdraw (account 1) (.ofNat 7), .transfer (account 1) (hand 7 1 2),
    .transfer (account 1) (hand 7 1 3), .transfer (account 1) (hand 7 1 2)]

/-- The spends in another order, among calls on other tokens. -/
def rush : List Call :=
  [.deposit (account 2) (hand 8 2 2), .transfer (account 1) (hand 7 1 2), .seed [hand 9 4 4],
    .withdraw (account 1) (.ofNat 7), .transfer (account 2) (hand 8 2 3),
    .transfer (account 1) (hand 7 1 2), .transfer (account 1) (hand 7 1 3)]

end Custody.Sample

namespace Custody.Ledger

/-- In the rush for a token the transfer that comes first wins. -/
theorem first_spend_wins_rush :
    let token := Word256.ofNat 7
    let outcome := Sample.owned.run Sample.scheme Sample.rush
    Sample.rivals ≠ [] ∧
      (∀ call ∈ Sample.rivals,
        CanSpend Sample.scheme Sample.owned token (Sample.account 1) call) ∧
      (Sample.rush.filter (·.names token)).Perm Sample.rivals ∧
      ∃ receipt others,
        answersNaming token Sample.rush outcome.2 =
          (.transfer (Sample.account 1) (Sample.hand 7 1 2), .ok receipt) :: others ∧
        (∀ answer ∈ others, ∃ cause, answer.2 = .error cause ∧ cause.code = .notCurrentOwner) ∧
        outcome.1.find? token = some (Sample.hand 7 1 2) := by
  intro token outcome
  have hne : Sample.rivals ≠ [] := by decide
  have hspends : ∀ call ∈ Sample.rivals,
      CanSpend Sample.scheme Sample.owned token (Sample.account 1) call := by
    simp only [Sample.rivals, List.forall_mem_cons]
    refine ⟨⟨.withdraw, _, rfl⟩, ⟨.transfer _ rfl (by decide), _, rfl⟩,
      ⟨.transfer _ rfl (by decide), _, rfl⟩, ⟨.transfer _ rfl (by decide), _, rfl⟩, ?_⟩
    simp
  have hperm : (Sample.rush.filter (·.names token)).Perm Sample.rivals := by decide
  obtain ⟨first, receipt, others, _, hanswers, _, hothers, hlast⟩ :=
    first_spend_wins Sample.scheme Sample.owned token (Sample.account 1) Sample.rivals hne hspends
      Sample.rush hperm
  have hfirst : (answersNaming token Sample.rush outcome.2).head?.map Prod.fst =
      some (.transfer (Sample.account 1) (Sample.hand 7 1 2)) := by decide
  rw [hanswers] at hfirst
  cases hfirst
  exact ⟨hne, hspends, hperm, receipt, others, hanswers, hothers, hlast.trans (by decide)⟩

end Custody.Ledger
