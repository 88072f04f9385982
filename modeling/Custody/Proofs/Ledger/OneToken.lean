import Custody.Proofs.Ledger.Acceptance

/-!
# One token on its own

A deposit, a transfer or a withdrawal names one token. `OneToken.step` is the
machine of that token alone: it is absent or owned, a call has a list of checks,
and the first check that fails gives the code of the refusal. The main theorem,
`run_eq_oneToken`, says that the ledger is such a machine for every token, side
by side: a run answers the calls on a token as the machine does on those calls
alone. The order in which calls on different tokens come therefore plays no part.
-/

namespace Custody

open Ledger (Call Change Effect Receipt Rejection)

/-- A call that names one token. -/
inductive TokenCall where
  | deposit (caller : AccountId) (txn : Transaction)
  | transfer (caller : AccountId) (txn : Transaction)
  | withdraw (caller : AccountId) (token : TokenId)
  deriving DecidableEq, Repr

namespace TokenCall

/-- The call as one of the ledger's calls. -/
def toCall : TokenCall → Call
  | deposit caller txn => .deposit caller txn
  | transfer caller txn => .transfer caller txn
  | withdraw caller token => .withdraw caller token

/-- The token that the call names. -/
def token : TokenCall → TokenId
  | deposit _ txn | transfer _ txn => txn.tokenId
  | withdraw _ token => token

/-- The account that makes the call. -/
def caller : TokenCall → AccountId
  | deposit caller _ | transfer caller _ | withdraw caller _ => caller

/-- The kind of change that the call makes. -/
def change : TokenCall → Change
  | deposit .. => .deposited
  | transfer .. => .transferred
  | withdraw .. => .withdrawn

/-- The entry of the token after the call, if it is accepted. -/
def entry : TokenCall → Option Transaction
  | deposit _ txn | transfer _ txn => some txn
  | withdraw .. => none

end TokenCall

namespace OneToken

/-- A check of a call: whether it passes, and the code of the refusal if it does not. -/
structure Check where
  passes : Bool
  code : ErrorCode

/-- The code of the first check that fails. -/
def firstFailure? (checks : List Check) : Option ErrorCode :=
  (checks.find? fun check => !check.passes).map (·.code)

@[simp] theorem firstFailure?_nil : firstFailure? [] = none := rfl

@[simp] theorem firstFailure?_cons (check : Check) (rest : List Check) :
    firstFailure? (check :: rest) =
      if check.passes then firstFailure? rest else some check.code := by
  cases h : check.passes <;> simp [firstFailure?, h]

/-- The checks of a call on a token with this entry, in their order. -/
def checks (scheme : Scheme) (entry : Option Transaction) : TokenCall → List Check
  | .deposit caller txn =>
    [⟨entry.isNone, .tokenAlreadyExists⟩,
      ⟨txn.valid scheme, .invalidSignature⟩,
      ⟨caller = txn.sender, .signerMismatch⟩]
  | .transfer caller txn =>
    [⟨entry.isSome, .tokenDoesNotExist⟩,
      ⟨txn.valid scheme, .invalidSignature⟩,
      ⟨caller = txn.sender, .signerMismatch⟩,
      ⟨entry.any fun last => txn.classify last = .child, .notCurrentOwner⟩]
  | .withdraw caller _ =>
    [⟨entry.isSome, .tokenDoesNotExist⟩,
      ⟨entry.any fun last => caller = last.receiver, .notCurrentOwner⟩]

/-- What an accepted call on a token with this entry changes. The caller stands in for the owner
where the token has none: it is the giver of a deposit and the taker of a withdrawal. -/
def effect (entry : Option Transaction) (call : TokenCall) : Effect where
  change := call.change
  token := call.token
  giver := (entry.map (·.receiver)).getD call.caller
  taker := (call.entry.map (·.receiver)).getD call.caller
  leaf := (call.entry.map (·.leaf)).getD emptyLeaf

/-- The entry of the token after a call, and the result. -/
def step (scheme : Scheme) (entry : Option Transaction) (call : TokenCall) :
    Option Transaction × Except ErrorCode Effect :=
  match firstFailure? (checks scheme entry call) with
  | some code => (entry, .error code)
  | none => (call.entry, .ok (effect entry call))

/-- The entry of the token after a sequence of calls, and the result of each. -/
def run (scheme : Scheme) (entry : Option Transaction) :
    List TokenCall → Option Transaction × List (Except ErrorCode Effect)
  | [] => (entry, [])
  | call :: rest =>
    let (next, result) := step scheme entry call
    let (last, results) := run scheme next rest
    (last, result :: results)

end OneToken

variable (scheme : Scheme) (ledger : Ledger) {token : TokenId}

/-! ### A call reads and writes one entry -/

/-- A call leaves the other tokens alone. -/
theorem TokenCall.find?_step_of_ne (call : TokenCall) (hother : call.token ≠ token) :
    (ledger.step scheme call.toCall).1.find? token = ledger.find? token := by
  apply Ledger.find?_step_of_not_names
  cases call <;> simpa [toCall, Call.names, TokenCall.token] using hother

/-- On two ledgers with the same entry for its token, a call has the same result and leaves the
same entry. -/
theorem TokenCall.step_local {a b : Ledger} (call : TokenCall)
    (h : a.find? call.token = b.find? call.token) :
    (a.step scheme call.toCall).2 = (b.step scheme call.toCall).2 ∧
      (a.step scheme call.toCall).1.find? call.token =
        (b.step scheme call.toCall).1.find? call.token := by
  cases call with
  | deposit caller txn =>
      simp only [toCall, token, Ledger.step_deposit] at h ⊢
      rw [h]
      split_ifs <;> simp [h]
  | transfer caller txn =>
      simp only [toCall, token, Ledger.step_transfer] at h ⊢
      rw [h]
      cases hlast : b.find? txn.tokenId with
      | none => simp [h, hlast]
      | some last =>
          dsimp only
          split_ifs <;> simp [h]
  | withdraw caller token =>
      simp only [toCall, TokenCall.token, Ledger.step_withdraw] at h ⊢
      rw [h]
      cases hlast : b.find? token with
      | none => simp [h, hlast]
      | some last =>
          dsimp only
          split_ifs <;> simp [h]

/-- The ledger makes the step of the machine of the token that the call names. -/
theorem TokenCall.step_eq_oneToken (call : TokenCall) :
    (ledger.step scheme call.toCall).1.find? call.token =
        (OneToken.step scheme (ledger.find? call.token) call).1 ∧
      (ledger.step scheme call.toCall).2.mapError Rejection.code =
        (OneToken.step scheme (ledger.find? call.token) call).2.map Receipt.changed := by
  cases call with
  | deposit caller txn =>
      simp only [toCall, token, Ledger.step_deposit, OneToken.step, OneToken.checks]
      cases hfound : ledger.find? txn.tokenId with
      | some last => simp [hfound, Except.mapError, Except.map, Rejection.code]
      | none =>
          by_cases hvalid : txn.valid scheme
          · by_cases hcaller : caller = txn.sender
            · simp [hvalid, hcaller, Except.mapError, Except.map, entry, OneToken.effect, change,
                token, TokenCall.caller]
            · simp [hfound, hvalid, hcaller, Except.mapError, Except.map, Rejection.code]
          · simp [hfound, hvalid, Except.mapError, Except.map, Rejection.code]
  | transfer caller txn =>
      simp only [toCall, token, Ledger.step_transfer, OneToken.step, OneToken.checks]
      cases hfound : ledger.find? txn.tokenId with
      | none => simp [hfound, Except.mapError, Except.map, Rejection.code]
      | some last =>
          by_cases hvalid : txn.valid scheme
          · by_cases hcaller : caller = txn.sender
            · by_cases hchild : txn.classify last = .child
              · simp [hvalid, hcaller, hchild, Except.mapError, Except.map, entry, OneToken.effect,
                  change, token]
              · simp [hfound, hvalid, hcaller, hchild, Except.mapError, Except.map, Rejection.code]
            · simp [hfound, hvalid, hcaller, Except.mapError, Except.map, Rejection.code]
          · simp [hfound, hvalid, Except.mapError, Except.map, Rejection.code]
  | withdraw caller token =>
      simp only [toCall, TokenCall.token, Ledger.step_withdraw, OneToken.step, OneToken.checks]
      cases hfound : ledger.find? token with
      | none => simp [hfound, Except.mapError, Except.map, Rejection.code]
      | some last =>
          by_cases hcaller : caller = last.receiver
          · simp [hcaller, Except.mapError, Except.map, entry, OneToken.effect, change,
              TokenCall.token, TokenCall.caller]
          · simp [hfound, hcaller, Except.mapError, Except.map, Rejection.code]

/-! ### Runs -/

/-- The calls that name the token, in their order. -/
def callsOn (token : TokenId) (calls : List TokenCall) : List TokenCall :=
  calls.filter (·.token = token)

/-- The calls that name the token, each with its result, in their order. -/
def answersOn {α : Type} (token : TokenId) (calls : List TokenCall) (results : List α) :
    List (TokenCall × α) :=
  (calls.zip results).filter (·.1.token = token)

/-- The calls on a token are answered as they are on a ledger with the same entry for it that
serves no other calls. -/
theorem run_eq_run_callsOn {a b : Ledger} (calls : List TokenCall)
    (h : a.find? token = b.find? token) :
    answersOn token calls (a.run scheme (calls.map TokenCall.toCall)).2 =
        (callsOn token calls).zip (b.run scheme ((callsOn token calls).map TokenCall.toCall)).2 ∧
      (a.run scheme (calls.map TokenCall.toCall)).1.find? token =
        (b.run scheme ((callsOn token calls).map TokenCall.toCall)).1.find? token := by
  induction calls generalizing a b with
  | nil => exact ⟨rfl, h⟩
  | cons call rest ih =>
      by_cases hcall : call.token = token
      · -- Both ledgers serve the call, and agree on its token again.
        subst hcall
        obtain ⟨hresult, hentry⟩ := call.step_local scheme h
        obtain ⟨hanswers, hlast⟩ := ih hentry
        have hcalls : callsOn call.token (call :: rest) = call :: callsOn call.token rest := by
          simp [callsOn]
        rw [hcalls, List.map_cons, List.map_cons, Ledger.run_cons, Ledger.run_cons]
        refine ⟨?_, hlast⟩
        rw [List.zip_cons_cons, ← hanswers, ← hresult]
        simp [answersOn]
      · -- Only the first ledger serves the call, and its entry for the token stays.
        have hentry := (call.find?_step_of_ne scheme a hcall).trans h
        obtain ⟨hanswers, hlast⟩ := ih hentry
        have hcalls : callsOn token (call :: rest) = callsOn token rest := by
          simp [callsOn, hcall]
        rw [hcalls, List.map_cons, Ledger.run_cons]
        refine ⟨?_, hlast⟩
        rw [← hanswers]
        simp [answersOn, hcall]

/-- What is said of results alone does not see the calls that they are paired with. -/
theorem map_snd_comp_zip {α β γ : Type} (f : β → γ) {calls : List α} {results : List β}
    (hlength : results.length ≤ calls.length) :
    (calls.zip results).map (fun answer => f answer.2) = results.map f := by
  calc (calls.zip results).map (fun answer => f answer.2)
      = ((calls.zip results).map Prod.snd).map f := by rw [List.map_map]; rfl
    _ = results.map f := by rw [List.map_snd_zip hlength]

/-- On calls that all name one token, the ledger runs as the machine of that token. -/
theorem run_callsOn_eq_oneToken (calls : List TokenCall)
    (hcalls : ∀ call ∈ calls, call.token = token) :
    (ledger.run scheme (calls.map TokenCall.toCall)).1.find? token =
        (OneToken.run scheme (ledger.find? token) calls).1 ∧
      (ledger.run scheme (calls.map TokenCall.toCall)).2.map (·.mapError Rejection.code) =
        (OneToken.run scheme (ledger.find? token) calls).2.map (·.map Receipt.changed) := by
  induction calls generalizing ledger with
  | nil => exact ⟨rfl, rfl⟩
  | cons call rest ih =>
      rw [List.forall_mem_cons] at hcalls
      obtain ⟨rfl, hrest⟩ := hcalls
      obtain ⟨hentry, hresult⟩ := call.step_eq_oneToken scheme ledger
      obtain ⟨hlast, hresults⟩ := ih (ledger.step scheme call.toCall).1 hrest
      rw [List.map_cons, Ledger.run_cons, OneToken.run]
      rw [hentry] at hlast hresults
      refine ⟨hlast, ?_⟩
      rw [List.map_cons, List.map_cons, hresult, hresults]

/-- The ledger is one machine for every token, side by side. A run answers the calls on a token
with the effects and the codes, and leaves the entry, of the machine of that token run on those
calls alone. So a rearrangement that keeps, for every token, the calls on it in their order gives
every call the same result and leaves the same ledger. -/
theorem run_eq_oneToken (scheme : Scheme) (ledger : Ledger) (calls : List TokenCall) :
    (∀ token,
      (answersOn token calls (ledger.run scheme (calls.map TokenCall.toCall)).2).map
          (·.2.mapError Rejection.code) =
        (OneToken.run scheme (ledger.find? token) (callsOn token calls)).2.map
          (·.map Receipt.changed) ∧
      (ledger.run scheme (calls.map TokenCall.toCall)).1.find? token =
        (OneToken.run scheme (ledger.find? token) (callsOn token calls)).1) ∧
    ∀ moved : List TokenCall, (∀ token, callsOn token moved = callsOn token calls) →
      (ledger.run scheme (moved.map TokenCall.toCall)).1 =
        (ledger.run scheme (calls.map TokenCall.toCall)).1 ∧
      ∀ token, answersOn token moved (ledger.run scheme (moved.map TokenCall.toCall)).2 =
        answersOn token calls (ledger.run scheme (calls.map TokenCall.toCall)).2 := by
  refine ⟨fun token => ?_, fun moved hmoved => ⟨?_, fun token => ?_⟩⟩
  · obtain ⟨hanswers, hlast⟩ :=
      run_eq_run_callsOn scheme calls (Eq.refl (ledger.find? token))
    have hcalls : ∀ call ∈ callsOn token calls, call.token = token := by
      intro call hcall
      simpa using (List.mem_filter.mp hcall).2
    obtain ⟨hentry, hresults⟩ := run_callsOn_eq_oneToken scheme ledger _ hcalls
    refine ⟨?_, hlast.trans hentry⟩
    rw [← hresults, hanswers]
    exact map_snd_comp_zip _ (by simp)
  · apply Ledger.ext_find?
    intro token
    obtain ⟨_, hlast⟩ := run_eq_run_callsOn scheme calls (Eq.refl (ledger.find? token))
    obtain ⟨_, hmovedLast⟩ := run_eq_run_callsOn scheme moved (Eq.refl (ledger.find? token))
    rw [hmovedLast, hmoved token, hlast]
  · obtain ⟨hanswers, _⟩ := run_eq_run_callsOn scheme calls (Eq.refl (ledger.find? token))
    obtain ⟨hmovedAnswers, _⟩ := run_eq_run_callsOn scheme moved (Eq.refl (ledger.find? token))
    rw [hmovedAnswers, hmoved token, hanswers]

namespace Sample

/-- Calls on two tokens in turn. The last call is by an owner who has given the token away. -/
def interleaved : List TokenCall :=
  [.deposit (account 1) (hand 7 1 1), .deposit (account 2) (hand 8 2 2),
    .transfer (account 1) (hand 7 1 2), .withdraw (account 2) (.ofNat 8),
    .transfer (account 1) (hand 7 1 3)]

/-- The same calls, those on the second token first. -/
def grouped : List TokenCall :=
  [.deposit (account 2) (hand 8 2 2), .withdraw (account 2) (.ofNat 8),
    .deposit (account 1) (hand 7 1 1), .transfer (account 1) (hand 7 1 2),
    .transfer (account 1) (hand 7 1 3)]

theorem callsOn_grouped (token : TokenId) :
    callsOn token grouped = callsOn token interleaved := by
  by_cases hseven : Word256.ofNat 7 = token
  · subst hseven
    decide
  · by_cases height : Word256.ofNat 8 = token
    · subst height
      decide
    · simp [callsOn, grouped, interleaved, hand, TokenCall.token, hseven, height]

end Sample

/-- Calls on two tokens have the same results in turn and one token after the other. -/
theorem grouped_run_eq_interleaved :
    (∀ token, callsOn token Sample.grouped = callsOn token Sample.interleaved) ∧
      (Ledger.empty.run Sample.scheme (Sample.grouped.map TokenCall.toCall)).1 =
        (Ledger.empty.run Sample.scheme (Sample.interleaved.map TokenCall.toCall)).1 ∧
      (Ledger.empty.run Sample.scheme (Sample.grouped.map TokenCall.toCall)).1.find? (.ofNat 7) =
        some (Sample.hand 7 1 2) ∧
      ((answersOn (.ofNat 7) Sample.grouped
        (Ledger.empty.run Sample.scheme (Sample.grouped.map TokenCall.toCall)).2).map
          (·.2.mapError Rejection.code)).getLast? = some (.error .notCurrentOwner) := by
  obtain ⟨hmachine, hmoved⟩ := run_eq_oneToken Sample.scheme .empty Sample.interleaved
  obtain ⟨hledger, hanswers⟩ := hmoved Sample.grouped Sample.callsOn_grouped
  refine ⟨Sample.callsOn_grouped, hledger, ?_, ?_⟩
  · rw [hledger]
    decide
  · rw [hanswers, (hmachine _).1]
    rfl

end Custody
