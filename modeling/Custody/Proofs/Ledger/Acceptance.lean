import Custody.Ledger.Basic
import Mathlib.Tactic.Common

/-!
# What an accepted call does

`Accepts scheme ledger call after receipt` says that the ledger accepts the call,
becomes `after` and answers `receipt`. Each constructor lists the checks of one
kind of call. `perform_eq_ok_iff` shows that `perform` accepts exactly these
calls, and `step_cases` that any other call leaves the ledger as it was. What
holds of the ledger over a run is proved from these two, one case for each
constructor.
-/

namespace Custody.Ledger

/-- The account that makes the call. A seeding is made by no account. -/
def Call.caller? : Call → Option AccountId
  | .seed _ => none
  | .deposit caller _ | .transfer caller _ | .withdraw caller _ => some caller

/-- The token that the call names. A seeding names no single token. -/
def Call.token? : Call → Option TokenId
  | .seed _ => none
  | .deposit _ txn | .transfer _ txn => some txn.tokenId
  | .withdraw _ token => some token

/-- Whether the call names the token. A seeding names the token of each of its entries. -/
def Call.names (token : TokenId) : Call → Bool
  | .seed genesis => genesis.any (·.tokenId = token)
  | .deposit _ txn | .transfer _ txn => txn.tokenId = token
  | .withdraw _ withdrawn => withdrawn = token

/-- `Accepts scheme ledger call after receipt` says that `call` is accepted on `ledger`, leaves
`after` and answers `receipt`. -/
inductive Accepts (scheme : Scheme) (ledger : Ledger) : Call → Ledger → Receipt → Prop where
  | seed (genesis : List Transaction) :
      (∀ txn ∈ genesis, txn.valid scheme) →
      (genesis.map (·.tokenId)).Nodup →
      (∀ txn ∈ genesis, ledger.find? txn.tokenId = none) →
      Accepts scheme ledger (.seed genesis) (genesis.foldl insert ledger) (.seeded genesis.length)
  | deposit (txn : Transaction) :
      ledger.find? txn.tokenId = none →
      txn.valid scheme →
      Accepts scheme ledger (.deposit txn.sender txn) (ledger.insert txn)
        (.changed ⟨.deposited, txn.tokenId, txn.sender, txn.receiver, txn.leaf⟩)
  | transfer (txn last : Transaction) :
      ledger.find? txn.tokenId = some last →
      txn.valid scheme →
      txn.classify last = .child →
      Accepts scheme ledger (.transfer txn.sender txn) (ledger.insert txn)
        (.changed ⟨.transferred, txn.tokenId, last.receiver, txn.receiver, txn.leaf⟩)
  | withdraw (token : TokenId) (last : Transaction) :
      ledger.find? token = some last →
      Accepts scheme ledger (.withdraw last.receiver token) (ledger.erase token)
        (.changed ⟨.withdrawn, token, last.receiver, last.receiver, emptyLeaf⟩)

/-- A sequence succeeds when its first part does and the rest succeeds on what that gives. -/
theorem bind_eq_ok_iff {ε α β : Type} {first : Except ε α} {rest : α → Except ε β} {value : β} :
    first >>= rest = .ok value ↔ ∃ middle, first = .ok middle ∧ rest middle = .ok value := by
  cases first with
  | error cause => simp [bind, Except.bind]
  | ok middle => simp [bind, Except.bind]

variable {scheme : Scheme} {ledger after : Ledger} {caller : AccountId} {txn : Transaction}

/-! ### What the operations check -/

theorem deposit_sound {effect : Effect}
    (h : ledger.deposit scheme caller txn = .ok (after, effect)) :
    Accepts scheme ledger (.deposit caller txn) after (.changed effect) := by
  unfold deposit at h
  split_ifs at h with hfound hvalid hcaller
  obtain rfl := not_not.mp hcaller
  cases h
  exact .deposit txn (by simpa using hfound) hvalid

theorem transfer_sound {effect : Effect}
    (h : ledger.transfer scheme caller txn = .ok (after, effect)) :
    Accepts scheme ledger (.transfer caller txn) after (.changed effect) := by
  unfold transfer at h
  cases hfound : ledger.find? txn.tokenId with
  | none =>
      rw [hfound] at h
      cases h
  | some last =>
      rw [hfound] at h
      dsimp only at h
      split_ifs at h with hvalid hcaller hchild
      obtain rfl := not_not.mp hcaller
      cases h
      exact .transfer txn last hfound hvalid (not_not.mp hchild)

theorem withdraw_sound {token : TokenId} {effect : Effect}
    (h : ledger.withdraw caller token = .ok (after, effect)) :
    Accepts scheme ledger (.withdraw caller token) after (.changed effect) := by
  unfold withdraw at h
  cases hfound : ledger.find? token with
  | none =>
      rw [hfound] at h
      cases h
  | some last =>
      rw [hfound] at h
      dsimp only at h
      split_ifs at h with hcaller
      obtain rfl := not_not.mp hcaller
      cases h
      exact .withdraw token last hfound

theorem admitEntry_eq_ok_iff :
    ledger.admitEntry scheme txn = .ok after ↔
      txn.valid scheme ∧ ledger.find? txn.tokenId = none ∧ ledger.insert txn = after := by
  unfold admitEntry
  split_ifs with hvalid hfound
  · simp [Option.isSome_iff_ne_none.mp hfound]
  · have hnone : ledger.find? txn.tokenId = none := by simpa using hfound
    simp [hvalid, hnone]
  · simp [hvalid]

/-- The tokens that a list names are free on the ledger with one more token if they are free on
the ledger and are not that token. -/
theorem forall_find?_insert_eq_none_iff {genesis : List Transaction} :
    (∀ other ∈ genesis, (ledger.insert txn).find? other.tokenId = none) ↔
      txn.tokenId ∉ genesis.map (·.tokenId) ∧
        ∀ other ∈ genesis, ledger.find? other.tokenId = none := by
  simp only [find?_insert, List.mem_map, not_exists, not_and, ← forall_and]
  refine forall₂_congr fun other hother => ?_
  by_cases hsame : txn.tokenId = other.tokenId
  · simp [hsame]
  · simp [hsame, Ne.symm hsame]

/-- A genesis list is admitted when every entry is signed by its sender and names a token that is
neither owned nor named by another entry. -/
theorem seed_eq_ok_iff {genesis : List Transaction} :
    ledger.seed scheme genesis = .ok after ↔
      (∀ txn ∈ genesis, txn.valid scheme) ∧ (genesis.map (·.tokenId)).Nodup ∧
        (∀ txn ∈ genesis, ledger.find? txn.tokenId = none) ∧
        genesis.foldl insert ledger = after := by
  induction genesis generalizing ledger with
  | nil => simp [seed, pure, Except.pure]
  | cons txn rest ih =>
      have hrest : ∀ next : Ledger,
          List.foldlM (admitEntry scheme) next rest = next.seed scheme rest := by
        intro next
        rfl
      rw [seed, List.foldlM_cons]
      simp only [bind_eq_ok_iff, admitEntry_eq_ok_iff, hrest, ih, List.forall_mem_cons,
        List.map_cons, List.nodup_cons, List.foldl_cons]
      -- What the rest finds free once the entry is in was free before, and is not the entry's.
      constructor
      · rintro ⟨_, ⟨hvalid, hfree, rfl⟩, hvalids, hnodup, hfrees, rfl⟩
        obtain ⟨hfresh, hfrees⟩ := forall_find?_insert_eq_none_iff.mp hfrees
        exact ⟨⟨hvalid, hvalids⟩, ⟨hfresh, hnodup⟩, ⟨hfree, hfrees⟩, rfl⟩
      · rintro ⟨⟨hvalid, hvalids⟩, ⟨hfresh, hnodup⟩, ⟨hfree, hfrees⟩, rfl⟩
        have hfrees := forall_find?_insert_eq_none_iff.mpr ⟨hfresh, hfrees⟩
        exact ⟨_, ⟨hvalid, hfree, rfl⟩, hvalids, hnodup, hfrees, rfl⟩

/-! ### What a call does -/

/-- A call is accepted with this result exactly when its conditions hold. -/
theorem perform_eq_ok_iff {call : Call} {receipt : Receipt} :
    ledger.perform scheme call = .ok (after, receipt) ↔
      Accepts scheme ledger call after receipt := by
  constructor
  · intro h
    cases call with
    | seed genesis =>
        obtain ⟨seeded, hseed, h⟩ := bind_eq_ok_iff.mp h
        obtain ⟨hvalid, hnodup, hfree, rfl⟩ := seed_eq_ok_iff.mp hseed
        cases h
        exact .seed genesis hvalid hnodup hfree
    | deposit caller txn =>
        obtain ⟨⟨changed, effect⟩, hdeposit, h⟩ := bind_eq_ok_iff.mp h
        cases h
        exact deposit_sound hdeposit
    | transfer caller txn =>
        obtain ⟨⟨changed, effect⟩, htransfer, h⟩ := bind_eq_ok_iff.mp h
        cases h
        exact transfer_sound htransfer
    | withdraw caller token =>
        obtain ⟨⟨changed, effect⟩, hwithdraw, h⟩ := bind_eq_ok_iff.mp h
        cases h
        exact withdraw_sound hwithdraw
  · intro h
    cases h with
    | seed genesis hvalid hnodup hfree =>
        have hseed := seed_eq_ok_iff.mpr ⟨hvalid, hnodup, hfree, rfl⟩
        simp [perform, hseed, bind, Except.bind, pure, Except.pure]
    | deposit txn hfree hvalid =>
        simp [perform, deposit, hfree, hvalid, bind, Except.bind, pure, Except.pure]
    | transfer txn last hlast hvalid hchild =>
        simp [perform, transfer, hlast, hvalid, hchild, bind, Except.bind, pure, Except.pure]
    | withdraw token last hlast =>
        simp [perform, withdraw, hlast, bind, Except.bind, pure, Except.pure]

/-- A call is either accepted, or refused with the ledger left as it was. -/
theorem step_cases (scheme : Scheme) (ledger : Ledger) (call : Call) :
    (∃ after receipt, Accepts scheme ledger call after receipt ∧
      ledger.step scheme call = (after, .ok receipt)) ∨
    ∃ cause, ledger.step scheme call = (ledger, .error cause) := by
  unfold step
  cases h : ledger.perform scheme call with
  | ok answer => exact .inl ⟨answer.1, answer.2, perform_eq_ok_iff.mp h, rfl⟩
  | error cause => exact .inr ⟨cause, rfl⟩

/-- A call with a receipt is accepted, and the step leads to the ledger that it leaves. -/
theorem accepts_of_step_ok {call : Call} {receipt : Receipt}
    (h : (ledger.step scheme call).2 = .ok receipt) :
    ∃ after, ledger.step scheme call = (after, .ok receipt) ∧
      Accepts scheme ledger call after receipt := by
  rcases step_cases scheme ledger call with ⟨after, _, haccepts, hstep⟩ | ⟨cause, hstep⟩
  · rw [hstep] at h
    cases h
    exact ⟨after, hstep, haccepts⟩
  · rw [hstep] at h
    cases h

/-- The step of a deposit: its checks, in their order, and what it does. -/
theorem step_deposit (scheme : Scheme) (ledger : Ledger) (caller : AccountId) (txn : Transaction) :
    ledger.step scheme (.deposit caller txn) =
      if (ledger.find? txn.tokenId).isSome then
        (ledger, .error (.alreadyDeposited txn.tokenId))
      else if ¬ txn.valid scheme then (ledger, .error (.badSignature .deposit txn.tokenId))
      else if caller ≠ txn.sender then (ledger, .error (.notSigner .deposit caller))
      else (ledger.insert txn,
        .ok (.changed ⟨.deposited, txn.tokenId, txn.sender, txn.receiver, txn.leaf⟩)) := by
  rw [step, perform, deposit]
  split_ifs <;> rfl

/-- The step of a transfer: its checks, in their order, and what it does. -/
theorem step_transfer (scheme : Scheme) (ledger : Ledger) (caller : AccountId) (txn : Transaction) :
    ledger.step scheme (.transfer caller txn) =
      match ledger.find? txn.tokenId with
      | none => (ledger, .error (.notDeposited txn.tokenId))
      | some last =>
        if ¬ txn.valid scheme then (ledger, .error (.badSignature .transfer txn.tokenId))
        else if caller ≠ txn.sender then (ledger, .error (.notSigner .transfer caller))
        else if txn.classify last ≠ .child then
          (ledger, .error (.senderNotOwner txn.sender txn.tokenId))
        else (ledger.insert txn,
          .ok (.changed ⟨.transferred, txn.tokenId, last.receiver, txn.receiver, txn.leaf⟩)) := by
  rw [step, perform, transfer]
  cases ledger.find? txn.tokenId with
  | none => rfl
  | some last =>
      dsimp only
      split_ifs <;> rfl

/-- The step of a withdrawal: its checks, in their order, and what it does. -/
theorem step_withdraw (scheme : Scheme) (ledger : Ledger) (caller : AccountId) (token : TokenId) :
    ledger.step scheme (.withdraw caller token) =
      match ledger.find? token with
      | none => (ledger, .error (.notDeposited token))
      | some last =>
        if caller ≠ last.receiver then (ledger, .error (.callerNotOwner caller token))
        else (ledger.erase token,
          .ok (.changed ⟨.withdrawn, token, last.receiver, last.receiver, emptyLeaf⟩)) := by
  rw [step, perform, withdraw]
  cases ledger.find? token with
  | none => rfl
  | some last =>
      dsimp only
      split_ifs <;> rfl

/-- A run makes its first step and goes on from there. -/
theorem run_cons (scheme : Scheme) (ledger : Ledger) (call : Call) (rest : List Call) :
    ledger.run scheme (call :: rest) =
      (((ledger.step scheme call).1.run scheme rest).1,
        (ledger.step scheme call).2 :: ((ledger.step scheme call).1.run scheme rest).2) := rfl

/-- A run gives one result for each call. -/
@[simp] theorem length_run (scheme : Scheme) (ledger : Ledger) (calls : List Call) :
    (ledger.run scheme calls).2.length = calls.length := by
  induction calls generalizing ledger with
  | nil => rfl
  | cons call rest ih => rw [run_cons, List.length_cons, List.length_cons, ih]

/-- All calls of the run are accepted. -/
def AllAccepted (scheme : Scheme) (ledger : Ledger) (calls : List Call) : Prop :=
  ∀ result ∈ (ledger.run scheme calls).2, ∃ receipt, result = .ok receipt

theorem allAccepted_nil (scheme : Scheme) (ledger : Ledger) : AllAccepted scheme ledger [] :=
  List.forall_mem_nil _

theorem allAccepted_cons {call : Call} {rest : List Call} :
    AllAccepted scheme ledger (call :: rest) ↔
      (∃ receipt, (ledger.step scheme call).2 = .ok receipt) ∧
        AllAccepted scheme (ledger.step scheme call).1 rest := by
  rw [AllAccepted, run_cons, List.forall_mem_cons]
  rfl

/-- What a look-up finds once a list of transactions for different tokens is inserted. -/
theorem find?_foldl_insert {genesis : List Transaction}
    (hnodup : (genesis.map (·.tokenId)).Nodup) (token : TokenId) :
    (genesis.foldl insert ledger).find? token =
      (genesis.find? (·.tokenId = token)).or (ledger.find? token) := by
  induction genesis generalizing ledger with
  | nil => rfl
  | cons txn rest ih =>
      rw [List.map_cons, List.nodup_cons] at hnodup
      rw [List.foldl_cons, ih hnodup.2, find?_insert, List.find?_cons]
      by_cases hsame : txn.tokenId = token
      · have hrest : rest.find? (·.tokenId = token) = none := by
          rw [List.find?_eq_none]
          intro other hother heq
          apply hnodup.1
          rw [hsame, ← of_decide_eq_true heq]
          exact List.mem_map_of_mem hother
        simp [hsame, hrest]
      · simp [hsame]

/-- A call leaves the tokens alone that it does not name. -/
theorem find?_step_of_not_names (scheme : Scheme) (ledger : Ledger) {token : TokenId} {call : Call}
    (hother : ¬ call.names token) :
    (ledger.step scheme call).1.find? token = ledger.find? token := by
  rcases step_cases scheme ledger call with ⟨after, receipt, h, hstep⟩ | ⟨cause, hstep⟩
  · rw [hstep]
    cases h with
    | seed genesis hvalid hnodup hfree =>
        have hunnamed : genesis.find? (·.tokenId = token) = none := by
          simpa [Call.names] using hother
        rw [find?_foldl_insert hnodup, hunnamed, Option.none_or]
    | deposit txn hfree hvalid =>
        exact find?_insert_of_ne ledger (by simpa [Call.names] using hother)
    | transfer txn last hlast hvalid hchild =>
        exact find?_insert_of_ne ledger (by simpa [Call.names] using hother)
    | withdraw withdrawn last hlast =>
        exact find?_erase_of_ne ledger (by simpa [Call.names] using hother)
  · rw [hstep]

end Custody.Ledger

/-! ### Small accounts and transactions

Theorems about runs are applied to runs of these. -/

namespace Custody.Sample

/-- A toy scheme, in which an account signs every message with its identity. -/
def scheme : Scheme where
  name := utf8 "identity"
  verify _ signature account := .ok (signature == account.bytes)

/-- The account whose identity ends in this byte and is zero before it. -/
def account (number : UInt8) : AccountId := ⟨List.replicate 31 0 ++ [number], rfl⟩

/-- The giver hands the token to the taker and signs. -/
def hand (token : Nat) (giver taker : UInt8) : Transaction where
  receiver := account taker
  tokenId := .ofNat token
  prevBlock := .zero
  sender := account giver
  signature := (account giver).bytes

end Custody.Sample
