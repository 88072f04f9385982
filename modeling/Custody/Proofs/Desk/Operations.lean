import Custody.Desk
import Custody.Proofs.Ledger.Seeding
import Custody.Proofs.Signing

/-!
# What the operations of a desk do

`Work.run` keeps the desk as it is when a piece of work is broken off, so a change
that an operation makes before a later check fails would be left behind. `serve_eq`
says that there is none: a call has the result that `Ledger.step` gives it, leaves
the ledger that `Ledger.step` leaves, and logs one entry, which the result decides.
Each operation has one lemma. The one about `seed` goes from its two loops, over the
tokens seen so far and over the ledger, to the search for the first flaw.
-/

namespace Custody

/-! ### The entry of a call -/

namespace Ledger

/-- The entry of a refused call. -/
def Rejection.entry (cause : Rejection) : Entry :=
  .of .warn (utf8 "Rejected (" ++ utf8 cause.code.name ++ utf8 "): " ++ cause.message)

/-- The entry of an accepted change to a token. -/
def Effect.entry (effect : Effect) : Entry :=
  let label := tokenLabel effect.token
  .of .debug <| match effect.change with
    | .deposited => utf8 "Deposited " ++ label ++ utf8 " to " ++ effect.taker.toHex
    | .transferred =>
      utf8 "Transferred " ++ label ++ utf8 " from " ++ effect.giver.toHex ++
        utf8 " to " ++ effect.taker.toHex
    | .withdrawn => utf8 "Withdrew " ++ label ++ utf8 " by " ++ effect.taker.toHex

/-- The entry of an accepted call under a scheme. -/
def Receipt.entry (scheme : Scheme) : Receipt → Entry
  | .seeded count =>
    .of .info (utf8 "Genesis seeded " ++ decimal count ++ utf8 " token(s) under " ++
      scheme.name ++ utf8 ".")
  | .changed effect => effect.entry

/-- The entry of a call with this result. -/
def resultEntry (scheme : Scheme) : Except Rejection Receipt → Entry
  | .ok receipt => receipt.entry scheme
  | .error cause => cause.entry

/-! ### Entering transactions that may be there already -/

theorem emplace_of_free {ledger : Ledger} {txn : Transaction}
    (hfree : ledger.find? txn.tokenId = none) : ledger.emplace txn = ledger.insert txn := by
  have habsent : txn.tokenId ∉ ledger.tokens := by
    rw [← Std.ExtTreeMap.isSome_getElem?_iff_mem, Option.not_isSome_iff_eq_none]
    exact hfree
  apply ext_find?
  intro token
  rw [find?_insert]
  simp [find?, emplace, Std.ExtTreeMap.getElem?_insertIfNew, habsent]

/-- Transactions for different free tokens are entered as they are inserted. -/
theorem foldl_emplace_of_free {ledger : Ledger} {genesis : List Transaction}
    (hnodup : (genesis.map (·.tokenId)).Nodup)
    (hfree : ∀ txn ∈ genesis, ledger.find? txn.tokenId = none) :
    genesis.foldl emplace ledger = genesis.foldl insert ledger := by
  induction genesis generalizing ledger with
  | nil => rfl
  | cons txn rest ih =>
      rw [List.map_cons, List.nodup_cons] at hnodup
      rw [List.forall_mem_cons] at hfree
      rw [List.foldl_cons, List.foldl_cons, emplace_of_free hfree.1]
      exact ih hnodup.2 (forall_find?_insert_eq_none_iff.mpr ⟨hnodup.1, hfree.2⟩)

end Ledger

namespace Desk

open Custody.Work (run_bind run_forM_cons run_pure run_ite)
open Ledger (Rejection Effect Call Receipt flaw? firstFlaw?)

/-- What work at a desk comes to if the ledger alone comes to this: the ledger changes only if the
work is accepted, and one entry is logged in either case. -/
def settle {α : Type} (desk : Desk) (entry : α → Entry) :
    Except Rejection (Ledger × α) → Desk × Except Raised α
  | .ok (changed, value) => (⟨changed, desk.log.record (entry value)⟩, .ok value)
  | .error cause => (desk.record cause.entry, .error (.refused cause))

namespace Work

variable {α : Type} {scheme : Scheme} {desk : Desk} {txn : Transaction}

/-! ### Single statements -/

theorem run_note (severity : Severity) (message : Bytes) (desk : Desk) :
    (note severity message).run desk = (desk.record (.of severity message), .ok ()) := rfl

theorem run_reject (cause : Rejection) (desk : Desk) :
    (reject cause : Work α).run desk = (desk.record cause.entry, .error (.refused cause)) := rfl

theorem run_find? (token : TokenId) (desk : Desk) :
    (find? token).run desk = (desk, .ok (desk.ledger.find? token)) := rfl

theorem run_emplace (txn : Transaction) (desk : Desk) :
    (emplace txn).run desk = ({ desk with ledger := desk.ledger.emplace txn }, .ok ()) := rfl

theorem run_assign (txn : Transaction) (desk : Desk) :
    (assign txn).run desk = ({ desk with ledger := desk.ledger.insert txn }, .ok ()) := rfl

theorem run_erase (token : TokenId) (desk : Desk) :
    (erase token).run desk = ({ desk with ledger := desk.ledger.erase token }, .ok ()) := rfl

/-- Whatever the scheme does, asking whether a transaction is valid gives an answer and changes
nothing. -/
theorem run_isValid (scheme : Scheme) (txn : Transaction) (desk : Desk) :
    (isValid scheme txn).run desk = (desk, .ok (txn.valid scheme)) := by
  unfold isValid ask Transaction.valid
  cases scheme.verify txn.leaf txn.signature txn.sender <;> rfl

/-! ### Operations on one token -/

theorem run_deposit (scheme : Scheme) (caller : AccountId) (txn : Transaction) (desk : Desk) :
    (deposit scheme caller txn).run desk =
      desk.settle Effect.entry (desk.ledger.deposit scheme caller txn) := by
  unfold deposit Ledger.deposit
  simp only [run_bind, run_find?, run_isValid, run_ite, run_reject, run_emplace, run_note, run_pure]
  cases hfound : desk.ledger.find? txn.tokenId with
  | some last => rfl
  | none =>
      simp only [Option.isSome_none, Bool.false_eq_true, if_false, Bool.not_eq_true', ne_eq,
        Bool.not_eq_true, Ledger.emplace_of_free hfound]
      split_ifs <;> rfl

theorem run_transfer (scheme : Scheme) (caller : AccountId) (txn : Transaction) (desk : Desk) :
    (transfer scheme caller txn).run desk =
      desk.settle Effect.entry (desk.ledger.transfer scheme caller txn) := by
  unfold transfer Ledger.transfer
  rw [run_bind, run_find?]
  cases hfound : desk.ledger.find? txn.tokenId with
  | none => rfl
  | some last =>
      simp only [run_bind, run_isValid, run_ite, run_reject, run_assign, run_note, run_pure,
        Bool.not_eq_true', ne_eq, Bool.not_eq_true]
      split_ifs <;> rfl

theorem run_withdraw (caller : AccountId) (token : TokenId) (desk : Desk) :
    (withdraw caller token).run desk =
      desk.settle Effect.entry (desk.ledger.withdraw caller token) := by
  unfold withdraw Ledger.withdraw
  rw [run_bind, run_find?]
  cases hfound : desk.ledger.find? token with
  | none => rfl
  | some last =>
      simp only [run_bind, run_ite, run_reject, run_erase, run_note, run_pure]
      split_ifs with hcaller
      · rfl
      · rw [not_not.mp hcaller]
        rfl

/-! ### Admitting a genesis list -/

/-- Judging an entry finds its flaw, if the tokens seen so far are those of the entries before. -/
theorem run_judge {named : Std.ExtTreeSet TokenId} {before : List Transaction}
    (hnamed : ∀ token, token ∈ named ↔ token ∈ before.map (·.tokenId)) (scheme : Scheme)
    (txn : Transaction) (desk : Desk) :
    (judge scheme named txn).run desk =
      match flaw? scheme desk.ledger before txn with
      | some cause => (desk.record cause.entry, .error (.refused cause))
      | none => (desk, .ok (named.insert txn.tokenId)) := by
  have htaken : (named.containsThenInsert txn.tokenId).1 = true ↔
      txn.tokenId ∈ before.map (·.tokenId) := by
    rw [Std.ExtTreeSet.containsThenInsert_fst, ← hnamed]
    exact Std.ExtTreeSet.contains_iff_mem
  unfold judge flaw?
  simp only [run_bind, run_isValid, run_ite, run_reject, run_find?, run_pure, Bool.not_eq_true',
    Bool.not_eq_true, Bool.or_eq_true, htaken, Std.ExtTreeSet.containsThenInsert_snd,
    or_comm (a := txn.tokenId ∈ _)]
  split_ifs <;> rfl

/-- Judging the rest of a list finds its first flaw and changes nothing but the log. -/
theorem run_foldlM_judge {named : Std.ExtTreeSet TokenId} {before : List Transaction}
    (hnamed : ∀ token, token ∈ named ↔ token ∈ before.map (·.tokenId)) (scheme : Scheme)
    (rest : List Transaction) (desk : Desk) :
    match firstFlaw? scheme desk.ledger before rest with
    | some cause =>
      (rest.foldlM (judge scheme) named).run desk =
        (desk.record cause.entry, .error (.refused cause))
    | none => ∃ all, (rest.foldlM (judge scheme) named).run desk = (desk, .ok all) := by
  induction rest generalizing named before with
  | nil => exact ⟨named, rfl⟩
  | cons txn rest ih =>
      have hnext : ∀ token, token ∈ named.insert txn.tokenId ↔
          token ∈ (before ++ [txn]).map (·.tokenId) := by
        intro token
        rw [Std.ExtTreeSet.mem_insert, Std.LawfulEqOrd.compare_eq_iff_eq, hnamed, List.map_append,
          List.mem_append, List.map_singleton, List.mem_singleton, or_comm, eq_comm]
      rw [List.foldlM_cons, run_bind, run_judge hnamed, firstFlaw?]
      cases hflaw : flaw? scheme desk.ledger before txn with
      | some cause => rfl
      | none => exact ih hnext

/-- Entering a list enters its transactions one after another. -/
theorem run_forM_emplace (genesis : List Transaction) (desk : Desk) :
    (genesis.forM emplace).run desk =
      ({ desk with ledger := genesis.foldl Ledger.emplace desk.ledger }, .ok ()) := by
  induction genesis generalizing desk with
  | nil => rfl
  | cons txn rest ih =>
      rw [run_forM_cons, run_emplace]
      exact ih _

/-- A list is admitted by two loops, the first of which judges all entries, as it is admitted entry
by entry. -/
theorem run_seed (scheme : Scheme) (genesis : List Transaction) (desk : Desk) :
    (seed scheme genesis).run desk =
      desk.settle (fun _ => (Receipt.seeded genesis.length).entry scheme)
        ((desk.ledger.seed scheme genesis).map fun seeded => (seeded, ())) := by
  have hnamed : ∀ token, token ∈ (∅ : Std.ExtTreeSet TokenId) ↔
      token ∈ ([] : List Transaction).map (·.tokenId) := by simp
  have hjudged := run_foldlM_judge hnamed scheme genesis desk
  have hseed := Ledger.seed_eq_firstFlaw scheme desk.ledger genesis
  unfold seed
  rw [run_bind]
  cases hflaw : firstFlaw? scheme desk.ledger [] genesis with
  | some cause =>
      rw [hflaw] at hjudged hseed
      rw [hjudged, hseed]
      rfl
  | none =>
      rw [hflaw] at hjudged hseed
      obtain ⟨all, hjudged⟩ := hjudged
      obtain ⟨_, hnodup, hfree, _⟩ := Ledger.seed_eq_ok_iff.mp hseed
      rw [hjudged, hseed]
      dsimp only
      rw [run_bind, run_forM_emplace, Ledger.foldl_emplace_of_free hnodup hfree]
      rfl

end Work

/-! ### Calls -/

/-- A call comes to what it comes to on the ledger alone. -/
theorem serve_eq_settle (scheme : Scheme) (desk : Desk) (call : Call) :
    desk.serve scheme call =
      desk.settle (Receipt.entry scheme) (desk.ledger.perform scheme call) := by
  cases call with
  | seed genesis =>
      rw [serve, Work.perform, run_bind, Work.run_seed, Ledger.perform]
      cases desk.ledger.seed scheme genesis <;> rfl
  | deposit caller txn =>
      rw [serve, Work.perform, run_bind, Work.run_deposit, Ledger.perform]
      cases desk.ledger.deposit scheme caller txn <;> rfl
  | transfer caller txn =>
      rw [serve, Work.perform, run_bind, Work.run_transfer, Ledger.perform]
      cases desk.ledger.transfer scheme caller txn <;> rfl
  | withdraw caller token =>
      rw [serve, Work.perform, run_bind, Work.run_withdraw, Ledger.perform]
      cases desk.ledger.withdraw caller token <;> rfl

/-- A call leaves the ledger and has the result of a step of the ledger alone, and logs one entry.
It never raises a failure of the scheme. -/
theorem serve_eq (scheme : Scheme) (desk : Desk) (call : Call) :
    desk.serve scheme call =
      (⟨(desk.ledger.step scheme call).1,
        desk.log.record (Ledger.resultEntry scheme (desk.ledger.step scheme call).2)⟩,
      (desk.ledger.step scheme call).2.mapError .refused) := by
  rw [serve_eq_settle, Ledger.step]
  cases desk.ledger.perform scheme call <;> rfl

theorem ledger_serve (scheme : Scheme) (desk : Desk) (call : Call) :
    (desk.serve scheme call).1.ledger = (desk.ledger.step scheme call).1 := by
  rw [serve_eq]

theorem result_serve (scheme : Scheme) (desk : Desk) (call : Call) :
    (desk.serve scheme call).2 = (desk.ledger.step scheme call).2.mapError .refused := by
  rw [serve_eq]

theorem log_serve (scheme : Scheme) (desk : Desk) (call : Call) :
    (desk.serve scheme call).1.log =
      desk.log.record (Ledger.resultEntry scheme (desk.ledger.step scheme call).2) := by
  rw [serve_eq]

/-! ### Runs -/

/-- The call that is made, if the action is one. -/
def Action.call? : Action → Option Call
  | .call made => some made
  | _ => none

theorem filterMap_call? (calls : List Call) :
    (calls.map Action.call).filterMap Action.call? = calls := by
  rw [List.filterMap_map]
  exact List.filterMap_some

theorem run_call_cons (scheme : Scheme) (desk : Desk) (call : Call) (rest : List Action) :
    desk.run scheme (.call call :: rest) =
      (((desk.serve scheme call).1.run scheme rest).1,
        (desk.serve scheme call).2 :: ((desk.serve scheme call).1.run scheme rest).2) := rfl

/-- The results and the ledger are those of the calls on the ledger alone, whatever the log is and
however its settings change in between. -/
theorem run_eq_ledger_run (scheme : Scheme) (desk : Desk) (actions : List Action) :
    (desk.run scheme actions).2 =
        (desk.ledger.run scheme (actions.filterMap Action.call?)).2.map (Except.mapError .refused) ∧
      (desk.run scheme actions).1.ledger =
        (desk.ledger.run scheme (actions.filterMap Action.call?)).1 := by
  induction actions generalizing desk with
  | nil => exact ⟨rfl, rfl⟩
  | cons action rest ih =>
      cases action with
      | call call =>
          obtain ⟨hresults, hledger⟩ := ih (desk.serve scheme call).1
          rw [ledger_serve] at hresults hledger
          refine ⟨?_, hledger⟩
          rw [run_call_cons, hresults, result_serve]
          rfl
      | setLevel level => exact ih { desk with log := desk.log.setLevel level }
      | setCapacity capacity => exact ih { desk with log := desk.log.setCapacity capacity }
      | setConsole console => exact ih { desk with log := desk.log.setConsole console }

theorem results_run_calls (scheme : Scheme) (desk : Desk) (calls : List Call) :
    (desk.run scheme (calls.map .call)).2 =
      (desk.ledger.run scheme calls).2.map (Except.mapError .refused) := by
  rw [(run_eq_ledger_run scheme desk _).1, filterMap_call?]

theorem ledger_run_calls (scheme : Scheme) (desk : Desk) (calls : List Call) :
    (desk.run scheme (calls.map .call)).1.ledger = (desk.ledger.run scheme calls).1 := by
  rw [(run_eq_ledger_run scheme desk _).2, filterMap_call?]

end Desk

end Custody
