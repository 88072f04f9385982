import Custody.Proofs.Desk.Operations

/-!
# A refused call leaves no trace

Every call is accepted, or refused under one of the codes of its kind, and then the
desk that it leaves holds the ledger that it found: nothing was changed before the
work was broken off. `run_of_deleted` lifts this to runs: refused calls can be
deleted anywhere, and the other calls have the same results. Of the signature
scheme only its acceptance counts, by `run_congr`: that it answers no and that it
reaches no verdict are the same to the ledger, and its own failure is never raised.
A scheme that accepts nothing leaves the ledger empty. Digests are total, as
everywhere here, so no call is broken off for want of one.
-/

namespace Custody

/-- The schemes accept the same signatures. On the others each may answer no or reach no verdict. -/
def Scheme.AcceptsAlike (a b : Scheme) : Prop :=
  ∀ message signature identity, a.verify message signature identity = .ok true ↔
    b.verify message signature identity = .ok true

namespace Transaction

variable {scheme other : Scheme}

theorem valid_congr (h : other.AcceptsAlike scheme) (txn : Transaction) :
    txn.valid other = txn.valid scheme := by
  rw [Bool.eq_iff_iff, valid_iff_verify, valid_iff_verify]
  exact h _ _ _

end Transaction

/-! ### One call on the ledger alone -/

namespace Ledger

/-- The codes under which a call can be refused. -/
def Call.refusalCodes : Call → List ErrorCode
  | .seed _ => [.invalidSignature, .duplicateGenesisToken]
  | .deposit .. => [.tokenAlreadyExists, .invalidSignature, .signerMismatch]
  | .transfer .. => [.tokenDoesNotExist, .invalidSignature, .signerMismatch, .notCurrentOwner]
  | .withdraw .. => [.tokenDoesNotExist, .notCurrentOwner]

variable {scheme other : Scheme} {ledger : Ledger} {call : Call} {cause : Rejection}

/-- A call is refused under a code of its kind. -/
theorem code_mem_refusalCodes (h : (ledger.step scheme call).2 = .error cause) :
    cause.code ∈ call.refusalCodes := by
  cases call with
  | seed genesis =>
      obtain ⟨_, txn, _, hflaw, _⟩ := seed_eq_error_iff.mp (step_seed_refused_iff.mp h)
      rw [code_of_flaw hflaw]
      split_ifs <;> simp [Call.refusalCodes]
  | deposit caller txn =>
      rw [step_deposit] at h
      split_ifs at h <;> cases h <;> simp [Call.refusalCodes, Rejection.code]
  | transfer caller txn =>
      rw [step_transfer] at h
      cases hlast : ledger.find? txn.tokenId with
      | none =>
          rw [hlast] at h
          cases h
          simp [Call.refusalCodes, Rejection.code]
      | some last =>
          rw [hlast] at h
          dsimp only at h
          split_ifs at h <;> cases h <;> simp [Call.refusalCodes, Rejection.code]
  | withdraw caller token =>
      rw [step_withdraw] at h
      cases hlast : ledger.find? token with
      | none =>
          rw [hlast] at h
          cases h
          simp [Call.refusalCodes, Rejection.code]
      | some last =>
          rw [hlast] at h
          dsimp only at h
          split_ifs at h
          cases h
          simp [Call.refusalCodes, Rejection.code]

/-- Schemes that find the same transactions valid answer a call the same. -/
theorem step_congr (hvalid : ∀ txn : Transaction, txn.valid other = txn.valid scheme)
    (ledger : Ledger) (call : Call) : ledger.step other call = ledger.step scheme call := by
  cases call with
  | seed genesis =>
      have hentry : admitEntry other = admitEntry scheme := by
        funext ledger txn
        rw [admitEntry, admitEntry, hvalid]
      rw [step_seed, step_seed, seed, seed, hentry]
  | deposit caller txn => rw [step_deposit, step_deposit, hvalid]
  | transfer caller txn => rw [step_transfer, step_transfer, hvalid]
  | withdraw caller token => rw [step_withdraw, step_withdraw]

/-- Under a scheme that finds no transaction valid, no call makes a token owned. -/
theorem step_empty_of_none_valid (hvalid : ∀ txn : Transaction, ¬ txn.valid scheme) (call : Call) :
    (empty.step scheme call).1 = empty := by
  rcases step_cases scheme empty call with ⟨after, receipt, h, hstep⟩ | ⟨cause, hstep⟩
  · rw [hstep]
    cases h with
    | seed genesis hvalids hnodup hfree =>
        cases genesis with
        | nil => rfl
        | cons txn rest => exact absurd (hvalids txn List.mem_cons_self) (hvalid txn)
    | deposit txn hfree hsigned => exact absurd hsigned (hvalid txn)
    | transfer txn last hlast hsigned hchild => exact absurd hsigned (hvalid txn)
    | withdraw token last hlast =>
        rw [find?_empty] at hlast
        cases hlast
  · rw [hstep]

/-- Schemes that accept the same signatures give every run the same results and the same ledger,
however they fail on the other signatures. -/
theorem run_congr (h : other.AcceptsAlike scheme) (ledger : Ledger) (calls : List Call) :
    ledger.run other calls = ledger.run scheme calls := by
  induction calls generalizing ledger with
  | nil => rfl
  | cons call rest ih =>
      rw [run_cons, run_cons, step_congr (Transaction.valid_congr h), ih]

theorem run_empty_of_none_valid (hvalid : ∀ txn : Transaction, ¬ txn.valid scheme)
    (calls : List Call) : (empty.run scheme calls).1 = empty := by
  induction calls with
  | nil => rfl
  | cons call rest ih =>
      rw [run_cons, step_empty_of_none_valid hvalid]
      exact ih

end Ledger

namespace Desk

open Ledger (Call Receipt)

variable {scheme : Scheme} {desk : Desk} {call : Call}

/-! ### One call at a desk -/

/-- A call is accepted, or refused under a code of its kind with the ledger left as it was. -/
theorem serve_contained (scheme : Scheme) (desk : Desk) (call : Call) :
    (∃ receipt, (desk.serve scheme call).2 = .ok receipt) ∨
      ∃ cause, (desk.serve scheme call).2 = .error (.refused cause) ∧
        cause.code ∈ call.refusalCodes ∧ (desk.serve scheme call).1.ledger = desk.ledger := by
  rw [result_serve, ledger_serve]
  rcases Ledger.step_cases scheme desk.ledger call with ⟨after, receipt, _, hstep⟩ | ⟨cause, hstep⟩
  · rw [hstep]
    exact .inl ⟨receipt, rfl⟩
  · have hcode := Ledger.code_mem_refusalCodes (congrArg Prod.snd hstep)
    rw [hstep]
    exact .inr ⟨cause, rfl, hcode, rfl⟩

/-- A call that is not accepted leaves the ledger as it was. -/
theorem ledger_serve_of_refused (h : (desk.serve scheme call).2.isOk = false) :
    (desk.serve scheme call).1.ledger = desk.ledger := by
  rcases serve_contained scheme desk call with ⟨receipt, hreceipt⟩ | ⟨_, _, _, hledger⟩
  · rw [hreceipt] at h
    cases h
  · exact hledger

/-- The log plays no part in what a call comes to. -/
theorem serve_congr (scheme : Scheme) (call : Call) {other : Desk}
    (hledger : other.ledger = desk.ledger) :
    (other.serve scheme call).2 = (desk.serve scheme call).2 ∧
      (other.serve scheme call).1.ledger = (desk.serve scheme call).1.ledger := by
  rw [result_serve, result_serve, ledger_serve, ledger_serve, hledger]
  exact ⟨rfl, rfl⟩

/-! ### Deleting refused calls -/

/-- `Deleted kept record` says that the answered calls `kept` are those of `record` less some of the
refused ones. -/
structure Deleted (kept record : List (Call × Except Raised Receipt)) : Prop where
  sublist : kept.Sublist record
  accepted : kept.filter (·.2.isOk) = record.filter (·.2.isOk)

namespace Deleted

variable {answer : Call × Except Raised Receipt} {kept record : List (Call × Except Raised Receipt)}

/-- A call that is missing was refused. -/
theorem of_sublist (h : Deleted kept (answer :: record)) (hrecord : kept.Sublist record) :
    answer.2.isOk = false ∧ Deleted kept record := by
  have hrefused : answer.2.isOk = false := by
    rw [Bool.eq_false_iff]
    intro haccepted
    -- What is kept would have fewer accepted calls than it must have.
    have hkept := (hrecord.filter (·.2.isOk)).length_le
    rw [h.accepted, List.filter_cons, if_pos haccepted, List.length_cons] at hkept
    omega
  refine ⟨hrefused, hrecord, ?_⟩
  rw [h.accepted, List.filter_cons, hrefused]
  rfl

theorem tail (h : Deleted (answer :: kept) (answer :: record)) (hrecord : kept.Sublist record) :
    Deleted kept record := by
  refine ⟨hrecord, ?_⟩
  have haccepted := h.accepted
  rw [List.filter_cons, List.filter_cons] at haccepted
  split_ifs at haccepted
  · exact List.tail_eq_of_cons_eq haccepted
  · exact haccepted

end Deleted

/-- Refused calls can be deleted from a run: the other calls have the same results, and the ledger
at the end is the same, from every desk with the same ledger. -/
theorem run_of_deleted {other : Desk} {kept : List (Call × Except Raised Receipt)}
    (calls : List Call) (hledger : other.ledger = desk.ledger)
    (h : Deleted kept (calls.zip (desk.run scheme (calls.map .call)).2)) :
    (other.run scheme (kept.map fun answer => .call answer.1)).2 = kept.map Prod.snd ∧
      (other.run scheme (kept.map fun answer => .call answer.1)).1.ledger =
        (desk.run scheme (calls.map .call)).1.ledger := by
  induction calls generalizing desk other kept with
  | nil =>
      obtain rfl : kept = [] := List.sublist_nil.mp h.sublist
      exact ⟨rfl, hledger⟩
  | cons call rest ih =>
      rw [List.map_cons, run_call_cons, List.zip_cons_cons] at h
      rw [List.map_cons, run_call_cons]
      rcases List.sublist_cons_iff.mp h.sublist with hrest | ⟨others, rfl, hrest⟩
      · -- The call is deleted, so it was refused and the ledger did not change.
        obtain ⟨hrefused, hdeleted⟩ := h.of_sublist hrest
        exact ih (hledger.trans (ledger_serve_of_refused hrefused).symm) hdeleted
      · obtain ⟨hresult, hnext⟩ := serve_congr scheme call hledger
        obtain ⟨hresults, hlast⟩ := ih hnext (h.tail hrest)
        rw [List.map_cons, run_call_cons, List.map_cons, hresult, hresults]
        exact ⟨rfl, hlast⟩

/-- Every call is accepted, or refused under a code of its kind with the ledger left as it was; it
raises nothing else, whatever the scheme does. How the scheme fails on a signature that it does not
accept plays no part in any run. Deleting refused calls from a run changes neither the results of
the others nor the ledger at the end. Under a scheme that accepts no signature the ledger stays
empty. -/
theorem refusals_leave_no_trace (scheme : Scheme) :
    (∀ (desk : Desk) (call : Call),
      let outcome := desk.serve scheme call
      (∃ receipt, outcome.2 = .ok receipt) ∨
        ∃ cause, outcome.2 = .error (.refused cause) ∧ cause.code ∈ call.refusalCodes ∧
          outcome.1.ledger = desk.ledger) ∧
    (∀ other : Scheme, other.AcceptsAlike scheme → ∀ (desk : Desk) (actions : List Action),
      (desk.run other actions).2 = (desk.run scheme actions).2 ∧
        (desk.run other actions).1.ledger = (desk.run scheme actions).1.ledger) ∧
    (∀ (desk : Desk) (calls : List Call) (kept : List (Call × Except Raised Receipt)),
      let outcome := desk.run scheme (calls.map .call)
      Deleted kept (calls.zip outcome.2) →
      let thinned := desk.run scheme (kept.map fun answer => .call answer.1)
      thinned.2 = kept.map Prod.snd ∧ thinned.1.ledger = outcome.1.ledger) ∧
    ((∀ message signature identity, scheme.verify message signature identity ≠ .ok true) →
      ∀ (log : Log) (actions : List Action),
        ((⟨.empty, log⟩ : Desk).run scheme actions).1.ledger = .empty) := by
  refine ⟨serve_contained scheme, ?_, ?_, ?_⟩
  · intro other h desk actions
    obtain ⟨hresults, hledger⟩ := run_eq_ledger_run scheme desk actions
    obtain ⟨hresults', hledger'⟩ := run_eq_ledger_run other desk actions
    rw [hresults, hledger, hresults', hledger', Ledger.run_congr h]
    exact ⟨rfl, rfl⟩
  · intro desk calls kept outcome h thinned
    exact run_of_deleted calls rfl h
  · intro h log actions
    rw [(run_eq_ledger_run scheme _ actions).2]
    refine Ledger.run_empty_of_none_valid (fun txn hvalid => ?_) _
    exact h _ _ _ (Transaction.valid_iff_verify.mp hvalid)

end Desk

namespace Sample

open Ledger (Call)

/-- The toy scheme, except that it reaches no verdict on a signature that is wrong. -/
def brittleScheme : Scheme where
  name := utf8 "brittle"
  verify _ signature account :=
    if signature = account.bytes then .ok true else .error ⟨utf8 "bad signature"⟩

/-- A scheme that never reaches a verdict. -/
def brokenScheme : Scheme where
  name := utf8 "broken"
  verify _ _ _ := .error ⟨utf8 "no backend"⟩

/-- A token is deposited and handed on. The three calls in between are refused: a withdrawal by
another account, a transfer without a signature and a genesis list that names the token. -/
def disputed : List Call :=
  [.deposit (account 1) (hand 7 1 1), .withdraw (account 2) (.ofNat 7),
    .transfer (account 1) { hand 7 1 3 with signature := [] }, .seed [hand 7 3 3],
    .transfer (account 1) (hand 7 1 2)]

end Sample

namespace Desk

/-- One of three refused calls is deleted from a run, which is the same under a scheme that reaches
no verdict on one of them, and leaves nothing under a scheme that never reaches a verdict. -/
theorem refusals_leave_no_trace_disputed :
    let actions := Sample.disputed.map Action.call
    let outcome := ({} : Desk).run Sample.scheme actions
    let record := Sample.disputed.zip outcome.2
    let kept := record.eraseIdx 1
    let thinned := ({} : Desk).run Sample.scheme (kept.map fun answer => .call answer.1)
    Deleted kept record ∧
      thinned.2 = kept.map Prod.snd ∧ thinned.1.ledger = outcome.1.ledger ∧
      kept.map Prod.snd =
        [.ok (.changed ⟨.deposited, .ofNat 7, Sample.account 1, Sample.account 1,
            (Sample.hand 7 1 1).leaf⟩),
          .error (.refused (.badSignature .transfer (.ofNat 7))),
          .error (.refused (.repeatedInGenesis (.ofNat 7))),
          .ok (.changed ⟨.transferred, .ofNat 7, Sample.account 1, Sample.account 2,
            (Sample.hand 7 1 2).leaf⟩)] ∧
      Sample.brittleScheme.AcceptsAlike Sample.scheme ∧
      (({} : Desk).run Sample.brittleScheme actions).2 = outcome.2 ∧
      (({} : Desk).run Sample.brittleScheme actions).1.ledger = outcome.1.ledger ∧
      (∀ message signature identity,
        Sample.brokenScheme.verify message signature identity ≠ .ok true) ∧
      (({} : Desk).run Sample.brokenScheme actions).1.ledger = .empty := by
  intro actions outcome record kept thinned
  obtain ⟨_, hcongr, hdelete, _⟩ := refusals_leave_no_trace Sample.scheme
  obtain ⟨_, _, _, hempty⟩ := refusals_leave_no_trace Sample.brokenScheme
  have hdeleted : Deleted kept record := ⟨List.eraseIdx_sublist _ _, rfl⟩
  have hbrittle : Sample.brittleScheme.AcceptsAlike Sample.scheme := by
    intro message signature identity
    simp [Sample.brittleScheme, Sample.scheme]
  have hbroken : ∀ message signature identity,
      Sample.brokenScheme.verify message signature identity ≠ .ok true := by
    intro message signature identity h
    cases h
  obtain ⟨hresults, hledger⟩ := hdelete {} Sample.disputed kept hdeleted
  obtain ⟨hresults', hledger'⟩ := hcongr _ hbrittle {} actions
  exact ⟨hdeleted, hresults, hledger, rfl, hbrittle, hresults', hledger', hbroken,
    hempty hbroken {} actions⟩

end Desk

end Custody
