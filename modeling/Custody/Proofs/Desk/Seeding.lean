import Custody.Proofs.Desk.Operations

/-!
# Seeding as a batch of deposits

The two loops of `seed` judge a whole genesis list and then enter it. `run_seed`
shows that they come to one check-and-enter loop over the list, so what is known of
that loop holds at a desk. The main theorem, `seed_batch_of_deposits`, says that a
list is admitted exactly when its entries can be deposited one by one, with the same
ledger at the end, that a refused list leaves the ledger as it was, and that the
first entry with a flaw decides the refusal.
-/

namespace Custody.Desk

open Ledger (Call deposits flaw? seed_eq_error_iff seed_eq_ok_iff_deposits code_of_flaw)

variable {scheme : Scheme} {desk : Desk} {genesis : List Transaction}

/-- All calls of the run are accepted. -/
def AllAccepted (scheme : Scheme) (desk : Desk) (calls : List Call) : Prop :=
  ∀ result ∈ (desk.run scheme (calls.map .call)).2, ∃ receipt, result = .ok receipt

/-- The calls are accepted at a desk when they are on its ledger. -/
theorem allAccepted_iff {calls : List Call} :
    AllAccepted scheme desk calls ↔ Ledger.AllAccepted scheme desk.ledger calls := by
  rw [AllAccepted, Ledger.AllAccepted, results_run_calls, List.forall_mem_map]
  refine forall₂_congr fun result _ => ?_
  cases result <;> simp [Except.mapError]

theorem accepted_seed_iff :
    (∃ receipt, (desk.serve scheme (.seed genesis)).2 = .ok receipt) ↔
      ∃ after, desk.ledger.seed scheme genesis = .ok after := by
  rw [← Ledger.step_seed_accepted_iff, result_serve]
  cases (desk.ledger.step scheme (.seed genesis)).2 <;> simp [Except.mapError]

theorem refused_seed_iff {raised : Raised} :
    (desk.serve scheme (.seed genesis)).2 = .error raised ↔
      ∃ cause, raised = .refused cause ∧ desk.ledger.seed scheme genesis = .error cause := by
  simp only [← Ledger.step_seed_refused_iff, result_serve]
  cases (desk.ledger.step scheme (.seed genesis)).2 <;> simp [Except.mapError, eq_comm]

/-- A genesis list is admitted exactly when its entries can be deposited one after another, each by
its own sender, and leaves the ledger that the deposits leave. A list that is refused leaves the
ledger as it was, and is refused for the first entry that is not signed, or else names a token that
is owned or that an earlier entry names. The order of the entries plays no part otherwise. -/
theorem seed_batch_of_deposits (scheme : Scheme) (desk : Desk) (genesis : List Transaction) :
    let seeding := desk.serve scheme (.seed genesis)
    ((∃ receipt, seeding.2 = .ok receipt) ↔ AllAccepted scheme desk (deposits genesis)) ∧
    ((∃ receipt, seeding.2 = .ok receipt) →
      seeding.1.ledger = (desk.run scheme ((deposits genesis).map .call)).1.ledger) ∧
    (∀ raised, seeding.2 = .error raised → seeding.1.ledger = desk.ledger) ∧
    (∀ raised, seeding.2 = .error raised ↔
      ∃ cause, raised = .refused cause ∧
        ∃ i txn, genesis[i]? = some txn ∧
          flaw? scheme desk.ledger (genesis.take i) txn = some cause ∧
          cause.code = (if txn.valid scheme then .duplicateGenesisToken else .invalidSignature) ∧
          ∀ j < i, ∀ other, genesis[j]? = some other →
            flaw? scheme desk.ledger (genesis.take j) other = none) ∧
    ∀ other : List Transaction, other.Perm genesis →
      ((∃ receipt, (desk.serve scheme (.seed other)).2 = .ok receipt) ↔
          ∃ receipt, seeding.2 = .ok receipt) ∧
        (desk.serve scheme (.seed other)).1.ledger = seeding.1.ledger := by
  intro seeding
  refine ⟨?_, ?_, ?_, ?_, ?_⟩
  · rw [accepted_seed_iff, allAccepted_iff]
    constructor
    · rintro ⟨after, hseed⟩
      exact (seed_eq_ok_iff_deposits.mp hseed).1
    · intro haccepted
      exact ⟨_, seed_eq_ok_iff_deposits.mpr ⟨haccepted, rfl⟩⟩
  · intro haccepted
    obtain ⟨after, hseed⟩ := accepted_seed_iff.mp haccepted
    rw [ledger_serve, ledger_run_calls, Ledger.step_seed_of_ok hseed,
      (seed_eq_ok_iff_deposits.mp hseed).2]
  · intro raised hrefused
    obtain ⟨cause, _, hseed⟩ := refused_seed_iff.mp hrefused
    rw [ledger_serve, Ledger.step_seed_of_error hseed]
  · intro raised
    rw [refused_seed_iff]
    simp only [seed_eq_error_iff]
    constructor
    · rintro ⟨cause, hraised, i, txn, htxn, hflaw, hsound⟩
      exact ⟨cause, hraised, i, txn, htxn, hflaw, code_of_flaw hflaw, hsound⟩
    · rintro ⟨cause, hraised, i, txn, htxn, hflaw, _, hsound⟩
      exact ⟨cause, hraised, i, txn, htxn, hflaw, hsound⟩
  · intro other hperm
    obtain ⟨haccepted, hledger⟩ := Ledger.step_seed_of_perm scheme desk.ledger hperm
    rw [Ledger.step_seed_accepted_iff, Ledger.step_seed_accepted_iff] at haccepted
    rw [accepted_seed_iff, accepted_seed_iff, ledger_serve, ledger_serve]
    exact ⟨haccepted, hledger⟩

end Custody.Desk

namespace Custody.Sample

/-- Two tokens in the hands of their senders. -/
def pair : List Transaction := [hand 8 2 2, hand 9 3 3]

/-- A genesis list with three flaws: an entry that is not signed and names a token again, one that
names the token of the ledger, and one that names its own token again. -/
def flawed : List Transaction :=
  [hand 8 2 2, { hand 8 2 2 with signature := [] }, hand 7 1 1, hand 8 2 3]

end Custody.Sample

namespace Custody.Desk

open Ledger (deposits)

/-- One list is admitted in both orders. The other is refused for the entry without a signature. -/
theorem seed_batch_of_pair :
    let desk : Desk := { ledger := Ledger.empty.insert (Sample.hand 7 1 1) }
    let seeding := desk.serve Sample.scheme (.seed Sample.pair)
    let refusal := desk.serve Sample.scheme (.seed Sample.flawed)
    seeding.2 = .ok (.seeded 2) ∧
      AllAccepted Sample.scheme desk (deposits Sample.pair) ∧
      seeding.1.ledger = (desk.run Sample.scheme ((deposits Sample.pair).map .call)).1.ledger ∧
      Sample.pair.reverse.Perm Sample.pair ∧
      (desk.serve Sample.scheme (.seed Sample.pair.reverse)).1.ledger = seeding.1.ledger ∧
      refusal.2 = .error (.refused (.badGenesisSignature (.ofNat 8))) ∧
      refusal.1.ledger = desk.ledger := by
  intro desk seeding refusal
  have hpair : seeding.2 = .ok (.seeded 2) := rfl
  have hflawed : refusal.2 = .error (.refused (.badGenesisSignature (.ofNat 8))) := rfl
  have hreverse : Sample.pair.reverse.Perm Sample.pair := List.reverse_perm _
  obtain ⟨haccepted, hsame, _, _, hperm⟩ :=
    seed_batch_of_deposits Sample.scheme desk Sample.pair
  obtain ⟨_, _, hkept, _, _⟩ := seed_batch_of_deposits Sample.scheme desk Sample.flawed
  exact ⟨hpair, haccepted.mp ⟨_, hpair⟩, hsame ⟨_, hpair⟩, hreverse, (hperm _ hreverse).2, hflawed,
    hkept _ hflawed⟩

end Custody.Desk
