import Custody.Proofs.Desk.Containment
import Custody.Proofs.Log
import Custody.Proofs.Relationship
import Mathlib.Data.List.Forall2

/-!
# What the log tells of a run

Whichever exit a call takes, it logs one entry there, by `serve_eq`. `Documents` says
what the entry of a call with this result is, in terms of the call alone, and
`documents_of_accepts` that the entry of an accepted call is this one: of a transfer it
names the owner before, who is the sender. A log with room for all calls that drops none keeps
these entries, by `kept_run`. Nothing flows back: `run_eq_ledger_run` says that the
results and the ledger are those of the calls without a log. The main theorem is
`log_documents_run`.
-/

namespace Custody

namespace Desk

open Ledger (Rejection Effect Call Receipt tokenLabel)

/-- `Documents scheme call result entry` says that the entry tells what became of the call: a
warning with the code and the wording of a refusal, a note of an accepted genesis list, or a note
for debugging of another accepted call. -/
inductive Documents (scheme : Scheme) : Call → Except Raised Receipt → Entry → Prop where
  | refused (call : Call) (cause : Rejection) :
      Documents scheme call (.error (.refused cause))
        ⟨utf8 "WARN", utf8 "Rejected (" ++ utf8 cause.code.name ++ utf8 "): " ++ cause.message⟩
  | seeded (genesis : List Transaction) :
      Documents scheme (.seed genesis) (.ok (.seeded genesis.length))
        ⟨utf8 "INFO", utf8 "Genesis seeded " ++ decimal genesis.length ++
          utf8 " token(s) under " ++ scheme.name ++ utf8 "."⟩
  | deposited (caller : AccountId) (txn : Transaction) (effect : Effect) :
      Documents scheme (.deposit caller txn) (.ok (.changed effect))
        ⟨utf8 "DEBUG", utf8 "Deposited " ++ tokenLabel txn.tokenId ++ utf8 " to " ++
          txn.receiver.toHex⟩
  | transferred (caller : AccountId) (txn : Transaction) (effect : Effect) :
      Documents scheme (.transfer caller txn) (.ok (.changed effect))
        ⟨utf8 "DEBUG", utf8 "Transferred " ++ tokenLabel txn.tokenId ++ utf8 " from " ++
          caller.toHex ++ utf8 " to " ++ txn.receiver.toHex⟩
  | withdrawn (caller : AccountId) (token : TokenId) (effect : Effect) :
      Documents scheme (.withdraw caller token) (.ok (.changed effect))
        ⟨utf8 "DEBUG", utf8 "Withdrew " ++ tokenLabel token ++ utf8 " by " ++ caller.toHex⟩

section Call

variable {scheme : Scheme} {ledger after : Ledger} {call : Call} {receipt : Receipt}

/-- The receipt of an accepted call gives the entry that tells of the call. -/
theorem documents_of_accepts (h : Ledger.Accepts scheme ledger call after receipt) :
    Documents scheme call (.ok receipt) (receipt.entry scheme) := by
  cases h with
  | seed genesis hvalid hnodup hfree => exact .seeded genesis
  | deposit txn hfree hvalid => exact .deposited txn.sender txn _
  | transfer txn last hlast hvalid hchild =>
      have hsender := (Transaction.classify_eq_child_iff.mp hchild).2
      rw [← hsender]
      exact .transferred txn.sender txn _
  | withdraw token last hlast => exact .withdrawn last.receiver token _

/-- A call logs one entry, which tells what became of it. -/
theorem exists_documents_serve (scheme : Scheme) (desk : Desk) (call : Call) :
    ∃ entry, (desk.serve scheme call).1.log = desk.log.record entry ∧
      Documents scheme call (desk.serve scheme call).2 entry := by
  refine ⟨_, log_serve scheme desk call, ?_⟩
  rw [result_serve]
  rcases Ledger.step_cases scheme desk.ledger call with
    ⟨after, receipt, h, hstep⟩ | ⟨cause, hstep⟩
  · rw [hstep]
    exact documents_of_accepts h
  · rw [hstep]
    exact .refused call cause

end Call

variable {scheme : Scheme}

/-- A log that drops no entry and has room for the calls keeps, after what it held, one entry for
each call that tells what became of it. -/
theorem kept_run (scheme : Scheme) (desk : Desk) (calls : List Call)
    (hthreshold : desk.log.threshold = .debug)
    (hroom : desk.log.kept.length + calls.length ≤ desk.log.capacity) :
    ∃ entries,
      (desk.run scheme (calls.map .call)).1.log.kept = desk.log.kept ++ entries ∧
      List.Forall₂ (fun answer entry => Documents scheme answer.1 answer.2 entry)
        (calls.zip (desk.run scheme (calls.map .call)).2) entries := by
  induction calls generalizing desk with
  | nil => exact ⟨[], (List.append_nil _).symm, .nil⟩
  | cons call rest ih =>
      rw [List.length_cons] at hroom
      let next := (desk.serve scheme call).1
      obtain ⟨entry, hlog, hentry⟩ : ∃ entry, next.log = desk.log.record entry ∧
        Documents scheme call (desk.serve scheme call).2 entry :=
          exists_documents_serve scheme desk call
      have hkept : next.log.kept = desk.log.kept ++ [entry] := by
        rw [hlog]
        exact Log.kept_record_of_room (Log.accepts_of_threshold_debug hthreshold entry) (by omega)
      obtain ⟨entries, hrest, htold⟩ := ih next
        (by rw [hlog, Log.threshold_record, hthreshold])
        (by
          rw [hkept, hlog, Log.capacity_record, List.length_append, List.length_singleton]
          omega)
      refine ⟨entry :: entries, ?_, ?_⟩
      · rw [List.map_cons, run_call_cons]
        exact hrest.trans (by rw [hkept, List.append_assoc]; rfl)
      · rw [List.map_cons, run_call_cons, List.zip_cons_cons]
        exact .cons hentry htold

/-- A log that is empty, drops no entry and has room for the calls of a run holds one entry for each
call at the end, in their order: a warning with the code and the wording of the refusal, or a note
of what was accepted, for debugging unless it was a genesis list. The results and the ledger are the
same for every other log whose settings change at any points of the run. -/
theorem log_documents_run (scheme : Scheme) (desk : Desk) (calls : List Call)
    (hkept : desk.log.kept = []) (hthreshold : desk.log.threshold = .debug)
    (hcapacity : calls.length ≤ desk.log.capacity) :
    let outcome := desk.run scheme (calls.map .call)
    outcome.1.log.kept.length = calls.length ∧
    List.Forall₂ (fun answer entry => Documents scheme answer.1 answer.2 entry)
      (calls.zip outcome.2) outcome.1.log.kept ∧
    ∀ (other : Desk) (actions : List Action), other.ledger = desk.ledger →
      actions.filterMap Action.call? = calls →
      (other.run scheme actions).2 = outcome.2 ∧
        (other.run scheme actions).1.ledger = outcome.1.ledger := by
  intro outcome
  obtain ⟨hresults, hledger⟩ := run_eq_ledger_run scheme desk (calls.map .call)
  rw [filterMap_call?] at hresults hledger
  obtain ⟨entries, hentries, htold⟩ := kept_run scheme desk calls hthreshold (by simpa [hkept])
  rw [hkept, List.nil_append] at hentries
  rw [← hentries] at htold
  refine ⟨?_, htold, ?_⟩
  · rw [← htold.length_eq, List.length_zip, hresults, List.length_map, Ledger.length_run,
      Nat.min_self]
  · intro other actions hsame hactions
    obtain ⟨hother, hotherLedger⟩ := run_eq_ledger_run scheme other actions
    rw [hsame, hactions] at hother hotherLedger
    exact ⟨hother.trans hresults.symm, hotherLedger.trans hledger.symm⟩

end Desk

namespace Sample

/-- A desk whose log drops no entry and has room for five. -/
def openDesk : Desk := { log := { threshold := .debug, capacity := 5 } }

/-- The disputed calls, with a log that drops the entries of the first two and keeps none of the
others. -/
def hushed : List Desk.Action :=
  [.setLevel (utf8 "FATAL")] ++ (disputed.take 2).map .call ++
    [.setCapacity 0, .setLevel (utf8 "DEBUG"), .setConsole false] ++ (disputed.drop 2).map .call

end Sample

namespace Desk

/-- The log tells of two accepted and three refused calls. A log that keeps none of their entries
changes nothing else. -/
theorem log_documents_disputed :
    let outcome := Sample.openDesk.run Sample.scheme (Sample.disputed.map .call)
    let other := ({} : Desk).run Sample.scheme Sample.hushed
    Sample.openDesk.log.kept = [] ∧ Sample.openDesk.log.threshold = .debug ∧
      Sample.disputed.length ≤ Sample.openDesk.log.capacity ∧
      List.Forall₂
        (fun answer entry => Documents Sample.scheme answer.1 answer.2 entry)
        (Sample.disputed.zip outcome.2) outcome.1.log.kept ∧
      outcome.1.log.kept.map (·.level) =
        [utf8 "DEBUG", utf8 "WARN", utf8 "WARN", utf8 "WARN", utf8 "DEBUG"] ∧
      outcome.1.log.kept[1]? = some ⟨utf8 "WARN", utf8 "Rejected (NotCurrentOwner): caller " ++
        (Sample.account 2).toHex ++ utf8 " does not own token 7"⟩ ∧
      ({} : Desk).ledger = Sample.openDesk.ledger ∧
      Sample.hushed.filterMap Action.call? = Sample.disputed ∧
      other.1.log.kept = [] ∧ other.2 = outcome.2 ∧ other.1.ledger = outcome.1.ledger := by
  intro outcome other
  have hcapacity : Sample.disputed.length ≤ Sample.openDesk.log.capacity := by decide
  have hcalls : Sample.hushed.filterMap Action.call? = Sample.disputed := rfl
  obtain ⟨_, htold, hsame⟩ :=
    log_documents_run Sample.scheme Sample.openDesk Sample.disputed rfl rfl hcapacity
  obtain ⟨hresults, hledger⟩ := hsame {} Sample.hushed rfl hcalls
  exact ⟨rfl, rfl, hcapacity, htold, rfl, by decide +kernel, rfl, hcalls, rfl, hresults, hledger⟩

end Desk

end Custody
