import Custody.Log
import Mathlib.Tactic.Common

/-!
# What recording an entry does

Recording drops an entry that is below the threshold. Any other entry comes last
among those kept and, if the console is on, among those shown. The settings of the
log stay as they are. Entries are forgotten one by one, until there is room when an
entry is recorded and until the rest fits when the capacity changes. By
`record_of_accepts` and `kept_setCapacity` both leave the latest ones that fit.
-/

namespace Custody

theorem Severity.ofName_name (severity : Severity) : ofName severity.name = severity := by
  cases severity <;> decide

@[simp] theorem Entry.severity_of (severity : Severity) (message : Bytes) :
    (Entry.of severity message).severity = severity :=
  Severity.ofName_name severity

/-- The last `count` elements of a list, or all of them if there are fewer. -/
def latest {α : Type} (count : Nat) (l : List α) : List α := l.drop (l.length - count)

section Latest

variable {α : Type} {count : Nat} {l : List α}

/-- All elements are the latest ones where there is room for them. -/
theorem latest_of_length_le (h : l.length ≤ count) : latest count l = l := by
  rw [latest, Nat.sub_eq_zero_of_le h, List.drop_zero]

theorem length_latest_le (count : Nat) (l : List α) : (latest count l).length ≤ count := by
  rw [latest, List.length_drop]
  omega

theorem latest_zero (l : List α) : latest 0 l = [] := List.drop_length

/-- One element more makes room for one element more. -/
theorem latest_concat (count : Nat) (l : List α) (last : α) :
    latest (count + 1) (l ++ [last]) = latest count l ++ [last] := by
  unfold latest
  rw [List.length_append, List.length_singleton, Nat.add_sub_add_right,
    List.drop_append_of_le_length (Nat.sub_le ..)]

/-- The latest elements of a list that has lost its first ones and has grown. -/
theorem latest_drop_append {lost : Nat} (h : lost ≤ l.length) (count : Nat) (fresh : List α) :
    latest count (l.drop lost ++ fresh) =
      (l ++ fresh).drop (max lost ((l ++ fresh).length - count)) := by
  rw [latest, ← List.drop_append_of_le_length h, List.drop_drop, List.length_drop]
  congr 1
  omega

/-- Forgetting as long as there are more than `count` leaves the latest `count`. -/
theorem forgetWhile_eq_latest {tooMany : Nat → Bool}
    (h : ∀ others, tooMany (others + 1) ↔ count ≤ others) :
    forgetWhile tooMany l = latest count l := by
  induction l with
  | nil => exact List.drop_nil.symm
  | cons first rest ih =>
      rw [forgetWhile]
      split_ifs with hmany
      · have hlength : (first :: rest).length - count = rest.length - count + 1 :=
          Nat.succ_sub ((h _).mp hmany)
        rw [ih, latest, latest, hlength, List.drop_succ_cons]
      · rw [h, Nat.not_le] at hmany
        exact (latest_of_length_le hmany).symm

end Latest

namespace Log

variable {log : Log} {entry : Entry}

theorem record_of_accepts (h : log.accepts entry) :
    log.record entry =
      { log with
        kept := latest log.capacity (log.kept ++ [entry])
        shown := if log.console then log.shown ++ [entry] else log.shown } := by
  have hforget :
      forgetWhile (log.capacity ≤ ·) log.kept = latest (log.capacity - 1) log.kept := by
    apply forgetWhile_eq_latest
    intro others
    rw [decide_eq_true_iff]
    omega
  have hkept : (if 0 < log.capacity then latest (log.capacity - 1) log.kept ++ [entry]
      else latest (log.capacity - 1) log.kept) = latest log.capacity (log.kept ++ [entry]) := by
    split_ifs with hroom
    · rw [← latest_concat, Nat.sub_add_cancel hroom]
    · -- A log without capacity forgets all entries, and the new one is not kept.
      rw [Nat.eq_zero_of_not_pos hroom, latest_zero, latest_zero]
  rw [record, if_pos h, hforget]
  dsimp only
  rw [hkept]

theorem record_of_not_accepts (h : ¬ log.accepts entry) : log.record entry = log := if_neg h

@[simp] theorem threshold_record (log : Log) (entry : Entry) :
    (log.record entry).threshold = log.threshold := by
  unfold record
  split_ifs <;> rfl

@[simp] theorem capacity_record (log : Log) (entry : Entry) :
    (log.record entry).capacity = log.capacity := by
  unfold record
  split_ifs <;> rfl

@[simp] theorem console_record (log : Log) (entry : Entry) :
    (log.record entry).console = log.console := by
  unfold record
  split_ifs <;> rfl

theorem kept_setCapacity (log : Log) (capacity : Nat) :
    (log.setCapacity capacity).kept = latest capacity log.kept := by
  apply forgetWhile_eq_latest
  intro others
  rw [decide_eq_true_iff, Nat.lt_succ_iff]

/-- No entry is below the threshold for debugging. -/
theorem accepts_of_threshold_debug (h : log.threshold = .debug) (entry : Entry) :
    log.accepts entry := by
  rw [accepts, h]
  exact decide_eq_true (Nat.zero_le _)

/-- No threshold is above a fatal entry. -/
theorem accepts_fatal (log : Log) (message : Bytes) : log.accepts (.of .fatal message) := by
  rw [accepts, Entry.severity_of]
  cases log.threshold <;> rfl

/-- An accepted entry is kept after the others while there is room. -/
theorem kept_record_of_room (h : log.accepts entry) (hroom : log.kept.length < log.capacity) :
    (log.record entry).kept = log.kept ++ [entry] := by
  rw [record_of_accepts h]
  apply latest_of_length_le
  rw [List.length_append]
  exact hroom

/-- Accepted entries for which there is room are kept and, if the console is on, shown, all of them
in their order. -/
theorem recordAll_of_room {entries : List Entry} (h : ∀ entry ∈ entries, log.accepts entry)
    (hroom : log.kept.length + entries.length ≤ log.capacity) :
    log.recordAll entries =
      { log with
        kept := log.kept ++ entries
        shown := if log.console then log.shown ++ entries else log.shown } := by
  induction entries generalizing log with
  | nil => simp [recordAll]
  | cons entry rest ih =>
      obtain ⟨hentry, hrest⟩ := List.forall_mem_cons.mp h
      rw [List.length_cons] at hroom
      have hkept := kept_record_of_room hentry (show log.kept.length < log.capacity by omega)
      have hshown : (log.record entry).shown =
          if log.console then log.shown ++ [entry] else log.shown := by
        rw [record_of_accepts hentry]
      have haccepts : ∀ other ∈ rest, (log.record entry).accepts other := by
        intro other hother
        rw [accepts, threshold_record]
        exact hrest other hother
      have hroom' : (log.record entry).kept.length + rest.length ≤ (log.record entry).capacity := by
        rw [hkept, capacity_record, List.length_append, List.length_singleton]
        omega
      show (log.record entry).recordAll rest = _
      rw [ih haccepts hroom', hkept, hshown, capacity_record, threshold_record, console_record,
        List.append_assoc, List.singleton_append]
      split_ifs
      · rw [List.append_assoc, List.singleton_append]
      · rfl

end Log

end Custody
