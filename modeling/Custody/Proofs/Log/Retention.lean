import Custody.Proofs.Log
import Mathlib.Data.List.Infix
import Mathlib.Data.List.Induction

/-!
# Which entries a log still holds

What a log holds after a sequence of uses depends on the whole sequence, because an
entry that was once forgotten stays so when the capacity is raised again. `Retained`
says of the place of an entry among the accepted ones that the entry was in reach
throughout: at every moment since, fewer entries had been accepted after it than the
capacity in force. One use of the log leaves the latest of the entries that it held
and accepted, by `kept_act`, and from this the main theorem,
`retention_is_exact`, follows by induction on the uses: the log holds exactly the
accepted entries whose places are retained.
-/

namespace Custody.Log

/-! ### What is logged -/

/-- An entry that was logged, with the settings in force at that moment. -/
structure Logged where
  /-- The entry. -/
  entry : Entry
  /-- The threshold in force. -/
  threshold : Severity
  /-- Whether the console was on. -/
  console : Bool

/-- The entry was grave enough for the threshold. -/
def Logged.isAccepted (logged : Logged) : Bool :=
  logged.threshold.rank ≤ logged.entry.severity.rank

/-- What is logged in the course of the actions, oldest first, if these are the settings at first. -/
def logged (threshold : Severity) (console : Bool) : List Action → List Logged
  | [] => []
  | .record entry :: rest => ⟨entry, threshold, console⟩ :: logged threshold console rest
  | .setLevel level :: rest => logged (.ofName level) console rest
  | .setCapacity _ :: rest => logged threshold console rest
  | .setConsole on :: rest => logged threshold on rest

/-- The entries that the log accepts in the course of the actions, oldest first. -/
def acceptedBy (log : Log) (actions : List Action) : List Entry :=
  ((logged log.threshold log.console actions).filter Logged.isAccepted).map (·.entry)

/-- The entries that a new log accepts in the course of the actions. -/
def accepted (actions : List Action) : List Entry := acceptedBy {} actions

/-- The capacity that an action sets, if it sets one. -/
def Action.capacity? : Action → Option Nat
  | .setCapacity capacity => some capacity
  | _ => none

/-- The capacity in force after the actions: the one that was set last, or else the initial one. -/
def capacityAfter (actions : List Action) : Nat :=
  (actions.filterMap Action.capacity?).getLastD 200

/-- An entry with this place among the accepted ones was in reach throughout: at every moment since
it was logged, fewer entries had been accepted after it than the capacity in force. -/
def Retained (actions : List Action) (place : Nat) : Prop :=
  ∀ moment ∈ actions.inits, place < (accepted moment).length →
    ((accepted moment).drop (place + 1)).length < capacityAfter moment

instance (actions : List Action) : DecidablePred (Retained actions) := fun _ =>
  inferInstanceAs (Decidable (∀ _ ∈ _, _))

/-! ### Sequences of uses -/

theorem run_concat (log : Log) (actions : List Action) (action : Action) :
    log.run (actions ++ [action]) = (log.run actions).act action :=
  List.foldl_concat ..

/-- What is logged later is logged under the settings that the earlier uses leave. -/
theorem logged_append (log : Log) (actions later : List Action) :
    logged log.threshold log.console (actions ++ later) =
      logged log.threshold log.console actions ++
        logged (log.run actions).threshold (log.run actions).console later := by
  induction actions generalizing log with
  | nil => rfl
  | cons action rest ih =>
      cases action with
      | record entry =>
          have hrest := ih (log.record entry)
          rw [threshold_record, console_record] at hrest
          exact congrArg (List.cons _) hrest
      | setLevel level => exact ih (log.setLevel level)
      | setCapacity capacity => exact ih (log.setCapacity capacity)
      | setConsole on => exact ih (log.setConsole on)

theorem acceptedBy_append (log : Log) (actions later : List Action) :
    log.acceptedBy (actions ++ later) =
      log.acceptedBy actions ++ (log.run actions).acceptedBy later := by
  rw [acceptedBy, logged_append, List.filter_append, List.map_append]
  rfl

theorem capacity_act (log : Log) (action : Action) :
    (log.act action).capacity = action.capacity?.getD log.capacity := by
  cases action with
  | record entry => exact capacity_record log entry
  | setLevel | setCapacity | setConsole => rfl

theorem capacityAfter_concat (actions : List Action) (action : Action) :
    capacityAfter (actions ++ [action]) = action.capacity?.getD (capacityAfter actions) := by
  rw [capacityAfter, List.filterMap_append]
  cases hcapacity : action.capacity? with
  | none =>
      rw [List.filterMap_cons_none hcapacity, List.filterMap_nil, List.append_nil]
      rfl
  | some capacity =>
      rw [List.filterMap_cons_some hcapacity, List.filterMap_nil]
      exact List.getLastD_concat ..

theorem capacity_run (actions : List Action) :
    (({} : Log).run actions).capacity = capacityAfter actions := by
  induction actions using List.reverseRecOn with
  | nil => rfl
  | append_singleton actions action ih =>
      rw [run_concat, capacity_act, ih, capacityAfter_concat]

/-! ### What one use leaves -/

variable {log : Log}

/-- An entry is accepted under the settings of the log when the log accepts it. -/
theorem isAccepted_eq_accepts (log : Log) (entry : Entry) :
    Logged.isAccepted ⟨entry, log.threshold, log.console⟩ = log.accepts entry := rfl

theorem acceptedBy_record (log : Log) (entry : Entry) :
    log.acceptedBy [.record entry] = if log.accepts entry then [entry] else [] := by
  rw [acceptedBy, logged, logged, List.filter_singleton, isAccepted_eq_accepts]
  cases log.accepts entry <;> rfl

/-- A use of a log that is within its capacity leaves the latest of the entries that it held and
accepts. -/
theorem kept_act (h : log.kept.length ≤ log.capacity) (action : Action) :
    (log.act action).kept =
      latest (log.act action).capacity (log.kept ++ log.acceptedBy [action]) := by
  have hunchanged : log.kept = latest log.capacity (log.kept ++ []) := by
    rw [List.append_nil, latest_of_length_le h]
  cases action with
  | record entry =>
      rw [act, capacity_record, acceptedBy_record]
      split_ifs with haccepts
      · rw [record_of_accepts haccepts]
      · rw [record_of_not_accepts haccepts]
        exact hunchanged
  | setCapacity capacity =>
      exact (kept_setCapacity log capacity).trans (congrArg _ (List.append_nil _).symm)
  | setLevel level => exact hunchanged
  | setConsole on => exact hunchanged

theorem length_kept_act_le (h : log.kept.length ≤ log.capacity) (action : Action) :
    (log.act action).kept.length ≤ (log.act action).capacity := by
  rw [kept_act h]
  exact length_latest_le ..

/-! ### What a sequence of uses leaves -/

theorem length_kept_run_le (h : log.kept.length ≤ log.capacity) (actions : List Action) :
    (log.run actions).kept.length ≤ (log.run actions).capacity := by
  induction actions generalizing log with
  | nil => exact h
  | cons action rest ih => exact ih (length_kept_act_le h action)

/-- A log holds the last of the entries that it held before and has accepted since. -/
theorem kept_run_suffix (h : log.kept.length ≤ log.capacity) (actions : List Action) :
    (log.run actions).kept <:+ log.kept ++ log.acceptedBy actions := by
  induction actions using List.reverseRecOn with
  | nil =>
      show log.kept <:+ log.kept ++ []
      rw [List.append_nil]
  | append_singleton actions action ih =>
      obtain ⟨before, hbefore⟩ := ih
      have hheld : (log.run actions).kept ++ (log.run actions).acceptedBy [action] <:+
          log.kept ++ log.acceptedBy (actions ++ [action]) := by
        rw [acceptedBy_append, ← List.append_assoc, ← hbefore, List.append_assoc]
        exact List.suffix_append ..
      rw [run_concat, kept_act (length_kept_run_le h actions)]
      exact (List.drop_suffix ..).trans hheld

/-! ### The places that are retained -/

/-- A place stays retained by one more use when the capacity after it leaves the place in reach. -/
theorem retained_concat_iff {actions : List Action} {action : Action} {place : Nat} :
    Retained (actions ++ [action]) place ↔
      Retained actions place ∧
        (accepted (actions ++ [action])).length - capacityAfter (actions ++ [action]) ≤ place := by
  have hlast : (place < (accepted (actions ++ [action])).length →
      ((accepted (actions ++ [action])).drop (place + 1)).length <
        capacityAfter (actions ++ [action])) ↔
      (accepted (actions ++ [action])).length - capacityAfter (actions ++ [action]) ≤ place := by
    rw [List.length_drop]
    omega
  rw [← hlast, Retained, Retained, List.inits_append, List.forall_mem_append]
  exact and_congr_right' List.forall_mem_singleton

/-- The forgotten entries are the first of the accepted ones, and the places after them are
retained. -/
theorem exists_kept_eq_drop (actions : List Action) :
    ∃ forgotten ≤ (accepted actions).length,
      (({} : Log).run actions).kept = (accepted actions).drop forgotten ∧
      ∀ place, Retained actions place ↔ forgotten ≤ place := by
  -- The uses are taken off at the end: the moments before the last one stay as they are.
  induction actions using List.reverseRecOn with
  | nil =>
      refine ⟨0, Nat.zero_le _, rfl, fun place => iff_of_true ?_ (Nat.zero_le _)⟩
      intro moment hmoment hplace
      rw [List.inits, List.mem_singleton] at hmoment
      rw [hmoment] at hplace
      exact absurd hplace (Nat.not_lt_zero _)
  | append_singleton actions action ih =>
      obtain ⟨forgotten, hle, hkept, hplaces⟩ := ih
      let fresh := (({} : Log).run actions).acceptedBy [action]
      have haccepted : accepted (actions ++ [action]) = accepted actions ++ fresh :=
        acceptedBy_append ..
      -- What was forgotten stays so, and more is forgotten where the capacity does not suffice.
      refine ⟨max forgotten
        ((accepted (actions ++ [action])).length - capacityAfter (actions ++ [action])), ?_, ?_, ?_⟩
      · rw [haccepted, List.length_append]
        omega
      · have hwithin := @length_kept_run_le {} (Nat.zero_le _) actions
        rw [haccepted, ← latest_drop_append hle, ← hkept, ← capacity_run, run_concat]
        exact kept_act hwithin action
      · intro place
        rw [retained_concat_iff, hplaces, Nat.max_le]

/-- The entries from a place on are those whose own place is not before it. -/
theorem drop_eq_map_filter_zipIdx {α : Type} (l : List α) (place start : Nat) :
    l.drop (place - start) =
      ((l.zipIdx start).filter (place ≤ ·.2)).map (·.1) := by
  induction l generalizing start with
  | nil => rw [List.drop_nil]; rfl
  | cons first rest ih =>
      rw [List.zipIdx_cons, List.filter_cons]
      by_cases hle : place ≤ start
      · rw [if_pos (decide_eq_true hle), List.map_cons, ← ih, Nat.sub_eq_zero_of_le hle,
          Nat.sub_eq_zero_of_le (Nat.le_succ_of_le hle)]
        rfl
      · have hnext : place - start = place - (start + 1) + 1 := by omega
        rw [if_neg (by simpa using hle), ← ih, hnext, List.drop_succ_cons]

/-- A log that was new before the actions holds exactly those of the accepted entries, in their
order, after which at every moment fewer others had been accepted than the capacity in force. They
are the last of the accepted ones and never exceed the capacity, so without capacity there are none.
A change of the capacity leaves the latest ones that fit, and whatever is done later, what the log
holds then are the last of the entries that it holds now and accepts from now on. -/
theorem retention_is_exact (actions : List Action) :
    let log := ({} : Log).run actions
    log.kept <:+ accepted actions ∧
    log.kept =
      ((accepted actions).zipIdx.filter fun numbered => Retained actions numbered.2).map (·.1) ∧
    log.kept.length ≤ capacityAfter actions ∧
    (capacityAfter actions = 0 → log.kept = []) ∧
    (∀ capacity, (log.setCapacity capacity).kept = latest capacity log.kept) ∧
    ∀ later, (log.run later).kept <:+ log.kept ++ log.acceptedBy later := by
  intro log
  have hnew : ({} : Log).kept.length ≤ ({} : Log).capacity := Nat.zero_le _
  have hwithin : log.kept.length ≤ log.capacity := length_kept_run_le hnew actions
  have hlength : log.kept.length ≤ capacityAfter actions := by
    rw [← capacity_run]
    exact hwithin
  refine ⟨kept_run_suffix hnew actions, ?_, hlength, ?_, kept_setCapacity log,
    kept_run_suffix hwithin⟩
  · obtain ⟨forgotten, _, hkept, hplaces⟩ := exists_kept_eq_drop actions
    simp only [hplaces]
    exact hkept.trans (drop_eq_map_filter_zipIdx (accepted actions) forgotten 0)
  · intro hnone
    rw [hnone] at hlength
    exact List.length_eq_zero_iff.mp (Nat.le_zero.mp hlength)

end Custody.Log

namespace Custody

/-- A log whose capacity goes down to one and up again, between entries of which the last is below
the threshold. -/
def Sample.squeezed : List Log.Action :=
  [.setCapacity 2, .record (.of .info (utf8 "first")), .record (.of .warn (utf8 "second")),
    .record (.of .info (utf8 "third")), .setCapacity 1, .setCapacity 3,
    .record (.of .error (utf8 "fourth")), .setLevel (utf8 "WARN"),
    .record (.of .info (utf8 "fifth"))]

/-- Of four accepted entries the last two are held, though there is room for three. Without capacity
none is held, and none comes back. -/
theorem Log.retention_is_exact_squeezed :
    let log := ({} : Log).run Sample.squeezed
    let emptied := ({} : Log).run (Sample.squeezed ++ [.setCapacity 0])
    (Log.accepted Sample.squeezed).length = 4 ∧ Log.capacityAfter Sample.squeezed = 3 ∧
      log.kept = [.of .info (utf8 "third"), .of .error (utf8 "fourth")] ∧
      Log.capacityAfter (Sample.squeezed ++ [.setCapacity 0]) = 0 ∧ emptied.kept = [] ∧
      (emptied.run [.setCapacity 9]).kept = [] := by
  intro log emptied
  obtain ⟨_, hkept, _⟩ := Log.retention_is_exact Sample.squeezed
  obtain ⟨_, _, _, hnone, _, hlater⟩ :=
    Log.retention_is_exact (Sample.squeezed ++ [.setCapacity 0])
  have hemptied : emptied.kept = [] := hnone rfl
  have hraised := hlater [.setCapacity 9]
  rw [hemptied] at hraised
  exact ⟨by decide +kernel, rfl, hkept.trans (by decide +kernel), rfl, hemptied,
    List.suffix_nil.mp hraised⟩

end Custody
