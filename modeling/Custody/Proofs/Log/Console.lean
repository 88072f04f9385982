import Custody.Proofs.Log.Retention

/-!
# What a log shows and what it holds do not depend on each other

Every accepted entry that is logged while the console is on makes one line on the
channel of its severity, and nothing else is written, by `shown_run`. The capacity
plays no part in which entries these are, by `logged_eq_of_filter`. Conversely the
console plays no part in what the log holds: two logs with the same entries, capacity
and threshold are alike, whatever they have shown, and `Alike.run` says that they stay
alike when changes of the console are left out on one side. The main theorem is
`channels_apart_from_kept`.
-/

namespace Custody

/-! ### The channel of an entry -/

namespace Entry

theorem channel_eq_alarms_iff {entry : Entry} :
    entry.channel = .alarms ↔ Severity.warn.rank ≤ entry.severity.rank := by
  unfold channel
  split_ifs with h
  · exact iff_of_true rfl h
  · exact iff_of_false (by simp) h

theorem channel_eq_notices_iff {entry : Entry} :
    entry.channel = .notices ↔ entry.severity.rank < Severity.warn.rank := by
  unfold channel
  split_ifs with h
  · exact iff_of_false (by simp) (Nat.not_lt.mpr h)
  · exact iff_of_true rfl (Nat.lt_of_not_le h)

/-- No entry is written where the replies go. -/
theorem channel_ne_replies (entry : Entry) : entry.channel ≠ .replies := by
  unfold channel
  split_ifs <;> simp

end Entry

namespace Log

variable {log other : Log} {actions others : List Action}

/-- The accepted entries that are logged while the console is on, oldest first. -/
def shownBy (log : Log) (actions : List Action) : List Entry :=
  ((logged log.threshold log.console actions).filter fun logged =>
    logged.isAccepted && logged.console).map (·.entry)

/-- The console state that an action sets, if it sets one. -/
def Action.console? : Action → Option Bool
  | .setConsole on => some on
  | _ => none

/-! ### What is shown -/

theorem shownBy_cons (log : Log) (action : Action) (rest : List Action) :
    log.shownBy (action :: rest) = log.shownBy [action] ++ (log.act action).shownBy rest := by
  rw [shownBy, ← List.singleton_append, logged_append, List.filter_append, List.map_append]
  rfl

theorem shownBy_record (log : Log) (entry : Entry) :
    log.shownBy [.record entry] = if log.accepts entry && log.console then [entry] else [] := by
  rw [shownBy, logged, logged, List.filter_singleton, isAccepted_eq_accepts]
  cases log.accepts entry && log.console <;> rfl

/-- One use shows what it logs, if the entry is accepted and the console is on. -/
theorem shown_act (log : Log) (action : Action) :
    (log.act action).shown = log.shown ++ log.shownBy [action] := by
  cases action with
  | record entry =>
      rw [act, shownBy_record]
      by_cases haccepts : log.accepts entry
      · rw [record_of_accepts haccepts, haccepts, Bool.true_and]
        dsimp only
        split_ifs
        · rfl
        · exact (List.append_nil _).symm
      · rw [record_of_not_accepts haccepts, Bool.eq_false_iff.mpr haccepts, Bool.false_and]
        exact (List.append_nil _).symm
  | setLevel | setCapacity | setConsole => exact (List.append_nil _).symm

/-- Of the entries that are logged, the accepted ones are shown while the console is on. -/
theorem shown_run (log : Log) (actions : List Action) :
    (log.run actions).shown = log.shown ++ log.shownBy actions := by
  induction actions generalizing log with
  | nil => exact (List.append_nil _).symm
  | cons action rest ih =>
      rw [shownBy_cons, ← List.append_assoc, ← shown_act]
      exact ih (log.act action)

theorem text_run (log : Log) (actions : List Action) (channel : Channel) :
    (log.run actions).text channel =
      log.text channel ++
        ((log.shownBy actions).filter (·.channel = channel)).flatMap Entry.line := by
  rw [text, shown_run, List.filter_append, List.flatMap_append]
  rfl

/-! ### The capacity -/

/-- What is logged does not change when the changes of the capacity are left out. -/
theorem logged_filter (threshold : Severity) (console : Bool) (actions : List Action) :
    logged threshold console (actions.filter (·.capacity?.isNone)) =
      logged threshold console actions := by
  induction actions generalizing threshold console with
  | nil => rfl
  | cons action rest ih =>
      cases action with
      | record entry => exact congrArg (List.cons _) (ih threshold console)
      | setLevel level => exact ih (.ofName level) console
      | setCapacity capacity => exact ih threshold console
      | setConsole on => exact ih threshold on

/-- Uses that differ only in the capacities set among them log the same. -/
theorem logged_eq_of_filter
    (h : others.filter (·.capacity?.isNone) = actions.filter (·.capacity?.isNone))
    (threshold : Severity) (console : Bool) :
    logged threshold console others = logged threshold console actions := by
  rw [← logged_filter, h, logged_filter]

/-! ### The console -/

/-- Two logs with the same entries, capacity and threshold, whatever they have shown. -/
structure Alike (log other : Log) : Prop where
  kept : log.kept = other.kept
  capacity : log.capacity = other.capacity
  threshold : log.threshold = other.threshold

namespace Alike

theorem refl (log : Log) : Alike log log := ⟨rfl, rfl, rfl⟩

theorem record (h : Alike log other) (entry : Entry) :
    Alike (log.record entry) (other.record entry) := by
  refine ⟨?_, by rw [capacity_record, capacity_record, h.capacity],
    by rw [threshold_record, threshold_record, h.threshold]⟩
  have hsame : log.accepts entry = other.accepts entry := by
    rw [accepts, accepts, h.threshold]
  by_cases haccepts : log.accepts entry
  · rw [record_of_accepts haccepts, record_of_accepts (hsame ▸ haccepts)]
    dsimp only
    rw [h.kept, h.capacity]
  · rw [record_of_not_accepts haccepts, record_of_not_accepts (hsame ▸ haccepts)]
    exact h.kept

theorem act (h : Alike log other) (action : Action) : Alike (log.act action) (other.act action) := by
  cases action with
  | record entry => exact h.record entry
  | setLevel level => exact ⟨h.kept, h.capacity, rfl⟩
  | setCapacity capacity =>
      refine ⟨?_, rfl, h.threshold⟩
      rw [Log.act, Log.act, kept_setCapacity, kept_setCapacity, h.kept]
  | setConsole on => exact ⟨h.kept, h.capacity, h.threshold⟩

/-- Two logs stay alike when changes of the console are left out for one of them. -/
theorem run (h : Alike log other) (actions : List Action) :
    Alike (log.run actions) (other.run (actions.filter (·.console?.isNone))) := by
  induction actions generalizing log other with
  | nil => exact h
  | cons action rest ih =>
      cases action with
      | setConsole on => exact ih ⟨h.kept, h.capacity, h.threshold⟩
      | record | setLevel | setCapacity => exact ih (h.act _)

end Alike

/-- Uses that differ only in the console states set among them leave the same entries. -/
theorem kept_eq_of_filter (log : Log)
    (h : others.filter (·.console?.isNone) = actions.filter (·.console?.isNone)) :
    (log.run others).kept = (log.run actions).kept := by
  have hothers := (Alike.refl log).run others
  rw [h] at hothers
  exact hothers.kept.trans ((Alike.refl log).run actions).kept.symm

/-- For every log and every sequence of uses, each accepted entry that is logged while the console
is on makes one line, among the alarms from `WARN` up and else among the notices, in their order.
Nothing else is written there, and nothing at all among the replies. Changing, inserting or removing
changes of the capacity leaves all that is written as it is, and changing, inserting or removing
changes of the console leaves the entries that the log holds as they are. -/
theorem channels_apart_from_kept (log : Log) (actions : List Action) :
    (log.run actions).text .alarms = log.text .alarms ++
      ((log.shownBy actions).filter fun entry =>
        Severity.warn.rank ≤ entry.severity.rank).flatMap (fun entry => entry.text ++ utf8 "\n") ∧
    (log.run actions).text .notices = log.text .notices ++
      ((log.shownBy actions).filter fun entry =>
        entry.severity.rank < Severity.warn.rank).flatMap (fun entry => entry.text ++ utf8 "\n") ∧
    (log.run actions).text .replies = [] ∧
    (∀ others : List Action,
      others.filter (·.capacity?.isNone) = actions.filter (·.capacity?.isNone) →
        ∀ channel, (log.run others).text channel = (log.run actions).text channel) ∧
    ∀ others : List Action,
      others.filter (·.console?.isNone) = actions.filter (·.console?.isNone) →
        (log.run others).kept = (log.run actions).kept := by
  refine ⟨?_, ?_, ?_, ?_, fun _ => kept_eq_of_filter log⟩
  · rw [text_run]
    simp only [Entry.channel_eq_alarms_iff]
    rfl
  · rw [text_run]
    simp only [Entry.channel_eq_notices_iff]
    rfl
  · simp [text, Entry.channel_ne_replies]
  · intro others h channel
    rw [text_run, text_run, shownBy, shownBy, logged_eq_of_filter h]

end Log

namespace Sample

/-- The uses of `squeezed` with other capacities. -/
def rationed : List Log.Action :=
  .setCapacity 0 :: squeezed.filter (·.capacity?.isNone)

/-- The uses of `squeezed` with the console off at first. -/
def muted : List Log.Action := .setConsole false :: squeezed ++ [.setConsole true]

end Sample

/-- A log without capacity holds no entry and writes the same lines. One whose console is off writes
none and holds the same entries. -/
theorem Log.channels_apart_from_kept_squeezed :
    let log := ({} : Log).run Sample.squeezed
    let rationed := ({} : Log).run Sample.rationed
    let muted := ({} : Log).run Sample.muted
    Sample.rationed.filter (·.capacity?.isNone) = Sample.squeezed.filter (·.capacity?.isNone) ∧
      Sample.muted.filter (·.console?.isNone) = Sample.squeezed.filter (·.console?.isNone) ∧
      log.text .alarms = utf8 "[WARN] second\n[ERROR] fourth\n" ∧
      log.text .notices = utf8 "[INFO] first\n[INFO] third\n" ∧
      (∀ channel, rationed.text channel = log.text channel) ∧ rationed.kept = [] ∧
      muted.kept = log.kept ∧ muted.shown = [] := by
  intro log rationed muted
  have hrationed : Sample.rationed.filter (·.capacity?.isNone) =
      Sample.squeezed.filter (·.capacity?.isNone) := rfl
  have hmuted : Sample.muted.filter (·.console?.isNone) =
      Sample.squeezed.filter (·.console?.isNone) := rfl
  obtain ⟨halarms, hnotices, _, hcapacity, hconsole⟩ :=
    Log.channels_apart_from_kept {} Sample.squeezed
  exact ⟨hrationed, hmuted, halarms.trans (by decide +kernel), hnotices.trans (by decide +kernel),
    hcapacity _ hrationed, rfl, hconsole _ hmuted, by decide +kernel⟩

end Custody
