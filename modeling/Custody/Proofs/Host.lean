import Custody.Host
import Custody.Proofs.Desk.Operations

/-!
# What commands do to the ledger and the audit chain

The host decodes, publishes, replies and logs, and much of that can fail on the way.
None of it reaches the ledger: `answerAll_follows_ledger` says that the commands of a
text leave the ledger that their calls leave, one after another, and that the effects of
the accepted calls are bonded onto the audit chain in the same order, whether or not
their delivery succeeds. Each command counts once, as accepted or as rejected. The step
lemma is `executeLine_follows`; what publishing, delivery and replies leave alone is
`Keeps`.
-/

namespace Custody

open Ledger (Effect Receipt Rejection Call)

/-- The change that the result of a call reports, if it reports one. -/
def Ledger.effect? : Except Rejection Receipt → Option Effect
  | .ok (.changed effect) => some effect
  | _ => none

/-- The registry after an effect is published, which bonds its text if it has one. -/
def Registry.follow (library : Json.Library) (registry : Registry) (effect : Effect) : Registry :=
  match library.dump (.record (Json.effectFields effect)) with
  | .ok payload => registry.bond payload
  | .error _ => registry

namespace Command

/-- The call that a line makes, if it holds a command that makes one. -/
def lineCall? (library : Json.Library) (line : Bytes) : Option Call :=
  match library.parse line with
  | .error _ => none
  | .ok doc => (read library doc).toOption.bind call?

/-- The lines of a text that are not blank. -/
def commandLines (text : Bytes) : List Bytes := (lines text).filter (! isBlank ·)

end Command

namespace Host

open Custody.Work (run_bind run_forM_cons run_get run_tryCatch run_ite)

/-- The part of a host that commands are about. -/
structure Standing where
  ledger : Ledger
  registry : Registry
  accepted : Nat
  rejected : Nat

/-- The part of the host that commands are about. -/
def standing (host : Host) : Standing :=
  ⟨host.desk.ledger, host.registry, host.accepted, host.rejected⟩

/-- The standing after an operation on one token comes to this. -/
def Standing.settle (library : Json.Library) (standing : Standing) :
    Except Rejection (Ledger × Effect) → Standing
  | .ok (changed, effect) =>
    { standing with ledger := changed, registry := standing.registry.follow library effect }
  | .error _ => standing

/-- The standing after a call, if one is made: the ledger makes a step, and the effect that it
reports is bonded onto the audit chain. -/
def Standing.follow (library : Json.Library) (scheme : Scheme) (standing : Standing) :
    Option Call → Standing
  | none => standing
  | some call =>
    let outcome := standing.ledger.step scheme call
    { standing with
      ledger := outcome.1
      registry := (Ledger.effect? outcome.2).elim standing.registry
        (standing.registry.follow library) }

/-- The standing is the same but for one command more, counted as accepted or as rejected. -/
def Counted (before after : Standing) : Prop :=
  after = { before with accepted := before.accepted + 1 } ∨
    after = { before with rejected := before.rejected + 1 }

namespace Work

variable {α β : Type} {library : Json.Library} {scheme : Scheme} {host : Host}

/-! ### What leaves the standing alone -/

/-- The work leaves the standing of every host as it was, whether or not it is broken off. -/
def Keeps (work : Work α) : Prop := ∀ host, (work.run host).1.standing = host.standing

theorem Keeps.pure (value : α) : Keeps (pure value) := fun _ => rfl

theorem Keeps.bind {work : Work α} {next : α → Work β} (hwork : Keeps work)
    (hnext : ∀ value, Keeps (next value)) : Keeps (work >>= next) := by
  intro host
  rw [run_bind, ← hwork host]
  rcases work.run host with ⟨after, raised | value⟩
  · rfl
  · exact hnext value after

theorem Keeps.ite {c : Prop} [Decidable c] {yes no : Work α} (hyes : Keeps yes) (hno : Keeps no) :
    Keeps (if c then yes else no) := by
  split_ifs
  · exact hyes
  · exact hno

theorem Keeps.forM {items : List α} {work : α → Work Unit} (h : ∀ item, Keeps (work item)) :
    Keeps (items.forM work) := by
  induction items with
  | nil => exact Keeps.pure ()
  | cons item rest ih => exact (h item).bind fun _ => ih

theorem keeps_ofExcept (result : Except Failure α) : Keeps (ofExcept result) := by
  intro host
  cases result <;> rfl

theorem keeps_dump (doc : Json) : Keeps (dump library doc) := keeps_ofExcept _

theorem keeps_note (severity : Severity) (message : Bytes) : Keeps (note severity message) :=
  fun _ => rfl

theorem keeps_atPlaces (work : Places → Places × Except Fault α) : Keeps (atPlaces work) := by
  intro host
  unfold atPlaces
  simp only [run_bind, run_get]
  rcases work host.places with ⟨places, raised | value⟩ <;> rfl

theorem keeps_deliver (line : Bytes) (sink : Sink) : Keeps (deliver line sink) := by
  unfold deliver
  refine Keeps.ite ((keeps_atPlaces _).bind fun delivered => ?_) (Keeps.pure ())
  exact Keeps.ite (Keeps.pure ()) (keeps_note _ _)

/-! ### Publishing -/

theorem run_ofExcept (result : Except Failure α) (host : Host) :
    (ofExcept result).run host = (host, result) := by
  cases result <;> rfl

/-- What happens behind the bond leaves the standing alone, and so does a text that cannot be
written. -/
theorem standing_publish (effect : Effect) (host : Host) :
    ((publish library effect).run host).1.standing =
      { host.standing with registry := host.registry.follow library effect } := by
  unfold publish Registry.follow
  rw [run_bind, dump, run_ofExcept]
  cases library.dump (.record (Json.effectFields effect)) with
  | error wording => rfl
  | ok payload =>
      have hrest : Keeps (do
          let registry := (← (get : Work Host)).registry
          let published := Json.record (Json.effectFields effect ++
            [("sequence", .unsigned (.ofNat registry.published)),
              ("audit_head", .string registry.auditHead)])
          let line ← dump library published
          registry.sinks.values.forM (deliver line)
          return published) := by
        refine Keeps.bind (fun _ => rfl) fun host => (keeps_dump _).bind fun line => ?_
        exact (Keeps.forM (keeps_deliver line)).bind fun _ => Keeps.pure _
      exact hrest { host with registry := host.registry.bond payload }

theorem standing_commit (effect : Effect) (host : Host) :
    ((commit library effect).run host).1.standing =
      { host.standing with registry := host.registry.follow library effect } := by
  rw [← standing_publish, commit, run_bind]
  rcases (publish library effect).run host with ⟨after, raised | payload⟩ <;> rfl

/-! ### Commands -/

theorem run_atDesk (work : Desk.Work α) (host : Host) :
    (atDesk work).run host =
      ({ host with desk := (work.run host.desk).1 },
        (work.run host.desk).2.mapError .ofRaised) := by
  unfold atDesk
  simp only [run_bind, run_get]
  rcases work.run host.desk with ⟨desk, raised | value⟩ <;> rfl

/-- An operation that settles at the desk is published if it is accepted. -/
theorem standing_commit_atDesk {work : Desk.Work Effect}
    {outcome : Except Rejection (Ledger × Effect)}
    (hwork : work.run host.desk = host.desk.settle Effect.entry outcome) :
    ((atDesk work >>= commit library).run host).1.standing =
      host.standing.settle library outcome := by
  rw [run_bind, run_atDesk, hwork]
  rcases outcome with cause | ⟨changed, effect⟩
  · rfl
  · exact standing_commit effect _

variable (library scheme)

/-- A command makes the step of its call on the ledger, whatever becomes of it afterwards. -/
theorem standing_dispatch (command : Command) (host : Host) :
    ((dispatch library scheme command).run host).1.standing =
      host.standing.follow library scheme command.call? := by
  cases command with
  | deposit caller txn =>
      refine (standing_commit_atDesk (Desk.Work.run_deposit scheme caller txn host.desk)).trans ?_
      simp only [Standing.follow, Command.call?, standing, Ledger.step, Ledger.perform]
      cases host.desk.ledger.deposit scheme caller txn <;> rfl
  | transfer caller txn =>
      refine (standing_commit_atDesk (Desk.Work.run_transfer scheme caller txn host.desk)).trans ?_
      simp only [Standing.follow, Command.call?, standing, Ledger.step, Ledger.perform]
      cases host.desk.ledger.transfer scheme caller txn <;> rfl
  | withdraw caller token =>
      refine (standing_commit_atDesk (Desk.Work.run_withdraw caller token host.desk)).trans ?_
      simp only [Standing.follow, Command.call?, standing, Ledger.step, Ledger.perform]
      cases host.desk.ledger.withdraw caller token <;> rfl
  | query token => rfl
  | classify first second => rfl

/-- A failure is counted and replied to, and that is all. -/
theorem run_refuse (failure : Failure) (host : Host) :
    ∃ after reply, (refuse failure).run host = (after, .ok reply) ∧
      after.standing = { host.standing with rejected := host.rejected + 1 } := by
  cases failure <;> exact ⟨_, _, rfl, rfl⟩

/-- A document is always replied to. Whatever fails, the ledger and the audit chain are those after
the call of its command, and the command is counted. -/
theorem execute_follows (doc : Json) (host : Host) :
    ∃ after reply, (execute library scheme doc).run host = (after, .ok reply) ∧
      Counted (host.standing.follow library scheme
        ((Command.read library doc).toOption.bind Command.call?)) after.standing := by
  unfold execute
  rw [run_tryCatch, run_bind, run_ofExcept]
  cases Command.read library doc with
  | error failure =>
      obtain ⟨after, reply, hrun, hafter⟩ := run_refuse failure host
      exact ⟨after, reply, hrun, .inr hafter⟩
  | ok command =>
      have hstanding := standing_dispatch library scheme command host
      dsimp only [Except.toOption, Option.bind_some]
      rw [← hstanding, run_bind]
      rcases (dispatch library scheme command).run host with ⟨worked, failure | reply⟩
      · obtain ⟨after, reply, hrun, hafter⟩ := run_refuse failure worked
        exact ⟨after, reply, hrun, .inr hafter⟩
      · exact ⟨_, reply, rfl, .inl rfl⟩

/-- A line is always replied to, and is counted. The ledger and the audit chain are those after the
call that it makes. -/
theorem executeLine_follows (line : Bytes) (host : Host) :
    ∃ after reply, (executeLine library scheme line).run host = (after, .ok reply) ∧
      Counted (host.standing.follow library scheme (Command.lineCall? library line))
        after.standing := by
  unfold executeLine Command.lineCall?
  cases library.parse line with
  | error wording => exact ⟨_, _, rfl, .inr rfl⟩
  | ok doc => exact execute_follows library scheme doc host

/-- Writing the reply adds nothing to what the line did. -/
theorem answer_follows {line : Bytes} (hline : Command.isBlank line = false) (host : Host) :
    Counted (host.standing.follow library scheme (Command.lineCall? library line))
      ((answer library scheme line).run host).1.standing := by
  obtain ⟨after, reply, hrun, hafter⟩ := executeLine_follows library scheme line host
  have hrest : Keeps (do
      let reply ← dump library reply
      let _ ← atPlaces (·.write (reply ++ utf8 "\n"))) :=
    (keeps_dump reply).bind fun _ => (keeps_atPlaces _).bind fun _ => Keeps.pure ()
  unfold answer
  rw [hline, run_ite, if_neg Bool.false_ne_true, run_bind, hrun]
  dsimp only
  rw [hrest after]
  exact hafter

theorem run_answer_of_isBlank {line : Bytes} (hline : Command.isBlank line) (host : Host) :
    (answer library scheme line).run host = (host, .ok ()) := by
  unfold answer
  rw [run_ite, if_pos hline]
  rfl

end Work

/-! ### Runs -/

/-- The lines were answered on the way between the standings: the ledger is the one after their
calls, their effects were bonded onto the audit chain in order, and each command was counted. -/
structure Answered (library : Json.Library) (scheme : Scheme) (lines : List Bytes)
    (before after : Standing) : Prop where
  ledger : after.ledger =
    (before.ledger.run scheme (lines.filterMap (Command.lineCall? library))).1
  registry : after.registry =
    ((before.ledger.run scheme (lines.filterMap (Command.lineCall? library))).2.filterMap
      Ledger.effect?).foldl (Registry.follow library) before.registry
  counted : after.accepted + after.rejected = before.accepted + before.rejected + lines.length

variable {library : Json.Library} {scheme : Scheme}

theorem Answered.nil (standing : Standing) : Answered library scheme [] standing standing :=
  ⟨rfl, rfl, rfl⟩

theorem Counted.kept {before after : Standing} (h : Counted before after) :
    after.ledger = before.ledger ∧ after.registry = before.registry ∧
      after.accepted + after.rejected = before.accepted + before.rejected + 1 := by
  rcases h with rfl | rfl
  · exact ⟨rfl, rfl, Nat.add_right_comm _ _ _⟩
  · exact ⟨rfl, rfl, rfl⟩

/-- One more line in front is answered first. -/
theorem Answered.cons {line : Bytes} {rest : List Bytes} {before next after : Standing}
    (hline : Counted (before.follow library scheme (Command.lineCall? library line)) next)
    (hrest : Answered library scheme rest next after) :
    Answered library scheme (line :: rest) before after := by
  obtain ⟨hledger, hregistry, hcounted⟩ := hrest
  obtain ⟨hnextLedger, hnextRegistry, hnextCounted⟩ := hline.kept
  rw [hnextLedger] at hledger hregistry
  rw [hnextRegistry] at hregistry
  rw [hnextCounted] at hcounted
  cases hcall : Command.lineCall? library line with
  | none =>
      rw [hcall] at hledger hregistry hcounted
      constructor
      · rw [List.filterMap_cons_none hcall, hledger]
        rfl
      · rw [List.filterMap_cons_none hcall, hregistry]
        rfl
      · rw [hcounted, List.length_cons, Nat.add_right_comm, Nat.add_assoc]
        rfl
  | some call =>
      rw [hcall] at hledger hregistry hcounted
      constructor
      · rw [List.filterMap_cons_some hcall, Ledger.run_cons, hledger]
        rfl
      · rw [List.filterMap_cons_some hcall, Ledger.run_cons, hregistry, List.filterMap_cons]
        dsimp only [Standing.follow]
        cases Ledger.effect? (before.ledger.step scheme call).2 <;> rfl
      · rw [hcounted, List.length_cons, Nat.add_right_comm, Nat.add_assoc]
        rfl

/-- Lines that are answered to the end are answered one after another. Blank lines play no part. -/
theorem answered_of_run (lines : List Bytes) {host after : Host}
    (h : (lines.forM (Work.answer library scheme)).run host = (after, .ok ())) :
    Answered library scheme (lines.filter (! Command.isBlank ·)) host.standing after.standing := by
  induction lines generalizing host with
  | nil =>
      cases h
      exact .nil _
  | cons line rest ih =>
      rw [run_forM_cons] at h
      cases hblank : Command.isBlank line with
      | true =>
          rw [Work.run_answer_of_isBlank library scheme hblank] at h
          rw [List.filter_cons_of_neg (by simp [hblank])]
          exact ih h
      | false =>
          have hline := Work.answer_follows library scheme hblank host
          rw [List.filter_cons_of_pos (by simp [hblank])]
          rcases hrun : (Work.answer library scheme line).run host with ⟨next, raised | ⟨⟩⟩
          · rw [hrun] at h
            cases h
          · rw [hrun] at h hline
            exact .cons hline (ih h)

/-- The commands of a text that is answered to the end leave the ledger that their calls leave, one
after another. The effects of the accepted calls are bonded onto the audit chain in the same order,
and each command is counted once. What is told at the end is how many of them were rejected. -/
theorem answerAll_follows_ledger (library : Json.Library) (scheme : Scheme) (text : Bytes)
    (host after : Host) (rejections : Nat)
    (h : (Work.answerAll library scheme text).run host = (after, .ok rejections)) :
    Answered library scheme (Command.commandLines text) host.standing after.standing ∧
      rejections = after.rejected - host.rejected := by
  unfold Work.answerAll at h
  simp only [run_bind, run_get] at h
  rcases hrun : ((Command.lines text).forM (Work.answer library scheme)).run host with
    ⟨last, raised | ⟨⟩⟩
  · rw [hrun] at h
    cases h
  · rw [hrun] at h
    cases h
    exact ⟨answered_of_run _ hrun, rfl⟩

end Host

end Custody
