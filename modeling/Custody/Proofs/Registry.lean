import Custody.Sink.Registry
import Mathlib.Data.List.Dedup
import Mathlib.Tactic.Common

/-!
# The first well-formed definition of a sink stands

A registry is explained by its history, which is the single registrations and switches
since it was new, with each list of sinks taken apart. `Explains` says what the history
makes of an id: without a well-formed definition there is no such sink, and otherwise
the first well-formed definition stands, in the state to which the uses after it switched
it last. Every use of a registry extends the history that explains it, by
`Explained.act`, so a run does, by `explained_run`. The main theorem,
`first_definition_stands`, reads off what each use answers and what it leaves alone.
-/

namespace Custody.Registry

/-! ### Histories -/

/-- The single uses that a use consists of. Only a list of sinks is taken apart. -/
def Action.singles : Action → List Action
  | .register sink => [.register sink]
  | .registerAll sinks => sinks.map .register
  | .setActive id active => [.setActive id active]

/-- The uses, with each list of sinks taken apart into single registrations. -/
def flatten (uses : List Action) : List Action := uses.flatMap Action.singles

/-- The definitions that a use hands in. -/
def Action.definitions : Action → List Sink
  | .register sink => [sink]
  | .registerAll sinks => sinks
  | .setActive _ _ => []

/-- The definitions that the uses hand in, in their order. -/
def definitions (uses : List Action) : List Sink := uses.flatMap Action.definitions

/-- The uses hand in a well-formed definition of the sink with this id. -/
def Defined (uses : List Action) (id : Bytes) : Prop :=
  ∃ sink ∈ definitions uses, sink.id = id ∧ sink.WellFormed

instance (uses : List Action) : DecidablePred (Defined uses) := fun _ =>
  inferInstanceAs (Decidable (∃ _ ∈ _, _))

/-- The state to which a use switches the sink with this id, if it names it. -/
def Action.switch? (id : Bytes) : Action → Option Bool
  | .setActive named active => if named = id then some active else none
  | _ => none

/-- The state of the sink with this id after the uses: the one to which it was switched last, or
else the one at first. -/
def stateAfter (id : Bytes) (first : Bool) (uses : List Action) : Bool :=
  (uses.filterMap (Action.switch? id)).getLastD first

/-- What single uses of a new registry make of the sink with this id. -/
inductive Explains (uses : List Action) (id : Bytes) : Option Sink → Prop where
  /-- Without a well-formed definition there is no sink. -/
  | absent (hundefined : ¬ Defined uses id) : Explains uses id none
  /-- The first well-formed definition stands, in the state to which it was switched last. -/
  | present (before after : List Action) (first : Sink)
      (huses : uses = before ++ .register first :: after) (hid : first.id = id)
      (hwell : first.WellFormed) (hfirst : ¬ Defined before id) :
      Explains uses id (some { first with active := stateAfter id first.active after })

/-- The single uses explain every look-up in the registry. -/
def Explained (registry : Registry) (uses : List Action) : Prop :=
  ∀ id, Explains uses id (registry.find? id)

variable {registry : Registry} {uses : List Action} {id : Bytes} {sink : Sink}

/-! ### What a use adds to a history -/

theorem defined_append_iff {others : List Action} :
    Defined (uses ++ others) id ↔ Defined uses id ∨ Defined others id := by
  simp only [Defined, definitions, List.flatMap_append, List.mem_append, or_and_right, exists_or]

theorem defined_singleton_iff : Defined [.register sink] id ↔ sink.id = id ∧ sink.WellFormed := by
  show (∃ other ∈ [sink], other.id = id ∧ other.WellFormed) ↔ _
  simp only [List.mem_singleton, exists_eq_left]

theorem definitions_flatten (uses : List Action) : definitions (flatten uses) = definitions uses := by
  have hsingles (use : Action) : use.singles.flatMap Action.definitions = use.definitions := by
    cases use with
    | registerAll sinks => simp [Action.singles, Action.definitions, List.flatMap_map]
    | register | setActive => rfl
  rw [definitions, flatten, List.flatMap_assoc, funext hsingles, definitions]

theorem defined_flatten_iff : Defined (flatten uses) id ↔ Defined uses id := by
  rw [Defined, definitions_flatten, Defined]

/-- A last use decides the state if it names the sink. -/
theorem stateAfter_concat (id : Bytes) (first : Bool) (uses : List Action) (use : Action) :
    stateAfter id first (uses ++ [use]) = (use.switch? id).getD (stateAfter id first uses) := by
  rw [stateAfter, List.filterMap_append]
  cases hswitch : use.switch? id with
  | none =>
      rw [List.filterMap_cons_none hswitch, List.filterMap_nil, List.append_nil]
      rfl
  | some active =>
      rw [List.filterMap_cons_some hswitch, List.filterMap_nil]
      exact List.getLastD_concat ..

namespace Explains

variable {found? : Option Sink} {use : Action}

/-- There is a sink exactly when it was defined. -/
theorem isSome_iff (h : Explains uses id found?) : found?.isSome ↔ Defined uses id := by
  cases h with
  | absent hundefined => exact iff_of_false Bool.false_ne_true hundefined
  | present before after first huses hid hwell hfirst =>
      have hdefined : Defined [.register first] id := defined_singleton_iff.mpr ⟨hid, hwell⟩
      refine iff_of_true rfl ?_
      rw [huses, List.append_cons, defined_append_iff, defined_append_iff]
      exact .inl (.inr hdefined)

/-- A sink stands under its own id. -/
theorem id_eq (h : Explains uses id (some sink)) : sink.id = id := by
  cases h with
  | present before after first huses hid hwell hfirst => exact hid

/-- A sink that is not defined stays away. -/
theorem concat_absent (h : Explains uses id none) (hdefine : ¬ Defined [use] id) :
    Explains (uses ++ [use]) id none := by
  cases h with
  | absent hundefined =>
      apply absent
      rw [defined_append_iff]
      exact not_or_intro hundefined hdefine

/-- A sink that is there takes the state to which the use switches it, if it names it. -/
theorem concat_present (h : Explains uses id (some sink)) (use : Action) :
    Explains (uses ++ [use]) id
      (some { sink with active := (use.switch? id).getD sink.active }) := by
  cases h with
  | present before after first huses hid hwell hfirst =>
      have hmore : uses ++ [use] = before ++ .register first :: (after ++ [use]) := by
        rw [huses, List.append_assoc, List.cons_append]
      dsimp only
      rw [← stateAfter_concat]
      exact present before (after ++ [use]) first hmore hid hwell hfirst

/-- The first well-formed definition brings the sink. -/
theorem concat_register (h : Explains uses id none) (hid : sink.id = id) (hwell : sink.WellFormed) :
    Explains (uses ++ [.register sink]) id (some sink) := by
  cases h with
  | absent hundefined => exact present uses [] sink rfl hid hwell hundefined

/-- A use that neither switches the sink nor defines it where there is none changes nothing. -/
theorem concat_of_neutral (h : Explains uses id found?) (hswitch : use.switch? id = none)
    (hdefine : found? = none → ¬ Defined [use] id) : Explains (uses ++ [use]) id found? := by
  cases found? with
  | none => exact h.concat_absent (hdefine rfl)
  | some sink =>
      have hsame := h.concat_present use
      rw [hswitch] at hsame
      exact hsame

end Explains

/-! ### What a use does -/

/-- The two reasons for which a definition itself is refused exclude that it is well-formed. -/
theorem wellFormed_iff :
    sink.WellFormed ↔ ¬ (sink.kind ≠ Sink.stdoutKind ∧ sink.kind ≠ Sink.fileKind) ∧
      ¬ (sink.kind = Sink.fileKind ∧ sink.path = []) := by
  have hkinds : sink.kind = Sink.stdoutKind → sink.kind ≠ Sink.fileKind := by
    intro hkind
    rw [hkind]
    decide
  unfold Sink.WellFormed
  tauto

theorem refusal?_eq_none_iff :
    registry.refusal? sink = none ↔ registry.find? sink.id = none ∧ sink.WellFormed := by
  have hfree : registry.find? sink.id = none ↔ ¬ (registry.find? sink.id).isSome :=
    Option.not_isSome_iff_eq_none.symm
  rw [refusal?, wellFormed_iff, hfree]
  split_ifs with htaken hkind hpath
  · exact iff_of_false not_false fun h => h.1 htaken
  · exact iff_of_false not_false fun h => h.2.1 hkind
  · exact iff_of_false not_false fun h => h.2.2 hpath
  · exact iff_of_true rfl ⟨htaken, hkind, hpath⟩

theorem register_of_accepted (hfree : registry.find? sink.id = none) (hwell : sink.WellFormed) :
    registry.register sink = ⟨registry.insert sink, true, [registeredEntry sink]⟩ := by
  rw [register, refusal?_eq_none_iff.mpr ⟨hfree, hwell⟩]

/-- A refused definition leaves the registry as it was. -/
theorem register_of_refused (h : ¬ (registry.find? sink.id = none ∧ sink.WellFormed)) :
    (registry.register sink).registry = registry ∧
      (registry.register sink).accepted = false := by
  rw [register]
  cases hrefusal : registry.refusal? sink with
  | none => exact absurd (refusal?_eq_none_iff.mp hrefusal) h
  | some refusal => exact ⟨rfl, rfl⟩

theorem accepted_register_iff :
    (registry.register sink).accepted ↔ registry.find? sink.id = none ∧ sink.WellFormed := by
  by_cases h : registry.find? sink.id = none ∧ sink.WellFormed
  · rw [register_of_accepted h.1 h.2]
    exact iff_of_true rfl h
  · rw [(register_of_refused h).2]
    exact iff_of_false Bool.false_ne_true h

theorem setActive_of_absent (h : registry.find? id = none) (active : Bool) :
    registry.setActive id active = ⟨registry, false, []⟩ := by
  rw [setActive, h]

/-- Switching a sink that stands under its own id sets its state and leaves the others alone. -/
theorem find?_setActive (h : registry.find? id = some sink) (hid : sink.id = id) (active : Bool)
    (other : Bytes) :
    (registry.setActive id active).registry.find? other =
      if id = other then some { sink with active } else registry.find? other := by
  rw [setActive, h]
  dsimp only
  split_ifs with hsame hother hother
  · -- The sink is in that state already.
    rw [← hother, h, ← hsame]
  · rfl
  · rw [find?_insert, if_pos (hid.trans hother)]
  · rw [find?_insert, if_neg (hid ▸ hother)]

theorem accepted_setActive_iff (active : Bool) :
    (registry.setActive id active).accepted ↔ (registry.find? id).isSome := by
  rw [setActive]
  cases registry.find? id with
  | none => rfl
  | some sink =>
      dsimp only
      split_ifs <;> rfl

/-! ### The audit chain -/

/-- What the registry holds of the audit chain: its head and the number of published effects. -/
def chain (registry : Registry) : Bytes × Nat := (registry.auditHead, registry.published)

theorem chain_register (registry : Registry) (sink : Sink) :
    (registry.register sink).registry.chain = registry.chain := by
  rw [register]
  cases registry.refusal? sink <;> rfl

theorem chain_registerAll (registry : Registry) (sinks : List Sink) :
    (registry.registerAll sinks).1.chain = registry.chain := by
  induction sinks generalizing registry with
  | nil => rfl
  | cons sink rest ih => exact (ih _).trans (chain_register registry sink)

theorem chain_setActive (registry : Registry) (id : Bytes) (active : Bool) :
    (registry.setActive id active).registry.chain = registry.chain := by
  rw [setActive]
  cases registry.find? id with
  | none => rfl
  | some sink =>
      dsimp only
      split_ifs <;> rfl

/-- No use of the registry moves the audit chain. -/
theorem chain_act (registry : Registry) (use : Action) :
    (registry.act use).registry.chain = registry.chain := by
  cases use with
  | register sink => exact chain_register registry sink
  | registerAll sinks => exact chain_registerAll registry sinks
  | setActive id active => exact chain_setActive registry id active

theorem chain_run (registry : Registry) (uses : List Action) :
    (registry.run uses).chain = registry.chain := by
  induction uses generalizing registry with
  | nil => rfl
  | cons use rest ih => exact (ih _).trans (chain_act registry use)

/-! ### Every use extends the history -/

namespace Explained

theorem initial : Explained {} [] := by
  intro id
  apply Explains.absent
  rintro ⟨_, hmem, _⟩
  cases hmem

theorem explains (h : Explained registry uses) {found? : Option Sink}
    (hfound : registry.find? id = found?) : Explains uses id found? := by
  rw [← hfound]
  exact h id

theorem id_eq (h : Explained registry uses) (hfound : registry.find? id = some sink) :
    sink.id = id :=
  (h.explains hfound).id_eq

theorem register (h : Explained registry uses) (sink : Sink) :
    Explained (registry.register sink).registry (uses ++ [.register sink]) := by
  intro id
  by_cases haccepted : registry.find? sink.id = none ∧ sink.WellFormed
  · obtain ⟨hfree, hwell⟩ := haccepted
    rw [register_of_accepted hfree hwell, find?_insert]
    split_ifs with hid
    · subst hid
      exact (h.explains hfree).concat_register rfl hwell
    · apply (h id).concat_of_neutral rfl
      intro _ hdefined
      exact hid (defined_singleton_iff.mp hdefined).1
  · rw [(register_of_refused haccepted).1]
    apply (h id).concat_of_neutral rfl
    intro hnone hdefined
    obtain ⟨rfl, hwell⟩ := defined_singleton_iff.mp hdefined
    exact haccepted ⟨hnone, hwell⟩

theorem registerAll (h : Explained registry uses) (sinks : List Sink) :
    Explained (registry.registerAll sinks).1 (uses ++ sinks.map .register) := by
  induction sinks generalizing registry uses with
  | nil =>
      rw [List.map_nil, List.append_nil]
      exact h
  | cons sink rest ih =>
      rw [List.map_cons, List.append_cons]
      exact ih (h.register sink)

theorem setActive (h : Explained registry uses) (named : Bytes) (active : Bool) :
    Explained (registry.setActive named active).registry (uses ++ [.setActive named active]) := by
  intro id
  have hundefined : ¬ Defined [.setActive named active] id := by
    rintro ⟨_, hmem, _⟩
    cases hmem
  cases hfound : registry.find? named with
  | none =>
      rw [setActive_of_absent hfound]
      by_cases hid : named = id
      · subst hid
        rw [hfound]
        exact (h.explains hfound).concat_absent hundefined
      · exact (h id).concat_of_neutral (if_neg hid) fun _ => hundefined
  | some sink =>
      rw [find?_setActive hfound (h.id_eq hfound)]
      split_ifs with hid
      · subst hid
        have hswitched := (h.explains hfound).concat_present (.setActive named active)
        rw [Action.switch?, if_pos rfl] at hswitched
        exact hswitched
      · exact (h id).concat_of_neutral (if_neg hid) fun _ => hundefined

theorem act (h : Explained registry uses) (use : Action) :
    Explained (registry.act use).registry (uses ++ use.singles) := by
  cases use with
  | register sink => exact h.register sink
  | registerAll sinks => exact h.registerAll sinks
  | setActive id active => exact h.setActive id active

/-- A run extends the history by its uses. -/
theorem run (h : Explained registry uses) (later : List Action) :
    Explained (registry.run later) (uses ++ flatten later) := by
  induction later generalizing registry uses with
  | nil =>
      rw [flatten, List.flatMap_nil, List.append_nil]
      exact h
  | cons use rest ih =>
      rw [flatten, List.flatMap_cons, ← List.append_assoc]
      exact ih (h.act use)

/-- There are as many sinks as different ids that were defined. -/
theorem count_eq (h : Explained registry uses) :
    registry.count =
      (((definitions uses).filter (·.WellFormed)).map (·.id)).dedup.length := by
  have hkeys : registry.sinks.keys.Perm
      (((definitions uses).filter (·.WellFormed)).map (·.id)).dedup := by
    apply (List.perm_ext_iff_of_nodup Std.ExtTreeMap.nodup_keys (List.nodup_dedup _)).mpr
    intro id
    have hfound : id ∈ registry.sinks.keys ↔ (registry.find? id).isSome :=
      Std.ExtTreeMap.mem_keys.trans Std.ExtTreeMap.mem_iff_isSome_getElem?
    rw [hfound, (h id).isSome_iff, List.mem_dedup, List.mem_map, Defined]
    simp only [List.mem_filter, decide_eq_true_eq, and_comm, and_left_comm]
  rw [count, ← Std.ExtTreeMap.length_keys, hkeys.length_eq]

end Explained

/-- A run of a new registry is explained by its own uses. -/
theorem explained_run (uses : List Action) : Explained (({} : Registry).run uses) (flatten uses) :=
  Explained.initial.run uses

theorem run_map_register (registry : Registry) (sinks : List Sink) :
    registry.run (sinks.map .register) = (registry.registerAll sinks).1 := by
  induction sinks generalizing registry with
  | nil => rfl
  | cons sink rest ih => exact ih (registry.register sink).registry

/-- A list of sinks is registered one by one. -/
theorem run_flatten (registry : Registry) (uses : List Action) :
    registry.run (flatten uses) = registry.run uses := by
  induction uses generalizing registry with
  | nil => rfl
  | cons use rest ih =>
      have hsingles : registry.run use.singles = (registry.act use).registry := by
        cases use with
        | registerAll sinks => exact run_map_register registry sinks
        | register | setActive => rfl
      rw [flatten, List.flatMap_cons, run, List.foldl_append]
      show (registry.run use.singles).run (flatten rest) = _
      rw [hsingles, ih]
      rfl

/-- After any uses of a new registry, a sink is registered exactly when some definition of its id
was well-formed. It is the first one of these, in the state to which it was switched last after
that, or else in its own. The registry accepts the well-formed definitions of ids that had none
before, and just these; a definition that it refuses leaves it as it was. It switches the registered
sinks, and just these, and no other sink with them. It counts the ids that were defined, and the
audit chain stays where it was. -/
theorem first_definition_stands (uses : List Action) :
    let registry := ({} : Registry).run uses
    registry = ({} : Registry).run (flatten uses) ∧
    (∀ id, (registry.find? id).isSome ↔ Defined uses id) ∧
    (∀ id sink, registry.find? id = some sink → ∃ before after first,
      flatten uses = before ++ .register first :: after ∧ first.id = id ∧ first.WellFormed ∧
        ¬ Defined before id ∧ sink.id = id ∧ sink.name = first.name ∧ sink.kind = first.kind ∧
        sink.path = first.path ∧ sink.active = stateAfter id first.active after) ∧
    (∀ sink, ((registry.register sink).accepted ↔ sink.WellFormed ∧ ¬ Defined uses sink.id) ∧
      ((registry.register sink).accepted = false →
        (registry.register sink).registry = registry)) ∧
    (∀ id active,
      ((registry.setActive id active).accepted ↔ (registry.find? id).isSome) ∧
      ∀ other ≠ id, (registry.setActive id active).registry.find? other = registry.find? other) ∧
    registry.count = (((definitions uses).filter (·.WellFormed)).map (·.id)).dedup.length ∧
    registry.auditHead = AuditChain.anchor ∧ registry.published = 0 := by
  intro registry
  have h : Explained registry (flatten uses) := explained_run uses
  have hdefined (id : Bytes) : (registry.find? id).isSome ↔ Defined uses id := by
    rw [(h id).isSome_iff, defined_flatten_iff]
  refine ⟨(run_flatten _ uses).symm, hdefined, ?_, ?_, ?_, ?_, ?_⟩
  · intro id sink hfound
    cases h.explains hfound with
    | present before after first huses hid hwell hfirst =>
        exact ⟨before, after, first, huses, hid, hwell, hfirst, hid, rfl, rfl, rfl, rfl⟩
  · intro sink
    have haccepted : (registry.register sink).accepted ↔
        registry.find? sink.id = none ∧ sink.WellFormed := accepted_register_iff
    refine ⟨?_, fun hrefused => (register_of_refused ?_).1⟩
    · rw [haccepted, ← hdefined, Option.not_isSome_iff_eq_none]
      exact and_comm
    · rw [← haccepted, hrefused]
      exact Bool.false_ne_true
  · intro id active
    refine ⟨accepted_setActive_iff active, fun other hother => ?_⟩
    cases hfound : registry.find? id with
    | none => rw [setActive_of_absent hfound]
    | some sink => rw [find?_setActive hfound (h.id_eq hfound), if_neg hother.symm]
  · rw [h.count_eq, definitions_flatten]
  · have hchain : registry.chain = ({} : Registry).chain := chain_run {} uses
    exact ⟨congrArg Prod.fst hchain, congrArg Prod.snd hchain⟩

end Custody.Registry

namespace Custody.Sample

/-- A sink for an audit trail in a file. -/
def auditSink : Sink :=
  { id := utf8 "audit", name := utf8 "Audit", kind := utf8 "file", path := utf8 "audit.log" }

/-- A sink of an unknown kind. -/
def queueSink : Sink :=
  { id := utf8 "queue", name := utf8 "Queue", kind := utf8 "kafka", path := [] }

/-- Two ids are used in vain before one of them gets a well-formed definition, which another one
then contests. -/
def contested : List Registry.Action :=
  [.setActive auditSink.id false, .register { auditSink with path := [] },
    .registerAll [queueSink, auditSink, { auditSink with name := utf8 "Other" }],
    .setActive queueSink.id true, .setActive auditSink.id false]

end Custody.Sample

namespace Custody.Registry

/-- The definition without a path was refused, the one with a path stands and is switched off, and
neither a further definition nor a switch of another id touches it. An unknown kind does not keep
the id from a later definition. -/
theorem first_definition_stands_contested :
    let registry := ({} : Registry).run Sample.contested
    let other := { Sample.auditSink with name := utf8 "Other" }
    let console := { Sample.queueSink with kind := utf8 "stdout" }
    registry.find? Sample.auditSink.id = some { Sample.auditSink with active := false } ∧
      (∃ before after first, flatten Sample.contested = before ++ .register first :: after ∧
        first.WellFormed ∧ first.name = Sample.auditSink.name ∧
        stateAfter Sample.auditSink.id first.active after = false) ∧
      ¬ (registry.find? Sample.queueSink.id).isSome ∧
      ((registry.register other).accepted = false ∧
        (registry.register other).registry = registry) ∧
      (registry.register console).accepted ∧
      ¬ (registry.setActive Sample.queueSink.id true).accepted ∧
      (Sample.auditSink.id ≠ Sample.queueSink.id ∧
        (registry.setActive Sample.queueSink.id true).registry.find? Sample.auditSink.id =
          registry.find? Sample.auditSink.id) ∧
      registry.count = 1 := by
  intro registry other console
  obtain ⟨_, hdefined, hfirst, hregister, hswitch, hcount, _⟩ :=
    first_definition_stands Sample.contested
  have hfound : registry.find? Sample.auditSink.id =
      some { Sample.auditSink with active := false } := by decide +kernel
  have hqueue : ¬ Defined Sample.contested Sample.queueSink.id := by decide
  have habsent : ¬ (registry.find? Sample.queueSink.id).isSome := mt (hdefined _).mp hqueue
  obtain ⟨before, after, first, hflatten, _, hwell, _, _, hname, _, _, hactive⟩ :=
    hfirst _ _ hfound
  have hother : (registry.register other).accepted = false :=
    Bool.eq_false_iff.mpr (mt (hregister other).1.mp (by decide))
  refine ⟨hfound, ⟨before, after, first, hflatten, hwell, hname.symm, hactive.symm⟩,
    habsent, ⟨hother, (hregister other).2 hother⟩,
    (hregister console).1.mpr ⟨by decide, hqueue⟩, mt (hswitch _ true).1.mp habsent,
    ⟨by decide, (hswitch _ true).2 _ (by decide)⟩, hcount.trans (by decide)⟩

end Custody.Registry
