import Custody.AuditChain
import Custody.Log

/-!
# The registry of sinks

A sink is a place to which effects are published: the standard output, or a file
named by its path. The registry keeps the first well-formed definition of each
sink id and switches it on and off. A definition is refused if its id is taken,
if its kind is unknown, or if it is of the file kind and names no path; the first
of these is reported. The registry also holds the head of the audit chain and the
number of published effects.
-/

namespace Custody

/-- The definition of a sink. -/
structure Sink where
  /-- The id, unique in a registry. -/
  id : Bytes
  /-- The name for readers of the log. -/
  name : Bytes
  /-- The word for the kind of place. -/
  kind : Bytes
  /-- The path of the file, for sinks of that kind. -/
  path : Bytes
  /-- Whether effects are sent to the sink. -/
  active : Bool := true
  deriving DecidableEq, Repr

namespace Sink

/-- The word for the standard output. -/
def stdoutKind : Bytes := utf8 "stdout"

/-- The word for a file. -/
def fileKind : Bytes := utf8 "file"

/-- Whether the definition names a place. -/
def WellFormed (sink : Sink) : Prop :=
  sink.kind = stdoutKind ∨ sink.kind = fileKind ∧ sink.path ≠ []

instance (sink : Sink) : Decidable sink.WellFormed :=
  inferInstanceAs (Decidable (_ ∨ _))

end Sink

/-- The registered sinks and the state of the audit chain. -/
structure Registry where
  /-- The sinks by id. -/
  sinks : Std.ExtTreeMap Bytes Sink := ∅
  /-- The head of the audit chain. -/
  auditHead : Bytes := AuditChain.anchor
  /-- The number of effects published. -/
  published : Nat := 0

namespace Registry

/-- Why a definition is refused. -/
inductive Refusal where
  /-- A sink has this id. -/
  | idTaken
  /-- The kind is neither of the two. -/
  | unknownKind
  /-- A sink of the file kind has no path. -/
  | noPath
  deriving DecidableEq, Repr

/-- The sink with an id, if it is registered. -/
def find? (registry : Registry) (id : Bytes) : Option Sink := registry.sinks[id]?

/-- The number of sinks. -/
def count (registry : Registry) : Nat := registry.sinks.size

/-- Why the definition is refused, if it is. -/
def refusal? (registry : Registry) (sink : Sink) : Option Refusal :=
  if (registry.find? sink.id).isSome then some .idTaken
  else if sink.kind ≠ Sink.stdoutKind ∧ sink.kind ≠ Sink.fileKind then some .unknownKind
  else if sink.kind = Sink.fileKind ∧ sink.path = [] then some .noPath
  else none

/-- The registry in which the sink stands under its id. -/
def insert (registry : Registry) (sink : Sink) : Registry :=
  { registry with sinks := registry.sinks.insert sink.id sink }

@[simp] theorem find?_insert (registry : Registry) (sink : Sink) (id : Bytes) :
    (registry.insert sink).find? id = if sink.id = id then some sink else registry.find? id := by
  simp [find?, insert, Std.ExtTreeMap.getElem?_insert]

/-- The entry of a refused definition. -/
def Refusal.entry (sink : Sink) : Refusal → Entry
  | idTaken => .of .error (utf8 "Sink ID conflict: " ++ sink.id)
  | unknownKind =>
    .of .error (utf8 "Unknown sink kind '" ++ sink.kind ++ utf8 "' for sink " ++ sink.id)
  | noPath => .of .error (utf8 "File sink " ++ sink.id ++ utf8 " has no path.")

/-- The entry of an accepted definition. -/
def registeredEntry (sink : Sink) : Entry :=
  .of .info (utf8 "Registered Sink: " ++ sink.name ++ utf8 " (" ++ sink.id ++ utf8 ") -> " ++
    if sink.kind = Sink.fileKind then sink.path else utf8 "stdout")

/-- The entry of a sink that was switched. -/
def switchedEntry (id : Bytes) (active : Bool) : Entry :=
  if active then .of .info (utf8 "Sink enabled: " ++ id)
  else .of .warn (utf8 "Sink disabled: " ++ id)

/-- The entry of a new registry. -/
def openedEntry : Entry := .of .debug (utf8 "Effect dispatcher initialised.")

/-- What a use of the registry answers: the new registry, whether the use was accepted, and the
entries it logs. -/
structure Outcome where
  registry : Registry
  accepted : Bool
  entries : List Entry

/-- Registers a sink. -/
def register (registry : Registry) (sink : Sink) : Outcome :=
  match registry.refusal? sink with
  | some refusal => ⟨registry, false, [refusal.entry sink]⟩
  | none => ⟨registry.insert sink, true, [registeredEntry sink]⟩

/-- Registers sinks one after another. -/
def registerAll (registry : Registry) : List Sink → Registry × List Entry
  | [] => (registry, [])
  | sink :: rest =>
    let first := registry.register sink
    let (last, entries) := first.registry.registerAll rest
    (last, first.entries ++ entries)

/-- Switches a sink on or off. Nothing is logged for a sink that is in that state already. -/
def setActive (registry : Registry) (id : Bytes) (active : Bool) : Outcome :=
  match registry.find? id with
  | none => ⟨registry, false, []⟩
  | some sink =>
    if sink.active = active then ⟨registry, true, []⟩
    else ⟨registry.insert { sink with active }, true, [switchedEntry id active]⟩

/-- The registry after a payload is published: it is bonded onto the audit chain and counted. -/
def bond (registry : Registry) (payload : Bytes) : Registry :=
  { registry with
    auditHead := AuditChain.bond registry.auditHead payload
    published := registry.published + 1 }

/-- A use of the registry. -/
inductive Action where
  | register (sink : Sink)
  | registerAll (sinks : List Sink)
  | setActive (id : Bytes) (active : Bool)
  deriving DecidableEq, Repr

/-- The outcome of a use. Registering a list is always accepted. -/
def act (registry : Registry) : Action → Outcome
  | .register sink => registry.register sink
  | .registerAll sinks =>
    let (last, entries) := registry.registerAll sinks
    ⟨last, true, entries⟩
  | .setActive id active => registry.setActive id active

/-- The registry after a sequence of uses. -/
def run (registry : Registry) (actions : List Action) : Registry :=
  actions.foldl (fun registry action => (registry.act action).registry) registry

end Registry

end Custody
