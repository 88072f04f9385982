import Custody.Command
import Custody.Sink.Delivery

/-!
# The host

The host answers command lines, one at a time. It decodes a line, works it off at a
desk, publishes what an accepted call changed, and writes one reply. To publish an
effect is to bond it onto the audit chain and to deliver it to the active sinks. A
command that fails is answered with an error and counts as rejected, also where the
ledger was changed before it failed. Only a reply that cannot be written breaks the
host off.
-/

namespace Custody

open Ledger (Effect)

/-- The state of the host. -/
structure Host where
  /-- The ledger and the log. -/
  desk : Desk := {}
  /-- The sinks and the audit chain. -/
  registry : Registry := {}
  /-- The standard output and the files. -/
  places : Places := {}
  /-- The number of commands accepted. -/
  accepted : Nat := 0
  /-- The number of commands rejected. -/
  rejected : Nat := 0

namespace Host

/-- A piece of the host's work. -/
abbrev Work (α : Type) := Custody.Work Host Failure α

namespace Work

/-- Logs a message. -/
def note (severity : Severity) (message : Bytes) : Work Unit :=
  modify fun host => { host with desk := host.desk.record (.of severity message) }

/-- Does work at the desk. -/
def atDesk {α : Type} (work : Desk.Work α) : Work α := do
  let host ← get
  let (desk, result) := work.run host.desk
  set { host with desk }
  match result with
  | .ok value => return value
  | .error raised => throw (.ofRaised raised)

/-- Does something with the places that text can reach. -/
def atPlaces {α : Type} (work : Places → Places × Except Fault α) : Work α := do
  let host ← get
  let (places, result) := work host.places
  set { host with places }
  match result with
  | .ok value => return value
  | .error failure => throw (.other failure.reason)

/-- Goes on with a value that was read. -/
def ofExcept {α : Type} : Except Failure α → Work α
  | .ok value => return value
  | .error failure => throw failure

variable (library : Json.Library) (scheme : Scheme)

/-- Writes a document as a text. -/
def dump (doc : Json) : Work Bytes := ofExcept ((library.dump doc).mapError .document)

/-! ### Publishing -/

/-- Bonds a payload onto the audit chain. -/
def bond (payload : Bytes) : Work Unit :=
  modify fun host => { host with registry := host.registry.bond payload }

/-- Delivers a line to a sink if it is active, and warns if that fails. -/
def deliver (line : Bytes) (sink : Sink) : Work Unit := do
  if sink.active then
    unless ← atPlaces (sink.deliver line) do
      note .warn (utf8 "Sink delivery failed: " ++ sink.id)

/-- Publishes an effect. It is delivered with its number and the new head of the audit chain. -/
def publish (effect : Effect) : Work Json := do
  let fields := Json.effectFields effect
  bond (← dump library (.record fields))
  let registry := (← get).registry
  let payload := Json.record (fields ++ [("sequence", .unsigned (.ofNat registry.published)),
    ("audit_head", .string registry.auditHead)])
  let line ← dump library payload
  registry.sinks.values.forM (deliver line)
  return payload

/-- Publishes what a call changed, and replies. -/
def commit (effect : Effect) : Work Json := do
  let payload ← publish library effect
  return .record [("status", .string (utf8 "SUCCESS")), ("effect", payload)]

/-! ### Commands -/

/-- Works a command off, and replies. -/
def dispatch : Command → Work Json
  | .deposit caller txn => do
    commit library (← atDesk (.deposit scheme caller txn))
  | .transfer caller txn => do
    commit library (← atDesk (.transfer scheme caller txn))
  | .withdraw caller token => do
    commit library (← atDesk (.withdraw caller token))
  | .query token => do
    let ledger := (← get).desk.ledger
    return .record [("status", .string (utf8 "SUCCESS")), ("token_id", .ofWord token),
      ("txn", ((ledger.find? token).map .ofTransaction).getD .null),
      ("leaf_index", .string (LeafIndex.ofTokenId token).text),
      ("leaf", .ofWord (ledger.leaf token))]
  | .classify first second => do
    return .record [("status", .string (utf8 "SUCCESS")),
      ("relationship", .string (utf8 (first.classify second).name)),
      ("two_cycle", .boolean (first.isTwoCycle second))]

/-- Counts a command as accepted. -/
def countAccepted : Work Unit := modify fun host => { host with accepted := host.accepted + 1 }

/-- Counts a command as rejected. -/
def countRejected : Work Unit := modify fun host => { host with rejected := host.rejected + 1 }

/-- The reply to a command that failed. A failure without a code may come after the ledger was
changed, so it is logged. -/
def refuse (failure : Failure) : Work Json := do
  countRejected
  match failure with
  | .coded code _ => return .errorReply code failure.account
  | .document _ => return .errorReply .malformedInput failure.account
  | .other _ =>
    note .error (utf8 "Command failed after dispatch: " ++ failure.account)
    return .errorReply .internalError failure.account

/-- Answers the command of a document. -/
def execute (doc : Json) : Work Json :=
  tryCatch (do
      let reply ← dispatch library scheme (← ofExcept (Command.read library doc))
      countAccepted
      return reply)
    refuse

/-- Answers the command of a line. -/
def executeLine (line : Bytes) : Work Json :=
  match library.parse line with
  | .ok doc => execute library scheme doc
  | .error wording => do
    countRejected
    note .warn (utf8 "Unparseable command line: " ++ untilZero wording)
    return .errorReply .malformedInput (utf8 "command is not valid JSON")

/-- Writes the reply to a line, if the line holds a command. -/
def answer (line : Bytes) : Work Unit := do
  unless Command.isBlank line do
    let reply ← dump library (← executeLine library scheme line)
    let _ ← atPlaces (·.write (reply ++ utf8 "\n"))

/-- Answers the commands of a text, and tells how many were rejected. -/
def answerAll (text : Bytes) : Work Nat := do
  let before := (← get).rejected
  (Command.lines text).forM (answer library scheme)
  return (← get).rejected - before

end Work

end Host

end Custody
