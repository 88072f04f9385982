import Custody.Genesis
import Custody.Host
import Custody.Settings

/-!
# The node

One run of the node: it reads its settings, seeds a ledger from the chain's
genesis, registers its sinks, answers the commands and reports what it did. A
run that cannot go on halts with one fatal entry. The chain is judged before the
genesis file, and the genesis file before the command file. `Node.invoke` serves
the command line: a run, the account of a phrase, a signed transaction, or else the
usage.
-/

namespace Custody.Node

/-- What the node finds around it. -/
structure Surroundings where
  /-- The environment variables. -/
  environment : Environment := {}
  /-- The document that opens at a path, if one does. -/
  document? : Bytes → Option Document := fun _ => none
  /-- The standard input. -/
  input : Bytes := []
  /-- What becomes of text written to the standard output. -/
  outlet : Outlet := .taking
  /-- Whether a file can be opened for writing at a path. -/
  canOpen : Bytes → Bool := fun _ => false

/-- Why an invocation halts. -/
inductive Halt where
  /-- The settings file gives no settings. -/
  | settingsFile (error : Settings.FileError)
  /-- No preset has the chain's name. -/
  | unknownChain (chain : Bytes)
  /-- The chain is custom and the settings name no genesis file. -/
  | noGenesisFile
  /-- The genesis file gives no list. -/
  | genesisFile (error : Genesis.FileError)
  /-- The command file cannot be opened. -/
  | commandFileMissing (path : Bytes)
  /-- Something else failed on the way. -/
  | failed (failure : Failure)
  deriving DecidableEq, Repr

namespace Halt

/-- The wording of the fatal entry. -/
def message : Halt → Bytes
  | settingsFile error => error.failure.headline
  | unknownChain chain => utf8 "Unknown chain '" ++ chain ++ utf8 "'. System halted."
  | noGenesisFile =>
    utf8 "Custom chain selected but no genesis file configured. System halted."
  | genesisFile error => error.failure.headline
  | commandFileMissing path => utf8 "Command file missing: " ++ path
  | failed failure => failure.headline

/-- The entry that goes before the fatal one, where the cause has one of its own. -/
def causeEntry? : Halt → Option Entry
  | settingsFile error => error.entry?
  | genesisFile error => error.entry?
  | _ => none

/-- The entries that the halt logs. -/
def entries (halt : Halt) : List Entry := halt.causeEntry?.toList ++ [.of .fatal halt.message]

end Halt

/-! ### What an invocation leaves behind -/

/-- How an invocation ended. -/
inductive Ending where
  /-- The work was done. -/
  | completed
  /-- The work could not go on. -/
  | halted
  /-- The arguments name no work. -/
  | misused
  deriving DecidableEq, Repr

/-- The exit status of an ending. -/
def Ending.status : Ending → UInt8
  | completed => 0
  | halted => 1
  | misused => 2

/-- What an invocation leaves behind. -/
structure Report where
  /-- How it ended. -/
  ending : Ending
  /-- Its log. -/
  log : Log := {}
  /-- What it wrote to the standard output. -/
  output : Bytes := []
  /-- What it added to each file, by path. -/
  files : Std.ExtTreeMap Bytes Bytes := ∅

/-- The text that tells how the node is invoked. -/
def usage : Bytes := utf8
  "usage:\n  pcash-node run [commands.jsonl]\n  pcash-node account <phrase>\n  pcash-node sign <phrase> <receiver> <token_id> <prev_blk_num>\n"

/-- What an invocation wrote to the standard error: the entries shown, each behind the stamp of its
time of day, and the usage if it was misused. -/
def Report.errors (stamp : Bytes) (report : Report) : Bytes :=
  report.log.transcript stamp ++ if report.ending = .misused then usage else []

/-- The report of a host that has done its work. -/
def complete (host : Host) : Report :=
  ⟨.completed, host.desk.log, host.places.output, host.places.files⟩

/-- The report of a host that halts. -/
def halt (host : Host) (cause : Halt) : Report :=
  ⟨.halted, host.desk.log.recordAll cause.entries, host.places.output, host.places.files⟩

/-- A host that has done nothing yet. -/
def Surroundings.host (surroundings : Surroundings) (log : Log) : Host where
  desk := { log }
  places := { outlet := surroundings.outlet, canOpen := surroundings.canOpen }

/-! ### A run -/

section Run

variable (scheme : SigningScheme) (library : Json.Library) (surroundings : Surroundings)

/-- The settings of a run, and what is logged when they are read. -/
def readSettings : Except Halt (Settings × List Entry) :=
  let environment := surroundings.environment
  match environment.settingsFile.bind surroundings.document? with
  | none => .ok (.ofEnvironment environment, Settings.warnings environment)
  | some document => do
    let settings ← (Settings.ofText library document.content).mapError .settingsFile
    return (settings.override environment,
      Settings.warnings { environment with settingsFile := none })

/-- The genesis list of a chain. -/
def genesis (settings : Settings) : Except Halt (List Transaction) :=
  match Preset.ofName? settings.chain with
  | none => .error (.unknownChain settings.chain)
  | some .custom =>
    if settings.genesisFile = [] then .error .noGenesisFile
    else
      let document := surroundings.document? settings.genesisFile
      (Genesis.ofFile scheme library settings.genesisFile document).mapError .genesisFile
  | some preset =>
    (Genesis.ofEndowments scheme preset.endowments).mapError fun error => .failed (.ofSigning error)

/-- The text of the commands: the standard input, or the document at a path that is not empty. -/
def commandText (path : Bytes) : Except Halt Bytes :=
  if path = [] then .ok surroundings.input
  else match surroundings.document? path with
    | some document => .ok document.content
    | none => .error (.commandFileMissing path)

/-- The entry of a node that is ready for commands. -/
def activeEntry (settings : Settings) (ledger : Ledger) : Entry :=
  .of .info (utf8 "PCash node active on chain '" ++ settings.chain ++ utf8 "' with " ++
    decimal ledger.count ++ utf8 " token(s), signatures: " ++ scheme.name ++ utf8 ".")

/-- The entry of a node that has answered its commands. -/
def finishedEntry (host : Host) : Entry :=
  .of .info (utf8 "Applied " ++ decimal host.accepted ++ utf8 " command(s), rejected " ++
    decimal host.rejected ++ utf8 ". Audit head " ++ host.registry.auditHead)

/-- The host whose sinks are registered. -/
def ready (settings : Settings) (host : Host) : Host :=
  let (registry, sinkEntries) := ({} : Registry).registerAll settings.sinks
  let entries := Registry.openedEntry :: sinkEntries ++
    [activeEntry scheme settings host.desk.ledger]
  { host with registry, desk := { host.desk with log := host.desk.log.recordAll entries } }

/-- Answers the commands at a path. -/
def answer (host : Host) (path : Bytes) : Report :=
  match commandText surroundings path with
  | .error cause => halt host cause
  | .ok text =>
    match (Host.Work.answerAll library scheme.toScheme text).run host with
    | (host, .error failure) => halt host (.failed failure)
    | (host, .ok _) => complete { host with desk := host.desk.record (finishedEntry host) }

/-- A run whose settings are read and whose log is set up. -/
def runWith (settings : Settings) (log : Log) (path : Bytes) : Report :=
  let host := surroundings.host log
  match genesis scheme library surroundings settings with
  | .error cause => halt host cause
  | .ok list =>
    match (Host.Work.atDesk (.seed scheme.toScheme list)).run host with
    | (host, .error failure) => halt host (.failed failure)
    | (host, .ok ()) => answer scheme library surroundings (ready scheme settings host) path

/-- A run of the node over the commands at a path, or over the standard input if it is empty. -/
def run (path : Bytes) : Report :=
  match readSettings library surroundings with
  | .error cause => halt (surroundings.host {}) cause
  | .ok (settings, entries) =>
    let log := ({} : Log).recordAll entries
    runWith scheme library surroundings settings
      ((log.setLevel settings.logLevel).setCapacity settings.logCapacity) path

end Run

/-! ### The other commands -/

section Commands

variable (scheme : SigningScheme) (library : Json.Library) (surroundings : Surroundings)

/-- The holder of a phrase. -/
def holder (phrase : Bytes) : Except Failure Signer :=
  (scheme.signerOfPhrase phrase).mapError fun failure => .other failure.reason

/-- The line that tells the account of a phrase. -/
def accountLine (phrase : Bytes) : Except Failure Bytes := do
  let signer ← holder scheme phrase
  return signer.identity.toHex ++ utf8 "\n"

/-- The account that an argument names: that of a phrase if it begins with two slashes, or else the
one that it writes. -/
def resolve (argument : Bytes) : Except Failure AccountId := do
  if utf8 "//" <+: argument then
    let signer ← holder scheme argument
    return signer.identity
  else (Json.string argument).readAccount library

/-- The line that gives the transaction by which the account of a phrase hands a token on. -/
def signedLine (phrase receiver token block : Bytes) : Except Failure Bytes := do
  let signer ← holder scheme phrase
  let body : Transaction.Body := {
    receiver := ← resolve scheme library receiver
    tokenId := ← (Json.string token).readWord
    prevBlock := ← (Json.string block).readWord }
  let txn ← (body.signBy scheme.toScheme signer).mapError .ofSigning
  let text ← (library.dump (.ofTransaction txn)).mapError .document
  return text ++ utf8 "\n"

/-- Writes a line, if there is one. -/
def print (line : Except Failure Bytes) : Report :=
  let print : Host.Work Bool := do
    let line ← Host.Work.ofExcept line
    Host.Work.atPlaces (·.write line)
  match print.run (surroundings.host {}) with
  | (host, .error failure) => halt host (.failed failure)
  | (host, .ok _) => complete host

/-- Serves an invocation with arguments. -/
def invoke : List Bytes → Report
  | [command] =>
    if command = utf8 "run" then run scheme library surroundings [] else { ending := .misused }
  | [command, argument] =>
    if command = utf8 "run" then run scheme library surroundings argument
    else if command = utf8 "account" then print surroundings (accountLine scheme argument)
    else { ending := .misused }
  | [command, phrase, receiver, token, block] =>
    if command = utf8 "sign" then
      print surroundings (signedLine scheme library phrase receiver token block)
    else { ending := .misused }
  | _ => { ending := .misused }

end Commands

end Custody.Node
