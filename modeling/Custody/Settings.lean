import Custody.Sink.Registry
import Custody.Wire

/-!
# Settings of the node

The settings have defaults, each of which a settings file can replace, and most of
which a variable of the environment can replace after that. A variable that is set
replaces its setting even if it is empty, except for the capacity of the log, which
must be a decimal numeral below `2 ^ 64` and is otherwise ignored with a warning. A
settings file that cannot be opened is warned of and leaves the defaults in place;
one that gives no settings is an error.
-/

namespace Custody

-- Powers are those of the core library, whatever other instances are in scope.
attribute [local instance (2000)] instPowNat

/-- The variables of the environment that the node reads, where they are set. -/
structure Environment where
  /-- The path of a settings file. -/
  settingsFile : Option Bytes := none
  /-- The name of the chain. -/
  chain : Option Bytes := none
  /-- The path of a genesis file. -/
  genesisFile : Option Bytes := none
  /-- The name of the least level that is logged. -/
  logLevel : Option Bytes := none
  /-- The number of entries that the log keeps. -/
  logCapacity : Option Bytes := none
  deriving DecidableEq, Repr

/-- The settings of the node. -/
structure Settings where
  /-- The name of the chain. -/
  chain : Bytes := utf8 "local"
  /-- The path of the genesis file of a custom chain. -/
  genesisFile : Bytes := []
  /-- The name of the least level that is logged. -/
  logLevel : Bytes := utf8 "INFO"
  /-- The number of entries that the log keeps. -/
  logCapacity : Nat := 200
  /-- The sinks that the node registers. -/
  sinks : List Sink := []
  deriving DecidableEq, Repr

namespace Settings

/-- Reads a capacity: a decimal numeral below `2 ^ 64`, with any number of leading zeros. -/
def capacity? (text : Bytes) : Option Nat :=
  if text.isEmpty then none
  else match text.mapM decimalDigit? with
    | none => none
    | some digits =>
      let value := numeralValue 10 digits
      if value < 2 ^ (64 : Nat) then some value else none

/-- The warning about a settings file that cannot be opened. -/
def fileMissingEntry : Entry := .of .warn (utf8 "Config file missing. Using system defaults.")

/-- The warning about a capacity that is no numeral or too large. -/
def badCapacityEntry (text : Bytes) : Entry :=
  .of .warn (utf8 "Ignoring invalid PCASH_LOG_CAPACITY: " ++ text)

/-- The settings with those that the environment replaces. -/
def override (settings : Settings) (environment : Environment) : Settings where
  chain := environment.chain.getD settings.chain
  genesisFile := environment.genesisFile.getD settings.genesisFile
  logLevel := environment.logLevel.getD settings.logLevel
  logCapacity := (environment.logCapacity.bind capacity?).getD settings.logCapacity
  sinks := settings.sinks

/-! ### The settings file -/

/-- The sink that a document defines. Its name is its id unless it is given one. -/
def readSink (doc : Json) : Except Json.Misfit Sink := do
  let id ← (← doc.field "id").text
  let name ← doc.fieldOr "name" Json.text id
  let kind ← doc.fieldOr "kind" Json.text Sink.stdoutKind
  let path ← doc.fieldOr "path" Json.text []
  let active ← doc.fieldOr "active" Json.truth true
  return { id, name, kind, path, active }

/-- The capacity that a document gives, which must be a number that is not negative. -/
def readCapacity : Json → Except Failure Nat
  | .unsigned value => .ok value.toNat
  | .signed value =>
    if value < 0 then .error (.malformed (utf8 "log_capacity must be a non-negative integer"))
    else .ok value.toUInt64.toNat
  | _ => .error (.malformed (utf8 "log_capacity must be a non-negative integer"))

/-- What the library complains of in a settings file makes the input malformed. -/
def unfit (library : Json.Library) (misfit : Json.Misfit) : Failure :=
  .malformed (utf8 "invalid configuration: " ++ untilZero (library.wording misfit))

/-- The settings that a document gives, each the default where it has no value of that name. -/
def ofJson (library : Json.Library) (doc : Json) : Except Failure Settings := do
  unless doc.isObject do
    throw (.malformed (utf8 "config root must be a JSON object"))
  let defaults : Settings := {}
  let chain ← (doc.fieldOr "chain" Json.text defaults.chain).mapError (unfit library)
  let genesisFile ←
    (doc.fieldOr "genesis_file" Json.text defaults.genesisFile).mapError (unfit library)
  let logLevel ← (doc.fieldOr "log_level" Json.text defaults.logLevel).mapError (unfit library)
  let logCapacity ← match doc.find? "log_capacity" with
    | some capacity => readCapacity capacity
    | none => pure defaults.logCapacity
  let sinks := ((doc.find? "sinks").map Json.elements).getD []
  let sinks ← (sinks.mapM readSink).mapError (unfit library)
  return { chain, genesisFile, logLevel, logCapacity, sinks }

/-- Why a settings file gives no settings. -/
inductive FileError where
  /-- The file cannot be decoded, for the reason that the library gives. -/
  | corrupt (wording : Bytes)
  /-- The document in the file gives no settings. -/
  | unusable (failure : Failure)
  deriving DecidableEq, Repr

namespace FileError

/-- The failure that is raised. -/
def failure : FileError → Failure
  | corrupt _ => .malformed (utf8 "configuration file is corrupt")
  | unusable failure => failure

/-- The entry that is logged before, of a file that cannot be decoded. -/
def entry? : FileError → Option Entry
  | corrupt wording => some (.of .error (utf8 "Config Parse Error: " ++ untilZero wording))
  | unusable _ => none

end FileError

/-- The settings that the text of a settings file gives. -/
def ofText (library : Json.Library) (text : Bytes) : Except FileError Settings :=
  match library.parse text with
  | .error wording => .error (.corrupt wording)
  | .ok doc => (ofJson library doc).mapError .unusable

/-! ### The environment -/

/-- The settings of an environment whose settings file, if it names one, cannot be opened. -/
def ofEnvironment (environment : Environment) : Settings := override {} environment

/-- The warnings that reading these settings gives, in order. -/
def warnings (environment : Environment) : List Entry :=
  (environment.settingsFile.map fun _ => fileMissingEntry).toList ++
    (environment.logCapacity.filter fun text => (capacity? text).isNone).toList.map badCapacityEntry

end Settings

end Custody
