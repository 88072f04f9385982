import Custody.Ed25519.Signature
import Custody.Json.Text
import Custody.Node
import Std.Time.Format
import Std.Time.Zoned

/-!
# The command line

Reads the arguments, the environment variables, the files that an invocation may
name and, for a run without a command file, the standard input. `Node.invoke`
decides everything else, and what it reports is written out: the standard error, under
the time of day, the standard output and the files.
-/

namespace Custody.CommandLine

/-- All that remains of a stream. -/
partial def readAll (stream : IO.FS.Stream) (before : ByteArray) : IO ByteArray := do
  let more ← stream.read 65536
  if more.isEmpty then pure before else readAll stream (before ++ more)

/-- The name of the file at a path. -/
def fileName? (path : Bytes) : Option String := String.fromUTF8? (ByteArray.mk path.toArray)

/-- The document at a path, if one can be opened. What opens and cannot be read is a directory. -/
def readDocument (path : Bytes) : IO (Option Document) := do
  match fileName? path with
  | none => pure none
  | some name =>
    try
      let handle ← IO.FS.Handle.mk name .read
      let document ←
        try
          let content ← readAll (.ofHandle handle) ByteArray.empty
          pure (Document.file content.data.toList)
        catch _ => pure .directory
      pure (some document)
    catch _ => pure none

/-- Adds text to the end of a file, and tells whether the file could be opened. -/
def append (path text : Bytes) : IO Bool := do
  match fileName? path with
  | none => pure false
  | some name =>
    try
      let handle ← IO.FS.Handle.mk name .append
      handle.write (ByteArray.mk text.toArray)
      pure true
    catch _ => pure false

/-- Whether a file can be opened for writing at a path. A file that was not there is not left
behind. -/
def probe (path : Bytes) : IO Bool := do
  match fileName? path with
  | none => pure false
  | some name =>
    try
      let _ ← IO.FS.Handle.mk name .writeNew
      IO.FS.removeFile name
      pure true
    catch _ => append path []

/-- The value of an environment variable, if it is set. -/
def lookupVariable (name : String) : IO (Option Bytes) := do
  let value ← IO.getEnv name
  pure (value.map utf8)

/-- The environment variables of the node. -/
def readEnvironment : IO Environment := do
  let settingsFile ← lookupVariable "PCASH_CONFIG"
  let chain ← lookupVariable "PCASH_CHAIN"
  let genesisFile ← lookupVariable "PCASH_GENESIS_FILE"
  let logLevel ← lookupVariable "PCASH_LOG_LEVEL"
  let logCapacity ← lookupVariable "PCASH_LOG_CAPACITY"
  pure { settingsFile, chain, genesisFile, logLevel, logCapacity }

/-- The path with what is found there. -/
def readAt (path : Bytes) : IO (Bytes × Option Document) := do
  let document ← readDocument path
  pure (path, document)

/-- What a run with these arguments finds around it. The settings say what else to look for. -/
def readSurroundings (args : List Bytes) : IO Node.Surroundings := do
  let environment ← readEnvironment
  let named ← (args ++ environment.settingsFile.toList).mapM readAt
  let before : Node.Surroundings := {
    environment
    document? := fun path => (named.lookup path).join }
  let (genesisFile, sinks) := match Node.readSettings Json.Text.library before with
    | .ok (settings, _) => (settings.genesisFile, settings.sinks)
    | .error _ => ([], [])
  let genesis ← readAt genesisFile
  let files := (sinks.filter fun sink => sink.kind = Sink.fileKind).map Sink.path
  let writable ← files.filterM probe
  let input ←
    if args = [] ∨ args = [[]] then readAll (← IO.getStdin) ByteArray.empty
    else pure ByteArray.empty
  pure {
    environment
    document? := fun path => ((named ++ [genesis]).lookup path).join
    input := input.data.toList
    canOpen := writable.contains }

/-- Writes bytes to a stream. -/
def write (stream : IO.FS.Stream) (bytes : Bytes) : IO Unit := do
  stream.write (ByteArray.mk bytes.toArray)
  stream.flush

end Custody.CommandLine

open Custody Custody.CommandLine in
/-- Serves one invocation. -/
def main (args : List String) : IO UInt32 := do
  let args := args.map utf8
  let surroundings ←
    if args.head? = some (utf8 "run") then readSurroundings args.tail else pure {}
  let report := Node.invoke Ed25519.native.scheme Json.Text.library surroundings args
  let clock := (← Std.Time.PlainTime.now).format "HH:mm:ss"
  write (← IO.getStderr) (report.errors (utf8 "[" ++ utf8 clock ++ utf8 "] "))
  write (← IO.getStdout) report.output
  for (path, text) in report.files.toList do
    let _ ← append path text
  pure report.ending.status.toUInt32
