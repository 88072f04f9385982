import Custody.Bytes

/-!
# The log

Entries bear the name of a level and a message. An entry whose severity is below
the threshold is dropped. Any other entry is kept, and the oldest ones are
forgotten when there is no room for it or when the capacity shrinks. While the
console is on, the entry is also shown, on the channel of its severity. A level
with an unknown name ranks as `INFO`, and entries from `WARN` up are alarms.
-/

namespace Custody

/-- How grave an entry is. -/
inductive Severity where
  | debug
  | info
  | warn
  | error
  | fatal
  deriving DecidableEq, Repr

namespace Severity

/-- The place of the severity in the order from `debug` to `fatal`. -/
def rank : Severity → Nat
  | debug => 0
  | info => 1
  | warn => 2
  | error => 3
  | fatal => 4

/-- The name of the severity. -/
def name : Severity → Bytes
  | debug => utf8 "DEBUG"
  | info => utf8 "INFO"
  | warn => utf8 "WARN"
  | error => utf8 "ERROR"
  | fatal => utf8 "FATAL"

/-- The severity of a level's name. An unknown name stands for `info`. -/
def ofName (level : Bytes) : Severity :=
  if level = debug.name then debug
  else if level = warn.name then warn
  else if level = error.name then error
  else if level = fatal.name then fatal
  else info

end Severity

/-- Where a process writes text. -/
inductive Channel where
  /-- The replies to commands. -/
  | replies
  /-- The entries of a log that are no alarms. -/
  | notices
  /-- The alarms of a log. -/
  | alarms
  deriving DecidableEq, Repr

/-- A message with the name of its level. -/
structure Entry where
  /-- The name of the level, which may be unknown. -/
  level : Bytes
  /-- The message. -/
  message : Bytes
  deriving DecidableEq, Repr

namespace Entry

/-- The entry of a known severity. -/
def of (severity : Severity) (message : Bytes) : Entry := ⟨severity.name, message⟩

/-- The severity that the level's name stands for. -/
def severity (entry : Entry) : Severity := .ofName entry.level

/-- The level in brackets and the message. -/
def text (entry : Entry) : Bytes := utf8 "[" ++ entry.level ++ utf8 "] " ++ entry.message

/-- The text of the entry as a line of the console. -/
def line (entry : Entry) : Bytes := entry.text ++ utf8 "\n"

/-- The channel on which the entry is shown. -/
def channel (entry : Entry) : Channel :=
  if Severity.warn.rank ≤ entry.severity.rank then .alarms else .notices

end Entry

/-- The log and the console. -/
structure Log where
  /-- The entries kept, oldest first. -/
  kept : List Entry := []
  /-- The entries shown on the console so far, oldest first. -/
  shown : List Entry := []
  /-- The greatest number of entries kept. -/
  capacity : Nat := 200
  /-- The least severity that is not dropped. -/
  threshold : Severity := .info
  /-- Whether the console is on. -/
  console : Bool := true
  deriving DecidableEq, Repr

/-- Forgets the first elements of a list as long as there are too many. -/
def forgetWhile {α : Type} (tooMany : Nat → Bool) : List α → List α
  | [] => []
  | first :: rest =>
    if tooMany (rest.length + 1) then forgetWhile tooMany rest else first :: rest

namespace Log

/-- Whether an entry is grave enough to be kept and shown. -/
def accepts (log : Log) (entry : Entry) : Bool := log.threshold.rank ≤ entry.severity.rank

/-- Logs an entry. The oldest entries are forgotten until there is room for one more, which there
never is if the capacity is zero. -/
def record (log : Log) (entry : Entry) : Log :=
  if log.accepts entry then
    let others := forgetWhile (log.capacity ≤ ·) log.kept
    { log with
      kept := if 0 < log.capacity then others ++ [entry] else others
      shown := if log.console then log.shown ++ [entry] else log.shown }
  else log

/-- Logs entries one after another. -/
def recordAll (log : Log) (entries : List Entry) : Log := entries.foldl record log

/-- Sets the threshold to the severity of a level's name. -/
def setLevel (log : Log) (level : Bytes) : Log := { log with threshold := .ofName level }

/-- Sets the capacity. The oldest entries beyond it are forgotten. -/
def setCapacity (log : Log) (capacity : Nat) : Log :=
  { log with capacity, kept := forgetWhile (capacity < ·) log.kept }

/-- Turns the console on or off. -/
def setConsole (log : Log) (console : Bool) : Log := { log with console }

/-- A use of the log. -/
inductive Action where
  | record (entry : Entry)
  | setLevel (level : Bytes)
  | setCapacity (capacity : Nat)
  | setConsole (console : Bool)
  deriving DecidableEq, Repr

/-- The log after a use. -/
def act (log : Log) : Action → Log
  | .record entry => log.record entry
  | .setLevel level => log.setLevel level
  | .setCapacity capacity => log.setCapacity capacity
  | .setConsole console => log.setConsole console

/-- The log after a sequence of uses. -/
def run (log : Log) (actions : List Action) : Log := actions.foldl act log

/-- The text that the entries shown make on a channel. -/
def text (log : Log) (channel : Channel) : Bytes :=
  (log.shown.filter (·.channel = channel)).flatMap Entry.line

/-- The lines of all entries shown, in order, each behind the stamp of its time of day. -/
def transcript (stamp : Bytes) (log : Log) : Bytes :=
  log.shown.flatMap fun entry => stamp ++ entry.line

end Log

end Custody
