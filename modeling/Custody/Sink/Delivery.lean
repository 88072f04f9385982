import Custody.Scheme
import Custody.Sink.Registry

/-!
# Delivery of a line to a sink

A line goes to the standard output, or to the end of a file, which is made if it
does not exist. Delivery reports whether it succeeded. A standard output that takes
no bytes and a path at which no file can be opened make it fail, and then nothing is
written. A standard output can also raise a failure of its own instead of reporting
one.
-/

namespace Custody

/-- What becomes of text written to the standard output. -/
inductive Outlet where
  /-- It is taken. -/
  | taking
  /-- It is lost. -/
  | closed
  /-- It is lost, and a failure is raised. -/
  | raising (failure : Fault)
  deriving DecidableEq, Repr

/-- The places that text can reach. -/
structure Places where
  /-- What was written to the standard output. -/
  output : Bytes := []
  /-- What becomes of text written to the standard output. -/
  outlet : Outlet := .taking
  /-- What was added to each file, by path. -/
  files : Std.ExtTreeMap Bytes Bytes := ∅
  /-- Whether a file can be opened for writing at a path. -/
  canOpen : Bytes → Bool := fun _ => false

/-- Writes text to the standard output, and tells whether it was taken. -/
def Places.write (places : Places) (text : Bytes) : Places × Except Fault Bool :=
  match places.outlet with
  | .taking => ({ places with output := places.output ++ text }, .ok true)
  | .closed => (places, .ok false)
  | .raising failure => (places, .error failure)

/-- Adds text to the end of a file, and tells whether the file could be opened. -/
def Places.append (places : Places) (path text : Bytes) : Places × Bool :=
  if places.canOpen path then
    let content := places.files[path]?.getD []
    ({ places with files := places.files.insert path (content ++ text) }, true)
  else (places, false)

/-- Delivers a line to a sink. Any kind but that of the standard output stands for a file. -/
def Sink.deliver (sink : Sink) (line : Bytes) (places : Places) : Places × Except Fault Bool :=
  let text := line ++ utf8 "\n"
  if sink.kind = stdoutKind then places.write text
  else
    let (places, opened) := places.append sink.path text
    (places, .ok opened)

end Custody
