import Custody.Bytes

/-!
# What a path names

A path names a file or a directory. Both can be opened for reading; a file gives
its content and a directory gives no bytes.
-/

namespace Custody

/-- What can be opened for reading. -/
inductive Document where
  /-- A file with its content. -/
  | file (content : Bytes)
  /-- A directory. -/
  | directory
  deriving DecidableEq, Repr

/-- The bytes that can be read from the document. -/
def Document.content : Document → Bytes
  | file content => content
  | directory => []

end Custody
