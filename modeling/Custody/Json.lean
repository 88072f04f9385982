import Custody.Bytes

/-!
# Decoded documents

Texts are decoded into documents and documents written as texts by a library, which
is a parameter wherever it is used: it reads, it writes, and it has a wording for
everything that it complains of. Integers are told apart by whether they were
written with a sign. What a document is asked for and does not have is a `Misfit`.
-/

namespace Custody

/-- A decoded document. -/
inductive Json where
  | null
  | boolean (value : Bool)
  /-- An integer that was written without a sign. -/
  | unsigned (value : UInt64)
  /-- An integer that was written with a sign. -/
  | signed (value : Int64)
  /-- A number with a fraction or an exponent, or an integer that is too large, as it was
  written. -/
  | fraction (text : Bytes)
  | string (text : Bytes)
  | array (items : List Json)
  /-- Values with their names, of which no two are the same. -/
  | object (fields : List (Bytes × Json))
  deriving Inhabited

namespace Json

/-- What a document was asked for that it does not have. -/
inductive Misfit where
  /-- The document is no string. -/
  | noString (found : Json)
  /-- The document is no truth value. -/
  | noBoolean (found : Json)
  /-- The document is no object, so it has no named values. -/
  | noObject (found : Json)
  /-- The object has no value of this name. -/
  | noField (name : Bytes)

/-- A library that reads and writes documents. -/
structure Library where
  /-- Decodes a text, or says why it is no document. -/
  parse : Bytes → Except Bytes Json
  /-- Writes a document as one line, or says why it cannot. -/
  dump : Json → Except Bytes Bytes
  /-- What it says of a misfit. -/
  wording : Misfit → Bytes

/-- The object of these values, whose names are all different. -/
def record (fields : List (String × Json)) : Json :=
  object (fields.map fun field => (utf8 field.1, field.2))

/-- Whether the document is an object. -/
def isObject : Json → Bool
  | object _ => true
  | _ => false

/-- The value of a name, if the document is an object that has one. -/
def find? (name : String) : Json → Option Json
  | object fields => fields.lookup (utf8 name)
  | _ => none

/-- The value of a name. -/
def field (name : String) : Json → Except Misfit Json
  | object fields => match fields.lookup (utf8 name) with
    | some value => .ok value
    | none => .error (.noField (utf8 name))
  | found => .error (.noObject found)

/-- The text of a string. -/
def text : Json → Except Misfit Bytes
  | string text => .ok text
  | found => .error (.noString found)

/-- The value of a truth value. -/
def truth : Json → Except Misfit Bool
  | boolean value => .ok value
  | found => .error (.noBoolean found)

/-- What the value of a name is read as, or the default where the name has no value. -/
def fieldOr {α : Type} (name : String) (read : Json → Except Misfit α) (default : α) (doc : Json) :
    Except Misfit α :=
  match doc.find? name with
  | some value => read value
  | none => .ok default

/-- The documents that a walk through the document meets. A value that holds no others is met
itself. -/
def elements : Json → List Json
  | null => []
  | array items => items
  | object fields => fields.map Prod.snd
  | value => [value]

end Json

end Custody
