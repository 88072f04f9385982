import Custody.Json
import Custody.Numeral
import Std.Data.TreeMap

/-!
# Documents as texts

A library of documents. It reads texts in UTF-8, by recursion on what is left of
the text. An object that names a value twice has the last one, and its names are kept in
order. It writes a document without blanks, with the names of each object in order,
and escapes no more than it must. A number with a fraction is written as it was read.
-/

namespace Custody.Json.Text

-- Powers are those of the core library, whatever other instances are in scope.
attribute [local instance (2000)] instPowNat

/-- What was read from the front of a text, and what is left. Something always was read. -/
structure Read (α : Type) (text : Bytes) where
  value : α
  rest : Bytes
  length_rest_lt : rest.length < text.length

/-- A value that was read when what follows an earlier one was read too. -/
def Read.after {α β : Type} {text rest : Bytes} (read : Read α rest) (value : β)
    (h : rest.length < text.length) : Read β text :=
  ⟨value, read.rest, Nat.lt_trans read.length_rest_lt h⟩

/-- Whether a byte may stand between the parts of a document. -/
def isBlank (byte : UInt8) : Bool := byte == 32 || byte == 9 || byte == 10 || byte == 13

/-- The text without the blanks in front. -/
def skip (text : Bytes) : Bytes := text.dropWhile isBlank

theorem length_skip_le (text : Bytes) : (skip text).length ≤ text.length :=
  (List.dropWhile_sublist isBlank).length_le

theorem length_skip_rest_lt {α : Type} {text : Bytes} (read : Read α text) :
    (skip read.rest).length < text.length :=
  Nat.lt_of_le_of_lt (length_skip_le read.rest) read.length_rest_lt

theorem length_skip_lt_cons (byte : UInt8) (rest : Bytes) :
    (skip rest).length < (byte :: rest).length :=
  Nat.lt_succ_of_le (length_skip_le rest)

/-- The first byte that is no blank. -/
def readMark (text : Bytes) : Except Bytes (Read UInt8 text) :=
  match hskip : skip text with
  | [] => .error (utf8 "a document has no end")
  | mark :: rest => .ok ⟨mark, rest, by
      have h := length_skip_le text
      rw [hskip] at h
      exact h⟩

/-! ### Strings -/

/-- The characters that are written with a backslash and a letter, each after its letter. -/
def escapes : List (UInt8 × UInt8) :=
  [(34, 34), (92, 92), (47, 47), (98, 8), (102, 12), (110, 10), (114, 13), (116, 9)]

/-- The number of four hexadecimal digits. -/
def readCodeUnit (text : Bytes) : Except Bytes (Read Nat text) :=
  match text with
  | a :: b :: c :: d :: rest =>
    match [a, b, c, d].mapM hexDigit? with
    | some digits => .ok ⟨numeralValue 16 digits, rest, by simp only [List.length_cons]; omega⟩
    | none => .error (utf8 "four hexadecimal digits must follow an escaped u")
  | _ => .error (utf8 "four hexadecimal digits must follow an escaped u")

/-- The bytes of a character. -/
def character (code : Nat) : Bytes := utf8 (String.singleton (Char.ofNat code))

/-- The bytes of the character behind a backslash. A character beyond the first plane is escaped as
two halves. -/
def readEscape (text : Bytes) : Except Bytes (Read Bytes text) :=
  match text with
  | 117 :: rest => do
    let first ← readCodeUnit rest
    if first.value < 0xD800 ∨ 0xE000 ≤ first.value then
      return first.after (character first.value) (Nat.lt_succ_self _)
    else match hrest : first.rest with
      | 92 :: 117 :: more => do
        let second ← readCodeUnit more
        if first.value < 0xDC00 ∧ 0xDC00 ≤ second.value ∧ second.value < 0xE000 then
          let code := 0x10000 + (first.value - 0xD800) * 0x400 + (second.value - 0xDC00)
          have hmore : more.length < (117 :: rest).length := by
            have h := first.length_rest_lt
            simp only [hrest, List.length_cons] at h ⊢
            omega
          return second.after (character code) hmore
        else throw (utf8 "an escaped half of a character has no other half")
      | _ => throw (utf8 "an escaped half of a character has no other half")
  | byte :: rest =>
    match escapes.lookup byte with
    | some plain => .ok ⟨[plain], rest, Nat.lt_succ_self _⟩
    | none => .error (utf8 "a backslash is followed by no escape")
  | [] => .error (utf8 "a string has no end")

/-- The string up to the quotation mark that ends it. -/
def readString (text : Bytes) : Except Bytes (Read Bytes text) :=
  match text with
  | [] => .error (utf8 "a string has no end")
  | byte :: rest => do
    have hrest : rest.length < (byte :: rest).length := Nat.lt_succ_self _
    if byte = 34 then return ⟨[], rest, hrest⟩
    else if byte < 32 then throw (utf8 "a string has a control character")
    else if byte = 92 then
      let first ← readEscape rest
      have hfirst : first.rest.length < (byte :: rest).length :=
        Nat.lt_trans first.length_rest_lt hrest
      let others ← readString first.rest
      return others.after (first.value ++ others.value) hfirst
    else
      let others ← readString rest
      return others.after (byte :: others.value) hrest
termination_by text.length
decreasing_by all_goals assumption

/-! ### Words -/

/-- Whether a byte may stand in a number or a literal. -/
def isWordByte (byte : UInt8) : Bool :=
  (decimalDigit? byte).isSome || 97 ≤ byte && byte ≤ 122 || [43, 45, 46, 69].contains byte

/-- Whether the digits before a fraction are written as they must be. -/
def isWhole (digits : Bytes) : Bool := digits ≠ [] ∧ (digits.head? = some 48 → digits = [48])

/-- Whether a text is a fraction and an exponent, each of which may be missing. -/
def isFraction (text : Bytes) : Bool :=
  let isDigit (byte : UInt8) : Bool := (decimalDigit? byte).isSome
  let exponent? (text : Bytes) : Bool := match text with
    | [] => true
    | mark :: rest =>
      let digits := match rest with
        | 43 :: digits => digits
        | 45 :: digits => digits
        | digits => digits
      (mark == 69 || mark == 101) && digits ≠ [] && digits.all isDigit
  match text with
  | 46 :: rest =>
    let (digits, rest) := rest.span isDigit
    digits ≠ [] && exponent? rest
  | rest => exponent? rest

/-- The number that a word is. -/
def number? (word : Bytes) : Option Json :=
  let (negative, magnitude) := match word with
    | 45 :: rest => (true, rest)
    | rest => (false, rest)
  let (whole, rest) := magnitude.span fun byte => (decimalDigit? byte).isSome
  let value := numeralValue 10 (whole.filterMap decimalDigit?)
  if ¬ isWhole whole ∨ ¬ isFraction rest then none
  else if rest ≠ [] then some (.fraction word)
  else if negative then
    if value ≤ 2 ^ (63 : Nat) then some (.signed (.ofInt (-value))) else some (.fraction word)
  else if value < 2 ^ (64 : Nat) then some (.unsigned (.ofNat value)) else some (.fraction word)

/-- What is left behind a word is shorter than the text. -/
theorem length_dropWhile_lt {text : Bytes} (h : text.takeWhile isWordByte ≠ []) :
    (text.dropWhile isWordByte).length < text.length := by
  have hlength := congrArg List.length
    (List.takeWhile_append_dropWhile (p := isWordByte) (l := text))
  have hpos := List.length_pos_iff.mpr h
  rw [List.length_append] at hlength
  omega

/-- The number or the literal at the front of a text. -/
def readWord (text : Bytes) : Except Bytes (Read Json text) :=
  let word := text.takeWhile isWordByte
  if hword : word = [] then .error (utf8 "a value is missing")
  else
    let read (value : Json) : Read Json text :=
      ⟨value, text.dropWhile isWordByte, length_dropWhile_lt hword⟩
    if word = utf8 "null" then .ok (read .null)
    else if word = utf8 "true" then .ok (read (.boolean true))
    else if word = utf8 "false" then .ok (read (.boolean false))
    else match number? word with
      | some value => .ok (read value)
      | none => .error (utf8 "a word is no value: " ++ word)

/-! ### Documents -/

/-- The object of values with their names. Of the values of one name it has the last. -/
def ofFields (fields : List (Bytes × Json)) : Json :=
  .object (Std.TreeMap.ofList fields compare).toList

mutual

/-- The document at the front of a text. -/
def readValue (text : Bytes) : Except Bytes (Read Json text) :=
  match text with
  | [] => .error (utf8 "a value is missing")
  | byte :: rest =>
    have hrest := length_skip_lt_cons byte rest
    if byte = 34 then do
      let read ← readString rest
      return read.after (.string read.value) (Nat.lt_succ_self _)
    else if byte = 91 then do
      let mark ← readMark rest
      if mark.value = 93 then
        return mark.after (.array []) (Nat.lt_succ_self _)
      else
        let items ← readItems (skip rest)
        return items.after (.array items.value) hrest
    else if byte = 123 then do
      let mark ← readMark rest
      if mark.value = 125 then
        return mark.after (.object []) (Nat.lt_succ_self _)
      else
        let fields ← readFields (skip rest)
        return fields.after (ofFields fields.value) hrest
    else readWord (byte :: rest)
termination_by (text.length, 0)

/-- The items of an array up to the bracket that ends it. -/
def readItems (text : Bytes) : Except Bytes (Read (List Json) text) := do
  let first ← readValue text
  let mark ← readMark first.rest
  have hmark : (skip mark.rest).length < text.length :=
    Nat.lt_trans (length_skip_rest_lt mark) first.length_rest_lt
  if mark.value = 93 then
    return mark.after [first.value] first.length_rest_lt
  else if mark.value = 44 then
    let others ← readItems (skip mark.rest)
    return others.after (first.value :: others.value) hmark
  else throw (utf8 "an array has no end")
termination_by (text.length, 1)

/-- The values of an object with their names up to the brace that ends it. -/
def readFields (text : Bytes) : Except Bytes (Read (List (Bytes × Json)) text) := do
  let quote ← readMark text
  let name ← readString quote.rest
  let colon ← readMark name.rest
  have hname : name.rest.length < text.length :=
    Nat.lt_trans name.length_rest_lt quote.length_rest_lt
  have hcolon : (skip colon.rest).length < text.length :=
    Nat.lt_trans (length_skip_rest_lt colon) hname
  if quote.value ≠ 34 ∨ colon.value ≠ 58 then
    throw (utf8 "a name is missing")
  let first ← readValue (skip colon.rest)
  let mark ← readMark first.rest
  have hfirst : first.rest.length < text.length := Nat.lt_trans first.length_rest_lt hcolon
  have hmark : (skip mark.rest).length < text.length :=
    Nat.lt_trans (length_skip_rest_lt mark) hfirst
  if mark.value = 125 then
    return mark.after [(name.value, first.value)] hfirst
  else if mark.value = 44 then
    let others ← readFields (skip mark.rest)
    return others.after ((name.value, first.value) :: others.value) hmark
  else throw (utf8 "an object has no end")
termination_by (text.length, 1)

end

/-- Whether a text is in UTF-8. -/
def isUtf8 (text : Bytes) : Bool := (String.fromUTF8? (ByteArray.mk text.toArray)).isSome

/-- The text without the mark of its encoding, which may stand in front. -/
def unmarked : Bytes → Bytes
  | 0xEF :: 0xBB :: 0xBF :: rest => rest
  | text => text

/-- The document that a text is. -/
def parse (text : Bytes) : Except Bytes Json := do
  unless isUtf8 text do
    throw (utf8 "a text is not in UTF-8")
  let read ← readValue (skip (unmarked text))
  unless (skip read.rest).isEmpty do
    throw (utf8 "a text goes on behind its document")
  return read.value

/-! ### Writing -/

/-- A byte of a string as it is written. -/
def writeByte (byte : UInt8) : Bytes :=
  match (escapes.filter fun escape => escape.2 ≠ 47).find? fun escape => escape.2 = byte with
  | some escape => [92, escape.1]
  | none =>
    if byte < 32 then
      utf8 "\\u00" ++ [hexDigit (byte.toNat / 16), hexDigit (byte.toNat % 16)]
    else [byte]

/-- A string as it is written. -/
def writeString (text : Bytes) : Except Bytes Bytes :=
  if isUtf8 text then .ok ([34] ++ text.flatMap writeByte ++ [34])
  else .error (utf8 "a string is not in UTF-8")

mutual

/-- A document as it is written. -/
def write : Json → Except Bytes Bytes
  | .null => .ok (utf8 "null")
  | .boolean value => .ok (utf8 (toString value))
  | .unsigned value => .ok (decimal value.toNat)
  | .signed value => .ok (utf8 (toString value))
  | .fraction text => .ok text
  | .string text => writeString text
  | .array items => do
    let items ← writeItems items
    return [91] ++ [44].intercalate items ++ [93]
  | .object fields => do
    let fields ← writeFields fields
    let sorted := (Std.TreeMap.ofList fields compare).values
    return [123] ++ [44].intercalate sorted ++ [125]

/-- The items of an array as they are written. -/
def writeItems : List Json → Except Bytes (List Bytes)
  | [] => .ok []
  | first :: rest => do
    let first ← write first
    return first :: (← writeItems rest)

/-- The values of an object as they are written, with their names. -/
def writeFields : List (Bytes × Json) → Except Bytes (List (Bytes × Bytes))
  | [] => .ok []
  | (name, value) :: rest => do
    let first := (← writeString name) ++ [58] ++ (← write value)
    return (name, first) :: (← writeFields rest)

end

/-! ### The library -/

/-- The word for the type of a document. -/
def typeName : Json → Bytes
  | .null => utf8 "null"
  | .boolean _ => utf8 "boolean"
  | .unsigned _ | .signed _ | .fraction _ => utf8 "number"
  | .string _ => utf8 "string"
  | .array _ => utf8 "array"
  | .object _ => utf8 "object"

/-- What is said of a misfit. -/
def wording : Misfit → Bytes
  | .noString found =>
    utf8 "[json.exception.type_error.302] type must be string, but is " ++ typeName found
  | .noBoolean found =>
    utf8 "[json.exception.type_error.302] type must be boolean, but is " ++ typeName found
  | .noObject found =>
    utf8 "[json.exception.type_error.304] cannot use at() with " ++ typeName found
  | .noField name => utf8 "[json.exception.out_of_range.403] key '" ++ name ++ utf8 "' not found"

/-- The library with which the node runs. -/
def library : Library := ⟨parse, write, wording⟩

end Custody.Json.Text
