import Custody.LeafIndex
import Custody.Wire

/-!
# Commands

Commands come one to a line, and a line of blanks is none. A command is an object
that names its operation and gives the operation's values. All of these are read, in
the order of the operation, before the command is worked off.
-/

namespace Custody

/-- A command. -/
inductive Command where
  | deposit (caller : AccountId) (txn : Transaction)
  | transfer (caller : AccountId) (txn : Transaction)
  | withdraw (caller : AccountId) (token : TokenId)
  /-- Asks for the last transaction and the leaf of a token. -/
  | query (token : TokenId)
  /-- Asks for the relationship of two transactions. -/
  | classify (first second : Transaction)
  deriving DecidableEq, Repr

namespace Command

/-! ### Lines -/

/-- The lines of a text. A line feed ends a line, and the last line needs none. -/
def lines : Bytes → List Bytes
  | [] => []
  | byte :: rest =>
    if byte = 10 then [] :: lines rest
    else match lines rest with
      | [] => [[byte]]
      | line :: later => (byte :: line) :: later

/-- Whether a line holds nothing but spaces, tabs and carriage returns. -/
def isBlank (line : Bytes) : Bool := line.all fun byte => byte == 32 || byte == 9 || byte == 13

/-! ### Reading -/

section Reading

variable (library : Json.Library)

/-- The name of the operation. -/
def readOperation (doc : Json) : Except Failure Bytes := do
  let operation ← doc.required "command" "op"
  operation.text.mapError (.ofMisfit library)

/-- The account that gives the command. -/
def readCaller (doc : Json) : Except Failure AccountId := do
  let caller ← doc.required "command" "caller"
  caller.readAccount library

/-- The transaction of a name. -/
def readTransaction (name : String) (doc : Json) : Except Failure Transaction := do
  let txn ← doc.required "command" name
  txn.readTransaction library

/-- The token that the command is about. -/
def readToken (doc : Json) : Except Failure TokenId := do
  let token ← doc.required "command" "token_id"
  token.readWord

/-- The command of a document. -/
def read (doc : Json) : Except Failure Command := do
  unless doc.isObject do
    throw (.malformed (utf8 "command must be a JSON object"))
  let operation ← readOperation library doc
  if operation = utf8 "deposit" then
    let caller ← readCaller library doc
    return deposit caller (← readTransaction library "txn" doc)
  else if operation = utf8 "transfer" then
    let caller ← readCaller library doc
    return transfer caller (← readTransaction library "txn" doc)
  else if operation = utf8 "withdraw" then
    let caller ← readCaller library doc
    return withdraw caller (← readToken doc)
  else if operation = utf8 "query" then
    return query (← readToken doc)
  else if operation = utf8 "classify" then
    let first ← readTransaction library "a" doc
    let second ← readTransaction library "b" doc
    unless first.tokenId = second.tokenId do
      throw (.malformed (utf8 "classify needs two transactions for the same token"))
    return classify first second
  else
    throw (.malformed (utf8 "unknown op '" ++ operation ++ utf8 "'"))

end Reading

/-- The call on the ledger that the command makes, if it makes one. -/
def call? : Command → Option Ledger.Call
  | deposit caller txn => some (.deposit caller txn)
  | transfer caller txn => some (.transfer caller txn)
  | withdraw caller token => some (.withdraw caller token)
  | query _ => none
  | classify _ _ => none

end Command

end Custody
