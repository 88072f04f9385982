import Custody.Ledger.Basic
import Custody.Log
import Custody.Work
import Std.Data.ExtTreeSet

/-!
# The ledger at work

A desk holds a ledger and a log. A piece of work at a desk reads and changes both,
and it can be broken off by what it raises; what it has done by then stays done.
The operations of the ledger are such pieces, statement by statement: each exit of
an operation logs one entry, and a refusal warns before it is raised. `serve` works
a call off. `Ledger.step` is the same call with the ledger alone, without a state
that could be left behind half changed.
-/

namespace Custody

/-- A ledger with its log. -/
structure Desk where
  ledger : Ledger := .empty
  log : Log := {}

namespace Desk

open Ledger (Rejection Effect Call Receipt tokenLabel)

/-- What breaks a piece of work off. -/
inductive Raised where
  /-- The work is refused. -/
  | refused (cause : Rejection)
  /-- The signature scheme reached no verdict. -/
  | failed (failure : Fault)
  deriving DecidableEq, Repr

/-- The desk after an entry is logged. -/
def record (desk : Desk) (entry : Entry) : Desk := { desk with log := desk.log.record entry }

/-- A piece of work at a desk. -/
abbrev Work (α : Type) := Custody.Work Desk Raised α

namespace Work

/-- Logs a message. -/
def note (severity : Severity) (message : Bytes) : Work Unit :=
  modify fun desk => desk.record (.of severity message)

/-- Warns of a refusal and breaks the work off. -/
def reject {α : Type} (cause : Rejection) : Work α := do
  note .warn (utf8 "Rejected (" ++ utf8 cause.code.name ++ utf8 "): " ++ cause.message)
  throw (.refused cause)

/-- Looks a token up. -/
def find? (token : TokenId) : Work (Option Transaction) := do
  let desk ← get
  return desk.ledger.find? token

/-- Makes the transaction the last one of its token, if the token has none. -/
def emplace (txn : Transaction) : Work Unit :=
  modify fun desk => { desk with ledger := desk.ledger.emplace txn }

/-- Makes the transaction the last one of its token. -/
def assign (txn : Transaction) : Work Unit :=
  modify fun desk => { desk with ledger := desk.ledger.insert txn }

/-- Makes a token absent. -/
def erase (token : TokenId) : Work Unit :=
  modify fun desk => { desk with ledger := desk.ledger.erase token }

/-- Asks the scheme for its verdict on a transaction. -/
def ask (scheme : Scheme) (txn : Transaction) : Work Bool :=
  match scheme.verify txn.leaf txn.signature txn.sender with
  | .ok verdict => pure verdict
  | .error failure => throw (.failed failure)

/-- Whether a transaction is valid. If the scheme reaches no verdict it is not. -/
def isValid (scheme : Scheme) (txn : Transaction) : Work Bool :=
  tryCatch (ask scheme txn) fun _ => pure false

/-! ### The operations -/

/-- Makes an absent token owned by the receiver of the transaction. -/
def deposit (scheme : Scheme) (caller : AccountId) (txn : Transaction) : Work Effect := do
  if (← find? txn.tokenId).isSome then
    reject (.alreadyDeposited txn.tokenId)
  if !(← isValid scheme txn) then
    reject (.badSignature .deposit txn.tokenId)
  if caller ≠ txn.sender then
    reject (.notSigner .deposit caller)
  emplace txn
  let effect : Effect := ⟨.deposited, txn.tokenId, txn.sender, txn.receiver, txn.leaf⟩
  note .debug (utf8 "Deposited " ++ tokenLabel txn.tokenId ++ utf8 " to " ++ txn.receiver.toHex)
  return effect

/-- Hands an owned token to the receiver of the transaction, which must be a child of the token's
last transaction. -/
def transfer (scheme : Scheme) (caller : AccountId) (txn : Transaction) : Work Effect := do
  let some last ← find? txn.tokenId | reject (.notDeposited txn.tokenId)
  if !(← isValid scheme txn) then
    reject (.badSignature .transfer txn.tokenId)
  if caller ≠ txn.sender then
    reject (.notSigner .transfer caller)
  if txn.classify last ≠ .child then
    reject (.senderNotOwner txn.sender txn.tokenId)
  let effect : Effect := ⟨.transferred, txn.tokenId, last.receiver, txn.receiver, txn.leaf⟩
  assign txn
  note .debug (utf8 "Transferred " ++ tokenLabel txn.tokenId ++ utf8 " from " ++
    effect.giver.toHex ++ utf8 " to " ++ effect.taker.toHex)
  return effect

/-- Makes a token of the caller absent. -/
def withdraw (caller : AccountId) (token : TokenId) : Work Effect := do
  let some last ← find? token | reject (.notDeposited token)
  if caller ≠ last.receiver then
    reject (.callerNotOwner caller token)
  let effect : Effect := ⟨.withdrawn, token, last.receiver, last.receiver, emptyLeaf⟩
  erase token
  note .debug (utf8 "Withdrew " ++ tokenLabel token ++ utf8 " by " ++ caller.toHex)
  return effect

/-- Judges an entry of a genesis list of which other entries named these tokens, and adds its token
to them. -/
def judge (scheme : Scheme) (named : Std.ExtTreeSet TokenId) (txn : Transaction) :
    Work (Std.ExtTreeSet TokenId) := do
  if !(← isValid scheme txn) then
    reject (.badGenesisSignature txn.tokenId)
  let (again, named) := named.containsThenInsert txn.tokenId
  if again || (← find? txn.tokenId).isSome then
    reject (.repeatedInGenesis txn.tokenId)
  return named

/-- Admits a genesis list. All of its entries are judged before the first one is entered. -/
def seed (scheme : Scheme) (genesis : List Transaction) : Work Unit := do
  let _ ← genesis.foldlM (judge scheme) ∅
  genesis.forM emplace
  note .info (utf8 "Genesis seeded " ++ decimal genesis.length ++ utf8 " token(s) under " ++
    scheme.name ++ utf8 ".")

/-- The operation that a call names. -/
def perform (scheme : Scheme) : Call → Work Receipt
  | .seed genesis => do
    seed scheme genesis
    return .seeded genesis.length
  | .deposit caller txn => return .changed (← deposit scheme caller txn)
  | .transfer caller txn => return .changed (← transfer scheme caller txn)
  | .withdraw caller token => return .changed (← withdraw caller token)

end Work

/-- Works a call off. -/
def serve (scheme : Scheme) (desk : Desk) (call : Call) : Desk × Except Raised Receipt :=
  (Work.perform scheme call).run desk

/-- What happens at a desk: a call, or a change to the settings of the log. -/
inductive Action where
  | call (call : Call)
  | setLevel (level : Bytes)
  | setCapacity (capacity : Nat)
  | setConsole (console : Bool)

/-- The desk after a sequence of actions, and the results of the calls among them. -/
def run (scheme : Scheme) (desk : Desk) : List Action → Desk × List (Except Raised Receipt)
  | [] => (desk, [])
  | .call call :: rest =>
    let (next, result) := desk.serve scheme call
    let (last, results) := run scheme next rest
    (last, result :: results)
  | .setLevel level :: rest => run scheme { desk with log := desk.log.setLevel level } rest
  | .setCapacity capacity :: rest =>
    run scheme { desk with log := desk.log.setCapacity capacity } rest
  | .setConsole console :: rest =>
    run scheme { desk with log := desk.log.setConsole console } rest

end Desk

end Custody
