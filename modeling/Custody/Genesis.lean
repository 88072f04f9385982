import Custody.Document
import Custody.Wire

/-!
# Genesis

The tokens that a ledger starts with. Each chain preset endows fixed phrases
with fixed tokens, by deposits that each phrase's account signs and addresses to
itself. A custom chain takes its list from a file instead, whose entries are such
endowments or transactions from elsewhere. Their signatures are judged by the ledger
when it is seeded.
-/

namespace Custody

/-- The chains that the node knows. -/
inductive Preset where
  | development
  | localTestnet
  | custom
  deriving DecidableEq, Repr

namespace Preset

/-- The preset of a chain's name. The local testnet is also the chain without a name. -/
def ofName? (chain : Bytes) : Option Preset :=
  if chain = utf8 "dev" then some development
  else if chain = [] ∨ chain = utf8 "local" then some localTestnet
  else if chain = utf8 "custom" then some custom
  else none

/-- The name of the preset. -/
def name : Preset → String
  | development => "Development"
  | localTestnet => "LocalTestnet"
  | custom => "Custom"

/-- The phrases that the preset endows, each with its token. -/
def endowments : Preset → List (Bytes × TokenId)
  | development => [(utf8 "//Alice", .ofNat 1)]
  | localTestnet =>
    [(utf8 "//Charlie", .ofNat 1), (utf8 "//Dave", .ofNat 2), (utf8 "//Eve", .ofNat 3),
      (utf8 "//Ferdie", .ofNat 4)]
  | custom => []

end Preset

namespace Genesis

/-- The deposit of a token by the account of a phrase to itself. -/
def selfDeposit (scheme : SigningScheme) (phrase : Bytes) (token : TokenId) :
    Except Transaction.SigningError Transaction :=
  match scheme.signerOfPhrase phrase with
  | .error failure => .error (.fault failure)
  | .ok owner =>
    Transaction.Body.signBy scheme.toScheme owner ⟨owner.identity, token, .zero⟩

/-- The deposits of a list of endowments. -/
def ofEndowments (scheme : SigningScheme) (endowments : List (Bytes × TokenId)) :
    Except Transaction.SigningError (List Transaction) :=
  endowments.mapM fun endowment => selfDeposit scheme endowment.1 endowment.2

/-- The deposit that an entry of a genesis file describes. It names a phrase and a token, or it is
a transaction. -/
def readEntry (scheme : SigningScheme) (library : Json.Library) (entry : Json) :
    Except Failure Transaction :=
  match entry.find? "seed" with
  | none => entry.readTransaction library
  | some phrase =>
    match phrase, entry.find? "token_id" with
    | .string phrase, some token => do
      let token ← token.readWord
      (selfDeposit scheme phrase token).mapError .ofSigning
    | _, _ => .error (.malformed
        (utf8 "seeded genesis entry needs a 'seed' string and a 'token_id'"))

/-- The deposits that a genesis file describes. -/
def ofJson (scheme : SigningScheme) (library : Json.Library) (doc : Json) :
    Except Failure (List Transaction) :=
  match doc.find? "tokens" with
  | some (.array entries) => entries.mapM (readEntry scheme library)
  | _ => .error (.malformed (utf8 "genesis must be an object with a 'tokens' array"))

/-- Why a genesis file gives no list. -/
inductive FileError where
  /-- The file cannot be opened. -/
  | missing (path : Bytes)
  /-- The file cannot be decoded, for the reason that the library gives. -/
  | corrupt (path wording : Bytes)
  /-- The document in the file gives no list. -/
  | unusable (failure : Failure)
  deriving DecidableEq, Repr

namespace FileError

/-- The failure that is raised. -/
def failure : FileError → Failure
  | missing path => .malformed (utf8 "cannot open genesis file " ++ path)
  | corrupt path _ => .malformed (utf8 "genesis file " ++ path ++ utf8 " is corrupt")
  | unusable failure => failure

/-- The entry that is logged before, of a file that cannot be opened or decoded. -/
def entry? : FileError → Option Entry
  | missing path => some (.of .error (utf8 "Genesis file missing: " ++ path))
  | corrupt _ wording => some (.of .error (utf8 "Genesis Parse Error: " ++ untilZero wording))
  | unusable _ => none

end FileError

/-- The deposits of a genesis file, of which `document` is what can be opened. -/
def ofFile (scheme : SigningScheme) (library : Json.Library) (path : Bytes)
    (document : Option Document) : Except FileError (List Transaction) :=
  match document with
  | none => .error (.missing path)
  | some document =>
    match library.parse document.content with
    | .error wording => .error (.corrupt path wording)
    | .ok doc => (ofJson scheme library doc).mapError .unusable

end Genesis

end Custody
