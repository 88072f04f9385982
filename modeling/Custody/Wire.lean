import Custody.Failure
import Custody.LeafIndex

/-!
# Values in documents

How the values that hosts exchange are written into documents and read from them. A
256-bit value is a hexadecimal numeral with its mark, a decimal numeral or a number
that is not negative; it is always written as hexadecimal. Everything that cannot be
read is malformed input. A transaction is read as it is: whether it is valid is
judged by the ledger.
-/

namespace Custody

namespace Json

/-! ### Writing -/

def ofWord (word : Word256) : Json := string word.toHex

def ofAccount (account : AccountId) : Json := string account.toHex

def ofTransaction (txn : Transaction) : Json :=
  record [("receiver", ofAccount txn.receiver), ("token_id", ofWord txn.tokenId),
    ("prev_blk_num", ofWord txn.prevBlock), ("sender", ofAccount txn.sender),
    ("signature", string (utf8 "0x" ++ Hex.encode txn.signature))]

/-- The named values of an effect. -/
def effectFields (effect : Ledger.Effect) : List (String × Json) :=
  [("event", string (utf8 effect.change.name)), ("token_id", ofWord effect.token),
    ("from", ofAccount effect.giver), ("to", ofAccount effect.taker),
    ("leaf", ofWord effect.leaf)]

/-- The reply to a command that failed. -/
def errorReply (code : ErrorCode) (message : Bytes) : Json :=
  record [("status", string (utf8 "ERROR")), ("code", string (utf8 code.name)),
    ("message", string message)]

/-! ### Reading -/

/-- Why a document is no 256-bit value. -/
inductive WordError where
  | negative
  | otherType
  | numeral (error : Word256.NumeralError)
  deriving DecidableEq, Repr

/-- The text of the error. -/
def WordError.message : WordError → Bytes
  | negative => utf8 "U256 cannot be negative"
  | otherType => utf8 "U256 must be a string or an unsigned number"
  | numeral error => error.message

/-- The 256-bit value of a document. -/
def toWord : Json → Except WordError Word256
  | unsigned value => .ok (.ofUInt64 value)
  | signed value => if value < 0 then .error .negative else .ok (.ofUInt64 value.toUInt64)
  | string text => (Word256.ofNumeral text).mapError .numeral
  | _ => .error .otherType

/-- The 256-bit value of a document, without which the input is malformed. -/
def readWord (doc : Json) : Except Failure Word256 :=
  doc.toWord.mapError fun error =>
    .malformed (utf8 "bad 256-bit value: " ++ untilZero error.message)

variable (library : Library)

/-- The account of a document, without which the input is malformed. -/
def readAccount (doc : Json) : Except Failure AccountId :=
  match doc.text with
  | .error misfit =>
    .error (.malformed (utf8 "bad account id: " ++ untilZero (library.wording misfit)))
  | .ok text => (AccountId.ofHex text).mapError fun error =>
    .malformed (utf8 "bad account id: " ++ untilZero error.message)

/-- The signature of a document, without which the input is malformed. -/
def readSignature (doc : Json) : Except Failure Bytes :=
  match doc.text with
  | .error misfit =>
    .error (.malformed (utf8 "bad signature encoding: " ++ untilZero (library.wording misfit)))
  | .ok text => (Hex.decode text).mapError fun error =>
    .malformed (utf8 "bad signature encoding: " ++ untilZero error.message)

/-- The value of a name that must be there, in a document of this kind. -/
def required (kind name : String) (doc : Json) : Except Failure Json :=
  match doc.find? name with
  | some value => .ok value
  | none => .error (.malformed (utf8 kind ++ utf8 " is missing '" ++ utf8 name ++ utf8 "'"))

/-- The transaction of a document. All names are looked for first, then the signature is read and
then the others in the order of the body. -/
def readTransaction (doc : Json) : Except Failure Transaction := do
  unless doc.isObject do
    throw (.malformed (utf8 "transaction must be a JSON object"))
  let receiver ← doc.required "transaction" "receiver"
  let tokenId ← doc.required "transaction" "token_id"
  let prevBlock ← doc.required "transaction" "prev_blk_num"
  let sender ← doc.required "transaction" "sender"
  let signature ← doc.required "transaction" "signature"
  let signature ← readSignature library signature
  return {
    receiver := ← readAccount library receiver
    tokenId := ← readWord tokenId
    prevBlock := ← readWord prevBlock
    sender := ← readAccount library sender
    signature }

end Json

end Custody
