import Custody.ErrorCode
import Custody.Scheme
import Custody.Sha2.Sha256

/-!
# Transactions

A transaction hands one token to a receiver. Its body, the receiver, the token
id and the block number, is written into ninety-six bytes without padding or
lengths, and the digest of these bytes is both the message that the sender signs
and the value of the token's leaf. A signature attached to a body is checked
first; a transaction from elsewhere is judged by `Transaction.valid`.
-/

namespace Custody

namespace Transaction

/-- The part of a transaction that is signed. -/
structure Body where
  /-- The account that gets the token. -/
  receiver : AccountId
  /-- The token. -/
  tokenId : TokenId
  /-- The block in which the sender's ownership was last confirmed. -/
  prevBlock : BlockNumber
  deriving DecidableEq, Repr

end Transaction

/-- A body with the account that hands the token on and its signature. -/
structure Transaction extends Transaction.Body where
  /-- The account that hands the token on. -/
  sender : AccountId
  /-- The signature, of whatever length the scheme gives it. -/
  signature : Bytes
  deriving DecidableEq, Repr

namespace Transaction

/-- The body whose fields are all zero. -/
def Body.zero : Body := ⟨.zero, .zero, .zero⟩

/-- The ninety-six bytes of a body: receiver, token id and block number. -/
def Body.encoding (body : Body) : Bytes :=
  body.receiver.bytes ++ body.tokenId.bytes ++ body.prevBlock.bytes

/-- The digest of the encoding: the message that the sender signs. -/
def Body.digest (body : Body) : Digest := sha256 body.encoding

@[simp] theorem Body.length_encoding (body : Body) : body.encoding.length = 96 := by
  simp only [encoding, List.length_append, body.receiver.length_bytes, body.tokenId.length_bytes,
    body.prevBlock.length_bytes]

/-- Why a signature cannot be attached to a body. -/
inductive SigningError where
  /-- The signature is not by the sender over the body. -/
  | mismatch
  /-- The scheme reached no verdict, or the signer failed. -/
  | fault (failure : Fault)
  deriving DecidableEq, Repr

/-- The text of the error. -/
def SigningError.message : SigningError → Bytes
  | .mismatch => utf8 "signature does not match sender"
  | .fault failure => failure.reason

/-- The code of the error. The scheme's own failure is passed on under no code. -/
def SigningError.code? : SigningError → Option ErrorCode
  | .mismatch => some .invalidSignature
  | .fault _ => none

/-- The transaction of a body, a sender and the sender's signature over the body. -/
def Body.attach (scheme : Scheme) (body : Body) (sender : AccountId) (signature : Bytes) :
    Except SigningError Transaction :=
  match scheme.verify body.digest signature sender with
  | .error failure => .error (.fault failure)
  | .ok false => .error .mismatch
  | .ok true => .ok { body with sender, signature }

/-- The transaction of a body that a signer signs as its sender. -/
def Body.signBy (scheme : Scheme) (signer : Signer) (body : Body) :
    Except SigningError Transaction :=
  match signer.sign body.digest with
  | .error failure => .error (.fault failure)
  | .ok signature => body.attach scheme signer.identity signature

/-- The value of the token's leaf: the digest of the body. -/
def leaf (txn : Transaction) : Digest := txn.toBody.digest

/-- Whether the signature is by the sender. A scheme that reaches no verdict counts as no. -/
def valid (scheme : Scheme) (txn : Transaction) : Bool :=
  match scheme.verify txn.leaf txn.signature txn.sender with
  | .ok verdict => verdict
  | .error _ => false

end Transaction

/-- The value of the leaf of a token that nobody owns: the digest of the zero body. -/
def emptyLeaf : Digest := Transaction.Body.zero.digest

end Custody
