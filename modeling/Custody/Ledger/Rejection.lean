import Custody.ErrorCode
import Custody.AccountId

/-!
# Why the ledger refuses a call

Every refusal is a cause with the token or the account it concerns. `code` sorts
the causes under the error codes, and `message` words them. A token is called by
its decimal number and an account by its hexadecimal text.
-/

namespace Custody.Ledger

/-- The kinds of call that submit a single transaction. -/
inductive Submission where
  | deposit
  | transfer
  deriving DecidableEq, Repr

/-- The word for the kind of call. -/
def Submission.word : Submission → Bytes
  | .deposit => utf8 "deposit"
  | .transfer => utf8 "transfer"

/-- Why a call is refused. -/
inductive Rejection where
  /-- The token of a deposit is already owned. -/
  | alreadyDeposited (token : TokenId)
  /-- Nobody owns the token of a transfer or a withdrawal. -/
  | notDeposited (token : TokenId)
  /-- The submitted transaction is not signed by its sender. -/
  | badSignature (submission : Submission) (token : TokenId)
  /-- The caller is not the sender of the submitted transaction. -/
  | notSigner (submission : Submission) (caller : AccountId)
  /-- The transfer does not spend what the token's last transaction produced. -/
  | senderNotOwner (sender : AccountId) (token : TokenId)
  /-- The caller of a withdrawal does not own the token. -/
  | callerNotOwner (caller : AccountId) (token : TokenId)
  /-- An entry of a genesis list is not signed by its sender. -/
  | badGenesisSignature (token : TokenId)
  /-- A genesis list names a token that is owned or was named before. -/
  | repeatedInGenesis (token : TokenId)
  deriving DecidableEq, Repr

/-- How a token is called in messages. -/
def tokenLabel (token : TokenId) : Bytes := utf8 "token " ++ token.toDecimal

namespace Rejection

/-- The code of the cause. -/
def code : Rejection → ErrorCode
  | alreadyDeposited _ => .tokenAlreadyExists
  | notDeposited _ => .tokenDoesNotExist
  | badSignature _ _ => .invalidSignature
  | notSigner _ _ => .signerMismatch
  | senderNotOwner _ _ => .notCurrentOwner
  | callerNotOwner _ _ => .notCurrentOwner
  | badGenesisSignature _ => .invalidSignature
  | repeatedInGenesis _ => .duplicateGenesisToken

/-- The wording of the cause. -/
def message : Rejection → Bytes
  | alreadyDeposited token => tokenLabel token ++ utf8 " is already deposited"
  | notDeposited token => tokenLabel token ++ utf8 " is not deposited"
  | badSignature submission token =>
    submission.word ++ utf8 " of " ++ tokenLabel token ++ utf8 " carries a bad signature"
  | notSigner submission caller =>
    utf8 "caller " ++ caller.toHex ++ utf8 " did not sign the " ++ submission.word
  | senderNotOwner sender token =>
    utf8 "sender " ++ sender.toHex ++ utf8 " does not own " ++ tokenLabel token
  | callerNotOwner caller token =>
    utf8 "caller " ++ caller.toHex ++ utf8 " does not own " ++ tokenLabel token
  | badGenesisSignature token =>
    utf8 "genesis entry for " ++ tokenLabel token ++ utf8 " carries a bad signature"
  | repeatedInGenesis token =>
    utf8 "genesis names " ++ tokenLabel token ++ utf8 " more than once"

end Rejection

end Custody.Ledger
