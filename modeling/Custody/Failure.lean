import Custody.Desk
import Custody.Json

/-!
# What breaks the host's work off

Three kinds of failure reach the host: an error with a code, what the library of
documents complains of, and any other failure. Each has its own account, which ends
before its first zero byte where it is read back.
-/

namespace Custody

/-- What breaks the host's work off. -/
inductive Failure where
  /-- An error with a code. -/
  | coded (code : ErrorCode) (message : Bytes)
  /-- A complaint of the library of documents. -/
  | document (wording : Bytes)
  /-- Any other failure. -/
  | other (reason : Bytes)
  deriving DecidableEq, Repr

namespace Failure

/-- The account of the failure. -/
def account : Failure → Bytes
  | coded _ message => untilZero message
  | document wording => untilZero wording
  | other reason => untilZero reason

/-- The account behind the name of the code, if the failure has one. -/
def headline (failure : Failure) : Bytes :=
  match failure with
  | coded code _ => utf8 code.name ++ utf8 ": " ++ failure.account
  | document _ | other _ => failure.account

/-- The error of an input that cannot be decoded. -/
def malformed (message : Bytes) : Failure := coded .malformedInput message

/-- What the library says of a value that is not what was asked for. -/
def ofMisfit (library : Json.Library) (misfit : Json.Misfit) : Failure :=
  document (library.wording misfit)

/-- The failure of a signature that cannot be attached. -/
def ofSigning (error : Transaction.SigningError) : Failure :=
  match error.code? with
  | some code => coded code error.message
  | none => other error.message

/-- The failure of a call on the ledger. -/
def ofRaised : Desk.Raised → Failure
  | .refused cause => coded cause.code cause.message
  | .failed failure => other failure.reason

end Failure

end Custody
