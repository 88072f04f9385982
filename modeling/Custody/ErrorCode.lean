/-!
# Error codes

The codes under which refusals are reported. Each code has one stable name. An
argument that is no text or number of its type is refused under no code: it is
either invalid or out of range.
-/

namespace Custody

/-- The code of a refusal. -/
inductive ErrorCode where
  /-- A signature is not by the sender it names. -/
  | invalidSignature
  /-- The caller is not the sender of the transaction. -/
  | signerMismatch
  /-- The token is already owned. -/
  | tokenAlreadyExists
  /-- Nobody owns the token. -/
  | tokenDoesNotExist
  /-- The sender or the caller does not own the token. -/
  | notCurrentOwner
  /-- A genesis list names a token twice, or one that is owned. -/
  | duplicateGenesisToken
  /-- A document or a command cannot be decoded. -/
  | malformedInput
  /-- Something failed after a command took effect. -/
  | internalError
  deriving DecidableEq, Repr

namespace ErrorCode

/-- All codes in their order. -/
def all : List ErrorCode :=
  [invalidSignature, signerMismatch, tokenAlreadyExists, tokenDoesNotExist, notCurrentOwner,
    duplicateGenesisToken, malformedInput, internalError]

/-- The name of the code. -/
def name : ErrorCode → String
  | invalidSignature => "InvalidSignature"
  | signerMismatch => "SignerMismatch"
  | tokenAlreadyExists => "TokenAlreadyExists"
  | tokenDoesNotExist => "TokenDoesNotExist"
  | notCurrentOwner => "NotCurrentOwner"
  | duplicateGenesisToken => "DuplicateGenesisToken"
  | malformedInput => "MalformedInput"
  | internalError => "InternalError"

end ErrorCode

/-- What is wrong with an argument that is refused under no code. -/
inductive ArgumentError where
  /-- The argument has no meaning. -/
  | invalid
  /-- The argument means a number past a bound. -/
  | outOfRange
  deriving DecidableEq, Repr

/-- The name of the error. -/
def ArgumentError.name : ArgumentError → String
  | invalid => "invalid_argument"
  | outOfRange => "out_of_range"

end Custody
