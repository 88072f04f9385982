import Custody.AccountId
import Custody.Sha2.Sha256

/-!
# Signature schemes

The ledger knows a signature scheme only by its name and by its verdict on a
message, a signature and an identity. A scheme may also fail to reach a verdict.
A `SigningScheme` has in addition the holder's side: the signer of a secret seed,
if one can be made, with its identity and its signatures.
-/

namespace Custody

/-- The reason why a scheme or a signer failed. -/
structure Fault where
  /-- Its own account of the failure. -/
  reason : Bytes
  deriving DecidableEq, Repr

/-- A signature scheme as a verifier sees it. -/
structure Scheme where
  /-- The name of the scheme. -/
  name : Bytes
  /-- Whether the signature is by the identity over the message. -/
  verify : (message : Digest) → (signature : Bytes) → (identity : AccountId) → Except Fault Bool

/-- The holder of a secret. -/
structure Signer where
  /-- The identity of the holder. -/
  identity : AccountId
  /-- The holder's signature over a message. -/
  sign : Digest → Except Fault Bytes

/-- A secret seed of thirty-two bytes. -/
abbrev Seed := Word256

/-- The seed of a phrase: its digest. -/
def seedOfPhrase (phrase : Bytes) : Seed := sha256 phrase

/-- A signature scheme together with the holder's side. -/
structure SigningScheme extends Scheme where
  /-- The holder of a seed. -/
  signer : Seed → Except Fault Signer

/-- The holder of a phrase. -/
def SigningScheme.signerOfPhrase (scheme : SigningScheme) (phrase : Bytes) : Except Fault Signer :=
  scheme.signer (seedOfPhrase phrase)

end Custody
