import Custody.Ed25519.Backend
import Custody.Ed25519.Curve
import Custody.Sha2.Sha512

/-!
# Ed25519 signatures

Deterministic signatures of thirty-two byte messages. A signature is the
encoding of a point and a scalar, sixty-four bytes together. Verification asks
for a scalar below the group order and compares the recomputed point with the
first half byte for byte, without the cofactor, so a point that is not written
in its canonical form never matches. `native` offers this as a backend.
-/

namespace Custody.Ed25519

-- Powers are those of the core library, whatever other instances are in scope.
attribute [local instance (2000)] instPowNat

/-- The scalar that two byte strings and a message determine. -/
def challenge (first second : Bytes) (message : Digest) : Nat :=
  LittleEndian.toNat (sha512 (first ++ second ++ message.bytes)) % groupOrder

/-- Whether the signature is by the identity over the message. -/
def verify (message : Digest) (signature : Bytes) (identity : AccountId) : Bool :=
  let commitment := signature.take 32
  let scalar := LittleEndian.toNat (signature.drop 32)
  if signature.length = 64 ∧ scalar < groupOrder then
    match Point.decode? identity.bytes with
    | none => false
    | some key =>
      let factor := challenge commitment identity.bytes message
      ((Point.base.scale scalar).add (key.neg.scale factor)).encode == commitment
  else false

/-- What a seed expands to: the secret scalar and the bytes that make commitments secret. -/
structure Secret where
  scalar : Nat
  nonce : Bytes

/-- The secret of a seed. The scalar is a multiple of eight between `2 ^ 254` and `2 ^ 255`. -/
def Secret.ofSeed (seed : Seed) : Secret :=
  let digest := sha512 seed.bytes
  ⟨2 ^ (254 : Nat) + LittleEndian.toNat (digest.take 32) % 2 ^ (254 : Nat) / 8 * 8, digest.drop 32⟩

/-- The public identity of a secret. -/
def Secret.account (secret : Secret) : AccountId :=
  ⟨(Point.base.scale secret.scalar).encode, LittleEndian.length_ofNat 32 _⟩

/-- The signature of a secret's holder over a message. -/
def Secret.sign (secret : Secret) (message : Digest) : Bytes :=
  let nonce := challenge secret.nonce [] message
  let commitment := (Point.base.scale nonce).encode
  let factor := challenge commitment secret.account.bytes message
  commitment ++ LittleEndian.ofNat 32 ((nonce + factor * secret.scalar) % groupOrder)

/-- A key: the secret of a seed, or the bytes of an identity. -/
inductive Key where
  | ofSecret (secret : Secret)
  | ofIdentity (identity : AccountId)

/-- The identity that belongs to a key. -/
def Key.identity : Key → AccountId
  | ofSecret secret => secret.account
  | ofIdentity identity => identity

/-- The backend that this implementation is. The bytes of a public key are not looked at before a
signature is verified. -/
def native : Backend where
  Key := Key
  Context := Option Key
  privateKey? bytes := if h : bytes.length = 32 then some (.ofSecret (.ofSeed ⟨bytes, h⟩)) else none
  publicKey? bytes := if h : bytes.length = 32 then some (.ofIdentity ⟨bytes, h⟩) else none
  publicBytes? key := some key.identity.bytes
  newContext? := some none
  signInit? _ key := some (some key)
  sign? context message :=
    if h : message.length = 32 then
      match context with
      | some (.ofSecret secret) => some (secret.sign ⟨message, h⟩)
      | _ => none
    else none
  verifyInit? _ key := some (some key)
  verify context signature message :=
    if h : message.length = 32 then
      match context with
      | some key => if verify ⟨message, h⟩ signature key.identity then 1 else 0
      | none => 0
    else 0

end Custody.Ed25519
