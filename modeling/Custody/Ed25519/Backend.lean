import Custody.Scheme

/-!
# Ed25519 over a cryptographic backend

The curve arithmetic is left to a backend, of which this is the part that is used:
keys are loaded from raw bytes, contexts are set up for a key, and a context signs
or verifies one message. Every call of a backend can fail. The scheme refuses what
it cannot verify, for whatever reason, and a signer reports what kept it from
signing.
-/

namespace Custody.Ed25519

/-- The calls of a backend. A call that fails gives nothing. -/
structure Backend where
  /-- The keys, private and public ones. -/
  Key : Type
  /-- The contexts in which a message is signed or verified. -/
  Context : Type
  /-- Loads a private key from its seed. -/
  privateKey? : (seed : Bytes) → Option Key
  /-- Loads a public key from its bytes. -/
  publicKey? : (bytes : Bytes) → Option Key
  /-- The bytes of the public key that belongs to a key. -/
  publicBytes? : Key → Option Bytes
  /-- A new context. -/
  newContext? : Option Context
  /-- Prepares a context for signing with a key. -/
  signInit? : Context → Key → Option Context
  /-- Signs a message. -/
  sign? : Context → (message : Bytes) → Option Bytes
  /-- Prepares a context for verifying with a key. -/
  verifyInit? : Context → Key → Option Context
  /-- Verifies a signature over a message. Only the answer `1` accepts it. -/
  verify : Context → (signature message : Bytes) → Int

/-- The number of bytes of a signature. -/
def signatureSize : Nat := 64

namespace Backend

variable (backend : Backend)

/-- Whether the signature is by the identity over the message. -/
def accepts (message : Digest) (signature : Bytes) (identity : AccountId) : Bool :=
  if signature.length ≠ signatureSize then false
  else match backend.publicKey? identity.bytes with
    | none => false
    | some key =>
      match backend.newContext? with
      | none => false
      | some context =>
        match backend.verifyInit? context key with
        | none => false
        | some context => backend.verify context signature message.bytes == 1

/-- The signature of a private key over a message. -/
def sign (key : backend.Key) (message : Digest) : Except Fault Bytes :=
  match backend.newContext?.bind (backend.signInit? · key) with
  | none => .error ⟨utf8 "Ed25519: sign context init failed"⟩
  | some context =>
    match backend.sign? context message.bytes with
    | none => .error ⟨utf8 "Ed25519: signing failed"⟩
    | some signature => .ok signature

/-- The holder of a private key. Its identity is the public key, which must have thirty-two
bytes. -/
def signerOfKey (key : backend.Key) : Except Fault Signer :=
  match backend.publicBytes? key with
  | none => .error ⟨utf8 "Ed25519: failed to export public key"⟩
  | some bytes =>
    if h : bytes.length = 32 then .ok ⟨⟨bytes, h⟩, backend.sign key⟩
    else .error ⟨utf8 "Ed25519: failed to export public key"⟩

/-- The holder of a seed. -/
def signer (seed : Seed) : Except Fault Signer :=
  match backend.privateKey? seed.bytes with
  | none => .error ⟨utf8 "Ed25519: failed to load private seed"⟩
  | some key => backend.signerOfKey key

/-- The scheme under which the node runs. -/
def scheme : SigningScheme where
  name := utf8 "ed25519"
  verify message signature identity := .ok (backend.accepts message signature identity)
  signer := backend.signer

end Backend

end Custody.Ed25519
