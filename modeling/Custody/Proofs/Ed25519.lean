import Custody.Ed25519.Signature
import Custody.Proofs.Signing

/-!
# What the scheme makes of a backend that keeps its word

A backend accepts its own signatures if it can load the key of every seed, sign every
message with it and verify what it signed; `Ed25519.Backend.AcceptsOwn` says this call by
call, and nothing else is ever asked of a backend. By `Ed25519.Backend.AcceptsOwn.keyring`
the scheme over such a backend has a signer for every seed and accepts what it signs,
through the size of the signature and every exit in between. A `Keyring` is what the rest
knows of a scheme.
-/

namespace Custody

/-- The identities and the signatures of all seeds under a scheme: each seed has a signer, and the
scheme accepts what it signs. -/
structure Keyring (scheme : SigningScheme) where
  identity : Seed → AccountId
  signature : Seed → Digest → Bytes
  signer_eq : ∀ seed,
    scheme.signer seed = .ok ⟨identity seed, fun message => .ok (signature seed message)⟩
  verify_eq : ∀ seed message,
    scheme.verify message (signature seed message) (identity seed) = .ok true

namespace Ed25519.Backend

variable {backend : Backend} {seed : Seed}

/-- The private key of a seed in a backend, where every call succeeds that exports its identity or
signs a message of thirty-two bytes with it. -/
structure SigningKey (backend : Backend) (seed : Seed) where
  privateKey : backend.Key
  identity : AccountId
  context : backend.Context
  signing : backend.Context
  signature : Digest → Bytes
  privateKey?_eq : backend.privateKey? seed.bytes = some privateKey
  publicBytes?_eq : backend.publicBytes? privateKey = some identity.bytes
  newContext?_eq : backend.newContext? = some context
  signInit?_eq : backend.signInit? context privateKey = some signing
  sign?_eq : ∀ message, backend.sign? signing message.bytes = some (signature message)

/-- Such a key with its public one, where every call succeeds that verifies its signatures. -/
structure KeyPair (backend : Backend) (seed : Seed) extends SigningKey backend seed where
  publicKey : backend.Key
  verifying : backend.Context
  publicKey?_eq : backend.publicKey? identity.bytes = some publicKey
  verifyInit?_eq : backend.verifyInit? context publicKey = some verifying
  length_signature : ∀ message, (signature message).length = signatureSize
  verify_eq : ∀ message, backend.verify verifying (signature message) message.bytes = 1

/-- Every seed has keys, and the backend verifies what they sign. -/
def AcceptsOwn (backend : Backend) : Prop := ∀ seed, Nonempty (backend.KeyPair seed)

theorem SigningKey.sign_eq (key : backend.SigningKey seed) (message : Digest) :
    backend.sign key.privateKey message = .ok (key.signature message) := by
  rw [sign, key.newContext?_eq, Option.bind_some, key.signInit?_eq]
  dsimp only
  rw [key.sign?_eq]

/-- The seed has a signer, whose identity is the public key and who signs every message. -/
theorem SigningKey.signer_eq (key : backend.SigningKey seed) :
    backend.signer seed = .ok ⟨key.identity, fun message => .ok (key.signature message)⟩ := by
  rw [signer, key.privateKey?_eq]
  dsimp only
  rw [signerOfKey, key.publicBytes?_eq, funext key.sign_eq]
  exact dif_pos key.identity.length_bytes

/-- The signature has the right size and the calls of a verification succeed. -/
theorem KeyPair.accepts_eq_true (pair : backend.KeyPair seed) (message : Digest) :
    backend.accepts message (pair.signature message) pair.identity = true := by
  rw [accepts, if_neg (not_not.mpr (pair.length_signature message)), pair.publicKey?_eq]
  dsimp only
  rw [pair.newContext?_eq]
  dsimp only
  rw [pair.verifyInit?_eq]
  dsimp only
  rw [pair.verify_eq]
  rfl

/-- The scheme over a backend that accepts its own signatures has a signer for every seed, and
accepts what these sign. -/
theorem AcceptsOwn.keyring (h : backend.AcceptsOwn) : Nonempty (Keyring backend.scheme) := by
  let pair (seed : Seed) : backend.KeyPair seed := (h seed).some
  exact ⟨{
    identity := fun seed => (pair seed).identity
    signature := fun seed => (pair seed).signature
    signer_eq := fun seed => (pair seed).signer_eq
    verify_eq := fun seed message => congrArg Except.ok ((pair seed).accepts_eq_true message) }⟩

end Ed25519.Backend

/-- The private key of a seed in Ed25519 itself. -/
def Ed25519.nativeKey (seed : Seed) : native.SigningKey seed where
  privateKey := .ofSecret (.ofSeed seed)
  identity := (Secret.ofSeed seed).account
  context := none
  signing := some (.ofSecret (.ofSeed seed))
  signature := (Secret.ofSeed seed).sign
  privateKey?_eq := dif_pos seed.length_bytes
  publicBytes?_eq := rfl
  newContext?_eq := rfl
  signInit?_eq := rfl
  sign?_eq := fun message => dif_pos message.length_bytes

namespace Sample

open Ed25519 (Secret)

/-- The identity of a seed: the one of Ed25519 if the seed is listed, or else the seed itself. -/
def identity (seeds : List Seed) (seed : Seed) : AccountId :=
  if seed ∈ seeds then (Secret.ofSeed seed).account else ⟨seed.bytes, seed.length_bytes⟩

/-- The signature of a seed's holder: the one of Ed25519 if the seed is listed, or else the message
with the seed. -/
def signature (seeds : List Seed) (seed : Seed) (message : Digest) : Bytes :=
  if seed ∈ seeds then (Secret.ofSeed seed).sign message else message.bytes ++ seed.bytes

/-- Whether a listed seed of the identity gives this signature, or else it is the message with the
identity. -/
def verify (seeds : List Seed) (identity : AccountId) (signature : Bytes) (message : Digest) :
    Bool :=
  seeds.any (fun seed => (Secret.ofSeed seed).account = identity ∧
    (Secret.ofSeed seed).sign message = signature) || signature = message.bytes ++ identity.bytes

/-- A backend that works with the identities and the signatures of Ed25519 for the listed seeds. -/
def backend (seeds : List Seed) : Ed25519.Backend where
  Key := Word256
  Context := Word256
  privateKey? bytes := if h : bytes.length = 32 then some ⟨bytes, h⟩ else none
  publicKey? bytes := if h : bytes.length = 32 then some ⟨bytes, h⟩ else none
  publicBytes? key := some (identity seeds key).bytes
  newContext? := some .zero
  signInit? _ key := some key
  sign? key message :=
    if h : message.length = 32 then some (signature seeds key ⟨message, h⟩) else none
  verifyInit? _ key := some key
  verify key signature message :=
    if h : message.length = 32 then
      if verify seeds ⟨key.bytes, key.length_bytes⟩ signature ⟨message, h⟩ then 1 else 0
    else 0

theorem length_signature (seeds : List Seed) (seed : Seed) (message : Digest) :
    (signature seeds seed message).length = Ed25519.signatureSize := by
  unfold signature
  split_ifs
  · rw [Secret.sign, List.length_append, LittleEndian.length_ofNat]
    exact congrArg (· + 32) (LittleEndian.length_ofNat 32 _)
  · rw [List.length_append, message.length_bytes, seed.length_bytes]
    rfl

theorem verify_signature (seeds : List Seed) (seed : Seed) (message : Digest) :
    verify seeds (identity seeds seed) (signature seeds seed message) message = true := by
  unfold verify identity signature
  rw [Bool.or_eq_true, List.any_eq_true]
  split_ifs with hlisted
  · exact .inl ⟨seed, hlisted, decide_eq_true ⟨rfl, rfl⟩⟩
  · exact .inr (decide_eq_true rfl)

/-- The keys of a seed in the backend. -/
def keyPair (seeds : List Seed) (seed : Seed) : (backend seeds).KeyPair seed where
  privateKey := seed
  identity := identity seeds seed
  context := .zero
  signing := seed
  signature := signature seeds seed
  privateKey?_eq := dif_pos seed.length_bytes
  publicBytes?_eq := rfl
  newContext?_eq := rfl
  signInit?_eq := rfl
  sign?_eq := fun message => dif_pos message.length_bytes
  publicKey := ⟨(identity seeds seed).bytes, (identity seeds seed).length_bytes⟩
  verifying := ⟨(identity seeds seed).bytes, (identity seeds seed).length_bytes⟩
  publicKey?_eq := dif_pos (identity seeds seed).length_bytes
  verifyInit?_eq := rfl
  length_signature := length_signature seeds seed
  verify_eq := fun message =>
    (dif_pos message.length_bytes).trans (if_pos (verify_signature seeds seed message))

theorem acceptsOwn_backend (seeds : List Seed) : (backend seeds).AcceptsOwn :=
  fun seed => ⟨keyPair seeds seed⟩

/-- The holder of a listed seed is the one that Ed25519 has for it. -/
theorem signer_backend_of_mem {seeds : List Seed} {seed : Seed} (h : seed ∈ seeds) :
    (backend seeds).signer seed = Ed25519.native.signer seed := by
  have hidentity : identity seeds seed = (Secret.ofSeed seed).account := if_pos h
  have hsignature : signature seeds seed = (Secret.ofSeed seed).sign := by
    funext message
    exact if_pos h
  have hsigner : (backend seeds).signer seed =
      .ok ⟨identity seeds seed, fun message => .ok (signature seeds seed message)⟩ :=
    (keyPair seeds seed).signer_eq
  rw [hsigner, hidentity, hsignature]
  exact (Ed25519.nativeKey seed).signer_eq.symm

end Sample

end Custody
