import Custody.Ledger.Rejection
import Custody.Relationship

/-!
# The ledger of owned tokens

The ledger holds, for every owned token, the transaction that gave it to its
owner, the receiver of that transaction. A deposit makes a token owned, a
transfer hands it from the owner to a receiver, a withdrawal makes it absent
again, and a seeding admits a whole list of deposits or none. Each call names its
caller, who counts as authenticated. A refused call has one cause, the first
check that fails, and leaves the ledger as it was.
-/

namespace Custody

/-- The owned tokens, each with the transaction that gave it to its owner. -/
@[ext] structure Ledger where
  /-- The last accepted transaction of every owned token, by token id. -/
  tokens : Std.ExtTreeMap TokenId Transaction

namespace Ledger

/-- The ledger in which no token is owned. -/
def empty : Ledger := ⟨∅⟩

instance : Inhabited Ledger := ⟨empty⟩

/-- The last accepted transaction of a token, if the token is owned. -/
def find? (ledger : Ledger) (token : TokenId) : Option Transaction := ledger.tokens[token]?

/-- The owner of a token, if it has one. -/
def owner? (ledger : Ledger) (token : TokenId) : Option AccountId :=
  (ledger.find? token).map (·.receiver)

/-- The number of owned tokens. -/
def count (ledger : Ledger) : Nat := ledger.tokens.size

/-- The owned tokens in ascending order. -/
def ids (ledger : Ledger) : List TokenId := ledger.tokens.keys

/-- The value of a token's leaf. -/
def leaf (ledger : Ledger) (token : TokenId) : Digest :=
  match ledger.find? token with
  | some txn => txn.leaf
  | none => emptyLeaf

/-- The ledger in which the transaction is the last one of its token. -/
def insert (ledger : Ledger) (txn : Transaction) : Ledger :=
  ⟨ledger.tokens.insert txn.tokenId txn⟩

/-- The ledger in which the transaction is the last one of its token, unless the token is owned
already. -/
def emplace (ledger : Ledger) (txn : Transaction) : Ledger :=
  ⟨ledger.tokens.insertIfNew txn.tokenId txn⟩

/-- The ledger without the token. -/
def erase (ledger : Ledger) (token : TokenId) : Ledger := ⟨ledger.tokens.erase token⟩

/-! ### What a look-up finds -/

/-- Two ledgers in which every look-up finds the same are the same. -/
theorem ext_find? {a b : Ledger} (same : ∀ token, a.find? token = b.find? token) : a = b :=
  Ledger.ext (Std.ExtTreeMap.ext_getElem? same)

@[simp] theorem find?_empty (token : TokenId) : empty.find? token = none :=
  Std.ExtTreeMap.getElem?_empty

theorem find?_insert (ledger : Ledger) (txn : Transaction) (token : TokenId) :
    (ledger.insert txn).find? token =
      if txn.tokenId = token then some txn else ledger.find? token := by
  simp [find?, insert, Std.ExtTreeMap.getElem?_insert]

@[simp] theorem find?_insert_self (ledger : Ledger) (txn : Transaction) :
    (ledger.insert txn).find? txn.tokenId = some txn := by
  simp [find?_insert]

theorem find?_insert_of_ne (ledger : Ledger) {txn : Transaction} {token : TokenId}
    (other : txn.tokenId ≠ token) : (ledger.insert txn).find? token = ledger.find? token := by
  simp [find?_insert, other]

theorem find?_erase (ledger : Ledger) (erased token : TokenId) :
    (ledger.erase erased).find? token =
      if erased = token then none else ledger.find? token := by
  simp [find?, erase, Std.ExtTreeMap.getElem?_erase]

@[simp] theorem find?_erase_self (ledger : Ledger) (token : TokenId) :
    (ledger.erase token).find? token = none := by
  simp [find?_erase]

theorem find?_erase_of_ne (ledger : Ledger) {erased token : TokenId}
    (other : erased ≠ token) : (ledger.erase erased).find? token = ledger.find? token := by
  simp [find?_erase, other]

/-! ### Calls -/

/-- The kinds of change that an accepted call makes to a token. -/
inductive Change where
  | deposited
  | transferred
  | withdrawn
  deriving DecidableEq, Repr

/-- All kinds of change in their order. -/
def Change.all : List Change := [.deposited, .transferred, .withdrawn]

/-- The name of the kind of change. -/
def Change.name : Change → String
  | .deposited => "Deposited"
  | .transferred => "Transferred"
  | .withdrawn => "Withdrawn"

/-- What an accepted call changed. -/
structure Effect where
  /-- The kind of change. -/
  change : Change
  /-- The token. -/
  token : TokenId
  /-- The owner before, or the depositor. -/
  giver : AccountId
  /-- The owner after, or the owner who withdrew. -/
  taker : AccountId
  /-- The value of the token's leaf after the change. -/
  leaf : Digest
  deriving DecidableEq, Repr

/-- Makes an absent token owned by the receiver of the transaction. -/
def deposit (scheme : Scheme) (ledger : Ledger) (caller : AccountId) (txn : Transaction) :
    Except Rejection (Ledger × Effect) :=
  if (ledger.find? txn.tokenId).isSome then .error (.alreadyDeposited txn.tokenId)
  else if ¬ txn.valid scheme then .error (.badSignature .deposit txn.tokenId)
  else if caller ≠ txn.sender then .error (.notSigner .deposit caller)
  else .ok (ledger.insert txn, ⟨.deposited, txn.tokenId, txn.sender, txn.receiver, txn.leaf⟩)

/-- Hands an owned token to the receiver of the transaction, which must be a child of the token's
last transaction. -/
def transfer (scheme : Scheme) (ledger : Ledger) (caller : AccountId) (txn : Transaction) :
    Except Rejection (Ledger × Effect) :=
  match ledger.find? txn.tokenId with
  | none => .error (.notDeposited txn.tokenId)
  | some last =>
    if ¬ txn.valid scheme then .error (.badSignature .transfer txn.tokenId)
    else if caller ≠ txn.sender then .error (.notSigner .transfer caller)
    else if txn.classify last ≠ .child then .error (.senderNotOwner txn.sender txn.tokenId)
    else .ok (ledger.insert txn, ⟨.transferred, txn.tokenId, last.receiver, txn.receiver, txn.leaf⟩)

/-- Makes a token of the caller absent. -/
def withdraw (ledger : Ledger) (caller : AccountId) (token : TokenId) :
    Except Rejection (Ledger × Effect) :=
  match ledger.find? token with
  | none => .error (.notDeposited token)
  | some last =>
    if caller ≠ last.receiver then .error (.callerNotOwner caller token)
    else .ok (ledger.erase token, ⟨.withdrawn, token, last.receiver, last.receiver, emptyLeaf⟩)

/-- Admits one entry of a genesis list. -/
def admitEntry (scheme : Scheme) (ledger : Ledger) (txn : Transaction) : Except Rejection Ledger :=
  if ¬ txn.valid scheme then .error (.badGenesisSignature txn.tokenId)
  else if (ledger.find? txn.tokenId).isSome then .error (.repeatedInGenesis txn.tokenId)
  else .ok (ledger.insert txn)

/-- Admits a genesis list as a whole. -/
def seed (scheme : Scheme) (ledger : Ledger) (genesis : List Transaction) :
    Except Rejection Ledger :=
  genesis.foldlM (admitEntry scheme) ledger

/-- A call on the ledger. -/
inductive Call where
  | seed (genesis : List Transaction)
  | deposit (caller : AccountId) (txn : Transaction)
  | transfer (caller : AccountId) (txn : Transaction)
  | withdraw (caller : AccountId) (token : TokenId)
  deriving DecidableEq, Repr

/-- What an accepted call answers. -/
inductive Receipt where
  /-- A genesis list with this many entries was admitted. -/
  | seeded (count : Nat)
  /-- A single token changed. -/
  | changed (effect : Effect)
  deriving DecidableEq, Repr

/-- The new ledger and the receipt of an accepted call, or the cause of its refusal. -/
def perform (scheme : Scheme) (ledger : Ledger) : Call → Except Rejection (Ledger × Receipt)
  | .seed genesis => do
    let seeded ← ledger.seed scheme genesis
    pure (seeded, .seeded genesis.length)
  | .deposit caller txn => do
    let (changed, effect) ← ledger.deposit scheme caller txn
    pure (changed, .changed effect)
  | .transfer caller txn => do
    let (changed, effect) ← ledger.transfer scheme caller txn
    pure (changed, .changed effect)
  | .withdraw caller token => do
    let (changed, effect) ← ledger.withdraw caller token
    pure (changed, .changed effect)

/-- The ledger after a call, and the call's result. A refused call changes nothing. -/
def step (scheme : Scheme) (ledger : Ledger) (call : Call) : Ledger × Except Rejection Receipt :=
  match ledger.perform scheme call with
  | .ok (changed, receipt) => (changed, .ok receipt)
  | .error cause => (ledger, .error cause)

/-- The ledger after a sequence of calls, and the result of each. -/
def run (scheme : Scheme) (ledger : Ledger) : List Call → Ledger × List (Except Rejection Receipt)
  | [] => (ledger, [])
  | call :: rest =>
    let (next, result) := ledger.step scheme call
    let (last, results) := run scheme next rest
    (last, result :: results)

end Ledger

end Custody
