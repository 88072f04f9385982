import Custody.Proofs.Ledger.OneToken

/-!
# A replica that follows the effects

A consumer that sees the effects of accepted calls, and nothing else, can keep the
owner and the leaf of every token. `Replica.apply` is its rule: it checks each
effect against what it holds, and refuses one that contradicts it. The main
theorem, `replica_follows_run`, says that a replica of the genesis list never
refuses an effect that the ledger returned, and has the ledger's owners and leaves
at the end. The invariant is `Mirrors`, which an accepted call and its effect
preserve by `Mirrors.apply`, and a run by `Mirrors.replay`.
-/

namespace Custody

open Ledger (Effect Receipt Rejection)

/-- What a replica holds of an owned token. -/
structure Holding where
  /-- The owner of the token. -/
  owner : AccountId
  /-- The value of the token's leaf. -/
  leaf : Digest
  deriving DecidableEq, Repr

/-- The owners and the leaves of the owned tokens. -/
structure Replica where
  /-- What is held of every owned token, by token id. -/
  holdings : Std.ExtTreeMap TokenId Holding

namespace Replica

/-- The replica that holds no token. -/
def empty : Replica := ⟨∅⟩

/-- What the replica holds of a token. -/
def find? (replica : Replica) (token : TokenId) : Option Holding := replica.holdings[token]?

/-- The owner of a token, if the replica holds the token. -/
def owner? (replica : Replica) (token : TokenId) : Option AccountId :=
  (replica.find? token).map (·.owner)

/-- The value of a token's leaf: the one held, or the empty leaf for a token that is not held. -/
def leaf (replica : Replica) (token : TokenId) : Digest :=
  ((replica.find? token).map (·.leaf)).getD emptyLeaf

/-- The replica in which this is held of the token. -/
def hold (replica : Replica) (token : TokenId) (holding : Holding) : Replica :=
  ⟨replica.holdings.insert token holding⟩

/-- The replica without the token. -/
def release (replica : Replica) (token : TokenId) : Replica := ⟨replica.holdings.erase token⟩

@[simp] theorem find?_empty (token : TokenId) : empty.find? token = none :=
  Std.ExtTreeMap.getElem?_empty

theorem find?_hold (replica : Replica) (held token : TokenId) (holding : Holding) :
    (replica.hold held holding).find? token =
      if held = token then some holding else replica.find? token := by
  simp [find?, hold, Std.ExtTreeMap.getElem?_insert]

theorem find?_release (replica : Replica) (released token : TokenId) :
    (replica.release released).find? token =
      if released = token then none else replica.find? token := by
  simp [find?, release, Std.ExtTreeMap.getElem?_erase]

/-- The replica after an effect. A deposit is of a token that is not held, a transfer is from the
owner, and a withdrawal is from the owner and to the owner. -/
def apply (replica : Replica) (effect : Effect) : Option Replica :=
  match effect.change with
  | .deposited =>
    if replica.find? effect.token = none then
      some (replica.hold effect.token ⟨effect.taker, effect.leaf⟩)
    else none
  | .transferred =>
    if replica.owner? effect.token = some effect.giver then
      some (replica.hold effect.token ⟨effect.taker, effect.leaf⟩)
    else none
  | .withdrawn =>
    if replica.owner? effect.token = some effect.giver ∧
        replica.owner? effect.token = some effect.taker then
      some (replica.release effect.token)
    else none

/-- The replica after a sequence of effects, if it refuses none of them. -/
def replay (replica : Replica) (effects : List Effect) : Option Replica :=
  effects.foldlM apply replica

/-- The replica in which the receiver of the transaction owns its token. -/
def record (replica : Replica) (txn : Transaction) : Replica :=
  replica.hold txn.tokenId ⟨txn.receiver, txn.leaf⟩

/-- The replica of a genesis list. -/
def ofGenesis (genesis : List Transaction) : Replica := genesis.foldl record empty

/-- The effect that a call returned, if it returned one. -/
def effect? : Except Rejection Receipt → Option Effect
  | .ok (.changed effect) => some effect
  | _ => none

/-- `Mirrors replica ledger` says that the replica holds of every token the owner and the leaf that
the ledger gives it, and nothing of an absent token. -/
def Mirrors (replica : Replica) (ledger : Ledger) : Prop :=
  ∀ token, replica.find? token = (ledger.find? token).map fun txn => ⟨txn.receiver, txn.leaf⟩

namespace Mirrors

variable {replica : Replica} {scheme : Scheme} {ledger after : Ledger} {token : TokenId}

theorem empty : Mirrors Replica.empty Ledger.empty := by
  intro token
  rw [find?_empty, Ledger.find?_empty, Option.map_none]

theorem find?_eq_none (h : Mirrors replica ledger) (hfree : ledger.find? token = none) :
    replica.find? token = none := by
  rw [h token, hfree, Option.map_none]

theorem isSome_find? (h : Mirrors replica ledger) :
    (replica.find? token).isSome = (ledger.find? token).isSome := by
  rw [h token, Option.isSome_map]

theorem owner?_eq (h : Mirrors replica ledger) :
    replica.owner? token = (ledger.find? token).map (·.receiver) := by
  rw [owner?, h token, Option.map_map]
  rfl

theorem leaf_eq (h : Mirrors replica ledger) : ledger.leaf token = replica.leaf token := by
  rw [Replica.leaf, h token, Ledger.leaf]
  cases ledger.find? token <;> rfl

theorem record (h : Mirrors replica ledger) (txn : Transaction) :
    Mirrors (replica.record txn) (ledger.insert txn) := by
  intro token
  rw [Replica.record, find?_hold, Ledger.find?_insert]
  split_ifs
  · rfl
  · exact h token

theorem release (h : Mirrors replica ledger) (released : TokenId) :
    Mirrors (replica.release released) (ledger.erase released) := by
  intro token
  rw [find?_release, Ledger.find?_erase]
  split_ifs
  · rfl
  · exact h token

/-- A replica that records a list of transactions mirrors the ledger that inserts them. -/
theorem foldl_record (h : Mirrors replica ledger) (genesis : List Transaction) :
    Mirrors (genesis.foldl Replica.record replica) (genesis.foldl Ledger.insert ledger) := by
  induction genesis generalizing replica ledger with
  | nil => exact h
  | cons txn rest ih => exact ih (h.record txn)

/-- The effect of an accepted call fits what the replica holds, and takes it to a mirror of the
ledger after the call. -/
theorem apply {call : Ledger.Call} {effect : Effect} (h : Mirrors replica ledger)
    (hcall : Ledger.Accepts scheme ledger call after (.changed effect)) :
    ∃ next, replica.apply effect = some next ∧ Mirrors next after := by
  cases hcall with
  | deposit txn hfree hvalid =>
      refine ⟨replica.record txn, ?_, h.record txn⟩
      exact if_pos (h.find?_eq_none hfree)
  | transfer txn last hlast hvalid hchild =>
      refine ⟨replica.record txn, ?_, h.record txn⟩
      have howner : replica.owner? txn.tokenId = some last.receiver := by
        rw [h.owner?_eq, hlast, Option.map_some]
      exact if_pos howner
  | withdraw token last hlast =>
      refine ⟨replica.release token, ?_, h.release token⟩
      have howner : replica.owner? token = some last.receiver := by
        rw [h.owner?_eq, hlast, Option.map_some]
      exact if_pos ⟨howner, howner⟩

/-- A replica that mirrors the ledger before a run refuses none of the effects that the run
returns, and mirrors the ledger after it. -/
theorem replay (scheme : Scheme) (h : Mirrors replica ledger) (calls : List TokenCall) :
    ∃ final,
      replica.replay ((ledger.run scheme (calls.map TokenCall.toCall)).2.filterMap effect?) =
        some final ∧
      Mirrors final (ledger.run scheme (calls.map TokenCall.toCall)).1 := by
  induction calls generalizing replica ledger with
  | nil => exact ⟨replica, rfl, h⟩
  | cons call rest ih =>
      rw [List.map_cons, Ledger.run_cons]
      rcases Ledger.step_cases scheme ledger call.toCall with
        ⟨after, receipt, hcall, hstep⟩ | ⟨cause, hstep⟩
      · rw [hstep]
        cases receipt with
        | seeded count => cases call <;> cases hcall
        | changed effect =>
            obtain ⟨next, hnext, hmirrors⟩ := h.apply hcall
            obtain ⟨final, hfinal, hlast⟩ := ih hmirrors
            refine ⟨final, ?_, hlast⟩
            show (replica.apply effect).bind (fun next => next.replay _) = some final
            rw [hnext]
            exact hfinal
      · -- A refused call returns no effect and leaves the ledger as it was.
        rw [hstep]
        exact ih h

end Mirrors

end Replica

/-- A replica that starts from an admitted genesis list and sees the effects of the calls that
follow, accepted or refused, never meets one that contradicts what it holds. At the end it holds
the tokens that the ledger holds, with their owners and their leaves. -/
theorem replica_follows_run (scheme : Scheme) (genesis : List Transaction)
    (hseeded : ∃ receipt, (Ledger.empty.step scheme (.seed genesis)).2 = .ok receipt)
    (calls : List TokenCall) :
    let outcome := Ledger.empty.run scheme (.seed genesis :: calls.map TokenCall.toCall)
    ∃ replica,
      (Replica.ofGenesis genesis).replay (outcome.2.filterMap Replica.effect?) = some replica ∧
      ∀ token,
        (replica.find? token).isSome = (outcome.1.find? token).isSome ∧
        replica.owner? token = (outcome.1.find? token).map (·.receiver) ∧
        outcome.1.leaf token = replica.leaf token := by
  intro outcome
  obtain ⟨receipt, hreceipt⟩ := hseeded
  obtain ⟨after, hstep, hcall⟩ := Ledger.accepts_of_step_ok hreceipt
  cases hcall with
  | seed _ hvalid hnodup hfree =>
      have hstart : Replica.Mirrors (Replica.ofGenesis genesis)
          (genesis.foldl Ledger.insert .empty) :=
        Replica.Mirrors.empty.foldl_record genesis
      obtain ⟨replica, hreplay, hmirrors⟩ := hstart.replay scheme calls
      -- The seeding comes first and returns no effect.
      have houtcome : outcome =
          (((genesis.foldl Ledger.insert .empty).run scheme (calls.map TokenCall.toCall)).1,
            .ok (.seeded genesis.length) ::
              ((genesis.foldl Ledger.insert .empty).run scheme
                (calls.map TokenCall.toCall)).2) := by
        simp only [outcome, Ledger.run_cons, hstep]
      rw [houtcome]
      refine ⟨replica, hreplay, fun token => ?_⟩
      exact ⟨hmirrors.isSome_find?, hmirrors.owner?_eq, hmirrors.leaf_eq⟩

namespace Sample

/-- Two tokens are in the genesis list. One is handed on and withdrawn, the other is handed on and
stays, and a third is deposited. Two calls by others are refused. -/
def turnover : List TokenCall :=
  [.transfer (account 4) (hand 7 4 1), .withdraw (account 4) (.ofNat 7),
    .transfer (account 2) (hand 8 2 3), .deposit (account 5) (hand 9 5 5),
    .deposit (account 2) (hand 7 2 2), .withdraw (account 1) (.ofNat 7)]

end Sample

/-- The replica of a run in which one token is withdrawn and two are owned at the end. -/
theorem replica_follows_turnover :
    let genesis := [Sample.hand 7 4 4, Sample.hand 8 2 2]
    let outcome := Ledger.empty.run Sample.scheme
      (.seed genesis :: Sample.turnover.map TokenCall.toCall)
    (Ledger.empty.step Sample.scheme (.seed genesis)).2 = .ok (.seeded 2) ∧
      outcome.2.map (·.mapError Rejection.code) =
        [.ok (.seeded 2),
          .ok (.changed ⟨.transferred, .ofNat 7, Sample.account 4, Sample.account 1,
            (Sample.hand 7 4 1).leaf⟩),
          .error .notCurrentOwner,
          .ok (.changed ⟨.transferred, .ofNat 8, Sample.account 2, Sample.account 3,
            (Sample.hand 8 2 3).leaf⟩),
          .ok (.changed ⟨.deposited, .ofNat 9, Sample.account 5, Sample.account 5,
            (Sample.hand 9 5 5).leaf⟩),
          .error .tokenAlreadyExists,
          .ok (.changed ⟨.withdrawn, .ofNat 7, Sample.account 1, Sample.account 1, emptyLeaf⟩)] ∧
      ∃ replica,
        (Replica.ofGenesis genesis).replay (outcome.2.filterMap Replica.effect?) = some replica ∧
        (replica.find? (.ofNat 7)).isSome = false ∧
        replica.owner? (.ofNat 8) = some (Sample.account 3) ∧
        outcome.1.leaf (.ofNat 9) = replica.leaf (.ofNat 9) := by
  intro genesis outcome
  have hseeded : (Ledger.empty.step Sample.scheme (.seed genesis)).2 = .ok (.seeded 2) := rfl
  obtain ⟨replica, hreplay, hholds⟩ :=
    replica_follows_run Sample.scheme genesis ⟨_, hseeded⟩ Sample.turnover
  obtain ⟨hwithdrawn, _, _⟩ := hholds (.ofNat 7)
  obtain ⟨_, howner, _⟩ := hholds (.ofNat 8)
  obtain ⟨_, _, hleaf⟩ := hholds (.ofNat 9)
  exact ⟨hseeded, rfl, replica, hreplay, hwithdrawn.trans (by decide), howner.trans (by decide),
    hleaf⟩

end Custody
