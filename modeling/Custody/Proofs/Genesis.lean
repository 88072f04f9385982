import Custody.Genesis
import Custody.Proofs.Ed25519
import Custody.Proofs.Ledger.Inventory
import Custody.Proofs.Ledger.Mobility
import Custody.Proofs.Ledger.Seeding
import Mathlib.Data.List.Forall2

/-!
# From phrases to an empty ledger

A list of endowments, each a phrase with a token, makes a genesis list of which
every entry is signed by the account of its phrase. All that is asked is a backend that
verifies what it signed, `Ed25519.Backend.AcceptsOwn`; the scheme over it then has a
`Keyring`. The main theorem, `endowments_come_and_go`, follows such a list to the end:
it is seeded in any order, every account can send its token to every other account
but not to itself, and all accounts can withdraw, in any order, until no token is
owned. What stands under a token on that ledger is `find?_endowed`.
-/

namespace Custody

namespace Ledger

variable {scheme : Scheme} {ledger : Ledger} {txn : Transaction}

/-- A list of transactions for different tokens leaves each of them as the entry of its token. -/
theorem find?_foldl_insert_of_mem {genesis : List Transaction}
    (hnodup : (genesis.map (·.tokenId)).Nodup) (hmem : txn ∈ genesis) :
    (genesis.foldl insert ledger).find? txn.tokenId = some txn := by
  rw [find?_foldl_insert hnodup, Option.or_eq_some_iff]
  left
  have hfound : (genesis.find? (·.tokenId = txn.tokenId)).isSome := by
    rw [List.find?_isSome]
    exact ⟨txn, hmem, decide_eq_true rfl⟩
  obtain ⟨other, hother⟩ := Option.isSome_iff_exists.mp hfound
  have hsame : other.tokenId = txn.tokenId := by simpa using List.find?_some hother
  rw [hother, List.inj_on_of_nodup_map hnodup (List.mem_of_find?_eq_some hother) hmem hsame]

/-- Owners who withdraw different tokens one after another are all accepted. The tokens that they
withdraw are absent then, and the others are as before. -/
theorem run_withdrawals (scheme : Scheme) {holdings : List (AccountId × TokenId)}
    (hnodup : (holdings.map Prod.snd).Nodup)
    (howned : ∀ holding ∈ holdings, ledger.owner? holding.2 = some holding.1) :
    let calls := holdings.map fun holding => Call.withdraw holding.1 holding.2
    AllAccepted scheme ledger calls ∧
      ∀ token, (ledger.run scheme calls).1.find? token =
        if token ∈ holdings.map Prod.snd then none else ledger.find? token := by
  induction holdings generalizing ledger with
  | nil => exact ⟨allAccepted_nil scheme ledger, fun token => rfl⟩
  | cons holding rest ih =>
      intro calls
      rw [List.map_cons, List.nodup_cons] at hnodup
      rw [List.forall_mem_cons] at howned
      obtain ⟨last, hlast, howner⟩ := Option.map_eq_some_iff.mp howned.1
      have hstep : ledger.step scheme (.withdraw holding.1 holding.2) =
          (ledger.erase holding.2,
            .ok (.changed ⟨.withdrawn, holding.2, last.receiver, last.receiver, emptyLeaf⟩)) := by
        rw [step_withdraw, hlast]
        exact if_neg (not_not.mpr howner.symm)
      -- The others own other tokens, which the withdrawal leaves alone.
      have hrest : ∀ other ∈ rest, (ledger.erase holding.2).owner? other.2 = some other.1 := by
        intro other hother
        have hne : holding.2 ≠ other.2 := by
          intro heq
          exact hnodup.1 (heq ▸ List.mem_map_of_mem hother)
        rw [owner?, find?_erase_of_ne ledger hne]
        exact howned.2 other hother
      obtain ⟨haccepted, hfind⟩ := ih hnodup.2 hrest
      constructor
      · refine allAccepted_cons.mpr ?_
        rw [hstep]
        exact ⟨⟨_, rfl⟩, haccepted⟩
      · intro token
        simp only [calls, List.map_cons, run_cons, hstep, hfind, find?_erase, List.mem_cons]
        by_cases hsame : holding.2 = token
        · simp [hsame]
        · simp only [hsame, Ne.symm hsame, if_false, false_or]

end Ledger

namespace Genesis

open Ledger (Call AllAccepted handOver)

/-- The transaction hands the token from the owner to the same account, refers to block zero and is
signed. -/
structure IsEndowment (scheme : Scheme) (owner : AccountId) (token : TokenId) (txn : Transaction) :
    Prop where
  tokenId : txn.tokenId = token
  prevBlock : txn.prevBlock = .zero
  sender : txn.sender = owner
  receiver : txn.receiver = owner
  valid : txn.valid scheme

section Keyring

variable {scheme : SigningScheme} (keyring : Keyring scheme)

/-- The account of a phrase. -/
def owner (phrase : Bytes) : AccountId := keyring.identity (seedOfPhrase phrase)

/-- The signatures of a phrase. -/
def signature (phrase : Bytes) : Digest → Bytes := keyring.signature (seedOfPhrase phrase)

/-- The holder of a phrase. -/
def holder (phrase : Bytes) : Signer where
  identity := owner keyring phrase
  sign message := .ok (signature keyring phrase message)

/-- What the holder of a phrase signs is accepted, so it can be attached. -/
theorem signBy_holder (phrase : Bytes) (body : Transaction.Body) :
    body.signBy scheme.toScheme (holder keyring phrase) =
      .ok (body.signedBy (signature keyring phrase) (owner keyring phrase)) :=
  Transaction.Body.attach_of_accepted (keyring.verify_eq _ _)

/-- The transaction by which an endowment's owner hands the token to itself. -/
def endow (endowment : Bytes × TokenId) : Transaction :=
  Transaction.Body.signedBy (signature keyring endowment.1) (owner keyring endowment.1)
    ⟨owner keyring endowment.1, endowment.2, .zero⟩

theorem isEndowment_endow (endowment : Bytes × TokenId) :
    IsEndowment scheme.toScheme (owner keyring endowment.1) endowment.2
      (endow keyring endowment) where
  tokenId := rfl
  prevBlock := rfl
  sender := rfl
  receiver := rfl
  valid := Transaction.Body.valid_signedBy (keyring.verify_eq _) _

/-- The self-addressed deposit of a phrase can be signed. -/
theorem selfDeposit_eq_endow (endowment : Bytes × TokenId) :
    selfDeposit scheme endowment.1 endowment.2 = .ok (endow keyring endowment) := by
  rw [selfDeposit, SigningScheme.signerOfPhrase, keyring.signer_eq]
  exact signBy_holder keyring endowment.1 _

theorem ofEndowments_eq_map_endow (endowments : List (Bytes × TokenId)) :
    ofEndowments scheme endowments = .ok (endowments.map (endow keyring)) := by
  induction endowments with
  | nil => rfl
  | cons endowment rest ih =>
      have hrest : rest.mapM (fun other => selfDeposit scheme other.1 other.2) =
          .ok (rest.map (endow keyring)) := ih
      rw [ofEndowments, List.mapM_cons, selfDeposit_eq_endow keyring, hrest]
      rfl

/-- The ledger on which every endowment's owner has its token, and no other token is owned. -/
def endowed (endowments : List (Bytes × TokenId)) : Ledger :=
  (endowments.map (endow keyring)).foldl Ledger.insert .empty

section Endowed

variable {endowments : List (Bytes × TokenId)} (hids : (endowments.map Prod.snd).Nodup)
include hids

theorem nodup_map_endow : ((endowments.map (endow keyring)).map (·.tokenId)).Nodup := by
  rw [List.map_map]
  exact hids

/-- The deposits of endowments with different tokens are an acceptable genesis list. -/
theorem seed_map_endow :
    Ledger.empty.seed scheme.toScheme (endowments.map (endow keyring)) =
      .ok (endowed keyring endowments) := by
  refine Ledger.seed_eq_ok_iff.mpr ⟨?_, nodup_map_endow keyring hids, ?_, rfl⟩
  · intro txn htxn
    obtain ⟨endowment, _, rfl⟩ := List.mem_map.mp htxn
    exact (isEndowment_endow keyring endowment).valid
  · intro txn _
    exact Ledger.find?_empty txn.tokenId

theorem count_endowed : (endowed keyring endowments).count = endowments.length := by
  rw [endowed, Ledger.count_foldl_insert (nodup_map_endow keyring hids), Ledger.count_empty,
    Nat.zero_add, List.length_map]
  intro txn _
  exact Ledger.find?_empty txn.tokenId

theorem find?_endowed {endowment : Bytes × TokenId} (hmem : endowment ∈ endowments) :
    (endowed keyring endowments).find? endowment.2 = some (endow keyring endowment) :=
  Ledger.find?_foldl_insert_of_mem (nodup_map_endow keyring hids) (List.mem_map_of_mem hmem)

theorem find?_endowed_of_not_mem {token : TokenId} (hother : token ∉ endowments.map Prod.snd) :
    (endowed keyring endowments).find? token = none := by
  rw [endowed, Ledger.find?_foldl_insert (nodup_map_endow keyring hids), Ledger.find?_empty,
    Option.or_none, List.find?_eq_none]
  intro txn htxn hnamed
  obtain ⟨endowment, hmem, rfl⟩ := List.mem_map.mp htxn
  apply hother
  rw [← of_decide_eq_true hnamed]
  exact List.mem_map_of_mem hmem

/-- The owner of an endowed token can send it to every other account, but not to itself. -/
theorem step_transfer_endowed {endowment : Bytes × TokenId} (hmem : endowment ∈ endowments)
    (receiver : AccountId) (block : BlockNumber) :
    ∃ txn, Transaction.Body.signBy scheme.toScheme (holder keyring endowment.1)
        ⟨receiver, endowment.2, block⟩ = .ok txn ∧
      let spend := (endowed keyring endowments).step scheme.toScheme
        (.transfer (owner keyring endowment.1) txn)
      (receiver ≠ owner keyring endowment.1 → ∃ receipt, spend.2 = .ok receipt) ∧
        (receiver = owner keyring endowment.1 →
          ∃ cause, spend.2 = .error cause ∧ cause.code = .notCurrentOwner) := by
  refine ⟨_, signBy_holder keyring endowment.1 _, ?_⟩
  intro spend
  have hlast : (endowed keyring endowments).find? endowment.2 = some (endow keyring endowment) :=
    find?_endowed keyring hids hmem
  have hstep : spend = _ := Ledger.step_handOver hlast
    (keyring.verify_eq (seedOfPhrase endowment.1)) receiver block
  constructor
  · intro hother
    exact ⟨_, congrArg Prod.snd (hstep.trans (if_neg hother))⟩
  · intro hself
    exact ⟨_, congrArg Prod.snd (hstep.trans (if_pos hself)), rfl⟩

/-- The owners of all endowed tokens can withdraw them in any order, and leave no token owned. -/
theorem run_withdrawals_endowed {leaving : List (Bytes × TokenId)}
    (hperm : leaving.Perm endowments) :
    let calls := leaving.map fun endowment => Call.withdraw (owner keyring endowment.1) endowment.2
    AllAccepted scheme.toScheme (endowed keyring endowments) calls ∧
      ((endowed keyring endowments).run scheme.toScheme calls).1 = .empty := by
  intro calls
  let holdings := leaving.map fun endowment => (owner keyring endowment.1, endowment.2)
  have hcalls : calls = holdings.map fun holding => Call.withdraw holding.1 holding.2 := by
    rw [List.map_map]
    rfl
  have htokens : holdings.map Prod.snd = leaving.map Prod.snd := by
    rw [List.map_map]
    rfl
  have hnodup : (holdings.map Prod.snd).Nodup := by
    rw [htokens]
    exact (hperm.map Prod.snd).nodup_iff.mpr hids
  have howned : ∀ holding ∈ holdings,
      (endowed keyring endowments).owner? holding.2 = some holding.1 := by
    intro holding hholding
    obtain ⟨endowment, hmem, rfl⟩ := List.mem_map.mp hholding
    exact congrArg (Option.map _) (find?_endowed keyring hids (hperm.mem_iff.mp hmem))
  obtain ⟨haccepted, hfind⟩ := Ledger.run_withdrawals scheme.toScheme hnodup howned
  rw [hcalls]
  refine ⟨haccepted, Ledger.ext_find? fun token => ?_⟩
  rw [hfind, htokens, Ledger.find?_empty]
  split_ifs with hleft
  · rfl
  · apply find?_endowed_of_not_mem keyring hids
    rwa [← (hperm.map Prod.snd).mem_iff]

end Endowed

end Keyring

/-- Under Ed25519 over a backend that verifies what it signed, every phrase has a signer. Endowments
with different tokens, of whatever phrases, make a genesis list whose entries are signed by the
accounts of the phrases and addressed to them. In every order the list is admitted and leaves as
many tokens. Each account can then sign and send its token to every other account, under any block
reference, but not to itself. And all accounts can withdraw their tokens, in every order, which
leaves the ledger empty. -/
theorem endowments_come_and_go (backend : Ed25519.Backend) (hbackend : backend.AcceptsOwn)
    (endowments : List (Bytes × TokenId)) (hids : (endowments.map Prod.snd).Nodup) :
    let scheme := backend.scheme
    ∃ signer : Bytes → Signer, (∀ phrase, scheme.signerOfPhrase phrase = .ok (signer phrase)) ∧
      ∃ genesis, ofEndowments scheme endowments = .ok genesis ∧
        List.Forall₂ (fun endowment txn =>
          selfDeposit scheme endowment.1 endowment.2 = .ok txn ∧
            IsEndowment scheme.toScheme (signer endowment.1).identity endowment.2 txn)
          endowments genesis ∧
        ∀ order : List Transaction, order.Perm genesis →
          let seeding := Ledger.empty.step scheme.toScheme (.seed order)
          seeding.2 = .ok (.seeded endowments.length) ∧
          seeding.1.count = endowments.length ∧
          (∀ endowment ∈ endowments, ∀ receiver block,
            let owner := signer endowment.1
            ∃ txn, Transaction.Body.signBy scheme.toScheme owner ⟨receiver, endowment.2, block⟩ =
                .ok txn ∧
              let spend := seeding.1.step scheme.toScheme (.transfer owner.identity txn)
              (receiver ≠ owner.identity → ∃ receipt, spend.2 = .ok receipt) ∧
                (receiver = owner.identity →
                  ∃ cause, spend.2 = .error cause ∧ cause.code = .notCurrentOwner)) ∧
          ∀ leaving : List (Bytes × TokenId), leaving.Perm endowments →
            let calls := leaving.map fun endowment =>
              Call.withdraw (signer endowment.1).identity endowment.2
            AllAccepted scheme.toScheme seeding.1 calls ∧
              (seeding.1.run scheme.toScheme calls).1 = .empty := by
  intro scheme
  obtain ⟨keyring⟩ := hbackend.keyring
  refine ⟨holder keyring, fun phrase => keyring.signer_eq _,
    _, ofEndowments_eq_map_endow keyring endowments, ?_, ?_⟩
  · rw [List.forall₂_map_right_iff, List.forall₂_same]
    intro endowment _
    exact ⟨selfDeposit_eq_endow keyring endowment, isEndowment_endow keyring endowment⟩
  · intro order hperm seeding
    have hlength : order.length = endowments.length := by rw [hperm.length_eq, List.length_map]
    have hseeding : seeding = (endowed keyring endowments, .ok (.seeded order.length)) :=
      Ledger.step_seed_of_ok (Ledger.seed_ok_of_perm hperm.symm (seed_map_endow keyring hids))
    rw [hseeding, hlength]
    refine ⟨rfl, count_endowed keyring hids, ?_, ?_⟩
    · intro endowment hmem receiver block
      exact step_transfer_endowed keyring hids hmem receiver block
    · intro leaving hleaving
      exact run_withdrawals_endowed keyring hids hleaving

end Genesis

/-- The endowments of the local testnet, and one more token for the first of its phrases. -/
def Sample.endowments : List (Bytes × TokenId) :=
  Preset.localTestnet.endowments ++ [(utf8 "//Charlie", .ofNat 9)]

namespace Genesis

open Ledger (Call AllAccepted)

/-- Over a backend that works with the identities and signatures of Ed25519 for these phrases, the
endowments are seeded from the last to the first, one token finds a taker, and the accounts withdraw
in the order of the list. -/
theorem endowments_come_and_go_local :
    let backend := Sample.backend (Sample.endowments.map fun endowment => seedOfPhrase endowment.1)
    let scheme := backend.scheme
    let charlie := (utf8 "//Charlie", Word256.ofNat 9)
    backend.AcceptsOwn ∧ (Sample.endowments.map Prod.snd).Nodup ∧ charlie ∈ Sample.endowments ∧
      ∃ signer : Bytes → Signer,
        (∀ endowment ∈ Sample.endowments,
          Ed25519.native.scheme.signerOfPhrase endowment.1 = .ok (signer endowment.1)) ∧
        ∃ genesis, ofEndowments scheme Sample.endowments = .ok genesis ∧
          let seeding := Ledger.empty.step scheme.toScheme (.seed genesis.reverse)
          let owner := signer charlie.1
          let calls := Sample.endowments.map fun endowment =>
            Call.withdraw (signer endowment.1).identity endowment.2
          seeding.2 = .ok (.seeded 5) ∧
          (∃ receiver txn, receiver ≠ owner.identity ∧
            Transaction.Body.signBy scheme.toScheme owner ⟨receiver, charlie.2, .ofNat 3⟩ =
              .ok txn ∧
            ∃ receipt, (seeding.1.step scheme.toScheme (.transfer owner.identity txn)).2 =
              .ok receipt) ∧
          AllAccepted scheme.toScheme seeding.1 calls ∧
          (seeding.1.run scheme.toScheme calls).1 = .empty := by
  intro backend scheme charlie
  have hbackend : backend.AcceptsOwn := Sample.acceptsOwn_backend _
  have hids : (Sample.endowments.map Prod.snd).Nodup := by decide
  have hcharlie : charlie ∈ Sample.endowments := by decide
  obtain ⟨signer, hsigner, genesis, hgenesis, _, hseeded⟩ :=
    endowments_come_and_go backend hbackend Sample.endowments hids
  obtain ⟨hreceipt, _, hspend, hleave⟩ := hseeded genesis.reverse (List.reverse_perm genesis)
  have hnative : ∀ endowment ∈ Sample.endowments,
      Ed25519.native.scheme.signerOfPhrase endowment.1 = .ok (signer endowment.1) := by
    intro endowment hmem
    have hlisted : seedOfPhrase endowment.1 ∈
        Sample.endowments.map fun endowment => seedOfPhrase endowment.1 :=
      List.mem_map_of_mem hmem
    rw [← hsigner]
    exact (Sample.signer_backend_of_mem hlisted).symm
  -- At most one of two different accounts is the owner.
  obtain ⟨receiver, hother⟩ : ∃ receiver, receiver ≠ (signer charlie.1).identity := by
    by_cases hone : Sample.account 1 = (signer charlie.1).identity
    · refine ⟨Sample.account 2, ?_⟩
      rw [← hone]
      decide
    · exact ⟨_, hone⟩
  obtain ⟨txn, htxn, haccepted, _⟩ := hspend charlie hcharlie receiver (.ofNat 3)
  exact ⟨hbackend, hids, hcharlie, signer, hnative, genesis, hgenesis, hreceipt,
    ⟨receiver, txn, hother, htxn, haccepted hother⟩, hleave Sample.endowments (.refl _)⟩

end Genesis

end Custody
