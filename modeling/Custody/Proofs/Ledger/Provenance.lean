import Custody.Proofs.Ledger.Acceptance
import Custody.Proofs.Relationship
import Mathlib.Data.List.Chain

/-!
# The chain of custody of a token

The calls of a run and their results tell how each token came to its owner:
`custody` reads off them the transactions accepted for a token since it was last
deposited or seeded. The main theorem, `custody_of_run`, says that an owned token
has its last transaction at the end of this chain, and that every transaction in
it is signed, names the token and is a child of the one before. The invariant is
`IsCustodyOf`, which one call preserves by `IsCustodyOf.step` and a run by
`isCustodyOf_run`.
-/

namespace Custody.Ledger

/-- The chain of custody of a token after one more call with its result. A deposit or a seeding of
the token starts the chain anew, a transfer extends it, and a withdrawal ends it. -/
def custodyAfter (token : TokenId) (chain : List Transaction) :
    Call × Except Rejection Receipt → List Transaction
  | (_, .error _) => chain
  | (.seed genesis, .ok _) =>
    match genesis.find? (·.tokenId = token) with
    | some txn => [txn]
    | none => chain
  | (.deposit _ txn, .ok _) => if txn.tokenId = token then [txn] else chain
  | (.transfer _ txn, .ok _) => if txn.tokenId = token then chain ++ [txn] else chain
  | (.withdraw _ withdrawn, .ok _) => if withdrawn = token then [] else chain

/-- The transactions accepted for a token since it was last deposited or seeded, oldest first. -/
def custody (token : TokenId) (record : List (Call × Except Rejection Receipt)) :
    List Transaction :=
  record.foldl (custodyAfter token) []

/-- The chain explains the entry of the token: it ends with it, its transactions name the token and
are signed, and each spends what the one before produced. -/
structure IsCustodyOf (scheme : Scheme) (token : TokenId) (entry : Option Transaction)
    (chain : List Transaction) : Prop where
  getLast?_eq : chain.getLast? = entry
  named : ∀ txn ∈ chain, txn.tokenId = token
  valid : ∀ txn ∈ chain, txn.valid scheme
  linked : chain.IsChain fun earlier later => later.classify earlier = .child

namespace IsCustodyOf

variable {scheme : Scheme} {token : TokenId} {entry : Option Transaction}
  {chain : List Transaction} {txn last : Transaction}

theorem nil : IsCustodyOf scheme token none [] :=
  ⟨rfl, by simp, by simp, .nil⟩

theorem singleton (hnamed : txn.tokenId = token) (hvalid : txn.valid scheme) :
    IsCustodyOf scheme token (some txn) [txn] :=
  ⟨rfl, by simpa using hnamed, by simpa using hvalid, .singleton txn⟩

/-- A child of the last transaction extends the chain. -/
theorem concat (h : IsCustodyOf scheme token (some last) chain) (hnamed : txn.tokenId = token)
    (hvalid : txn.valid scheme) (hchild : txn.classify last = .child) :
    IsCustodyOf scheme token (some txn) (chain ++ [txn]) := by
  refine ⟨by simp, ?_, ?_, ?_⟩
  · rw [List.forall_mem_append, List.forall_mem_singleton]
    exact ⟨h.named, hnamed⟩
  · rw [List.forall_mem_append, List.forall_mem_singleton]
    exact ⟨h.valid, hvalid⟩
  · refine h.linked.append (.singleton txn) ?_
    intro earlier hearlier later hlater
    rw [h.getLast?_eq] at hearlier
    cases hearlier
    cases hlater
    exact hchild

/-- The entry itself is in the chain, so it names the token and is signed. -/
theorem last_mem (h : IsCustodyOf scheme token (some last) chain) : last ∈ chain :=
  List.mem_of_getLast? h.getLast?_eq

/-- The chain explains the entry after the next call, if it explains the entry before. -/
theorem step {ledger : Ledger} (h : IsCustodyOf scheme token (ledger.find? token) chain)
    (call : Call) :
    IsCustodyOf scheme token ((ledger.step scheme call).1.find? token)
      (custodyAfter token chain (call, (ledger.step scheme call).2)) := by
  rcases step_cases scheme ledger call with ⟨after, receipt, hcall, hstep⟩ | ⟨cause, hstep⟩
  · rw [hstep]
    cases hcall with
    | seed genesis hvalid hnodup hfree =>
        rw [find?_foldl_insert hnodup, custodyAfter]
        cases hfind : genesis.find? (·.tokenId = token) with
        | none => exact h
        | some txn =>
            have hnamed : txn.tokenId = token := by simpa using List.find?_some hfind
            exact .singleton hnamed (hvalid txn (List.mem_of_find?_eq_some hfind))
    | deposit txn hfree hvalid =>
        rw [find?_insert, custodyAfter]
        split_ifs with hnamed
        · exact .singleton hnamed hvalid
        · exact h
    | transfer txn last hlast hvalid hchild =>
        rw [find?_insert, custodyAfter]
        split_ifs with hnamed
        · subst hnamed
          rw [hlast] at h
          exact h.concat rfl hvalid hchild
        · exact h
    | withdraw withdrawn last hlast =>
        rw [find?_erase, custodyAfter]
        split_ifs
        · exact .nil
        · exact h
  · -- A refused call leaves the entry as it was and adds nothing to the chain.
    rw [hstep]
    exact h

/-- Each transaction of the chain is a child of the one before. -/
theorem child_of_succ (h : IsCustodyOf scheme token entry chain) {i : Nat}
    {earlier later : Transaction} (hearlier : chain[i]? = some earlier)
    (hlater : chain[i + 1]? = some later) : later.classify earlier = .child := by
  obtain ⟨_, rfl⟩ := List.getElem?_eq_some_iff.mp hearlier
  obtain ⟨hbound, rfl⟩ := List.getElem?_eq_some_iff.mp hlater
  exact h.linked.getElem i hbound

/-- An account that gave the token away and sends it later again got it back in between. -/
theorem returned (h : IsCustodyOf scheme token entry chain) {i j : Nat} {first second : Transaction}
    (hij : i < j) (hfirst : chain[i]? = some first) (hsecond : chain[j]? = some second)
    (hsame : first.sender = second.sender) (hgave : first.receiver ≠ first.sender) :
    ∃ k between, i < k ∧ k < j ∧ chain[k]? = some between ∧ between.receiver = first.sender := by
  -- The transaction just before the second one gave the token to its sender.
  obtain ⟨k, rfl⟩ : ∃ k, j = k + 1 := Nat.exists_eq_add_one.mpr (Nat.zero_lt_of_lt hij)
  have hbound : k < chain.length :=
    Nat.lt_of_succ_lt (List.getElem?_eq_some_iff.mp hsecond).1
  have hbetween : chain[k]? = some chain[k] := List.getElem?_eq_getElem hbound
  have hreceiver : chain[k].receiver = first.sender := by
    rw [hsame]
    exact (Transaction.classify_eq_child_iff.mp (h.child_of_succ hbetween hsecond)).2.symm
  have hne : i ≠ k := by
    rintro rfl
    have hsame : first = chain[i] := Option.some.inj (hfirst.symm.trans hbetween)
    rw [← hsame] at hreceiver
    exact hgave hreceiver
  exact ⟨k, chain[k], by omega, by omega, hbetween, hreceiver⟩

end IsCustodyOf

/-- A chain that explains an entry before a run is carried by the run to one that explains the
entry after it. -/
theorem isCustodyOf_run {scheme : Scheme} {ledger : Ledger} {token : TokenId}
    {chain : List Transaction} (h : IsCustodyOf scheme token (ledger.find? token) chain)
    (calls : List Call) :
    IsCustodyOf scheme token ((ledger.run scheme calls).1.find? token)
      ((calls.zip (ledger.run scheme calls).2).foldl (custodyAfter token) chain) := by
  induction calls generalizing ledger chain with
  | nil => exact h
  | cons call rest ih =>
      rw [run_cons, List.zip_cons_cons, List.foldl_cons]
      exact ih (h.step call)

/-- In every run from the empty ledger the chain of custody explains the entry of the token. -/
theorem isCustodyOf_custody (scheme : Scheme) (calls : List Call) (token : TokenId) :
    IsCustodyOf scheme token ((empty.run scheme calls).1.find? token)
      (custody token (calls.zip (empty.run scheme calls).2)) := by
  have hempty : IsCustodyOf scheme token (empty.find? token) [] := by
    rw [find?_empty]
    exact .nil
  exact isCustodyOf_run hempty calls

/-- A transfer that the checks before the classifier let through compares two signed transactions
for one token, and the verdict alone decides whether it is accepted. -/
theorem transfer_compares {scheme : Scheme} {ledger : Ledger} {caller : AccountId}
    {txn : Transaction}
    (h : ∀ cause, ledger.transfer scheme caller txn = .error cause →
      cause.code = .notCurrentOwner) :
    ∃ last, ledger.find? txn.tokenId = some last ∧ txn.valid scheme ∧
      (txn.classify last = .child ↔ ∃ answer, ledger.transfer scheme caller txn = .ok answer) := by
  unfold transfer at h ⊢
  cases hfound : ledger.find? txn.tokenId with
  | none =>
      rw [hfound] at h
      cases h _ rfl
  | some last =>
      rw [hfound] at h
      dsimp only at h ⊢
      by_cases hvalid : txn.valid scheme
      · by_cases hcaller : caller = txn.sender
        · by_cases hchild : txn.classify last = .child <;> simp [hvalid, hcaller, hchild]
        · rw [if_neg (not_not.mpr hvalid), if_pos hcaller] at h
          cases h _ rfl
      · rw [if_pos hvalid] at h
        cases h _ rfl

/-- The chain of custody of an owned token ends with its transaction. Every transaction in it names
the token and is signed, each is a child of the one before and never its two-cycle, and an account
sends the token a second time only after it got it back. The classifier is therefore asked only
about signed transactions for one token. -/
theorem custody_of_run (scheme : Scheme) (calls : List Call) :
    let ledger := (empty.run scheme calls).1
    (∀ (token : TokenId) (last : Transaction), ledger.find? token = some last →
      let chain := custody token (calls.zip (empty.run scheme calls).2)
      chain.getLast? = some last ∧
      (∀ txn ∈ chain, txn.tokenId = token ∧ txn.valid scheme) ∧
      (∀ (i : Nat) (earlier later : Transaction), chain[i]? = some earlier →
        chain[i + 1]? = some later → later.classify earlier = .child ∧
          earlier.classify later = .parent ∧ earlier.isTwoCycle later = false) ∧
      (∀ (i j : Nat) (first second : Transaction), i < j → chain[i]? = some first →
        chain[j]? = some second → first.sender = second.sender →
        first.receiver ≠ first.sender → ∃ k between, i < k ∧ k < j ∧ chain[k]? = some between ∧
          between.receiver = first.sender)) ∧
    (∀ (caller : AccountId) (txn : Transaction),
      (∀ cause, ledger.transfer scheme caller txn = .error cause →
        cause.code = .notCurrentOwner) →
      ∃ last, ledger.find? txn.tokenId = some last ∧
        (txn.classify last = .child ↔
          ∃ answer, ledger.transfer scheme caller txn = .ok answer) ∧
        last.tokenId = txn.tokenId ∧ last.valid scheme ∧ txn.valid scheme) := by
  intro ledger
  constructor
  · intro token last hlast chain
    have h : IsCustodyOf scheme token (some last) chain := by
      rw [← hlast]
      exact isCustodyOf_custody scheme calls token
    refine ⟨h.getLast?_eq, fun txn htxn => ⟨h.named txn htxn, h.valid txn htxn⟩, ?_, ?_⟩
    · intro i earlier later hearlier hlater
      have hchild := h.child_of_succ hearlier hlater
      exact ⟨hchild, Transaction.parent_of_child hchild,
        Transaction.not_isTwoCycle_of_child hchild⟩
    · intro i j first second hij hfirst hsecond hsame hgave
      exact h.returned hij hfirst hsecond hsame hgave
  · intro caller txn hpassed
    obtain ⟨last, hlast, hvalid, hverdict⟩ := transfer_compares hpassed
    have h := isCustodyOf_custody scheme calls txn.tokenId
    rw [hlast] at h
    exact ⟨last, hlast, hverdict, h.named last h.last_mem, h.valid last h.last_mem, hvalid⟩

end Custody.Ledger

namespace Custody.Sample

open Ledger (Call)

/-- A token is seeded, withdrawn, deposited anew, and goes round until its first owner sends it
again. The transfer by an account that does not own it is refused. -/
def roundTrip : List Call :=
  [.seed [hand 7 4 4, hand 8 2 2], .withdraw (account 4) (.ofNat 7),
    .deposit (account 1) (hand 7 1 1), .transfer (account 1) (hand 7 1 2),
    .transfer (account 3) (hand 7 3 4), .transfer (account 2) (hand 7 2 3),
    .transfer (account 3) (hand 7 3 1), .transfer (account 1) (hand 7 1 2)]

end Custody.Sample

namespace Custody.Ledger

/-- The chain of a token that goes round, and what the classifier is asked about it. -/
theorem custody_roundTrip :
    let ledger := (empty.run Sample.scheme Sample.roundTrip).1
    let chain := custody (.ofNat 7)
      (Sample.roundTrip.zip (empty.run Sample.scheme Sample.roundTrip).2)
    ledger.find? (.ofNat 7) = some (Sample.hand 7 1 2) ∧
      chain.getLast? = some (Sample.hand 7 1 2) ∧
      (chain[1]? = some (Sample.hand 7 1 2) ∧ chain[4]? = some (Sample.hand 7 1 2) ∧
        ∃ k between, 1 < k ∧ k < 4 ∧ chain[k]? = some between ∧
          between.receiver = Sample.account 1) ∧
      ∃ last, ledger.find? (.ofNat 7) = some last ∧ last.valid Sample.scheme := by
  intro ledger chain
  obtain ⟨hchain, hcompared⟩ := custody_of_run Sample.scheme Sample.roundTrip
  have hlast : ledger.find? (.ofNat 7) = some (Sample.hand 7 1 2) := by decide
  have hfirst : chain[1]? = some (Sample.hand 7 1 2) := by decide
  have hsecond : chain[4]? = some (Sample.hand 7 1 2) := by decide
  obtain ⟨hend, _, _, hreturned⟩ := hchain (.ofNat 7) (Sample.hand 7 1 2) hlast
  have hbetween := hreturned 1 4 _ _ (by decide) hfirst hsecond rfl (by decide)
  -- A transfer by the wrong account gets as far as the classifier.
  have hrefusal : ledger.transfer Sample.scheme (Sample.account 4) (Sample.hand 7 4 3) =
      .error (.senderNotOwner (Sample.account 4) (.ofNat 7)) := rfl
  have hrefused : ∀ cause, ledger.transfer Sample.scheme (Sample.account 4) (Sample.hand 7 4 3) =
      .error cause → cause.code = .notCurrentOwner := by
    intro cause hcause
    cases hrefusal.symm.trans hcause
    rfl
  obtain ⟨last, hfound, _, _, hvalid, _⟩ :=
    hcompared (Sample.account 4) (Sample.hand 7 4 3) hrefused
  exact ⟨hlast, hend, ⟨hfirst, hsecond, hbetween⟩, last, hfound, hvalid⟩

end Custody.Ledger
