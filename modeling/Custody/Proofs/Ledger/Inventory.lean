import Custody.Proofs.Ledger.Acceptance
import Custody.Proofs.Word256

/-!
# The inventory of owned tokens

The ledger can list its tokens and count them. `inventory_of_run` says that the
list is in ascending order of the numbers of the tokens, has exactly the tokens
that a look-up finds, and is as long as the count. The count itself balances the
accepted calls of the run: what was seeded and deposited, less what was withdrawn.
One accepted call does this by `Accepts.count_eq`, and a run by `count_run`.
-/

namespace Custody.Ledger

/-- The genesis list that the call hands in, which is empty unless the call is a seeding. -/
def Call.genesis : Call → List Transaction
  | .seed genesis => genesis
  | _ => []

/-- Whether the call is a deposit. -/
def Call.isDeposit : Call → Bool
  | .deposit .. => true
  | _ => false

/-- Whether the call is a withdrawal. -/
def Call.isWithdrawal : Call → Bool
  | .withdraw .. => true
  | _ => false

/-- The accepted calls of a record, in their order. -/
def acceptedCalls (record : List (Call × Except Rejection Receipt)) : List Call :=
  (record.filter (·.2.isOk)).map Prod.fst

theorem acceptedCalls_cons_ok (call : Call) (receipt : Receipt)
    (record : List (Call × Except Rejection Receipt)) :
    acceptedCalls ((call, .ok receipt) :: record) = call :: acceptedCalls record := rfl

theorem acceptedCalls_cons_error (call : Call) (cause : Rejection)
    (record : List (Call × Except Rejection Receipt)) :
    acceptedCalls ((call, .error cause) :: record) = acceptedCalls record := rfl

variable {scheme : Scheme} {ledger after : Ledger} {call : Call} {receipt : Receipt}
  {token : TokenId} {txn : Transaction}

/-! ### The list -/

/-- The tokens are listed in ascending order of their numbers. -/
theorem pairwise_ids (ledger : Ledger) : ledger.ids.Pairwise fun a b => a.toNat < b.toNat :=
  Std.ExtTreeMap.ordered_keys.imp Word256.compare_eq_lt_iff.mp

theorem length_ids (ledger : Ledger) : ledger.ids.length = ledger.count :=
  Std.ExtTreeMap.length_keys

theorem mem_ids : token ∈ ledger.ids ↔ (ledger.find? token).isSome :=
  Std.ExtTreeMap.mem_keys.trans Std.ExtTreeMap.mem_iff_isSome_getElem?

/-! ### The count -/

theorem count_empty : empty.count = 0 := Std.ExtTreeMap.size_empty

theorem contains_tokens (ledger : Ledger) (token : TokenId) :
    ledger.tokens.contains token = (ledger.find? token).isSome :=
  Std.ExtTreeMap.contains_eq_isSome_getElem?

theorem count_insert (ledger : Ledger) (txn : Transaction) :
    (ledger.insert txn).count =
      if (ledger.find? txn.tokenId).isSome then ledger.count else ledger.count + 1 := by
  rw [count, insert, Std.ExtTreeMap.size_insert, contains_tokens]
  rfl

/-- An absent token that becomes owned is one more. -/
theorem count_insert_of_absent (h : ledger.find? txn.tokenId = none) :
    (ledger.insert txn).count = ledger.count + 1 := by
  simp [count_insert, h]

/-- An owned token that is handed on is no more. -/
theorem count_insert_of_owned {last : Transaction} (h : ledger.find? txn.tokenId = some last) :
    (ledger.insert txn).count = ledger.count := by
  simp [count_insert, h]

/-- An owned token that becomes absent is one less. -/
theorem count_erase_of_owned {last : Transaction} (h : ledger.find? token = some last) :
    (ledger.erase token).count + 1 = ledger.count := by
  have hmem : token ∈ ledger.ids := by
    rw [mem_ids, h]
    rfl
  have hpos := List.length_pos_of_mem hmem
  rw [length_ids] at hpos
  rw [count, erase, Std.ExtTreeMap.size_erase, contains_tokens, h]
  exact Nat.sub_add_cancel hpos

/-- The transactions of a list for different absent tokens make as many more. -/
theorem count_foldl_insert {genesis : List Transaction}
    (hnodup : (genesis.map (·.tokenId)).Nodup)
    (hfree : ∀ txn ∈ genesis, ledger.find? txn.tokenId = none) :
    (genesis.foldl insert ledger).count = ledger.count + genesis.length := by
  induction genesis generalizing ledger with
  | nil => rfl
  | cons txn rest ih =>
      rw [List.map_cons, List.nodup_cons] at hnodup
      rw [List.forall_mem_cons] at hfree
      have hrest := forall_find?_insert_eq_none_iff.mpr ⟨hnodup.1, hfree.2⟩
      rw [List.foldl_cons, ih hnodup.2 hrest, count_insert_of_absent hfree.1, List.length_cons]
      omega

/-- An accepted call adds the tokens that it seeds or deposits, and takes the one that it
withdraws. -/
theorem Accepts.count_eq (h : Accepts scheme ledger call after receipt) :
    after.count + (if call.isWithdrawal then 1 else 0) =
      ledger.count + call.genesis.length + (if call.isDeposit then 1 else 0) := by
  cases h with
  | seed genesis hvalid hnodup hfree => exact count_foldl_insert hnodup hfree
  | deposit txn hfree hvalid => exact count_insert_of_absent hfree
  | transfer txn last hlast hvalid hchild => exact count_insert_of_owned hlast
  | withdraw token last hlast => exact count_erase_of_owned hlast

/-- A run adds the tokens that its accepted calls seed or deposit, and takes those that they
withdraw. -/
theorem count_run (scheme : Scheme) (ledger : Ledger) (calls : List Call) :
    let outcome := ledger.run scheme calls
    let accepted := acceptedCalls (calls.zip outcome.2)
    outcome.1.count + accepted.countP Call.isWithdrawal =
      ledger.count + (accepted.flatMap Call.genesis).length + accepted.countP Call.isDeposit := by
  induction calls generalizing ledger with
  | nil => rfl
  | cons call rest ih =>
      intro outcome accepted
      simp only [outcome, accepted, run_cons, List.zip_cons_cons]
      rcases step_cases scheme ledger call with ⟨after, receipt, h, hstep⟩ | ⟨cause, hstep⟩
      · have hrest := ih after
        have hcall := h.count_eq
        rw [hstep, acceptedCalls_cons_ok, List.countP_cons, List.countP_cons, List.flatMap_cons,
          List.length_append]
        dsimp only at hrest ⊢
        omega
      · rw [hstep, acceptedCalls_cons_error]
        exact ih ledger

/-- After a run from the empty ledger the tokens are listed in ascending order of their numbers, the
list has exactly the tokens that are owned, and its length is their count. The count is the number
of tokens that accepted genesis lists and deposits brought, less the accepted withdrawals. -/
theorem inventory_of_run (scheme : Scheme) (calls : List Call) :
    let outcome := empty.run scheme calls
    let accepted := acceptedCalls (calls.zip outcome.2)
    outcome.1.ids.Pairwise (fun a b => a.toNat < b.toNat) ∧
    outcome.1.ids.length = outcome.1.count ∧
    (∀ token, token ∈ outcome.1.ids ↔ (outcome.1.find? token).isSome) ∧
    (outcome.1.count : Int) =
      (accepted.flatMap Call.genesis).length + accepted.countP Call.isDeposit -
        accepted.countP Call.isWithdrawal := by
  intro outcome accepted
  refine ⟨pairwise_ids outcome.1, length_ids outcome.1, fun token => mem_ids, ?_⟩
  have hcount : outcome.1.count + accepted.countP Call.isWithdrawal =
      empty.count + (accepted.flatMap Call.genesis).length + accepted.countP Call.isDeposit :=
    count_run scheme empty calls
  rw [count_empty] at hcount
  omega

end Custody.Ledger
