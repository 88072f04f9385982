import Custody.Proofs.Ledger.Acceptance
import Mathlib.Data.List.Nodup

/-!
# A genesis list as a batch of deposits

`seed` admits one entry after the other. `seed_eq_firstFlaw` shows that this is to
judge the whole list first: `firstFlaw?` looks for an entry that is not signed, or
that names a token which is owned or was named before, and the first one decides.
A list is admitted exactly when its entries can be deposited one by one, with the
same ledger at the end, by `seed_eq_ok_iff_deposits`, and in any order of the
entries, by `step_seed_of_perm`.
-/

namespace Custody.Ledger

/-- What is wrong with an entry of a genesis list that comes after these entries. -/
def flaw? (scheme : Scheme) (ledger : Ledger) (before : List Transaction) (txn : Transaction) :
    Option Rejection :=
  if ¬ txn.valid scheme then some (.badGenesisSignature txn.tokenId)
  else if (ledger.find? txn.tokenId).isSome ∨ txn.tokenId ∈ before.map (·.tokenId) then
    some (.repeatedInGenesis txn.tokenId)
  else none

/-- What is wrong with the first entry that has a flaw, in a list that comes after these entries. -/
def firstFlaw? (scheme : Scheme) (ledger : Ledger) :
    (before : List Transaction) → List Transaction → Option Rejection
  | _, [] => none
  | before, txn :: rest =>
    (flaw? scheme ledger before txn).or (firstFlaw? scheme ledger (before ++ [txn]) rest)

/-- The deposits of the entries of a genesis list, each by its own sender. -/
def deposits (genesis : List Transaction) : List Call :=
  genesis.map fun txn => .deposit txn.sender txn

variable {scheme : Scheme} {ledger after : Ledger} {txn : Transaction} {genesis : List Transaction}
  {cause : Rejection}

theorem seed_cons (scheme : Scheme) (ledger : Ledger) (txn : Transaction)
    (rest : List Transaction) :
    ledger.seed scheme (txn :: rest) =
      ledger.admitEntry scheme txn >>= fun next => next.seed scheme rest := rfl

/-! ### The list is judged before the ledger changes -/

/-- A token is owned once a list is inserted if it was owned before or the list names it. -/
theorem isSome_find?_foldl_insert (ledger : Ledger) (before : List Transaction) (token : TokenId) :
    ((before.foldl insert ledger).find? token).isSome ↔
      (ledger.find? token).isSome ∨ token ∈ before.map (·.tokenId) := by
  induction before generalizing ledger with
  | nil => simp
  | cons txn rest ih =>
      rw [List.foldl_cons, ih, find?_insert, List.map_cons, List.mem_cons]
      by_cases hsame : txn.tokenId = token
      · simp [hsame]
      · simp [hsame, Ne.symm hsame]

/-- An entry is admitted after other entries when it has no flaw. -/
theorem admitEntry_foldl_insert (scheme : Scheme) (ledger : Ledger) (before : List Transaction)
    (txn : Transaction) :
    (before.foldl insert ledger).admitEntry scheme txn =
      match flaw? scheme ledger before txn with
      | some cause => .error cause
      | none => .ok ((before.foldl insert ledger).insert txn) := by
  simp only [admitEntry, flaw?, isSome_find?_foldl_insert]
  split_ifs <;> rfl

/-- The rest of a list is admitted when none of its entries has a flaw. -/
theorem seed_foldl_insert (scheme : Scheme) (ledger : Ledger) (before rest : List Transaction) :
    (before.foldl insert ledger).seed scheme rest =
      match firstFlaw? scheme ledger before rest with
      | some cause => .error cause
      | none => .ok ((before ++ rest).foldl insert ledger) := by
  induction rest generalizing before with
  | nil =>
      rw [List.append_nil]
      rfl
  | cons txn rest ih =>
      rw [seed_cons, admitEntry_foldl_insert, firstFlaw?]
      cases flaw? scheme ledger before txn with
      | some cause => rfl
      | none =>
          have hnext : (before.foldl insert ledger).insert txn =
              (before ++ [txn]).foldl insert ledger := by
            rw [List.foldl_append]
            rfl
          have hlist : before ++ txn :: rest = (before ++ [txn]) ++ rest := by
            rw [List.append_assoc]
            rfl
          rw [Option.none_or, hlist, ← ih, ← hnext]
          rfl

/-- A genesis list is refused for its first flaw, and inserted if it has none. -/
theorem seed_eq_firstFlaw (scheme : Scheme) (ledger : Ledger) (genesis : List Transaction) :
    ledger.seed scheme genesis =
      match firstFlaw? scheme ledger [] genesis with
      | some cause => .error cause
      | none => .ok (genesis.foldl insert ledger) :=
  seed_foldl_insert scheme ledger [] genesis

/-! ### Which entry decides -/

/-- The entry at this place of a list that comes after these entries has the flaw, and no entry at
an earlier place has one. -/
def FirstFlawAt (scheme : Scheme) (ledger : Ledger) (before genesis : List Transaction) (i : Nat)
    (cause : Rejection) : Prop :=
  ∃ txn, genesis[i]? = some txn ∧ flaw? scheme ledger (before ++ genesis.take i) txn = some cause ∧
    ∀ j < i, ∀ other, genesis[j]? = some other →
      flaw? scheme ledger (before ++ genesis.take j) other = none

section FirstFlawAt

variable {before rest : List Transaction} {first : Transaction}

theorem firstFlawAt_zero :
    FirstFlawAt scheme ledger before (first :: rest) 0 cause ↔
      flaw? scheme ledger before first = some cause := by
  simp [FirstFlawAt]

/-- The first flaw is further on when the first entry has none. -/
theorem firstFlawAt_succ {i : Nat} :
    FirstFlawAt scheme ledger before (first :: rest) (i + 1) cause ↔
      flaw? scheme ledger before first = none ∧
        FirstFlawAt scheme ledger (before ++ [first]) rest i cause := by
  have hbefore : ∀ n, before ++ (first :: rest).take (n + 1) =
      (before ++ [first]) ++ rest.take n := by
    intro n
    rw [List.take_succ_cons, List.append_assoc]
    rfl
  -- The places before the one in question are the first one and those of the rest.
  simp only [FirstFlawAt, List.getElem?_cons_succ, hbefore, Nat.forall_lt_succ_left,
    List.getElem?_cons_zero, List.take_zero, List.append_nil, Option.some.injEq, forall_eq']
  constructor
  · rintro ⟨txn, htxn, hflaw, hnone, hsound⟩
    exact ⟨hnone, txn, htxn, hflaw, hsound⟩
  · rintro ⟨hnone, txn, htxn, hflaw, hsound⟩
    exact ⟨txn, htxn, hflaw, hnone, hsound⟩

/-- The flaw that decides is at some place the first one. -/
theorem firstFlaw?_eq_some_iff :
    firstFlaw? scheme ledger before genesis = some cause ↔
      ∃ i, FirstFlawAt scheme ledger before genesis i cause := by
  induction genesis generalizing before with
  | nil => simp [firstFlaw?, FirstFlawAt]
  | cons first rest ih =>
      calc firstFlaw? scheme ledger before (first :: rest) = some cause
          ↔ flaw? scheme ledger before first = some cause ∨
              flaw? scheme ledger before first = none ∧
                ∃ i, FirstFlawAt scheme ledger (before ++ [first]) rest i cause := by
            rw [firstFlaw?, Option.or_eq_some_iff, ih]
        _ ↔ FirstFlawAt scheme ledger before (first :: rest) 0 cause ∨
              ∃ i, FirstFlawAt scheme ledger before (first :: rest) (i + 1) cause := by
            simp only [firstFlawAt_zero, firstFlawAt_succ, exists_and_left]
        _ ↔ ∃ i, FirstFlawAt scheme ledger before (first :: rest) i cause :=
            Nat.or_exists_add_one (p := fun i => FirstFlawAt _ _ _ (first :: rest) i cause)

end FirstFlawAt

theorem seed_eq_error_iff :
    ledger.seed scheme genesis = .error cause ↔
      ∃ i, FirstFlawAt scheme ledger [] genesis i cause := by
  rw [seed_eq_firstFlaw, ← firstFlaw?_eq_some_iff]
  cases firstFlaw? scheme ledger [] genesis <;> simp

/-- The code of a flaw tells whether the entry is signed. -/
theorem code_of_flaw {before : List Transaction}
    (h : flaw? scheme ledger before txn = some cause) :
    cause.code = if txn.valid scheme then .duplicateGenesisToken else .invalidSignature := by
  unfold flaw? at h
  split_ifs at h with hvalid htaken
  · cases h
    rw [if_pos hvalid]
    rfl
  · cases h
    rw [if_neg hvalid]
    rfl

/-! ### The entries as deposits -/

/-- An entry is admitted when its sender can deposit it, with the same effect. -/
theorem admitEntry_eq_ok_iff_deposit :
    ledger.admitEntry scheme txn = .ok after ↔
      (∃ receipt, (ledger.step scheme (.deposit txn.sender txn)).2 = .ok receipt) ∧
        (ledger.step scheme (.deposit txn.sender txn)).1 = after := by
  rw [admitEntry_eq_ok_iff, step_deposit]
  cases hfound : ledger.find? txn.tokenId with
  | some last => simp
  | none => by_cases hvalid : txn.valid scheme <;> simp [hvalid]

/-- A genesis list is admitted when its entries can be deposited one after another, with the same
effect. -/
theorem seed_eq_ok_iff_deposits :
    ledger.seed scheme genesis = .ok after ↔
      AllAccepted scheme ledger (deposits genesis) ∧
        (ledger.run scheme (deposits genesis)).1 = after := by
  induction genesis generalizing ledger with
  | nil => simp [seed, deposits, run, allAccepted_nil, pure, Except.pure]
  | cons txn rest ih =>
      have hcalls : deposits (txn :: rest) = .deposit txn.sender txn :: deposits rest := rfl
      rw [seed_cons, hcalls, allAccepted_cons, run_cons]
      simp only [bind_eq_ok_iff, admitEntry_eq_ok_iff_deposit, ih]
      constructor
      · rintro ⟨_, ⟨haccepted, rfl⟩, hrest, rfl⟩
        exact ⟨⟨haccepted, hrest⟩, rfl⟩
      · rintro ⟨⟨haccepted, hrest⟩, rfl⟩
        exact ⟨_, ⟨haccepted, rfl⟩, hrest, rfl⟩

/-! ### The order of the entries -/

/-- Transactions for different tokens can be inserted in either order. -/
theorem insert_insert_comm (ledger : Ledger) {a b : Transaction} (hne : a.tokenId ≠ b.tokenId) :
    (ledger.insert a).insert b = (ledger.insert b).insert a := by
  apply ext_find?
  intro token
  simp only [find?_insert]
  split_ifs with hb ha
  · exact absurd (ha.trans hb.symm) hne
  · rfl
  · rfl
  · rfl

/-- A list that is admitted is admitted in any order, with the same effect. -/
theorem seed_ok_of_perm {other : List Transaction} (hperm : genesis.Perm other)
    (h : ledger.seed scheme genesis = .ok after) : ledger.seed scheme other = .ok after := by
  obtain ⟨hvalid, hnodup, hfree, rfl⟩ := seed_eq_ok_iff.mp h
  refine seed_eq_ok_iff.mpr ⟨?_, (hperm.map _).nodup_iff.mp hnodup, ?_, ?_⟩
  · intro txn htxn
    exact hvalid txn (hperm.mem_iff.mpr htxn)
  · intro txn htxn
    exact hfree txn (hperm.mem_iff.mpr htxn)
  · refine (hperm.foldl_eq' ?_ ledger).symm
    intro a ha b hb ledger
    by_cases hsame : a.tokenId = b.tokenId
    · rw [List.inj_on_of_nodup_map hnodup ha hb hsame]
    · exact insert_insert_comm ledger hsame

/-! ### The call -/

/-- The step of a seeding: the list is admitted as a whole, or the ledger stays. -/
theorem step_seed (scheme : Scheme) (ledger : Ledger) (genesis : List Transaction) :
    ledger.step scheme (.seed genesis) =
      match ledger.seed scheme genesis with
      | .ok seeded => (seeded, .ok (.seeded genesis.length))
      | .error cause => (ledger, .error cause) := by
  rw [step, perform]
  cases ledger.seed scheme genesis <;> rfl

theorem step_seed_of_ok (h : ledger.seed scheme genesis = .ok after) :
    ledger.step scheme (.seed genesis) = (after, .ok (.seeded genesis.length)) := by
  rw [step_seed, h]

theorem step_seed_of_error (h : ledger.seed scheme genesis = .error cause) :
    ledger.step scheme (.seed genesis) = (ledger, .error cause) := by
  rw [step_seed, h]

theorem step_seed_accepted_iff :
    (∃ receipt, (ledger.step scheme (.seed genesis)).2 = .ok receipt) ↔
      ∃ after, ledger.seed scheme genesis = .ok after := by
  rw [step_seed]
  cases ledger.seed scheme genesis <;> simp

theorem step_seed_refused_iff :
    (ledger.step scheme (.seed genesis)).2 = .error cause ↔
      ledger.seed scheme genesis = .error cause := by
  rw [step_seed]
  cases ledger.seed scheme genesis <;> simp

/-- The order of the entries decides neither whether a list is admitted nor what it leaves. -/
theorem step_seed_of_perm (scheme : Scheme) (ledger : Ledger) {other : List Transaction}
    (hperm : other.Perm genesis) :
    ((∃ receipt, (ledger.step scheme (.seed other)).2 = .ok receipt) ↔
        ∃ receipt, (ledger.step scheme (.seed genesis)).2 = .ok receipt) ∧
      (ledger.step scheme (.seed other)).1 = (ledger.step scheme (.seed genesis)).1 := by
  cases hseed : ledger.seed scheme genesis with
  | ok after =>
      have hother := seed_ok_of_perm hperm.symm hseed
      rw [step_seed_of_ok hseed, step_seed_of_ok hother]
      exact ⟨⟨fun _ => ⟨_, rfl⟩, fun _ => ⟨_, rfl⟩⟩, rfl⟩
  | error cause =>
      cases hother : ledger.seed scheme other with
      | ok after =>
          rw [seed_ok_of_perm hperm hother] at hseed
          cases hseed
      | error cause' =>
          rw [step_seed_of_error hseed, step_seed_of_error hother]
          exact ⟨by simp, rfl⟩

end Custody.Ledger
