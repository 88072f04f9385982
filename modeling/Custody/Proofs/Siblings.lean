import Custody.Proofs.Relationship
import Custody.Proofs.Word256

/-!
# How the spends of one account are ranked

An account may send many transactions to other accounts. Of two of them neither
spends what the other produced, so the classifier gets past its first two rules
and only compares block numbers and receivers, by `Outgoing.classify_cases`. Earlier
siblings are then a strict weak order, that of the block numbers. Of two which it
does not order, those with one receiver are the same, and `same_iff_classify_alike`
says that no third transaction tells such two apart. The main theorem is
`siblings_ranked_by_block`.
-/

namespace Custody.Transaction

/-- A transaction that an account sends to another account. -/
structure Outgoing (sender : AccountId) where
  /-- The transaction. -/
  txn : Transaction
  /-- The account sends it. -/
  sender_eq : txn.sender = sender
  /-- The account does not send it back to itself. -/
  receiver_ne : txn.receiver ≠ sender

/-- The verdicts read the senders, the receivers and the blocks, and nothing else. -/
theorem classify_congr {a b : Transaction} (hsender : a.sender = b.sender)
    (hreceiver : a.receiver = b.receiver) (hblock : a.prevBlock = b.prevBlock) (other : Transaction) :
    a.classify other = b.classify other ∧ other.classify a = other.classify b := by
  unfold classify
  rw [hsender, hreceiver, hblock]
  exact ⟨rfl, rfl⟩

namespace Outgoing

variable {sender : AccountId} {a b : Outgoing sender}

/-- The first is classified as the earlier sibling of the second. -/
def Earlier (a b : Outgoing sender) : Prop := a.txn.classify b.txn = .earlierSibling

/-- The first is classified as the same as the second. -/
def Same (a b : Outgoing sender) : Prop := a.txn.classify b.txn = .same

/-- Neither spends what the other produced, so the rules for siblings apply: the blocks decide, and
for one block the receivers. -/
theorem classify_cases (a b : Outgoing sender) :
    a.txn.classify b.txn = .earlierSibling ∧ a.txn.prevBlock.toNat < b.txn.prevBlock.toNat ∨
    a.txn.classify b.txn = .laterSibling ∧ b.txn.prevBlock.toNat < a.txn.prevBlock.toNat ∨
    a.txn.prevBlock.toNat = b.txn.prevBlock.toNat ∧
      (a.txn.classify b.txn = .same ∧ a.txn.receiver = b.txn.receiver ∨
        a.txn.classify b.txn = .doubleSpend ∧ a.txn.receiver ≠ b.txn.receiver) := by
  have hparent : a.txn.receiver ≠ b.txn.sender := by
    rw [b.sender_eq]
    exact a.receiver_ne
  have hchild : a.txn.sender ≠ b.txn.receiver := by
    rw [a.sender_eq]
    exact b.receiver_ne.symm
  rw [classify_of_siblings hparent hchild (a.sender_eq.trans b.sender_eq.symm)]
  cases hblock : compare a.txn.prevBlock b.txn.prevBlock with
  | lt => exact .inl ⟨rfl, Word256.compare_eq_lt_iff.mp hblock⟩
  | gt =>
      rw [Std.OrientedOrd.eq_swap, Ordering.swap_eq_gt] at hblock
      exact .inr (.inl ⟨rfl, Word256.compare_eq_lt_iff.mp hblock⟩)
  | eq =>
      refine .inr (.inr ⟨congrArg _ (Std.LawfulEqOrd.eq_of_compare hblock), ?_⟩)
      by_cases hreceiver : a.txn.receiver = b.txn.receiver
      · exact .inl ⟨if_pos hreceiver, hreceiver⟩
      · exact .inr ⟨if_neg hreceiver, hreceiver⟩

theorem classify_siblings (a b : Outgoing sender) :
    a.txn.classify b.txn ∉ [.parent, .child, .unrelated] := by
  rcases classify_cases a b with ⟨h, _⟩ | ⟨h, _⟩ | ⟨_, ⟨h, _⟩ | ⟨h, _⟩⟩ <;> rw [h] <;> decide

/-- The earlier sibling refers to the block with the smaller number. -/
theorem earlier_iff : a.Earlier b ↔ a.txn.prevBlock.toNat < b.txn.prevBlock.toNat := by
  unfold Earlier
  rcases classify_cases a b with ⟨h, hblock⟩ | ⟨h, hblock⟩ | ⟨hblock, ⟨h, _⟩ | ⟨h, _⟩⟩ <;>
    simp only [h, reduceCtorEq, true_iff, false_iff] <;> omega

/-- The later sibling is the one to which the other is the earlier. -/
theorem later_iff : a.txn.classify b.txn = .laterSibling ↔ b.Earlier a := by
  rw [earlier_iff]
  rcases classify_cases a b with ⟨h, hblock⟩ | ⟨h, hblock⟩ | ⟨hblock, ⟨h, _⟩ | ⟨h, _⟩⟩ <;>
    simp only [h, reduceCtorEq, true_iff, false_iff] <;> omega

/-- Two are the same when they refer to one block and have one receiver. -/
theorem same_iff :
    a.Same b ↔ a.txn.prevBlock.toNat = b.txn.prevBlock.toNat ∧ a.txn.receiver = b.txn.receiver := by
  unfold Same
  rcases classify_cases a b with ⟨h, hblock⟩ | ⟨h, hblock⟩ | ⟨hblock, ⟨h, hto⟩ | ⟨h, hto⟩⟩
  · simp [h, hblock.ne]
  · simp [h, hblock.ne']
  · simp [h, hblock, hto]
  · simp [h, hto]

/-- Siblings are ordered as the numbers of their blocks. -/
theorem isStrictWeakOrder_earlier (sender : AccountId) :
    IsStrictWeakOrder (Outgoing sender) Earlier where
  irrefl a h := Nat.lt_irrefl _ (earlier_iff.mp h)
  trans a b c hab hbc := earlier_iff.mpr (Nat.lt_trans (earlier_iff.mp hab) (earlier_iff.mp hbc))
  incomp_trans a b c hab hbc := by
    simp only [earlier_iff] at *
    omega

theorem equivalence_same (sender : AccountId) : Equivalence (@Same sender) where
  refl a := same_iff.mpr ⟨rfl, rfl⟩
  symm h := by
    obtain ⟨hblock, hreceiver⟩ := same_iff.mp h
    exact same_iff.mpr ⟨hblock.symm, hreceiver.symm⟩
  trans hab hbc := by
    obtain ⟨hblock, hreceiver⟩ := same_iff.mp hab
    obtain ⟨hblock', hreceiver'⟩ := same_iff.mp hbc
    exact same_iff.mpr ⟨hblock.trans hblock', hreceiver.trans hreceiver'⟩

/-- Two that the order does not rank are the same exactly when they have one receiver. -/
theorem same_iff_not_earlier :
    a.Same b ↔ (¬ a.Earlier b ∧ ¬ b.Earlier a) ∧ a.txn.receiver = b.txn.receiver := by
  rw [same_iff, earlier_iff, earlier_iff, Nat.not_lt, Nat.not_lt, Nat.le_antisymm_iff]
  exact and_congr_left' and_comm

/-- Two are the same exactly when every third transaction, related to them or not, gives and gets
one verdict with both. -/
theorem same_iff_classify_alike :
    a.Same b ↔ ∀ other : Transaction,
      a.txn.classify other = b.txn.classify other ∧ other.classify a.txn = other.classify b.txn := by
  constructor
  · intro h
    obtain ⟨hblock, hreceiver⟩ := same_iff.mp h
    exact classify_congr (a.sender_eq.trans b.sender_eq.symm) hreceiver
      (Word256.toNat_injective hblock)
  · intro h
    have hself : b.Same b := (equivalence_same sender).refl b
    exact (h b.txn).1.trans hself

end Outgoing

/-- The transactions that an account sends to others are siblings, of which the earlier ones are
those with the smaller block number. This is a strict weak order, whose converse the later siblings
are. Two that it does not rank are the same exactly when their receivers agree. Being the same is an
equivalence, and two are the same exactly when no third transaction, related to them or not, tells
them apart from either side. -/
theorem siblings_ranked_by_block (sender : AccountId) :
    (∀ a b : Outgoing sender, a.txn.classify b.txn ∉ [.parent, .child, .unrelated]) ∧
    IsStrictWeakOrder (Outgoing sender) Outgoing.Earlier ∧
    (∀ a b : Outgoing sender,
      (a.Earlier b ↔ a.txn.prevBlock.toNat < b.txn.prevBlock.toNat) ∧
      (a.txn.classify b.txn = .laterSibling ↔ b.Earlier a) ∧
      (a.Same b ↔ (¬ a.Earlier b ∧ ¬ b.Earlier a) ∧ a.txn.receiver = b.txn.receiver)) ∧
    Equivalence (@Outgoing.Same sender) ∧
    ∀ a b : Outgoing sender, a.Same b ↔ ∀ other : Transaction,
      a.txn.classify other = b.txn.classify other ∧
        other.classify a.txn = other.classify b.txn := by
  refine ⟨Outgoing.classify_siblings, Outgoing.isStrictWeakOrder_earlier sender, ?_,
    Outgoing.equivalence_same sender, fun _ _ => Outgoing.same_iff_classify_alike⟩
  intro a b
  exact ⟨Outgoing.earlier_iff, Outgoing.later_iff, Outgoing.same_iff_not_earlier⟩

end Custody.Transaction
