import Custody.Proofs.Ledger.Acceptance
import Custody.Proofs.Relationship

/-!
# Which double spends the classifier names

A double spend is a pair of transactions in which one sender gives away to two
receivers what it owned as of one block. `classify_spendsTwice` says which
verdicts such a pair gets. It is named as a double spend, in either order, unless
one of the two goes back to its own sender: that one produces what the other
spends, so the two are parent and child. Such a pair is never a two-cycle.
-/

namespace Custody.Transaction

/-- The definition of a double spend: one sender, one block, different receivers. -/
structure SpendsTwice (a b : Transaction) : Prop where
  sender_eq : a.sender = b.sender
  prevBlock_eq : a.prevBlock = b.prevBlock
  receiver_ne : a.receiver ≠ b.receiver

variable {a b : Transaction}

namespace SpendsTwice

theorem symm (h : SpendsTwice a b) : SpendsTwice b a :=
  ⟨h.sender_eq.symm, h.prevBlock_eq.symm, h.receiver_ne.symm⟩

/-- Where neither transaction goes back to its sender, the pair is named as what it is. -/
theorem classify_eq (h : SpendsTwice a b) (ha : a.receiver ≠ a.sender)
    (hb : b.receiver ≠ b.sender) : a.classify b = .doubleSpend := by
  refine classify_eq_doubleSpend_iff.mpr
    ⟨⟨h.sender_eq, h.prevBlock_eq, h.receiver_ne⟩, ?_, ?_⟩
  · rw [← h.sender_eq]
    exact ha
  · rw [h.sender_eq]
    exact hb.symm

/-- A transaction back to its sender is the parent of the other one. -/
theorem classify_of_selfAddressed (h : SpendsTwice a b) (ha : a.receiver = a.sender) :
    a.classify b = .parent ∧ b.classify a = .child := by
  have hparent : a.receiver = b.sender := ha.trans h.sender_eq
  refine ⟨classify_eq_parent_iff.mpr hparent, classify_eq_child_iff.mpr ⟨?_, hparent.symm⟩⟩
  rw [← ha]
  exact h.receiver_ne.symm

/-- The receivers of a two-cycle of one sender are that sender, so they do not differ. -/
theorem not_isTwoCycle (h : SpendsTwice a b) : a.isTwoCycle b = false := by
  rw [Bool.eq_false_iff]
  intro hcycle
  obtain ⟨hfirst, hsecond⟩ := isTwoCycle_iff.mp hcycle
  apply h.receiver_ne
  calc a.receiver = b.sender := hfirst
    _ = a.sender := h.sender_eq.symm
    _ = b.receiver := hsecond

end SpendsTwice

/-- The verdict is a double spend exactly for the pairs that fit the definition and of which
neither goes back to its sender. A pair that fits the definition is no two-cycle, and is named as a
double spend in both orders, unless one of the two goes back to its sender and is the parent of the
other. -/
theorem classify_spendsTwice (a b : Transaction) :
    (a.classify b = .doubleSpend ↔
      SpendsTwice a b ∧ a.receiver ≠ a.sender ∧ b.receiver ≠ b.sender) ∧
    (SpendsTwice a b →
      a.isTwoCycle b = false ∧
      (a.receiver ≠ a.sender ∧ b.receiver ≠ b.sender ∧
          a.classify b = .doubleSpend ∧ b.classify a = .doubleSpend ∨
        a.receiver = a.sender ∧ a.classify b = .parent ∧ b.classify a = .child ∨
        b.receiver = b.sender ∧ b.classify a = .parent ∧ a.classify b = .child)) := by
  constructor
  · constructor
    · intro h
      obtain ⟨⟨hsender, hblock, hreceiver⟩, hparent, hchild⟩ := classify_eq_doubleSpend_iff.mp h
      refine ⟨⟨hsender, hblock, hreceiver⟩, ?_, ?_⟩
      · rw [hsender]
        exact hparent
      · rw [← hsender]
        exact hchild.symm
    · rintro ⟨h, ha, hb⟩
      exact h.classify_eq ha hb
  · intro h
    refine ⟨h.not_isTwoCycle, ?_⟩
    by_cases ha : a.receiver = a.sender
    · exact .inr (.inl ⟨ha, h.classify_of_selfAddressed ha⟩)
    · by_cases hb : b.receiver = b.sender
      · exact .inr (.inr ⟨hb, h.symm.classify_of_selfAddressed hb⟩)
      · exact .inl ⟨ha, hb, h.classify_eq ha hb, h.symm.classify_eq hb ha⟩

/-- An account that gives a token to two others is caught, and one that keeps the token and gives
it away is taken to have done so in turn. -/
theorem classify_spendsTwice_hand :
    let toSecond := Sample.hand 7 1 2
    let toThird := Sample.hand 7 1 3
    let kept := Sample.hand 7 1 1
    SpendsTwice toSecond toThird ∧ toSecond.classify toThird = .doubleSpend ∧
      toThird.classify toSecond = .doubleSpend ∧ SpendsTwice toSecond kept ∧
      toSecond.isTwoCycle kept = false ∧ kept.classify toSecond = .parent ∧
      toSecond.classify kept = .child := by
  intro toSecond toThird kept
  have hthird : SpendsTwice toSecond toThird := ⟨rfl, rfl, by decide⟩
  have hkept : SpendsTwice toSecond kept := ⟨rfl, rfl, by decide⟩
  obtain ⟨_, hcaught⟩ := classify_spendsTwice toSecond toThird
  obtain ⟨_, hmissed⟩ := classify_spendsTwice toSecond kept
  obtain ⟨_, hverdicts⟩ := hcaught hthird
  obtain ⟨hcycle, hturn⟩ := hmissed hkept
  rcases hverdicts with ⟨_, _, hfirst, hsecond⟩ | ⟨hself, _⟩ | ⟨hself, _⟩
  · rcases hturn with ⟨_, hself, _⟩ | ⟨hself, _⟩ | ⟨_, hparent, hchild⟩
    · exact absurd rfl hself
    · exact absurd hself (by decide)
    · exact ⟨hthird, hfirst, hsecond, hkept, hcycle, hparent, hchild⟩
  · exact absurd hself (by decide)
  · exact absurd hself (by decide)

/-- Of two signed transactions of one sender for one token at one block, to the sender itself and
to another account, the verdict is no double spend, in neither order, and they are no two-cycle. -/
theorem hand_selfAddressed_not_doubleSpend :
    let kept := Sample.hand 7 1 1
    let given := Sample.hand 7 1 2
    kept.valid Sample.scheme ∧ given.valid Sample.scheme ∧ kept.tokenId = given.tokenId ∧
      ¬ (kept.isTwoCycle given = false →
        (kept.classify given = .doubleSpend ↔ SpendsTwice kept given)) ∧
      ¬ (SpendsTwice kept given →
        kept.classify given = .doubleSpend ∧ given.classify kept = .doubleSpend ∨
          kept.isTwoCycle given = true) := by
  intro kept given
  have htwice : SpendsTwice kept given := ⟨rfl, rfl, by decide⟩
  have hcycle : kept.isTwoCycle given = false := by decide
  have hverdict : kept.classify given ≠ .doubleSpend := by decide
  refine ⟨rfl, rfl, rfl, ?_, ?_⟩
  · intro hclaim
    exact hverdict ((hclaim hcycle).mpr htwice)
  · intro hclaim
    rcases hclaim htwice with ⟨hfirst, _⟩ | hflagged
    · exact hverdict hfirst
    · rw [hcycle] at hflagged
      cases hflagged

end Custody.Transaction
