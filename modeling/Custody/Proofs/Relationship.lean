import Custody.Relationship
import Mathlib.Tactic.Common

/-!
# What a verdict of the classifier means

The rules of `classify` are tried in order, so a verdict also says that the
earlier rules do not apply. A child spends what the other produced and does not
hand it back to the account it came from: `classify_eq_child_iff` has the second
half because the rule for parents comes first.
-/

namespace Custody.Transaction

variable {a b : Transaction}

/-- Where neither spends what the other produced, the verdict is of siblings or of strangers. -/
theorem classify_of_unlinked (hparent : a.receiver ≠ b.sender) (hchild : a.sender ≠ b.receiver) :
    a.classify b ≠ .parent ∧ a.classify b ≠ .child := by
  rw [classify, if_neg hparent, if_neg hchild]
  cases compare a.prevBlock b.prevBlock <;> split_ifs <;> simp

/-- A parent is a transaction whose receiver sends the other one. -/
theorem classify_eq_parent_iff : a.classify b = .parent ↔ a.receiver = b.sender := by
  constructor
  · intro h
    by_contra hne
    by_cases hchild : a.sender = b.receiver
    · rw [classify, if_neg hne, if_pos hchild] at h
      cases h
    · exact (classify_of_unlinked hne hchild).1 h
  · intro h
    rw [classify, if_pos h]

/-- A child sends what it got from the other, but not back to the other's sender. -/
theorem classify_eq_child_iff :
    a.classify b = .child ↔ a.receiver ≠ b.sender ∧ a.sender = b.receiver := by
  constructor
  · intro h
    -- The rule for parents is tried first, so it must have failed.
    have hne : a.receiver ≠ b.sender := by
      intro heq
      rw [classify_eq_parent_iff.mpr heq] at h
      cases h
    refine ⟨hne, ?_⟩
    by_contra hother
    exact (classify_of_unlinked hne hother).2 h
  · rintro ⟨hne, heq⟩
    rw [classify, if_neg hne, if_pos heq]

/-- Where neither spends what the other produced, two transactions of one sender are ordered by the
blocks that they refer to. -/
theorem classify_of_siblings (hparent : a.receiver ≠ b.sender) (hchild : a.sender ≠ b.receiver)
    (hsender : a.sender = b.sender) :
    a.classify b =
      match compare a.prevBlock b.prevBlock with
      | .lt => .earlierSibling
      | .gt => .laterSibling
      | .eq => if a.receiver = b.receiver then .same else .doubleSpend := by
  rw [classify, if_neg hparent, if_neg hchild]
  exact if_pos hsender

/-- A verdict of siblings says that the rules for parents, children and strangers do not apply. -/
theorem siblings_of_verdict (h : a.classify b ∉ [.parent, .child, .unrelated]) :
    a.receiver ≠ b.sender ∧ a.sender ≠ b.receiver ∧ a.sender = b.sender := by
  simp only [List.mem_cons, List.not_mem_nil, or_false, not_or] at h
  obtain ⟨hparent, hchild, hunrelated⟩ := h
  rw [classify_eq_parent_iff] at hparent
  have hother : a.sender ≠ b.receiver := by
    intro heq
    exact hchild (classify_eq_child_iff.mpr ⟨hparent, heq⟩)
  refine ⟨hparent, hother, ?_⟩
  by_contra hne
  apply hunrelated
  rw [classify, if_neg hparent, if_neg hother, if_neg hne]

/-- Two transactions of one sender are a double spend when they refer to one block and go to
different receivers, neither of them back to the sender: that would make one the other's parent. -/
theorem classify_eq_doubleSpend_iff :
    a.classify b = .doubleSpend ↔
      (a.sender = b.sender ∧ a.prevBlock = b.prevBlock ∧ a.receiver ≠ b.receiver) ∧
        a.receiver ≠ b.sender ∧ a.sender ≠ b.receiver := by
  constructor
  · intro h
    obtain ⟨hparent, hchild, hsender⟩ := siblings_of_verdict (a := a) (b := b) (by simp [h])
    rw [classify_of_siblings hparent hchild hsender] at h
    cases hblock : compare a.prevBlock b.prevBlock with
    | lt =>
        rw [hblock] at h
        cases h
    | gt =>
        rw [hblock] at h
        cases h
    | eq =>
        rw [hblock] at h
        dsimp only at h
        split_ifs at h with hreceiver
        exact ⟨⟨hsender, Std.LawfulEqOrd.eq_of_compare hblock, hreceiver⟩, hparent, hchild⟩
  · rintro ⟨⟨hsender, hblock, hreceiver⟩, hparent, hchild⟩
    rw [classify_of_siblings hparent hchild hsender, hblock, Std.ReflOrd.compare_self]
    exact if_neg hreceiver

/-- A two-cycle is a pair in which each is the other's parent. -/
theorem isTwoCycle_iff : a.isTwoCycle b = true ↔ a.receiver = b.sender ∧ a.sender = b.receiver := by
  simp [isTwoCycle]

/-- The transaction that a child spends is its parent. -/
theorem parent_of_child (h : b.classify a = .child) : a.classify b = .parent :=
  classify_eq_parent_iff.mpr (classify_eq_child_iff.mp h).2.symm

/-- A child and the transaction it spends are no two-cycle. -/
theorem not_isTwoCycle_of_child (h : b.classify a = .child) : a.isTwoCycle b = false := by
  rw [Bool.eq_false_iff]
  intro hcycle
  exact (classify_eq_child_iff.mp h).1 (isTwoCycle_iff.mp hcycle).2.symm

end Custody.Transaction
