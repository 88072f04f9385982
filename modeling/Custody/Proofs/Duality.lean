import Custody.Proofs.Relationship

/-!
# The verdict in the other direction

The rules of `classify` are tried in one order, parents before children, whichever of
the two transactions comes first. Asking in the other direction still gives the dual
verdict, by `classify_swap`: parent and child are exchanged, and so are earlier and
later siblings. Only the two-cycles are left out, in which both directions stop at
the rule for parents. The main theorem is `classify_in_both_directions`.
-/

namespace Custody

namespace Relationship

/-- The relationship of the other transaction to this one. -/
def dual : Relationship → Relationship
  | parent => child
  | child => parent
  | earlierSibling => laterSibling
  | laterSibling => earlierSibling
  | doubleSpend => doubleSpend
  | same => same
  | unrelated => unrelated

end Relationship

namespace Transaction

variable {a b : Transaction}

theorem isTwoCycle_symm (h : a.isTwoCycle b = true) : b.isTwoCycle a = true := by
  obtain ⟨hparent, hchild⟩ := isTwoCycle_iff.mp h
  exact isTwoCycle_iff.mpr ⟨hchild.symm, hparent.symm⟩

/-- Both directions say parent exactly in a two-cycle. -/
theorem both_parent_iff :
    a.classify b = .parent ∧ b.classify a = .parent ↔ a.isTwoCycle b = true := by
  rw [isTwoCycle_iff, classify_eq_parent_iff, classify_eq_parent_iff, eq_comm (a := b.receiver)]

/-- No two transactions are each other's child: the one that a child spends is its parent. -/
theorem not_both_child : ¬ (a.classify b = .child ∧ b.classify a = .child) := by
  rintro ⟨hfirst, hsecond⟩
  rw [parent_of_child hsecond] at hfirst
  cases hfirst

/-- The other half of a parent that is in no two-cycle is its child. -/
theorem child_of_parent (hcycle : a.isTwoCycle b = false) (h : a.classify b = .parent) :
    b.classify a = .child := by
  rw [classify_eq_parent_iff] at h
  refine classify_eq_child_iff.mpr ⟨?_, h.symm⟩
  intro hback
  rw [isTwoCycle_iff.mpr ⟨h, hback.symm⟩] at hcycle
  cases hcycle

/-- Siblings are ordered the other way round, and all else that is not linked reads the same. -/
theorem classify_swap_of_unlinked (hparent : a.receiver ≠ b.sender)
    (hchild : a.sender ≠ b.receiver) : b.classify a = (a.classify b).dual := by
  by_cases hsender : a.sender = b.sender
  · rw [classify_of_siblings hparent hchild hsender,
      classify_of_siblings hchild.symm hparent.symm hsender.symm,
      Std.OrientedOrd.eq_swap (a := b.prevBlock)]
    cases compare a.prevBlock b.prevBlock with
    | lt => rfl
    | gt => rfl
    | eq =>
        by_cases hreceiver : a.receiver = b.receiver
        · simp [hreceiver, Relationship.dual]
        · simp [hreceiver, Ne.symm hreceiver, Relationship.dual]
  · rw [classify, classify, if_neg hparent, if_neg hchild, if_neg hsender, if_neg hchild.symm,
      if_neg hparent.symm, if_neg (Ne.symm hsender)]
    rfl

/-- Outside the two-cycles the other direction has the dual verdict. -/
theorem classify_swap (hcycle : a.isTwoCycle b = false) :
    b.classify a = (a.classify b).dual := by
  by_cases hparent : a.receiver = b.sender
  · have h := classify_eq_parent_iff.mpr hparent
    rw [h, child_of_parent hcycle h]
    rfl
  · by_cases hchild : a.sender = b.receiver
    · have h := classify_eq_child_iff.mpr ⟨hparent, hchild⟩
      rw [h, parent_of_child h]
      rfl
    · exact classify_swap_of_unlinked hparent hchild

/-- A transaction is the same as itself, unless it goes back to its sender and so spends itself. -/
theorem classify_self (a : Transaction) :
    a.classify a = if a.receiver = a.sender then .parent else .same := by
  split_ifs with hself
  · exact classify_eq_parent_iff.mpr hself
  · rw [classify_of_siblings hself (Ne.symm hself) rfl, Std.ReflOrd.compare_self]
    exact if_pos rfl

/-- A two-cycle is one in both directions, and each of its transactions is the parent of the other.
For every other pair the verdict in the one direction is the dual of the verdict in the other. So
both directions say parent just in the two-cycles, and never do both say child. A transaction is the
same as itself, or its own parent if it goes back to its sender. -/
theorem classify_in_both_directions (a b : Transaction) :
    (a.isTwoCycle b = true →
      b.isTwoCycle a = true ∧ a.classify b = .parent ∧ b.classify a = .parent) ∧
    (a.isTwoCycle b = false → b.classify a = (a.classify b).dual) ∧
    (a.classify b = .parent ∧ b.classify a = .parent ↔ a.isTwoCycle b = true) ∧
    ¬ (a.classify b = .child ∧ b.classify a = .child) ∧
    a.classify a = if a.receiver = a.sender then .parent else .same := by
  refine ⟨?_, classify_swap, both_parent_iff, not_both_child, classify_self a⟩
  intro hcycle
  exact ⟨isTwoCycle_symm hcycle, both_parent_iff.mpr hcycle⟩

end Transaction

end Custody
