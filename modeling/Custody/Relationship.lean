import Custody.Transaction

/-!
# How two transactions of a token relate

`classify` compares the senders, the receivers and the block numbers of two
transactions. The rules are tried in a fixed order: parent, child, the siblings
of one sender by block number, and last unrelated. Token ids and signatures play
no part. Two transactions that are each other's parent form a two-cycle, for
which the first rule answers.
-/

namespace Custody

/-- The relationship of one transaction to another. -/
inductive Relationship where
  /-- The other spends what this one produced. -/
  | parent
  /-- This one spends what the other produced. -/
  | child
  /-- Both have one sender, and this one refers to an earlier block. -/
  | earlierSibling
  /-- Both have one sender, and this one refers to a later block. -/
  | laterSibling
  /-- Both have one sender and refer to one block, with different receivers. -/
  | doubleSpend
  /-- Both have one sender and one receiver and refer to one block. -/
  | same
  /-- None of the above. -/
  | unrelated
  deriving DecidableEq, Repr

namespace Relationship

/-- All relationships in their order. -/
def all : List Relationship :=
  [parent, child, earlierSibling, laterSibling, doubleSpend, same, unrelated]

/-- The name of the relationship. -/
def name : Relationship → String
  | parent => "Parent"
  | child => "Child"
  | earlierSibling => "EarlierSibling"
  | laterSibling => "LaterSibling"
  | doubleSpend => "DoubleSpend"
  | same => "Same"
  | unrelated => "Unrelated"

end Relationship

namespace Transaction

/-- The relationship of `a` to `b`. -/
def classify (a b : Transaction) : Relationship :=
  if a.receiver = b.sender then .parent
  else if a.sender = b.receiver then .child
  else if a.sender = b.sender then
    match compare a.prevBlock b.prevBlock with
    | .lt => .earlierSibling
    | .gt => .laterSibling
    | .eq => if a.receiver = b.receiver then .same else .doubleSpend
  else .unrelated

/-- Whether each of the two spends what the other produced. -/
def isTwoCycle (a b : Transaction) : Bool := a.receiver = b.sender ∧ a.sender = b.receiver

end Transaction

end Custody
