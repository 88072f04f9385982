/-!
# Work on a state

A piece of work reads and changes a state, and it can be broken off by what it raises.
What it has done by then stays done.
-/

namespace Custody

/-- A piece of work on a state `σ`, which gives a value or raises something. -/
abbrev Work (σ ε α : Type) := ExceptT ε (StateM σ) α

namespace Work

variable {σ ε α β : Type}

/-- Does the work on a state: the state that it leaves, with the value that it gives or what it
raises. -/
def run (work : Work σ ε α) (state : σ) : σ × Except ε α :=
  let (result, after) := (ExceptT.run work).run state
  (after, result)

theorem run_pure (value : α) (state : σ) :
    (pure value : Work σ ε α).run state = (state, .ok value) := rfl

theorem run_get (state : σ) : (get : Work σ ε σ).run state = (state, .ok state) := rfl

/-- A sequence goes on from the state that its first part leaves, unless that part is broken off. -/
theorem run_bind (work : Work σ ε α) (next : α → Work σ ε β) (state : σ) :
    (work >>= next).run state =
      match work.run state with
      | (after, .ok value) => (next value).run after
      | (after, .error raised) => (after, .error raised) := by
  simp only [run, ExceptT.run_bind, StateT.run_bind]
  cases (ExceptT.run work).run state with
  | mk result after => cases result <;> rfl

/-- A loop does its work for the first item and goes on with the rest. -/
theorem run_forM_cons (work : α → Work σ ε Unit) (first : α) (rest : List α) (state : σ) :
    ((first :: rest).forM work).run state =
      match (work first).run state with
      | (after, .ok _) => (rest.forM work).run after
      | (after, .error raised) => (after, .error raised) := by
  have hcons : (first :: rest).forM work = work first >>= fun _ => rest.forM work := rfl
  rw [hcons, run_bind]
  rcases (work first).run state with ⟨after, raised | value⟩ <;> rfl

/-- What catches goes on from the state in which the work was broken off. -/
theorem run_tryCatch (work : Work σ ε α) (catcher : ε → Work σ ε α) (state : σ) :
    (tryCatch work catcher).run state =
      match work.run state with
      | (after, .ok value) => (after, .ok value)
      | (after, .error raised) => (catcher raised).run after := by
  simp only [run, tryCatch, tryCatchThe, MonadExceptOf.tryCatch, ExceptT.tryCatch, ExceptT.run,
    ExceptT.mk, StateT.run_bind]
  cases StateT.run work state with
  | mk result after => cases result <;> rfl

theorem run_ite {c : Prop} [Decidable c] (yes no : Work σ ε α) (state : σ) :
    (if c then yes else no).run state = if c then yes.run state else no.run state := by
  split <;> rfl

end Work

end Custody
