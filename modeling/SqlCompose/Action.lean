import SqlCompose.Error

/-!
# Actions

Something that is done to a state and may fail. What was done to the state
before a failure stays done.
-/

namespace SqlCompose

/-- From a state to a result and the state after it. -/
abbrev Action (σ α : Type) := σ → Except Error α × σ

namespace Action

variable {σ α β : Type}

/-- A result, without any change of the state. -/
def pure (a : α) : Action σ α := fun s => (.ok a, s)

/-- A failure, without any change of the state. -/
def fail (e : Error) : Action σ α := fun s => (.error e, s)

/-- What is already known to succeed or to fail. -/
def ofExcept (r : Except Error α) : Action σ α := fun s => (r, s)

/-- A change of the state that cannot fail. -/
def change (f : σ → σ) : Action σ Unit := fun s => (.ok (), f s)

/-- The second action goes on with the result of the first. -/
def andThen (x : Action σ α) (f : α → Action σ β) : Action σ β := fun s =>
  match x s with
  | (.ok a, s) => f a s
  | (.error e, s) => (.error e, s)

end Action

end SqlCompose
