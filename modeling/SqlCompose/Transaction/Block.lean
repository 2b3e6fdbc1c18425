import SqlCompose.Action

/-!
# Transaction blocks

A block is opened by a command, runs its body, and is closed: it is
committed if the body succeeds and rolled back if it fails. Savepoints are
blocks inside a transaction.

Blocks run against anything that performs commands, and a command may
fail.
-/

namespace SqlCompose

/-- What a block asks of a database. -/
inductive Command where
  /-- Opens a transaction. -/
  | start
  | commit
  | rollback
  | savepoint (name : String)
  /-- Ends a savepoint and keeps what was done since. -/
  | release (name : String)
  /-- Undoes what was done since a savepoint. -/
  | rollbackTo (name : String)
  deriving DecidableEq, Repr

/-- A kind of block: what opens it, what ends it well or badly, and what a
failed rollback of it is called. -/
structure Block where
  opening : Command
  commit : Command
  rollback : Command
  failure : String
  deriving DecidableEq, Repr

namespace Block

def transaction : Block := ⟨.start, .commit, .rollback, "rollback failed"⟩

def savepoint (name : String) : Block :=
  ⟨.savepoint name, .release name, .rollbackTo name, "savepoint rollback failed"⟩

/-- Two errors in one: the reason of a rollback, and why it failed. -/
def both (b : Block) (reason rollback : Error) : Error :=
  .other (reason.message ++ " (" ++ b.failure ++ ": " ++ rollback.message ++ ")")

variable {σ α : Type}

/-- Runs a body inside a block. -/
def run (b : Block) (perform : Command → Action σ Unit) (body : Action σ α) : Action σ α := fun s =>
  match perform b.opening s with
  | (.error e, s) => (.error e, s)
  | (.ok _, s) =>
    match body s with
    | (.ok a, s) =>
      match perform b.commit s with
      | (.error e, s) => (.error e, s)
      | (.ok _, s) => (.ok a, s)
    | (.error reason, s) =>
      match perform b.rollback s with
      | (.error e, s) => (.error (b.both reason e), s)
      | (.ok _, s) => (.error reason, s)

end Block

end SqlCompose
