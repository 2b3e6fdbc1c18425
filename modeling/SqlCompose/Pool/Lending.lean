import SqlCompose.Pool.Basic

/-!
# Lending

The buffers of a pool that are out at the same time. Each has one holder,
who writes to it and gives it back once.
-/

namespace SqlCompose

/-- A buffer in use. -/
inductive Loan where
  | text (b : Buffer String)
  | args (b : Buffer (List Scalar))
  deriving Repr

/-- A pool and its loans, numbered in the order in which they were taken.
One that was given back is gone. -/
structure Lending where
  pool : BufferPool
  loans : List (Option Loan) := []
  deriving Repr, Inhabited

/-- What holders do. -/
inductive LoanStep where
  | takeText
  | takeArgs
  | write (loan : Nat) (text : String)
  | push (loan : Nat) (value : Scalar)
  | reserve (loan more : Nat)
  | giveBack (loan : Nat)
  deriving Repr

namespace Lending

/-- The loan of a number, if it is still out. -/
def loan? (l : Lending) (i : Nat) : Option Loan := (l.loans[i]?).join

/-- Changes a loan that is still out. -/
def change (l : Lending) (i : Nat) (f : Loan → Loan) : Lending :=
  { l with loans := l.loans.modify i (Option.map f) }

/-- One step of one holder. -/
def step (l : Lending) : LoanStep → Lending
  | .takeText =>
    let (b, pool) := l.pool.takeText
    ⟨pool, l.loans ++ [some (.text b)]⟩
  | .takeArgs =>
    let (b, pool) := l.pool.takeArgs
    ⟨pool, l.loans ++ [some (.args b)]⟩
  | .write i text =>
    l.change i fun
      | .text b => .text (b.append .text text)
      | .args b => .args b
  | .push i value =>
    l.change i fun
      | .text b => .text b
      | .args b => .args (b.append .args [value])
  | .reserve i more =>
    l.change i fun
      | .text b => .text (b.reserve .text more)
      | .args b => .args (b.reserve .args more)
  | .giveBack i =>
    match l.loan? i with
    | none => l
    | some loan =>
      let pool := match loan with
        | .text b => l.pool.giveBackText b
        | .args b => l.pool.giveBackArgs b
      ⟨pool, l.loans.set i none⟩

/-- All steps in order. -/
def steps (l : Lending) (all : List LoanStep) : Lending := all.foldl step l

end Lending

end SqlCompose
