import SqlCompose.Scalar

/-!
# Answers of a database

A statement is answered with rows, or with a count of the rows that it
changed. A cell of a row may be null.
-/

namespace SqlCompose

/-- A row of an answer. -/
structure ResultRow where
  columns : List String := []
  /-- The cells, `none` for null. -/
  values : List (Option Scalar) := []
  deriving Repr, Inhabited

namespace ResultRow

/-- The value of a cell that is there and is not null. -/
def get? (r : ResultRow) (i : Nat) : Option Scalar := (r.values[i]?).join

/-- The number of cells. -/
def width (r : ResultRow) : Nat := r.values.length

end ResultRow

/-- What a statement without rows did. -/
structure ExecResult where
  rowsAffected : Nat := 0
  /-- The identifier of the row inserted last, if the driver keeps it. -/
  lastInsertId : Option Int64 := none
  deriving DecidableEq, Repr, Inhabited

end SqlCompose
