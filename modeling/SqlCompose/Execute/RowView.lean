import SqlCompose.Execute.Result
import SqlCompose.Execute.Target
import SqlCompose.Statement.Basic

/-!
# The view of a row

A mapper turns rows into values by reading fields from a view of a row. It
first runs on a view without a row, which takes note of the fields that it
reads and gives the value for a null for each. These fields become the
projection of the statement. It then runs on every row of the answer, where
its first read gives the first cell, and so on.
-/

namespace SqlCompose

/-- A field that a mapper reads, and the name of the type it reads it
as. -/
structure RequestedField where
  field : Field
  typeName : String

/-- What a mapper reads from. -/
inductive RowView where
  /-- No row: takes note of what is read. -/
  | discovery (requested : List RequestedField)
  /-- A row, the cell that is read next, and the reads that failed. -/
  | live (row : ResultRow) (next : Nat) (failures : List String)

namespace RowView

/-- Before anything is read without a row. -/
def blank : RowView := .discovery []

/-- Before anything is read from a row. -/
def ofRow (row : ResultRow) : RowView := .live row 0 []

def isLive : RowView → Bool
  | .discovery _ => false
  | .live .. => true

/-- The fields that were read without a row, in order. -/
def requested : RowView → List RequestedField
  | .discovery requested => requested
  | .live .. => []

/-- The reads of a row that failed, in order. -/
def failures : RowView → List String
  | .discovery _ => []
  | .live _ _ failures => failures

/-- The cell at a position as a value of a type: a value or a null, or a
report on why there is none. -/
def cell {α : Type} (t : Target α) (row : ResultRow) (i : Nat) : Except String (Option α) :=
  match row.values[i]? with
  | none =>
    .error ("column " ++ i.repr ++ " requested but the row has " ++ row.width.repr ++ " columns")
  | some none => .ok none
  | some (some value) =>
    match t.convert value with
    | .ok v => .ok (some v)
    | .error report => .error ("column " ++ i.repr ++ ": " ++ report)

/-- Reads the next cell as a value of a type. A null, a cell that cannot be
read and a field without a row all give no value. -/
def read {α : Type} (t : Target α) (f : Field) : RowView → Option α × RowView
  | .discovery requested => (none, .discovery (requested ++ [⟨f, t.typeName⟩]))
  | .live row next failures =>
    match cell t row next with
    | .ok v => (v, .live row (next + 1) failures)
    | .error report => (none, .live row (next + 1) (failures ++ [report]))

end RowView

end SqlCompose
