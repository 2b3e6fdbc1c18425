import SqlCompose.Error

/-!
# Rows filled cell by cell

A column mapper names a column and gives it a value, again and again. The
first row takes up every new column; naming a column that the row already
has a value for begins the next row, and from then on a new column is an
error. A cell that was not given stays empty.

What a column and a value are is left open, so that cells can be put into
rows before or after they are rendered.
-/

namespace SqlCompose

/-- A value for a column, which is known by its name. -/
structure Cell (C V : Type) where
  name : String
  column : C
  value : V

/-- Rows under construction. -/
structure RowTable (C V : Type) where
  columns : List (String × C) := []
  /-- The rows before the current one, oldest first. -/
  finished : List (List (Option V)) := []
  current : List (Option V) := []

namespace RowTable

variable {C V : Type}

/-- The position of a column. -/
def index? (t : RowTable C V) (name : String) : Option Nat :=
  t.columns.findIdx? fun (n, _) => n = name

/-- Fills the cell at a position of the current row, or of a new row if
it is filled already. -/
def fill (t : RowTable C V) (index : Nat) (value : V) : RowTable C V :=
  match t.current[index]? with
  | some (some _) =>
    { t with
      finished := t.finished ++ [t.current]
      current := (List.replicate t.columns.length none).set index (some value) }
  | _ => { t with current := t.current.set index (some value) }

/-- Adds a cell. -/
def put (t : RowTable C V) (cell : Cell C V) : Except Error (RowTable C V) :=
  match t.index? cell.name with
  | some index => .ok (t.fill index cell.value)
  | none =>
    if t.finished.isEmpty then
      .ok { t with
        columns := t.columns ++ [(cell.name, cell.column)]
        current := t.current ++ [some cell.value] }
    else .error (.build ("column " ++ cell.name ++ " was not set in the first row"))

/-- Adds all cells in order, up to the first error. -/
def putAll : RowTable C V → List (Cell C V) → Except Error (RowTable C V)
  | t, [] => .ok t
  | t, cell :: cells => do putAll (← t.put cell) cells

/-- All rows, oldest first; there is none before the first cell. -/
def rows (t : RowTable C V) : List (List (Option V)) :=
  if t.columns.isEmpty then [] else t.finished ++ [t.current]

end RowTable

/-- The columns and rows that cells make. -/
def Cell.table {C V : Type} (cells : List (Cell C V)) :
    Except Error (List C × List (List (Option V))) := do
  let t ← RowTable.putAll {} cells
  return (t.columns.map Prod.snd, t.rows)

end SqlCompose
