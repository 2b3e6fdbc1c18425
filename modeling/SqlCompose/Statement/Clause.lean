import SqlCompose.Statement.Projection
import SqlCompose.Statement.Rows
import SqlCompose.Statement.Template

/-!
# Clauses

How a clause is put together from parts that are rendered already. None
of these functions looks inside an expression, so the recursion over the
grammar in `SqlCompose.Statement.Render` is left with the order of
clauses alone.
-/

namespace SqlCompose

open Fragment

namespace ColumnRef

/-- The name of a column with its qualifier, unless the qualifier is
empty or excluded. -/
def nameSql (excluded : List String) (c : ColumnRef) : Fragment :=
  when (!c.qualifier.isEmpty && !excluded.contains c.qualifier) (text c.qualifier ++ text ".") ++
    text c.name

/-- The place of a column in an ordering. -/
def modifiersSql (c : ColumnRef) : Fragment :=
  (match c.order with
    | some .ascending => text " ASC"
    | some .descending => text " DESC"
    | none => empty) ++
  (match c.nulls with
    | some .first => text " NULLS FIRST"
    | some .last => text " NULLS LAST"
    | none => empty)

end ColumnRef

/-- Writes `NOT ` before a negated condition. -/
def notSql (negated : Bool) : Fragment := when negated (text "NOT ")

/-- The text between two members of a group. -/
def LogicalOp.separator : LogicalOp → String
  | .and => " AND "
  | .or => " OR "

/-- Writes ` AS alias`, if there is an alias. -/
def aliasSql (aliasName : String) : Fragment :=
  when (!aliasName.isEmpty) (text " AS " ++ text aliasName)

/-- The name of a table with its schema. -/
def Relation.sql (r : Relation) : Fragment :=
  when (!r.schema.isEmpty) (text r.schema ++ text ".") ++ text r.name

/-- The table that a statement changes. -/
def Relation.targetSql (r : Relation) : Fragment := r.sql ++ aliasSql r.aliasName

/-- A keyword and an argument that is never negative: the sign is
dropped, and the least number becomes the greatest. -/
def countSql (keyword : String) : Option Int64 → Fragment
  | none => empty
  | some n =>
    let count := if n = Int64.minValue then Int64.maxValue else Int64.ofInt n.toInt.natAbs
    text keyword ++ arg (.int count)

/-- A definition in a `WITH` clause. The body is rendered only if it is
kept. -/
structure WithItem where
  name : String
  columns : List String
  isRecursive : Bool
  body : Unit → Fragment

namespace WithItem

/-- Writes `name (columns) AS (body)`. -/
def sql (item : WithItem) : Fragment :=
  text item.name ++
    when (!item.columns.isEmpty)
      (text " (" ++ text (String.intercalate ", " item.columns) ++ text ")") ++
    text " AS (" ++ item.body () ++ text ")"

/-- The items whose name was neither seen before nor stands earlier in the
list. -/
def firsts : (seen : List String) → List WithItem → List WithItem
  | _, [] => []
  | seen, item :: rest =>
    if seen.contains item.name then firsts seen rest
    else item :: firsts (item.name :: seen) rest

/-- The `WITH` clause of a statement: its own definitions and those of its
tables, each name once. A statement without definitions of its own has no
clause. -/
def clause (own tables : List WithItem) : Fragment :=
  if own.isEmpty then empty
  else
    let kept := firsts [] (own ++ tables)
    text (if kept.any (·.isRecursive) then "WITH RECURSIVE " else "WITH ") ++
      commaList (kept.map sql) ++ text " "

end WithItem

/-- The definition of a window: partition, order and frame. -/
def windowSql (partitionBy orderBy : List Fragment) (frame : String) : Fragment :=
  text "(" ++ clause "PARTITION BY " partitionBy ++
    when (!partitionBy.isEmpty && !orderBy.isEmpty) (text " ") ++
    clause "ORDER BY " orderBy ++
    when (!frame.isEmpty)
      (when (!partitionBy.isEmpty || !orderBy.isEmpty) (text " ") ++ text frame) ++
    text ")"

/-- A member of a set operation after the first. -/
def SetOperator.memberSql (op : SetOperator) (member : Fragment) : Fragment :=
  text " " ++ text op.keyword ++ text " " ++ member

/-- A rendered row in parentheses. -/
def rowSql (cells : List Fragment) : Fragment := parens (commaList cells)

/-- A cell that was not given is null. -/
def cellSql : Option Fragment → Fragment
  | some value => value
  | none => text "NULL"

/-- The rendered cells that a mapper gave before it ended, with the error
it ended in. -/
structure MapperRun where
  cells : List (Cell Fragment Fragment) := []
  stop : Option Error := none

namespace MapperRun

/-- Goes on with another run, unless the first one failed. -/
def append (a b : MapperRun) : MapperRun :=
  match a.stop with
  | some _ => a
  | none => ⟨a.cells ++ b.cells, b.stop⟩

/-- The rendered columns and rows; the mapper's own error goes before one
of its cells. -/
def table (run : MapperRun) : Except Error (List Fragment × List (List Fragment)) :=
  match run.stop with
  | some e => .error e
  | none => (Cell.table run.cells).map fun (columns, rows) => (columns, rows.map (·.map cellSql))

/-- The rendered assignments. -/
def assignments (run : MapperRun) : Except Error (List Fragment) :=
  match run.stop with
  | some e => .error e
  | none => .ok (run.cells.map fun cell => cell.column ++ text " = " ++ cell.value)

end MapperRun

/-- The parts of an insertion, rendered. -/
structure InsertParts where
  withClause : Fragment
  target : Option Relation
  columns : List Fragment
  rows : List (List Fragment)
  run : Option MapperRun
  select : Option Fragment
  conflict : Fragment

/-- An insertion. Columns and rows of a mapper stand in place of those
given, and an error of the mapper goes before all others. -/
def InsertParts.sql (p : InsertParts) : Fragment :=
  match (match p.run with
    | some run => run.table
    | none => .ok (p.columns, p.rows)) with
  | .error e => fail e
  | .ok (columns, rows) =>
    match p.target with
    | none => fail (.build "INSERT requires a target table")
    | some target =>
      if rows.isEmpty && p.select.isNone then
        fail (.build "INSERT requires VALUES or a SELECT source")
      else
        p.withClause ++ text "INSERT INTO " ++ target.targetSql ++
          when (!columns.isEmpty) (text " (" ++ commaList columns ++ text ")") ++
          (if !rows.isEmpty then text " VALUES " ++ commaList (rows.map rowSql)
            else
              match p.select with
              | some select => text " " ++ select
              | none => empty) ++
          p.conflict

/-- The parts of an update, rendered; `rest` is all that follows its
assignments. -/
structure UpdateParts where
  withClause : Fragment
  target : Option Relation
  assignments : List Fragment
  run : Option MapperRun
  rest : Fragment

/-- An update. Assignments of a mapper stand in place of those given, and
an error of the mapper goes before all others. -/
def UpdateParts.sql (p : UpdateParts) : Fragment :=
  match (match p.run with
    | some run => run.assignments
    | none => .ok p.assignments) with
  | .error e => fail e
  | .ok assignments =>
    match p.target with
    | none => fail (.build "UPDATE requires a target table")
    | some target =>
      if assignments.isEmpty then fail (.build "UPDATE requires at least one assignment")
      else
        p.withClause ++ text "UPDATE " ++ target.targetSql ++ text " SET " ++
          commaList assignments ++ p.rest

/-- A deletion; `rest` is all that follows its target. -/
def deleteSql (withClause : Fragment) (target : Option Relation) (hasSource hasJoins : Bool)
    (rest : Fragment) : Fragment :=
  match target with
  | none => fail (.build "DELETE requires a target table")
  | some target =>
    if !hasSource && hasJoins then fail (.build "DELETE joins require a USING table")
    else withClause ++ text "DELETE FROM " ++ target.targetSql ++ rest

end SqlCompose
