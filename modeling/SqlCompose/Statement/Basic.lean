import SqlCompose.Dialect
import SqlCompose.Error
import SqlCompose.Scalar

/-!
# Statements

The grammar of statements and of the expressions in them, as one family
of types: an operand may be a query, a query holds fields, and a field
may again hold operands.

Formats (`custom` fields and predicates, `raw` queries) are texts in
which each single `?` takes the next operand. Conditions of a clause are
kept as the list of predicates that were added; their conjunction is
written without parentheses of its own.
-/

namespace SqlCompose

/-- What a typed column stores. -/
inductive FieldKind where
  | boolean
  | number
  | string
  | time
  | blob
  | json
  deriving DecidableEq, Repr

namespace FieldKind

def all : List FieldKind := [boolean, number, string, time, blob, json]

def name : FieldKind → String
  | boolean => "boolean"
  | number => "number"
  | string => "string"
  | time => "time"
  | blob => "blob"
  | json => "json"

def ofName? (name : String) : Option FieldKind := all.find? (·.name == name)

end FieldKind

/-- Direction of an ordering. -/
inductive SortOrder where
  | ascending
  | descending
  deriving DecidableEq, Repr

/-- Where an ordering puts nulls. -/
inductive NullsOrder where
  | first
  | last
  deriving DecidableEq, Repr

/-- A column name with its qualifier, alias and place in an ordering. An
empty text means that a part is absent. -/
structure ColumnRef where
  qualifier : String := ""
  name : String := ""
  aliasName : String := ""
  order : Option SortOrder := none
  nulls : Option NullsOrder := none
  deriving DecidableEq, Repr, Inhabited

/-- A stored table. -/
structure Relation where
  schema : String := ""
  name : String := ""
  aliasName : String := ""
  deriving DecidableEq, Repr, Inhabited

/-- What columns of the table are qualified with: its alias, or else its
name. -/
def Relation.qualifier (r : Relation) : String :=
  if r.aliasName.isEmpty then r.name else r.aliasName

/-- What joins the members of a predicate group. -/
inductive LogicalOp where
  | and
  | or
  deriving DecidableEq, Repr

/-- How a table is joined. -/
inductive JoinKind where
  | inner
  | left
  | right
  | full
  /-- Any other keyword. -/
  | custom (keyword : String)
  deriving DecidableEq, Repr

/-- What joins the members of a set operation. -/
inductive SetOperator where
  | union
  | unionAll
  | intersect
  | intersectAll
  | except
  | exceptAll
  deriving DecidableEq, Repr

/-- What a column mapper fills: rows of an insertion or assignments of an
update. -/
inductive MapperMode where
  | insert
  | update
  deriving DecidableEq, Repr

mutual

/-- Whatever a format or a comparison can take. -/
inductive Operand where
  | null
  | scalar (value : Scalar)
  | field (field : Field)
  | query (query : Query)
  /-- A list of arguments, as in `IN (?)`. -/
  | slice (items : List Scalar)

/-- A column or a computed expression of a known kind. -/
inductive TypedField where
  | column (kind : FieldKind) (column : ColumnRef) (negated : Bool)
  | computed (kind : FieldKind) (column : ColumnRef) (format : String)
      (operands : List Operand) (negated : Bool)

/-- An expression that a statement can project, compare or order by. -/
inductive Field where
  /-- A format with its operands, or the bare column if there are none. -/
  | custom (column : ColumnRef) (format : String) (operands : List Operand)
  /-- Text that stands for itself. -/
  | literal (text : String)
  /-- An argument known by a name. -/
  | param (name : String) (value : Scalar)
  | typed (field : TypedField)
  /-- Written `CASE WHEN test THEN result ... ELSE fallback END`. -/
  | searchedCase (aliasName : String) (branches : List SearchedBranch) (fallback : Option Operand)
  /-- Written `CASE subject WHEN test THEN result ... ELSE fallback END`. -/
  | simpleCase (aliasName : String) (subject : Operand) (branches : List SimpleBranch)
      (fallback : Option Operand)
  | window (window : Window)
  | predicate (predicate : Predicate)

/-- A branch chosen by a condition. -/
structure SearchedBranch where
  test : Predicate
  result : Operand

/-- A branch chosen by a value. -/
structure SimpleBranch where
  test : Operand
  result : Operand

/-- A condition. -/
inductive Predicate where
  | custom (aliasName : String) (format : String) (operands : List Operand) (negated : Bool)
  /-- Members joined by one operator. A group marked `toplevel` has no
  parentheses of its own unless it is negated. -/
  | group (toplevel : Bool) (aliasName : String) (op : LogicalOp) (members : List Predicate)
      (negated : Bool)
  /-- A boolean field as a condition. -/
  | boolean (field : TypedField)

/-- A window of rows, referred to by its name if it has one. -/
structure Window where
  name : String
  partitionBy : List Field
  orderBy : List Field
  frame : String

/-- Written `target = value`. -/
structure Assignment where
  target : Operand
  value : Operand

/-- One step of a column mapper. -/
inductive MapperStep where
  | set (field : Field) (value : Operand)
  | fail (error : Error)
  /-- Steps taken only when the mapper fills this. -/
  | inMode (mode : MapperMode) (steps : List MapperStep)

/-- A named query before a statement. -/
structure Cte where
  name : String
  aliasName : String
  /-- The column list, if one was given. -/
  columns : List String
  body : Option Query
  isRecursive : Bool

/-- A query in the place of a table. -/
structure Subquery where
  aliasName : String
  query : Query

/-- A source of rows. -/
inductive Table where
  | relation (relation : Relation)
  | cte (cte : Cte)
  | derived (subquery : Subquery)

/-- A joined table with the conditions of the join. -/
structure Join where
  kind : JoinKind
  table : Table
  on : List Predicate

/-- The clauses of a selection. -/
structure Select where
  ctes : List Cte
  distinct : Bool
  distinctOn : List Field
  fields : List Field
  source : Option Table
  joins : List Join
  conditions : List Predicate
  groupBy : List Field
  having : List Predicate
  windows : List Window
  orderBy : List Field
  limit : Option Int64
  withTies : Bool
  offset : Option Int64

/-- What an insertion does with a row that is already there: nothing, if
there are no assignments. -/
structure Conflict where
  target : List Field
  constraint : Option String
  targetConditions : List Predicate
  assignments : List Assignment
  resolutionConditions : List Predicate

/-- The clauses of an insertion. -/
structure Insert where
  ctes : List Cte
  target : Option Relation
  columns : List Field
  rows : List (List Operand)
  mapper : Option (List MapperStep)
  select : Option Select
  conflict : Option Conflict

/-- The clauses of an update. -/
structure Update where
  ctes : List Cte
  target : Option Relation
  assignments : List Assignment
  mapper : Option (List MapperStep)
  source : Option Table
  joins : List Join
  conditions : List Predicate
  orderBy : List Field
  limit : Option Int64
  offset : Option Int64

/-- The clauses of a deletion. -/
structure Delete where
  ctes : List Cte
  target : Option Relation
  source : Option Table
  joins : List Join
  conditions : List Predicate
  orderBy : List Field
  limit : Option Int64
  offset : Option Int64

/-- A whole statement. -/
inductive Query where
  | select (dialect : Dialect) (select : Select)
  | insert (dialect : Dialect) (insert : Insert)
  | update (dialect : Dialect) (update : Update)
  | delete (dialect : Dialect) (delete : Delete)
  | raw (dialect : Dialect) (format : String) (operands : List Operand)
  /-- Queries joined by a set operator. An operation marked `toplevel`
  has no parentheses of its own. -/
  | compound (toplevel : Bool) (op : SetOperator) (members : List Query)

end

namespace Select

/-- No clause at all, which selects the number one. -/
def empty : Select :=
  ⟨[], false, [], [], none, [], [], [], [], [], [], none, false, none⟩

end Select

def Insert.empty : Insert := ⟨[], none, [], [], none, none, none⟩

def Update.empty : Update := ⟨[], none, [], none, none, [], [], [], none, none⟩

def Delete.empty : Delete := ⟨[], none, none, [], [], [], none, none⟩

/-- No name, no order and no frame. -/
def Window.empty : Window := ⟨"", [], [], ""⟩

end SqlCompose
