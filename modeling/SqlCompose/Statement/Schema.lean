import SqlCompose.Statement.Field

/-!
# Declared tables

A declaration gives a table a name and its columns their kinds and
constraints. Under any alias and in any schema it yields a relation and
the typed fields of its columns.
-/

namespace SqlCompose

/-- A declared column. -/
structure ColumnSchema where
  name : String
  kind : FieldKind
  constraints : List String := []
  deriving DecidableEq, Repr

/-- A declared table. -/
structure TableSchema where
  name : String
  columns : List ColumnSchema
  deriving DecidableEq, Repr

namespace TableSchema

/-- The table under an alias and in a schema, both empty if absent. -/
def relation (t : TableSchema) (aliasName schema : String) : Relation :=
  { schema, name := t.name, aliasName }

/-- The field of a declared column in a relation of the table. -/
def field? (t : TableSchema) (r : Relation) (column : String) : Option TypedField :=
  (t.columns.find? (·.name = column)).map fun c => .ofTable c.kind c.name r

end TableSchema

end SqlCompose
