import SqlCompose.Statement.Field

/-!
# Projections

A selection projects its fields, and a set operation what its first
member projects; other statements project nothing. The columns of a named
query or a derived table are the labels of its projection, so that a
column it does not have can be told from one it has.
-/

namespace SqlCompose

namespace Query

/-- The dialect of a statement, for a set operation that of its first
member. -/
def dialect : Query → Dialect
  | select d _ => d
  | insert d _ => d
  | update d _ => d
  | delete d _ => d
  | raw d _ _ => d
  | compound _ _ [] => .generic
  | compound _ _ (q :: _) => q.dialect
termination_by structural q => q

/-- The fields that a statement projects. -/
def projection : Query → Except Error (List Field)
  | select _ s => .ok s.fields
  | compound _ _ [] => .error (.build "set operation has no member queries")
  | compound _ _ (q :: _) => q.projection
  | _ => .error .unsupported
termination_by structural q => q

/-- The statement with another projection, which only a selection has. -/
def withProjection (fields : List Field) : Query → Except Error Query
  | select d s => .ok (select d { s with fields })
  | _ => .error .unsupported

/-- Marks a set operation as standing alone, or not. -/
def withToplevel (toplevel : Bool) : Query → Query
  | compound _ op members => compound toplevel op members
  | q => q

def isCompound : Query → Bool
  | compound .. => true
  | _ => false

/-- The labels of the projection, none if there is no projection. -/
def labels (q : Query) : List String :=
  match q.projection with
  | .ok fields => fields.map Field.label
  | .error _ => []

/-- The statement inside one-member unions. -/
def nest : Nat → Query → Query
  | 0, q => q
  | n + 1, q => nest n (compound false .union [q])

end Query

namespace Cte

/-- A named query. -/
def ofQuery (name : String) (q : Query) : Cte := ⟨name, "", [], some q, false⟩

/-- A recursive named query, whose body is still to come. -/
def recursive (name : String) (columns : List String) : Cte := ⟨name, "", columns, none, true⟩

/-- How the body of a recursive named query goes on after its seed. -/
inductive Continuation where
  | done
  | union (members : List Query)
  | unionAll (members : List Query)

/-- Sets the body of a recursive named query; another one keeps its
body. -/
def initial (seed : Query) (rest : Continuation) (c : Cte) : Cte :=
  if c.isRecursive then
    { c with body := some (match rest with
        | .done => seed
        | .union members => .compound true .union (seed :: members)
        | .unionAll members => .compound true .unionAll (seed :: members)) }
  else c

/-- The columns that can be looked up: those given, or else the labels of
the projection, which a recursive query does not have. -/
def lookupColumns (c : Cte) : List String :=
  if !c.columns.isEmpty || c.isRecursive then c.columns
  else
    match c.body with
    | some q => q.labels
    | none => []

def qualifier (c : Cte) : String := if c.aliasName.isEmpty then c.name else c.aliasName

/-- The column of that name, or a blank field. -/
def field (c : Cte) (column : String) : Field :=
  if c.lookupColumns.contains column then .column c.qualifier column else .blank

end Cte

namespace Subquery

/-- The columns that can be looked up. -/
def columns (s : Subquery) : List String := s.query.labels

/-- The column of that name, or a blank field. -/
def field (s : Subquery) (column : String) : Field :=
  if s.columns.contains column then .column s.aliasName column else .blank

end Subquery

namespace Table

def name : Table → String
  | relation r => r.name
  | cte c => c.name
  | derived _ => ""

def aliasName : Table → String
  | relation r => r.aliasName
  | cte c => c.aliasName
  | derived s => s.aliasName

/-- A derived table stands in parentheses. -/
def isDerived : Table → Bool
  | derived _ => true
  | _ => false

def isCte : Table → Bool
  | cte _ => true
  | _ => false

end Table

namespace JoinKind

def keyword : JoinKind → String
  | inner => "JOIN"
  | left => "LEFT JOIN"
  | right => "RIGHT JOIN"
  | full => "FULL JOIN"
  | custom keyword => keyword

end JoinKind

namespace SetOperator

def keyword : SetOperator → String
  | union => "UNION"
  | unionAll => "UNION ALL"
  | intersect => "INTERSECT"
  | intersectAll => "INTERSECT ALL"
  | except => "EXCEPT"
  | exceptAll => "EXCEPT ALL"

end SetOperator

end SqlCompose
