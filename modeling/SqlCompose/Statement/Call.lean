import SqlCompose.Statement.Projection

/-!
# Building statements

A statement is built by calls, each of which addresses one clause. A call
either replaces its clause (`fields`, `orderBy`, `limit`, ...) or adds to
it (`join`, `condition`, `row`, ...). Calls are data, so that a sequence
of them can be kept, extended and applied to several statements.
-/

namespace SqlCompose

/-- A call on a selection. -/
inductive Select.Call where
  | ctes (ctes : List Cte)
  | fields (fields : List Field)
  | distinct
  | distinctOn (fields : List Field)
  | source (table : Table)
  | join (kind : JoinKind) (table : Table) (on : List Predicate)
  | condition (p : Predicate)
  | groupBy (fields : List Field)
  | having (p : Predicate)
  | windows (windows : List Window)
  | orderBy (fields : List Field)
  | limit (n : Int64)
  | withTies
  | offset (n : Int64)

/-- A call on an insertion. -/
inductive Insert.Call where
  | ctes (ctes : List Cte)
  | columns (fields : List Field)
  | row (operands : List Operand)
  | mapper (steps : List MapperStep)
  | select (source : Select)
  | conflict (conflict : Conflict)

/-- A call on an update. -/
inductive Update.Call where
  | ctes (ctes : List Cte)
  | assignments (assignments : List Assignment)
  | mapper (steps : List MapperStep)
  | source (table : Table)
  | join (kind : JoinKind) (table : Table) (on : List Predicate)
  | condition (p : Predicate)
  | orderBy (fields : List Field)
  | limit (n : Int64)
  | offset (n : Int64)

/-- A call on a deletion. -/
inductive Delete.Call where
  | ctes (ctes : List Cte)
  | source (table : Table)
  | join (kind : JoinKind) (table : Table) (on : List Predicate)
  | condition (p : Predicate)
  | orderBy (fields : List Field)
  | limit (n : Int64)
  | offset (n : Int64)

def Select.call (s : Select) : Select.Call → Select
  | .ctes ctes => { s with ctes }
  | .fields fields => { s with fields }
  | .distinct => { s with distinct := true }
  | .distinctOn fields => { s with distinctOn := fields }
  | .source table => { s with source := some table }
  | .join kind table on => { s with joins := s.joins ++ [⟨kind, table, on⟩] }
  | .condition p => { s with conditions := s.conditions ++ [p] }
  | .groupBy fields => { s with groupBy := fields }
  | .having p => { s with having := s.having ++ [p] }
  | .windows windows => { s with windows }
  | .orderBy fields => { s with orderBy := fields }
  | .limit n => { s with limit := some n }
  | .withTies => { s with withTies := true }
  | .offset n => { s with offset := some n }

def Insert.call (i : Insert) : Insert.Call → Insert
  | .ctes ctes => { i with ctes }
  | .columns fields => { i with columns := fields }
  | .row operands => { i with rows := i.rows ++ [operands] }
  | .mapper steps => { i with mapper := some steps }
  | .select source => { i with select := some source }
  | .conflict conflict => { i with conflict := some conflict }

def Update.call (u : Update) : Update.Call → Update
  | .ctes ctes => { u with ctes }
  | .assignments assignments => { u with assignments := u.assignments ++ assignments }
  | .mapper steps => { u with mapper := some steps }
  | .source table => { u with source := some table }
  | .join kind table on => { u with joins := u.joins ++ [⟨kind, table, on⟩] }
  | .condition p => { u with conditions := u.conditions ++ [p] }
  | .orderBy fields => { u with orderBy := fields }
  | .limit n => { u with limit := some n }
  | .offset n => { u with offset := some n }

def Delete.call (d : Delete) : Delete.Call → Delete
  | .ctes ctes => { d with ctes }
  | .source table => { d with source := some table }
  | .join kind table on => { d with joins := d.joins ++ [⟨kind, table, on⟩] }
  | .condition p => { d with conditions := d.conditions ++ [p] }
  | .orderBy fields => { d with orderBy := fields }
  | .limit n => { d with limit := some n }
  | .offset n => { d with offset := some n }

/-- The statement after calls in order. -/
def Select.calls (s : Select) (calls : List Select.Call) : Select := calls.foldl Select.call s

def Insert.calls (i : Insert) (calls : List Insert.Call) : Insert := calls.foldl Insert.call i

def Update.calls (u : Update) (calls : List Update.Call) : Update := calls.foldl Update.call u

def Delete.calls (d : Delete) (calls : List Delete.Call) : Delete := calls.foldl Delete.call d

end SqlCompose
