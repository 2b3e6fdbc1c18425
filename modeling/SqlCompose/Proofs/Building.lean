import Mathlib.Data.List.Basic
import SqlCompose.Statement.Call
import SqlCompose.Statement.Render

/-!
# Building clause by clause

A statement is its target and what its clauses hold (`Builder.ext`). A call
addresses one clause and leaves all others alone; it adds to the clause if
that is one which grows, and otherwise takes the place of what was there
(`Builder.content_call`). So what a clause holds after some calls depends on
those that address it and on nothing else (`Builder.content_calls`), and it
does not matter in what order clauses are gone through.

The clauses of all statements are seen as lists of entries, so that the same
is said of each.
-/

namespace SqlCompose

/-! ## Clauses and what they hold -/

/-- A clause that calls address, of whatever statement. -/
inductive Clause where
  | ctes
  | fields
  | distinct
  | distinctOn
  | source
  | joins
  | conditions
  | groupBy
  | having
  | windows
  | orderBy
  | limit
  | withTies
  | offset
  | columns
  | rows
  | mapper
  | selection
  | conflict
  | assignments
  deriving DecidableEq, Repr

/-- Calls add to these clauses, and each keeps what the others have added. -/
def Clause.grows : Clause → Bool
  | .joins => true
  | .conditions => true
  | .having => true
  | .rows => true
  | .assignments => true
  | _ => false

/-- One thing that a clause holds. -/
inductive Entry where
  | cte (c : Cte)
  | field (f : Field)
  /-- The clause is there. -/
  | mark
  | table (t : Table)
  | join (j : Join)
  | condition (p : Predicate)
  | window (w : Window)
  | count (n : Int64)
  | row (operands : List Operand)
  | mapper (steps : List MapperStep)
  | selection (s : Select)
  | conflict (c : Conflict)
  | assignment (a : Assignment)

/-- The entry of a flag that is set. -/
def Entry.ofFlag (flag : Bool) : List Entry := if flag then [mark] else []

def Select.content (s : Select) : Clause → List Entry
  | .ctes => s.ctes.map .cte
  | .fields => s.fields.map .field
  | .distinct => Entry.ofFlag s.distinct
  | .distinctOn => s.distinctOn.map .field
  | .source => s.source.toList.map .table
  | .joins => s.joins.map .join
  | .conditions => s.conditions.map .condition
  | .groupBy => s.groupBy.map .field
  | .having => s.having.map .condition
  | .windows => s.windows.map .window
  | .orderBy => s.orderBy.map .field
  | .limit => s.limit.toList.map .count
  | .withTies => Entry.ofFlag s.withTies
  | .offset => s.offset.toList.map .count
  | _ => []

def Insert.content (i : Insert) : Clause → List Entry
  | .ctes => i.ctes.map .cte
  | .columns => i.columns.map .field
  | .rows => i.rows.map .row
  | .mapper => i.mapper.toList.map .mapper
  | .selection => i.select.toList.map .selection
  | .conflict => i.conflict.toList.map .conflict
  | _ => []

def Update.content (u : Update) : Clause → List Entry
  | .ctes => u.ctes.map .cte
  | .assignments => u.assignments.map .assignment
  | .mapper => u.mapper.toList.map .mapper
  | .source => u.source.toList.map .table
  | .joins => u.joins.map .join
  | .conditions => u.conditions.map .condition
  | .orderBy => u.orderBy.map .field
  | .limit => u.limit.toList.map .count
  | .offset => u.offset.toList.map .count
  | _ => []

def Delete.content (d : Delete) : Clause → List Entry
  | .ctes => d.ctes.map .cte
  | .source => d.source.toList.map .table
  | .joins => d.joins.map .join
  | .conditions => d.conditions.map .condition
  | .orderBy => d.orderBy.map .field
  | .limit => d.limit.toList.map .count
  | .offset => d.offset.toList.map .count
  | _ => []

/-! ## What calls say

The clause that a call addresses, and the entries that it has for it.
-/

def Select.Call.clause : Select.Call → Clause
  | .ctes _ => .ctes
  | .fields _ => .fields
  | .distinct => .distinct
  | .distinctOn _ => .distinctOn
  | .source _ => .source
  | .join _ _ _ => .joins
  | .condition _ => .conditions
  | .groupBy _ => .groupBy
  | .having _ => .having
  | .windows _ => .windows
  | .orderBy _ => .orderBy
  | .limit _ => .limit
  | .withTies => .withTies
  | .offset _ => .offset

def Select.Call.entries : Select.Call → List Entry
  | .ctes cs => cs.map .cte
  | .fields fs => fs.map .field
  | .distinct => [.mark]
  | .distinctOn fs => fs.map .field
  | .source t => [.table t]
  | .join kind table on => [.join ⟨kind, table, on⟩]
  | .condition p => [.condition p]
  | .groupBy fs => fs.map .field
  | .having p => [.condition p]
  | .windows ws => ws.map .window
  | .orderBy fs => fs.map .field
  | .limit n => [.count n]
  | .withTies => [.mark]
  | .offset n => [.count n]

def Insert.Call.clause : Insert.Call → Clause
  | .ctes _ => .ctes
  | .columns _ => .columns
  | .row _ => .rows
  | .mapper _ => .mapper
  | .select _ => .selection
  | .conflict _ => .conflict

def Insert.Call.entries : Insert.Call → List Entry
  | .ctes cs => cs.map .cte
  | .columns fs => fs.map .field
  | .row operands => [.row operands]
  | .mapper steps => [.mapper steps]
  | .select s => [.selection s]
  | .conflict k => [.conflict k]

def Update.Call.clause : Update.Call → Clause
  | .ctes _ => .ctes
  | .assignments _ => .assignments
  | .mapper _ => .mapper
  | .source _ => .source
  | .join _ _ _ => .joins
  | .condition _ => .conditions
  | .orderBy _ => .orderBy
  | .limit _ => .limit
  | .offset _ => .offset

def Update.Call.entries : Update.Call → List Entry
  | .ctes cs => cs.map .cte
  | .assignments as => as.map .assignment
  | .mapper steps => [.mapper steps]
  | .source t => [.table t]
  | .join kind table on => [.join ⟨kind, table, on⟩]
  | .condition p => [.condition p]
  | .orderBy fs => fs.map .field
  | .limit n => [.count n]
  | .offset n => [.count n]

def Delete.Call.clause : Delete.Call → Clause
  | .ctes _ => .ctes
  | .source _ => .source
  | .join _ _ _ => .joins
  | .condition _ => .conditions
  | .orderBy _ => .orderBy
  | .limit _ => .limit
  | .offset _ => .offset

def Delete.Call.entries : Delete.Call → List Entry
  | .ctes cs => cs.map .cte
  | .source t => [.table t]
  | .join kind table on => [.join ⟨kind, table, on⟩]
  | .condition p => [.condition p]
  | .orderBy fs => fs.map .field
  | .limit n => [.count n]
  | .offset n => [.count n]

/-! ## Builders -/

/-- The statements that are built by calls, each with its clauses and its
calls. -/
inductive Builder : Type → Type → Type where
  | select : Builder Select Select.Call
  | insert : Builder Insert Insert.Call
  | update : Builder Update Update.Call
  | delete : Builder Delete Delete.Call

namespace Builder

variable {S C : Type}

def call : Builder S C → S → C → S
  | select => Select.call
  | insert => Insert.call
  | update => Update.call
  | delete => Delete.call

/-- The statement after calls in order. -/
def calls : Builder S C → S → List C → S
  | select => Select.calls
  | insert => Insert.calls
  | update => Update.calls
  | delete => Delete.calls

/-- The clauses as a statement of a dialect. -/
def query : Builder S C → Dialect → S → Query
  | select => .select
  | insert => .insert
  | update => .update
  | delete => .delete

/-- The clause that a call addresses. -/
def clause : Builder S C → C → Clause
  | select => Select.Call.clause
  | insert => Insert.Call.clause
  | update => Update.Call.clause
  | delete => Delete.Call.clause

/-- What a call has for its clause. -/
def entries : Builder S C → C → List Entry
  | select => Select.Call.entries
  | insert => Insert.Call.entries
  | update => Update.Call.entries
  | delete => Delete.Call.entries

/-- What a clause holds. -/
def content : Builder S C → S → Clause → List Entry
  | select => Select.content
  | insert => Insert.content
  | update => Update.content
  | delete => Delete.content

/-- The table that the statement changes, which no call addresses. -/
def target : Builder S C → S → Option Relation
  | select => fun _ => none
  | insert => Insert.target
  | update => Update.target
  | delete => Delete.target

/-- Those of some calls that address a clause, in their order. -/
def addressing (b : Builder S C) (k : Clause) (cs : List C) : List C :=
  cs.filter fun c => b.clause c = k

theorem calls_eq_foldl (b : Builder S C) (s : S) (cs : List C) :
    b.calls s cs = cs.foldl b.call s := by
  cases b <;> rfl

/-! ## One call -/

/-- A call changes the clause that it addresses and no other. -/
theorem content_call (b : Builder S C) (s : S) (c : C) (k : Clause) :
    b.content (b.call s c) k =
      if b.clause c = k then
        if k.grows then b.content s k ++ b.entries c else b.entries c
      else b.content s k := by
  cases b <;> cases c <;> cases k
  all_goals try rfl
  -- The clauses are left that grow.
  all_goals exact List.map_append

theorem target_call (b : Builder S C) (s : S) (c : C) : b.target (b.call s c) = b.target s := by
  cases b <;> cases c <;> rfl

/-! ## Many calls -/

/-- What a clause holds after some calls: if it grows, what it held and then
the entries of all that address it, and otherwise those of the last one. -/
theorem content_calls (b : Builder S C) (s : S) (cs : List C) (k : Clause) :
    b.content (b.calls s cs) k =
      if k.grows then b.content s k ++ (b.addressing k cs).flatMap b.entries
      else ((b.addressing k cs).getLast?.map b.entries).getD (b.content s k) := by
  rw [calls_eq_foldl]
  induction cs generalizing s with
  | nil => cases k.grows <;> simp [addressing]
  | cons c cs ih =>
      rw [List.foldl_cons, ih, content_call]
      by_cases here : b.clause c = k
      · have addressed : b.addressing k (c :: cs) = c :: b.addressing k cs := by
          simp [addressing, here]
        rw [addressed, if_pos here]
        cases k.grows with
        | true => simp
        | false =>
            rw [List.getLast?_cons]
            cases (b.addressing k cs).getLast? <;> rfl
      · have addressed : b.addressing k (c :: cs) = b.addressing k cs := by
          simp [addressing, here]
        rw [addressed, if_neg here]

theorem target_calls (b : Builder S C) (s : S) (cs : List C) :
    b.target (b.calls s cs) = b.target s := by
  rw [calls_eq_foldl]
  induction cs generalizing s with
  | nil => rfl
  | cons c cs ih => rw [List.foldl_cons, ih, target_call]

/-! ## The whole statement -/

theorem eq_of_map {α : Type} {f : α → Entry} (inj : ∀ {a b}, f a = f b → a = b) {l l' : List α}
    (h : l.map f = l'.map f) : l = l' :=
  List.map_injective_iff.mpr (fun _ _ => inj) h

theorem eq_of_toList_map {α : Type} {f : α → Entry} (inj : ∀ {a b}, f a = f b → a = b)
    {o o' : Option α} (h : o.toList.map f = o'.toList.map f) : o = o' := by
  have same := eq_of_map inj h
  cases o with
  | none =>
      cases o' with
      | none => rfl
      | some b => cases same
  | some a =>
      cases o' with
      | none => cases same
      | some b => rw [List.singleton_inj.mp same]

theorem eq_of_ofFlag {x y : Bool} (h : Entry.ofFlag x = Entry.ofFlag y) : x = y := by
  cases x <;> cases y
  case false.false => rfl
  case true.true => rfl
  all_goals cases h

/-- A statement is its target and what its clauses hold. -/
theorem ext (b : Builder S C) {s t : S} (target : b.target s = b.target t)
    (content : ∀ k, b.content s k = b.content t k) : s = t := by
  cases b with
  | select =>
      obtain ⟨⟩ := s
      obtain ⟨⟩ := t
      rw [Select.mk.injEq]
      exact ⟨eq_of_map Entry.cte.inj (content .ctes), eq_of_ofFlag (content .distinct),
        eq_of_map Entry.field.inj (content .distinctOn),
        eq_of_map Entry.field.inj (content .fields),
        eq_of_toList_map Entry.table.inj (content .source),
        eq_of_map Entry.join.inj (content .joins),
        eq_of_map Entry.condition.inj (content .conditions),
        eq_of_map Entry.field.inj (content .groupBy),
        eq_of_map Entry.condition.inj (content .having),
        eq_of_map Entry.window.inj (content .windows),
        eq_of_map Entry.field.inj (content .orderBy),
        eq_of_toList_map Entry.count.inj (content .limit), eq_of_ofFlag (content .withTies),
        eq_of_toList_map Entry.count.inj (content .offset)⟩
  | insert =>
      obtain ⟨⟩ := s
      obtain ⟨⟩ := t
      rw [Insert.mk.injEq]
      exact ⟨eq_of_map Entry.cte.inj (content .ctes), target,
        eq_of_map Entry.field.inj (content .columns), eq_of_map Entry.row.inj (content .rows),
        eq_of_toList_map Entry.mapper.inj (content .mapper),
        eq_of_toList_map Entry.selection.inj (content .selection),
        eq_of_toList_map Entry.conflict.inj (content .conflict)⟩
  | update =>
      obtain ⟨⟩ := s
      obtain ⟨⟩ := t
      rw [Update.mk.injEq]
      exact ⟨eq_of_map Entry.cte.inj (content .ctes), target,
        eq_of_map Entry.assignment.inj (content .assignments),
        eq_of_toList_map Entry.mapper.inj (content .mapper),
        eq_of_toList_map Entry.table.inj (content .source),
        eq_of_map Entry.join.inj (content .joins),
        eq_of_map Entry.condition.inj (content .conditions),
        eq_of_map Entry.field.inj (content .orderBy),
        eq_of_toList_map Entry.count.inj (content .limit),
        eq_of_toList_map Entry.count.inj (content .offset)⟩
  | delete =>
      obtain ⟨⟩ := s
      obtain ⟨⟩ := t
      rw [Delete.mk.injEq]
      exact ⟨eq_of_map Entry.cte.inj (content .ctes), target,
        eq_of_toList_map Entry.table.inj (content .source),
        eq_of_map Entry.join.inj (content .joins),
        eq_of_map Entry.condition.inj (content .conditions),
        eq_of_map Entry.field.inj (content .orderBy),
        eq_of_toList_map Entry.count.inj (content .limit),
        eq_of_toList_map Entry.count.inj (content .offset)⟩

/-- The order of calls that address different clauses does not matter. Two
sequences with the same calls for each clause, in the same order there, give
the same statement and so the same text, arguments and positions, or the same
error, in any dialect.

Each clause holds what the calls that address it say: all of them, behind
what was there before, if it grows, and otherwise the last one alone. The
table that is changed is not touched by calls. -/
theorem calls_by_clause (b : Builder S C) (s : S) {cs ds : List C}
    (same : ∀ k, b.addressing k cs = b.addressing k ds) :
    b.calls s cs = b.calls s ds ∧
      (∀ d, (b.query d (b.calls s cs)).toSql = (b.query d (b.calls s ds)).toSql) ∧
      (∀ k, b.content (b.calls s cs) k =
        if k.grows then b.content s k ++ (b.addressing k cs).flatMap b.entries
        else ((b.addressing k cs).getLast?.map b.entries).getD (b.content s k)) ∧
      b.target (b.calls s cs) = b.target s := by
  have equal : b.calls s cs = b.calls s ds := by
    refine b.ext ?target fun k => ?content
    case target => rw [target_calls, target_calls]
    case content => rw [content_calls, content_calls, same]
  exact ⟨equal, fun d => by rw [equal], b.content_calls s cs, b.target_calls s cs⟩

/-- Conditions and limits in two orders: both conditions are kept, and the
last limit. -/
theorem calls_by_clause_limits :
    let p (name : String) : Predicate := .isNull (.field (.column "" name))
    let cs : List Select.Call :=
      [.limit 1, .condition (p "a"), .orderBy [.column "" "c"], .limit 2, .condition (p "b")]
    let ds : List Select.Call :=
      [.condition (p "a"), .condition (p "b"), .limit 1, .limit 2, .orderBy [.column "" "c"]]
    (∀ k, select.addressing k cs = select.addressing k ds) ∧
      Select.calls .empty cs = Select.calls .empty ds ∧
      (Select.calls .empty ds).sql.sql =
        "SELECT 1 WHERE a IS NULL AND b IS NULL ORDER BY c LIMIT ?" ∧
      (Select.calls .empty cs).sql.args.map Scalar.literal = ["2"] := by
  intro p cs ds
  have same : ∀ k, select.addressing k cs = select.addressing k ds := by
    intro k
    cases k <;> rfl
  exact ⟨same, (calls_by_clause select .empty same).1, by decide +kernel, by decide +kernel⟩

end Builder

end SqlCompose
