import Mathlib.Logic.Relation
import SqlCompose.Proofs.Mapped

/-!
# Where rendering stops

Rendering stops at the first part that cannot be written. Some parts are
refused as a whole, before anything of them is written
(`Node.refusal?`): a statement whose mapper failed or that lacks something
it needs, a case expression without branches, a definition without a body.
All others are written from their parts in order, so they stop exactly
where the first of their parts does (`Node.stop_sql`).

So an error of a part that rendering comes to (`Node.Reaches`) is the error
of the whole statement, and no statement is built from one that has a
refused part anywhere (`Node.Contains`).
-/

namespace SqlCompose

open Fragment

/-! ## Where fragments stop -/

namespace Fragment

@[simp] theorem stop_empty : empty.stop = none := rfl

@[simp] theorem stop_fail (e : Error) : (fail e).stop = some e := rfl

@[simp] theorem stop_ofPieces (pieces : List Piece) : (ofPieces pieces).stop = none := rfl

@[simp] theorem stop_arg (v : Scalar) : (arg v).stop = none := rfl

theorem stop_when (keep : Bool) (a : Fragment) :
    (when keep a).stop = if keep then a.stop else none := by
  cases keep <;> rfl

/-- Text that is written or left out never stops. -/
theorem stop_when_of_run {a : Fragment} (h : a.stop = none) (keep : Bool) :
    (when keep a).stop = none := by
  rw [stop_when, h, ite_self]

/-- The first stop of some fragments. -/
theorem findSome?_stop_cons (a : Fragment) (rest : List Fragment) :
    (a :: rest).findSome? Fragment.stop = a.stop.or (rest.findSome? Fragment.stop) := by
  rw [List.findSome?_cons]
  cases a.stop <;> rfl

@[simp] theorem stop_sepBy (separator : String) :
    ∀ items : List Fragment, (sepBy separator items).stop = items.findSome? Fragment.stop
  | [] => rfl
  | [a] => by rw [sepBy, findSome?_stop_cons, List.findSome?_nil, Option.or_none]
  | a :: b :: rest => by
      rw [sepBy_cons_cons, stop_append, stop_append, stop_text, Option.or_none,
        stop_sepBy separator (b :: rest), ← findSome?_stop_cons]

@[simp] theorem stop_commaList (items : List Fragment) :
    (commaList items).stop = items.findSome? Fragment.stop :=
  stop_sepBy ", " items

@[simp] theorem stop_clause (keyword : String) (items : List Fragment) :
    (clause keyword items).stop = items.findSome? Fragment.stop := by
  rw [clause]
  cases items with
  | nil => rfl
  | cons a rest =>
      rw [List.isEmpty_cons, if_neg Bool.false_ne_true, stop_append, stop_text, stop_commaList,
        Option.none_or]

end Fragment

/-- A fragment that was refused leaves what was written before as it is. -/
theorem Writer.write_fail (w : Writer) (e : Error) : w.write (fail e) = (w, some e) := by
  have same : w.append (fail e) = w := by
    simp [append, fail, Fragment.sql, Fragment.args, Fragment.recordPieces]
  rw [write, same, stop_fail]

/-! ## Refusals -/

/-- What an insertion lacks that has no mapper. -/
def Insert.lack? (i : Insert) : Option Error :=
  if i.target.isNone then some (.build "INSERT requires a target table")
  else if i.rows.isEmpty && i.select.isNone then
    some (.build "INSERT requires VALUES or a SELECT source")
  else none

def Update.lack? (u : Update) : Option Error :=
  if u.target.isNone then some (.build "UPDATE requires a target table")
  else if u.assignments.isEmpty then some (.build "UPDATE requires at least one assignment")
  else none

/-- Why an insertion is refused as a whole. What its mapper has to say goes
first. -/
def Insert.refusal? (i : Insert) : Option Error :=
  match i.explicit with
  | .error e => some e
  | .ok i => i.lack?

def Update.refusal? (u : Update) : Option Error :=
  match u.explicit with
  | .error e => some e
  | .ok u => u.lack?

def Delete.refusal? (d : Delete) : Option Error :=
  if d.target.isNone then some (.build "DELETE requires a target table")
  else if d.source.isNone && !d.joins.isEmpty then
    some (.build "DELETE joins require a USING table")
  else none

def Query.refusal? : Query → Option Error
  | .insert _ i => i.refusal?
  | .update _ u => u.refusal?
  | .delete _ d => d.refusal?
  | .select _ _ => none
  | .raw _ _ _ => none
  | .compound _ _ _ => none

/-! ## Parts

Every place of the grammar with what its rendering depends on. A
definition is rendered where it is kept, so its place is its body.
-/

inductive Node where
  | operand (excluded : List String) (o : Operand)
  | field (excluded : List String) (f : Field)
  | predicate (excluded : List String) (p : Predicate) (only : Bool)
  | cte (c : Cte)
  | select (s : Select)
  | query (q : Query) (toplevel? : Option Bool)

def formatParts (excluded : List String) (format : String) (operands : List Operand) : List Node :=
  (operands.take (Template.ofFormat format).tails.length).map (.operand excluded)

def fieldParts (excluded : List String) (fields : List Field) : List Node :=
  fields.map (.field excluded)

def conditionParts (excluded : List String) : List Predicate → List Node
  | [p] => [.predicate excluded p true]
  | ps => ps.map (.predicate excluded · false)

def TypedField.parts (excluded : List String) : TypedField → List Node
  | .column _ _ _ => []
  | .computed _ _ format operands _ => formatParts excluded format operands

def Window.parts (w : Window) : List Node :=
  fieldParts [] w.partitionBy ++ fieldParts [] w.orderBy

def Assignment.parts (excluded : List String) (a : Assignment) : List Node :=
  [.operand excluded a.target, .operand excluded a.value]

/-- The definitions that are kept, the first of each name. -/
def firstCtes : (seen : List String) → List Cte → List Cte
  | _, [] => []
  | seen, c :: rest =>
    if seen.contains c.name then firstCtes seen rest
    else c :: firstCtes (c.name :: seen) rest

def withParts (own tables : List Cte) : List Node :=
  if own.isEmpty then [] else (firstCtes [] (own ++ tables)).map .cte

def Table.ctes : Table → List Cte
  | .cte c => [c]
  | .relation _ => []
  | .derived _ => []

def Table.parts : Table → List Node
  | .derived s => [.query s.query (some true)]
  | .relation _ => []
  | .cte _ => []

def sourceCtes (source : Option Table) (joins : List Join) : List Cte :=
  source.toList.flatMap Table.ctes ++ joins.flatMap (·.table.ctes)

def sourceParts (source : Option Table) (joins : List Join) : List Node :=
  source.toList.flatMap Table.parts ++
    joins.flatMap fun j => j.table.parts ++ conditionParts [] j.on

def Select.parts (s : Select) : List Node :=
  withParts s.ctes (sourceCtes s.source s.joins) ++ fieldParts [] s.distinctOn ++
    fieldParts [] s.fields ++ sourceParts s.source s.joins ++ conditionParts [] s.conditions ++
    fieldParts [] s.groupBy ++ conditionParts [] s.having ++
    (s.windows.filter (!·.name.isEmpty)).flatMap Window.parts ++ fieldParts [] s.orderBy

def Conflict.parts (excluded : List String) (c : Conflict) : List Node :=
  (if c.constraint.isSome || c.target.isEmpty then []
    else fieldParts excluded c.target ++ conditionParts excluded c.targetConditions) ++
  (if c.assignments.isEmpty then []
    else c.assignments.flatMap (·.parts excluded) ++ conditionParts [] c.resolutionConditions)

/-- The parts of an insertion without a mapper. -/
def Insert.parts (i : Insert) : List Node :=
  let excluded := (i.target.map Relation.qualifier).toList
  withParts i.ctes (i.select.toList.flatMap fun s => sourceCtes s.source s.joins) ++
    fieldParts excluded i.columns ++
    (if i.rows.isEmpty then i.select.toList.map .select
      else i.rows.flatten.map (.operand [])) ++
    i.conflict.toList.flatMap (·.parts excluded)

/-- The parts of an update without a mapper. -/
def Update.parts (u : Update) : List Node :=
  let excluded := (u.target.map Relation.qualifier).toList
  withParts u.ctes (sourceCtes u.source u.joins) ++
    u.assignments.flatMap (·.parts excluded) ++ sourceParts u.source u.joins ++
    conditionParts [] u.conditions ++ fieldParts [] u.orderBy

def Delete.parts (d : Delete) : List Node :=
  withParts d.ctes (sourceCtes d.source d.joins) ++ sourceParts d.source d.joins ++
    conditionParts [] d.conditions ++ fieldParts [] d.orderBy

namespace Node

/-- How the place is rendered. -/
def sql : Node → Fragment
  | operand excluded o => o.sql excluded
  | field excluded f => f.sql excluded
  | predicate excluded p only => p.sql excluded only
  | cte c => c.item.body ()
  | select s => s.sql
  | query q toplevel? => q.sql toplevel?

/-- Why the place is refused as a whole. -/
def refusal? : Node → Option Error
  | field _ (.searchedCase _ [] _) => some (.build "no predicate cases provided")
  | field _ (.simpleCase _ _ [] _) => some (.build "no value cases provided")
  | cte ⟨name, _, _, none, _⟩ => some (.build ("CTE " ++ name ++ " has no query"))
  | query q _ => q.refusal?
  | _ => none

/-- The places that rendering goes through next, in order. -/
def parts : Node → List Node
  | operand excluded (.field f) => [field excluded f]
  | operand _ (.query q) => [query q none]
  | operand _ _ => []
  | field excluded (.custom _ format operands) =>
    if format.isEmpty && operands.isEmpty then [] else formatParts excluded format operands
  | field _ (.literal _) => []
  | field _ (.param _ _) => []
  | field excluded (.typed f) => f.parts excluded
  | field excluded (.searchedCase _ branches fallback) =>
    (branches.flatMap fun b => [predicate excluded b.test false, operand excluded b.result]) ++
      fallback.toList.map (operand excluded)
  | field excluded (.simpleCase _ subject branches fallback) =>
    operand excluded subject ::
      (branches.flatMap fun b => [operand excluded b.test, operand excluded b.result]) ++
      fallback.toList.map (operand excluded)
  | field _ (.window w) => if w.name.isEmpty then w.parts else []
  | field excluded (.predicate p) => [predicate excluded p false]
  | predicate excluded (.custom _ format operands _) _ => formatParts excluded format operands
  | predicate excluded (.group _ _ _ members _) _ => conditionParts excluded members
  | predicate excluded (.boolean f) _ => f.parts excluded
  | cte c => c.body.toList.map (query · (some true))
  | select s => s.parts
  | query (.select _ s) _ => [select s]
  | query (.insert _ i) _ =>
    match i.explicit with
    | .ok i => i.parts
    | .error _ => []
  | query (.update _ u) _ =>
    match u.explicit with
    | .ok u => u.parts
    | .error _ => []
  | query (.delete _ d) _ => d.parts
  | query (.raw _ format operands) _ => formatParts [] format operands
  | query (.compound toplevel _ [q]) toplevel? => [query q (some (toplevel?.getD toplevel))]
  | query (.compound _ _ members) _ => members.map (query · none)

end Node

/-- Where the first of some places stops. -/
def firstStop (places : List Node) : Option Error := places.findSome? (·.sql.stop)

@[simp] theorem firstStop_nil : firstStop [] = none := rfl

@[simp] theorem firstStop_cons (x : Node) (rest : List Node) :
    firstStop (x :: rest) = x.sql.stop.or (firstStop rest) := by
  rw [firstStop, List.findSome?_cons]
  cases x.sql.stop <;> rfl

@[simp] theorem firstStop_append (xs ys : List Node) :
    firstStop (xs ++ ys) = (firstStop xs).or (firstStop ys) :=
  List.findSome?_append

theorem firstStop_map {α : Type} (f : α → Node) (l : List α) :
    firstStop (l.map f) = l.findSome? fun a => (f a).sql.stop := by
  rw [firstStop, List.findSome?_map]
  rfl

/-! ## The parts of expressions -/

theorem stop_fillSql (excluded : List String) : ∀ (tails : List (List Piece)) (os : List Operand),
    (fillSql excluded tails os).stop = firstStop ((os.take tails.length).map (.operand excluded))
  | tails, [] => by simp [fillSql, Template.leftover]
  | [], _ :: _ => rfl
  | tail :: tails, o :: os => by
      simp [fillSql, stop_append, stop_fillSql excluded tails os, Node.sql]

theorem stop_format (excluded : List String) (format : String) (operands : List Operand) :
    (ofPieces (Template.ofFormat format).head ++
      fillSql excluded (Template.ofFormat format).tails operands).stop =
        firstStop (formatParts excluded format operands) := by
  rw [stop_append, stop_ofPieces, Option.none_or, stop_fillSql, formatParts]

theorem stop_notSql (negated : Bool) : (notSql negated).stop = none :=
  stop_when_of_run rfl negated

theorem stop_aliasSql (aliasName : String) : (aliasSql aliasName).stop = none :=
  stop_when_of_run rfl _

theorem ColumnRef.stop_nameSql (excluded : List String) (c : ColumnRef) :
    (c.nameSql excluded).stop = none := by
  rw [nameSql, stop_append, stop_when_of_run rfl, stop_text, Option.none_or]

theorem ColumnRef.stop_modifiersSql (c : ColumnRef) : c.modifiersSql.stop = none := by
  rw [modifiersSql, stop_append]
  match c.order, c.nulls with
  | none, none => rfl
  | none, some .first => rfl
  | none, some .last => rfl
  | some .ascending, none => rfl
  | some .ascending, some .first => rfl
  | some .ascending, some .last => rfl
  | some .descending, none => rfl
  | some .descending, some .first => rfl
  | some .descending, some .last => rfl

theorem TypedField.stop_sql (excluded : List String) (f : TypedField) :
    (f.sql excluded).stop = firstStop (f.parts excluded) := by
  cases f with
  | column kind c negated =>
      rw [sql, stop_append, stop_append, stop_notSql, c.stop_nameSql, c.stop_modifiersSql]
      rfl
  | computed kind c format operands negated =>
      rw [sql, append_assoc (notSql negated), stop_append, stop_append, stop_notSql, stop_format,
        c.stop_modifiersSql, Option.none_or, Option.or_none, parts]

theorem findSome?_fieldsSql (excluded : List String) (fields : List Field) :
    (fieldsSql excluded fields).findSome? Fragment.stop =
      firstStop (fieldParts excluded fields) := by
  rw [fieldsSql_eq_map, List.findSome?_map, fieldParts, firstStop_map]
  rfl

theorem findSome?_projectionSql (excluded : List String) : ∀ fields : List Field,
    (projectionSql excluded fields).findSome? Fragment.stop =
      firstStop (fieldParts excluded fields)
  | [] => rfl
  | f :: rest => by
      rw [projectionSql, findSome?_stop_cons, stop_append, stop_aliasSql, Option.or_none,
        findSome?_projectionSql excluded rest]
      exact (firstStop_cons (.field excluded f) (fieldParts excluded rest)).symm

theorem findSome?_predicatesSql (excluded : List String) (ps : List Predicate) :
    (predicatesSql excluded ps).findSome? Fragment.stop =
      firstStop (ps.map (.predicate excluded · false)) := by
  rw [predicatesSql_eq_map, List.findSome?_map, firstStop_map]
  rfl

theorem stop_conditionsSql (keyword : String) (excluded : List String) (ps : List Predicate) :
    (conditionsSql keyword excluded ps).stop = firstStop (conditionParts excluded ps) := by
  match ps with
  | [] => rfl
  | [p] => simp [conditionsSql, conditionParts, stop_append, Node.sql]
  | p :: q :: rest =>
      have all := findSome?_predicatesSql excluded (p :: q :: rest)
      rw [conditionsSql, stop_append, stop_text, Option.none_or, stop_sepBy]
      exact all

theorem stop_group (excluded : List String) (toplevel : Bool) (aliasName : String)
    (op : LogicalOp) (members : List Predicate) (negated only : Bool) :
    ((Predicate.group toplevel aliasName op members negated).sql excluded only).stop =
      firstStop (conditionParts excluded members) := by
  match members with
  | [] => rfl
  | [p] =>
      rw [Predicate.sql_group_single, stop_append, stop_notSql, stop_parensIf]
      simp [conditionParts, Node.sql]
  | p :: q :: rest =>
      rw [Predicate.sql_group_many, stop_append, stop_notSql, stop_parensIf, stop_sepBy,
        findSome?_predicatesSql]
      rfl

theorem stop_windowSql (partitionBy orderBy : List Fragment) (frame : String) :
    (windowSql partitionBy orderBy frame).stop =
      (partitionBy.findSome? Fragment.stop).or (orderBy.findSome? Fragment.stop) := by
  have gap : (when (!partitionBy.isEmpty || !orderBy.isEmpty) (text " ") ++ text frame).stop =
      none := by
    rw [stop_append, stop_when_of_run rfl, stop_text, Option.none_or]
  simp only [windowSql, stop_append, stop_text, stop_clause, stop_when_of_run gap,
    stop_when_of_run (stop_text " "), Option.none_or, Option.or_none]

theorem Window.stop_definitionSql (w : Window) : w.definitionSql.stop = firstStop w.parts := by
  obtain ⟨name, partitionBy, orderBy, frame⟩ := w
  rw [definitionSql, stop_windowSql, findSome?_fieldsSql, findSome?_fieldsSql, parts,
    firstStop_append]

theorem Window.stop_sql (w : Window) :
    w.sql.stop = firstStop (if w.name.isEmpty then w.parts else []) := by
  obtain ⟨name, partitionBy, orderBy, frame⟩ := w
  have definition := stop_definitionSql ⟨name, partitionBy, orderBy, frame⟩
  rw [sql]
  cases h : name.isEmpty with
  | true =>
      rw [if_pos rfl, if_pos rfl]
      exact definition
  | false =>
      rw [if_neg Bool.false_ne_true, if_neg Bool.false_ne_true]
      rfl

theorem findSome?_windowsSql : ∀ ws : List Window, (windowsSql ws).findSome? Fragment.stop =
    firstStop ((ws.filter (!·.name.isEmpty)).flatMap Window.parts)
  | [] => rfl
  | w :: rest => by
      rw [windowsSql, List.filter_cons]
      cases h : w.name.isEmpty with
      | true => exact findSome?_windowsSql rest
      | false =>
          have own : (text w.name ++ text " AS " ++ w.definitionSql).stop = firstStop w.parts := by
            rw [stop_append, stop_append, stop_text, stop_text, Option.none_or, Option.none_or,
              w.stop_definitionSql]
          rw [if_neg Bool.false_ne_true, Bool.not_false, if_pos rfl, List.flatMap_cons,
            firstStop_append, ← findSome?_windowsSql rest, ← own, findSome?_stop_cons]

theorem Assignment.stop_sql (excluded : List String) (a : Assignment) :
    (a.sql excluded).stop = firstStop (a.parts excluded) := by
  obtain ⟨target, value⟩ := a
  simp [sql, parts, stop_append, Node.sql]

theorem findSome?_assignmentsSql (excluded : List String) (as : List Assignment) :
    (assignmentsSql excluded as).findSome? Fragment.stop =
      firstStop (as.flatMap (·.parts excluded)) := by
  induction as with
  | nil => rfl
  | cons a as ih =>
      rw [assignmentsSql, List.flatMap_cons, firstStop_append, ← ih, ← a.stop_sql excluded,
        findSome?_stop_cons]

theorem stop_searchedSql (excluded : List String) : ∀ branches : List SearchedBranch,
    (searchedSql excluded branches).stop = firstStop (branches.flatMap fun b =>
      [.predicate excluded b.test false, .operand excluded b.result])
  | [] => rfl
  | ⟨test, result⟩ :: rest => by
      rw [searchedSql, List.flatMap_cons, firstStop_append, ← stop_searchedSql excluded rest]
      simp [stop_append, Node.sql]

theorem stop_simpleSql (excluded : List String) : ∀ branches : List SimpleBranch,
    (simpleSql excluded branches).stop = firstStop (branches.flatMap fun b =>
      [.operand excluded b.test, .operand excluded b.result])
  | [] => rfl
  | ⟨test, result⟩ :: rest => by
      rw [simpleSql, List.flatMap_cons, firstStop_append, ← stop_simpleSql excluded rest]
      simp [stop_append, Node.sql]

theorem stop_fallbackSql (excluded : List String) (fallback : Option Operand) :
    (fallbackSql excluded fallback).stop =
      firstStop (fallback.toList.map (.operand excluded)) := by
  cases fallback <;> simp [fallbackSql, stop_append, Node.sql]

/-! ## The parts of clauses -/

theorem cteItems_eq_map : ∀ cs : List Cte, cteItems cs = cs.map Cte.item
  | [] => rfl
  | c :: cs => congrArg (c.item :: ·) (cteItems_eq_map cs)

theorem Table.items_eq_map (t : Table) : t.items = t.ctes.map Cte.item := by
  cases t <;> rfl

theorem joinItems_eq_map : ∀ js : List Join,
    joinItems js = (js.flatMap (·.table.ctes)).map Cte.item
  | [] => rfl
  | ⟨kind, table, on⟩ :: rest => by
      rw [joinItems, Join.items, List.flatMap_cons, List.map_append, table.items_eq_map,
        joinItems_eq_map rest]

theorem sourceItems_eq_map (source : Option Table) (joins : List Join) :
    sourceItems source ++ joinItems joins = (sourceCtes source joins).map Cte.item := by
  rw [sourceCtes, List.map_append, joinItems_eq_map]
  cases source with
  | none => rfl
  | some t => simp [sourceItems, t.items_eq_map]

theorem Cte.name_item (c : Cte) : c.item.name = c.name := by
  obtain ⟨name, aliasName, columns, body, isRecursive⟩ := c
  rfl

theorem firsts_eq_map : ∀ (seen : List String) (cs : List Cte),
    WithItem.firsts seen (cs.map Cte.item) = (firstCtes seen cs).map Cte.item
  | _, [] => rfl
  | seen, c :: rest => by
      rw [List.map_cons, WithItem.firsts, firstCtes, c.name_item]
      split
      · exact firsts_eq_map seen rest
      · rw [List.map_cons, firsts_eq_map (c.name :: seen) rest]

theorem WithItem.stop_sql (item : WithItem) : item.sql.stop = (item.body ()).stop := by
  have columns : (text " (" ++ text (String.intercalate ", " item.columns) ++ text ")").stop =
      none := rfl
  simp only [sql, stop_append, stop_text, stop_when_of_run columns, Option.none_or, Option.or_none]

theorem stop_withClause (own tables : List Cte) :
    (WithItem.clause (cteItems own) (tables.map Cte.item)).stop =
      firstStop (withParts own tables) := by
  rw [WithItem.clause, withParts, cteItems_eq_map, List.isEmpty_map]
  split
  · rfl
  · simp only [← List.map_append, firsts_eq_map, stop_append, stop_text, stop_commaList,
      List.findSome?_map, firstStop_map, Option.none_or, Option.or_none]
    congr 1
    funext c
    exact c.item.stop_sql

theorem Relation.stop_sql (r : Relation) : r.sql.stop = none := by
  have schema : (text r.schema ++ text ".").stop = none := rfl
  rw [sql, stop_append, stop_when_of_run schema, stop_text, Option.none_or]

theorem Relation.stop_targetSql (r : Relation) : r.targetSql.stop = none := by
  rw [targetSql, stop_append, r.stop_sql, stop_aliasSql, Option.none_or]

theorem Table.stop_sourceSql (t : Table) : t.sourceSql.stop = firstStop t.parts := by
  cases t with
  | relation r =>
      rw [sourceSql, stop_append, r.stop_sql, stop_aliasSql]
      rfl
  | cte c =>
      rw [sourceSql, stop_append, stop_text, stop_aliasSql]
      rfl
  | derived s =>
      obtain ⟨aliasName, query⟩ := s
      rw [sourceSql, stop_append, stop_parens, stop_aliasSql]
      simp [parts, Subquery.bodySql, Node.sql]

theorem stop_sourceSql (keyword : String) (source : Option Table) :
    (sourceSql keyword source).stop = firstStop (source.toList.flatMap Table.parts) := by
  cases source with
  | none => rfl
  | some t => simp [sourceSql, stop_append, t.stop_sourceSql]

theorem Join.stop_sql (j : Join) :
    j.sql.stop = firstStop (j.table.parts ++ conditionParts [] j.on) := by
  obtain ⟨kind, table, on⟩ := j
  simp [sql, stop_append, table.stop_sourceSql, stop_conditionsSql]

theorem stop_joinsSql : ∀ js : List Join, (joinsSql js).stop =
    firstStop (js.flatMap fun j => j.table.parts ++ conditionParts [] j.on)
  | [] => rfl
  | j :: rest => by
      rw [joinsSql, List.flatMap_cons, firstStop_append, stop_append, stop_append, stop_text,
        Option.none_or, j.stop_sql, stop_joinsSql rest]

theorem stop_countSql (keyword : String) (count : Option Int64) :
    (countSql keyword count).stop = none := by
  cases count <;> rfl

theorem Conflict.stop_sql (excluded : List String) (c : Conflict) :
    (c.sql excluded).stop = firstStop (c.parts excluded) := by
  obtain ⟨target, constraint, targetConditions, assignments, resolutionConditions⟩ := c
  simp only [sql, stop_append, stop_text, Option.none_or, parts, firstStop_append]
  congr 1
  · cases constraint with
    | some name => rfl
    | none =>
        cases target with
        | nil => rfl
        | cons f rest =>
            simp only [List.isEmpty_cons, Bool.false_eq_true, ↓reduceIte, stop_append, stop_text,
              stop_commaList, findSome?_fieldsSql, stop_conditionsSql, Option.none_or,
              Option.or_none, Option.isSome_none, Bool.or_self, firstStop_append]
  · cases assignments with
    | nil => rfl
    | cons a rest =>
        simp only [List.isEmpty_cons, Bool.false_eq_true, ↓reduceIte, stop_append, stop_text,
          stop_commaList, findSome?_assignmentsSql, stop_conditionsSql, Option.none_or,
          firstStop_append]

theorem Select.stop_sql (s : Select) : s.sql.stop = firstStop s.parts := by
  obtain ⟨ctes, distinct, distinctOn, fields, source, joins, conditions, groupBy, having, windows,
    orderBy, limit, withTies, offset⟩ := s
  have distinction : (if distinctOn.isEmpty then when distinct (text "DISTINCT ")
      else text "DISTINCT ON (" ++ commaList (fieldsSql [] distinctOn) ++ text ") ").stop =
        firstStop (fieldParts [] distinctOn) := by
    cases distinctOn with
    | nil => exact stop_when_of_run rfl distinct
    | cons f rest =>
        simp only [List.isEmpty_cons, Bool.false_eq_true, ↓reduceIte, stop_append, stop_text,
          stop_commaList, findSome?_fieldsSql, Option.none_or, Option.or_none]
  have projection : (if fields.isEmpty then text "1"
      else commaList (projectionSql [] fields)).stop = firstStop (fieldParts [] fields) := by
    cases fields with
    | nil => rfl
    | cons f rest =>
        rw [List.isEmpty_cons, if_neg Bool.false_ne_true, stop_commaList, findSome?_projectionSql]
  have ties := stop_when_of_run (stop_text " WITH TIES") (withTies && limit.isSome)
  simp only [sql, sourceItems_eq_map, stop_append, stop_withClause, stop_text, distinction,
    projection, stop_sourceSql, stop_joinsSql, stop_conditionsSql, stop_clause,
    findSome?_fieldsSql, findSome?_windowsSql, stop_countSql, ties, parts, sourceParts,
    firstStop_append, Option.or_none, Option.or_assoc]

/-! ## The parts of statements -/

theorem Select.items_eq_map (s : Select) :
    s.items = (sourceCtes s.source s.joins).map Cte.item := by
  obtain ⟨ctes, distinct, distinctOn, fields, source, joins, conditions, groupBy, having, windows,
    orderBy, limit, withTies, offset⟩ := s
  exact sourceItems_eq_map source joins

theorem selectItems_eq_map (s? : Option Select) :
    selectItems s? = (s?.toList.flatMap fun s => sourceCtes s.source s.joins).map Cte.item := by
  cases s? with
  | none => rfl
  | some s => simp [selectItems, s.items_eq_map]

theorem stop_operands (rows : List (List Operand)) :
    ((rowsSql rows).map rowSql).findSome? Fragment.stop =
      firstStop (rows.flatten.map (.operand [])) := by
  induction rows with
  | nil => rfl
  | cons row rows ih =>
      have own : (rowSql (operandsSql row)).stop = firstStop (row.map (.operand [])) := by
        rw [rowSql, stop_parens, stop_commaList, operandsSql_eq_map, List.findSome?_map,
          firstStop_map]
        rfl
      rw [rowsSql, List.map_cons, findSome?_stop_cons, own, ih, List.flatten_cons, List.map_append,
        firstStop_append]

/-- What follows the assignments of an update and the target of a
deletion. -/
theorem stop_changeClauses (keyword : String) (source : Option Table) (joins : List Join)
    (conditions : List Predicate) (orderBy : List Field) (limit offset : Option Int64) :
    (sourceSql keyword source ++ joinsSql joins ++ conditionsSql " WHERE " [] conditions ++
        clause " ORDER BY " (fieldsSql [] orderBy) ++ countSql " LIMIT " limit ++
        countSql " OFFSET " offset).stop =
      firstStop (sourceParts source joins ++ conditionParts [] conditions ++
        fieldParts [] orderBy) := by
  simp only [stop_append, stop_sourceSql, stop_joinsSql, stop_conditionsSql, stop_clause,
    findSome?_fieldsSql, stop_countSql, sourceParts, firstStop_append, Option.or_none]

theorem isEmpty_rowsSql (rows : List (List Operand)) : (rowsSql rows).isEmpty = rows.isEmpty := by
  cases rows <;> rfl

theorem isNone_selectSql (s? : Option Select) : (selectSql s?).isNone = s?.isNone := by
  cases s? <;> rfl

theorem stop_columns (excluded : List String) (columns : List Field) :
    (when (!(fieldsSql excluded columns).isEmpty)
      (text " (" ++ commaList (fieldsSql excluded columns) ++ text ")")).stop =
        firstStop (fieldParts excluded columns) := by
  cases columns with
  | nil => rfl
  | cons f rest =>
      have listed : (text " (" ++ commaList (fieldsSql excluded (f :: rest)) ++ text ")").stop =
          firstStop (fieldParts excluded (f :: rest)) := by
        rw [stop_append, stop_append, stop_text, stop_text, stop_commaList, findSome?_fieldsSql,
          Option.none_or, Option.or_none]
      exact listed

theorem stop_insertSource (rows : List (List Operand)) (select : Option Select) :
    (if !(rowsSql rows).isEmpty then text " VALUES " ++ commaList ((rowsSql rows).map rowSql)
      else
        match selectSql select with
        | some select => text " " ++ select
        | none => empty).stop =
      firstStop (if rows.isEmpty then select.toList.map .select
        else rows.flatten.map (.operand [])) := by
  rw [isEmpty_rowsSql]
  cases rows with
  | nil =>
      cases select with
      | none => rfl
      | some s => simp [selectSql, stop_append, Node.sql]
  | cons row rows =>
      have values := stop_operands (row :: rows)
      simp only [List.isEmpty_cons, Bool.not_false, Bool.false_eq_true, ↓reduceIte, stop_append,
        stop_text, stop_commaList, values, Option.none_or]

theorem stop_conflictSql (excluded : List String) (c? : Option Conflict) :
    (conflictSql excluded c?).stop = firstStop (c?.toList.flatMap (·.parts excluded)) := by
  cases c? with
  | none => rfl
  | some c => simp [conflictSql, c.stop_sql]

namespace Insert

/-- An insertion without a mapper is refused before anything is written, or
written from its parts. -/
theorem sql_of_lack {i : Insert} (static : i.mapper = none) {e : Error} (h : i.lack? = some e) :
    i.sql = fail e := by
  obtain ⟨ctes, target, columns, rows, mapper, select, conflict⟩ := i
  cases static
  simp only [lack?] at h
  simp only [sql, runMapper, InsertParts.sql, isEmpty_rowsSql, isNone_selectSql]
  cases target with
  | none =>
      cases h
      rfl
  | some r =>
      simp only [Option.isNone_some, Bool.false_eq_true, ↓reduceIte] at h
      split at h
      case isTrue without =>
          cases h
          simp only [without, ↓reduceIte]
      case isFalse => cases h

theorem stop_sql_of_run {i : Insert} (static : i.mapper = none) (h : i.lack? = none) :
    i.sql.stop = firstStop i.parts := by
  obtain ⟨ctes, target, columns, rows, mapper, select, conflict⟩ := i
  cases static
  simp only [lack?] at h
  cases target with
  | none => cases h
  | some r =>
      simp only [Option.isNone_some, Bool.false_eq_true, ↓reduceIte] at h
      split at h
      case isTrue => cases h
      case isFalse source =>
          -- Rendering looks at the rendered rows and selection, of which there are as many.
          rw [← isEmpty_rowsSql, ← isNone_selectSql] at source
          simp only [sql, runMapper, InsertParts.sql, if_neg source, stop_append,
            selectItems_eq_map, stop_withClause, stop_text, r.stop_targetSql, stop_columns,
            stop_conflictSql, parts, firstStop_append, Option.or_none]
          refine congrArg₂ Option.or (congrArg (Option.or _) ?_) rfl
          exact stop_insertSource rows select

theorem mapper_explicit {i j : Insert} (h : i.explicit = .ok j) : j.mapper = none := by
  obtain ⟨columns, rows, rfl⟩ := eq_of_explicit h
  rfl

end Insert

namespace Update

theorem sql_of_lack {u : Update} (static : u.mapper = none) {e : Error} (h : u.lack? = some e) :
    u.sql = fail e := by
  obtain ⟨ctes, target, assignments, mapper, source, joins, conditions, orderBy, limit, offset⟩ := u
  cases static
  simp only [lack?] at h
  simp only [sql, runMapper, UpdateParts.sql]
  cases target with
  | none =>
      cases h
      rfl
  | some r =>
      cases assignments with
      | nil =>
          cases h
          rfl
      | cons a rest => cases h

theorem stop_sql_of_run {u : Update} (static : u.mapper = none) (h : u.lack? = none) :
    u.sql.stop = firstStop u.parts := by
  obtain ⟨ctes, target, assignments, mapper, source, joins, conditions, orderBy, limit, offset⟩ := u
  cases static
  cases target with
  | none => cases h
  | some r =>
      cases assignments with
      | nil => cases h
      | cons a rest =>
          have given : (assignmentsSql ((some r).map Relation.qualifier).toList
              (a :: rest)).isEmpty = false := rfl
          simp only [sql, runMapper, UpdateParts.sql, given, Bool.false_eq_true, ↓reduceIte]
          rw [stop_append, stop_changeClauses]
          simp only [stop_append, sourceItems_eq_map, stop_withClause, stop_text, r.stop_targetSql,
            stop_commaList, findSome?_assignmentsSql, parts, firstStop_append, Option.or_none,
            Option.or_assoc]

theorem mapper_explicit {u v : Update} (h : u.explicit = .ok v) : v.mapper = none := by
  obtain ⟨assignments, rfl⟩ := eq_of_explicit h
  rfl

end Update

namespace Delete

theorem sql_of_refusal {d : Delete} {e : Error} (h : d.refusal? = some e) : d.sql = fail e := by
  obtain ⟨ctes, target, source, joins, conditions, orderBy, limit, offset⟩ := d
  simp only [refusal?] at h
  simp only [sql, deleteSql]
  cases target with
  | none =>
      cases h
      rfl
  | some r =>
      rw [Option.not_isSome]
      simp only [Option.isNone_some, Bool.false_eq_true, ↓reduceIte] at h
      split at h
      case isTrue joined =>
          cases h
          simp only [joined, ↓reduceIte]
      case isFalse => cases h

theorem stop_sql_of_run {d : Delete} (h : d.refusal? = none) : d.sql.stop = firstStop d.parts := by
  obtain ⟨ctes, target, source, joins, conditions, orderBy, limit, offset⟩ := d
  simp only [refusal?] at h
  cases target with
  | none => cases h
  | some r =>
      simp only [Option.isNone_some, Bool.false_eq_true, ↓reduceIte] at h
      split at h
      case isTrue => cases h
      case isFalse joined =>
          rw [← Option.not_isSome] at joined
          simp only [sql, deleteSql, if_neg joined]
          rw [stop_append, stop_changeClauses]
          simp only [stop_append, sourceItems_eq_map, stop_withClause, stop_text, r.stop_targetSql,
            parts, firstStop_append, Option.or_none, Option.or_assoc]

end Delete

/-- A refused statement has nothing written of it. -/
theorem Query.sql_of_refusal {q : Query} {e : Error} (h : q.refusal? = some e)
    (toplevel? : Option Bool) : q.sql toplevel? = fail e := by
  cases q with
  | insert d i =>
      change i.refusal? = some e at h
      rw [Insert.refusal?] at h
      rw [sql, i.sql_explicit]
      cases given : i.explicit with
      | error e' =>
          rw [given] at h
          cases h
          rfl
      | ok j =>
          rw [given] at h
          exact Insert.sql_of_lack (Insert.mapper_explicit given) h
  | update d u =>
      change u.refusal? = some e at h
      rw [Update.refusal?] at h
      rw [sql, u.sql_explicit]
      cases given : u.explicit with
      | error e' =>
          rw [given] at h
          cases h
          rfl
      | ok v =>
          rw [given] at h
          exact Update.sql_of_lack (Update.mapper_explicit given) h
  | delete d deletion => exact deletion.sql_of_refusal h
  | select d s => cases h
  | raw d format operands => cases h
  | compound toplevel op members => cases h

theorem stop_membersSql (op : SetOperator) : ∀ members : List Query,
    (membersSql op members).stop = firstStop (members.map (.query · none))
  | [] => rfl
  | q :: rest => by
      simp [membersSql, SetOperator.memberSql, stop_append, stop_membersSql op rest, Node.sql]

theorem stop_compound (toplevel : Bool) (op : SetOperator) (members : List Query)
    (toplevel? : Option Bool) :
    ((Query.compound toplevel op members).sql toplevel?).stop =
      firstStop (Node.query (.compound toplevel op members) toplevel?).parts := by
  match members with
  | [] => rfl
  | [q] => simp [Query.sql, Node.parts, Node.sql]
  | p :: q :: rest =>
      have all := stop_membersSql op (q :: rest)
      rw [membersSql] at all
      rw [Query.sql, stop_parensIf, append_assoc, stop_append, all]
      exact (firstStop_cons (.query p none) ((q :: rest).map (.query · none))).symm

/-- A statement that is not refused stops where the first of its parts
does. -/
theorem Query.stop_sql_of_run {q : Query} (h : q.refusal? = none) (toplevel? : Option Bool) :
    (q.sql toplevel?).stop = firstStop (Node.query q toplevel?).parts := by
  cases q with
  | select d s => simp [sql, Node.parts, Node.sql]
  | insert d i =>
      change i.refusal? = none at h
      rw [Insert.refusal?] at h
      rw [sql, i.sql_explicit, Node.parts]
      cases given : i.explicit with
      | error e =>
          rw [given] at h
          cases h
      | ok j =>
          rw [given] at h
          exact Insert.stop_sql_of_run (Insert.mapper_explicit given) h
  | update d u =>
      change u.refusal? = none at h
      rw [Update.refusal?] at h
      rw [sql, u.sql_explicit, Node.parts]
      cases given : u.explicit with
      | error e =>
          rw [given] at h
          cases h
      | ok v =>
          rw [given] at h
          exact Update.stop_sql_of_run (Update.mapper_explicit given) h
  | delete d deletion => exact deletion.stop_sql_of_run h
  | raw d format operands => exact stop_format [] format operands
  | compound toplevel op members => exact stop_compound toplevel op members toplevel?

namespace Node

theorem stop_sql_operand (excluded : List String) (o : Operand) :
    (o.sql excluded).stop = firstStop (operand excluded o).parts := by
  cases o with
  | null => rfl
  | scalar v => rfl
  | field f => simp [Operand.sql, parts, sql]
  | query q => simp [Operand.sql, parts, sql]
  | slice items =>
      cases items with
      | nil => rfl
      | cons v vs =>
          have args : ∀ vs : List Scalar, (vs.map arg).findSome? Fragment.stop = none := by
            intro vs
            induction vs with
            | nil => rfl
            | cons v vs ih => rw [List.map_cons, findSome?_stop_cons, ih, stop_arg, Option.none_or]
          rw [Operand.sql, stop_commaList, args]
          rfl

theorem stop_sql_field (excluded : List String) (f : Field) :
    (f.sql excluded).stop = (field excluded f).refusal?.or (firstStop (field excluded f).parts) := by
  cases f with
  | custom c format operands =>
      rw [Field.sql, parts]
      split
      · split
        · rfl
        · rw [stop_append, c.stop_nameSql, c.stop_modifiersSql]
          rfl
      · rw [stop_append, stop_format, c.stop_modifiersSql, Option.or_none]
        rfl
  | literal s => rfl
  | param name v => rfl
  | typed f => exact f.stop_sql excluded
  | searchedCase aliasName branches fallback =>
      cases branches with
      | nil => rfl
      | cons b rest =>
          rw [Field.sql, List.isEmpty_cons, if_neg Bool.false_ne_true, stop_append, stop_append,
            stop_text, Option.none_or, stop_searchedSql, stop_fallbackSql, ← firstStop_append]
          rfl
  | simpleCase aliasName subject branches fallback =>
      cases branches with
      | nil => rfl
      | cons b rest =>
          rw [Field.sql, List.isEmpty_cons, if_neg Bool.false_ne_true, stop_append, stop_append,
            stop_append, stop_text, Option.none_or, stop_simpleSql, stop_fallbackSql,
            Option.or_assoc, ← firstStop_append]
          exact (firstStop_cons (operand excluded subject) _).symm
  | window w => exact w.stop_sql
  | predicate p => simp [Field.sql, parts, sql, refusal?]

/-- A place that is not refused stops where the first of its parts does. -/
theorem stop_sql (x : Node) : x.sql.stop = x.refusal?.or (firstStop x.parts) := by
  cases x with
  | operand excluded o => exact stop_sql_operand excluded o
  | field excluded f => exact stop_sql_field excluded f
  | predicate excluded p only =>
      cases p with
      | custom aliasName format operands negated =>
          rw [sql, Predicate.sql, append_assoc, stop_append, stop_notSql, Option.none_or,
            stop_format]
          rfl
      | group toplevel aliasName op members negated =>
          exact stop_group excluded toplevel aliasName op members negated only
      | boolean f => exact f.stop_sql excluded
  | cte c =>
      obtain ⟨name, aliasName, columns, body, isRecursive⟩ := c
      cases body with
      | none => rfl
      | some q => simp [sql, Cte.item, bodySql, refusal?, parts]
  | select s => exact s.stop_sql
  | query q toplevel? =>
      rw [sql, refusal?]
      cases h : q.refusal? with
      | none => exact Query.stop_sql_of_run h toplevel?
      | some e => rw [Query.sql_of_refusal h toplevel?, stop_fail, Option.some_or]

/-! ## Errors on their way out -/

/-- Rendering one place comes to another next: nothing before it stops. -/
def Comes (x y : Node) : Prop :=
  x.refusal? = none ∧ ∃ before after, x.parts = before ++ y :: after ∧ firstStop before = none

/-- Rendering one place comes to another, through any number of others. -/
def Reaches (x y : Node) : Prop := Relation.ReflTransGen Comes x y

/-- One place is a part of another, through any number of others. -/
def Contains (x y : Node) : Prop := Relation.ReflTransGen (fun x y => y ∈ x.parts) x y

theorem Comes.stop_sql {x y : Node} (h : Comes x y) {e : Error} (stop : y.sql.stop = some e) :
    x.sql.stop = some e := by
  obtain ⟨accepted, before, after, parts, run⟩ := h
  rw [Node.stop_sql, accepted, parts, firstStop_append, run, firstStop_cons, stop]
  rfl

/-- Where rendering comes to a place, the error of the place is that of the
whole. -/
theorem Reaches.stop_sql {x y : Node} (h : Reaches x y) {e : Error} (stop : y.sql.stop = some e) :
    x.sql.stop = some e := by
  induction h with
  | refl => exact stop
  | tail _ comes ih => exact ih (comes.stop_sql stop)

theorem firstStop_ne_none {places : List Node} {y : Node} (h : y ∈ places)
    (stop : y.sql.stop ≠ none) : firstStop places ≠ none := by
  rw [firstStop, ne_eq, List.findSome?_eq_none_iff]
  intro all
  exact stop (all y h)

/-- Nothing is written to its end that has a part which is not. -/
theorem Contains.stop_sql {x y : Node} (h : Contains x y) (stop : y.sql.stop ≠ none) :
    x.sql.stop ≠ none := by
  induction h with
  | refl => exact stop
  | tail _ mem ih =>
      refine ih ?_
      rw [Node.stop_sql, ne_eq, Option.or_eq_none_iff]
      rintro ⟨-, run⟩
      exact firstStop_ne_none mem stop run

end Node

namespace Query

theorem toSql_of_stop {q : Query} {e : Error} (h : q.statementSql.stop = some e) :
    q.toSql = .error e := by
  rw [toSql, Fragment.build, h]

/-- What a mapper has to say of its statement. Until it is known that the
statement can be written, nothing is written; a mapper that succeeds might
as well have been replaced by what it gives; and a statement that is refused
is refused wherever it stands: rendering that comes to it ends in its error,
and nothing is built around it. -/
theorem mapped_or_refused :
    (∀ (i : Insert) (steps : List MapperStep) (w : Writer),
      w.write (Insert.sql { i with mapper := some steps }) =
        match (stepsMapping .insert steps).insertion with
        | .error e => (w, some e)
        | .ok (columns, rows) => w.write (Insert.sql { i with columns, rows, mapper := none })) ∧
    (∀ (u : Update) (steps : List MapperStep) (w : Writer),
      w.write (Update.sql { u with mapper := some steps }) =
        match (stepsMapping .update steps).assignments with
        | .error e => (w, some e)
        | .ok assignments => w.write (Update.sql { u with assignments, mapper := none })) ∧
    (∀ (q : Query) (e : Error), q.refusal? = some e →
      (∀ (w : Writer) (toplevel? : Option Bool), w.write (q.sql toplevel?) = (w, some e)) ∧
      ∀ (outer : Query) (toplevel? : Option Bool),
        (Node.Reaches (.query outer (some true)) (.query q toplevel?) → outer.toSql = .error e) ∧
        (Node.Contains (.query outer (some true)) (.query q toplevel?) →
          ∃ e', outer.toSql = .error e')) := by
  refine ⟨?_, ?_, ?_⟩
  · intro i steps w
    rw [i.sql_mapper]
    cases (stepsMapping .insert steps).insertion with
    | error e => exact w.write_fail e
    | ok parts => rfl
  · intro u steps w
    rw [u.sql_mapper]
    cases (stepsMapping .update steps).assignments with
    | error e => exact w.write_fail e
    | ok assignments => rfl
  · intro q e refused
    refine ⟨?_, ?_⟩
    · intro w toplevel?
      rw [q.sql_of_refusal refused]
      exact w.write_fail e
    · intro outer toplevel?
      have stop : (Node.query q toplevel?).sql.stop = some e := by
        rw [Node.sql, q.sql_of_refusal refused, stop_fail]
      refine ⟨fun reaches => toSql_of_stop (reaches.stop_sql stop), fun contains => ?_⟩
      have stops := contains.stop_sql (by rw [stop]; exact nofun)
      obtain ⟨e', stop'⟩ := Option.ne_none_iff_exists'.mp stops
      exact ⟨e', toSql_of_stop stop'⟩

/-- An insertion whose mapper fails, as an operand in the body of a
definition. Its missing target is not what is reported. -/
theorem mapped_or_refused_nested :
    let failing := insert .sqlite { Insert.empty with
      mapper := some [.set (.column "" "a") (.scalar (.int 1)), .fail (.domain "no such user")] }
    let body := select .sqlite { Select.empty with
      fields := [.custom { name := "id" } "(?)" [.query failing]] }
    let outer := select .sqlite { Select.empty with ctes := [⟨"c", "", [], some body, false⟩] }
    failing.refusal? = some (.domain "no such user") ∧
      outer.toSql = .error (.domain "no such user") := by
  intro failing body outer
  have refused : failing.refusal? = some (.domain "no such user") := rfl
  have next : ∀ {x y : Node} {after : List Node}, x.refusal? = none → x.parts = y :: after →
      Node.Comes x y := fun accepted parts => ⟨accepted, [], _, parts, rfl⟩
  -- Every place on the way is the first part of the one around it.
  have inside : Node.Reaches (.query body (some true)) (.query failing none) :=
    .head (next rfl rfl) (.head (next rfl rfl) (.head (next rfl rfl) (.single (next rfl rfl))))
  have reaches : Node.Reaches (.query outer (some true)) (.query failing none) :=
    .head (next rfl rfl) (.head (next rfl rfl) (.head (next rfl rfl) inside))
  exact ⟨refused, ((mapped_or_refused.2.2 failing _ refused).2 outer none).1 reaches⟩

end Query

end SqlCompose
