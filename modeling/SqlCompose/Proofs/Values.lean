import SqlCompose.Proofs.Stops

/-!
# Values of named arguments

A statement may carry arguments under a name, anywhere in it.
`Query.mapParams` gives each of them another value, which may depend on the
name and on the value it has. Nothing else of the statement changes: what
is refused, which definitions are kept, which column a mapper fills and
where parentheses stand does not depend on these values.

So the statement with other values is written as before, with the same
change made in the written pieces (`Query.sql_mapParams`).
`Fragment.mapNamed` makes that change, and goes through everything that
fragments are put together with.
-/

namespace SqlCompose

open Fragment

variable (g : String → Scalar → Scalar)

/-! ## Pieces -/

/-- Changes the value of a named argument. -/
def Piece.mapNamed : Piece → Piece
  | text s => text s
  | arg none v => arg none v
  | arg (some name) v => arg (some name) (g name v)

namespace Fragment

/-- Changes the values of all named arguments. -/
def mapNamed (a : Fragment) : Fragment := ⟨a.pieces.map (·.mapNamed g), a.stop⟩

@[simp] theorem mapNamed_empty : empty.mapNamed g = empty := rfl

@[simp] theorem mapNamed_fail (e : Error) : (fail e).mapNamed g = fail e := rfl

@[simp] theorem mapNamed_text (s : String) : (text s).mapNamed g = text s := rfl

@[simp] theorem mapNamed_arg (v : Scalar) : (arg v).mapNamed g = arg v := rfl

@[simp] theorem mapNamed_namedArg (name : String) (v : Scalar) :
    (namedArg name v).mapNamed g = namedArg name (g name v) := rfl

@[simp] theorem mapNamed_append (a b : Fragment) :
    (a ++ b).mapNamed g = a.mapNamed g ++ b.mapNamed g := by
  cases h : a.stop with
  | none =>
      have hmapped : (a.mapNamed g).stop = none := h
      rw [append_of_run h, append_of_run hmapped, mapNamed, List.map_append]
      rfl
  | some e =>
      have hmapped : (a.mapNamed g).stop = some e := h
      rw [append_of_stop h, append_of_stop hmapped]

@[simp] theorem mapNamed_when (keep : Bool) (a : Fragment) :
    (when keep a).mapNamed g = when keep (a.mapNamed g) := by
  cases keep <;> rfl

@[simp] theorem mapNamed_parens (a : Fragment) :
    (parens a).mapNamed g = parens (a.mapNamed g) := by
  rw [parens, mapNamed_append, mapNamed_append]
  rfl

@[simp] theorem mapNamed_parensIf (wrap : Bool) (a : Fragment) :
    (parensIf wrap a).mapNamed g = parensIf wrap (a.mapNamed g) := by
  cases wrap with
  | false => rfl
  | true => exact mapNamed_parens g a

@[simp] theorem mapNamed_sepBy (separator : String) : ∀ items : List Fragment,
    (sepBy separator items).mapNamed g = sepBy separator (items.map (mapNamed g))
  | [] => rfl
  | [a] => rfl
  | a :: b :: rest => by
      rw [sepBy_cons_cons, mapNamed_append, mapNamed_append, mapNamed_sepBy separator (b :: rest)]
      rfl

@[simp] theorem mapNamed_commaList (items : List Fragment) :
    (commaList items).mapNamed g = commaList (items.map (mapNamed g)) :=
  mapNamed_sepBy g ", " items

@[simp] theorem mapNamed_clause (keyword : String) (items : List Fragment) :
    (clause keyword items).mapNamed g = clause keyword (items.map (mapNamed g)) := by
  cases items with
  | nil => rfl
  | cons a rest =>
      have hclause : ∀ b rest, clause keyword (b :: rest) = text keyword ++ commaList (b :: rest) :=
        fun _ _ => rfl
      rw [hclause, mapNamed_append, mapNamed_commaList, List.map_cons, hclause, mapNamed_text]

end Fragment

/-! ## Templates -/

namespace Template

theorem map_flush (reversed : List Char) : (flush reversed).map (·.mapNamed g) = flush reversed := by
  rw [flush]
  split <;> rfl

/-- The pieces of a format have no arguments. -/
theorem map_ofMarks (ms : List Mark) (reversed : List Char) :
    (ofMarks reversed ms).head.map (·.mapNamed g) = (ofMarks reversed ms).head ∧
      (ofMarks reversed ms).tails.map (·.map (·.mapNamed g)) = (ofMarks reversed ms).tails := by
  induction ms generalizing reversed with
  | nil => exact ⟨map_flush g reversed, rfl⟩
  | cons m ms ih =>
      cases m with
      | char c => exact ih (c :: reversed)
      | question =>
          obtain ⟨hhead, htails⟩ := ih []
          refine ⟨?_, htails⟩
          rw [ofMarks, List.map_append, map_flush, List.map_cons, hhead]
          rfl
      | place =>
          obtain ⟨hhead, htails⟩ := ih []
          refine ⟨map_flush g reversed, ?_⟩
          rw [ofMarks, List.map_cons, hhead, htails]

theorem mapNamed_leftover (tails : List (List Piece)) :
    (leftover tails).mapNamed g = leftover (tails.map (·.map (·.mapNamed g))) := by
  have hpieces : (tails.flatMap fun tail => .text "?" :: tail).map (·.mapNamed g) =
      (tails.map (·.map (·.mapNamed g))).flatMap fun tail => Piece.text "?" :: tail := by
    rw [List.map_flatMap, List.flatMap_map]
    rfl
  exact congrArg (Fragment.mk · none) hpieces

end Template

/-- Operands that are filled in alike are filled in alike into a format. -/
theorem format_mapNamed {excluded : List String} {os os' : List Operand}
    (h : ∀ tails, fillSql excluded (tails.map (·.map (·.mapNamed g))) os' =
      (fillSql excluded tails os).mapNamed g) (format : String) :
    ofPieces (Template.ofFormat format).head ++
        fillSql excluded (Template.ofFormat format).tails os' =
      (ofPieces (Template.ofFormat format).head ++
        fillSql excluded (Template.ofFormat format).tails os).mapNamed g := by
  obtain ⟨hhead, htails⟩ := Template.map_ofMarks g (Mark.ofText format) []
  have hfill := h (Template.ofFormat format).tails
  have hpieces : (ofPieces (Template.ofFormat format).head).mapNamed g =
      ofPieces (Template.ofFormat format).head := congrArg ofPieces hhead
  rw [Template.ofFormat] at hfill ⊢
  rw [htails] at hfill
  rw [mapNamed_append, hfill]
  exact congrArg (· ++ _) hpieces.symm

/-! ## Clauses -/

@[simp] theorem mapNamed_notSql (negated : Bool) : (notSql negated).mapNamed g = notSql negated :=
  mapNamed_when g negated _

@[simp] theorem mapNamed_aliasSql (aliasName : String) :
    (aliasSql aliasName).mapNamed g = aliasSql aliasName := by
  rw [aliasSql, mapNamed_when, mapNamed_append]
  rfl

@[simp] theorem ColumnRef.mapNamed_nameSql (excluded : List String) (c : ColumnRef) :
    (c.nameSql excluded).mapNamed g = c.nameSql excluded := by
  rw [nameSql, mapNamed_append, mapNamed_when, mapNamed_append]
  rfl

@[simp] theorem ColumnRef.mapNamed_modifiersSql (c : ColumnRef) :
    c.modifiersSql.mapNamed g = c.modifiersSql := by
  rw [modifiersSql, mapNamed_append]
  congr 1
  · split <;> rfl
  · split <;> rfl

@[simp] theorem Relation.mapNamed_sql (r : Relation) : r.sql.mapNamed g = r.sql := by
  rw [sql, mapNamed_append, mapNamed_when, mapNamed_append]
  rfl

@[simp] theorem Relation.mapNamed_targetSql (r : Relation) :
    r.targetSql.mapNamed g = r.targetSql := by
  rw [targetSql, mapNamed_append, mapNamed_sql, mapNamed_aliasSql]

@[simp] theorem mapNamed_countSql (keyword : String) (count : Option Int64) :
    (countSql keyword count).mapNamed g = countSql keyword count := by
  cases count with
  | none => rfl
  | some n => rw [countSql, mapNamed_append]; rfl

@[simp] theorem mapNamed_windowSql (partitionBy orderBy : List Fragment) (frame : String) :
    (windowSql partitionBy orderBy frame).mapNamed g =
      windowSql (partitionBy.map (mapNamed g)) (orderBy.map (mapNamed g)) frame := by
  simp [windowSql]

@[simp] theorem SetOperator.mapNamed_memberSql (op : SetOperator) (member : Fragment) :
    (op.memberSql member).mapNamed g = op.memberSql (member.mapNamed g) := by
  simp [memberSql]

namespace WithItem

def mapNamed (item : WithItem) : WithItem :=
  { item with body := fun _ => (item.body ()).mapNamed g }

theorem sql_mapNamed (item : WithItem) : (item.mapNamed g).sql = item.sql.mapNamed g := by
  simp [sql, mapNamed]

theorem firsts_mapNamed (seen : List String) (items : List WithItem) :
    firsts seen (items.map (mapNamed g)) = (firsts seen items).map (mapNamed g) := by
  induction items generalizing seen with
  | nil => rfl
  | cons item items ih =>
      have hname : (item.mapNamed g).name = item.name := rfl
      rw [List.map_cons, firsts, firsts, ih, ih, hname]
      split <;> rfl

@[simp] theorem mapNamed_clause (own tables : List WithItem) :
    (clause own tables).mapNamed g =
      clause (own.map (mapNamed g)) (tables.map (mapNamed g)) := by
  have hany : ∀ items : List WithItem,
      (items.map (mapNamed g)).any (·.isRecursive) = items.any (·.isRecursive) :=
    fun items => List.any_map
  have hsql : ∀ items : List WithItem,
      (items.map (mapNamed g)).map sql = (items.map sql).map (Fragment.mapNamed g) := by
    intro items
    rw [List.map_map, List.map_map]
    exact List.map_congr_left fun item _ => sql_mapNamed g item
  rw [clause, clause, List.isEmpty_map, ← List.map_append, firsts_mapNamed]
  split
  · rfl
  · simp only [mapNamed_append, mapNamed_commaList, mapNamed_text, hany, hsql]

end WithItem

namespace MapperRun

def mapNamed (run : MapperRun) : MapperRun :=
  ⟨run.cells.map (Cell.map (Fragment.mapNamed g) (Fragment.mapNamed g)), run.stop⟩

theorem mapNamed_append (a b : MapperRun) :
    (a.append b).mapNamed g = (a.mapNamed g).append (b.mapNamed g) := by
  rw [append, append]
  cases h : a.stop with
  | none => simp only [mapNamed, h, List.map_append]
  | some e => simp only [mapNamed, h]

theorem table_mapNamed (run : MapperRun) :
    (run.mapNamed g).table =
      run.table.map fun (columns, rows) =>
        (columns.map (Fragment.mapNamed g), rows.map (·.map (Fragment.mapNamed g))) := by
  have hcell : ∀ cell? : Option Fragment,
      cellSql (cell?.map (Fragment.mapNamed g)) = (cellSql cell?).mapNamed g := by
    intro cell?
    cases cell? <;> rfl
  rw [table, table]
  cases h : run.stop with
  | some e => simp only [mapNamed, h]; rfl
  | none =>
      simp only [mapNamed, h]
      rw [Cell.table_map]
      cases Cell.table run.cells with
      | error e => rfl
      | ok parts =>
          obtain ⟨columns, rows⟩ := parts
          simp only [Except.map, List.map_map, Function.comp_def, hcell]

theorem assignments_mapNamed (run : MapperRun) :
    (run.mapNamed g).assignments = run.assignments.map (·.map (Fragment.mapNamed g)) := by
  rw [assignments, assignments]
  cases h : run.stop with
  | some e => simp only [mapNamed, h]; rfl
  | none =>
      simp only [mapNamed, h, Except.map, List.map_map]
      refine congrArg Except.ok (List.map_congr_left fun cell _ => ?_)
      simp [Cell.map]

end MapperRun

/-! ## Statements in parts -/

theorem InsertParts.sql_mapNamed (p : InsertParts) :
    InsertParts.sql
      { p with
        withClause := p.withClause.mapNamed g
        columns := p.columns.map (mapNamed g)
        rows := p.rows.map (·.map (mapNamed g))
        run := p.run.map (·.mapNamed g)
        select := p.select.map (mapNamed g)
        conflict := p.conflict.mapNamed g } =
      p.sql.mapNamed g := by
  obtain ⟨withClause, target, columns, rows, run, select, conflict⟩ := p
  have hrow : ∀ rows : List (List Fragment),
      (rows.map (·.map (mapNamed g))).map rowSql = (rows.map rowSql).map (mapNamed g) := by
    intro rows
    simp [rowSql]
  have hgiven : ∀ columns rows, InsertParts.sql ⟨withClause.mapNamed g, target,
        columns.map (mapNamed g), rows.map (·.map (mapNamed g)), none, select.map (mapNamed g),
        conflict.mapNamed g⟩ =
      (InsertParts.sql ⟨withClause, target, columns, rows, none, select, conflict⟩).mapNamed g := by
    intro columns rows
    simp only [sql, List.isEmpty_map, Option.isNone_map, hrow]
    cases target with
    | none => rfl
    | some target =>
        simp only
        split
        · rfl
        · cases rows.isEmpty <;> cases select <;> simp
  cases run with
  | none => exact hgiven columns rows
  | some run =>
      have hrun := run.table_mapNamed g
      cases htable : run.table with
      | error e =>
          rw [htable] at hrun
          simp only [sql, Option.map_some, hrun, htable]
          rfl
      | ok parts =>
          rw [htable] at hrun
          have hparts := hgiven parts.1 parts.2
          simp only [sql, Option.map_some, hrun, htable] at hparts ⊢
          exact hparts

theorem UpdateParts.sql_mapNamed (p : UpdateParts) :
    UpdateParts.sql
      { p with
        withClause := p.withClause.mapNamed g
        assignments := p.assignments.map (mapNamed g)
        run := p.run.map (·.mapNamed g)
        rest := p.rest.mapNamed g } =
      p.sql.mapNamed g := by
  obtain ⟨withClause, target, assignments, run, rest⟩ := p
  have hgiven : ∀ assignments, UpdateParts.sql ⟨withClause.mapNamed g, target,
        assignments.map (mapNamed g), none, rest.mapNamed g⟩ =
      (UpdateParts.sql ⟨withClause, target, assignments, none, rest⟩).mapNamed g := by
    intro assignments
    simp only [sql, List.isEmpty_map]
    cases target with
    | none => rfl
    | some target => cases assignments.isEmpty <;> simp
  cases run with
  | none => exact hgiven assignments
  | some run =>
      have hrun := run.assignments_mapNamed g
      cases hassignments : run.assignments with
      | error e =>
          rw [hassignments] at hrun
          simp only [sql, Option.map_some, hrun, hassignments]
          rfl
      | ok parts =>
          rw [hassignments] at hrun
          have hparts := hgiven parts
          simp only [sql, Option.map_some, hrun, hassignments] at hparts ⊢
          exact hparts

@[simp] theorem mapNamed_deleteSql (withClause : Fragment) (target : Option Relation)
    (hasSource hasJoins : Bool) (rest : Fragment) :
    (deleteSql withClause target hasSource hasJoins rest).mapNamed g =
      deleteSql (withClause.mapNamed g) target hasSource hasJoins (rest.mapNamed g) := by
  cases target with
  | none => rfl
  | some target =>
      rw [deleteSql, deleteSql]
      split
      · rfl
      · simp

/-! ## The grammar -/

mutual

def Operand.mapParams : Operand → Operand
  | .null => .null
  | .scalar v => .scalar v
  | .field f => .field f.mapParams
  | .query q => .query q.mapParams
  | .slice vs => .slice vs
termination_by structural o => o

def operandsMapParams : List Operand → List Operand
  | [] => []
  | o :: rest => o.mapParams :: operandsMapParams rest
termination_by structural os => os

def operandMapParams : Option Operand → Option Operand
  | none => none
  | some o => some o.mapParams
termination_by structural o => o

def rowsMapParams : List (List Operand) → List (List Operand)
  | [] => []
  | r :: rest => operandsMapParams r :: rowsMapParams rest
termination_by structural rs => rs

def TypedField.mapParams : TypedField → TypedField
  | .column kind c negated => .column kind c negated
  | .computed kind c format operands negated =>
    .computed kind c format (operandsMapParams operands) negated
termination_by structural f => f

/-- Gives each argument with a name in the field the value `g` has for it. -/
def Field.mapParams : Field → Field
  | .custom c format operands => .custom c format (operandsMapParams operands)
  | .literal s => .literal s
  | .param name v => .param name (g name v)
  | .typed f => .typed f.mapParams
  | .searchedCase aliasName branches fallback =>
    .searchedCase aliasName (searchedMapParams branches) (operandMapParams fallback)
  | .simpleCase aliasName subject branches fallback =>
    .simpleCase aliasName subject.mapParams (simpleMapParams branches) (operandMapParams fallback)
  | .window w => .window w.mapParams
  | .predicate p => .predicate p.mapParams
termination_by structural f => f

def fieldsMapParams : List Field → List Field
  | [] => []
  | f :: rest => f.mapParams :: fieldsMapParams rest
termination_by structural fs => fs

def searchedMapParams : List SearchedBranch → List SearchedBranch
  | [] => []
  | ⟨test, result⟩ :: rest => ⟨test.mapParams, result.mapParams⟩ :: searchedMapParams rest
termination_by structural bs => bs

def simpleMapParams : List SimpleBranch → List SimpleBranch
  | [] => []
  | ⟨test, result⟩ :: rest => ⟨test.mapParams, result.mapParams⟩ :: simpleMapParams rest
termination_by structural bs => bs

def Predicate.mapParams : Predicate → Predicate
  | .custom aliasName format operands negated =>
    .custom aliasName format (operandsMapParams operands) negated
  | .group toplevel aliasName op members negated =>
    .group toplevel aliasName op (predicatesMapParams members) negated
  | .boolean f => .boolean f.mapParams
termination_by structural p => p

def predicatesMapParams : List Predicate → List Predicate
  | [] => []
  | p :: rest => p.mapParams :: predicatesMapParams rest
termination_by structural ps => ps

def Window.mapParams : Window → Window
  | ⟨name, partitionBy, orderBy, frame⟩ =>
    ⟨name, fieldsMapParams partitionBy, fieldsMapParams orderBy, frame⟩
termination_by structural w => w

def windowsMapParams : List Window → List Window
  | [] => []
  | w :: rest => w.mapParams :: windowsMapParams rest
termination_by structural ws => ws

def Assignment.mapParams : Assignment → Assignment
  | ⟨target, value⟩ => ⟨target.mapParams, value.mapParams⟩
termination_by structural a => a

def assignmentsMapParams : List Assignment → List Assignment
  | [] => []
  | a :: rest => a.mapParams :: assignmentsMapParams rest
termination_by structural as => as

def MapperStep.mapParams : MapperStep → MapperStep
  | .set f o => .set f.mapParams o.mapParams
  | .fail e => .fail e
  | .inMode mode steps => .inMode mode (stepsMapParams steps)
termination_by structural s => s

def stepsMapParams : List MapperStep → List MapperStep
  | [] => []
  | s :: rest => s.mapParams :: stepsMapParams rest
termination_by structural ss => ss

def mapperMapParams : Option (List MapperStep) → Option (List MapperStep)
  | none => none
  | some steps => some (stepsMapParams steps)
termination_by structural m => m

def Cte.mapParams : Cte → Cte
  | ⟨name, aliasName, columns, body, isRecursive⟩ =>
    ⟨name, aliasName, columns, bodyMapParams body, isRecursive⟩
termination_by structural c => c

def bodyMapParams : Option Query → Option Query
  | none => none
  | some q => some q.mapParams
termination_by structural q => q

def ctesMapParams : List Cte → List Cte
  | [] => []
  | c :: rest => c.mapParams :: ctesMapParams rest
termination_by structural cs => cs

def Subquery.mapParams : Subquery → Subquery
  | ⟨aliasName, query⟩ => ⟨aliasName, query.mapParams⟩
termination_by structural s => s

def Table.mapParams : Table → Table
  | .relation r => .relation r
  | .cte c => .cte c.mapParams
  | .derived s => .derived s.mapParams
termination_by structural t => t

def sourceMapParams : Option Table → Option Table
  | none => none
  | some t => some t.mapParams
termination_by structural t => t

def Join.mapParams : Join → Join
  | ⟨kind, table, on⟩ => ⟨kind, table.mapParams, predicatesMapParams on⟩
termination_by structural j => j

def joinsMapParams : List Join → List Join
  | [] => []
  | j :: rest => j.mapParams :: joinsMapParams rest
termination_by structural js => js

def Select.mapParams : Select → Select
  | ⟨ctes, distinct, distinctOn, fields, source, joins, conditions, groupBy, having, windows,
      orderBy, limit, withTies, offset⟩ =>
    ⟨ctesMapParams ctes, distinct, fieldsMapParams distinctOn, fieldsMapParams fields,
      sourceMapParams source, joinsMapParams joins, predicatesMapParams conditions,
      fieldsMapParams groupBy, predicatesMapParams having, windowsMapParams windows,
      fieldsMapParams orderBy, limit, withTies, offset⟩
termination_by structural s => s

def selectMapParams : Option Select → Option Select
  | none => none
  | some s => some s.mapParams
termination_by structural s => s

def Conflict.mapParams : Conflict → Conflict
  | ⟨target, constraint, targetConditions, assignments, resolutionConditions⟩ =>
    ⟨fieldsMapParams target, constraint, predicatesMapParams targetConditions,
      assignmentsMapParams assignments, predicatesMapParams resolutionConditions⟩
termination_by structural c => c

def conflictMapParams : Option Conflict → Option Conflict
  | none => none
  | some c => some c.mapParams
termination_by structural c => c

def Insert.mapParams : Insert → Insert
  | ⟨ctes, target, columns, rows, mapper, select, conflict⟩ =>
    ⟨ctesMapParams ctes, target, fieldsMapParams columns, rowsMapParams rows,
      mapperMapParams mapper, selectMapParams select, conflictMapParams conflict⟩
termination_by structural i => i

def Update.mapParams : Update → Update
  | ⟨ctes, target, assignments, mapper, source, joins, conditions, orderBy, limit, offset⟩ =>
    ⟨ctesMapParams ctes, target, assignmentsMapParams assignments, mapperMapParams mapper,
      sourceMapParams source, joinsMapParams joins, predicatesMapParams conditions,
      fieldsMapParams orderBy, limit, offset⟩
termination_by structural u => u

def Delete.mapParams : Delete → Delete
  | ⟨ctes, target, source, joins, conditions, orderBy, limit, offset⟩ =>
    ⟨ctesMapParams ctes, target, sourceMapParams source, joinsMapParams joins,
      predicatesMapParams conditions, fieldsMapParams orderBy, limit, offset⟩
termination_by structural d => d

/-- Gives each argument with a name in the statement the value `g` has for
it. -/
def Query.mapParams : Query → Query
  | .select dialect s => .select dialect s.mapParams
  | .insert dialect i => .insert dialect i.mapParams
  | .update dialect u => .update dialect u.mapParams
  | .delete dialect d => .delete dialect d.mapParams
  | .raw dialect format operands => .raw dialect format (operandsMapParams operands)
  | .compound toplevel op members => .compound toplevel op (queriesMapParams members)
termination_by structural q => q

def queriesMapParams : List Query → List Query
  | [] => []
  | q :: rest => q.mapParams :: queriesMapParams rest
termination_by structural qs => qs

end

/-! ## What does not depend on values -/

@[simp] theorem Operand.isQuery_mapParams (o : Operand) : (o.mapParams g).isQuery = o.isQuery := by
  cases o <;> rfl

@[simp] theorem Predicate.isGroup_mapParams (p : Predicate) :
    (p.mapParams g).isGroup = p.isGroup := by
  cases p <;> rfl

@[simp] theorem TypedField.column_mapParams (f : TypedField) :
    (f.mapParams g).column? = f.column? := by
  cases f <;> rfl

@[simp] theorem TypedField.name_mapParams (f : TypedField) : (f.mapParams g).name = f.name := by
  cases f <;> rfl

@[simp] theorem Window.name_mapParams (w : Window) : (w.mapParams g).name = w.name := by
  cases w
  rfl

@[simp] theorem Predicate.name_mapParams (p : Predicate) : (p.mapParams g).name = p.name := by
  cases p with
  | boolean f => exact f.name_mapParams g
  | _ => rfl

@[simp] theorem Predicate.aliasName_mapParams (p : Predicate) :
    (p.mapParams g).aliasName = p.aliasName := by
  cases p with
  | boolean f => exact congrArg ColumnRef.aliasName (f.column_mapParams g)
  | _ => rfl

@[simp] theorem Field.name_mapParams (f : Field) : (f.mapParams g).name = f.name := by
  cases f with
  | typed f => exact f.name_mapParams g
  | window w => exact w.name_mapParams g
  | predicate p => exact p.name_mapParams g
  | _ => rfl

@[simp] theorem Field.aliasName_mapParams (f : Field) :
    (f.mapParams g).aliasName = f.aliasName := by
  cases f with
  | typed f => exact congrArg ColumnRef.aliasName (f.column_mapParams g)
  | predicate p => exact p.aliasName_mapParams g
  | _ => rfl

@[simp] theorem Cte.name_mapParams (c : Cte) : (c.mapParams g).name = c.name := by
  cases c
  rfl

@[simp] theorem Cte.aliasName_mapParams (c : Cte) : (c.mapParams g).aliasName = c.aliasName := by
  cases c
  rfl

@[simp] theorem Subquery.aliasName_mapParams (s : Subquery) :
    (s.mapParams g).aliasName = s.aliasName := by
  cases s
  rfl

@[simp] theorem isEmpty_operandsMapParams (os : List Operand) :
    (operandsMapParams g os).isEmpty = os.isEmpty := by
  cases os <;> rfl

@[simp] theorem isEmpty_fieldsMapParams (fs : List Field) :
    (fieldsMapParams g fs).isEmpty = fs.isEmpty := by
  cases fs <;> rfl

@[simp] theorem isEmpty_searchedMapParams : ∀ bs : List SearchedBranch,
    (searchedMapParams g bs).isEmpty = bs.isEmpty
  | [] => rfl
  | ⟨_, _⟩ :: _ => rfl

@[simp] theorem isEmpty_simpleMapParams : ∀ bs : List SimpleBranch,
    (simpleMapParams g bs).isEmpty = bs.isEmpty
  | [] => rfl
  | ⟨_, _⟩ :: _ => rfl

@[simp] theorem isEmpty_assignmentsMapParams (as : List Assignment) :
    (assignmentsMapParams g as).isEmpty = as.isEmpty := by
  cases as <;> rfl

@[simp] theorem isEmpty_joinsMapParams (js : List Join) :
    (joinsMapParams g js).isEmpty = js.isEmpty := by
  cases js <;> rfl

@[simp] theorem isSome_sourceMapParams (t? : Option Table) :
    (sourceMapParams g t?).isSome = t?.isSome := by
  cases t? <;> rfl

theorem Query.dialect_mapParams : (q : Query) → (q.mapParams g).dialect = q.dialect
  | .select _ _ => rfl
  | .insert _ _ => rfl
  | .update _ _ => rfl
  | .delete _ _ => rfl
  | .raw _ _ _ => rfl
  | .compound _ _ [] => rfl
  | .compound _ _ (q :: _) => q.dialect_mapParams
termination_by structural q => q

/-! ## Rendering -/

mutual

theorem Operand.sql_mapParams (excluded : List String) :
    (o : Operand) → (o.mapParams g).sql excluded = (o.sql excluded).mapNamed g
  | .null => rfl
  | .scalar _ => rfl
  | .field f => f.sql_mapParams excluded
  | .query q => q.sql_mapParams none
  | .slice [] => rfl
  | .slice (v :: vs) => by
      have hargs : ((v :: vs).map arg).map (mapNamed g) = (v :: vs).map arg := by
        rw [List.map_map]
        rfl
      rw [Operand.mapParams, Operand.sql, mapNamed_commaList, hargs]
termination_by structural o => o

theorem fillSql_mapParams (excluded : List String) : (os : List Operand) →
    ∀ tails, fillSql excluded (tails.map (·.map (·.mapNamed g))) (operandsMapParams g os) =
      (fillSql excluded tails os).mapNamed g
  | [], tails => by
      rw [operandsMapParams, fillSql, fillSql, Template.mapNamed_leftover]
  | _ :: _, [] => rfl
  | o :: rest, tail :: tails => by
      rw [operandsMapParams, List.map_cons, fillSql, fillSql, o.sql_mapParams excluded,
        fillSql_mapParams excluded rest, mapNamed_append, mapNamed_append]
      rfl
termination_by structural os => os

theorem TypedField.sql_mapParams (excluded : List String) :
    (f : TypedField) → (f.mapParams g).sql excluded = (f.sql excluded).mapNamed g
  | .column _ _ _ => by simp [TypedField.mapParams, TypedField.sql]
  | .computed _ _ format operands _ => by
      have hformat := format_mapNamed g (fillSql_mapParams excluded operands) format
      simp only [TypedField.mapParams, TypedField.sql]
      rw [append_assoc (notSql _), hformat]
      simp [append_assoc]
termination_by structural f => f

theorem Field.sql_mapParams (excluded : List String) :
    (f : Field) → (f.mapParams g).sql excluded = (f.sql excluded).mapNamed g
  | .custom c format operands => by
      have hformat := format_mapNamed g (fillSql_mapParams excluded operands) format
      simp only [Field.mapParams, Field.sql, isEmpty_operandsMapParams]
      split
      · split <;> simp
      · rw [hformat]
        simp
  | .literal _ => rfl
  | .param _ _ => rfl
  | .typed f => f.sql_mapParams excluded
  | .searchedCase _ branches fallback => by
      simp only [Field.mapParams, Field.sql, isEmpty_searchedMapParams]
      split
      · rfl
      · simp [searchedSql_mapParams excluded branches, fallbackSql_mapParams excluded fallback]
  | .simpleCase _ subject branches fallback => by
      simp only [Field.mapParams, Field.sql, isEmpty_simpleMapParams]
      split
      · rfl
      · simp [subject.sql_mapParams excluded, simpleSql_mapParams excluded branches,
          fallbackSql_mapParams excluded fallback]
  | .window w => w.sql_mapParams
  | .predicate p => p.sql_mapParams excluded false
termination_by structural f => f

theorem searchedSql_mapParams (excluded : List String) : (bs : List SearchedBranch) →
    searchedSql excluded (searchedMapParams g bs) = (searchedSql excluded bs).mapNamed g
  | [] => rfl
  | ⟨test, result⟩ :: rest => by
      simp [searchedMapParams, searchedSql, test.sql_mapParams excluded false,
        result.sql_mapParams excluded, searchedSql_mapParams excluded rest]
termination_by structural bs => bs

theorem simpleSql_mapParams (excluded : List String) : (bs : List SimpleBranch) →
    simpleSql excluded (simpleMapParams g bs) = (simpleSql excluded bs).mapNamed g
  | [] => rfl
  | ⟨test, result⟩ :: rest => by
      simp [simpleMapParams, simpleSql, test.sql_mapParams excluded,
        result.sql_mapParams excluded, simpleSql_mapParams excluded rest]
termination_by structural bs => bs

theorem fallbackSql_mapParams (excluded : List String) : (o? : Option Operand) →
    fallbackSql excluded (operandMapParams g o?) = (fallbackSql excluded o?).mapNamed g
  | none => rfl
  | some o => by simp [operandMapParams, fallbackSql, o.sql_mapParams excluded]
termination_by structural o? => o?

theorem Predicate.sql_mapParams (excluded : List String) : (p : Predicate) → (only : Bool) →
    (p.mapParams g).sql excluded only = (p.sql excluded only).mapNamed g
  | .custom _ format operands _, _ => by
      have hformat := format_mapNamed g (fillSql_mapParams excluded operands) format
      simp only [Predicate.mapParams, Predicate.sql]
      rw [append_assoc, hformat]
      simp [append_assoc]
  | .group _ _ _ [] _, _ => rfl
  | .group _ _ _ [p] _, _ => by
      simp [Predicate.mapParams, predicatesMapParams, Predicate.sql,
        p.sql_mapParams excluded true]
  | .group _ _ _ (p :: q :: rest) _, _ => by
      simp [Predicate.mapParams, predicatesMapParams, Predicate.sql,
        p.sql_mapParams excluded false, q.sql_mapParams excluded false,
        predicatesSql_mapParams excluded rest]
  | .boolean f, _ => f.sql_mapParams excluded
termination_by structural p => p

theorem predicatesSql_mapParams (excluded : List String) : (ps : List Predicate) →
    predicatesSql excluded (predicatesMapParams g ps) =
      (predicatesSql excluded ps).map (mapNamed g)
  | [] => rfl
  | p :: rest => by
      rw [predicatesMapParams, predicatesSql, p.sql_mapParams excluded false,
        predicatesSql_mapParams excluded rest]
      rfl
termination_by structural ps => ps

theorem conditionsSql_mapParams (keyword : String) (excluded : List String) :
    (ps : List Predicate) → conditionsSql keyword excluded (predicatesMapParams g ps) =
      (conditionsSql keyword excluded ps).mapNamed g
  | [] => rfl
  | [p] => by
      simp [predicatesMapParams, conditionsSql, p.sql_mapParams excluded true]
  | p :: q :: rest => by
      simp [predicatesMapParams, conditionsSql, p.sql_mapParams excluded false,
        q.sql_mapParams excluded false, predicatesSql_mapParams excluded rest]
termination_by structural ps => ps

theorem fieldsSql_mapParams (excluded : List String) : (fs : List Field) →
    fieldsSql excluded (fieldsMapParams g fs) = (fieldsSql excluded fs).map (mapNamed g)
  | [] => rfl
  | f :: rest => by
      rw [fieldsMapParams, fieldsSql, f.sql_mapParams excluded, fieldsSql_mapParams excluded rest]
      rfl
termination_by structural fs => fs

theorem projectionSql_mapParams (excluded : List String) : (fs : List Field) →
    projectionSql excluded (fieldsMapParams g fs) = (projectionSql excluded fs).map (mapNamed g)
  | [] => rfl
  | f :: rest => by
      simp [fieldsMapParams, projectionSql, f.sql_mapParams excluded,
        projectionSql_mapParams excluded rest]
termination_by structural fs => fs

theorem Window.definitionSql_mapParams :
    (w : Window) → (w.mapParams g).definitionSql = w.definitionSql.mapNamed g
  | ⟨_, partitionBy, orderBy, _⟩ => by
      simp [Window.mapParams, Window.definitionSql, fieldsSql_mapParams [] partitionBy,
        fieldsSql_mapParams [] orderBy]
termination_by structural w => w

theorem Window.sql_mapParams : (w : Window) → (w.mapParams g).sql = w.sql.mapNamed g
  | ⟨_, partitionBy, orderBy, _⟩ => by
      simp only [Window.mapParams, Window.sql, fieldsSql_mapParams [] partitionBy,
        fieldsSql_mapParams [] orderBy]
      split <;> simp
termination_by structural w => w

theorem windowsSql_mapParams : (ws : List Window) →
    windowsSql (windowsMapParams g ws) = (windowsSql ws).map (mapNamed g)
  | [] => rfl
  | w :: rest => by
      simp only [windowsMapParams, windowsSql, Window.name_mapParams, windowsSql_mapParams rest,
        w.definitionSql_mapParams]
      split <;> simp
termination_by structural ws => ws

theorem Assignment.sql_mapParams (excluded : List String) :
    (a : Assignment) → (a.mapParams g).sql excluded = (a.sql excluded).mapNamed g
  | ⟨target, value⟩ => by
      simp [Assignment.mapParams, Assignment.sql, target.sql_mapParams excluded,
        value.sql_mapParams excluded]
termination_by structural a => a

theorem assignmentsSql_mapParams (excluded : List String) : (as : List Assignment) →
    assignmentsSql excluded (assignmentsMapParams g as) =
      (assignmentsSql excluded as).map (mapNamed g)
  | [] => rfl
  | a :: rest => by
      rw [assignmentsMapParams, assignmentsSql, a.sql_mapParams excluded,
        assignmentsSql_mapParams excluded rest]
      rfl
termination_by structural as => as

theorem MapperStep.run_mapParams (mode : MapperMode) (excluded : List String) :
    (s : MapperStep) → (s.mapParams g).run mode excluded = (s.run mode excluded).mapNamed g
  | .set f o => by
      cases mode with
      | insert =>
          simp [MapperStep.mapParams, MapperStep.run, MapperRun.mapNamed, Cell.map,
            f.sql_mapParams excluded, o.sql_mapParams []]
      | update =>
          simp [MapperStep.mapParams, MapperStep.run, MapperRun.mapNamed, Cell.map,
            f.sql_mapParams excluded, o.sql_mapParams excluded]
  | .fail _ => rfl
  | .inMode _ steps => by
      simp only [MapperStep.mapParams, MapperStep.run]
      split
      · exact runSteps_mapParams mode excluded steps
      · rfl
termination_by structural s => s

theorem runSteps_mapParams (mode : MapperMode) (excluded : List String) :
    (ss : List MapperStep) → runSteps mode excluded (stepsMapParams g ss) =
      (runSteps mode excluded ss).mapNamed g
  | [] => rfl
  | s :: rest => by
      rw [stepsMapParams, runSteps, runSteps, MapperRun.mapNamed_append,
        s.run_mapParams mode excluded, runSteps_mapParams mode excluded rest]
termination_by structural ss => ss

theorem runMapper_mapParams (mode : MapperMode) (excluded : List String) :
    (m : Option (List MapperStep)) → runMapper mode excluded (mapperMapParams g m) =
      (runMapper mode excluded m).map (·.mapNamed g)
  | none => rfl
  | some steps => congrArg some (runSteps_mapParams mode excluded steps)
termination_by structural m => m

theorem Cte.item_mapParams : (c : Cte) → (c.mapParams g).item = c.item.mapNamed g
  | ⟨name, _, columns, body, isRecursive⟩ =>
      congrArg (fun sql => WithItem.mk name columns isRecursive fun _ => sql)
        (bodySql_mapParams name body)
termination_by structural c => c

theorem bodySql_mapParams (name : String) : (q? : Option Query) →
    bodySql name (bodyMapParams g q?) = (bodySql name q?).mapNamed g
  | none => rfl
  | some q => q.sql_mapParams (some true)
termination_by structural q? => q?

theorem cteItems_mapParams : (cs : List Cte) →
    cteItems (ctesMapParams g cs) = (cteItems cs).map (·.mapNamed g)
  | [] => rfl
  | c :: rest => by
      rw [ctesMapParams, cteItems, c.item_mapParams, cteItems_mapParams rest]
      rfl
termination_by structural cs => cs

theorem Subquery.bodySql_mapParams :
    (s : Subquery) → (s.mapParams g).bodySql = s.bodySql.mapNamed g
  | ⟨_, query⟩ => query.sql_mapParams (some true)
termination_by structural s => s

theorem Table.sourceSql_mapParams :
    (t : Table) → (t.mapParams g).sourceSql = t.sourceSql.mapNamed g
  | .relation _ => by simp [Table.mapParams, Table.sourceSql]
  | .cte _ => by simp [Table.mapParams, Table.sourceSql]
  | .derived s => by simp [Table.mapParams, Table.sourceSql, s.bodySql_mapParams]
termination_by structural t => t

theorem Table.items_mapParams : (t : Table) → (t.mapParams g).items = t.items.map (·.mapNamed g)
  | .cte c => congrArg ([·]) c.item_mapParams
  | .relation _ => rfl
  | .derived _ => rfl
termination_by structural t => t

theorem sourceSql_mapParams (keyword : String) : (t? : Option Table) →
    sourceSql keyword (sourceMapParams g t?) = (sourceSql keyword t?).mapNamed g
  | none => rfl
  | some t => by simp [sourceMapParams, sourceSql, t.sourceSql_mapParams]
termination_by structural t? => t?

theorem sourceItems_mapParams : (t? : Option Table) →
    sourceItems (sourceMapParams g t?) = (sourceItems t?).map (·.mapNamed g)
  | none => rfl
  | some t => t.items_mapParams
termination_by structural t? => t?

theorem Join.sql_mapParams : (j : Join) → (j.mapParams g).sql = j.sql.mapNamed g
  | ⟨_, table, on⟩ => by
      simp [Join.mapParams, Join.sql, table.sourceSql_mapParams,
        conditionsSql_mapParams " ON " [] on]
termination_by structural j => j

theorem joinsSql_mapParams : (js : List Join) →
    joinsSql (joinsMapParams g js) = (joinsSql js).mapNamed g
  | [] => rfl
  | j :: rest => by simp [joinsMapParams, joinsSql, j.sql_mapParams, joinsSql_mapParams rest]
termination_by structural js => js

theorem Join.items_mapParams : (j : Join) → (j.mapParams g).items = j.items.map (·.mapNamed g)
  | ⟨_, table, _⟩ => table.items_mapParams
termination_by structural j => j

theorem joinItems_mapParams : (js : List Join) →
    joinItems (joinsMapParams g js) = (joinItems js).map (·.mapNamed g)
  | [] => rfl
  | j :: rest => by
      rw [joinsMapParams, joinItems, joinItems, j.items_mapParams, joinItems_mapParams rest,
        List.map_append]
termination_by structural js => js

theorem Select.sql_mapParams : (s : Select) → (s.mapParams g).sql = s.sql.mapNamed g
  | ⟨ctes, distinct, distinctOn, fields, source, joins, conditions, groupBy, having, windows,
      orderBy, limit, withTies, offset⟩ => by
      have hdistinct : (if distinctOn.isEmpty then when distinct (text "DISTINCT ")
            else text "DISTINCT ON (" ++ commaList (fieldsSql [] (fieldsMapParams g distinctOn)) ++
              text ") ") =
          (if distinctOn.isEmpty then when distinct (text "DISTINCT ")
            else text "DISTINCT ON (" ++ commaList (fieldsSql [] distinctOn) ++
              text ") ").mapNamed g := by
        split <;> simp [fieldsSql_mapParams [] distinctOn]
      have hprojection : (if fields.isEmpty then text "1"
            else commaList (projectionSql [] (fieldsMapParams g fields))) =
          (if fields.isEmpty then text "1"
            else commaList (projectionSql [] fields)).mapNamed g := by
        split <;> simp [projectionSql_mapParams [] fields]
      simp only [Select.mapParams, Select.sql, isEmpty_fieldsMapParams, hdistinct, hprojection,
        cteItems_mapParams ctes, sourceItems_mapParams source, joinItems_mapParams joins,
        sourceSql_mapParams " FROM " source, joinsSql_mapParams joins,
        conditionsSql_mapParams " WHERE " [] conditions, fieldsSql_mapParams [] groupBy,
        conditionsSql_mapParams " HAVING " [] having, windowsSql_mapParams windows,
        fieldsSql_mapParams [] orderBy, mapNamed_append, WithItem.mapNamed_clause,
        List.map_append, mapNamed_clause, mapNamed_when, mapNamed_text, mapNamed_countSql]
termination_by structural s => s

theorem Select.items_mapParams :
    (s : Select) → (s.mapParams g).items = s.items.map (·.mapNamed g)
  | ⟨_, _, _, _, source, joins, _, _, _, _, _, _, _, _⟩ => by
      rw [Select.mapParams, Select.items, Select.items, sourceItems_mapParams source,
        joinItems_mapParams joins, List.map_append]
termination_by structural s => s

theorem selectSql_mapParams : (s? : Option Select) →
    selectSql (selectMapParams g s?) = (selectSql s?).map (mapNamed g)
  | none => rfl
  | some s => congrArg some s.sql_mapParams
termination_by structural s? => s?

theorem selectItems_mapParams : (s? : Option Select) →
    selectItems (selectMapParams g s?) = (selectItems s?).map (·.mapNamed g)
  | none => rfl
  | some s => s.items_mapParams
termination_by structural s? => s?

theorem Conflict.sql_mapParams (excluded : List String) :
    (c : Conflict) → (c.mapParams g).sql excluded = (c.sql excluded).mapNamed g
  | ⟨target, constraint, targetConditions, assignments, resolutionConditions⟩ => by
      simp only [Conflict.mapParams, Conflict.sql, isEmpty_fieldsMapParams,
        isEmpty_assignmentsMapParams, fieldsSql_mapParams excluded target,
        conditionsSql_mapParams " WHERE " excluded targetConditions,
        assignmentsSql_mapParams excluded assignments,
        conditionsSql_mapParams " WHERE " [] resolutionConditions, mapNamed_append, mapNamed_text]
      congr 1
      · congr 1
        cases constraint with
        | some name => rfl
        | none => cases target.isEmpty <;> simp
      · cases assignments.isEmpty <;> simp
termination_by structural c => c

theorem conflictSql_mapParams (excluded : List String) : (c? : Option Conflict) →
    conflictSql excluded (conflictMapParams g c?) = (conflictSql excluded c?).mapNamed g
  | none => rfl
  | some c => c.sql_mapParams excluded
termination_by structural c? => c?

theorem operandsSql_mapParams : (os : List Operand) →
    operandsSql (operandsMapParams g os) = (operandsSql os).map (mapNamed g)
  | [] => rfl
  | o :: rest => by
      rw [operandsMapParams, operandsSql, o.sql_mapParams [], operandsSql_mapParams rest]
      rfl
termination_by structural os => os

theorem rowsSql_mapParams : (rows : List (List Operand)) →
    rowsSql (rowsMapParams g rows) = (rowsSql rows).map (·.map (mapNamed g))
  | [] => rfl
  | r :: rest => by
      rw [rowsMapParams, rowsSql, operandsSql_mapParams r, rowsSql_mapParams rest]
      rfl
termination_by structural rows => rows

theorem Insert.sql_mapParams : (i : Insert) → (i.mapParams g).sql = i.sql.mapNamed g
  | ⟨ctes, target, columns, rows, mapper, select, conflict⟩ => by
      rw [Insert.mapParams, Insert.sql, Insert.sql, ← InsertParts.sql_mapNamed]
      simp only [cteItems_mapParams ctes, selectItems_mapParams select, WithItem.mapNamed_clause,
        fieldsSql_mapParams _ columns, rowsSql_mapParams rows, runMapper_mapParams .insert _ mapper,
        selectSql_mapParams select, conflictSql_mapParams _ conflict]
termination_by structural i => i

theorem Update.sql_mapParams : (u : Update) → (u.mapParams g).sql = u.sql.mapNamed g
  | ⟨ctes, target, assignments, mapper, source, joins, conditions, orderBy, limit, offset⟩ => by
      rw [Update.mapParams, Update.sql, Update.sql, ← UpdateParts.sql_mapNamed]
      simp only [cteItems_mapParams ctes, sourceItems_mapParams source, joinItems_mapParams joins,
        assignmentsSql_mapParams _ assignments, runMapper_mapParams .update _ mapper,
        sourceSql_mapParams " FROM " source, joinsSql_mapParams joins,
        conditionsSql_mapParams " WHERE " [] conditions, fieldsSql_mapParams [] orderBy,
        WithItem.mapNamed_clause, List.map_append, mapNamed_append, mapNamed_clause,
        mapNamed_countSql]
termination_by structural u => u

theorem Delete.sql_mapParams : (d : Delete) → (d.mapParams g).sql = d.sql.mapNamed g
  | ⟨ctes, target, source, joins, conditions, orderBy, limit, offset⟩ => by
      simp only [Delete.mapParams, Delete.sql, cteItems_mapParams ctes,
        sourceItems_mapParams source, joinItems_mapParams joins, isSome_sourceMapParams,
        isEmpty_joinsMapParams, sourceSql_mapParams " USING " source, joinsSql_mapParams joins,
        conditionsSql_mapParams " WHERE " [] conditions, fieldsSql_mapParams [] orderBy,
        mapNamed_deleteSql, WithItem.mapNamed_clause, List.map_append, mapNamed_append,
        mapNamed_clause, mapNamed_countSql]
termination_by structural d => d

/-- The statement with other values is written as before, with the other
values in the written pieces. -/
theorem Query.sql_mapParams : (q : Query) → (toplevel? : Option Bool) →
    (q.mapParams g).sql toplevel? = (q.sql toplevel?).mapNamed g
  | .select _ s, _ => s.sql_mapParams
  | .insert _ i, _ => i.sql_mapParams
  | .update _ u, _ => u.sql_mapParams
  | .delete _ d, _ => d.sql_mapParams
  | .raw _ format operands, _ => format_mapNamed g (fillSql_mapParams [] operands) format
  | .compound _ _ [], _ => rfl
  | .compound toplevel _ [q], toplevel? => q.sql_mapParams (some (toplevel?.getD toplevel))
  | .compound _ _ (p :: q :: rest), _ => by
      simp [Query.mapParams, queriesMapParams, Query.sql, p.sql_mapParams none,
        q.sql_mapParams none, membersSql_mapParams _ rest]
termination_by structural q => q

theorem membersSql_mapParams (op : SetOperator) : (qs : List Query) →
    membersSql op (queriesMapParams g qs) = (membersSql op qs).mapNamed g
  | [] => rfl
  | q :: rest => by
      simp [queriesMapParams, membersSql, q.sql_mapParams none, membersSql_mapParams op rest]
termination_by structural qs => qs

end

end SqlCompose
