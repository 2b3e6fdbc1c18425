import SqlCompose.Statement.Clause
import SqlCompose.Writer

/-!
# Rendering

Every part of the grammar is turned into a fragment by structural
recursion. Two pieces of context go down into the parts:

- the *excluded* qualifiers, which columns leave out; queries and windows
  begin again with none;
- for a predicate, whether it is the only member of the group or clause
  around it, whose parentheses then serve for both; for a query, whether
  its own mark as top level is overruled.

Clauses of a statement come in a fixed order, whatever the order in which
they were given.
-/

namespace SqlCompose

open Fragment

mutual

/-- An operand; an empty list is null. -/
def Operand.sql (excluded : List String) : Operand → Fragment
  | .null => text "NULL"
  | .scalar v => arg v
  | .field f => f.sql excluded
  | .query q => q.sql none
  | .slice [] => text "NULL"
  | .slice (v :: vs) => commaList ((v :: vs).map arg)
termination_by structural o => o

/-- The operands of a format, each followed by its tail. -/
def fillSql (excluded : List String) : (tails : List (List Piece)) → List Operand → Fragment
  | tails, [] => Template.leftover tails
  | [], _ :: _ => empty
  | tail :: tails, o :: os => o.sql excluded ++ ofPieces tail ++ fillSql excluded tails os
termination_by structural _ os => os

def TypedField.sql (excluded : List String) : TypedField → Fragment
  | .column _ c negated => notSql negated ++ c.nameSql excluded ++ c.modifiersSql
  | .computed _ c format operands negated =>
    let t := Template.ofFormat format
    notSql negated ++ ofPieces t.head ++ fillSql excluded t.tails operands ++ c.modifiersSql
termination_by structural f => f

def Field.sql (excluded : List String) : Field → Fragment
  | .custom c format operands =>
    if format.isEmpty && operands.isEmpty then
      if c.name.isEmpty then text ":blank:" else c.nameSql excluded ++ c.modifiersSql
    else
      let t := Template.ofFormat format
      ofPieces t.head ++ fillSql excluded t.tails operands ++ c.modifiersSql
  | .literal s => text s
  | .param name v => namedArg name v
  | .typed f => f.sql excluded
  | .searchedCase _ branches fallback =>
    if branches.isEmpty then fail (.build "no predicate cases provided")
    else text "CASE" ++ searchedSql excluded branches ++ fallbackSql excluded fallback
  | .simpleCase _ subject branches fallback =>
    if branches.isEmpty then fail (.build "no value cases provided")
    else
      text "CASE " ++ subject.sql excluded ++ simpleSql excluded branches ++
        fallbackSql excluded fallback
  | .window w => w.sql
  | .predicate p => p.sql excluded false
termination_by structural f => f

def searchedSql (excluded : List String) : List SearchedBranch → Fragment
  | [] => empty
  | ⟨test, result⟩ :: rest =>
    text " WHEN " ++ test.sql excluded false ++ text " THEN " ++ result.sql excluded ++
      searchedSql excluded rest
termination_by structural bs => bs

def simpleSql (excluded : List String) : List SimpleBranch → Fragment
  | [] => empty
  | ⟨test, result⟩ :: rest =>
    text " WHEN " ++ test.sql excluded ++ text " THEN " ++ result.sql excluded ++
      simpleSql excluded rest
termination_by structural bs => bs

/-- The end of a case expression. -/
def fallbackSql (excluded : List String) : Option Operand → Fragment
  | none => text " END"
  | some o => text " ELSE " ++ o.sql excluded ++ text " END"
termination_by structural o => o

/-- A condition. A group that is the only member of what stands around it
(`only`) has no parentheses of its own. -/
def Predicate.sql (excluded : List String) : (p : Predicate) → (only : Bool) → Fragment
  | .custom _ format operands negated, _ =>
    let t := Template.ofFormat format
    notSql negated ++ ofPieces t.head ++ fillSql excluded t.tails operands
  | .group toplevel _ op members negated, only =>
    match members with
    | [] => empty
    | [p] =>
      notSql negated ++
        parensIf (p.isGroup && (negated || !(toplevel || only))) (p.sql excluded true)
    | p :: q :: rest =>
      notSql negated ++
        parensIf (negated || !(toplevel || only))
          (sepBy op.separator
            (p.sql excluded false :: q.sql excluded false :: predicatesSql excluded rest))
  | .boolean f, _ => f.sql excluded
termination_by structural p => p

def predicatesSql (excluded : List String) : List Predicate → List Fragment
  | [] => []
  | p :: rest => p.sql excluded false :: predicatesSql excluded rest
termination_by structural ps => ps

/-- A keyword and the conjunction of the conditions, or nothing if there
are none. -/
def conditionsSql (keyword : String) (excluded : List String) : List Predicate → Fragment
  | [] => empty
  | [p] => text keyword ++ p.sql excluded true
  | p :: q :: rest =>
    text keyword ++
      sepBy LogicalOp.and.separator
        (p.sql excluded false :: q.sql excluded false :: predicatesSql excluded rest)
termination_by structural ps => ps

def fieldsSql (excluded : List String) : List Field → List Fragment
  | [] => []
  | f :: rest => f.sql excluded :: fieldsSql excluded rest
termination_by structural fs => fs

/-- Fields with their aliases, as a projection has them. -/
def projectionSql (excluded : List String) : List Field → List Fragment
  | [] => []
  | f :: rest => (f.sql excluded ++ aliasSql f.aliasName) :: projectionSql excluded rest
termination_by structural fs => fs

/-- The definition of a window. -/
def Window.definitionSql : Window → Fragment
  | ⟨_, partitionBy, orderBy, frame⟩ =>
    windowSql (fieldsSql [] partitionBy) (fieldsSql [] orderBy) frame
termination_by structural w => w

/-- A window where it is used: its name, or its definition. -/
def Window.sql : Window → Fragment
  | ⟨name, partitionBy, orderBy, frame⟩ =>
    if name.isEmpty then windowSql (fieldsSql [] partitionBy) (fieldsSql [] orderBy) frame
    else text name
termination_by structural w => w

/-- The windows that have a name, each with its definition. -/
def windowsSql : List Window → List Fragment
  | [] => []
  | w :: rest =>
    if w.name.isEmpty then windowsSql rest
    else (text w.name ++ text " AS " ++ w.definitionSql) :: windowsSql rest
termination_by structural ws => ws

/-- An assignment, a query on its right side in parentheses. -/
def Assignment.sql (excluded : List String) : Assignment → Fragment
  | ⟨target, value⟩ =>
    target.sql excluded ++ text " = " ++ parensIf value.isQuery (value.sql excluded)
termination_by structural a => a

def assignmentsSql (excluded : List String) : List Assignment → List Fragment
  | [] => []
  | a :: rest => a.sql excluded :: assignmentsSql excluded rest
termination_by structural as => as

/-- What one step of a mapper does. -/
def MapperStep.run (mode : MapperMode) (excluded : List String) : MapperStep → MapperRun
  | .set f o =>
    match mode with
    | .insert => ⟨[⟨f.name, f.sql excluded, o.sql []⟩], none⟩
    | .update => ⟨[⟨f.name, f.sql excluded, parensIf o.isQuery (o.sql excluded)⟩], none⟩
  | .fail e => ⟨[], some e⟩
  | .inMode m steps => if m = mode then runSteps mode excluded steps else {}
termination_by structural s => s

def runSteps (mode : MapperMode) (excluded : List String) : List MapperStep → MapperRun
  | [] => {}
  | s :: rest => (s.run mode excluded).append (runSteps mode excluded rest)
termination_by structural ss => ss

def runMapper (mode : MapperMode) (excluded : List String) :
    Option (List MapperStep) → Option MapperRun
  | none => none
  | some steps => some (runSteps mode excluded steps)
termination_by structural m => m

def Cte.item : Cte → WithItem
  | ⟨name, _, columns, body, isRecursive⟩ =>
    ⟨name, columns, isRecursive, fun _ => bodySql name body⟩
termination_by structural c => c

/-- The body of a definition; a set operation stands in the parentheses
of the definition. -/
def bodySql (name : String) : Option Query → Fragment
  | none => fail (.build ("CTE " ++ name ++ " has no query"))
  | some q => q.sql (some true)
termination_by structural q => q

def cteItems : List Cte → List WithItem
  | [] => []
  | c :: rest => c.item :: cteItems rest
termination_by structural cs => cs

/-- A query in the place of a table, without its parentheses. -/
def Subquery.bodySql : Subquery → Fragment
  | ⟨_, query⟩ => query.sql (some true)
termination_by structural s => s

/-- A table as a source of rows. -/
def Table.sourceSql : Table → Fragment
  | .relation r => r.sql ++ aliasSql r.aliasName
  | .cte c => text c.name ++ aliasSql c.aliasName
  | .derived s => parens s.bodySql ++ aliasSql s.aliasName
termination_by structural t => t

/-- The definition that a table brings with it. -/
def Table.items : Table → List WithItem
  | .cte c => [c.item]
  | .relation _ => []
  | .derived _ => []
termination_by structural t => t

/-- A keyword and a source of rows, if there is one. -/
def sourceSql (keyword : String) : Option Table → Fragment
  | none => empty
  | some t => text keyword ++ t.sourceSql
termination_by structural t => t

def sourceItems : Option Table → List WithItem
  | none => []
  | some t => t.items
termination_by structural t => t

def Join.sql : Join → Fragment
  | ⟨kind, table, on⟩ =>
    text kind.keyword ++ text " " ++ table.sourceSql ++ conditionsSql " ON " [] on
termination_by structural j => j

/-- Joins, each after a blank. -/
def joinsSql : List Join → Fragment
  | [] => empty
  | j :: rest => text " " ++ j.sql ++ joinsSql rest
termination_by structural js => js

def Join.items : Join → List WithItem
  | ⟨_, table, _⟩ => table.items
termination_by structural j => j

def joinItems : List Join → List WithItem
  | [] => []
  | j :: rest => j.items ++ joinItems rest
termination_by structural js => js

def Select.sql : Select → Fragment
  | ⟨ctes, distinct, distinctOn, fields, source, joins, conditions, groupBy, having, windows,
      orderBy, limit, withTies, offset⟩ =>
    WithItem.clause (cteItems ctes) (sourceItems source ++ joinItems joins) ++
      text "SELECT " ++
      (if distinctOn.isEmpty then when distinct (text "DISTINCT ")
        else text "DISTINCT ON (" ++ commaList (fieldsSql [] distinctOn) ++ text ") ") ++
      (if fields.isEmpty then text "1" else commaList (projectionSql [] fields)) ++
      sourceSql " FROM " source ++ joinsSql joins ++
      conditionsSql " WHERE " [] conditions ++
      clause " GROUP BY " (fieldsSql [] groupBy) ++
      conditionsSql " HAVING " [] having ++
      clause " WINDOW " (windowsSql windows) ++
      clause " ORDER BY " (fieldsSql [] orderBy) ++
      countSql " LIMIT " limit ++ when (withTies && limit.isSome) (text " WITH TIES") ++
      countSql " OFFSET " offset
termination_by structural s => s

/-- The definitions that the tables of a selection bring with them. -/
def Select.items : Select → List WithItem
  | ⟨_, _, _, _, source, joins, _, _, _, _, _, _, _, _⟩ => sourceItems source ++ joinItems joins
termination_by structural s => s

def selectSql : Option Select → Option Fragment
  | none => none
  | some s => some s.sql
termination_by structural s => s

def selectItems : Option Select → List WithItem
  | none => []
  | some s => s.items
termination_by structural s => s

def Conflict.sql (excluded : List String) : Conflict → Fragment
  | ⟨target, constraint, targetConditions, assignments, resolutionConditions⟩ =>
    text " ON CONFLICT" ++
      (match constraint with
        | some name => text " ON CONSTRAINT " ++ text name
        | none =>
          if target.isEmpty then empty
          else
            text " (" ++ commaList (fieldsSql excluded target) ++ text ")" ++
              conditionsSql " WHERE " excluded targetConditions) ++
      (if assignments.isEmpty then text " DO NOTHING"
        else
          text " DO UPDATE SET " ++ commaList (assignmentsSql excluded assignments) ++
            conditionsSql " WHERE " [] resolutionConditions)
termination_by structural c => c

def conflictSql (excluded : List String) : Option Conflict → Fragment
  | none => empty
  | some c => c.sql excluded
termination_by structural c => c

def operandsSql : List Operand → List Fragment
  | [] => []
  | o :: rest => o.sql [] :: operandsSql rest
termination_by structural os => os

def rowsSql : List (List Operand) → List (List Fragment)
  | [] => []
  | r :: rest => operandsSql r :: rowsSql rest
termination_by structural rs => rs

def Insert.sql : Insert → Fragment
  | ⟨ctes, target, columns, rows, mapper, select, conflict⟩ =>
    let excluded := (target.map Relation.qualifier).toList
    InsertParts.sql
      { withClause := WithItem.clause (cteItems ctes) (selectItems select)
        target
        columns := fieldsSql excluded columns
        rows := rowsSql rows
        run := runMapper .insert excluded mapper
        select := selectSql select
        conflict := conflictSql excluded conflict }
termination_by structural i => i

def Update.sql : Update → Fragment
  | ⟨ctes, target, assignments, mapper, source, joins, conditions, orderBy, limit, offset⟩ =>
    let excluded := (target.map Relation.qualifier).toList
    UpdateParts.sql
      { withClause := WithItem.clause (cteItems ctes) (sourceItems source ++ joinItems joins)
        target
        assignments := assignmentsSql excluded assignments
        run := runMapper .update excluded mapper
        rest :=
          sourceSql " FROM " source ++ joinsSql joins ++
            conditionsSql " WHERE " [] conditions ++
            clause " ORDER BY " (fieldsSql [] orderBy) ++
            countSql " LIMIT " limit ++ countSql " OFFSET " offset }
termination_by structural u => u

def Delete.sql : Delete → Fragment
  | ⟨ctes, target, source, joins, conditions, orderBy, limit, offset⟩ =>
    deleteSql (WithItem.clause (cteItems ctes) (sourceItems source ++ joinItems joins)) target
      source.isSome (!joins.isEmpty)
      (sourceSql " USING " source ++ joinsSql joins ++
        conditionsSql " WHERE " [] conditions ++
        clause " ORDER BY " (fieldsSql [] orderBy) ++
        countSql " LIMIT " limit ++ countSql " OFFSET " offset)
termination_by structural d => d

/-- A statement. `toplevel?` overrules the mark of a set operation; the
only member of one takes over its mark. -/
def Query.sql (q : Query) (toplevel? : Option Bool) : Fragment :=
  match q with
  | .select _ s => s.sql
  | .insert _ i => i.sql
  | .update _ u => u.sql
  | .delete _ d => d.sql
  | .raw _ format operands =>
    let t := Template.ofFormat format
    ofPieces t.head ++ fillSql [] t.tails operands
  | .compound toplevel op members =>
    match members with
    | [] => empty
    | [q] => q.sql (some (toplevel?.getD toplevel))
    | p :: q :: rest =>
      parensIf (!toplevel?.getD toplevel)
        (p.sql none ++ op.memberSql (q.sql none) ++ membersSql op rest)
termination_by structural q

/-- The members of a set operation after the first. -/
def membersSql (op : SetOperator) : List Query → Fragment
  | [] => empty
  | q :: rest => op.memberSql (q.sql none) ++ membersSql op rest
termination_by structural qs => qs

end

/-- A table without its alias. -/
def Table.sql : Table → Fragment
  | .relation r => r.sql
  | .cte c => text c.name
  | .derived s => s.bodySql

namespace Query

/-- The text of a statement that is sent by itself: a set operation has no
parentheses. -/
def statementSql (q : Query) : Fragment := q.sql (some true)

/-- The statement in its own dialect. -/
def toSql (q : Query) : Except Error BuiltQuery := q.statementSql.build q.dialect

/-- The statement through a shared handle, which knows how it is written but
not that it is sent by itself: a set operation keeps its own mark. -/
def sharedToSql (q : Query) : Except Error BuiltQuery := (q.sql none).build q.dialect

end Query

end SqlCompose
