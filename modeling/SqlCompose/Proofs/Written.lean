import SqlCompose.Proofs.Render
import SqlCompose.Proofs.Rows
import SqlCompose.Proofs.Texts

/-!
# Properties that rendering keeps

A fragment is written from keywords, raw texts, placeholders and brackets
around other fragments. A property of fragments that holds of these, and
that is kept when fragments are put together, holds of every statement
(`Kept.query`), provided that its raw texts are as the property wants them.

The grammar is gone through once, one case for each constructor. What a
property has to say itself is in the fields of `Fragment.Kept`.
-/

namespace SqlCompose

open Fragment

/-! ## Keywords and brackets -/

/-- A character that neither brackets, quotes nor marks a place. -/
def isPlain (c : Char) : Bool := c != '(' && c != ')' && c != '\'' && c != '?'

/-- A text of plain characters. -/
def isWords (s : String) : Bool := s.toList.all isPlain

/-- Plain characters and an opening parenthesis behind them. -/
def opens (s : String) : Bool :=
  s.toList.getLast? = some '(' && s.toList.dropLast.all isPlain

/-- A closing parenthesis and plain characters behind it. -/
def closes (s : String) : Bool :=
  s.toList.head? = some ')' && s.toList.tail.all isPlain

/-- Fragments in the places of a format, as far as there are places. -/
def Template.fill : (tails : List (List Piece)) → List Fragment → Fragment
  | tails, [] => leftover tails
  | [], _ :: _ => empty
  | tail :: tails, f :: fs => f ++ ofPieces tail ++ fill tails fs

/-- A format with fragments in its places. -/
def Template.filled (format : String) (fs : List Fragment) : Fragment :=
  ofPieces (ofFormat format).head ++ fill (ofFormat format).tails fs

theorem fillSql_eq_fill (excluded : List String) : ∀ tails (os : List Operand),
    fillSql excluded tails os = Template.fill tails (os.map (·.sql excluded))
  | tails, [] => by cases tails <;> rfl
  | [], _ :: _ => rfl
  | tail :: tails, o :: os =>
      congrArg (o.sql excluded ++ ofPieces tail ++ ·) (fillSql_eq_fill excluded tails os)

/-- A property of fragments, given one of raw texts, that is kept by all
that rendering does. -/
structure Fragment.Kept (P : Fragment → Prop) (Q : RawText → Prop) : Prop where
  empty : P empty
  fail : ∀ e, P (fail e)
  arg : ∀ v, P (arg v)
  namedArg : ∀ name v, P (namedArg name v)
  words : ∀ s, isWords s = true → P (text s)
  copied : ∀ s, Q (.copied s) → P (text s)
  /-- Names in one text. -/
  names : ∀ ss : List String, (∀ s ∈ ss, Q (.copied s)) → P (text (String.intercalate ", " ss))
  append : ∀ a b, P a → P b → P (a ++ b)
  enclosed : ∀ s t a, opens s = true → closes t = true → P a → P (text s ++ a ++ text t)
  filled : ∀ format fs, Q (.format format fs.length) → (∀ f ∈ fs, P f) →
    P (Template.filled format fs)

namespace Fragment.Kept

variable {P : Fragment → Prop} {Q : RawText → Prop} (kept : Kept P Q) {a b : Fragment}

/-! ## Putting fragments together -/

include kept

theorem when (keep : Bool) (h : P a) : P (when keep a) := by
  cases keep with
  | false => exact kept.empty
  | true => exact h

theorem parens (h : P a) : P (parens a) := kept.enclosed "(" ")" a rfl rfl h

theorem parensIf (wrap : Bool) (h : P a) : P (parensIf wrap a) := by
  cases wrap with
  | false => exact h
  | true => exact kept.parens h

/-- Words before a fragment. -/
theorem behind {s : String} (words : isWords s = true) (h : P a) : P (text s ++ a) :=
  kept.append _ _ (kept.words s words) h

theorem sepBy {separator : String} (words : isWords separator = true) :
    ∀ {items : List Fragment}, (∀ f ∈ items, P f) → P (sepBy separator items)
  | [], _ => kept.empty
  | [f], h => h f List.mem_cons_self
  | f :: g :: rest, h => by
      obtain ⟨hf, hrest⟩ := List.forall_mem_cons.mp h
      rw [sepBy_cons_cons]
      exact kept.append _ _ (kept.append _ _ hf (kept.words separator words))
        (sepBy words hrest)

theorem commaList {items : List Fragment} (h : ∀ f ∈ items, P f) : P (commaList items) :=
  kept.sepBy rfl h

theorem clause (keyword : String) (words : isWords keyword = true) {items : List Fragment}
    (h : ∀ f ∈ items, P f) : P (clause keyword items) := by
  rw [Fragment.clause]
  split
  · exact kept.empty
  · exact kept.behind words (kept.commaList h)

/-! ## Names -/

theorem qualifier (keep : Bool) {s : String} (h : Q (.copied s)) :
    P (Fragment.when keep (text s ++ text ".")) :=
  kept.when keep (kept.append _ _ (kept.copied s h) (kept.words "." rfl))

theorem nameSql (excluded : List String) {c : ColumnRef} (h : ∀ t ∈ c.texts, Q t) :
    P (c.nameSql excluded) := by
  obtain ⟨hqualifier, hrest⟩ := List.forall_mem_cons.mp h
  obtain ⟨hname, -⟩ := List.forall_mem_cons.mp hrest
  exact kept.append _ _ (kept.qualifier _ hqualifier) (kept.copied _ hname)

theorem modifiersSql (c : ColumnRef) : P c.modifiersSql := by
  refine kept.append _ _ ?_ ?_
  · cases c.order with
    | none => exact kept.empty
    | some order => cases order <;> exact kept.words _ rfl
  · cases c.nulls with
    | none => exact kept.empty
    | some nulls => cases nulls <;> exact kept.words _ rfl

theorem notSql (negated : Bool) : P (notSql negated) := kept.when negated (kept.words _ rfl)

theorem aliasSql {s : String} (h : Q (.copied s)) : P (aliasSql s) :=
  kept.when _ (kept.behind rfl (kept.copied s h))

theorem targetSql {r : Relation} (h : ∀ t ∈ r.texts, Q t) : P r.targetSql := by
  obtain ⟨hschema, hrest⟩ := List.forall_mem_cons.mp h
  obtain ⟨hname, halias⟩ := List.forall_mem_cons.mp hrest
  exact kept.append _ _ (kept.append _ _ (kept.qualifier _ hschema) (kept.copied _ hname))
    (kept.aliasSql (List.forall_mem_singleton.mp halias))

theorem countSql {keyword : String} (words : isWords keyword = true) :
    ∀ n, P (countSql keyword n)
  | none => kept.empty
  | some _ => kept.behind words (kept.arg _)

/-! ## Clauses -/

/-- A definition whose parts have the property. -/
structure Item (P : Fragment → Prop) (Q : RawText → Prop) (item : WithItem) : Prop where
  name : Q (.copied item.name)
  columns : ∀ c ∈ item.columns, Q (.copied c)
  body : P (item.body ())

theorem item {i : WithItem} (h : Item P Q i) : P i.sql := by
  have hcolumns := kept.when (!i.columns.isEmpty)
    (kept.enclosed " (" ")" _ rfl rfl (kept.names _ h.columns))
  have hbody := kept.enclosed " AS (" ")" _ rfl rfl h.body
  rw [WithItem.sql, append_assoc _ (i.body ()), append_assoc _ (text " AS (")]
  rw [append_assoc (text " AS (")] at hbody
  exact kept.append _ _ (kept.append _ _ (kept.copied _ h.name) hcolumns) hbody

theorem withClause {own tables : List WithItem} (ho : ∀ i ∈ own, Item P Q i)
    (ht : ∀ i ∈ tables, Item P Q i) : P (WithItem.clause own tables) := by
  rw [WithItem.clause]
  split
  · exact kept.empty
  · have hitems :
        P (Fragment.commaList ((WithItem.firsts [] (own ++ tables)).map WithItem.sql)) := by
      refine kept.commaList (List.forall_mem_map.mpr fun i hi => ?_)
      exact kept.item
        ((List.mem_append.mp (WithItem.mem_of_mem_firsts hi)).elim (ho i) (ht i))
    have hkeyword : ∀ b : Bool, P (text (if b then "WITH RECURSIVE " else "WITH ")) := by
      intro b
      cases b <;> exact kept.words _ rfl
    exact kept.append _ _ (kept.append _ _ (hkeyword _) hitems) (kept.words " " rfl)

theorem windowSql {partitionBy orderBy : List Fragment} {frame : String}
    (hp : ∀ f ∈ partitionBy, P f) (ho : ∀ f ∈ orderBy, P f) (hf : Q (.copied frame)) :
    P (windowSql partitionBy orderBy frame) := by
  have hframe := kept.when (!frame.isEmpty) (kept.append _ _
    (kept.when (!partitionBy.isEmpty || !orderBy.isEmpty) (kept.words " " rfl))
    (kept.copied _ hf))
  have hblank := kept.when (!partitionBy.isEmpty && !orderBy.isEmpty) (kept.words " " rfl)
  have hinner := kept.append _ _ (kept.append _ _ (kept.append _ _
    (kept.clause "PARTITION BY " rfl hp) hblank)
    (kept.clause "ORDER BY " rfl ho)) hframe
  have hwhole := kept.parens hinner
  rw [Fragment.parens, ← append_assoc, ← append_assoc, ← append_assoc] at hwhole
  exact hwhole

theorem memberSql (op : SetOperator) (h : P a) : P (op.memberSql a) := by
  have hop : P (text op.keyword) := by cases op <;> exact kept.words _ rfl
  exact kept.append _ _ (kept.append _ _ (kept.behind rfl hop) (kept.words " " rfl)) h

/-! ## Changing statements -/

/-- An insertion of parts that have the property. -/
theorem insertParts {p : InsertParts} (hw : P p.withClause)
    (ht : ∀ r ∈ p.target, ∀ t ∈ r.texts, Q t) (hc : ∀ f ∈ p.columns, P f)
    (hr : ∀ row ∈ p.rows, ∀ f ∈ row, P f) (hrun : ∀ run ∈ p.run, run.Holds P)
    (hs : ∀ f ∈ p.select, P f) (hconflict : P p.conflict) : P p.sql := by
  rw [InsertParts.sql]
  split
  · exact kept.fail _
  · rename_i columns rows hparts
    have hparts : (∀ f ∈ columns, P f) ∧ ∀ row ∈ rows, ∀ f ∈ row, P f := by
      cases hp : p.run with
      | none =>
          rw [hp] at hparts
          cases hparts
          exact ⟨hc, hr⟩
      | some run =>
          rw [hp] at hparts
          exact (hrun run hp).table (kept.words _ rfl) hparts
    split
    · exact kept.fail _
    · rename_i target htarget
      split
      · exact kept.fail _
      · have hstart := kept.append _ _ (kept.append _ _ hw (kept.words "INSERT INTO " rfl))
          (kept.targetSql (ht target htarget))
        have hcolumns := kept.when (!columns.isEmpty)
          (kept.enclosed " (" ")" _ rfl rfl (kept.commaList hparts.1))
        refine kept.append _ _ (kept.append _ _ (kept.append _ _ hstart hcolumns) ?_) hconflict
        split
        · refine kept.behind rfl (kept.commaList (List.forall_mem_map.mpr fun row hrow => ?_))
          exact kept.parens (kept.commaList (hparts.2 row hrow))
        · split
          · rename_i select hselect
            exact kept.behind rfl (hs select hselect)
          · exact kept.empty

/-- An update of parts that have the property. -/
theorem updateParts {p : UpdateParts} (hw : P p.withClause)
    (ht : ∀ r ∈ p.target, ∀ t ∈ r.texts, Q t) (ha : ∀ f ∈ p.assignments, P f)
    (hrun : ∀ run ∈ p.run, run.Holds P) (hr : P p.rest) : P p.sql := by
  rw [UpdateParts.sql]
  split
  · exact kept.fail _
  · rename_i assignments hparts
    have hparts : ∀ f ∈ assignments, P f := by
      cases hp : p.run with
      | none =>
          rw [hp] at hparts
          cases hparts
          exact ha
      | some run =>
          rw [hp] at hparts
          refine (hrun run hp).assignments (fun c v hc hv => ?_) hparts
          exact kept.append _ _ (kept.append _ _ hc (kept.words _ rfl)) hv
    split
    · exact kept.fail _
    · rename_i target htarget
      split
      · exact kept.fail _
      · have hstart := kept.append _ _ (kept.append _ _ hw (kept.words "UPDATE " rfl))
          (kept.targetSql (ht target htarget))
        exact kept.append _ _ (kept.append _ _ (kept.append _ _ hstart (kept.words " SET " rfl))
          (kept.commaList hparts)) hr

/-- A deletion of parts that have the property. -/
theorem deleteSql {withClause rest : Fragment} {target : Option Relation} (hw : P withClause)
    (ht : ∀ r ∈ target, ∀ t ∈ r.texts, Q t) (hr : P rest) (hasSource hasJoins : Bool) :
    P (deleteSql withClause target hasSource hasJoins rest) := by
  cases target with
  | none => exact kept.fail _
  | some target =>
      rw [SqlCompose.deleteSql]
      split
      · exact kept.fail _
      · exact kept.append _ _ (kept.append _ _ (kept.append _ _ hw (kept.words _ rfl))
          (kept.targetSql (ht target rfl))) hr

/-! ## Lists of the grammar -/

omit kept in
theorem fieldsSql {fs : List Field} (h : ∀ f ∈ fs, ∀ excluded, P (f.sql excluded))
    (excluded : List String) : ∀ a ∈ fieldsSql excluded fs, P a := by
  rw [fieldsSql_eq_map]
  exact List.forall_mem_map.mpr fun f hf => h f hf excluded

omit kept in
theorem predicatesSql {ps : List Predicate}
    (h : ∀ p ∈ ps, ∀ excluded only, P (p.sql excluded only)) (excluded : List String) :
    ∀ a ∈ predicatesSql excluded ps, P a := by
  rw [predicatesSql_eq_map]
  exact List.forall_mem_map.mpr fun p hp => h p hp excluded false

theorem format {format : String} {os : List Operand} (hformat : Q (.format format os.length))
    (h : ∀ o ∈ os, ∀ excluded, P (o.sql excluded)) (excluded : List String) :
    P (ofPieces (Template.ofFormat format).head ++
      fillSql excluded (Template.ofFormat format).tails os) := by
  rw [fillSql_eq_fill]
  refine kept.filled format _ ?_ (List.forall_mem_map.mpr fun o ho => h o ho excluded)
  rw [List.length_map]
  exact hformat

theorem group {members : List Predicate}
    (h : ∀ p ∈ members, ∀ excluded only, P (p.sql excluded only)) (toplevel : Bool)
    (aliasName : String) (op : LogicalOp) (negated : Bool) (excluded : List String) (only : Bool) :
    P ((Predicate.group toplevel aliasName op members negated).sql excluded only) := by
  match members, h with
  | [], _ => exact kept.empty
  | [p], h =>
      exact kept.append _ _ (kept.notSql negated)
        (kept.parensIf _ (h p List.mem_cons_self excluded true))
  | p :: q :: rest, h =>
      have hop : isWords op.separator = true := by cases op <;> rfl
      rw [Predicate.sql_group_many]
      exact kept.append _ _ (kept.notSql negated)
        (kept.parensIf _ (kept.sepBy hop (Kept.predicatesSql h excluded)))

theorem conditionsSql (keyword : String) (words : isWords keyword = true)
    {ps : List Predicate} (h : ∀ p ∈ ps, ∀ excluded only, P (p.sql excluded only))
    (excluded : List String) : P (conditionsSql keyword excluded ps) := by
  by_cases none : ps = []
  · rw [none]
    exact kept.empty
  · rw [conditionsSql_eq keyword excluded none]
    exact kept.behind words (kept.group h true "" .and false excluded false)

/-- What an update and a deletion have behind their target. -/
theorem changeClauses {source joins : Fragment} {conditions : List Predicate}
    {orderBy : List Field} (hs : P source) (hj : P joins)
    (hc : ∀ p ∈ conditions, ∀ excluded only, P (p.sql excluded only))
    (ho : ∀ f ∈ orderBy, ∀ excluded, P (f.sql excluded)) (limit offset : Option Int64) :
    P (source ++ joins ++ SqlCompose.conditionsSql " WHERE " [] conditions ++
      Fragment.clause " ORDER BY " (SqlCompose.fieldsSql [] orderBy) ++
      SqlCompose.countSql " LIMIT " limit ++ SqlCompose.countSql " OFFSET " offset) := by
  have hwhere := kept.conditionsSql " WHERE " rfl hc []
  have horderBy := kept.clause " ORDER BY " rfl (Kept.fieldsSql ho [])
  exact kept.append _ _ (kept.append _ _ (kept.append _ _ (kept.append _ _
    (kept.append _ _ hs hj) hwhere) horderBy) (kept.countSql rfl limit)) (kept.countSql rfl offset)

theorem membersSql (op : SetOperator) : ∀ {qs : List Query},
    (∀ q ∈ qs, ∀ toplevel?, P (q.sql toplevel?)) → P (membersSql op qs)
  | [], _ => kept.empty
  | _ :: _, h => by
      obtain ⟨hq, hrest⟩ := List.forall_mem_cons.mp h
      exact kept.append _ _ (kept.memberSql op (hq none)) (membersSql op hrest)

theorem compound {members : List Query} (h : ∀ q ∈ members, ∀ toplevel?, P (q.sql toplevel?))
    (toplevel : Bool) (op : SetOperator) (toplevel? : Option Bool) :
    P ((Query.compound toplevel op members).sql toplevel?) := by
  match members, h with
  | [], _ => exact kept.empty
  | [q], h => exact h q List.mem_cons_self _
  | p :: q :: rest, h =>
      obtain ⟨hp, hrest⟩ := List.forall_mem_cons.mp h
      obtain ⟨hq, hrest⟩ := List.forall_mem_cons.mp hrest
      rw [Query.sql]
      exact kept.parensIf _ (kept.append _ _ (kept.append _ _ (hp none)
        (kept.memberSql op (hq none))) (kept.membersSql op hrest))

theorem typedAlias {f : TypedField} (h : ∀ t ∈ f.texts, Q t) :
    P (SqlCompose.aliasSql f.column?.aliasName) := by
  cases f <;>
    exact kept.aliasSql (h _ (by simp [TypedField.texts, TypedField.column?, ColumnRef.texts]))

theorem fieldAlias {f : Field} (h : ∀ t ∈ f.texts, Q t) :
    P (SqlCompose.aliasSql f.aliasName) := by
  cases f with
  | custom c format operands =>
      exact kept.aliasSql (h _ (by simp [Field.texts, ColumnRef.texts, Field.aliasName]))
  | literal s => exact kept.empty
  | param name v => exact kept.empty
  | typed f => exact kept.typedAlias h
  | searchedCase aliasName branches fallback =>
      exact kept.aliasSql (h _ (by simp [Field.texts, Field.aliasName]))
  | simpleCase aliasName subject branches fallback =>
      exact kept.aliasSql (h _ (by simp [Field.texts, Field.aliasName]))
  | window w => exact kept.empty
  | predicate p =>
      cases p with
      | custom aliasName format operands negated =>
          exact kept.aliasSql (h _ (by
            simp [Field.texts, Predicate.texts, Field.aliasName, Predicate.aliasName]))
      | group toplevel aliasName op members negated =>
          exact kept.aliasSql (h _ (by
            simp [Field.texts, Predicate.texts, Field.aliasName, Predicate.aliasName]))
      | boolean f => exact kept.typedAlias h

omit kept in
theorem target_texts {target : Option Relation} (h : ∀ t ∈ relationTexts target, Q t) :
    ∀ r ∈ target, ∀ t ∈ r.texts, Q t := by
  rintro r ⟨⟩
  exact h

/-! ## The grammar -/

omit kept

mutual

theorem operand (kept : Kept P Q) : (o : Operand) → (∀ t ∈ o.texts, Q t) →
    (excluded : List String) → P (o.sql excluded)
  | .null, _, _ => kept.words _ rfl
  | .scalar v, _, _ => kept.arg v
  | .field f, h, excluded => kept.field f h excluded
  | .query q, h, _ => kept.query q h none
  | .slice [], _, _ => kept.words _ rfl
  | .slice (_ :: _), _, _ =>
      kept.commaList (List.forall_mem_map.mpr fun v _ => kept.arg v)
termination_by structural o => o

theorem operands (kept : Kept P Q) : (os : List Operand) → (∀ t ∈ operandsTexts os, Q t) →
    ∀ o ∈ os, ∀ excluded, P (o.sql excluded)
  | [], _ => nofun
  | o :: rest, h => by
      obtain ⟨ho, hrest⟩ := List.forall_mem_append.mp h
      exact List.forall_mem_cons.mpr ⟨kept.operand o ho, kept.operands rest hrest⟩
termination_by structural os => os

theorem rows (kept : Kept P Q) : (rs : List (List Operand)) → (∀ t ∈ rowsTexts rs, Q t) →
    ∀ row ∈ rowsSql rs, ∀ f ∈ row, P f
  | [], _ => nofun
  | r :: rest, h => by
      obtain ⟨hr, hrest⟩ := List.forall_mem_append.mp h
      refine List.forall_mem_cons.mpr ⟨?_, kept.rows rest hrest⟩
      rw [operandsSql_eq_map]
      exact List.forall_mem_map.mpr fun o ho => kept.operands r hr o ho []
termination_by structural rs => rs

theorem typedField (kept : Kept P Q) : (f : TypedField) → (∀ t ∈ f.texts, Q t) →
    (excluded : List String) → P (f.sql excluded)
  | .column _ c negated, h, excluded =>
      kept.append _ _ (kept.append _ _ (kept.notSql negated) (kept.nameSql excluded h))
        (kept.modifiersSql c)
  | .computed _ c format operands negated, h, excluded => by
      obtain ⟨h, hos⟩ := List.forall_mem_append.mp h
      have hformat := List.forall_mem_singleton.mp (List.forall_mem_append.mp h).2
      rw [TypedField.sql, append_assoc (SqlCompose.notSql negated)]
      exact kept.append _ _ (kept.append _ _ (kept.notSql negated)
        (kept.format hformat (kept.operands operands hos) excluded)) (kept.modifiersSql c)
termination_by structural f => f

theorem field (kept : Kept P Q) : (f : Field) → (∀ t ∈ f.texts, Q t) →
    (excluded : List String) → P (f.sql excluded)
  | .custom c format operands, h, excluded => by
      obtain ⟨h, hos⟩ := List.forall_mem_append.mp h
      obtain ⟨hc, hformat⟩ := List.forall_mem_append.mp h
      rw [Field.sql]
      split
      · split
        · exact kept.words _ rfl
        · exact kept.append _ _ (kept.nameSql excluded hc) (kept.modifiersSql c)
      · exact kept.append _ _ (kept.format (List.forall_mem_singleton.mp hformat)
          (kept.operands operands hos) excluded) (kept.modifiersSql c)
  | .literal s, h, _ => kept.copied s (List.forall_mem_singleton.mp h)
  | .param name v, _, _ => kept.namedArg name v
  | .typed f, h, excluded => kept.typedField f h excluded
  | .searchedCase _ branches fallback, h, excluded => by
      obtain ⟨h, hfallback⟩ := List.forall_mem_append.mp h
      obtain ⟨-, hbranches⟩ := List.forall_mem_append.mp h
      rw [Field.sql]
      split
      · exact kept.fail _
      · exact kept.append _ _ (kept.behind rfl (kept.searched branches hbranches excluded))
          (kept.fallback fallback hfallback excluded)
  | .simpleCase _ subject branches fallback, h, excluded => by
      obtain ⟨h, hfallback⟩ := List.forall_mem_append.mp h
      obtain ⟨h, hbranches⟩ := List.forall_mem_append.mp h
      obtain ⟨-, hsubject⟩ := List.forall_mem_append.mp h
      rw [Field.sql]
      split
      · exact kept.fail _
      · exact kept.append _ _ (kept.append _ _
          (kept.behind rfl (kept.operand subject hsubject excluded))
          (kept.simple branches hbranches excluded)) (kept.fallback fallback hfallback excluded)
  | .window w, h, _ => kept.window w h
  | .predicate p, h, excluded => kept.predicate p h excluded false
termination_by structural f => f

theorem fields (kept : Kept P Q) : (fs : List Field) → (∀ t ∈ fieldsTexts fs, Q t) →
    ∀ f ∈ fs, ∀ excluded, P (f.sql excluded)
  | [], _ => nofun
  | f :: rest, h => by
      obtain ⟨hf, hrest⟩ := List.forall_mem_append.mp h
      exact List.forall_mem_cons.mpr ⟨kept.field f hf, kept.fields rest hrest⟩
termination_by structural fs => fs

theorem projection (kept : Kept P Q) : (fs : List Field) → (∀ t ∈ fieldsTexts fs, Q t) →
    (excluded : List String) → ∀ a ∈ projectionSql excluded fs, P a
  | [], _, _ => nofun
  | f :: rest, h, excluded => by
      obtain ⟨hf, hrest⟩ := List.forall_mem_append.mp h
      exact List.forall_mem_cons.mpr
        ⟨kept.append _ _ (kept.field f hf excluded) (kept.fieldAlias hf),
          kept.projection rest hrest excluded⟩
termination_by structural fs => fs

theorem searched (kept : Kept P Q) : (bs : List SearchedBranch) →
    (∀ t ∈ searchedTexts bs, Q t) → (excluded : List String) → P (searchedSql excluded bs)
  | [], _, _ => kept.empty
  | ⟨test, result⟩ :: rest, h, excluded => by
      obtain ⟨h, hrest⟩ := List.forall_mem_append.mp h
      obtain ⟨htest, hresult⟩ := List.forall_mem_append.mp h
      have hwhen := kept.behind (s := " WHEN ") rfl (kept.predicate test htest excluded false)
      have hthen := kept.append _ _ hwhen (kept.words " THEN " rfl)
      exact kept.append _ _ (kept.append _ _ hthen (kept.operand result hresult excluded))
        (kept.searched rest hrest excluded)
termination_by structural bs => bs

theorem simple (kept : Kept P Q) : (bs : List SimpleBranch) → (∀ t ∈ simpleTexts bs, Q t) →
    (excluded : List String) → P (simpleSql excluded bs)
  | [], _, _ => kept.empty
  | ⟨test, result⟩ :: rest, h, excluded => by
      obtain ⟨h, hrest⟩ := List.forall_mem_append.mp h
      obtain ⟨htest, hresult⟩ := List.forall_mem_append.mp h
      have hwhen := kept.behind (s := " WHEN ") rfl (kept.operand test htest excluded)
      have hthen := kept.append _ _ hwhen (kept.words " THEN " rfl)
      exact kept.append _ _ (kept.append _ _ hthen (kept.operand result hresult excluded))
        (kept.simple rest hrest excluded)
termination_by structural bs => bs

theorem fallback (kept : Kept P Q) : (o? : Option Operand) → (∀ t ∈ operandTexts o?, Q t) →
    (excluded : List String) → P (fallbackSql excluded o?)
  | none, _, _ => kept.words _ rfl
  | some o, h, excluded =>
      kept.append _ _ (kept.behind rfl (kept.operand o h excluded)) (kept.words _ rfl)
termination_by structural o? => o?

theorem predicate (kept : Kept P Q) : (p : Predicate) → (∀ t ∈ p.texts, Q t) →
    (excluded : List String) → (only : Bool) → P (p.sql excluded only)
  | .custom _ format operands negated, h, excluded, _ => by
      obtain ⟨h, hos⟩ := List.forall_mem_append.mp h
      have hformat := List.forall_mem_singleton.mp (List.forall_mem_cons.mp h).2
      rw [Predicate.sql, append_assoc]
      exact kept.append _ _ (kept.notSql negated)
        (kept.format hformat (kept.operands operands hos) excluded)
  | .group toplevel aliasName op members negated, h, excluded, only =>
      kept.group (kept.predicates members (List.forall_mem_append.mp h).2) toplevel aliasName op
        negated excluded only
  | .boolean f, h, excluded, _ => kept.typedField f h excluded
termination_by structural p => p

theorem predicates (kept : Kept P Q) : (ps : List Predicate) →
    (∀ t ∈ predicatesTexts ps, Q t) → ∀ p ∈ ps, ∀ excluded only, P (p.sql excluded only)
  | [], _ => nofun
  | p :: rest, h => by
      obtain ⟨hp, hrest⟩ := List.forall_mem_append.mp h
      exact List.forall_mem_cons.mpr ⟨kept.predicate p hp, kept.predicates rest hrest⟩
termination_by structural ps => ps

theorem windowDefinition (kept : Kept P Q) : (w : Window) → (∀ t ∈ w.texts, Q t) →
    P w.definitionSql
  | ⟨_, partitionBy, orderBy, frame⟩, h => by
      obtain ⟨h, horder⟩ := List.forall_mem_append.mp h
      obtain ⟨hnames, hpartition⟩ := List.forall_mem_append.mp h
      exact kept.windowSql (Kept.fieldsSql (kept.fields partitionBy hpartition) [])
        (Kept.fieldsSql (kept.fields orderBy horder) [])
        (List.forall_mem_singleton.mp (List.forall_mem_cons.mp hnames).2)
termination_by structural w => w

theorem window (kept : Kept P Q) : (w : Window) → (∀ t ∈ w.texts, Q t) → P w.sql
  | ⟨name, partitionBy, orderBy, frame⟩, h => by
      obtain ⟨h, horder⟩ := List.forall_mem_append.mp h
      obtain ⟨hnames, hpartition⟩ := List.forall_mem_append.mp h
      obtain ⟨hname, hframe⟩ := List.forall_mem_cons.mp hnames
      rw [Window.sql]
      split
      · exact kept.windowSql (Kept.fieldsSql (kept.fields partitionBy hpartition) [])
          (Kept.fieldsSql (kept.fields orderBy horder) []) (List.forall_mem_singleton.mp hframe)
      · exact kept.copied _ hname
termination_by structural w => w

theorem windows (kept : Kept P Q) : (ws : List Window) → (∀ t ∈ windowsTexts ws, Q t) →
    ∀ f ∈ windowsSql ws, P f
  | [], _ => nofun
  | w :: rest, h => by
      obtain ⟨hw, hrest⟩ := List.forall_mem_append.mp h
      have hname : Q (.copied w.name) := hw _ (by cases w; simp [Window.texts])
      rw [windowsSql]
      split
      · exact kept.windows rest hrest
      · exact List.forall_mem_cons.mpr
          ⟨kept.append _ _ (kept.append _ _ (kept.copied _ hname) (kept.words _ rfl))
            (kept.windowDefinition w hw), kept.windows rest hrest⟩
termination_by structural ws => ws

theorem assignment (kept : Kept P Q) : (a : Assignment) → (∀ t ∈ a.texts, Q t) →
    (excluded : List String) → P (a.sql excluded)
  | ⟨target, value⟩, h, excluded => by
      obtain ⟨htarget, hvalue⟩ := List.forall_mem_append.mp h
      exact kept.append _ _ (kept.append _ _ (kept.operand target htarget excluded)
        (kept.words _ rfl)) (kept.parensIf _ (kept.operand value hvalue excluded))
termination_by structural a => a

theorem assignments (kept : Kept P Q) : (as : List Assignment) →
    (∀ t ∈ assignmentsTexts as, Q t) → (excluded : List String) →
      ∀ a ∈ assignmentsSql excluded as, P a
  | [], _, _ => nofun
  | a :: rest, h, excluded => by
      obtain ⟨ha, hrest⟩ := List.forall_mem_append.mp h
      exact List.forall_mem_cons.mpr
        ⟨kept.assignment a ha excluded, kept.assignments rest hrest excluded⟩
termination_by structural as => as

theorem step (kept : Kept P Q) : (s : MapperStep) → (∀ t ∈ s.texts, Q t) →
    (mode : MapperMode) → (excluded : List String) → (s.run mode excluded).Holds P
  | .set f o, h, mode, excluded => by
      obtain ⟨hf, ho⟩ := List.forall_mem_append.mp h
      have hcolumn := kept.field f hf excluded
      cases mode with
      | insert => exact List.forall_mem_singleton.mpr ⟨hcolumn, kept.operand o ho []⟩
      | update =>
          exact List.forall_mem_singleton.mpr
            ⟨hcolumn, kept.parensIf _ (kept.operand o ho excluded)⟩
  | .fail _, _, _, _ => nofun
  | .inMode m steps, h, mode, excluded => by
      rw [MapperStep.run]
      split
      · exact kept.steps steps h mode excluded
      · exact nofun
termination_by structural s => s

theorem steps (kept : Kept P Q) : (ss : List MapperStep) → (∀ t ∈ stepsTexts ss, Q t) →
    (mode : MapperMode) → (excluded : List String) → (runSteps mode excluded ss).Holds P
  | [], _, _, _ => nofun
  | s :: rest, h, mode, excluded => by
      obtain ⟨hs, hrest⟩ := List.forall_mem_append.mp h
      exact (kept.step s hs mode excluded).append (kept.steps rest hrest mode excluded)
termination_by structural ss => ss

theorem mapper (kept : Kept P Q) : (m : Option (List MapperStep)) →
    (∀ t ∈ mapperTexts m, Q t) → (mode : MapperMode) → (excluded : List String) →
      ∀ run ∈ runMapper mode excluded m, run.Holds P
  | none, _, _, _ => nofun
  | some steps, h, mode, excluded => by
      rintro run ⟨⟩
      exact kept.steps steps h mode excluded
termination_by structural m => m

theorem cteItem (kept : Kept P Q) : (c : Cte) → (∀ t ∈ c.texts, Q t) → Item P Q c.item
  | ⟨name, _, columns, body, _⟩, h => by
      obtain ⟨h, hbody⟩ := List.forall_mem_append.mp h
      obtain ⟨hnames, hcolumns⟩ := List.forall_mem_append.mp h
      exact ⟨(List.forall_mem_cons.mp hnames).1, List.forall_mem_map.mp hcolumns,
        kept.body name body hbody⟩
termination_by structural c => c

theorem body (kept : Kept P Q) (name : String) : (q? : Option Query) →
    (∀ t ∈ bodyTexts q?, Q t) → P (bodySql name q?)
  | none, _ => kept.fail _
  | some q, h => kept.query q h (some true)
termination_by structural q? => q?

theorem ctes (kept : Kept P Q) : (cs : List Cte) → (∀ t ∈ ctesTexts cs, Q t) →
    ∀ i ∈ cteItems cs, Item P Q i
  | [], _ => nofun
  | c :: rest, h => by
      obtain ⟨hc, hrest⟩ := List.forall_mem_append.mp h
      exact List.forall_mem_cons.mpr ⟨kept.cteItem c hc, kept.ctes rest hrest⟩
termination_by structural cs => cs

theorem table (kept : Kept P Q) : (t : Table) → (∀ x ∈ t.texts, Q x) → P t.sourceSql
  | .relation r, h => kept.targetSql h
  | .cte ⟨name, aliasName, columns, body, _⟩, h => by
      obtain ⟨h, -⟩ := List.forall_mem_append.mp h
      obtain ⟨hname, haliasName⟩ := List.forall_mem_cons.mp (List.forall_mem_append.mp h).1
      exact kept.append _ _ (kept.copied _ hname)
        (kept.aliasSql (List.forall_mem_singleton.mp haliasName))
  | .derived ⟨_, query⟩, h => by
      obtain ⟨halias, hquery⟩ := List.forall_mem_append.mp h
      exact kept.append _ _ (kept.parens (kept.query query hquery (some true)))
        (kept.aliasSql (List.forall_mem_singleton.mp halias))
termination_by structural t => t

theorem tableItems (kept : Kept P Q) : (t : Table) → (∀ x ∈ t.texts, Q x) →
    ∀ i ∈ t.items, Item P Q i
  | .cte c, h => List.forall_mem_singleton.mpr (kept.cteItem c h)
  | .relation _, _ => nofun
  | .derived _, _ => nofun
termination_by structural t => t

theorem source (kept : Kept P Q) (keyword : String) (words : isWords keyword = true) :
    (t? : Option Table) → (∀ x ∈ sourceTexts t?, Q x) → P (sourceSql keyword t?)
  | none, _ => kept.empty
  | some t, h => kept.behind words (kept.table t h)
termination_by structural t? => t?

theorem sourceItems (kept : Kept P Q) : (t? : Option Table) → (∀ x ∈ sourceTexts t?, Q x) →
    ∀ i ∈ sourceItems t?, Item P Q i
  | none, _ => nofun
  | some t, h => kept.tableItems t h
termination_by structural t? => t?

theorem join (kept : Kept P Q) : (j : Join) → (∀ t ∈ j.texts, Q t) → P j.sql
  | ⟨kind, table, on⟩, h => by
      obtain ⟨h, hon⟩ := List.forall_mem_append.mp h
      obtain ⟨hkind, htable⟩ := List.forall_mem_append.mp h
      have hkeyword := kept.append _ _ (kept.copied _ (List.forall_mem_singleton.mp hkind))
        (kept.words " " rfl)
      exact kept.append _ _ (kept.append _ _ hkeyword (kept.table table htable))
        (kept.conditionsSql _ rfl (kept.predicates on hon) [])
termination_by structural j => j

theorem joins (kept : Kept P Q) : (js : List Join) → (∀ t ∈ joinsTexts js, Q t) →
    P (joinsSql js)
  | [], _ => kept.empty
  | j :: rest, h => by
      obtain ⟨hj, hrest⟩ := List.forall_mem_append.mp h
      exact kept.append _ _ (kept.behind rfl (kept.join j hj)) (kept.joins rest hrest)
termination_by structural js => js

theorem joinItem (kept : Kept P Q) : (j : Join) → (∀ t ∈ j.texts, Q t) →
    ∀ i ∈ j.items, Item P Q i
  | ⟨_, table, _⟩, h =>
      kept.tableItems table (List.forall_mem_append.mp (List.forall_mem_append.mp h).1).2
termination_by structural j => j

theorem joinItems (kept : Kept P Q) : (js : List Join) → (∀ t ∈ joinsTexts js, Q t) →
    ∀ i ∈ joinItems js, Item P Q i
  | [], _ => nofun
  | j :: rest, h => by
      obtain ⟨hj, hrest⟩ := List.forall_mem_append.mp h
      exact List.forall_mem_append.mpr ⟨kept.joinItem j hj, kept.joinItems rest hrest⟩
termination_by structural js => js

theorem select (kept : Kept P Q) : (s : Select) → (∀ t ∈ s.texts, Q t) → P s.sql
  | ⟨ctes, distinct, distinctOn, fields, source, joins, conditions, groupBy, having, windows,
      orderBy, limit, withTies, offset⟩, h => by
      simp only [Select.texts, List.forall_mem_append] at h
      obtain ⟨⟨⟨⟨⟨⟨⟨⟨⟨hctes, hdistinct⟩, hfields⟩, hsource⟩, hjoins⟩, hconditions⟩, hgroup⟩,
        hhaving⟩, hwindows⟩, horder⟩ := h
      have hwith := kept.withClause (kept.ctes ctes hctes) (List.forall_mem_append.mpr
        ⟨kept.sourceItems source hsource, kept.joinItems joins hjoins⟩)
      have hdistinctOn : P (if distinctOn.isEmpty then Fragment.when distinct (text "DISTINCT ")
          else text "DISTINCT ON (" ++ Fragment.commaList (SqlCompose.fieldsSql [] distinctOn) ++
            text ") ") := by
        split
        · exact kept.when _ (kept.words _ rfl)
        · exact kept.enclosed _ _ _ rfl rfl
            (kept.commaList (Kept.fieldsSql (kept.fields distinctOn hdistinct) []))
      have hprojection : P (if fields.isEmpty then text "1"
          else Fragment.commaList (projectionSql [] fields)) := by
        split
        · exact kept.words _ rfl
        · exact kept.commaList (kept.projection fields hfields [])
      have hfrom := kept.source " FROM " rfl source hsource
      have hwhere :=
        kept.conditionsSql " WHERE " rfl (kept.predicates conditions hconditions) []
      have hgroupBy := kept.clause " GROUP BY " rfl
        (Kept.fieldsSql (kept.fields groupBy hgroup) [])
      have hhavingSql :=
        kept.conditionsSql " HAVING " rfl (kept.predicates having hhaving) []
      have hwindow := kept.clause " WINDOW " rfl (kept.windows windows hwindows)
      have horderBy := kept.clause " ORDER BY " rfl
        (Kept.fieldsSql (kept.fields orderBy horder) [])
      have hselect := kept.append _ _ (kept.append _ _ (kept.append _ _ hwith
        (kept.words "SELECT " rfl)) hdistinctOn) hprojection
      have hsources := kept.append _ _ (kept.append _ _ hselect hfrom) (kept.joins joins hjoins)
      have hclauses := kept.append _ _ (kept.append _ _ (kept.append _ _ (kept.append _ _
        (kept.append _ _ hsources hwhere) hgroupBy) hhavingSql) hwindow) horderBy
      exact kept.append _ _ (kept.append _ _ (kept.append _ _ hclauses (kept.countSql rfl limit))
        (kept.when _ (kept.words _ rfl))) (kept.countSql rfl offset)
termination_by structural s => s

theorem selectItems (kept : Kept P Q) : (s : Select) → (∀ t ∈ s.texts, Q t) →
    ∀ i ∈ s.items, Item P Q i
  | ⟨_, _, _, _, source, joins, _, _, _, _, _, _, _, _⟩, h => by
      simp only [Select.texts, List.forall_mem_append] at h
      obtain ⟨⟨⟨⟨⟨⟨⟨-, hsource⟩, hjoins⟩, -⟩, -⟩, -⟩, -⟩, -⟩ := h
      exact List.forall_mem_append.mpr
        ⟨kept.sourceItems source hsource, kept.joinItems joins hjoins⟩
termination_by structural s => s

theorem select? (kept : Kept P Q) : (s? : Option Select) → (∀ t ∈ selectTexts s?, Q t) →
    ∀ f ∈ selectSql s?, P f
  | none, _ => nofun
  | some s, h => by
      rintro f ⟨⟩
      exact kept.select s h
termination_by structural s? => s?

theorem selectItems? (kept : Kept P Q) : (s? : Option Select) → (∀ t ∈ selectTexts s?, Q t) →
    ∀ i ∈ SqlCompose.selectItems s?, Item P Q i
  | none, _ => nofun
  | some s, h => kept.selectItems s h
termination_by structural s? => s?

theorem conflict (kept : Kept P Q) : (c : Conflict) → (∀ t ∈ c.texts, Q t) →
    (excluded : List String) → P (c.sql excluded)
  | ⟨target, constraint, targetConditions, assignments, resolutionConditions⟩, h, excluded => by
      simp only [Conflict.texts, List.forall_mem_append] at h
      obtain ⟨⟨⟨⟨htarget, hconstraint⟩, htargetConditions⟩, hassignments⟩, hresolution⟩ := h
      refine kept.append _ _ (kept.append _ _ (kept.words _ rfl) ?_) ?_
      · split
        · exact kept.behind rfl (kept.copied _ (List.forall_mem_singleton.mp hconstraint))
        · split
          · exact kept.empty
          · exact kept.append _ _ (kept.enclosed _ _ _ rfl rfl
              (kept.commaList (Kept.fieldsSql (kept.fields target htarget) excluded)))
              (kept.conditionsSql _ rfl (kept.predicates targetConditions htargetConditions)
                excluded)
      · split
        · exact kept.words _ rfl
        · exact kept.append _ _
            (kept.behind rfl (kept.commaList (kept.assignments assignments hassignments excluded)))
            (kept.conditionsSql _ rfl (kept.predicates resolutionConditions hresolution) [])
termination_by structural c => c

theorem conflict? (kept : Kept P Q) : (c? : Option Conflict) → (∀ t ∈ conflictTexts c?, Q t) →
    (excluded : List String) → P (conflictSql excluded c?)
  | none, _, _ => kept.empty
  | some c, h, excluded => kept.conflict c h excluded
termination_by structural c? => c?

theorem insert (kept : Kept P Q) : (i : Insert) → (∀ t ∈ i.texts, Q t) → P i.sql
  | ⟨ctes, target, columns, rows, mapper, select, conflict⟩, h => by
      simp only [Insert.texts, List.forall_mem_append] at h
      obtain ⟨⟨⟨⟨⟨⟨hctes, htarget⟩, hcolumns⟩, hrows⟩, hmapper⟩, hselect⟩, hconflict⟩ := h
      exact kept.insertParts
        (kept.withClause (kept.ctes ctes hctes) (kept.selectItems? select hselect))
        (target_texts htarget) (Kept.fieldsSql (kept.fields columns hcolumns) _)
        (kept.rows rows hrows) (kept.mapper mapper hmapper .insert _)
        (kept.select? select hselect) (kept.conflict? conflict hconflict _)
termination_by structural i => i

theorem update (kept : Kept P Q) : (u : Update) → (∀ t ∈ u.texts, Q t) → P u.sql
  | ⟨ctes, target, assignments, mapper, source, joins, conditions, orderBy, limit, offset⟩, h => by
      simp only [Update.texts, List.forall_mem_append] at h
      obtain ⟨⟨⟨⟨⟨⟨⟨hctes, htarget⟩, hassignments⟩, hmapper⟩, hsource⟩, hjoins⟩, hconditions⟩,
        horder⟩ := h
      refine kept.updateParts
        (kept.withClause (kept.ctes ctes hctes) (List.forall_mem_append.mpr
          ⟨kept.sourceItems source hsource, kept.joinItems joins hjoins⟩))
        (target_texts htarget) (kept.assignments assignments hassignments _)
        (kept.mapper mapper hmapper .update _) ?_
      exact kept.changeClauses (kept.source _ rfl source hsource) (kept.joins joins hjoins)
        (kept.predicates conditions hconditions) (kept.fields orderBy horder) limit offset
termination_by structural u => u

theorem delete (kept : Kept P Q) : (d : Delete) → (∀ t ∈ d.texts, Q t) → P d.sql
  | ⟨ctes, target, source, joins, conditions, orderBy, limit, offset⟩, h => by
      simp only [Delete.texts, List.forall_mem_append] at h
      obtain ⟨⟨⟨⟨⟨hctes, htarget⟩, hsource⟩, hjoins⟩, hconditions⟩, horder⟩ := h
      refine kept.deleteSql
        (kept.withClause (kept.ctes ctes hctes) (List.forall_mem_append.mpr
          ⟨kept.sourceItems source hsource, kept.joinItems joins hjoins⟩))
        (target_texts htarget) ?_ _ _
      exact kept.changeClauses (kept.source _ rfl source hsource) (kept.joins joins hjoins)
        (kept.predicates conditions hconditions) (kept.fields orderBy horder) limit offset
termination_by structural d => d

theorem query (kept : Kept P Q) : (q : Query) → (∀ t ∈ q.texts, Q t) →
    (toplevel? : Option Bool) → P (q.sql toplevel?)
  | .select _ s, h, _ => kept.select s h
  | .insert _ i, h, _ => kept.insert i h
  | .update _ u, h, _ => kept.update u h
  | .delete _ d, h, _ => kept.delete d h
  | .raw _ format operands, h, _ => by
      obtain ⟨hformat, hos⟩ := List.forall_mem_append.mp h
      exact kept.format (List.forall_mem_singleton.mp hformat) (kept.operands operands hos) []
  | .compound toplevel op members, h, toplevel? =>
      kept.compound (kept.queries members h) toplevel op toplevel?
termination_by structural q => q

theorem queries (kept : Kept P Q) : (qs : List Query) → (∀ t ∈ queriesTexts qs, Q t) →
    ∀ q ∈ qs, ∀ toplevel?, P (q.sql toplevel?)
  | [], _ => nofun
  | q :: rest, h => by
      obtain ⟨hq, hrest⟩ := List.forall_mem_append.mp h
      exact List.forall_mem_cons.mpr ⟨kept.query q hq, kept.queries rest hrest⟩
termination_by structural qs => qs

end

end Fragment.Kept

end SqlCompose
