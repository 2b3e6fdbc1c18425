import SqlCompose.Proofs.Formats
import SqlCompose.Proofs.Render
import SqlCompose.Proofs.Rows
import SqlCompose.Proofs.Texts

/-!
# Placement of arguments

Every statement is written with its placeholders in step with its
arguments. The parts of the grammar are gone through once
(`Query.aligned_sql` and its companions): each is aligned if its raw texts
are paired, and the keywords between the parts keep them apart. What
follows about the text of a statement holds of any aligned fragment
(`SqlCompose.Proofs.Alignment`).

The clauses come first, as they are put together from parts that are
rendered already.
-/

namespace SqlCompose

open Fragment

/-- All texts of a list are paired. -/
def RawText.AllPaired (texts : List RawText) : Prop := ∀ t ∈ texts, t.Paired

namespace RawText

instance (texts : List RawText) : Decidable (AllPaired texts) :=
  inferInstanceAs (Decidable (∀ t ∈ texts, t.Paired))

theorem allPaired_append {xs ys : List RawText} :
    AllPaired (xs ++ ys) ↔ AllPaired xs ∧ AllPaired ys :=
  List.forall_mem_append

theorem allPaired_cons {t : RawText} {ts : List RawText} :
    AllPaired (t :: ts) ↔ t.Paired ∧ AllPaired ts :=
  List.forall_mem_cons

theorem allPaired_singleton {t : RawText} : AllPaired [t] ↔ t.Paired :=
  List.forall_mem_singleton

end RawText

open RawText hiding format

/-- A copied text is closed. -/
theorem RawText.Paired.closed {s : String} (h : (copied s).Paired) : (text s).Closed :=
  closed_text h

/-! ## Names -/

/-- A qualifier with its dot, or nothing. -/
theorem closed_qualifier (keep : Bool) {s : String} (h : (copied s).Paired) :
    (when keep (text s ++ text ".")).Closed :=
  (h.closed.toAligned.keyword rfl).when keep

theorem ColumnRef.closed_nameSql (excluded : List String) {c : ColumnRef}
    (h : AllPaired c.texts) : (c.nameSql excluded).Closed := by
  obtain ⟨hqualifier, hrest⟩ := allPaired_cons.mp h
  obtain ⟨hname, -⟩ := allPaired_cons.mp hrest
  exact (closed_qualifier _ hqualifier).append_closed hname.closed

theorem ColumnRef.trailing_modifiersSql (c : ColumnRef) : c.modifiersSql.Trailing := by
  refine Trailing.append ?_ ?_
  · cases c.order with
    | none => exact trailing_empty
    | some order => cases order <;> exact (opening_text rfl).trailing
  · cases c.nulls with
    | none => exact trailing_empty
    | some nulls => cases nulls <;> exact (opening_text rfl).trailing

theorem closed_notSql (negated : Bool) : (notSql negated).Closed :=
  (opening_text rfl).toClosed.when negated

theorem trailing_aliasSql {s : String} (h : (copied s).Paired) : (aliasSql s).Trailing :=
  ((opening_text rfl).append h.closed.toAligned).when _

theorem Relation.aligned_sql {r : Relation} (h : AllPaired r.texts) : r.sql.Aligned := by
  obtain ⟨hschema, hrest⟩ := allPaired_cons.mp h
  obtain ⟨hname, -⟩ := allPaired_cons.mp hrest
  exact (closed_qualifier _ hschema).append hname.closed.toAligned

theorem Relation.aligned_targetSql {r : Relation} (h : AllPaired r.texts) :
    r.targetSql.Aligned := by
  obtain ⟨-, hrest⟩ := allPaired_cons.mp h
  obtain ⟨-, halias⟩ := allPaired_cons.mp hrest
  exact (aligned_sql h).append (trailing_aliasSql (allPaired_singleton.mp halias))

theorem paired_target {target : Option Relation} (h : AllPaired (relationTexts target)) :
    ∀ r ∈ target, AllPaired r.texts := by
  rintro r ⟨⟩
  exact h

theorem trailing_countSql {keyword : String} (hk : isKeyword keyword = true) :
    ∀ n : Option Int64, (countSql keyword n).Trailing
  | none => trailing_empty
  | some _ => (opening_text hk).append (aligned_arg _)

/-! ## Definitions of a `WITH` clause -/

/-- A definition of paired texts and an aligned body. -/
structure WithItem.Aligned (item : WithItem) : Prop where
  name : (copied item.name).Paired
  columns : ∀ c ∈ item.columns, (copied c).Paired
  body : (item.body ()).Aligned

namespace WithItem

theorem Aligned.sql {item : WithItem} (h : item.Aligned) : item.sql.Aligned := by
  have hcolumns : (when (!item.columns.isEmpty)
      (text " (" ++ text (String.intercalate ", " item.columns) ++ text ")")).Trailing := by
    have hcolumns : Mark.evenRuns false (String.intercalate ", " item.columns).toList = true :=
      names_induction rfl (fun _ _ => Mark.evenRuns_append) rfl _ h.columns
    have hnames : (text (String.intercalate ", " item.columns)).Closed := closed_text hcolumns
    exact (((opening_text rfl).append hnames.toAligned).append (opening_text rfl).trailing).when _
  have hname := h.name.closed.toAligned.append hcolumns
  exact (((hname.keyword rfl).append h.body).keyword rfl).toAligned

theorem closed_clause {own tables : List WithItem} (ho : ∀ i ∈ own, i.Aligned)
    (ht : ∀ i ∈ tables, i.Aligned) : (clause own tables).Closed := by
  rw [clause]
  split
  · exact closed_empty
  · have hitems : (commaList ((firsts [] (own ++ tables)).map WithItem.sql)).Aligned := by
      refine aligned_commaList fun f hf => ?_
      obtain ⟨item, hitem, rfl⟩ := List.mem_map.mp hf
      exact ((List.mem_append.mp (mem_of_mem_firsts hitem)).elim (ho item) (ht item)).sql
    have hkeyword : ∀ b : Bool,
        (text (if b then "WITH RECURSIVE " else "WITH ")).Closed := by
      intro b
      cases b <;> exact (opening_text rfl).toClosed
    exact ((hkeyword _).append hitems).keyword rfl

end WithItem

/-! ## Windows and set operations -/

theorem aligned_windowSql {partitionBy orderBy : List Fragment} {frame : String}
    (hp : ∀ f ∈ partitionBy, f.Aligned) (ho : ∀ f ∈ orderBy, f.Aligned)
    (hf : (copied frame).Paired) : (windowSql partitionBy orderBy frame).Aligned := by
  have hopen : (text "(").Closed := (opening_text rfl).toClosed
  by_cases hnone : partitionBy = [] ∧ orderBy = []
  · -- The frame stands behind the parenthesis alone.
    obtain ⟨rfl, rfl⟩ := hnone
    have hframe : (when (!frame.isEmpty) (when false (text " ") ++ text frame)).Closed :=
      (closed_empty.append_closed hf.closed).when _
    have hempty := ((hopen.append_closed closed_empty).append_closed closed_empty).append_closed
      closed_empty
    exact ((hempty.append_closed hframe).toAligned.keyword rfl).toAligned
  · have hblank : (!partitionBy.isEmpty || !orderBy.isEmpty) = true := by
      rw [← Bool.not_and, Bool.not_eq_true', Bool.and_eq_false_imp]
      intro hp
      exact Bool.eq_false_iff.mpr fun ho =>
        hnone ⟨List.isEmpty_iff.mp hp, List.isEmpty_iff.mp ho⟩
    have hframe : (when (!frame.isEmpty)
        (when (!partitionBy.isEmpty || !orderBy.isEmpty) (text " ") ++ text frame)).Trailing := by
      rw [hblank]
      exact ((opening_text rfl).append hf.closed.toAligned).when _
    have hlists : (text "(" ++ clause "PARTITION BY " partitionBy ++
        when (!partitionBy.isEmpty && !orderBy.isEmpty) (text " ") ++
        clause "ORDER BY " orderBy).Aligned :=
      ((hopen.append (trailing_clause rfl hp).toAligned).append
        ((opening_text rfl).trailing.when _)).append (trailing_clause rfl ho)
    exact ((hlists.append hframe).keyword rfl).toAligned

theorem SetOperator.trailing_memberSql (op : SetOperator) {member : Fragment}
    (h : member.Aligned) : (op.memberSql member).Trailing := by
  have hop : (text op.keyword).Trailing := by
    cases op <;> exact (opening_text rfl).trailing
  rw [memberSql, append_assoc, append_assoc]
  exact (opening_text rfl).append (hop.toAligned.append ((opening_text rfl).append h))

/-! ## Changing statements -/

/-- A mapper's run whose columns and values are aligned. -/
def MapperRun.Aligned (run : MapperRun) : Prop :=
  ∀ cell ∈ run.cells, cell.column.Aligned ∧ cell.value.Aligned

namespace MapperRun

theorem Aligned.append {a b : MapperRun} (ha : a.Aligned) (hb : b.Aligned) :
    (a.append b).Aligned :=
  Holds.append ha hb

theorem Aligned.table {run : MapperRun} (h : run.Aligned) {columns : List Fragment}
    {rows : List (List Fragment)} (ht : run.table = .ok (columns, rows)) :
    (∀ f ∈ columns, f.Aligned) ∧ ∀ row ∈ rows, ∀ f ∈ row, f.Aligned :=
  Holds.table h (opening_text rfl).toAligned ht

theorem Aligned.assignments {run : MapperRun} (h : run.Aligned) {fs : List Fragment}
    (ha : run.assignments = .ok fs) : ∀ f ∈ fs, f.Aligned :=
  Holds.assignments h (fun _ _ hc hv => (hc.keyword rfl).append hv) ha

end MapperRun

theorem aligned_rowSql {cells : List Fragment} (h : ∀ f ∈ cells, f.Aligned) :
    (rowSql cells).Aligned :=
  (aligned_commaList h).parens.toAligned

/-- An insertion of aligned parts. -/
theorem InsertParts.aligned_sql {p : InsertParts} (hw : p.withClause.Closed)
    (ht : ∀ r ∈ p.target, AllPaired r.texts) (hc : ∀ f ∈ p.columns, f.Aligned)
    (hr : ∀ row ∈ p.rows, ∀ f ∈ row, f.Aligned) (hrun : ∀ run ∈ p.run, run.Aligned)
    (hs : ∀ f ∈ p.select, f.Aligned) (hconflict : p.conflict.Trailing) : p.sql.Aligned := by
  rw [InsertParts.sql]
  split
  · exact (closed_fail _).toAligned
  · rename_i columns rows hparts
    have hparts : (∀ f ∈ columns, f.Aligned) ∧ ∀ row ∈ rows, ∀ f ∈ row, f.Aligned := by
      cases hp : p.run with
      | none =>
          rw [hp] at hparts
          cases hparts
          exact ⟨hc, hr⟩
      | some run =>
          rw [hp] at hparts
          exact (hrun run hp).table hparts
    split
    · exact (closed_fail _).toAligned
    · rename_i target htarget
      split
      · exact (closed_fail _).toAligned
      · have hstart : (p.withClause ++ text "INSERT INTO " ++ target.targetSql).Aligned :=
          (hw.toAligned.keyword rfl).append (Relation.aligned_targetSql (ht target htarget))
        have hcolumns : (when (!columns.isEmpty)
            (text " (" ++ commaList columns ++ text ")")).Trailing :=
          (((opening_text rfl).append (aligned_commaList hparts.1)).append
            (opening_text rfl).trailing).when _
        refine ((hstart.append hcolumns).append ?_).append hconflict
        split
        · refine (opening_text rfl).append (aligned_commaList fun f hf => ?_)
          obtain ⟨row, hrow, rfl⟩ := List.mem_map.mp hf
          exact aligned_rowSql (hparts.2 row hrow)
        · split
          · rename_i select hselect
            exact (opening_text rfl).append (hs select hselect)
          · exact trailing_empty

/-- An update of aligned parts. -/
theorem UpdateParts.aligned_sql {p : UpdateParts} (hw : p.withClause.Closed)
    (ht : ∀ r ∈ p.target, AllPaired r.texts) (ha : ∀ f ∈ p.assignments, f.Aligned)
    (hrun : ∀ run ∈ p.run, run.Aligned) (hr : p.rest.Trailing) : p.sql.Aligned := by
  rw [UpdateParts.sql]
  split
  · exact (closed_fail _).toAligned
  · rename_i assignments hparts
    have hparts : ∀ f ∈ assignments, f.Aligned := by
      cases hp : p.run with
      | none =>
          rw [hp] at hparts
          cases hparts
          exact ha
      | some run =>
          rw [hp] at hparts
          exact (hrun run hp).assignments hparts
    split
    · exact (closed_fail _).toAligned
    · rename_i target htarget
      split
      · exact (closed_fail _).toAligned
      · have hstart : (p.withClause ++ text "UPDATE " ++ target.targetSql).Aligned :=
          (hw.toAligned.keyword rfl).append (Relation.aligned_targetSql (ht target htarget))
        exact ((hstart.keyword rfl).append (aligned_commaList hparts)).append hr

/-- A deletion of aligned parts. -/
theorem aligned_deleteSql {withClause rest : Fragment} {target : Option Relation}
    (hw : withClause.Closed) (ht : ∀ r ∈ target, AllPaired r.texts) (hr : rest.Trailing)
    (hasSource hasJoins : Bool) :
    (deleteSql withClause target hasSource hasJoins rest).Aligned := by
  cases target with
  | none => exact (closed_fail _).toAligned
  | some target =>
      rw [deleteSql]
      split
      · exact (closed_fail _).toAligned
      · exact ((hw.toAligned.keyword rfl).append
          (Relation.aligned_targetSql (ht target rfl))).append hr

/-! ## Lists of the grammar -/

theorem aligned_fieldsSql {fs : List Field}
    (h : ∀ f ∈ fs, ∀ excluded, (f.sql excluded).Aligned) (excluded : List String) :
    ∀ a ∈ fieldsSql excluded fs, a.Aligned := by
  rw [fieldsSql_eq_map]
  exact List.forall_mem_map.mpr fun f hf => h f hf excluded

theorem trailing_fieldsClause {keyword : String} (hk : isKeyword keyword = true)
    {fs : List Field} (h : ∀ f ∈ fs, ∀ excluded, (f.sql excluded).Aligned) :
    (clause keyword (fieldsSql [] fs)).Trailing :=
  trailing_clause hk (aligned_fieldsSql h [])

theorem aligned_predicatesSql {ps : List Predicate}
    (h : ∀ p ∈ ps, ∀ excluded only, (p.sql excluded only).Aligned) (excluded : List String) :
    ∀ a ∈ predicatesSql excluded ps, a.Aligned := by
  rw [predicatesSql_eq_map]
  exact List.forall_mem_map.mpr fun p hp => h p hp excluded false

theorem Predicate.aligned_group {members : List Predicate}
    (h : ∀ p ∈ members, ∀ excluded only, (p.sql excluded only).Aligned) (toplevel : Bool)
    (aliasName : String) (op : LogicalOp) (negated : Bool) (excluded : List String) (only : Bool) :
    ((group toplevel aliasName op members negated).sql excluded only).Aligned := by
  match members, h with
  | [], _ =>
      rw [Predicate.sql]
      exact closed_empty.toAligned
  | [p], h =>
      rw [Predicate.sql]
      exact (closed_notSql negated).append ((h p List.mem_cons_self excluded true).parensIf _)
  | p :: q :: rest, h =>
      rw [Predicate.sql]
      have hop : isKeyword op.separator = true := by cases op <;> rfl
      exact (closed_notSql negated).append
        ((aligned_sepBy hop (aligned_predicatesSql h excluded)).parensIf _)

theorem trailing_conditionsSql {keyword : String} (hk : isKeyword keyword = true) :
    ∀ {ps : List Predicate}, (∀ p ∈ ps, ∀ excluded only, (p.sql excluded only).Aligned) →
      ∀ excluded, (conditionsSql keyword excluded ps).Trailing
  | [], _, _ => trailing_empty
  | [p], h, excluded => (opening_text hk).append (h p List.mem_cons_self excluded true)
  | _ :: _ :: _, h, excluded =>
      (opening_text hk).append (aligned_sepBy rfl (aligned_predicatesSql h excluded))

/-- What an update and a deletion have behind their target. -/
theorem trailing_changeClauses {source joins : Fragment} {conditions : List Predicate}
    {orderBy : List Field} (hs : source.Trailing) (hj : joins.Trailing)
    (hc : ∀ p ∈ conditions, ∀ excluded only, (p.sql excluded only).Aligned)
    (ho : ∀ f ∈ orderBy, ∀ excluded, (f.sql excluded).Aligned) (limit offset : Option Int64) :
    (source ++ joins ++ conditionsSql " WHERE " [] conditions ++
      clause " ORDER BY " (fieldsSql [] orderBy) ++ countSql " LIMIT " limit ++
      countSql " OFFSET " offset).Trailing := by
  have hwhere : (conditionsSql " WHERE " [] conditions).Trailing :=
    trailing_conditionsSql rfl hc []
  have horderBy : (clause " ORDER BY " (fieldsSql [] orderBy)).Trailing :=
    trailing_fieldsClause rfl ho
  exact ((((hs.append hj).append hwhere).append horderBy).append
    (trailing_countSql rfl limit)).append (trailing_countSql rfl offset)

theorem trailing_membersSql (op : SetOperator) :
    ∀ {qs : List Query}, (∀ q ∈ qs, ∀ toplevel?, (q.sql toplevel?).Aligned) →
      (membersSql op qs).Trailing
  | [], _ => trailing_empty
  | q :: _, h =>
      (op.trailing_memberSql (h q List.mem_cons_self none)).append
        (trailing_membersSql op fun q hq => h q (List.mem_cons_of_mem _ hq))

theorem Query.aligned_compound {members : List Query}
    (h : ∀ q ∈ members, ∀ toplevel?, (q.sql toplevel?).Aligned) (toplevel : Bool)
    (op : SetOperator) (toplevel? : Option Bool) :
    ((compound toplevel op members).sql toplevel?).Aligned := by
  match members, h with
  | [], _ =>
      rw [Query.sql]
      exact closed_empty.toAligned
  | [q], h =>
      rw [Query.sql]
      exact h q List.mem_cons_self _
  | p :: q :: rest, h =>
      rw [Query.sql]
      have hp := h p List.mem_cons_self none
      have hrest := fun q hq => h q (List.mem_cons_of_mem _ hq)
      exact ((hp.append (op.trailing_memberSql (hrest q List.mem_cons_self none))).append
        (trailing_membersSql op fun q hq => hrest q (List.mem_cons_of_mem _ hq))).parensIf _

theorem TypedField.paired_aliasName {f : TypedField} (h : AllPaired f.texts) :
    (copied f.column?.aliasName).Paired := by
  have hc : AllPaired f.column?.texts := by
    cases f with
    | column kind c negated => exact h
    | computed kind c format operands negated =>
        exact (allPaired_append.mp (allPaired_append.mp h).1).1
  exact (allPaired_cons.mp (allPaired_cons.mp (allPaired_cons.mp hc).2).2).1

theorem Field.paired_aliasName {f : Field} (h : AllPaired f.texts) :
    (copied f.aliasName).Paired := by
  cases f with
  | custom c format operands =>
      have hc := (allPaired_append.mp (allPaired_append.mp h).1).1
      exact (allPaired_cons.mp (allPaired_cons.mp (allPaired_cons.mp hc).2).2).1
  | literal s => rfl
  | param name v => rfl
  | typed f => exact TypedField.paired_aliasName h
  | searchedCase aliasName branches fallback => exact h _ (by simp [Field.texts, Field.aliasName])
  | simpleCase aliasName subject branches fallback =>
      exact h _ (by simp [Field.texts, Field.aliasName])
  | window w => rfl
  | predicate p =>
      cases p with
      | custom aliasName format operands negated =>
          exact h _ (by simp [Field.texts, Predicate.texts, Field.aliasName, Predicate.aliasName])
      | group toplevel aliasName op members negated =>
          exact h _ (by simp [Field.texts, Predicate.texts, Field.aliasName, Predicate.aliasName])
      | boolean f => exact TypedField.paired_aliasName h

theorem Window.paired_name {w : Window} (h : AllPaired w.texts) : (copied w.name).Paired := by
  cases w
  exact (allPaired_cons.mp (allPaired_append.mp (allPaired_append.mp h).1).1).1

theorem Cte.paired_name {c : Cte} (h : AllPaired c.texts) : (copied c.name).Paired := by
  cases c
  exact (allPaired_cons.mp (allPaired_append.mp (allPaired_append.mp h).1).1).1

theorem Cte.paired_aliasName {c : Cte} (h : AllPaired c.texts) :
    (copied c.aliasName).Paired := by
  cases c
  have hnames := (allPaired_append.mp (allPaired_append.mp h).1).1
  exact allPaired_singleton.mp (allPaired_cons.mp hnames).2

/-! ## The grammar -/

mutual

theorem Operand.aligned_sql : (o : Operand) → AllPaired o.texts → (excluded : List String) →
    (o.sql excluded).Aligned
  | .null, _, _ => (opening_text rfl).toAligned
  | .scalar v, _, _ => aligned_arg v
  | .field f, h, excluded => f.aligned_sql h excluded
  | .query q, h, _ => q.aligned_sql h none
  | .slice [], _, _ => (opening_text rfl).toAligned
  | .slice (_ :: _), _, _ =>
      aligned_commaList (List.forall_mem_map.mpr fun v _ => aligned_arg v)
termination_by structural o => o

theorem aligned_operands : (os : List Operand) → AllPaired (operandsTexts os) →
    ∀ o ∈ os, ∀ excluded, (o.sql excluded).Aligned
  | [], _ => nofun
  | o :: rest, h => by
      obtain ⟨ho, hrest⟩ := allPaired_append.mp h
      exact List.forall_mem_cons.mpr ⟨o.aligned_sql ho, aligned_operands rest hrest⟩
termination_by structural os => os

theorem aligned_rows : (rows : List (List Operand)) → AllPaired (rowsTexts rows) →
    ∀ row ∈ rowsSql rows, ∀ f ∈ row, f.Aligned
  | [], _ => nofun
  | r :: rest, h => by
      obtain ⟨hr, hrest⟩ := allPaired_append.mp h
      refine List.forall_mem_cons.mpr ⟨?_, aligned_rows rest hrest⟩
      rw [operandsSql_eq_map]
      exact List.forall_mem_map.mpr fun o ho => aligned_operands r hr o ho []
termination_by structural rows => rows

theorem TypedField.aligned_sql : (f : TypedField) → AllPaired f.texts →
    (excluded : List String) → (f.sql excluded).Aligned
  | .column _ c negated, h, excluded =>
      ((closed_notSql negated).append_closed (c.closed_nameSql excluded h)).toAligned.append
        c.trailing_modifiersSql
  | .computed _ c format operands negated, h, excluded => by
      obtain ⟨h, hos⟩ := allPaired_append.mp h
      have hformat := allPaired_singleton.mp (allPaired_append.mp h).2
      rw [TypedField.sql, append_assoc (notSql negated)]
      have hfilled := aligned_format hformat (aligned_operands operands hos) excluded
      exact ((closed_notSql negated).append hfilled).append c.trailing_modifiersSql
termination_by structural f => f

theorem Field.aligned_sql : (f : Field) → AllPaired f.texts → (excluded : List String) →
    (f.sql excluded).Aligned
  | .custom c format operands, h, excluded => by
      obtain ⟨h, hos⟩ := allPaired_append.mp h
      obtain ⟨hc, hformat⟩ := allPaired_append.mp h
      rw [Field.sql]
      split
      · split
        · exact (opening_text rfl).toAligned
        · exact (c.closed_nameSql excluded hc).toAligned.append c.trailing_modifiersSql
      · exact (aligned_format (allPaired_singleton.mp hformat) (aligned_operands operands hos)
          excluded).append c.trailing_modifiersSql
  | .literal s, h, _ => (allPaired_singleton.mp h).closed.toAligned
  | .param name v, _, _ => aligned_namedArg name v
  | .typed f, h, excluded => f.aligned_sql h excluded
  | .searchedCase _ branches fallback, h, excluded => by
      obtain ⟨h, hfallback⟩ := allPaired_append.mp h
      obtain ⟨-, hbranches⟩ := allPaired_append.mp h
      rw [Field.sql]
      split
      · exact (closed_fail _).toAligned
      · exact ((opening_text rfl).toClosed.append
          (trailing_searchedSql branches hbranches excluded).toAligned).append
          (trailing_fallbackSql fallback hfallback excluded)
  | .simpleCase _ subject branches fallback, h, excluded => by
      obtain ⟨h, hfallback⟩ := allPaired_append.mp h
      obtain ⟨h, hbranches⟩ := allPaired_append.mp h
      obtain ⟨-, hsubject⟩ := allPaired_append.mp h
      rw [Field.sql]
      split
      · exact (closed_fail _).toAligned
      · exact (((opening_text rfl).toClosed.append (subject.aligned_sql hsubject excluded)).append
          (trailing_simpleSql branches hbranches excluded)).append
          (trailing_fallbackSql fallback hfallback excluded)
  | .window w, h, _ => w.aligned_sql h
  | .predicate p, h, excluded => p.aligned_sql h excluded false
termination_by structural f => f

theorem aligned_fields : (fs : List Field) → AllPaired (fieldsTexts fs) →
    ∀ f ∈ fs, ∀ excluded, (f.sql excluded).Aligned
  | [], _ => nofun
  | f :: rest, h => by
      obtain ⟨hf, hrest⟩ := allPaired_append.mp h
      exact List.forall_mem_cons.mpr ⟨f.aligned_sql hf, aligned_fields rest hrest⟩
termination_by structural fs => fs

theorem aligned_projectionSql : (fs : List Field) → AllPaired (fieldsTexts fs) →
    (excluded : List String) → ∀ a ∈ projectionSql excluded fs, a.Aligned
  | [], _, _ => nofun
  | f :: rest, h, excluded => by
      obtain ⟨hf, hrest⟩ := allPaired_append.mp h
      exact List.forall_mem_cons.mpr
        ⟨(f.aligned_sql hf excluded).append (trailing_aliasSql (Field.paired_aliasName hf)),
          aligned_projectionSql rest hrest excluded⟩
termination_by structural fs => fs

theorem trailing_searchedSql : (bs : List SearchedBranch) → AllPaired (searchedTexts bs) →
    (excluded : List String) → (searchedSql excluded bs).Trailing
  | [], _, _ => trailing_empty
  | ⟨test, result⟩ :: rest, h, excluded => by
      obtain ⟨h, hrest⟩ := allPaired_append.mp h
      obtain ⟨htest, hresult⟩ := allPaired_append.mp h
      have hwhen : (text " WHEN " ++ test.sql excluded false).Trailing :=
        (opening_text rfl).append (test.aligned_sql htest excluded false)
      have hthen : (text " THEN " ++ result.sql excluded).Trailing :=
        (opening_text rfl).append (result.aligned_sql hresult excluded)
      rw [searchedSql, append_assoc (text " WHEN " ++ _)]
      exact (hwhen.append hthen).append (trailing_searchedSql rest hrest excluded)
termination_by structural bs => bs

theorem trailing_simpleSql : (bs : List SimpleBranch) → AllPaired (simpleTexts bs) →
    (excluded : List String) → (simpleSql excluded bs).Trailing
  | [], _, _ => trailing_empty
  | ⟨test, result⟩ :: rest, h, excluded => by
      obtain ⟨h, hrest⟩ := allPaired_append.mp h
      obtain ⟨htest, hresult⟩ := allPaired_append.mp h
      have hwhen : (text " WHEN " ++ test.sql excluded).Trailing :=
        (opening_text rfl).append (test.aligned_sql htest excluded)
      have hthen : (text " THEN " ++ result.sql excluded).Trailing :=
        (opening_text rfl).append (result.aligned_sql hresult excluded)
      rw [simpleSql, append_assoc (text " WHEN " ++ _)]
      exact (hwhen.append hthen).append (trailing_simpleSql rest hrest excluded)
termination_by structural bs => bs

theorem trailing_fallbackSql : (o? : Option Operand) → AllPaired (operandTexts o?) →
    (excluded : List String) → (fallbackSql excluded o?).Trailing
  | none, _, _ => (opening_text rfl).trailing
  | some o, h, excluded =>
      ((opening_text rfl).append (o.aligned_sql h excluded)).append (opening_text rfl).trailing
termination_by structural o? => o?

theorem Predicate.aligned_sql : (p : Predicate) → AllPaired p.texts →
    (excluded : List String) → (only : Bool) → (p.sql excluded only).Aligned
  | .custom _ format operands negated, h, excluded, _ => by
      obtain ⟨h, hos⟩ := allPaired_append.mp h
      have hformat := allPaired_singleton.mp (allPaired_cons.mp h).2
      rw [Predicate.sql, append_assoc]
      exact (closed_notSql negated).append
        (aligned_format hformat (aligned_operands operands hos) excluded)
  | .group toplevel aliasName op members negated, h, excluded, only =>
      Predicate.aligned_group (aligned_predicates members (allPaired_append.mp h).2) toplevel
        aliasName op negated excluded only
  | .boolean f, h, excluded, _ => f.aligned_sql h excluded
termination_by structural p => p

theorem aligned_predicates : (ps : List Predicate) → AllPaired (predicatesTexts ps) →
    ∀ p ∈ ps, ∀ excluded only, (p.sql excluded only).Aligned
  | [], _ => nofun
  | p :: rest, h => by
      obtain ⟨hp, hrest⟩ := allPaired_append.mp h
      exact List.forall_mem_cons.mpr ⟨p.aligned_sql hp, aligned_predicates rest hrest⟩
termination_by structural ps => ps

theorem Window.aligned_definitionSql : (w : Window) → AllPaired w.texts →
    w.definitionSql.Aligned
  | ⟨_, partitionBy, orderBy, frame⟩, h => by
      obtain ⟨h, horder⟩ := allPaired_append.mp h
      obtain ⟨hnames, hpartition⟩ := allPaired_append.mp h
      exact aligned_windowSql (aligned_fieldsSql (aligned_fields partitionBy hpartition) [])
        (aligned_fieldsSql (aligned_fields orderBy horder) [])
        (allPaired_singleton.mp (allPaired_cons.mp hnames).2)
termination_by structural w => w

theorem Window.aligned_sql : (w : Window) → AllPaired w.texts → w.sql.Aligned
  | ⟨name, partitionBy, orderBy, frame⟩, h => by
      obtain ⟨h, horder⟩ := allPaired_append.mp h
      obtain ⟨hnames, hpartition⟩ := allPaired_append.mp h
      obtain ⟨hname, hframe⟩ := allPaired_cons.mp hnames
      rw [Window.sql]
      split
      · exact aligned_windowSql (aligned_fieldsSql (aligned_fields partitionBy hpartition) [])
          (aligned_fieldsSql (aligned_fields orderBy horder) [])
          (allPaired_singleton.mp hframe)
      · exact hname.closed.toAligned
termination_by structural w => w

theorem aligned_windowsSql : (ws : List Window) → AllPaired (windowsTexts ws) →
    ∀ f ∈ windowsSql ws, f.Aligned
  | [], _ => nofun
  | w :: rest, h => by
      obtain ⟨hw, hrest⟩ := allPaired_append.mp h
      have hname := Window.paired_name hw
      rw [windowsSql]
      split
      · exact aligned_windowsSql rest hrest
      · exact List.forall_mem_cons.mpr
          ⟨(hname.closed.toAligned.keyword rfl).append (w.aligned_definitionSql hw),
            aligned_windowsSql rest hrest⟩
termination_by structural ws => ws

theorem Assignment.aligned_sql : (a : Assignment) → AllPaired a.texts →
    (excluded : List String) → (a.sql excluded).Aligned
  | ⟨target, value⟩, h, excluded => by
      obtain ⟨htarget, hvalue⟩ := allPaired_append.mp h
      exact ((target.aligned_sql htarget excluded).keyword rfl).append
        ((value.aligned_sql hvalue excluded).parensIf _)
termination_by structural a => a

theorem aligned_assignmentsSql : (as : List Assignment) → AllPaired (assignmentsTexts as) →
    (excluded : List String) → ∀ f ∈ assignmentsSql excluded as, f.Aligned
  | [], _, _ => nofun
  | a :: rest, h, excluded => by
      obtain ⟨ha, hrest⟩ := allPaired_append.mp h
      exact List.forall_mem_cons.mpr
        ⟨a.aligned_sql ha excluded, aligned_assignmentsSql rest hrest excluded⟩
termination_by structural as => as

theorem MapperStep.aligned_run : (s : MapperStep) → AllPaired s.texts → (mode : MapperMode) →
    (excluded : List String) → (s.run mode excluded).Aligned
  | .set f o, h, mode, excluded => by
      obtain ⟨hf, ho⟩ := allPaired_append.mp h
      have hcolumn := f.aligned_sql hf excluded
      cases mode with
      | insert => exact List.forall_mem_singleton.mpr ⟨hcolumn, o.aligned_sql ho []⟩
      | update =>
          exact List.forall_mem_singleton.mpr
            ⟨hcolumn, (o.aligned_sql ho excluded).parensIf _⟩
  | .fail _, _, _, _ => nofun
  | .inMode m steps, h, mode, excluded => by
      rw [MapperStep.run]
      split
      · exact aligned_runSteps steps h mode excluded
      · exact nofun
termination_by structural s => s

theorem aligned_runSteps : (ss : List MapperStep) → AllPaired (stepsTexts ss) →
    (mode : MapperMode) → (excluded : List String) → (runSteps mode excluded ss).Aligned
  | [], _, _, _ => nofun
  | s :: rest, h, mode, excluded => by
      obtain ⟨hs, hrest⟩ := allPaired_append.mp h
      exact (s.aligned_run hs mode excluded).append (aligned_runSteps rest hrest mode excluded)
termination_by structural ss => ss

theorem aligned_runMapper : (m : Option (List MapperStep)) → AllPaired (mapperTexts m) →
    (mode : MapperMode) → (excluded : List String) →
      ∀ run ∈ runMapper mode excluded m, run.Aligned
  | none, _, _, _ => nofun
  | some steps, h, mode, excluded => by
      rintro run ⟨⟩
      exact aligned_runSteps steps h mode excluded
termination_by structural m => m

theorem Cte.aligned_item : (c : Cte) → AllPaired c.texts → c.item.Aligned
  | ⟨name, _, columns, body, _⟩, h => by
      obtain ⟨h, hbody⟩ := allPaired_append.mp h
      obtain ⟨hnames, hcolumns⟩ := allPaired_append.mp h
      exact ⟨(allPaired_cons.mp hnames).1, List.forall_mem_map.mp hcolumns,
        aligned_bodySql name body hbody⟩
termination_by structural c => c

theorem aligned_bodySql (name : String) : (q? : Option Query) → AllPaired (bodyTexts q?) →
    (bodySql name q?).Aligned
  | none, _ => (closed_fail _).toAligned
  | some q, h => q.aligned_sql h (some true)
termination_by structural q? => q?

theorem aligned_cteItems : (cs : List Cte) → AllPaired (ctesTexts cs) →
    ∀ i ∈ cteItems cs, i.Aligned
  | [], _ => nofun
  | c :: rest, h => by
      obtain ⟨hc, hrest⟩ := allPaired_append.mp h
      exact List.forall_mem_cons.mpr ⟨c.aligned_item hc, aligned_cteItems rest hrest⟩
termination_by structural cs => cs

theorem Table.aligned_sourceSql : (t : Table) → AllPaired t.texts → t.sourceSql.Aligned
  | .relation r, h => Relation.aligned_targetSql h
  | .cte c, h =>
      (Cte.paired_name h).closed.toAligned.append (trailing_aliasSql (Cte.paired_aliasName h))
  | .derived ⟨_, query⟩, h => by
      obtain ⟨halias, hquery⟩ := allPaired_append.mp h
      exact (query.aligned_sql hquery (some true)).parens.toAligned.append
        (trailing_aliasSql (allPaired_singleton.mp halias))
termination_by structural t => t

theorem Table.aligned_items : (t : Table) → AllPaired t.texts → ∀ i ∈ t.items, i.Aligned
  | .cte c, h => List.forall_mem_singleton.mpr (c.aligned_item h)
  | .relation _, _ => nofun
  | .derived _, _ => nofun
termination_by structural t => t

theorem trailing_sourceSql {keyword : String} (hk : isKeyword keyword = true) :
    (t? : Option Table) → AllPaired (sourceTexts t?) → (sourceSql keyword t?).Trailing
  | none, _ => trailing_empty
  | some t, h => (opening_text hk).append (t.aligned_sourceSql h)
termination_by structural t? => t?

theorem aligned_sourceItems : (t? : Option Table) → AllPaired (sourceTexts t?) →
    ∀ i ∈ sourceItems t?, i.Aligned
  | none, _ => nofun
  | some t, h => t.aligned_items h
termination_by structural t? => t?

theorem Join.aligned_sql : (j : Join) → AllPaired j.texts → j.sql.Aligned
  | ⟨kind, table, on⟩, h => by
      obtain ⟨h, hon⟩ := allPaired_append.mp h
      obtain ⟨hkind, htable⟩ := allPaired_append.mp h
      have hkeyword : (text kind.keyword ++ text " ").Closed :=
        (allPaired_singleton.mp hkind).closed.toAligned.keyword rfl
      exact (hkeyword.append (table.aligned_sourceSql htable)).append
        (trailing_conditionsSql rfl (aligned_predicates on hon) [])
termination_by structural j => j

theorem trailing_joinsSql : (js : List Join) → AllPaired (joinsTexts js) →
    (joinsSql js).Trailing
  | [], _ => trailing_empty
  | j :: rest, h => by
      obtain ⟨hj, hrest⟩ := allPaired_append.mp h
      exact ((opening_text rfl).append (j.aligned_sql hj)).append (trailing_joinsSql rest hrest)
termination_by structural js => js

theorem Join.aligned_items : (j : Join) → AllPaired j.texts → ∀ i ∈ j.items, i.Aligned
  | ⟨_, table, _⟩, h => table.aligned_items (allPaired_append.mp (allPaired_append.mp h).1).2
termination_by structural j => j

theorem aligned_joinItems : (js : List Join) → AllPaired (joinsTexts js) →
    ∀ i ∈ joinItems js, i.Aligned
  | [], _ => nofun
  | j :: rest, h => by
      obtain ⟨hj, hrest⟩ := allPaired_append.mp h
      exact List.forall_mem_append.mpr ⟨j.aligned_items hj, aligned_joinItems rest hrest⟩
termination_by structural js => js

theorem Select.aligned_sql : (s : Select) → AllPaired s.texts → s.sql.Aligned
  | ⟨ctes, distinct, distinctOn, fields, source, joins, conditions, groupBy, having, windows,
      orderBy, limit, withTies, offset⟩, h => by
      obtain ⟨h, horder⟩ := allPaired_append.mp h
      obtain ⟨h, hwindows⟩ := allPaired_append.mp h
      obtain ⟨h, hhaving⟩ := allPaired_append.mp h
      obtain ⟨h, hgroup⟩ := allPaired_append.mp h
      obtain ⟨h, hconditions⟩ := allPaired_append.mp h
      obtain ⟨h, hjoins⟩ := allPaired_append.mp h
      obtain ⟨h, hsource⟩ := allPaired_append.mp h
      obtain ⟨h, hfields⟩ := allPaired_append.mp h
      obtain ⟨hctes, hdistinct⟩ := allPaired_append.mp h
      have hwith := WithItem.closed_clause (aligned_cteItems ctes hctes)
        (List.forall_mem_append.mpr
          ⟨aligned_sourceItems source hsource, aligned_joinItems joins hjoins⟩)
      have hdistinctOn : (if distinctOn.isEmpty then when distinct (text "DISTINCT ")
          else text "DISTINCT ON (" ++ commaList (fieldsSql [] distinctOn) ++
            text ") ").Closed := by
        split
        · exact (opening_text rfl).toClosed.when distinct
        · exact ((opening_text rfl).toClosed.append (aligned_commaList
            (aligned_fieldsSql (aligned_fields distinctOn hdistinct) []))).keyword rfl
      have hprojection : (if fields.isEmpty then text "1"
          else commaList (projectionSql [] fields)).Aligned := by
        split
        · exact (opening_text rfl).toAligned
        · exact aligned_commaList (aligned_projectionSql fields hfields [])
      have hsourceSql : (sourceSql " FROM " source).Trailing :=
        trailing_sourceSql rfl source hsource
      have hwhere : (conditionsSql " WHERE " [] conditions).Trailing :=
        trailing_conditionsSql rfl (aligned_predicates conditions hconditions) []
      have hgroupBy : (clause " GROUP BY " (fieldsSql [] groupBy)).Trailing :=
        trailing_fieldsClause rfl (aligned_fields groupBy hgroup)
      have hhavingSql : (conditionsSql " HAVING " [] having).Trailing :=
        trailing_conditionsSql rfl (aligned_predicates having hhaving) []
      have hwindow : (clause " WINDOW " (windowsSql windows)).Trailing :=
        trailing_clause rfl (aligned_windowsSql windows hwindows)
      have horderBy : (clause " ORDER BY " (fieldsSql [] orderBy)).Trailing :=
        trailing_fieldsClause rfl (aligned_fields orderBy horder)
      exact ((((((((((((hwith.toAligned.keyword rfl).append_closed hdistinctOn).append
        hprojection).append hsourceSql).append (trailing_joinsSql joins hjoins)).append
        hwhere).append hgroupBy).append hhavingSql).append hwindow).append horderBy).append
        (trailing_countSql rfl limit)).append ((opening_text rfl).trailing.when _)).append
        (trailing_countSql rfl offset)
termination_by structural s => s

theorem Select.aligned_items : (s : Select) → AllPaired s.texts → ∀ i ∈ s.items, i.Aligned
  | ⟨_, _, _, _, source, joins, _, _, _, _, _, _, _, _⟩, h => by
      simp only [Select.texts, allPaired_append] at h
      obtain ⟨⟨⟨⟨⟨⟨⟨-, hsource⟩, hjoins⟩, -⟩, -⟩, -⟩, -⟩, -⟩ := h
      exact List.forall_mem_append.mpr
        ⟨aligned_sourceItems source hsource, aligned_joinItems joins hjoins⟩
termination_by structural s => s

theorem aligned_selectSql : (s? : Option Select) → AllPaired (selectTexts s?) →
    ∀ f ∈ selectSql s?, f.Aligned
  | none, _ => nofun
  | some s, h => by
      rintro f ⟨⟩
      exact s.aligned_sql h
termination_by structural s? => s?

theorem aligned_selectItems : (s? : Option Select) → AllPaired (selectTexts s?) →
    ∀ i ∈ selectItems s?, i.Aligned
  | none, _ => nofun
  | some s, h => s.aligned_items h
termination_by structural s? => s?

theorem Conflict.trailing_sql : (c : Conflict) → AllPaired c.texts → (excluded : List String) →
    (c.sql excluded).Trailing
  | ⟨target, constraint, targetConditions, assignments, resolutionConditions⟩, h, excluded => by
      simp only [Conflict.texts, allPaired_append] at h
      obtain ⟨⟨⟨⟨htarget, hconstraint⟩, htargetConditions⟩, hassignments⟩, hresolution⟩ := h
      refine Trailing.append (Trailing.append (opening_text rfl).trailing ?_) ?_
      · split
        · rename_i name
          exact (opening_text rfl).append (allPaired_singleton.mp hconstraint).closed.toAligned
        · split
          · exact trailing_empty
          · have hfields := aligned_commaList
              (aligned_fieldsSql (aligned_fields target htarget) excluded)
            exact (((opening_text rfl).append hfields).append (opening_text rfl).trailing).append
              (trailing_conditionsSql rfl
                (aligned_predicates targetConditions htargetConditions) excluded)
      · split
        · exact (opening_text rfl).trailing
        · exact ((opening_text rfl).append (aligned_commaList
            (aligned_assignmentsSql assignments hassignments excluded))).append
              (trailing_conditionsSql rfl
                (aligned_predicates resolutionConditions hresolution) [])
termination_by structural c => c

theorem trailing_conflictSql : (c? : Option Conflict) → AllPaired (conflictTexts c?) →
    (excluded : List String) → (conflictSql excluded c?).Trailing
  | none, _, _ => trailing_empty
  | some c, h, excluded => c.trailing_sql h excluded
termination_by structural c? => c?

theorem Insert.aligned_sql : (i : Insert) → AllPaired i.texts → i.sql.Aligned
  | ⟨ctes, target, columns, rows, mapper, select, conflict⟩, h => by
      simp only [Insert.texts, allPaired_append] at h
      obtain ⟨⟨⟨⟨⟨⟨hctes, htarget⟩, hcolumns⟩, hrows⟩, hmapper⟩, hselect⟩, hconflict⟩ := h
      exact InsertParts.aligned_sql
        (WithItem.closed_clause (aligned_cteItems ctes hctes) (aligned_selectItems select hselect))
        (paired_target htarget)
        (aligned_fieldsSql (aligned_fields columns hcolumns) _)
        (aligned_rows rows hrows) (aligned_runMapper mapper hmapper .insert _)
        (aligned_selectSql select hselect) (trailing_conflictSql conflict hconflict _)
termination_by structural i => i

theorem Update.aligned_sql : (u : Update) → AllPaired u.texts → u.sql.Aligned
  | ⟨ctes, target, assignments, mapper, source, joins, conditions, orderBy, limit, offset⟩, h => by
      simp only [Update.texts, allPaired_append] at h
      obtain ⟨⟨⟨⟨⟨⟨⟨hctes, htarget⟩, hassignments⟩, hmapper⟩, hsource⟩, hjoins⟩, hconditions⟩,
        horder⟩ := h
      refine UpdateParts.aligned_sql
        (WithItem.closed_clause (aligned_cteItems ctes hctes) (List.forall_mem_append.mpr
          ⟨aligned_sourceItems source hsource, aligned_joinItems joins hjoins⟩))
        (paired_target htarget) (aligned_assignmentsSql assignments hassignments _)
        (aligned_runMapper mapper hmapper .update _) ?_
      exact trailing_changeClauses (trailing_sourceSql rfl source hsource)
        (trailing_joinsSql joins hjoins) (aligned_predicates conditions hconditions)
        (aligned_fields orderBy horder) limit offset
termination_by structural u => u

theorem Delete.aligned_sql : (d : Delete) → AllPaired d.texts → d.sql.Aligned
  | ⟨ctes, target, source, joins, conditions, orderBy, limit, offset⟩, h => by
      simp only [Delete.texts, allPaired_append] at h
      obtain ⟨⟨⟨⟨⟨hctes, htarget⟩, hsource⟩, hjoins⟩, hconditions⟩, horder⟩ := h
      refine aligned_deleteSql
        (WithItem.closed_clause (aligned_cteItems ctes hctes) (List.forall_mem_append.mpr
          ⟨aligned_sourceItems source hsource, aligned_joinItems joins hjoins⟩))
        (paired_target htarget) ?_ _ _
      exact trailing_changeClauses (trailing_sourceSql rfl source hsource)
        (trailing_joinsSql joins hjoins) (aligned_predicates conditions hconditions)
        (aligned_fields orderBy horder) limit offset
termination_by structural d => d

theorem Query.aligned_sql : (q : Query) → AllPaired q.texts → (toplevel? : Option Bool) →
    (q.sql toplevel?).Aligned
  | .select _ s, h, _ => s.aligned_sql h
  | .insert _ i, h, _ => i.aligned_sql h
  | .update _ u, h, _ => u.aligned_sql h
  | .delete _ d, h, _ => d.aligned_sql h
  | .raw _ format operands, h, _ => by
      obtain ⟨hformat, hos⟩ := allPaired_append.mp h
      exact aligned_format (allPaired_singleton.mp hformat) (aligned_operands operands hos) []
  | .compound toplevel op members, h, toplevel? =>
      Query.aligned_compound (aligned_queries members h) toplevel op toplevel?
termination_by structural q => q

theorem aligned_queries : (qs : List Query) → AllPaired (queriesTexts qs) →
    ∀ q ∈ qs, ∀ toplevel?, (q.sql toplevel?).Aligned
  | [], _ => nofun
  | q :: rest, h => by
      obtain ⟨hq, hrest⟩ := allPaired_append.mp h
      exact List.forall_mem_cons.mpr ⟨q.aligned_sql hq, aligned_queries rest hrest⟩
termination_by structural qs => qs

end

/-! ## Statements -/

/-- However far a statement of paired texts is written, its text has a
place for each argument and no other, each in the position of the piece
that the argument came with. If it is written to its end, writing the
arguments into the text gives the statement with each literal in its own
place. -/
theorem Query.arguments_in_place {q : Query} (h : AllPaired q.texts) (toplevel? : Option Bool)
    (d : Dialect) {w : Writer} {stop : Option Error}
    (hw : (Writer.mk d "" [] []).write (q.sql toplevel?) = (w, stop)) :
    Mark.places (Mark.ofText w.text) = w.args.length ∧
      Mark.ofText w.text = (q.sql toplevel?).marks ∧
      (stop = none →
        Placeholder.inlineQuestion w.text w.args = .ok (q.sql toplevel?).inlined) := by
  have haligned := q.aligned_sql h toplevel?
  cases hw
  have htext : ((Writer.mk d "" [] []).append (q.sql toplevel?)).text = (q.sql toplevel?).sql :=
    String.empty_append
  rw [htext]
  exact ⟨haligned.places, haligned.ofText_sql, fun _ => haligned.inlineQuestion⟩

/-- A selection with a question mark in a name. -/
theorem Query.arguments_in_place_filter :
    let q := select .sqlite { Select.empty with
      fields := [.column "t" "a??b"]
      conditions := [.eq (.field (.column "" "x")) (.scalar (.int 7))]
      limit := some 5 }
    AllPaired q.texts ∧
      (q.sql none).sql = "SELECT t.a??b WHERE x = ? LIMIT ?" ∧
      Placeholder.inlineQuestion (q.sql none).sql (q.sql none).args =
        .ok "SELECT t.a?b WHERE x = 7 LIMIT 5" := by
  intro q
  have htexts : AllPaired q.texts := by decide
  exact ⟨htexts, rfl, (arguments_in_place htexts none .sqlite rfl).2.2 rfl⟩

end SqlCompose
