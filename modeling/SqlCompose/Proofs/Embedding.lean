import SqlCompose.Proofs.Routes

/-!
# Queries inside statements

A query that stands inside a statement stands in parentheses: as the body
of a definition, as a derived table, on the right side of an assignment,
behind an `IN` and in an `EXISTS`. These parentheses belong to the place
(`Embedding.opening`, `Embedding.closing`). A set operation of several
members has parentheses of its own besides, and only some of the places
take them away: definitions and derived tables overrule its mark, the other
three leave it (`Embedding.overrules`). There the parentheses are doubled,
unless the set operation is marked as top level.
-/

namespace SqlCompose

open Fragment

/-- A place of a statement that holds a query. -/
inductive Embedding where
  /-- The body of a definition. -/
  | definition (name aliasName : String) (columns : List String) (isRecursive : Bool)
  /-- A derived table. -/
  | derived (aliasName : String)
  /-- The right side of an assignment. -/
  | assigned (excluded : List String) (target : Operand)
  /-- What an `IN` looks through. -/
  | isIn (excluded : List String) (only : Bool) (a : Operand)
  /-- What an `EXISTS` asks about. -/
  | hasRows (excluded : List String) (only : Bool)

namespace Embedding

/-- The place with a query in it, as it is written. -/
def sql : Embedding → Query → Fragment
  | definition name aliasName columns isRecursive, q =>
    (Cte.mk name aliasName columns (some q) isRecursive).item.sql
  | derived aliasName, q => (Table.derived ⟨aliasName, q⟩).sourceSql
  | assigned excluded target, q => (Assignment.mk target (.query q)).sql excluded
  | isIn excluded only a, q => (Predicate.isIn a (.query q)).sql excluded only
  | hasRows excluded only, q => (Predicate.hasRows q).sql excluded only

/-- What is written before the query, up to the opening parenthesis. -/
def opening : Embedding → Fragment
  | definition name _ columns _ =>
    text name ++
      when (!columns.isEmpty)
        (text " (" ++ text (String.intercalate ", " columns) ++ text ")") ++
      text " AS ("
  | derived _ => text "("
  | assigned excluded target => target.sql excluded ++ text " = " ++ text "("
  | isIn excluded _ a => a.sql excluded ++ text " IN ("
  | hasRows _ _ => text "EXISTS ("

/-- What is written behind the query, from the closing parenthesis on. -/
def closing : Embedding → Fragment
  | derived aliasName => text ")" ++ aliasSql aliasName
  | _ => text ")"

/-- The place tells a set operation that it stands by itself. -/
def overrules : Embedding → Bool
  | definition .. => true
  | derived _ => true
  | _ => false

/-! ## The parentheses of a place -/

/-- The last character before the query is an opening parenthesis. -/
theorem sql_opening (e : Embedding) (h : e.opening.stop = none) :
    ∃ s, e.opening.sql = s ++ "(" := by
  have hends : ∃ a s, e.opening = a ++ text (s ++ "(") := by
    cases e with
    | definition name aliasName columns isRecursive => exact ⟨_, " AS ", rfl⟩
    | derived aliasName => exact ⟨empty, "", rfl⟩
    | assigned excluded target => exact ⟨_, "", rfl⟩
    | isIn excluded only a => exact ⟨_, " IN ", rfl⟩
    | hasRows excluded only => exact ⟨empty, "EXISTS ", rfl⟩
  obtain ⟨a, s, ha⟩ := hends
  rw [ha] at h ⊢
  refine ⟨a.sql ++ s, ?_⟩
  rw [sql_append (stop_append_eq_none.mp h).1, sql_text, String.append_assoc]

/-- The first character behind it is a closing one. -/
theorem sql_closing (e : Embedding) : ∃ s, e.closing.sql = ")" ++ s := by
  cases e with
  | derived aliasName =>
      refine ⟨(aliasSql aliasName).sql, ?_⟩
      rw [closing, sql_append (stop_text _), sql_text]
  | _ => exact ⟨"", sql_text ")"⟩

/-! ## The parentheses of a query -/

theorem template_isIn :
    Template.ofFormat "? IN (?)" = ⟨[], [[.text " IN ("], [.text ")"]]⟩ := rfl

theorem template_hasRows :
    Template.ofFormat "EXISTS (?)" = ⟨[.text "EXISTS ("], [[.text ")"]]⟩ := rfl

/-- Behind the last operand nothing is left over. -/
theorem fillSql_last (excluded : List String) (tail : List Piece) (o : Operand) :
    fillSql excluded [tail] [o] = o.sql excluded ++ ofPieces tail :=
  append_empty _

/-- Between its own parentheses a place has the query, told that it stands
by itself or with its own mark. -/
theorem sql_eq (e : Embedding) (q : Query) :
    e.sql q = e.opening ++ q.sql (if e.overrules then some true else none) ++ e.closing := by
  cases e with
  | definition name aliasName columns isRecursive => rfl
  | derived aliasName =>
      rw [closing, ← append_assoc]
      rfl
  | assigned excluded target =>
      rw [opening, append_assoc, append_assoc, ← append_assoc (text "(")]
      rfl
  | isIn excluded only a =>
      have hformat : (isIn excluded only a).sql q =
          fillSql excluded (Template.ofFormat "? IN (?)").tails [a, .query q] := rfl
      rw [hformat, template_isIn, opening, append_assoc, append_assoc, fillSql, fillSql_last,
        append_assoc]
      rfl
  | hasRows excluded only =>
      have hformat : (hasRows excluded only).sql q =
          ofPieces (Template.ofFormat "EXISTS (?)").head ++
            fillSql excluded (Template.ofFormat "EXISTS (?)").tails [.query q] := rfl
      rw [hformat, template_hasRows, opening, append_assoc, fillSql_last]
      rfl

/-- A query has one pair of parentheses in its place, or two. -/
theorem sql_statementSql (e : Embedding) (q : Query) :
    e.sql q =
      e.opening ++ parensIf (!e.overrules && q.keepsParens) q.statementSql ++ e.closing := by
  rw [sql_eq]
  cases e.overrules with
  | true => rfl
  | false =>
      rw [if_neg Bool.false_ne_true, q.sql_none]
      rfl

end Embedding

/-- A query inside a statement is written in the parentheses of its place.
Between them stands what it is as a statement, with its arguments and its
error. It has a second pair exactly if it is an unmarked set operation of
several members in a place that does not overrule the mark. -/
theorem Query.embedded_parens (q : Query) (e : Embedding) :
    (e.opening.stop = none → ∃ s, e.opening.sql = s ++ "(") ∧
    (∃ s, e.closing.sql = ")" ++ s) ∧
    e.sql q =
      e.opening ++ parensIf (!e.overrules && q.keepsParens) q.statementSql ++ e.closing ∧
    ((e.sql q).stop = none →
      (e.sql q).args = e.opening.args ++ q.statementSql.args ++ e.closing.args ∧
      ((e.sql q).sql = e.opening.sql ++ q.statementSql.sql ++ e.closing.sql ↔
        e.overrules = true ∨ q.keepsParens = false)) := by
  refine ⟨e.sql_opening, e.sql_closing, e.sql_statementSql q, fun hstop => ?_⟩
  rw [e.sql_statementSql q] at hstop ⊢
  obtain ⟨hbefore, -⟩ := stop_append_eq_none.mp hstop
  obtain ⟨hopening, hinner⟩ := stop_append_eq_none.mp hbefore
  have hq : q.statementSql.stop = none := by
    rwa [stop_parensIf] at hinner
  -- The texts differ in the pair around the query alone.
  have hframe : ∀ w : Bool, (parensIf w q.statementSql).sql = q.statementSql.sql ↔ w = false :=
    fun w => sql_parensIf_inj (v := w) (w := false) hq
  rw [args_append hbefore, args_append hopening, args_parensIf, sql_append hbefore,
    sql_append hopening]
  refine ⟨rfl, ?_⟩
  rw [String.append_left_inj, String.append_right_inj, hframe]
  cases e.overrules <;> simp

/-- A union in an `EXISTS` has the pair of the place and its own. -/
theorem Query.embedded_parens_hasRows :
    let union : Query :=
      .compound false .union [.select .sqlite .empty, .select .sqlite .empty]
    let e : Embedding := .hasRows [] false
    (∃ s, e.opening.sql = s ++ "(") ∧ (e.sql union).args = [] ∧
      (e.sql union).sql ≠ e.opening.sql ++ union.statementSql.sql ++ e.closing.sql := by
  intro union e
  obtain ⟨hopening, -, -, hwritten⟩ := union.embedded_parens e
  obtain ⟨hargs, htext⟩ := hwritten rfl
  refine ⟨hopening rfl, hargs, fun heq => ?_⟩
  rcases htext.mp heq with h | h <;> cases h

/-- A union behind an `IN` stands in two pairs of parentheses, a marked one
in one pair. -/
theorem Query.isIn_union_doubled :
    let x : Operand := .field (.column "" "x")
    let union (toplevel : Bool) : Query :=
      .compound toplevel .union [.select .sqlite .empty, .select .sqlite .empty]
    ((Predicate.isIn x (.query (union false))).sql [] false).sql =
        "x IN ((SELECT 1 UNION SELECT 1))" ∧
      ((Predicate.isIn x (.query (union true))).sql [] false).sql =
        "x IN (SELECT 1 UNION SELECT 1)" ∧
      (Table.derived ⟨"t", union false⟩).sourceSql.sql = "(SELECT 1 UNION SELECT 1) AS t" :=
  ⟨by decide +kernel, by decide +kernel, by decide +kernel⟩

end SqlCompose
