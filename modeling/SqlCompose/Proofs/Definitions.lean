import Mathlib.Data.List.Nodup
import SqlCompose.Proofs.Kinds
import SqlCompose.Proofs.Stops

/-!
# The definitions of a statement

A statement with definitions of its own is written behind a `WITH` clause
that has these and then those of its tables, the first of each name. Which
are kept is decided by names alone and before anything is written, so a
definition that is dropped leaves no trace: not its body, not its arguments,
and not that it was recursive.

Every name then stands in the clause once, and that of each table with a
definition is among them (`Query.with_clause`).
-/

namespace SqlCompose

open Fragment

/-! ## The first of each name -/

theorem firstCtes_eq_loop (cs kept : List Cte) :
    List.eraseDupsBy.loop (fun c d => c.name == d.name) cs kept =
      kept.reverse ++ firstCtes (kept.map (·.name)) cs := by
  induction cs generalizing kept with
  | nil => exact (List.append_nil _).symm
  | cons c cs ih =>
      have seen : (kept.map (·.name)).contains c.name = kept.any (c.name == ·.name) := by
        rw [List.contains_eq_any_beq, List.any_map]
        rfl
      rw [List.eraseDupsBy.loop, firstCtes, seen]
      cases kept.any (c.name == ·.name) with
      | true => exact ih kept
      | false =>
          refine (ih (c :: kept)).trans ?_
          rw [List.reverse_cons, List.append_assoc]
          rfl

theorem firstCtes_eq_eraseDupsBy (cs : List Cte) :
    firstCtes [] cs = cs.eraseDupsBy (fun c d => c.name == d.name) :=
  (firstCtes_eq_loop cs []).symm

theorem firstCtes_sublist (seen : List String) (cs : List Cte) :
    (firstCtes seen cs).Sublist cs := by
  induction cs generalizing seen with
  | nil => exact .slnil
  | cons c cs ih =>
      rw [firstCtes]
      split
      · exact (ih seen).cons c
      · exact (ih _).cons_cons c

theorem name_notMem_of_mem_firstCtes {seen : List String} {cs : List Cte} {c : Cte}
    (h : c ∈ firstCtes seen cs) : c.name ∉ seen := by
  induction cs generalizing seen with
  | nil => cases h
  | cons d cs ih =>
      rw [firstCtes] at h
      split at h
      · exact ih h
      · rename_i unseen
        rcases List.mem_cons.mp h with rfl | h
        · simpa using unseen
        · exact fun mem => ih h (List.mem_cons_of_mem _ mem)

theorem nodup_names_firstCtes (seen : List String) (cs : List Cte) :
    ((firstCtes seen cs).map (·.name)).Nodup := by
  induction cs generalizing seen with
  | nil => exact List.nodup_nil
  | cons c cs ih =>
      rw [firstCtes]
      split
      · exact ih seen
      · refine List.nodup_cons.mpr ⟨fun mem => ?_, ih _⟩
        obtain ⟨d, kept, same⟩ := List.mem_map.mp mem
        exact name_notMem_of_mem_firstCtes kept (same ▸ List.mem_cons_self)

/-- Of each name that was not seen the first definition is kept. -/
theorem exists_mem_firstCtes {seen : List String} {cs : List Cte} {c : Cte} (h : c ∈ cs)
    (unseen : c.name ∉ seen) :
    ∃ d ∈ firstCtes seen cs, cs.find? (·.name == c.name) = some d := by
  induction cs generalizing seen with
  | nil => cases h
  | cons d cs ih =>
      rw [firstCtes, List.find?_cons]
      by_cases same : d.name = c.name
      · have first : seen.contains d.name = false := by simpa [same] using unseen
        rw [first, same, beq_self_eq_true]
        exact ⟨d, List.mem_cons_self, rfl⟩
      · have rest : c ∈ cs := (List.mem_cons.mp h).resolve_left fun eq => same (eq ▸ rfl)
        rw [beq_false_of_ne same]
        split
        · exact ih rest unseen
        · obtain ⟨e, kept, found⟩ := @ih (d.name :: seen) rest fun mem =>
            (List.mem_cons.mp mem).elim (fun eq => same eq.symm) unseen
          exact ⟨e, List.mem_cons_of_mem _ kept, found⟩

/-! ## Definitions as they are written -/

theorem Cte.item_eq (c : Cte) :
    c.item = ⟨c.name, c.columns, c.isRecursive, fun _ => bodySql c.name c.body⟩ := by
  cases c
  rfl

/-- The column list, if one was given. -/
def Cte.columnsText (c : Cte) : String :=
  if c.columns = [] then "" else " (" ++ String.intercalate ", " c.columns ++ ")"

/-- What stands before the body of a definition. -/
def WithItem.headSql (item : WithItem) : Fragment :=
  text item.name ++
    when (!item.columns.isEmpty)
      (text " (" ++ text (String.intercalate ", " item.columns) ++ text ")")

theorem Cte.headSql_item (c : Cte) :
    c.item.headSql.stop = none ∧ c.item.headSql.sql = c.name ++ c.columnsText ∧
      c.item.headSql.args = [] := by
  obtain ⟨name, aliasName, columns, body, isRecursive⟩ := c
  cases columns with
  | nil => exact ⟨rfl, (sql_text name).trans String.append_empty.symm, rfl⟩
  | cons column rest =>
      have opened : (text " (" ++ text (String.intercalate ", " (column :: rest))).stop = none :=
        rfl
      refine ⟨rfl, ?_, rfl⟩
      change (text name ++ (text " (" ++ text (String.intercalate ", " (column :: rest)) ++
        text ")")).sql = name ++ (" (" ++ String.intercalate ", " (column :: rest) ++ ")")
      rw [sql_append (stop_text _), sql_append opened, sql_append (stop_text _)]
      simp only [sql_text]

/-- A definition that is written to its end has a body, which stands behind
its name and column list. -/
theorem Cte.sql_item {c : Cte} (written : c.item.sql.stop = none) :
    ∃ body, c.body = some body ∧ body.statementSql.stop = none ∧
      c.item.sql.sql = c.name ++ c.columnsText ++ " AS (" ++ body.statementSql.sql ++ ")" ∧
      c.item.sql.args = body.statementSql.args := by
  have rendered : c.item.sql =
      c.item.headSql ++ text " AS (" ++ bodySql c.name c.body ++ text ")" := by
    cases c
    rfl
  obtain ⟨named, sql, args⟩ := c.headSql_item
  have opened : (c.item.headSql ++ text " AS (").stop = none :=
    stop_append_eq_none.mpr ⟨named, rfl⟩
  rw [rendered] at written ⊢
  obtain ⟨filled, -⟩ := stop_append_eq_none.mp written
  cases body : c.body with
  | none =>
      rw [body] at filled
      cases (stop_append_eq_none.mp filled).2
  | some body' =>
      rw [body] at filled
      refine ⟨body', rfl, (stop_append_eq_none.mp filled).2, ?_, ?_⟩
      · rw [sql_append filled, sql_append opened, sql_append named, sql, sql_text, sql_text]
        rfl
      · rw [args_append filled, args_append opened, args_append named, args, args_text, args_text,
          List.append_nil, List.append_nil, List.nil_append]
        rfl

namespace Query

/-- The definitions that the tables of a statement bring with them, in the
order of the tables. -/
def tableCtes : Query → List Cte
  | select _ s => sourceCtes s.source s.joins
  | insert _ i => i.select.toList.flatMap fun s => sourceCtes s.source s.joins
  | update _ u => sourceCtes u.source u.joins
  | delete _ d => sourceCtes d.source d.joins
  | raw _ _ _ => []
  | compound _ _ _ => []

/-- The definitions of the `WITH` clause: the first of each name. -/
def definitions (q : Query) : List Cte :=
  (q.ctes ++ q.tableCtes).eraseDupsBy fun c d => c.name == d.name

theorem tableItems_eq_map (q : Query) : q.tableItems = q.tableCtes.map Cte.item := by
  cases q with
  | select d s => exact s.items_eq_map
  | insert d i => exact selectItems_eq_map i.select
  | update d u => exact sourceItems_eq_map u.source u.joins
  | delete d e => exact sourceItems_eq_map e.source e.joins
  | raw _ _ _ => rfl
  | compound _ _ _ => rfl

theorem withClause_eq {q : Query} (h : q.ctes ≠ []) :
    WithItem.clause (cteItems q.ctes) q.tableItems =
      text (if q.definitions.any (·.isRecursive) then "WITH RECURSIVE " else "WITH ") ++
        commaList (q.definitions.map fun c => c.item.sql) ++ text " " := by
  have nonempty : (q.ctes.map Cte.item).isEmpty = false := by
    rw [List.isEmpty_map]
    exact List.isEmpty_eq_false_iff.mpr h
  have kept : WithItem.firsts [] (q.ctes.map Cte.item ++ q.tableCtes.map Cte.item) =
      q.definitions.map Cte.item := by
    rw [← List.map_append, firsts_eq_map, firstCtes_eq_eraseDupsBy]
    rfl
  have recursive : (q.definitions.map Cte.item).any (·.isRecursive) =
      q.definitions.any (·.isRecursive) := by
    rw [List.any_map]
    congr 1
    funext c
    exact congrArg WithItem.isRecursive c.item_eq
  rw [WithItem.clause, cteItems_eq_map, tableItems_eq_map, nonempty, if_neg Bool.false_ne_true,
    kept]
  simp only [recursive, List.map_map]
  rfl

variable {q : Query} {k : StatementKind}

/-- A statement behind its clause. -/
theorem sql_of_ctes (own : q.ownKind? = some k) (written : (q.sql none).stop = none)
    (h : q.ctes ≠ []) :
    q.sql none =
      text (if q.definitions.any (·.isRecursive) then "WITH RECURSIVE " else "WITH ") ++
        commaList (q.definitions.map fun c => c.item.sql) ++ text " " ++ q.main.sql none := by
  obtain ⟨rest, whole, main⟩ := sql_split own written
  rw [whole, withClause_eq h, main]

/-- What is written has been written to its end, each definition too. -/
theorem stop_item (own : q.ownKind? = some k) (written : (q.sql none).stop = none)
    (h : q.ctes ≠ []) : ∀ c ∈ q.definitions, c.item.sql.stop = none := by
  intro c mem
  rw [sql_of_ctes own written h] at written
  obtain ⟨clause, -⟩ := stop_append_eq_none.mp (stop_append_eq_none.mp written).1
  have list := (stop_append_eq_none.mp clause).2
  rw [stop_commaList] at list
  exact List.findSome?_eq_none_iff.mp list _ (List.mem_map_of_mem mem)

/-- The `WITH` clause of a selection, an insertion, an update or a deletion
that is written to its end. Without definitions of its own it has none and
begins with its keyword, whatever its tables are. Otherwise the clause stands
before it: of its own definitions and those of its tables the first of each
name, in that order, each with its own body and arguments and with a column
list if it was given one; and it says `RECURSIVE` if one of those kept is
recursive. So each of the names, and with it each table that has a definition,
is defined once, by the first definition of that name. -/
theorem with_clause (own : q.ownKind? = some k) (toplevel? : Option Bool)
    (written : (q.sql toplevel?).stop = none) :
    (∃ rest, q.main.sql none = text k.opening ++ rest) ∧
      (q.ctes = [] → q.sql toplevel? = q.main.sql none) ∧
      (q.ctes ≠ [] →
        q.sql toplevel? =
            text (if q.definitions.any (·.isRecursive) then "WITH RECURSIVE " else "WITH ") ++
              commaList (q.definitions.map fun c => c.item.sql) ++ text " " ++ q.main.sql none ∧
          ∀ c ∈ q.definitions, ∃ body, c.body = some body ∧ body.statementSql.stop = none ∧
            c.item.sql.sql =
              c.name ++ c.columnsText ++ " AS (" ++ body.statementSql.sql ++ ")" ∧
            c.item.sql.args = body.statementSql.args) ∧
      q.definitions.Sublist (q.ctes ++ q.tableCtes) ∧
      (q.definitions.map (·.name)).Nodup ∧
      ∀ c ∈ q.ctes ++ q.tableCtes, (q.definitions.map (·.name)).count c.name = 1 ∧
        ∃ d ∈ q.definitions, (q.ctes ++ q.tableCtes).find? (·.name == c.name) = some d := by
  rw [sql_eq_none own] at written ⊢
  obtain ⟨rest, whole, main⟩ := sql_split own written
  have kept : q.definitions = firstCtes [] (q.ctes ++ q.tableCtes) :=
    (firstCtes_eq_eraseDupsBy _).symm
  have distinct : (q.definitions.map (·.name)).Nodup := kept ▸ nodup_names_firstCtes [] _
  refine ⟨⟨rest, main⟩, fun none => ?_, fun some => ⟨sql_of_ctes own written some, fun c mem =>
    Cte.sql_item (stop_item own written some c mem)⟩, kept ▸ firstCtes_sublist [] _, distinct,
    fun c mem => ?_⟩
  · rw [whole, main, none]
    rfl
  · obtain ⟨d, first, found⟩ := exists_mem_firstCtes mem List.not_mem_nil
    have same := List.find?_some found
    rw [← kept] at first
    have named : d.name ∈ q.definitions.map (·.name) := List.mem_map_of_mem first
    rw [beq_iff_eq.mp same] at named
    exact ⟨List.count_eq_one_of_mem distinct named, d, first, found⟩

/-- A selection from two definitions: the second definition of `a` is
dropped, and with it that it was recursive. -/
theorem with_clause_dropped :
    let value (n : Int64) : Query :=
      .select .sqlite { Select.empty with fields := [.ofFormat "?" [.scalar (.int n)]] }
    let a : Cte := ⟨"a", "", ["x"], some (value 1), false⟩
    let again : Cte := ⟨"a", "", [], some (value 2), true⟩
    let b : Cte := ⟨"b", "", [], some (value 3), false⟩
    let q : Query := .select .sqlite
      { Select.empty with
        ctes := [a]
        source := some (.cte b)
        joins := [⟨.inner, .cte again, []⟩] }
    (q.sql none).sql =
        "WITH a (x) AS (SELECT ?), b AS (SELECT ?) SELECT 1 FROM b JOIN a" ∧
      q.sql none = text "WITH " ++ commaList [a.item.sql, b.item.sql] ++ text " " ++
        q.main.sql none ∧
      (q.definitions.map (·.name)).count again.name = 1 := by
  intro value a again b q
  have written : (q.sql none).stop = none := rfl
  obtain ⟨-, -, clause, -, -, once⟩ := with_clause (q := q) rfl none written
  exact ⟨by decide +kernel, (clause (List.cons_ne_nil _ _)).1,
    (once again (by simp [q, ctes, tableCtes, sourceCtes, Table.ctes])).1⟩

end Query

end SqlCompose
