import SqlCompose.Proofs.Kinds
import SqlCompose.Proofs.Stops

/-!
# Joins and the source of rows

Joins go on from a source of rows: they are written directly behind it, in a
selection and an update behind `FROM`, in a deletion behind `USING`. A deletion
that has joins and no source is refused before anything is written.

Selections and updates are not checked. One with joins and no source is written
as far as the same one with a source is, and with the same text, only that
nothing stands where its source would be (`Query.joins_behind_source`). So the
first `JOIN` follows a projection or an assignment.
-/

namespace SqlCompose

open Fragment

/-! ## Sources -/

namespace Query

/-- The table that a statement reads its rows from, in a deletion the one it uses
beside its target. -/
def source? : Query → Option Table
  | select _ s => s.source
  | update _ u => u.source
  | delete _ d => d.source
  | insert _ _ => none
  | raw _ _ _ => none
  | compound _ _ _ => none

def joins : Query → List Join
  | select _ s => s.joins
  | update _ u => u.joins
  | delete _ d => d.joins
  | insert _ _ => []
  | raw _ _ _ => []
  | compound _ _ _ => []

/-- The keyword in front of the source. -/
def sourceKeyword (q : Query) : String :=
  if q.ownKind? = some .delete then " USING " else " FROM "

/-- The statement with another source, or with none. -/
def withSource (source : Option Table) : Query → Query
  | select d s => select d { s with source }
  | update d u => update d { u with source }
  | delete d e => delete d { e with source }
  | insert d i => insert d i
  | raw d format operands => raw d format operands
  | compound toplevel op members => compound toplevel op members

theorem withSource_source? (q : Query) : q.withSource q.source? = q := by
  cases q with
  | select d s =>
      obtain ⟨_, _, _, _, _, _, _, _, _, _, _, _, _, _⟩ := s
      rfl
  | insert d i => rfl
  | update d u =>
      obtain ⟨_, _, _, _, _, _, _, _, _, _⟩ := u
      rfl
  | delete d e =>
      obtain ⟨_, _, _, _, _, _, _, _⟩ := e
      rfl
  | raw d format operands => rfl
  | compound toplevel op members => rfl

end Query

/-! ## Where the source stands -/

/-- An update is refused, or it writes its change behind its definitions and then
all the rest; which of the two depends on neither. -/
theorem UpdateParts.sql_around (p : UpdateParts) :
    (∃ e, ∀ own rest, UpdateParts.sql { p with withClause := own, rest } = fail e) ∨
      ∃ change, ∀ own rest,
        UpdateParts.sql { p with withClause := own, rest } = own ++ change ++ rest := by
  obtain ⟨-, target, assignments, run, -⟩ := p
  have given (as : List Fragment) :
      (∃ e, ∀ own rest, UpdateParts.sql ⟨own, target, as, none, rest⟩ = fail e) ∨
        ∃ change, ∀ own rest,
          UpdateParts.sql ⟨own, target, as, none, rest⟩ = own ++ change ++ rest := by
    cases target with
    | none => exact .inl ⟨_, fun _ _ => rfl⟩
    | some target =>
        cases as with
        | nil => exact .inl ⟨_, fun _ _ => rfl⟩
        | cons a as =>
            refine .inr ⟨text "UPDATE " ++ target.targetSql ++ text " SET " ++
              commaList (a :: as), fun own rest => ?_⟩
            simp only [UpdateParts.sql, List.isEmpty_cons, Bool.false_eq_true, ↓reduceIte,
              append_assoc]
  cases run with
  | none => exact given assignments
  | some run =>
      cases mapped : run.assignments with
      | error e => exact .inl ⟨e, fun own rest => by simp only [UpdateParts.sql, mapped]⟩
      | ok as =>
          have same (own rest : Fragment) :
              UpdateParts.sql ⟨own, target, assignments, some run, rest⟩ =
                UpdateParts.sql ⟨own, target, as, none, rest⟩ := by
            simp only [UpdateParts.sql, mapped]
          simpa only [same] using given as

/-- What stands around the source and the joins of a selection depends on no
more of the source than the definitions it brings with it. -/
theorem Select.sql_around (s : Select) : ∃ front rest, ∀ source,
    sourceItems source = sourceItems s.source →
      Select.sql { s with source } =
        front ++ (sourceSql " FROM " source ++ joinsSql s.joins) ++ rest := by
  obtain ⟨ctes, distinct, distinctOn, fields, source, joins, conditions, groupBy, having, windows,
    orderBy, limit, withTies, offset⟩ := s
  refine ⟨WithItem.clause (cteItems ctes) (sourceItems source ++ joinItems joins) ++
    text "SELECT " ++
    (if distinctOn.isEmpty then when distinct (text "DISTINCT ")
      else text "DISTINCT ON (" ++ commaList (fieldsSql [] distinctOn) ++ text ") ") ++
    (if fields.isEmpty then text "1" else commaList (projectionSql [] fields)), ?rest,
    fun other same => ?split⟩
  case split =>
    change sourceItems other = sourceItems source at same
    simp only [Select.sql, same, append_assoc]
    rfl

theorem Update.sql_around (u : Update) :
    (∃ e, ∀ source, Update.sql { u with source } = fail e) ∨
      ∃ front rest, ∀ source, sourceItems source = sourceItems u.source →
        Update.sql { u with source } =
          front ++ (sourceSql " FROM " source ++ joinsSql u.joins) ++ rest := by
  obtain ⟨ctes, target, assignments, mapper, source, joins, conditions, orderBy, limit, offset⟩ := u
  let excluded := (target.map Relation.qualifier).toList
  -- The source is in what follows the assignments, and in the definitions.
  rcases UpdateParts.sql_around
    { withClause := Fragment.empty
      target
      assignments := assignmentsSql excluded assignments
      run := runMapper .update excluded mapper
      rest := Fragment.empty } with ⟨e, refused⟩ | ⟨change, written⟩
  · exact .inl ⟨e, fun source => refused _ _⟩
  · refine .inr ⟨WithItem.clause (cteItems ctes) (sourceItems source ++ joinItems joins) ++ change,
      ?rest, fun other same => ?split⟩
    case split =>
      change sourceItems other = sourceItems source at same
      refine (written _ _).trans ?_
      simp only [same, append_assoc]
      rfl

/-- A deletion that is not refused has its joins behind its source. -/
theorem Delete.sql_around {d : Delete} (h : d.refusal? = none) : ∃ front rest,
    d.sql = front ++ (sourceSql " USING " d.source ++ joinsSql d.joins) ++ rest := by
  obtain ⟨ctes, target, source, joins, conditions, orderBy, limit, offset⟩ := d
  cases target with
  | none => cases h
  | some target =>
      simp only [refusal?, Option.isNone_some, Bool.false_eq_true, ↓reduceIte] at h
      split at h
      case isTrue => cases h
      case isFalse joined =>
          rw [← Option.not_isSome] at joined
          refine ⟨WithItem.clause (cteItems ctes) (sourceItems source ++ joinItems joins) ++
            text "DELETE FROM " ++ target.targetSql, ?rest, ?split⟩
          case split =>
            simp only [sql, deleteSql, if_neg joined, append_assoc]
            rfl

/-- Without a source, the joins of a deletion are refused. -/
theorem Delete.refusal?_of_joins {d : Delete} (joined : d.joins ≠ []) (bare : d.source = none) :
    ∃ message, d.refusal? = some (.build message) := by
  have some_join : d.joins.isEmpty = false := by simpa using joined
  rw [refusal?, bare, some_join]
  cases d.target with
  | none => exact ⟨_, rfl⟩
  | some target => exact ⟨_, rfl⟩

namespace Query

variable {q : Query}

/-- A selection or an update that has joins is refused with any source or with
none, or its joins stand directly behind the place of its source. -/
theorem sql_around (joined : q.joins ≠ []) (other : q.ownKind? ≠ some .delete)
    (toplevel? : Option Bool) :
    (∃ e, ∀ source, (q.withSource source).sql toplevel? = fail e) ∨
      ∃ front rest, ∀ source, sourceItems source = sourceItems q.source? →
        (q.withSource source).sql toplevel? =
          front ++ (sourceSql " FROM " source ++ joinsSql q.joins) ++ rest := by
  cases q with
  | select d s => exact .inr s.sql_around
  | update d u => exact u.sql_around
  | delete d e => exact absurd rfl other
  | insert d i => exact absurd rfl joined
  | raw d format operands => exact absurd rfl joined
  | compound toplevel op members => exact absurd rfl joined

/-- In a statement that is written to its end, joins stand directly behind the
place of the source. -/
theorem joins_in_place (joined : q.joins ≠ []) (toplevel? : Option Bool)
    (written : (q.sql toplevel?).stop = none) : ∃ front rest, q.sql toplevel? =
      front ++ (sourceSql q.sourceKeyword q.source? ++ joinsSql q.joins) ++ rest := by
  by_cases deletes : q.ownKind? = some .delete
  · cases q with
    | delete d e =>
        refine e.sql_around ?_
        cases refused : e.refusal? with
        | none => rfl
        | some error =>
            rw [sql, e.sql_of_refusal refused] at written
            cases written
    | _ => cases deletes
  · rw [sourceKeyword, if_neg deletes]
    rcases sql_around joined deletes toplevel? with ⟨e, refused⟩ | ⟨front, rest, split⟩
    · rw [← q.withSource_source?, refused] at written
      cases written
    · exact ⟨front, rest, by rw [← split q.source? rfl, withSource_source?]⟩

/-- In a statement that is written to its end, the joins stand directly behind its
source, or where the source would stand if it has none. A deletion that has joins
and no source is refused, with nothing written. A selection or an update is not: it
is written exactly if the same one that reads from some relation is, and the text
differs in that source alone. -/
theorem joins_behind_source (joined : q.joins ≠ []) (toplevel? : Option Bool) :
    ((q.sql toplevel?).stop = none → ∃ front rest, q.sql toplevel? =
      front ++ (sourceSql q.sourceKeyword q.source? ++ joinsSql q.joins) ++ rest) ∧
    (q.source? = none →
      (q.ownKind? = some .delete → ∃ message, ∀ w : Writer,
        w.write (q.sql toplevel?) = (w, some (.build message))) ∧
      (q.ownKind? ≠ some .delete → ∀ r : Relation,
        ((q.withSource (some (.relation r))).sql toplevel?).stop = (q.sql toplevel?).stop ∧
        ((q.sql toplevel?).stop = none → ∃ front rest,
          q.sql toplevel? = front ++ joinsSql q.joins ++ rest ∧
          (q.withSource (some (.relation r))).sql toplevel? =
            front ++ (sourceSql " FROM " (some (.relation r)) ++ joinsSql q.joins) ++ rest))) := by
  refine ⟨joins_in_place joined toplevel?, ?_⟩
  intro bare
  constructor
  · intro deletes
    cases q with
    | delete d e =>
        obtain ⟨message, refused⟩ := Delete.refusal?_of_joins joined bare
        refine ⟨message, ?_⟩
        intro w
        rw [sql, e.sql_of_refusal refused, w.write_fail]
    | _ => cases deletes
  · intro other r
    -- A relation brings no definitions with it, so all around it is as without a source.
    have same : sourceItems (some (.relation r)) = sourceItems q.source? := by
      rw [bare]
      rfl
    have own : q.withSource none = q := bare ▸ q.withSource_source?
    rcases sql_around joined other toplevel? with ⟨e, refused⟩ | ⟨front, rest, split⟩
    · rw [refused, ← own, refused]
      exact ⟨rfl, fun written => nomatch written⟩
    · have without : q.sql toplevel? = front ++ joinsSql q.joins ++ rest := by
        have whole := split none (by rw [bare])
        rwa [own, sourceSql, empty_append] at whole
      rw [split _ same]
      refine ⟨?_, fun _ => ⟨front, rest, without, rfl⟩⟩
      rw [without]
      simp only [stop_append, stop_sourceSql]
      rfl

/-- A deletion that is refused, and an update that is not. -/
theorem joins_behind_source_unchecked :
    let users : Join := ⟨.inner, .relation { name := "users" }, []⟩
    let orders : Relation := { name := "orders" }
    let removal : Query :=
      .delete .postgres { Delete.empty with target := some orders, joins := [users] }
    let change : Query :=
      .update .postgres { Update.empty with
        target := some orders
        assignments := [⟨.field (.literal "total"), .null⟩]
        joins := [users] }
    (∃ message, ∀ w : Writer, w.write (removal.sql none) = (w, some (.build message))) ∧
      (change.sql none).sql = "UPDATE orders SET total = NULL JOIN users" ∧
      ∃ front rest, change.sql none = front ++ joinsSql [users] ++ rest ∧
        (change.withSource (some (.relation { name := "items" }))).sql none =
          front ++ (sourceSql " FROM " (some (.relation { name := "items" })) ++
            joinsSql [users]) ++ rest := by
  intro users orders removal change
  have refused := (joins_behind_source (q := removal) (List.cons_ne_nil _ _) none).2 rfl
  have written := (joins_behind_source (q := change) (List.cons_ne_nil _ _) none).2 rfl
  exact ⟨refused.1 rfl, by decide +kernel, (written.2 (by decide) _).2 rfl⟩

/-- A selection and an update with a join and no source are built. -/
theorem join_without_source :
    let users : Join := ⟨.inner, .relation { name := "users" }, []⟩
    let read : Query := .select .sqlite { Select.empty with joins := [users] }
    let change : Query :=
      .update .sqlite { Update.empty with
        target := some { name := "orders" }
        assignments := [⟨.field (.literal "total"), .null⟩]
        joins := [users] }
    (read.joins ≠ [] ∧ read.source? = none ∧
      ∃ b, read.toSql = .ok b ∧ b.sql = "SELECT 1 JOIN users") ∧
    change.joins ≠ [] ∧ change.source? = none ∧
      ∃ b, change.toSql = .ok b ∧ b.sql = "UPDATE orders SET total = NULL JOIN users" := by
  exact ⟨⟨List.cons_ne_nil _ _, rfl, _, rfl, by decide +kernel⟩,
    List.cons_ne_nil _ _, rfl, _, rfl, by decide +kernel⟩

end Query

end SqlCompose
