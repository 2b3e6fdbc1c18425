import SqlCompose.Proofs.Readers
import SqlCompose.Proofs.Routes

/-!
# The course of a fetch

A fetch with a reader runs it once without a row, sends one statement with
the fields it asked for as its projection, and runs it on the rows of the
answer (`Handle.fetch_reads`). Up to the answer nothing counts as a row, so
an error on the way there is reported after 0 rows, and before the statement
is sent it leaves the driver alone.

A reader that reads nothing is not run on the rows at all, however many
there are (`Handle.fetch_reads_nothing`).
-/

namespace SqlCompose

open Fragment

/-! ## Projections -/

/-- The fields of a selection as they are written. -/
def projectionText (fields : List Field) : Fragment :=
  if fields.isEmpty then text "1"
  else commaList (fields.map fun f => f.sql [] ++ aliasSql f.aliasName)

theorem projectionSql_eq_map (excluded : List String) : ∀ fields : List Field,
    projectionSql excluded fields = fields.map fun f => f.sql excluded ++ aliasSql f.aliasName
  | [] => rfl
  | f :: rest =>
      congrArg ((f.sql excluded ++ aliasSql f.aliasName) :: ·)
        (projectionSql_eq_map excluded rest)

namespace Select

/-- What is written before the projection. -/
def headSql (s : Select) : Fragment :=
  WithItem.clause (cteItems s.ctes) s.items ++ text "SELECT " ++
    if s.distinctOn.isEmpty then when s.distinct (text "DISTINCT ")
    else text "DISTINCT ON (" ++ commaList (fieldsSql [] s.distinctOn) ++ text ") "

/-- What is written after the projection. -/
def tailSql (s : Select) : Fragment :=
  sourceSql " FROM " s.source ++ joinsSql s.joins ++ conditionsSql " WHERE " [] s.conditions ++
    clause " GROUP BY " (fieldsSql [] s.groupBy) ++ conditionsSql " HAVING " [] s.having ++
    clause " WINDOW " (windowsSql s.windows) ++ clause " ORDER BY " (fieldsSql [] s.orderBy) ++
    countSql " LIMIT " s.limit ++ when (s.withTies && s.limit.isSome) (text " WITH TIES") ++
    countSql " OFFSET " s.offset

theorem sql_fields (s : Select) (fields : List Field) :
    Select.sql { s with fields } = s.headSql ++ projectionText fields ++ s.tailSql := by
  obtain ⟨ctes, distinct, distinctOn, _, source, joins, conditions, groupBy, having, windows,
    orderBy, limit, withTies, offset⟩ := s
  have projection : (if fields.isEmpty then text "1" else commaList (projectionSql [] fields)) =
      projectionText fields := by rw [projectionText, projectionSql_eq_map]
  simp only [sql, projection, headSql, tailSql, items, append_assoc]

end Select

/-- A statement with other fields as its projection, which only a selection
has. -/
def Query.fetchSql (q : Query) (fields : List Field) : Except Error Fragment :=
  match q with
  | .select _ s => .ok (s.headSql ++ projectionText fields ++ s.tailSql)
  | _ => .error .unsupported

theorem Query.build_fetchSql (q : Query) (fields : List Field) :
    (q.withProjection fields).bind toSql = (q.fetchSql fields).bind (·.build q.dialect) := by
  cases q with
  | select d s =>
      have built : (select d { s with fields }).toSql =
          (s.headSql ++ projectionText fields ++ s.tailSql).build d := by
        rw [toSql, statementSql, sql, s.sql_fields fields]
        rfl
      exact built
  | insert d i => rfl
  | update d u => rfl
  | delete d deletion => rfl
  | raw d format operands => rfl
  | compound toplevel op members => rfl

/-! ## Asking a handle -/

namespace Handle

variable {h : Handle} {c : Context}

/-- What a handle gives for a statement depends on the engine only through
its contexts. -/
theorem query_congr {e e' : Engine} (same : e'.contexts = e.contexts) (sql : String)
    (args : List Scalar) : (h.query c sql args e').1 = (h.query c sql args e).1 := by
  have sends : (h.send c sql args e').1 = (h.send c sql args e).1 := by
    rw [send, send, same]
    split
    split <;> rfl
  rw [query, Action.andThen, Action.andThen]
  generalize h.send c sql args e' = x at sends ⊢
  generalize h.send c sql args e = y at sends ⊢
  obtain ⟨result, s⟩ := x
  obtain ⟨result', s'⟩ := y
  cases sends
  cases result <;> rfl

/-- A statement under a context that is done is not sent. -/
theorem sent_query_of_done {e : Engine} (done : ¬ h.IsLive c e.contexts) (sql : String)
    (args : List Scalar) : (h.query c sql args e).2.sent = e.sent := by
  rw [query, Action.view_andThen Engine.sent fun _ _ => rfl]
  rw [IsLive] at done
  obtain ⟨error, late⟩ := Option.ne_none_iff_exists'.mp done
  rw [send]
  simp only [late]

/-- A driver that answers at once is heard under a live context, whatever it
cancels. -/
theorem query_of_prompt {e : Engine} (live : h.IsLive c e.contexts) {sql : String}
    {args : List Scalar} (prompt : (h.driver sql args).delay = 0) :
    (h.query c sql args e).1 = (h.driver sql args).outcome.map (·.rows) := by
  have runs : ((Contexts.run (h.limited c e.contexts).2 (h.limited c e.contexts).1 {}
      (h.driver sql args).actions).1.1 : Except Error Answer) = (h.driver sql args).outcome := by
    rw [Contexts.run, live, Reply.actions, prompt]
    cases (h.driver sql args).cancels <;> rfl
  have sends : (h.send c sql args e).1 = (h.driver sql args).outcome := by
    rw [IsLive] at live
    rw [send]
    simp only [live]
    exact runs
  rw [query, Action.andThen]
  generalize h.send c sql args e = given at sends
  obtain ⟨result, e'⟩ := given
  rw [← sends]
  cases result <;> rfl

end Handle

/-! ## The steps of a fetch -/

namespace Fetch

variable {τ : Type} (r : Reader τ)

theorem discover_reader {s : CallState τ}
    (runs : (r.discovery s.own).1 = .ok () ∨ (r.discovery s.own).1 = .error .skipRows) :
    discover r.mapper s = (.ok r.requested, { s with own := (r.discovery s.own).2 }) :=
  discover_eq (r.mapper_blank s.engine.contexts s.own) runs

theorem discover_reader_of_error {s : CallState τ} {error : Error}
    (fails : (r.discovery s.own).1 = .error error) (other : error ≠ .skipRows) :
    discover r.mapper s = (.error error, { s with own := (r.discovery s.own).2 }) := by
  have viewed : onView r.mapper .blank s = (.error error, .discovery r.requested,
      { s with own := (r.discovery s.own).2 }) := by
    rw [onView, r.mapper_blank, fails]
  rw [discover, viewed]
  split
  · rename_i eq
    cases eq
  · rename_i eq
    cases eq
    exact absurd rfl other
  · rename_i eq
    cases eq
    rfl

/-- What follows the answer. -/
theorem mapAnswer_reader (limit : Nat) (b : BuiltQuery) (rows : List ResultRow) {s : CallState τ}
    (h : s.scratch.Holds b) (reads : r.getters ≠ []) :
    ∃ k, (mapAnswer limit r.requested r.mapper rows s).2.rowCount = s.rowCount + k ∧
      r.Ends (r.scanError b) rows s.own (mapAnswer limit r.requested r.mapper rows s).1 k
        (mapAnswer limit r.requested r.mapper rows s).2.own := by
  have asked : r.requested.isEmpty = false := by
    rw [Reader.requested, List.isEmpty_map]
    exact List.isEmpty_eq_false_iff.mpr reads
  obtain ⟨k, count, ends⟩ := ends_mapRows r limit b rows s h
  refine ⟨k, ?_⟩
  rw [mapAnswer, asked, if_neg Bool.false_ne_true, Action.andThen]
  generalize mapRows limit r.requested r.mapper rows s = answer at count ends ⊢
  obtain ⟨result, s'⟩ := answer
  cases result with
  | ok _ => exact ⟨count, ends⟩
  | error e => exact ⟨count, ends⟩

theorem mapAnswer_nothing (limit : Nat) (rows : List ResultRow) (s : CallState τ)
    (reads : r.getters = []) :
    mapAnswer limit r.requested r.mapper rows s = (.ok (), s) := by
  rw [mapAnswer, Reader.requested, reads]
  rfl

/-- The body of a fetch after the reader has run without a row: a failure
to build the statement changes nothing, and a statement that is built is
sent as it is. -/
theorem body_reader (h : Handle) (c : Context) (q : Query) {s : CallState τ}
    (dialect : s.scratch.dialect = q.dialect)
    (runs : (r.discovery s.own).1 = .ok () ∨ (r.discovery s.own).1 = .error .skipRows) :
    let seen : CallState τ := { s with own := (r.discovery s.own).2 }
    match (q.fetchSql (r.getters.map (·.field))).bind (·.build q.dialect) with
    | .error error => ∃ scratch, body h c q r.mapper s = (.error error, { seen with scratch })
    | .ok b => ∃ scratch, scratch.Holds b ∧ body h c q r.mapper s =
        (CallState.sent (h.query c)).andThen (mapAnswer h.previewRows r.requested r.mapper)
          { seen with scratch } := by
  intro seen
  have fields : r.requested.map (·.field) = r.getters.map (·.field) := by
    rw [Reader.requested, List.map_map]
    rfl
  have course : body h c q r.mapper s =
      ((Action.ofExcept (q.withProjection (r.getters.map (·.field)))).andThen fun q =>
        (CallState.render (q.sql none)).andThen fun _ => (CallState.sent (h.query c)).andThen
          (mapAnswer h.previewRows r.requested r.mapper)) seen := by
    rw [body, Action.andThen, discover_reader r runs, ← fields]
  rw [← Query.build_fetchSql, course]
  cases projected : q.withProjection (r.getters.map (·.field)) with
  | error error => exact ⟨s.scratch, rfl⟩
  | ok q' =>
      obtain ⟨dialect', shared⟩ := Query.withProjection_eq projected
      have builds : (q'.sql none).build seen.scratch.dialect = q'.toSql := by
        rw [← shared, Query.sharedToSql, dialect']
        exact congrArg (q'.sql none).build dialect
      simp only [Except.bind, Action.andThen, Action.ofExcept]
      cases built : q'.toSql with
      | error error =>
          obtain ⟨scratch, rendered⟩ :=
            CallState.render_of_build_error (s := seen) (builds.trans built)
          refine ⟨scratch, ?_⟩
          rw [rendered]
      | ok b =>
          obtain ⟨scratch, holds, rendered⟩ :=
            CallState.render_of_build (s := seen) (builds.trans built)
          refine ⟨scratch, holds, ?_⟩
          rw [rendered]

/-- A statement in the buffers is sent, and what follows depends on the
answer. -/
theorem answer_reader (h : Handle) (c : Context) {s : CallState τ} {b : BuiltQuery}
    (holds : s.scratch.Holds b) :
    let answer := h.query c b.sql b.args s.engine
    let ended := (CallState.sent (h.query c)).andThen
      (mapAnswer h.previewRows r.requested r.mapper) s
    ended.2.engine.sent = answer.2.sent ∧
    match answer.1 with
    | .error error => ended.1 = .error error ∧ ended.2.rowCount = s.rowCount ∧ ended.2.own = s.own
    | .ok rows =>
      (r.getters = [] → ended.1 = .ok () ∧ ended.2.rowCount = s.rowCount ∧
        ended.2.own = s.own) ∧
      (r.getters ≠ [] → ∃ k, ended.2.rowCount = s.rowCount + k ∧
        r.Ends (r.scanError b) rows s.own ended.1 k ended.2.own) := by
  intro answer ended
  have course : ended = match answer with
      | (.error error, engine) => (.error error, { s with engine })
      | (.ok rows, engine) =>
        mapAnswer h.previewRows r.requested r.mapper rows { s with engine } := by
    simp only [ended, answer, Action.andThen, CallState.sent, holds.sql, holds.args]
    generalize h.query c b.sql b.args s.engine = given
    obtain ⟨result, engine⟩ := given
    cases result <;> rfl
  clear_value ended answer
  obtain ⟨answered, engine⟩ := answer
  cases answered with
  | error error =>
      subst course
      exact ⟨rfl, rfl, rfl, rfl⟩
  | ok rows =>
      have sent : (mapAnswer h.previewRows r.requested r.mapper rows
          { s with engine }).2.engine.sent = engine.sent := by
        obtain ⟨contexts, left⟩ :=
          engine_mapAnswer h.previewRows r.requested r.mapper rows { s with engine }
        rw [left]
      subst course
      refine ⟨sent, fun reads => ?_, fun reads => ?_⟩
      · have nothing := mapAnswer_nothing r h.previewRows rows { s with engine } reads
        exact ⟨congrArg Prod.fst nothing, congrArg (·.2.rowCount) nothing,
          congrArg (·.2.own) nothing⟩
      · exact mapAnswer_reader r h.previewRows b rows (s := { s with engine }) holds reads

end Fetch

namespace Handle

variable {τ : Type}

/-- What a fetch does, step by step. A reader that fails without a row, a
statement that has no projection or cannot be built, and a handle that gives
an error all end it after 0 rows with that error, the first three before
anything is sent. The rows of an answer are given to a reader that reads
something, up to the row that ends the fetch. -/
theorem fetch_reads (h : Handle) (c : Context) (site : CallSite) (q : Query) (r : Reader τ)
    (own : τ) (e : Engine) :
    let fetched := h.fetch c site q r.mapper own e
    let seen := r.discovery own
    (∀ error, seen.1 = .error error → error ≠ .skipRows →
      fetched.1 = .error ⟨0, error⟩ ∧ fetched.2.1 = seen.2 ∧ fetched.2.2.sent = e.sent) ∧
    (seen.1 = .ok () ∨ seen.1 = .error .skipRows →
      match (q.fetchSql (r.getters.map (·.field))).bind (·.build q.dialect) with
      | .error error =>
        fetched.1 = .error ⟨0, error⟩ ∧ fetched.2.1 = seen.2 ∧ fetched.2.2.sent = e.sent
      | .ok b =>
        (¬ h.IsLive c e.contexts → fetched.2.2.sent = e.sent) ∧
        (h.IsLive c e.contexts → fetched.2.2.sent = e.sent ++ [(b.sql, b.args)] ∧
          ((h.driver b.sql b.args).delay = 0 →
            (h.query c b.sql b.args e).1 = (h.driver b.sql b.args).outcome.map (·.rows))) ∧
        match (h.query c b.sql b.args e).1 with
        | .error error => fetched.1 = .error ⟨0, error⟩ ∧ fetched.2.1 = seen.2
        | .ok rows =>
          (r.getters = [] → fetched.1 = .ok 0 ∧ fetched.2.1 = seen.2) ∧
          (r.getters ≠ [] → ∃ result k, fetched.1 = Fetch.counted result k ∧
            r.Ends (r.scanError b) rows seen.2 result k fetched.2.1)) ∧
    ∀ (row : ResultRow) (j : Fin r.getters.length),
      (Readings.ofRow row 0 r.getters).value? r.getters j = (r.getters.get j).value? row j := by
  obtain ⟨s, hs, result, kept, sent⟩ := h.fetch_eq c site q r.mapper own e
  intro fetched seen
  have result : fetched.1 = _ := result
  have kept : fetched.2.1 = _ := kept
  have sent : fetched.2.2.sent = _ := sent
  have same : r.discovery s.own = seen := congrArg r.discovery hs.own
  rw [result, kept, sent]
  refine ⟨?_, ?_, ?_⟩
  · intro error fails other
    have course := Fetch.discover_reader_of_error r (s := s) (same ▸ fails) other
    rw [Fetch.body, Action.andThen, course, same]
    exact ⟨congrArg (Fetch.counted _) hs.rowCount, rfl, hs.sent⟩
  · intro runs
    have course := Fetch.body_reader r h c q hs.dialect (same ▸ runs)
    rw [same] at course
    cases built : (q.fetchSql (r.getters.map (·.field))).bind (·.build q.dialect) with
    | error error =>
        rw [built] at course
        obtain ⟨scratch, course⟩ := course
        rw [course]
        exact ⟨congrArg (Fetch.counted _) hs.rowCount, rfl, hs.sent⟩
    | ok b =>
        rw [built] at course
        obtain ⟨scratch, holds, course⟩ := course
        obtain ⟨passed, ended⟩ :=
          Fetch.answer_reader r h c (s := { s with own := seen.2, scratch }) holds
        -- The call has taken buffers from the pool, which does not change the answer.
        have asked : (h.query c b.sql b.args s.engine).1 = (h.query c b.sql b.args e).1 :=
          query_congr hs.contexts b.sql b.args
        rw [← course] at passed ended
        refine ⟨fun late => ?_, fun live => ⟨?_, query_of_prompt live⟩, ?_⟩
        · exact passed.trans ((sent_query_of_done (hs.contexts ▸ late) b.sql b.args).trans hs.sent)
        · exact passed.trans ((sent_query (hs.contexts ▸ live) b.sql b.args).trans
            (congrArg (· ++ _) hs.sent))
        · simp only [asked] at ended
          generalize Fetch.body h c q r.mapper s = outcome at ended ⊢
          cases answered : (h.query c b.sql b.args e).1 with
          | error error =>
              rw [answered] at ended
              obtain ⟨given, count, left⟩ := ended
              rw [given, count, hs.rowCount]
              exact ⟨rfl, left⟩
          | ok rows =>
              rw [answered] at ended
              obtain ⟨nothing, counts⟩ := ended
              refine ⟨fun reads => ?_, fun reads => ?_⟩
              · obtain ⟨given, count, left⟩ := nothing reads
                rw [given, count, hs.rowCount]
                exact ⟨rfl, left⟩
              · obtain ⟨k, count, ends⟩ := counts reads
                refine ⟨_, k, ?_, ends⟩
                rw [count, hs.rowCount, Nat.zero_add]
  · intro row j
    rw [Readings.value?_ofRow, Nat.zero_add]

/-- Two of three rows, and a cell that is no number. -/
theorem fetch_reads_twice :
    let a : Field := .column "" "a"
    let r : Reader (List Int64) :=
      { getters := [⟨_, .int, a⟩]
        finish := fun live (v, _) own =>
          if live then (if v = some 2 then .error .skipRows else .ok (), own ++ v.toList)
          else (.ok (), own) }
    let rows : List ResultRow :=
      [⟨["a"], [some (.int 1)]⟩, ⟨["a"], [some (.int 2)]⟩, ⟨["a"], [some (.text "x")]⟩]
    let h : Handle := { driver := fun _ _ => { outcome := .ok { rows } }, pooled := true }
    let c : Context := ⟨none, 0⟩
    let e : Engine := { contexts := Contexts.start.background, pool := .new 4 }
    let fetched := h.fetch c ⟨"", 0⟩ (.select .sqlite .empty) r.mapper [] e
    fetched.2.2.sent = [("SELECT a", [])] ∧
      (∃ result k, fetched.1 = Fetch.counted result k ∧
        r.Ends (r.scanError ⟨.sqlite, "SELECT a", [], []⟩) rows [] result k fetched.2.1) ∧
      fetched.1.toOption = some 2 ∧ fetched.2.1 = [1, 2] := by
  intro a r rows h c e
  have live : h.IsLive c e.contexts := isLive_of_not_done rfl nofun
  have built : ((Query.select .sqlite .empty).fetchSql [a]).bind (·.build .sqlite) =
      .ok ⟨.sqlite, "SELECT a", [], []⟩ := rfl
  have fields : r.getters.map (·.field) = [a] := rfl
  obtain ⟨-, course, -⟩ := h.fetch_reads c ⟨"", 0⟩ (.select .sqlite .empty) r [] e
  have course := course (.inl rfl)
  rw [fields, Query.dialect, built] at course
  obtain ⟨-, sends, answered⟩ := course
  exact ⟨(sends live).1, answered.2 nofun, by decide +kernel +zetaReduce,
    by decide +kernel +zetaReduce⟩

/-- A reader that reads nothing is not run on the row of an answer. -/
theorem fetch_reads_nothing :
    let r : Reader Nat :=
      { getters := [], finish := fun live _ visits => (.ok (), if live then visits + 1 else visits) }
    let row : ResultRow := ⟨["1"], [some (.int 1)]⟩
    let h : Handle := { driver := fun _ _ => { outcome := .ok { rows := [row] } } }
    let c : Context := ⟨none, 0⟩
    let e : Engine := { contexts := Contexts.start.background, pool := .new 4 }
    let fetched := h.fetch c ⟨"", 0⟩ (.select .sqlite .empty) r.mapper 0 e
    fetched.2.2.sent = [("SELECT 1", [])] ∧ (h.query c "SELECT 1" [] e).1 = .ok [row] ∧
      fetched.1 = .ok 0 ∧ fetched.2.1 = 0 ∧
      ¬ ∃ result k, fetched.1 = Fetch.counted result k ∧
        r.Ends (r.scanError ⟨.sqlite, "SELECT 1", [], []⟩) [row] 0 result k fetched.2.1 := by
  refine ⟨rfl, rfl, rfl, rfl, ?_⟩
  rintro ⟨result, k, count, ends⟩
  have count : Fetch.counted result k = .ok 0 := count.symm
  have visited : k ≠ 0 := Nat.pos_iff_ne_zero.mp (ends.pos (List.cons_ne_nil _ _))
  cases result with
  | ok _ => exact visited (Except.ok.inj count)
  | error _ => cases count

end Handle

end SqlCompose
