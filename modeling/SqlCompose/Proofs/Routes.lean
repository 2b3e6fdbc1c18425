import SqlCompose.Execute.Exec
import SqlCompose.Execute.Fetch
import SqlCompose.Proofs.Buffers
import SqlCompose.Proofs.Marks
import SqlCompose.Proofs.Toplevel

/-!
# Routes of a statement

A statement is turned into text by itself (`Query.toSql`), through a shared
handle (`Query.sharedToSql`), and in the buffers of a call that runs it or
fetches its rows. The arguments and the errors of all routes are the same.
So is the text, but for one pair of parentheses: a set operation of several
members loses its parentheses only in `Query.toSql`, unless it is marked as
top level itself (`Query.keepsParens`).
-/

namespace SqlCompose

open Fragment

/-! ## Building with parentheses -/

namespace Fragment

theorem recordPieces_append_text (s : String) (pieces : List Piece) (index : Nat)
    (names : Names) :
    recordPieces index (pieces ++ [.text s]) names = recordPieces index pieces names := by
  induction pieces generalizing index names with
  | nil => rfl
  | cons p pieces ih =>
      cases p with
      | text s => exact ih index names
      | arg name? v =>
          cases name? with
          | none => exact ih (index + 1) names
          | some name => exact ih (index + 1) _

/-- Parentheses change nothing of a statement but its text. -/
theorem build_parens (d : Dialect) (f : Fragment) :
    (parens f).build d = (f.build d).map fun b => { b with sql := "(" ++ b.sql ++ ")" } := by
  rw [build, build, stop_parens]
  cases hstop : f.stop with
  | some e => rfl
  | none =>
      have hopen : (text "(" ++ f).stop = none := stop_append_eq_none.mpr ⟨rfl, hstop⟩
      have hpieces : (parens f).pieces = .text "(" :: (f.pieces ++ [.text ")"]) := by
        rw [parens, pieces_append hopen, pieces_append (stop_text _)]
        rfl
      have hnames : recordPieces 0 (parens f).pieces [] = recordPieces 0 f.pieces [] := by
        rw [hpieces]
        exact recordPieces_append_text ")" f.pieces 0 []
      simp only [Writer.append, Writer.finish, Except.map, String.empty_append, List.nil_append,
        List.length_nil, sql_parens hstop, args_parens, hnames]
      cases d.isNumbered with
      | true => simp only [if_true, Placeholder.numbered_parens]
      | false => rfl

end Fragment

namespace Query

/-- A set operation that is in parentheses where it is not told that it
stands by itself. -/
def keepsParens (q : Query) : Bool := q.wraps && !q.isToplevel

/-- The statement as the routes send it that do not tell a set operation
that it stands by itself. -/
def wrapSent (q : Query) (b : BuiltQuery) : BuiltQuery :=
  if q.keepsParens then { b with sql := "(" ++ b.sql ++ ")" } else b

theorem args_wrapSent (q : Query) (b : BuiltQuery) : (q.wrapSent b).args = b.args := by
  rw [wrapSent]
  split <;> rfl

/-- The text is the same exactly if no parentheses are kept. -/
theorem sql_wrapSent_iff (q : Query) (b : BuiltQuery) :
    (q.wrapSent b).sql = b.sql ↔ q.keepsParens = false := by
  rw [wrapSent]
  cases q.keepsParens with
  | false => simp
  | true => simp [text_parens_ne]

/-- The shared route. -/
theorem sharedToSql_eq (q : Query) : q.sharedToSql = q.toSql.map q.wrapSent := by
  have hwrap : q.wrapSent = fun b => if q.keepsParens then
      { b with sql := "(" ++ b.sql ++ ")" } else b := rfl
  rw [sharedToSql, toSql, sql_none, ← keepsParens, hwrap]
  cases q.keepsParens with
  | true => exact build_parens _ _
  | false =>
      rw [parensIf_false]
      cases q.statementSql.build q.dialect <;> rfl

end Query

/-! ## Sending -/

namespace Handle

/-- The context that a statement is sent under is not done. -/
def IsLive (h : Handle) (c : Context) (s : Contexts) : Prop :=
  (h.limited c s).2.error? (h.limited c s).1 = none

/-- A context that is not done stays so under a handle that gives it any
time at all. -/
theorem isLive_of_not_done {h : Handle} {c : Context} {s : Contexts} (hc : s.error? c = none)
    (ht : h.config.bind (·.timeout) ≠ some 0) : h.IsLive c s := by
  rw [IsLive, limited]
  cases htimeout : h.config.bind (·.timeout) with
  | none => exact hc
  | some millis =>
      have hmillis : millis ≠ 0 := fun h0 => ht (h0 ▸ htimeout)
      have hcancelled : s.isCancelled c.signal = false := by
        rw [Contexts.error?] at hc
        split at hc
        · cases hc
        · rename_i hcancelled
          exact Bool.eq_false_iff.mpr hcancelled
      have hlate : ¬ c.earlier (s.now + millis) ≤ s.now := by
        rw [Contexts.error?, hcancelled, if_neg Bool.false_ne_true] at hc
        rw [Context.earlier]
        cases hdeadline : c.deadline with
        | none =>
            simp only
            omega
        | some deadline =>
            rw [hdeadline] at hc
            have hnow : ¬ deadline ≤ s.now := fun hle => by
              simp only [if_pos hle] at hc
              cases hc
            simp only
            omega
      simp [Contexts.withTimeout, Contexts.withDeadline, Contexts.addSignal, Contexts.push,
        Contexts.error?, Contexts.isCancelled, hlate]
      exact hcancelled

variable {h : Handle} {c : Context} {e : Engine}

/-- A statement that is sent under a live context reaches the driver. -/
theorem sent_send (hlive : h.IsLive c e.contexts) (sql : String) (args : List Scalar) :
    (h.send c sql args e).2.sent = e.sent ++ [(sql, args)] := by
  rw [IsLive] at hlive
  rw [send]
  simp only [hlive]

end Handle

namespace Action

variable {σ α β γ : Type}

/-- The action leaves what the view shows of a state as it was. -/
def Leaves (view : σ → γ) (x : Action σ α) : Prop := ∀ s, view (x s).2 = view s

/-- What the second action leaves alone is as the first one left it. -/
theorem view_andThen (view : σ → γ) {x : Action σ α} {f : α → Action σ β}
    (hf : ∀ a, (f a).Leaves view) (s : σ) : view (x.andThen f s).2 = view (x s).2 := by
  rw [andThen]
  split
  · rename_i a s' hx
    rw [hf, hx]
  · rename_i err s' hx
    rw [hx]

theorem Leaves.andThen {view : σ → γ} {x : Action σ α} {f : α → Action σ β}
    (hx : x.Leaves view) (hf : ∀ a, (f a).Leaves view) : (x.andThen f).Leaves view := fun s =>
  (view_andThen view hf s).trans (hx s)

theorem leaves_ofExcept (view : σ → γ) (r : Except Error α) :
    (ofExcept r : Action σ α).Leaves view := fun _ => rfl

end Action

namespace Handle

variable {h : Handle} {c : Context} {e : Engine}

theorem sent_execute (hlive : h.IsLive c e.contexts) (sql : String) (args : List Scalar) :
    (h.execute c sql args e).2.sent = e.sent ++ [(sql, args)] := by
  rw [execute, Action.view_andThen Engine.sent fun _ _ => rfl, sent_send hlive]

theorem sent_query (hlive : h.IsLive c e.contexts) (sql : String) (args : List Scalar) :
    (h.query c sql args e).2.sent = e.sent ++ [(sql, args)] := by
  rw [query, Action.view_andThen Engine.sent fun _ _ => rfl, sent_send hlive]

end Handle

/-! ## The body of a call -/

namespace CallState

variable {τ α β : Type}

/-- The state in which the body of a call begins. -/
structure Begins (s : CallState τ) (d : Dialect) (own : τ) (e : Engine) : Prop where
  dialect : s.scratch.dialect = d
  own : s.own = own
  rowCount : s.rowCount = 0
  contexts : s.engine.contexts = e.contexts
  sent : s.engine.sent = e.sent

theorem leaves_pool_render (f : Fragment) :
    (render f : Action (CallState τ) Unit).Leaves fun s => s.engine.pool := fun _ => rfl

theorem leaves_pool_sent {go : String → List Scalar → Action Engine α}
    (hgo : ∀ sql args, (go sql args).Leaves Engine.pool) :
    (sent go : Action (CallState τ) α).Leaves fun s => s.engine.pool := fun _ => hgo _ _ _

/-- Rendering leaves the built statement in the buffers. -/
theorem render_of_build {s : CallState τ} {f : Fragment} {b : BuiltQuery}
    (built : f.build s.scratch.dialect = .ok b) :
    ∃ scratch, scratch.Holds b ∧ render f s = (.ok (), { s with scratch }) := by
  have rendered := s.scratch.render_eq_build f
  rw [built] at rendered
  obtain ⟨ran, holds⟩ := rendered
  have pair : s.scratch.render f = (none, (s.scratch.render f).2) := Prod.ext ran rfl
  refine ⟨(s.scratch.render f).2, holds, ?_⟩
  rw [render, pair]

theorem render_of_build_error {s : CallState τ} {f : Fragment} {error : Error}
    (built : f.build s.scratch.dialect = .error error) :
    ∃ scratch, render f s = (.error error, { s with scratch }) := by
  have stopped := s.scratch.render_eq_build f
  rw [built] at stopped
  have pair : s.scratch.render f = (some error, (s.scratch.render f).2) := Prod.ext stopped rfl
  refine ⟨(s.scratch.render f).2, ?_⟩
  rw [render, pair]

/-- A body that renders a statement and sends it: it fails with the error of
building the statement, or sends what was built. -/
theorem render_andThen_sent (s : CallState τ) (f : Fragment)
    (go : String → List Scalar → Action Engine α) (rest : α → Action (CallState τ) β)
    (hgo : ∀ sql args, (go sql args s.engine).2.sent = s.engine.sent ++ [(sql, args)])
    (hrest : ∀ a (s : CallState τ), (rest a s).2.engine.sent = s.engine.sent) :
    let r := ((render f).andThen fun _ => (CallState.sent go).andThen rest) s
    match f.build s.scratch.dialect with
    | .error err => r.1 = .error err ∧ r.2.rowCount = s.rowCount ∧
        r.2.engine.sent = s.engine.sent
    | .ok b => r.2.engine.sent = s.engine.sent ++ [(b.sql, b.args)] := by
  cases hbuild : f.build s.scratch.dialect with
  | error err =>
      obtain ⟨scratch, hstate⟩ := render_of_build_error hbuild
      simp only [Action.andThen, hstate, and_self]
  | ok b =>
      obtain ⟨scratch, holds, hstate⟩ := render_of_build hbuild
      intro r
      have hr : r = ((CallState.sent go).andThen rest) { s with scratch } := by
        change ((render f).andThen _) s = _
        rw [Action.andThen, hstate]
      change r.2.engine.sent = _
      rw [hr, Action.view_andThen (fun s : CallState τ => s.engine.sent) hrest, ← holds.sql,
        ← holds.args]
      exact hgo _ _

end CallState

namespace Handle

variable {τ α : Type}

/-- A call gives what its body gives, sends what its body sends, and leaves
the state of the mapper as its body does. -/
theorem call_eq (h : Handle) (c : Context) (site : CallSite) (d : Dialect)
    (outcome : Except Error α → Nat → Outcome) (body : Action (CallState τ) α) (own : τ)
    (e : Engine) :
    ∃ s : CallState τ, s.Begins d own e ∧
      (h.call c site d outcome body own e).1 = ((body s).1, (body s).2.rowCount) ∧
      (h.call c site d outcome body own e).2.2.sent = (body s).2.engine.sent ∧
      (h.call c site d outcome body own e).2.1 = (body s).2.own := by
  have hsent : ∀ (r : LogRecord) (e : Engine), (h.log c r e).sent = e.sent := by
    intro r e
    rw [log]
    split <;> rfl
  cases hp : h.pooled with
  | true =>
      refine ⟨{ engine := { e with pool := (Scratch.take d e.pool).2 }
                scratch := (Scratch.take d e.pool).1, own },
        ⟨rfl, rfl, rfl, rfl, rfl⟩, ?_, ?_, ?_⟩
      · simp only [call, hp, if_true]
      · simp only [call, hp, if_true, hsent]
      · simp only [call, hp, if_true]
  | false =>
      refine ⟨{ engine := e, scratch := (Scratch.take d (.new 0)).1, own },
        ⟨rfl, rfl, rfl, rfl, rfl⟩, ?_, ?_, ?_⟩
      · simp only [call, hp, Bool.false_eq_true, if_false]
      · simp only [call, hp, Bool.false_eq_true, if_false, hsent]
      · simp only [call, hp, Bool.false_eq_true, if_false]

/-- Running a statement sends it as a shared handle gives it. -/
theorem sent_exec {h : Handle} {c : Context} {e : Engine} (site : CallSite) (q : Query)
    (flags : ExecFlags) (hlive : h.IsLive c e.contexts) :
    match q.sharedToSql with
    | .error err => (h.exec c site q flags e).1 = .error err ∧
        (h.exec c site q flags e).2.sent = e.sent
    | .ok b => (h.exec c site q flags e).2.sent = e.sent ++ [(b.sql, b.args)] := by
  obtain ⟨s, hs, hresult, hsent, -⟩ := h.call_eq c site q.dialect (fun r _ => Exec.outcome flags r)
    (Exec.body h c q flags) () e
  have hbody := CallState.render_andThen_sent s (q.sql none) (h.execute c)
    (fun r => Action.ofExcept (Exec.requested q.dialect flags r))
    (sent_execute (hs.contexts ▸ hlive)) (fun _ _ => rfl)
  rw [hs.dialect, ← Query.sharedToSql] at hbody
  have hexec1 : (h.exec c site q flags e).1 = (Exec.body h c q flags s).1 :=
    congrArg Prod.fst hresult
  have hexec2 : (h.exec c site q flags e).2.sent = (Exec.body h c q flags s).2.engine.sent := hsent
  cases hbuild : q.sharedToSql with
  | error err =>
      rw [hbuild] at hbody
      exact ⟨hexec1.trans hbody.1, hexec2.trans (hbody.2.2.trans hs.sent)⟩
  | ok b =>
      rw [hbuild] at hbody
      exact hexec2.trans (hbody.trans (congrArg (· ++ _) hs.sent))

end Handle

/-! ## Fetching -/

namespace Fetch

variable {τ : Type}

/-- A mapper changes nothing of the engine but its contexts. -/
theorem engine_mapRows (limit : Nat) (requested : List RequestedField) (m : Mapper τ Unit)
    (rows : List ResultRow) (s : CallState τ) :
    ∃ contexts, (mapRows limit requested m rows s).2.engine = { s.engine with contexts } := by
  induction rows generalizing s with
  | nil => exact ⟨_, rfl⟩
  | cons row rest ih =>
      have hview : ∃ contexts,
          (onView m (.ofRow row) (countRow limit requested row s)).2.2.engine =
            { s.engine with contexts } := ⟨_, rfl⟩
      obtain ⟨⟨result, view, s'⟩, hseen⟩ :
          ∃ seen, onView m (.ofRow row) (countRow limit requested row s) = seen := ⟨_, rfl⟩
      rw [hseen] at hview
      simp only [mapRows, hseen]
      by_cases hfailures : view.failures.isEmpty = true
      · rw [if_pos hfailures]
        split
        · obtain ⟨contexts, hs'⟩ := hview
          obtain ⟨contexts', hrest⟩ := ih s'
          exact ⟨contexts', by rw [hrest, hs']⟩
        · exact hview
        · exact hview
      · rw [if_neg hfailures]
        exact hview

theorem leaves_pool_discover (m : Mapper τ Unit) :
    (discover m).Leaves fun s => s.engine.pool := by
  intro s
  obtain ⟨⟨result, t⟩, hm⟩ : ∃ seen, m ⟨.blank, s.engine.contexts, s.own⟩ = seen := ⟨_, rfl⟩
  simp only [discover, onView, hm]
  split <;> rename_i heq <;> cases heq <;> rfl

theorem engine_mapAnswer (limit : Nat) (requested : List RequestedField) (m : Mapper τ Unit)
    (rows : List ResultRow) (s : CallState τ) :
    ∃ contexts, (mapAnswer limit requested m rows s).2.engine = { s.engine with contexts } := by
  rw [mapAnswer]
  split
  · exact ⟨_, rfl⟩
  · rw [Action.view_andThen CallState.engine fun _ _ => rfl]
    exact engine_mapRows limit requested m rows s

/-- Discovery takes the fields from a view without a row, of a mapper that
ends or skips the rows. -/
theorem discover_eq {m : Mapper τ Unit} {s : CallState τ} {result : Except Error Unit}
    {t : MapperState τ} (hm : m ⟨.blank, s.engine.contexts, s.own⟩ = (result, t))
    (hresult : result = .ok () ∨ result = .error .skipRows) :
    discover m s = (.ok t.view.requested,
      { s with engine := { s.engine with contexts := t.contexts }, own := t.own }) := by
  rcases hresult with rfl | rfl <;> simp only [discover, onView, hm]

/-- A result with the number of rows that were read. -/
def counted (result : Except Error Unit) (count : Nat) : Except FetchFault Nat :=
  match result with
  | .ok _ => .ok count
  | .error e => .error ⟨count, e⟩

end Fetch

namespace Query

/-- Only a selection takes another projection, and it has no parentheses. -/
theorem withProjection_eq {q q' : Query} {fields : List Field}
    (h : q.withProjection fields = .ok q') :
    q'.dialect = q.dialect ∧ q'.sharedToSql = q'.toSql := by
  cases q with
  | select d s =>
      cases h
      exact ⟨rfl, rfl⟩
  | _ => cases h

end Query

namespace Handle

variable {τ : Type}

/-- A fetch gives what its body gives, with the rows that the body counted. -/
theorem fetch_eq (h : Handle) (c : Context) (site : CallSite) (q : Query) (m : Mapper τ Unit)
    (own : τ) (e : Engine) :
    ∃ s : CallState τ, s.Begins q.dialect own e ∧
      (h.fetch c site q m own e).1 =
        Fetch.counted (Fetch.body h c q m s).1 (Fetch.body h c q m s).2.rowCount ∧
      (h.fetch c site q m own e).2.1 = (Fetch.body h c q m s).2.own ∧
      (h.fetch c site q m own e).2.2.sent = (Fetch.body h c q m s).2.engine.sent := by
  obtain ⟨s, hs, result, sent, kept⟩ := h.call_eq c site q.dialect (fun _ rowCount => { rowCount })
    (Fetch.body h c q m) own e
  refine ⟨s, hs, ?_⟩
  rw [fetch]
  generalize h.call c site q.dialect (fun _ rowCount => { rowCount }) (Fetch.body h c q m) own e =
    outcome at result sent kept ⊢
  obtain ⟨⟨given, count⟩, own', e'⟩ := outcome
  obtain ⟨given_eq, count_eq⟩ := Prod.mk.inj result
  rw [← given_eq, ← count_eq]
  cases given <;> exact ⟨rfl, kept, sent⟩

/-- Fetching sends the statement with the discovered fields as its
projection. -/
theorem sent_fetch {h : Handle} {c : Context} {e : Engine} (site : CallSite) (q : Query)
    {m : Mapper τ Unit} {own : τ} {result : Except Error Unit} {t : MapperState τ}
    (hm : m ⟨.blank, e.contexts, own⟩ = (result, t))
    (hresult : result = .ok () ∨ result = .error .skipRows) (hlive : h.IsLive c t.contexts) :
    match (q.withProjection (t.view.requested.map (·.field))).bind Query.toSql with
    | .error err => (h.fetch c site q m own e).1 = .error ⟨0, err⟩ ∧
        (h.fetch c site q m own e).2.2.sent = e.sent
    | .ok b => (h.fetch c site q m own e).2.2.sent = e.sent ++ [(b.sql, b.args)] := by
  obtain ⟨s, hs, hcall, -, hsent⟩ := h.fetch_eq c site q m own e
  have hfails : ∀ err, (Fetch.body h c q m s).1 = .error err →
      (Fetch.body h c q m s).2.rowCount = 0 →
      (h.fetch c site q m own e).1 = .error ⟨0, err⟩ := by
    intro err herr hcount
    rw [hcall, herr, hcount]
    rfl
  have hm : m ⟨.blank, s.engine.contexts, s.own⟩ = (result, t) := by
    rw [hs.contexts, hs.own]
    exact hm
  have hdiscover := Fetch.discover_eq hm hresult
  cases hprojection : q.withProjection (t.view.requested.map (·.field)) with
  | error err =>
      have hbody : Fetch.body h c q m s = (.error err,
          { s with engine := { s.engine with contexts := t.contexts }, own := t.own }) := by
        rw [Fetch.body, Action.andThen, hdiscover]
        simp only [Action.andThen, Action.ofExcept, hprojection]
      exact ⟨hfails err (by rw [hbody]) (by rw [hbody]; exact hs.rowCount),
        hsent.trans (by rw [hbody]; exact hs.sent)⟩
  | ok q' =>
      obtain ⟨hdialect, hshared⟩ := Query.withProjection_eq hprojection
      have hsend := CallState.render_andThen_sent
        { s with engine := { s.engine with contexts := t.contexts }, own := t.own }
        (q'.sql none) (h.query c)
        (Fetch.mapAnswer h.previewRows t.view.requested m) (sent_query hlive)
        (fun rows s => by
          obtain ⟨_, hengine⟩ := Fetch.engine_mapAnswer h.previewRows t.view.requested m rows s
          rw [hengine])
      have hbody : Fetch.body h c q m s =
          ((CallState.render (q'.sql none)).andThen fun _ => (CallState.sent (h.query c)).andThen
            (Fetch.mapAnswer h.previewRows t.view.requested m))
            { s with engine := { s.engine with contexts := t.contexts }, own := t.own } := by
        rw [Fetch.body, Action.andThen, hdiscover]
        simp only [Action.andThen, Action.ofExcept, hprojection]
      rw [← hbody] at hsend
      have hbuild : (q'.sql none).build s.scratch.dialect = q'.toSql := by
        rw [hs.dialect, ← hdialect]
        exact hshared
      cases htoSql : q'.toSql with
      | error err =>
          simp only [hbuild, htoSql] at hsend
          simp only [Except.bind, htoSql]
          exact ⟨hfails err hsend.1 (hsend.2.1.trans hs.rowCount),
            hsent.trans (hsend.2.2.trans hs.sent)⟩
      | ok b =>
          simp only [hbuild, htoSql] at hsend
          simp only [Except.bind, htoSql]
          exact hsent.trans (hsend.trans (congrArg (· ++ _) hs.sent))

/-! ## Pools that calls leave behind -/

theorem leaves_pool_send (h : Handle) (c : Context) (sql : String) (args : List Scalar) :
    (h.send c sql args).Leaves Engine.pool := by
  intro e
  rw [send]
  split
  split <;> rfl

theorem leaves_pool_execute (h : Handle) (c : Context) (sql : String) (args : List Scalar) :
    (h.execute c sql args).Leaves Engine.pool :=
  (h.leaves_pool_send c sql args).andThen fun _ _ => rfl

theorem leaves_pool_query (h : Handle) (c : Context) (sql : String) (args : List Scalar) :
    (h.query c sql args).Leaves Engine.pool :=
  (h.leaves_pool_send c sql args).andThen fun _ _ => rfl

theorem leaves_pool_queryRow (h : Handle) (c : Context) (sql : String) (args : List Scalar) :
    (h.queryRow c sql args).Leaves Engine.pool :=
  (h.leaves_pool_query c sql args).andThen fun _ _ => rfl

/-- A call whose body leaves the pool alone takes buffers from it and gives
them back. -/
theorem isReached_call (h : Handle) (c : Context) (site : CallSite) (d : Dialect)
    {α : Type} (outcome : Except Error α → Nat → Outcome) {body : Action (CallState τ) α}
    (hbody : body.Leaves fun s => s.engine.pool) (own : τ) {e : Engine}
    (hpool : e.pool.IsReached) : (h.call c site d outcome body own e).2.2.pool.IsReached := by
  have hlog : ∀ (r : LogRecord) (e : Engine), (h.log c r e).pool = e.pool := by
    intro r e
    rw [log]
    split <;> rfl
  cases hp : h.pooled with
  | true =>
      simp only [call, hp, if_true, hlog, hbody _]
      exact (hpool.take d).giveBack _
  | false =>
      simp only [call, hp, Bool.false_eq_true, if_false, hlog, hbody _]
      exact hpool

theorem isReached_exec (h : Handle) (c : Context) (site : CallSite) (q : Query)
    (flags : ExecFlags) {e : Engine} (hpool : e.pool.IsReached) :
    (h.exec c site q flags e).2.pool.IsReached := by
  have hbody : (Exec.body h c q flags).Leaves fun s => s.engine.pool := by
    rw [Exec.body]
    exact (CallState.leaves_pool_render _).andThen fun _ =>
      (CallState.leaves_pool_sent (h.leaves_pool_execute c)).andThen fun _ =>
        Action.leaves_ofExcept _ _
  exact h.isReached_call c site q.dialect (fun r _ => Exec.outcome flags r) hbody () hpool

theorem isReached_hasRows (h : Handle) (c : Context) (site : CallSite) (q : Query)
    {e : Engine} (hpool : e.pool.IsReached) : (h.hasRows c site q e).2.pool.IsReached := by
  have hbody : (Exists.body h c q).Leaves fun s => s.engine.pool := by
    rw [Exists.body]
    exact (Action.leaves_ofExcept _ _).andThen fun _ =>
      (CallState.leaves_pool_render _).andThen fun _ =>
        (CallState.leaves_pool_sent (h.leaves_pool_queryRow c)).andThen fun _ =>
          Action.leaves_ofExcept _ _
  exact h.isReached_call c site q.dialect (fun r _ => Exists.outcome r) hbody () hpool

theorem isReached_fetch (h : Handle) (c : Context) (site : CallSite) (q : Query)
    (m : Mapper τ Unit) (own : τ) {e : Engine} (hpool : e.pool.IsReached) :
    (h.fetch c site q m own e).2.2.pool.IsReached := by
  have hmap : ∀ requested rows,
      (Fetch.mapAnswer h.previewRows requested m rows).Leaves fun s => s.engine.pool := by
    intro requested rows s
    obtain ⟨_, hengine⟩ := Fetch.engine_mapAnswer h.previewRows requested m rows s
    change (Fetch.mapAnswer h.previewRows requested m rows s).2.engine.pool = s.engine.pool
    rw [hengine]
  have hbody : (Fetch.body h c q m).Leaves fun s => s.engine.pool := by
    rw [Fetch.body]
    exact (Fetch.leaves_pool_discover m).andThen fun _ =>
      (Action.leaves_ofExcept _ _).andThen fun _ =>
        (CallState.leaves_pool_render _).andThen fun _ =>
          (CallState.leaves_pool_sent (h.leaves_pool_query c)).andThen fun _ => hmap _ _
  have hcall := h.isReached_call c site q.dialect (fun _ rowCount => { rowCount }) hbody own hpool
  rw [fetch]
  split <;> rename_i heq <;> rw [heq] at hcall <;> exact hcall

end Handle

/-! ## All routes -/

/-- The routes of a statement. Running it sends one statement and fetching
its rows another, or nothing if it cannot be built, with the arguments and
the error of `toSql`; through a shared handle it is built with these. The
text is that of `toSql` itself for fetching, and for the other two exactly
if the statement keeps no parentheses. -/
theorem Query.routes (q : Query) :
    q.sharedToSql = q.toSql.map q.wrapSent ∧
    (∀ (h : Handle) (c : Context) (site : CallSite) (flags : ExecFlags) (e : Engine),
      h.IsLive c e.contexts →
      match q.toSql with
      | .error err => (h.exec c site q flags e).1 = .error err ∧
          (h.exec c site q flags e).2.sent = e.sent
      | .ok b => (h.exec c site q flags e).2.sent = e.sent ++ [((q.wrapSent b).sql, b.args)]) ∧
    (∀ (τ : Type) (h : Handle) (c : Context) (site : CallSite) (m : Mapper τ Unit) (own : τ)
      (e : Engine) (result : Except Error Unit) (t : MapperState τ),
      m ⟨.blank, e.contexts, own⟩ = (result, t) →
      (result = .ok () ∨ result = .error .skipRows) → h.IsLive c t.contexts →
      match (q.withProjection (t.view.requested.map (·.field))).bind toSql with
      | .error err => (h.fetch c site q m own e).1 = .error ⟨0, err⟩ ∧
          (h.fetch c site q m own e).2.2.sent = e.sent
      | .ok b => (h.fetch c site q m own e).2.2.sent = e.sent ++ [(b.sql, b.args)]) ∧
    ∀ b : BuiltQuery, (q.wrapSent b).sql = b.sql ↔ q.keepsParens = false := by
  refine ⟨q.sharedToSql_eq, fun h c site flags e hlive => ?_,
    fun τ h c site m own e result t hm hresult hlive =>
      Handle.sent_fetch site q hm hresult hlive,
    q.sql_wrapSent_iff⟩
  have hexec := Handle.sent_exec site q flags hlive
  rw [sharedToSql_eq] at hexec
  cases hbuild : q.toSql with
  | error err =>
      rw [hbuild] at hexec
      exact hexec
  | ok b =>
      have hsent : (h.exec c site q flags e).2.sent =
          e.sent ++ [((q.wrapSent b).sql, (q.wrapSent b).args)] := by
        rw [hbuild] at hexec
        exact hexec
      exact hsent.trans (by rw [args_wrapSent])

/-- A selection in buffers of a pool. -/
theorem Query.routes_select_where :
    let q := select .sqlite { Select.empty with
      conditions := [.eq (.field (.column "" "x")) (.scalar (.int 7))] }
    let h : Handle := { driver := fun _ _ => { outcome := .ok {} }, pooled := true }
    let c : Context := ⟨none, 0⟩
    let e : Engine := { contexts := Contexts.start.background, pool := .new 4 }
    let m : Mapper Unit Unit := (Mapper.get .int (.column "" "a")).andThen fun _ => Action.pure ()
    h.IsLive c e.contexts ∧
      (h.exec c ⟨"", 0⟩ q {} e).2.sent = [("SELECT 1 WHERE x = ?", [.int 7])] ∧
      (h.fetch c ⟨"", 0⟩ q m () e).2.2.sent = [("SELECT a WHERE x = ?", [.int 7])] := by
  intro q h c e m
  have hlive : h.IsLive c e.contexts := Handle.isLive_of_not_done rfl nofun
  have hm : m ⟨.blank, e.contexts, ()⟩ =
      (.ok (), ⟨.discovery [⟨.column "" "a", Target.int.typeName⟩], e.contexts, ()⟩) := rfl
  have hbuilt : (q.withProjection [.column "" "a"]).bind toSql =
      .ok ⟨.sqlite, "SELECT a WHERE x = ?", [.int 7], []⟩ := rfl
  obtain ⟨-, hexec, hfetch, -⟩ := routes q
  have hfetched := hfetch Unit h c ⟨"", 0⟩ m () e _ _ hm (.inl rfl) hlive
  rw [RowView.requested, List.map_singleton, hbuilt] at hfetched
  exact ⟨hlive, hexec h c ⟨"", 0⟩ {} e hlive, hfetched⟩

/-- A union keeps its parentheses unless it is asked for its text. -/
theorem Query.exec_union_parens :
    let q := compound false .union [.select .sqlite .empty, .select .sqlite .empty]
    let h : Handle := { driver := fun _ _ => { outcome := .ok {} } }
    let e : Engine := { contexts := Contexts.start.background, pool := .new 4 }
    q.toSql.map (·.sql) = .ok "SELECT 1 UNION SELECT 1" ∧
      q.sharedToSql.map (·.sql) = .ok "(SELECT 1 UNION SELECT 1)" ∧
      (h.exec ⟨none, 0⟩ ⟨"", 0⟩ q {} e).2.sent = [("(SELECT 1 UNION SELECT 1)", [])] :=
  ⟨rfl, rfl, rfl⟩

end SqlCompose
