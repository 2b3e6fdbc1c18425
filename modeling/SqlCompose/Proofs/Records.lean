import SqlCompose.Proofs.Isolation

/-!
# What the log says of a call

Every call ends with one record, if there is a log and the context is not
done. The record and the value for the caller are put together apart from
each other; they agree because both come from what the body of the call has
come to (`Handle.call_course`), and because the buffers hold one fragment
from the moment it is written (`Scratch.Shows`), whatever the call does
after that.

A call that fails before it writes anything counts as one that writes a
fragment which stops at once.
-/

namespace SqlCompose

/-! ## Fragments in buffers -/

/-- The fragment, or one that stops at once. -/
def Fragment.ofExcept : Except Error Fragment → Fragment
  | .ok f => f
  | .error e => fail e

namespace Scratch

/-- The buffers hold a fragment, as far as it goes. -/
structure Shows (s : Scratch) (f : Fragment) : Prop where
  raw : s.raw.content = f.sql
  args : s.args.content = f.args
  names : s.names = f.names
  rendered : s.rendered = f.stop.isNone
  sql : f.stop = none → s.sql = if s.dialect.isNumbered then Placeholder.numbered f.sql else f.sql

theorem IsBlank.shows_fail {s : Scratch} (h : s.IsBlank) (e : Error) : s.Shows (.fail e) :=
  ⟨h.raw, h.args, h.names, h.rendered, nofun⟩

theorem IsBlank.shows_render {s : Scratch} (h : s.IsBlank) (f : Fragment) :
    (s.render f).1 = f.stop ∧ (s.render f).2.Shows f ∧ (s.render f).2.dialect = s.dialect := by
  refine ⟨s.stop_render f, ?_, s.dialect_render f⟩
  refine ⟨s.raw_render f, s.args_render f, s.names_render f, ?_, fun written => ?_⟩
  · rw [rendered_render, h.rendered, Bool.or_false]
  · rw [dialect_render]
    exact s.sql_render f written

/-- A statement that was written to its end is logged as it is sent, whatever
happened to it then. -/
theorem Shows.loggedSql {s : Scratch} {f : Fragment} (h : s.Shows f) (stop : f.stop = none)
    (error : Option Error) : s.loggedSql error = s.sql := by
  have whole : s.rendered = true := by rw [h.rendered, stop]; rfl
  cases error with
  | none => rfl
  | some e => exact if_pos whole

/-- All but the preview. -/
def written (s : Scratch) : Scratch := { s with preview := .new .text }

theorem Shows.congr {s t : Scratch} {f : Fragment} (h : s.Shows f) (same : t.written = s.written) :
    t.Shows f where
  raw := (congrArg (·.raw.content) same).trans h.raw
  args := (congrArg (·.args.content) same).trans h.args
  names := (congrArg (·.names) same).trans h.names
  rendered := (congrArg (·.rendered) same).trans h.rendered
  sql stop := by
    have dialect : t.dialect = s.dialect := congrArg (·.dialect) same
    have sql : t.sql = s.sql := congrArg (·.sql) same
    rw [sql, dialect, h.sql stop]

end Scratch

/-! ## Sending -/

namespace Handle

variable {α β : Type} {sql : String} {args : List Scalar}

/-- The action sends a statement or nothing, and logs nothing. -/
def Sends (sql : String) (args : List Scalar) (x : Action Engine α) : Prop :=
  ∀ e, (x e).2.records = e.records ∧
    ((x e).2.sent = e.sent ∨ (x e).2.sent = e.sent ++ [(sql, args)])

theorem Sends.andThen_pure {x : Action Engine α} (h : Sends sql args x) (f : α → β) :
    Sends sql args (x.andThen fun a => Action.pure (f a)) := by
  intro e
  rw [Action.view_andThen Engine.records fun _ _ => rfl,
    Action.view_andThen Engine.sent fun _ _ => rfl]
  exact h e

variable (h : Handle) (c : Context) (sql : String) (args : List Scalar)

theorem sends_send : Sends sql args (h.send c sql args) := by
  intro e
  rw [send]
  split
  split
  · exact ⟨rfl, .inl rfl⟩
  · exact ⟨rfl, .inr rfl⟩

theorem sends_query : Sends sql args (h.query c sql args) :=
  (h.sends_send c sql args).andThen_pure (·.rows)

theorem sends_queryRow : Sends sql args (h.queryRow c sql args) :=
  (h.sends_query c sql args).andThen_pure (·.head?)

theorem sends_execute : Sends sql args (h.execute c sql args) :=
  (h.sends_send c sql args).andThen_pure (·.result)

end Handle

/-! ## Bodies -/

namespace CallState

variable {τ α β : Type}

/-- What the log takes from a state when the statement was written. -/
def noted (s : CallState τ) : Scratch × List (String × List Scalar) × List LogRecord :=
  (s.scratch.written, s.engine.sent, s.engine.records)

/-- What a body has come to that writes a fragment: the fragment stands in
the buffers, its error is that of the body, and if anything was sent it is
the fragment. Nothing is logged yet. -/
structure Writes (f : Fragment) (s : CallState τ) (ended : Except Error α × CallState τ) :
    Prop where
  shows : ended.2.scratch.Shows f
  dialect : ended.2.scratch.dialect = s.scratch.dialect
  stopped : ∀ error, f.stop = some error → ended.1 = .error error
  sent : ended.2.engine.sent = s.engine.sent ∨ f.stop = none ∧ ended.2.engine.sent =
    s.engine.sent ++ [(ended.2.scratch.sql, ended.2.scratch.args.content)]
  records : ended.2.engine.records = s.engine.records

/-- A body that fails before it writes anything. -/
theorem writes_fail {s s' : CallState τ} (blank : s.scratch.IsBlank) (noted : s'.noted = s.noted)
    (e : Error) : Writes (.fail e) s ((.error e, s') : Except Error α × CallState τ) where
  shows := (blank.shows_fail e).congr (congrArg Prod.fst noted)
  dialect := congrArg (·.1.dialect) noted
  stopped error stop := by
    cases stop
    rfl
  sent := .inl (congrArg (·.2.1) noted)
  records := congrArg (·.2.2) noted

theorem Writes.of_noted {f : Fragment} {s s' : CallState τ} {ended : Except Error α × CallState τ}
    (h : Writes f s ended) (noted : s.noted = s'.noted) : Writes f s' ended where
  shows := h.shows
  dialect := h.dialect.trans (congrArg (·.1.dialect) noted)
  stopped := h.stopped
  sent := by
    have sent : s.engine.sent = s'.engine.sent := congrArg (·.2.1) noted
    rw [← sent]
    exact h.sent
  records := h.records.trans (congrArg (·.2.2) noted)

/-- A body that writes a statement and sends it. -/
theorem writes_sent {s : CallState τ} (blank : s.scratch.IsBlank) (f : Fragment)
    {go : String → List Scalar → Action Engine α} {rest : α → Action (CallState τ) β}
    (sends : ∀ sql args, Handle.Sends sql args (go sql args))
    (leaves : ∀ a, (rest a).Leaves noted) :
    Writes f s (((render f).andThen fun _ => (sent go).andThen rest) s) := by
  obtain ⟨stops, shows, dialect⟩ := blank.shows_render f
  have rendered : s.scratch.render f = (f.stop, (s.scratch.render f).2) := Prod.ext stops rfl
  cases stop : f.stop with
  | some e =>
      have course : ((render f).andThen fun _ => (sent go).andThen rest) s =
          (.error e, { s with scratch := (s.scratch.render f).2 }) := by
        rw [Action.andThen, render, rendered, stop]
      rw [course]
      refine ⟨shows, dialect, fun error h => ?_, .inl rfl, rfl⟩
      cases stop.symm.trans h
      rfl
  | none =>
      have course : ((render f).andThen fun _ => (sent go).andThen rest) s =
          (sent go).andThen rest { s with scratch := (s.scratch.render f).2 } := by
        rw [Action.andThen, render, rendered, stop]
      rw [course]
      generalize (s.scratch.render f).2 = scratch at shows dialect
      have noted := Action.view_andThen noted leaves (x := sent go) { s with scratch }
      generalize (sent go).andThen rest { s with scratch } = ended at noted ⊢
      obtain ⟨records, sent⟩ := sends scratch.sql scratch.args.content s.engine
      have written : ended.2.scratch.written = scratch.written := congrArg Prod.fst noted
      have sql : ended.2.scratch.sql = scratch.sql := congrArg (·.sql) written
      have args : ended.2.scratch.args = scratch.args := congrArg (·.args) written
      refine ⟨shows.congr written, (congrArg (·.dialect) written).trans dialect,
        by simp [stop], ?_, (congrArg (·.2.2) noted).trans records⟩
      have reached : ended.2.engine.sent = _ := congrArg (·.2.1) noted
      rw [reached, sql, args]
      exact sent.imp id fun sent => ⟨stop, sent⟩

end CallState

namespace Fetch

variable {τ : Type}

theorem leaves_noted_countRow (limit : Nat) (requested : List RequestedField) (row : ResultRow) :
    (Action.change (countRow limit requested row) : Action (CallState τ) Unit).Leaves
      CallState.noted := by
  intro s
  rw [Action.change, countRow]
  split <;> rfl

theorem leaves_noted_judge (requested : List RequestedField) (m : Mapper τ Unit)
    (row : ResultRow) : (judge requested m row).Leaves CallState.noted := by
  intro s
  obtain ⟨⟨result, t⟩, runs⟩ : ∃ seen, m ⟨.ofRow row, s.engine.contexts, s.own⟩ = seen :=
    ⟨_, rfl⟩
  rw [judge, onView, runs]
  by_cases read : t.view.failures.isEmpty = true
  · simp only [if_pos read]
    rcases result with e | _
    · cases e <;> rfl
    · rfl
  · simp only [if_neg read]
    rfl

theorem leaves_noted_mapRows (limit : Nat) (requested : List RequestedField) (m : Mapper τ Unit)
    (rows : List ResultRow) : (mapRows limit requested m rows).Leaves CallState.noted := by
  induction rows with
  | nil => exact fun _ => rfl
  | cons row rest ih =>
      rw [mapRows_judge]
      refine (leaves_noted_countRow limit requested row).andThen fun _ =>
        (leaves_noted_judge requested m row).andThen fun goesOn => ?_
      cases goesOn with
      | false => exact fun _ => rfl
      | true => exact ih

/-- Reading the rows of an answer leaves all that the log takes but the
preview. -/
theorem leaves_noted_mapAnswer (limit : Nat) (requested : List RequestedField)
    (m : Mapper τ Unit) (rows : List ResultRow) :
    (mapAnswer limit requested m rows).Leaves CallState.noted := by
  rw [mapAnswer]
  split
  · exact fun _ => rfl
  · exact (leaves_noted_mapRows limit requested m rows).andThen fun _ _ => rfl

/-- The fields that a mapper asks for, or the error with which it ends
without a row. -/
def asked (m : Mapper τ Unit) (contexts : Contexts) (own : τ) :
    Except Error (List RequestedField) :=
  match m ⟨.blank, contexts, own⟩ with
  | (.ok _, t) => .ok t.view.requested
  | (.error .skipRows, t) => .ok t.view.requested
  | (.error e, _) => .error e

/-- What a fetch writes: the statement with the fields that the mapper asks
for. -/
def statement (q : Query) (m : Mapper τ Unit) (contexts : Contexts) (own : τ) : Fragment :=
  .ofExcept ((asked m contexts own).bind fun requested =>
    (q.withProjection (requested.map (·.field))).map (·.sql none))

theorem discover_asked (m : Mapper τ Unit) (s : CallState τ) :
    (discover m s).1 = asked m s.engine.contexts s.own ∧
      (discover m s).2.scratch = s.scratch ∧ (discover m s).2.noted = s.noted := by
  obtain ⟨⟨result, t⟩, runs⟩ : ∃ seen, m ⟨.blank, s.engine.contexts, s.own⟩ = seen := ⟨_, rfl⟩
  rw [discover, onView, asked, runs]
  rcases result with e | _
  · cases e <;> exact ⟨rfl, rfl, rfl⟩
  · exact ⟨rfl, rfl, rfl⟩

theorem writes_body (h : Handle) (c : Context) (q : Query) (m : Mapper τ Unit) {s : CallState τ}
    (blank : s.scratch.IsBlank) :
    CallState.Writes (statement q m s.engine.contexts s.own) s (body h c q m s) := by
  obtain ⟨found, scratch, noted⟩ := discover_asked m s
  rw [body, Action.andThen, statement]
  generalize discover m s = discovered at found scratch noted ⊢
  obtain ⟨requested, s'⟩ := discovered
  rw [← found]
  cases requested with
  | error e => exact CallState.writes_fail blank noted e
  | ok requested =>
      simp only [Except.bind, Action.andThen, Action.ofExcept]
      cases q.withProjection (requested.map (·.field)) with
      | error e => exact CallState.writes_fail blank noted e
      | ok q' =>
          have blank' : s'.scratch.IsBlank := by
            rw [scratch]
            exact blank
          exact (CallState.writes_sent blank' (q'.sql none) (h.sends_query c)
            (leaves_noted_mapAnswer h.previewRows requested m)).of_noted noted

end Fetch

theorem Exec.writes_body (h : Handle) (c : Context) (q : Query) (flags : ExecFlags)
    {s : CallState Unit} (blank : s.scratch.IsBlank) :
    CallState.Writes (q.sql none) s (body h c q flags s) :=
  CallState.writes_sent blank (q.sql none) (h.sends_execute c) fun _ _ => rfl

/-- What a call writes that asks whether a statement has rows. -/
def Exists.statement (q : Query) : Fragment :=
  .ofExcept ((q.withProjection [.literal "1"]).map sql)

theorem Exists.writes_body (h : Handle) (c : Context) (q : Query) {s : CallState Unit}
    (blank : s.scratch.IsBlank) : CallState.Writes (statement q) s (body h c q s) := by
  rw [body, statement]
  cases q.withProjection [.literal "1"] with
  | error e => exact CallState.writes_fail blank rfl e
  | ok q' => exact CallState.writes_sent blank (sql q') (h.sends_queryRow c) fun _ _ => rfl

/-! ## Records -/

namespace LogRecord

def outcome (r : LogRecord) : Outcome :=
  ⟨r.rowCount, r.rowsAffected, r.lastInsertId, r.execFlags⟩

theorem outcome_eq {r : LogRecord} {o : Outcome} (h : r.outcome = o) :
    r.rowCount = o.rowCount ∧ r.rowsAffected = o.rowsAffected ∧
      r.lastInsertId = o.lastInsertId ∧ r.execFlags = o.execFlags := by
  subst h
  exact ⟨rfl, rfl, rfl, rfl⟩

/-- The record tells of a fragment: the statement that it is, as it is sent,
or what there is of it with `?` placeholders, marked with the error at which
it stopped. -/
def Tells (r : LogRecord) (f : Fragment) : Prop :=
  match f.build r.dialect with
  | .ok b => r.query = b.sql ∧ r.args = b.args ∧ r.names = b.names
  | .error e => r.error = some e ∧
      r.query = f.sql ++ " <STOPPED DUE TO ERROR: " ++ e.message ++ ">" ∧
      r.args = f.args ∧ r.names = f.names

end LogRecord

namespace Handle

/-- A call that began with an engine and ended with another is reported by
the record and by no other, unless there is no log or the context of the call
is done at its end. What was sent, if anything, is what the record says. -/
structure Reports (h : Handle) (c : Context) (site : CallSite) (d : Dialect) (f : Fragment)
    (e e' : Engine) (r : LogRecord) : Prop where
  records : e'.records = e.records ++ if h.logs && !e'.contexts.isDone c then [r] else []
  tells : r.Tells f
  sent : e'.sent = e.sent ∨ f.stop = none ∧ e'.sent = e.sent ++ [(r.query, r.args)]
  dialect : r.dialect = d
  caller : r.caller = some site
  logFlags : r.logFlags = h.logFlags

variable {τ α : Type}

theorem tells_closing (h : Handle) (site : CallSite) (outcome : Except Error α → Nat → Outcome)
    {f : Fragment} {s : CallState τ} {ended : Except Error α × CallState τ}
    (writes : CallState.Writes f s ended) : (h.closing site outcome ended).Tells f := by
  have shows := writes.shows
  have query : (h.closing site outcome ended).query =
      ended.2.scratch.loggedSql (failure? ended.1) := rfl
  have dialect : (h.closing site outcome ended).dialect = ended.2.scratch.dialect := rfl
  rw [LogRecord.Tells, Fragment.build, query, dialect]
  cases stop : f.stop with
  | some e =>
      have failed : failure? ended.1 = some e := congrArg failure? (writes.stopped e stop)
      refine ⟨failed, ?_, shows.args, shows.names⟩
      have part : ended.2.scratch.rendered = false := by rw [shows.rendered, stop]; rfl
      rw [failed, Scratch.loggedSql, part, if_neg Bool.false_ne_true, shows.raw]
  | none =>
      refine ⟨?_, shows.args, shows.names⟩
      rw [shows.loggedSql stop, shows.sql stop]
      simp only [Writer.finish, Writer.append, String.empty_append]

theorem log_eq (h : Handle) (c : Context) (r : LogRecord) (e : Engine) :
    h.log c r e =
      { e with records := e.records ++ if h.logs && !e.contexts.isDone c then [r] else [] } := by
  rw [log]
  split
  · rfl
  · rw [List.append_nil]

/-- A call whose body writes a fragment is reported with this fragment, with
the error that it gives, and with the numbers that are made of its
result. -/
theorem reports_call (h : Handle) (c : Context) (site : CallSite) (d : Dialect)
    (outcome : Except Error α → Nat → Outcome) (body : Action (CallState τ) α) (own : τ)
    {e : Engine} (clean : e.pool.IsClean) {f : Fragment}
    (writes : ∀ s : CallState τ, s.scratch.IsBlank → s.engine.contexts = e.contexts →
      s.own = own → CallState.Writes f s (body s)) :
    let called := h.call c site d outcome body own e
    ∃ r, h.Reports c site d f e called.2.2 r ∧ r.error = failure? called.1.1 ∧
      r.outcome = outcome called.1.1 called.1.2 := by
  intro called
  obtain ⟨s, blank, start, result, -, left⟩ := h.call_course c site d outcome body own clean
  have result : called.1 = _ := result
  have left : called.2.2.bare = _ := left
  clear_value called
  have contexts : s.engine.contexts = e.contexts := congrArg (·.engine.contexts) start
  have kept : s.own = own := congrArg (·.own) start
  have dialect : s.scratch.dialect = d := congrArg (·.scratch.dialect) start
  have sent : s.engine.sent = e.sent := congrArg (·.engine.sent) start
  have records : s.engine.records = e.records := congrArg (·.engine.records) start
  have writes := writes s blank contexts kept
  rw [result]
  rw [log_eq] at left
  have ended : called.2.2.contexts = (body s).2.engine.contexts := congrArg (·.contexts) left
  refine ⟨h.closing site outcome (body s), ⟨?_, h.tells_closing site outcome writes, ?_,
    writes.dialect.trans dialect, rfl, rfl⟩, rfl, rfl⟩
  · rw [ended, ← records, ← writes.records]
    exact congrArg (·.records) left
  · have reached : called.2.2.sent = (body s).2.engine.sent := congrArg (·.sent) left
    rw [reached, ← sent]
    refine writes.sent.imp id ?_
    rintro ⟨whole, sent⟩
    have sql : (h.closing site outcome (body s)).query = (body s).2.scratch.sql :=
      writes.shows.loggedSql whole _
    rw [sql]
    exact ⟨whole, sent⟩

variable (h : Handle) (c : Context) (site : CallSite) (q : Query) {e : Engine}

theorem exec_reported (flags : ExecFlags) (clean : e.pool.IsClean) :
    let called := h.exec c site q flags e
    ∃ r, h.Reports c site q.dialect (q.sql none) e called.2 r ∧ r.error = failure? called.1 ∧
      r.rowCount = 0 ∧ r.execFlags = some flags ∧
      match called.1 with
      | .ok given => r.rowsAffected = given.rowsAffected ∧ r.lastInsertId = given.lastInsertId
      | .error _ => r.rowsAffected = 0 ∧ r.lastInsertId = none := by
  intro called
  obtain ⟨r, reports, error, outcome⟩ := h.reports_call c site q.dialect
    (fun r _ => Exec.outcome flags r) (Exec.body h c q flags) () clean
    fun s blank _ _ => Exec.writes_body h c q flags blank
  have outcome : r.outcome = Exec.outcome flags called.1 := outcome
  obtain ⟨rowCount, affected, inserted, asked⟩ := LogRecord.outcome_eq outcome
  refine ⟨r, reports, error, ?_⟩
  rw [rowCount, affected, inserted, asked]
  cases called.1 <;> exact ⟨rfl, rfl, rfl, rfl⟩

theorem hasRows_reported (clean : e.pool.IsClean) :
    let called := h.hasRows c site q e
    ∃ r, h.Reports c site q.dialect (Exists.statement q) e called.2 r ∧
      r.error = failure? called.1 ∧ (called.1 = .ok true → r.rowCount = 1) ∧
      (called.1 ≠ .ok true → r.rowCount = 0) ∧ r.execFlags = none ∧ r.rowsAffected = 0 ∧
      r.lastInsertId = none := by
  intro called
  obtain ⟨r, reports, error, outcome⟩ := h.reports_call c site q.dialect
    (fun r _ => Exists.outcome r) (Exists.body h c q) () clean
    fun s blank _ _ => Exists.writes_body h c q blank
  have outcome : r.outcome = Exists.outcome called.1 := outcome
  obtain ⟨rowCount, affected, inserted, asked⟩ := LogRecord.outcome_eq outcome
  refine ⟨r, reports, error, ?_⟩
  rw [rowCount, affected, inserted, asked]
  rcases called.1 with error | answer
  · exact ⟨nofun, fun _ => rfl, rfl, rfl, rfl⟩
  · cases answer with
    | false => exact ⟨nofun, fun _ => rfl, rfl, rfl, rfl⟩
    | true => exact ⟨fun _ => rfl, fun no => absurd rfl no, rfl, rfl, rfl⟩

theorem fetch_reported {τ : Type} (m : Mapper τ Unit) (own : τ) (clean : e.pool.IsClean) :
    let called := h.fetch c site q m own e
    ∃ r, h.Reports c site q.dialect (Fetch.statement q m e.contexts own) e called.2.2 r ∧
      r.execFlags = none ∧ r.rowsAffected = 0 ∧ r.lastInsertId = none ∧
      match called.1 with
      | .ok count => r.error = none ∧ r.rowCount = count
      | .error fault => r.error = some fault.error ∧ r.rowCount = fault.rowCount := by
  intro called
  have writes : ∀ s : CallState τ, s.scratch.IsBlank → s.engine.contexts = e.contexts →
      s.own = own →
      CallState.Writes (Fetch.statement q m e.contexts own) s (Fetch.body h c q m s) := by
    intro s blank contexts kept
    rw [← contexts, ← kept]
    exact Fetch.writes_body h c q m blank
  obtain ⟨r, reports, error, outcome⟩ := h.reports_call c site q.dialect
    (fun _ rowCount => { rowCount }) (Fetch.body h c q m) own clean writes
  obtain ⟨rowCount, affected, inserted, asked⟩ := LogRecord.outcome_eq outcome
  have called_eq : called = h.fetch c site q m own e := rfl
  rw [fetch] at called_eq
  clear_value called
  generalize h.call c site q.dialect (fun _ rowCount => { rowCount }) (Fetch.body h c q m) own e =
    ended at reports error rowCount affected inserted asked called_eq
  obtain ⟨⟨result, count⟩, own', e'⟩ := ended
  cases result <;> subst called_eq <;>
    exact ⟨r, reports, asked, affected, inserted, error, rowCount⟩

theorem fetchAll_reported {τ α : Type} (m : Mapper τ α) (own : τ) (clean : e.pool.IsClean) :
    let called := h.fetchAll c site q m own e
    ∃ r, h.Reports c site q.dialect (Fetch.statement q m.collect e.contexts (own, [])) e
        called.2.2 r ∧
      r.execFlags = none ∧ r.rowsAffected = 0 ∧ r.lastInsertId = none ∧
      r.error = failure? called.1 := by
  obtain ⟨r, reports, asked, affected, inserted, told⟩ :=
    h.fetch_reported c site q m.collect (own, []) clean
  rw [h.fetchAll_eq c site q m own e]
  refine ⟨r, reports, asked, affected, inserted, ?_⟩
  generalize (h.fetch c site q m.collect (own, []) e) = fetched at told ⊢
  obtain ⟨result, own', e'⟩ := fetched
  cases result <;> exact told.1

/-- Each call is reported once, with what its caller is told. The record of a
call without rows has the counts that the caller gets and the flags that it
asked with; one that asks for rows counts a row if there are any; a fetch
counts the rows that were read, also before an error. -/
theorem calls_reported (e : Engine) (reached : e.pool.IsReached) :
    (∀ flags, let called := h.exec c site q flags e
      ∃ r, h.Reports c site q.dialect (q.sql none) e called.2 r ∧ r.error = failure? called.1 ∧
        r.rowCount = 0 ∧ r.execFlags = some flags ∧
        match called.1 with
        | .ok given => r.rowsAffected = given.rowsAffected ∧ r.lastInsertId = given.lastInsertId
        | .error _ => r.rowsAffected = 0 ∧ r.lastInsertId = none) ∧
    (let called := h.hasRows c site q e
      ∃ r, h.Reports c site q.dialect (Exists.statement q) e called.2 r ∧
        r.error = failure? called.1 ∧ (called.1 = .ok true → r.rowCount = 1) ∧
        (called.1 ≠ .ok true → r.rowCount = 0) ∧ r.execFlags = none ∧ r.rowsAffected = 0 ∧
        r.lastInsertId = none) ∧
    (∀ (τ : Type) (m : Mapper τ Unit) (own : τ), let called := h.fetch c site q m own e
      ∃ r, h.Reports c site q.dialect (Fetch.statement q m e.contexts own) e called.2.2 r ∧
        r.execFlags = none ∧ r.rowsAffected = 0 ∧ r.lastInsertId = none ∧
        match called.1 with
        | .ok count => r.error = none ∧ r.rowCount = count
        | .error fault => r.error = some fault.error ∧ r.rowCount = fault.rowCount) ∧
    ∀ (τ α : Type) (m : Mapper τ α) (own : τ), let called := h.fetchAll c site q m own e
      ∃ r, h.Reports c site q.dialect (Fetch.statement q m.collect e.contexts (own, [])) e
          called.2.2 r ∧
        r.execFlags = none ∧ r.rowsAffected = 0 ∧ r.lastInsertId = none ∧
        r.error = failure? called.1 := by
  have clean := reached.isClean
  exact ⟨fun flags => h.exec_reported c site q flags clean, h.hasRows_reported c site q clean,
    fun τ m own => h.fetch_reported c site q m own clean,
    fun τ α m own => h.fetchAll_reported c site q m own clean⟩

/-- A driver answers with a cell that is no truth value. -/
theorem calls_reported_undecided :
    let row : ResultRow := ⟨["exists"], [some (.text "maybe")]⟩
    let h : Handle := { driver := fun _ _ => { outcome := .ok { rows := [row] } }, logs := true }
    let c : Context := ⟨none, 0⟩
    let e : Engine := { contexts := Contexts.start.background, pool := .new 4 }
    let called := h.hasRows c ⟨"", 0⟩ (.select .sqlite .empty) e
    let error : Error := .decode "exists" "expected a boolean, got string"
    e.pool.IsReached ∧ called.1 = .error error ∧ ∃ r, called.2.records = [r] ∧
      called.2.sent = [(r.query, r.args)] ∧ r.query = "SELECT EXISTS(SELECT 1)" ∧
      r.error = some error ∧ r.rowCount = 0 := by
  intro row h c e called error
  have reached : e.pool.IsReached := .new 4
  have result : called.1 = .error error := rfl
  have live : called.2.contexts.isDone c = false := rfl
  have built : (Exists.statement (.select .sqlite .empty)).build .sqlite =
      .ok ⟨.sqlite, "SELECT EXISTS(SELECT 1)", [], []⟩ := rfl
  obtain ⟨-, hasRows, -⟩ := h.calls_reported c ⟨"", 0⟩ (.select .sqlite .empty) e reached
  obtain ⟨r, reports, told, -, uncounted, -⟩ := hasRows
  have runs : h.hasRows c ⟨"", 0⟩ (.select .sqlite .empty) e = called := rfl
  rw [runs] at reports told uncounted
  have count : called.2.sent.length = 1 := rfl
  have records := reports.records
  have tells := reports.tells
  rw [LogRecord.Tells, reports.dialect, Query.dialect, built] at tells
  rw [live] at records
  rw [result] at told uncounted
  clear_value called
  refine ⟨reached, result, r, records, ?_, tells.1, told, uncounted nofun⟩
  rcases reports.sent with unsent | ⟨-, sent⟩
  · rw [unsent] at count
    cases count
  · exact sent

end Handle

end SqlCompose
