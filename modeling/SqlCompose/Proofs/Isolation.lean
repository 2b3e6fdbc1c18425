import SqlCompose.Proofs.Lending
import SqlCompose.Proofs.Routes

/-!
# Calls on pools with a history

The pool decides how much room the buffers of a call have, and which are
idle behind it. Nothing else of a call depends on it: a body never sees the
room of a buffer (`Action.Ignores`), and it begins with empty ones. So
whatever calls went before on handles that share the pool, and however they
ended, the next call goes as it would with a new pool
(`Served.next_call`).
-/

namespace SqlCompose

/-! ## What an action does not see -/

namespace Action

variable {σ α β : Type} {f : σ → σ}

/-- What `f` takes away from a state makes no difference to the action,
neither to its result nor to what `f` keeps of the state after it. -/
def Ignores (f : σ → σ) (x : Action σ α) : Prop :=
  ∀ s, (x (f s)).1 = (x s).1 ∧ f (x (f s)).2 = f (x s).2

/-- Two states of which `f` keeps the same are the same to the action. -/
theorem Ignores.congr {x : Action σ α} (h : x.Ignores f) {s t : σ} (same : f s = f t) :
    (x s).1 = (x t).1 ∧ f (x s).2 = f (x t).2 := by
  obtain ⟨result, left⟩ := h s
  obtain ⟨result', left'⟩ := h t
  rw [same] at result left
  exact ⟨result.symm.trans result', left.symm.trans left'⟩

theorem ignores_ofExcept (r : Except Error α) (idem : ∀ s, f (f s) = f s) :
    (ofExcept r).Ignores f := fun s => ⟨rfl, idem s⟩

theorem Ignores.andThen {x : Action σ α} {y : α → Action σ β} (hx : x.Ignores f)
    (hy : ∀ a, (y a).Ignores f) : (x.andThen y).Ignores f := by
  intro s
  obtain ⟨result, left⟩ := hx s
  rw [Action.andThen, Action.andThen]
  generalize x (f s) = a at result left ⊢
  generalize x s = b at result left ⊢
  obtain ⟨r, s'⟩ := a
  obtain ⟨r', s''⟩ := b
  obtain rfl : r = r' := result
  cases r with
  | error e => exact ⟨rfl, left⟩
  | ok a => exact (hy a).congr left

end Action

/-! ## Without the pool -/

/-- The content alone. -/
def Buffer.bare {α : Type} (b : Buffer α) : Buffer α := ⟨b.content, 0⟩

theorem Buffer.bare_eq {α : Type} {b b' : Buffer α} (h : b.content = b'.content) :
    b.bare = b'.bare := by
  rw [bare, bare, h]

/-- The buffers without the room that they have. -/
def Scratch.bare (s : Scratch) : Scratch where
  dialect := s.dialect
  raw := s.raw.bare
  converted := s.converted.bare
  args := s.args.bare
  names := s.names
  preview := s.preview.bare
  rendered := s.rendered

/-- The engine without idle buffers. -/
def Engine.bare (e : Engine) : Engine := { e with pool := .new 0 }

theorem Engine.records_congr {e e' : Engine} (h : e.bare = e'.bare) : e.records = e'.records := by
  have same := congrArg Engine.records h
  exact same

/-- The state without anything that the pool decides. -/
def CallState.bare {τ : Type} (s : CallState τ) : CallState τ :=
  { s with engine := s.engine.bare, scratch := s.scratch.bare }

namespace Scratch

theorem bare_take (d : Dialect) {p : BufferPool} (h : p.IsClean) :
    (take d p).1.bare = (take d (.new 0)).1 := by
  obtain ⟨raw, converted, args, names, preview, rendered⟩ := isBlank_take d h
  have dialect : (take d p).1.dialect = d := rfl
  rw [bare, Buffer.bare, Buffer.bare, Buffer.bare, Buffer.bare, raw, args, converted, preview,
    names, rendered, dialect]
  rfl

/-- Two buffers of a call are the same but for their room if their contents
are. -/
theorem bare_congr {s t : Scratch} (dialect : s.dialect = t.dialect)
    (raw : s.raw.content = t.raw.content) (converted : s.converted.content = t.converted.content)
    (args : s.args.content = t.args.content) (names : s.names = t.names)
    (preview : s.preview.content = t.preview.content) (rendered : s.rendered = t.rendered) :
    s.bare = t.bare := by
  rw [bare, bare, dialect, Buffer.bare_eq raw, Buffer.bare_eq converted, Buffer.bare_eq args,
    names, Buffer.bare_eq preview, rendered]

theorem bare_bare (s : Scratch) : s.bare.bare = s.bare := rfl

theorem bare_addPreview (pieces : List String) (s : Scratch) :
    (s.bare.addPreview pieces).bare = (s.addPreview pieces).bare := by
  refine bare_congr rfl rfl rfl rfl rfl ?_ rfl
  rw [addPreview, addPreview, Buffer.content_appendAll_text, Buffer.content_appendAll_text]
  rfl

theorem bare_render (f : Fragment) (s : Scratch) :
    (s.bare.render f).1 = (s.render f).1 ∧ (s.bare.render f).2.bare = (s.render f).2.bare := by
  refine ⟨by rw [stop_render, stop_render], bare_congr ?_ ?_ ?_ ?_ ?_ ?_ ?_⟩
  · rw [dialect_render, dialect_render]
    rfl
  · rw [raw_render, raw_render]
  · rw [converted_render, converted_render]
    rfl
  · rw [args_render, args_render]
  · rw [names_render, names_render]
  · rw [preview_render, preview_render]
    rfl
  · rw [rendered_render, rendered_render]
    rfl

end Scratch

namespace CallState

variable {τ α : Type}

theorem bare_bare (s : CallState τ) : s.bare.bare = s.bare := rfl

theorem ignores_render (f : Fragment) :
    (render f : Action (CallState τ) Unit).Ignores bare := by
  intro s
  obtain ⟨stop, left⟩ := s.scratch.bare_render f
  have result : ∀ s : CallState τ,
      (render f s).1 = (s.scratch.render f).1.elim (.ok ()) .error := by
    intro s
    rw [render]
    obtain ⟨stop, scratch⟩ := s.scratch.render f
    cases stop <;> rfl
  have state : ∀ s : CallState τ, (render f s).2.bare =
      { s.bare with scratch := (s.scratch.render f).2.bare } := fun _ => rfl
  rw [result, result, state, state]
  exact ⟨by rw [← stop]; rfl, by rw [← left]; rfl⟩

/-- What is sent does not depend on the room of the buffers it is in. -/
theorem ignores_sent {go : String → List Scalar → Action Engine α}
    (h : ∀ sql args, (go sql args).Ignores Engine.bare) :
    (sent go : Action (CallState τ) α).Ignores bare := by
  intro s
  obtain ⟨result, left⟩ := h s.scratch.sql s.scratch.args.content s.engine
  refine ⟨result, ?_⟩
  have state : ∀ s : CallState τ, (sent go s).2.bare = { s.bare with
      engine := (go s.scratch.sql s.scratch.args.content s.engine).2.bare } := fun _ => rfl
  rw [state, state, ← left]
  rfl

end CallState

namespace Handle

variable (h : Handle) (c : Context) (sql : String) (args : List Scalar)

theorem ignores_send : (h.send c sql args).Ignores Engine.bare := by
  intro e
  have contexts : e.bare.contexts = e.contexts := rfl
  rw [send, send, contexts]
  split
  split <;> exact ⟨rfl, rfl⟩

theorem ignores_query : (h.query c sql args).Ignores Engine.bare :=
  (h.ignores_send c sql args).andThen fun answer =>
    Action.ignores_ofExcept (.ok answer.rows) fun _ => rfl

theorem ignores_queryRow : (h.queryRow c sql args).Ignores Engine.bare :=
  (h.ignores_query c sql args).andThen fun rows =>
    Action.ignores_ofExcept (.ok rows.head?) fun _ => rfl

theorem ignores_execute : (h.execute c sql args).Ignores Engine.bare :=
  (h.ignores_send c sql args).andThen fun answer =>
    Action.ignores_ofExcept (.ok answer.result) fun _ => rfl

end Handle

namespace Fetch

variable {τ : Type}

/-- The fields that a mapper asks for. -/
theorem ignores_discover (m : Mapper τ Unit) : (discover m).Ignores CallState.bare := by
  intro s
  obtain ⟨⟨result, t⟩, runs⟩ : ∃ seen, m ⟨.blank, s.engine.contexts, s.own⟩ = seen := ⟨_, rfl⟩
  have runs' : m ⟨.blank, s.bare.engine.contexts, s.bare.own⟩ = (result, t) := runs
  rw [discover, discover, onView, onView, runs, runs']
  rcases result with e | _
  · cases e <;> exact ⟨rfl, rfl⟩
  · exact ⟨rfl, rfl⟩

theorem bare_countRow (limit : Nat) (requested : List RequestedField) (row : ResultRow)
    (s : CallState τ) :
    (countRow limit requested row s.bare).bare = (countRow limit requested row s).bare := by
  have count : s.bare.rowCount = s.rowCount := rfl
  rw [countRow, countRow, count]
  split
  · exact congrArg (fun scratch : Scratch => (⟨s.engine.bare, scratch, s.rowCount + 1, s.own⟩ :
      CallState τ)) (s.scratch.bare_addPreview (previewPieces (s.rowCount + 1) requested row))
  · rfl

/-- Runs the mapper on one row, and says whether to go on with the next. -/
def judge (requested : List RequestedField) (m : Mapper τ Unit) (row : ResultRow) :
    Action (CallState τ) Bool := fun s =>
  match onView m (.ofRow row) s with
  | (result, view, s) =>
    if view.failures.isEmpty then
      match result with
      | .ok _ => (.ok true, s)
      | .error .skipRows => (.ok false, s)
      | .error e => (.error e, s)
    else (.error (scanError s.scratch requested view.failures), s)

theorem mapRows_judge (limit : Nat) (requested : List RequestedField) (m : Mapper τ Unit)
    (row : ResultRow) (rest : List ResultRow) :
    mapRows limit requested m (row :: rest) =
      (Action.change (countRow limit requested row)).andThen fun _ =>
        (judge requested m row).andThen fun goesOn =>
          if goesOn then mapRows limit requested m rest else Action.pure () := by
  funext s
  rw [mapRows]
  simp only [Action.andThen, Action.change, judge]
  obtain ⟨result, view, s'⟩ := onView m (.ofRow row) (countRow limit requested row s)
  by_cases read : view.failures.isEmpty = true
  · rw [if_pos read, if_pos read]
    rcases result with e | _
    · cases e <;> rfl
    · rfl
  · rw [if_neg read, if_neg read]

theorem ignores_judge (requested : List RequestedField) (m : Mapper τ Unit) (row : ResultRow) :
    (judge requested m row).Ignores CallState.bare := by
  intro s
  obtain ⟨⟨result, t⟩, runs⟩ : ∃ seen, m ⟨.ofRow row, s.engine.contexts, s.own⟩ = seen :=
    ⟨_, rfl⟩
  have runs' : m ⟨.ofRow row, s.bare.engine.contexts, s.bare.own⟩ = (result, t) := runs
  rw [judge, judge, onView, onView, runs, runs']
  by_cases read : t.view.failures.isEmpty = true
  · simp only [if_pos read]
    rcases result with e | _
    · cases e <;> exact ⟨rfl, rfl⟩
    · exact ⟨rfl, rfl⟩
  · simp only [if_neg read]
    exact ⟨rfl, rfl⟩

theorem ignores_mapRows (limit : Nat) (requested : List RequestedField) (m : Mapper τ Unit)
    (rows : List ResultRow) : (mapRows limit requested m rows).Ignores CallState.bare := by
  induction rows with
  | nil => exact Action.ignores_ofExcept (.ok ()) CallState.bare_bare
  | cons row rest ih =>
      rw [mapRows_judge]
      refine Action.Ignores.andThen (fun s => ⟨rfl, bare_countRow limit requested row s⟩) fun _ =>
        (ignores_judge requested m row).andThen fun goesOn => ?_
      cases goesOn with
      | false => exact Action.ignores_ofExcept (.ok ()) CallState.bare_bare
      | true => exact ih

theorem ignores_mapAnswer (limit : Nat) (requested : List RequestedField) (m : Mapper τ Unit)
    (rows : List ResultRow) : (mapAnswer limit requested m rows).Ignores CallState.bare := by
  rw [mapAnswer]
  split
  · exact Action.ignores_ofExcept (.ok ()) CallState.bare_bare
  · refine (ignores_mapRows limit requested m rows).andThen fun _ s => ⟨rfl, ?_⟩
    exact congrArg (fun scratch : Scratch => (⟨s.engine.bare, scratch, s.rowCount, s.own⟩ :
      CallState τ)) (s.scratch.bare_addPreview (remainderPieces limit s.rowCount))

theorem ignores_body (h : Handle) (c : Context) (q : Query) (m : Mapper τ Unit) :
    (body h c q m).Ignores CallState.bare :=
  (ignores_discover m).andThen fun requested =>
    (Action.ignores_ofExcept _ CallState.bare_bare).andThen fun _ =>
      (CallState.ignores_render _).andThen fun _ =>
        (CallState.ignores_sent (h.ignores_query c)).andThen fun rows =>
          ignores_mapAnswer h.previewRows requested m rows

end Fetch

theorem Exec.ignores_body (h : Handle) (c : Context) (q : Query) (flags : ExecFlags) :
    (body h c q flags).Ignores CallState.bare :=
  (CallState.ignores_render _).andThen fun _ =>
    (CallState.ignores_sent (h.ignores_execute c)).andThen fun _ =>
      Action.ignores_ofExcept _ CallState.bare_bare

theorem Exists.ignores_body (h : Handle) (c : Context) (q : Query) :
    (body h c q).Ignores CallState.bare :=
  (Action.ignores_ofExcept _ CallState.bare_bare).andThen fun _ =>
    (CallState.ignores_render _).andThen fun _ =>
      (CallState.ignores_sent (h.ignores_queryRow c)).andThen fun _ =>
        Action.ignores_ofExcept _ CallState.bare_bare

/-! ## Calls -/

/-- The error of a result, if it is one. -/
def failure? {α : Type} (r : Except Error α) : Option Error :=
  match r with
  | .ok _ => none
  | .error e => some e

namespace Handle

variable {τ α : Type}

/-- The record that a call makes when its body has ended. -/
def closing (h : Handle) (site : CallSite) (outcome : Except Error α → Nat → Outcome)
    (ended : Except Error α × CallState τ) : LogRecord :=
  h.record site ended.2.scratch (failure? ended.1) (outcome ended.1 ended.2.rowCount)

theorem bare_log (h : Handle) (c : Context) (r : LogRecord) (e : Engine) :
    (h.log c r e).bare = h.log c r e.bare := by
  have contexts : e.bare.contexts = e.contexts := rfl
  rw [log, log, contexts]
  split <;> rfl

/-- A call runs its body on blank buffers, and logs what it has come to. -/
theorem call_course (h : Handle) (c : Context) (site : CallSite) (d : Dialect)
    (outcome : Except Error α → Nat → Outcome) (body : Action (CallState τ) α) (own : τ)
    {e : Engine} (clean : e.pool.IsClean) : ∃ s : CallState τ,
      s.scratch.IsBlank ∧ s.bare = ⟨e.bare, (Scratch.take d (.new 0)).1, 0, own⟩ ∧
      let called := h.call c site d outcome body own e
      called.1 = ((body s).1, (body s).2.rowCount) ∧ called.2.1 = (body s).2.own ∧
      called.2.2.bare = h.log c (h.closing site outcome (body s)) (body s).2.engine.bare := by
  cases pooled : h.pooled with
  | true =>
      refine ⟨⟨{ e with pool := (Scratch.take d e.pool).2 }, (Scratch.take d e.pool).1, 0, own⟩,
        Scratch.isBlank_take d clean, ?_, ?_⟩
      · rw [CallState.bare, Scratch.bare_take d clean]
        rfl
      · simp only [call, pooled, if_true, true_and, ← bare_log]
        generalize body _ = ended
        obtain ⟨r, s⟩ := ended
        cases r <;> rfl
  | false =>
      refine ⟨⟨e, (Scratch.take d (.new 0)).1, 0, own⟩,
        Scratch.isBlank_take d (BufferPool.isClean_new 0), rfl, ?_⟩
      simp only [call, pooled, Bool.false_eq_true, if_false, true_and, ← bare_log]
      generalize body _ = ended
      obtain ⟨r, s⟩ := ended
      cases r <;> rfl

/-- Two pools without content in them are the same to a call. -/
theorem call_congr (h : Handle) (c : Context) (site : CallSite) (d : Dialect)
    (outcome : Except Error α → Nat → Outcome) {body : Action (CallState τ) α}
    (ignores : body.Ignores CallState.bare) (own : τ) {e e' : Engine} (clean : e.pool.IsClean)
    (clean' : e'.pool.IsClean) (same : e.bare = e'.bare) :
    let called := h.call c site d outcome body own e
    let called' := h.call c site d outcome body own e'
    called.1 = called'.1 ∧ called.2.1 = called'.2.1 ∧ called.2.2.bare = called'.2.2.bare := by
  obtain ⟨s, -, start, result, kept, left⟩ := h.call_course c site d outcome body own clean
  obtain ⟨s', -, start', result', kept', left'⟩ := h.call_course c site d outcome body own clean'
  intro called called'
  rw [same, ← start'] at start
  obtain ⟨ended, ended_bare⟩ := ignores.congr start
  have closed : h.closing site outcome (body s) = h.closing site outcome (body s') := by
    have seen : ∀ x : Except Error α × CallState τ,
        h.closing site outcome x = h.closing site outcome (x.1, x.2.bare) := fun _ => rfl
    rw [seen, ended, ended_bare, ← seen]
  have count : (body s).2.bare.rowCount = (body s').2.bare.rowCount :=
    congrArg CallState.rowCount ended_bare
  have own : (body s).2.bare.own = (body s').2.bare.own := congrArg CallState.own ended_bare
  have engine : (body s).2.engine.bare = (body s').2.engine.bare :=
    congrArg CallState.engine ended_bare
  have given : ((body s).1, (body s).2.rowCount) = ((body s').1, (body s').2.rowCount) :=
    Prod.ext ended count
  rw [closed, engine] at left
  exact ⟨result.trans (given.trans result'.symm), kept.trans (own.trans kept'.symm),
    left.trans left'.symm⟩

end Handle

/-! ## The calls of a handle -/

namespace Handle

variable {τ α : Type} (h : Handle) (c : Context) (site : CallSite) (q : Query) {e e' : Engine}

theorem exec_congr (flags : ExecFlags) (clean : e.pool.IsClean) (clean' : e'.pool.IsClean)
    (same : e.bare = e'.bare) :
    (h.exec c site q flags e).1 = (h.exec c site q flags e').1 ∧
      (h.exec c site q flags e).2.bare = (h.exec c site q flags e').2.bare := by
  obtain ⟨result, -, left⟩ := h.call_congr c site q.dialect (fun r _ => Exec.outcome flags r)
    (Exec.ignores_body h c q flags) () clean clean' same
  have given := congrArg Prod.fst result
  exact ⟨given, left⟩

theorem hasRows_congr (clean : e.pool.IsClean) (clean' : e'.pool.IsClean)
    (same : e.bare = e'.bare) :
    (h.hasRows c site q e).1 = (h.hasRows c site q e').1 ∧
      (h.hasRows c site q e).2.bare = (h.hasRows c site q e').2.bare := by
  obtain ⟨result, -, left⟩ := h.call_congr c site q.dialect (fun r _ => Exists.outcome r)
    (Exists.ignores_body h c q) () clean clean' same
  have given := congrArg Prod.fst result
  exact ⟨given, left⟩

theorem fetch_congr (m : Mapper τ Unit) (own : τ) (clean : e.pool.IsClean)
    (clean' : e'.pool.IsClean) (same : e.bare = e'.bare) :
    (h.fetch c site q m own e).1 = (h.fetch c site q m own e').1 ∧
      (h.fetch c site q m own e).2.1 = (h.fetch c site q m own e').2.1 ∧
      (h.fetch c site q m own e).2.2.bare = (h.fetch c site q m own e').2.2.bare := by
  obtain ⟨result, kept, left⟩ := h.call_congr c site q.dialect (fun _ rowCount => { rowCount })
    (Fetch.ignores_body h c q m) own clean clean' same
  rw [fetch, fetch]
  generalize h.call c site q.dialect _ _ own e = called at result kept left ⊢
  generalize h.call c site q.dialect _ _ own e' = called' at result kept left ⊢
  obtain ⟨⟨r, count⟩, own, e⟩ := called
  obtain ⟨⟨r', count'⟩, own', e'⟩ := called'
  obtain ⟨rfl, rfl⟩ := Prod.mk.inj result
  cases r <;> exact ⟨rfl, kept, left⟩

/-- Fetching all values is a fetch that collects them. -/
theorem fetchAll_eq (m : Mapper τ α) (own : τ) (e : Engine) :
    let fetched := h.fetch c site q m.collect (own, []) e
    h.fetchAll c site q m own e =
      ((fetched.1.mapError FetchFault.error).map fun _ => fetched.2.1.2, fetched.2.1.1,
        fetched.2.2) := by
  intro fetched
  rw [fetchAll]
  have runs : h.fetch c site q m.collect (own, []) e = fetched := rfl
  rw [runs]
  clear_value fetched
  obtain ⟨r, ⟨own, items⟩, e⟩ := fetched
  cases r <;> rfl

theorem fetchAll_congr (m : Mapper τ α) (own : τ) (clean : e.pool.IsClean)
    (clean' : e'.pool.IsClean) (same : e.bare = e'.bare) :
    (h.fetchAll c site q m own e).1 = (h.fetchAll c site q m own e').1 ∧
      (h.fetchAll c site q m own e).2.1 = (h.fetchAll c site q m own e').2.1 ∧
      (h.fetchAll c site q m own e).2.2.bare = (h.fetchAll c site q m own e').2.2.bare := by
  obtain ⟨result, kept, left⟩ := h.fetch_congr c site q m.collect (own, []) clean clean' same
  rw [fetchAll_eq, fetchAll_eq]
  simp only [result, kept, left, and_self]

end Handle

/-! ## Histories -/

/-- The engines that handles with one pool come to by calls, together with
the loans of others who hold buffers of this pool: they begin with a new
pool, and in between contexts and logs change in any way. -/
inductive Served : Engine → List (Option Loan) → Prop
  | new (e : Engine) (retained : Nat) : Served { e with pool := .new retained } []
  | holder {e : Engine} {loans : List (Option Loan)} (s : LoanStep) (before : Served e loans) :
      Served { e with pool := (Lending.step ⟨e.pool, loans⟩ s).pool }
        (Lending.step ⟨e.pool, loans⟩ s).loans
  | meanwhile {e : Engine} {loans : List (Option Loan)} (contexts : Contexts)
      (sent : List (String × List Scalar)) (records : List LogRecord) (before : Served e loans) :
      Served ⟨contexts, e.pool, sent, records⟩ loans
  | exec {e : Engine} {loans : List (Option Loan)} (h : Handle) (c : Context) (site : CallSite)
      (q : Query) (flags : ExecFlags) (before : Served e loans) :
      Served (h.exec c site q flags e).2 loans
  | hasRows {e : Engine} {loans : List (Option Loan)} (h : Handle) (c : Context) (site : CallSite)
      (q : Query) (before : Served e loans) : Served (h.hasRows c site q e).2 loans
  | fetch {e : Engine} {loans : List (Option Loan)} {τ : Type} (h : Handle) (c : Context)
      (site : CallSite) (q : Query) (m : Mapper τ Unit) (own : τ) (before : Served e loans) :
      Served (h.fetch c site q m own e).2.2 loans
  | fetchAll {e : Engine} {loans : List (Option Loan)} {τ α : Type} (h : Handle) (c : Context)
      (site : CallSite) (q : Query) (m : Mapper τ α) (own : τ) (before : Served e loans) :
      Served (h.fetchAll c site q m own e).2.2 loans

namespace Served

variable {e : Engine} {loans : List (Option Loan)}

/-- No call and no other holder brings a pool into a state that takes and
returns do not. -/
theorem isReached (h : Served e loans) : e.pool.IsReached := by
  induction h with
  | new e retained => exact .new retained
  | holder s _ ih => exact Lending.isReached_step ih s
  | meanwhile contexts sent records _ ih => exact ih
  | exec h c site q flags _ ih => exact h.isReached_exec c site q flags ih
  | hasRows h c site q _ ih => exact h.isReached_hasRows c site q ih
  | fetch h c site q m own _ ih => exact h.isReached_fetch c site q m own ih
  | fetchAll h c site q m own _ ih =>
      rw [h.fetchAll_eq c site q m own]
      exact h.isReached_fetch c site q m.collect (own, []) ih

/-- Nothing that was in a buffer before is ever seen again. Whatever comes
back, idle buffers are empty and no more than the pool retains, and a buffer
that is taken is empty. However many holders take turns, in each loan stands
what its holder has written. And whatever calls went before and however they
ended, the next call gives the same result, leaves the same state of its
mapper, contexts and statements sent, and logs the same record as with a new
pool. -/
theorem next_call :
    (∀ p : BufferPool, p.IsReached →
      p.IsClean ∧ p.idle.1 ≤ p.retained ∧ p.idle.2 ≤ p.retained ∧
        p.takeText.1.content = "" ∧ p.takeArgs.1.content = []) ∧
    (∀ (retained : Nat) (all : List LoanStep),
      let l := (Lending.mk (.new retained) []).steps all
      l.pool.IsReached ∧ l.pool.retained = retained ∧
        l.contents = all.foldl LoanStep.alone []) ∧
    ∀ (e : Engine) (loans : List (Option Loan)), Served e loans →
      e.pool.IsReached ∧
      ∀ (retained : Nat) (h : Handle) (c : Context) (site : CallSite) (q : Query),
        let fresh : Engine := { e with pool := .new retained }
        (∀ flags, (h.exec c site q flags e).1 = (h.exec c site q flags fresh).1 ∧
          (h.exec c site q flags e).2.bare = (h.exec c site q flags fresh).2.bare) ∧
        ((h.hasRows c site q e).1 = (h.hasRows c site q fresh).1 ∧
          (h.hasRows c site q e).2.bare = (h.hasRows c site q fresh).2.bare) ∧
        (∀ (τ : Type) (m : Mapper τ Unit) (own : τ),
          (h.fetch c site q m own e).1 = (h.fetch c site q m own fresh).1 ∧
          (h.fetch c site q m own e).2.1 = (h.fetch c site q m own fresh).2.1 ∧
          (h.fetch c site q m own e).2.2.bare = (h.fetch c site q m own fresh).2.2.bare) ∧
        ∀ (τ α : Type) (m : Mapper τ α) (own : τ),
          (h.fetchAll c site q m own e).1 = (h.fetchAll c site q m own fresh).1 ∧
          (h.fetchAll c site q m own e).2.1 = (h.fetchAll c site q m own fresh).2.1 ∧
          (h.fetchAll c site q m own e).2.2.bare = (h.fetchAll c site q m own fresh).2.2.bare := by
  refine ⟨fun p reached => ?_, fun retained all => ?_, fun e loans served => ?_⟩
  · have clean := reached.isClean
    exact ⟨clean, reached.idle_le.1, reached.idle_le.2, clean.takeText.1, clean.takeArgs.1⟩
  · exact Lending.contents_steps (l := ⟨.new retained, []⟩) (.new retained) all
  · have clean := served.isReached.isClean
    refine ⟨served.isReached, ?_⟩
    intro retained h c site q fresh
    have new : fresh.pool.IsClean := BufferPool.isClean_new retained
    exact ⟨fun flags => h.exec_congr c site q flags clean new rfl,
      h.hasRows_congr c site q clean new rfl,
      fun τ m own => h.fetch_congr c site q m own clean new rfl,
      fun τ α m own => h.fetchAll_congr c site q m own clean new rfl⟩

/-- A statement of which only a part was written leaves nothing of it in the
buffers that the next call takes. -/
theorem next_call_after_part :
    let h : Handle := { driver := fun _ _ => { outcome := .ok {} }, logs := true, pooled := true }
    let c : Context := ⟨none, 0⟩
    let broken : Query := .select .postgres { Select.empty with
      fields := [.param "id" (.int 7), .searchedCase "" [] none] }
    let q : Query := .select .postgres .empty
    let start : Engine := { contexts := Contexts.start.background, pool := .new 4 }
    let e : Engine := { (h.exec c ⟨"", 0⟩ broken {} start).2 with records := [] }
    Served e [] ∧ (h.exec c ⟨"", 0⟩ broken {} start).2.records.map (·.args) = [[.int 7]] ∧
      e.pool.takeArgs.1.content = [] ∧
      (h.exec c ⟨"", 0⟩ q {} e).2.records = (h.exec c ⟨"", 0⟩ q {} start).2.records := by
  intro h c broken q start e
  have served : Served e [] := .meanwhile _ _ _ (.exec h c ⟨"", 0⟩ broken {} (.new start 4))
  have fresh : { e with pool := .new 4 } = start := rfl
  obtain ⟨reached, calls⟩ := next_call.2.2 e [] served
  obtain ⟨-, -, -, -, taken⟩ := next_call.1 e.pool reached
  obtain ⟨exec, -⟩ := calls 4 h c ⟨"", 0⟩ q
  have same := Engine.records_congr (exec {}).2
  rw [fresh] at same
  exact ⟨served, rfl, taken, same⟩

end Served

end SqlCompose
