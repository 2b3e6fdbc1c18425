import SqlCompose.Action
import SqlCompose.Context.Run
import SqlCompose.Execute.Result
import SqlCompose.Execute.Scratch
import SqlCompose.Log.Record

/-!
# Database handles

A handle sends statements to a driver. It may limit the time of its calls,
share a pool of buffers between them, and log each call. A call whose
context is done when it ends is not logged.
-/

namespace SqlCompose

/-- What a driver gives for a statement. -/
structure Answer where
  rows : List ResultRow := []
  result : ExecResult := {}
  deriving Repr, Inhabited

/-- What a driver does with a statement: it may cancel a context by the
handle of a number, take its time, and then answer or fail. -/
structure Reply where
  cancels : Option Nat := none
  delay : Nat := 0
  outcome : Except Error Answer

/-- The reply as a call under a context. -/
def Reply.actions (r : Reply) : List (CallAction Answer) :=
  (r.cancels.map CallAction.cancel).toList ++ [.sleep r.delay, .finish r.outcome]

/-- The settings of a handle. -/
structure HandleConfig where
  /-- The most milliseconds that a call may take. -/
  timeout : Option Nat := none
  /-- How many rows a log shows. -/
  previewRows : Nat := 5
  logFlags : LogFlags := .compact
  deriving Repr, Inhabited

/-- A way to reach a database. -/
structure Handle where
  driver : String → List Scalar → Reply
  logs : Bool := false
  config : Option HandleConfig := none
  /-- The buffers of its calls come from the shared pool. -/
  pooled : Bool := false
  /-- The time that its log gives for every call. -/
  elapsed : Duration := .zero

/-- What calls act on. -/
structure Engine where
  contexts : Contexts := {}
  pool : BufferPool
  /-- The statements that reached the driver. -/
  sent : List (String × List Scalar) := []
  /-- The records that were logged. -/
  records : List LogRecord := []

/-- What a call asks about in its record. -/
structure Outcome where
  rowCount : Nat := 0
  rowsAffected : Nat := 0
  lastInsertId : Option Int64 := none
  execFlags : Option ExecFlags := none

namespace Handle

/-- What the log of the handle shows: nothing without a log. -/
def logFlags (h : Handle) : LogFlags :=
  if h.logs then (h.config.getD {}).logFlags else .empty

/-- How many rows the log shows. -/
def previewRows (h : Handle) : Nat :=
  if h.logFlags.results then (h.config.getD {}).previewRows else 0

/-- The context that a statement is sent under: the caller's, or one
derived from it where the handle has a time limit of its own. -/
def limited (h : Handle) (c : Context) (s : Contexts) : Context × Contexts :=
  match h.config.bind (·.timeout) with
  | none => (c, s)
  | some millis =>
    let s := s.withTimeout c millis
    (((s.slots.getLast?).bind (·.context)).getD c, s)

/-- Forgets the contexts made for a call. -/
def forget (before : Contexts) (after : Contexts) : Contexts :=
  { after with slots := after.slots.take before.slots.length }

/-- Sends a statement. One whose context is done does not reach the
driver. -/
def send (h : Handle) (c : Context) (sql : String) (args : List Scalar) : Action Engine Answer :=
  fun e =>
    let (c, contexts) := h.limited c e.contexts
    match contexts.error? c with
    | some error => (.error error, { e with contexts := forget e.contexts contexts })
    | none =>
      let ((result, _), contexts) := contexts.run c {} (h.driver sql args).actions
      (result, { e with
        contexts := forget e.contexts contexts
        sent := e.sent ++ [(sql, args)] })

/-- All rows of a statement. -/
def query (h : Handle) (c : Context) (sql : String) (args : List Scalar) :
    Action Engine (List ResultRow) :=
  (h.send c sql args).andThen fun answer => Action.pure answer.rows

/-- The first row of a statement, if there is one. -/
def queryRow (h : Handle) (c : Context) (sql : String) (args : List Scalar) :
    Action Engine (Option ResultRow) :=
  (h.query c sql args).andThen fun rows => Action.pure rows.head?

/-- What a statement without rows did. -/
def execute (h : Handle) (c : Context) (sql : String) (args : List Scalar) :
    Action Engine ExecResult :=
  (h.send c sql args).andThen fun answer => Action.pure answer.result

/-- The record of a call. -/
def record (h : Handle) (site : CallSite) (s : Scratch) (error : Option Error) (o : Outcome) :
    LogRecord where
  dialect := s.dialect
  query := s.loggedSql error
  args := s.args.content
  names := s.names
  error
  caller := some site
  rowCount := o.rowCount
  rowsAffected := o.rowsAffected
  lastInsertId := o.lastInsertId
  preview := s.preview?
  execFlags := o.execFlags
  logFlags := h.logFlags
  elapsed := h.elapsed

/-- Logs a call, unless there is no log or its context is done. -/
def log (h : Handle) (c : Context) (r : LogRecord) (e : Engine) : Engine :=
  if h.logs && !e.contexts.isDone c then { e with records := e.records ++ [r] } else e

end Handle

/-- What the body of a call acts on. -/
structure CallState (τ : Type) where
  engine : Engine
  scratch : Scratch
  /-- The rows that were read. -/
  rowCount : Nat := 0
  /-- The state of the mapper. -/
  own : τ

namespace CallState

variable {τ α : Type}

/-- Writes the statement of a call. -/
def render (f : Fragment) : Action (CallState τ) Unit := fun s =>
  let (stop, scratch) := s.scratch.render f
  (match stop with
    | some e => .error e
    | none => .ok (), { s with scratch })

/-- Does something with the statement that was written. -/
def sent (go : String → List Scalar → Action Engine α) : Action (CallState τ) α := fun s =>
  let (result, engine) := go s.scratch.sql s.scratch.args.content s.engine
  (result, { s with engine })

end CallState

namespace Handle

variable {τ α : Type}

/-- Runs the body of a call with buffers of the pool, logs the call and
gives the buffers back. -/
def call (h : Handle) (c : Context) (site : CallSite) (d : Dialect)
    (outcome : Except Error α → Nat → Outcome) (body : Action (CallState τ) α) (own : τ)
    (e : Engine) : (Except Error α × Nat) × τ × Engine :=
  let pool := if h.pooled then e.pool else .new 0
  let (scratch, pool) := Scratch.take d pool
  let start : CallState τ :=
    { engine := if h.pooled then { e with pool } else e, scratch, own }
  let (result, s) := body start
  let error := match result with
    | .ok _ => none
    | .error error => some error
  let record := h.record site s.scratch error (outcome result s.rowCount)
  let e := h.log c record s.engine
  let e := if h.pooled then { e with pool := s.scratch.giveBack e.pool } else e
  ((result, s.rowCount), s.own, e)

end Handle

end SqlCompose
