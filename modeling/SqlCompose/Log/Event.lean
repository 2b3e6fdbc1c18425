import SqlCompose.Log.Line

/-!
# Log events

A record as a structured event. Failed calls are errors and slow calls are
warnings; all others have the level that the emitter is set to.
-/

namespace SqlCompose

/-- How much an event matters. -/
inductive LogLevel where
  | error
  | warn
  | info
  | debug
  | trace
  deriving DecidableEq, Repr

def LogLevel.name : LogLevel → String
  | .error => "ERROR"
  | .warn => "WARN"
  | .info => "INFO"
  | .debug => "DEBUG"
  | .trace => "TRACE"

/-- The level of a name. -/
def LogLevel.ofName? (name : String) : Option LogLevel :=
  [.error, .warn, .info, .debug, .trace].find? (·.name == name)

/-- What an event says about a call. -/
structure LogEvent where
  level : LogLevel
  kind : StatementKind
  dialect : Dialect
  elapsedMicros : Nat
  rowCount : Nat
  rowsAffected : Nat
  argCount : Nat
  /-- The place of the call, empty if it is not known. -/
  caller : String
  /-- The wording of the error, empty for a call that succeeded. -/
  error : String
  sql : String
  deriving Repr

/-- The name under which events are emitted. -/
def LogEvent.target : String := "typedsql.query"

/-- How records become events. -/
structure EventEmitter where
  level : LogLevel := .debug
  /-- The bytes of a statement that are shown. -/
  limit? : Option Nat := some 200
  /-- The time from which on a call is slow. -/
  slow? : Option Duration := none
  deriving Repr, Inhabited

namespace EventEmitter

/-- The level of the event of a record. -/
def levelOf (e : EventEmitter) (r : LogRecord) : LogLevel :=
  if !r.succeeded then .error
  else match e.slow? with
    | some slow => if slow.nanos ≤ r.elapsed.nanos then .warn else e.level
    | none => e.level

/-- The statement as an event shows it. Where the arguments cannot be
written in, the placeholders stay. -/
def sqlOf (e : EventEmitter) (r : LogRecord) : String :=
  let sql :=
    if r.logFlags.interpolate then
      match Placeholder.inline r.dialect r.query r.args with
      | .ok sql => sql
      | .error _ => r.query
    else r.query
  Cut.shorten e.limit? sql

/-- The event of a record. -/
def emit (e : EventEmitter) (r : LogRecord) : LogEvent where
  level := e.levelOf r
  kind := r.kind
  dialect := r.dialect
  elapsedMicros := r.elapsed.micros
  rowCount := r.rowCount
  rowsAffected := r.rowsAffected
  argCount := r.args.length
  caller := (r.caller.map CallSite.toText).getD ""
  error := (r.error.map Error.message).getD ""
  sql := e.sqlOf r

end EventEmitter

end SqlCompose
