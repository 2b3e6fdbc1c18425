import SqlCompose.Execute.Handle
import SqlCompose.Statement.Projection
import SqlCompose.Statement.Render

/-!
# Statements without rows

`Handle.exec` runs a statement for what it does, and reports only what the
caller asked for. `Handle.hasRows` asks whether a statement has any row.
-/

namespace SqlCompose

namespace Exec

/-- What the caller asked to know. An identifier that the driver does not
keep is an error. -/
def requested (d : Dialect) (flags : ExecFlags) (r : ExecResult) : Except Error ExecResult :=
  if flags.lastInsertId && r.lastInsertId.isNone then
    .error (.driver (d.name ++ " driver does not report the last insert id"))
  else
    .ok {
      rowsAffected := if flags.rowsAffected then r.rowsAffected else 0
      lastInsertId := if flags.lastInsertId then r.lastInsertId else none }

/-- What the log says of a statement without rows. -/
def outcome (flags : ExecFlags) (r : Except Error ExecResult) : Outcome :=
  match r with
  | .ok r =>
    { rowsAffected := r.rowsAffected, lastInsertId := r.lastInsertId, execFlags := some flags }
  | .error _ => { execFlags := some flags }

/-- The body of a call for what a statement does. -/
def body (h : Handle) (c : Context) (q : Query) (flags : ExecFlags) :
    Action (CallState Unit) ExecResult :=
  (CallState.render (q.sql none)).andThen fun _ =>
    (CallState.sent (h.execute c)).andThen fun r =>
      Action.ofExcept (requested q.dialect flags r)

end Exec

namespace Exists

/-- The answer that a row gives: its first cell as a truth value. -/
def ofRow (row : Option ResultRow) : Except Error Bool :=
  match row.bind (·.get? 0) with
  | none => .ok false
  | some (.bool b) => .ok b
  | some (.int n) => .ok (n != 0)
  | some found => .error (.decode "exists" ("expected a boolean, got " ++ found.typeName))

/-- The statement that asks whether another has rows. -/
def sql (q : Query) : Fragment := .text "SELECT EXISTS(" ++ q.sql none ++ .text ")"

/-- What the log says: one row if there are any. -/
def outcome (r : Except Error Bool) : Outcome :=
  match r with
  | .ok true => { rowCount := 1 }
  | _ => {}

/-- The body of a call that asks whether a statement has rows. -/
def body (h : Handle) (c : Context) (q : Query) : Action (CallState Unit) Bool :=
  (Action.ofExcept (q.withProjection [.literal "1"])).andThen fun q =>
    (CallState.render (sql q)).andThen fun _ =>
      (CallState.sent (h.queryRow c)).andThen fun row => Action.ofExcept (ofRow row)

end Exists

namespace Handle

/-- Runs a statement for what it does. -/
def exec (h : Handle) (c : Context) (site : CallSite) (q : Query) (flags : ExecFlags)
    (e : Engine) : Except Error ExecResult × Engine :=
  match h.call c site q.dialect (fun r _ => Exec.outcome flags r) (Exec.body h c q flags) () e with
  | ((result, _), _, e) => (result, e)

/-- Asks whether a statement has any row. -/
def hasRows (h : Handle) (c : Context) (site : CallSite) (q : Query) (e : Engine) :
    Except Error Bool × Engine :=
  match h.call c site q.dialect (fun r _ => Exists.outcome r) (Exists.body h c q) () e with
  | ((result, _), _, e) => (result, e)

end Handle

end SqlCompose
