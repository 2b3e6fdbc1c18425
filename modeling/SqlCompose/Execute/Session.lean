import SqlCompose.Execute.Exec
import SqlCompose.Execute.Fetch
import SqlCompose.Execute.RowPlan

/-!
# Sessions

Calls on one handle, one after another, given as data. Each has a context
of its own, and only the pool of buffers passes from one call to the
next.
-/

namespace SqlCompose

/-- The limits of a call under a context that it can be cancelled by. -/
structure CallLimits where
  /-- The milliseconds that the call may take. -/
  timeout : Option Nat := none
  /-- The context is cancelled before the call. -/
  cancelled : Bool := false
  deriving DecidableEq, Repr, Inhabited

namespace CallLimits

/-- The context made last. -/
def top (s : Contexts) : Context := ((s.slots.getLast?).bind (·.context)).getD default

/-- The number of the handle that cancels a call with limits. -/
def handle? (limits : Option CallLimits) : Option Nat := limits.map fun _ => 1

/-- The context of a call, and all contexts. -/
def contexts (limits : Option CallLimits) : Context × Contexts :=
  let s := Contexts.start.background
  match limits with
  | none => (top s, s)
  | some limits =>
    let s := s.withCancel (top s)
    let s := match limits.timeout with
      | some millis => s.withTimeout (top s) millis
      | none => s
    (top s, if limits.cancelled then s.cancel 1 else s)

end CallLimits

/-- A call on a handle. -/
inductive Request where
  | fetch (q : Query) (plan : List RowStep)
  | fetchAll (q : Query) (plan : List RowStep)
  | exec (q : Query) (flags : ExecFlags)
  | hasRows (q : Query)
  | query (sql : String) (args : List Scalar)
  | queryRow (sql : String) (args : List Scalar)
  | execute (sql : String) (args : List Scalar)

/-- What a call gives. -/
inductive Response where
  | fetched (r : Except FetchFault Nat) (journal : RowJournal)
  | values (r : Except Error (List (List (Option Scalar))))
  | result (r : Except Error ExecResult)
  | truth (r : Except Error Bool)
  | rows (r : Except Error (List ResultRow))
  | row (r : Except Error (Option ResultRow))

namespace Handle

/-- Makes a call. -/
def respond (h : Handle) (site : CallSite) (limits : Option CallLimits) (r : Request)
    (e : Engine) : Response × Engine :=
  let (c, contexts) := CallLimits.contexts limits
  let e := { e with contexts, sent := [], records := [] }
  let mapper := RowPlan.mapper (CallLimits.handle? limits)
  match r with
  | .fetch q plan =>
    let (r, journal, e) := h.fetch c site q ((mapper plan).andThen fun _ => Action.pure ()) {} e
    (.fetched r journal, e)
  | .fetchAll q plan =>
    let (r, _, e) := h.fetchAll c site q (mapper plan) {} e
    (.values r, e)
  | .exec q flags =>
    let (r, e) := h.exec c site q flags e
    (.result r, e)
  | .hasRows q =>
    let (r, e) := h.hasRows c site q e
    (.truth r, e)
  | .query sql args =>
    let (r, e) := h.query c sql args e
    (.rows r, e)
  | .queryRow sql args =>
    let (r, e) := h.queryRow c sql args e
    (.row r, e)
  | .execute sql args =>
    let (r, e) := h.execute c sql args e
    (.result r, e)

end Handle

end SqlCompose
