import SqlCompose.Transaction.Block

/-!
# Plans

A plan is a tree of blocks: statements, and savepoints with plans of their
own. Its result is the number of statements that were run in blocks that
succeeded. A plan may go on after a savepoint that failed.

A savepoint without a name is given one with the next number. Numbers are
words of 64 bits, so a name comes again only behind as many others as there
are words.
-/

namespace SqlCompose

mutual

/-- A step of a plan. -/
inductive PlanStep where
  | statement (text : String)
  | fail (e : Error)
  | savepoint (name? : Option String) (steps : PlanSteps) (ignoresErrors : Bool)
  deriving Inhabited

/-- The steps of a block. -/
inductive PlanSteps where
  | done
  | next (step : PlanStep) (rest : PlanSteps)

end

namespace PlanSteps

def ofList : List PlanStep → PlanSteps
  | [] => .done
  | s :: rest => .next s (ofList rest)

end PlanSteps

/-- The savepoint name of a number. -/
def savepointName (n : Nat) : String := "typedsql_sp_" ++ n.repr

/-- A generated name, and the number of the next one. -/
def nextSavepointName (n : UInt64) : String × UInt64 := (savepointName n.toNat, n + 1)

/-- A database that plans run against. -/
structure PlanTarget (σ : Type) where
  perform : Command → Action σ Unit
  statement : String → Action σ Unit
  /-- Takes note of an error that a plan does not stop at. -/
  note : Error → σ → σ

namespace PlanTarget

variable {σ : Type}

/-- A database together with the number of the next generated name. -/
def numbered (t : PlanTarget σ) (c : Command) : Action (σ × UInt64) Unit := fun (s, n) =>
  let (r, s) := t.perform c s
  (r, (s, n))

mutual

/-- Runs one step and counts its statements. -/
def step (t : PlanTarget σ) : PlanStep → Action (σ × UInt64) Nat
  | .statement text => fun (s, n) =>
    match t.statement text s with
    | (.ok _, s) => (.ok 1, (s, n))
    | (.error e, s) => (.error e, (s, n))
  | .fail e => fun s => (.error e, s)
  | .savepoint name? steps ignoresErrors => fun (s, n) =>
    let (name, n) := match name? with
      | some name => (name, n)
      | none => nextSavepointName n
    match (Block.savepoint name).run t.numbered (t.steps steps) (s, n) with
    | (.ok count, s) => (.ok count, s)
    | (.error e, (s, n)) =>
      if ignoresErrors then (.ok 0, (t.note e s, n)) else (.error e, (s, n))

/-- Runs the steps of a block in order, up to the first that fails. -/
def steps (t : PlanTarget σ) : PlanSteps → Action (σ × UInt64) Nat
  | .done => Action.pure 0
  | .next first rest =>
    (t.step first).andThen fun a => (t.steps rest).andThen fun b => Action.pure (a + b)

end

/-- Runs a plan as a transaction. -/
def transaction (t : PlanTarget σ) (plan : PlanSteps) : Action (σ × UInt64) Nat :=
  Block.transaction.run t.numbered (t.steps plan)

end PlanTarget

/-! ## Scripted databases -/

/-- What happens to a scripted database, as text. A savepoint is ended
under the words of a transaction and its own name. -/
def Command.event : Command → String
  | .start => "begin"
  | .commit => "commit"
  | .rollback => "rollback"
  | .savepoint name => "savepoint " ++ name
  | .release name => "commit " ++ name
  | .rollbackTo name => "rollback " ++ name

namespace PlanTarget

/-- Adds an event, which fails if it is among the failing ones. -/
def record (failing : List String) (event : String) : Action (List String) Unit := fun events =>
  (if failing.contains event then .error (.driver (event ++ " failed")) else .ok (),
    events ++ [event])

/-- A database that only keeps what happened to it. -/
def scripted (failing : List String) : PlanTarget (List String) where
  perform c := record failing c.event
  statement text := record failing text
  note e events := events ++ ["ignored: " ++ e.message]

end PlanTarget

end SqlCompose
