import SqlCompose.Log.Flags
import SqlCompose.Log.StatementKind
import SqlCompose.Time.Duration
import SqlCompose.Writer

/-!
# Log records

One record holds all that is known about one call: the statement as it was
sent, its arguments, how the call ended and how long it took.
-/

namespace SqlCompose

/-- The place of a call in the text of a program. -/
structure CallSite where
  file : String
  line : Nat
  deriving DecidableEq, Repr

/-- The place as `file:line`. -/
def CallSite.toText (c : CallSite) : String := c.file ++ ":" ++ c.line.repr

/-- What is known about one call. -/
structure LogRecord where
  dialect : Dialect
  /-- The statement as it was sent. -/
  query : String
  args : List Scalar := []
  names : Names := []
  error : Option Error := none
  caller : Option CallSite := none
  rowCount : Nat := 0
  rowsAffected : Nat := 0
  lastInsertId : Option Int64 := none
  /-- The first rows fetched. -/
  preview : Option String := none
  /-- What the caller wanted to know, for a statement without rows. -/
  execFlags : Option ExecFlags := none
  logFlags : LogFlags := {}
  elapsed : Duration := .zero
  deriving Repr, Inhabited

namespace LogRecord

def kind (r : LogRecord) : StatementKind := .ofSql r.query

def succeeded (r : LogRecord) : Bool := r.error.isNone

end LogRecord

end SqlCompose
