/-!
# Dialects

A dialect says which placeholders a finished statement has: a bare `?`,
or numbered ones (`$1`, `$2`, ...).
-/

namespace SqlCompose

/-- The variant of SQL a statement is written in. -/
inductive Dialect where
  | generic
  | sqlite
  | postgres
  deriving DecidableEq, Repr, Inhabited

namespace Dialect

/-- The name a log gives the dialect; the generic one has none. -/
def name : Dialect → String
  | .generic => ""
  | .sqlite => "sqlite3"
  | .postgres => "postgres"

/-- The placeholders of a finished statement are numbered. -/
def isNumbered : Dialect → Bool
  | .postgres => true
  | _ => false

end Dialect

end SqlCompose
