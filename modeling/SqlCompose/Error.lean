/-!
# Errors

The causes for which building, rendering or running a statement fails,
and their wording. Two of them are signals rather than failures: a mapper
returns `skipRows` to end a fetch early, and `unsupported` says that a
statement has no projection.
-/

namespace SqlCompose

/-- A cause of failure. -/
inductive Error where
  | unsupported
  | skipRows
  | build (message : String)
  /-- An error of the caller's own, which travels through a mapper. -/
  | domain (message : String)
  | query (message : String)
  | driver (message : String)
  | decode (column message : String)
  | scan (details message : String)
  | cancelled
  | deadlineExceeded
  | other (message : String)
  deriving DecidableEq, Repr, Inhabited

namespace Error

/-- The wording of an error. -/
def message : Error → String
  | .unsupported => "unsupported operation"
  | .skipRows => "skip remaining rows"
  | .build message => "Build error: " ++ message
  | .domain message => message
  | .query message => "Query error: " ++ message
  | .driver message => "Driver error: " ++ message
  | .decode column message => "Decode error on column '" ++ column ++ "': " ++ message
  | .scan details message =>
    "please check if your row mapper is correct:\n" ++ details ++ "\n" ++ message
  | .cancelled => "context cancelled"
  | .deadlineExceeded => "context deadline exceeded"
  | .other message => message

/-- The name of the cause. -/
def kind : Error → String
  | .unsupported => "Unsupported"
  | .skipRows => "SkipRows"
  | .build _ => "Build"
  | .domain _ => "Domain"
  | .query _ => "Query"
  | .driver _ => "Driver"
  | .decode .. => "Decode"
  | .scan .. => "Scan"
  | .cancelled => "Cancelled"
  | .deadlineExceeded => "DeadlineExceeded"
  | .other _ => "Other"

/-- The error whose cause has a name. A cause without a wording of its own
takes the message; `place` is the column or the details of one that has
two texts. -/
def ofKind (kind place message : String) : Error :=
  match kind with
  | "Unsupported" => .unsupported
  | "SkipRows" => .skipRows
  | "Build" => .build message
  | "Domain" => .domain message
  | "Query" => .query message
  | "Driver" => .driver message
  | "Decode" => .decode place message
  | "Scan" => .scan place message
  | "Cancelled" => .cancelled
  | "DeadlineExceeded" => .deadlineExceeded
  | _ => .other message

def isUnsupported : Error → Bool
  | .unsupported => true
  | _ => false

def isSkipRows : Error → Bool
  | .skipRows => true
  | _ => false

/-- The call was given up because its context was done. -/
def isCancelled : Error → Bool
  | .cancelled => true
  | .deadlineExceeded => true
  | _ => false

/-- The wording of the caller's own error, if it is one. -/
def domain? : Error → Option String
  | .domain message => some message
  | _ => none

end Error

end SqlCompose
