import SqlCompose.Execute.Result
import SqlCompose.Postgres.Binary
import SqlCompose.Transaction.Block

/-!
# Exchanges with a server

What a client sends for each call, and what it makes of the answer. Every
statement is parsed first; the server tells the types of its parameters
and columns, and the client then sends the arguments as bytes. Commands of
transactions are sent as simple statements.

The server here knows one statement: it gives the same rows and the same
completion tag to every execution.
-/

namespace SqlCompose.Postgres

/-- The one statement of a server. -/
structure Statement where
  params : List WireType := []
  columns : List (String × WireType) := []
  rows : List (List (Option (List UInt8))) := []
  /-- What the server says when the statement is complete. -/
  tag : String := ""
  deriving Repr, Inhabited

/-- What arrives at the server. -/
inductive Message where
  | parse (sql : String)
  | bind (values : List (List UInt8))
  | simple (sql : String)
  deriving DecidableEq, Repr

/-- The statement that a command is sent as. -/
def commandSql : Command → String
  | .start => "START TRANSACTION"
  | .commit => "COMMIT"
  | .rollback => "ROLLBACK"
  | .savepoint name => "SAVEPOINT " ++ name
  | .release name => "RELEASE " ++ name
  | .rollbackTo name => "ROLLBACK TO " ++ name

/-- The arguments as bytes, or the index of the first that its parameter
cannot take. -/
def encodeAll : (index : Nat) → List (WireType × Scalar) → Except Nat (List (List UInt8))
  | _, [] => .ok []
  | index, (type, value) :: rest =>
    match encode type value with
    | .error _ => .error index
    | .ok bytes => (encodeAll (index + 1) rest).map (bytes :: ·)

/-- The cells of a row, or the name and the position of the first that
cannot be read, with its type. -/
def decodeCells : (index : Nat) → List ((String × WireType) × Option (List UInt8)) →
    Except Error (List (Option Scalar))
  | _, [] => .ok []
  | index, ((name, type), cell) :: rest =>
    match decodeCell? type cell with
    | none =>
      .error (.decode name
        ("error deserializing column " ++ index.repr ++ " (" ++ type.name ++ ")"))
    | some value => (decodeCells (index + 1) rest).map (value :: ·)

/-- The number at the end of a completion tag: a word of digits, perhaps
behind a plus sign, that 64 bits can hold. -/
def affectedRows (tag : String) : Nat :=
  let word := (tag.toList.reverse.takeWhile (· ≠ ' ')).reverse
  let digits := match word with
    | '+' :: rest => rest
    | rest => rest
  let n := digits.foldl (fun n c => n * 10 + (c.toNat - '0'.toNat)) 0
  if !digits.isEmpty && digits.all Char.isDigit && n < UInt64.size then n else 0

namespace Statement

/-- Parses the statement and binds the arguments. -/
def send (s : Statement) (sql : String) (args : List Scalar) : Action (List Message) Unit :=
  fun sent =>
    let sent := sent ++ [.parse sql]
    if s.params.length ≠ args.length then
      (.error (.query ("expected " ++ s.params.length.repr ++ " parameters but got " ++
        args.length.repr)), sent)
    else
      match encodeAll 0 (List.zip s.params args) with
      | .error index =>
        (.error (.query ("error serializing parameter " ++ index.repr)), sent)
      | .ok values => (.ok (), sent ++ [.bind values])

/-- The rows of the statement. -/
def resultRows (s : Statement) : Except Error (List ResultRow) :=
  s.rows.mapM fun row => do
    let values ← decodeCells 0 (List.zip s.columns row)
    return ⟨s.columns.map Prod.fst, values⟩

/-- All rows. -/
def query (s : Statement) (sql : String) (args : List Scalar) :
    Action (List Message) (List ResultRow) :=
  (s.send sql args).andThen fun _ sent => (s.resultRows, sent)

/-- The first row. All rows are read all the same. -/
def queryRow (s : Statement) (sql : String) (args : List Scalar) :
    Action (List Message) (Option ResultRow) :=
  (s.query sql args).andThen fun rows => Action.pure rows.head?

/-- The count of rows, which this server takes from its tag. -/
def exec (s : Statement) (sql : String) (args : List Scalar) : Action (List Message) ExecResult :=
  (s.send sql args).andThen fun _ => Action.pure ⟨affectedRows s.tag, none⟩

end Statement

/-- Sends a command of a transaction. -/
def perform (c : Command) : Action (List Message) Unit := fun sent =>
  (.ok (), sent ++ [.simple (commandSql c)])

end SqlCompose.Postgres
