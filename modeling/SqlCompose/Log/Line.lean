import SqlCompose.Log.Cut
import SqlCompose.Log.Record

/-!
# Log lines

A record as text for a reader. It tells whether the call succeeded, its
statement, its time and its counts. With the flag for several lines, the
statement stands on lines of its own below them, once with its
placeholders and once with its arguments written in.
-/

namespace SqlCompose

/-- The colors of a terminal that log lines use. -/
inductive Color where
  | red
  | green
  | blue
  | magenta
  deriving DecidableEq, Repr

namespace Color

/-- The code that starts the color on a terminal. -/
def code : Color → Nat
  | .red => 31
  | .green => 32
  | .blue => 34
  | .magenta => 35

/-- The text in the color, if colors are wanted. -/
def paint (c : Color) (wanted : Bool) (text : String) : String :=
  if wanted then "\x1b[" ++ c.code.repr ++ "m" ++ text ++ "\x1b[0m" else text

end Color

namespace LogRecord

/-- The arguments in brackets. -/
def argsText (r : LogRecord) : String := "[" ++ " ".intercalate (r.args.map Scalar.display) ++ "]"

/-- The statement with its placeholders, and its arguments. -/
def boundText (r : LogRecord) (limit? : Option Nat) : String :=
  Cut.shorten limit? r.query ++ " " ++ r.argsText

/-- The statement with its arguments written in, or with the reason why
they could not be. -/
def inlinedText (r : LogRecord) (limit? : Option Nat) : String :=
  match Placeholder.inline r.dialect r.query r.args with
  | .ok sql => Cut.shorten limit? sql
  | .error e => Cut.shorten limit? r.query ++ " <interpolation failed: " ++ e.message ++ ">"

/-- A labelled value. -/
def entry (colored : Bool) (color : Color) (label value : String) : String :=
  color.paint colored (" " ++ label) ++ "=" ++ value

/-- The counts of a call: of rows, or what the caller wanted to know. -/
def countsText (r : LogRecord) (colored : Bool) : String :=
  match r.execFlags with
  | none => entry colored .blue "rowCount" r.rowCount.repr
  | some flags =>
    (if flags.rowsAffected then entry colored .blue "rowsAffected" r.rowsAffected.repr else "") ++
      (if flags.lastInsertId then
        entry colored .blue "lastInsertID" (toString (r.lastInsertId.getD 0).toInt)
      else "")

/-- A header on a line of its own. -/
def header (colored : Bool) (title : String) : String :=
  "\n" ++ Color.magenta.paint colored ("----[ " ++ title ++ " ]----")

/-- The line of a record, with at most `limit?` bytes of its statement. -/
def line (r : LogRecord) (limit? : Option Nat := none) (terminal : Bool := true) : String :=
  let flags := r.logFlags
  let colored := flags.color && terminal
  let status :=
    if r.succeeded then Color.green.paint colored "[OK]" else Color.red.paint colored "[FAIL]"
  let statement :=
    if flags.multiline then ""
    else " " ++ (if flags.interpolate then r.inlinedText limit? else r.boundText limit?) ++ " |"
  let caller := match r.caller with
    | some site => if flags.caller then entry colored .blue "caller" site.toText else ""
    | none => ""
  let error := match r.error with
    | some e => entry colored .red "error" e.message
    | none => ""
  let block :=
    if flags.multiline then
      header colored "Executing query" ++ "\n" ++ r.boundText limit? ++
        header colored "with bind values" ++ "\n" ++ r.inlinedText limit?
    else ""
  let preview := match r.preview with
    | some rows =>
      if flags.results && !rows.isEmpty then header colored "Fetched result" ++ rows else ""
    | none => ""
  status ++ statement ++ entry colored .blue "timeTaken" r.elapsed.toText ++
    r.countsText colored ++ caller ++ error ++ block ++ preview

end LogRecord

end SqlCompose
