import SqlCompose.Fragment
import SqlCompose.Placeholder

/-!
# Writers and built statements

A writer holds the text, the arguments and the named positions written so
far, with `?` placeholders whatever its dialect. Finishing it puts the
placeholders into the dialect's style and gives a built statement.
-/

namespace SqlCompose

/-- A statement ready to be sent. -/
structure BuiltQuery where
  dialect : Dialect
  sql : String
  args : List Scalar
  names : Names
  deriving Repr, Inhabited

namespace BuiltQuery

/-- Puts another value in the place of a named argument. -/
def bind (q : BuiltQuery) (name : String) (value : Scalar) : Except Error BuiltQuery :=
  match q.names.index? name with
  | none => .error (.build ("unknown named parameter " ++ Escape.quote name))
  | some index =>
    if index < q.args.length then .ok { q with args := q.args.set index value }
    else
      .error (.build ("named parameter " ++ Escape.quote name ++
        " points past the argument list"))

/-- The text with all arguments written in. -/
def inline (q : BuiltQuery) : Except Error String := Placeholder.inline q.dialect q.sql q.args

/-- The number of placeholders in the text. -/
def placeholders (q : BuiltQuery) : Nat := Placeholder.count q.dialect q.sql

end BuiltQuery

/-- What has been written so far. -/
structure Writer where
  dialect : Dialect
  text : String := ""
  args : List Scalar := []
  names : Names := []
  deriving Repr, Inhabited

namespace Writer

/-- Writes a fragment, as far as it goes. -/
def append (w : Writer) (f : Fragment) : Writer :=
  { w with
    text := w.text ++ f.sql
    args := w.args ++ f.args
    names := Fragment.recordPieces w.args.length f.pieces w.names }

/-- Writes a fragment, and says whether it stopped early. -/
def write (w : Writer) (f : Fragment) : Writer × Option Error := (w.append f, f.stop)

/-- The statement in the style of its dialect. -/
def finish (w : Writer) : BuiltQuery :=
  ⟨w.dialect, if w.dialect.isNumbered then Placeholder.numbered w.text else w.text, w.args,
    w.names⟩

end Writer

/-- The statement that a fragment is, if it was written to its end. -/
def Fragment.build (d : Dialect) (f : Fragment) : Except Error BuiltQuery :=
  match f.stop with
  | some e => .error e
  | none => .ok ((Writer.mk d "" [] []).append f).finish

end SqlCompose
