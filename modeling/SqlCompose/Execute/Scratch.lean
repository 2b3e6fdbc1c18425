import SqlCompose.Pool.Basic
import SqlCompose.Writer

/-!
# Scratch buffers of a call

A call renders its statement into buffers of a pool and gives them back at
its end. Where the dialect numbers its placeholders, the statement is
converted into a buffer of its own.
-/

namespace SqlCompose

/-- The buffers of a call. -/
structure Scratch where
  dialect : Dialect
  /-- The statement with `?` placeholders, as far as it was written. -/
  raw : Buffer String
  /-- The statement with numbered placeholders. -/
  converted : Buffer String
  args : Buffer (List Scalar)
  names : Names := []
  /-- The first rows fetched, for the log. -/
  preview : Buffer String
  /-- The statement was written to its end. -/
  rendered : Bool := false

namespace Scratch

/-- Takes buffers from a pool. -/
def take (d : Dialect) (p : BufferPool) : Scratch × BufferPool :=
  let (raw, p) := p.takeText
  let (converted, p) := p.takeText
  let (args, p) := p.takeArgs
  let (preview, p) := p.takeText
  ({ dialect := d, raw, converted, args, preview }, p)

/-- Gives all buffers back. -/
def giveBack (s : Scratch) (p : BufferPool) : BufferPool :=
  (((p.giveBackText s.raw).giveBackText s.converted).giveBackArgs s.args).giveBackText s.preview

/-- Writes a fragment over what the buffers held, as far as it goes, and says
why it stopped if it did. -/
def render (f : Fragment) (s : Scratch) : Option Error × Scratch :=
  let raw := (s.raw.clear .text).appendAll .text (f.pieces.map Piece.sql)
  let args := (s.args.clear .args).appendAll .args (f.args.map ([·]))
  let s := { s with raw, args, names := f.names }
  match f.stop with
  | some e => (some e, s)
  | none =>
    let converted :=
      if s.dialect.isNumbered then
        let parts := Placeholder.numberedParts 0 (Mark.ofText raw.content)
        (s.converted.clear .text).appendAll .text parts
      else s.converted
    (none, { s with converted, rendered := true })

/-- The statement as it is sent. -/
def sql (s : Scratch) : String :=
  if s.dialect.isNumbered then s.converted.content else s.raw.content

/-- The statement as it is logged: as it was sent or, if it was not
rendered, what there is of it with the error. -/
def loggedSql (s : Scratch) (error : Option Error) : String :=
  match error with
  | none => s.sql
  | some e =>
    if s.rendered then s.sql
    else s.raw.content ++ " <STOPPED DUE TO ERROR: " ++ e.message ++ ">"

/-- Adds to the preview. -/
def addPreview (s : Scratch) (pieces : List String) : Scratch :=
  { s with preview := s.preview.appendAll .text pieces }

/-- The preview, unless it is empty. -/
def preview? (s : Scratch) : Option String :=
  if s.preview.content.isEmpty then none else some s.preview.content

end Scratch

end SqlCompose
