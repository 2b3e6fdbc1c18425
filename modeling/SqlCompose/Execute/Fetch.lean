import SqlCompose.Execute.Handle
import SqlCompose.Execute.Mapper
import SqlCompose.Statement.Projection
import SqlCompose.Statement.Render

/-!
# Fetching rows

A fetch asks the mapper which fields it reads, sends the statement with
these fields as its projection, and runs the mapper on every row of the
answer. A row that could not be read as the mapper wanted ends the fetch
with an error that names the fields and quotes the statement. The mapper
ends it early and without an error by asking to skip the remaining rows.

A mapper that reads no field is run on no row.
-/

namespace SqlCompose

/-- A fetch that failed, with the number of rows that were read before. -/
structure FetchFault where
  rowCount : Nat
  error : Error
  deriving DecidableEq, Repr

/-- The wording of a failed fetch; its error has a wording of its own. -/
def FetchFault.message (f : FetchFault) : String :=
  "fetch failed after " ++ f.rowCount.repr ++ " rows"

/-- A field as text, with its arguments written in. -/
def Field.describe (f : Field) : String :=
  let fragment := f.sql []
  match fragment.stop with
  | some e => fragment.sql ++ " <error: " ++ e.message ++ ">"
  | none =>
    match Placeholder.inlineQuestion fragment.sql fragment.args with
    | .ok sql => sql
    | .error _ => fragment.sql

namespace Fetch

/-- A row as the log shows it: each field with its value. -/
def previewPieces (n : Nat) (requested : List RequestedField) (row : ResultRow) : List String :=
  ["\n----[ Row ", n.repr, " ]----"] ++
    requested.zipIdx.flatMap fun (r, i) =>
      ["\n", r.field.describe, ": "] ++
        match row.get? i with
        | some value => value.literalParts
        | none => ["NULL"]

/-- The rows that the log does not show. -/
def remainderPieces (limit count : Nat) : List String :=
  if 0 < limit ∧ limit < count then
    ["\n...\n(", (count - limit).repr, " more rows)"]
  else []

/-- The error of a row that could not be read. -/
def scanError (s : Scratch) (requested : List RequestedField) (failures : List String) : Error :=
  let lines := requested.zipIdx.map fun (r, i) =>
    i.repr ++ ") " ++ r.field.describe ++ " => " ++ r.typeName
  let query := match Placeholder.inline s.dialect s.sql s.args.content with
    | .ok sql => sql
    | .error _ => s.sql
  .scan ("\n".intercalate lines) ("\n".intercalate failures ++ "\nquery: " ++ query)

variable {τ : Type}

/-- Runs a mapper on a view. -/
def onView (m : Mapper τ Unit) (view : RowView) (s : CallState τ) :
    Except Error Unit × RowView × CallState τ :=
  let (result, t) := m ⟨view, s.engine.contexts, s.own⟩
  (result, t.view, { s with engine := { s.engine with contexts := t.contexts }, own := t.own })

/-- The fields that a mapper reads. -/
def discover (m : Mapper τ Unit) : Action (CallState τ) (List RequestedField) := fun s =>
  match onView m .blank s with
  | (.ok _, view, s) => (.ok view.requested, s)
  | (.error .skipRows, view, s) => (.ok view.requested, s)
  | (.error e, _, s) => (.error e, s)

/-- Counts a row and shows it to the log if it is one of the first. -/
def countRow (limit : Nat) (requested : List RequestedField) (row : ResultRow)
    (s : CallState τ) : CallState τ :=
  let n := s.rowCount + 1
  let scratch :=
    if n ≤ limit then s.scratch.addPreview (previewPieces n requested row) else s.scratch
  { s with rowCount := n, scratch }

/-- Runs the mapper on rows, up to the first that cannot be read or at
which the mapper stops. -/
def mapRows (limit : Nat) (requested : List RequestedField) (m : Mapper τ Unit) :
    List ResultRow → Action (CallState τ) Unit
  | [] => Action.pure ()
  | row :: rest => fun s =>
    match onView m (.ofRow row) (countRow limit requested row s) with
    | (result, view, s) =>
      if view.failures.isEmpty then
        match result with
        | .ok _ => mapRows limit requested m rest s
        | .error .skipRows => (.ok (), s)
        | .error e => (.error e, s)
      else (.error (scanError s.scratch requested view.failures), s)

/-- Runs the mapper on all rows of an answer. -/
def mapAnswer (limit : Nat) (requested : List RequestedField) (m : Mapper τ Unit)
    (rows : List ResultRow) : Action (CallState τ) Unit :=
  if requested.isEmpty then Action.pure ()
  else
    (mapRows limit requested m rows).andThen fun _ =>
      Action.change fun s =>
        { s with scratch := s.scratch.addPreview (remainderPieces limit s.rowCount) }

/-- The body of a fetch. -/
def body (h : Handle) (c : Context) (q : Query) (m : Mapper τ Unit) : Action (CallState τ) Unit :=
  (discover m).andThen fun requested =>
    (Action.ofExcept (q.withProjection (requested.map (·.field)))).andThen fun q =>
      (CallState.render (q.sql none)).andThen fun _ =>
        (CallState.sent (h.query c)).andThen fun rows =>
          mapAnswer h.previewRows requested m rows

end Fetch

namespace Handle

variable {τ α : Type}

/-- Runs a mapper on every row of a statement and counts the rows. -/
def fetch (h : Handle) (c : Context) (site : CallSite) (q : Query) (m : Mapper τ Unit) (own : τ)
    (e : Engine) : Except FetchFault Nat × τ × Engine :=
  match h.call c site q.dialect (fun _ rowCount => { rowCount }) (Fetch.body h c q m) own e with
  | ((.ok _, count), own, e) => (.ok count, own, e)
  | ((.error error, count), own, e) => (.error ⟨count, error⟩, own, e)

/-- The values that a mapper gives for the rows of a statement. -/
def fetchAll (h : Handle) (c : Context) (site : CallSite) (q : Query) (m : Mapper τ α) (own : τ)
    (e : Engine) : Except Error (List α) × τ × Engine :=
  match h.fetch c site q m.collect (own, []) e with
  | (.ok _, (own, items), e) => (.ok items, own, e)
  | (.error fault, (own, _), e) => (.error fault.error, own, e)

end Handle

end SqlCompose
