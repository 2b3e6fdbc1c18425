import SqlCompose.Error
import SqlCompose.Scalar

/-!
# Fragments of a statement

Rendering gives a fragment: pieces of text and arguments in the order in
which they are written, and perhaps an error at which writing stopped.
Fragments are put together with `++`, which keeps what was written before
an error and drops all that would have come after it.

The text of a statement (`Fragment.sql`), its arguments
(`Fragment.args`) and the positions of its named arguments
(`Fragment.names`) are views of the pieces.
-/

namespace SqlCompose

/-- One piece of a statement. -/
inductive Piece where
  | text (s : String)
  /-- A placeholder with its argument, which may be known by a name. -/
  | arg (name? : Option String) (value : Scalar)
  deriving Repr

namespace Piece

/-- The text of a piece; an argument is a `?`. -/
def sql : Piece → String
  | text s => s
  | arg _ _ => "?"

/-- The argument of a piece. -/
def value? : Piece → Option Scalar
  | text _ => none
  | arg _ v => some v

end Piece

/-- Pieces, up to an error if there was one. -/
structure Fragment where
  pieces : List Piece := []
  stop : Option Error := none
  deriving Repr, Inhabited

/-- The positions of named arguments among all arguments, one for each
name. -/
abbrev Names := List (String × Nat)

/-- Records the position of a name, over an earlier one. -/
def Names.record (name : String) (index : Nat) : Names → Names
  | [] => [(name, index)]
  | (n, i) :: rest =>
    if n = name then (name, index) :: rest else (n, i) :: Names.record name index rest

/-- The position last recorded for a name. -/
def Names.index? (name : String) : Names → Option Nat
  | [] => none
  | (n, i) :: rest => if n = name then some i else Names.index? name rest

namespace Fragment

def empty : Fragment := {}

/-- Stops before anything is written. -/
def fail (e : Error) : Fragment := ⟨[], some e⟩

/-- What stands before the first error of the two, with that error. -/
def append (a b : Fragment) : Fragment :=
  match a.stop with
  | some _ => a
  | none => ⟨a.pieces ++ b.pieces, b.stop⟩

instance : Append Fragment := ⟨append⟩

def ofPieces (pieces : List Piece) : Fragment := ⟨pieces, none⟩

def text (s : String) : Fragment := ⟨[.text s], none⟩

def arg (v : Scalar) : Fragment := ⟨[.arg none v], none⟩

def namedArg (name : String) (v : Scalar) : Fragment := ⟨[.arg (some name) v], none⟩

/-- All fragments in order. -/
def concat : List Fragment → Fragment
  | [] => empty
  | a :: rest => a ++ concat rest

/-- All fragments in order, with a text between any two. -/
def sepBy (separator : String) : List Fragment → Fragment
  | [] => empty
  | [a] => a
  | a :: rest => a ++ text separator ++ sepBy separator rest

/-- A list with commas. -/
def commaList (items : List Fragment) : Fragment := sepBy ", " items

/-- A keyword and a list with commas, or nothing for an empty list. -/
def clause (keyword : String) (items : List Fragment) : Fragment :=
  if items.isEmpty then empty else text keyword ++ commaList items

/-- The fragment in parentheses. -/
def parens (a : Fragment) : Fragment := text "(" ++ a ++ text ")"

/-- The fragment in parentheses, if `wrap` asks for them. -/
def parensIf (wrap : Bool) (a : Fragment) : Fragment := if wrap then parens a else a

/-- The fragment, if `keep` asks for it. -/
def when (keep : Bool) (a : Fragment) : Fragment := if keep then a else empty

/-- The text written, a `?` for each argument. -/
def sql (f : Fragment) : String := String.join (f.pieces.map Piece.sql)

/-- The arguments written, in order. -/
def args (f : Fragment) : List Scalar := f.pieces.filterMap Piece.value?

/-- Records the named arguments of pieces, the next argument having
position `index`. -/
def recordPieces : (index : Nat) → List Piece → Names → Names
  | _, [], names => names
  | index, .text _ :: rest, names => recordPieces index rest names
  | index, .arg none _ :: rest, names => recordPieces (index + 1) rest names
  | index, .arg (some name) _ :: rest, names =>
    recordPieces (index + 1) rest (names.record name index)

/-- The positions of the named arguments. -/
def names (f : Fragment) : Names := recordPieces 0 f.pieces []

end Fragment

end SqlCompose
