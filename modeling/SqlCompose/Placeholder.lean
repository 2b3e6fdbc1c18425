import SqlCompose.Dialect
import SqlCompose.Error
import SqlCompose.Scalar
import SqlCompose.Text.Escape

/-!
# Placeholders

Statement text marks the place of an argument with `?`, and a literal
question mark is written twice. Texts of this style are seen as a
sequence of marks (`Mark.ofText`): single characters, literal question
marks and places of arguments, in which a run of question marks is paired
from its left end.

The numbered style has `$1`, `$2`, ... instead, with question marks
standing for themselves. `numbered` turns the first style into the
second. Both can have their arguments written into the text
(`inlineMarks`, `inlineNumbered`).
-/

namespace SqlCompose

/-- A part of a text with `?` placeholders. -/
inductive Mark where
  | char (c : Char)
  /-- A literal question mark, written `??`. -/
  | question
  /-- The place of an argument, written `?`. -/
  | place
  deriving DecidableEq, Repr

namespace Mark

/-- The marks of a text, in order. -/
def ofChars : List Char → List Mark
  | [] => []
  | '?' :: '?' :: rest => question :: ofChars rest
  | c :: rest => (if c = '?' then place else char c) :: ofChars rest

def ofText (sql : String) : List Mark := ofChars sql.toList

/-- The number of places. -/
def places (marks : List Mark) : Nat := marks.countP (· == place)

end Mark

/-- A part of a text with numbered placeholders. -/
inductive NumberedMark where
  | char (c : Char)
  /-- A placeholder, by the digits after its `$`. -/
  | place (digits : List Char)
  deriving DecidableEq, Repr

namespace NumberedMark

/-- A `$` with the digits that follow it; without any it is an ordinary
character. -/
def close : List Char → NumberedMark
  | [] => char '$'
  | digits => place digits

/-- The marks of a text, in order; `some digits` after a `$` and these
digits. -/
def ofChars : (pending : Option (List Char)) → List Char → List NumberedMark
  | none, [] => []
  | some digits, [] => [close digits]
  | none, c :: rest => if c = '$' then ofChars (some []) rest else char c :: ofChars none rest
  | some digits, c :: rest =>
    if c.isDigit then ofChars (some (digits ++ [c])) rest
    else if c = '$' then close digits :: ofChars (some []) rest
    else close digits :: char c :: ofChars none rest

def ofText (sql : String) : List NumberedMark := ofChars none sql.toList

/-- A placeholder, not a character. -/
def isPlace : NumberedMark → Bool
  | place _ => true
  | char _ => false

/-- The number of placeholders. -/
def places (marks : List NumberedMark) : Nat := marks.countP isPlace

end NumberedMark

namespace Placeholder

/-- Writes marks in the numbered style, the next place having number
`n + 1`. -/
def numberedFrom : (n : Nat) → List Mark → List Char
  | _, [] => []
  | n, .char c :: rest => c :: numberedFrom n rest
  | n, .question :: rest => '?' :: numberedFrom n rest
  | n, .place :: rest => '$' :: ((n + 1).repr.toList ++ numberedFrom (n + 1) rest)

/-- The text in the numbered style. -/
def numbered (sql : String) : String := String.ofList (numberedFrom 0 (Mark.ofText sql))

/-- The parts in which marks are written in the numbered style, the next place
having number `n + 1`: single characters, and the digits of a number. -/
def numberedParts : (n : Nat) → List Mark → List String
  | _, [] => []
  | n, .char c :: rest => String.singleton c :: numberedParts n rest
  | n, .question :: rest => "?" :: numberedParts n rest
  | n, .place :: rest => "$" :: (n + 1).repr :: numberedParts (n + 1) rest

/-- What went wrong when arguments were written into marks. -/
inductive Mismatch where
  | tooFew
  | tooMany
  deriving DecidableEq, Repr

/-- Writes one argument at each place. -/
def inlineMarks : List Mark → List Scalar → Except Mismatch (List Char)
  | [], [] => .ok []
  | [], _ :: _ => .error .tooMany
  | .char c :: rest, args => (inlineMarks rest args).map (c :: ·)
  | .question :: rest, args => (inlineMarks rest args).map ('?' :: ·)
  | .place :: _, [] => .error .tooFew
  | .place :: rest, arg :: args => (inlineMarks rest args).map (arg.literal.toList ++ ·)

/-- The text with its arguments written at the `?` places. -/
def inlineQuestion (sql : String) (args : List Scalar) : Except Error String :=
  match inlineMarks (Mark.ofText sql) args with
  | .ok text => .ok (String.ofList text)
  | .error .tooFew =>
    .error (.build ("too few arguments (" ++ args.length.repr ++ ") for placeholders in " ++
      Escape.quote sql))
  | .error .tooMany =>
    .error (.build ("too many arguments (" ++ args.length.repr ++ ") for placeholders in " ++
      Escape.quote sql))

/-- The number that digits write, if it fits a word of 64 bits. -/
def word? (digits : List Char) : Option Nat :=
  let n := digits.foldl (fun n c => n * 10 + (c.toNat - '0'.toNat)) 0
  if n < UInt64.size then some n else none

/-- Why a numbered placeholder has no argument. -/
inductive Unbound where
  | tooLarge
  | missing (index : Nat)
  deriving DecidableEq, Repr

/-- Writes the argument of its number at each placeholder. -/
def inlineNumberedMarks (args : List Scalar) : List NumberedMark → Except Unbound (List Char)
  | [] => .ok []
  | .char c :: rest => (inlineNumberedMarks args rest).map (c :: ·)
  | .place digits :: rest =>
    match word? digits with
    | none => .error .tooLarge
    | some index =>
      match if index = 0 then none else args[index - 1]? with
      | none => .error (.missing index)
      | some arg => (inlineNumberedMarks args rest).map (arg.literal.toList ++ ·)

/-- The text with its arguments written at the numbered placeholders. -/
def inlineNumbered (sql : String) (args : List Scalar) : Except Error String :=
  match inlineNumberedMarks args (NumberedMark.ofText sql) with
  | .ok text => .ok (String.ofList text)
  | .error .tooLarge => .error (.build ("invalid placeholder in " ++ Escape.quote sql))
  | .error (.missing index) =>
    .error (.build ("placeholder $" ++ index.repr ++ " has no argument (" ++
      args.length.repr ++ " given)"))

/-- The text with its arguments written in, in the style of the dialect. -/
def inline (d : Dialect) (sql : String) (args : List Scalar) : Except Error String :=
  if d.isNumbered then inlineNumbered sql args else inlineQuestion sql args

/-- The number of placeholders, in the style of the dialect. -/
def count (d : Dialect) (sql : String) : Nat :=
  if d.isNumbered then NumberedMark.places (NumberedMark.ofText sql)
  else Mark.places (Mark.ofText sql)

end Placeholder

end SqlCompose
