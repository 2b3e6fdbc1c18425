import SqlCompose.Fragment
import SqlCompose.Placeholder

/-!
# Formats as templates

A format is cut at its places, the single question marks. What stands
before the first place and after each place is written as it is, a
literal question mark staying doubled; an operand goes into each place,
and a place for which no operand is left is written as a question mark.
-/

namespace SqlCompose

/-- A format cut at its places. -/
structure Template where
  head : List Piece
  /-- What follows each place. -/
  tails : List (List Piece)

namespace Template

/-- The text gathered so far, as a piece if there is any. -/
def flush (reversed : List Char) : List Piece :=
  if reversed.isEmpty then [] else [.text (String.ofList reversed.reverse)]

/-- Cuts marks, after some characters that were gathered in reverse. -/
def ofMarks : (reversed : List Char) → List Mark → Template
  | reversed, [] => ⟨flush reversed, []⟩
  | reversed, .char c :: rest => ofMarks (c :: reversed) rest
  | reversed, .question :: rest =>
    let t := ofMarks [] rest
    ⟨flush reversed ++ .text "??" :: t.head, t.tails⟩
  | reversed, .place :: rest =>
    let t := ofMarks [] rest
    ⟨flush reversed, t.head :: t.tails⟩

def ofFormat (format : String) : Template := ofMarks [] (Mark.ofText format)

/-- What is written where operands have run out. -/
def leftover (tails : List (List Piece)) : Fragment :=
  .ofPieces (tails.flatMap fun tail => .text "?" :: tail)

end Template

end SqlCompose
