/-!
# Cutting long statements

A log shows at most a given number of bytes of a statement, and marks a cut
with three dots. It never cuts inside a character: where the limit lies in
one, the cut is the last place before it that lies between two.
-/

namespace SqlCompose.Cut

/-- The last place between two characters at or before an offset in bytes,
looked for backwards from there. -/
def lastPlace (text : String) : (offset : Nat) → text.Pos
  | 0 => text.startPos
  | offset + 1 =>
    if between : String.Pos.Raw.IsValid text ⟨offset + 1⟩ then ⟨⟨offset + 1⟩, between⟩
    else lastPlace text offset

/-- The characters from the start of a text that fit into a number of
bytes. -/
def fitting (text : String) (bytes : Nat) : String :=
  if text.utf8ByteSize ≤ bytes then text
  else text.extract text.startPos (lastPlace text bytes)

/-- A text of at most `limit` bytes as it is, and a cut with three dots of
a longer one. -/
def shorten (limit? : Option Nat) (text : String) : String :=
  match limit? with
  | none => text
  | some limit => if limit < text.utf8ByteSize then fitting text limit ++ "..." else text

end SqlCompose.Cut
