import SqlCompose.Text.Hex
import SqlCompose.Text.Unprintable
import SqlCompose.Text.Extender

/-!
# Text quoted for a message

A message that quotes a statement puts it between double quotes and
escapes what would end the quotation or could not be seen: the double
quote and the backslash, the four controls with short names, and, by
their code points, all other characters without a glyph or that attach to
the character before them.
-/

namespace SqlCompose.Escape

/-- The escaped form of one character. -/
def char (c : Char) : List Char :=
  if c = '"' then ['\\', '"']
  else if c = '\\' then ['\\', '\\']
  else if c = '\n' then ['\\', 'n']
  else if c = '\r' then ['\\', 'r']
  else if c = '\t' then ['\\', 't']
  else if c.toNat = 0 then ['\\', '0']
  else if 0x20 ≤ c.toNat ∧ c.toNat < 0x7f then [c]
  else if isExtender c || isUnprintable c then
    '\\' :: 'u' :: Char.ofNat 0x7b :: (Hex.ofNatShort c.toNat ++ [Char.ofNat 0x7d])
  else [c]

/-- The text between double quotes. -/
def quote (text : String) : String :=
  "\"" ++ String.ofList (text.toList.flatMap char) ++ "\""

end SqlCompose.Escape
