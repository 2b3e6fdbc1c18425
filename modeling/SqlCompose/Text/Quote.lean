/-!
# Quoted literals

A quoted literal stands between single quotes, and a quote inside is
written twice. Nothing else is changed, so the literal ends at the first
quote that is not followed by another one.
-/

namespace SqlCompose.Quote

/-- The inside of a literal: each quote twice, all else once. -/
def double : List Char → List Char
  | [] => []
  | c :: rest => if c = '\'' then '\'' :: '\'' :: double rest else c :: double rest

/-- The literal of a text. -/
def literal (text : List Char) : List Char := '\'' :: (double text ++ ['\''])

end SqlCompose.Quote
