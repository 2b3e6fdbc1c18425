import SqlCompose.Text.Blank

/-!
# Kinds of statements

The kind of a statement is read off its text. Blanks, comments and opening
parentheses in front of it are skipped, and the first word decides. For a
statement with common table expressions, the word after the last closed
parenthesis decides.

A block comment ends at the first `*/` behind its slash, so that `/*/` is
a comment of its own.
-/

namespace SqlCompose

/-- What a statement does. -/
inductive StatementKind where
  | select
  | insert
  | update
  | delete
  /-- Definitions of data and all else. -/
  | other
  deriving DecidableEq, Repr

namespace StatementKind

def name : StatementKind → String
  | .select => "Select"
  | .insert => "Insert"
  | .update => "Update"
  | .delete => "Delete"
  | .other => "Other"

/-! ## What stands in front of a statement -/

/-- The text behind the first line break; nothing if there is none. -/
def afterLine : List Char → List Char
  | [] => []
  | c :: rest => if c = '\n' then rest else afterLine rest

/-- The text behind the first `*/`; nothing if there is none. -/
def afterBlock : List Char → List Char
  | [] => []
  | '*' :: '/' :: rest => rest
  | _ :: rest => afterBlock rest

theorem length_afterLine_le (s : List Char) : (afterLine s).length ≤ s.length := by
  induction s with
  | nil => simp [afterLine]
  | cons c rest ih =>
      simp only [afterLine]
      split <;> simp only [List.length_cons] <;> omega

theorem length_afterBlock_le (s : List Char) : (afterBlock s).length ≤ s.length := by
  fun_induction afterBlock s <;> simp only [List.length_cons, List.length_nil] <;> omega

/-- The statement without blanks, comments and opening parentheses in
front of it. -/
def skipLead (s : List Char) : List Char :=
  match _found : s.dropWhile isBlank with
  | '-' :: '-' :: rest => skipLead (afterLine rest)
  | '/' :: '*' :: rest => skipLead (afterBlock ('*' :: rest))
  | '(' :: rest => skipLead rest
  | start => start
  termination_by s.length
  decreasing_by
    all_goals
      have bound := (List.dropWhile_suffix isBlank (l := s)).length_le
      rw [_found] at bound
      simp only [List.length_cons] at bound
    · have := length_afterLine_le rest
      omega
    · have := length_afterBlock_le ('*' :: rest)
      simp only [List.length_cons] at this
      omega
    · omega

/-! ## Words -/

/-- The text starts with a word, in letters of either case. -/
def startsWith (word : String) (s : List Char) : Bool :=
  (s.take word.length).map Char.toUpper = word.toList

/-- The text behind the last parenthesis that closes the outermost level,
or `last` if there is none. Parentheses in quotes do not count; a quote
inside quotes is written twice. -/
def behindLevel (depth : Int) (quoted : Bool) (last : List Char) : List Char → List Char
  | [] => last
  | c :: rest =>
    if quoted then
      if c = '\'' then
        match rest with
        | '\'' :: rest' => behindLevel depth true last rest'
        | rest' => behindLevel depth false last rest'
      else behindLevel depth true last rest
    else if c = '\'' then behindLevel depth true last rest
    else if c = '(' then behindLevel (depth + 1) false last rest
    else if c = ')' then
      behindLevel (depth - 1) false (if depth - 1 = 0 then rest else last) rest
    else behindLevel depth false last rest

/-- The kind of a statement that starts with its common table
expressions: one that reads, unless another word follows them. -/
def behindWith (s : List Char) : StatementKind :=
  let rest := (behindLevel 0 false s s).dropWhile isBlank
  if startsWith "INSERT" rest then .insert
  else if startsWith "UPDATE" rest then .update
  else if startsWith "DELETE" rest then .delete
  else .select

/-- The kind of a statement without anything in front of it. -/
def ofStart (s : List Char) : StatementKind :=
  if startsWith "SELECT" s then .select
  else if startsWith "INSERT" s then .insert
  else if startsWith "UPDATE" s then .update
  else if startsWith "DELETE" s then .delete
  else if startsWith "WITH" s then behindWith s
  else .other

/-- The kind of a statement. -/
def ofSql (sql : String) : StatementKind := ofStart (skipLead sql.toList)

end StatementKind

end SqlCompose
