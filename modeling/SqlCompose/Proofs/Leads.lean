import Mathlib.Data.List.DropRight
import Mathlib.Data.List.Infix
import Mathlib.Logic.Function.Iterate
import SqlCompose.Log.StatementKind

/-!
# What stands in front of a statement

The first word of a statement is looked for behind blanks, opening
parentheses and comments, in rounds that each leave out the blanks and one
part behind them. Every round but the last shortens the text, so the search
ends on every text, also where a comment does not (`iterate_leadRound`).

Which texts are left out whole, whatever follows them, depends on where a
block comment ends. The search looks for `*/` from behind the slash of the
opening `/*` on, so that the star of the opening may be that of the end. The
texts left out are exactly the sequences of parts with comments of this kind
(`isLead_iff`). A comment that begins with `/*/` is one of them only by
chance: the search takes `/*/` for all of it, and the rest for the statement
(`comment_cut_short`).
-/

namespace SqlCompose.StatementKind

variable {c : Char} {p s t u : List Char}

/-! ## Ends of comments -/

/-- The end of a block comment stands somewhere in the text. -/
def HasEnd (s : List Char) : Prop := ['*', '/'] <:+: s

instance : DecidablePred HasEnd := fun s => inferInstanceAs (Decidable (['*', '/'] <:+: s))

theorem afterLine_append (within : '\n' ∉ t) (s : List Char) : afterLine (t ++ '\n' :: s) = s := by
  induction t with
  | nil => rfl
  | cons c t ih =>
      obtain ⟨hc, ht⟩ := List.ne_and_not_mem_of_not_mem_cons within
      rw [List.cons_append, afterLine, if_neg (Ne.symm hc), ih ht]

theorem afterLine_of_notMem (within : '\n' ∉ t) : afterLine t = [] := by
  induction t with
  | nil => rfl
  | cons c t ih =>
      obtain ⟨hc, ht⟩ := List.ne_and_not_mem_of_not_mem_cons within
      rw [afterLine, if_neg (Ne.symm hc), ih ht]

theorem afterBlock_cons (here : ¬['*', '/'] <+: c :: s) : afterBlock (c :: s) = afterBlock s := by
  rw [afterBlock]
  rintro rest rfl rfl
  exact here ⟨rest, rfl⟩

/-- The end that is found is the first one. -/
theorem afterBlock_append (within : ¬HasEnd u) (s : List Char) :
    afterBlock (u ++ '*' :: '/' :: s) = s := by
  induction u with
  | nil => rw [List.nil_append, afterBlock]
  | cons c u ih =>
      -- An end that begins here would need its slash from `u`: behind `u` stands a star.
      have here : ¬['*', '/'] <+: c :: (u ++ '*' :: '/' :: s) := by
        cases u with
        | nil => simp
        | cons d u =>
            simp only [List.cons_append, List.cons_prefix_cons, List.nil_prefix, and_true]
            rintro ⟨rfl, rfl⟩
            exact within ⟨[], u, rfl⟩
      rw [List.cons_append, afterBlock_cons here]
      exact ih fun later => within (List.infix_cons later)

theorem afterBlock_of_not_hasEnd (within : ¬HasEnd u) : afterBlock u = [] := by
  induction u with
  | nil => rfl
  | cons c u ih =>
      rw [afterBlock_cons fun here => within here.isInfix]
      exact ih fun later => within (List.infix_cons later)

namespace HasEnd

/-- A text with an end has a first one. -/
theorem exists_first (h : HasEnd s) : ∃ u v, ¬HasEnd u ∧ s = u ++ '*' :: '/' :: v := by
  induction s with
  | nil => cases List.eq_nil_of_infix_nil h
  | cons c s ih =>
      by_cases here : ['*', '/'] <+: c :: s
      · obtain ⟨v, split⟩ := here
        have none : ¬HasEnd [] := fun h => by cases List.eq_nil_of_infix_nil h
        exact ⟨[], v, none, split.symm⟩
      · obtain ⟨u, v, first, rfl⟩ := ih ((List.infix_cons_iff.mp h).resolve_left here)
        refine ⟨c :: u, v, fun earlier => ?_, rfl⟩
        rcases List.infix_cons_iff.mp earlier with begins | inside
        · exact here (begins.trans (List.prefix_append (c :: u) _))
        · exact first inside

theorem of_concat (other : c ≠ '/') (h : HasEnd (s ++ [c])) : HasEnd s := by
  refine (List.infix_concat_iff.mp h).resolve_left fun last => ?_
  obtain none | ⟨t, same, -⟩ := List.suffix_concat_iff.mp last
  · cases none
  · have slash := congrArg List.getLast? same
    rw [List.getLast?_concat] at slash
    exact other (Option.some.inj slash).symm

end HasEnd

/-! ## Rounds of the search -/

/-- One round: blanks, and one comment or parenthesis behind them. -/
def leadRound (s : List Char) : List Char :=
  match s.dropWhile isBlank with
  | '-' :: '-' :: rest => afterLine rest
  | '/' :: '*' :: rest => afterBlock ('*' :: rest)
  | '(' :: rest => rest
  | start => start

theorem skipLead_eq (s : List Char) :
    skipLead s = match s.dropWhile isBlank with
      | '-' :: '-' :: rest => skipLead (afterLine rest)
      | '/' :: '*' :: rest => skipLead (afterBlock ('*' :: rest))
      | '(' :: rest => skipLead rest
      | start => start := by
  rw [skipLead]
  split <;> simp_all

theorem skipLead_dropWhile (s : List Char) : skipLead (s.dropWhile isBlank) = skipLead s := by
  rw [skipLead_eq, skipLead_eq, List.dropWhile_idempotent]

theorem skipLead_blank (blank : isBlank c = true) (s : List Char) :
    skipLead (c :: s) = skipLead s := by
  rw [← skipLead_dropWhile, List.dropWhile_cons_of_pos blank, skipLead_dropWhile]

theorem skipLead_opening (s : List Char) : skipLead ('(' :: s) = skipLead s := by
  rw [skipLead_eq]
  rfl

theorem skipLead_line (s : List Char) : skipLead ('-' :: '-' :: s) = skipLead (afterLine s) := by
  rw [skipLead_eq]
  rfl

theorem skipLead_block (s : List Char) :
    skipLead ('/' :: '*' :: s) = skipLead (afterBlock ('*' :: s)) := by
  rw [skipLead_eq]
  rfl

/-- A comment that runs to the end of its line is left out. -/
theorem skipLead_line_append (within : '\n' ∉ t) (s : List Char) :
    skipLead ('-' :: '-' :: (t ++ '\n' :: s)) = skipLead s := by
  rw [skipLead_line, afterLine_append within]

/-- A comment on a line that does not end takes all the rest. -/
theorem skipLead_line_of_notMem (within : '\n' ∉ t) : skipLead ('-' :: '-' :: t) = [] := by
  rw [skipLead_line, afterLine_of_notMem within, skipLead_eq]
  rfl

/-- A block comment is left out up to its first end behind the slash. -/
theorem skipLead_block_append (within : ¬HasEnd u) (ends : '*' :: t = u ++ '*' :: '/' :: s) :
    skipLead ('/' :: '*' :: t) = skipLead s := by
  rw [skipLead_block, ends, afterBlock_append within]

/-- A block comment that does not end takes all the rest. -/
theorem skipLead_block_of_not_hasEnd (within : ¬HasEnd ('*' :: t)) :
    skipLead ('/' :: '*' :: t) = [] := by
  rw [skipLead_block, afterBlock_of_not_hasEnd within, skipLead_eq]
  rfl

theorem skipLead_eq_dropWhile (line : ∀ rest, s.dropWhile isBlank ≠ '-' :: '-' :: rest)
    (block : ∀ rest, s.dropWhile isBlank ≠ '/' :: '*' :: rest)
    (opening : ∀ rest, s.dropWhile isBlank ≠ '(' :: rest) : skipLead s = s.dropWhile isBlank := by
  rw [skipLead_eq]
  split
  case h_1 rest found => exact absurd found (line rest)
  case h_2 rest found => exact absurd found (block rest)
  case h_3 rest found => exact absurd found (opening rest)
  case h_4 => rfl

theorem skipLead_append (found : p.dropWhile isBlank = c :: t) (s : List Char) :
    skipLead (p ++ s) = skipLead (c :: (t ++ s)) := by
  rw [← skipLead_dropWhile, List.dropWhile_append, found]
  rfl

theorem skipLead_leadRound (s : List Char) : skipLead (leadRound s) = skipLead s := by
  rw [← skipLead_dropWhile s, leadRound]
  split
  case h_1 rest found => rw [found, skipLead_line]
  case h_2 rest found => rw [found, skipLead_block]
  case h_3 rest found => rw [found, skipLead_opening]
  case h_4 => rfl

/-- Either a round leaves out more than blanks, or it is the last one. -/
theorem leadRound_cases (s : List Char) :
    (leadRound s).length < s.length ∨ leadRound s = skipLead s ∧ leadRound s <:+ s := by
  have behind := List.dropWhile_suffix isBlank (l := s)
  have bound := behind.length_le
  rw [leadRound, skipLead_eq]
  split
  case h_1 rest found =>
    rw [found, List.length_cons, List.length_cons] at bound
    have := length_afterLine_le rest
    exact .inl (by omega)
  case h_2 rest found =>
    rw [found, List.length_cons, List.length_cons] at bound
    have shorter := length_afterBlock_le ('*' :: rest)
    rw [List.length_cons] at shorter
    exact .inl (by omega)
  case h_3 rest found =>
    rw [found, List.length_cons] at bound
    exact .inl (by omega)
  case h_4 => exact .inr ⟨rfl, behind⟩

/-- A round that changes anything leaves a shorter text. -/
theorem length_leadRound_lt (changed : leadRound s ≠ s) : (leadRound s).length < s.length := by
  rcases leadRound_cases s with shorter | ⟨-, behind⟩
  · exact shorter
  · exact Nat.lt_of_le_of_ne behind.length_le fun same => changed (behind.eq_of_length same)

theorem skipLead_of_fixed (fixed : leadRound s = s) : skipLead s = s := by
  rcases leadRound_cases s with shorter | ⟨last, -⟩
  · rw [fixed] at shorter
    exact absurd shorter (Nat.lt_irrefl _)
  · rw [← last, fixed]

/-- No more rounds change a text than it has characters, and they leave what
the search gives. -/
theorem iterate_leadRound {n : Nat} (enough : s.length ≤ n) : leadRound^[n] s = skipLead s := by
  induction n generalizing s with
  | zero =>
      obtain rfl := List.eq_nil_of_length_eq_zero (Nat.le_zero.mp enough)
      exact (skipLead_of_fixed rfl).symm
  | succ n ih =>
      rw [Function.iterate_succ_apply]
      by_cases fixed : leadRound s = s
      · rw [fixed, Function.iterate_fixed fixed, skipLead_of_fixed fixed]
      · have shorter := length_leadRound_lt fixed
        rw [ih (by omega), skipLead_leadRound]

/-- The search ends where a further round would change nothing. -/
theorem leadRound_skipLead (s : List Char) : leadRound (skipLead s) = skipLead s := by
  have last := iterate_leadRound (Nat.le_succ s.length)
  rwa [Function.iterate_succ_apply', iterate_leadRound (Nat.le_refl _)] at last

/-! ## Leads -/

/-- A sequence of blanks, opening parentheses, comments up to the end of a
line and block comments. Which texts are block comments is left open. -/
inductive IsLead (IsBlock : List Char → Prop) : List Char → Prop
  | nil : IsLead IsBlock []
  | blank {c : Char} {p : List Char} : isBlank c = true → IsLead IsBlock p → IsLead IsBlock (c :: p)
  | opening {p : List Char} : IsLead IsBlock p → IsLead IsBlock ('(' :: p)
  | line {t p : List Char} : '\n' ∉ t → IsLead IsBlock p →
      IsLead IsBlock ('-' :: '-' :: (t ++ '\n' :: p))
  | block {b p : List Char} : IsBlock b → IsLead IsBlock p → IsLead IsBlock (b ++ p)

/-- A block comment: it ends at the first `*/` behind its opening `/*`. -/
def IsBlockComment (b : List Char) : Prop :=
  ∃ t, ¬HasEnd t ∧ b = '/' :: '*' :: (t ++ ['*', '/'])

/-- What is left out as a block comment: it ends at the first `*/` behind the
slash of its opening `/*`. -/
def IsSkippedBlock (b : List Char) : Prop :=
  ∃ t u, ¬HasEnd u ∧ '*' :: t = u ++ ['*', '/'] ∧ b = '/' :: '*' :: t

/-- The two ends of a comment are the same if it does not begin with `/*/`. -/
theorem IsBlockComment.isSkippedBlock {b : List Char} (h : IsBlockComment b)
    (apart : ¬['/', '*', '/'] <+: b) : IsSkippedBlock b := by
  obtain ⟨t, within, rfl⟩ := h
  refine ⟨t ++ ['*', '/'], '*' :: t, fun ends => ?_, rfl, rfl⟩
  rcases List.infix_cons_iff.mp ends with ⟨v, early⟩ | inside
  · obtain rfl := (List.cons.inj early).2
    exact apart ⟨v ++ ['*', '/'], rfl⟩
  · exact within inside

namespace IsLead

theorem mono {P Q : List Char → Prop} (imp : ∀ b, P b → Q b) (h : IsLead P p) : IsLead Q p := by
  induction h with
  | nil => exact .nil
  | blank hc _ ih => exact .blank hc ih
  | opening _ ih => exact .opening ih
  | line ht _ ih => exact .line ht ih
  | block hb _ ih => exact .block (imp _ hb) ih

theorem of_dropWhile {P : List Char → Prop} (h : IsLead P (p.dropWhile isBlank)) : IsLead P p := by
  induction p with
  | nil => exact .nil
  | cons c p ih =>
      by_cases blank : isBlank c = true
      · rw [List.dropWhile_cons_of_pos blank] at h
        exact .blank blank (ih h)
      · rwa [List.dropWhile_cons_of_neg blank] at h

theorem of_end {rest v : List Char} (within : ¬HasEnd u) (ends : '*' :: rest = u ++ '*' :: '/' :: v)
    (h : IsLead IsSkippedBlock v) : IsLead IsSkippedBlock ('/' :: '*' :: rest) := by
  obtain ⟨t, first⟩ : ∃ t, '*' :: t = u ++ ['*', '/'] := by
    cases u with
    | nil => exact ⟨['/'], rfl⟩
    | cons d u =>
        obtain ⟨rfl, -⟩ := List.cons.inj ends
        exact ⟨u ++ ['*', '/'], rfl⟩
  have whole : '*' :: rest = '*' :: t ++ v := by
    rw [ends, first, List.append_assoc]
    rfl
  rw [(List.cons.inj whole).2]
  exact .block ⟨t, u, within, first, rfl⟩ h

/-- Whatever stands behind a lead is found as if it stood alone. -/
theorem skipLead_eq (h : IsLead IsSkippedBlock p) (s : List Char) :
    skipLead (p ++ s) = skipLead s := by
  induction h with
  | nil => rfl
  | blank hc _ ih => rw [List.cons_append, skipLead_blank hc, ih]
  | opening _ ih => rw [List.cons_append, skipLead_opening, ih]
  | @line t p within _ ih =>
      have rest : t ++ '\n' :: p ++ s = t ++ '\n' :: (p ++ s) := List.append_assoc t ('\n' :: p) s
      rw [List.cons_append, List.cons_append, rest, skipLead_line_append within, ih]
  | @block b p hb _ ih =>
      obtain ⟨t, u, within, ends, rfl⟩ := hb
      have rest : '*' :: (t ++ (p ++ s)) = u ++ '*' :: '/' :: (p ++ s) := by
        rw [← List.cons_append, ends, List.append_assoc]
        rfl
      rw [List.append_assoc, List.cons_append, List.cons_append,
        skipLead_block_append within rest, ih]

end IsLead

theorem ne_of_concat {a b x : Char} (apart : ∀ rest, c :: t ≠ a :: b :: rest) (other : x ≠ b)
    (rest : List Char) : c :: (t ++ [x]) ≠ a :: b :: rest := by
  intro same
  cases t with
  | nil => exact other (List.cons.inj (List.cons.inj same).2).1
  | cons d t =>
      obtain ⟨first, same⟩ := List.cons.inj same
      obtain ⟨second, -⟩ := List.cons.inj same
      exact apart t (by rw [first, second])

/-- A letter behind what is no part of a lead does not make it one. -/
theorem skipLead_concat (found : p.dropWhile isBlank = c :: t)
    (line : ∀ rest, c :: t ≠ '-' :: '-' :: rest) (block : ∀ rest, c :: t ≠ '/' :: '*' :: rest)
    (opening : ∀ rest, c :: t ≠ '(' :: rest) : skipLead (p ++ ['x']) = c :: (t ++ ['x']) := by
  have start : (p ++ ['x']).dropWhile isBlank = c :: (t ++ ['x']) := by
    rw [List.dropWhile_append, found]
    rfl
  rw [← start]
  refine skipLead_eq_dropWhile ?line ?block ?opening <;> rw [start]
  case line => exact ne_of_concat line (by decide)
  case block => exact ne_of_concat block (by decide)
  case opening =>
    intro rest same
    obtain ⟨rfl, -⟩ := List.cons.inj same
    exact opening t rfl

/-- A text that is left out in front of a letter is a lead. Each round takes
one part of it away: the letter would be lost in a comment that does not end,
and anything else would stay in front of it. -/
theorem isLead_of_skipLead (h : skipLead (p ++ ['x']) = ['x']) : IsLead IsSkippedBlock p := by
  induction p using skipLead.induct with
  | case1 p rest found ih =>
      refine .of_dropWhile ?_
      rw [skipLead_append found, List.cons_append] at h
      rw [found]
      by_cases ends : '\n' ∈ rest
      · obtain ⟨t, v, rfl, within⟩ := List.eq_append_cons_of_mem ends
        rw [List.append_assoc, List.cons_append, skipLead_line_append within] at h
        rw [afterLine_append within] at ih
        exact .line within (ih h)
      · have never : '\n' ∉ rest ++ ['x'] := by simpa using ends
        rw [skipLead_line_of_notMem never] at h
        cases h
  | case2 p rest found ih =>
      refine .of_dropWhile ?_
      rw [skipLead_append found, List.cons_append] at h
      rw [found]
      by_cases ends : HasEnd ('*' :: rest)
      · obtain ⟨u, v, within, split⟩ := ends.exists_first
        have split' : '*' :: (rest ++ ['x']) = u ++ '*' :: '/' :: (v ++ ['x']) := by
          rw [← List.cons_append, split, List.append_assoc]
          rfl
        rw [skipLead_block_append within split'] at h
        rw [split, afterBlock_append within] at ih
        exact .of_end within split (ih h)
      · have never : ¬HasEnd ('*' :: (rest ++ ['x'])) := fun later =>
          ends (HasEnd.of_concat (c := 'x') (by decide) later)
        rw [skipLead_block_of_not_hasEnd never] at h
        cases h
  | case3 p rest found ih =>
      refine .of_dropWhile ?_
      rw [skipLead_append found, skipLead_opening] at h
      rw [found]
      exact .opening (ih h)
  | case4 p line block opening =>
      refine .of_dropWhile ?_
      cases found : p.dropWhile isBlank with
      | nil => exact .nil
      | cons c t =>
          rw [found] at line block opening
          rw [skipLead_concat found line block opening] at h
          cases (List.append_eq_nil_iff.mp (List.cons.inj h).2).2

/-- The texts that are left out whole, whatever follows them, are the leads. -/
theorem isLead_iff : IsLead IsSkippedBlock p ↔ ∀ s, skipLead (p ++ s) = skipLead s := by
  refine ⟨IsLead.skipLead_eq, fun h => isLead_of_skipLead ?_⟩
  rw [h ['x']]
  exact skipLead_of_fixed rfl

/-- A text in front of a statement is left out, whatever the statement is,
exactly if it consists of blanks, opening parentheses, comments up to the end of
a line and block comments that end at the first `*/` behind their slash; the kind
of the statement is then the same with it as without it. Any sequence of these
parts and of block comments that end at the first `*/` behind their opening is
such a text, if none of the comments begins with `/*/`. And on every text the
search has ended, at the latest, after as many rounds as the text has
characters. -/
theorem leads_skipped (p : String) :
    (IsLead IsSkippedBlock p.toList ↔
      ∀ s : String, skipLead (p ++ s).toList = skipLead s.toList) ∧
    (IsLead IsSkippedBlock p.toList → ∀ s : String, ofSql (p ++ s) = ofSql s) ∧
    (IsLead (fun b => IsBlockComment b ∧ ¬['/', '*', '/'] <+: b) p.toList →
      IsLead IsSkippedBlock p.toList) ∧
    ∀ s : String, let start := skipLead s.toList
      leadRound^[s.length] s.toList = start ∧ leadRound start = start := by
  refine ⟨?whole, ?kind, ?comments, ?ends⟩
  case whole =>
    rw [isLead_iff]
    refine ⟨fun h s => ?_, fun h s => ?_⟩
    · rw [String.toList_append, h]
    · rw [← String.toList_ofList (l := s), ← String.toList_append, h]
  case kind =>
    intro lead s
    rw [ofSql, ofSql, String.toList_append, lead.skipLead_eq]
  case comments => exact IsLead.mono fun b h => h.1.isSkippedBlock h.2
  case ends =>
    intro s start
    exact ⟨iterate_leadRound (Nat.le_of_eq String.length_toList), leadRound_skipLead s.toList⟩

/-- Comments of both kinds and a parenthesis in front of an update. -/
theorem leads_skipped_mixed :
    let p := "/** a * / **/ (-- b */\n"
    IsLead (fun b => IsBlockComment b ∧ ¬['/', '*', '/'] <+: b) p.toList ∧
      skipLead (p ++ " UPDATE t").toList = skipLead " UPDATE t".toList ∧
      ofSql (p ++ " UPDATE t") = ofSql " UPDATE t" := by
  intro p
  have lead : IsLead (fun b => IsBlockComment b ∧ ¬['/', '*', '/'] <+: b) p.toList := by
    have parts : p.toList = "/** a * / **/".toList ++ " (-- b */\n".toList := by decide
    rw [parts]
    refine .block ⟨⟨"* a * / *".toList, by decide, rfl⟩, by decide⟩ ?_
    exact .blank (c := ' ') rfl (.opening (.line (t := " b */".toList) (by decide) .nil))
  obtain ⟨whole, kind, comments, -⟩ := leads_skipped p
  exact ⟨lead, whole.mp (comments lead) _, kind (comments lead) _⟩

/-- A block comment that begins with `/*/` is left out only up to there. -/
theorem comment_cut_short :
    IsLead IsBlockComment "/*/ a */ ".toList ∧
      skipLead ("/*/ a */ " ++ "SELECT 1").toList = "a */ SELECT 1".toList ∧
      skipLead "SELECT 1".toList = "SELECT 1".toList ∧
      ofSql ("/*/ a */ " ++ "SELECT 1") = .other ∧ ofSql "SELECT 1" = .select := by
  have comment : IsLead IsBlockComment "/*/ a */ ".toList :=
    .block (b := "/*/ a */".toList) ⟨"/ a ".toList, by decide, rfl⟩ (.blank (by decide) .nil)
  have cut : IsLead IsSkippedBlock "/*/ ".toList :=
    .block (b := "/*/".toList) ⟨['/'], [], by decide, rfl, rfl⟩ (.blank (by decide) .nil)
  have left : skipLead ("/*/ a */ " ++ "SELECT 1").toList = "a */ SELECT 1".toList :=
    (cut.skipLead_eq "a */ SELECT 1".toList).trans (skipLead_of_fixed (by decide))
  have alone : skipLead "SELECT 1".toList = "SELECT 1".toList := skipLead_of_fixed (by decide)
  refine ⟨comment, left, alone, ?_, ?_⟩
  · rw [ofSql, left]
    decide
  · rw [ofSql, alone]
    decide

end SqlCompose.StatementKind
