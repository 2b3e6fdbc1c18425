import SqlCompose.Proofs.Clauses

/-!
# Dangling words

What the words of a condition ask for: a keyword and a `NOT` ask for a
condition behind them, an `AND` and an `OR` for one on each side, and
parentheses for something between them. A clause without conditions is left
out with its keyword, and a group without members has no text.

Only the outermost conditions are counted, however. A group without members
inside of another one leaves a gap in the text, and the word before it
dangles. So no word of a clause dangles exactly if each group in it, at any
depth, has a member (`Predicate.noneDangles_words`): the words of such a tree
are a phrase, and where a group is empty a gap is found by going down to it.
-/

namespace SqlCompose

open Fragment

/-! ## Words and what they ask for -/

namespace Token

variable {α : Type}

/-- Words that say something: atoms, negated, in parentheses or joined. -/
inductive IsPhrase : List (Token α) → Prop where
  | atom (a : α) : IsPhrase [.atom a]
  | not {ts : List (Token α)} (h : IsPhrase ts) : IsPhrase (.not :: ts)
  | parens {ts : List (Token α)} (h : IsPhrase ts) : IsPhrase (.opening :: ts ++ [.closing])
  | join {ts us : List (Token α)} (op : LogicalOp) (h : IsPhrase ts) (h' : IsPhrase us) :
    IsPhrase (ts ++ .op op :: us)

/-- The words begin with a phrase. -/
def BeginsPhrase (ts : List (Token α)) : Prop :=
  ∃ phrase rest, IsPhrase phrase ∧ ts = phrase ++ rest

/-- The words end with a phrase. -/
def EndsPhrase (ts : List (Token α)) : Prop :=
  ∃ rest phrase, IsPhrase phrase ∧ ts = rest ++ phrase

/-- A word has what it asks for in the words before and behind it. -/
def Fits (before after : List (Token α)) : Token α → Prop
  | .atom _ => True
  | .not => BeginsPhrase after
  | .op _ => EndsPhrase before ∧ BeginsPhrase after
  | .opening => after.head? ≠ some .closing
  | .closing => True

/-- Each of the words has what it asks for, behind others. -/
def AllFit : (before ts : List (Token α)) → Prop
  | _, [] => True
  | before, t :: after => t.Fits before after ∧ AllFit (before ++ [t]) after

/-- No word of a clause dangles, nor does the keyword before them. -/
def NoneDangles (ts : List (Token α)) : Prop := BeginsPhrase ts ∧ AllFit [] ts

variable {before after ts us : List (Token α)}

theorem IsPhrase.begins (h : IsPhrase ts) (after : List (Token α)) : BeginsPhrase (ts ++ after) :=
  ⟨ts, after, h, rfl⟩

theorem IsPhrase.ends (before : List (Token α)) (h : IsPhrase ts) : EndsPhrase (before ++ ts) :=
  ⟨before, ts, h, rfl⟩

theorem AllFit.at {t : Token α} (h : AllFit before (us ++ t :: after)) :
    t.Fits (before ++ us) after := by
  induction us generalizing before with
  | nil => exact (List.append_nil before).symm ▸ h.1
  | cons u us ih =>
      have rest := ih h.2
      rwa [List.append_assoc] at rest

/-! ## Ends of a phrase -/

/-- Something has to follow. -/
def asks : Token α → Bool
  | .not => true
  | .op _ => true
  | .opening => true
  | .atom _ => false
  | .closing => false

/-- Something has to stand before. -/
def closes : Token α → Bool
  | .op _ => true
  | .closing => true
  | .atom _ => false
  | .not => false
  | .opening => false

theorem IsPhrase.head (h : IsPhrase ts) : ∃ t rest, ts = t :: rest ∧ t.closes = false := by
  induction h with
  | atom a => exact ⟨.atom a, [], rfl, rfl⟩
  | not _ _ => exact ⟨.not, _, rfl, rfl⟩
  | parens _ _ => exact ⟨.opening, _, rfl, rfl⟩
  | join op _ _ ih _ =>
      obtain ⟨t, rest, rfl, first⟩ := ih
      exact ⟨t, _, rfl, first⟩

theorem IsPhrase.last (h : IsPhrase ts) : ∃ rest t, ts = rest ++ [t] ∧ t.asks = false := by
  induction h with
  | atom a => exact ⟨[], .atom a, rfl, rfl⟩
  | not _ ih =>
      obtain ⟨rest, t, rfl, last⟩ := ih
      exact ⟨.not :: rest, t, rfl, last⟩
  | @parens ts _ _ => exact ⟨.opening :: ts, .closing, rfl, rfl⟩
  | @join ts _ op _ _ _ ih =>
      obtain ⟨rest, t, rfl, last⟩ := ih
      exact ⟨ts ++ .op op :: rest, t, by simp, last⟩

/-- A phrase fits between words that fit around it. -/
theorem IsPhrase.allFit (h : IsPhrase ts) :
    ∀ before after, AllFit (before ++ ts) after → AllFit before (ts ++ after) := by
  induction h with
  | atom a => exact fun _ _ rest => ⟨trivial, rest⟩
  | @not ts h ih =>
      intro before after rest
      refine ⟨h.begins after, ih _ after ?_⟩
      rwa [List.append_assoc]
  | @parens ts h ih =>
      intro before after rest
      obtain ⟨t, us, rfl, first⟩ := h.head
      rw [List.cons_append, List.cons_append, List.append_assoc]
      refine ⟨?_, ih _ _ ⟨trivial, ?_⟩⟩
      · intro closing
        obtain rfl := Option.some.inj closing
        cases first
      · simpa using rest
  | @join ts us op h h' ih ih' =>
      intro before after rest
      rw [List.append_assoc]
      refine ih _ _ ⟨⟨h.ends before, h'.begins after⟩, ih' _ _ ?_⟩
      simpa using rest

theorem IsPhrase.noneDangles (h : IsPhrase ts) : NoneDangles ts := by
  have all := h.allFit [] [] trivial
  have begins := h.begins []
  rw [List.append_nil] at all begins
  exact ⟨begins, all⟩

/-! ## Gaps -/

/-- Between the words something is asked for and nothing stands there. An
opening parenthesis is closed. -/
structure Gap (before after : List (Token α)) : Prop where
  asks : ∀ t ∈ before.getLast?, t.asks = true
  closes : ∀ t ∈ after.head?, t.closes = true
  closed : before.getLast? = some .opening → after ≠ []

theorem Gap.not_begins (h : Gap before after) : ¬BeginsPhrase after := by
  rintro ⟨phrase, rest, isPhrase, rfl⟩
  obtain ⟨t, us, rfl, first⟩ := isPhrase.head
  exact absurd (h.closes t rfl) (by rw [first]; nofun)

/-- The word before a gap dangles. -/
theorem Gap.dangles (h : Gap before after) : ¬NoneDangles (before ++ after) := by
  rintro ⟨begins, all⟩
  rcases List.eq_nil_or_concat before with rfl | ⟨us, t, rfl⟩
  · exact h.not_begins begins
  · rw [List.concat_eq_append] at h all
    rw [List.append_assoc] at all
    have fits := all.at
    have asked := h.asks t (by simp)
    cases t with
    | atom a => cases asked
    | closing => cases asked
    | not => exact h.not_begins fits
    | op o => exact h.not_begins fits.2
    | opening =>
        -- What follows is no closing parenthesis, and an operator has nothing before it.
        obtain ⟨u, rest, rfl⟩ := List.exists_cons_of_ne_nil (h.closed (by simp))
        have closing := h.closes u rfl
        cases u with
        | closing => exact fits rfl
        | op o =>
            have here : AllFit [] ((us ++ [.opening]) ++ .op o :: rest) := by
              rwa [List.append_assoc]
            obtain ⟨words, phrase, isPhrase, split⟩ := here.at.1
            obtain ⟨ws, t, rfl, last⟩ := isPhrase.last
            rw [List.nil_append, ← List.append_assoc] at split
            obtain rfl := List.singleton_inj.mp (List.append_inj' split rfl).2
            cases last
        | atom a => cases closing
        | not => cases closing
        | opening => cases closing

/-! ## Putting words together -/

/-- The word before a negated condition. -/
def negation (negated : Bool) : List (Token α) := if negated then [.not] else []

/-- The words in parentheses, if `wrap` asks for them. -/
def wrapped (wrap : Bool) (ts : List (Token α)) : List (Token α) :=
  if wrap then .opening :: ts ++ [.closing] else ts

/-- Members with the operator of their group between them. -/
def joined (op : LogicalOp) : List (List (Token α)) → List (Token α)
  | [] => []
  | [ts] => ts
  | ts :: rest => ts ++ .op op :: joined op rest

theorem IsPhrase.negation (negated : Bool) (h : IsPhrase ts) :
    IsPhrase (negation negated ++ ts) := by
  cases negated with
  | false => exact h
  | true => exact h.not

theorem IsPhrase.wrapped (wrap : Bool) (h : IsPhrase ts) : IsPhrase (wrapped wrap ts) := by
  cases wrap with
  | false => exact h
  | true => exact h.parens

theorem isPhrase_joined (op : LogicalOp) : ∀ {members : List (List (Token α))}, members ≠ [] →
    (∀ ts ∈ members, IsPhrase ts) → IsPhrase (joined op members)
  | [], nonempty, _ => absurd rfl nonempty
  | [ts], _, h => h ts List.mem_cons_self
  | ts :: us :: rest, _, h => by
      obtain ⟨first, others⟩ := List.forall_mem_cons.mp h
      exact first.join op (isPhrase_joined op (List.cons_ne_nil us rest) others)

/-- A gap is still one in the parentheses around it, which a negation
needs. -/
theorem Gap.wrapped (h : Gap before after) (negated wrap : Bool)
    (needed : negated = true → wrap = true) :
    ∃ before' after', Gap before' after' ∧ ∀ ts,
      before ++ (Token.negation negated ++ Token.wrapped wrap ts) ++ after =
        before' ++ ts ++ after' := by
  cases wrap with
  | false =>
      cases negated with
      | true => cases needed rfl
      | false => exact ⟨before, after, h, fun _ => rfl⟩
  | true =>
      refine ⟨before ++ Token.negation negated ++ [.opening], .closing :: after,
        ⟨?_, ?_, nofun⟩, ?_⟩
      · intro t last
        rw [List.getLast?_concat] at last
        obtain rfl := Option.some.inj last
        rfl
      · intro t head
        obtain rfl := Option.some.inj head
        rfl
      · intro ts
        simp [Token.wrapped]

variable {excluded : List String}

theorem spell_negation (negated : Bool) : spell excluded (negation negated) = notSql negated := by
  cases negated with
  | false => rfl
  | true => exact append_empty _

theorem spell_wrapped (wrap : Bool) (ts : List (Token Predicate)) :
    spell excluded (wrapped wrap ts) = parensIf wrap (spell excluded ts) := by
  cases wrap with
  | false => rfl
  | true => exact spell_parens ts

theorem spell_joined (op : LogicalOp) : ∀ members : List (List (Token Predicate)),
    spell excluded (joined op members) = sepBy op.separator (members.map (spell excluded))
  | [] => rfl
  | [_] => rfl
  | ts :: us :: rest => by
      rw [joined, spell_append, spell_cons, spell_joined op (us :: rest), ← append_assoc]
      · rfl
      · nofun

end Token

/-! ## The words of a condition -/

open Token hiding op not

mutual

/-- The words of a condition, its leaves being words of their own. -/
def Predicate.words : (p : Predicate) → (only : Bool) → List (Token Predicate)
  | .custom aliasName format operands negated, _ =>
    negation negated ++ [.atom (.custom aliasName format operands false)]
  | .group toplevel _ op members negated, only =>
    match members with
    | [] => []
    | [p] =>
      negation negated ++
        wrapped (p.isGroup && (negated || !(toplevel || only))) (p.words true)
    | p :: q :: rest =>
      negation negated ++
        wrapped (negated || !(toplevel || only))
          (joined op (p.words false :: q.words false :: wordsOf rest))
  | .boolean f, _ => negation f.isNegated ++ [.atom (.boolean f.positive)]
termination_by structural p => p

def wordsOf : List Predicate → List (List (Token Predicate))
  | [] => []
  | p :: rest => p.words false :: wordsOf rest
termination_by structural ps => ps

end

mutual

/-- Each group has a member, at any depth. -/
def Predicate.isFull : Predicate → Bool
  | .custom .. => true
  | .group _ _ _ members _ => !members.isEmpty && areFull members
  | .boolean _ => true
termination_by structural p => p

def areFull : List Predicate → Bool
  | [] => true
  | p :: rest => p.isFull && areFull rest
termination_by structural ps => ps

end

theorem areFull_iff : ∀ ps : List Predicate, areFull ps = true ↔ ∀ p ∈ ps, p.isFull = true
  | [] => ⟨nofun, fun _ => rfl⟩
  | p :: ps => by rw [areFull, Bool.and_eq_true, areFull_iff ps, List.forall_mem_cons]

namespace Predicate

mutual

/-- A condition is written word by word. -/
theorem sql_eq_spell (excluded : List String) : (p : Predicate) → (only : Bool) →
    p.sql excluded only = spell excluded (p.words only)
  | .custom aliasName format operands negated, _ => by
      rw [words, spell_append, spell_negation, spell_atom, Predicate.sql, append_assoc]
      rfl
  | .group _ _ _ [] _, _ => rfl
  | .group _ _ _ [p] _, _ => by
      rw [sql_group_single, words, spell_append, spell_negation, spell_wrapped,
        p.sql_eq_spell excluded true]
  | .group _ _ op (p :: q :: rest) _, _ => by
      rw [sql_group_many, words, spell_append, spell_negation, spell_wrapped, spell_joined,
        predicatesSql, predicatesSql, p.sql_eq_spell excluded false,
        q.sql_eq_spell excluded false, predicatesSql_eq_spell excluded rest]
      rfl
  | .boolean f, _ => by
      rw [words, spell_append, spell_negation, spell_atom]
      exact f.sql_eq excluded
termination_by structural p => p

theorem predicatesSql_eq_spell (excluded : List String) : (ps : List Predicate) →
    predicatesSql excluded ps = (wordsOf ps).map (spell excluded)
  | [] => rfl
  | p :: rest => by
      rw [predicatesSql, wordsOf, p.sql_eq_spell excluded false,
        predicatesSql_eq_spell excluded rest]
      rfl
termination_by structural ps => ps

end

/-! ## Without empty groups -/

mutual

/-- A tree without empty groups is written as a phrase. -/
theorem isPhrase_words : (p : Predicate) → p.isFull = true → (only : Bool) →
    IsPhrase (p.words only)
  | .custom _ _ _ negated, _, _ => (IsPhrase.atom _).negation negated
  | .group _ _ _ [] _, h, _ => by cases h
  | .group _ _ _ [p] negated, h, _ => by
      rw [isFull, areFull, areFull, Bool.and_true] at h
      exact ((p.isPhrase_words h true).wrapped _).negation negated
  | .group _ _ op (p :: q :: rest) negated, h, _ => by
      rw [isFull, areFull, areFull, Bool.and_eq_true, Bool.and_eq_true, Bool.and_eq_true] at h
      obtain ⟨-, first, second, others⟩ := h
      refine IsPhrase.negation negated (IsPhrase.wrapped _ (isPhrase_joined op nofun ?_))
      exact List.forall_mem_cons.mpr ⟨p.isPhrase_words first false,
        List.forall_mem_cons.mpr ⟨q.isPhrase_words second false, isPhrase_wordsOf rest others⟩⟩
  | .boolean f, _, _ => (IsPhrase.atom _).negation f.isNegated
termination_by structural p => p

theorem isPhrase_wordsOf : (ps : List Predicate) → areFull ps = true →
    ∀ ts ∈ wordsOf ps, IsPhrase ts
  | [], _ => nofun
  | p :: rest, h => by
      rw [areFull, Bool.and_eq_true] at h
      exact List.forall_mem_cons.mpr ⟨p.isPhrase_words h.1 false, isPhrase_wordsOf rest h.2⟩
termination_by structural ps => ps

end

/-! ## With an empty group -/

/-- Wherever something is asked for and the condition stands there, a word
dangles. -/
def LeavesGap (p : Predicate) : Prop :=
  ∀ only before after, Gap before after → ¬NoneDangles (before ++ p.words only ++ after)

/-- One member leaves a gap between the operators around it. -/
theorem dangles_joined (op : LogicalOp) : ∀ {members : List Predicate},
    (∀ p ∈ members, p.isFull = false → p.LeavesGap) → areFull members = false →
      ∀ before after, Gap before after →
        ¬NoneDangles (before ++ joined op (wordsOf members) ++ after)
  | [], _, h => by cases h
  | [p], leaves, h => by
      rw [areFull, areFull, Bool.and_true] at h
      exact leaves p List.mem_cons_self h false
  | p :: q :: rest, leaves, h => fun before after gap => by
      obtain ⟨first, others⟩ := List.forall_mem_cons.mp leaves
      have split : joined op (wordsOf (p :: q :: rest)) =
          p.words false ++ .op op :: joined op (wordsOf (q :: rest)) := rfl
      cases full : p.isFull with
      | false =>
          have here : Gap before (.op op :: (joined op (wordsOf (q :: rest)) ++ after)) :=
            ⟨gap.asks, fun t head => by obtain rfl := Option.some.inj head; rfl, nofun⟩
          rw [split, List.append_assoc, List.append_assoc, ← List.append_assoc before]
          exact first full false before _ here
      | true =>
          rw [areFull, full, Bool.true_and] at h
          have last : (before ++ p.words false ++ [Token.op op]).getLast? = some (.op op) :=
            List.getLast?_concat
          have here : Gap (before ++ p.words false ++ [.op op]) after := by
            refine ⟨fun t found => ?_, gap.closes, fun found => ?_⟩
            · obtain rfl := Option.some.inj (last.symm.trans found)
              rfl
            · cases last.symm.trans found
          have deeper := dangles_joined op others h _ after here
          rw [split]
          simpa using deeper

mutual

/-- An empty group leaves a gap, and so does each tree around it. -/
theorem leavesGap : (p : Predicate) → p.isFull = false → p.LeavesGap
  | .custom .., h => by cases h
  | .boolean _, h => by cases h
  | .group toplevel aliasName op members negated, h => by
      have each := leavesGap_members members
      intro only before after gap
      match members with
      | [] =>
          rw [words, List.append_nil]
          exact gap.dangles
      | [p] =>
          rw [isFull, areFull, areFull, Bool.and_true] at h
          have isGroup : p.isGroup = true := by
            cases p with
            | group => rfl
            | custom => cases h
            | boolean => cases h
          obtain ⟨before', after', inner, split⟩ := gap.wrapped negated
            (p.isGroup && (negated || !(toplevel || only)))
            fun negated => by rw [isGroup, negated]; rfl
          rw [words, split]
          exact each p List.mem_cons_self h true before' after' inner
      | p :: q :: rest =>
          obtain ⟨before', after', inner, split⟩ := gap.wrapped negated
            (negated || !(toplevel || only)) fun negated => by rw [negated]; rfl
          rw [words, split]
          exact dangles_joined op each h before' after' inner
termination_by structural p => p

theorem leavesGap_members : (ps : List Predicate) → ∀ p ∈ ps, p.isFull = false → p.LeavesGap
  | [] => nofun
  | p :: rest => List.forall_mem_cons.mpr ⟨p.leavesGap, leavesGap_members rest⟩
termination_by structural ps => ps

end

/-- No word of a condition dangles exactly if none of its groups is
empty. -/
theorem noneDangles_words (p : Predicate) (only : Bool) :
    NoneDangles (p.words only) ↔ p.isFull = true := by
  cases full : p.isFull with
  | false =>
      have dangles := p.leavesGap full only [] [] ⟨nofun, nofun, nofun⟩
      rw [List.nil_append, List.append_nil] at dangles
      exact iff_of_false dangles nofun
  | true => exact iff_of_true (p.isPhrase_words full only).noneDangles rfl

/-- A tree without empty groups has a leaf. -/
theorem leaves_ne_nil : (p : Predicate) → p.isFull = true → p.leaves ≠ []
  | .custom .., _ => List.cons_ne_nil _ _
  | .boolean _, _ => List.cons_ne_nil _ _
  | .group _ _ _ [] _, h => by cases h
  | .group _ _ _ (p :: rest) _, h => by
      rw [isFull, areFull, Bool.and_eq_true, Bool.and_eq_true] at h
      rw [leaves, leavesOf]
      exact List.append_ne_nil_of_left_ne_nil (p.leaves_ne_nil h.2.1) _
termination_by structural p => p

end Predicate

/-! ## The text of a phrase -/

theorem Fragment.sql_append_ne_empty {a : Fragment} (h : a.sql ≠ "") (b : Fragment) :
    (a ++ b).sql ≠ "" := by
  cases stop : a.stop with
  | some e => rwa [append_of_stop stop]
  | none =>
      rw [sql_append stop]
      exact fun empty => h (String.append_eq_empty_iff.mp empty).1

/-- Leaves with a text make phrases with a text. -/
theorem Token.IsPhrase.sql_ne_empty {excluded : List String} {ts : List (Token Predicate)}
    (h : IsPhrase ts) (leaves : ∀ p, .atom p ∈ ts → (p.sql excluded false).sql ≠ "") :
    (spell excluded ts).sql ≠ "" := by
  induction h with
  | atom p =>
      rw [spell_atom]
      exact leaves p List.mem_cons_self
  | not _ _ => exact sql_append_ne_empty (a := text "NOT ") (by decide) _
  | parens _ _ => exact sql_append_ne_empty (a := text "(") (by decide) _
  | join op _ _ ih _ =>
      rw [spell_append]
      exact sql_append_ne_empty (ih fun p mem => leaves p (List.mem_append_left _ mem)) _

/-! ## Clauses -/

namespace ConditionClause

/-- The words behind the keyword, those of the conjunction of all
conditions. -/
def words (c : ConditionClause) : List (Token Predicate) :=
  (Predicate.group true "" .and c.conditions false).words false

variable {c : ConditionClause}

theorem sql_eq_spell (h : c.conditions ≠ []) :
    c.sql = text c.keyword ++ spell c.excluded c.words := by
  rw [sql, conditionsSql_eq c.keyword c.excluded h, Predicate.sql_eq_spell]
  rfl

/-- Only a clause without conditions is left out. -/
theorem sql_eq_empty_iff : c.sql = empty ↔ c.conditions = [] := by
  refine ⟨fun h => ?_, sql_of_nil⟩
  cases conditions : c.conditions with
  | nil => rfl
  | cons p rest =>
      rw [sql_eq_spell (by rw [conditions]; exact List.cons_ne_nil p rest),
        append_of_run (stop_text _)] at h
      exact absurd (congrArg Fragment.pieces h) (List.cons_ne_nil _ _)

theorem noneDangles_words (h : c.conditions ≠ []) :
    NoneDangles c.words ↔ ∀ p ∈ c.conditions, p.isFull = true := by
  have nonempty : c.conditions.isEmpty = false := List.isEmpty_eq_false_iff.mpr h
  rw [words, Predicate.noneDangles_words, Predicate.isFull, nonempty, Bool.not_false,
    Bool.true_and, areFull_iff]

/-- What a clause should be: left out with its keyword if its conditions
have no leaf, and else written so that no word dangles. -/
def IsSound (c : ConditionClause) : Prop :=
  (c.conditions.flatMap (·.leaves) = [] → c.sql = empty) ∧ (c.sql ≠ empty → NoneDangles c.words)

theorem isSound_iff (c : ConditionClause) :
    c.IsSound ↔ ∀ p ∈ c.conditions, p.isFull = true := by
  constructor
  · rintro ⟨-, written⟩ p mem
    have nonempty : c.conditions ≠ [] := List.ne_nil_of_mem mem
    exact (noneDangles_words nonempty).mp (written (mt sql_eq_empty_iff.mp nonempty)) p mem
  · intro full
    refine ⟨fun leafless => sql_eq_empty_iff.mpr ?_, fun written =>
      (noneDangles_words (mt sql_eq_empty_iff.mpr written)).mpr full⟩
    exact List.eq_nil_iff_forall_not_mem.mpr fun p mem =>
      p.leaves_ne_nil (full p mem) (List.flatMap_eq_nil_iff.mp leafless p mem)

end ConditionClause

/-- When a word of a condition dangles. Each `WHERE`, `HAVING` and `ON` of a
statement is left out only if no condition was added to it, and else it is
written with the words of all of them. The keyword, each `NOT`, `AND` and
`OR` among them has its conditions, no empty parentheses are written, and a
clause without a leaf is left out, exactly if every group in the conditions,
at any depth, has a member.

The conditions next to a word are phrases, which have a text if their leaves
have. -/
theorem Query.conditions_dangle {q : Query} {toplevel? : Option Bool}
    (written : (q.sql toplevel?).stop = none) {c : ConditionClause} (mem : c ∈ q.clauses) :
    c.sql.Within (q.sql toplevel?) ∧
      (c.sql = Fragment.empty ↔ c.conditions = []) ∧
      (c.conditions ≠ [] → c.sql = text c.keyword ++ Token.spell c.excluded c.words) ∧
      (c.IsSound ↔ ∀ p ∈ c.conditions, p.isFull = true) ∧
      ∀ ts : List (Token Predicate), Token.IsPhrase ts →
        (∀ p, .atom p ∈ ts → (p.sql c.excluded false).sql ≠ "") →
          (Token.spell c.excluded ts).sql ≠ "" :=
  ⟨Query.within_sql mem written, ConditionClause.sql_eq_empty_iff, ConditionClause.sql_eq_spell,
    c.isSound_iff, fun _ isPhrase leaves => isPhrase.sql_ne_empty leaves⟩

/-- Groups with members, one of them negated, and one without a member
inside. -/
theorem Query.conditions_dangle_nested :
    let a : Predicate := .isNull (.field (.column "" "a"))
    let b : Predicate := .isNull (.field (.column "" "b"))
    let full : Query :=
      .select .sqlite { Select.empty with conditions := [a, (Predicate.any [.all [b], a]).negate] }
    let gap : Query := .delete .sqlite
      { Delete.empty with target := some ⟨"", "t", ""⟩, conditions := [.any [a, .all []]] }
    (full.sql none).sql = "SELECT 1 WHERE a IS NULL AND NOT (b IS NULL OR a IS NULL)" ∧
      (∀ c ∈ full.clauses, c.IsSound) ∧
      (gap.sql none).sql = "DELETE FROM t WHERE a IS NULL OR " ∧
      ∃ c ∈ gap.clauses, ¬c.IsSound := by
  intro a b full gap
  have each : ∀ c ∈ full.clauses, ∀ p ∈ c.conditions, p.isFull = true := by decide
  have written : (full.sql none).stop = none := rfl
  have writtenGap : (gap.sql none).stop = none := rfl
  refine ⟨by decide +kernel, fun c mem => ?_, by decide +kernel, _, List.mem_cons_self, ?_⟩
  · obtain ⟨-, -, -, sound, -⟩ := Query.conditions_dangle written mem
    exact sound.mpr (each c mem)
  · obtain ⟨-, -, -, sound, -⟩ := Query.conditions_dangle writtenGap List.mem_cons_self
    exact fun h => absurd (sound.mp h) (by decide)

/-- A condition without a leaf is not left out: only the keyword is
written. -/
theorem Query.empty_group_dangles :
    let q : Query := .select .sqlite { Select.empty with conditions := [.all []] }
    (Predicate.all []).leaves = [] ∧ q.statementSql.stop = none ∧
      q.statementSql.sql = "SELECT 1 WHERE " ∧
      ∃ c ∈ q.clauses, c.conditions = [.all []] ∧ c.sql ≠ Fragment.empty ∧
        c.words = [] ∧ ¬Token.BeginsPhrase c.words := by
  refine ⟨rfl, rfl, by decide +kernel, _, List.mem_cons_self, rfl, ?_, rfl, ?_⟩
  · exact fun h => absurd (congrArg Fragment.pieces h) (List.cons_ne_nil _ _)
  · rintro ⟨phrase, rest, isPhrase, split⟩
    obtain ⟨t, us, rfl, -⟩ := isPhrase.head
    cases split

end SqlCompose
