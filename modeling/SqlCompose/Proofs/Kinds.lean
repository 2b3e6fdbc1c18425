import SqlCompose.Log.Tally
import SqlCompose.Proofs.Levels
import SqlCompose.Proofs.Styles

/-!
# The kind of a rendered statement

A statement is classified by its text alone. The text of a statement
without definitions begins with its own keyword, and its kind is what it
is. With definitions in front, the word behind the last closed parenthesis
decides: that is the keyword of the statement only if nothing behind the
definitions has parentheses (`Query.kind_of_text`). An insertion of rows
always has some, so with definitions it is taken for a selection
(`Query.kind_of_values`).

How placeholders are written makes no difference. A text is compared with
another in which only they are written otherwise (`Restyled`), and the
classification does not tell the two apart.
-/

namespace SqlCompose

open Fragment StatementKind

/-! ## Placeholders written otherwise -/

/-- A character of a placeholder. -/
def isMarking (c : Char) : Bool := c == '?' || c == '$' || c.isDigit

/-- The second text is the first with its placeholders written in some
other way. -/
inductive Restyled : List Char → List Char → Prop
  | nil : Restyled [] []
  | char (c : Char) {cs ds : List Char} : Restyled cs ds → Restyled (c :: cs) (c :: ds)
  | place (p q : Char) (ps qs : List Char) {cs ds : List Char} :
      (p :: ps).all isMarking = true → (q :: qs).all isMarking = true → Restyled cs ds →
        Restyled (p :: ps ++ cs) (q :: qs ++ ds)

theorem isMarking_cases {c : Char} (h : isMarking c = true) :
    c = '?' ∨ c = '$' ∨ 48 ≤ c.toNat ∧ c.toNat ≤ 57 := by
  rw [isMarking, Bool.or_eq_true, Bool.or_eq_true, beq_iff_eq, beq_iff_eq, or_assoc] at h
  refine h.imp_right (Or.imp_right fun digit => ?_)
  obtain ⟨first, last⟩ := (Bool.and_eq_true _ _).mp digit
  exact ⟨of_decide_eq_true first, of_decide_eq_true last⟩

/-- A marking character has no other meaning. -/
theorem isMarking_ne {c : Char} (h : isMarking c = true) :
    (c ≠ '(' ∧ c ≠ ')' ∧ c ≠ '\'') ∧ isBlank c = false ∧ c.toUpper = c := by
  rcases isMarking_cases h with rfl | rfl | bounds
  · decide
  · decide
  · have other : ∀ d : Char, ¬(48 ≤ d.toNat ∧ d.toNat ≤ 57) → c ≠ d := by
      rintro d hd rfl
      exact hd bounds
    refine ⟨⟨other _ (by decide), other _ (by decide), other _ (by decide)⟩, ?_, ?_⟩
    · simp only [isBlank, decide_eq_false_iff_not]
      omega
    · refine dif_neg fun lower => ?_
      have lower : 97 ≤ c.toNat := lower.1
      omega

theorem bounds_of_isAlpha {c : Char} (letter : c.isAlpha = true) :
    (65 ≤ c.toNat ∧ c.toNat ≤ 90) ∨ (97 ≤ c.toNat ∧ c.toNat ≤ 122) := by
  rcases (Bool.or_eq_true _ _).mp letter with upper | lower
  · exact .inl (of_decide_eq_true upper)
  · obtain ⟨first, last⟩ := (Bool.and_eq_true _ _).mp lower
    exact .inr ⟨of_decide_eq_true first, of_decide_eq_true last⟩

theorem isMarking_letter {c : Char} (letter : c.isAlpha = true) : isMarking c = false := by
  refine Bool.eq_false_iff.mpr fun marking => ?_
  have bounds := bounds_of_isAlpha letter
  rcases isMarking_cases marking with rfl | rfl | digit
  · exact absurd bounds (by decide)
  · exact absurd bounds (by decide)
  · omega

/-- The text behind the last closing parenthesis; `last` if there is none. -/
def behindLast (last : List Char) : List Char → List Char
  | [] => last
  | c :: rest => behindLast (if c = ')' then rest else last) rest

theorem behindLast_append_of_notMem {q : List Char} (h : ')' ∉ q) (last cs : List Char) :
    behindLast last (q ++ cs) = behindLast last cs := by
  induction q with
  | nil => rfl
  | cons c q ih =>
      obtain ⟨hc, hq⟩ := List.ne_and_not_mem_of_not_mem_cons h
      rw [List.cons_append, behindLast, if_neg (Ne.symm hc), ih hq]

theorem behindLast_of_notMem {cs : List Char} (h : ')' ∉ cs) (last : List Char) :
    behindLast last cs = last := by
  rw [← List.append_nil cs, behindLast_append_of_notMem h]
  rfl

theorem behindLast_append_closing (a b last : List Char) :
    behindLast last (a ++ ')' :: b) = behindLast b b := by
  induction a generalizing last with
  | nil => rfl
  | cons c a ih => exact ih _

theorem behindLevel_unquoted (d : Int) (last rest : List Char) (c : Char) :
    behindLevel d false last (c :: rest) =
      if c = '\'' then behindLevel d true last rest
      else if c = '(' then behindLevel (d + 1) false last rest
      else if c = ')' then behindLevel (d - 1) false (if d - 1 = 0 then rest else last) rest
      else behindLevel d false last rest := by
  rw [behindLevel.eq_def]
  rfl

/-- In a text that closes all that it opens, every last parenthesis closes
the outermost level. -/
theorem behindLevel_eq {cs : List Char} {d : Nat} (h : level d cs = some 0)
    {last last' : List Char} (same : d = 0 → last = last') :
    behindLevel d false last cs = behindLast last' cs := by
  -- Inside parentheses the two may remember different texts: another one is still to close.
  induction cs generalizing d last last' with
  | nil => exact same (Option.some.inj h)
  | cons c cs ih =>
      rw [level] at h
      rw [behindLevel_unquoted, behindLast]
      by_cases opening : c = '('
      · subst opening
        exact ih (d := d + 1) h fun zero => absurd zero (Nat.succ_ne_zero d)
      · rw [if_neg opening] at h ⊢
        by_cases closing : c = ')'
        · subst closing
          obtain _ | d := d
          · cases h
          · have below : ((d + 1 : Nat) : Int) - 1 = d := by omega
            rw [below]
            refine ih (d := d) h fun outermost => ?_
            rw [outermost]
            rfl
        · rw [if_neg closing] at h ⊢
          by_cases quote : c = '\''
          · rw [if_pos quote] at h
            cases h
          · rw [if_neg quote] at h ⊢
            rw [if_neg closing]
            exact ih h same

namespace Restyled

variable {cs ds : List Char}

protected theorem refl : ∀ cs, Restyled cs cs
  | [] => .nil
  | c :: cs => .char c (Restyled.refl cs)

theorem numbered (cs : List Char) (n : Nat) :
    Restyled cs (Placeholder.numberedFrom n (Mark.ofChars cs)) := by
  induction cs using Mark.chars_induction generalizing n with
  | nil => exact .nil
  | pair cs ih =>
      rw [Mark.ofChars]
      exact .place '?' '?' ['?'] [] rfl rfl (ih n)
  | lone cs hcs ih =>
      rw [Mark.ofChars_lone hcs, Placeholder.numberedFrom]
      refine .place '?' '$' [] (n + 1).repr.toList rfl ?_ (ih (n + 1))
      refine List.all_eq_true.mpr fun c hc => ?_
      rcases List.mem_cons.mp hc with rfl | hc
      · rfl
      · simp [isMarking, Placeholder.isDigit_of_mem_repr c hc]
  | other c cs hc ih =>
      rw [Mark.ofChars_cons_of_ne hc]
      exact .char c (ih n)

theorem level_marking {q : List Char} (h : q.all isMarking = true) (d : Nat) (cs : List Char) :
    level d (q ++ cs) = level d cs := by
  induction q with
  | nil => rfl
  | cons c q ih =>
      rw [List.all_cons, Bool.and_eq_true] at h
      rw [List.cons_append, level_cons (isMarking_ne h.1).1, ih h.2]

theorem level_eq (h : Restyled cs ds) (d : Nat) : level d cs = level d ds := by
  induction h generalizing d with
  | nil => rfl
  | char c _ ih => rw [level, level, ih, ih, ih]
  | place p q ps qs hp hq _ ih => rw [level_marking hp, level_marking hq, ih]

theorem closing_notMem {q : List Char} (h : q.all isMarking = true) : ')' ∉ q :=
  fun hq => (isMarking_ne (List.all_eq_true.mp h _ hq)).1.2.1 rfl

theorem behindLast (h : Restyled cs ds) {last last' : List Char} (hlast : Restyled last last') :
    Restyled (behindLast last cs) (behindLast last' ds) := by
  induction h generalizing last last' with
  | nil => exact hlast
  | char c rest ih =>
      refine ih ?_
      split
      · exact rest
      · exact hlast
  | place p q ps qs hp hq _ ih =>
      rw [behindLast_append_of_notMem (closing_notMem hp),
        behindLast_append_of_notMem (closing_notMem hq)]
      exact ih hlast

theorem dropBlank (h : Restyled cs ds) :
    Restyled (cs.dropWhile isBlank) (ds.dropWhile isBlank) := by
  induction h with
  | nil => exact .nil
  | char c rest ih =>
      rw [List.dropWhile_cons, List.dropWhile_cons]
      split
      · exact ih
      · exact .char c rest
  | place p q ps qs hp hq rest ih =>
      have hp' := (isMarking_ne (List.all_eq_true.mp hp p List.mem_cons_self)).2.1
      have hq' := (isMarking_ne (List.all_eq_true.mp hq q List.mem_cons_self)).2.1
      rw [List.cons_append, List.cons_append, List.dropWhile_cons_of_neg (by simp [hp']),
        List.dropWhile_cons_of_neg (by simp [hq'])]
      exact .place p q ps qs hp hq rest

/-- A word of letters begins both texts or none. -/
theorem word_iff (h : Restyled cs ds) {word : List Char}
    (letters : word.all (fun c => !isMarking c) = true) :
    (cs.take word.length).map Char.toUpper = word ↔
      (ds.take word.length).map Char.toUpper = word := by
  induction word generalizing cs ds with
  | nil => simp
  | cons w word ih =>
      rw [List.all_cons, Bool.and_eq_true, Bool.not_eq_true'] at letters
      have unlike : ∀ (p : Char) (ps : List Char), (p :: ps).all isMarking = true →
          ∀ cs, ((p :: ps ++ cs).take (w :: word).length).map Char.toUpper ≠ w :: word := by
        intro p ps hp cs same
        have marking := List.all_eq_true.mp hp p List.mem_cons_self
        have first := (List.cons.inj same).1
        rw [(isMarking_ne marking).2.2] at first
        rw [first, letters.1] at marking
        cases marking
      cases h with
      | nil => rfl
      | char c rest =>
          simp only [List.length_cons, List.take_succ_cons, List.map_cons, List.cons.injEq,
            ih rest letters.2]
      | place p q ps qs hp hq _ => exact iff_of_false (unlike p ps hp _) (unlike q qs hq _)

theorem startsWith (h : Restyled cs ds) (word : String)
    (letters : word.toList.all (fun c => !isMarking c) = true) :
    startsWith word cs = startsWith word ds := by
  rw [StatementKind.startsWith, StatementKind.startsWith, ← String.length_toList]
  exact decide_eq_decide.mpr (h.word_iff letters)

end Restyled

/-! ## Reading a balanced text -/

namespace StatementKind

/-- The kind that the word behind some definitions stands for. -/
def ofWord (s : List Char) : StatementKind :=
  if startsWith "INSERT" s then .insert
  else if startsWith "UPDATE" s then .update
  else if startsWith "DELETE" s then .delete
  else .select

/-- The kind that the word behind the last parenthesis stands for; the
first word if there is no parenthesis. -/
def ofEnd (s : List Char) : StatementKind := ofWord ((behindLast s s).dropWhile isBlank)

variable {cs ds : List Char}

theorem behindWith_eq (h : level 0 cs = some 0) : behindWith cs = ofEnd cs := by
  have found : behindLevel 0 false cs cs = behindLast cs cs :=
    behindLevel_eq (d := 0) h fun _ => rfl
  rw [behindWith, found]
  rfl

theorem ofWord_restyled (h : Restyled cs ds) : ofWord cs = ofWord ds := by
  rw [ofWord, ofWord, h.startsWith "INSERT" rfl, h.startsWith "UPDATE" rfl,
    h.startsWith "DELETE" rfl]

theorem ofStart_restyled (h : Restyled cs ds) (balanced : level 0 cs = some 0) :
    ofStart cs = ofStart ds := by
  have definitions : behindWith cs = behindWith ds := by
    rw [behindWith_eq balanced, behindWith_eq ((h.level_eq 0).symm.trans balanced)]
    exact ofWord_restyled (h.behindLast h).dropBlank
  rw [ofStart, ofStart, h.startsWith "SELECT" rfl, h.startsWith "INSERT" rfl,
    h.startsWith "UPDATE" rfl, h.startsWith "DELETE" rfl,
    h.startsWith "WITH" rfl, definitions]

/-- Nothing stands in front of a statement that begins with a letter. -/
theorem skipLead_letter {c : Char} (letter : c.isAlpha = true) (cs : List Char) :
    skipLead (c :: cs) = c :: cs := by
  have bounds := bounds_of_isAlpha letter
  have blank : ¬isBlank c = true := by
    simp only [isBlank, decide_eq_true_eq]
    omega
  have start : (c :: cs).dropWhile isBlank = c :: cs := List.dropWhile_cons_of_neg blank
  have other : ∀ d : Char, d.toNat < 65 → c ≠ d := by
    rintro d hd rfl
    omega
  rw [skipLead]
  split <;> rename_i found
  · exact absurd (List.cons.inj (start.symm.trans found)).1 (other _ (by decide))
  · exact absurd (List.cons.inj (start.symm.trans found)).1 (other _ (by decide))
  · exact absurd (List.cons.inj (start.symm.trans found)).1 (other _ (by decide))
  · exact start

end StatementKind

/-! ## Statements and their definitions -/

namespace StatementKind

/-- What a statement of a kind begins with. -/
def opening : StatementKind → String
  | select => "SELECT "
  | insert => "INSERT INTO "
  | update => "UPDATE "
  | delete => "DELETE FROM "
  | other => ""

theorem opening_letter {k : StatementKind} (h : k ≠ other) (cs : List Char) :
    ∃ c rest, k.opening.toList ++ cs = c :: rest ∧ c.isAlpha = true := by
  cases k with
  | other => exact absurd rfl h
  | _ => exact ⟨_, _, rfl, rfl⟩

/-- The opening tells the kind. -/
theorem ofStart_opening {k : StatementKind} (h : k ≠ other) (cs : List Char) :
    ofStart (k.opening.toList ++ cs) = k := by
  cases k with
  | other => exact absurd rfl h
  | _ => rfl

theorem ofEnd_opening {k : StatementKind} (h : k ≠ other) {cs : List Char}
    (flat : ')' ∉ k.opening.toList ++ cs) : ofEnd (k.opening.toList ++ cs) = k := by
  rw [ofEnd, behindLast_of_notMem flat]
  cases k with
  | other => exact absurd rfl h
  | _ => rfl

end StatementKind

namespace Query

/-- What a statement does, of those that do one thing. -/
def ownKind? : Query → Option StatementKind
  | select _ _ => some .select
  | insert _ _ => some .insert
  | update _ _ => some .update
  | delete _ _ => some .delete
  | raw _ _ _ => none
  | compound _ _ _ => none

theorem ownKind?_ne_other {q : Query} {k : StatementKind} (own : q.ownKind? = some k) :
    k ≠ .other := by
  rintro rfl
  cases q <;> cases own

/-- Only set operations ask for their place. -/
theorem sql_eq_none {q : Query} {k : StatementKind} (own : q.ownKind? = some k)
    (toplevel? : Option Bool) : q.sql toplevel? = q.sql none := by
  cases q with
  | raw _ _ _ => cases own
  | compound _ _ _ => cases own
  | _ => rfl

/-- The definitions given to a statement. -/
def ctes : Query → List Cte
  | select _ s => s.ctes
  | insert _ i => i.ctes
  | update _ u => u.ctes
  | delete _ d => d.ctes
  | raw _ _ _ => []
  | compound _ _ _ => []

/-- The statement without its definitions. -/
def main : Query → Query
  | select d s => select d { s with ctes := [] }
  | insert d i => insert d { i with ctes := [] }
  | update d u => update d { u with ctes := [] }
  | delete d e => delete d { e with ctes := [] }
  | raw d format operands => raw d format operands
  | compound toplevel op members => compound toplevel op members

end Query

/-- The definitions that the tables of a statement bring with them. An
insertion reads from those of its selection. -/
def Query.tableItems : Query → List WithItem
  | select _ s => s.items
  | insert _ i => selectItems i.select
  | update _ u => sourceItems u.source ++ joinItems u.joins
  | delete _ d => sourceItems d.source ++ joinItems d.joins
  | raw _ _ _ => []
  | compound _ _ _ => []

/-- What an insertion writes behind its definitions does not depend on
them. -/
theorem InsertParts.sql_split {p : InsertParts} (h : p.sql.stop = none) :
    ∃ rest, ∀ w, InsertParts.sql { p with withClause := w } =
      w ++ (text StatementKind.insert.opening ++ rest) := by
  rw [InsertParts.sql] at h
  split at h
  · cases h
  · rename_i columns rows parts
    split at h
    · cases h
    · rename_i target htarget
      split at h
      · cases h
      · rename_i source
        refine ⟨?rest, fun w => ?split⟩
        case split =>
          simp only [InsertParts.sql, parts, htarget, source, append_assoc]
          rfl

theorem UpdateParts.sql_split {p : UpdateParts} (h : p.sql.stop = none) :
    ∃ rest, ∀ w, UpdateParts.sql { p with withClause := w } =
      w ++ (text StatementKind.update.opening ++ rest) := by
  rw [UpdateParts.sql] at h
  split at h
  · cases h
  · rename_i assignments parts
    split at h
    · cases h
    · rename_i target htarget
      split at h
      · cases h
      · rename_i nonempty
        refine ⟨?rest, fun w => ?split⟩
        case split =>
          simp only [UpdateParts.sql, parts, htarget, nonempty, append_assoc]
          rfl

theorem deleteSql_split {own : Fragment} {target : Option Relation} {hasSource hasJoins : Bool}
    {tail : Fragment} (h : (deleteSql own target hasSource hasJoins tail).stop = none) :
    ∃ rest, ∀ w, deleteSql w target hasSource hasJoins tail =
      w ++ (text StatementKind.delete.opening ++ rest) := by
  cases target with
  | none => cases h
  | some target =>
      rw [deleteSql] at h
      split at h
      · cases h
      · rename_i source
        refine ⟨target.targetSql ++ tail, fun w => ?_⟩
        rw [deleteSql, if_neg source, append_assoc, append_assoc]
        rfl

namespace Query

/-- A statement is written behind its definitions, and begins with its own
keyword. -/
theorem sql_split {q : Query} {k : StatementKind} (own : q.ownKind? = some k)
    (h : (q.sql none).stop = none) :
    ∃ rest, q.sql none = WithItem.clause (cteItems q.ctes) q.tableItems ++
        (text k.opening ++ rest) ∧
      q.main.sql none = text k.opening ++ rest := by
  cases q with
  | select d s =>
      obtain rfl := Option.some.inj own
      obtain ⟨ctes, distinct, distinctOn, fields, source, joins, conditions, groupBy, having,
        windows, orderBy, limit, withTies, offset⟩ := s
      refine ⟨?rest, ?whole, ?main⟩
      case whole =>
        simp only [Query.sql, Select.sql, append_assoc]
        rfl
      case main =>
        simp only [Query.sql, Query.main, Select.sql, append_assoc]
        rfl
  | insert d i =>
      obtain rfl := Option.some.inj own
      obtain ⟨ctes, target, columns, rows, mapper, select, conflict⟩ := i
      obtain ⟨rest, split⟩ := InsertParts.sql_split h
      exact ⟨rest, split _, split empty⟩
  | update d u =>
      obtain rfl := Option.some.inj own
      obtain ⟨ctes, target, assignments, mapper, source, joins, conditions, orderBy, limit,
        offset⟩ := u
      obtain ⟨rest, split⟩ := UpdateParts.sql_split h
      exact ⟨rest, split _, split empty⟩
  | delete d e =>
      obtain rfl := Option.some.inj own
      obtain ⟨ctes, target, source, joins, conditions, orderBy, limit, offset⟩ := e
      obtain ⟨rest, split⟩ := deleteSql_split h
      exact ⟨rest, split _, split empty⟩
  | raw d format operands => cases own
  | compound toplevel op members => cases own

end Query

/-! ## Where definitions end -/

namespace Fragment

/-- The last thing written is a text. -/
def EndsIn (f : Fragment) (s : String) : Prop := ∃ g, f = g ++ text s

variable {a b : Fragment} {s : String}

theorem EndsIn.append (h : b.EndsIn s) (a : Fragment) : (a ++ b).EndsIn s := by
  obtain ⟨g, rfl⟩ := h
  exact ⟨a ++ g, (append_assoc a g _).symm⟩

theorem EndsIn.chars (h : a.EndsIn s) (written : a.stop = none) :
    ∃ cs, a.chars = cs ++ s.toList := by
  obtain ⟨g, rfl⟩ := h
  exact ⟨g.chars, by rw [chars_append (stop_append_eq_none.mp written).1, chars_text]⟩

theorem endsIn_parens (a : Fragment) : (parens a).EndsIn ")" := ⟨text "(" ++ a, rfl⟩

theorem endsIn_sepBy {separator : String} : ∀ {fs : List Fragment}, fs ≠ [] →
    (∀ f ∈ fs, f.EndsIn s) → (sepBy separator fs).EndsIn s
  | [], nonempty, _ => absurd rfl nonempty
  | [_], _, h => h _ List.mem_cons_self
  | _ :: _ :: _, _, h =>
      (endsIn_sepBy (List.cons_ne_nil _ _) fun f hf => h f (List.mem_cons_of_mem _ hf)).append _

end Fragment

/-- An insertion of rows without a conflict clause ends in its last row. -/
theorem InsertParts.endsIn_values {p : InsertParts} (run : p.run = none) (rows : p.rows ≠ [])
    (conflict : p.conflict = empty) (written : p.sql.stop = none) : p.sql.EndsIn ")" := by
  have ends : (commaList (p.rows.map rowSql)).EndsIn ")" :=
    endsIn_sepBy (by simpa using rows) (List.forall_mem_map.mpr fun row _ => endsIn_parens _)
  have nonempty : p.rows.isEmpty = false := by simpa using rows
  cases target : p.target with
  | none =>
      rw [InsertParts.sql, run, target] at written
      cases written
  | some target' =>
      simp only [InsertParts.sql, run, target, nonempty, conflict, Bool.false_and, Bool.not_false,
        Bool.false_eq_true, if_false, if_true, append_empty]
      exact (ends.append _).append _

/-- The definitions of a statement end in a parenthesis and a blank. -/
theorem WithItem.chars_clause {own tables : List WithItem} (h : own ≠ [])
    (written : (clause own tables).stop = none) :
    ∃ cs, ∀ m, (clause own tables).chars ++ m = "WITH".toList ++ (cs ++ ')' :: ' ' :: m) := by
  obtain ⟨item, rest, rfl⟩ := List.exists_cons_of_ne_nil h
  have kept : firsts [] (item :: rest ++ tables) ≠ [] := by
    rw [List.cons_append, firsts]
    exact List.cons_ne_nil _ _
  have ends : (commaList ((firsts [] (item :: rest ++ tables)).map sql)).EndsIn ")" :=
    endsIn_sepBy (by simpa using kept) (List.forall_mem_map.mpr fun i _ => ⟨_, rfl⟩)
  obtain ⟨items, hitems⟩ := ends
  have keyword : ∀ b : Bool, ∃ cs,
      (text (if b then "WITH RECURSIVE " else "WITH ")).chars = "WITH".toList ++ cs := by
    rintro (_ | _)
    · exact ⟨[' '], by rw [chars_text]; rfl⟩
    · exact ⟨" RECURSIVE ".toList, by rw [chars_text]; rfl⟩
  obtain ⟨start, hstart⟩ := keyword ((firsts [] (item :: rest ++ tables)).any (·.isRecursive))
  have whole : clause (item :: rest) tables =
      text (if (firsts [] (item :: rest ++ tables)).any (·.isRecursive) then "WITH RECURSIVE "
        else "WITH ") ++ commaList ((firsts [] (item :: rest ++ tables)).map sql) ++ text " " := rfl
  rw [hitems] at whole
  rw [whole] at written ⊢
  have front := (stop_append_eq_none.mp written).1
  have last := (stop_append_eq_none.mp (stop_append_eq_none.mp front).2).1
  rw [chars_append front, chars_append (stop_text _), chars_append last, hstart, chars_text,
    chars_text]
  exact ⟨start ++ items.chars, fun m => by simp⟩

/-! ## The kind of a statement -/

namespace StatementKind

theorem ofSql_restyled {sql : String} {c : Char} (letter : c.isAlpha = true) {cs : List Char}
    (balanced : level 0 (c :: cs) = some 0) (h : Restyled (c :: cs) sql.toList) :
    ofSql sql = ofStart (c :: cs) := by
  have start : ∃ ds, sql.toList = c :: ds := by
    generalize sql.toList = ds at h
    cases h with
    | char _ rest => exact ⟨_, rfl⟩
    | place p q ps qs hp _ _ =>
        have marking := List.all_eq_true.mp hp _ List.mem_cons_self
        rw [isMarking_letter letter] at marking
        cases marking
  obtain ⟨ds, hds⟩ := start
  rw [hds] at h
  rw [ofSql, hds, skipLead_letter letter]
  exact (ofStart_restyled h balanced).symm

/-- Blanks before the statement do not count. -/
theorem dropBlank_behindLast (m cs : List Char) :
    (behindLast (' ' :: m) cs).dropWhile isBlank = (behindLast m cs).dropWhile isBlank := by
  induction cs with
  | nil => rfl
  | cons c cs ih =>
      rw [behindLast, behindLast]
      split
      · rfl
      · exact ih

theorem startsWith_of_ne (word : String) {w : Char} {ws : List Char} (hw : word.toList = w :: ws)
    {c : Char} (h : c.toUpper ≠ w) (cs : List Char) : startsWith word (c :: cs) = false := by
  have length : word.length = ws.length + 1 := by rw [← String.length_toList, hw]; rfl
  rw [startsWith, hw, length, decide_eq_false_iff_not]
  exact fun same => h (List.cons.inj same).1

theorem ofStart_keyword (cs : List Char) :
    ofStart ("WITH".toList ++ cs) = behindWith ("WITH".toList ++ cs) := by
  have keyword : "WITH".toList ++ cs = 'W' :: 'I' :: 'T' :: 'H' :: cs := rfl
  have found : startsWith "WITH" ('W' :: 'I' :: 'T' :: 'H' :: cs) = true := by
    rw [startsWith, decide_eq_true_eq]
    rfl
  rw [keyword, ofStart, startsWith_of_ne "SELECT" rfl (by decide),
    startsWith_of_ne "INSERT" rfl (by decide), startsWith_of_ne "UPDATE" rfl (by decide),
    startsWith_of_ne "DELETE" rfl (by decide), found]
  simp only [Bool.false_eq_true, if_false, if_true]

/-- Behind definitions the word after the last parentheses counts. -/
theorem ofStart_with {cs m : List Char}
    (balanced : level 0 ("WITH".toList ++ (cs ++ ')' :: ' ' :: m)) = some 0) :
    ofStart ("WITH".toList ++ (cs ++ ')' :: ' ' :: m)) = ofEnd m := by
  have last : ∀ whole, behindLast whole ("WITH".toList ++ (cs ++ ')' :: ' ' :: m)) =
      behindLast (' ' :: m) m := by
    intro whole
    rw [← List.append_assoc, behindLast_append_closing]
    rfl
  rw [ofStart_keyword, behindWith_eq balanced, ofEnd, last, dropBlank_behindLast, ofEnd]

end StatementKind

theorem Fragment.restyled_of_build {f : Fragment} {d : Dialect} {b : BuiltQuery}
    (h : f.build d = .ok b) : f.stop = none ∧ Restyled f.chars b.sql.toList := by
  rw [build] at h
  split at h
  · cases h
  · rename_i written
    obtain rfl := Except.ok.inj h
    refine ⟨written, ?_⟩
    have sql : ((Writer.mk d "" [] []).append f).text.toList = f.chars := by
      rw [Writer.append, ← toList_sql]
      exact congrArg String.toList String.empty_append
    rw [Writer.finish]
    split
    · rw [Placeholder.numbered, String.toList_ofList, Mark.ofText, sql]
      exact .numbered _ 0
    · rw [sql]
      exact .refl _

namespace Query

theorem written_of_toSql {q : Query} {k : StatementKind} (own : q.ownKind? = some k)
    {b : BuiltQuery} (built : q.toSql = .ok b) :
    (q.sql none).stop = none ∧ Restyled (q.sql none).chars b.sql.toList := by
  rw [toSql, statementSql, sql_eq_none own] at built
  exact restyled_of_build built

theorem main_written {q : Query} {k : StatementKind} (own : q.ownKind? = some k)
    (written : (q.sql none).stop = none) :
    (q.main.sql none).stop = none ∧
      ∃ rest, (q.main.sql none).chars = k.opening.toList ++ rest := by
  obtain ⟨rest, whole, main⟩ := sql_split own written
  rw [whole] at written
  rw [main]
  refine ⟨(stop_append_eq_none.mp written).2, rest.chars, ?_⟩
  rw [chars_append (stop_text _), chars_text]

theorem kind_eq {q : Query} {k : StatementKind} (own : q.ownKind? = some k)
    (texts : ∀ t ∈ q.texts, t.IsBalanced) {b : BuiltQuery} (built : q.toSql = .ok b) :
    ofSql b.sql = if q.ctes.isEmpty then k else ofEnd (q.main.sql none).chars := by
  obtain ⟨written, restyled⟩ := written_of_toSql own built
  have balanced := Query.balanced texts none written 0
  have known := ownKind?_ne_other own
  obtain ⟨-, rest, begins⟩ := main_written own written
  obtain ⟨_, whole, main⟩ := sql_split own written
  rw [whole] at written
  rw [whole, ← main, chars_append (stop_append_eq_none.mp written).1] at restyled balanced
  -- The text begins with the opening of its kind, or else with `WITH`.
  cases hctes : q.ctes with
  | nil =>
      have none : (WithItem.clause (cteItems []) q.tableItems).chars = [] := rfl
      obtain ⟨c, cs, hc, letter⟩ := opening_letter known rest
      rw [hctes, none, List.nil_append, begins, hc] at restyled balanced
      rw [ofSql_restyled letter balanced restyled, ← hc, ofStart_opening known]
      rfl
  | cons cte others =>
      rw [hctes] at written restyled balanced
      have defined : cteItems (cte :: others) ≠ [] := List.cons_ne_nil _ _
      obtain ⟨cs, hcs⟩ := WithItem.chars_clause defined (stop_append_eq_none.mp written).1
      rw [hcs] at restyled balanced
      rw [ofSql_restyled (c := 'W') rfl balanced restyled]
      exact ofStart_with balanced

/-- The kind read from the text of a statement is its own if it has no
definitions. With definitions it is that of the word behind the last
parenthesis of the statement itself, which is its own if there is none. -/
theorem kind_of_text {q : Query} {k : StatementKind} (own : q.ownKind? = some k)
    (texts : ∀ t ∈ q.texts, t.IsBalanced) {b : BuiltQuery} (built : q.toSql = .ok b) :
    ofSql b.sql = (if q.ctes.isEmpty then k else ofEnd (q.main.sql none).chars) ∧
      (q.ctes = [] ∨ ')' ∉ (q.main.sql none).chars → ofSql b.sql = k) := by
  have kind := kind_eq own texts built
  obtain ⟨-, rest, begins⟩ := main_written own (written_of_toSql own built).1
  refine ⟨kind, fun plain => ?_⟩
  rw [kind]
  by_cases none : q.ctes = []
  · rw [none]
    rfl
  · have flat := plain.resolve_left none
    rw [begins] at flat ⊢
    rw [if_neg (by simpa using none), ofEnd_opening (ownKind?_ne_other own) flat]

/-- A deletion behind a definition, with nothing in parentheses. -/
theorem kind_of_text_delete :
    let one : Cte := ⟨"one", "", [], some (.select .sqlite .empty), false⟩
    let q : Query := .delete .sqlite
      { Delete.empty with ctes := [one], target := some { name := "t" } }
    (q.sql none).chars = "WITH one AS (SELECT 1) DELETE FROM t".toList ∧
      q.ownKind? = some .delete ∧ (∀ t ∈ q.texts, t.IsBalanced) ∧
      ')' ∉ (q.main.sql none).chars ∧ ∃ b, q.toSql = .ok b ∧ ofSql b.sql = .delete := by
  refine ⟨rfl, rfl, ?texts, ?flat, _, rfl,
    (kind_of_text rfl ?texts rfl).2 (.inr ?flat)⟩
  case texts => decide
  case flat => decide

/-- An insertion of rows behind a definition is taken for a selection. -/
theorem kind_of_values {d : Dialect} {i : Insert} (definitions : i.ctes ≠ [])
    (rows : i.rows ≠ []) (given : i.mapper = none) (final : i.conflict = none)
    (texts : ∀ t ∈ (insert d i).texts, t.IsBalanced) {b : BuiltQuery}
    (built : (insert d i).toSql = .ok b) : ofSql b.sql = .select := by
  have written := (main_written rfl (written_of_toSql rfl built).1).1
  have defined : (insert d i).ctes.isEmpty = false := by simpa [ctes] using definitions
  have ends : ((insert d i).main.sql none).EndsIn ")" := by
    obtain ⟨ctes, target, columns, cells, mapper, select, conflict⟩ := i
    obtain rfl : mapper = none := given
    obtain rfl : conflict = none := final
    obtain ⟨row, others, rfl⟩ := List.exists_cons_of_ne_nil rows
    exact InsertParts.endsIn_values rfl (List.cons_ne_nil _ _) rfl written
  obtain ⟨cs, hcs⟩ := ends.chars written
  have closing : ")".toList = [')'] := rfl
  rw [kind_eq rfl texts built, defined, hcs, closing, ofEnd, behindLast_append_closing]
  rfl

theorem values_taken_for_select :
    let one : Cte := ⟨"one", "", [], some (.select .sqlite .empty), false⟩
    let i : Insert :=
      { Insert.empty with
        ctes := [one]
        target := some { name := "t" }
        columns := [.custom { name := "x" } "" []]
        rows := [[.scalar (.int 1)]] }
    let q : Query := .insert .sqlite i
    (q.sql none).chars = "WITH one AS (SELECT 1) INSERT INTO t (x) VALUES (?)".toList ∧
      q.ownKind? = some .insert ∧ (∀ t ∈ q.texts, t.IsBalanced) ∧
      ∃ b, q.toSql = .ok b ∧ ofSql b.sql = .select ∧
        ∀ (t : Tally) (r : LogRecord), r.query = b.sql →
          (t.add r).inserts = t.inserts ∧ (t.add r).selects = t.selects + 1 := by
  intro one i q
  have text : (q.sql none).chars =
      "WITH one AS (SELECT 1) INSERT INTO t (x) VALUES (?)".toList := by
    simp only [q, i, one]
    rfl
  have own : q.ownKind? = some .insert := rfl
  have texts : ∀ t ∈ q.texts, t.IsBalanced := by decide
  obtain ⟨b, built⟩ : ∃ b, q.toSql = .ok b := ⟨_, rfl⟩
  have definitions : i.ctes ≠ [] := List.cons_ne_nil _ _
  have rows : i.rows ≠ [] := List.cons_ne_nil _ _
  have kind := kind_of_values definitions rows rfl rfl texts built
  refine ⟨text, own, texts, b, built, kind, fun t r hr => ?_⟩
  have counted : r.kind = .select := by rw [LogRecord.kind, hr, kind]
  simp [Tally.add, counted]

end Query

end SqlCompose
