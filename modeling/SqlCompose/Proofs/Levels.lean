import SqlCompose.Proofs.Alignment
import SqlCompose.Proofs.Written

/-!
# Parentheses of a statement

The level of a text goes up with an opening parenthesis and down with a
closing one (`level`). If every raw text of a statement ends at the level
at which it begins, then so does the whole statement
(`Query.balanced`): a rendered part closes what it opens, wherever it is
put.
-/

namespace SqlCompose

/-! ## Levels -/

/-- The level behind a text that begins at level `d`. There is none behind
a parenthesis that closes nothing, nor behind a quote. -/
def level : (d : Nat) → List Char → Option Nat
  | d, [] => some d
  | d, c :: rest =>
    if c = '(' then level (d + 1) rest
    else if c = ')' then if d = 0 then none else level (d - 1) rest
    else if c = '\'' then none
    else level d rest

variable {d : Nat} {cs : List Char}

theorem level_closing : level (d + 1) (')' :: cs) = level d cs := rfl

/-- Characters that neither bracket nor quote. -/
theorem level_cons {c : Char} (h : c ≠ '(' ∧ c ≠ ')' ∧ c ≠ '\'') :
    level d (c :: cs) = level d cs := by
  rw [level, if_neg h.1, if_neg h.2.1, if_neg h.2.2]

theorem isPlain_iff {c : Char} :
    isPlain c = true ↔ c ≠ '(' ∧ c ≠ ')' ∧ c ≠ '\'' ∧ c ≠ '?' := by
  simp only [isPlain, Bool.and_eq_true, bne_iff_ne, and_assoc]

theorem level_plain (h : cs.all isPlain = true) : level d cs = some d := by
  induction cs with
  | nil => rfl
  | cons c cs ih =>
      rw [List.all_cons, Bool.and_eq_true] at h
      obtain ⟨hc, hcs⟩ := h
      obtain ⟨opening, closing, quote, -⟩ := isPlain_iff.mp hc
      rw [level_cons ⟨opening, closing, quote⟩, ih hcs]

theorem level_append (a b : List Char) (d : Nat) :
    level d (a ++ b) = (level d a).bind (level · b) := by
  induction a generalizing d with
  | nil => rfl
  | cons c a ih =>
      rw [List.cons_append, level, level, ih, ih, ih]
      grind

/-- Below all that a text opens, any number of levels may be open. -/
theorem level_add {e : Nat} (h : level d cs = some e) (k : Nat) :
    level (d + k) cs = some (e + k) := by
  induction cs generalizing d with
  | nil =>
      obtain rfl := Option.some.inj h
      rfl
  | cons c cs ih =>
      rw [level] at h ⊢
      by_cases opening : c = '('
      · rw [if_pos opening] at h ⊢
        rw [Nat.add_right_comm]
        exact ih h
      · rw [if_neg opening] at h ⊢
        by_cases closing : c = ')'
        · rw [if_pos closing] at h ⊢
          by_cases outermost : d = 0
          · rw [if_pos outermost] at h
            cases h
          · rw [if_neg outermost] at h
            rw [if_neg (by omega), Nat.sub_add_comm (Nat.pos_of_ne_zero outermost)]
            exact ih h
        · rw [if_neg closing] at h ⊢
          by_cases quote : c = '\''
          · rw [if_pos quote] at h
            cases h
          · rw [if_neg quote] at h ⊢
            exact ih h

/-- Whatever level a text stands at, it ends there if it does so at the
outermost one. -/
theorem level_of_zero (h : level 0 cs = some 0) (d : Nat) : level d cs = some d := by
  have := level_add h d
  rwa [Nat.zero_add] at this

/-- A raw text that closes exactly the parentheses that it opens, without
quotes. -/
def RawText.IsBalanced : RawText → Prop
  | copied s => level 0 s.toList = some 0
  | format s _ => level 0 s.toList = some 0

instance : DecidablePred RawText.IsBalanced
  | .copied s => inferInstanceAs (Decidable (level 0 s.toList = some 0))
  | .format s _ => inferInstanceAs (Decidable (level 0 s.toList = some 0))

/-! ## Fragments -/

namespace Fragment

/-- A fragment that was written to its end is at the level at which it
began. -/
def Balanced (f : Fragment) : Prop := f.stop = none → ∀ d, level d f.chars = some d

variable {a b f : Fragment}

theorem balanced_text {s : String} (h : ∀ d, level d s.toList = some d) : (text s).Balanced := by
  intro _ d
  rw [chars_text]
  exact h d

theorem balanced_arg (name? : Option String) (v : Scalar) :
    (ofPieces [.arg name? v]).Balanced := by
  intro _ d
  have chars : (ofPieces [.arg name? v]).chars = ['?'] := by simp [chars, ofPieces, Piece.sql]
  rw [chars]
  rfl

theorem Balanced.append (ha : a.Balanced) (hb : b.Balanced) : (a ++ b).Balanced := by
  intro h d
  obtain ⟨hna, hnb⟩ := stop_append_eq_none.mp h
  rw [chars_append hna, level_append, ha hna, Option.bind_some, hb hnb]

theorem level_opens {s : String} (h : opens s = true) : level d s.toList = some (d + 1) := by
  obtain ⟨hlast, hplain⟩ := (Bool.and_eq_true _ _).mp h
  obtain ⟨cs, hs⟩ := List.getLast?_eq_some_iff.mp (of_decide_eq_true hlast)
  rw [hs, List.dropLast_concat] at hplain
  rw [hs, level_append, level_plain hplain]
  rfl

theorem level_closes {s : String} (h : closes s = true) : level (d + 1) s.toList = some d := by
  obtain ⟨hhead, hplain⟩ := (Bool.and_eq_true _ _).mp h
  obtain ⟨cs, hs⟩ := List.head?_eq_some_iff.mp (of_decide_eq_true hhead)
  rw [hs, List.tail_cons] at hplain
  rw [hs, level_closing, level_plain hplain]

theorem Balanced.enclosed {s t : String} (hs : opens s = true) (ht : closes t = true)
    (ha : a.Balanced) : (text s ++ a ++ text t).Balanced := by
  intro h d
  obtain ⟨h, -⟩ := stop_append_eq_none.mp h
  have hna := (stop_append_eq_none.mp h).2
  rw [chars_append h, chars_append (stop_text s), chars_text, chars_text, level_append,
    level_append, level_opens hs, Option.bind_some, ha hna, Option.bind_some, level_closes ht]

theorem level_names {names : List String}
    (h : ∀ s ∈ names, (RawText.copied s).IsBalanced) :
    level 0 (String.intercalate ", " names).toList = some 0 := by
  refine names_induction rfl (fun a b ha hb => ?_) rfl names h
  rw [level_append, ha, Option.bind_some, hb]

/-! ## Formats -/

theorem chars_ofPieces_append (ps qs : List Piece) :
    (ofPieces (ps ++ qs)).chars = (ofPieces ps).chars ++ (ofPieces qs).chars :=
  List.flatMap_append

theorem chars_flush (reversed : List Char) :
    (ofPieces (Template.flush reversed)).chars = reversed.reverse := by
  rw [Template.flush]
  split
  · rename_i h
    rw [List.isEmpty_iff.mp h]
    rfl
  · simp [chars, ofPieces, Piece.sql]

/-- The pieces of a cut format, with a question mark for each place, are the
format again. -/
theorem chars_ofMarks (cs reversed : List Char) :
    (ofPieces (Template.ofMarks reversed (Mark.ofChars cs)).head ++
      Template.leftover (Template.ofMarks reversed (Mark.ofChars cs)).tails).chars =
        reversed.reverse ++ cs := by
  rw [chars_append rfl]
  -- Characters are gathered up to the next question mark, where a piece is cut off.
  induction cs using Mark.chars_induction generalizing reversed with
  | nil =>
      rw [Mark.ofChars, Template.ofMarks, chars_flush]
      rfl
  | pair cs ih =>
      have ih := ih []
      rw [Mark.ofChars, Template.ofMarks, chars_ofPieces_append, chars_flush, List.append_assoc]
      exact congrArg (reversed.reverse ++ '?' :: '?' :: ·) ih
  | lone cs hcs ih =>
      have ih := ih []
      rw [Mark.ofChars_lone hcs, Template.ofMarks, chars_flush]
      rw [Template.leftover, List.flatMap_cons, chars_ofPieces_append]
      exact congrArg (reversed.reverse ++ '?' :: ·) ih
  | other c cs hc ih =>
      rw [Mark.ofChars_cons_of_ne hc, Template.ofMarks, ih, List.reverse_cons, List.append_assoc]
      rfl

theorem chars_leftover_cons (tail : List Piece) (tails : List (List Piece)) :
    (Template.leftover (tail :: tails)).chars =
      '?' :: ((ofPieces tail).chars ++ (Template.leftover tails).chars) := by
  rw [Template.leftover, List.flatMap_cons, chars_ofPieces_append]
  rfl

/-- A fragment in a place stands at the level of the place. -/
theorem level_fill {fs : List Fragment} (h : ∀ f ∈ fs, f.Balanced) :
    ∀ {tails : List (List Piece)}, (Template.fill tails fs).stop = none →
      ∀ d, level d (Template.fill tails fs).chars = level d (Template.leftover tails).chars := by
  induction fs with
  | nil =>
      intro tails _ d
      rw [Template.fill]
  | cons f fs ih =>
      obtain ⟨hf, hfs⟩ := List.forall_mem_cons.mp h
      intro tails hstop d
      cases tails with
      | nil => rfl
      | cons tail tails =>
          rw [Template.fill] at hstop ⊢
          obtain ⟨hfront, hrest⟩ := stop_append_eq_none.mp hstop
          obtain ⟨hnone, -⟩ := stop_append_eq_none.mp hfront
          have place : level d ('?' :: ((ofPieces tail).chars ++ (Template.leftover tails).chars)) =
              level d ((ofPieces tail).chars ++ (Template.leftover tails).chars) :=
            level_cons (by decide)
          rw [chars_append hfront, chars_append hnone, chars_leftover_cons, place,
            List.append_assoc, level_append, hf hnone, Option.bind_some, level_append,
            level_append]
          exact congrArg _ (funext (ih hfs hrest))

theorem Balanced.filled {format : String} {fs : List Fragment}
    (hformat : level 0 format.toList = some 0) (h : ∀ f ∈ fs, f.Balanced) :
    (Template.filled format fs).Balanced := by
  intro hstop d
  have hfill := level_fill h (stop_append_eq_none.mp hstop).2
  have spelled := chars_ofMarks format.toList []
  rw [chars_append rfl] at spelled
  rw [Template.filled, chars_append rfl, level_append]
  simp only [hfill]
  rw [← level_append]
  exact (congrArg (level d) spelled).trans (level_of_zero hformat d)

/-- Rendering closes what it opens. -/
theorem kept_balanced : Kept Balanced RawText.IsBalanced where
  empty := fun _ _ => rfl
  fail := fun _ h => nomatch h
  arg := balanced_arg none
  namedArg := fun name => balanced_arg (some name)
  words := fun _ h => balanced_text fun _ => level_plain h
  copied := fun _ h => balanced_text (level_of_zero h)
  names := fun _ h => balanced_text (level_of_zero (level_names h))
  append := fun _ _ ha hb => ha.append hb
  enclosed := fun _ _ _ hs ht ha => ha.enclosed hs ht
  filled := fun _ _ hformat h => Balanced.filled hformat h

end Fragment

/-- A statement of balanced raw texts is balanced. -/
theorem Query.balanced {q : Query} (h : ∀ t ∈ q.texts, t.IsBalanced) (toplevel? : Option Bool) :
    (q.sql toplevel?).Balanced :=
  Fragment.kept_balanced.query q h toplevel?

end SqlCompose
