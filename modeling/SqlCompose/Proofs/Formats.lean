import SqlCompose.Proofs.Alignment
import SqlCompose.Statement.Render

/-!
# Filled formats

A format is cut at its places, and a place is always the last question
mark of its run (`Mark.spaced_ofChars`): what stands behind it is either
the end of the format or a character that is no question mark. So the text
between two operands keeps them apart, whatever the operands are, and a
format with an operand for each place is aligned if its operands are
(`aligned_format`).
-/

namespace SqlCompose

/-! ## Marks of a format -/

namespace Mark

/-- Not beginning with a question mark of either kind. -/
def startsPlain : List Mark → Prop
  | question :: _ => False
  | place :: _ => False
  | _ => True

/-- Question marks are marked as such, and none follows a place at once. -/
def Spaced : List Mark → Prop
  | [] => True
  | char c :: rest => c ≠ '?' ∧ Spaced rest
  | question :: rest => Spaced rest
  | place :: rest => startsPlain rest ∧ Spaced rest

theorem startsPlain_ofChars {cs : List Char} (h : cs.head? ≠ some '?') :
    startsPlain (ofChars cs) := by
  cases cs with
  | nil => trivial
  | cons c cs =>
      rw [ofChars_cons_of_ne fun hc => h (congrArg some hc)]
      trivial

/-- A place is read only from the last question mark of a run. -/
theorem spaced_ofChars (cs : List Char) : Spaced (ofChars cs) := by
  induction cs using chars_induction with
  | nil => trivial
  | pair cs ih => exact ih
  | lone cs hcs ih =>
      rw [ofChars_lone hcs]
      exact ⟨startsPlain_ofChars hcs, ih⟩
  | other c cs hc ih =>
      rw [ofChars_cons_of_ne hc]
      exact ⟨hc, ih⟩

end Mark

namespace Template

open Fragment

/-! ## The cut format -/

/-- Tails that keep the operands before them apart: each opens, except that
the last one may be empty. -/
def Separating : List (List Piece) → Prop
  | [] => True
  | [tail] => (ofPieces tail).Closed ∧ (ofPieces tail).Trailing
  | tail :: rest => (ofPieces tail).Opening ∧ Separating rest

/-- An opening tail may stand before all others. -/
theorem Separating.cons {tail : List Piece} {tails : List (List Piece)}
    (h : (ofPieces tail).Opening) (ht : Separating tails) : Separating (tail :: tails) := by
  cases tails with
  | nil => exact ⟨h.toClosed, h.trailing⟩
  | cons t ts => exact ⟨h, ht⟩

/-- The pieces of a format are texts with paired question marks. -/
def Texts (pieces : List Piece) : Prop :=
  ∀ p ∈ pieces, ∃ s, p = .text s ∧ Mark.evenRuns false s.toList = true

theorem texts_flush {reversed : List Char} (h : '?' ∉ reversed) : Texts (flush reversed) := by
  intro p hp
  rw [flush] at hp
  split at hp
  · exact nomatch hp
  · refine ⟨_, List.mem_singleton.mp hp, Mark.evenRuns_of_notMem ?_⟩
    rwa [String.toList_ofList, List.mem_reverse]

/-- A doubled question mark before other pieces. -/
theorem texts_question {pieces : List Piece} (h : Texts pieces) : Texts (.text "??" :: pieces) := by
  intro p hp
  rcases List.mem_cons.mp hp with rfl | hp
  · exact ⟨"??", rfl, rfl⟩
  · exact h p hp

/-- Text gathered before a cut opens the pieces that it begins. -/
theorem opening_flush {reversed : List Char} (h : '?' ∉ reversed) (hne : reversed ≠ [])
    (pieces : List Piece) (hp : Texts pieces) :
    (ofPieces (flush reversed ++ pieces)).Opening where
  toClosed := closed_ofTexts fun p h' =>
    (List.mem_append.mp h').elim (texts_flush h p) (hp p)
  opens := by
    obtain ⟨c, cs, hr⟩ := List.exists_cons_of_ne_nil (mt List.reverse_eq_nil_iff.mp hne)
    refine ⟨c, cs ++ (ofPieces pieces).chars, ?_, ?_⟩
    · rw [flush, if_neg (by simpa using hne)]
      simp [chars, ofPieces, Piece.sql, hr]
    · rintro rfl
      exact h (List.mem_reverse.mp (hr ▸ List.mem_cons_self))

theorem texts_head {ms : List Mark} (hms : Mark.Spaced ms) {reversed : List Char}
    (hr : '?' ∉ reversed) : Texts (ofMarks reversed ms).head := by
  induction ms generalizing reversed with
  | nil => exact texts_flush hr
  | cons m ms ih =>
      cases m with
      | char c => exact ih hms.2 (List.not_mem_cons_of_ne_of_not_mem hms.1.symm hr)
      | place => exact texts_flush hr
      | question =>
          intro p hp
          rcases List.mem_append.mp hp with hp | hp
          · exact texts_flush hr p hp
          · exact texts_question (ih hms List.not_mem_nil) p hp

/-- The head of a format opens once text was gathered for it. -/
theorem opening_head {ms : List Mark} (hms : Mark.Spaced ms) {reversed : List Char}
    (hr : '?' ∉ reversed) (hne : reversed ≠ []) :
    (ofPieces (ofMarks reversed ms).head).Opening := by
  induction ms generalizing reversed with
  | nil =>
      rw [ofMarks, ← List.append_nil (flush reversed)]
      exact opening_flush hr hne [] nofun
  | cons m ms ih =>
      cases m with
      | char c =>
          exact ih hms.2 (List.not_mem_cons_of_ne_of_not_mem hms.1.symm hr) (List.cons_ne_nil _ _)
      | place =>
          rw [ofMarks, ← List.append_nil (flush reversed)]
          exact opening_flush hr hne [] nofun
      | question =>
          have hms : Mark.Spaced ms := hms
          exact opening_flush hr hne _ (texts_question (texts_head hms List.not_mem_nil))

theorem separating_tails {ms : List Mark} (hms : Mark.Spaced ms) (reversed : List Char) :
    Separating (ofMarks reversed ms).tails := by
  induction ms generalizing reversed with
  | nil => trivial
  | cons m ms ih =>
      cases m with
      | char c => exact ih hms.2 _
      | question => exact ih hms _
      | place =>
          obtain ⟨hplain, hms⟩ := hms
          cases ms with
          | nil => exact ⟨closed_empty, trailing_empty⟩
          | cons m ms =>
              -- What follows the place begins with a character, so the next tail is not empty.
              cases m with
              | char c =>
                  refine Separating.cons (opening_head hms.2 ?_ (List.cons_ne_nil _ _)) (ih hms _)
                  exact List.not_mem_cons_of_ne_of_not_mem hms.1.symm List.not_mem_nil
              | question => exact hplain.elim
              | place => exact hplain.elim

/-- A format has one tail for each of its places. -/
theorem length_tails (ms : List Mark) (reversed : List Char) :
    (ofMarks reversed ms).tails.length = Mark.places ms := by
  induction ms generalizing reversed with
  | nil => rfl
  | cons m ms ih =>
      cases m with
      | char c => exact ih _
      | question => exact ih _
      | place =>
          rw [ofMarks, List.length_cons, ih, Mark.places, Mark.places,
            List.countP_cons_of_pos rfl]

theorem closed_head (format : String) : (ofPieces (ofFormat format).head).Closed :=
  closed_ofTexts (texts_head (Mark.spaced_ofChars _) List.not_mem_nil)

theorem separating_ofFormat (format : String) : Separating (ofFormat format).tails :=
  separating_tails (Mark.spaced_ofChars _) []

end Template

/-! ## Operands in their places -/

open Fragment

/-- Operands behind which each tail is written. None is left over. -/
theorem aligned_fillSql {excluded : List String} {tails : List (List Piece)}
    (ht : Template.Separating tails) {os : List Operand} (hlen : tails.length ≤ os.length)
    (hos : ∀ o ∈ os, (o.sql excluded).Aligned) : (fillSql excluded tails os).Aligned := by
  induction os generalizing tails with
  | nil =>
      obtain rfl := List.length_eq_zero_iff.mp (Nat.le_zero.mp hlen)
      exact closed_empty.toAligned
  | cons o os ih =>
      have ho := hos o List.mem_cons_self
      have hos := fun o' ho' => hos o' (List.mem_cons_of_mem _ ho')
      match tails, ht with
      | [], _ => exact closed_empty.toAligned
      | [tail], ht =>
          have hrest : fillSql excluded [] os = empty := by
            cases os with
            | nil => rfl
            | cons _ _ => rfl
          rw [fillSql, hrest, append_empty]
          exact ho.append ht.2
      | tail :: next :: tails, ht =>
          rw [fillSql]
          exact (ho.append_opening ht.1).append (ih ht.2 (Nat.le_of_succ_le_succ hlen) hos)

/-- A format with an operand for each place. -/
theorem aligned_format {format : String} {operands : List Operand}
    (hformat : Mark.places (Mark.ofText format) ≤ operands.length)
    (hos : ∀ o ∈ operands, ∀ excluded, (o.sql excluded).Aligned) (excluded : List String) :
    (ofPieces (Template.ofFormat format).head ++
      fillSql excluded (Template.ofFormat format).tails operands).Aligned := by
  refine (Template.closed_head format).append (aligned_fillSql ?_ ?_ fun o ho => hos o ho excluded)
  · exact Template.separating_ofFormat format
  · rwa [Template.ofFormat, Template.length_tails]

end SqlCompose
