import SqlCompose.Proofs.Fragment
import SqlCompose.Proofs.Marks

/-!
# Placeholders in step with arguments

A fragment is *aligned* if the text it writes, read mark by mark, has a
place exactly where the fragment has an argument. Reading pairs question
marks from the left, so this is not a property of the pieces one by one: a
placeholder behind which a question mark comes to stand is read as a
literal question mark.

What can be put behind what is therefore sorted by the two ends of a
fragment. A `Closed` fragment does not end in a placeholder, so anything
aligned may follow it. A `Trailing` one does not begin with a question
mark, so it may follow anything aligned. An `Opening` one, such as a
keyword or a comma, is both and is not empty, so it separates what stands
before it from what stands behind it.

All four speak of what was written even if writing stopped; only then is
nothing known about what `Closed` would promise of the end.
-/

namespace SqlCompose

namespace Piece

/-- The marks that a piece stands for. -/
def marks : Piece → List Mark
  | text s => Mark.ofText s
  | arg _ _ => [.place]

/-- A piece with its argument written into the text and `?` for `??`. -/
def inlined : Piece → List Char
  | text s => Mark.unescape s.toList
  | arg _ v => v.literal.toList

end Piece

namespace Fragment

variable {a b f : Fragment}

/-- The text of a fragment by its characters. -/
def chars (f : Fragment) : List Char := f.pieces.flatMap (·.sql.toList)

/-- The marks that the pieces stand for. -/
def marks (f : Fragment) : List Mark := f.pieces.flatMap Piece.marks

/-- The text with the literal of each argument in its own place and `?` for
each `??`. -/
def inlined (f : Fragment) : String := String.ofList (f.pieces.flatMap Piece.inlined)

theorem toList_sql (f : Fragment) : f.sql.toList = f.chars := by
  rw [sql, String.toList_join, List.flatMap_map]
  rfl

theorem chars_append (h : a.stop = none) : (a ++ b).chars = a.chars ++ b.chars := by
  rw [chars, pieces_append h, List.flatMap_append]
  rfl

theorem marks_append (h : a.stop = none) : (a ++ b).marks = a.marks ++ b.marks := by
  rw [marks, pieces_append h, List.flatMap_append]
  rfl

@[simp] theorem chars_text (s : String) : (text s).chars = s.toList := by
  simp [chars, text, Piece.sql]

/-! ## The two ends of a fragment -/

/-- Texts have their question marks in pairs, and the places that are read
from the text are those of the arguments, unless a question mark follows. -/
structure Aligned (f : Fragment) : Prop where
  paired : ∀ s, Piece.text s ∈ f.pieces → Mark.evenRuns false s.toList = true
  reads : ∀ rest : List Char, rest.head? ≠ some '?' →
    Mark.ofChars (f.chars ++ rest) = f.marks ++ Mark.ofChars rest

/-- Aligned, whatever follows. -/
structure Closed (f : Fragment) : Prop extends Aligned f where
  closes : f.stop = none → ∀ rest : List Char,
    Mark.ofChars (f.chars ++ rest) = f.marks ++ Mark.ofChars rest

/-- Aligned, and not beginning with a question mark. -/
structure Trailing (f : Fragment) : Prop extends Aligned f where
  plain : f.chars.head? ≠ some '?'

/-- Closed, and beginning with a character that is not a question mark. -/
structure Opening (f : Fragment) : Prop extends Closed f where
  opens : ∃ c cs, f.chars = c :: cs ∧ c ≠ '?'

theorem Opening.head? (h : f.Opening) (rest : List Char) :
    (f.chars ++ rest).head? ≠ some '?' := by
  obtain ⟨c, cs, hf, hc⟩ := h.opens
  rw [hf, List.cons_append, List.head?_cons]
  exact fun h => hc (Option.some.inj h)

theorem Opening.trailing (h : f.Opening) : f.Trailing where
  toAligned := h.toAligned
  plain := by
    have := h.head? []
    rwa [List.append_nil] at this

/-- Trailing text keeps a question mark away from what stands before. -/
theorem Trailing.head? (h : f.Trailing) {rest : List Char} (hr : rest.head? ≠ some '?') :
    (f.chars ++ rest).head? ≠ some '?' := by
  cases hf : f.chars with
  | nil => exact hr
  | cons c cs =>
      have hc := h.plain
      rw [hf] at hc
      exact hc

/-! ## Putting fragments together -/

theorem Closed.append (ha : a.Closed) (hb : b.Aligned) : (a ++ b).Aligned := by
  cases h : a.stop with
  | some e =>
      -- Nothing is written behind a fragment that stopped.
      rw [append_of_stop h]
      exact ha.toAligned
  | none =>
      refine ⟨fun s hs => ?_, fun rest hr => ?_⟩
      · rw [pieces_append h, List.mem_append] at hs
        exact hs.elim (ha.paired s) (hb.paired s)
      · rw [chars_append h, marks_append h, List.append_assoc, ha.closes h, hb.reads rest hr,
          List.append_assoc]

theorem Closed.append_closed (ha : a.Closed) (hb : b.Closed) : (a ++ b).Closed where
  toAligned := ha.append hb.toAligned
  closes := fun h rest => by
    obtain ⟨hna, hnb⟩ := stop_append_eq_none.mp h
    rw [chars_append hna, marks_append hna, List.append_assoc, ha.closes hna, hb.closes hnb,
      List.append_assoc]

theorem Aligned.append (ha : a.Aligned) (hb : b.Trailing) : (a ++ b).Aligned := by
  cases h : a.stop with
  | some e =>
      rw [append_of_stop h]
      exact ha
  | none =>
      refine ⟨fun s hs => ?_, fun rest hr => ?_⟩
      · rw [pieces_append h, List.mem_append] at hs
        exact hs.elim (ha.paired s) (hb.paired s)
      · rw [chars_append h, marks_append h, List.append_assoc, ha.reads _ (hb.head? hr),
          hb.reads rest hr, List.append_assoc]

/-- What opens behind an aligned fragment closes it. -/
theorem Aligned.append_opening (ha : a.Aligned) (hb : b.Opening) : (a ++ b).Closed where
  toAligned := ha.append hb.trailing
  closes := fun h rest => by
    obtain ⟨hna, hnb⟩ := stop_append_eq_none.mp h
    rw [chars_append hna, marks_append hna, List.append_assoc, ha.reads _ (hb.head? rest),
      hb.closes hnb, List.append_assoc]

theorem Trailing.append (ha : a.Trailing) (hb : b.Trailing) : (a ++ b).Trailing where
  toAligned := ha.toAligned.append hb
  plain := by
    cases h : a.stop with
    | some e =>
        rw [append_of_stop h]
        exact ha.plain
    | none =>
        rw [chars_append h]
        exact ha.head? hb.plain

theorem Opening.append (ha : a.Opening) (hb : b.Aligned) : (a ++ b).Trailing where
  toAligned := ha.toClosed.append hb
  plain := by
    cases h : a.stop with
    | some e =>
        rw [append_of_stop h]
        exact ha.trailing.plain
    | none =>
        rw [chars_append h]
        exact ha.head? b.chars

/-! ## Pieces -/

/-- Not empty and without a question mark, as all texts of the grammar's own
are. -/
def isKeyword (s : String) : Bool := !s.toList.isEmpty && !s.toList.contains '?'

theorem closed_ofTexts {pieces : List Piece}
    (h : ∀ p ∈ pieces, ∃ s, p = .text s ∧ Mark.evenRuns false s.toList = true) :
    (ofPieces pieces).Closed := by
  have reads : ∀ rest : List Char, Mark.ofChars ((ofPieces pieces).chars ++ rest) =
      (ofPieces pieces).marks ++ Mark.ofChars rest := by
    intro rest
    simp only [chars, marks, ofPieces]
    induction pieces with
    | nil => rfl
    | cons p pieces ih =>
        obtain ⟨s, rfl, hs⟩ := h p List.mem_cons_self
        rw [List.flatMap_cons, List.flatMap_cons, List.append_assoc, List.append_assoc,
          ← ih fun q hq => h q (List.mem_cons_of_mem _ hq)]
        exact Mark.ofChars_append_of_evenRuns hs _
  refine ⟨⟨fun s hs => ?_, fun rest _ => reads rest⟩, fun _ => reads⟩
  obtain ⟨s', hs', hp⟩ := h _ hs
  cases hs'
  exact hp

theorem closed_text {s : String} (h : Mark.evenRuns false s.toList = true) :
    (text s).Closed :=
  closed_ofTexts fun _ hp => ⟨s, List.mem_singleton.mp hp, h⟩

theorem opening_text {s : String} (h : isKeyword s = true) : (text s).Opening := by
  simp only [isKeyword, Bool.and_eq_true, Bool.not_eq_true', List.contains_eq_mem,
    decide_eq_false_iff_not] at h
  refine ⟨closed_text (Mark.evenRuns_of_notMem h.2), ?_⟩
  rw [chars_text]
  cases hs : s.toList with
  | nil => exact absurd h.1 (by rw [hs]; simp)
  | cons c cs =>
      have hc := h.2
      rw [hs] at hc
      exact ⟨c, cs, rfl, (List.ne_of_not_mem_cons hc).symm⟩

theorem aligned_piece (name? : Option String) (v : Scalar) :
    (ofPieces [.arg name? v]).Aligned where
  paired := fun s hs => by cases List.mem_singleton.mp hs
  reads := fun rest hr => by
    have hchars : (ofPieces [.arg name? v]).chars = ['?'] := by
      simp [chars, ofPieces, Piece.sql]
    rw [hchars]
    exact Mark.ofChars_lone hr

theorem aligned_arg (v : Scalar) : (arg v).Aligned := aligned_piece none v

theorem aligned_namedArg (name : String) (v : Scalar) : (namedArg name v).Aligned :=
  aligned_piece (some name) v

theorem closed_empty : empty.Closed := closed_ofTexts fun _ hp => nomatch hp

theorem trailing_empty : empty.Trailing := ⟨closed_empty.toAligned, fun h => nomatch h⟩

theorem closed_fail (e : Error) : (fail e).Closed where
  paired := fun _ hs => nomatch hs
  reads := fun _ _ => rfl
  closes := fun h => nomatch h

/-! ## Compound fragments -/

theorem Closed.when (keep : Bool) (h : f.Closed) : (when keep f).Closed := by
  cases keep with
  | false => exact closed_empty
  | true => exact h

theorem Trailing.when (keep : Bool) (h : f.Trailing) : (when keep f).Trailing := by
  cases keep with
  | false => exact trailing_empty
  | true => exact h

/-- A text of the grammar's own separates what stands on its sides. -/
theorem Aligned.keyword {s : String} (ha : a.Aligned) (h : isKeyword s = true) :
    (a ++ text s).Closed :=
  ha.append_opening (opening_text h)

theorem Aligned.parens (h : f.Aligned) : (parens f).Closed :=
  ((opening_text rfl).toClosed.append h).keyword rfl

theorem Aligned.parensIf (wrap : Bool) (h : f.Aligned) : (parensIf wrap f).Aligned := by
  cases wrap with
  | false => exact h
  | true => exact h.parens.toAligned

theorem aligned_sepBy {separator : String} (h : isKeyword separator = true) :
    ∀ {fs : List Fragment}, (∀ f ∈ fs, f.Aligned) → (sepBy separator fs).Aligned
  | [], _ => closed_empty.toAligned
  | [f], hfs => hfs f List.mem_cons_self
  | f :: _ :: _, hfs =>
      ((hfs f List.mem_cons_self).keyword h).append
        (aligned_sepBy h fun g hg => hfs g (List.mem_cons_of_mem _ hg))

theorem aligned_commaList {items : List Fragment} (h : ∀ f ∈ items, f.Aligned) :
    (commaList items).Aligned :=
  aligned_sepBy rfl h

theorem trailing_clause {keyword : String} (hk : isKeyword keyword = true)
    {items : List Fragment} (h : ∀ f ∈ items, f.Aligned) : (clause keyword items).Trailing := by
  rw [clause]
  split
  · exact trailing_empty
  · exact (opening_text hk).append (aligned_commaList h)

/-! ## What alignment means for the text -/

/-- The text of an aligned fragment has its places where the arguments
are. -/
theorem Aligned.ofText_sql (h : f.Aligned) : Mark.ofText f.sql = f.marks := by
  have := h.reads [] (by simp)
  rwa [List.append_nil, Mark.ofChars, List.append_nil, ← toList_sql] at this

/-- Pieces in pairs have one place for each argument. -/
theorem places_pieces {pieces : List Piece}
    (h : ∀ s, Piece.text s ∈ pieces → Mark.evenRuns false s.toList = true) :
    Mark.places (pieces.flatMap Piece.marks) = (pieces.filterMap Piece.value?).length := by
  induction pieces with
  | nil => rfl
  | cons p pieces ih =>
      have ih := ih fun s hs => h s (List.mem_cons_of_mem _ hs)
      rw [Mark.places] at ih ⊢
      rw [List.flatMap_cons, List.countP_append, ih]
      cases p with
      | arg name? v => exact Nat.add_comm _ _
      | text s =>
          have hs := Mark.place_notMem_of_evenRuns (h s List.mem_cons_self)
          have hz : List.countP (· == Mark.place) (Mark.ofChars s.toList) = 0 :=
            List.countP_eq_zero.mpr fun m hm hp => hs (beq_iff_eq.mp hp ▸ hm)
          exact (congrArg (· + _) hz).trans (Nat.zero_add _)

/-- As many placeholders as arguments, even if writing stopped midway. -/
theorem Aligned.places (h : f.Aligned) : Mark.places (Mark.ofText f.sql) = f.args.length := by
  rw [h.ofText_sql]
  exact places_pieces h.paired

/-- Writing the arguments of pieces into their marks. -/
theorem inlineMarks_pieces {pieces : List Piece}
    (h : ∀ s, Piece.text s ∈ pieces → Mark.evenRuns false s.toList = true) :
    Placeholder.inlineMarks (pieces.flatMap Piece.marks) (pieces.filterMap Piece.value?) =
      .ok (pieces.flatMap Piece.inlined) := by
  induction pieces with
  | nil => rfl
  | cons p pieces ih =>
      have ih := ih fun s hs => h s (List.mem_cons_of_mem _ hs)
      cases p with
      | arg name? v =>
          change Placeholder.inlineMarks (.place :: pieces.flatMap Piece.marks)
            (v :: pieces.filterMap Piece.value?) = _
          rw [Placeholder.inlineMarks, ih]
          rfl
      | text s =>
          have hs := Mark.place_notMem_of_evenRuns (h s List.mem_cons_self)
          change Placeholder.inlineMarks (Mark.ofChars s.toList ++ pieces.flatMap Piece.marks)
            (pieces.filterMap Piece.value?) = _
          rw [Placeholder.inlineMarks_append hs, ih, ← Mark.unescape_eq]
          rfl

/-- Each argument of an aligned fragment is written where it belongs. -/
theorem Aligned.inlineQuestion (h : f.Aligned) :
    Placeholder.inlineQuestion f.sql f.args = .ok f.inlined := by
  have hm : Placeholder.inlineMarks (Mark.ofText f.sql) f.args =
      .ok (f.pieces.flatMap Piece.inlined) := by
    rw [h.ofText_sql]
    exact inlineMarks_pieces h.paired
  rw [Placeholder.inlineQuestion, hm]
  rfl

end Fragment

end SqlCompose
