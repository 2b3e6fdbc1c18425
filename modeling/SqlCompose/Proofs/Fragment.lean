import SqlCompose.Fragment

/-!
# The algebra of fragments

Fragments under `++` are a monoid with `Fragment.empty` as its unit. A
fragment that stopped absorbs all that is written after it, so whatever is
proved of `++` splits on whether the left side stopped: `append_of_stop`
and `append_of_run` are the only places where that split is made.

The views of a fragment (its text, its arguments and its error) follow the
pieces: they are additive as long as nothing stopped.
-/

namespace SqlCompose

namespace Fragment

variable {a b c : Fragment}

/-! ## The two cases of `++` -/

theorem append_of_stop {e : Error} (h : a.stop = some e) : a ++ b = a := by
  change append a b = a
  simp only [append, h]

theorem append_of_run (h : a.stop = none) :
    a ++ b = ⟨a.pieces ++ b.pieces, b.stop⟩ := by
  change append a b = _
  simp only [append, h]

theorem stop_append : (a ++ b).stop = a.stop.or b.stop := by
  cases h : a.stop with
  | none => rw [append_of_run h, Option.none_or]
  | some e => rw [append_of_stop h, h, Option.some_or]

/-- Two fragments are written to their end exactly if each of them is. -/
theorem stop_append_eq_none : (a ++ b).stop = none ↔ a.stop = none ∧ b.stop = none := by
  rw [stop_append, Option.or_eq_none_iff]

/-! ## The monoid -/

@[simp] theorem empty_append (a : Fragment) : empty ++ a = a := rfl

@[simp] theorem append_empty (a : Fragment) : a ++ empty = a := by
  cases h : a.stop with
  | none =>
      rw [append_of_run h]
      obtain ⟨pieces, stop⟩ := a
      obtain rfl : stop = none := h
      simp [empty]
  | some e => rw [append_of_stop h]

theorem append_assoc (a b c : Fragment) : a ++ b ++ c = a ++ (b ++ c) := by
  cases ha : a.stop with
  | some e => rw [append_of_stop ha, append_of_stop ha, append_of_stop ha]
  | none =>
      cases hb : b.stop with
      | some e =>
          have hab : (a ++ b).stop = some e := by rw [stop_append, ha, hb]; rfl
          rw [append_of_stop hab, append_of_stop hb]
      | none =>
          have hab : (a ++ b).stop = none := stop_append_eq_none.mpr ⟨ha, hb⟩
          rw [append_of_run hab, append_of_run ha, append_of_run hb, append_of_run ha,
            List.append_assoc]

theorem concat_append (xs ys : List Fragment) : concat (xs ++ ys) = concat xs ++ concat ys := by
  induction xs with
  | nil => rfl
  | cons x xs ih => rw [List.cons_append, concat, ih, concat, append_assoc]

theorem sepBy_cons_cons (separator : String) (a b : Fragment) (rest : List Fragment) :
    sepBy separator (a :: b :: rest) = a ++ text separator ++ sepBy separator (b :: rest) := rfl

/-! ## Views of `++` -/

theorem pieces_append (h : a.stop = none) : (a ++ b).pieces = a.pieces ++ b.pieces := by
  rw [append_of_run h]

theorem sql_append (h : a.stop = none) : (a ++ b).sql = a.sql ++ b.sql := by
  rw [sql, pieces_append h, List.map_append, String.join_append]
  rfl

theorem args_append (h : a.stop = none) : (a ++ b).args = a.args ++ b.args := by
  rw [args, pieces_append h, List.filterMap_append]
  rfl

@[simp] theorem sql_text (s : String) : (text s).sql = s := by
  simp [sql, text, Piece.sql]

@[simp] theorem args_text (s : String) : (text s).args = [] := rfl

@[simp] theorem stop_text (s : String) : (text s).stop = none := rfl

/-! ## Parentheses -/

theorem parensIf_false (a : Fragment) : parensIf false a = a := rfl

theorem parensIf_true (a : Fragment) : parensIf true a = parens a := rfl

@[simp] theorem stop_parens (a : Fragment) : (parens a).stop = a.stop := by
  rw [parens, stop_append, stop_append, stop_text, Option.none_or, stop_text, Option.or_none]

theorem args_parens (a : Fragment) : (parens a).args = a.args := by
  cases h : a.stop with
  | none =>
      have ha : (text "(" ++ a).stop = none := by rw [stop_append, stop_text, h]; rfl
      rw [parens, args_append ha, args_append (stop_text _), args_text, args_text,
        List.append_nil, List.nil_append]
  | some e =>
      have ha : (text "(" ++ a).stop = some e := by rw [stop_append, stop_text, h]; rfl
      rw [parens, append_of_stop ha, args_append (stop_text _), args_text, List.nil_append]

/-- The text in parentheses, if it was written to its end. -/
theorem sql_parens (h : a.stop = none) : (parens a).sql = "(" ++ a.sql ++ ")" := by
  have ha : (text "(" ++ a).stop = none := stop_append_eq_none.mpr ⟨rfl, h⟩
  rw [parens, sql_append ha, sql_append (stop_text _), sql_text, sql_text]

@[simp] theorem stop_parensIf (wrap : Bool) (a : Fragment) : (parensIf wrap a).stop = a.stop := by
  cases wrap with
  | false => rfl
  | true => exact stop_parens a

@[simp] theorem args_parensIf (wrap : Bool) (a : Fragment) : (parensIf wrap a).args = a.args := by
  cases wrap with
  | false => rfl
  | true => exact args_parens a

/-- A pair of parentheses is seen in a text. -/
theorem text_parens_ne (s : String) : "(" ++ s ++ ")" ≠ s := by
  intro heq
  have hlength := congrArg String.length heq
  rw [String.length_append, String.length_append] at hlength
  have hopen : "(".length = 1 := rfl
  omega

theorem sql_parens_ne (h : a.stop = none) : (parens a).sql ≠ a.sql := by
  rw [sql_parens h]
  exact text_parens_ne a.sql

theorem sql_parensIf_inj {v w : Bool} (h : a.stop = none) :
    (parensIf v a).sql = (parensIf w a).sql ↔ v = w := by
  cases v <;> cases w <;>
    simp [parensIf_false, parensIf_true, sql_parens_ne h, (sql_parens_ne h).symm]

/-! ## Frames -/

/-- A function of fragments that writes the same around all of them. -/
def Framed (frame : Fragment → Fragment) : Prop :=
  ∃ before after, ∀ f, frame f = before ++ f ++ after

theorem framed_id : Framed fun f => f := ⟨empty, empty, fun f => (append_empty f).symm⟩

variable {frame inner : Fragment → Fragment}

theorem Framed.comp (h : Framed frame) (hi : Framed inner) : Framed fun f => frame (inner f) := by
  obtain ⟨before, after, hf⟩ := h
  obtain ⟨before', after', hi⟩ := hi
  exact ⟨before ++ before', after' ++ after, fun f => by simp only [hf, hi, append_assoc]⟩

theorem Framed.append_left (a : Fragment) (h : Framed frame) : Framed fun f => a ++ frame f := by
  obtain ⟨before, after, hf⟩ := h
  exact ⟨a ++ before, after, fun f => by simp only [hf, append_assoc]⟩

theorem Framed.append_right (h : Framed frame) (b : Fragment) : Framed fun f => frame f ++ b := by
  obtain ⟨before, after, hf⟩ := h
  exact ⟨before, after ++ b, fun f => by simp only [hf, append_assoc]⟩

theorem Framed.parensIf (wrap : Bool) (h : Framed frame) :
    Framed fun f => parensIf wrap (frame f) := by
  cases wrap with
  | false => exact h
  | true => exact (h.append_left (text "(")).append_right (text ")")

theorem sepBy_cons (separator : String) (a : Fragment) {rest : List Fragment} (h : rest ≠ []) :
    sepBy separator (a :: rest) = a ++ text separator ++ sepBy separator rest := by
  cases rest with
  | nil => exact absurd rfl h
  | cons b rest => rfl

theorem framed_sepBy (separator : String) (as bs : List Fragment) :
    Framed fun f => sepBy separator (as ++ f :: bs) := by
  induction as with
  | nil =>
      cases bs with
      | nil => exact framed_id
      | cons b bs =>
          simp only [List.nil_append, sepBy_cons_cons, append_assoc]
          exact framed_id.append_right _
  | cons a as ih =>
      have hne : ∀ f, as ++ f :: bs ≠ [] := fun f => by simp
      simp only [List.cons_append, sepBy_cons separator a (hne _)]
      exact ih.append_left _

/-- What stops alike and has the same arguments does so in a frame. -/
theorem Framed.congr (h : Framed frame) (hstop : a.stop = b.stop) (hargs : a.args = b.args) :
    (frame a).stop = (frame b).stop ∧ (frame a).args = (frame b).args := by
  obtain ⟨before, after, hf⟩ := h
  rw [hf, hf]
  refine ⟨by simp only [stop_append, hstop], ?_⟩
  cases hbefore : before.stop with
  | some e => simp only [append_of_stop hbefore]
  | none =>
      cases hb : b.stop with
      | none =>
          have ha := stop_append_eq_none.mpr ⟨hbefore, hstop.trans hb⟩
          rw [args_append ha, args_append (stop_append_eq_none.mpr ⟨hbefore, hb⟩),
            args_append hbefore, args_append hbefore, hargs]
      | some e =>
          have ha : (before ++ a).stop = some e := by rw [stop_append, hbefore, hstop, hb]; rfl
          have hb : (before ++ b).stop = some e := by rw [stop_append, hbefore, hb]; rfl
          rw [append_of_stop ha, append_of_stop hb, args_append hbefore, args_append hbefore, hargs]

theorem Framed.stop_eq_none (h : Framed frame) (ha : (frame a).stop = none) : a.stop = none := by
  obtain ⟨before, after, hf⟩ := h
  rw [hf, stop_append_eq_none, stop_append_eq_none] at ha
  exact ha.1.2

/-- The texts in one frame are equal only if what stands in it is. -/
theorem Framed.sql_inj (h : Framed frame) (ha : (frame a).stop = none)
    (hb : (frame b).stop = none) : (frame a).sql = (frame b).sql ↔ a.sql = b.sql := by
  obtain ⟨before, after, hf⟩ := h
  rw [hf] at ha hb ⊢
  rw [hf]
  obtain ⟨ha, -⟩ := stop_append_eq_none.mp ha
  obtain ⟨hb, -⟩ := stop_append_eq_none.mp hb
  have hbefore := (stop_append_eq_none.mp ha).1
  rw [sql_append ha, sql_append hb, sql_append hbefore, sql_append hbefore]
  constructor
  · intro heq
    have hlist := congrArg String.toList heq
    simp only [String.toList_append, List.append_assoc, List.append_cancel_left_eq,
      List.append_cancel_right_eq] at hlist
    exact String.toList_inj.mp hlist
  · intro heq
    rw [heq]

end Fragment

end SqlCompose
