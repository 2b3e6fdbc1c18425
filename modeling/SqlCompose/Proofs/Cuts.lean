import SqlCompose.Log.Cut

/-!
# Where a long statement is cut

The places between two characters of a text are the sizes of its beginnings
(`isValid_size`). The search for a cut stops at the last of them that is not
behind the limit (`lastPlace_le`, `le_lastPlace`), and as a character takes at
most four bytes, it comes upon one within three steps (`le_lastPlace_add`). So
what is kept is the longest beginning of whole characters that fits
(`fitting_longest`).
-/

namespace SqlCompose.Cut

variable {text : String} {n : Nat}

/-! ## Places between characters -/

/-- A beginning of a text ends between two of its characters. -/
theorem isValid_size {s rest : String} (h : text = s ++ rest) :
    String.Pos.Raw.IsValid text ⟨s.utf8ByteSize⟩ :=
  String.Pos.Raw.isValid_iff_exists_append.mpr ⟨s, rest, h, rfl⟩

theorem exists_append (place : text.Pos) :
    ∃ s rest, text = s ++ rest ∧ place.offset.byteIdx = s.utf8ByteSize := by
  obtain ⟨s, rest, h, offset⟩ := String.Pos.Raw.isValid_iff_exists_append.mp place.isValid
  exact ⟨s, rest, h, congrArg String.Pos.Raw.byteIdx offset⟩

/-- The bytes before a place are those of a beginning of the text. -/
theorem extract_eq (place : text.Pos) {s rest : String} (h : text = s ++ rest)
    (size : place.offset.byteIdx = s.utf8ByteSize) : text.extract text.startPos place = s := by
  subst h
  refine String.toByteArray_inj.mp ?_
  rw [String.toByteArray_extract, String.toByteArray_append, size]
  exact ByteArray.extract_append_eq_left rfl

/-! ## The search -/

theorem lastPlace_le (text : String) (n : Nat) : (lastPlace text n).offset.byteIdx ≤ n := by
  induction n with
  | zero => exact Nat.le_refl 0
  | succ n ih =>
      rw [lastPlace]
      split
      · exact Nat.le_refl _
      · exact Nat.le_succ_of_le ih

/-- No place between the one found and the start of the search is passed over. -/
theorem le_lastPlace {k : Nat} (place : String.Pos.Raw.IsValid text ⟨k⟩) (before : k ≤ n) :
    k ≤ (lastPlace text n).offset.byteIdx := by
  induction n with
  | zero => exact before
  | succ n ih =>
      rw [lastPlace]
      split
      case isTrue => exact before
      case isFalse inside =>
        have other : k ≠ n + 1 := fun same => inside (same ▸ place)
        exact ih (by omega)

/-- The next place behind the one found is behind the start of the search, and
there is only one character between them. -/
theorem le_lastPlace_add (within : n < text.utf8ByteSize) :
    n ≤ (lastPlace text n).offset.byteIdx + 3 := by
  obtain ⟨s, rest, h, size⟩ := exists_append (lastPlace text n)
  have bound := lastPlace_le text n
  obtain ⟨c, cs, chars⟩ : ∃ c cs, rest.toList = c :: cs := by
    refine List.exists_cons_of_ne_nil fun none => ?_
    rw [String.toList_eq_nil_iff] at none
    rw [h, none, String.append_empty] at within
    omega
  have next : text = (s ++ String.singleton c) ++ String.ofList cs := by
    refine String.toList_inj.mp ?_
    rw [h]
    simp [chars]
  have width : (s ++ String.singleton c).utf8ByteSize = s.utf8ByteSize + c.utf8Size := by
    rw [String.utf8ByteSize_append, String.utf8ByteSize_singleton]
  have four := c.utf8Size_le_four
  by_cases reached : (s ++ String.singleton c).utf8ByteSize ≤ n
  · have later := le_lastPlace (isValid_size next) reached
    have positive := c.utf8Size_pos
    omega
  · omega

/-! ## What is kept -/

theorem fitting_of_le (fits : text.utf8ByteSize ≤ n) : fitting text n = text := if_pos fits

/-- Of a text that does not fit, the bytes before the place found are kept. -/
theorem fitting_of_lt (long : n < text.utf8ByteSize) :
    fitting text n = text.extract text.startPos (lastPlace text n) := if_neg (Nat.not_le.mpr long)

theorem size_fitting_of_lt (long : n < text.utf8ByteSize) :
    (fitting text n).utf8ByteSize = (lastPlace text n).offset.byteIdx := by
  obtain ⟨s, rest, h, size⟩ := exists_append (lastPlace text n)
  rw [fitting_of_lt long, extract_eq _ h size, size]

theorem exists_rest (text : String) (n : Nat) : ∃ rest, text = fitting text n ++ rest := by
  rcases Nat.lt_or_ge n text.utf8ByteSize with long | fits
  · obtain ⟨s, rest, h, size⟩ := exists_append (lastPlace text n)
    refine ⟨rest, ?_⟩
    rw [fitting_of_lt long, extract_eq _ h size]
    exact h
  · exact ⟨"", by rw [fitting_of_le fits, String.append_empty]⟩

theorem size_fitting_le (text : String) (n : Nat) : (fitting text n).utf8ByteSize ≤ n := by
  rcases Nat.lt_or_ge n text.utf8ByteSize with long | fits
  · rw [size_fitting_of_lt long]
    exact lastPlace_le text n
  · rwa [fitting_of_le fits]

/-- No beginning of the text that fits is longer than what is kept. -/
theorem size_le_fitting {s rest : String} (h : text = s ++ rest) (fits : s.utf8ByteSize ≤ n) :
    s.utf8ByteSize ≤ (fitting text n).utf8ByteSize := by
  rcases Nat.lt_or_ge n text.utf8ByteSize with long | whole
  · rw [size_fitting_of_lt long]
    exact le_lastPlace (isValid_size h) fits
  · rw [fitting_of_le whole, h, String.utf8ByteSize_append]
    exact Nat.le_add_right _ _

/-- Of two beginnings of a text, the one of fewer bytes is a beginning of the
other. -/
theorem exists_more {s s' r r' : String} (h : s ++ r = s' ++ r')
    (size : s.utf8ByteSize ≤ s'.utf8ByteSize) : ∃ more, s' = s ++ more := by
  have chars := congrArg String.toList h
  rw [String.toList_append, String.toList_append] at chars
  rcases List.append_eq_append_iff.mp chars with ⟨more, split, -⟩ | ⟨more, split, -⟩
  · refine ⟨String.ofList more, String.toList_inj.mp ?_⟩
    rw [split, String.toList_append, String.toList_ofList]
  · have longer : s = s' ++ String.ofList more := by
      refine String.toList_inj.mp ?_
      rw [split, String.toList_append, String.toList_ofList]
    have none : String.ofList more = "" := by
      rw [longer, String.utf8ByteSize_append] at size
      exact String.utf8ByteSize_eq_zero_iff.mp (by omega)
    exact ⟨"", by rw [longer, none, String.append_empty, String.append_empty]⟩

/-- What is kept of a text is its longest beginning of whole characters that takes
at most the given number of bytes; a text that fits is kept whole. For a text that
does not, the search passes over at most three places, each inside a character,
stops between two characters, and the bytes before this place are kept. So a text
that fits is shown as it is, and any other one as what is kept and three dots. -/
theorem fitting_longest (text : String) (limit : Nat) :
    (text.utf8ByteSize ≤ limit → fitting text limit = text) ∧
    (∃ rest, text = fitting text limit ++ rest) ∧
    (fitting text limit).utf8ByteSize ≤ limit ∧
    (∀ s rest : String, text = s ++ rest → s.utf8ByteSize ≤ limit →
      ∃ more, fitting text limit = s ++ more) ∧
    (limit < text.utf8ByteSize →
      let stop := (lastPlace text limit).offset.byteIdx
      stop ≤ limit ∧ limit ≤ stop + 3 ∧
        (∀ k, stop < k → k ≤ limit → ¬String.Pos.Raw.IsValid text ⟨k⟩) ∧
        String.Pos.Raw.IsValid text ⟨stop⟩ ∧
        (fitting text limit).toByteArray = text.toByteArray.extract 0 stop) ∧
    shorten (some limit) text =
      if text.utf8ByteSize ≤ limit then text else fitting text limit ++ "..." := by
  obtain ⟨rest, split⟩ := exists_rest text limit
  refine ⟨fitting_of_le, ⟨rest, split⟩, size_fitting_le text limit, ?longest, ?search, ?shown⟩
  case longest =>
    intro s rest' h fits
    exact exists_more (h.symm.trans split) (size_le_fitting h fits)
  case search =>
    intro long stop
    refine ⟨lastPlace_le text limit, le_lastPlace_add long, ?passed, (lastPlace text limit).isValid,
      ?kept⟩
    case passed =>
      intro k behind within place
      exact Nat.not_le.mpr behind (le_lastPlace place within)
    case kept =>
      rw [fitting_of_lt long, String.toByteArray_extract]
      rfl
  case shown =>
    rw [shorten]
    split
    case isTrue long => rw [if_neg (Nat.not_le.mpr long)]
    case isFalse fits => rw [if_pos (Nat.not_lt.mp fits)]

/-- A limit inside a character of four bytes, and one that the text just meets. -/
theorem fitting_longest_inside :
    let text := "a😀b"
    text.utf8ByteSize ≤ 6 ∧ fitting text 6 = text ∧
      3 < text.utf8ByteSize ∧ text = "a" ++ "😀b" ∧ "a".utf8ByteSize ≤ 3 ∧
      (∃ more, fitting text 3 = "a" ++ more) ∧
      (lastPlace text 3).offset.byteIdx = 1 ∧
      (∀ k, 1 < k → k ≤ 3 → ¬String.Pos.Raw.IsValid text ⟨k⟩) ∧
      (fitting text 3).toByteArray = text.toByteArray.extract 0 1 ∧
      shorten (some 3) text = "a..." := by
  intro text
  have fits : text.utf8ByteSize ≤ 6 := by decide
  have long : 3 < text.utf8ByteSize := by decide
  have begins : text = "a" ++ "😀b" := by decide
  have stop : (lastPlace text 3).offset.byteIdx = 1 := by decide +kernel
  obtain ⟨-, -, -, longest, search, shown⟩ := fitting_longest text 3
  obtain ⟨-, -, passed, -, kept⟩ := search long
  rw [stop] at passed kept
  refine ⟨fits, (fitting_longest text 6).1 fits, long, begins, by decide,
    longest "a" "😀b" begins (by decide), stop, passed, kept, shown.trans ?_⟩
  decide +kernel

end SqlCompose.Cut
