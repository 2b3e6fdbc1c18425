import SqlCompose.Proofs.Marks

/-!
# The two styles of placeholders

A text with `?` places is turned into one with numbered places
(`Placeholder.numbered`), and each style has readers of its own. They
agree if nothing in the text runs into a number: a digit behind a `$` would
make a placeholder of it, and a digit behind a place would lengthen the
number that the place is given (`Mark.apart`).

The numbered text is then read as the marks that it was written from, each
place with its number (`NumberedMark.ofChars_numberedFrom`). What is said
of counting and of writing arguments into a text is said of these marks
(`Placeholder.numberedMarks`) and proved along them.
-/

namespace SqlCompose

/-! ## Digits behind a number -/

namespace Mark

/-- A digit behind the mark would be read as a part of a number. -/
def takesDigit : Mark → Bool
  | char c => c == '$'
  | question => false
  | place => true

/-- The first mark is a digit. -/
def startsDigit : List Mark → Bool
  | char c :: _ => c.isDigit
  | _ => false

/-- No digit stands directly behind a dollar sign or a place. -/
def apart : List Mark → Bool
  | [] => true
  | m :: rest => !(m.takesDigit && startsDigit rest) && apart rest

theorem apart_cons {m : Mark} {rest : List Mark} (h : apart (m :: rest) = true) :
    (m.takesDigit = true → startsDigit rest = false) ∧ apart rest = true := by
  rw [apart, Bool.and_eq_true, Bool.not_eq_true', Bool.and_eq_false_imp] at h
  exact h

end Mark

namespace NumberedMark

/-- The digits of a placeholder. -/
def digits? : NumberedMark → Option String
  | place digits => some (String.ofList digits)
  | char _ => none

/-- Digits behind a `$` are taken up to the first other character. -/
theorem ofChars_digits {digits rest : List Char} (hdigits : ∀ c ∈ digits, c.isDigit = true)
    (hrest : ∀ c ∈ rest.head?, c.isDigit = false) (pending : List Char) :
    ofChars (some pending) (digits ++ rest) = close (pending ++ digits) :: ofChars none rest := by
  induction digits generalizing pending with
  | nil =>
      rw [List.nil_append, List.append_nil]
      cases rest with
      | nil => rfl
      | cons c rest =>
          have hc : ¬ c.isDigit = true := by
            rw [hrest c rfl]
            exact Bool.false_ne_true
          rw [ofChars, ofChars, if_neg hc]
          split <;> rfl
  | cons d digits ih =>
      obtain ⟨hd, hdigits⟩ := List.forall_mem_cons.mp hdigits
      rw [List.cons_append, ofChars, if_pos hd, ih hdigits, List.append_assoc,
        List.singleton_append]

end NumberedMark

namespace Placeholder

open Mark

/-! ## Reading a numbered text -/

/-- The marks that a numbered text is written from, the next place having
number `n + 1`. -/
def numberedMarks : (n : Nat) → List Mark → List NumberedMark
  | _, [] => []
  | n, .char c :: rest => .char c :: numberedMarks n rest
  | n, .question :: rest => .char '?' :: numberedMarks n rest
  | n, .place :: rest => .place (n + 1).repr.toList :: numberedMarks (n + 1) rest

theorem isDigit_of_mem_repr {n : Nat} : ∀ c ∈ n.repr.toList, c.isDigit = true := by
  intro c hc
  rw [Nat.toList_repr] at hc
  exact Nat.isDigit_of_mem_toDigits (by decide) (by decide) hc

/-- A number is a placeholder behind a `$`. -/
theorem close_repr (n : Nat) : NumberedMark.close n.repr.toList = .place n.repr.toList := by
  cases hdigits : n.repr.toList with
  | nil =>
      rw [Nat.toList_repr] at hdigits
      exact absurd hdigits Nat.toDigits_ne_nil
  | cons d digits => rfl

theorem head?_numberedFrom {ms : List Mark} (h : startsDigit ms = false) (n : Nat) :
    ∀ c ∈ (numberedFrom n ms).head?, c.isDigit = false := by
  intro c hc
  match ms, h with
  | [], _ => cases hc
  | .char d :: rest, h =>
      cases hc
      exact h
  | .question :: rest, _ =>
      cases hc
      rfl
  | .place :: rest, _ =>
      cases hc
      rfl

/-- A numbered text is read as it was written, if no digit runs into a
number. -/
theorem ofChars_numberedFrom {ms : List Mark} (h : apart ms = true) (n : Nat) :
    NumberedMark.ofChars none (numberedFrom n ms) = numberedMarks n ms := by
  induction ms generalizing n with
  | nil => rfl
  | cons m ms ih =>
      obtain ⟨hdigit, hms⟩ := apart_cons h
      cases m with
      | char c =>
          rw [numberedFrom, numberedMarks, NumberedMark.ofChars, ← ih hms n]
          split
          · rename_i hc
            subst hc
            -- Behind a dollar sign of the text no digit follows.
            exact NumberedMark.ofChars_digits (List.forall_mem_nil _)
              (head?_numberedFrom (hdigit rfl) n) []
          · rfl
      | question =>
          rw [numberedFrom, numberedMarks, NumberedMark.ofChars, if_neg (by decide), ih hms n]
      | place =>
          rw [numberedFrom, numberedMarks, NumberedMark.ofChars, if_pos rfl,
            NumberedMark.ofChars_digits isDigit_of_mem_repr
              (head?_numberedFrom (hdigit rfl) (n + 1)) [],
            List.nil_append, close_repr, ih hms (n + 1)]

theorem ofText_numbered {sql : String} (h : apart (ofText sql) = true) :
    NumberedMark.ofText (numbered sql) = numberedMarks 0 (ofText sql) := by
  rw [NumberedMark.ofText, numbered, String.toList_ofList]
  exact ofChars_numberedFrom h 0

/-! ## Counting -/

theorem count_postgres (sql : String) :
    count .postgres sql = NumberedMark.places (NumberedMark.ofText sql) := rfl

theorem count_sqlite (sql : String) : count .sqlite sql = places (ofText sql) := rfl

theorem places_cons_place (ms : List Mark) : places (.place :: ms) = places ms + 1 :=
  List.countP_cons_of_pos rfl

theorem places_numberedMarks (ms : List Mark) (n : Nat) :
    NumberedMark.places (numberedMarks n ms) = places ms := by
  induction ms generalizing n with
  | nil => rfl
  | cons m ms ih =>
      cases m with
      | char c => exact ih n
      | question => exact ih n
      | place =>
          rw [numberedMarks, places_cons_place, ← ih (n + 1)]
          exact List.countP_cons_of_pos rfl

/-- The places are numbered one after the other. -/
theorem digits_numberedMarks (ms : List Mark) (n : Nat) :
    (numberedMarks n ms).filterMap NumberedMark.digits? =
      (List.range' (n + 1) (places ms)).map Nat.repr := by
  induction ms generalizing n with
  | nil => rfl
  | cons m ms ih =>
      cases m with
      | char c => exact ih n
      | question => exact ih n
      | place =>
          have hdigits : NumberedMark.digits? (.place (n + 1).repr.toList) = some (n + 1).repr :=
            congrArg some String.ofList_toList
          rw [numberedMarks, places_cons_place, List.range'_succ, List.map_cons, ← ih (n + 1),
            List.filterMap_cons_some hdigits]

/-! ## Writing arguments into marks -/

/-- Writing into marks succeeds with one argument for each place. -/
theorem inlineMarks_isOk_iff (ms : List Mark) (args : List Scalar) :
    (∃ t, inlineMarks ms args = .ok t) ↔ args.length = places ms := by
  induction ms generalizing args with
  | nil =>
      cases args with
      | nil => exact iff_of_true ⟨[], rfl⟩ rfl
      | cons arg args => exact iff_of_false nofun nofun
  | cons m ms ih =>
      have hmap : ∀ (f : List Char → List Char) (args : List Scalar),
          (∃ t, (inlineMarks ms args).map f = .ok t) ↔ ∃ t, inlineMarks ms args = .ok t := by
        intro f args
        cases inlineMarks ms args with
        | ok t => exact iff_of_true ⟨f t, rfl⟩ ⟨t, rfl⟩
        | error e => exact iff_of_false nofun nofun
      cases m with
      | char c => exact (hmap _ args).trans (ih args)
      | question => exact (hmap _ args).trans (ih args)
      | place =>
          rw [places_cons_place]
          cases args with
          | nil => exact iff_of_false nofun nofun
          | cons arg args =>
              rw [List.length_cons, Nat.add_right_cancel_iff]
              exact (hmap _ args).trans (ih args)

/-- A number that fits a word is read back from its digits. -/
theorem word?_repr (n : Nat) : word? n.repr.toList = if n < UInt64.size then some n else none := by
  have hvalue : n.repr.toList.foldl (fun n c => n * 10 + (c.toNat - '0'.toNat)) 0 = n := by
    have hread := Nat.ofDigitChars_toDigits (b := 10) (n := n) (by decide) (by decide)
    rw [← Nat.toList_repr, Nat.ofDigitChars] at hread
    simpa only [Nat.mul_comm 10] using hread
  rw [word?, hvalue]

/-- The number of a place finds the argument that `?` would take next. -/
theorem inlineNumberedMarks_of_inlineMarks {ms : List Mark} (given : List Scalar)
    {args : List Scalar} {t : List Char} (hlen : given.length + args.length < UInt64.size)
    (h : inlineMarks ms args = .ok t) :
    inlineNumberedMarks (given ++ args) (numberedMarks given.length ms) = .ok t := by
  induction ms generalizing given args t with
  | nil =>
      cases args with
      | nil =>
          cases h
          rfl
      | cons arg args => cases h
  | cons m ms ih =>
      -- What is written behind the first mark is the same in both styles.
      have hrest : ∀ (given : List Scalar) {args : List Scalar} {f : List Char → List Char}
          {t : List Char}, given.length + args.length < UInt64.size →
            (inlineMarks ms args).map f = .ok t →
              (inlineNumberedMarks (given ++ args) (numberedMarks given.length ms)).map f =
                .ok t := by
        intro given args f t hlen h
        cases hms : inlineMarks ms args with
        | error e =>
            rw [hms] at h
            cases h
        | ok u =>
            rw [hms] at h
            cases h
            rw [ih given hlen hms]
            rfl
      cases m with
      | char c => exact hrest given hlen h
      | question => exact hrest given hlen h
      | place =>
          cases args with
          | nil => cases h
          | cons arg args =>
              rw [List.length_cons] at hlen
              have hword : word? (given.length + 1).repr.toList = some (given.length + 1) := by
                rw [word?_repr, if_pos (by omega)]
              have harg : (given ++ arg :: args)[given.length]? = some arg := by
                rw [List.getElem?_append_right (Nat.le_refl _), Nat.sub_self]
                rfl
              have hshift : given ++ arg :: args = (given ++ [arg]) ++ args := by simp
              have hnext := hrest (given ++ [arg])
                (by rw [List.length_append, List.length_singleton]; omega) h
              rw [List.length_append, List.length_singleton, ← hshift] at hnext
              rw [numberedMarks, inlineNumberedMarks, hword]
              simp only [Nat.add_sub_cancel, if_neg (Nat.succ_ne_zero given.length), harg]
              exact hnext

/-- Each number must have its argument. -/
theorem le_length_of_inlineNumberedMarks {ms : List Mark} {args : List Scalar} {t : List Char}
    {n : Nat} (hn : n ≤ args.length)
    (h : inlineNumberedMarks args (numberedMarks n ms) = .ok t) :
    n + places ms ≤ args.length := by
  induction ms generalizing n t with
  | nil => exact hn
  | cons m ms ih =>
      have hrest : ∀ {n : Nat} {f : List Char → List Char} {t : List Char}, n ≤ args.length →
          (inlineNumberedMarks args (numberedMarks n ms)).map f = .ok t →
            n + places ms ≤ args.length := by
        intro n f t hn h
        cases hms : inlineNumberedMarks args (numberedMarks n ms) with
        | error e =>
            rw [hms] at h
            cases h
        | ok u => exact ih hn hms
      cases m with
      | char c => exact hrest hn h
      | question => exact hrest hn h
      | place =>
          rw [numberedMarks, inlineNumberedMarks, word?_repr] at h
          split at h
          · cases h
          · rename_i index hindex
            obtain ⟨-, hindex⟩ := Option.ite_none_right_eq_some.mp hindex
            cases hindex
            split at h
            · cases h
            · rename_i arg harg
              rw [if_neg (Nat.succ_ne_zero n), Nat.add_sub_cancel] at harg
              have hbound : n < args.length := (List.getElem?_eq_some_iff.mp harg).1
              have hplaces := hrest hbound h
              rw [places_cons_place]
              omega

/-! ## Agreement -/

/-- Texts are errors or not as their marks are. -/
theorem inlineQuestion_eq_ok {sql t : String} {args : List Scalar} :
    inlineQuestion sql args = .ok t ↔ inlineMarks (ofText sql) args = .ok t.toList := by
  rw [inlineQuestion]
  cases inlineMarks (ofText sql) args with
  | ok cs => simp [← String.toList_inj]
  | error e => cases e <;> simp

theorem inlineNumbered_eq_ok {sql t : String} {args : List Scalar} :
    inlineNumbered sql args = .ok t ↔
      inlineNumberedMarks args (NumberedMark.ofText sql) = .ok t.toList := by
  rw [inlineNumbered]
  cases inlineNumberedMarks args (NumberedMark.ofText sql) with
  | ok cs => simp [← String.toList_inj]
  | error e => cases e <;> simp

/-- What is no success is an error. -/
theorem exists_error {α ε : Type} {r : Except ε α} (h : ∀ a, r ≠ .ok a) : ∃ e, r = .error e := by
  cases r with
  | ok a => exact absurd rfl (h a)
  | error e => exact ⟨e, rfl⟩

/-- A text in which no digit runs into a number has the same placeholders
in both styles, numbered from one on. Writing arguments into it succeeds if
there is one for each place, with the same text in both styles; an argument
list is no longer than a word can count. With too few arguments both
fail. -/
theorem styles_agree {sql : String} (h : apart (ofText sql) = true) :
    count .postgres (numbered sql) = count .sqlite sql ∧
    (NumberedMark.ofText (numbered sql)).filterMap NumberedMark.digits? =
      (List.range' 1 (count .sqlite sql)).map Nat.repr ∧
    (∀ args, (∃ t, inlineQuestion sql args = .ok t) ↔ args.length = count .sqlite sql) ∧
    (∀ args t, args.length < UInt64.size → inlineQuestion sql args = .ok t →
      inlineNumbered (numbered sql) args = .ok t) ∧
    ∀ args, args.length < count .sqlite sql →
      (∃ e, inlineQuestion sql args = .error e) ∧
        ∃ e, inlineNumbered (numbered sql) args = .error e := by
  have hread := ofText_numbered h
  have hok : ∀ args, (∃ t, inlineQuestion sql args = .ok t) ↔
      args.length = count .sqlite sql := by
    intro args
    rw [count_sqlite, ← inlineMarks_isOk_iff]
    constructor
    · rintro ⟨t, ht⟩
      exact ⟨t.toList, inlineQuestion_eq_ok.mp ht⟩
    · rintro ⟨cs, hcs⟩
      exact ⟨String.ofList cs, inlineQuestion_eq_ok.mpr (by rw [String.toList_ofList, hcs])⟩
  refine ⟨?_, ?_, hok, fun args t hlen ht => ?_, fun args hfew => ⟨?_, ?_⟩⟩
  · rw [count_postgres, hread, places_numberedMarks, count_sqlite]
  · rw [hread, digits_numberedMarks, count_sqlite]
  · rw [inlineNumbered_eq_ok, hread]
    exact inlineNumberedMarks_of_inlineMarks [] (by simpa using hlen)
      (inlineQuestion_eq_ok.mp ht)
  · refine exists_error fun t ht => ?_
    have hlen := (hok args).mp ⟨t, ht⟩
    omega
  · refine exists_error fun t ht => ?_
    rw [inlineNumbered_eq_ok, hread] at ht
    have hlen := le_length_of_inlineNumberedMarks (Nat.zero_le _) ht
    rw [count_sqlite] at hfew
    omega

/-- A dollar sign right before a place, and a literal question mark. -/
theorem styles_agree_dollar :
    let sql := "cost = $? AND j ?? 'k' AND n = ?"
    let args : List Scalar := [.int 7, .text "who? $1"]
    apart (ofText sql) = true ∧
      numbered sql = "cost = $$1 AND j ? 'k' AND n = $2" ∧
      count .postgres (numbered sql) = count .sqlite sql ∧
      inlineNumbered (numbered sql) args = .ok "cost = $7 AND j ? 'k' AND n = 'who? $1'" ∧
      ∃ e, inlineNumbered (numbered sql) [.int 7] = .error e := by
  have htext : inlineQuestion "cost = $? AND j ?? 'k' AND n = ?" [.int 7, .text "who? $1"] =
      .ok "cost = $7 AND j ? 'k' AND n = 'who? $1'" := inlineQuestion_eq_ok.mpr (by rfl)
  intro sql args
  have hsql : apart (ofText sql) = true := by decide +kernel
  have hplaces : count .sqlite sql = 2 := by decide +kernel
  obtain ⟨hcount, -, -, hsame, hfew⟩ := styles_agree hsql
  have hlen : args.length < UInt64.size := by decide
  have hshort : [Scalar.int 7].length < count .sqlite sql := by
    rw [hplaces]
    decide
  have hnumbered : numbered sql = "cost = $$1 AND j ? 'k' AND n = $2" := by decide +kernel
  exact ⟨hsql, hnumbered, hcount, hsame args _ hlen htext, (hfew [.int 7] hshort).2⟩

end Placeholder

end SqlCompose
