import SqlCompose.Placeholder

/-!
# Reading a text of placeholders

`Mark.ofChars` pairs the question marks of a run from its left end, so a
text can be cut in two and read in parts only where no run is cut. The two
cuts that rendering needs:

- behind characters whose question marks stand in runs of even length
  (`evenRuns`): nothing that follows can change how they are read
  (`ofChars_append_of_evenRuns`);
- behind a lone question mark, if what follows does not begin with one
  (`ofChars_lone`).

Writing arguments into marks takes one argument for each place, from the
left (`inlineMarks_append`).
-/

namespace SqlCompose

namespace Mark

/-! ## Runs of question marks -/

/-- Question marks stand only in runs of even length, `odd` telling whether
an odd number of them stands before. -/
def evenRuns : (odd : Bool) → List Char → Bool
  | odd, [] => !odd
  | odd, c :: rest => if c = '?' then evenRuns (!odd) rest else !odd && evenRuns false rest

theorem evenRuns_cons_of_ne {c : Char} (h : c ≠ '?') (rest : List Char) :
    evenRuns false (c :: rest) = evenRuns false rest := by
  rw [evenRuns, if_neg h]
  rfl

/-- A text in runs of even length is made of pairs and other characters. -/
theorem evenRuns_induction {motive : (cs : List Char) → evenRuns false cs = true → Prop}
    (nil : motive [] rfl)
    (pair : ∀ cs h, motive cs h → motive ('?' :: '?' :: cs) h)
    (other : ∀ c cs (hc : c ≠ '?') h,
      motive cs h → motive (c :: cs) ((evenRuns_cons_of_ne hc cs).trans h)) :
    ∀ cs h, motive cs h
  | [], _ => nil
  | [c], h => by
      have hc : c ≠ '?' := fun hc => by simp [evenRuns, hc] at h
      exact other c [] hc rfl nil
  | c :: d :: cs, h => by
      by_cases hc : c = '?'
      · have hd : d = '?' := Decidable.byContradiction fun hd => by
          simp [evenRuns, hc, hd] at h
        subst hc hd
        exact pair cs h (evenRuns_induction nil pair other cs h)
      · have hds : evenRuns false (d :: cs) = true := by
          rw [← h, evenRuns_cons_of_ne hc]
        exact other c _ hc hds (evenRuns_induction nil pair other (d :: cs) hds)

theorem evenRuns_append {cs ds : List Char} (hc : evenRuns false cs = true)
    (hd : evenRuns false ds = true) : evenRuns false (cs ++ ds) = true := by
  induction cs, hc using evenRuns_induction with
  | nil => exact hd
  | pair cs h ih => exact ih
  | other c cs h _ ih => rw [List.cons_append, evenRuns_cons_of_ne h, ih]

/-- A text without a question mark. -/
theorem evenRuns_of_notMem {cs : List Char} (h : '?' ∉ cs) : evenRuns false cs = true := by
  induction cs with
  | nil => rfl
  | cons c cs ih =>
      rw [evenRuns_cons_of_ne (List.ne_of_not_mem_cons h).symm,
        ih (List.not_mem_of_not_mem_cons h)]

/-! ## Cutting a text -/

theorem ofChars_cons_of_ne {c : Char} (h : c ≠ '?') (rest : List Char) :
    ofChars (c :: rest) = char c :: ofChars rest := by
  rw [ofChars, if_neg h]
  rintro r rfl
  exact absurd rfl h

/-- A question mark that is not followed by another one is a place. -/
theorem ofChars_lone {rest : List Char} (h : rest.head? ≠ some '?') :
    ofChars ('?' :: rest) = place :: ofChars rest := by
  rw [ofChars, if_pos rfl]
  rintro r - rfl
  exact h rfl

/-- Behind runs of even length a text can be cut, whatever follows. -/
theorem ofChars_append_of_evenRuns {cs : List Char} (h : evenRuns false cs = true)
    (rest : List Char) : ofChars (cs ++ rest) = ofChars cs ++ ofChars rest := by
  induction cs, h using evenRuns_induction with
  | nil => rfl
  | pair cs _ ih => rw [List.cons_append, List.cons_append, ofChars, ofChars, ih, List.cons_append]
  | other c cs h _ ih =>
      rw [List.cons_append, ofChars_cons_of_ne h, ofChars_cons_of_ne h, ih, List.cons_append]

/-- A text read from its left end: pairs of question marks, lone ones and
other characters. -/
theorem chars_induction {motive : List Char → Prop} (nil : motive [])
    (pair : ∀ cs, motive cs → motive ('?' :: '?' :: cs))
    (lone : ∀ cs : List Char, cs.head? ≠ some '?' → motive cs → motive ('?' :: cs))
    (other : ∀ c cs, c ≠ '?' → motive cs → motive (c :: cs)) (cs : List Char) : motive cs := by
  induction cs using ofChars.induct with
  | case1 => exact nil
  | case2 cs ih => exact pair cs ih
  | case3 c cs hpair ih =>
      -- The last rule of reading takes both a lone question mark and other characters.
      by_cases hc : c = '?'
      · subst hc
        refine lone cs ?_ ih
        cases cs with
        | nil => exact nofun
        | cons d cs => exact fun hd => hpair cs rfl (by rw [Option.some.inj hd])
      · exact other c cs hc ih

/-- Before a character that is no question mark a text can be cut. -/
theorem ofChars_append_of_head {rest : List Char} (h : rest.head? ≠ some '?') (cs : List Char) :
    ofChars (cs ++ rest) = ofChars cs ++ ofChars rest := by
  induction cs using chars_induction with
  | nil => rfl
  | pair cs ih => rw [List.cons_append, List.cons_append, ofChars, ofChars, ih, List.cons_append]
  | lone cs hcs ih =>
      have hboth : (cs ++ rest).head? ≠ some '?' := by
        cases cs with
        | nil => exact h
        | cons d cs => exact hcs
      rw [List.cons_append, ofChars_lone hboth, ofChars_lone hcs, ih, List.cons_append]
  | other c cs hc ih =>
      rw [List.cons_append, ofChars_cons_of_ne hc, ofChars_cons_of_ne hc, ih, List.cons_append]

/-- In runs of even length every question mark has a partner. -/
theorem place_notMem_of_evenRuns {cs : List Char} (h : evenRuns false cs = true) :
    place ∉ ofChars cs := by
  induction cs, h using evenRuns_induction with
  | nil => exact List.not_mem_nil
  | pair cs _ ih => simpa [ofChars] using ih
  | other c cs h _ ih => simpa [ofChars_cons_of_ne h] using ih

/-! ## Marks as characters -/

/-- The character that a mark without an argument stands for. -/
def spell : Mark → Char
  | char c => c
  | question => '?'
  | place => '?'

/-- A text with `?` for each `??`. -/
def unescape : List Char → List Char
  | [] => []
  | '?' :: '?' :: rest => '?' :: unescape rest
  | c :: rest => c :: unescape rest

theorem unescape_eq (cs : List Char) : unescape cs = (ofChars cs).map spell := by
  induction cs using ofChars.induct with
  | case1 => rfl
  | case2 cs ih => rw [unescape, ofChars, ih]; rfl
  | case3 c cs hpair ih =>
      rw [unescape, ofChars, ih, List.map_cons]
      · split
        · rename_i hc
          rw [hc]
          rfl
        · rfl
      · exact hpair
      · exact hpair

end Mark

namespace Placeholder

open Mark

/-- Marks without a place take no argument. -/
theorem inlineMarks_append {ms : List Mark} (h : place ∉ ms) (rest : List Mark)
    (args : List Scalar) :
    inlineMarks (ms ++ rest) args = (inlineMarks rest args).map (ms.map spell ++ ·) := by
  induction ms with
  | nil => cases hr : inlineMarks rest args <;> simp [hr, Except.map]
  | cons m ms ih =>
      have hms : place ∉ ms := List.not_mem_of_not_mem_cons h
      cases m with
      | char c =>
          rw [List.cons_append, inlineMarks, ih hms]
          cases inlineMarks rest args <;> rfl
      | question =>
          rw [List.cons_append, inlineMarks, ih hms]
          cases inlineMarks rest args <;> rfl
      | place => exact absurd List.mem_cons_self h

/-! ## The numbered style -/

theorem numberedFrom_append_char (c : Char) (ms : List Mark) (n : Nat) :
    numberedFrom n (ms ++ [.char c]) = numberedFrom n ms ++ [c] := by
  induction ms generalizing n with
  | nil => rfl
  | cons m ms ih =>
      cases m with
      | char d => exact congrArg (d :: ·) (ih n)
      | question => exact congrArg ('?' :: ·) (ih n)
      | place =>
          rw [List.cons_append, numberedFrom, numberedFrom, ih, List.cons_append,
            List.append_assoc]

/-- Parentheses around a statement do not change its numbers. -/
theorem numbered_parens (s : String) : numbered ("(" ++ s ++ ")") = "(" ++ numbered s ++ ")" := by
  have hmarks : ofText ("(" ++ s ++ ")") = .char '(' :: (ofText s ++ [.char ')']) := by
    rw [ofText, String.toList_append, String.toList_append]
    change ofChars ('(' :: s.toList ++ [')']) = _
    rw [ofChars_append_of_head (by decide), ofChars_cons_of_ne (by decide)]
    rfl
  rw [numbered, hmarks, numberedFrom, numberedFrom_append_char, numbered]
  refine String.toList_inj.mp ?_
  simp only [String.toList_append, String.toList_ofList]
  rfl

end Placeholder

end SqlCompose
