import SqlCompose.Scalar

/-!
# Reading literals

A literal ends where a reader of SQL finds its end, whatever stands in it and
whatever follows, if only no quote follows at once. For a quoted literal this is
because a quote inside is written twice, so that the first lone one is the last
of the literal (`Quote.readInside_double`); between the quotes of a literal of
bytes there are only digits (`Hex.readBytes_ofBytes`).

So what is read is what was written, and the text behind a literal begins where
the literal ends (`Scalar.literals_delimited`).
-/

namespace SqlCompose

/-! ## Quoted literals -/

namespace Quote

/-- The text inside of a quoted literal, up to the first quote that is not
written twice, and what stands behind that quote. -/
def readInside : List Char → Option (List Char × List Char)
  | [] => none
  | '\'' :: '\'' :: rest => (readInside rest).map (Prod.map ('\'' :: ·) id)
  | '\'' :: rest => some ([], rest)
  | c :: rest => (readInside rest).map (Prod.map (c :: ·) id)

theorem readInside_quote {rest : List Char} (apart : rest.head? ≠ some '\'') :
    readInside ('\'' :: rest) = some ([], rest) := by
  cases rest with
  | nil => rfl
  | cons c rest =>
      have other : c ≠ '\'' := fun same => apart (congrArg some same)
      rw [readInside]
      exact fun _ h => other (List.cons.inj h).1

theorem readInside_of_ne {c : Char} (other : c ≠ '\'') (rest : List Char) :
    readInside (c :: rest) = (readInside rest).map (Prod.map (c :: ·) id) := by
  rw [readInside]
  · exact fun _ h => absurd h other
  · exact other

/-- Each quote inside is read as one, so the quote behind them is the first to
stand alone. -/
theorem readInside_double {rest : List Char} (apart : rest.head? ≠ some '\'') (s : List Char) :
    readInside (double s ++ '\'' :: rest) = some (s, rest) := by
  induction s with
  | nil => exact readInside_quote apart
  | cons c s ih =>
      rw [double]
      split
      case isTrue quote =>
        rw [List.cons_append, List.cons_append, readInside, ih, quote]
        rfl
      case isFalse other =>
        rw [List.cons_append, readInside_of_ne other, ih]
        rfl

end Quote

/-! ## Literals of bytes -/

namespace Hex

/-- The bytes whose digits stand before a quote, and what stands behind it. -/
def readBytes : List Char → Option (List UInt8 × List Char)
  | '\'' :: rest => some ([], rest)
  | a :: b :: rest => do
    let high ← value? a
    let low ← value? b
    let (bytes, behind) ← readBytes rest
    return (UInt8.ofNat (16 * high + low) :: bytes, behind)
  | _ => none

theorem value?_digit : ∀ n < 16, value? (digit n) = some n := by decide

theorem digit_ne_quote : ∀ n < 16, digit n ≠ '\'' := by decide

theorem readBytes_ofBytes (bytes : List UInt8) (rest : List Char) :
    readBytes (ofBytes bytes ++ '\'' :: rest) = some (bytes, rest) := by
  induction bytes with
  | nil => rfl
  | cons b bytes ih =>
      have high : b.toNat / 16 < 16 := by have := b.toNat_lt; omega
      have low : b.toNat % 16 < 16 := Nat.mod_lt _ (by decide)
      have split : ofBytes (b :: bytes) ++ '\'' :: rest =
          digit (b.toNat / 16) :: digit (b.toNat % 16) :: (ofBytes bytes ++ '\'' :: rest) := rfl
      rw [split, readBytes, value?_digit _ high, value?_digit _ low, ih]
      · have whole : UInt8.ofNat (16 * (b.toNat / 16) + b.toNat % 16) = b := by
          rw [Nat.div_add_mod, UInt8.ofNat_toNat]
        simp only [Option.bind_eq_bind, Option.bind_some, whole]
        rfl
      · exact fun same => digit_ne_quote _ high same

end Hex

/-! ## Literals of scalars -/

/-- What a delimited literal says: a text between quotes, or bytes as digits. -/
inductive Lexeme where
  | text (s : String)
  | bytes (b : List UInt8)
  deriving DecidableEq, Repr

/-- The literal at the front of a text, as a reader of SQL takes it in, and the
text behind it. -/
def Lexeme.read? : List Char → Option (Lexeme × List Char)
  | '\'' :: rest => (Quote.readInside rest).map (Prod.map (.text ∘ String.ofList) id)
  | 'x' :: '\'' :: rest => (Hex.readBytes rest).map (Prod.map .bytes id)
  | _ => none

namespace Scalar

/-- What the literal of a scalar says. A truth value or a number is not delimited
by quotes and says nothing here. -/
def lexeme? : Scalar → Option Lexeme
  | .text s => some (.text s)
  | .bytes b => some (.bytes b)
  | .time t => some (.text t.toText)
  | .json v => some (.text v.toText)
  | .uuid u => some (.text u.toText)
  | .bool _ | .int _ | .float _ => none

theorem read_quoted (s : String) {rest : List Char} (apart : rest.head? ≠ some '\'') :
    Lexeme.read? ((quoted s).toList ++ rest) = some (.text s, rest) := by
  have written : (quoted s).toList ++ rest =
      '\'' :: (Quote.double s.toList ++ '\'' :: rest) := by
    simp [quoted, Quote.literal]
  rw [written, Lexeme.read?, Quote.readInside_double apart]
  simp [String.ofList_toList]

theorem read_bytes (b : List UInt8) (rest : List Char) :
    Lexeme.read? ((literal (.bytes b)).toList ++ rest) = some (.bytes b, rest) := by
  have written : (literal (.bytes b)).toList ++ rest =
      'x' :: '\'' :: (Hex.ofBytes b ++ '\'' :: rest) := by
    simp [literal]
  rw [written, Lexeme.read?, Hex.readBytes_ofBytes]
  rfl

/-- A literal is read back to what it says, and reading stops where it ends. -/
theorem read_literal {v : Scalar} {l : Lexeme} (content : v.lexeme? = some l) {rest : List Char}
    (apart : rest.head? ≠ some '\'') :
    Lexeme.read? (v.literal.toList ++ rest) = some (l, rest) := by
  cases v with
  | bool b => cases content
  | int n => cases content
  | float x => cases content
  | text s =>
      cases content
      exact read_quoted s apart
  | bytes b =>
      cases content
      exact read_bytes b rest
  | time t =>
      cases content
      exact read_quoted t.toText apart
  | json j =>
      cases content
      exact read_quoted j.toText apart
  | uuid u =>
      cases content
      exact read_quoted u.toText apart

/-- Two texts that begin with a literal agree only if the literals say the same
and the same text stands behind them. -/
theorem literal_append_cancel {v w : Scalar} {l m : Lexeme} (hv : v.lexeme? = some l)
    (hw : w.lexeme? = some m) {rest rest' : List Char} (apart : rest.head? ≠ some '\'')
    (apart' : rest'.head? ≠ some '\'')
    (same : v.literal.toList ++ rest = w.literal.toList ++ rest') : l = m ∧ rest = rest' := by
  have read := read_literal hv apart
  rw [same, read_literal hw apart'] at read
  have both := Prod.mk.inj (Option.some.inj read)
  exact ⟨both.1.symm, both.2.symm⟩

/-- Literals of scalars that say different things are different. -/
theorem lexeme_eq_of_literal_eq {v w : Scalar} {l m : Lexeme} (hv : v.lexeme? = some l)
    (hw : w.lexeme? = some m) (same : v.literal = w.literal) : l = m := by
  have apart : ([] : List Char).head? ≠ some '\'' := by decide
  exact (literal_append_cancel hv hw apart apart (by rw [same])).1

/-- Whatever a text, a document, an identifier, a point of time or a list of bytes
holds, and whatever follows its literal, if it is no quote: a reader takes exactly
the literal for it, and reads what was written. So different texts have different
literals, and so have different bytes; and no value moves the place where the text
behind its literal begins. -/
theorem literals_delimited :
    (∀ (v : Scalar) (l : Lexeme) (rest : String), v.lexeme? = some l →
      rest.toList.head? ≠ some '\'' →
      Lexeme.read? (v.literal ++ rest).toList = some (l, rest.toList)) ∧
    (∀ s s' : String, (text s).literal = (text s').literal → s = s') ∧
    (∀ b b' : List UInt8, (bytes b).literal = (bytes b').literal → b = b') ∧
    ∀ (v w : Scalar) (l m : Lexeme) (rest rest' : String), v.lexeme? = some l →
      w.lexeme? = some m → rest.toList.head? ≠ some '\'' → rest'.toList.head? ≠ some '\'' →
      v.literal ++ rest = w.literal ++ rest' → l = m ∧ rest = rest' := by
  refine ⟨?read, ?texts, ?bytes, ?behind⟩
  case read =>
    intro v l rest content apart
    rw [String.toList_append]
    exact read_literal content apart
  case texts =>
    intro s s' same
    exact Lexeme.text.inj (lexeme_eq_of_literal_eq rfl rfl same)
  case bytes =>
    intro b b' same
    exact Lexeme.bytes.inj (lexeme_eq_of_literal_eq rfl rfl same)
  case behind =>
    intro v w l m rest rest' hv hw apart apart' same
    have split := congrArg String.toList same
    rw [String.toList_append, String.toList_append] at split
    obtain ⟨content, behind⟩ := literal_append_cancel hv hw apart apart' split
    exact ⟨content, String.toList_inj.1 behind⟩

/-- A text that tries to end its literal, and one that ends in a quote. -/
theorem literals_delimited_quotes :
    Lexeme.read? ((text "'; --").literal ++ " OR 1").toList =
      some (.text "'; --", " OR 1".toList) ∧
    Lexeme.read? ((text "it''s'").literal ++ ", ?").toList =
      some (.text "it''s'", ", ?".toList) :=
  ⟨literals_delimited.1 _ _ _ rfl (by decide), literals_delimited.1 _ _ _ rfl (by decide)⟩

end Scalar

end SqlCompose
