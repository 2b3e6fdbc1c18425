import SqlCompose.Json.Fault
import SqlCompose.Json.Value
import SqlCompose.Text.Utf8

/-!
# Reading JSON

A reader takes the bytes that are left. It gives a value with the bytes
after it, or stops with a cause and the number of bytes that were still
unread, from which `Json.read` finds the line and column. A fault seen at
the next byte counts that byte as read (`Stop.ahead`).

A decimal keeps as many leading digits as fit a 64-bit word and scales
them by one rounded power of ten, so a long decimal may differ in its
last place from the nearest double.
-/

namespace SqlCompose

namespace JsonReader

/-- A cause with the number of bytes left unread. -/
structure Stop where
  cause : JsonCause
  left : Nat

abbrev Read (α : Type) := List UInt8 → Except Stop (α × List UInt8)

/-- A fault in what was read last. -/
def Stop.here (cause : JsonCause) (s : List UInt8) : Stop := ⟨cause, s.length⟩

/-- A fault in the next byte. -/
def Stop.ahead (cause : JsonCause) (s : List UInt8) : Stop := ⟨cause, s.length - 1⟩

def isSpace (b : UInt8) : Bool := b = 32 ∨ b = 10 ∨ b = 9 ∨ b = 13

def isDigit (b : UInt8) : Bool := 48 ≤ b ∧ b ≤ 57

def skipSpace (s : List UInt8) : List UInt8 := s.dropWhile isSpace

/-- The rest of a word whose first letter told what it must be. -/
def word : List UInt8 → Read Unit
  | [], s => .ok ((), s)
  | _ :: _, [] => .error ⟨.endInValue, 0⟩
  | c :: cs, b :: s => if b = c then word cs s else .error (.here .expectedWord s)

/-! ## Numbers -/

/-- The largest number of 64 bits. -/
def maxWord : Nat := UInt64.size - 1

/-- Adds digits to a number while it fits 64 bits, and gives the digits
that no longer do. -/
def absorb : (significand : Nat) → List UInt8 → Nat × List UInt8
  | significand, [] => (significand, [])
  | significand, d :: digits =>
    let next := significand * 10 + (d.toNat - 48)
    if next ≤ maxWord then absorb next digits else (significand, d :: digits)

/-- The double nearest to a power of ten. -/
def powerOfTen (n : Nat) : Binary64 := .ofRatio false (Nat.pow 10 n) 1

/-- Scales by a power of ten, in steps of the largest power that is a
double. `none` when the result is too large. -/
def scale : (fuel : Nat) → Binary64 → (exponent : Int) → Option Binary64
  | 0, x, _ => some x
  | fuel + 1, x, exponent =>
    if exponent.natAbs ≤ 308 then
      if 0 ≤ exponent then
        let y := x.mul (powerOfTen exponent.natAbs)
        if y.isFinite then some y else none
      else some (x.div (powerOfTen exponent.natAbs))
    else if x.isZero then some x
    else if 0 ≤ exponent then none
    else scale fuel (x.div (powerOfTen 308)) (exponent + 308)

/-- The double of a significand and a power of ten. -/
def float (negative : Bool) (significand : Nat) (exponent : Int) : Read JsonNumber := fun s =>
  match scale (exponent.natAbs / 308 + 1) (.ofRatio false significand 1) exponent with
  | none => .error (.here .numberOutOfRange s)
  | some x => .ok (.float (if negative then x.negate else x), s)

/-- The largest exponent. -/
def maxExponent : Nat := 2147483647

/-- The digits of an exponent, up to the first that makes it too large. -/
def exponentDigits : (value : Nat) → List UInt8 → Option Nat × List UInt8
  | value, [] => (some value, [])
  | value, d :: s =>
    if isDigit d then
      let next := value * 10 + (d.toNat - 48)
      if next ≤ maxExponent then exponentDigits next s else (none, s)
    else (some value, d :: s)

/-- The exponent of a number after its `e`. -/
def exponent (negative : Bool) (significand : Nat) (start : Int) : Read JsonNumber := fun s =>
  let (down, s) := match s with
    | 43 :: s => (false, s)
    | 45 :: s => (true, s)
    | s => (false, s)
  match s with
  | [] => .error ⟨.endInValue, 0⟩
  | d :: rest =>
    if !isDigit d then .error (.here .invalidNumber rest)
    else
      match exponentDigits 0 s with
      | (some value, s) =>
        let total := if down then start - value else start + value
        float negative significand (max (-maxExponent - 1) (min total maxExponent)) s
      | (none, s) =>
        if significand ≠ 0 ∧ !down then .error (.here .numberOutOfRange s)
        else .ok (.float (.ofParts negative 0), s.dropWhile isDigit)

/-- What may follow the digits of a double. -/
def exponent? (negative : Bool) (significand : Nat) (start : Int) : Read JsonNumber
  | b :: s =>
    if b = 101 ∨ b = 69 then exponent negative significand start s
    else float negative significand start (b :: s)
  | [] => float negative significand start []

/-- The fraction of a number after its point. -/
def fraction (negative : Bool) (significand : Nat) (start : Int) : Read JsonNumber := fun s =>
  let digits := s.takeWhile isDigit
  let rest := s.dropWhile isDigit
  let (value, dropped) := absorb significand digits
  if digits.isEmpty then
    match rest with
    | [] => .error ⟨.endInValue, 0⟩
    | _ :: _ => .error (.ahead .invalidNumber rest)
  else exponent? negative value (start - (digits.length - dropped.length : Nat)) rest

/-- A whole number that fits its width; a zero with a sign is a double. -/
def whole (negative : Bool) (value : Nat) : JsonNumber :=
  if !negative then .natural (UInt64.ofNat value)
  else if value = 0 ∨ -(value : Int) < Int64.minValue.toInt then .float (Binary64.ofRatio true value 1)
  else .negative (Int64.ofInt (-(value : Int)))

/-- A number after its sign. -/
def number (negative : Bool) : Read JsonNumber
  | [] => .error ⟨.endInValue, 0⟩
  | b :: s =>
    if !isDigit b then .error (.here .invalidNumber s)
    else
      let digits := if b = 48 then [b] else (b :: s).takeWhile isDigit
      let rest := (b :: s).drop digits.length
      let (value, dropped) := absorb 0 digits
      match rest with
      | [] => if dropped.isEmpty then .ok (whole negative value, [])
              else float negative value dropped.length []
      | c :: after =>
        if b = 48 ∧ isDigit c then .error (.ahead .invalidNumber rest)
        else if c = 46 then fraction negative value dropped.length after
        else if c = 101 ∨ c = 69 then exponent negative value dropped.length after
        else if dropped.isEmpty then .ok (whole negative value, rest)
        else float negative value dropped.length rest

/-! ## Strings -/

/-- Four hexadecimal digits. -/
def hexEscape : Read Nat
  | a :: b :: c :: d :: s =>
    match [a, b, c, d].mapM fun x => Hex.value? (Char.ofNat x.toNat) with
    | some digits => .ok (digits.foldl (fun n x => n * 16 + x) 0, s)
    | none => .error (.here .invalidEscape s)
  | _ => .error ⟨.endInString, 0⟩

/-- One given byte of the second half of a surrogate pair. -/
def surrogateByte (expected : UInt8) : Read Unit
  | [] => .error ⟨.endInString, 0⟩
  | b :: s => if b = expected then .ok ((), s) else .error (.here .endOfHexEscape s)

/-- The character of a `\u` escape, or of two that form a surrogate
pair. -/
def unicodeEscape : Read Char := fun s => do
  let (n, s) ← hexEscape s
  if 0xdc00 ≤ n ∧ n ≤ 0xdfff then throw (.here .loneSurrogate s)
  else if n < 0xd800 ∨ 0xdbff < n then return (Char.ofNat n, s)
  else
    let ((), s) ← surrogateByte 92 s
    let ((), s) ← surrogateByte 117 s
    let (m, s) ← hexEscape s
    if m < 0xdc00 ∨ 0xdfff < m then throw (.here .loneSurrogate s)
    else return (Char.ofNat (0x10000 + (n - 0xd800) * 0x400 + (m - 0xdc00)), s)

/-- The character of an escape after its backslash. -/
def escape : Read Char
  | [] => .error ⟨.endInString, 0⟩
  | b :: s =>
    if b = 34 ∨ b = 92 ∨ b = 47 then .ok (Char.ofNat b.toNat, s)
    else if b = 98 then .ok (Char.ofNat 8, s)
    else if b = 102 then .ok (Char.ofNat 12, s)
    else if b = 110 then .ok ('\n', s)
    else if b = 114 then .ok ('\r', s)
    else if b = 116 then .ok ('\t', s)
    else if b = 117 then unicodeEscape s
    else .error (.here .invalidEscape s)

/-- The bytes of a string up to its closing quote, in reverse. -/
def stringBytes : (fuel : Nat) → (reversed : List UInt8) → Read (List UInt8)
  | 0, _, s => .error (.here .endInString s)
  | _ + 1, _, [] => .error ⟨.endInString, 0⟩
  | fuel + 1, reversed, b :: s =>
    if b = 34 then .ok (reversed, b :: s)
    else if b = 92 then do
      let (c, s) ← escape s
      stringBytes fuel ((Utf8.encode (String.singleton c)).reverse ++ reversed) s
    else if b < 32 then .error (.here .controlCharacter s)
    else stringBytes fuel (b :: reversed) s

/-- A string after its opening quote. -/
def string : Read String := fun s => do
  let (reversed, s) ← stringBytes (s.length + 1) [] s
  match Utf8.decode reversed.reverse with
  | .ok text => return (String.ofList text, s.drop 1)
  | .error _ => throw (.here .invalidCodePoint s)

/-! ## Values -/

/-- How deep lists and objects may nest. -/
def maxDepth : Nat := 127

/-- What comes after an item: the end of the list, or a comma and then
more. `true` means that an item follows. -/
def moreItems (first : Bool) : Read Bool := fun s =>
  match skipSpace s with
  | [] => .error ⟨.endInList, 0⟩
  | b :: s =>
    if b = 93 then .ok (false, s)
    else if first then .ok (true, b :: s)
    else if b = 44 then
      match skipSpace s with
      | [] => .error ⟨.endInValue, 0⟩
      | c :: s => if c = 93 then .error (.ahead .trailingComma (c :: s)) else .ok (true, c :: s)
    else .error (.ahead .expectedListEnd (b :: s))

/-- What comes after an entry: the end of the object, or the opening
quote of a key, which is passed over. -/
def moreEntries (first : Bool) : Read Bool := fun s =>
  match skipSpace s with
  | [] => .error ⟨.endInObject, 0⟩
  | b :: s =>
    if b = 125 then .ok (false, s)
    else if first then
      if b = 34 then .ok (true, s) else .error (.ahead .keyNotString (b :: s))
    else if b = 44 then
      match skipSpace s with
      | [] => .error ⟨.endInValue, 0⟩
      | c :: s =>
        if c = 34 then .ok (true, s)
        else if c = 125 then .error (.ahead .trailingComma (c :: s))
        else .error (.ahead .keyNotString (c :: s))
    else .error (.ahead .expectedObjectEnd (b :: s))

/-- The colon between a key and its value. -/
def colon : Read Unit := fun s =>
  match skipSpace s with
  | [] => .error ⟨.endInObject, 0⟩
  | b :: s => if b = 58 then .ok ((), s) else .error (.ahead .expectedColon (b :: s))

mutual

/-- A value, inside `depth` more levels than are still allowed. -/
def value : (fuel depth : Nat) → Read Json
  | 0, _, s => .error (.here .endInValue s)
  | fuel + 1, depth, s =>
    match skipSpace s with
    | [] => .error ⟨.endInValue, 0⟩
    | b :: s =>
      if b = 110 then (word [117, 108, 108] s).map fun ((), s) => (.null, s)
      else if b = 116 then (word [114, 117, 101] s).map fun ((), s) => (.bool true, s)
      else if b = 102 then (word [97, 108, 115, 101] s).map fun ((), s) => (.bool false, s)
      else if b = 45 then (number true s).map fun (n, s) => (.number n, s)
      else if isDigit b then (number false (b :: s)).map fun (n, s) => (.number n, s)
      else if b = 34 then (string s).map fun (text, s) => (.string text, s)
      else if b = 91 then
        match depth with
        | 0 => .error (.ahead .recursionLimit (b :: s))
        | depth + 1 => (items fuel depth true s).map fun (vs, s) => (.array vs, s)
      else if b = 123 then
        match depth with
        | 0 => .error (.ahead .recursionLimit (b :: s))
        | depth + 1 => (entries fuel depth true [] s).map fun (es, s) => (.object es, s)
      else .error (.ahead .expectedValue (b :: s))
termination_by structural fuel => fuel

/-- The items of a list that are still to come. -/
def items : (fuel depth : Nat) → (first : Bool) → Read (List Json)
  | 0, _, _, s => .error (.here .endInList s)
  | fuel + 1, depth, first, s => do
    let (more, s) ← moreItems first s
    if more then
      let (v, s) ← value fuel depth s
      let (vs, s) ← items fuel depth false s
      return (v :: vs, s)
    else return ([], s)
termination_by structural fuel => fuel

/-- The entries of an object, added to those before. -/
def entries : (fuel depth : Nat) → (first : Bool) → List (String × Json) →
    Read (List (String × Json))
  | 0, _, _, _, s => .error (.here .endInObject s)
  | fuel + 1, depth, first, before, s => do
    let (more, s) ← moreEntries first s
    if more then
      let (key, s) ← string s
      let ((), s) ← colon s
      let (v, s) ← value fuel depth s
      entries fuel depth false (Json.put key v before) s
    else return (before, s)
termination_by structural fuel => fuel

end

end JsonReader

open JsonReader in
/-- The value of a whole text. Every second step reads at least one byte,
which bounds the number of steps. -/
def Json.read (input : List UInt8) : Except JsonFault Json :=
  match value (2 * input.length + 2) maxDepth input with
  | .error stop => .error (.after stop.cause input (input.length - stop.left))
  | .ok (v, s) =>
    match skipSpace s with
    | [] => .ok v
    | b :: s =>
      let stop := Stop.ahead .trailingCharacters (b :: s)
      .error (.after stop.cause input (input.length - stop.left))

end SqlCompose
