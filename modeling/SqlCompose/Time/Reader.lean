import SqlCompose.Text.Blank
import SqlCompose.Time.Instant

/-!
# Reading a time

A time stored as text is read in the internet date format or, if it is
not of that form, as `year-month-day hour:minute:second` with an optional
fraction, in universal time. The second form lets any blanks or none stand
before a number and between its two parts, and numbers have fewer digits
than their width. What is wrong with a text is said by the second reader
alone.
-/

namespace SqlCompose

/-- Why a text is no time. -/
inductive TimeFault where
  | outOfRange
  | invalid
  | tooShort
  | tooLong
  deriving DecidableEq, Repr

/-- The wording of a fault. -/
def TimeFault.message : TimeFault → String
  | .outOfRange => "input is out of range"
  | .invalid => "input contains invalid characters"
  | .tooShort => "premature end of input"
  | .tooLong => "trailing input"

namespace TimeReader

/-- A reader takes the text that is left and gives a value with the rest. -/
abbrev Read (α : Type) := List Char → Except TimeFault (α × List Char)

/-- The digits of a number, first digit first. -/
def digitsValue (digits : List Char) : Nat :=
  digits.foldl (fun n c => n * 10 + (c.toNat - '0'.toNat)) 0

/-- A number of `least` to `most` digits, `none` being no upper limit. -/
def number (least : Nat) (most : Option Nat) : Read Nat := fun s =>
  let window := match most with
    | some n => s.take n
    | none => s
  let digits := window.takeWhile Char.isDigit
  if s.length < least then .error .tooShort
  else if digits.length < least then .error .invalid
  else .ok (digitsValue digits, s.drop digits.length)

/-- One given character. -/
def char (c : Char) : Read Unit
  | [] => .error .tooShort
  | d :: rest => if d = c then .ok ((), rest) else .error .invalid

/-- The digits after the point, as nanoseconds; those past the ninth are
passed over. -/
def nanoseconds : Read Nat := fun s => do
  let (value, rest) ← number 1 (some 9) s
  let scale := Nat.pow 10 (9 - (s.length - rest.length))
  return (value * scale, rest.dropWhile Char.isDigit)

/-- A fraction of a second, if a point begins one. -/
def fraction : Read Nat
  | '.' :: rest => nanoseconds rest
  | s => .ok (0, s)

/-- Fails unless a value lies between two bounds. -/
def within (low high : Nat) (n : Nat) : Except TimeFault Unit :=
  if low ≤ n ∧ n ≤ high then .ok () else .error .outOfRange

/-- A two-digit field of at least `least` digits within bounds; blanks
may stand before it if `blanks` says so. -/
def field (blanks : Bool) (least low high : Nat) : Read Nat := fun s => do
  let (value, rest) ← number least (some 2) (if blanks then s.dropWhile isBlank else s)
  within low high value
  return (value, rest)

/-- The year, which may carry a sign and then any number of digits. -/
def signedYear : Read Int := fun s => do
  let (year, rest) ← match s.dropWhile isBlank with
    | '-' :: s => (number 1 none s).map fun (n, rest) => (-(n : Int), rest)
    | '+' :: s => (number 1 none s).map fun (n, rest) => ((n : Int), rest)
    | s => (number 1 (some 4) s).map fun (n, rest) => ((n : Int), rest)
  if -2147483648 ≤ year ∧ year ≤ 2147483647 then return (year, rest) else throw .outOfRange

/-- The offset from universal time in seconds: a `Z`, or a sign, two
digits of hours, a colon and two digits of minutes. -/
def offset : Read Int
  | [] => .error .tooShort
  | c :: s =>
    if c = 'Z' ∨ c = 'z' then .ok (0, s)
    else if c = '+' ∨ c = '-' ∨ c = '\u2212' then do
      let (hours, s) ← number 2 (some 2) s
      let ((), s) ← char ':' s
      let (minutes, s) ← number 2 (some 2) s
      within 0 59 minutes
      within 0 23 hours
      let seconds : Int := (hours * 3600 + minutes * 60 : Nat)
      return (if c = '+' then seconds else -seconds, s)
    else .error .invalid

/-- The day, if it exists. -/
def date (year : Int) (month day : Nat) : Except TimeFault CivilDate :=
  let d : CivilDate := ⟨year, month, day⟩
  if d.isValid then .ok d else .error .outOfRange

/-- Fails unless the whole text was read. -/
def finish : List Char → Except TimeFault Unit
  | [] => .ok ()
  | _ :: _ => .error .tooLong

/-- A time in the internet date format, a blank or a letter of either
case between its two parts. -/
def internet (s : List Char) : Except TimeFault Instant := do
  let (year, s) ← number 4 (some 4) s
  let ((), s) ← char '-' s
  let (month, s) ← field false 2 1 12 s
  let ((), s) ← char '-' s
  let (day, s) ← field false 2 1 31 s
  let s ← match s with
    | [] => throw .tooShort
    | c :: rest => if c = 't' ∨ c = 'T' ∨ c = ' ' then pure rest else throw .invalid
  let (hour, s) ← field false 2 0 23 s
  let ((), s) ← char ':' s
  let (minute, s) ← field false 2 0 59 s
  let ((), s) ← char ':' s
  let (second, s) ← field false 2 0 60 s
  let (nanos, s) ← fraction s
  let (offset, s) ← offset s
  finish s
  let date ← date year month day
  let wall := Instant.ofCivil date hour minute second nanos
  return { wall with seconds := wall.seconds - offset }

/-- A time as `year-month-day hour:minute:second` with an optional
fraction. The blanks between the parts are those that may stand before the
hour. -/
def civil (s : List Char) : Except TimeFault Instant := do
  let (year, s) ← signedYear s
  let ((), s) ← char '-' s
  let (month, s) ← field true 1 1 12 s
  let ((), s) ← char '-' s
  let (day, s) ← field true 1 1 31 s
  let (hour, s) ← field true 1 0 23 s
  let ((), s) ← char ':' s
  let (minute, s) ← field true 1 0 59 s
  let ((), s) ← char ':' s
  let (second, s) ← field true 1 0 60 s
  let (nanos, s) ← fraction s
  finish s
  let date ← date year month day
  return .ofCivil date hour minute second nanos

end TimeReader

/-- The time that a stored text stands for. -/
def Instant.read (text : String) : Except TimeFault Instant :=
  match TimeReader.internet text.toList with
  | .ok t => .ok t
  | .error _ => TimeReader.civil text.toList

end SqlCompose
