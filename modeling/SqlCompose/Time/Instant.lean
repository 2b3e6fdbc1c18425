import SqlCompose.Time.Calendar

/-!
# Points in time

An instant is a count of seconds since 1970 in universal time, and the
nanoseconds after that second. A leap second has no count of its own: it
is the second before it with a billion nanoseconds or more.

`Instant.toText` writes an instant in the internet date format, with as
many groups of three fraction digits as it needs.
-/

namespace SqlCompose

/-- A point in time. -/
structure Instant where
  seconds : Int
  nanos : Nat
  deriving DecidableEq, Repr

namespace Instant

def epoch : Instant := ⟨0, 0⟩

/-- The number in decimal with leading zeros up to a width. -/
def padded (width n : Nat) : String :=
  let digits := n.repr
  "".pushn '0' (width - digits.length) ++ digits

/-- Four digits, or a sign and at least four digits for a year that four
digits cannot write. -/
def yearText (year : Int) : String :=
  if 0 ≤ year ∧ year ≤ 9999 then padded 4 year.natAbs
  else (if year < 0 then "-" else "+") ++ padded 4 year.natAbs

/-- The fraction of a second: nothing, or three, six or nine digits. -/
def fractionText (nanos : Nat) : String :=
  if nanos = 0 then ""
  else if nanos % 1000000 = 0 then "." ++ padded 3 (nanos / 1000000)
  else if nanos % 1000 = 0 then "." ++ padded 6 (nanos / 1000)
  else "." ++ padded 9 nanos

/-- The date of the instant. -/
def date (t : Instant) : CivilDate := .ofDays (t.seconds / 86400)

/-- The instant in the internet date format, as second 60 when it lies in
a leap second. -/
def toText (t : Instant) : String :=
  let date := t.date
  let time := (t.seconds % 86400).toNat
  let leap : Bool := 1000000000 ≤ t.nanos
  let second := time % 60 + if leap then 1 else 0
  let nanos := if leap then t.nanos - 1000000000 else t.nanos
  yearText date.year ++ "-" ++ padded 2 date.month ++ "-" ++ padded 2 date.day ++ "T" ++
    padded 2 (time / 3600) ++ ":" ++ padded 2 (time / 60 % 60) ++ ":" ++ padded 2 second ++
    fractionText nanos ++ "+00:00"

/-- The first and the last whole second that instants are kept for. -/
def firstSecond : Int := -8334601228800
def lastSecond : Int := 8210266876799

/-- The instant at a whole second, if instants are kept for it. -/
def ofSeconds? (seconds : Int) : Option Instant :=
  if firstSecond ≤ seconds ∧ seconds ≤ lastSecond then some ⟨seconds, 0⟩ else none

/-- The instant at a date and a time of day, second 60 being a leap
second. -/
def ofCivil (date : CivilDate) (hour minute second nanos : Nat) : Instant :=
  let leap : Bool := second = 60
  ⟨date.toDays * 86400 + (hour * 3600 + minute * 60 + (if leap then 59 else second) : Nat),
    nanos + if leap then 1000000000 else 0⟩

end Instant

end SqlCompose
