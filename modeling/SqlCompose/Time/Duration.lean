/-!
# Durations

A duration is a count of nanoseconds. `Duration.toText` writes it in the
largest unit of which it holds at least one, with as many decimal places
as it needs.
-/

namespace SqlCompose

/-- A length of time in nanoseconds. -/
structure Duration where
  nanos : Nat
  deriving DecidableEq, Repr, Inhabited

namespace Duration

def zero : Duration := ⟨0⟩

def ofMillis (n : Nat) : Duration := ⟨n * 1000000⟩

/-- Whole microseconds. -/
def micros (d : Duration) : Nat := d.nanos / 1000

/-- The decimal digits of `n` below a point, the last `width` places of a
number, without zeros at their end. -/
def places : (width : Nat) → Nat → List Char
  | 0, _ => []
  | width + 1, n =>
    let digit := Char.ofNat ('0'.toNat + n / Nat.pow 10 width % 10)
    if n % Nat.pow 10 (width + 1) = 0 then [] else digit :: places width n

/-- A count of a unit that is `10 ^ width` nanoseconds. -/
def inUnit (width : Nat) (symbol : String) (nanos : Nat) : String :=
  let fraction := places width nanos
  let whole := (nanos / Nat.pow 10 width).repr
  (if fraction.isEmpty then whole else whole ++ "." ++ String.ofList fraction) ++ symbol

/-- The duration in seconds, milliseconds, microseconds or nanoseconds. -/
def toText (d : Duration) : String :=
  if 1000000000 ≤ d.nanos then inUnit 9 "s" d.nanos
  else if 1000000 ≤ d.nanos then inUnit 6 "ms" d.nanos
  else if 1000 ≤ d.nanos then inUnit 3 "µs" d.nanos
  else inUnit 0 "ns" d.nanos

end Duration

end SqlCompose
