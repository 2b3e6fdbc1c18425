import SqlCompose.Number.Binary

/-!
# The shortest decimal that reads back

The reals that round to a finite binary number form an interval around
it, closed exactly when the number's mantissa is even. The shortest
decimal is a point of the coarsest grid `10 ^ k` that meets this
interval, and of two such points the nearer one. An exact tie is left to
the format that prints the number (`Tie`).

`Decimal.ofBinary` finds the point by trying grids from coarse to fine;
on each grid only the two neighbours of the number need a test, since if
any point of a grid lies in the interval, one of these two does.
-/

namespace SqlCompose

/-- Which of two equally near decimals a format takes. -/
inductive Tie where
  | up
  | even
  deriving DecidableEq, Repr

/-- The decimal `digits * 10 ^ power`. -/
structure Decimal where
  digits : Nat
  power : Int
  deriving DecidableEq, Repr

namespace Decimal

/-- Four times a number and the two ends of its rounding interval, in
units of a quarter of its last place, with the power of two of that
unit. -/
structure Interval where
  low : Nat
  value : Nat
  high : Nat
  closed : Bool
  power : Int

/-- The interval of reals that round to the pattern. Just above a power
of two the lower neighbour is only half as far away, unless the pattern
has the smallest power already. -/
def Interval.ofPattern (l : Layout) (pattern : Nat) : Interval :=
  let d := l.decode pattern
  let narrow : Bool := d.mantissa = l.fractions ∧ l.minPower < d.power
  ⟨4 * d.mantissa - (if narrow then 1 else 2), 4 * d.mantissa, 4 * d.mantissa + 2,
    d.mantissa % 2 = 0, d.power - 2⟩

/-- The point of the grid `10 ^ k` nearest to the number, if one lies in
the interval. Everything is multiplied by `unit` and `grid` so that the
comparisons are between natural numbers. -/
def Interval.onGrid? (i : Interval) (tie : Tie) (k : Int) : Option Decimal :=
  let unit := scaling 2 i.power * scaling 10 (-k)
  let grid := scaling 10 k * scaling 2 (-i.power)
  let contains (p : Nat) : Bool :=
    if i.closed then i.low * unit ≤ p * grid ∧ p * grid ≤ i.high * unit
    else i.low * unit < p * grid ∧ p * grid < i.high * unit
  let below := i.value * unit / grid
  let above := below + 1
  let rest := i.value * unit % grid
  let nearest : Nat :=
    if 2 * rest < grid then below
    else if grid < 2 * rest then above
    else match tie with
      | .up => above
      | .even => below + below % 2
  let other := if nearest = below then above else below
  if nearest ≠ 0 && contains nearest then some ⟨nearest, k⟩
  else if other ≠ 0 && contains other then some ⟨other, k⟩
  else none

/-- The shortest decimal of a finite, non-zero pattern. The coarsest grid
tried lies above the number; twenty grids suffice, since a grid finer
than the last place of the number always has a point in the interval. -/
def ofBinary (l : Layout) (tie : Tie) (pattern : Nat) : Decimal :=
  let d := l.decode pattern
  let top : Int := (Nat.log2 d.mantissa : Int) + d.power
  -- 1233 / 4096 is close to the decimal logarithm of 2
  let coarsest : Int := top * 1233 / 4096 + 2
  let i := Interval.ofPattern l pattern
  match (List.range 24).findSome? fun (n : Nat) => i.onGrid? tie (coarsest - n) with
  | some p => p
  | none => ⟨0, 0⟩

/-- Zeros, written at most 64 at a time. -/
def zeroParts (n : Nat) : List String :=
  if 64 < n then "".pushn '0' 64 :: zeroParts (n - 64) else ["".pushn '0' n]

/-- The parts in which the decimal is written in positional notation. -/
def positionalParts (d : Decimal) : List String :=
  let digits := d.digits.repr
  if 0 ≤ d.power then digits :: zeroParts d.power.toNat
  else
    let places := (-d.power).toNat
    if places < digits.length then
      let whole := digits.length - places
      [String.ofList (digits.toList.take whole), ".", String.ofList (digits.toList.drop whole)]
    else "0." :: zeroParts (places - digits.length) ++ [digits]

/-- The decimal in positional notation without an exponent: a point only
where there is a fraction. -/
def positional (d : Decimal) : String := String.join d.positionalParts

/-- The power of ten of the first digit. -/
def leadingPower (d : Decimal) : Int := d.power + d.digits.repr.length - 1

end Decimal

/-- The parts in which the number is written as SQL text. -/
def Binary64.sqlParts (x : Binary64) : List String :=
  if x.isNaN then ["NaN"]
  else
    (if x.isNegative then ["-"] else []) ++
      if !x.isFinite then ["inf"]
      else if x.isZero then ["0"]
      else (Decimal.ofBinary .double .up x.magnitude).positionalParts

/-- The number as SQL text: shortest digits, always positional, a point
only where there is a fraction, a sign also on a zero, and the words
`inf` and `NaN`. -/
def Binary64.toSqlText (x : Binary64) : String := String.join x.sqlParts

/-- The number as JSON text: shortest digits, positional while the first
digit stands for a power from -5 to 15, with `.0` on a whole number, and
otherwise one digit before the point and a signed exponent. JSON has no
word for a number that is not finite. -/
def Binary64.toJsonText (x : Binary64) : String :=
  if !x.isFinite then "null"
  else
    (if x.isNegative then "-" else "") ++
      if x.isZero then "0.0"
      else
        let d := Decimal.ofBinary .double .even x.magnitude
        let lead := d.leadingPower
        if -5 ≤ lead ∧ lead ≤ 15 then
          if 0 ≤ d.power then d.positional ++ ".0" else d.positional
        else
          let digits := d.digits.repr.toList
          let rest := digits.drop 1
          let fraction := if rest.isEmpty then "" else "." ++ String.ofList rest
          String.ofList (digits.take 1) ++ fraction ++
            "e" ++ (if 0 ≤ lead then "+" else "-") ++ lead.natAbs.repr

end SqlCompose
