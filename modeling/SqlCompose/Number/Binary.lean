/-!
# Binary floating point, exactly

A binary number is held as its bit pattern, and every operation on it is
exact arithmetic on natural numbers followed by one rounding. A layout
(`Layout`) says how many bits the fraction and the exponent have, so that
single and double precision share one rounding function.

`Layout.ofRatio` is the only place where anything is rounded: to the
nearest representable magnitude, a tie going to the even one, a magnitude
past the largest finite one going to infinity.
-/

namespace SqlCompose

/-- A power of a base, 1 where the exponent is negative: the part of a
scale `base ^ k` that belongs in a numerator, and with `-k` the part that
belongs in the denominator. -/
def scaling (base : Nat) (k : Int) : Nat := Nat.pow base k.toNat

/-- Widths of the two variable parts of a binary number's bit pattern. -/
structure Layout where
  fractionBits : Nat
  exponentBits : Nat
  deriving DecidableEq, Repr

namespace Layout

/-- Double precision. -/
def double : Layout := ⟨52, 11⟩

/-- Single precision. -/
def single : Layout := ⟨23, 8⟩

/-- The largest exponent field, which marks infinities and NaNs. -/
def specialExponent (l : Layout) : Nat := Nat.pow 2 l.exponentBits - 1

/-- How many patterns share one exponent field. -/
def fractions (l : Layout) : Nat := Nat.pow 2 l.fractionBits

/-- The weight of the sign bit, which is also the number of magnitudes. -/
def signBit (l : Layout) : Nat := Nat.pow 2 (l.fractionBits + l.exponentBits)

/-- The weight of the bit that makes a NaN quiet. -/
def quietBit (l : Layout) : Nat := Nat.pow 2 (l.fractionBits - 1)

/-- The power of two by which the smallest magnitude is scaled: the value
of a pattern with exponent field 0 is its fraction times two to this
power. -/
def minPower (l : Layout) : Int :=
  2 - (Nat.pow 2 (l.exponentBits - 1) : Int) - l.fractionBits

/-- The pattern of an infinite magnitude. -/
def infinity (l : Layout) : Nat := l.specialExponent * l.fractions

/-- A magnitude `mantissa * 2 ^ power`. -/
structure Dyadic where
  mantissa : Nat
  power : Int
  deriving DecidableEq, Repr

/-- The magnitude that a finite pattern (without its sign bit) stands
for. -/
def decode (l : Layout) (pattern : Nat) : Dyadic :=
  let exponent := pattern / l.fractions
  let fraction := pattern % l.fractions
  if exponent = 0 then ⟨fraction, l.minPower⟩
  else ⟨fraction + l.fractions, l.minPower + (exponent - 1 : Nat)⟩

/-- The fraction `num / den` rounded to a natural number, a tie going to
the even neighbour. -/
def roundHalfEven (num den : Nat) : Nat :=
  let q := num / den
  let r := num % den
  if 2 * r < den then q
  else if den < 2 * r then q + 1
  else q + q % 2

/-- The pattern nearest to `num / den`. The power of two is chosen so
that the quotient keeps one bit more than the fraction has, and never
falls below the smallest power; a carry out of the fraction moves into
the exponent field by itself. -/
def ofRatio (l : Layout) (num den : Nat) : Nat :=
  if num = 0 then 0
  else
    let estimate : Int := (Nat.log2 num : Int) - Nat.log2 den
    -- `num / den` is at least `2 ^ top` and below `2 ^ (top + 1)`
    let top : Int :=
      if num * scaling 2 (-estimate) < den * scaling 2 estimate then estimate - 1 else estimate
    let power := max (top - l.fractionBits) l.minPower
    let mantissa := roundHalfEven (num * scaling 2 (-power)) (den * scaling 2 power)
    let pattern := mantissa + (power - l.minPower).toNat * l.fractions
    min pattern l.infinity

/-- The pattern nearest to a magnitude. -/
def ofDyadic (l : Layout) (d : Dyadic) : Nat :=
  l.ofRatio (d.mantissa * scaling 2 d.power) (scaling 2 (-d.power))

end Layout

/-- A single-precision number, by its bit pattern. -/
structure Binary32 where
  bits : UInt32
  deriving DecidableEq, Repr

/-- A double-precision number, by its bit pattern. Two patterns of one
value (the two zeros) and two NaNs are told apart. -/
structure Binary64 where
  bits : UInt64
  deriving DecidableEq, Repr

namespace Binary64

def isNegative (x : Binary64) : Bool := x.bits.toNat / Layout.double.signBit = 1

/-- The pattern without its sign bit. -/
def magnitude (x : Binary64) : Nat := x.bits.toNat % Layout.double.signBit

def isFinite (x : Binary64) : Bool := x.magnitude < Layout.double.infinity

def isNaN (x : Binary64) : Bool := Layout.double.infinity < x.magnitude

def isZero (x : Binary64) : Bool := x.magnitude = 0

def ofParts (negative : Bool) (magnitude : Nat) : Binary64 :=
  ⟨UInt64.ofNat (magnitude + if negative then Layout.double.signBit else 0)⟩

def zero : Binary64 := ⟨0⟩

/-- The nearest number to an integer. -/
def ofInt (n : Int) : Binary64 :=
  ofParts (n < 0) (Layout.double.ofRatio n.natAbs 1)

/-- The nearest number to `num / den`, with a sign. -/
def ofRatio (negative : Bool) (num den : Nat) : Binary64 :=
  ofParts negative (Layout.double.ofRatio num den)

def negate (x : Binary64) : Binary64 := ofParts (!x.isNegative) x.magnitude

/-- The magnitude of a finite number as a fraction. -/
def ratio (x : Binary64) : Nat × Nat :=
  let d := Layout.double.decode x.magnitude
  (d.mantissa * scaling 2 d.power, scaling 2 (-d.power))

/-- The product of two finite numbers. -/
def mul (x y : Binary64) : Binary64 :=
  .ofRatio (x.isNegative != y.isNegative) (x.ratio.1 * y.ratio.1) (x.ratio.2 * y.ratio.2)

/-- The quotient of a finite number by one that is not zero. -/
def div (x y : Binary64) : Binary64 :=
  .ofRatio (x.isNegative != y.isNegative) (x.ratio.1 * y.ratio.2) (x.ratio.2 * y.ratio.1)

end Binary64

namespace Binary32

/-- The weight in a double-precision payload of the lowest bit of a
single-precision one. -/
def payloadStep : Nat := Nat.pow 2 (Layout.double.fractionBits - Layout.single.fractionBits)

/-- Every single-precision number is a double-precision one; a NaN becomes
quiet and keeps its sign and its payload in the leading bits. -/
def widen (x : Binary32) : Binary64 :=
  let pattern := x.bits.toNat % Layout.single.signBit
  let negative : Bool := x.bits.toNat / Layout.single.signBit = 1
  if pattern < Layout.single.infinity then
    .ofParts negative (Layout.double.ofDyadic (Layout.single.decode pattern))
  else if pattern = Layout.single.infinity then .ofParts negative Layout.double.infinity
  else
    let payload := pattern % Layout.single.quietBit * payloadStep
    .ofParts negative (Layout.double.infinity + Layout.double.quietBit + payload)

def ofParts (negative : Bool) (magnitude : Nat) : Binary32 :=
  ⟨UInt32.ofNat (magnitude + if negative then Layout.single.signBit else 0)⟩

/-- The nearest single-precision number; a NaN stays one, quiet, and
keeps the leading bits of its payload. -/
def ofBinary64 (x : Binary64) : Binary32 :=
  if x.isFinite then
    ofParts x.isNegative (Layout.single.ofDyadic (Layout.double.decode x.magnitude))
  else if x.isNaN then
    let payload := (x.magnitude - Layout.double.infinity) / payloadStep % Layout.single.quietBit
    ofParts x.isNegative (Layout.single.infinity + Layout.single.quietBit + payload)
  else ofParts x.isNegative Layout.single.infinity

/-- The nearest single-precision number to an integer. -/
def ofInt (n : Int) : Binary32 :=
  ofParts (n < 0) (Layout.single.ofRatio n.natAbs 1)

end Binary32

end SqlCompose
