/-!
# Hexadecimal digits

Lower-case hexadecimal text of bytes and of numbers of a fixed width, and
the value of a digit of either case.
-/

namespace SqlCompose.Hex

/-- The lower-case digit of a value below sixteen. -/
def digit (n : Nat) : Char :=
  if n < 10 then Char.ofNat ('0'.toNat + n) else Char.ofNat ('a'.toNat + (n - 10))

/-- The value of a digit of either case. -/
def value? (c : Char) : Option Nat :=
  if '0' ≤ c ∧ c ≤ '9' then some (c.toNat - '0'.toNat)
  else if 'a' ≤ c ∧ c ≤ 'f' then some (c.toNat - 'a'.toNat + 10)
  else if 'A' ≤ c ∧ c ≤ 'F' then some (c.toNat - 'A'.toNat + 10)
  else none

/-- Two digits a byte. -/
def ofBytes (bytes : List UInt8) : List Char :=
  bytes.flatMap fun b => [digit (b.toNat / 16), digit (b.toNat % 16)]

/-- Exactly `width` digits, the lowest ones of the number. -/
def ofNat : (width : Nat) → Nat → List Char
  | 0, _ => []
  | width + 1, n => ofNat width (n / 16) ++ [digit (n % 16)]

/-- The digits without leading zeros, at least one. -/
def ofNatShort (n : Nat) : List Char := ofNat (Nat.log2 n / 4 + 1) n

end SqlCompose.Hex
