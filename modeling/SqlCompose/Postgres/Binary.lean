import SqlCompose.Json.Reader
import SqlCompose.Postgres.WireType
import SqlCompose.Scalar
import SqlCompose.Text.Utf8

/-!
# Binary values

A Postgres server sends and takes values as bytes. Numbers have their most
significant byte first. Times are counts of microseconds, and dates counts
of days, since the first day of the year 2000. A `jsonb` value is its text
behind a byte with the number of its version.

An argument is written as the type of its parameter asks where it can be
narrowed to it, and as itself otherwise. A value is read as the type of its
column, and only in full.
-/

namespace SqlCompose.Postgres

/-! ## Numbers of a fixed width -/

/-- The lowest bytes of an integer, `width` of them. -/
def bigEndian (width : Nat) (n : Int) : List UInt8 :=
  (List.range width).map fun i => UInt8.ofNat (n / Nat.pow 256 (width - 1 - i) % 256).toNat

/-- The number that bytes stand for. -/
def natOfBytes (bytes : List UInt8) : Nat := bytes.foldl (fun n b => n * 256 + b.toNat) 0

/-- The number with a sign that exactly `width` bytes stand for. -/
def intOfBytes? (width : Nat) (bytes : List UInt8) : Option Int :=
  if bytes.length = width then some ((natOfBytes bytes : Int).bmod (Nat.pow 256 width)) else none

/-- The second at which the year 2000 begins. -/
def epochSecond : Int := 946684800

/-! ## Writing arguments -/

/-- Why a number cannot be narrowed. -/
inductive NarrowFault where
  | tooLarge
  | tooSmall
  deriving DecidableEq, Repr

def NarrowFault.message : NarrowFault → String
  | .tooLarge => "number too large to fit in target type"
  | .tooSmall => "number too small to fit in target type"

/-- An integer in `width` bytes, if they can hold it. -/
def narrow (width : Nat) (n : Int) : Except NarrowFault (List UInt8) :=
  let bound : Int := Nat.pow 2 (8 * width - 1)
  if bound ≤ n then .error .tooLarge
  else if n < -bound then .error .tooSmall
  else .ok (bigEndian width n)

/-- Microseconds since the year 2000, parts of one dropped. -/
def microsOfInstant (t : Instant) : Int :=
  ((t.seconds - epochSecond) * 1000000000 + t.nanos).tdiv 1000

/-- Days since the year 2000. -/
def daysOfInstant (t : Instant) : Int := (t.seconds - epochSecond) / 86400

/-- The bytes of an argument for a parameter of a type. -/
def encode (type : WireType) : Scalar → Except NarrowFault (List UInt8)
  | .bool b => .ok [if b then 1 else 0]
  | .int n =>
    match type with
    | .int2 => narrow 2 n.toInt
    | .int4 => narrow 4 n.toInt
    | .float4 => .ok (bigEndian 4 (Binary32.ofInt n.toInt).bits.toNat)
    | .float8 => .ok (bigEndian 8 (Binary64.ofInt n.toInt).bits.toNat)
    | _ => .ok (bigEndian 8 n.toInt)
  | .float x =>
    match type with
    | .float4 => .ok (bigEndian 4 (Binary32.ofBinary64 x).bits.toNat)
    | _ => .ok (bigEndian 8 x.bits.toNat)
  | .text s => .ok (Utf8.encode s)
  | .bytes b => .ok b
  | .time t =>
    match type with
    | .date => .ok (bigEndian 4 (daysOfInstant t))
    | _ => .ok (bigEndian 8 (microsOfInstant t))
  | .json v =>
    match type with
    | .jsonb => .ok (1 :: Utf8.encode v.toText)
    | _ => .ok (Utf8.encode v.toText)
  | .uuid u => .ok u.toBytes

/-! ## Reading columns -/

/-- The instant some microseconds after the year 2000 begins. -/
def instantOfMicros? (micros : Int) : Option Instant :=
  (Instant.ofSeconds? (epochSecond + micros / 1000000)).map fun t =>
    { t with nanos := (micros % 1000000).toNat * 1000 }

/-- The beginning of the day some days after the year 2000 begins. -/
def instantOfDays? (days : Int) : Option Instant :=
  Instant.ofSeconds? (epochSecond + days * 86400)

def jsonOfBytes? (bytes : List UInt8) : Option Scalar := ((Json.read bytes).toOption).map .json

/-- The value of a column of a type, unless the bytes do not stand for
one. -/
def decode? : WireType → List UInt8 → Option Scalar
  | .bool, [b] => some (.bool (b != 0))
  | .bool, _ => none
  | .int2, bytes => (intOfBytes? 2 bytes).map (.int ∘ Int64.ofInt)
  | .int4, bytes => (intOfBytes? 4 bytes).map (.int ∘ Int64.ofInt)
  | .int8, bytes => (intOfBytes? 8 bytes).map (.int ∘ Int64.ofInt)
  | .float4, bytes =>
    if bytes.length = 4 then some (.float (Binary32.mk (UInt32.ofNat (natOfBytes bytes))).widen)
    else none
  | .float8, bytes =>
    if bytes.length = 8 then some (.float ⟨UInt64.ofNat (natOfBytes bytes)⟩) else none
  | .text, bytes => ((Utf8.decode bytes).toOption).map (.text ∘ String.ofList)
  | .varchar, bytes => ((Utf8.decode bytes).toOption).map (.text ∘ String.ofList)
  | .bytea, bytes => some (.bytes bytes)
  | .timestamp, bytes => ((intOfBytes? 8 bytes).bind instantOfMicros?).map .time
  | .timestamptz, bytes => ((intOfBytes? 8 bytes).bind instantOfMicros?).map .time
  | .date, bytes => ((intOfBytes? 4 bytes).bind instantOfDays?).map .time
  | .json, bytes => jsonOfBytes? bytes
  | .jsonb, version :: bytes => if version = 1 then jsonOfBytes? bytes else none
  | .jsonb, [] => none
  | .uuid, bytes => ((Uuid.ofBytes? bytes).toOption).map .uuid
  | .other _, _ => none

/-- The value of a cell, which may be null. Even a null cannot be read as
a type whose values are not read. -/
def decodeCell? (type : WireType) : Option (List UInt8) → Option (Option Scalar)
  | some bytes => (decode? type bytes).map some
  | none =>
    match type with
    | .other _ => none
    | _ => some none

end SqlCompose.Postgres
