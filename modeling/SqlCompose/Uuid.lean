import SqlCompose.Text.Hex
import SqlCompose.Text.Utf8

/-!
# Universally unique identifiers

An identifier is a number of 128 bits, written as 32 hexadecimal digits
in five groups. It is read in four forms: the digits alone, the five
groups with hyphens, and these groups in braces or after `urn:uuid:`.
-/

namespace SqlCompose

/-- An identifier of 128 bits. -/
structure Uuid where
  bits : BitVec 128
  deriving DecidableEq, Repr

/-- Why a text or some bytes are no identifier. -/
inductive UuidFault where
  | length (found : Nat)
  | bytes (found : Nat)
  | character (found : Char) (index : Nat)
  | groupCount (found : Nat)
  | groupLength (group expected found : Nat)
  deriving DecidableEq, Repr

/-- The wording of a fault. -/
def UuidFault.message : UuidFault → String
  | .length found => "invalid length: found " ++ found.repr
  | .bytes found => "invalid length: expected 16 bytes, found " ++ found.repr
  | .character found index =>
    "invalid character: found `" ++ String.singleton found ++ "` at " ++ index.repr
  | .groupCount found => "invalid group count: expected 5, found " ++ found.repr
  | .groupLength group expected found =>
    "invalid group length in group " ++ group.repr ++ ": expected " ++ expected.repr ++
      ", found " ++ found.repr

namespace Uuid

def nil : Uuid := ⟨0⟩

/-- The identifier whose digits, most significant first, are given. -/
def ofDigits (digits : List Nat) : Uuid :=
  ⟨BitVec.ofNat 128 (digits.foldl (fun n d => n * 16 + d) 0)⟩

/-- Sixteen bytes, most significant first. -/
def toBytes (u : Uuid) : List UInt8 :=
  (List.range 16).map fun i => UInt8.ofNat (u.bits.toNat / Nat.pow 256 (15 - i))

def ofBytes? (bytes : List UInt8) : Except UuidFault Uuid :=
  if bytes.length = 16 then
    .ok ⟨BitVec.ofNat 128 (bytes.foldl (fun n b => n * 256 + b.toNat) 0)⟩
  else .error (.bytes bytes.length)

/-- The lengths of the five groups. -/
def groupLengths : List Nat := [8, 4, 4, 4, 12]

/-- Splits a list into pieces of given lengths. -/
def pieces : List Nat → List Char → List (List Char)
  | [], _ => []
  | n :: ns, s => s.take n :: pieces ns (s.drop n)

/-- Five groups of lower-case digits with hyphens between them. -/
def toText (u : Uuid) : String :=
  String.ofList (List.intercalate ['-'] (pieces groupLengths (Hex.ofNat 32 u.bits.toNat)))

/-- Reads the digits of five groups with hyphens at the right places. -/
def hyphenated? (s : List Char) : Option Uuid :=
  let groups := s.splitBy fun a b => a ≠ '-' && b ≠ '-'
  let digits := s.filter (· ≠ '-')
  if groups.map List.length = [8, 1, 4, 1, 4, 1, 4, 1, 12] ∧ digits.length = 32 then
    (digits.mapM Hex.value?).map ofDigits
  else none

/-- The first character that no identifier holds, with the number of
bytes before it. -/
def badCharacter? : (index : Nat) → List Char → Option (Char × Nat)
  | _, [] => none
  | index, c :: rest =>
    if c = '-' ∨ (Hex.value? c).isSome then badCharacter? (index + 1) rest else some (c, index)

/-- The positions of the hyphens. -/
def hyphens (s : List Char) : List Nat :=
  (s.zipIdx.filter fun (c, _) => c = '-').map Prod.snd

/-- The form a text has: its inside, how many bytes come before it, and
whether it is bare. -/
def form (s : List Char) : List Char × Nat × Bool :=
  let marked := "urn:uuid:".toList
  if s.head? = some (Char.ofNat 0x7b) ∧ s.getLast? = some (Char.ofNat 0x7d) ∧ 2 ≤ s.length then
    ((s.drop 1).dropLast, 1, false)
  else if marked.isPrefixOf s then (s.drop marked.length, marked.length, false)
  else (s, 0, true)

/-- Where the five groups begin in a text with hyphens, and where it
ends. -/
def groupStarts : List Nat := [0, 9, 14, 19, 24]

/-- What is wrong with a text that is no identifier. -/
def fault (s : List Char) : UuidFault :=
  let (inside, offset, bare) := form s
  match badCharacter? 0 inside with
  | some (c, index) => .character c (index + offset)
  | none =>
    let hyphens := hyphens inside
    if hyphens.isEmpty && bare then .length (Utf8.size s)
    else if hyphens.length ≠ 4 then .groupCount (hyphens.length + 1)
    else
      let ends := [8, 13, 18, 23]
      let wrong := (List.zip (List.range 4) (List.zip hyphens ends)).find? fun (_, h, e) => h ≠ e
      match wrong with
      | some (i, h, _) =>
        .groupLength i (groupLengths.getD i 0) (h - groupStarts.getD i 0)
      | none => .groupLength 4 12 (Utf8.size s - 24)

/-- The identifier of a text in one of its four forms. -/
def read (text : String) : Except UuidFault Uuid :=
  let s := text.toList
  let (inside, _, bare) := form s
  let read? :=
    if bare && s.length = 32 then (s.mapM Hex.value?).map ofDigits
    else if inside.length = 36 then hyphenated? inside
    else none
  match read? with
  | some u => .ok u
  | none => .error (fault s)

end Uuid

end SqlCompose
