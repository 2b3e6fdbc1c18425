/-!
# Bytes of UTF-8

`Utf8.decode` reads bytes as text, or tells where the first ill-formed
sequence starts and how long its longest well-formed beginning is. The
second byte has a narrower range after some first bytes, which shuts out
overlong forms, surrogates and code points past the last one.
-/

namespace SqlCompose.Utf8

/-- An ill-formed sequence. `length` is the number of bytes that no
well-formed sequence can continue, `none` when the input only ended too
early. -/
structure Fault where
  index : Nat
  length : Option Nat
  deriving DecidableEq, Repr

/-- The wording of a fault. -/
def Fault.message (f : Fault) : String :=
  match f.length with
  | some n => "invalid utf-8 sequence of " ++ n.repr ++ " bytes from index " ++ f.index.repr
  | none => "incomplete utf-8 byte sequence from index " ++ f.index.repr

/-- How many bytes follow a first byte, and the range of the second. -/
def follow? (first : UInt8) : Option (Nat × UInt8 × UInt8) :=
  if 0xc2 ≤ first ∧ first ≤ 0xdf then some (1, 0x80, 0xbf)
  else if first = 0xe0 then some (2, 0xa0, 0xbf)
  else if first = 0xed then some (2, 0x80, 0x9f)
  else if 0xe1 ≤ first ∧ first ≤ 0xef then some (2, 0x80, 0xbf)
  else if first = 0xf0 then some (3, 0x90, 0xbf)
  else if 0xf1 ≤ first ∧ first ≤ 0xf3 then some (3, 0x80, 0xbf)
  else if first = 0xf4 then some (3, 0x80, 0x8f)
  else none

/-- What stands at the head of the input: a character with its number of
bytes, or the length of an ill-formed sequence. -/
inductive Head where
  | char (c : Char) (size : Nat)
  | invalid (length : Option Nat)

/-- The bits that a byte after the first contributes. -/
def low (b : UInt8) : Nat := b.toNat % 64

def isTail (b : UInt8) : Bool := 0x80 ≤ b ∧ b ≤ 0xbf

/-- Reads one character. -/
def head (first : UInt8) (rest : List UInt8) : Head :=
  if first < 0x80 then .char (Char.ofNat first.toNat) 1
  else
    match follow? first with
    | none => .invalid (some 1)
    | some (count, lo, hi) =>
      match rest with
      | [] => .invalid none
      | second :: rest =>
        if second < lo ∨ hi < second then .invalid (some 1)
        else if count = 1 then .char (Char.ofNat (first.toNat % 32 * 64 + low second)) 2
        else
          match rest with
          | [] => .invalid none
          | third :: rest =>
            if !isTail third then .invalid (some 2)
            else if count = 2 then
              .char (Char.ofNat ((first.toNat % 16 * 64 + low second) * 64 + low third)) 3
            else
              match rest with
              | [] => .invalid none
              | fourth :: _ =>
                if !isTail fourth then .invalid (some 3)
                else
                  .char (Char.ofNat
                    (((first.toNat % 8 * 64 + low second) * 64 + low third) * 64 + low fourth)) 4

/-- Reads at most `fuel` characters, from `index` on. -/
def decodeFrom : (fuel index : Nat) → List UInt8 → Except Fault (List Char)
  | 0, _, _ => .ok []
  | _ + 1, _, [] => .ok []
  | fuel + 1, index, first :: rest =>
    match head first rest with
    | .invalid length => .error ⟨index, length⟩
    | .char c size => (decodeFrom fuel (index + size) (rest.drop (size - 1))).map (c :: ·)

/-- The text of well-formed bytes, or the first fault. -/
def decode (bytes : List UInt8) : Except Fault (List Char) :=
  decodeFrom bytes.length 0 bytes

/-- How many bytes characters take. -/
def size : List Char → Nat
  | [] => 0
  | c :: rest => c.utf8Size + size rest

/-- The bytes of a text. -/
def encode (text : String) : List UInt8 := text.toUTF8.toList

end SqlCompose.Utf8
