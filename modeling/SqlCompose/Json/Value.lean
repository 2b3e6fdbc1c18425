import SqlCompose.Number.Shortest
import SqlCompose.Text.Hex

/-!
# JSON values and their text

An object is kept as a list of entries with distinct keys in ascending
order, so two texts that differ only in the order or repetition of keys
give one value. A number is a whole number of 64 bits where it fits, and
a double otherwise.

`Json.toText` is the compact text: no blanks, and only those characters
escaped that a string may not hold.
-/

namespace SqlCompose

/-- A JSON number. -/
inductive JsonNumber where
  | natural (n : UInt64)
  | negative (n : Int64)
  | float (x : Binary64)
  deriving DecidableEq, Repr

/-- A JSON value. -/
inductive Json where
  | null
  | bool (b : Bool)
  | number (n : JsonNumber)
  | string (s : String)
  | array (items : List Json)
  | object (entries : List (String × Json))
  deriving Repr

namespace Json

/-- Puts an entry at its place, over an earlier one of the same key. -/
def put (key : String) (value : Json) : List (String × Json) → List (String × Json)
  | [] => [(key, value)]
  | (k, v) :: rest =>
    if key = k then (key, value) :: rest
    else if key < k then (key, value) :: (k, v) :: rest
    else (k, v) :: put key value rest

/-- The form of a character inside a string. -/
def escapeChar (c : Char) : List Char :=
  if c = '"' then ['\\', '"']
  else if c = '\\' then ['\\', '\\']
  else if c.toNat = 8 then ['\\', 'b']
  else if c.toNat = 12 then ['\\', 'f']
  else if c = '\n' then ['\\', 'n']
  else if c = '\r' then ['\\', 'r']
  else if c = '\t' then ['\\', 't']
  else if c.toNat < 0x20 then '\\' :: 'u' :: Hex.ofNat 4 c.toNat
  else [c]

/-- A string between double quotes. -/
def quote (s : String) : String :=
  "\"" ++ String.ofList (s.toList.flatMap escapeChar) ++ "\""

end Json

/-- The text of a number. -/
def JsonNumber.toText : JsonNumber → String
  | .natural n => n.toNat.repr
  | .negative n => toString n.toInt
  | .float x => x.toJsonText

namespace Json

mutual

/-- The compact text of a value. -/
def toText : Json → String
  | .null => "null"
  | .bool true => "true"
  | .bool false => "false"
  | .number n => n.toText
  | .string s => quote s
  | .array items => "[" ++ String.intercalate "," (itemTexts items) ++ "]"
  | .object entries => "\x7b" ++ String.intercalate "," (entryTexts entries) ++ "\x7d"
termination_by structural v => v

/-- The texts of the items of an array. -/
def itemTexts : List Json → List String
  | [] => []
  | v :: rest => toText v :: itemTexts rest
termination_by structural vs => vs

/-- The texts of the entries of an object. -/
def entryTexts : List (String × Json) → List String
  | [] => []
  | (key, v) :: rest => (quote key ++ ":" ++ toText v) :: entryTexts rest
termination_by structural vs => vs

end

end Json

end SqlCompose
