import SqlCompose.Json.Reader
import SqlCompose.Scalar
import SqlCompose.Text.Escape
import SqlCompose.Text.Utf8
import SqlCompose.Time.Reader

/-!
# Reading cells as values

A cell is read as the type that the caller wants, which need not be the
type it has: databases without a type of their own for a value store it as
another. A truth value may be stored as a number, a time as a text or as a
number of seconds, and an identifier or a document as a text or as bytes.
-/

namespace SqlCompose

/-- A type that cells are read as. -/
structure Target (α : Type) where
  /-- The name of the type in a report of cells that could not be read. -/
  typeName : String
  convert : Scalar → Except String α
  /-- What stands for a null. -/
  default : α

namespace Target

/-- The report on a cell of a type that cannot be read as the wanted
one. -/
def mismatch {α : Type} (wanted : String) (found : Scalar) : Except String α :=
  .error ("cannot scan " ++ found.typeName ++ " into " ++ wanted)

def bool : Target Bool where
  typeName := "bool"
  convert
    | .bool b => .ok b
    | .int n => .ok (n != 0)
    | found => mismatch "bool" found
  default := false

def int : Target Int64 where
  typeName := "i64"
  convert
    | .int n => .ok n
    | .bool b => .ok (if b then 1 else 0)
    | found => mismatch "i64" found
  default := 0

def float : Target Binary64 where
  typeName := "f64"
  convert
    | .float x => .ok x
    | .int n => .ok (.ofInt n.toInt)
    | found => mismatch "f64" found
  default := .zero

def string : Target String where
  typeName := "String"
  convert
    | .text s => .ok s
    | .uuid u => .ok u.toText
    | .bytes b =>
      match Utf8.decode b with
      | .ok s => .ok (String.ofList s)
      | .error f => .error f.message
    | found => mismatch "String" found
  default := ""

def bytes : Target (List UInt8) where
  typeName := "Vec<u8>"
  convert
    | .bytes b => .ok b
    | .text s => .ok (Utf8.encode s)
    | found => mismatch "Vec<u8>" found
  default := []

def time : Target Instant where
  typeName := "DateTime<Utc>"
  convert
    | .time t => .ok t
    | .text s =>
      match Instant.read s with
      | .ok t => .ok t
      | .error f =>
        .error ("cannot parse " ++ Escape.quote s ++ " as a timestamp: " ++ f.message)
    | .int n =>
      match Instant.ofSeconds? n.toInt with
      | some t => .ok t
      | none => .error ("timestamp " ++ toString n.toInt ++ " out of range")
    | found => mismatch "DateTime<Utc>" found
  default := .epoch

def json : Target Json where
  typeName := "serde_json::Value"
  convert
    | .json v => .ok v
    | .text s => (Json.read (Utf8.encode s)).mapError JsonFault.message
    | .bytes b => (Json.read b).mapError JsonFault.message
    | found => mismatch "serde_json::Value" found
  default := .null

def uuid : Target Uuid where
  typeName := "Uuid"
  convert
    | .uuid u => .ok u
    | .text s => (Uuid.read s).mapError UuidFault.message
    | .bytes b => (Uuid.ofBytes? b).mapError UuidFault.message
    | found => mismatch "Uuid" found
  default := .nil

/-- Any value, as it is. -/
def scalar : Target Scalar where
  typeName := "Scalar"
  convert s := .ok s
  default := .text ""

end Target

end SqlCompose
