import SqlCompose.Json.Value
import SqlCompose.Text.Quote
import SqlCompose.Time.Instant
import SqlCompose.Uuid

/-!
# Arguments

A scalar is a value that can be bound to a placeholder. It is never null:
a null is written into the statement itself.

`Scalar.literal` writes a scalar into SQL text. Texts and everything that
is written like one are quoted literals, so no content can end one early.
-/

namespace SqlCompose

/-- A value bound to a placeholder. -/
inductive Scalar where
  | bool (b : Bool)
  | int (n : Int64)
  | float (x : Binary64)
  | text (s : String)
  | bytes (bytes : List UInt8)
  | time (t : Instant)
  | json (v : Json)
  | uuid (u : Uuid)
  deriving Repr

namespace Scalar

/-- The short name of the kind of a scalar. -/
def typeName : Scalar → String
  | .bool _ => "bool"
  | .int _ => "i64"
  | .float _ => "f64"
  | .text _ => "string"
  | .bytes _ => "bytes"
  | .time _ => "time"
  | .json _ => "json"
  | .uuid _ => "uuid"

/-- A text as a quoted literal. -/
def quoted (text : String) : String := String.ofList (Quote.literal text.toList)

/-- The scalar as SQL text. -/
def literal : Scalar → String
  | .bool b => if b then "TRUE" else "FALSE"
  | .int n => toString n.toInt
  | .float x => x.toSqlText
  | .text s => quoted s
  | .bytes b => String.ofList ('x' :: '\'' :: (Hex.ofBytes b ++ ['\'']))
  | .time t => quoted t.toText
  | .json v => quoted v.toText
  | .uuid u => quoted u.toText

/-- The parts in which the literal is written behind another text, one after
another. A quoted text is written character by character. -/
def literalParts : Scalar → List String
  | .bool b => [if b then "TRUE" else "FALSE"]
  | .int n => if n.toInt < 0 then ["-", n.toInt.natAbs.repr] else [n.toInt.natAbs.repr]
  | .float x => x.sqlParts
  | .bytes b => "x'" :: b.map (fun byte => String.ofList (Hex.ofBytes [byte])) ++ ["'"]
  | v => v.literal.toList.map String.singleton

/-- The scalar as a reader of a log sees it: a text stands for itself. -/
def display : Scalar → String
  | .text s => s
  | s => s.literal

end Scalar

end SqlCompose
