import SqlCompose.Statement.Basic

/-!
# Building expressions

The names by which a projection knows its fields, the modifiers of a
field, and the usual comparisons, groups and functions as formats.
-/

namespace SqlCompose

namespace ColumnRef

/-- The name and the alias of a column, unordered. -/
def named (qualifier name : String) : ColumnRef := { qualifier, name }

end ColumnRef

namespace TypedField

/-- The column or the expression's own modifiers. -/
def column? : TypedField → ColumnRef
  | column _ c _ => c
  | computed _ c _ _ _ => c

/-- The column name, or the format of an expression without one. -/
def name : TypedField → String
  | column _ c _ => c.name
  | computed _ c format _ _ => if c.name.isEmpty then format else c.name

/-- Changes the modifiers. -/
def modify (f : ColumnRef → ColumnRef) : TypedField → TypedField
  | column kind c negated => column kind (f c) negated
  | computed kind c format operands negated => computed kind (f c) format operands negated

/-- The column of a table. -/
def ofTable (kind : FieldKind) (name : String) (table : Relation) : TypedField :=
  column kind (.named table.qualifier name) false

/-- A computed expression. -/
def ofFormat (kind : FieldKind) (format : String) (operands : List Operand) : TypedField :=
  computed kind {} format operands false

/-- The negated field; negating twice gives the field back. -/
def negate : TypedField → TypedField
  | column kind c negated => column kind c !negated
  | computed kind c format operands negated => computed kind c format operands !negated

end TypedField

namespace Predicate

/-- A condition as a format. -/
def ofFormat (format : String) (operands : List Operand) : Predicate :=
  custom "" format operands false

def eq (a b : Operand) : Predicate := ofFormat "? = ?" [a, b]
def ne (a b : Operand) : Predicate := ofFormat "? <> ?" [a, b]
def gt (a b : Operand) : Predicate := ofFormat "? > ?" [a, b]
def ge (a b : Operand) : Predicate := ofFormat "? >= ?" [a, b]
def lt (a b : Operand) : Predicate := ofFormat "? < ?" [a, b]
def le (a b : Operand) : Predicate := ofFormat "? <= ?" [a, b]
def isIn (a b : Operand) : Predicate := ofFormat "? IN (?)" [a, b]
def like (a b : Operand) : Predicate := ofFormat "? LIKE ?" [a, b]
def notLike (a b : Operand) : Predicate := ofFormat "? NOT LIKE ?" [a, b]
def ilike (a b : Operand) : Predicate := ofFormat "? ILIKE ?" [a, b]
def isNull (a : Operand) : Predicate := ofFormat "? IS NULL" [a]
def isNotNull (a : Operand) : Predicate := ofFormat "? IS NOT NULL" [a]
def between (a low high : Operand) : Predicate := ofFormat "? BETWEEN ? AND ?" [a, low, high]

/-- The comparison of a name. Operands that it does not compare are left
out. -/
def named? (name : String) (a b c : Operand) : Option Predicate :=
  match name with
  | "eq" => some (eq a b)
  | "ne" => some (ne a b)
  | "gt" => some (gt a b)
  | "ge" => some (ge a b)
  | "lt" => some (lt a b)
  | "le" => some (le a b)
  | "in" => some (isIn a b)
  | "like" => some (like a b)
  | "not_like" => some (notLike a b)
  | "ilike" => some (ilike a b)
  | "is_null" => some (isNull a)
  | "is_not_null" => some (isNotNull a)
  | "between" => some (between a b c)
  | _ => none

/-- A query has rows. -/
def hasRows (q : Query) : Predicate := ofFormat "EXISTS (?)" [.query q]

/-- All members hold. -/
def all (members : List Predicate) : Predicate := group false "" .and members false

/-- Some member holds. -/
def any (members : List Predicate) : Predicate := group false "" .or members false

/-- The negated condition; negating twice gives the condition back. -/
def negate : Predicate → Predicate
  | custom aliasName format operands negated => custom aliasName format operands !negated
  | group toplevel aliasName op members negated => group toplevel aliasName op members !negated
  | boolean f => boolean f.negate

/-- The condition negated a number of times. -/
def negateTimes : Nat → Predicate → Predicate
  | 0, p => p
  | n + 1, p => negateTimes n p.negate

def isGroup : Predicate → Bool
  | group .. => true
  | _ => false

/-- Gives a condition an alias for its use in a projection; a boolean
field carries its own. -/
def withAlias (aliasName : String) : Predicate → Predicate
  | custom _ format operands negated => custom aliasName format operands negated
  | group toplevel _ op members negated => group toplevel aliasName op members negated
  | boolean f => boolean f

/-- Marks a group as standing alone in its clause, or not. -/
def withToplevel (toplevel : Bool) : Predicate → Predicate
  | group _ aliasName op members negated => group toplevel aliasName op members negated
  | p => p

/-- Adds a member to a group. -/
def push (g p : Predicate) : Predicate :=
  match g with
  | group toplevel aliasName op members negated =>
    group toplevel aliasName op (members ++ [p]) negated
  | g => g

/-- The number of members of a group. -/
def size : Predicate → Nat
  | group _ _ _ members _ => members.length
  | _ => 0

/-- The name by which a projection knows the condition. -/
def name : Predicate → String
  | boolean f => f.name
  | _ => ""

def aliasName : Predicate → String
  | custom aliasName .. => aliasName
  | group _ aliasName .. => aliasName
  | boolean f => f.column?.aliasName

end Predicate

namespace Field

/-- The bare column. -/
def column (qualifier name : String) : Field := custom (.named qualifier name) "" []

/-- A format with its operands. -/
def ofFormat (format : String) (operands : List Operand) : Field := custom {} format operands

/-- A field of no column and no format, which is written so that it can
be seen. -/
def blank : Field := custom {} "" []

/-- The name by which a projection knows the field. -/
def name : Field → String
  | custom c format _ => if c.name.isEmpty then format else c.name
  | literal text => text
  | param name _ => name
  | typed f => f.name
  | searchedCase .. => ""
  | simpleCase .. => ""
  | window w => w.name
  | predicate p => p.name

/-- The alias, empty if there is none. -/
def aliasName : Field → String
  | custom c _ _ => c.aliasName
  | typed f => f.column?.aliasName
  | searchedCase aliasName _ _ => aliasName
  | simpleCase aliasName _ _ _ => aliasName
  | predicate p => p.aliasName
  | _ => ""

/-- The name that a projection of the field has outside its query. -/
def label (f : Field) : String := if f.aliasName.isEmpty then f.name else f.aliasName

/-- Whether a column or format is there at all; other fields always
are. -/
def isBlank? : Field → Option Bool
  | custom c format operands => some (format.isEmpty && operands.isEmpty && c.name.isEmpty)
  | _ => none

def withAlias (aliasName : String) : Field → Field
  | custom c format operands => custom { c with aliasName } format operands
  | typed f => typed (f.modify ({ · with aliasName }))
  | searchedCase _ branches fallback => searchedCase aliasName branches fallback
  | simpleCase _ subject branches fallback => simpleCase aliasName subject branches fallback
  | predicate p => predicate (p.withAlias aliasName)
  | f => f

def withOrder (order : SortOrder) : Field → Field
  | custom c format operands => custom { c with order := some order } format operands
  | typed f => typed (f.modify fun c => { c with order := some order })
  | f => f

def withNulls (nulls : NullsOrder) : Field → Field
  | custom c format operands => custom { c with nulls := some nulls } format operands
  | typed f => typed (f.modify fun c => { c with nulls := some nulls })
  | f => f

/-- A function of no table's column. -/
def number (format : String) (operands : List Operand) : Field :=
  typed (.ofFormat .number format operands)

/-- A function over a window. -/
def overWindow (format : String) (operands : List Operand) (w : Window) : Field :=
  number (format ++ " OVER ?") (operands ++ [.field (window w)])

end Field

namespace Window

/-- Gives a window a name that it did not have. -/
def nameIfUnnamed (name : String) (w : Window) : Window :=
  if w.name.isEmpty then { w with name } else w

/-- Eight lower-case letters, one from each of the first eight bytes. -/
def nameOfBytes (bytes : List UInt8) : String :=
  String.ofList ((bytes.take 8).map fun b => Char.ofNat ('a'.toNat + b.toNat % 26))

end Window

namespace Assignment

/-- The assigned column, if the target is a field. -/
def column? (a : Assignment) : Option String :=
  match a.target with
  | .field f => some f.name
  | _ => none

/-- Takes over the value of the row that was not inserted. -/
def ofExcluded (f : Field) : Assignment :=
  ⟨.field (.column "" f.name), .field (.column "EXCLUDED" f.name)⟩

end Assignment

namespace Operand

def isQuery : Operand → Bool
  | query _ => true
  | _ => false

/-- A value that may be absent. -/
def ofOption : Option Scalar → Operand
  | none => null
  | some v => scalar v

end Operand

end SqlCompose
