/-!
# Flags

What a log line shows, and what a caller wants to know about a statement
without rows. Both are sets of named flags; the number of a set has one
bit for each flag, the first flag being the lowest bit.
-/

namespace SqlCompose

namespace Flags

/-- The number of a set of flags. -/
def bits : List Bool → Nat
  | [] => 0
  | b :: rest => b.toNat + 2 * bits rest

/-- All flags of `b` are in `a`. -/
def contains (a b : List Bool) : Bool := (List.zip a b).all fun (x, y) => x || !y

/-- The names of the flags in a set, in order. -/
def names (labels : List String) (flags : List Bool) : List String :=
  (List.zip labels flags).filterMap fun (label, flag) => if flag then some label else none

/-- The text of a set: the name of its type and the names in it. -/
def describe (type : String) (labels : List String) (flags : List Bool) : String :=
  type ++ "(" ++ " | ".intercalate (names labels flags) ++ ")"

end Flags

/-- What a log line shows. -/
structure LogFlags where
  /-- The arguments stand in the text of the statement. -/
  interpolate : Bool := false
  /-- The statement stands on lines of its own, before and after its
  arguments are written in. -/
  multiline : Bool := false
  /-- The place of the call. -/
  caller : Bool := false
  /-- The first rows fetched. -/
  results : Bool := false
  color : Bool := false
  deriving DecidableEq, Repr, Inhabited

namespace LogFlags

def labels : List String := ["INTERPOLATE", "MULTILINE", "CALLER", "RESULTS", "COLOR"]

def toList (f : LogFlags) : List Bool :=
  [f.interpolate, f.multiline, f.caller, f.results, f.color]

def empty : LogFlags := {}

/-- All but the arguments in the text. -/
def verbose : LogFlags := ⟨false, true, true, true, true⟩

/-- One line with the arguments in the text. -/
def compact : LogFlags := ⟨true, false, true, false, true⟩

def union (a b : LogFlags) : LogFlags :=
  ⟨a.interpolate || b.interpolate, a.multiline || b.multiline, a.caller || b.caller,
    a.results || b.results, a.color || b.color⟩

def bits (f : LogFlags) : Nat := Flags.bits f.toList

def contains (a b : LogFlags) : Bool := Flags.contains a.toList b.toList

def isEmpty (f : LogFlags) : Bool := f.toList.all not

def describe (f : LogFlags) : String := Flags.describe "LogFlags" labels f.toList

/-- The set with one flag, or one of the two common sets, by its name. -/
def named? : String → Option LogFlags
  | "INTERPOLATE" => some { empty with interpolate := true }
  | "MULTILINE" => some { empty with multiline := true }
  | "CALLER" => some { empty with caller := true }
  | "RESULTS" => some { empty with results := true }
  | "COLOR" => some { empty with color := true }
  | "VERBOSE" => some verbose
  | "COMPACT" => some compact
  | _ => none

/-- The union of the sets of all names; a name of no set adds nothing. -/
def ofNames (names : List String) : LogFlags :=
  (names.filterMap named?).foldl union empty

end LogFlags

/-- What a caller wants to know about a statement without rows. -/
structure ExecFlags where
  lastInsertId : Bool := false
  rowsAffected : Bool := false
  deriving DecidableEq, Repr, Inhabited

namespace ExecFlags

def labels : List String := ["LAST_INSERT_ID", "ROWS_AFFECTED"]

def toList (f : ExecFlags) : List Bool := [f.lastInsertId, f.rowsAffected]

def empty : ExecFlags := {}

def union (a b : ExecFlags) : ExecFlags :=
  ⟨a.lastInsertId || b.lastInsertId, a.rowsAffected || b.rowsAffected⟩

def bits (f : ExecFlags) : Nat := Flags.bits f.toList

def contains (a b : ExecFlags) : Bool := Flags.contains a.toList b.toList

def isEmpty (f : ExecFlags) : Bool := f.toList.all not

def describe (f : ExecFlags) : String := Flags.describe "ExecFlags" labels f.toList

/-- The set with the flag of a name. -/
def named? : String → Option ExecFlags
  | "LAST_INSERT_ID" => some { empty with lastInsertId := true }
  | "ROWS_AFFECTED" => some { empty with rowsAffected := true }
  | _ => none

/-- The set of all names; a name of no flag adds nothing. -/
def ofNames (names : List String) : ExecFlags :=
  (names.filterMap named?).foldl union empty

end ExecFlags

end SqlCompose
