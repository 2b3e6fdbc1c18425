import SqlCompose.Log.Line

/-!
# Printed logs

A line printer writes the line of each record behind a tag, and leaves out
calls that were fast enough.
-/

namespace SqlCompose

/-- How lines are printed. -/
structure LinePrinter where
  /-- Calls that took less are left out. -/
  least? : Option Duration := none
  /-- The bytes of a statement that are shown. -/
  limit? : Option Nat := none
  tag : String := "[typedsql]"
  deriving Repr, Inhabited

/-- What is printed for a record. -/
def LinePrinter.print (p : LinePrinter) (r : LogRecord) (terminal : Bool := true) : String :=
  match p.least? with
  | some least => if r.elapsed.nanos < least.nanos then "" else text
  | none => text
where
  text : String := p.tag ++ " " ++ r.line p.limit? terminal ++ "\n"

end SqlCompose
