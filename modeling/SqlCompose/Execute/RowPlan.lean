import SqlCompose.Execute.Mapper

/-!
# Mappers given as data

A row plan is a list of steps that a mapper takes on every view: reads, a
count of the rows it has seen, errors that it raises, and steps that only
some views call for. The mapper of a plan keeps what it read on each view.
-/

namespace SqlCompose

/-- The types that a plan reads cells as. -/
inductive RowType where
  | bool
  | int
  | float
  | string
  | bytes
  | time
  | json
  | uuid
  | scalar
  deriving DecidableEq, Repr

/-- The type of a name. -/
def RowType.ofName? : String → Option RowType
  | "bool" => some .bool
  | "int64" => some .int
  | "float64" => some .float
  | "string" => some .string
  | "bytes" => some .bytes
  | "time" => some .time
  | "json" => some .json
  | "uuid" => some .uuid
  | "scalar" => some .scalar
  | _ => none

/-- The views on which a plan raises an error. -/
inductive RaiseOn where
  | always
  | discovery
  | live
  /-- The row of the answer with a number, the first being row 0. -/
  | row (n : Nat)
  deriving DecidableEq, Repr

/-- A step of a plan. -/
inductive RowStep where
  /-- Reads the next cell. If a null has no value to stand for it, it is
  kept as a null. -/
  | read (type : RowType) (nullable : Bool) (f : Field)
  | accumulate
  | raise (on : RaiseOn) (e : Error)
  | onLive (steps : List RowStep)
  | onDiscovery (steps : List RowStep)
  /-- Cancels the context, on rows of the answer. -/
  | cancel

/-- What a plan read on one view. -/
structure RowVisit where
  live : Bool
  values : List (Option Scalar)
  deriving Repr

/-- What the mapper of a plan keeps. -/
structure RowJournal where
  /-- The rows of the answer that were begun before. -/
  rows : Nat := 0
  accumulated : Nat := 0
  visits : List RowVisit := []
  /-- What was read on the present view. -/
  values : List (Option Scalar) := []
  deriving Repr, Inhabited

namespace RowPlan

/-- Adds a value that was read. -/
def keep (v : Option Scalar) : Mapper RowJournal Unit :=
  Action.change fun s => { s with own := { s.own with values := s.own.values ++ [v] } }

/-- Reads a cell as a type, and keeps what it gives as a scalar. -/
def readAs {α : Type} (t : Target α) (toScalar : α → Scalar) (nullable : Bool) (f : Field) :
    Mapper RowJournal Unit :=
  if nullable then (Mapper.nullable t f).andThen fun v => keep (v.map toScalar)
  else (Mapper.get t f).andThen fun v => keep (some (toScalar v))

/-- Reads a cell as one of the types. A scalar of any type has no value
that stands for a null. -/
def read (type : RowType) (nullable : Bool) (f : Field) : Mapper RowJournal Unit :=
  match type with
  | .bool => readAs .bool Scalar.bool nullable f
  | .int => readAs .int Scalar.int nullable f
  | .float => readAs .float Scalar.float nullable f
  | .string => readAs .string Scalar.text nullable f
  | .bytes => readAs .bytes Scalar.bytes nullable f
  | .time => readAs .time Scalar.time nullable f
  | .json => readAs .json Scalar.json nullable f
  | .uuid => readAs .uuid Scalar.uuid nullable f
  | .scalar => readAs .scalar id true f

/-- The view calls for an error. -/
def raises (on : RaiseOn) (s : MapperState RowJournal) : Bool :=
  match on with
  | .always => true
  | .discovery => !s.view.isLive
  | .live => s.view.isLive
  | .row n => s.view.isLive && s.own.rows == n

mutual

/-- Takes a step. A cancellation is aimed at the handle of a number, if
there is one. -/
def step (handle : Option Nat) : RowStep → Mapper RowJournal Unit
  | .read type nullable f => read type nullable f
  | .accumulate =>
    Mapper.accumulate fun journal => { journal with accumulated := journal.accumulated + 1 }
  | .raise on e => fun s => (if raises on s then .error e else .ok (), s)
  | .onLive all => fun s => if s.view.isLive then steps handle all s else (.ok (), s)
  | .onDiscovery all => fun s => if s.view.isLive then (.ok (), s) else steps handle all s
  | .cancel => fun s =>
    match handle with
    | some handle => if s.view.isLive then Mapper.cancel handle s else (.ok (), s)
    | none => (.ok (), s)

/-- Takes steps in order, up to the first that fails. -/
def steps (handle : Option Nat) : List RowStep → Mapper RowJournal Unit
  | [] => Action.pure ()
  | first :: rest => (step handle first).andThen fun _ => steps handle rest

end

/-- The mapper of a plan gives what it read. -/
def mapper (handle : Option Nat) (plan : List RowStep) : Mapper RowJournal (List (Option Scalar)) :=
  fun s =>
    let (result, s) := steps handle plan { s with own := { s.own with values := [] } }
    let values := s.own.values
    let live := s.view.isLive
    let own := { s.own with
      rows := s.own.rows + live.toNat
      visits := s.own.visits ++ [⟨live, values⟩] }
    (result.map fun _ => values, { s with own })

end RowPlan

end SqlCompose
