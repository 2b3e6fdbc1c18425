import SqlCompose.Error

/-!
# Contexts

A context says how long a call may take: until a deadline, or until it is
cancelled. Contexts are derived from one another, and each hears of the
cancellation of those it was derived from.

Every derivation makes a new signal below the signal of the context it
starts from. Cancelling a signal reaches the signals below it, as long as
each on the way is still held by a context or by a handle. A signal that
nobody holds is gone, and cuts off those below it. A signal made below a
cancelled one starts cancelled.
-/

namespace SqlCompose

/-- A source of cancellation. -/
structure Signal where
  /-- The signal it was made below, if any. -/
  parent : Option Nat
  cancelled : Bool
  deriving DecidableEq, Repr

/-- The limits of a call. Times are milliseconds since the start. -/
structure Context where
  deadline : Option Nat
  /-- The number of its signal. -/
  signal : Nat
  deriving DecidableEq, Repr, Inhabited

/-- The earlier of a context's deadline and another. -/
def Context.earlier (c : Context) (deadline : Nat) : Nat :=
  match c.deadline with
  | some own => min own deadline
  | none => deadline

/-- A place for a context and the handle that came with it. A context that
was dropped leaves its place empty. -/
structure ContextSlot where
  context : Option Context
  /-- The signal that the handle cancels. -/
  handle : Option Nat := none
  deriving DecidableEq, Repr

/-- All contexts, with their signals and the time. -/
structure Contexts where
  now : Nat := 0
  signals : List Signal := []
  slots : List ContextSlot := []
  deriving DecidableEq, Repr, Inhabited

namespace Contexts

/-- No context yet, at the start of time. -/
def start : Contexts := {}

/-- The signal is cancelled. -/
def isCancelled (s : Contexts) (signal : Nat) : Bool :=
  match s.signals[signal]? with
  | some x => x.cancelled
  | none => false

/-- A context or a handle holds the signal. -/
def isHeld (s : Contexts) (signal : Nat) : Bool :=
  s.slots.any fun slot =>
    slot.handle = some signal || slot.context.any fun c => c.signal = signal

/-- The context with a number, unless it was dropped. -/
def context? (s : Contexts) (i : Nat) : Option Context := (s.slots[i]?).bind (·.context)

/-! ## Making contexts -/

/-- Puts a new context on top of all others, with the next number. -/
def push (s : Contexts) (c : Context) (handle : Option Nat := none) : Contexts :=
  { s with slots := s.slots ++ [⟨some c, handle⟩] }

/-- A new signal below another, and its number. -/
def addSignal (s : Contexts) (parent : Option Nat) : Contexts × Nat :=
  let cancelled := match parent with
    | some p => s.isCancelled p
    | none => false
  ({ s with signals := s.signals ++ [⟨parent, cancelled⟩] }, s.signals.length)

/-- A context without limits. -/
def background (s : Contexts) : Contexts :=
  let (s, signal) := s.addSignal none
  s.push ⟨none, signal⟩

/-- A context derived from `c` that can be cancelled by a handle of its
own. -/
def withCancel (s : Contexts) (c : Context) : Contexts :=
  let (s, signal) := s.addSignal (some c.signal)
  s.push ⟨c.deadline, signal⟩ (some signal)

/-- A context derived from `c` that ends at a time, or when `c` does if
that is earlier. -/
def withDeadline (s : Contexts) (c : Context) (deadline : Nat) : Contexts :=
  let (s, signal) := s.addSignal (some c.signal)
  s.push ⟨some (c.earlier deadline), signal⟩

/-- A context derived from `c` that ends after a while. -/
def withTimeout (s : Contexts) (c : Context) (millis : Nat) : Contexts :=
  s.withDeadline c (s.now + millis)

/-! ## Ending contexts -/

/-- Lets go of a context; its handle stays. -/
def drop (s : Contexts) (i : Nat) : Contexts :=
  { s with slots := s.slots.modify i fun slot => { slot with context := none } }

/-- Lets go of a handle; its context stays. -/
def dropHandle (s : Contexts) (i : Nat) : Contexts :=
  { s with slots := s.slots.modify i fun slot => { slot with handle := none } }

/-- Which signals a cancellation reaches: the one it is aimed at, and
those that are held and lie below one it reaches. A signal is made after
the one it lies below, so one pass in the order of their making finds
them all. -/
def reached (s : Contexts) (target : Nat) : List Bool :=
  s.signals.zipIdx.foldl (fun found (x, i) =>
    let below := match x.parent with
      | some p => found.getD p false && s.isHeld i
      | none => false
    found ++ [i = target || below]) []

/-- Cancels a signal and all that it reaches. -/
def cancelSignal (s : Contexts) (target : Nat) : Contexts :=
  { s with
    signals := List.zipWith (fun x hit => { x with cancelled := x.cancelled || hit }) s.signals
      (s.reached target) }

/-- Cancels by the handle of a number, if there is one. -/
def cancel (s : Contexts) (handle : Nat) : Contexts :=
  match (s.slots[handle]?).bind (·.handle) with
  | some signal => s.cancelSignal signal
  | none => s

/-- Lets time pass. -/
def advance (s : Contexts) (millis : Nat) : Contexts := { s with now := s.now + millis }

/-- Why a context is done, if it is. Being cancelled counts before being
late. -/
def error? (s : Contexts) (c : Context) : Option Error :=
  if s.isCancelled c.signal then some .cancelled
  else match c.deadline with
    | some deadline => if deadline ≤ s.now then some .deadlineExceeded else none
    | none => none

def isDone (s : Contexts) (c : Context) : Bool := (s.error? c).isSome

end Contexts

end SqlCompose
