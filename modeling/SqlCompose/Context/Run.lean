import SqlCompose.Context.Basic

/-!
# Calls under a context

A call is a list of actions. It is given up as soon as its context is
done, but only where it waits: an action that does not wait is always
followed by the next. A call that ends at the very moment of its deadline
is late.
-/

namespace SqlCompose

/-- One action of a call. -/
inductive CallAction (α : Type) where
  /-- Cancels by the handle of a number. -/
  | cancel (handle : Nat)
  /-- Lets others go first. -/
  | pause
  /-- Waits for some milliseconds. -/
  | sleep (millis : Nat)
  /-- Ends the call. -/
  | finish (result : Except Error α)

namespace Contexts

variable {α : Type}

/-- The wait of a call at which it would go on at a time: whether it is
given up, and the time at which that is known. -/
def wait (s : Contexts) (c : Context) (until' : Nat) : Contexts × Option Error :=
  if s.isCancelled c.signal then (s, some .cancelled)
  else match c.deadline with
    | some deadline =>
      if deadline ≤ until' then ({ s with now := deadline }, some .deadlineExceeded)
      else ({ s with now := until' }, none)
    | none => ({ s with now := until' }, none)

/-- The result of a call under way, and the number of actions begun. A
call that runs out of actions has the result `last`. -/
def drive (c : Context) (last : α) :
    List (CallAction α) → Contexts → (Except Error α × Nat) × Contexts
  | [], s => ((.ok last, 0), s)
  | .finish result :: _, s => ((result, 1), s)
  | .cancel handle :: rest, s =>
    let ((result, begun), s) := drive c last rest (s.cancel handle)
    ((result, begun + 1), s)
  | .pause :: rest, s =>
    match s.wait c s.now with
    | (s, some e) => ((.error e, 1), s)
    | (s, none) =>
      let ((result, begun), s) := drive c last rest s
      ((result, begun + 1), s)
  | .sleep 0 :: rest, s =>
    let ((result, begun), s) := drive c last rest s
    ((result, begun + 1), s)
  | .sleep millis :: rest, s =>
    match s.wait c (s.now + millis) with
    | (s, some e) => ((.error e, 1), s)
    | (s, none) =>
      let ((result, begun), s) := drive c last rest s
      ((result, begun + 1), s)

/-- Runs a call, unless its context is done before it begins. -/
def run (s : Contexts) (c : Context) (last : α) (actions : List (CallAction α)) :
    (Except Error α × Nat) × Contexts :=
  match s.error? c with
  | some e => ((.error e, 0), s)
  | none => drive c last actions s

end Contexts

end SqlCompose
