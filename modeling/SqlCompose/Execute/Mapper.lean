import SqlCompose.Action
import SqlCompose.Context.Basic
import SqlCompose.Execute.RowView

/-!
# Mappers

A mapper reads a row through its view. It may keep a state of its own from
row to row, cancel contexts, and end the reading of rows with an error.
-/

namespace SqlCompose

/-- What a mapper acts on. -/
structure MapperState (τ : Type) where
  view : RowView
  contexts : Contexts
  /-- The state that the mapper keeps. -/
  own : τ

/-- Something that reads a row. -/
abbrev Mapper (τ α : Type) := Action (MapperState τ) α

namespace Mapper

variable {τ α : Type}

/-- The next cell as a value of a type, or no value for a null. -/
def nullable (t : Target α) (f : Field) : Mapper τ (Option α) := fun s =>
  let (v, view) := s.view.read t f
  (.ok v, { s with view })

/-- The next cell as a value of a type, a null as the value that stands for
it. -/
def get (t : Target α) (f : Field) : Mapper τ α := fun s =>
  let (v, view) := s.view.read t f
  (.ok (v.getD t.default), { s with view })

/-- Changes the own state, but only for rows of the answer. -/
def accumulate (f : τ → τ) : Mapper τ Unit := fun s =>
  (.ok (), if s.view.isLive then { s with own := f s.own } else s)

/-- Cancels a context by the handle of a number. -/
def cancel (handle : Nat) : Mapper τ Unit := fun s =>
  (.ok (), { s with contexts := s.contexts.cancel handle })

/-- A mapper that also adds each value of a row of the answer to a list. -/
def collect (m : Mapper τ α) : Mapper (τ × List α) Unit := fun s =>
  match m ⟨s.view, s.contexts, s.own.1⟩ with
  | (.error e, t) => (.error e, ⟨t.view, t.contexts, (t.own, s.own.2)⟩)
  | (.ok v, t) =>
    let items := if t.view.isLive then s.own.2 ++ [v] else s.own.2
    (.ok (), ⟨t.view, t.contexts, (t.own, items)⟩)

end Mapper

end SqlCompose
