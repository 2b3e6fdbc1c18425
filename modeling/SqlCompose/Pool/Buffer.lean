import SqlCompose.Scalar

/-!
# Buffers

A buffer holds a text or a list of arguments and has room for more. It
grows by more than it needs, so that many small additions cost little, and
keeps its room when it is cleared.
-/

namespace SqlCompose

/-- What buffers of one kind hold, how they grow, and how large they may
be to be kept for later use. -/
structure BufferKind (α : Type) where
  empty : α
  size : α → Nat
  /-- The room that a buffer has at least once it has any. -/
  least : Nat
  /-- The room of the largest buffer that is kept. -/
  kept : Nat

namespace BufferKind

/-- Texts, measured in bytes. -/
def text : BufferKind String := ⟨"", String.utf8ByteSize, 8, 64 * 1024⟩

/-- Argument lists. -/
def args : BufferKind (List Scalar) := ⟨[], List.length, 4, 4 * 1024⟩

end BufferKind

/-- A content, and the room that is reserved for it. -/
structure Buffer (α : Type) where
  content : α
  room : Nat
  deriving Repr, Inhabited

namespace Buffer

variable {α : Type}

/-- A buffer without any room. -/
def new (k : BufferKind α) : Buffer α := ⟨k.empty, 0⟩

/-- Makes room for `more` beyond the content: the room at least doubles
whenever it grows. -/
def reserve (k : BufferKind α) (more : Nat) (b : Buffer α) : Buffer α :=
  let used := k.size b.content
  if more ≤ b.room - used then b
  else { b with room := max (max (2 * b.room) (used + more)) k.least }

/-- Writes behind the content. -/
def append [Append α] (k : BufferKind α) (b : Buffer α) (more : α) : Buffer α :=
  let b := b.reserve k (k.size more)
  { b with content := b.content ++ more }

/-- Writes several contents, one after another. -/
def appendAll [Append α] (k : BufferKind α) (b : Buffer α) (all : List α) : Buffer α :=
  all.foldl (append k) b

/-- Drops the content and keeps the room. -/
def clear (k : BufferKind α) (b : Buffer α) : Buffer α := { b with content := k.empty }

end Buffer

end SqlCompose
