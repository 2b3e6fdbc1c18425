import SqlCompose.Pool.Buffer

/-!
# Buffer pools

A pool keeps idle buffers for later calls: the one given back last is
taken first. A buffer that comes back is cleared, so nothing that one call
wrote is seen by the next. Buffers that have grown too large are dropped,
and so are all beyond the number that the pool retains.
-/

namespace SqlCompose

/-- The idle buffers of one kind, the last one given back in front. -/
structure Shelf (α : Type) where
  idle : List (Buffer α) := []
  deriving Repr, Inhabited

namespace Shelf

variable {α : Type}

/-- An idle buffer, or a new one if there is none. -/
def take (k : BufferKind α) (s : Shelf α) : Buffer α × Shelf α :=
  match s.idle with
  | [] => (.new k, s)
  | b :: rest => (b, ⟨rest⟩)

/-- Clears a buffer and keeps it, if it is not too large and there is
place for it. -/
def giveBack (k : BufferKind α) (retained : Nat) (s : Shelf α) (b : Buffer α) : Shelf α :=
  if b.room ≤ k.kept ∧ s.idle.length < retained then ⟨b.clear k :: s.idle⟩ else s

end Shelf

/-- Idle buffers of both kinds. -/
structure BufferPool where
  /-- How many buffers of each kind are kept. -/
  retained : Nat
  texts : Shelf String := {}
  args : Shelf (List Scalar) := {}
  deriving Repr, Inhabited

namespace BufferPool

/-- A new pool retains this many buffers of each kind. -/
def usualRetained : Nat := 64

/-- A pool without idle buffers. -/
def new (retained : Nat := usualRetained) : BufferPool := { retained }

def takeText (p : BufferPool) : Buffer String × BufferPool :=
  let (b, texts) := p.texts.take .text
  (b, { p with texts })

def takeArgs (p : BufferPool) : Buffer (List Scalar) × BufferPool :=
  let (b, args) := p.args.take .args
  (b, { p with args })

def giveBackText (p : BufferPool) (b : Buffer String) : BufferPool :=
  { p with texts := p.texts.giveBack .text p.retained b }

def giveBackArgs (p : BufferPool) (b : Buffer (List Scalar)) : BufferPool :=
  { p with args := p.args.giveBack .args p.retained b }

/-- The numbers of idle text buffers and idle argument buffers. -/
def idle (p : BufferPool) : Nat × Nat := (p.texts.idle.length, p.args.idle.length)

/-- The pool as a reader of a log sees it. -/
def describe (p : BufferPool) : String :=
  "BufferPool \x7b idle_bufs: " ++ p.idle.1.repr ++ ", idle_args: " ++ p.idle.2.repr ++
    ", max_retained: " ++ p.retained.repr ++ " \x7d"

end BufferPool

end SqlCompose
