import SqlCompose.Log.Record

/-!
# Statistics

A tally counts the records logged to it and adds up their times and rows.
Sums stay at the greatest number of 64 bits once they reach it. The
slowest statement is the first that took the longest time, and there is
none before a call takes any time.

While records come in, the numbers are kept as words of 64 bits
(`Counters`), whose addition wraps around. A tally is what they are at one
moment (`Counters.snapshot`).
-/

namespace SqlCompose

/-- Counts and sums over the records logged so far. -/
structure Tally where
  total : Nat := 0
  failed : Nat := 0
  selects : Nat := 0
  inserts : Nat := 0
  updates : Nat := 0
  deletes : Nat := 0
  rowsFetched : Nat := 0
  rowsAffected : Nat := 0
  elapsed : Duration := .zero
  longest : Duration := .zero
  /-- The statement of the longest call. -/
  slowest? : Option String := none
  deriving DecidableEq, Repr, Inhabited

namespace Tally

def empty : Tally := {}

/-- The greatest sum. -/
def cap : Nat := UInt64.size - 1

/-- A sum that stays at the greatest one. -/
def addCapped (a b : Nat) : Nat := min (a + b) cap

/-- One more record. -/
def add (t : Tally) (r : LogRecord) : Tally :=
  let nanos := min r.elapsed.nanos cap
  let one (k : StatementKind) : Nat := if r.kind = k then 1 else 0
  { total := t.total + 1
    failed := t.failed + if r.succeeded then 0 else 1
    selects := t.selects + one .select
    inserts := t.inserts + one .insert
    updates := t.updates + one .update
    deletes := t.deletes + one .delete
    rowsFetched := addCapped t.rowsFetched r.rowCount
    rowsAffected := addCapped t.rowsAffected r.rowsAffected
    elapsed := ⟨addCapped t.elapsed.nanos nanos⟩
    longest := if t.longest.nanos < nanos then ⟨nanos⟩ else t.longest
    slowest? := if t.longest.nanos < nanos then some r.query else t.slowest? }

/-- The tally of records logged one after another. -/
def ofRecords (records : List LogRecord) : Tally := records.foldl add empty

end Tally

/-! ## Words that count -/

/-- Counts and sums while records come in. Times are in nanoseconds. -/
structure Counters where
  total : UInt64 := 0
  failed : UInt64 := 0
  selects : UInt64 := 0
  inserts : UInt64 := 0
  updates : UInt64 := 0
  deletes : UInt64 := 0
  rowsFetched : UInt64 := 0
  rowsAffected : UInt64 := 0
  elapsed : UInt64 := 0
  longest : UInt64 := 0
  slowest? : Option String := none
  deriving DecidableEq, Repr, Inhabited

namespace Counters

/-- The sum of two words, or the greatest word where the addition has wrapped
around. -/
def addCapped (a b : UInt64) : UInt64 :=
  let sum := a + b
  if UInt64.size ≤ a.toNat + b.toNat then UInt64.ofNatClamp Tally.cap else sum

/-- One more statement of a kind. -/
def countKind (c : Counters) : StatementKind → Counters
  | .select => { c with selects := c.selects + 1 }
  | .insert => { c with inserts := c.inserts + 1 }
  | .update => { c with updates := c.updates + 1 }
  | .delete => { c with deletes := c.deletes + 1 }
  | .other => c

/-- A time, with its statement if no other took as long. -/
def raise (c : Counters) (nanos : UInt64) (query : String) : Counters :=
  if c.longest < nanos then { c with longest := nanos, slowest? := some query } else c

/-- One more record. A time too long for a word is the greatest one. -/
def log (c : Counters) (r : LogRecord) : Counters :=
  let nanos := UInt64.ofNatClamp r.elapsed.nanos
  let summed := { c with
    total := c.total + 1
    elapsed := addCapped c.elapsed nanos
    rowsFetched := addCapped c.rowsFetched (UInt64.ofNatClamp r.rowCount)
    rowsAffected := addCapped c.rowsAffected (UInt64.ofNatClamp r.rowsAffected) }
  let counted := summed.countKind r.kind
  let judged := if r.succeeded then counted else { counted with failed := counted.failed + 1 }
  judged.raise nanos r.query

/-- Records one after another. -/
def logAll (c : Counters) (records : List LogRecord) : Counters := records.foldl log c

/-- All counts and sums from the start. -/
def reset (c : Counters) : Counters :=
  { c with
    total := 0
    failed := 0
    elapsed := 0
    selects := 0
    inserts := 0
    updates := 0
    deletes := 0
    rowsFetched := 0
    rowsAffected := 0
    longest := 0
    slowest? := none }

/-- What is reported. -/
def snapshot (c : Counters) : Tally where
  total := c.total.toNat
  failed := c.failed.toNat
  selects := c.selects.toNat
  inserts := c.inserts.toNat
  updates := c.updates.toNat
  deletes := c.deletes.toNat
  rowsFetched := c.rowsFetched.toNat
  rowsAffected := c.rowsAffected.toNat
  elapsed := ⟨c.elapsed.toNat⟩
  longest := ⟨c.longest.toNat⟩
  slowest? := c.slowest?

end Counters

/-! ## Several receivers of one log -/

/-- A receiver of records. -/
inductive Sink where
  /-- Drops every record. -/
  | discard
  /-- Counts every record. -/
  | tally
  /-- Keeps every record. -/
  | keep
  deriving DecidableEq, Repr

/-- What the receivers of a log hold. -/
structure LogState where
  counters : Counters := {}
  kept : List LogRecord := []
  deriving Repr, Inhabited

namespace LogState

/-- What the receivers that count report. -/
def tally (s : LogState) : Tally := s.counters.snapshot

/-- A record at one receiver. -/
def receive (r : LogRecord) (s : LogState) : Sink → LogState
  | .discard => s
  | .tally => { s with counters := s.counters.log r }
  | .keep => { s with kept := s.kept ++ [r] }

/-- A record at all receivers in turn. -/
def log (sinks : List Sink) (s : LogState) (r : LogRecord) : LogState :=
  sinks.foldl (receive r) s

/-- Records one after another at all receivers. -/
def logAll (sinks : List Sink) (s : LogState) (records : List LogRecord) : LogState :=
  records.foldl (log sinks) s

end LogState

end SqlCompose
