import Mathlib.Data.List.Nodup
import SqlCompose.Transaction.Plan

/-!
# Blocks on a stack of savepoints

A server keeps what was written in its open transaction, and a stack of
savepoints, each with the number of writes before it. Releasing a savepoint
takes it off the stack with all above it and keeps the writes. Rolling back
to one undoes the writes since and takes off all above it, but leaves the
savepoint itself where it is.

So savepoints that were rolled back pile up inside the blocks around them,
and the end of a block means the newest savepoint of its name. Generated
names do not come twice among as many as there are words of 64 bits, so this
is the one that the block was opened with, whatever lies above it
(`Server.Extends`). A plan of such blocks therefore keeps exactly the writes
that stand in no failed block (`PlanSteps.durable_writes`).

Numbers are counted on and on here; what a plan counts with is the word of
such a number. Among more savepoints than there are words, one inside a block
could have the name of the block, and the end of the block would mean it.
-/

namespace SqlCompose

/-! ## A server -/

/-- A savepoint on the stack. -/
structure Savepoint where
  name : String
  /-- How much had been written before it. -/
  before : Nat
  deriving DecidableEq, Repr

/-- A transaction that has not ended. -/
structure OpenTransaction where
  writes : List String := []
  /-- The newest savepoint in front. -/
  savepoints : List Savepoint := []
  deriving DecidableEq, Repr

/-- The stack from the newest savepoint of a name downwards. -/
def OpenTransaction.downTo (t : OpenTransaction) (name : String) : List Savepoint :=
  t.savepoints.dropWhile (·.name ≠ name)

structure Server where
  /-- What was written by transactions that were committed. -/
  durable : List String := []
  transaction? : Option OpenTransaction := none
  /-- The commands that arrived. -/
  commands : List Command := []
  deriving DecidableEq, Repr

namespace Server

/-- The server after a command, unless it has to refuse it. -/
def after? (s : Server) (c : Command) : Option Server :=
  match c, s.transaction? with
  | .start, none => some { s with transaction? := some {} }
  | .start, some _ => none
  | _, none => none
  | .commit, some t => some { s with durable := s.durable ++ t.writes, transaction? := none }
  | .rollback, some _ => some { s with transaction? := none }
  | .savepoint name, some t =>
    let savepoints := ⟨name, t.writes.length⟩ :: t.savepoints
    some { s with transaction? := some { t with savepoints } }
  | .release name, some t =>
    match t.downTo name with
    | [] => none
    | _ :: savepoints => some { s with transaction? := some { t with savepoints } }
  | .rollbackTo name, some t =>
    match t.downTo name with
    | [] => none
    | p :: below =>
      some { s with transaction? := some ⟨t.writes.take p.before, p :: below⟩ }

/-- A command arrives. -/
def perform (c : Command) : Action Server Unit := fun s =>
  let s := { s with commands := s.commands ++ [c] }
  match s.after? c with
  | some s => (.ok (), s)
  | none => (.error (.driver (c.event ++ " refused")), s)

/-- A write arrives. Outside a transaction it is durable at once. -/
def write (text : String) : Action Server Unit := fun s =>
  match s.transaction? with
  | none => (.ok (), { s with durable := s.durable ++ [text] })
  | some t => (.ok (), { s with transaction? := some { t with writes := t.writes ++ [text] } })

/-- The server as a database that plans run against. -/
def target : PlanTarget Server where
  perform
  statement := write
  note _ s := s

end Server

/-! ## What a plan comes to

Read off the plan alone, without any server.
-/

/-- A write that a plan carries out, and how the blocks around it end, the
innermost first. -/
structure PlanWrite where
  text : String
  endings : List Bool
  deriving DecidableEq, Repr

namespace PlanWrite

/-- The write, seen from outside one more block. -/
def inside (ok : Bool) (w : PlanWrite) : PlanWrite := { w with endings := w.endings ++ [ok] }

/-- Every block around the write ends well. -/
def isKept (w : PlanWrite) : Bool := w.endings.all id

/-- The texts of the writes that are kept. -/
def kept (writes : List PlanWrite) : List String := (writes.filter isKept).map text

theorem kept_append (a b : List PlanWrite) : kept (a ++ b) = kept a ++ kept b := by
  simp [kept]

/-- A block keeps what its own blocks keep, or nothing. -/
theorem kept_inside (ok : Bool) (writes : List PlanWrite) :
    kept (writes.map (inside ok)) = if ok then kept writes else [] := by
  have seen : isKept ∘ inside ok = fun w => w.isKept && ok := by
    funext w
    simp [isKept, inside]
  rw [kept, List.filter_map, seen, List.map_map]
  cases ok with
  | true =>
      simp only [Bool.and_true]
      rfl
  | false => simp

end PlanWrite

/-- What a plan makes of the result of a savepoint: it goes on after an error
that it ignores. -/
def heed (ignoresErrors : Bool) : Except Error Nat → Except Error Nat
  | .ok count => .ok count
  | .error e => if ignoresErrors then .ok 0 else .error e

mutual

/-- What a step gives, and the writes that it carries out. A block gives
what the steps in it give. -/
def PlanStep.course : PlanStep → Except Error Nat × List PlanWrite
  | .statement text => (.ok 1, [⟨text, []⟩])
  | .fail e => (.error e, [])
  | .savepoint _ steps ignoresErrors =>
    (heed ignoresErrors steps.course.1, steps.course.2.map (.inside steps.course.1.isOk))

/-- What steps give, and the writes that they carry out up to the first that
fails. -/
def PlanSteps.course : PlanSteps → Except Error Nat × List PlanWrite
  | .done => (.ok 0, [])
  | .next first rest =>
    match first.course with
    | (.error e, writes) => (.error e, writes)
    | (.ok a, writes) => (rest.course.1.map (a + ·), writes ++ rest.course.2)

end

/-- The writes of a plan that runs as a transaction. -/
def PlanSteps.writes (plan : PlanSteps) : List PlanWrite :=
  plan.course.2.map (.inside plan.course.1.isOk)

mutual

/-- No savepoint in the step has a name of its own. -/
def PlanStep.IsUnnamed : PlanStep → Prop
  | .statement _ => True
  | .fail _ => True
  | .savepoint name? steps _ => name? = none ∧ steps.IsUnnamed

def PlanSteps.IsUnnamed : PlanSteps → Prop
  | .done => True
  | .next first rest => first.IsUnnamed ∧ rest.IsUnnamed

end

mutual

/-- How many savepoints stand in the step. -/
def PlanStep.savepoints : PlanStep → Nat
  | .statement _ => 0
  | .fail _ => 0
  | .savepoint _ steps _ => steps.savepoints + 1

def PlanSteps.savepoints : PlanSteps → Nat
  | .done => 0
  | .next first rest => first.savepoints + rest.savepoints

end

/-! ## Commands in brackets -/

/-- The block that a command opens. -/
def Command.block? : Command → Option Block
  | .start => some .transaction
  | .savepoint name => some (.savepoint name)
  | _ => none

/-- The command that ends a block well or badly. -/
def Block.ending (b : Block) (ok : Bool) : Command := if ok then b.commit else b.rollback

/-- The blocks that commands open. -/
def blocksOf (commands : List Command) : List Block := commands.filterMap Command.block?

theorem Command.block?_eq_some {c : Command} {b : Block} :
    c.block? = some b ↔ c = .start ∧ b = .transaction ∨
      ∃ name, c = .savepoint name ∧ b = .savepoint name := by
  cases c <;> simp [block?, eq_comm]

/-- Every block that is opened is ended, behind all that is opened in
it. -/
inductive Bracketed : List Command → Prop
  | nil : Bracketed []
  | block {c : Command} {b : Block} (ok : Bool) {inner rest : List Command}
      (opens : c.block? = some b) (inside : Bracketed inner) (behind : Bracketed rest) :
      Bracketed (c :: inner ++ b.ending ok :: rest)

theorem blocksOf_block {c : Command} {b : Block} (opens : c.block? = some b) (ok : Bool)
    (inner rest : List Command) :
    blocksOf (c :: inner ++ b.ending ok :: rest) = b :: (blocksOf inner ++ blocksOf rest) := by
  have closes : (b.ending ok).block? = none := by
    rcases Command.block?_eq_some.mp opens with ⟨-, rfl⟩ | ⟨name, -, rfl⟩ <;> cases ok <;> rfl
  simp [blocksOf, opens, closes]

namespace Bracketed

theorem append {a b : List Command} (ha : Bracketed a) (hb : Bracketed b) : Bracketed (a ++ b) := by
  induction ha with
  | nil => exact hb
  | block ok opens inside _ _ ih =>
      have joined := block ok opens inside ih
      rwa [List.append_assoc, List.cons_append]

/-- A block is ended as often as it is opened. -/
theorem count_endings {commands : List Command} (h : Bracketed commands) {c : Command}
    {b : Block} (hb : c.block? = some b) :
    commands.count b.commit + commands.count b.rollback = (blocksOf commands).count b := by
  induction h with
  | nil => rfl
  | @block c' b' ok inner rest opens _ _ inside behind =>
      -- The command that opens a block ends none, and the one that ends it ends no other.
      have own : (c' :: [b'.ending ok]).count b.commit + (c' :: [b'.ending ok]).count b.rollback =
          [b'].count b := by
        rcases Command.block?_eq_some.mp hb with ⟨-, rfl⟩ | ⟨name, -, rfl⟩ <;>
          rcases Command.block?_eq_some.mp opens with ⟨rfl, rfl⟩ | ⟨name', rfl, rfl⟩ <;>
          cases ok <;> simp [Block.ending, Block.transaction, Block.savepoint, List.count_cons]
      rw [blocksOf_block opens]
      simp only [List.count_append, List.count_cons, List.count_nil] at own inside behind ⊢
      omega

end Bracketed

/-! ## Generated names -/

theorem savepointName_inj {m n : Nat} : savepointName m = savepointName n ↔ m = n := by
  refine ⟨fun h => ?_, congrArg savepointName⟩
  have digits : Nat.toDigits 10 m = Nat.toDigits 10 n := by
    rw [← Nat.toList_repr, ← Nat.toList_repr]
    simpa [savepointName] using congrArg String.toList h
  have read := congrArg (Nat.ofDigitChars 10 · 0) digits
  simpa only [Nat.ofDigitChars_toDigits (b := 10) (by decide) (by decide)] using read

/-- The generated name of a number. -/
def generatedName (i : Nat) : String := (nextSavepointName (.ofNat i)).1

theorem nextSavepointName_ofNat (i : Nat) :
    nextSavepointName (.ofNat i) = (generatedName i, .ofNat (i + 1)) := by
  rw [UInt64.ofNat_add]
  rfl

/-- Names differ among as many numbers in a row as there are words. -/
theorem generatedName_inj {i j : Nat} (behind : i < j + UInt64.size)
    (before : j < i + UInt64.size) : generatedName i = generatedName j ↔ i = j := by
  rw [generatedName, generatedName, nextSavepointName, nextSavepointName, savepointName_inj,
    UInt64.toNat_ofNat', UInt64.toNat_ofNat']
  simp only [UInt64.size] at behind before
  omega

/-- The blocks whose names have the `k` numbers from `n` on. -/
def numberedBlocks (n k : Nat) : List Block :=
  (List.range' n k).map fun i => .savepoint (generatedName i)

theorem nodup_numberedBlocks (n : Nat) {k : Nat} (few : k ≤ UInt64.size) :
    (numberedBlocks n k).Nodup := by
  refine List.Nodup.map_on (fun i hi j hj h => ?_) List.nodup_range'
  rw [List.mem_range'_1] at hi hj
  exact (generatedName_inj (by omega) (by omega)).mp
    (Command.savepoint.inj (congrArg Block.opening h))

/-! ## A block that runs -/

/-- A block whose commands succeed gives what its body gives, and ends as
its body does. -/
theorem Block.run_eq {σ α : Type} {b : Block} {perform : Command → Action σ Unit}
    {body : Action σ α} {s s₁ s₂ s₃ : σ} {r : Except Error α}
    (opens : perform b.opening s = (.ok (), s₁)) (runs : body s₁ = (r, s₂))
    (ends : perform (b.ending r.isOk) s₂ = (.ok (), s₃)) : b.run perform body s = (r, s₃) := by
  simp only [run, opens, runs]
  cases r with
  | ok a =>
      have ends : perform b.commit s₂ = (.ok (), s₃) := ends
      simp only [ends]
  | error e =>
      have ends : perform b.rollback s₂ = (.ok (), s₃) := ends
      simp only [ends]

namespace Server

/-- What steps do inside an open transaction, `n` being the number of the
next name before them and `n'` behind them: they add writes, and leave the
stack as it was but for savepoints of their own on top of it. -/
def Extends (s : Server) (t : OpenTransaction) (n : Nat) (kept : List String) (s' : Server)
    (n' : Nat) : Prop :=
  ∃ above commands k,
    s' = { s with
      transaction? := some ⟨t.writes ++ kept, above ++ t.savepoints⟩
      commands := s.commands ++ commands } ∧
    n' = n + k ∧ (∀ p ∈ above, ∃ i, n ≤ i ∧ i < n' ∧ p.name = generatedName i) ∧
    Bracketed commands ∧ blocksOf commands = numberedBlocks n k

variable {s s' s'' : Server} {t t' : OpenTransaction} {n n' n'' : Nat} {kept more : List String}

theorem extends_refl (h : s.transaction? = some t) (n : Nat) : s.Extends t n [] s n := by
  refine ⟨[], [], 0, ?_, rfl, nofun, .nil, rfl⟩
  simp [← h]

/-- The transaction is still open. -/
theorem Extends.transaction? (h : s.Extends t n kept s' n') : ∃ t', s'.transaction? = some t' := by
  obtain ⟨above, commands, k, rfl, -⟩ := h
  exact ⟨_, rfl⟩

/-- Steps after steps. -/
theorem Extends.trans (first : s.Extends t n kept s' n') (ht : s'.transaction? = some t')
    (second : s'.Extends t' n' more s'' n'') : s.Extends t n (kept ++ more) s'' n'' := by
  obtain ⟨above, commands, k, rfl, rfl, own, bracketed, blocks⟩ := first
  obtain ⟨above', commands', k', rfl, rfl, own', bracketed', blocks'⟩ := second
  obtain rfl := Option.some.inj ht
  refine ⟨above' ++ above, commands ++ commands', k + k', ?_, Nat.add_assoc .., ?_,
    bracketed.append bracketed', ?_⟩
  · simp
  · intro p hp
    rcases List.mem_append.mp hp with hp | hp
    · obtain ⟨i, low, high, name⟩ := own' p hp
      exact ⟨i, by omega, by omega, name⟩
    · obtain ⟨i, low, high, name⟩ := own p hp
      exact ⟨i, low, by omega, name⟩
  · rw [blocksOf, List.filterMap_append, ← blocksOf, ← blocksOf, blocks, blocks', numberedBlocks,
      numberedBlocks, numberedBlocks, ← List.map_append, List.range'_append_1]

/-- The newest savepoint of a name, below others that have other names. -/
theorem downTo_eq {above : List Savepoint} (below : List Savepoint) {p : Savepoint}
    (writes : List String) (others : ∀ q ∈ above, q.name ≠ p.name) :
    OpenTransaction.downTo ⟨writes, above ++ p :: below⟩ p.name = p :: below := by
  have passed : ∀ q ∈ above, decide (q.name ≠ p.name) = true := by simpa using others
  rw [OpenTransaction.downTo, List.dropWhile_append_of_pos passed]
  simp

theorem numbered_savepoint (number : UInt64) (ht : s.transaction? = some t) (name : String) :
    target.numbered (.savepoint name) (s, number) =
      (.ok (), ({ s with
        transaction? := some { t with savepoints := ⟨name, t.writes.length⟩ :: t.savepoints }
        commands := s.commands ++ [.savepoint name] }, number)) := by
  simp only [PlanTarget.numbered, target, perform, after?, ht]

theorem numbered_release (number : UInt64) {name : String} {p : Savepoint}
    {below : List Savepoint} (ht : s.transaction? = some t) (top : t.downTo name = p :: below) :
    target.numbered (.release name) (s, number) =
      (.ok (), ({ s with
        transaction? := some { t with savepoints := below }
        commands := s.commands ++ [.release name] }, number)) := by
  simp only [PlanTarget.numbered, target, perform, after?, ht, top]

theorem numbered_rollbackTo (number : UInt64) {name : String} {p : Savepoint}
    {below : List Savepoint} (ht : s.transaction? = some t) (top : t.downTo name = p :: below) :
    target.numbered (.rollbackTo name) (s, number) =
      (.ok (), ({ s with
        transaction? := some ⟨t.writes.take p.before, p :: below⟩
        commands := s.commands ++ [.rollbackTo name] }, number)) := by
  simp only [PlanTarget.numbered, target, perform, after?, ht, top]

/-- A savepoint around steps. Its own place on the stack is the newest one
of its name when it ends, so that its end undoes the writes inside it or
none at all. -/
theorem run_savepoint {body : Action (Server × UInt64) Nat} {r : Except Error Nat} {most : Nat}
    (few : most + 1 ≤ UInt64.size) (ht : s.transaction? = some t)
    (hbody : ∀ s t, s.transaction? = some t →
      ∃ s' n', body (s, .ofNat (n + 1)) = (r, (s', .ofNat n')) ∧
        s.Extends t (n + 1) kept s' n' ∧ n' ≤ n + 1 + most) :
    ∃ s' n', (Block.savepoint (generatedName n)).run target.numbered body (s, .ofNat (n + 1)) =
        (r, (s', .ofNat n')) ∧
      s.Extends t n (if r.isOk then kept else []) s' n' ∧ n' ≤ n + (most + 1) := by
  have opens := numbered_savepoint (.ofNat (n + 1)) ht (generatedName n)
  obtain ⟨s', n', runs, ⟨above, commands, k, hs', rfl, own, bracketed, blocks⟩, bounded⟩ :=
    hbody { s with
      transaction? := some
        { t with savepoints := ⟨generatedName n, t.writes.length⟩ :: t.savepoints }
      commands := s.commands ++ [.savepoint (generatedName n)] } _ rfl
  have others : ∀ q ∈ above, q.name ≠ generatedName n := by
    intro q hq same
    obtain ⟨i, low, high, name⟩ := own q hq
    -- There are at most `most` numbers behind `n`, too few to come back to its name.
    have := (generatedName_inj (by omega) (by omega)).mp (name.symm.trans same)
    omega
  have top := downTo_eq t.savepoints (p := ⟨generatedName n, t.writes.length⟩) (t.writes ++ kept)
    others
  have closed : s'.transaction? =
      some ⟨t.writes ++ kept, above ++ ⟨generatedName n, t.writes.length⟩ :: t.savepoints⟩ := by
    rw [hs']
  have bracketed' := fun ok =>
    Bracketed.block (c := .savepoint (generatedName n)) ok rfl bracketed .nil
  have blocks' : ∀ ok, blocksOf (.savepoint (generatedName n) ::
      commands ++ [(Block.savepoint (generatedName n)).ending ok]) = numberedBlocks n (k + 1) := by
    intro ok
    rw [blocksOf_block rfl, blocks]
    simp [numberedBlocks, blocksOf, List.range'_succ]
  cases r with
  | ok count =>
      have ends := numbered_release (.ofNat (n + 1 + k)) closed top
      refine ⟨_, _, Block.run_eq opens runs ends, ⟨[], _, k + 1, ?_, by omega, nofun,
        bracketed' true, blocks' true⟩, by omega⟩
      simp [hs', Except.isOk, Except.toBool, Block.ending, Block.savepoint]
  | error e =>
      have ends := numbered_rollbackTo (.ofNat (n + 1 + k)) closed top
      refine ⟨_, _, Block.run_eq opens runs ends, ⟨[⟨generatedName n, t.writes.length⟩], _, k + 1,
        ?_, by omega, ?_, bracketed' false, blocks' false⟩, by omega⟩
      · simp [hs', Except.isOk, Except.toBool, Block.ending, Block.savepoint]
      · intro p hp
        rw [List.mem_singleton.mp hp]
        exact ⟨n, Nat.le_refl n, by omega, rfl⟩

end Server

/-! ## Plans -/

open Server PlanWrite

mutual

/-- A step of unnamed savepoints inside an open transaction gives what its
course gives, and adds the writes that are kept of it. -/
theorem PlanStep.run_course : (x : PlanStep) → x.IsUnnamed → x.savepoints ≤ UInt64.size →
    ∀ {s : Server} {t : OpenTransaction}, s.transaction? = some t → ∀ n : Nat, ∃ s' n',
      target.step x (s, .ofNat n) = (x.course.1, (s', .ofNat n')) ∧
        s.Extends t n (kept x.course.2) s' n' ∧ n' ≤ n + x.savepoints
  | .statement text, _, _, s, t, ht, n => by
      have own : kept [⟨text, []⟩] = [text] := rfl
      refine ⟨{ s with transaction? := some { t with writes := t.writes ++ [text] } }, n, ?_,
        ⟨[], [], 0, ?_, rfl, nofun, .nil, rfl⟩, Nat.le_refl n⟩
      · simp only [PlanTarget.step, target, write, ht, PlanStep.course]
      · simp [PlanStep.course, own]
  | .fail e, _, _, s, t, ht, n => ⟨s, n, rfl, extends_refl ht n, Nat.le_refl n⟩
  | .savepoint name? steps ignoresErrors, h, few, s, t, ht, n => by
      obtain ⟨rfl, unnamed⟩ := h
      rw [PlanStep.savepoints] at few ⊢
      obtain ⟨s', n', runs, adds, bounded⟩ := run_savepoint few ht fun s t ht =>
        steps.run_course unnamed (Nat.le_of_succ_le few) ht (n + 1)
      refine ⟨s', n', ?_, ?_, bounded⟩
      · simp only [PlanTarget.step, nextSavepointName_ofNat, runs, PlanStep.course]
        cases steps.course.1 with
        | ok count => rfl
        | error e => cases ignoresErrors <;> rfl
      · rw [PlanStep.course, kept_inside]
        exact adds

theorem PlanSteps.run_course : (xs : PlanSteps) → xs.IsUnnamed → xs.savepoints ≤ UInt64.size →
    ∀ {s : Server} {t : OpenTransaction}, s.transaction? = some t → ∀ n : Nat, ∃ s' n',
      target.steps xs (s, .ofNat n) = (xs.course.1, (s', .ofNat n')) ∧
        s.Extends t n (kept xs.course.2) s' n' ∧ n' ≤ n + xs.savepoints
  | .done, _, _, s, t, ht, n => ⟨s, n, rfl, extends_refl ht n, Nat.le_refl n⟩
  | .next first rest, h, few, s, t, ht, n => by
      rw [PlanSteps.savepoints] at few ⊢
      obtain ⟨s', n', runs, adds, bounded⟩ := first.run_course h.1 (by omega) ht n
      rw [PlanSteps.course]
      simp only [PlanTarget.steps, Action.andThen, runs]
      rcases hcourse : first.course with ⟨r, writes⟩
      rw [hcourse] at adds
      cases r with
      | error e => exact ⟨s', n', rfl, adds, by omega⟩
      | ok a =>
          obtain ⟨t', ht'⟩ := adds.transaction?
          obtain ⟨s'', n'', runs', adds', bounded'⟩ := rest.run_course h.2 (by omega) ht' n'
          refine ⟨s'', n'', ?_, ?_, by omega⟩
          · simp only [runs']
            cases rest.course.1 <;> rfl
          · rw [kept_append]
            exact adds.trans ht' adds'

end

/-- A plan as a transaction on a server without an open one. -/
theorem Server.run_transaction (plan : PlanSteps) (unnamed : plan.IsUnnamed)
    (few : plan.savepoints ≤ UInt64.size) {s : Server} (idle : s.transaction? = none) (n : Nat) :
    ∃ commands k n',
      target.transaction plan (s, .ofNat n) = (plan.course.1,
        ({ durable := s.durable ++ kept plan.writes, commands := s.commands ++ commands }, n')) ∧
      Bracketed commands ∧ blocksOf commands = .transaction :: numberedBlocks n k ∧
      k ≤ UInt64.size := by
  have opens : target.numbered .start (s, .ofNat n) = (.ok (), ({ s with
      transaction? := some {}, commands := s.commands ++ [.start] }, .ofNat n)) := by
    simp only [PlanTarget.numbered, target, perform, after?, idle]
  obtain ⟨s', n', runs, ⟨above, commands, k, hs', rfl, -, bracketed, blocks⟩, bounded⟩ :=
    plan.run_course unnamed few (s := { s with
      transaction? := some {}, commands := s.commands ++ [.start] }) rfl n
  have ends : target.numbered (Block.transaction.ending plan.course.1.isOk)
      (s', .ofNat (n + k)) =
      (.ok (), ({
        durable := s.durable ++ kept plan.writes
        commands := s.commands ++ (.start :: commands ++
          [Block.transaction.ending plan.course.1.isOk]) }, .ofNat (n + k))) := by
    rw [PlanSteps.writes, kept_inside]
    cases plan.course.1.isOk <;>
      simp [PlanTarget.numbered, target, perform, after?, hs', Block.ending,
        Block.transaction]
  refine ⟨_, k, _, Block.run_eq opens runs ends, .block _ rfl bracketed .nil, ?_, by omega⟩
  rw [blocksOf_block rfl, blocks]
  exact congrArg (Block.transaction :: ·) (List.append_nil _)

/-- A plan of unnamed savepoints on a server without an open transaction,
whatever number the next name has. There are no more savepoints than numbers,
so that no name comes twice.

Its result is that of its course, no transaction stays open, and durable are
the writes that stand in blocks which all ended well, in the order in which
they were carried out. The commands are in brackets, and each block that
was begun is ended once. Whatever runs in a block and wherever it runs, the
block gives the result of its body if its commands succeed. -/
theorem PlanSteps.durable_writes (plan : PlanSteps) (unnamed : plan.IsUnnamed)
    (few : plan.savepoints ≤ UInt64.size) (s : Server) (idle : s.transaction? = none)
    (n : UInt64) :
    let ended := target.transaction plan (s, n)
    ended.1 = plan.course.1 ∧ ended.2.1.transaction? = none ∧
      ended.2.1.durable = s.durable ++ (plan.writes.filter isKept).map PlanWrite.text ∧
      (∃ commands, ended.2.1.commands = s.commands ++ commands ∧ Bracketed commands ∧
        ∀ b ∈ blocksOf commands, commands.count b.commit + commands.count b.rollback = 1) ∧
      ∀ (σ α : Type) (b : Block) (perform : Command → Action σ Unit) (body : Action σ α) (x : σ),
        (∀ c x, (perform c x).1 = .ok ()) →
        (b.run perform body x).1 = (body (perform b.opening x).2).1 := by
  intro ended
  obtain ⟨commands, k, n', runs, bracketed, blocks, fits⟩ :=
    run_transaction plan unnamed few idle n.toNat
  rw [UInt64.ofNat_toNat] at runs
  have runs : ended = _ := runs
  rw [runs]
  refine ⟨rfl, rfl, rfl, ⟨commands, rfl, bracketed, fun b hb => ?_⟩, ?_⟩
  · obtain ⟨c, -, hc⟩ := List.mem_filterMap.mp hb
    have distinct : (blocksOf commands).Nodup := by
      rw [blocks, List.nodup_cons]
      refine ⟨fun h => ?_, nodup_numberedBlocks n.toNat fits⟩
      obtain ⟨i, -, h⟩ := List.mem_map.mp h
      cases h
    rw [bracketed.count_endings hc, List.count_eq_one_of_mem distinct hb]
  · intro σ α b perform body x succeeds
    have opens : perform b.opening x = (.ok (), (perform b.opening x).2) :=
      Prod.ext (succeeds _ _) rfl
    rcases hbody : body (perform b.opening x).2 with ⟨r, y⟩
    have ends : perform (b.ending r.isOk) y = (.ok (), (perform (b.ending r.isOk) y).2) :=
      Prod.ext (succeeds _ _) rfl
    rw [Block.run_eq opens hbody ends]

/-- A failed savepoint, ignored, with another one inside it that succeeds,
and then a savepoint that succeeds. The first of them takes the greatest
number, and the next one begins again. -/
theorem PlanSteps.durable_writes_ignored :
    let failing : PlanSteps := .ofList [.statement "b",
      .savepoint none (.ofList [.statement "c"]) false, .fail (.other "no")]
    let plan : PlanSteps := .ofList [.statement "a", .savepoint none failing true,
      .savepoint none (.ofList [.statement "d"]) false]
    let greatest : UInt64 := .ofNat (UInt64.size - 1)
    let ended := target.transaction plan ({ durable := ["before"] }, greatest)
    plan.IsUnnamed ∧ plan.savepoints ≤ UInt64.size ∧ ended.1 = .ok 2 ∧
      ended.2.1.durable = ["before", "a", "d"] := by
  intro failing plan greatest ended
  have unnamed : plan.IsUnnamed := by
    simp [plan, failing, PlanSteps.ofList, PlanSteps.IsUnnamed, PlanStep.IsUnnamed]
  have few : plan.savepoints ≤ UInt64.size := by decide
  have course : plan.course = (.ok 2, [⟨"a", []⟩, ⟨"b", [false]⟩, ⟨"c", [true, false]⟩,
      ⟨"d", [true]⟩]) := rfl
  have kept : (plan.writes.filter isKept).map PlanWrite.text = ["a", "d"] := by
    rw [PlanSteps.writes, course]
    decide
  obtain ⟨result, -, durable, -⟩ :=
    PlanSteps.durable_writes plan unnamed few { durable := ["before"] } rfl greatest
  have runs : target.transaction plan ({ durable := ["before"] }, greatest) = ended := rfl
  rw [runs, course] at result
  rw [runs, kept] at durable
  clear_value ended
  exact ⟨unnamed, few, result, durable⟩

end SqlCompose
