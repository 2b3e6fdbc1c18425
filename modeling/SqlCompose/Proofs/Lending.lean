import SqlCompose.Pool.Lending
import SqlCompose.Proofs.Buffers

/-!
# Many holders of one pool

Whoever takes a buffer from a pool finds it empty, and nobody else writes to
it until it is given back. So what stands in a loan is what its holder has
written, whatever other holders take, write and give back in between
(`Lending.contents_steps`): a pool cannot be told from one that makes a new
buffer each time. Its idle buffers are empty, and there are never more of
them than it retains.
-/

namespace SqlCompose

/-! ## Idle buffers -/

namespace Shelf

variable {α : Type} {k : BufferKind α} {retained : Nat} {s : Shelf α}

theorem length_take_le : (s.take k).2.idle.length ≤ s.idle.length := by
  rw [take]
  split
  · exact Nat.le_refl _
  · rename_i hs
    rw [hs]
    exact Nat.le_succ _

theorem length_giveBack_le (b : Buffer α) (h : s.idle.length ≤ retained) :
    (s.giveBack k retained b).idle.length ≤ retained := by
  rw [giveBack]
  split
  · rename_i hroom
    exact hroom.2
  · exact h

end Shelf

/-- There are never more idle buffers of a kind than the pool retains. -/
theorem BufferPool.IsReached.idle_le {p : BufferPool} (h : p.IsReached) :
    p.idle.1 ≤ p.retained ∧ p.idle.2 ≤ p.retained := by
  induction h with
  | new retained => exact ⟨Nat.zero_le _, Nat.zero_le _⟩
  | takeText _ ih => exact ⟨Nat.le_trans Shelf.length_take_le ih.1, ih.2⟩
  | takeArgs _ ih => exact ⟨ih.1, Nat.le_trans Shelf.length_take_le ih.2⟩
  | giveBackText b _ ih => exact ⟨Shelf.length_giveBack_le b ih.1, ih.2⟩
  | giveBackArgs b _ ih => exact ⟨ih.1, Shelf.length_giveBack_le b ih.2⟩

/-! ## Loans -/

/-- What stands in a loan. -/
inductive LoanContent where
  | text (s : String)
  | args (vs : List Scalar)
  deriving Repr

namespace LoanContent

def write (more : String) : LoanContent → LoanContent
  | text s => text (s ++ more)
  | args vs => args vs

def push (v : Scalar) : LoanContent → LoanContent
  | text s => text s
  | args vs => args (vs ++ [v])

end LoanContent

def Loan.content : Loan → LoanContent
  | .text b => .text b.content
  | .args b => .args b.content

/-- A step, as holders see it who are given a new buffer each time: what
they have written so far, and what after the step. -/
def LoanStep.alone (held : List (Option LoanContent)) : LoanStep → List (Option LoanContent)
  | .takeText => held ++ [some (.text "")]
  | .takeArgs => held ++ [some (.args [])]
  | .write loan more => held.modify loan (Option.map (.write more))
  | .push loan v => held.modify loan (Option.map (.push v))
  | .reserve _ _ => held
  | .giveBack loan => held.set loan none

namespace Lending

/-- What stands in all loans. -/
def contents (l : Lending) : List (Option LoanContent) := l.loans.map (Option.map Loan.content)

theorem retained_step (l : Lending) (s : LoanStep) :
    (l.step s).pool.retained = l.pool.retained := by
  cases s with
  | giveBack i =>
      rw [step]
      split
      · rfl
      · split <;> rfl
  | _ => rfl

theorem isReached_step {l : Lending} (h : l.pool.IsReached) (s : LoanStep) :
    (l.step s).pool.IsReached := by
  cases s with
  | takeText => exact h.takeText
  | takeArgs => exact h.takeArgs
  | write i more => exact h
  | push i v => exact h
  | reserve i more => exact h
  | giveBack i =>
      rw [step]
      split
      · exact h
      · split
        · exact h.giveBackText _
        · exact h.giveBackArgs _

theorem contents_change (l : Lending) (i : Nat) {f : Loan → Loan}
    {g : LoanContent → LoanContent} (h : ∀ loan, (f loan).content = g loan.content) :
    (l.change i f).contents = l.contents.modify i (Option.map g) := by
  apply List.ext_getElem?
  intro j
  simp only [contents, change, List.getElem?_map, List.getElem?_modify]
  by_cases hj : i = j
  · rcases l.loans[j]? with - | - | loan <;> simp [hj, h]
  · simp [hj]

theorem contents_return (l : Lending) (i : Nat) :
    ((l.step (.giveBack i)).contents) = l.contents.set i none := by
  have gone : l.contents.set i none = (l.loans.set i none).map (Option.map Loan.content) := by
    rw [contents, List.map_set]
    rfl
  rw [gone, step]
  cases out : l.loan? i with
  | some loan => rfl
  | none =>
      -- There is nothing to give back, so the number is of no loan or of one that is gone.
      refine congrArg _ (List.ext_getElem? fun j => ?_)
      rw [List.getElem?_set]
      by_cases hj : i = j
      · rw [loan?, hj, Option.join_eq_none_iff] at out
        rcases out with out | out <;> grind
      · rw [if_neg hj]

/-- One step of one holder is seen by nobody else. -/
theorem contents_step {l : Lending} (h : l.pool.IsClean) (s : LoanStep) :
    (l.step s).contents = s.alone l.contents := by
  cases s with
  | takeText =>
      have taken : (l.step .takeText).contents =
          l.contents ++ [some (.text l.pool.takeText.1.content)] := List.map_append
      rw [taken, h.takeText.1]
      rfl
  | takeArgs =>
      have taken : (l.step .takeArgs).contents =
          l.contents ++ [some (.args l.pool.takeArgs.1.content)] := List.map_append
      rw [taken, h.takeArgs.1]
      rfl
  | write i more =>
      refine l.contents_change i fun loan => ?_
      cases loan with
      | text b => exact congrArg LoanContent.text (b.content_append .text more)
      | args b => rfl
  | push i v =>
      refine l.contents_change i fun loan => ?_
      cases loan with
      | text b => rfl
      | args b => exact congrArg LoanContent.args (b.content_append .args [v])
  | reserve i more =>
      have kept := l.contents_change i (f := fun
        | .text b => .text (b.reserve .text more)
        | .args b => .args (b.reserve .args more)) (g := id) fun loan => by
          cases loan with
          | text b => exact congrArg LoanContent.text (b.content_reserve .text more)
          | args b => exact congrArg LoanContent.args (b.content_reserve .args more)
      rw [Option.map_id, List.modify_id] at kept
      exact kept
  | giveBack i => exact l.contents_return i

/-- However holders take turns, each has what it has written itself. -/
theorem contents_steps {l : Lending} (h : l.pool.IsReached) (all : List LoanStep) :
    (l.steps all).pool.IsReached ∧ (l.steps all).pool.retained = l.pool.retained ∧
      (l.steps all).contents = all.foldl LoanStep.alone l.contents := by
  induction all generalizing l with
  | nil => exact ⟨h, rfl, rfl⟩
  | cons s all ih =>
      obtain ⟨reached, retained, held⟩ := ih (isReached_step h s)
      rw [retained_step] at retained
      rw [contents_step h.isClean] at held
      exact ⟨reached, retained, held⟩

end Lending

end SqlCompose
