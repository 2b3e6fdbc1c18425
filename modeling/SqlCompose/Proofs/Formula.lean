import SqlCompose.Statement.Basic

/-!
# Reading conditions

How a database reads the text of a condition: a `NOT` binds tighter than
an `AND`, an `AND` tighter than an `OR`, and parentheses stand for
themselves. What the conditions between them say is left open, so texts
are sequences of tokens over atoms of any kind.

`Token.read` goes over the tokens once. What waits for its right side is
kept on a stack, and an operand takes from the stack what binds it
(`bindTight` for negations and conjunctions, `bindLoose` for a
disjunction).

That something is read is shown piece by piece. Tokens are an *operand* if
whatever waits before them takes what they say (`IsOperand`), and a
*condition* if they can stand alone or in parentheses (`IsCondition`).
-/

namespace SqlCompose

/-- A condition over atoms. -/
inductive Formula (α : Type) where
  | atom (a : α)
  | not (φ : Formula α)
  | binary (op : LogicalOp) (left right : Formula α)
  deriving DecidableEq, Repr

/-- The truth of two conditions together. -/
def LogicalOp.apply : LogicalOp → Bool → Bool → Bool
  | and => (· && ·)
  | or => (· || ·)

namespace Formula

variable {α : Type}

/-- The truth of a condition, given that of its atoms. -/
def holds (ρ : α → Bool) : Formula α → Bool
  | atom a => ρ a
  | not φ => !φ.holds ρ
  | binary op φ ψ => op.apply (φ.holds ρ) (ψ.holds ρ)

/-- The atoms from left to right. -/
def atoms : Formula α → List α
  | atom a => [a]
  | not φ => φ.atoms
  | binary _ φ ψ => φ.atoms ++ ψ.atoms

/-- One condition after another, joined by one operator. -/
def join (op : LogicalOp) (φ : Formula α) (rest : List (Formula α)) : Formula α :=
  rest.foldl (binary op) φ

theorem holds_join (ρ : α → Bool) (op : LogicalOp) (φ : Formula α) (rest : List (Formula α)) :
    (join op φ rest).holds ρ = (rest.map (·.holds ρ)).foldl op.apply (φ.holds ρ) := by
  induction rest generalizing φ with
  | nil => rfl
  | cons ψ rest ih => exact ih (binary op φ ψ)

theorem atoms_join (op : LogicalOp) (φ : Formula α) (rest : List (Formula α)) :
    (join op φ rest).atoms = φ.atoms ++ rest.flatMap atoms := by
  induction rest generalizing φ with
  | nil => rw [List.flatMap_nil, List.append_nil]; rfl
  | cons ψ rest ih =>
      rw [List.flatMap_cons, ← List.append_assoc]
      exact ih (binary op φ ψ)

end Formula

/-- A word of a condition. -/
inductive Token (α : Type) where
  | atom (a : α)
  | not
  | op (op : LogicalOp)
  | opening
  | closing
  deriving DecidableEq, Repr

/-- The atom of a word. -/
def Token.atom? {α : Type} : Token α → Option α
  | .atom a => some a
  | _ => none

/-- What waits for an operand on its right. -/
inductive Pending (α : Type) where
  | not
  /-- An operator with its left side. -/
  | left (op : LogicalOp) (φ : Formula α)
  | opening
  deriving DecidableEq, Repr

namespace Pending

variable {α : Type}

/-- Negations and conjunctions take the operand that follows them. -/
def bindTight : List (Pending α) → Formula α → Formula α × List (Pending α)
  | .not :: stack, φ => bindTight stack (.not φ)
  | .left .and ψ :: stack, φ => bindTight stack (.binary .and ψ φ)
  | stack, φ => (φ, stack)

/-- A disjunction takes the operand that follows it, if nothing binds that
tighter. -/
def bindLoose : List (Pending α) → Formula α → Formula α × List (Pending α)
  | .left .or ψ :: stack, φ => bindLoose stack (.binary .or ψ φ)
  | stack, φ => (φ, stack)

/-- The atoms to the left of an operand. -/
def atoms : List (Pending α) → List α
  | [] => []
  | .left _ φ :: stack => atoms stack ++ φ.atoms
  | _ :: stack => atoms stack

theorem atoms_bindTight (stack : List (Pending α)) (φ : Formula α) :
    atoms (bindTight stack φ).2 ++ (bindTight stack φ).1.atoms = atoms stack ++ φ.atoms := by
  fun_induction bindTight stack φ with
  | case1 stack φ ih => exact ih
  | case2 stack ψ φ ih =>
      rw [ih, atoms, List.append_assoc]
      rfl
  | case3 => rfl

theorem atoms_bindLoose (stack : List (Pending α)) (φ : Formula α) :
    atoms (bindLoose stack φ).2 ++ (bindLoose stack φ).1.atoms = atoms stack ++ φ.atoms := by
  fun_induction bindLoose stack φ with
  | case1 stack ψ φ ih =>
      rw [ih, atoms, List.append_assoc]
      rfl
  | case2 => rfl

end Pending

namespace Token

variable {α : Type}

open Pending

mutual

/-- Reads on where an operand must begin. -/
def readOperand : (stack : List (Pending α)) → List (Token α) → Option (Formula α)
  | stack, .not :: ts => readOperand (.not :: stack) ts
  | stack, .opening :: ts => readOperand (.opening :: stack) ts
  | stack, .atom a :: ts => readOperator (bindTight stack (.atom a)) ts
  | _, _ => none
termination_by structural _ ts => ts

/-- Reads on behind an operand. -/
def readOperator : Formula α × List (Pending α) → List (Token α) → Option (Formula α)
  | (φ, stack), .op .and :: ts => readOperand (.left .and φ :: stack) ts
  | (φ, stack), .op .or :: ts =>
    let (φ, stack) := bindLoose stack φ
    readOperand (.left .or φ :: stack) ts
  | (φ, stack), .closing :: ts =>
    match bindLoose stack φ with
    | (φ, .opening :: stack) => readOperator (bindTight stack φ) ts
    | _ => none
  | (φ, stack), [] =>
    match bindLoose stack φ with
    | (φ, []) => some φ
    | _ => none
  | _, _ => none
termination_by structural _ ts => ts

end

/-- The condition that a sequence of words is. -/
def read (ts : List (Token α)) : Option (Formula α) := readOperand [] ts

/-- The atoms among the words, in order. -/
def atoms (ts : List (Token α)) : List α := ts.filterMap Token.atom?

mutual

theorem atoms_readOperand {φ : Formula α} : (stack : List (Pending α)) → (ts : List (Token α)) →
    readOperand stack ts = some φ → φ.atoms = Pending.atoms stack ++ atoms ts
  | stack, .not :: ts, h => atoms_readOperand (.not :: stack) ts h
  | stack, .opening :: ts, h => atoms_readOperand (.opening :: stack) ts h
  | stack, .atom a :: ts, h => by
      have ih := atoms_readOperator _ ts h
      rw [atoms_bindTight, List.append_assoc] at ih
      exact ih
  | _, [], h => nomatch h
  | _, .op _ :: _, h => nomatch h
  | _, .closing :: _, h => nomatch h
termination_by structural _ ts => ts

theorem atoms_readOperator {φ : Formula α} : (state : Formula α × List (Pending α)) →
    (ts : List (Token α)) → readOperator state ts = some φ →
      φ.atoms = Pending.atoms state.2 ++ state.1.atoms ++ atoms ts
  | (ψ, stack), .op .and :: ts, h => atoms_readOperand (.left .and ψ :: stack) ts h
  | (ψ, stack), .op .or :: ts, h => by
      have ih := atoms_readOperand _ ts h
      rw [Pending.atoms, atoms_bindLoose] at ih
      exact ih
  | (ψ, stack), .closing :: ts, h => by
      have hloose := atoms_bindLoose stack ψ
      rw [readOperator] at h
      split at h
      · rename_i below hbelow
        have ih := atoms_readOperator _ ts h
        rw [atoms_bindTight] at ih
        rw [hbelow] at hloose
        rw [ih, ← hloose]
        rfl
      · cases h
  | (ψ, stack), [], h => by
      have hloose := atoms_bindLoose stack ψ
      rw [readOperator] at h
      split at h
      · rename_i hempty
        cases h
        rw [hempty] at hloose
        rw [← hloose]
        exact (List.append_nil _).symm
      · cases h
  | (_, _), .not :: _, h => nomatch h
  | (_, _), .opening :: _, h => nomatch h
  | (_, _), .atom _ :: _, h => nomatch h
termination_by structural _ ts => ts

end

/-- Reading drops no atom and keeps their order. -/
theorem atoms_read {ts : List (Token α)} {φ : Formula α} (h : read ts = some φ) :
    φ.atoms = atoms ts :=
  atoms_readOperand [] ts h

/-! ## Operands and conditions -/

/-- Words that are read as one operand of whatever waits before them. -/
def IsOperand (ts : List (Token α)) (φ : Formula α) : Prop :=
  ∀ stack rest, readOperand stack (ts ++ rest) = readOperator (bindTight stack φ) rest

/-- At the beginning of a condition no operator waits for it. -/
inductive Begins : List (Pending α) → Prop
  | alone : Begins []
  | opened (stack : List (Pending α)) : Begins (.opening :: stack)

/-- Words that are read as one condition where a condition begins. What is
left on the stack may still be a disjunction with its left side. -/
def IsCondition (ts : List (Token α)) (φ : Formula α) : Prop :=
  ∀ stack, Begins stack → ∃ ψ above, bindLoose above ψ = (φ, stack) ∧
    ∀ rest, readOperand stack (ts ++ rest) = readOperator (ψ, above) rest

theorem Begins.bindTight {stack : List (Pending α)} (h : Begins stack) (φ : Formula α) :
    Pending.bindTight stack φ = (φ, stack) := by
  cases h <;> rfl

theorem Begins.bindLoose {stack : List (Pending α)} (h : Begins stack) (φ : Formula α) :
    Pending.bindLoose stack φ = (φ, stack) := by
  cases h <;> rfl

variable {ts : List (Token α)} {φ : Formula α}

theorem isOperand_atom (a : α) : IsOperand [.atom a] (.atom a) := fun _ _ => rfl

theorem IsOperand.not (h : IsOperand ts φ) : IsOperand (.not :: ts) (.not φ) :=
  fun stack rest => h (.not :: stack) rest

theorem IsOperand.isCondition (h : IsOperand ts φ) : IsCondition ts φ := by
  intro stack hs
  refine ⟨φ, stack, hs.bindLoose φ, fun rest => ?_⟩
  rw [h stack rest, hs.bindTight]

/-- A condition in parentheses is an operand. -/
theorem IsCondition.parens (h : IsCondition ts φ) :
    IsOperand (.opening :: ts ++ [.closing]) φ := by
  intro stack rest
  obtain ⟨ψ, above, hloose, hread⟩ := h (.opening :: stack) (.opened stack)
  rw [List.append_assoc]
  calc readOperand stack (.opening :: (ts ++ (.closing :: rest)))
      = readOperand (.opening :: stack) (ts ++ (.closing :: rest)) := rfl
    _ = readOperator (ψ, above) (.closing :: rest) := hread _
    _ = readOperator (bindTight stack φ) rest := by rw [readOperator, hloose]

/-- A condition that stands alone is read. -/
theorem IsCondition.read (h : IsCondition ts φ) : read ts = some φ := by
  obtain ⟨ψ, above, hloose, hread⟩ := h [] .alone
  have := hread []
  rw [List.append_nil] at this
  rw [Token.read, this, readOperator, hloose]

/-! ## Operands in a row -/

/-- Words with what they are read as. -/
structure Operand (α : Type) where
  words : List (Token α)
  formula : Formula α
  isOperand : IsOperand words formula

/-- Further operands, an operator before each. -/
def chain (op : LogicalOp) (rest : List (Operand α)) : List (Token α) :=
  rest.flatMap fun o => .op op :: o.words

theorem chain_cons (op : LogicalOp) (o : Operand α) (rest : List (Operand α)) :
    chain op (o :: rest) = .op op :: (o.words ++ chain op rest) :=
  List.flatMap_cons

/-- A conjunction takes one operand after the other. -/
theorem readOperator_and {stack : List (Pending α)} (hs : Begins stack)
    (rest : List (Operand α)) (φ : Formula α) (more : List (Token α)) :
    readOperator (φ, stack) (chain .and rest ++ more) =
      readOperator (Formula.join .and φ (rest.map (·.formula)), stack) more := by
  induction rest generalizing φ with
  | nil => rfl
  | cons o rest ih =>
      rw [chain_cons, List.cons_append, List.append_assoc, readOperator, o.isOperand,
        Pending.bindTight, hs.bindTight]
      exact ih (.binary .and φ o.formula)

/-- A disjunction waits for its right side until the next one is read. -/
theorem readOperator_or {stack : List (Pending α)} (hs : Begins stack)
    (rest : List (Operand α)) {φ ψ : Formula α} {above : List (Pending α)}
    (h : bindLoose above ψ = (φ, stack)) :
    ∃ ψ' above', bindLoose above' ψ' = (Formula.join .or φ (rest.map (·.formula)), stack) ∧
      ∀ more, readOperator (ψ, above) (chain .or rest ++ more) =
        readOperator (ψ', above') more := by
  induction rest generalizing φ ψ above with
  | nil => exact ⟨ψ, above, h, fun _ => rfl⟩
  | cons o rest ih =>
      have hnext : bindLoose (.left .or φ :: stack) o.formula =
          (.binary .or φ o.formula, stack) := hs.bindLoose _
      obtain ⟨ψ', above', hloose, hread⟩ := ih hnext
      refine ⟨ψ', above', hloose, fun more => ?_⟩
      rw [chain_cons, List.cons_append, List.append_assoc, readOperator, h, ← hread more]
      exact o.isOperand _ _

/-- Operands joined by one operator are a condition. -/
theorem isCondition_join (op : LogicalOp) (o : Operand α) (rest : List (Operand α)) :
    IsCondition (o.words ++ chain op rest)
      (Formula.join op o.formula (rest.map (·.formula))) := by
  intro stack hs
  have hfirst : ∀ more, readOperand stack (o.words ++ chain op rest ++ more) =
      readOperator (o.formula, stack) (chain op rest ++ more) := by
    intro more
    rw [List.append_assoc, o.isOperand, hs.bindTight]
  cases op with
  | and =>
      refine ⟨_, stack, hs.bindLoose _, fun more => ?_⟩
      rw [hfirst, readOperator_and hs]
  | or =>
      obtain ⟨ψ, above, hloose, hread⟩ := readOperator_or hs rest (hs.bindLoose o.formula)
      exact ⟨ψ, above, hloose, fun more => (hfirst more).trans (hread more)⟩

end Token

end SqlCompose
