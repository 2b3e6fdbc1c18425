import SqlCompose.Proofs.Formula
import SqlCompose.Proofs.Render

/-!
# The meaning of conditions

A tree of conditions says something of its leaves, the formats and boolean
fields in it, and its text is read as saying the same. The precedence of
the operators is that of `Token.read`; leaves are words of their own,
whatever they are written as.

Where a member of a group is written is decided in two places, by the
member itself and by the group around it. The invariant that settles it
(`Predicate.isOperandOf`) is that an unmarked condition beside others is
an operand, and one that stands alone a condition.

A clause is the conjunction of its conditions, so what holds of a group
holds of the text behind each `WHERE`, `HAVING` and `ON`.
-/

namespace SqlCompose

open Fragment

/-! ## Trees and their leaves -/

/-- The truth of several conditions together. -/
def LogicalOp.fold : LogicalOp → List Bool → Bool
  | and, bs => bs.all id
  | or, bs => bs.any id

theorem LogicalOp.fold_cons (op : LogicalOp) (b : Bool) (bs : List Bool) :
    op.fold (b :: bs) = bs.foldl op.apply b := by
  induction bs generalizing b with
  | nil => cases op <;> simp [fold]
  | cons c bs ih =>
      rw [List.foldl_cons, ← ih]
      cases op <;> simp [fold, apply, Bool.and_assoc, Bool.or_assoc]

namespace TypedField

def isNegated : TypedField → Bool
  | column _ _ negated => negated
  | computed _ _ _ _ negated => negated

/-- The field without its negation. -/
def positive : TypedField → TypedField
  | column kind c _ => column kind c false
  | computed kind c format operands _ => computed kind c format operands false

theorem sql_eq (f : TypedField) (excluded : List String) :
    f.sql excluded = notSql f.isNegated ++ f.positive.sql excluded := by
  cases f with
  | column kind c negated =>
      change notSql negated ++ c.nameSql excluded ++ c.modifiersSql = _
      rw [append_assoc]
      rfl
  | computed kind c format operands negated =>
      change notSql negated ++ _ ++ _ ++ _ = _
      rw [append_assoc (notSql negated), append_assoc (notSql negated)]
      rfl

theorem negate_negate (f : TypedField) : f.negate.negate = f := by
  cases f <;> simp [negate]

theorem positive_negate (f : TypedField) : f.negate.positive = f.positive := by
  cases f <;> rfl

theorem isNegated_negate (f : TypedField) : f.negate.isNegated = !f.isNegated := by
  cases f <;> rfl

end TypedField

mutual

/-- The truth of a condition, given that of its leaves. -/
def Predicate.holds (ρ : Predicate → Bool) : Predicate → Bool
  | .custom aliasName format operands negated =>
    negated ^^ ρ (.custom aliasName format operands false)
  | .group _ _ op members negated => negated ^^ op.fold (membersHold ρ members)
  | .boolean f => f.isNegated ^^ ρ (.boolean f.positive)
termination_by structural p => p

def membersHold (ρ : Predicate → Bool) : List Predicate → List Bool
  | [] => []
  | p :: rest => p.holds ρ :: membersHold ρ rest
termination_by structural ps => ps

end

mutual

/-- The leaves from left to right, without their negations. -/
def Predicate.leaves : Predicate → List Predicate
  | .custom aliasName format operands _ => [.custom aliasName format operands false]
  | .group _ _ _ members _ => leavesOf members
  | .boolean f => [.boolean f.positive]
termination_by structural p => p

def leavesOf : List Predicate → List Predicate
  | [] => []
  | p :: rest => p.leaves ++ leavesOf rest
termination_by structural ps => ps

end

mutual

/-- Each group has a member, and none is marked as top level. -/
def Predicate.isPlain : Predicate → Bool
  | .custom .. => true
  | .group toplevel _ _ members _ => !toplevel && !members.isEmpty && arePlain members
  | .boolean _ => true
termination_by structural p => p

def arePlain : List Predicate → Bool
  | [] => true
  | p :: rest => p.isPlain && arePlain rest
termination_by structural ps => ps

end

theorem membersHold_eq_map (ρ : Predicate → Bool) :
    ∀ ps : List Predicate, membersHold ρ ps = ps.map (·.holds ρ)
  | [] => rfl
  | p :: ps => congrArg (p.holds ρ :: ·) (membersHold_eq_map ρ ps)

theorem leavesOf_eq_flatMap : ∀ ps : List Predicate, leavesOf ps = ps.flatMap (·.leaves)
  | [] => rfl
  | p :: ps => by rw [leavesOf, List.flatMap_cons, leavesOf_eq_flatMap ps]

namespace Predicate

theorem negate_negate (p : Predicate) : p.negate.negate = p := by
  cases p <;> simp [negate, TypedField.negate_negate]

theorem holds_negate (ρ : Predicate → Bool) (p : Predicate) : p.negate.holds ρ = !p.holds ρ := by
  cases p with
  | custom aliasName format operands negated => cases negated <;> simp [negate, holds]
  | group toplevel aliasName op members negated => cases negated <;> simp [negate, holds]
  | boolean f =>
      rw [negate, holds, holds, TypedField.isNegated_negate, TypedField.positive_negate]
      cases f.isNegated <;> simp

/-- Negations cancel in pairs. -/
theorem negateTimes_eq (n : Nat) (p : Predicate) :
    p.negateTimes n = if n % 2 = 0 then p else p.negate := by
  induction n generalizing p with
  | zero => rfl
  | succ n ih =>
      rw [negateTimes, ih, negate_negate]
      by_cases hn : n % 2 = 0
      · rw [if_pos hn, if_neg (by omega)]
      · rw [if_neg hn, if_pos (by omega)]

end Predicate

/-! ## Writing words -/

namespace Token

/-- A word as it is written. -/
def sql (excluded : List String) : Token Predicate → Fragment
  | .atom p => p.sql excluded false
  | .not => text "NOT "
  | .op o => text o.separator
  | .opening => text "("
  | .closing => text ")"

/-- Words one after the other. -/
def spell (excluded : List String) (ts : List (Token Predicate)) : Fragment :=
  concat (ts.map (sql excluded))

variable {excluded : List String}

theorem spell_cons (t : Token Predicate) (ts : List (Token Predicate)) :
    spell excluded (t :: ts) = t.sql excluded ++ spell excluded ts := rfl

theorem spell_append (xs ys : List (Token Predicate)) :
    spell excluded (xs ++ ys) = spell excluded xs ++ spell excluded ys := by
  rw [spell, List.map_append, concat_append]
  rfl

theorem spell_parens (ts : List (Token Predicate)) :
    spell excluded (.opening :: ts ++ [.closing]) = parens (spell excluded ts) := by
  rw [spell_append, spell_cons, spell_cons]
  exact congrArg (_ ++ ·) (append_empty _)

theorem spell_atom (p : Predicate) : spell excluded [.atom p] = p.sql excluded false :=
  append_empty _

/-- The arguments of words are those of their atoms. -/
theorem args_spell {ts : List (Token Predicate)} (h : (spell excluded ts).stop = none) :
    (spell excluded ts).args = (atoms ts).flatMap fun p => (p.sql excluded false).args := by
  induction ts with
  | nil => rfl
  | cons t ts ih =>
      rw [spell_cons] at h ⊢
      obtain ⟨ht, hts⟩ := stop_append_eq_none.mp h
      rw [args_append ht, ih hts]
      cases t with
      | atom p => rfl
      | not => rfl
      | op o => rfl
      | opening => rfl
      | closing => rfl

end Token

open Token hiding op

/-- A formula over leaves that says what a tree says, with its leaves in
their order. -/
structure Formula.Means (φ : Formula Predicate) (p : Predicate) : Prop where
  holds : ∀ ρ, φ.holds ρ = p.holds ρ
  atoms : φ.atoms = p.leaves

namespace Predicate

variable {excluded : List String} {f : Fragment} {p : Predicate}

/-- The fragment is an operand that says what the tree says. -/
def IsOperandOf (excluded : List String) (f : Fragment) (p : Predicate) : Prop :=
  ∃ ts φ, f = spell excluded ts ∧ IsOperand ts φ ∧ φ.Means p

/-- The fragment is a condition that says what the tree says. -/
def IsConditionOf (excluded : List String) (f : Fragment) (p : Predicate) : Prop :=
  ∃ ts φ, f = spell excluded ts ∧ IsCondition ts φ ∧ φ.Means p

theorem IsOperandOf.isConditionOf (h : IsOperandOf excluded f p) :
    IsConditionOf excluded f p := by
  obtain ⟨ts, φ, hf, hread, hmeans⟩ := h
  exact ⟨ts, φ, hf, hread.isCondition, hmeans⟩

theorem IsConditionOf.parens (h : IsConditionOf excluded f p) :
    IsOperandOf excluded (parens f) p := by
  obtain ⟨ts, φ, rfl, hread, hmeans⟩ := h
  exact ⟨_, φ, (spell_parens ts).symm, hread.parens, hmeans⟩

theorem leaves_negate (p : Predicate) : p.negate.leaves = p.leaves := by
  cases p with
  | custom _ _ _ _ => rfl
  | group _ _ _ _ _ => rfl
  | boolean f => rw [negate, leaves, leaves, TypedField.positive_negate]

theorem IsOperandOf.negate (h : IsOperandOf excluded f p) :
    IsOperandOf excluded (notSql true ++ f) p.negate := by
  obtain ⟨ts, φ, rfl, hread, hmeans⟩ := h
  refine ⟨.not :: ts, .not φ, rfl, hread.not, fun ρ => ?_, ?_⟩
  · rw [holds_negate, Formula.holds, hmeans.holds]
  · rw [leaves_negate, Formula.atoms, hmeans.atoms]

/-! ## Leaves -/

theorem isOperandOf_custom (aliasName format : String) (operands : List Operand)
    (negated : Bool) :
    IsOperandOf excluded ((custom aliasName format operands negated).sql excluded false)
      (custom aliasName format operands negated) := by
  have hleaf : IsOperandOf excluded ((custom aliasName format operands false).sql excluded false)
      (custom aliasName format operands false) :=
    ⟨_, _, (spell_atom _).symm, isOperand_atom _, fun ρ => (Bool.false_xor _).symm, rfl⟩
  cases negated with
  | false => exact hleaf
  | true =>
      have hsql : (custom aliasName format operands true).sql excluded false =
          notSql true ++ (custom aliasName format operands false).sql excluded false := by
        rw [Predicate.sql, append_assoc]
        rfl
      rw [hsql]
      exact hleaf.negate

theorem isOperandOf_boolean (f : TypedField) :
    IsOperandOf excluded ((boolean f).sql excluded false) (boolean f) := by
  have hleaf : IsOperandOf excluded ((boolean f.positive).sql excluded false)
      (boolean f.positive) := by
    refine ⟨_, _, (spell_atom _).symm, isOperand_atom _, fun ρ => ?_, ?_⟩
    · cases f <;> exact (Bool.false_xor _).symm
    · cases f <;> rfl
  have hsql : (boolean f).sql excluded false =
      notSql f.isNegated ++ (boolean f.positive).sql excluded false := f.sql_eq excluded
  rw [hsql]
  cases hn : f.isNegated with
  | false =>
      have hf : f.positive = f := by cases f <;> cases hn <;> rfl
      rw [hf] at hleaf ⊢
      exact hleaf
  | true =>
      have hf : (boolean f.positive).negate = boolean f := by cases f <;> cases hn <;> rfl
      rw [← hf]
      exact hleaf.negate

/-! ## Groups -/

/-- A member of a group with what it is read as. -/
structure Part (excluded : List String) extends Token.Operand Predicate where
  member : Predicate
  spelled : member.sql excluded false = spell excluded words
  means : formula.Means member

/-- The members of a group that are operands, as parts. -/
theorem exists_parts {members : List Predicate}
    (h : ∀ p ∈ members, IsOperandOf excluded (p.sql excluded false) p) :
    ∃ parts : List (Part excluded), parts.map (·.member) = members := by
  induction members with
  | nil => exact ⟨[], rfl⟩
  | cons p members ih =>
      obtain ⟨hp, hmembers⟩ := List.forall_mem_cons.mp h
      obtain ⟨ts, φ, hspelled, hread, hmeans⟩ := hp
      obtain ⟨parts, hparts⟩ := ih hmembers
      exact ⟨⟨⟨ts, φ, hread⟩, p, hspelled, hmeans⟩ :: parts, congrArg (p :: ·) hparts⟩

/-- Members with the operator of their group between them. -/
theorem sepBy_parts (op : LogicalOp) (part : Part excluded) (parts : List (Part excluded)) :
    sepBy op.separator ((part :: parts).map fun q => q.member.sql excluded false) =
      spell excluded (part.words ++ chain op (parts.map (·.toOperand))) := by
  induction parts generalizing part with
  | nil =>
      rw [List.map_nil, chain, List.flatMap_nil, List.append_nil, ← part.spelled]
      rfl
  | cons next parts ih =>
      have ih := ih next
      rw [List.map_cons] at ih
      rw [List.map_cons, List.map_cons, sepBy_cons_cons, ih, part.spelled, List.map_cons,
        chain_cons, spell_append part.words, spell_cons, append_assoc]
      rfl

/-- Members joined by the operator of their group are a condition. -/
theorem isConditionOf_members (toplevel : Bool) (aliasName : String) (op : LogicalOp)
    {p : Predicate} {rest : List Predicate}
    (h : ∀ q ∈ p :: rest, IsOperandOf excluded (q.sql excluded false) q) :
    IsConditionOf excluded (sepBy op.separator (predicatesSql excluded (p :: rest)))
      (group toplevel aliasName op (p :: rest) false) := by
  obtain ⟨parts, hparts⟩ := exists_parts h
  cases parts with
  | nil => cases hparts
  | cons part parts =>
      obtain ⟨rfl, rfl⟩ := List.cons.inj hparts
      have hsql : predicatesSql excluded (part.member :: parts.map (·.member)) =
          (part :: parts).map fun q => q.member.sql excluded false := by
        rw [predicatesSql_eq_map, List.map_cons, List.map_cons, List.map_map]
        rfl
      refine ⟨_, _, hsql ▸ sepBy_parts op part parts,
        isCondition_join op part.toOperand (parts.map (·.toOperand)), fun ρ => ?_, ?_⟩
      · rw [Formula.holds_join, Predicate.holds, membersHold_eq_map, List.map_cons,
          LogicalOp.fold_cons, Bool.false_xor, part.means.holds]
        congr 1
        rw [List.map_map, List.map_map, List.map_map]
        exact List.map_congr_left fun q _ => q.means.holds ρ
      · rw [Formula.atoms_join, Predicate.leaves, leavesOf_eq_flatMap, List.flatMap_cons,
          part.means.atoms]
        congr 1
        rw [List.flatMap_def, List.flatMap_def, List.map_map, List.map_map, List.map_map]
        exact congrArg List.flatten (List.map_congr_left fun q _ => q.means.atoms)

/-- A group of one member says what the member says. -/
theorem means_single {φ : Formula Predicate} {q : Predicate} (h : φ.Means q) (toplevel : Bool)
    (aliasName : String) (op : LogicalOp) :
    φ.Means (group toplevel aliasName op [q] false) where
  holds := fun ρ => by
    rw [h.holds, Predicate.holds, membersHold_eq_map, Bool.false_xor]
    cases op <;> simp [LogicalOp.fold]
  atoms := by
    rw [h.atoms, leaves, leavesOf_eq_flatMap]
    exact (List.append_nil _).symm

/-- A group whose members are operands beside others, and conditions where
they stand alone, is so itself. -/
theorem isOperandOf_group {members : List Predicate} (hne : members ≠ [])
    (hoperand : ∀ q ∈ members, IsOperandOf excluded (q.sql excluded false) q)
    (hcondition : ∀ q ∈ members, IsConditionOf excluded (q.sql excluded true) q)
    (aliasName : String) (op : LogicalOp) :
    IsOperandOf excluded ((group false aliasName op members false).sql excluded false)
        (group false aliasName op members false) ∧
      IsConditionOf excluded ((group false aliasName op members false).sql excluded true)
        (group false aliasName op members false) := by
  match members with
  | [] => exact absurd rfl hne
  | [q] =>
      -- The only member stands alone in the group, and only a group needs the parentheses.
      have hq := hcondition q List.mem_cons_self
      constructor
      · obtain ⟨ts, φ, hf, hread, hmeans⟩ : IsOperandOf excluded
            ((group false aliasName op [q] false).sql excluded false) q := by
          rw [sql_group_single, notSql_false]
          cases hgroup : q.isGroup with
          | true => exact hq.parens
          | false =>
              rw [sql_of_not_group hgroup]
              exact hoperand q List.mem_cons_self
        exact ⟨ts, φ, hf, hread, means_single hmeans false aliasName op⟩
      · rw [sql_group_single, notSql_false, Bool.or_true, Bool.not_true, Bool.or_false,
          Bool.and_false, parensIf_false]
        obtain ⟨ts, φ, hf, hread, hmeans⟩ := hq
        exact ⟨ts, φ, hf, hread, means_single hmeans false aliasName op⟩
  | p :: q :: rest =>
      have hmembers := isConditionOf_members false aliasName op hoperand
      exact ⟨hmembers.parens, hmembers⟩

mutual

/-- An unmarked condition is an operand beside others, and where it stands
alone a condition. -/
theorem isOperandOf : (p : Predicate) → p.isPlain = true → (excluded : List String) →
    IsOperandOf excluded (p.sql excluded false) p ∧ IsConditionOf excluded (p.sql excluded true) p
  | .custom aliasName format operands negated, _, _ =>
      have hleaf := isOperandOf_custom aliasName format operands negated
      ⟨hleaf, hleaf.isConditionOf⟩
  | .boolean f, _, _ =>
      have hleaf := isOperandOf_boolean f
      ⟨hleaf, hleaf.isConditionOf⟩
  | .group toplevel aliasName op members negated, h, excluded => by
      rw [isPlain, Bool.and_eq_true, Bool.and_eq_true, Bool.not_eq_true', Bool.not_eq_true',
        List.isEmpty_eq_false_iff] at h
      obtain ⟨⟨rfl, hne⟩, hmembers⟩ := h
      have hparts := isOperandOf_members members hmembers excluded
      have hgroup := isOperandOf_group hne (fun q hq => (hparts q hq).1)
        (fun q hq => (hparts q hq).2) aliasName op
      cases negated with
      | false => exact hgroup
      | true =>
          -- A negation is written before the group in parentheses, alone or not.
          rw [sql_group_negated hne, sql_group_negated hne]
          exact ⟨hgroup.1.negate, hgroup.1.negate.isConditionOf⟩
termination_by structural p => p

theorem isOperandOf_members : (ps : List Predicate) → arePlain ps = true →
    (excluded : List String) → ∀ p ∈ ps,
      IsOperandOf excluded (p.sql excluded false) p ∧
        IsConditionOf excluded (p.sql excluded true) p
  | [], _, _ => nofun
  | p :: rest, h, excluded => by
      rw [arePlain, Bool.and_eq_true] at h
      exact List.forall_mem_cons.mpr
        ⟨p.isOperandOf h.1 excluded, isOperandOf_members rest h.2 excluded⟩
termination_by structural ps => ps

end

/-- A condition is read as it was built, whether its outermost group is
marked or not. -/
theorem isConditionOf {p : Predicate} (h : (p.withToplevel false).isPlain = true)
    (excluded : List String) : IsConditionOf excluded (p.sql excluded false) p := by
  have hmeans : ∀ {φ : Formula Predicate}, φ.Means (p.withToplevel false) → φ.Means p := by
    intro φ hφ
    cases p <;> exact ⟨hφ.holds, hφ.atoms⟩
  have hroot := (p.withToplevel false).isOperandOf h excluded
  obtain ⟨ts, φ, hf, hread, hφ⟩ : IsConditionOf excluded (p.sql excluded false)
      (p.withToplevel false) := by
    cases p with
    | custom _ _ _ _ => exact hroot.1.isConditionOf
    | boolean _ => exact hroot.1.isConditionOf
    | group toplevel aliasName op members negated =>
        cases toplevel with
        | false => exact hroot.1.isConditionOf
        | true =>
            rw [sql_only] at hroot
            rw [← sql_only _ false, ← sql_toplevel] at hroot
            exact hroot.2
  exact ⟨ts, φ, hf, hread, hmeans hφ⟩

end Predicate

end SqlCompose
