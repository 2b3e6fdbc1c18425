import SqlCompose.Proofs.Fragment
import SqlCompose.Statement.Render

/-!
# Equations of rendering

Rendering goes through the members of a list itself, so that the recursion
over the grammar is structural. Lists of rendered parts are the parts of
the list, one by one, and a group or a clause is written from the parts of
its members.
-/

namespace SqlCompose

open Fragment

/-! ## Lists -/

theorem fieldsSql_eq_map (excluded : List String) :
    ∀ fs : List Field, fieldsSql excluded fs = fs.map (·.sql excluded)
  | [] => rfl
  | f :: fs => congrArg (f.sql excluded :: ·) (fieldsSql_eq_map excluded fs)

theorem predicatesSql_eq_map (excluded : List String) :
    ∀ ps : List Predicate, predicatesSql excluded ps = ps.map (·.sql excluded false)
  | [] => rfl
  | p :: ps => congrArg (p.sql excluded false :: ·) (predicatesSql_eq_map excluded ps)

theorem operandsSql_eq_map : ∀ os : List Operand, operandsSql os = os.map (·.sql [])
  | [] => rfl
  | o :: os => congrArg (o.sql [] :: ·) (operandsSql_eq_map os)

/-- Definitions of a clause are among those given. -/
theorem WithItem.mem_of_mem_firsts {item : WithItem} :
    ∀ {seen : List String} {items : List WithItem}, item ∈ firsts seen items → item ∈ items
  | _, [], h => h
  | seen, first :: rest, h => by
      rw [firsts] at h
      split at h
      · exact List.mem_cons_of_mem _ (mem_of_mem_firsts h)
      · rcases List.mem_cons.mp h with rfl | h
        · exact List.mem_cons_self
        · exact List.mem_cons_of_mem _ (mem_of_mem_firsts h)

/-! ## Conditions -/

theorem notSql_false (f : Fragment) : notSql false ++ f = f := rfl

namespace Predicate

variable {excluded : List String} {toplevel : Bool} {aliasName : String} {op : LogicalOp}
  {negated only : Bool}

/-- A group of one member is written as the member, negated perhaps. -/
theorem sql_group_single (p : Predicate) :
    (group toplevel aliasName op [p] negated).sql excluded only =
      notSql negated ++
        parensIf (p.isGroup && (negated || !(toplevel || only))) (p.sql excluded true) := rfl

theorem sql_group_many (p q : Predicate) (rest : List Predicate) :
    (group toplevel aliasName op (p :: q :: rest) negated).sql excluded only =
      notSql negated ++
        parensIf (negated || !(toplevel || only))
          (sepBy op.separator (predicatesSql excluded (p :: q :: rest))) := rfl

/-- A negated group is written in parentheses, wherever it stands. -/
theorem sql_group_negated {members : List Predicate} (h : members ≠ []) :
    (group toplevel aliasName op members true).sql excluded only =
      notSql true ++ (group false aliasName op members false).sql excluded false := by
  match members with
  | [] => exact absurd rfl h
  | [p] => rfl
  | p :: q :: rest => rfl

/-- Only a group asks whether it stands alone. -/
theorem sql_of_not_group {p : Predicate} (h : p.isGroup = false) (excluded : List String)
    (only : Bool) : p.sql excluded only = p.sql excluded false := by
  cases p with
  | custom _ _ _ _ => rfl
  | group _ _ _ _ _ => cases h
  | boolean _ => rfl

/-- A mark says of a group what its place says of an only member. -/
theorem sql_toplevel (p : Predicate) (excluded : List String) :
    (p.withToplevel true).sql excluded false = p.sql excluded true := by
  cases p with
  | custom _ _ _ _ => rfl
  | boolean _ => rfl
  | group toplevel aliasName op members negated =>
      match members with
      | [] => rfl
      | [p] => simp only [withToplevel, sql_group_single, Bool.or_true, Bool.true_or]
      | p :: q :: rest => simp only [withToplevel, sql_group_many, Bool.or_true, Bool.true_or]

/-- Of an only member the mark is not asked for. -/
theorem sql_only (p : Predicate) (toplevel : Bool) (excluded : List String) :
    (p.withToplevel toplevel).sql excluded true = p.sql excluded true := by
  cases p with
  | custom _ _ _ _ => rfl
  | boolean _ => rfl
  | group toplevel' aliasName op members negated =>
      match members with
      | [] => rfl
      | [p] => simp only [withToplevel, sql_group_single, Bool.or_true]
      | p :: q :: rest => simp only [withToplevel, sql_group_many, Bool.or_true]

end Predicate

/-- The conditions of a clause are written as their conjunction, marked as
top level. -/
theorem conditionsSql_eq (keyword : String) (excluded : List String) {ps : List Predicate}
    (h : ps ≠ []) :
    conditionsSql keyword excluded ps =
      text keyword ++ (Predicate.group true "" .and ps false).sql excluded false := by
  match ps with
  | [] => exact absurd rfl h
  | [p] => rw [Predicate.sql_group_single, notSql_false, Bool.false_or, Bool.true_or,
      Bool.not_true, Bool.and_false, parensIf_false, conditionsSql]
  | p :: q :: rest => rfl

end SqlCompose
