import SqlCompose.Proofs.Conditions

/-!
# Condition clauses

Where the conditions of a statement are written: behind the `ON` of each
join, a `WHERE` and a `HAVING`. Each of these clauses is a part of the text
of its statement (`Query.within_sql`), and the text behind its keyword is
the conjunction of the conditions that were added to it
(`ConditionClause.denotes`).
-/

namespace SqlCompose

open Fragment

/-! ## Parts of a fragment -/

/-- A fragment is written as a part of another one. -/
def Fragment.Within (part whole : Fragment) : Prop :=
  ∃ before after, whole = before ++ part ++ after

namespace Fragment

variable {part a b : Fragment}

theorem Within.refl (a : Fragment) : a.Within a := ⟨empty, empty, (append_empty a).symm⟩

theorem Within.append_left (h : part.Within a) (b : Fragment) : part.Within (a ++ b) := by
  obtain ⟨before, after, rfl⟩ := h
  exact ⟨before, after ++ b, append_assoc _ _ _⟩

theorem Within.append_right (a : Fragment) (h : part.Within b) : part.Within (a ++ b) := by
  obtain ⟨before, after, rfl⟩ := h
  exact ⟨a ++ before, after, by simp only [append_assoc]⟩

end Fragment

/-! ## The clauses of a statement -/

/-- The conditions behind one keyword. -/
structure ConditionClause where
  keyword : String
  excluded : List String
  conditions : List Predicate

namespace ConditionClause

def sql (c : ConditionClause) : Fragment := conditionsSql c.keyword c.excluded c.conditions

/-- Conditions without a marked group. The only condition of a clause may
be marked itself, as it has no neighbour. -/
def isPlain (c : ConditionClause) : Bool :=
  match c.conditions with
  | [p] => (p.withToplevel false).isPlain
  | ps => arePlain ps

end ConditionClause

def Join.clause (j : Join) : ConditionClause := ⟨" ON ", [], j.on⟩

def Select.clauses (s : Select) : List ConditionClause :=
  s.joins.map Join.clause ++ [⟨" WHERE ", [], s.conditions⟩, ⟨" HAVING ", [], s.having⟩]

/-- The conditions on an index and on a row that is already there, as far
as they are written. -/
def Conflict.clauses (excluded : List String) (c : Conflict) : List ConditionClause :=
  (if c.constraint.isNone && !c.target.isEmpty then
      [⟨" WHERE ", excluded, c.targetConditions⟩] else []) ++
    (if c.assignments.isEmpty then [] else [⟨" WHERE ", [], c.resolutionConditions⟩])

def Insert.clauses (i : Insert) : List ConditionClause :=
  i.conflict.toList.flatMap (Conflict.clauses (i.target.map Relation.qualifier).toList)

def Update.clauses (u : Update) : List ConditionClause :=
  u.joins.map Join.clause ++ [⟨" WHERE ", [], u.conditions⟩]

def Delete.clauses (d : Delete) : List ConditionClause :=
  d.joins.map Join.clause ++ [⟨" WHERE ", [], d.conditions⟩]

/-- The condition clauses that a statement has itself. -/
def Query.clauses : Query → List ConditionClause
  | select _ s => s.clauses
  | insert _ i => i.clauses
  | update _ u => u.clauses
  | delete _ d => d.clauses
  | raw .. => []
  | compound .. => []

theorem within_joinsSql {joins : List Join} {c : ConditionClause}
    (h : c ∈ joins.map Join.clause) : c.sql.Within (joinsSql joins) := by
  induction joins with
  | nil => cases h
  | cons j joins ih =>
      rw [joinsSql]
      rcases List.mem_cons.mp h with rfl | h
      · obtain ⟨kind, table, on⟩ := j
        exact (((Within.refl _).append_right _).append_right _).append_left _
      · exact (ih h).append_right _

/-- The clauses of a selection are followed by others. -/
theorem Select.within_sql {s : Select} {c : ConditionClause} (h : c ∈ s.clauses) :
    c.sql.Within s.sql := by
  obtain ⟨ctes, distinct, distinctOn, fields, source, joins, conditions, groupBy, having, windows,
    orderBy, limit, withTies, offset⟩ := s
  rw [Select.sql]
  rcases List.mem_append.mp h with h | h
  · iterate 8 refine Within.append_left ?_ _
    exact (within_joinsSql h).append_right _
  · rcases List.mem_cons.mp h with rfl | h
    · iterate 7 refine Within.append_left ?_ _
      exact (Within.refl _).append_right _
    · rw [List.mem_singleton.mp h]
      iterate 5 refine Within.append_left ?_ _
      exact (Within.refl _).append_right _

theorem Conflict.within_sql {c : Conflict} {excluded : List String} {k : ConditionClause}
    (h : k ∈ c.clauses excluded) : k.sql.Within (c.sql excluded) := by
  obtain ⟨target, constraint, targetConditions, assignments, resolutionConditions⟩ := c
  unfold Conflict.sql
  rcases List.mem_append.mp h with h | h
  · refine Within.append_left (Within.append_right _ ?_) _
    cases constraint with
    | some name => cases h
    | none =>
        cases target with
        | nil => cases h
        | cons f target =>
            rw [List.mem_singleton.mp h]
            exact (Within.refl _).append_right _
  · refine Within.append_right _ ?_
    cases assignments with
    | nil => cases h
    | cons a assignments =>
        rw [List.mem_singleton.mp h]
        exact (Within.refl _).append_right _

/-! A statement that lacks a part it needs is not written at all. -/

theorem InsertParts.within_sql {p : InsertParts} {part : Fragment} (h : part.Within p.conflict) :
    part.Within p.sql ∨ p.sql.stop ≠ none := by
  rw [InsertParts.sql]
  split
  · exact .inr nofun
  · split
    · exact .inr nofun
    · split
      · exact .inr nofun
      · exact .inl (h.append_right _)

theorem UpdateParts.within_sql {p : UpdateParts} {part : Fragment} (h : part.Within p.rest) :
    part.Within p.sql ∨ p.sql.stop ≠ none := by
  rw [UpdateParts.sql]
  split
  · exact .inr nofun
  · split
    · exact .inr nofun
    · split
      · exact .inr nofun
      · exact .inl (h.append_right _)

theorem within_deleteSql {withClause rest part : Fragment} (h : part.Within rest)
    (target : Option Relation) (hasSource hasJoins : Bool) :
    part.Within (deleteSql withClause target hasSource hasJoins rest) ∨
      (deleteSql withClause target hasSource hasJoins rest).stop ≠ none := by
  cases target with
  | none => exact .inr nofun
  | some target =>
      rw [deleteSql]
      split
      · exact .inr nofun
      · exact .inl (h.append_right _)

/-- Each condition clause of a statement is a part of its text. -/
theorem Query.within_sql {q : Query} {toplevel? : Option Bool} {c : ConditionClause}
    (h : c ∈ q.clauses) (hstop : (q.sql toplevel?).stop = none) :
    c.sql.Within (q.sql toplevel?) := by
  cases q with
  | select d s => exact Select.within_sql h
  | insert d i =>
      obtain ⟨ctes, target, columns, rows, mapper, select, conflict⟩ := i
      cases conflict with
      | none => cases h
      | some k =>
          rw [clauses, Insert.clauses, Option.toList_some, List.flatMap_singleton] at h
          exact (InsertParts.within_sql (Conflict.within_sql h)).resolve_right (not_not_intro hstop)
  | update d u =>
      obtain ⟨ctes, target, assignments, mapper, source, joins, conditions, orderBy, limit,
        offset⟩ := u
      refine (UpdateParts.within_sql ?_).resolve_right (not_not_intro hstop)
      iterate 3 refine Within.append_left ?_ _
      rcases List.mem_append.mp h with h | h
      · exact Within.append_left ((within_joinsSql h).append_right _) _
      · rw [List.mem_singleton.mp h]
        exact (Within.refl _).append_right _
  | delete d d' =>
      obtain ⟨ctes, target, source, joins, conditions, orderBy, limit, offset⟩ := d'
      refine (within_deleteSql ?_ _ _ _).resolve_right (not_not_intro hstop)
      iterate 3 refine Within.append_left ?_ _
      rcases List.mem_append.mp h with h | h
      · exact Within.append_left ((within_joinsSql h).append_right _) _
      · rw [List.mem_singleton.mp h]
        exact (Within.refl _).append_right _
  | raw d format operands => cases h
  | compound toplevel op members => cases h

/-! ## What a clause says -/

/-- The fragment is written word by word, and what is read from the words
has the truth `holds` and the given leaves; its arguments are those of the
leaves, in order. -/
def Fragment.Denotes (excluded : List String) (f : Fragment)
    (holds : (Predicate → Bool) → Bool) (leaves : List Predicate) : Prop :=
  ∃ ts φ, f = Token.spell excluded ts ∧ Token.read ts = some φ ∧ (∀ ρ, φ.holds ρ = holds ρ) ∧
    φ.atoms = leaves ∧
    (f.stop = none → f.args = leaves.flatMap fun leaf => (leaf.sql excluded false).args)

theorem Predicate.IsConditionOf.denotes {excluded : List String} {f : Fragment} {p : Predicate}
    (h : IsConditionOf excluded f p) : f.Denotes excluded p.holds p.leaves := by
  obtain ⟨ts, φ, rfl, hcondition, hmeans⟩ := h
  have hread := hcondition.read
  refine ⟨ts, φ, rfl, hread, hmeans.holds, hmeans.atoms, fun hstop => ?_⟩
  rw [Token.args_spell hstop, ← Token.atoms_read hread, hmeans.atoms]

namespace ConditionClause

/-- A clause without conditions is not written. -/
theorem sql_of_nil {c : ConditionClause} (h : c.conditions = []) : c.sql = empty := by
  rw [sql, h, conditionsSql]

/-- The text behind the keyword of a clause is the conjunction of its
conditions. -/
theorem denotes {c : ConditionClause} (hne : c.conditions ≠ []) (h : c.isPlain = true) :
    ∃ f, c.sql = text c.keyword ++ f ∧
      f.Denotes c.excluded (fun ρ => c.conditions.all (·.holds ρ))
        (c.conditions.flatMap (·.leaves)) := by
  obtain ⟨keyword, excluded, conditions⟩ := c
  match conditions with
  | [] => exact absurd rfl hne
  | [p] =>
      -- The only condition is written as if it were marked.
      refine ⟨p.sql excluded true, rfl, ?_⟩
      have hp : Predicate.IsConditionOf excluded (p.sql excluded true) p := by
        rw [← Predicate.sql_toplevel]
        have hplain : ((p.withToplevel true).withToplevel false).isPlain = true := by
          cases p <;> exact h
        obtain ⟨ts, φ, hf, hread, hmeans⟩ := Predicate.isConditionOf hplain excluded
        refine ⟨ts, φ, hf, hread, ?_⟩
        cases p <;> exact ⟨hmeans.holds, hmeans.atoms⟩
      have hall : (fun ρ => [p].all (·.holds ρ)) = p.holds := by
        funext ρ
        exact Bool.and_true _
      rw [hall, List.flatMap_singleton]
      exact hp.denotes
  | p :: q :: rest =>
      refine ⟨_, conditionsSql_eq keyword excluded hne, ?_⟩
      have hplain : ((Predicate.group true "" .and (p :: q :: rest) false).withToplevel
          false).isPlain = true := h
      have hgroup := (Predicate.isConditionOf hplain excluded).denotes
      have hall : (Predicate.group true "" .and (p :: q :: rest) false).holds =
          fun ρ => (p :: q :: rest).all (·.holds ρ) := by
        funext ρ
        rw [Predicate.holds, membersHold_eq_map, Bool.false_xor, LogicalOp.fold, List.all_map]
        rfl
      rwa [hall, Predicate.leaves, leavesOf_eq_flatMap] at hgroup

end ConditionClause

/-- A condition is read as it was built: a tree of unmarked groups, at its
root marked or not, says the same of its leaves as the text. So each
`WHERE`, `HAVING` and `ON` of a statement says that all its conditions
hold. Negating a condition negates what it says, and negating it twice
changes nothing. -/
theorem Predicate.sql_denotes :
    (∀ (p : Predicate) (excluded : List String), (p.withToplevel false).isPlain = true →
      (p.sql excluded false).Denotes excluded p.holds p.leaves) ∧
    (∀ (q : Query) (toplevel? : Option Bool), (q.sql toplevel?).stop = none →
      ∀ c ∈ q.clauses, c.sql.Within (q.sql toplevel?) ∧
        (c.conditions = [] → c.sql = Fragment.empty) ∧
        (c.conditions ≠ [] → c.isPlain = true →
          ∃ f, c.sql = text c.keyword ++ f ∧
            f.Denotes c.excluded (fun ρ => c.conditions.all (·.holds ρ))
              (c.conditions.flatMap (·.leaves)))) ∧
    (∀ (p : Predicate) (n : Nat) (excluded : List String) (only : Bool),
      (p.negateTimes n).sql excluded only =
        if n % 2 = 0 then p.sql excluded only else p.negate.sql excluded only) ∧
    ∀ (p : Predicate) (ρ : Predicate → Bool), p.negate.holds ρ = !p.holds ρ := by
  refine ⟨fun p excluded h => (isConditionOf h excluded).denotes, fun q toplevel? hstop c hc => ?_,
    fun p n excluded only => ?_, fun p ρ => holds_negate ρ p⟩
  · exact ⟨Query.within_sql hc hstop, ConditionClause.sql_of_nil, ConditionClause.denotes⟩
  · rw [negateTimes_eq]
    split <;> rfl

/-- A disjunction with a negated conjunction, alone and beside another
condition. -/
theorem Predicate.sql_denotes_any :
    let a : Predicate := .eq (.field (.column "" "a")) (.scalar (.int 1))
    let b : Predicate := .isNull (.field (.column "" "b"))
    let c : Predicate := .isNull (.field (.column "" "c"))
    let p : Predicate := .any [a, (Predicate.all [b, c]).negate]
    let clause : ConditionClause := ⟨" WHERE ", [], [p, c]⟩
    let q : Query := .select .sqlite { Select.empty with conditions := [p, c] }
    (p.sql [] false).sql = "(a = ? OR NOT (b IS NULL AND c IS NULL))" ∧
      (p.sql [] false).Denotes [] p.holds p.leaves ∧
      clause.sql.Within (q.sql none) ∧
      ∃ f : Fragment, clause.sql = text " WHERE " ++ f ∧
        f.Denotes [] (fun ρ => [p, c].all (·.holds ρ)) ([p, c].flatMap (·.leaves)) := by
  intro a b c p clause q
  have hp : (p.withToplevel false).isPlain = true := by decide
  have hplain : clause.isPlain = true := by decide
  have hclause : clause ∈ q.clauses := List.mem_cons_self
  have hstop : (q.sql none).stop = none := rfl
  obtain ⟨hden, hclauses, -⟩ := sql_denotes
  obtain ⟨hwithin, -, hcond⟩ := hclauses q none hstop clause hclause
  have hsql : (p.sql [] false).sql = "(a = ? OR NOT (b IS NULL AND c IS NULL))" := rfl
  exact ⟨hsql, hden p [] hp, hwithin, hcond (List.cons_ne_nil _ _) hplain⟩

end SqlCompose
