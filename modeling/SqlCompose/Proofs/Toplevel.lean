import SqlCompose.Proofs.Render

/-!
# Marks below the root

A group or a set operation marked as top level has no parentheses of its
own. The mark is kept in the group and asked for where the group is
written, whatever stands around it: only a group of one member overrules
the mark of its member. So a mark below the root is not without effect,
and this module says exactly when it has one.

The part of a tree that is reached by going down a path is written in a
frame that does not depend on it (`Predicate.framed_modifyAt`,
`Query.framed_modifyAt`), so what a mark changes of the whole text is what
it changes of the text of the group. There it decides about one pair of
parentheses, if the group has what could stand in them (`wraps`).
-/

namespace SqlCompose

open Fragment

/-- A position splits a list around its element. -/
theorem exists_split {α : Type} {l : List α} {i : Nat} {m : α} (h : l[i]? = some m) :
    ∃ xs ys, l = xs ++ m :: ys ∧ ∀ f : α → α, l.modify i f = xs ++ f m :: ys := by
  obtain ⟨hi, rfl⟩ := List.getElem?_eq_some_iff.mp h
  refine ⟨l.take i, l.drop (i + 1), ?_, fun f => List.modify_eq_take_cons_drop hi⟩
  rw [← List.drop_eq_getElem_cons hi, List.take_append_drop]

/-- Two marks ask for the same parentheses if nothing wraps or they are the
same mark. -/
theorem same_parens_iff : ∀ wraps marked b : Bool,
    (wraps && !b) = (wraps && !marked) ↔ (wraps && (marked != b)) = false := by
  decide

/-- In a frame, what wraps is in parentheses or not by its mark. Another
mark is seen in the text alone. -/
theorem mark_in_frame {frame : Fragment → Fragment} (h : Framed frame) (wraps marked b : Bool)
    (f : Fragment) :
    (frame (parensIf (wraps && !b) f)).stop = (frame (parensIf (wraps && !marked) f)).stop ∧
      (frame (parensIf (wraps && !b) f)).args = (frame (parensIf (wraps && !marked) f)).args ∧
      ((frame (parensIf (wraps && !marked) f)).stop = none →
        ((frame (parensIf (wraps && !b) f)).sql =
          (frame (parensIf (wraps && !marked) f)).sql ↔ (wraps && (marked != b)) = false)) := by
  obtain ⟨hstop, hargs⟩ := h.congr
    ((stop_parensIf (wraps && !b) f).trans (stop_parensIf (wraps && !marked) f).symm)
    ((args_parensIf (wraps && !b) f).trans (args_parensIf (wraps && !marked) f).symm)
  refine ⟨hstop, hargs, fun hnone => ?_⟩
  have hf : f.stop = none := by
    rw [← stop_parensIf (wraps && !marked)]
    exact h.stop_eq_none hnone
  rw [h.sql_inj (hstop.trans hnone) hnone, sql_parensIf_inj hf]
  exact same_parens_iff wraps marked b

namespace Predicate

/-! ## Paths through groups -/

/-- Changes the condition at the end of a path of member positions. -/
def modifyAt (f : Predicate → Predicate) : List Nat → Predicate → Predicate
  | [], p => f p
  | i :: path, group toplevel aliasName op members negated =>
    group toplevel aliasName op (members.modify i (modifyAt f path)) negated
  | _ :: _, p => p

/-- The condition at the end of a path, and whether it is the only member of
what stands around it. -/
def memberAt : List Nat → (only : Bool) → Predicate → Option (Bool × Predicate)
  | [], only, p => some (only, p)
  | i :: path, _, group _ _ _ members _ =>
    (members[i]?).bind (memberAt path (members.length == 1))
  | _ :: _, _, _ => none

/-- Nothing is changed where a path leads nowhere. -/
theorem modifyAt_of_none {f : Predicate → Predicate} {path : List Nat} {only : Bool}
    {p : Predicate} (h : p.memberAt path only = none) : p.modifyAt f path = p := by
  induction path generalizing p only with
  | nil => cases h
  | cons i path ih =>
      cases p with
      | custom _ _ _ _ => rfl
      | boolean _ => rfl
      | group toplevel aliasName op members negated =>
          rw [memberAt] at h
          rw [modifyAt]
          cases hm : members[i]? with
          | none => rw [List.modify_eq_self (List.getElem?_eq_none_iff.mp hm)]
          | some m =>
              obtain ⟨xs, ys, rfl, hmodify⟩ := exists_split hm
              rw [hm] at h
              rw [hmodify, ih h]

theorem isGroup_modifyAt {f : Predicate → Predicate} {path : List Nat} {only only' : Bool}
    {p g : Predicate} (h : p.memberAt path only = some (only', g))
    (hf : (f g).isGroup = g.isGroup) : (p.modifyAt f path).isGroup = p.isGroup := by
  cases path with
  | nil =>
      cases h
      exact hf
  | cons i path => cases p <;> rfl

/-! ## The frame of a member -/

variable {excluded : List String}

theorem sql_group_of_two_le (toplevel : Bool) (aliasName : String) (op : LogicalOp)
    {members : List Predicate} (h : 2 ≤ members.length) (negated only : Bool) :
    (group toplevel aliasName op members negated).sql excluded only =
      notSql negated ++ parensIf (negated || !(toplevel || only))
        (sepBy op.separator (members.map (·.sql excluded false))) := by
  match members with
  | [] => cases h
  | [_] => exact absurd h (by simp)
  | p :: q :: rest => rw [sql_group_many, predicatesSql_eq_map]

/-- What stands around a member depends on the member only as far as it is
a group. -/
theorem framed_member (toplevel : Bool) (aliasName : String) (op : LogicalOp)
    (xs ys : List Predicate) (negated only : Bool) (m : Predicate) :
    ∃ frame, Framed frame ∧ ∀ m' : Predicate, m'.isGroup = m.isGroup →
      (group toplevel aliasName op (xs ++ m' :: ys) negated).sql excluded only =
        frame (m'.sql excluded ((xs ++ m :: ys).length == 1)) := by
  by_cases hmany : 2 ≤ (xs ++ m :: ys).length
  · -- Beside others a member is written as it is, in the parentheses of the group.
    refine ⟨_, ((framed_sepBy op.separator (xs.map (·.sql excluded false))
      (ys.map (·.sql excluded false))).parensIf (negated || !(toplevel || only))).append_left
        (notSql negated), fun m' _ => ?_⟩
    have hone : ((xs ++ m :: ys).length == 1) = false := by
      rw [beq_eq_false_iff_ne]
      omega
    rw [sql_group_of_two_le _ _ _ (by simpa using hmany), hone, List.map_append, List.map_cons]
  · -- Around an only member there are parentheses only if it is a group itself.
    have hlen : xs.length = 0 ∧ ys.length = 0 := by
      rw [List.length_append, List.length_cons] at hmany
      omega
    obtain rfl := List.length_eq_zero_iff.mp hlen.1
    obtain rfl := List.length_eq_zero_iff.mp hlen.2
    refine ⟨_, (framed_id.parensIf (m.isGroup && (negated || !(toplevel || only)))).append_left
      (notSql negated), fun m' hm' => ?_⟩
    rw [← hm']
    exact sql_group_single m'

/-- What stands around the end of a path does not depend on what stands
there. -/
theorem framed_modifyAt (excluded : List String) {path : List Nat} {only only' : Bool}
    {p g : Predicate} (h : p.memberAt path only = some (only', g)) :
    ∃ frame, Framed frame ∧ ∀ f : Predicate → Predicate, (f g).isGroup = g.isGroup →
      (p.modifyAt f path).sql excluded only = frame ((f g).sql excluded only') := by
  induction path generalizing p only with
  | nil =>
      cases h
      exact ⟨_, framed_id, fun f _ => rfl⟩
  | cons i path ih =>
      cases p with
      | custom _ _ _ _ => cases h
      | boolean _ => cases h
      | group toplevel aliasName op members negated =>
          rw [memberAt, Option.bind_eq_some_iff] at h
          obtain ⟨m, hm, hpath⟩ := h
          obtain ⟨xs, ys, rfl, hmodify⟩ := exists_split hm
          obtain ⟨inner, hinner, hbelow⟩ := ih hpath
          obtain ⟨frame, hframe, hmember⟩ :=
            framed_member toplevel aliasName op xs ys negated only m
          refine ⟨_, hframe.comp hinner, fun f hf => ?_⟩
          rw [modifyAt, hmodify, hmember _ (isGroup_modifyAt hpath hf), hbelow f hf]

/-! ## The mark of a group -/

/-- The mark of a group. -/
def isToplevel : Predicate → Bool
  | group toplevel _ _ _ _ => toplevel
  | _ => false

/-- The group would be in parentheses if it stood unmarked beside others: it
is not negated, and has several members or another group as its only
one. -/
def wraps : Predicate → Bool
  | group _ _ _ [] _ => false
  | group _ _ _ [p] negated => !negated && p.isGroup
  | group _ _ _ (_ :: _ :: _) negated => !negated
  | _ => false

theorem isGroup_withToplevel (b : Bool) (p : Predicate) :
    (p.withToplevel b).isGroup = p.isGroup := by
  cases p <;> rfl

/-- Beside others, the mark decides about the parentheses of what wraps. -/
theorem sql_withToplevel (b : Bool) (p : Predicate) :
    (p.withToplevel b).sql excluded false = parensIf (p.wraps && !b) (p.sql excluded true) := by
  cases p with
  | custom _ _ _ _ => rfl
  | boolean _ => rfl
  | group toplevel aliasName op members negated =>
      match members with
      | [] => rfl
      | [m] =>
          rw [withToplevel, sql_group_single, sql_group_single, wraps]
          cases negated with
          | true => simp [parensIf_false]
          | false => simp [parensIf_false, notSql_false]
      | m :: m' :: rest =>
          rw [withToplevel, sql_group_many, sql_group_many, wraps]
          cases negated with
          | true => simp [parensIf_false]
          | false => simp [parensIf_false, notSql_false]

theorem withToplevel_isToplevel (p : Predicate) : p.withToplevel p.isToplevel = p := by
  cases p <;> rfl

theorem modifyAt_id (path : List Nat) (p : Predicate) : p.modifyAt id path = p := by
  induction path generalizing p with
  | nil => rfl
  | cons i path ih =>
      cases p with
      | custom _ _ _ _ => rfl
      | boolean _ => rfl
      | group toplevel aliasName op members negated =>
          have hid : modifyAt id path = id := funext ih
          rw [modifyAt, hid, List.modify_id]

/-- Whether marking the group at the end of a path, or unmarking it, is seen
in the text: it stands beside others, would be in parentheses there, and
was not marked so before. -/
def markMatters (b : Bool) (path : List Nat) (p : Predicate) : Bool :=
  match p.memberAt path false with
  | some (false, g) => g.wraps && (g.isToplevel != b)
  | _ => false

/-- A mark changes neither the arguments nor whether writing stops, and the
text exactly if `markMatters`. -/
theorem sql_mark (excluded : List String) (p : Predicate) (path : List Nat) (b : Bool) :
    ((p.modifyAt (withToplevel b) path).sql excluded false).stop = (p.sql excluded false).stop ∧
      ((p.modifyAt (withToplevel b) path).sql excluded false).args =
        (p.sql excluded false).args ∧
      ((p.sql excluded false).stop = none →
        (((p.modifyAt (withToplevel b) path).sql excluded false).sql =
          (p.sql excluded false).sql ↔ p.markMatters b path = false)) := by
  cases hpath : p.memberAt path false with
  | none =>
      rw [modifyAt_of_none hpath, markMatters, hpath]
      exact ⟨rfl, rfl, fun _ => ⟨fun _ => rfl, fun _ => rfl⟩⟩
  | some found =>
      obtain ⟨only, g⟩ := found
      obtain ⟨frame, hframe, hsql⟩ := framed_modifyAt excluded hpath
      have hmarked := hsql (withToplevel b) (isGroup_withToplevel b g)
      have hself := hsql id rfl
      rw [modifyAt_id, id] at hself
      rw [hmarked, hself]
      cases only with
      | true =>
          -- The mark of an only member is overruled.
          rw [sql_only, markMatters, hpath]
          exact ⟨rfl, rfl, fun _ => ⟨fun _ => rfl, fun _ => rfl⟩⟩
      | false =>
          have hg : g.sql excluded false =
              parensIf (g.wraps && !g.isToplevel) (g.sql excluded true) := by
            rw [← sql_withToplevel, withToplevel_isToplevel]
          have hmatters : p.markMatters b path = (g.wraps && (g.isToplevel != b)) := by
            rw [markMatters, hpath]
          rw [sql_withToplevel, hg, hmatters]
          exact mark_in_frame hframe g.wraps g.isToplevel b _

end Predicate

namespace Query

/-! ## Set operations -/

/-- Changes the query at the end of a path of member positions. -/
def modifyAt (f : Query → Query) : List Nat → Query → Query
  | [], q => f q
  | i :: path, compound toplevel op members =>
    compound toplevel op (members.modify i (modifyAt f path))
  | _ :: _, q => q

/-- The query at the end of a path, and the mark that overrules its own
there. -/
def memberAt : List Nat → (toplevel? : Option Bool) → Query → Option (Option Bool × Query)
  | [], toplevel?, q => some (toplevel?, q)
  | i :: path, toplevel?, compound toplevel _ members =>
    (members[i]?).bind
      (memberAt path (if members.length = 1 then some (toplevel?.getD toplevel) else none))
  | _ :: _, _, _ => none

theorem modifyAt_of_none {f : Query → Query} {path : List Nat} {toplevel? : Option Bool}
    {q : Query} (h : q.memberAt path toplevel? = none) : q.modifyAt f path = q := by
  induction path generalizing q toplevel? with
  | nil => cases h
  | cons i path ih =>
      cases q with
      | compound toplevel op members =>
          rw [memberAt] at h
          rw [modifyAt]
          cases hm : members[i]? with
          | none => rw [List.modify_eq_self (List.getElem?_eq_none_iff.mp hm)]
          | some m =>
              obtain ⟨xs, ys, rfl, hmodify⟩ := exists_split hm
              rw [hm] at h
              rw [hmodify, ih h]
      | _ => rfl

theorem modifyAt_id (path : List Nat) (q : Query) : q.modifyAt id path = q := by
  induction path generalizing q with
  | nil => rfl
  | cons i path ih =>
      cases q with
      | compound toplevel op members =>
          have hid : modifyAt id path = id := funext ih
          rw [modifyAt, hid, List.modify_id]
      | _ => rfl

theorem sql_compound_single (toplevel : Bool) (op : SetOperator) (q : Query)
    (toplevel? : Option Bool) :
    (compound toplevel op [q]).sql toplevel? = q.sql (some (toplevel?.getD toplevel)) := rfl

theorem sql_compound_many (toplevel : Bool) (op : SetOperator) (p q : Query)
    (rest : List Query) (toplevel? : Option Bool) :
    (compound toplevel op (p :: q :: rest)).sql toplevel? =
      parensIf (!toplevel?.getD toplevel) (p.sql none ++ membersSql op (q :: rest)) := by
  rw [Query.sql, append_assoc]
  rfl

theorem framed_membersSql (op : SetOperator) (xs ys : List Query) :
    ∃ frame, Framed frame ∧
      ∀ m : Query, membersSql op (xs ++ m :: ys) = frame (m.sql none) := by
  induction xs with
  | nil =>
      refine ⟨_, (framed_id.append_left (text " " ++ text op.keyword ++ text " ")).append_right
        (membersSql op ys), fun m => rfl⟩
  | cons x xs ih =>
      obtain ⟨frame, hframe, hmembers⟩ := ih
      refine ⟨_, hframe.append_left (op.memberSql (x.sql none)), fun m => ?_⟩
      rw [List.cons_append, membersSql, hmembers]

/-- What stands around a member does not depend on the member. -/
theorem framed_member (toplevel : Bool) (op : SetOperator) (xs ys : List Query)
    (toplevel? : Option Bool) (m : Query) :
    ∃ frame, Framed frame ∧ ∀ m' : Query,
      (compound toplevel op (xs ++ m' :: ys)).sql toplevel? =
        frame (m'.sql (if (xs ++ m :: ys).length = 1 then some (toplevel?.getD toplevel)
          else none)) := by
  match xs, ys with
  | [], [] => exact ⟨_, framed_id, fun m' => sql_compound_single toplevel op m' toplevel?⟩
  | [], y :: ys =>
      rw [if_neg (by simp)]
      exact ⟨_, (framed_id.append_right (membersSql op (y :: ys))).parensIf
        (!toplevel?.getD toplevel), fun m' => sql_compound_many toplevel op m' y ys toplevel?⟩
  | x :: xs, ys =>
      obtain ⟨frame, hframe, hmembers⟩ := framed_membersSql op xs ys
      rw [if_neg (by simp)]
      refine ⟨_, (hframe.append_left (x.sql none)).parensIf (!toplevel?.getD toplevel),
        fun m' => ?_⟩
      rw [← hmembers]
      cases xs with
      | nil => exact sql_compound_many toplevel op x m' ys toplevel?
      | cons x' xs => exact sql_compound_many toplevel op x x' (xs ++ m' :: ys) toplevel?

theorem framed_modifyAt {path : List Nat} {toplevel? mark? : Option Bool} {q g : Query}
    (h : q.memberAt path toplevel? = some (mark?, g)) :
    ∃ frame, Framed frame ∧ ∀ f : Query → Query,
      (q.modifyAt f path).sql toplevel? = frame ((f g).sql mark?) := by
  induction path generalizing q toplevel? with
  | nil =>
      cases h
      exact ⟨_, framed_id, fun f => rfl⟩
  | cons i path ih =>
      cases q with
      | compound toplevel op members =>
          rw [memberAt, Option.bind_eq_some_iff] at h
          obtain ⟨m, hm, hpath⟩ := h
          obtain ⟨xs, ys, rfl, hmodify⟩ := exists_split hm
          obtain ⟨inner, hinner, hbelow⟩ := ih hpath
          obtain ⟨frame, hframe, hmember⟩ := framed_member toplevel op xs ys toplevel? m
          refine ⟨_, hframe.comp hinner, fun f => ?_⟩
          rw [modifyAt, hmodify, hmember, hbelow f]
      | _ => cases h

/-- The mark of a set operation. -/
def isToplevel : Query → Bool
  | compound toplevel _ _ => toplevel
  | _ => false

/-- A set operation of several members, itself or as the only member of
another one. -/
def wraps : Query → Bool
  | compound _ _ [] => false
  | compound _ _ [q] => q.wraps
  | compound _ _ (_ :: _ :: _) => true
  | _ => false
termination_by structural q => q

/-- The mark that a query is given decides about its parentheses. -/
theorem sql_some (b : Bool) : (q : Query) →
    q.sql (some b) = parensIf (q.wraps && !b) (q.sql (some true))
  | select _ _ => rfl
  | insert _ _ => rfl
  | update _ _ => rfl
  | delete _ _ => rfl
  | raw _ _ _ => rfl
  | compound _ _ [] => rfl
  | compound toplevel op [q] => sql_some b q
  | compound toplevel op (p :: q :: rest) => by
      rw [sql_compound_many, sql_compound_many, wraps]
      rfl
termination_by structural q => q

/-- Without one, its own mark does. -/
theorem sql_none (q : Query) : q.sql none = parensIf (q.wraps && !q.isToplevel) q.statementSql := by
  cases q with
  | compound toplevel op members =>
      have hown : (compound toplevel op members).sql none =
          (compound toplevel op members).sql (some toplevel) := by
        match members with
        | [] => rfl
        | [q] => rfl
        | p :: q :: rest => rfl
      rw [hown]
      exact sql_some toplevel _
  | _ => rfl

theorem sql_withToplevel (b : Bool) (q : Query) :
    (q.withToplevel b).sql none = parensIf (q.wraps && !b) q.statementSql := by
  cases q with
  | compound toplevel op members =>
      have hown : (compound b op members).sql none =
          (compound toplevel op members).sql (some b) := by
        match members with
        | [] => rfl
        | [q] => rfl
        | p :: q :: rest => rfl
      exact hown.trans (sql_some b _)
  | _ => rfl

/-- Where its mark is overruled a query may be marked. -/
theorem sql_some_withToplevel (b mark : Bool) (q : Query) :
    (q.withToplevel b).sql (some mark) = q.sql (some mark) := by
  cases q with
  | compound toplevel op members =>
      match members with
      | [] => rfl
      | [q] => rfl
      | p :: q :: rest => rfl
  | _ => rfl

/-- Whether marking the set operation at the end of a path, or unmarking it,
is seen in the text. -/
def markMatters (b : Bool) (path : List Nat) (toplevel? : Option Bool) (q : Query) : Bool :=
  match q.memberAt path toplevel? with
  | some (none, g) => g.wraps && (g.isToplevel != b)
  | _ => false

/-- A mark changes neither the arguments nor whether writing stops, and the
text exactly if `markMatters`. -/
theorem sql_mark (q : Query) (path : List Nat) (b : Bool) (toplevel? : Option Bool) :
    ((q.modifyAt (withToplevel b) path).sql toplevel?).stop = (q.sql toplevel?).stop ∧
      ((q.modifyAt (withToplevel b) path).sql toplevel?).args = (q.sql toplevel?).args ∧
      ((q.sql toplevel?).stop = none →
        (((q.modifyAt (withToplevel b) path).sql toplevel?).sql = (q.sql toplevel?).sql ↔
          q.markMatters b path toplevel? = false)) := by
  cases hpath : q.memberAt path toplevel? with
  | none =>
      rw [modifyAt_of_none hpath, markMatters, hpath]
      exact ⟨rfl, rfl, fun _ => ⟨fun _ => rfl, fun _ => rfl⟩⟩
  | some found =>
      obtain ⟨mark?, g⟩ := found
      obtain ⟨frame, hframe, hsql⟩ := framed_modifyAt hpath
      have hself := hsql id
      rw [modifyAt_id, id] at hself
      rw [hsql (withToplevel b), hself]
      cases mark? with
      | some mark =>
          rw [sql_some_withToplevel, markMatters, hpath]
          exact ⟨rfl, rfl, fun _ => ⟨fun _ => rfl, fun _ => rfl⟩⟩
      | none =>
          have hmatters : q.markMatters b path toplevel? = (g.wraps && (g.isToplevel != b)) := by
            rw [markMatters, hpath]
          rw [sql_withToplevel, sql_none, hmatters]
          exact mark_in_frame hframe g.wraps g.isToplevel b _

end Query

/-! ## Trees, set operations and clauses -/

/-- A mark on a group or set operation, at the root or below, changes
neither the arguments of the whole nor whether it is written to its end. It
changes the text exactly if the marked part stands beside others, would be
in parentheses there and has another mark than before; the conditions of a
clause stand beside each other in this sense. -/
theorem mark_changes_text (path : List Nat) (b : Bool) :
    (∀ (excluded : List String) (p : Predicate),
      let marked := p.modifyAt (Predicate.withToplevel b) path
      (marked.sql excluded false).stop = (p.sql excluded false).stop ∧
        (marked.sql excluded false).args = (p.sql excluded false).args ∧
        ((p.sql excluded false).stop = none →
          ((marked.sql excluded false).sql = (p.sql excluded false).sql ↔
            p.markMatters b path = false))) ∧
    (∀ (q : Query) (toplevel? : Option Bool),
      let marked := q.modifyAt (Query.withToplevel b) path
      (marked.sql toplevel?).stop = (q.sql toplevel?).stop ∧
        (marked.sql toplevel?).args = (q.sql toplevel?).args ∧
        ((q.sql toplevel?).stop = none →
          ((marked.sql toplevel?).sql = (q.sql toplevel?).sql ↔
            q.markMatters b path toplevel? = false))) ∧
    ∀ (keyword : String) (excluded : List String) (ps : List Predicate) (i : Nat),
      let marked := ps.modify i (Predicate.modifyAt (Predicate.withToplevel b) path)
      (conditionsSql keyword excluded marked).stop = (conditionsSql keyword excluded ps).stop ∧
        (conditionsSql keyword excluded marked).args =
          (conditionsSql keyword excluded ps).args ∧
        ((conditionsSql keyword excluded ps).stop = none →
          ((conditionsSql keyword excluded marked).sql =
              (conditionsSql keyword excluded ps).sql ↔
            (Predicate.group true "" .and ps false).markMatters b (i :: path) = false)) := by
  refine ⟨fun excluded p => Predicate.sql_mark excluded p path b,
    fun q toplevel? => Query.sql_mark q path b toplevel?, fun keyword excluded ps i => ?_⟩
  intro marked
  by_cases hps : ps = []
  · have hmarked : marked = ps := by
      subst hps
      exact List.modify_nil _ _
    rw [hmarked]
    subst hps
    exact ⟨rfl, rfl, fun _ => ⟨fun _ => rfl, fun _ => rfl⟩⟩
  · have hmarked : marked ≠ [] := by
      rwa [ne_eq, List.modify_eq_nil_iff]
    -- The clause is the conjunction of its conditions, so a member of the clause is one of a group.
    obtain ⟨hstop, hargs, htext⟩ :=
      Predicate.sql_mark excluded (.group true "" .and ps false) (i :: path) b
    rw [conditionsSql_eq keyword excluded hps, conditionsSql_eq keyword excluded hmarked]
    have hkeyword : Framed (text keyword ++ ·) := framed_id.append_left (text keyword)
    obtain ⟨hstop', hargs'⟩ := hkeyword.congr hstop hargs
    refine ⟨hstop', hargs', fun hnone => ?_⟩
    rw [← htext (hkeyword.stop_eq_none hnone)]
    exact hkeyword.sql_inj (hstop'.trans hnone) hnone

/-- A mark beside others is seen, one on an only member is not. -/
theorem mark_changes_text_beside :
    let a : Predicate := .isNull (.field (.column "" "a"))
    let b : Predicate := .isNull (.field (.column "" "b"))
    let p : Predicate := .all [.any [.any [a, b]], b]
    let s : Query := .select .sqlite .empty
    let q : Query := .compound false .except [s, .compound false .union [s, s]]
    ((p.modifyAt (Predicate.withToplevel true) [0]).sql [] false).sql ≠ (p.sql [] false).sql ∧
      ((p.modifyAt (Predicate.withToplevel true) [0, 0]).sql [] false).sql =
        (p.sql [] false).sql ∧
      ((q.modifyAt (Query.withToplevel true) [1]).sql none).sql ≠ (q.sql none).sql := by
  intro a b p s q
  have hp : (p.sql [] false).stop = none := rfl
  have hq : (q.sql none).stop = none := rfl
  have hseen : p.markMatters true [0] = true := by decide
  have hunseen : p.markMatters true [0, 0] = false := by decide
  have hseenq : q.markMatters true [1] none = true := by decide
  refine ⟨?_, ?_, ?_⟩
  · rw [ne_eq, ((mark_changes_text [0] true).1 [] p).2.2 hp, hseen]
    exact Bool.noConfusion
  · exact (((mark_changes_text [0, 0] true).1 [] p).2.2 hp).mpr hunseen
  · rw [ne_eq, ((mark_changes_text [1] true).2.1 q none).2.2 hq, hseenq]
    exact Bool.noConfusion

/-- A marked disjunction takes in the condition beside it. -/
theorem marked_group_takes_in_neighbour :
    let a : Predicate := .isNull (.field (.column "" "a"))
    let b : Predicate := .isNull (.field (.column "" "b"))
    let tenant : Predicate := .eq (.field (.column "" "tenant")) (.scalar (.int 7))
    let q (p : Predicate) : Query := .select .sqlite { Select.empty with conditions := [p, tenant] }
    ((q (.any [a, b])).sql none).sql =
        "SELECT 1 WHERE (a IS NULL OR b IS NULL) AND tenant = ?" ∧
      ((q ((Predicate.any [a, b]).withToplevel true)).sql none).sql =
        "SELECT 1 WHERE a IS NULL OR b IS NULL AND tenant = ?" :=
  ⟨by decide +kernel, by decide +kernel⟩

end SqlCompose
