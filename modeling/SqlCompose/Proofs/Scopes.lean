import SqlCompose.Proofs.Toplevel

/-!
# What trailing clauses apply to

A selection may end in an ordering and limits (`Select.trailingSql`). In a
set operation these clauses do not stay with the selection: a database
takes an `ORDER BY`, `LIMIT` or `OFFSET` behind a chain of selections for
one of the whole chain, and none before an operator at all.

`ScopeWord.read` reads the text of a set operation of selections by this
rule. Which operators join a chain does not matter for it, so chains of any
operators are read. A selection is written without parentheses of its own,
whatever clauses it has. So its clauses come to stand behind a chain, or
before an operator, but never behind it alone (`Query.trailing_scopes`).

The reading of a text is put together along the tree (`Query.reading`). Of
a part that is not in parentheses the items must be known one by one, as
they are items of the chain around it; besides there are the clauses that
stand at its end and still wait for what follows (`Reading`).
-/

namespace SqlCompose

open Fragment

/-! ## Trailing clauses -/

namespace Select

/-- The selection without its ordering and its limits. -/
def body (s : Select) : Select :=
  { s with orderBy := [], limit := none, withTies := false, offset := none }

/-- The ordering and the limits of a selection. -/
def trailingSql (s : Select) : Fragment :=
  clause " ORDER BY " (fieldsSql [] s.orderBy) ++
    countSql " LIMIT " s.limit ++ when (s.withTies && s.limit.isSome) (text " WITH TIES") ++
    countSql " OFFSET " s.offset

/-- The selection has an ordering or a limit. -/
def hasTrailing (s : Select) : Bool :=
  !s.orderBy.isEmpty || s.limit.isSome || s.offset.isSome

theorem sql_eq (s : Select) : s.sql = s.body.sql ++ s.trailingSql := by
  obtain ⟨ctes, distinct, distinctOn, fields, source, joins, conditions, groupBy, having, windows,
    orderBy, limit, withTies, offset⟩ := s
  have hnone : clause " ORDER BY " (fieldsSql [] []) = Fragment.empty := rfl
  have hlimit : ∀ keyword, countSql keyword none = Fragment.empty := fun _ => rfl
  have hties : when (false && (none : Option Int64).isSome) (text " WITH TIES") =
      Fragment.empty := rfl
  rw [body, trailingSql, Select.sql, Select.sql, hnone, hlimit, hlimit, hties]
  simp only [append_empty, append_assoc]

theorem trailingSql_of_not {s : Select} (h : s.hasTrailing = false) :
    s.trailingSql = Fragment.empty := by
  rw [hasTrailing, Bool.or_eq_false_iff, Bool.or_eq_false_iff, Bool.not_eq_false',
    List.isEmpty_iff, Option.isSome_eq_false_iff, Option.isSome_eq_false_iff,
    Option.isNone_iff_eq_none, Option.isNone_iff_eq_none] at h
  obtain ⟨⟨horder, hlimit⟩, hoffset⟩ := h
  rw [trailingSql, horder, hlimit, hoffset, Option.isSome_none, Bool.and_false]
  rfl

end Select

/-! ## Reading -/

/-- A word of a set operation of selections. -/
inductive ScopeWord where
  /-- A selection up to its trailing clauses. -/
  | body (s : Select)
  /-- The trailing clauses of a selection. -/
  | trailing (s : Select)
  | op (op : SetOperator)
  | opening
  | closing

/-- What a text says of the rows that it selects. -/
inductive Scope where
  | body (s : Select)
  /-- Several items with operators between them. -/
  | chain (before : List Scope) (last : Scope)
  /-- Rows in the order and with the limits of a selection. -/
  | limited (rows : Scope) (s : Select)

namespace Scope

/-- Items in a row; one alone is no chain. -/
def join (before : List Scope) (last : Scope) : Scope :=
  if before.isEmpty then last else chain before last

mutual

/-- All trailing clauses from left to right, with the rows they apply
to. -/
def clauses : Scope → List (Scope × Select)
  | body _ => []
  | chain before last => clausesOf before ++ last.clauses
  | limited rows s => rows.clauses ++ [(rows, s)]
termination_by structural t => t

def clausesOf : List Scope → List (Scope × Select)
  | [] => []
  | t :: rest => t.clauses ++ clausesOf rest
termination_by structural ts => ts

end

theorem clausesOf_append (xs ys : List Scope) :
    clausesOf (xs ++ ys) = clausesOf xs ++ clausesOf ys := by
  induction xs with
  | nil => rfl
  | cons x xs ih => rw [List.cons_append, clausesOf, clausesOf, ih, List.append_assoc]

theorem clausesOf_concat (before : List Scope) (last : Scope) :
    clausesOf (before ++ [last]) = clausesOf before ++ last.clauses := by
  rw [clausesOf_append]
  exact congrArg (clausesOf before ++ ·) (List.append_nil _)

theorem clauses_join (before : List Scope) (last : Scope) :
    (join before last).clauses = clausesOf (before ++ [last]) := by
  rw [clausesOf_concat]
  cases before <;> rfl

theorem join_of_ne_nil {before : List Scope} (h : before ≠ []) (last : Scope) :
    join before last = chain before last := by
  cases before with
  | nil => exact absurd rfl h
  | cons t before => rfl

end Scope

namespace ScopeWord

mutual

/-- Reads on where an item must begin, behind those of its chain. -/
def readItem : (before : List Scope) → (stack : List (List Scope)) → List ScopeWord →
    Option Scope
  | before, stack, .body s :: ws => readNext before (.body s) stack ws
  | before, stack, .opening :: ws => readItem [] (before :: stack) ws
  | _, _, _ => none
termination_by structural _ _ ws => ws

/-- Reads on behind an item. -/
def readNext : (before : List Scope) → Scope → (stack : List (List Scope)) → List ScopeWord →
    Option Scope
  | before, t, stack, .op _ :: ws => readItem (before ++ [t]) stack ws
  | before, t, stack, .trailing s :: ws => readEnd (.limited (.join before t) s) stack ws
  | before, t, outer :: stack, .closing :: ws => readNext outer (.join before t) stack ws
  | before, t, [], [] => some (.join before t)
  | _, _, _, _ => none
termination_by structural _ _ _ ws => ws

/-- Reads on behind trailing clauses, where nothing more may come. -/
def readEnd : Scope → (stack : List (List Scope)) → List ScopeWord → Option Scope
  | t, outer :: stack, .closing :: ws => readNext outer t stack ws
  | t, [], [] => some t
  | _, _, _ => none
termination_by structural _ _ ws => ws

end

/-- What a sequence of words says, if it says anything. -/
def read (ws : List ScopeWord) : Option Scope := readItem [] [] ws

/-- No operator may follow trailing clauses. -/
theorem readEnd_op (t : Scope) (stack : List (List Scope)) (o : SetOperator)
    (ws : List ScopeWord) : readEnd t stack (.op o :: ws) = none := by
  cases stack <;> rfl

/-- Somewhere an operator stands behind trailing clauses; `behind` if they
stand right before the words. -/
def interrupted : (behind : Bool) → List ScopeWord → Bool
  | _, [] => false
  | behind, .op _ :: ws => behind || interrupted false ws
  | _, .trailing _ :: ws => interrupted true ws
  | _, .body _ :: ws => interrupted false ws
  | _, .opening :: ws => interrupted false ws
  | _, .closing :: ws => interrupted false ws

/-- Trailing clauses stand at the end. -/
def endsTrailing : (behind : Bool) → List ScopeWord → Bool
  | behind, [] => behind
  | _, .trailing _ :: ws => endsTrailing true ws
  | _, .op _ :: ws => endsTrailing false ws
  | _, .body _ :: ws => endsTrailing false ws
  | _, .opening :: ws => endsTrailing false ws
  | _, .closing :: ws => endsTrailing false ws

/-- The selection whose trailing clauses a word is. -/
def trailing? : ScopeWord → Option Select
  | .trailing s => some s
  | _ => none

/-- The selections whose trailing clauses are among the words. -/
def selects (ws : List ScopeWord) : List Select := ws.filterMap trailing?

theorem interrupted_append (behind : Bool) (xs ys : List ScopeWord) :
    interrupted behind (xs ++ ys) =
      (interrupted behind xs || interrupted (endsTrailing behind xs) ys) := by
  induction xs generalizing behind with
  | nil => rfl
  | cons x xs ih =>
      rw [List.cons_append]
      cases x with
      | op o => rw [interrupted, interrupted, endsTrailing, ih, Bool.or_assoc]
      | trailing s => exact ih true
      | body s => exact ih false
      | opening => exact ih false
      | closing => exact ih false

theorem endsTrailing_append (behind : Bool) (xs ys : List ScopeWord) :
    endsTrailing behind (xs ++ ys) = endsTrailing (endsTrailing behind xs) ys := by
  induction xs generalizing behind with
  | nil => rfl
  | cons x xs ih => cases x <;> exact ih _

theorem selects_append (xs ys : List ScopeWord) : selects (xs ++ ys) = selects xs ++ selects ys :=
  List.filterMap_append

theorem selects_parens (ws : List ScopeWord) :
    selects (.opening :: (ws ++ [.closing])) = selects ws :=
  (selects_append ws [.closing]).trans (List.append_nil _)

/-- Without trailing clauses nothing is interrupted. -/
theorem interrupted_of_selects {ws : List ScopeWord} (h : selects ws = []) :
    interrupted false ws = false := by
  induction ws with
  | nil => rfl
  | cons w ws ih =>
      cases w with
      | trailing s => cases h
      | op o => exact ih h
      | body s => exact ih h
      | opening => exact ih h
      | closing => exact ih h

/-- A word as it is written. -/
def sql : ScopeWord → Fragment
  | .body s => s.body.sql
  | .trailing s => s.trailingSql
  | .op o => text " " ++ text o.keyword ++ text " "
  | .opening => text "("
  | .closing => text ")"

/-- Words one after the other. -/
def spell (ws : List ScopeWord) : Fragment := concat (ws.map sql)

theorem spell_append (xs ys : List ScopeWord) : spell (xs ++ ys) = spell xs ++ spell ys := by
  rw [spell, List.map_append, concat_append]
  rfl

theorem spell_parens (ws : List ScopeWord) :
    spell (.opening :: (ws ++ [.closing])) = parens (spell ws) := by
  have hclosing : spell [.closing] = text ")" := append_empty _
  have hopening : spell (.opening :: (ws ++ [.closing])) =
      text "(" ++ spell (ws ++ [.closing]) := rfl
  rw [hopening, spell_append, hclosing, parens, append_assoc]

end ScopeWord

/-! ## Readings -/

/-- How a part of a text is read that is not in parentheses: its items, and
the clauses of the last one if they stand at its end. -/
structure Reading where
  before : List Scope
  last : Scope
  trailing : Option Select

namespace Reading

open ScopeWord hiding body trailing op sql

/-- What a part says that stands alone. -/
def scope (r : Reading) : Scope :=
  match r.trailing with
  | none => .join r.before r.last
  | some s => .limited (.join r.before r.last) s

/-- A part in parentheses is one item. -/
def enclosed (r : Reading) : Reading := ⟨[], r.scope, none⟩

/-- The items of one part and then those of another. -/
def link (a b : Reading) : Reading := ⟨a.before ++ a.last :: b.before, b.last, b.trailing⟩

/-- A part, an operator and another part. Trailing clauses before the
operator are not read. -/
def follow : Option Reading → Option Reading → Option Reading
  | some a, some b => if a.trailing.isNone then some (a.link b) else none
  | _, _ => none

/-- Reads on behind a part that stands behind other items. -/
def run (r : Reading) (before : List Scope) (stack : List (List Scope)) (ws : List ScopeWord) :
    Option Scope :=
  match r.trailing with
  | none => readNext (before ++ r.before) r.last stack ws
  | some s => readEnd (.limited (.join (before ++ r.before) r.last) s) stack ws

theorem run_nil (r : Reading) : r.run [] [] [] = some r.scope := by
  obtain ⟨before, last, trailing⟩ := r
  cases trailing <;> rfl

theorem run_closing (r : Reading) (outer : List Scope) (stack : List (List Scope))
    (ws : List ScopeWord) :
    r.run [] (outer :: stack) (.closing :: ws) = readNext outer r.scope stack ws := by
  obtain ⟨before, last, trailing⟩ := r
  cases trailing <;> rfl

/-! ## The scopes of clauses -/

/-- Each clause applies to a chain of several items that its own selection
ends. -/
def Displaced (clauses : List (Scope × Select)) : Prop :=
  ∀ rows s, (rows, s) ∈ clauses → ∃ before, before ≠ [] ∧ rows = .chain before (.body s)

theorem Displaced.append {xs ys : List (Scope × Select)} (hx : Displaced xs)
    (hy : Displaced ys) : Displaced (xs ++ ys) :=
  fun rows s h => (List.mem_append.mp h).elim (hx rows s) (hy rows s)

/-- The clauses inside the items of a part. -/
def inner (r : Reading) : List (Scope × Select) := Scope.clausesOf (r.before ++ [r.last])

/-- All selections whose clauses are in a part. -/
def selects (r : Reading) : List Select := r.inner.map (·.2) ++ r.trailing.toList

/-- Clauses at the end are not taken in by an item or a chain. -/
def isSettled (r : Reading) : Prop := r.trailing = none ∨ r.before ≠ []

theorem clauses_scope_of_none {r : Reading} (h : r.trailing = none) :
    r.scope.clauses = r.inner := by
  rw [scope, h, Scope.clauses_join, inner]

theorem clauses_scope_of_some {r : Reading} {s : Select} (h : r.trailing = some s) :
    r.scope.clauses = r.inner ++ [(.join r.before r.last, s)] := by
  rw [scope, h, Scope.clauses, Scope.clauses_join, inner]

theorem selects_scope (r : Reading) : r.scope.clauses.map (·.2) = r.selects := by
  rw [selects]
  cases h : r.trailing with
  | none => rw [clauses_scope_of_none h, Option.toList_none, List.append_nil]
  | some s => rw [clauses_scope_of_some h, List.map_append, Option.toList_some]; rfl

theorem inner_enclosed (r : Reading) : r.enclosed.inner = r.scope.clauses := List.append_nil _

theorem inner_link (a b : Reading) : (a.link b).inner = a.inner ++ b.inner := by
  rw [inner, inner, inner, ← Scope.clausesOf_append, link]
  simp only [List.append_assoc, List.cons_append, List.nil_append]

theorem before_link (a b : Reading) : (a.link b).before ≠ [] :=
  List.append_ne_nil_of_right_ne_nil _ (List.cons_ne_nil _ _)

theorem follow_eq_some {r? r'? : Option Reading} {r : Reading} (h : follow r? r'? = some r) :
    ∃ a b, r? = some a ∧ r'? = some b ∧ a.trailing = none ∧ r = a.link b := by
  match r?, r'?, h with
  | some a, some b, h =>
      obtain ⟨htrailing, hlink⟩ := Option.ite_none_right_eq_some.mp h
      exact ⟨a, b, rfl, rfl, Option.isNone_iff_eq_none.mp htrailing, (Option.some.inj hlink).symm⟩

/-! ## What words are read as -/

/-- Words are read as a part wherever an item may begin, or not at all if
trailing clauses stand before an operator. All clauses of the words are in
the part: inside its items where they apply to chains, and at its end
behind their own selection. -/
structure IsOf (r? : Option Reading) (ws : List ScopeWord) : Prop where
  reads : ∀ before stack rest,
    readItem before stack (ws ++ rest) = r?.bind (·.run before stack rest)
  breaks : interrupted false ws = r?.isNone
  ends : ∀ r ∈ r?, endsTrailing false ws = r.trailing.isSome
  selects : ∀ r ∈ r?, r.selects = ScopeWord.selects ws
  displaced : ∀ r ∈ r?, Displaced r.inner
  owned : ∀ r ∈ r?, ∀ s ∈ r.trailing, r.last = .body s

variable {r? r'? : Option Reading} {ws ws' : List ScopeWord}

theorem IsOf.read (h : IsOf r? ws) : read ws = r?.map scope := by
  have hread := h.reads [] [] []
  rw [List.append_nil] at hread
  rw [ScopeWord.read, hread]
  cases r? with
  | none => rfl
  | some r => exact r.run_nil

/-- Clauses at the end of several items apply to all of them. -/
theorem IsOf.displaced_scope (h : IsOf r? ws) {r : Reading} (hr : r ∈ r?) (hs : r.isSettled) :
    Displaced r.scope.clauses := by
  cases htrailing : r.trailing with
  | none =>
      rw [clauses_scope_of_none htrailing]
      exact h.displaced r hr
  | some s =>
      have hbefore : r.before ≠ [] := hs.resolve_left (by rw [htrailing]; nofun)
      rw [clauses_scope_of_some htrailing]
      refine (h.displaced r hr).append fun rows s' hmem => ?_
      cases List.mem_singleton.mp hmem
      exact ⟨r.before, hbefore, by rw [Scope.join_of_ne_nil hbefore, h.owned r hr s htrailing]⟩

/-- A selection with its clauses behind it. -/
theorem isOf_select (s : Select) :
    IsOf (some ⟨[], .body s, if s.hasTrailing then some s else none⟩)
      (.body s :: if s.hasTrailing then [.trailing s] else []) := by
  cases s.hasTrailing with
  | false =>
      refine ⟨fun before _ _ => ?_, rfl, ?_, ?_, ?_, ?_⟩
      · rw [Option.bind_some, run, List.append_nil]
        rfl
      all_goals rintro _ ⟨⟩
      · rfl
      · rfl
      · nofun
      · nofun
  | true =>
      refine ⟨fun before _ _ => ?_, rfl, ?_, ?_, ?_, ?_⟩
      · rw [Option.bind_some, run, List.append_nil]
        rfl
      all_goals rintro _ ⟨⟩
      · rfl
      · rfl
      · nofun
      · rintro _ ⟨⟩
        rfl

/-- Several items in parentheses are one item. -/
theorem IsOf.enclosed (h : IsOf r? ws) (hsettled : ∀ r ∈ r?, r.isSettled) :
    IsOf (r?.map enclosed) (.opening :: (ws ++ [.closing])) := by
  have hinterrupted : interrupted false (.opening :: (ws ++ [.closing])) =
      interrupted false ws := by
    rw [interrupted, interrupted_append]
    exact Bool.or_false _
  have hends : endsTrailing false (.opening :: (ws ++ [.closing])) = false := by
    rw [endsTrailing, endsTrailing_append]
    rfl
  cases r? with
  | none =>
      refine ⟨fun before stack rest => ?_, hinterrupted.trans h.breaks, nofun, nofun, nofun, nofun⟩
      rw [List.cons_append, readItem, List.append_assoc, h.reads]
      rfl
  | some r =>
      refine ⟨fun before stack rest => ?_, hinterrupted.trans h.breaks, ?_, ?_, ?_, ?_⟩
      · rw [List.cons_append, readItem, List.append_assoc, h.reads]
        refine (r.run_closing before stack rest).trans ?_
        rw [Option.map_some, Option.bind_some, run, Reading.enclosed, List.append_nil]
      all_goals
        rintro _ ⟨⟩
      · exact hends
      · rw [selects_parens, ← h.selects r rfl, ← selects_scope r, ← inner_enclosed]
        exact List.append_nil _
      · rw [inner_enclosed]
        exact h.displaced_scope rfl (hsettled r rfl)
      · nofun

/-- Two parts with an operator between them. -/
theorem IsOf.follow (h : IsOf r? ws) (h' : IsOf r'? ws') (o : SetOperator) :
    IsOf (follow r? r'?) (ws ++ .op o :: ws') := by
  have hselects : ScopeWord.selects (ws ++ .op o :: ws') =
      ScopeWord.selects ws ++ ScopeWord.selects ws' := selects_append ws (.op o :: ws')
  refine ⟨fun before stack rest => ?_, ?_, fun r hr => ?_, fun r hr => ?_, fun r hr => ?_,
    fun r hr => ?_⟩
  · rw [List.append_assoc, h.reads]
    match r? with
    | none => rfl
    | some ⟨items, last, some s⟩ =>
        cases r'? <;> exact readEnd_op _ stack o _
    | some ⟨items, last, none⟩ =>
        rw [Option.bind_some, run, List.cons_append, readNext, h'.reads]
        cases r'? with
        | none => rfl
        | some r =>
            rw [Reading.follow, Option.isNone_none, if_pos rfl, Option.bind_some,
              Option.bind_some, run, run, link]
            simp only [List.append_assoc, List.singleton_append]
  · rw [interrupted_append, h.breaks, interrupted, h'.breaks]
    match r? with
    | none => rfl
    | some a =>
        rw [h.ends a rfl, Option.isNone_some, Bool.false_or]
        cases r'? with
        | none => cases a.trailing <;> rfl
        | some b =>
            rw [Reading.follow]
            cases a.trailing <;> rfl
  all_goals
    obtain ⟨a, b, rfl, rfl, htrailing, rfl⟩ := follow_eq_some hr
  · rw [endsTrailing_append]
    exact h'.ends b rfl
  · rw [hselects, ← h.selects a rfl, ← h'.selects b rfl, Reading.selects, Reading.selects,
      Reading.selects, inner_link, htrailing, List.map_append, Option.toList_none,
      List.append_nil, List.append_assoc]
    rfl
  · rw [inner_link]
    exact (h.displaced a rfl).append (h'.displaced b rfl)
  · exact h'.owned b rfl

end Reading

/-! ## Set operations of selections -/

namespace Query

open ScopeWord hiding body trailing op sql selects read

mutual

/-- Set operations over selections, each with a member. -/
def isOfSelects : Query → Bool
  | .select _ _ => true
  | .compound _ _ members => !members.isEmpty && areOfSelects members
  | _ => false
termination_by structural q => q

def areOfSelects : List Query → Bool
  | [] => true
  | q :: rest => q.isOfSelects && areOfSelects rest
termination_by structural qs => qs

end

mutual

/-- The words that a set operation of selections is written with. -/
def words : Query → (toplevel? : Option Bool) → List ScopeWord
  | .select _ s, _ => .body s :: if s.hasTrailing then [.trailing s] else []
  | .compound toplevel op members, toplevel? =>
    match members with
    | [] => []
    | [q] => q.words (some (toplevel?.getD toplevel))
    | p :: q :: rest =>
      let all := p.words none ++ .op op :: q.words none ++ memberWords op rest
      if toplevel?.getD toplevel then all else .opening :: (all ++ [.closing])
  | _, _ => []
termination_by structural q => q

/-- The words of further members. -/
def memberWords (op : SetOperator) : List Query → List ScopeWord
  | [] => []
  | q :: rest => .op op :: q.words none ++ memberWords op rest
termination_by structural qs => qs

end

mutual

/-- How a set operation of selections is read. -/
def reading : Query → (toplevel? : Option Bool) → Option Reading
  | .select _ s, _ => some ⟨[], .body s, if s.hasTrailing then some s else none⟩
  | .compound toplevel _ members, toplevel? =>
    match members with
    | [] => none
    | [q] => q.reading (some (toplevel?.getD toplevel))
    | p :: q :: rest =>
      let all := followMembers (Reading.follow (p.reading none) (q.reading none)) rest
      if toplevel?.getD toplevel then all else all.map Reading.enclosed
  | _, _ => none
termination_by structural q => q

/-- The reading of some members and then of others. -/
def followMembers (r? : Option Reading) : List Query → Option Reading
  | [] => r?
  | q :: rest => followMembers (Reading.follow r? (q.reading none)) rest
termination_by structural qs => qs

end

theorem before_follow {r? r'? : Option Reading} :
    ∀ r ∈ Reading.follow r? r'?, r.before ≠ [] := by
  intro r hr
  obtain ⟨a, b, -, -, -, rfl⟩ := Reading.follow_eq_some hr
  exact a.before_link b

theorem before_followMembers {r? : Option Reading} (h : ∀ r ∈ r?, r.before ≠ [])
    (qs : List Query) : ∀ r ∈ followMembers r? qs, r.before ≠ [] := by
  induction qs generalizing r? with
  | nil => exact h
  | cons q qs ih => exact ih before_follow

/-- Several members are several items. -/
theorem before_members (p q : Query) (rest : List Query) :
    ∀ r ∈ followMembers (Reading.follow (p.reading none) (q.reading none)) rest,
      r.before ≠ [] :=
  before_followMembers before_follow rest

mutual

/-- The words of a set operation are read along its tree. -/
theorem isOf_words : (q : Query) → q.isOfSelects = true → (toplevel? : Option Bool) →
    Reading.IsOf (q.reading toplevel?) (q.words toplevel?)
  | .select _ s, _, _ => Reading.isOf_select s
  | .compound _ _ [], h, _ => nomatch h
  | .compound toplevel _ [q], h, toplevel? =>
      q.isOf_words (Bool.and_eq_true_iff.mp h).1 (some (toplevel?.getD toplevel))
  | .compound toplevel op (p :: q :: rest), h, toplevel? => by
      obtain ⟨hp, hmembers⟩ := Bool.and_eq_true_iff.mp h
      obtain ⟨hq, hrest⟩ := Bool.and_eq_true_iff.mp hmembers
      have hall := isOf_members op rest hrest
        ((p.isOf_words hp none).follow (q.isOf_words hq none) op)
      rw [words, reading]
      cases toplevel?.getD toplevel with
      | true => exact hall
      | false =>
          exact hall.enclosed fun r hr => .inr (before_members p q rest r hr)
termination_by structural q => q

theorem isOf_members (op : SetOperator) : (qs : List Query) → areOfSelects qs = true →
    ∀ {r? : Option Reading} {ws : List ScopeWord}, Reading.IsOf r? ws →
      Reading.IsOf (followMembers r? qs) (ws ++ memberWords op qs)
  | [], _, r?, ws, hws => by
      rw [memberWords, List.append_nil]
      exact hws
  | q :: rest, h, r?, ws, hws => by
      obtain ⟨hq, hrest⟩ := Bool.and_eq_true_iff.mp h
      rw [memberWords, List.cons_append, ← List.cons_append, ← List.append_assoc]
      exact isOf_members op rest hrest (hws.follow (q.isOf_words hq none) op)
termination_by structural qs => qs

end

mutual

/-- The words spell the text. -/
theorem sql_words : (q : Query) → q.isOfSelects = true → (toplevel? : Option Bool) →
    q.sql toplevel? = spell (q.words toplevel?)
  | .select _ s, _, toplevel? => by
      have hbody : spell [.body s] = s.body.sql := append_empty _
      have htrailing : spell [.body s, .trailing s] = s.body.sql ++ s.trailingSql :=
        congrArg (s.body.sql ++ ·) (append_empty _)
      rw [words, Query.sql, Select.sql_eq]
      cases h : s.hasTrailing with
      | false => rw [Select.trailingSql_of_not h, append_empty]; exact hbody.symm
      | true => exact htrailing.symm
  | .compound _ _ [], h, _ => nomatch h
  | .compound toplevel _ [q], h, toplevel? =>
      q.sql_words (Bool.and_eq_true_iff.mp h).1 (some (toplevel?.getD toplevel))
  | .compound toplevel op (p :: q :: rest), h, toplevel? => by
      obtain ⟨hp, hmembers⟩ := Bool.and_eq_true_iff.mp h
      have hall : p.sql none ++ membersSql op (q :: rest) =
          spell (p.words none ++ memberWords op (q :: rest)) := by
        rw [spell_append, p.sql_words hp none, sql_memberWords op (q :: rest) hmembers]
      rw [memberWords, ← List.append_assoc] at hall
      rw [sql_compound_many, words, hall]
      cases toplevel?.getD toplevel with
      | true => rfl
      | false => exact (spell_parens _).symm
termination_by structural q => q

theorem sql_memberWords (op : SetOperator) : (qs : List Query) → areOfSelects qs = true →
    membersSql op qs = spell (memberWords op qs)
  | [], _ => rfl
  | q :: rest, h => by
      obtain ⟨hq, hrest⟩ := Bool.and_eq_true_iff.mp h
      have hop : spell (.op op :: q.words none) = op.memberSql (spell (q.words none)) := rfl
      rw [membersSql, memberWords, spell_append, hop, q.sql_words hq none,
        sql_memberWords op rest hrest]
termination_by structural qs => qs

end

mutual

/-- The selections of a set operation, from left to right. -/
def selects : Query → List Select
  | .select _ s => [s]
  | .compound _ _ members => selectsOf members
  | _ => []
termination_by structural q => q

def selectsOf : List Query → List Select
  | [] => []
  | q :: rest => q.selects ++ selectsOf rest
termination_by structural qs => qs

end

mutual

/-- Each selection is written with its trailing clauses. -/
theorem selects_words : (q : Query) → q.isOfSelects = true → (toplevel? : Option Bool) →
    ScopeWord.selects (q.words toplevel?) = q.selects.filter (·.hasTrailing)
  | .select _ s, _, _ => by
      rw [words, selects, List.filter_cons]
      cases s.hasTrailing <;> rfl
  | .compound _ _ [], h, _ => nomatch h
  | .compound toplevel _ [q], h, toplevel? => by
      rw [selects, selectsOf, selectsOf, List.append_nil]
      exact q.selects_words (Bool.and_eq_true_iff.mp h).1 (some (toplevel?.getD toplevel))
  | .compound toplevel op (p :: q :: rest), h, toplevel? => by
      obtain ⟨hp, hmembers⟩ := Bool.and_eq_true_iff.mp h
      have hall : ScopeWord.selects (p.words none ++ memberWords op (q :: rest)) =
          (p.selects ++ selectsOf (q :: rest)).filter (·.hasTrailing) := by
        rw [ScopeWord.selects_append, List.filter_append, p.selects_words hp none,
          selects_memberWords op (q :: rest) hmembers]
      rw [memberWords, ← List.append_assoc] at hall
      rw [words, selects, selectsOf, ← hall]
      cases toplevel?.getD toplevel with
      | true => rfl
      | false => exact ScopeWord.selects_parens _
termination_by structural q => q

theorem selects_memberWords (op : SetOperator) : (qs : List Query) → areOfSelects qs = true →
    ScopeWord.selects (memberWords op qs) = (selectsOf qs).filter (·.hasTrailing)
  | [], _ => rfl
  | q :: rest, h => by
      obtain ⟨hq, hrest⟩ := Bool.and_eq_true_iff.mp h
      have hop : ScopeWord.selects (.op op :: q.words none) =
          ScopeWord.selects (q.words none) := rfl
      rw [memberWords, ScopeWord.selects_append, hop, selectsOf, List.filter_append,
        q.selects_words hq none, selects_memberWords op rest hrest]
termination_by structural qs => qs

end

/-- A set operation of several members is several items, or one in
parentheses. -/
theorem isSettled_of_wraps : (q : Query) → q.wraps = true → (toplevel? : Option Bool) →
    ∀ r ∈ q.reading toplevel?, r.isSettled
  | .compound toplevel _ [q], h, toplevel? =>
      q.isSettled_of_wraps h (some (toplevel?.getD toplevel))
  | .compound toplevel _ (p :: q :: rest), _, toplevel? => by
      intro r hr
      rw [reading] at hr
      cases htoplevel : toplevel?.getD toplevel with
      | true =>
          rw [htoplevel] at hr
          exact .inr (before_members p q rest r hr)
      | false =>
          rw [htoplevel] at hr
          obtain ⟨all, -, rfl⟩ := Option.map_eq_some_iff.mp hr
          exact .inl rfl
termination_by structural q => q

/-- Words are read unless an operator stands behind trailing clauses. -/
theorem read_words_eq_none (q : Query) (hq : q.isOfSelects = true) (toplevel? : Option Bool) :
    ScopeWord.read (q.words toplevel?) = none ↔ interrupted false (q.words toplevel?) = true := by
  have hwords := q.isOf_words hq toplevel?
  rw [hwords.read, Option.map_eq_none_iff, hwords.breaks, Option.isNone_iff_eq_none]

/-- What is read has the clauses of all selections, none of them with its
own selection alone. -/
theorem clauses_of_read_words (q : Query) (hq : q.isOfSelects = true) (hw : q.wraps = true)
    (toplevel? : Option Bool) {t : Scope} (ht : ScopeWord.read (q.words toplevel?) = some t) :
    t.clauses.map (·.2) = q.selects.filter (·.hasTrailing) ∧ Reading.Displaced t.clauses := by
  have hwords := q.isOf_words hq toplevel?
  rw [hwords.read, Option.map_eq_some_iff] at ht
  obtain ⟨r, hr, rfl⟩ := ht
  refine ⟨?_, hwords.displaced_scope hr (q.isSettled_of_wraps hw toplevel? r hr)⟩
  rw [Reading.selects_scope, hwords.selects r hr, q.selects_words hq]

/-- A set operation of several members is read unless an operator stands
behind the clauses of a selection. Read, it has the clauses of its
selections from left to right, and each of them applies to a chain of
several items whose last one is its selection. So the clauses are where
they belong exactly if there are none. -/
theorem trailing_scopes (q : Query) (hq : q.isOfSelects = true) (hw : q.wraps = true)
    (toplevel? : Option Bool) :
    let ws := q.words toplevel?
    q.sql toplevel? = spell ws ∧
    (ScopeWord.read ws = none ↔ interrupted false ws = true) ∧
    (∀ t, ScopeWord.read ws = some t →
      t.clauses.map (·.2) = q.selects.filter (·.hasTrailing) ∧
      ∀ rows s, (rows, s) ∈ t.clauses →
        ∃ before, before ≠ [] ∧ rows = .chain before (.body s)) ∧
    ((∃ t, ScopeWord.read ws = some t ∧ ∀ rows s, (rows, s) ∈ t.clauses → rows = .body s) ↔
      ∀ s ∈ q.selects, s.hasTrailing = false) := by
  intro ws
  have hnone : ScopeWord.read ws = none ↔ interrupted false ws = true :=
    q.read_words_eq_none hq toplevel?
  refine ⟨q.sql_words hq toplevel?, hnone,
    fun t ht => q.clauses_of_read_words hq hw toplevel? ht, ?_, ?_⟩
  · rintro ⟨t, ht, hown⟩ s hs
    obtain ⟨hclauses, hdisplaced⟩ := q.clauses_of_read_words hq hw toplevel? ht
    -- A clause that applied to its own selection alone would be on a chain as well.
    have hempty : t.clauses = [] := by
      refine List.eq_nil_iff_forall_not_mem.mpr fun ⟨rows, s⟩ hmem => ?_
      obtain ⟨before, -, hrows⟩ := hdisplaced rows s hmem
      cases (hown rows s hmem).symm.trans hrows
    rw [hempty] at hclauses
    rw [← Bool.not_eq_true]
    exact List.filter_eq_nil_iff.mp hclauses.symm s hs
  · intro hs
    have hfilter : q.selects.filter (·.hasTrailing) = [] :=
      List.filter_eq_nil_iff.mpr fun s hmem => Bool.eq_false_iff.mp (hs s hmem)
    cases ht : ScopeWord.read ws with
    | none =>
        have hbroken := hnone.mp ht
        rw [interrupted_of_selects ((q.selects_words hq toplevel?).trans hfilter)] at hbroken
        cases hbroken
    | some t =>
        refine ⟨t, rfl, fun rows s hmem => ?_⟩
        have hclauses := (q.clauses_of_read_words hq hw toplevel? ht).1.trans hfilter
        rw [List.map_eq_nil_iff.mp hclauses] at hmem
        cases hmem

/-- A limit of the last member limits the union. -/
theorem trailing_scopes_last :
    let limited : Select := { Select.empty with limit := some 1 }
    let q : Query := .compound false .union [.select .postgres .empty, .select .postgres limited]
    q.isOfSelects = true ∧ q.wraps = true ∧
      (q.sql (some true)).sql = "SELECT 1 UNION SELECT 1 LIMIT ?" ∧
      ¬∃ t, ScopeWord.read (q.words (some true)) = some t ∧
        ∀ rows s, (rows, s) ∈ t.clauses → rows = .body s := by
  intro limited q
  refine ⟨rfl, rfl, by decide +kernel, fun hscopes => ?_⟩
  have hnone := (q.trailing_scopes rfl rfl (some true)).2.2.2.mp hscopes
  cases hnone limited (.tail _ (.head _))

/-- Behind the last member a limit is one of the union, behind another
member it is no part of any text. -/
theorem union_takes_limit :
    let plain : Select := .empty
    let limited : Select := { Select.empty with limit := some 1 }
    let union (a b : Select) : Query :=
      .compound false .union [.select .postgres a, .select .postgres b]
    ScopeWord.read ((union plain limited).words (some true)) =
        some (.limited (.chain [.body plain] (.body limited)) limited) ∧
      ScopeWord.read ((union limited plain).words (some true)) = none ∧
      ((union limited plain).sql (some true)).sql = "SELECT 1 LIMIT ? UNION SELECT 1" :=
  ⟨rfl, rfl, by decide +kernel⟩

end Query

end SqlCompose
