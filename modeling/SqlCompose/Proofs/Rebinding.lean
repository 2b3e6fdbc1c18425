import Mathlib.Data.List.NodupEquivFin
import SqlCompose.Proofs.Values

/-!
# Rebinding named arguments

A built statement knows one position for each name, that of the argument
that was written last under it, and `BuiltQuery.bind` puts another value
there. Building the statement once more, with the other value for the name
in all of its tree (`Query.withParam`), replaces every argument of the
name.

So the two agree in everything but the arguments that were written earlier
under the name (`Query.bind_rebuild`). A name that is written once can be
rebound without building the statement again.
-/

namespace SqlCompose

/-! ## Names in order -/

/-- The name of an argument, if it has one. -/
def Piece.label? : Piece → Option (Option String)
  | text _ => none
  | arg name? _ => some name?

/-- The names of the arguments, in order. -/
def Fragment.argNames (a : Fragment) : List (Option String) := a.pieces.filterMap Piece.label?

/-- The position of the last argument of a name. -/
def lastIndex? (name : String) : List (Option String) → Option Nat
  | [] => none
  | name? :: rest =>
    ((lastIndex? name rest).map (· + 1)).or (if name? = some name then some 0 else none)

variable {name : String} {names : List (Option String)} {i : Nat}

theorem exists_lastIndex? (h : some name ∈ names) : ∃ i, lastIndex? name names = some i := by
  induction names with
  | nil => cases h
  | cons name? rest ih =>
      rw [lastIndex?]
      cases hrest : lastIndex? name rest with
      | some i => exact ⟨i + 1, rfl⟩
      | none =>
          rcases List.mem_cons.mp h with rfl | hmem
          · exact ⟨0, if_pos rfl⟩
          · obtain ⟨i, hi⟩ := ih hmem
            rw [hrest] at hi
            cases hi

theorem lastIndex?_eq_none (h : lastIndex? name names = none) : some name ∉ names := by
  intro hmem
  obtain ⟨i, hi⟩ := exists_lastIndex? hmem
  rw [h] at hi
  cases hi

/-- The argument there has the name, and none behind it. -/
theorem lastIndex?_eq_some (h : lastIndex? name names = some i) :
    names[i]? = some (some name) ∧ ∀ j, i < j → names[j]? ≠ some (some name) := by
  induction names generalizing i with
  | nil => cases h
  | cons name? rest ih =>
      rw [lastIndex?] at h
      cases hrest : lastIndex? name rest with
      | some k =>
          rw [hrest] at h
          cases h
          obtain ⟨hk, hbehind⟩ := ih hrest
          refine ⟨hk, fun j hj => ?_⟩
          cases j with
          | zero => cases hj
          | succ j => exact hbehind j (Nat.lt_of_succ_lt_succ hj)
      | none =>
          rw [hrest, Option.map_none, Option.none_or] at h
          obtain ⟨rfl, hzero⟩ := Option.ite_none_right_eq_some.mp h
          cases hzero
          refine ⟨rfl, fun j hj hat => ?_⟩
          cases j with
          | zero => cases hj
          | succ j => exact lastIndex?_eq_none hrest (List.mem_of_getElem? hat)

/-! ## Recorded positions -/

/-- A recorded position is found under its own name. -/
theorem Names.index?_record (name name' : String) (index : Nat) (names : Names) :
    (names.record name index).index? name' =
      if name = name' then some index else names.index? name' := by
  induction names with
  | nil => rfl
  | cons entry rest ih =>
      obtain ⟨n, k⟩ := entry
      rw [record]
      split
      · rename_i hn
        subst hn
        rw [index?, index?]
        split <;> rfl
      · rename_i hn
        rw [index?, index?, ih]
        split
        · rename_i hn'
          subst hn'
          exact (if_neg fun h => hn h.symm).symm
        · rfl

namespace Fragment

/-- The recorded position of a name is that of its last argument. -/
theorem index?_recordPieces (name : String) (pieces : List Piece) (index : Nat) (names : Names) :
    (recordPieces index pieces names).index? name =
      ((lastIndex? name (pieces.filterMap Piece.label?)).map (index + ·)).or
        (names.index? name) := by
  induction pieces generalizing index names with
  | nil => rfl
  | cons p pieces ih =>
      cases p with
      | text s => exact ih index names
      | arg name? v =>
          have hlabels : (Piece.arg name? v :: pieces).filterMap Piece.label? =
              name? :: pieces.filterMap Piece.label? := rfl
          have hcount : (fun k => index + 1 + k) = fun k => index + (k + 1) := by
            funext k
            omega
          rw [hlabels, lastIndex?]
          cases name? with
          | none =>
              rw [recordPieces, ih, hcount, if_neg (Option.some_ne_none name).symm, Option.or_none, Option.map_map]
              rfl
          | some n =>
              rw [recordPieces, ih, hcount, Names.index?_record]
              cases lastIndex? name (pieces.filterMap Piece.label?) with
              | some k => rfl
              | none =>
                  by_cases hn : n = name
                  · subst hn
                    simp
                  · simp [hn]

theorem index?_names (a : Fragment) (name : String) :
    a.names.index? name = lastIndex? name a.argNames := by
  rw [names, index?_recordPieces]
  simp [argNames, Names.index?]

/-! ## Other values -/

theorem length_argNames (a : Fragment) : a.argNames.length = a.args.length := by
  rw [argNames, args]
  induction a.pieces with
  | nil => rfl
  | cons p pieces ih =>
      cases p with
      | text s => exact ih
      | arg name? v => exact congrArg (· + 1) ih

theorem recordPieces_mapNamed (g : String → Scalar → Scalar) (pieces : List Piece) (index : Nat)
    (names : Names) :
    recordPieces index (pieces.map (·.mapNamed g)) names = recordPieces index pieces names := by
  induction pieces generalizing index names with
  | nil => rfl
  | cons p pieces ih =>
      cases p with
      | text s => exact ih index names
      | arg name? v =>
          cases name? with
          | none => exact ih (index + 1) names
          | some n => exact ih (index + 1) _

theorem sql_mapNamed (g : String → Scalar → Scalar) (a : Fragment) :
    (a.mapNamed g).sql = a.sql := by
  have hpiece : ∀ p : Piece, (p.mapNamed g).sql = p.sql := by
    intro p
    cases p with
    | text s => rfl
    | arg name? v => cases name? <;> rfl
  rw [sql, sql, mapNamed, List.map_map]
  exact congrArg String.join (List.map_congr_left fun p _ => hpiece p)

/-- The arguments of the name have the value, the others the one they
had. -/
def replaceNamed (name : String) (value : Scalar) (names : List (Option String))
    (args : List Scalar) : List Scalar :=
  List.zipWith (fun name? old => if name? = some name then value else old) names args

/-- The value for one name, and for other names what was there. -/
def valueFor (name : String) (value : Scalar) (name' : String) (old : Scalar) : Scalar :=
  if name' = name then value else old

theorem args_mapNamed (name : String) (value : Scalar) (a : Fragment) :
    (a.mapNamed (valueFor name value)).args = replaceNamed name value a.argNames a.args := by
  rw [args, args, argNames, mapNamed, replaceNamed]
  induction a.pieces with
  | nil => rfl
  | cons p pieces ih =>
      cases p with
      | text s => exact ih
      | arg name? v =>
          cases name? with
          | none => exact congrArg (v :: ·) ih
          | some n =>
              refine (congrArg (valueFor name value n v :: ·) ih).trans ?_
              simp [Piece.label?, Piece.value?, valueFor]

/-- Only the arguments of the built statement change. -/
theorem build_mapNamed (d : Dialect) (g : String → Scalar → Scalar) (a : Fragment) :
    (a.mapNamed g).build d =
      (a.build d).map fun b => { b with args := (a.mapNamed g).args } := by
  have hstop : (a.mapNamed g).stop = a.stop := rfl
  have hpieces : (a.mapNamed g).pieces = a.pieces.map (·.mapNamed g) := rfl
  rw [build, build, hstop]
  cases a.stop with
  | some e => rfl
  | none =>
      simp only [Writer.append, Writer.finish, Except.map, sql_mapNamed, hpieces,
        recordPieces_mapNamed]
      rfl

end Fragment

open Fragment

theorem getElem?_replaceNamed {args : List Scalar} (h : names.length = args.length)
    (value : Scalar) (j : Nat) :
    (replaceNamed name value names args)[j]? =
      if names[j]? = some (some name) then some value else args[j]? := by
  rw [replaceNamed, List.getElem?_zipWith]
  by_cases hj : j < names.length
  · have hj' : j < args.length := h ▸ hj
    simp only [List.getElem?_eq_getElem hj, List.getElem?_eq_getElem hj', Option.some.injEq]
    split <;> rfl
  · have hj' : ¬j < args.length := h ▸ hj
    rw [List.getElem?_eq_none (Nat.le_of_not_lt hj), List.getElem?_eq_none (Nat.le_of_not_lt hj')]
    rfl

/-- Replacing the last argument of a name alone replaces all of them
exactly if the earlier ones have the value. -/
theorem set_eq_replaceNamed_iff {args : List Scalar} (h : names.length = args.length)
    (hi : lastIndex? name names = some i) (value : Scalar) :
    args.set i value = replaceNamed name value names args ↔
      ∀ j, j < i → names[j]? = some (some name) → args[j]? = some value := by
  obtain ⟨hat, hbehind⟩ := lastIndex?_eq_some hi
  constructor
  · intro heq j hj hname
    have hnth := congrArg (·[j]?) heq
    simp only [getElem?_replaceNamed h, if_pos hname] at hnth
    rwa [List.getElem?_set_ne (Nat.ne_of_gt hj)] at hnth
  · intro hbefore
    refine List.ext_getElem? fun j => ?_
    rw [getElem?_replaceNamed h]
    rcases Nat.lt_trichotomy j i with hj | rfl | hj
    · rw [List.getElem?_set_ne (Nat.ne_of_gt hj)]
      split
      · exact hbefore j hj (by assumption)
      · rfl
    · have hlength : j < args.length := by
        rw [← h]
        exact (List.getElem?_eq_some_iff.mp hat).1
      rw [if_pos hat, List.getElem?_set_self hlength]
    · rw [if_neg (hbehind j hj), List.getElem?_set_ne (Nat.ne_of_lt hj)]

/-- A name that is there once is not there twice. -/
theorem unique_of_count (h : names.count (some name) = 1) {i j : Nat}
    (hi : names[i]? = some (some name)) (hj : names[j]? = some (some name)) : ¬j < i := by
  intro hlt
  obtain ⟨hi, hati⟩ := List.getElem?_eq_some_iff.mp hi
  obtain ⟨hj, hatj⟩ := List.getElem?_eq_some_iff.mp hj
  have htwice : List.Duplicate (some name) names :=
    List.duplicate_iff_exists_distinct_get.mpr ⟨⟨j, hj⟩, ⟨i, hi⟩, hlt, hatj.symm, hati.symm⟩
  have hcount := (List.duplicate_iff_sublist.mp htwice).count_le (some name)
  rw [h, List.count_cons_self, List.count_cons_self] at hcount
  omega

/-! ## Binding and building -/

/-- The statement with another value for all arguments of a name. -/
def Query.withParam (name : String) (value : Scalar) (q : Query) : Query :=
  q.mapParams (valueFor name value)

/-- What a statement is built as. -/
theorem Query.toSql_eq_ok {q : Query} {b : BuiltQuery} (h : q.toSql = .ok b) :
    b.args = q.statementSql.args ∧ b.names = q.statementSql.names := by
  rw [toSql, build] at h
  cases hstop : q.statementSql.stop with
  | some e =>
      rw [hstop] at h
      cases h
  | none =>
      rw [hstop] at h
      cases h
      exact ⟨rfl, rfl⟩

theorem Query.toSql_withParam (q : Query) (name : String) (value : Scalar) :
    (q.withParam name value).toSql =
      q.toSql.map fun b =>
        { b with args := replaceNamed name value q.statementSql.argNames q.statementSql.args } := by
  have hsql : (q.withParam name value).statementSql =
      q.statementSql.mapNamed (valueFor name value) := q.sql_mapParams _ (some true)
  rw [toSql, hsql, build_mapNamed, args_mapNamed, withParam, q.dialect_mapParams]
  rfl

/-- Binding a name of a built statement to a value succeeds and replaces
the argument that was written last under the name. Building the statement
with the value for the name replaces all arguments of the name. Nothing
else changes, and both give the same exactly if the arguments written
earlier under the name have the value already; so they do if there is none
of them. -/
theorem Query.bind_rebuild {q : Query} {b : BuiltQuery} (hb : q.toSql = .ok b) {name : String}
    (hname : some name ∈ q.statementSql.argNames) (value : Scalar) :
    let names := q.statementSql.argNames
    names.length = b.args.length ∧
    (∃ i, names[i]? = some (some name) ∧ (∀ j, i < j → names[j]? ≠ some (some name)) ∧
      b.bind name value = .ok { b with args := b.args.set i value } ∧
      (b.bind name value = (q.withParam name value).toSql ↔
        ∀ j, j < i → names[j]? = some (some name) → b.args[j]? = some value)) ∧
    (q.withParam name value).toSql =
      .ok { b with args := replaceNamed name value names b.args } ∧
    (names.count (some name) = 1 → b.bind name value = (q.withParam name value).toSql) := by
  intro names
  obtain ⟨hargs, hnames⟩ := toSql_eq_ok hb
  have hlength : names.length = b.args.length := by
    rw [hargs]
    exact q.statementSql.length_argNames
  obtain ⟨i, hi⟩ := exists_lastIndex? hname
  obtain ⟨hat, hbehind⟩ := lastIndex?_eq_some hi
  have hindex : b.names.index? name = some i := by
    rw [hnames, index?_names]
    exact hi
  have hin : i < b.args.length := by
    rw [← hlength]
    exact (List.getElem?_eq_some_iff.mp hat).1
  have hbound : b.bind name value = .ok { b with args := b.args.set i value } := by
    rw [BuiltQuery.bind, hindex]
    exact if_pos hin
  have hrebuilt : (q.withParam name value).toSql =
      .ok { b with args := replaceNamed name value names b.args } := by
    rw [q.toSql_withParam, hb, hargs]
    rfl
  have hsame : b.bind name value = (q.withParam name value).toSql ↔
      ∀ j, j < i → names[j]? = some (some name) → b.args[j]? = some value := by
    rw [hbound, hrebuilt, Except.ok.injEq, BuiltQuery.mk.injEq,
      ← set_eq_replaceNamed_iff hlength hi]
    simp
  exact ⟨hlength, ⟨i, hat, hbehind, hbound, hsame⟩, hrebuilt, fun hcount =>
    hsame.mpr fun j hj hname => absurd hj (unique_of_count hcount hat hname)⟩

/-- A name that is written once. -/
theorem Query.bind_rebuild_once :
    let q : Query := .select .postgres { Select.empty with
      conditions := [.eq (.field (.column "" "x")) (.field (.param "p" (.int 1)))] }
    q.toSql.bind (·.bind "p" (.int 2)) = (q.withParam "p" (.int 2)).toSql := by
  intro q
  exact (bind_rebuild (q := q) rfl (.head _) (.int 2)).2.2.2 rfl

/-- Of a name that is written twice binding leaves the first argument. -/
theorem Query.bind_leaves_first :
    let p : Operand := .field (.param "p" (.int 1))
    let q : Query := .select .sqlite { Select.empty with
      conditions := [.eq (.field (.column "" "x")) p, .eq (.field (.column "" "y")) p] }
    q.statementSql.argNames = [some "p", some "p"] ∧
      (q.toSql.bind (·.bind "p" (.int 2))).map (·.args) = .ok [.int 1, .int 2] ∧
      (q.withParam "p" (.int 2)).toSql.map (·.args) = .ok [.int 2, .int 2] :=
  ⟨rfl, rfl, rfl⟩

end SqlCompose
