import SqlCompose.Execute.Fetch
import SqlCompose.Proofs.Buffers

/-!
# Readers

A reader is a mapper that reads the same fields in the same order on every
view and then does something with what it read: it changes the state that it
keeps, and goes on, skips the remaining rows or fails. On a view without a
row it takes note of its fields; on a row its first read gives the first
cell, and so on, whatever becomes of the reads before.

The rows of an answer are read in order, up to the first that cannot be read
or at which the reader does not go on (`Reader.Ends`, `Fetch.ends_mapRows`).
-/

namespace SqlCompose

/-! ## Reads -/

/-- One read of a mapper. -/
structure Getter where
  type : Type
  target : Target type
  field : Field

namespace Getter

/-- What the read gives of a cell. -/
def value? (g : Getter) (row : ResultRow) (i : Nat) : Option g.type :=
  match RowView.cell g.target row i with
  | .ok v => v
  | .error _ => none

/-- Why the cell could not be read. -/
def report? (g : Getter) (row : ResultRow) (i : Nat) : Option String :=
  match RowView.cell g.target row i with
  | .ok _ => none
  | .error report => some report

def requested (g : Getter) : RequestedField := ⟨g.field, g.target.typeName⟩

theorem read_live (g : Getter) (row : ResultRow) (i : Nat) (failures : List String) :
    RowView.read g.target g.field (.live row i failures) =
      (g.value? row i, .live row (i + 1) (failures ++ (g.report? row i).toList)) := by
  rw [RowView.read, value?, report?]
  cases RowView.cell g.target row i with
  | ok v => simp
  | error report => rfl

end Getter

/-- What some reads give, one by one. -/
def Readings : List Getter → Type
  | [] => Unit
  | g :: gs => Option g.type × Readings gs

namespace Readings

/-- What one of the reads gives. -/
def value? : (gs : List Getter) → Readings gs → (j : Fin gs.length) → Option (gs.get j).type
  | _ :: _, (v, _), ⟨0, _⟩ => v
  | _ :: gs, (_, vs), ⟨j + 1, h⟩ => value? gs vs ⟨j, Nat.lt_of_succ_lt_succ h⟩

/-- Without a row. -/
def blank : (gs : List Getter) → Readings gs
  | [] => ()
  | _ :: gs => (none, blank gs)

/-- On a row, the first read having position `i`. -/
def ofRow (row : ResultRow) : (i : Nat) → (gs : List Getter) → Readings gs
  | _, [] => ()
  | i, g :: gs => (g.value? row i, ofRow row (i + 1) gs)

/-- Each read gives the cell of its own position. -/
theorem value?_ofRow (row : ResultRow) (i : Nat) : (gs : List Getter) → (j : Fin gs.length) →
    value? gs (ofRow row i gs) j = (gs.get j).value? row (i + j)
  | _ :: _, ⟨0, _⟩ => rfl
  | g :: gs, ⟨j + 1, h⟩ => by
      have rest := value?_ofRow row (i + 1) gs ⟨j, Nat.lt_of_succ_lt_succ h⟩
      rw [Nat.add_assoc, Nat.add_comm 1] at rest
      exact rest

end Readings

/-- Reads in order. -/
def readAll : (gs : List Getter) → RowView → Readings gs × RowView
  | [], view => ((), view)
  | g :: gs, view =>
    let (v, view) := view.read g.target g.field
    let (vs, view) := readAll gs view
    ((v, vs), view)

/-- The reports on cells that cannot be read, the first read having
position `i`. -/
def reportsFrom (row : ResultRow) (i : Nat) (gs : List Getter) : List String :=
  (gs.zipIdx i).filterMap fun (g, j) => g.report? row j

theorem readAll_live (gs : List Getter) (row : ResultRow) (i : Nat) (failures : List String) :
    readAll gs (.live row i failures) =
      (.ofRow row i gs, .live row (i + gs.length) (failures ++ reportsFrom row i gs)) := by
  induction gs generalizing i failures with
  | nil => simp [readAll, reportsFrom, Readings.ofRow]
  | cons g gs ih =>
      have reports : (g.report? row i).toList ++ reportsFrom row (i + 1) gs =
          reportsFrom row i (g :: gs) := by
        cases h : g.report? row i <;> simp [reportsFrom, List.zipIdx_cons, h]
      rw [readAll, g.read_live]
      simp only [ih, Readings.ofRow, List.append_assoc, reports, List.length_cons]
      rw [Nat.add_assoc, Nat.add_comm 1]

theorem readAll_discovery (gs : List Getter) (requested : List RequestedField) :
    readAll gs (.discovery requested) =
      (.blank gs, .discovery (requested ++ gs.map Getter.requested)) := by
  induction gs generalizing requested with
  | nil => simp [readAll, Readings.blank]
  | cons g gs ih =>
      rw [readAll, RowView.read]
      simp [ih, Readings.blank, Getter.requested]

/-! ## Readers -/

/-- A mapper that makes the same reads on every view. What it does with
them may depend on whether there is a row and on the state it keeps. -/
structure Reader (τ : Type) where
  getters : List Getter
  finish : (live : Bool) → Readings getters → τ → Except Error Unit × τ

namespace Reader

variable {τ : Type} (r : Reader τ)

def mapper : Mapper τ Unit := fun s =>
  let (readings, view) := readAll r.getters s.view
  let (result, own) := r.finish view.isLive readings s.own
  (result, ⟨view, s.contexts, own⟩)

/-- What the reader does without a row. -/
def discovery (own : τ) : Except Error Unit × τ := r.finish false (.blank r.getters) own

/-- What the reader does on a row. -/
def visit (row : ResultRow) (own : τ) : Except Error Unit × τ :=
  r.finish true (.ofRow row 0 r.getters) own

/-- The reports on the cells of a row that cannot be read. -/
def reports (row : ResultRow) : List String := reportsFrom row 0 r.getters

def requested : List RequestedField := r.getters.map Getter.requested

/-- The error of a row that cannot be read: what was read and as what, the
reports on its cells, and the statement with its arguments written in. -/
def scanError (b : BuiltQuery) (row : ResultRow) : Error :=
  let lines := r.getters.zipIdx.map fun (g, i) =>
    i.repr ++ ") " ++ g.field.describe ++ " => " ++ g.target.typeName
  let query := match b.inline with
    | .ok sql => sql
    | .error _ => b.sql
  .scan ("\n".intercalate lines) ("\n".intercalate (r.reports row) ++ "\nquery: " ++ query)

/-- The state that the reader keeps after some rows. -/
def after (rows : List ResultRow) (own : τ) : τ :=
  rows.foldl (fun own row => (r.visit row own).2) own

/-- All rows can be read, and the reader goes on after each of them. -/
def Passes : List ResultRow → τ → Prop
  | [], _ => True
  | row :: rest, own =>
    r.reports row = [] ∧ (r.visit row own).1 = .ok () ∧ Passes rest (r.visit row own).2

/-- How the rows of an answer end: what the reader gives, the number of
rows that it saw, and the state that it keeps. The error of a row that
cannot be read goes before its own. -/
inductive Ends (unread : ResultRow → Error) (rows : List ResultRow) (own : τ) :
    Except Error Unit → Nat → τ → Prop where
  | all (passes : r.Passes rows own) :
      Ends unread rows own (.ok ()) rows.length (r.after rows own)
  | unread (before : List ResultRow) (row : ResultRow) (rest : List ResultRow)
      (split : rows = before ++ row :: rest) (passes : r.Passes before own)
      (reports : r.reports row ≠ []) :
      Ends unread rows own (.error (unread row)) (before.length + 1)
        (r.after (before ++ [row]) own)
  | skip (before : List ResultRow) (row : ResultRow) (rest : List ResultRow)
      (split : rows = before ++ row :: rest) (passes : r.Passes before own)
      (reports : r.reports row = [])
      (skips : (r.visit row (r.after before own)).1 = .error .skipRows) :
      Ends unread rows own (.ok ()) (before.length + 1) (r.after (before ++ [row]) own)
  | fail (before : List ResultRow) (row : ResultRow) (rest : List ResultRow)
      (split : rows = before ++ row :: rest) (passes : r.Passes before own)
      (reports : r.reports row = []) (e : Error) (other : e ≠ .skipRows)
      (fails : (r.visit row (r.after before own)).1 = .error e) :
      Ends unread rows own (.error e) (before.length + 1) (r.after (before ++ [row]) own)

variable {r}

/-- A row that passes comes before all others. -/
theorem Ends.cons {unread : ResultRow → Error} {row : ResultRow} {rows : List ResultRow}
    {own own' : τ} {result : Except Error Unit} {k : Nat} (reports : r.reports row = [])
    (passes : (r.visit row own).1 = .ok ())
    (h : r.Ends unread rows (r.visit row own).2 result k own') :
    r.Ends unread (row :: rows) own result (k + 1) own' := by
  cases h with
  | all rest => exact .all ⟨reports, passes, rest⟩
  | unread before last rest split before' bad =>
      exact .unread (row :: before) last rest (congrArg (row :: ·) split)
        ⟨reports, passes, before'⟩ bad
  | skip before last rest split before' good skips =>
      exact .skip (row :: before) last rest (congrArg (row :: ·) split)
        ⟨reports, passes, before'⟩ good skips
  | fail before last rest split before' good e other fails =>
      exact .fail (row :: before) last rest (congrArg (row :: ·) split)
        ⟨reports, passes, before'⟩ good e other fails

/-- The reader sees at least one of some rows. -/
theorem Ends.pos {unread : ResultRow → Error} {rows : List ResultRow} {own own' : τ}
    {result : Except Error Unit} {k : Nat} (h : r.Ends unread rows own result k own')
    (some : rows ≠ []) : 0 < k := by
  cases h with
  | all => exact List.length_pos_iff.mpr some
  | unread => exact Nat.succ_pos _
  | skip => exact Nat.succ_pos _
  | fail => exact Nat.succ_pos _

variable (r)

theorem mapper_blank (contexts : Contexts) (own : τ) :
    r.mapper ⟨.blank, contexts, own⟩ =
      ((r.discovery own).1, ⟨.discovery r.requested, contexts, (r.discovery own).2⟩) := by
  rw [mapper, RowView.blank, readAll_discovery]
  rfl

theorem mapper_ofRow (row : ResultRow) (contexts : Contexts) (own : τ) :
    r.mapper ⟨.ofRow row, contexts, own⟩ =
      ((r.visit row own).1,
        ⟨.live row r.getters.length (r.reports row), contexts, (r.visit row own).2⟩) := by
  rw [mapper, RowView.ofRow, readAll_live, Nat.zero_add]
  rfl

end Reader

/-! ## The rows of an answer -/

namespace Fetch

variable {τ : Type} (r : Reader τ)

theorem onView_ofRow (row : ResultRow) (s : CallState τ) :
    onView r.mapper (.ofRow row) s =
      ((r.visit row s.own).1, .live row r.getters.length (r.reports row),
        { s with own := (r.visit row s.own).2 }) := by
  rw [onView, r.mapper_ofRow]

theorem scanError_eq {s : Scratch} {b : BuiltQuery} (h : s.Holds b) (row : ResultRow) :
    scanError s r.requested (r.reports row) = r.scanError b row := by
  have numbered : r.requested.zipIdx = r.getters.zipIdx.map (Prod.map Getter.requested id) := by
    rw [Reader.requested, List.zipIdx_map]
  rw [scanError, numbered, List.map_map, h.dialect, h.sql, h.args]
  rfl

theorem holds_countRow (limit : Nat) (requested : List RequestedField) (row : ResultRow)
    {s : CallState τ} {b : BuiltQuery} (h : s.scratch.Holds b) :
    (countRow limit requested row s).scratch.Holds b := by
  simp only [countRow]
  split
  · exact ⟨h.dialect, h.sql, h.args⟩
  · exact h

/-- One row of an answer. -/
theorem mapRows_cons (limit : Nat) (row : ResultRow) (rest : List ResultRow) (s : CallState τ) :
    mapRows limit r.requested r.mapper (row :: rest) s =
      let next : CallState τ :=
        { countRow limit r.requested row s with own := (r.visit row s.own).2 }
      if (r.reports row).isEmpty then
        match (r.visit row s.own).1 with
        | .ok _ => mapRows limit r.requested r.mapper rest next
        | .error .skipRows => (.ok (), next)
        | .error e => (.error e, next)
      else (.error (scanError next.scratch r.requested (r.reports row)), next) := by
  simp only [mapRows, onView_ofRow]
  rfl

/-- The loop over the rows of an answer. -/
theorem ends_mapRows (limit : Nat) (b : BuiltQuery) (rows : List ResultRow) (s : CallState τ)
    (h : s.scratch.Holds b) :
    ∃ k, (mapRows limit r.requested r.mapper rows s).2.rowCount = s.rowCount + k ∧
      r.Ends (r.scanError b) rows s.own (mapRows limit r.requested r.mapper rows s).1 k
        (mapRows limit r.requested r.mapper rows s).2.own := by
  -- Counting a row may add to the preview, but it leaves the statement in the buffers.
  induction rows generalizing s with
  | nil => exact ⟨0, rfl, .all trivial⟩
  | cons row rest ih =>
      have counted := holds_countRow limit r.requested row h
      rw [mapRows_cons]
      by_cases good : r.reports row = []
      · simp only [good, List.isEmpty_nil, ↓reduceIte]
        cases ended : (r.visit row s.own).1 with
        | ok _ =>
            obtain ⟨k, count, ends⟩ := ih
              { countRow limit r.requested row s with own := (r.visit row s.own).2 } counted
            refine ⟨k + 1, ?_, ends.cons good ended⟩
            rw [count, Nat.add_comm k 1, ← Nat.add_assoc]
            rfl
        | error e =>
            by_cases skips : e = .skipRows
            · subst skips
              exact ⟨1, rfl, .skip [] row rest rfl trivial good ended⟩
            · have fails : r.Ends (r.scanError b) (row :: rest) s.own (.error e) 1
                  (r.visit row s.own).2 := .fail [] row rest rfl trivial good e skips ended
              split
              · rename_i eq
                cases eq
              · rename_i eq
                cases eq
                exact absurd rfl skips
              · rename_i eq
                cases eq
                exact ⟨1, rfl, fails⟩
      · have failed : (r.reports row).isEmpty = false := List.isEmpty_eq_false_iff.mpr good
        simp only [failed, Bool.false_eq_true, ↓reduceIte, scanError_eq r counted]
        exact ⟨1, rfl, .unread [] row rest rfl trivial good⟩

end Fetch

end SqlCompose
