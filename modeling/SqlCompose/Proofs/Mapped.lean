import SqlCompose.Proofs.Render

/-!
# Statements filled by a mapper

A mapper names fields and gives them operands (`Mapping`), and what it gives
does not depend on how fields and operands are written. So columns and rows,
or assignments, can be read off before anything is rendered, and the
statement that has them in place of the mapper (`Insert.explicit`,
`Update.explicit`) is written in the same way (`Insert.sql_explicit`,
`Update.sql_explicit`). Where there is none, because the mapper failed or
named a column too late, nothing is written.
-/

namespace SqlCompose

open Fragment

/-! ## Putting cells into rows and rendering them

Rows are filled by the names of columns alone, so it does not matter
whether columns and values are replaced before or after.
-/

section Rows

variable {C C' V V' : Type} (f : C → C') (g : V → V')

def Cell.map (c : Cell C V) : Cell C' V' := ⟨c.name, f c.column, g c.value⟩

namespace RowTable

def map (t : RowTable C V) : RowTable C' V' :=
  ⟨t.columns.map (Prod.map id f), t.finished.map (·.map (·.map g)), t.current.map (·.map g)⟩

theorem fill_map (t : RowTable C V) (i : Nat) (value : V) :
    (t.map f g).fill i (g value) = (t.fill i value).map f g := by
  have found : (t.map f g).current[i]? = (t.current[i]?).map (·.map g) := List.getElem?_map
  rw [fill, fill, found]
  match t.current[i]? with
  | some (some _) => simp [map, List.map_set]
  | some none => simp [map, List.map_set]
  | none => simp [map, List.map_set]

theorem put_map (t : RowTable C V) (cell : Cell C V) :
    (t.map f g).put (cell.map f g) = (t.put cell).map (map f g) := by
  have index : (t.map f g).index? (cell.map f g).name = t.index? cell.name := by
    simp only [index?, map, List.findIdx?_map]
    rfl
  have finished : (t.map f g).finished.isEmpty = t.finished.isEmpty := List.isEmpty_map
  rw [put, put, index]
  cases t.index? cell.name with
  | some i => exact congrArg Except.ok (fill_map f g t i cell.value)
  | none =>
      simp only [finished]
      split
      · simp [Except.map, map, Cell.map]
      · rfl

theorem putAll_map (t : RowTable C V) (cells : List (Cell C V)) :
    (t.map f g).putAll (cells.map (Cell.map f g)) = (t.putAll cells).map (map f g) := by
  induction cells generalizing t with
  | nil => rfl
  | cons cell cells ih =>
      rw [List.map_cons, putAll, putAll, put_map]
      cases t.put cell with
      | error e => rfl
      | ok next => exact ih next

end RowTable

theorem RowTable.rows_map (t : RowTable C V) :
    (t.map f g).rows = t.rows.map (·.map (·.map g)) := by
  have columns : (t.map f g).columns.isEmpty = t.columns.isEmpty := List.isEmpty_map
  rw [rows, rows, columns]
  split
  · rfl
  · simp [map]

theorem Cell.table_map (cells : List (Cell C V)) :
    Cell.table (cells.map (Cell.map f g)) =
      (Cell.table cells).map fun (columns, rows) => (columns.map f, rows.map (·.map (·.map g))) := by
  have all : RowTable.putAll {} (cells.map (Cell.map f g)) =
      (RowTable.putAll {} cells).map (RowTable.map f g) :=
    RowTable.putAll_map f g {} cells
  rw [Cell.table, Cell.table, all]
  cases RowTable.putAll {} cells with
  | error e => rfl
  | ok t =>
      have columns : (t.map f g).columns.map Prod.snd = (t.columns.map Prod.snd).map f := by
        simp [RowTable.map]
      exact congrArg Except.ok (Prod.ext columns (t.rows_map f g))

end Rows

/-! ## What a mapper gives -/

/-- The cells that a mapper gave before it ended, with the error it ended
in. -/
structure Mapping where
  cells : List (Cell Field Operand) := []
  stop : Option Error := none

namespace Mapping

/-- Goes on with another mapping, unless the first one failed. -/
def append (a b : Mapping) : Mapping :=
  match a.stop with
  | some _ => a
  | none => ⟨a.cells ++ b.cells, b.stop⟩

/-- Columns and rows, a cell that was not given being null. -/
def insertion (m : Mapping) : Except Error (List Field × List (List Operand)) :=
  match m.stop with
  | some e => .error e
  | none =>
    (Cell.table m.cells).map fun (columns, rows) => (columns, rows.map (·.map (·.getD .null)))

def assignments (m : Mapping) : Except Error (List Assignment) :=
  match m.stop with
  | some e => .error e
  | none => .ok (m.cells.map fun cell => ⟨.field cell.column, cell.value⟩)

end Mapping

mutual

def MapperStep.mapping (mode : MapperMode) : MapperStep → Mapping
  | .set f o => ⟨[⟨f.name, f, o⟩], none⟩
  | .fail e => ⟨[], some e⟩
  | .inMode m steps => if m = mode then stepsMapping mode steps else {}
termination_by structural s => s

def stepsMapping (mode : MapperMode) : List MapperStep → Mapping
  | [] => {}
  | s :: rest => (s.mapping mode).append (stepsMapping mode rest)
termination_by structural ss => ss

end

/-- The insertion with the columns and rows of its mapper given one by
one. -/
def Insert.explicit (i : Insert) : Except Error Insert :=
  match i.mapper with
  | none => .ok i
  | some steps =>
    (stepsMapping .insert steps).insertion.map fun (columns, rows) =>
      { i with columns, rows, mapper := none }

/-- The update with the assignments of its mapper given one by one. -/
def Update.explicit (u : Update) : Except Error Update :=
  match u.mapper with
  | none => .ok u
  | some steps =>
    (stepsMapping .update steps).assignments.map fun assignments =>
      { u with assignments, mapper := none }

/-! ## Rendering it -/

/-- The operand of a cell, as each kind of statement writes it. -/
def MapperMode.valueSql (mode : MapperMode) (excluded : List String) (o : Operand) : Fragment :=
  match mode with
  | .insert => o.sql []
  | .update => parensIf o.isQuery (o.sql excluded)

namespace Mapping

def run (mode : MapperMode) (excluded : List String) (m : Mapping) : MapperRun :=
  ⟨m.cells.map (Cell.map (·.sql excluded) (mode.valueSql excluded)), m.stop⟩

theorem run_append (mode : MapperMode) (excluded : List String) (a b : Mapping) :
    (a.append b).run mode excluded = (a.run mode excluded).append (b.run mode excluded) := by
  rw [append, MapperRun.append, run]
  split
  · rename_i e failed
    simp only [run, failed]
  · rename_i ran
    simp only [run, ran, List.map_append]

end Mapping

mutual

theorem MapperStep.run_mapping (mode : MapperMode) (excluded : List String) :
    (s : MapperStep) → s.run mode excluded = (s.mapping mode).run mode excluded
  -- The two kinds of statement differ only in how they write the operand.
  | .set f o => by cases mode <;> rfl
  | .fail e => rfl
  | .inMode m steps => by
      rw [MapperStep.run, MapperStep.mapping]
      split
      · exact runSteps_mapping mode excluded steps
      · rfl
termination_by structural s => s

theorem runSteps_mapping (mode : MapperMode) (excluded : List String) :
    (ss : List MapperStep) → runSteps mode excluded ss = (stepsMapping mode ss).run mode excluded
  | [] => rfl
  | s :: rest => by
      rw [runSteps, stepsMapping, Mapping.run_append, s.run_mapping mode excluded,
        runSteps_mapping mode excluded rest]
termination_by structural ss => ss

end

theorem rowsSql_eq_map : ∀ rows : List (List Operand), rowsSql rows = rows.map operandsSql
  | [] => rfl
  | r :: rows => congrArg (operandsSql r :: ·) (rowsSql_eq_map rows)

theorem assignmentsSql_eq_map (excluded : List String) :
    ∀ as : List Assignment, assignmentsSql excluded as = as.map (·.sql excluded)
  | [] => rfl
  | a :: as => congrArg (a.sql excluded :: ·) (assignmentsSql_eq_map excluded as)

namespace Mapping

theorem table_run (m : Mapping) (excluded : List String) :
    (m.run .insert excluded).table =
      m.insertion.map fun (columns, rows) => (fieldsSql excluded columns, rowsSql rows) := by
  have cell : ∀ o : Option Operand, cellSql (o.map (·.sql [])) = (o.getD .null).sql [] := by
    intro o
    cases o <;> rfl
  rw [MapperRun.table, insertion]
  cases failed : m.stop with
  | some e => simp only [run, failed]; rfl
  | none =>
      simp only [run, failed]
      have made := Cell.table_map (·.sql excluded) (MapperMode.insert.valueSql excluded) m.cells
      rw [made]
      cases Cell.table m.cells with
      | error e => rfl
      | ok parts =>
          obtain ⟨columns, rows⟩ := parts
          have rendered : (rows.map (·.map (·.map (·.sql [])))).map (·.map cellSql) =
              rowsSql (rows.map (·.map (·.getD .null))) := by
            simp only [rowsSql_eq_map, List.map_map]
            refine List.map_congr_left fun row _ => ?_
            simp only [Function.comp_apply, List.map_map, operandsSql_eq_map]
            exact List.map_congr_left fun o _ => cell o
          have named : columns.map (·.sql excluded) = fieldsSql excluded columns :=
            (fieldsSql_eq_map excluded columns).symm
          exact congrArg Except.ok (Prod.ext named rendered)

theorem assignments_run (m : Mapping) (excluded : List String) :
    (m.run .update excluded).assignments = m.assignments.map (assignmentsSql excluded) := by
  rw [MapperRun.assignments, assignments]
  cases failed : m.stop with
  | some e => simp only [run, failed]; rfl
  | none =>
      simp only [run, failed, Except.map, assignmentsSql_eq_map, List.map_map]
      rfl

end Mapping

/-! ## The same statement without a mapper -/

theorem Insert.sql_mapper (i : Insert) (steps : List MapperStep) :
    Insert.sql { i with mapper := some steps } =
      match (stepsMapping .insert steps).insertion with
      | .error e => fail e
      | .ok (columns, rows) => Insert.sql { i with columns, rows, mapper := none } := by
  obtain ⟨ctes, target, columns, rows, mapper, select, conflict⟩ := i
  simp only [Insert.sql, runMapper, InsertParts.sql, runSteps_mapping, Mapping.table_run]
  cases (stepsMapping .insert steps).insertion <;> rfl

theorem Update.sql_mapper (u : Update) (steps : List MapperStep) :
    Update.sql { u with mapper := some steps } =
      match (stepsMapping .update steps).assignments with
      | .error e => fail e
      | .ok assignments => Update.sql { u with assignments, mapper := none } := by
  obtain ⟨ctes, target, assignments, mapper, source, joins, conditions, orderBy, limit, offset⟩ := u
  simp only [Update.sql, runMapper, UpdateParts.sql, runSteps_mapping, Mapping.assignments_run]
  cases (stepsMapping .update steps).assignments <;> rfl

/-- An insertion is written as the one with the columns and rows of its
mapper, or not at all. -/
theorem Insert.sql_explicit (i : Insert) :
    i.sql = match i.explicit with
      | .error e => fail e
      | .ok i => i.sql := by
  obtain ⟨ctes, target, columns, rows, mapper, select, conflict⟩ := i
  cases mapper with
  | none => rfl
  | some steps =>
      refine (Insert.sql_mapper ⟨ctes, target, columns, rows, none, select, conflict⟩ steps).trans ?_
      simp only [explicit]
      cases (stepsMapping .insert steps).insertion <;> rfl

theorem Update.sql_explicit (u : Update) :
    u.sql = match u.explicit with
      | .error e => fail e
      | .ok u => u.sql := by
  obtain ⟨ctes, target, assignments, mapper, source, joins, conditions, orderBy, limit, offset⟩ := u
  cases mapper with
  | none => rfl
  | some steps =>
      refine (Update.sql_mapper ⟨ctes, target, assignments, none, source, joins, conditions, orderBy,
        limit, offset⟩ steps).trans ?_
      simp only [explicit]
      cases (stepsMapping .update steps).assignments <;> rfl

/-- What a mapper fills is all that it stands for. -/
theorem Insert.eq_of_explicit {i j : Insert} (h : i.explicit = .ok j) :
    ∃ columns rows, j = { i with columns, rows, mapper := none } := by
  obtain ⟨ctes, target, columns, rows, mapper, select, conflict⟩ := i
  cases mapper with
  | none =>
      cases h
      exact ⟨columns, rows, rfl⟩
  | some steps =>
      simp only [explicit] at h
      cases given : (stepsMapping .insert steps).insertion with
      | error e =>
          rw [given] at h
          cases h
      | ok parts =>
          rw [given] at h
          cases h
          exact ⟨parts.1, parts.2, rfl⟩

theorem Update.eq_of_explicit {u v : Update} (h : u.explicit = .ok v) :
    ∃ assignments, v = { u with assignments, mapper := none } := by
  obtain ⟨ctes, target, assignments, mapper, source, joins, conditions, orderBy, limit, offset⟩ := u
  cases mapper with
  | none =>
      cases h
      exact ⟨assignments, rfl⟩
  | some steps =>
      simp only [explicit] at h
      cases given : (stepsMapping .update steps).assignments with
      | error e =>
          rw [given] at h
          cases h
      | ok assignments =>
          rw [given] at h
          cases h
          exact ⟨assignments, rfl⟩

end SqlCompose
