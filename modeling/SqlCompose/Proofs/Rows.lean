import SqlCompose.Statement.Clause

/-!
# What rows are made of

Cells are moved into rows and never changed, so what holds of every cell
that was added holds of every column and every value in the rows
(`Cell.table_holds`). One step adds one cell (`RowTable.Holds.put`). The
same goes for the cells of a mapper's run, which become the columns and rows
of an insertion or the assignments of an update.
-/

namespace SqlCompose

variable {C V : Type} {P : C → Prop} {Q : V → Prop}

namespace RowTable

/-- All columns and all values so far have a property each. -/
structure Holds (P : C → Prop) (Q : V → Prop) (t : RowTable C V) : Prop where
  columns : ∀ c ∈ t.columns, P c.2
  finished : ∀ row ∈ t.finished, ∀ v, some v ∈ row → Q v
  current : ∀ v, some v ∈ t.current → Q v

theorem holds_empty : Holds P Q {} := ⟨nofun, nofun, nofun⟩

/-- A value set into a row is the only new one in it. -/
theorem holds_set {row : List (Option V)} (h : ∀ v, some v ∈ row → Q v) (i : Nat) {value : V}
    (hv : Q value) : ∀ v, some v ∈ row.set i (some value) → Q v := by
  intro v hmem
  rcases List.mem_or_eq_of_mem_set hmem with hmem | heq
  · exact h v hmem
  · cases heq
    exact hv

theorem Holds.fill {t : RowTable C V} (h : t.Holds P Q) (i : Nat) {value : V} (hv : Q value) :
    (t.fill i value).Holds P Q := by
  rw [RowTable.fill]
  split
  · refine ⟨h.columns, fun row hrow => ?_, holds_set (fun v hv => ?_) i hv⟩
    · rcases List.mem_append.mp hrow with hrow | hrow
      · exact h.finished row hrow
      · rw [List.mem_singleton.mp hrow]
        exact h.current
    · cases List.eq_of_mem_replicate hv
  · exact ⟨h.columns, h.finished, holds_set h.current i hv⟩

theorem Holds.put {t t' : RowTable C V} (h : t.Holds P Q) {cell : Cell C V}
    (hc : P cell.column ∧ Q cell.value) (hput : t.put cell = .ok t') : t'.Holds P Q := by
  rw [RowTable.put] at hput
  split at hput
  · cases hput
    exact h.fill _ hc.2
  · split at hput
    · cases hput
      refine ⟨fun c hmem => ?_, h.finished, fun v hmem => ?_⟩
      · rcases List.mem_append.mp hmem with hmem | hmem
        · exact h.columns c hmem
        · rw [List.mem_singleton.mp hmem]
          exact hc.1
      · rcases List.mem_append.mp hmem with hmem | hmem
        · exact h.current v hmem
        · cases List.mem_singleton.mp hmem
          exact hc.2
    · cases hput

theorem Holds.putAll {cells : List (Cell C V)} {t t' : RowTable C V} (h : t.Holds P Q)
    (hcells : ∀ c ∈ cells, P c.column ∧ Q c.value) (hput : t.putAll cells = .ok t') :
    t'.Holds P Q := by
  induction cells generalizing t with
  | nil =>
      cases hput
      exact h
  | cons cell cells ih =>
      obtain ⟨hcell, hcells⟩ := List.forall_mem_cons.mp hcells
      rw [RowTable.putAll] at hput
      cases hstep : t.put cell with
      | error e =>
          rw [hstep] at hput
          cases hput
      | ok next =>
          rw [hstep] at hput
          exact ih (h.put hcell hstep) hcells hput

end RowTable

/-- Columns and values come from the cells. -/
theorem Cell.table_holds {cells : List (Cell C V)} {columns : List C}
    {rows : List (List (Option V))} (hcells : ∀ c ∈ cells, P c.column ∧ Q c.value)
    (h : Cell.table cells = .ok (columns, rows)) :
    (∀ c ∈ columns, P c) ∧ ∀ row ∈ rows, ∀ v, some v ∈ row → Q v := by
  rw [Cell.table] at h
  cases hput : RowTable.putAll {} cells with
  | error e =>
      rw [hput] at h
      cases h
  | ok t =>
      have ht := RowTable.holds_empty.putAll hcells hput
      rw [hput] at h
      cases h
      refine ⟨fun c hc => ?_, fun row hrow => ?_⟩
      · obtain ⟨column, hcolumn, rfl⟩ := List.mem_map.mp hc
        exact ht.columns column hcolumn
      · rw [RowTable.rows] at hrow
        split at hrow
        · cases hrow
        · rcases List.mem_append.mp hrow with hrow | hrow
          · exact ht.finished row hrow
          · rw [List.mem_singleton.mp hrow]
            exact ht.current

/-! ## Runs of a mapper -/

namespace MapperRun

open Fragment

variable {P : Fragment → Prop}

/-- All columns and values that were given have a property. -/
def Holds (P : Fragment → Prop) (run : MapperRun) : Prop :=
  ∀ cell ∈ run.cells, P cell.column ∧ P cell.value

theorem Holds.append {a b : MapperRun} (ha : a.Holds P) (hb : b.Holds P) :
    (a.append b).Holds P := by
  rw [MapperRun.append]
  split
  · exact ha
  · exact List.forall_mem_append.mpr ⟨ha, hb⟩

theorem Holds.table {run : MapperRun} (h : run.Holds P) (null : P (text "NULL"))
    {columns : List Fragment} {rows : List (List Fragment)}
    (ht : run.table = .ok (columns, rows)) :
    (∀ f ∈ columns, P f) ∧ ∀ row ∈ rows, ∀ f ∈ row, P f := by
  rw [MapperRun.table] at ht
  split at ht
  · cases ht
  · cases hcells : Cell.table run.cells with
    | error e =>
        rw [hcells] at ht
        cases ht
    | ok filled =>
        obtain ⟨columns, filled⟩ := filled
        rw [hcells] at ht
        cases ht
        obtain ⟨hcolumns, hrows⟩ := Cell.table_holds h hcells
        refine ⟨hcolumns, fun row hrow f hf => ?_⟩
        obtain ⟨values, hvalues, rfl⟩ := List.mem_map.mp hrow
        obtain ⟨value, hvalue, rfl⟩ := List.mem_map.mp hf
        cases value with
        | none => exact null
        | some v => exact hrows values hvalues v hvalue

theorem Holds.assignments {run : MapperRun} (h : run.Holds P)
    (assign : ∀ c v, P c → P v → P (c ++ text " = " ++ v)) {fs : List Fragment}
    (ha : run.assignments = .ok fs) : ∀ f ∈ fs, P f := by
  rw [MapperRun.assignments] at ha
  split at ha
  · cases ha
  · cases ha
    exact List.forall_mem_map.mpr fun cell hcell =>
      assign _ _ (h cell hcell).1 (h cell hcell).2

end MapperRun

end SqlCompose
