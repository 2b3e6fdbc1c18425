import Mathlib.Data.List.Nodup
import SqlCompose.Proofs.Mapped

/-!
# Rows as segments

The cells that a mapper gives fall into segments: each goes on until a name
would come up in it a second time (`Cell.segments`). A segment is a row.
The first one says which columns there are, and every later one can only
leave some of them out; a name that the first one does not have is refused
where it comes up.

What carries this is a table that is known by its segments
(`RowTable.filled`): one more cell goes into the row of its segment, or
begins the next one (`RowTable.put_free`, `RowTable.put_again`,
`RowTable.put_new`, `RowTable.put_late`).
-/

namespace SqlCompose

variable {C V : Type}

/-! ## Segments -/

namespace Cell

def names (cells : List (Cell C V)) : List String := cells.map (·.name)

/-- Cuts cells before each one whose name its segment has already, `begun`
being what the segment has so far. -/
def segmentsFrom : (begun : List (Cell C V)) → List (Cell C V) → List (List (Cell C V))
  | begun, [] => [begun]
  | begun, cell :: rest =>
    if cell.name ∈ names begun then begun :: segmentsFrom [cell] rest
    else segmentsFrom (begun ++ [cell]) rest

/-- The segments of cells; there is none before the first cell. -/
def segments : List (Cell C V) → List (List (Cell C V))
  | [] => []
  | cell :: rest => segmentsFrom [cell] rest

/-- The value that a segment has for a name. -/
def valueIn (segment : List (Cell C V)) (name : String) : Option V :=
  (segment.find? (·.name = name)).map (·.value)

/-- A segment as a row: its value for each of the columns. -/
def row (columns segment : List (Cell C V)) : List (Option V) :=
  columns.map fun c => valueIn segment c.name

/-- The columns of the first segment and a row for each. -/
def parts : (segments : List (List (Cell C V))) → List C × List (List (Option V))
  | [] => ([], [])
  | first :: later => (first.map (·.column), (first :: later).map (row first))

/-- A cell is too late for the columns of the first segment. -/
def isLate (first : List (Cell C V)) (cell : Cell C V) : Bool := !(names first).contains cell.name

/-- The first cell of a later segment that is too late. -/
def late? : (segments : List (List (Cell C V))) → Option (Cell C V)
  | [] => none
  | first :: later => later.flatten.find? (isLate first)

variable {first begun rest : List (Cell C V)} {cell : Cell C V} {name : String}

theorem isLate_eq_false : isLate first cell = false ↔ cell.name ∈ names first := by
  rw [isLate, Bool.not_eq_false', List.contains_iff_mem]

theorem isLate_eq_true : isLate first cell = true ↔ cell.name ∉ names first := by
  rw [← isLate_eq_false, Bool.not_eq_false]

theorem names_append (a b : List (Cell C V)) : names (a ++ b) = names a ++ names b :=
  List.map_append

theorem flatten_segmentsFrom (begun rest : List (Cell C V)) :
    (segmentsFrom begun rest).flatten = begun ++ rest := by
  fun_induction segmentsFrom begun rest with
  | case1 begun => simp
  | case2 begun cell rest again ih => rw [List.flatten_cons, ih, List.singleton_append]
  | case3 begun cell rest new ih => rw [ih, List.append_assoc, List.singleton_append]

theorem flatten_segments (cells : List (Cell C V)) : (segments cells).flatten = cells := by
  cases cells with
  | nil => rfl
  | cons cell rest => exact flatten_segmentsFrom [cell] rest

theorem nodup_names_concat (h : (names begun).Nodup) (new : cell.name ∉ names begun) :
    (names (begun ++ [cell])).Nodup := by
  rw [names_append]
  exact h.append (List.nodup_singleton _) (List.disjoint_singleton.mpr new)

theorem nodup_segmentsFrom (h : (names begun).Nodup) :
    ∀ s ∈ segmentsFrom begun rest, (names s).Nodup := by
  fun_induction segmentsFrom begun rest with
  | case1 begun => exact List.forall_mem_singleton.mpr h
  | case2 begun cell rest again ih =>
      exact List.forall_mem_cons.mpr ⟨h, ih (List.nodup_singleton _)⟩
  | case3 begun cell rest new ih => exact ih (nodup_names_concat h new)

/-- No segment has a name twice. -/
theorem nodup_segments (cells : List (Cell C V)) : ∀ s ∈ segments cells, (names s).Nodup := by
  cases cells with
  | nil => exact nofun
  | cons cell rest => exact nodup_segmentsFrom (List.nodup_singleton _)

/-- A segment begins with a cell, and so it has one. -/
theorem exists_segmentsFrom (rest : List (Cell C V)) :
    ∀ {begun : List (Cell C V)}, begun ≠ [] →
      ∃ first later, segmentsFrom begun rest = first :: later ∧ first ≠ [] := by
  induction rest with
  | nil =>
      intro begun h
      exact ⟨begun, [], rfl, h⟩
  | cons cell rest ih =>
      intro begun h
      rw [segmentsFrom]
      split
      · exact ⟨begun, _, rfl, h⟩
      · exact ih (List.append_ne_nil_of_left_ne_nil h _)

/-! ## Values of a segment -/

theorem valueIn_eq_none (h : name ∉ names begun) : valueIn begun name = none := by
  have missing : begun.find? (·.name = name) = none := by
    refine List.find?_eq_none.mpr fun c mem same => h ?_
    exact List.mem_map.mpr ⟨c, mem, of_decide_eq_true same⟩
  rw [valueIn, missing, Option.map_none]

theorem exists_valueIn (h : name ∈ names begun) : ∃ v, valueIn begun name = some v := by
  obtain ⟨c, mem, same⟩ := List.mem_map.mp h
  have found : (begun.find? (·.name = name)).isSome :=
    List.find?_isSome.mpr ⟨c, mem, decide_eq_true same⟩
  obtain ⟨d, hd⟩ := Option.isSome_iff_exists.mp found
  exact ⟨d.value, by rw [valueIn, hd, Option.map_some]⟩

/-- A cell with a name of its own adds its value and changes no other. -/
theorem valueIn_concat (new : cell.name ∉ names begun) (name : String) :
    valueIn (begun ++ [cell]) name =
      if name = cell.name then some cell.value else valueIn begun name := by
  rw [valueIn, List.find?_append, Option.map_or]
  by_cases same : name = cell.name
  · have none := valueIn_eq_none new
    rw [valueIn, ← same] at none
    rw [none, if_pos same, Option.none_or, List.find?_singleton, if_pos (decide_eq_true same.symm),
      Option.map_some]
  · have other : ¬cell.name = name := fun h => same h.symm
    rw [if_neg same, List.find?_singleton, if_neg (by simpa using other), Option.map_none,
      Option.or_none, valueIn]

theorem valueIn_singleton (cell : Cell C V) (name : String) :
    valueIn [cell] name = if name = cell.name then some cell.value else none := by
  have new : cell.name ∉ names ([] : List (Cell C V)) := List.not_mem_nil
  exact valueIn_concat new name

end Cell

open Cell

/-! ## Tables known by their segments -/

namespace RowTable

/-- What is in error when a name comes up too late. -/
def late (name : String) : Error := .build ("column " ++ name ++ " was not set in the first row")

/-- The table with the columns of the first segment and a row for each
segment, the last of which has only begun. -/
def filled (first : List (Cell C V)) (done : List (List (Cell C V))) (begun : List (Cell C V)) :
    RowTable C V where
  columns := first.map fun c => (c.name, c.column)
  finished := done.map (row first)
  current := row first begun

variable {first begun : List (Cell C V)} {done : List (List (Cell C V))} {cell : Cell C V}

theorem index?_filled (name : String) :
    (filled first done begun).index? name = first.findIdx? (·.name = name) :=
  List.findIdx?_map

theorem index?_of_mem (done : List (List (Cell C V))) (begun : List (Cell C V))
    (h : cell.name ∈ names first) :
    ∃ i, (filled first done begun).index? cell.name = some i ∧
      ∃ c, first[i]? = some c ∧ c.name = cell.name := by
  obtain ⟨c, mem, same⟩ := List.mem_map.mp h
  have found : (first.findIdx? (·.name = cell.name)).isSome := by
    rw [List.findIdx?_isSome]
    exact List.any_eq_true.mpr ⟨c, mem, decide_eq_true same⟩
  obtain ⟨i, hi⟩ := Option.isSome_iff_exists.mp found
  obtain ⟨bound, named, -⟩ := List.findIdx?_eq_some_iff_getElem.mp hi
  exact ⟨i, (index?_filled _).trans hi, first[i], List.getElem?_eq_getElem bound,
    of_decide_eq_true named⟩

theorem index?_of_notMem (h : cell.name ∉ names first) :
    (filled first done begun).index? cell.name = none := by
  rw [index?_filled, List.findIdx?_eq_none_iff]
  intro c mem
  exact decide_eq_false fun same => h (List.mem_map.mpr ⟨c, mem, same⟩)

/-- Setting the place of a name is giving the name another value. -/
theorem row_set (nodup : (names first).Nodup) {i : Nat} {c : Cell C V} (hi : first[i]? = some c)
    (same : c.name = cell.name) {s s' : List (Cell C V)}
    (values : ∀ name,
      valueIn s' name = if name = cell.name then some cell.value else valueIn s name) :
    row first s' = (row first s).set i (some cell.value) := by
  refine List.ext_getElem? fun j => ?_
  rw [List.getElem?_set, row, row, List.getElem?_map, List.getElem?_map, List.length_map]
  by_cases h : i = j
  · subst h
    have bound := (List.getElem?_eq_some_iff.mp hi).1
    rw [if_pos rfl, if_pos bound, hi, Option.map_some, values, if_pos same]
  · rw [if_neg h]
    cases hj : first[j]? with
    | none => rfl
    | some d =>
        -- Only one column has the name.
        have other : d.name ≠ cell.name := by
          intro hd
          have hi' : (names first)[i]? = some cell.name := by
            rw [names, List.getElem?_map, hi, Option.map_some, same]
          have hj' : (names first)[j]? = some cell.name := by
            rw [names, List.getElem?_map, hj, Option.map_some, hd]
          have bound := (List.getElem?_eq_some_iff.mp hi').1
          exact h ((List.getElem?_inj bound nodup).mp (hi'.trans hj'.symm))
        rw [Option.map_some, Option.map_some, values, if_neg other]

/-- A cell with a name that its segment does not have yet goes into the
row. -/
theorem put_free (nodup : (names first).Nodup) (known : cell.name ∈ names first)
    (free : cell.name ∉ names begun) :
    (filled first done begun).put cell = .ok (filled first done (begun ++ [cell])) := by
  obtain ⟨i, hindex, c, hi, same⟩ := index?_of_mem done begun known
  have place : (filled first done begun).current[i]? = some none := by
    rw [filled, row, List.getElem?_map, hi, Option.map_some, same, valueIn_eq_none free]
  rw [put, hindex]
  simp only [fill, place]
  rw [filled, filled, row_set nodup hi same (valueIn_concat free)]

/-- A name that comes up again begins the next row. -/
theorem put_again (nodup : (names first).Nodup) (known : cell.name ∈ names first)
    (again : cell.name ∈ names begun) :
    (filled first done begun).put cell = .ok (filled first (done ++ [begun]) [cell]) := by
  obtain ⟨i, hindex, c, hi, same⟩ := index?_of_mem done begun known
  obtain ⟨v, hv⟩ := exists_valueIn again
  have place : (filled first done begun).current[i]? = some (some v) := by
    rw [filled, row, List.getElem?_map, hi, Option.map_some, same, hv]
  have empty : List.replicate (filled first done begun).columns.length none =
      row first ([] : List (Cell C V)) := by
    rw [filled, List.length_map, row]
    exact (List.map_const' ..).symm
  rw [put, hindex]
  simp only [fill, place, empty]
  rw [filled, filled, List.map_append, row_set (s := []) nodup hi same (valueIn_singleton cell)]
  rfl

/-- In the first row a new name is a new column. -/
theorem put_new (new : cell.name ∉ names begun) :
    (filled begun [] begun).put cell = .ok (filled (begun ++ [cell]) [] (begun ++ [cell])) := by
  have last : row (begun ++ [cell]) (begun ++ [cell]) = row begun begun ++ [some cell.value] := by
    rw [row, List.map_append, List.map_singleton, valueIn_concat new, if_pos rfl, row]
    congr 1
    refine List.map_congr_left fun c mem => ?_
    have other : c.name ≠ cell.name := fun h => new (List.mem_map.mpr ⟨c, mem, h⟩)
    rw [valueIn_concat new, if_neg other]
  rw [put, index?_of_notMem new, filled, filled, last, List.map_append]
  rfl

/-- In a later row a new name is refused. -/
theorem put_late (further : done ≠ []) (new : cell.name ∉ names first) :
    (filled first done begun).put cell = .error (late cell.name) := by
  have finished : (filled first done begun).finished.isEmpty = false := by
    rw [filled, List.isEmpty_map]
    exact List.isEmpty_eq_false_iff.mpr further
  rw [put, index?_of_notMem new]
  simp only [finished, Bool.false_eq_true, if_false]
  rfl

/-! ## Runs -/

/-- The columns and all rows so far. -/
def parts (t : RowTable C V) : List C × List (List (Option V)) :=
  (t.columns.map Prod.snd, t.finished ++ [t.current])

theorem parts_filled : (filled first done begun).parts =
    (first.map (·.column), (done ++ [begun]).map (row first)) := by
  rw [parts, filled, List.map_map, List.map_append, List.map_singleton]
  rfl

/-- Behind the first row, cells fill the rows of their segments up to the
first one whose name is new. -/
theorem putAll_later (nodup : (names first).Nodup) (rest : List (Cell C V)) :
    ∀ {done begun}, done ≠ [] →
      ((filled first done begun).putAll rest).map parts =
        match rest.find? (isLate first) with
        | some c => .error (late c.name)
        | none =>
          .ok (first.map (·.column), (done ++ segmentsFrom begun rest).map (row first)) := by
  induction rest with
  | nil =>
      intro done begun _
      exact congrArg Except.ok parts_filled
  | cons cell rest ih =>
      intro done begun further
      rw [putAll, List.find?_cons]
      by_cases known : cell.name ∈ names first
      · rw [isLate_eq_false.mpr known, segmentsFrom]
        by_cases again : cell.name ∈ names begun
        · rw [put_again nodup known again, if_pos again,
            List.append_cons done begun (segmentsFrom [cell] rest)]
          exact ih (List.append_ne_nil_of_right_ne_nil _ (List.cons_ne_nil _ _))
        · rw [put_free nodup known again, if_neg again]
          exact ih further
      · rw [put_late further known, isLate_eq_true.mpr known]
        rfl

/-- From the first row on, cells fill the rows of their segments up to the
first one of a later segment whose name the first segment does not have. -/
theorem putAll_first (rest : List (Cell C V)) :
    ∀ {begun : List (Cell C V)}, (names begun).Nodup →
      ((filled begun [] begun).putAll rest).map parts =
        match late? (segmentsFrom begun rest) with
        | some c => .error (late c.name)
        | none => .ok (Cell.parts (segmentsFrom begun rest)) := by
  induction rest with
  | nil =>
      intro begun _
      exact congrArg Except.ok parts_filled
  | cons cell rest ih =>
      intro begun nodup
      rw [putAll, segmentsFrom]
      by_cases again : cell.name ∈ names begun
      · -- The first segment is complete, so the columns are settled.
        rw [put_again nodup again again, if_pos again, late?, flatten_segmentsFrom,
          List.singleton_append, List.find?_cons, isLate_eq_false.mpr again]
        exact putAll_later nodup rest (List.cons_ne_nil _ _)
      · rw [put_new again, if_neg again]
        exact ih (nodup_names_concat nodup again)

theorem rows_eq {t : RowTable C V} (h : t.columns ≠ []) : t.rows = t.finished ++ [t.current] := by
  rw [rows, List.isEmpty_eq_false_iff.mpr h]
  rfl

/-- What was refused stays refused, whatever comes after it. -/
theorem putAll_append_of_error {xs : List (Cell C V)} {e : Error} :
    ∀ {t : RowTable C V}, t.putAll xs = .error e → ∀ ys, t.putAll (xs ++ ys) = .error e := by
  induction xs with
  | nil =>
      intro t h
      cases h
  | cons cell xs ih =>
      intro t h ys
      rw [putAll] at h
      rw [List.cons_append, putAll]
      cases hstep : t.put cell with
      | error e' =>
          rw [hstep] at h
          exact h
      | ok next =>
          rw [hstep] at h
          exact ih h ys

/-! ## Widths -/

/-- All rows are as wide as the list of columns. -/
structure IsRectangular (t : RowTable C V) : Prop where
  finished : ∀ row ∈ t.finished, row.length = t.columns.length
  current : t.current.length = t.columns.length

theorem IsRectangular.put {t t' : RowTable C V} (h : t.IsRectangular)
    (hput : t.put cell = .ok t') : t'.IsRectangular := by
  rw [RowTable.put] at hput
  split at hput
  · cases hput
    rw [fill]
    split
    · refine ⟨fun row mem => ?_, ?_⟩
      · rcases List.mem_append.mp mem with mem | mem
        · exact h.finished row mem
        · rw [List.mem_singleton.mp mem]
          exact h.current
      · rw [List.length_set, List.length_replicate]
    · exact ⟨h.finished, List.length_set.trans h.current⟩
  · split at hput
    · rename_i none
      cases hput
      have first : t.finished = [] := List.isEmpty_iff.mp none
      refine ⟨fun row mem => ?_, ?_⟩
      · rw [first] at mem
        cases mem
      · rw [List.length_append, List.length_append, h.current]
        rfl
    · cases hput

theorem IsRectangular.putAll (cells : List (Cell C V)) {t t' : RowTable C V}
    (h : t.IsRectangular) (hput : t.putAll cells = .ok t') : t'.IsRectangular := by
  induction cells generalizing t with
  | nil =>
      cases hput
      exact h
  | cons cell cells ih =>
      rw [RowTable.putAll] at hput
      cases hstep : t.put cell with
      | error e =>
          rw [hstep] at hput
          cases hput
      | ok next =>
          rw [hstep] at hput
          exact ih (h.put hstep) hput

/-- The place of a name is inside the current row. -/
theorem IsRectangular.index_lt {t : RowTable C V} (h : t.IsRectangular) {name : String} {i : Nat}
    (found : t.index? name = some i) : i < t.current.length := by
  rw [h.current]
  exact (List.findIdx?_eq_some_iff_getElem.mp found).1

end RowTable

/-! ## Columns and rows -/

namespace Cell

/-- Cells make a row of each segment, or are refused for the first name
that the first segment does not have. -/
theorem table_segments (cells : List (Cell C V)) :
    table cells =
      match late? (segments cells) with
      | some c => .error (RowTable.late c.name)
      | none => .ok (parts (segments cells)) := by
  cases cells with
  | nil => rfl
  | cons cell rest =>
      have started : RowTable.putAll {} (cell :: rest) =
          (RowTable.filled [cell] [] [cell]).putAll rest := by
        have new : (RowTable.filled [] [] []).put cell = .ok (RowTable.filled [cell] [] [cell]) :=
          RowTable.put_new List.not_mem_nil
        rw [RowTable.putAll]
        exact congrArg (Except.bind · (·.putAll rest)) new
      have nodup : (names [cell]).Nodup := List.nodup_singleton cell.name
      have run := RowTable.putAll_first rest nodup
      rw [table, started, segments]
      cases filled : (RowTable.filled [cell] [] [cell]).putAll rest with
      | error e =>
          rw [filled] at run
          rw [← run]
          rfl
      | ok t =>
          rw [filled] at run
          -- There is a column, and so there are rows.
          have columns : t.columns ≠ [] := by
            intro empty
            obtain ⟨first, later, cut, nonempty⟩ :=
              exists_segmentsFrom rest (List.cons_ne_nil cell [])
            rw [cut] at run
            cases found : late? (first :: later) with
            | some c =>
                rw [found] at run
                cases run
            | none =>
                rw [found] at run
                have written := congrArg Prod.fst (Except.ok.inj run)
                rw [RowTable.parts, empty] at written
                exact nonempty (List.map_eq_nil_iff.mp written.symm)
          rw [← run]
          exact congrArg (fun rows => Except.ok (t.columns.map Prod.snd, rows))
            (RowTable.rows_eq columns)

theorem late?_eq (segments : List (List (Cell C V))) :
    late? segments = segments.tail.flatten.find? (isLate (segments.headD [])) := by
  cases segments <;> rfl

theorem parts_eq (segments : List (List (Cell C V))) :
    parts segments =
      ((segments.headD []).map (·.column), segments.map (row (segments.headD []))) := by
  cases segments <;> rfl

theorem table_of_known {cells : List (Cell C V)}
    (known : ∀ s ∈ (segments cells).tail, ∀ c ∈ s, c.name ∈ names ((segments cells).headD [])) :
    table cells =
      .ok (((segments cells).headD []).map (·.column),
        (segments cells).map (row ((segments cells).headD []))) := by
  have none : late? (segments cells) = none := by
    rw [late?_eq, List.find?_eq_none]
    intro c mem
    obtain ⟨s, hs, hc⟩ := List.mem_flatten.mp mem
    exact Bool.eq_false_iff.mp (isLate_eq_false.mpr (known s hs c hc))
  rw [table_segments, none, parts_eq]

theorem table_of_late {cells before after : List (Cell C V)} {c : Cell C V}
    (split : (segments cells).tail.flatten = before ++ c :: after)
    (known : ∀ b ∈ before, b.name ∈ names ((segments cells).headD []))
    (new : c.name ∉ names ((segments cells).headD [])) (more : List (Cell C V)) :
    table (cells ++ more) = .error (RowTable.late c.name) := by
  have some : late? (segments cells) = some c := by
    rw [late?_eq, List.find?_eq_some_iff_append]
    refine ⟨isLate_eq_true.mpr new, before, after, split, fun b mem => ?_⟩
    rw [isLate_eq_false.mpr (known b mem)]
    rfl
  have refused := table_segments cells
  rw [some, table] at refused
  cases put : RowTable.putAll {} cells with
  | error e =>
      rw [put] at refused
      rw [table, RowTable.putAll_append_of_error put more]
      exact congrArg Except.error (Except.error.inj refused)
  | ok t =>
      rw [put] at refused
      cases refused

end Cell

/-! ## What a mapper sets

A call of a mapper sets a field to an operand.
-/

def Cell.ofCall (call : Field × Operand) : Cell Field Operand := ⟨call.1.name, call.1, call.2⟩

def MapperStep.ofCall (call : Field × Operand) : MapperStep := .set call.1 call.2

theorem stepsMapping_calls (mode : MapperMode) (calls : List (Field × Operand)) :
    stepsMapping mode (calls.map MapperStep.ofCall) = ⟨calls.map Cell.ofCall, none⟩ := by
  induction calls with
  | nil => rfl
  | cons call calls ih =>
      rw [List.map_cons, stepsMapping, ih]
      rfl

/-- What calls give is what their cells give, a missing value being null. -/
theorem table_calls (excluded : List String) (calls : List (Field × Operand)) :
    (runSteps .insert excluded (calls.map MapperStep.ofCall)).table =
      (Cell.table (calls.map Cell.ofCall)).map fun (columns, rows) =>
        (columns.map (·.sql excluded), rows.map (·.map fun v => (v.getD .null).sql [])) := by
  rw [runSteps_mapping, stepsMapping_calls, Mapping.table_run, Mapping.insertion]
  cases Cell.table (calls.map Cell.ofCall) with
  | error e => rfl
  | ok parts =>
      refine congrArg Except.ok (Prod.ext (fieldsSql_eq_map excluded _) ?_)
      simp only [rowsSql_eq_map, operandsSql_eq_map, List.map_map, Function.comp_def]

/-- The calls of a mapper, cut before each one whose name its segment has
already. If the first segment has all names, its fields are the columns, and
each segment is a row with its value for every column, or null. If not,
the first name that it lacks is in error, whatever is set afterwards. On the
way all rows are as wide as the list of columns, so that a place of a column
is never outside a row. -/
theorem MapperRun.rows_of_segments (calls : List (Field × Operand)) (excluded : List String) :
    let cells := calls.map Cell.ofCall
    let segments := Cell.segments cells
    let first := segments.headD []
    segments.flatten = cells ∧ (∀ s ∈ segments, (Cell.names s).Nodup) ∧
    ((∀ s ∈ segments.tail, ∀ c ∈ s, c.name ∈ Cell.names first) →
      Cell.table cells =
        .ok (first.map (·.column), segments.map fun s => first.map fun c => Cell.valueIn s c.name) ∧
      (runSteps .insert excluded (calls.map MapperStep.ofCall)).table =
        .ok (first.map (·.column.sql excluded), segments.map fun s => first.map fun c =>
          ((Cell.valueIn s c.name).getD .null).sql [])) ∧
    (∀ before c after, segments.tail.flatten = before ++ c :: after →
      (∀ b ∈ before, b.name ∈ Cell.names first) → c.name ∉ Cell.names first →
      ∀ more, (runSteps .insert excluded ((calls ++ more).map MapperStep.ofCall)).table =
        .error (.build ("column " ++ c.name ++ " was not set in the first row"))) ∧
    ∀ (n : Nat) (t : RowTable Field Operand), RowTable.putAll {} (cells.take n) = .ok t →
      (∀ row ∈ t.finished ++ [t.current], row.length = t.columns.length) ∧
      ∀ name i, t.index? name = some i → i < t.current.length := by
  intro cells segments first
  refine ⟨Cell.flatten_segments cells, Cell.nodup_segments cells, fun known => ?_, ?_, ?_⟩
  · have filled := Cell.table_of_known known
    refine ⟨filled, ?_⟩
    rw [table_calls, filled]
    simp only [Except.map, Cell.row, List.map_map, Function.comp_def]
    rfl
  · intro before c after split known new more
    rw [table_calls, List.map_append, Cell.table_of_late split known new]
    rfl
  · intro n t put
    have start : RowTable.IsRectangular ({} : RowTable Field Operand) := ⟨nofun, rfl⟩
    have rectangular := start.putAll _ put
    refine ⟨fun row mem => ?_, fun name i found => rectangular.index_lt found⟩
    rcases List.mem_append.mp mem with mem | mem
    · exact rectangular.finished row mem
    · rw [List.mem_singleton.mp mem]
      exact rectangular.current

/-- Two rows of two columns, with one value missing; and a column that
comes up in the second row only, where it stays refused. -/
theorem MapperRun.rows_of_segments_missing :
    let id : Field := .column "u" "id"
    let name : Field := .column "u" "name"
    let one : Operand := .scalar (.int 1)
    let two : Operand := .scalar (.int 2)
    let filled := [(id, one), (name, one), (id, two)].map MapperStep.ofCall
    let late := [(id, one), (id, two), (name, two)]
    (runSteps .insert ["u"] filled).table =
        .ok ([.text "id", .text "name"],
          [[.arg (.int 1), .arg (.int 1)], [.arg (.int 2), .text "NULL"]]) ∧
      ∀ more, (runSteps .insert ["u"] ((late ++ more).map MapperStep.ofCall)).table =
        .error (.build "column name was not set in the first row") := by
  intro id name one two filled late
  obtain ⟨-, -, rows, -, -⟩ := rows_of_segments [(id, one), (name, one), (id, two)] ["u"]
  obtain ⟨-, -, -, refused, -⟩ := rows_of_segments late ["u"]
  refine ⟨(rows (by decide)).2, ?_⟩
  exact refused [Cell.ofCall (id, two)] (Cell.ofCall (name, two)) [] rfl (by decide) (by decide)

end SqlCompose
