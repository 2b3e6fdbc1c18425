import Mathlib.Algebra.BigOperators.Group.List.Basic
import Mathlib.Algebra.GroupWithZero.Nat
import Mathlib.Data.List.Induction
import SqlCompose.Log.Tally

/-!
# Statistics of a log

What the counters report is a fold of the records. As long as no count wraps
around, a word that counts or sums is the number it stands for, capped at the
greatest word, so one record changes the report as `Tally.add` says
(`Counters.snapshot_log`) and many records as `Tally.ofRecords` does. That fold
in turn says how many records there are, what they sum up to and what their
greatest is (`Tally.ofRecords_eq`).
-/

namespace SqlCompose

/-! ## Words -/

namespace Counters

theorem toNat_ofNatClamp (n : Nat) : (UInt64.ofNatClamp n).toNat = min n Tally.cap := by
  rcases Nat.lt_or_ge n UInt64.size with fits | beyond
  · rw [UInt64.toNat_ofNatClamp_of_lt fits, Tally.cap, Nat.min_eq_left (by omega)]
  · rw [UInt64.toNat_ofNatClamp_of_le beyond, Tally.cap, Nat.min_eq_right (by omega)]

/-- The mended sum is the sum, as far as a word holds it. -/
theorem toNat_addCapped (a b : UInt64) :
    (addCapped a b).toNat = Tally.addCapped a.toNat b.toNat := by
  have wrapped : (a + b).toNat = (a.toNat + b.toNat) % UInt64.size := UInt64.toNat_add a b
  rw [addCapped, Tally.addCapped, Tally.cap]
  split
  case isTrue beyond =>
      rw [toNat_ofNatClamp, Tally.cap]
      omega
  case isFalse fits =>
      rw [wrapped, Nat.mod_eq_of_lt (by omega)]
      omega

/-- A count goes on by one unless it is the greatest word. -/
theorem toNat_succ {a : UInt64} (room : a.toNat < Tally.cap) : (a + 1).toNat = a.toNat + 1 := by
  have wrapped : (a + 1).toNat = (a.toNat + 1) % UInt64.size := UInt64.toNat_add a 1
  rw [Tally.cap] at room
  rw [wrapped, Nat.mod_eq_of_lt (by omega)]

end Counters

/-- Only the part of a number counts that a word holds. -/
theorem Tally.addCapped_min (a n : Nat) : addCapped a (min n cap) = addCapped a n := by
  simp only [addCapped]
  omega

/-! ## One record -/

/-- No count would wrap around. -/
structure Tally.HasRoom (t : Tally) : Prop where
  total : t.total < cap
  failed : t.failed < cap
  selects : t.selects < cap
  inserts : t.inserts < cap
  updates : t.updates < cap
  deletes : t.deletes < cap

namespace Counters

theorem countKind_eq (c : Counters) (k : StatementKind) :
    c.countKind k =
      { c with
        selects := if k = .select then c.selects + 1 else c.selects
        inserts := if k = .insert then c.inserts + 1 else c.inserts
        updates := if k = .update then c.updates + 1 else c.updates
        deletes := if k = .delete then c.deletes + 1 else c.deletes } := by
  cases k <;> rfl

theorem raise_eq (c : Counters) (nanos : UInt64) (query : String) :
    c.raise nanos query =
      { c with
        longest := if c.longest < nanos then nanos else c.longest
        slowest? := if c.longest < nanos then some query else c.slowest? } := by
  rw [raise]
  split <;> rfl

/-- All that one record changes. -/
theorem log_eq (c : Counters) (r : LogRecord) :
    c.log r =
      { total := c.total + 1
        failed := if r.succeeded then c.failed else c.failed + 1
        selects := if r.kind = .select then c.selects + 1 else c.selects
        inserts := if r.kind = .insert then c.inserts + 1 else c.inserts
        updates := if r.kind = .update then c.updates + 1 else c.updates
        deletes := if r.kind = .delete then c.deletes + 1 else c.deletes
        rowsFetched := addCapped c.rowsFetched (UInt64.ofNatClamp r.rowCount)
        rowsAffected := addCapped c.rowsAffected (UInt64.ofNatClamp r.rowsAffected)
        elapsed := addCapped c.elapsed (UInt64.ofNatClamp r.elapsed.nanos)
        longest :=
          if c.longest < UInt64.ofNatClamp r.elapsed.nanos then UInt64.ofNatClamp r.elapsed.nanos
          else c.longest
        slowest? :=
          if c.longest < UInt64.ofNatClamp r.elapsed.nanos then some r.query else c.slowest? } := by
  rw [log, countKind_eq, raise_eq]
  cases r.succeeded <;> rfl

/-- A word that goes on by one or stays. -/
theorem toNat_count {a : UInt64} (room : a.toNat < Tally.cap) (p : Prop) [Decidable p] :
    (if p then a + 1 else a).toNat = a.toNat + if p then 1 else 0 := by
  split
  · exact toNat_succ room
  · rfl

/-- One record changes the report like a tally. -/
theorem snapshot_log {c : Counters} (r : LogRecord) (room : c.snapshot.HasRoom) :
    (c.log r).snapshot = c.snapshot.add r := by
  have failed : (if r.succeeded then c.failed else c.failed + 1).toNat =
      c.failed.toNat + if r.succeeded then 0 else 1 := by
    cases r.succeeded with
    | false => exact toNat_succ room.failed
    | true => rfl
  have summed : ∀ (a : UInt64) (n : Nat),
      (addCapped a (UInt64.ofNatClamp n)).toNat = Tally.addCapped a.toNat n := by
    intro a n
    rw [toNat_addCapped, toNat_ofNatClamp, Tally.addCapped_min]
  have elapsed := summed c.elapsed r.elapsed.nanos
  rw [← Tally.addCapped_min] at elapsed
  have nanos := toNat_ofNatClamp r.elapsed.nanos
  have longer : c.longest < UInt64.ofNatClamp r.elapsed.nanos ↔
      c.snapshot.longest.nanos < min r.elapsed.nanos Tally.cap := by
    rw [UInt64.lt_iff_toNat_lt, nanos]
    rfl
  rw [log_eq, snapshot, Tally.add, Tally.mk.injEq]
  refine ⟨toNat_succ room.total, failed, toNat_count room.selects _, toNat_count room.inserts _,
    toNat_count room.updates _, toNat_count room.deletes _, summed _ _, summed _ _,
    congrArg Duration.mk elapsed, ?time, ?statement⟩
  case time =>
    simp only [← longer]
    split
    · rw [nanos]
    · rfl
  case statement =>
    simp only [← longer]
    rfl

end Counters

/-! ## Many records -/

/-- The time of a record, as far as a word holds it. -/
def LogRecord.nanos (r : LogRecord) : Nat := min r.elapsed.nanos Tally.cap

namespace Tally

/-- The longest time, as far as a word holds it. -/
def longestOf (records : List LogRecord) : Nat := (records.map (·.nanos)).foldl max 0

/-- The statement of the first record that took the longest time. -/
def slowestOf? (records : List LogRecord) : Option String :=
  if longestOf records = 0 then none
  else (records.find? fun r => r.nanos = longestOf records).map (·.query)

theorem ofRecords_concat (records : List LogRecord) (r : LogRecord) :
    ofRecords (records ++ [r]) = (ofRecords records).add r := by
  rw [ofRecords, List.foldl_append]
  rfl

theorem longestOf_concat (records : List LogRecord) (r : LogRecord) :
    longestOf (records ++ [r]) = max (longestOf records) r.nanos := by
  rw [longestOf, List.map_append, List.foldl_append]
  rfl

theorem nanos_le_longestOf {records : List LogRecord} {x : LogRecord} (h : x ∈ records) :
    x.nanos ≤ longestOf records := by
  induction records using List.reverseRecOn with
  | nil => cases h
  | append_singleton records r ih =>
      rw [longestOf_concat]
      rcases List.mem_append.mp h with h | h
      · exact Nat.le_trans (ih h) (Nat.le_max_left _ _)
      · rw [List.mem_singleton.mp h]
        exact Nat.le_max_right _ _

/-- Some record took the longest time, if it is any time at all. -/
theorem exists_nanos_eq_longestOf {records : List LogRecord} (h : longestOf records ≠ 0) :
    ∃ x ∈ records, x.nanos = longestOf records := by
  induction records using List.reverseRecOn with
  | nil => exact absurd rfl h
  | append_singleton records r ih =>
      rw [longestOf_concat] at h ⊢
      rcases Nat.lt_or_ge (longestOf records) r.nanos with raised | kept
      · exact ⟨r, List.mem_append_right _ List.mem_cons_self,
          (Nat.max_eq_right (Nat.le_of_lt raised)).symm⟩
      · rw [Nat.max_eq_left kept] at h ⊢
        obtain ⟨x, mem, attained⟩ := ih h
        exact ⟨x, List.mem_append_left _ mem, attained⟩

theorem isSome_find?_longestOf {records : List LogRecord} (h : longestOf records ≠ 0) :
    (records.find? fun x => x.nanos = longestOf records).isSome := by
  obtain ⟨x, mem, attained⟩ := exists_nanos_eq_longestOf h
  rw [List.find?_isSome]
  exact ⟨x, mem, decide_eq_true attained⟩

/-- A record takes the place of the slowest only if it took longer. -/
theorem slowestOf?_concat (records : List LogRecord) (r : LogRecord) :
    slowestOf? (records ++ [r]) =
      if longestOf records < r.nanos then some r.query else slowestOf? records := by
  rw [slowestOf?, longestOf_concat, List.find?_append]
  rcases Nat.lt_or_ge (longestOf records) r.nanos with raised | kept
  · have shorter : records.find? (fun x => x.nanos = r.nanos) = none := by
      rw [List.find?_eq_none]
      intro x mem
      have := nanos_le_longestOf mem
      simpa using by omega
    rw [Nat.max_eq_right (Nat.le_of_lt raised), if_pos raised, if_neg (by omega), shorter]
    simp
  · rw [Nat.max_eq_left kept, if_neg (Nat.not_lt.mpr kept), slowestOf?]
    split
    case isTrue => rfl
    case isFalse positive => rw [Option.or_of_isSome (isSome_find?_longestOf positive)]

theorem addCapped_sum (f : LogRecord → Nat) (records : List LogRecord) (r : LogRecord) :
    addCapped (min (records.map f).sum cap) (f r) = min ((records ++ [r]).map f).sum cap := by
  rw [List.map_append, List.sum_append, List.map_singleton, List.sum_singleton, addCapped]
  omega

theorem countP_concat (p : LogRecord → Prop) [DecidablePred p] (records : List LogRecord)
    (r : LogRecord) :
    (records ++ [r]).countP p = records.countP p + if p r then 1 else 0 := by
  rw [List.countP_append, List.countP_singleton]
  simp

/-- The fold of the records, read off at once. -/
theorem ofRecords_eq (records : List LogRecord) :
    ofRecords records =
      { total := records.length
        failed := records.countP (fun r => r.error ≠ none)
        selects := records.countP (fun r => r.kind = .select)
        inserts := records.countP (fun r => r.kind = .insert)
        updates := records.countP (fun r => r.kind = .update)
        deletes := records.countP (fun r => r.kind = .delete)
        rowsFetched := min (records.map (·.rowCount)).sum cap
        rowsAffected := min (records.map (·.rowsAffected)).sum cap
        elapsed := ⟨min (records.map (·.elapsed.nanos)).sum cap⟩
        longest := ⟨longestOf records⟩
        slowest? := slowestOf? records } := by
  induction records using List.reverseRecOn with
  | nil => rfl
  | append_singleton records r ih =>
      rw [ofRecords_concat, ih, add, Tally.mk.injEq]
      refine ⟨?count, ?failures, (countP_concat _ _ _).symm,
        (countP_concat _ _ _).symm, (countP_concat _ _ _).symm, (countP_concat _ _ _).symm,
        addCapped_sum _ _ _, addCapped_sum _ _ _, ?sum, ?time, ?statement⟩
      case count => rw [List.length_append, List.length_singleton]
      case failures =>
        rw [countP_concat, LogRecord.succeeded]
        cases r.error <;> rfl
      case sum => rw [addCapped_min, addCapped_sum]
      case time =>
        rw [longestOf_concat]
        change (if longestOf records < r.nanos then Duration.mk r.nanos
          else ⟨longestOf records⟩) = _
        split
        case isTrue raised => rw [Nat.max_eq_right (Nat.le_of_lt raised)]
        case isFalse kept => rw [Nat.max_eq_left (Nat.not_lt.mp kept)]
      case statement => exact (slowestOf?_concat records r).symm

theorem longestOf_eq (records : List LogRecord) :
    longestOf records = min ((records.map (·.elapsed.nanos)).foldl max 0) cap := by
  induction records using List.reverseRecOn with
  | nil => rfl
  | append_singleton records r ih =>
      rw [longestOf_concat, ih, List.map_append, List.foldl_append, LogRecord.nanos]
      change _ = min (max _ r.elapsed.nanos) cap
      omega

/-- There is a slowest statement as soon as one took any time. -/
theorem slowestOf?_eq_none_iff (records : List LogRecord) :
    slowestOf? records = none ↔ ∀ r ∈ records, r.elapsed.nanos = 0 := by
  rw [slowestOf?]
  split
  case isTrue zero =>
    refine iff_of_true rfl fun r mem => ?_
    have bound := nanos_le_longestOf mem
    rw [zero, LogRecord.nanos, cap] at bound
    have : 1 < UInt64.size := by decide
    omega
  case isFalse positive =>
    obtain ⟨x, mem, attained⟩ := exists_nanos_eq_longestOf positive
    have found := isSome_find?_longestOf positive
    refine iff_of_false ?some fun zero => ?none
    case some =>
      rw [Option.map_eq_none_iff]
      exact Option.isSome_iff_ne_none.mp found
    case none =>
      rw [LogRecord.nanos, zero x mem, Nat.zero_min] at attained
      exact positive attained.symm

theorem sum_countP_kinds (records : List LogRecord) :
    records.countP (fun r => r.kind = .select) + records.countP (fun r => r.kind = .insert) +
      records.countP (fun r => r.kind = .update) + records.countP (fun r => r.kind = .delete) +
      records.countP (fun r => r.kind = .other) = records.length := by
  induction records with
  | nil => rfl
  | cons r records ih =>
      simp only [List.countP_cons, List.length_cons, decide_eq_true_eq]
      cases r.kind <;> simp <;> omega

/-- Fewer records than the greatest word leave room for one more. -/
theorem hasRoom_ofRecords {records : List LogRecord} (few : records.length < cap) :
    (ofRecords records).HasRoom := by
  have fits (p : LogRecord → Bool) : records.countP p < cap :=
    Nat.lt_of_le_of_lt List.countP_le_length few
  rw [ofRecords_eq]
  exact ⟨few, fits _, fits _, fits _, fits _, fits _⟩

end Tally

namespace Counters

theorem snapshot_logAll {records : List LogRecord} (few : records.length < UInt64.size) :
    (logAll {} records).snapshot = Tally.ofRecords records := by
  induction records using List.reverseRecOn with
  | nil => rfl
  | append_singleton records r ih =>
      rw [List.length_append, List.length_singleton] at few
      have before := ih (by omega)
      have room : (logAll {} records).snapshot.HasRoom := by
        rw [before]
        exact Tally.hasRoom_ofRecords (by rw [Tally.cap]; omega)
      rw [Tally.ofRecords_concat, ← before, ← snapshot_log r room, logAll, List.foldl_append]
      rfl

/-- What is reported of records that were logged one after another, from the
start or after a reset, if they are fewer than a word can count.

There are as many as were logged, and as many that failed and of each kind.
Sums are those of the records up to the greatest word, where they stay. The
longest time is the greatest of the records' times up to the greatest word, and
the slowest statement is that of the first record that took this long; there is
none if no record took any time. -/
theorem report_of_records {start : Counters} (fresh : start = {} ∨ ∃ c : Counters, start = c.reset)
    {records : List LogRecord} (few : records.length < UInt64.size) :
    let t := (start.logAll records).snapshot
    t.total = records.length ∧
      t.failed = records.countP (fun r => r.error ≠ none) ∧
      t.selects = records.countP (fun r => r.kind = .select) ∧
      t.inserts = records.countP (fun r => r.kind = .insert) ∧
      t.updates = records.countP (fun r => r.kind = .update) ∧
      t.deletes = records.countP (fun r => r.kind = .delete) ∧
      t.selects + t.inserts + t.updates + t.deletes +
        records.countP (fun r => r.kind = .other) = t.total ∧
      t.elapsed.nanos = min (records.map (·.elapsed.nanos)).sum Tally.cap ∧
      t.rowsFetched = min (records.map (·.rowCount)).sum Tally.cap ∧
      t.rowsAffected = min (records.map (·.rowsAffected)).sum Tally.cap ∧
      (∀ done later, records = done ++ later →
        let earlier := (start.logAll done).snapshot
        (earlier.elapsed.nanos = Tally.cap → t.elapsed.nanos = Tally.cap) ∧
          (earlier.rowsFetched = Tally.cap → t.rowsFetched = Tally.cap) ∧
          (earlier.rowsAffected = Tally.cap → t.rowsAffected = Tally.cap)) ∧
      t.longest.nanos = min ((records.map (·.elapsed.nanos)).foldl max 0) Tally.cap ∧
      (t.slowest? = none ↔ ∀ r ∈ records, r.elapsed.nanos = 0) ∧
      (t.longest.nanos ≠ 0 → t.slowest? =
        (records.find? fun r => min r.elapsed.nanos Tally.cap = t.longest.nanos).map (·.query)) := by
  obtain rfl : start = {} := by
    rcases fresh with rfl | ⟨c, rfl⟩ <;> rfl
  have report {done : List LogRecord} (few : done.length < UInt64.size) :=
    (snapshot_logAll few).trans (Tally.ofRecords_eq done)
  have stays {a b : Nat} (full : min a Tally.cap = Tally.cap) :
      min (a + b) Tally.cap = Tally.cap := by
    omega
  rw [report few]
  refine ⟨rfl, rfl, rfl, rfl, rfl, rfl, Tally.sum_countP_kinds records, rfl, rfl, rfl, ?capped,
    Tally.longestOf_eq records, Tally.slowestOf?_eq_none_iff records, fun took => if_neg took⟩
  case capped =>
    rintro done later rfl
    rw [List.length_append] at few
    rw [report (by omega)]
    simp only [List.map_append, List.sum_append]
    exact ⟨stays, stays, stays⟩

/-- Two calls after a reset that both took longer than a word can say: the
first of them is the slowest. -/
theorem report_of_records_capped :
    let quick : LogRecord :=
      { dialect := .sqlite, query := "INSERT INTO t VALUES (1)", elapsed := ⟨7⟩ }
    let slow : LogRecord :=
      { dialect := .sqlite, query := "SELECT 1", rowCount := 3, elapsed := ⟨UInt64.size + 5⟩ }
    let slower : LogRecord :=
      { dialect := .sqlite, query := "DELETE FROM t", error := some .cancelled,
        elapsed := ⟨UInt64.size + UInt64.size⟩ }
    let records := [quick, slow, slower]
    let t := ((reset { total := 9, longest := 40 }).logAll records).snapshot
    records.length < UInt64.size ∧ t.total = 3 ∧ t.failed = 1 ∧ t.selects = 1 ∧
      t.elapsed.nanos = Tally.cap ∧ t.rowsFetched = 3 ∧ t.longest.nanos = Tally.cap ∧
      t.slowest? = some "SELECT 1" := by
  intro quick slow slower records t
  have few : records.length < UInt64.size := by decide
  obtain ⟨total, failed, selects, -, -, -, -, elapsed, fetched, -, -, longest, -, slowest⟩ :=
    report_of_records (.inr ⟨{ total := 9, longest := 40 }, rfl⟩) few
  have greatest : t.longest.nanos = Tally.cap := longest.trans (by decide +kernel)
  have took : t.longest.nanos ≠ 0 := by
    rw [greatest]
    decide
  refine ⟨few, total, failed.trans ?_, selects.trans ?_, elapsed.trans ?_, fetched.trans ?_,
    greatest, (slowest took).trans ?_⟩
  · rfl
  · decide +kernel
  · decide +kernel
  · decide +kernel
  · rw [greatest]
    decide +kernel

end Counters

end SqlCompose
