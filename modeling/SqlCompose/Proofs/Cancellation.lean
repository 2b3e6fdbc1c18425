import SqlCompose.Context.Basic
import Mathlib.Data.List.GetD
import Mathlib.Data.List.Induction
import Mathlib.Logic.Relation

/-!
# Who hears of a cancellation

Contexts are made, derived, cloned, cancelled and let go in any order
(`ContextStep`). A signal knows the signal it was made below, so the signals
form a forest, and later steps only add to it. A cancellation starts at the
signal of a handle and goes down, and it passes a signal only while somebody
holds it: what lies below a signal that was let go does not hear of it,
though it was derived from the cancelled one. A signal made afterwards
copies what the one above it says.

`Contexts.Hears` is the relation between the signal a cancellation starts
at and those it comes to, in the forest as it is later. A context turns out
cancelled exactly if it hears of some cancellation (`Contexts.cancelled_iff`),
and that is not the same as being derived from a cancelled one
(`Contexts.cut_off_from_ancestor`).
-/

namespace SqlCompose

/-- One thing done with contexts. A derivation names the context it starts
from. -/
inductive ContextStep where
  | background
  | clone (i : Nat)
  | withCancel (i : Nat)
  | withDeadline (i deadline : Nat)
  | withTimeout (i millis : Nat)
  | cancel (handle : Nat)
  | drop (i : Nat)
  | dropHandle (i : Nat)
  | advance (millis : Nat)
  deriving DecidableEq, Repr

/-- The signals that the place names are among the first `n`. -/
def ContextSlot.IsWithin (slot : ContextSlot) (n : Nat) : Prop :=
  (∀ c, slot.context = some c → c.signal < n) ∧ ∀ x, slot.handle = some x → x < n

theorem ContextSlot.IsWithin.mono {slot : ContextSlot} {m n : Nat} (h : slot.IsWithin m)
    (le : m ≤ n) : slot.IsWithin n :=
  ⟨fun c eq => Nat.lt_of_lt_of_le (h.1 c eq) le, fun x eq => Nat.lt_of_lt_of_le (h.2 x eq) le⟩

namespace Contexts

/-- The signal that a held handle cancels. -/
def handle? (s : Contexts) (i : Nat) : Option Nat := (s.slots[i]?).bind (·.handle)

/-- The signal that another was made below. -/
def parent? (s : Contexts) (x : Nat) : Option Nat := (s.signals[x]?).bind (·.parent)

/-- Derives from the context of a number. Nothing can be derived from one
that was dropped. -/
def derive (s : Contexts) (i : Nat) (make : Context → Contexts) : Contexts :=
  match s.context? i with
  | some c => make c
  | none => s

def step (s : Contexts) : ContextStep → Contexts
  | .background => s.background
  | .clone i => s.derive i fun c => s.push c
  | .withCancel i => s.derive i s.withCancel
  | .withDeadline i deadline => s.derive i (s.withDeadline · deadline)
  | .withTimeout i millis => s.derive i (s.withTimeout · millis)
  | .cancel handle => s.cancel handle
  | .drop i => s.drop i
  | .dropHandle i => s.dropHandle i
  | .advance millis => s.advance millis

/-- The contexts after some steps, from none. -/
def steps (all : List ContextStep) : Contexts := all.foldl step start

theorem steps_concat (all : List ContextStep) (a : ContextStep) :
    steps (all ++ [a]) = (steps all).step a := by
  rw [steps, List.foldl_append]
  rfl

/-! ## What one cancellation reaches

The signals are gone through in the order they were made, so what is found
out about the first of them does not depend on the others.
-/

/-- `reached`, for any list of signals and any way of holding them. -/
def reach (held : Nat → Bool) (target : Nat) (signals : List Signal) : List Bool :=
  signals.zipIdx.foldl (fun found (x, i) =>
    let below := match x.parent with
      | some p => found.getD p false && held i
      | none => false
    found ++ [i = target || below]) []

section Reach

variable (held : Nat → Bool) (target : Nat)

theorem reach_concat (signals : List Signal) (x : Signal) :
    reach held target (signals ++ [x]) = reach held target signals ++
      [decide (signals.length = target) ||
        x.parent.any fun p => (reach held target signals).getD p false && held signals.length] := by
  rw [reach, List.zipIdx_append, List.foldl_append, ← reach]
  cases h : x.parent <;> simp [h]

@[simp] theorem length_reach (signals : List Signal) :
    (reach held target signals).length = signals.length := by
  induction signals using List.reverseRecOn with
  | nil => rfl
  | append_singleton signals x ih =>
      rw [reach_concat, List.length_append, ih, List.length_append]
      rfl

/-- What is found out about a signal does not change afterwards. -/
theorem getD_reach_concat {signals : List Signal} {x : Nat} (made : x < signals.length)
    (y : Signal) : (reach held target (signals ++ [y])).getD x false =
      (reach held target signals).getD x false := by
  rw [reach_concat, List.getD_append]
  rwa [length_reach]

/-- A signal is reached if it is the target, or if the one above it is
reached and it is held itself. -/
theorem getD_reach {signals : List Signal}
    (parents : ∀ x p, (signals[x]?).bind Signal.parent = some p → p < x) {x : Nat}
    (made : x < signals.length) :
    (reach held target signals).getD x false = (decide (x = target) ||
      ((signals[x]?).bind Signal.parent).any fun p =>
        (reach held target signals).getD p false && held x) := by
  -- By the signal made last. What was found out about those before it stays as it is.
  induction signals using List.reverseRecOn with
  | nil => nomatch made
  | append_singleton signals y ih =>
      have upto : x ≤ signals.length := by
        rw [List.length_append, List.length_singleton] at made
        omega
      have above_same : ∀ p, ((signals ++ [y])[x]?).bind Signal.parent = some p →
          (reach held target (signals ++ [y])).getD p false =
            (reach held target signals).getD p false := fun p above =>
        getD_reach_concat held target (Nat.lt_of_lt_of_le (parents x p above) upto) y
      rcases Nat.lt_or_eq_of_le upto with old | last
      · have kept : ∀ z p, (signals[z]?).bind Signal.parent = some p → p < z := by
          intro z p above
          obtain ⟨signal, found, -⟩ := Option.bind_eq_some_iff.mp above
          refine parents z p ?_
          rwa [List.getElem?_append_left (List.getElem?_eq_some_iff.mp found).1]
        rw [getD_reach_concat held target old, ih kept old, ← List.getElem?_append_left old]
        cases above : ((signals ++ [y])[x]?).bind Signal.parent with
        | none => rfl
        | some p => rw [Option.any_some, Option.any_some, above_same p above]
      · subst last
        have own : ((signals ++ [y])[signals.length]?).bind Signal.parent = y.parent := by
          rw [List.getElem?_concat_length, Option.bind_some]
        have found : (reach held target (signals ++ [y])).getD signals.length false =
            (decide (signals.length = target) || y.parent.any fun p =>
              (reach held target signals).getD p false && held signals.length) := by
          have past := Nat.le_of_eq (length_reach held target signals)
          rw [reach_concat, List.getD_append_right _ _ _ _ past, length_reach]
          simp
        rw [found, own]
        cases above : y.parent with
        | none => rfl
        | some p => rw [Option.any_some, Option.any_some, above_same p (own.trans above)]

end Reach

@[simp] theorem length_reached (s : Contexts) (target : Nat) :
    (s.reached target).length = s.signals.length :=
  length_reach s.isHeld target s.signals

/-- Cancelling only marks signals. -/
theorem getElem?_cancelSignal (s : Contexts) (target x : Nat) :
    (s.cancelSignal target).signals[x]? = (s.signals[x]?).map fun y =>
      { y with cancelled := y.cancelled || (s.reached target).getD x false } := by
  rw [cancelSignal, List.getElem?_zipWith]
  cases found : s.signals[x]? with
  | none => rfl
  | some y =>
      have made : x < (s.reached target).length := by
        rw [length_reached]
        exact (List.getElem?_eq_some_iff.mp found).1
      rw [List.getElem?_eq_getElem made, List.getD_eq_getElem _ _ made]
      rfl

theorem length_signals_cancelSignal (s : Contexts) (target : Nat) :
    (s.cancelSignal target).signals.length = s.signals.length := by
  rw [cancelSignal, List.length_zipWith, length_reached, Nat.min_self]

theorem parent?_cancelSignal (s : Contexts) (target : Nat) :
    (s.cancelSignal target).parent? = s.parent? := by
  funext x
  rw [parent?, parent?, getElem?_cancelSignal]
  cases s.signals[x]? <;> rfl

theorem isCancelled_cancelSignal {s : Contexts} {target x : Nat} (made : x < s.signals.length) :
    (s.cancelSignal target).isCancelled x =
      (s.isCancelled x || (s.reached target).getD x false) := by
  rw [isCancelled, isCancelled, getElem?_cancelSignal, List.getElem?_eq_getElem made]
  rfl

/-! ## Sound states

Every signal that is named has been made, and a signal is made after the
one above it.
-/

structure IsSound (s : Contexts) : Prop where
  parents : ∀ x p, s.parent? x = some p → p < x
  slots : ∀ slot ∈ s.slots, slot.IsWithin s.signals.length

theorem isSound_start : start.IsSound :=
  ⟨fun _ _ h => by simp [parent?, start] at h, nofun⟩

theorem parent?_lt {s : Contexts} {x p : Nat} (h : s.parent? x = some p) :
    x < s.signals.length := by
  rw [parent?, Option.bind_eq_some_iff] at h
  obtain ⟨signal, found, -⟩ := h
  exact (List.getElem?_eq_some_iff.mp found).1

@[simp] theorem signals_addSignal (s : Contexts) (parent : Option Nat) :
    (s.addSignal parent).1.signals = s.signals ++ [⟨parent, parent.any s.isCancelled⟩] := by
  cases parent <;> rfl

namespace IsSound

variable {s : Contexts} (h : s.IsSound)

include h

theorem context_lt {i : Nat} {c : Context} (found : s.context? i = some c) :
    c.signal < s.signals.length := by
  rw [context?, Option.bind_eq_some_iff] at found
  obtain ⟨slot, at_i, own⟩ := found
  exact (h.slots slot (List.mem_of_getElem? at_i)).1 c own

theorem handle_lt {i target : Nat} (found : s.handle? i = some target) :
    target < s.signals.length := by
  rw [handle?, Option.bind_eq_some_iff] at found
  obtain ⟨slot, at_i, own⟩ := found
  exact (h.slots slot (List.mem_of_getElem? at_i)).2 target own

theorem push {c : Context} {handle : Option Nat}
    (new : ContextSlot.IsWithin ⟨some c, handle⟩ s.signals.length) :
    (s.push c handle).IsSound := by
  refine ⟨h.parents, ?_⟩
  intro slot mem
  rcases List.mem_append.mp mem with old | last
  · exact h.slots slot old
  · rw [List.mem_singleton.mp last]
    exact new

theorem addSignal (parent : Option Nat) (below : ∀ p, parent = some p → p < s.signals.length) :
    (s.addSignal parent).1.IsSound := by
  refine ⟨?_, fun slot mem => (h.slots slot mem).mono (by simp)⟩
  intro x p eq
  have made := parent?_lt eq
  rw [signals_addSignal, List.length_append, List.length_singleton] at made
  rw [parent?, signals_addSignal] at eq
  rcases Nat.lt_or_eq_of_le (Nat.le_of_lt_succ made) with old | last
  · rw [List.getElem?_append_left old] at eq
    exact h.parents x p eq
  · subst last
    rw [List.getElem?_concat_length] at eq
    exact below p eq

/-- Letting go of something at a place. -/
theorem modify {i : Nat} {f : ContextSlot → ContextSlot}
    (less : ∀ slot n, slot.IsWithin n → (f slot).IsWithin n) :
    IsSound { s with slots := s.slots.modify i f } := by
  refine ⟨h.parents, ?_⟩
  intro slot mem
  obtain ⟨j, at_j⟩ := List.mem_iff_getElem?.mp mem
  rw [List.getElem?_modify] at at_j
  obtain ⟨before, found, rfl⟩ := Option.map_eq_some_iff.mp at_j
  have within := h.slots before (List.mem_of_getElem? found)
  split
  · exact less before _ within
  · exact within

theorem cancelSignal (target : Nat) : (s.cancelSignal target).IsSound := by
  refine ⟨?_, ?_⟩
  · rw [parent?_cancelSignal]
    exact h.parents
  · rw [length_signals_cancelSignal]
    exact h.slots

theorem derive {i : Nat} {make : Context → Contexts}
    (sound : ∀ c, c.signal < s.signals.length → (make c).IsSound) : (s.derive i make).IsSound := by
  rw [Contexts.derive]
  cases found : s.context? i with
  | none => exact h
  | some c => exact sound c (h.context_lt found)

/-- A new signal and a context for it, with a handle or without. -/
theorem addContext (parent deadline handle : Option Nat)
    (below : ∀ p, parent = some p → p < s.signals.length)
    (own : ∀ x, handle = some x → x = s.signals.length) :
    ((s.addSignal parent).1.push ⟨deadline, s.signals.length⟩ handle).IsSound := by
  have last : s.signals.length < (s.addSignal parent).1.signals.length := by simp
  refine (h.addSignal parent below).push ⟨?_, ?_⟩
  · rintro c ⟨⟩
    exact last
  · intro x eq
    rw [own x eq]
    exact last

theorem step (a : ContextStep) : (s.step a).IsSound := by
  have below : ∀ {c : Context}, c.signal < s.signals.length →
      ∀ p, some c.signal = some p → p < s.signals.length := by
    rintro c made p ⟨⟩
    exact made
  cases a with
  | background => exact h.addContext none none none nofun nofun
  | clone i =>
      refine h.derive fun c made => h.push ⟨?_, nofun⟩
      rintro d ⟨⟩
      exact made
  | withCancel i =>
      refine h.derive fun c made => h.addContext _ _ (some _) (below made) ?_
      rintro x ⟨⟩
      rfl
  | withDeadline i deadline =>
      exact h.derive fun c made => h.addContext _ _ none (below made) nofun
  | withTimeout i millis =>
      exact h.derive fun c made => h.addContext _ _ none (below made) nofun
  | cancel i =>
      rw [Contexts.step, Contexts.cancel]
      cases (s.slots[i]?).bind (·.handle) with
      | none => exact h
      | some target => exact h.cancelSignal target
  | drop i => exact h.modify fun _ _ within => ⟨nofun, within.2⟩
  | dropHandle i => exact h.modify fun _ _ within => ⟨within.1, nofun⟩
  | advance millis => exact ⟨h.parents, h.slots⟩

end IsSound

theorem isSound_steps (all : List ContextStep) : (steps all).IsSound := by
  induction all using List.reverseRecOn with
  | nil => exact isSound_start
  | append_singleton all a ih =>
      rw [steps_concat]
      exact ih.step a

/-! ## The way down -/

/-- What a cancellation in `s` goes through to reach `x` from the signal
above it: `x` is held at the time, or is made later. -/
def Passes (s later : Contexts) (p x : Nat) : Prop :=
  later.parent? x = some p ∧ (s.signals.length ≤ x ∨ s.isHeld x = true)

/-- A cancellation of `target` in `s` has come to a signal of the later
state: every signal on the way down to it let the cancellation through. -/
def Hears (s later : Contexts) (target x : Nat) : Prop :=
  Relation.ReflTransGen (Passes s later) target x

theorem hears_iff {s later : Contexts} {target x : Nat} :
    s.Hears later target x ↔ x = target ∨ ∃ p, s.Hears later target p ∧ s.Passes later p x := by
  rw [Hears, Relation.ReflTransGen.cases_tail_iff]
  rfl

/-- Only the forest of the later state matters. -/
theorem hears_congr {s later later' : Contexts} (same : later'.parent? = later.parent?)
    (target x : Nat) : s.Hears later' target x ↔ s.Hears later target x := by
  have passes : s.Passes later' = s.Passes later := by
    funext p x
    rw [Passes, Passes, same]
  rw [Hears, Hears, passes]

/-- A cancellation reaches the signals that hear of it at once. -/
theorem reached_iff {s later : Contexts} (h : s.IsSound) (same : later.parent? = s.parent?)
    {target x : Nat} (made : x < s.signals.length) :
    (s.reached target).getD x false = true ↔ s.Hears later target x := by
  -- The signal above has a smaller number, so the induction goes up the forest.
  induction x using Nat.strongRecOn with
  | _ x ih =>
      have one : (s.reached target).getD x false = (decide (x = target) ||
          (s.parent? x).any fun p => (s.reached target).getD p false && s.isHeld x) :=
        getD_reach s.isHeld target h.parents made
      rw [one, hears_iff, Bool.or_eq_true, decide_eq_true_iff, Option.any_eq_true]
      refine or_congr_right (exists_congr fun p => ?_)
      rw [Bool.and_eq_true, Passes, same]
      constructor
      · rintro ⟨above, reached, holds⟩
        have lt := h.parents x p above
        exact ⟨(ih p lt (Nat.lt_trans lt made)).mp reached, above, .inr holds⟩
      · rintro ⟨hears, above, holds⟩
        have lt := h.parents x p above
        exact ⟨above, (ih p lt (Nat.lt_trans lt made)).mpr hears,
          holds.resolve_left (Nat.not_le.mpr made)⟩

/-- Signals hear no more and no less when another is made. -/
theorem hears_addSignal_old {s now later : Contexts} (h : now.IsSound) {parent : Option Nat}
    {c : Bool}
    (more : later.signals = now.signals ++ [⟨parent, c⟩]) {target x : Nat}
    (made : x < now.signals.length) : s.Hears later target x ↔ s.Hears now target x := by
  induction x using Nat.strongRecOn with
  | _ x ih =>
      have same : later.parent? x = now.parent? x := by
        rw [parent?, more, List.getElem?_append_left made, ← parent?]
      rw [hears_iff, hears_iff]
      refine or_congr_right (exists_congr fun p => ?_)
      rw [Passes, Passes, same]
      refine and_congr_left fun passes => ?_
      have lt := h.parents x p passes.1
      exact ih p lt (Nat.lt_trans lt made)

theorem hears_addSignal_new {s now later : Contexts} (h : now.IsSound) {parent : Option Nat}
    {c : Bool}
    (below : ∀ p, parent = some p → p < now.signals.length)
    (more : later.signals = now.signals ++ [⟨parent, c⟩]) {target : Nat}
    (grown : s.signals.length ≤ now.signals.length) (made : target < now.signals.length) :
    s.Hears later target now.signals.length ↔ ∃ p, parent = some p ∧ s.Hears now target p := by
  have own : later.parent? now.signals.length = parent := by
    rw [parent?, more, List.getElem?_concat_length]
    rfl
  rw [hears_iff, or_iff_right (Nat.ne_of_gt made)]
  refine exists_congr fun p => ?_
  rw [Passes, own]
  constructor
  · rintro ⟨hears, above, -⟩
    exact ⟨above, (hears_addSignal_old h more (below p above)).mp hears⟩
  · rintro ⟨above, hears⟩
    exact ⟨(hears_addSignal_old h more (below p above)).mpr hears, above, .inl grown⟩

/-! ## What a step does to the signals -/

/-- What a step can do to the signals: nothing, make one that copies what
the one above it says, or cancel from the signal of a handle. -/
inductive Change (s : Contexts) (a : ContextStep) : Prop where
  | none (idle : ∀ i, a = .cancel i → s.handle? i = .none)
      (same : (s.step a).signals = s.signals)
  | one (parent : Option Nat) (idle : ∀ i, a ≠ .cancel i)
      (below : ∀ p, parent = some p → p < s.signals.length)
      (more : (s.step a).signals = s.signals ++ [⟨parent, parent.any s.isCancelled⟩])
  | cancelled (i target : Nat) (cancel : a = .cancel i) (handle : s.handle? i = some target)
      (marked : s.step a = s.cancelSignal target)

/-- Deriving with a function that makes one signal below the context's. -/
theorem change_derive {s : Contexts} (h : s.IsSound) {a : ContextStep} {i : Nat}
    {make : Context → Contexts} (idle : ∀ i, a ≠ .cancel i) (step : s.step a = s.derive i make)
    (makes : ∀ c, (make c).signals = (s.addSignal (some c.signal)).1.signals) :
    s.Change a := by
  cases found : s.context? i with
  | none =>
      refine .none (fun i eq => absurd eq (idle i)) ?_
      rw [step, derive, found]
  | some c =>
      refine .one (some c.signal) idle ?_ ?_
      · rintro p ⟨⟩
        exact h.context_lt found
      · rw [step, derive, found]
        exact makes c

theorem change_step {s : Contexts} (h : s.IsSound) (a : ContextStep) : s.Change a := by
  cases a with
  | background => exact .one none nofun nofun rfl
  | clone i =>
      refine .none nofun ?_
      rw [step, derive]
      cases s.context? i <;> rfl
  | withCancel i => exact change_derive h nofun rfl fun _ => rfl
  | withDeadline i deadline => exact change_derive h nofun rfl fun _ => rfl
  | withTimeout i millis => exact change_derive h nofun rfl fun _ => rfl
  | cancel i =>
      cases handle : s.handle? i with
      | none =>
          refine .none ?_ ?_
          · rintro j ⟨⟩
            exact handle
          · rw [step, cancel, ← handle?, handle]
      | some target =>
          refine .cancelled i target rfl handle ?_
          rw [step, cancel, ← handle?, handle]
  | drop i => exact .none nofun rfl
  | dropHandle i => exact .none nofun rfl
  | advance millis => exact .none nofun rfl

theorem length_signals_step {s : Contexts} (h : s.IsSound) (a : ContextStep) :
    s.signals.length ≤ (s.step a).signals.length := by
  cases change_step h a with
  | none idle same => exact Nat.le_of_eq (congrArg List.length same).symm
  | one parent idle below more =>
      rw [more]
      simp
  | cancelled i target cancel handle marked =>
      rw [marked]
      exact Nat.le_of_eq (length_signals_cancelSignal s target).symm

theorem length_signals_steps (before after : List ContextStep) :
    (steps before).signals.length ≤ (steps (before ++ after)).signals.length := by
  induction after using List.reverseRecOn with
  | nil => exact Nat.le_of_eq (by rw [List.append_nil])
  | append_singleton after a ih =>
      rw [← List.append_assoc, steps_concat]
      exact Nat.le_trans ih (length_signals_step (isSound_steps _) a)

/-! ## Hearing of a cancellation among the steps -/

/-- Among the steps, some signal was cancelled that `x` hears of in the end. -/
def Heard (all : List ContextStep) (later : Contexts) (x : Nat) : Prop :=
  ∃ before handle after target, all = before ++ .cancel handle :: after ∧
    (steps before).handle? handle = some target ∧ (steps before).Hears later target x

theorem heard_concat {all : List ContextStep} {a : ContextStep} {later : Contexts} {x : Nat} :
    Heard (all ++ [a]) later x ↔ Heard all later x ∨ ∃ handle target, a = .cancel handle ∧
      (steps all).handle? handle = some target ∧ (steps all).Hears later target x := by
  constructor
  · rintro ⟨before, handle, after, target, eq, named, hears⟩
    rcases List.eq_nil_or_concat after with rfl | ⟨after, last, rfl⟩
    · obtain ⟨rfl, last⟩ := List.append_inj' eq rfl
      cases last
      exact .inr ⟨handle, target, rfl, named, hears⟩
    · rw [List.concat_eq_append, ← List.cons_append, ← List.append_assoc] at eq
      exact .inl ⟨before, handle, after, target, (List.append_inj' eq rfl).1, named, hears⟩
  · rintro (⟨before, handle, after, target, rfl, named, hears⟩ | ⟨handle, target, rfl, named, hears⟩)
    · exact ⟨before, handle, after ++ [a], target, by simp, named, hears⟩
    · exact ⟨all, handle, [], target, rfl, named, hears⟩

theorem heard_congr {all : List ContextStep} {later later' : Contexts}
    (same : later'.parent? = later.parent?) (x : Nat) :
    Heard all later' x ↔ Heard all later x := by
  simp only [Heard, hears_congr same]

/-- The new signal hears of all that the one above it has heard of. -/
theorem heard_addSignal_new {all : List ContextStep} {later : Contexts} {parent : Option Nat}
    {c : Bool} (below : ∀ p, parent = some p → p < (steps all).signals.length)
    (more : later.signals = (steps all).signals ++ [⟨parent, c⟩]) :
    Heard all later (steps all).signals.length ↔
      ∃ p, parent = some p ∧ Heard all (steps all) p := by
  have hears_new : ∀ {before handle after target},
      all = before ++ ContextStep.cancel handle :: after →
      (steps before).handle? handle = some target →
      ((steps before).Hears later target (steps all).signals.length ↔
        ∃ p, parent = some p ∧ (steps before).Hears (steps all) target p) := by
    intro before handle after target eq named
    have grown : (steps before).signals.length ≤ (steps all).signals.length := by
      rw [eq]
      exact length_signals_steps before _
    have made := (isSound_steps before).handle_lt named
    exact hears_addSignal_new (isSound_steps all) below more grown (Nat.lt_of_lt_of_le made grown)
  constructor
  · rintro ⟨before, handle, after, target, eq, named, hears⟩
    obtain ⟨p, above, hears⟩ := (hears_new eq named).mp hears
    exact ⟨p, above, before, handle, after, target, eq, named, hears⟩
  · rintro ⟨p, above, before, handle, after, target, eq, named, hears⟩
    exact ⟨before, handle, after, target, eq, named, (hears_new eq named).mpr ⟨p, above, hears⟩⟩

/-- A signal is cancelled exactly if it heard of a cancellation. -/
theorem isCancelled_steps {all : List ContextStep} {x : Nat}
    (made : x < (steps all).signals.length) :
    (steps all).isCancelled x = true ↔ Heard all (steps all) x := by
  -- By the last step. The cancellations before it are compared with the forest it leaves.
  induction all using List.reverseRecOn generalizing x with
  | nil => nomatch made
  | append_singleton all a ih =>
      rw [steps_concat] at made ⊢
      rw [heard_concat]
      have sound := isSound_steps all
      cases change_step sound a with
      | none idle same =>
          have parents : ((steps all).step a).parent? = (steps all).parent? := by
            funext y
            rw [parent?, parent?, same]
          rw [same] at made
          rw [isCancelled, same, ← isCancelled, ih made, heard_congr parents]
          refine (or_iff_left ?_).symm
          rintro ⟨handle, target, eq, named, -⟩
          rw [idle handle eq] at named
          cases named
      | one parent idle below more =>
          rw [or_iff_left (by rintro ⟨handle, target, eq, -⟩; exact idle handle eq)]
          have upto : x ≤ (steps all).signals.length := by
            rw [more, List.length_append, List.length_singleton] at made
            omega
          rcases Nat.lt_or_eq_of_le upto with old | last
          · rw [isCancelled, more, List.getElem?_append_left old, ← isCancelled, ih old]
            simp only [Heard, hears_addSignal_old sound more old]
          · subst last
            rw [heard_addSignal_new below more, isCancelled, more, List.getElem?_concat_length]
            refine Iff.trans (Option.any_eq_true ..) (exists_congr fun p => ?_)
            exact and_congr_right fun above => ih (below p above)
      | cancelled i target cancel handle marked =>
          have parents := parent?_cancelSignal (steps all) target
          rw [marked, length_signals_cancelSignal] at made
          rw [marked, isCancelled_cancelSignal made, Bool.or_eq_true, ih made, heard_congr parents,
            reached_iff sound parents made]
          refine or_congr_right ?_
          constructor
          · intro hears
            exact ⟨i, target, cancel, handle, hears⟩
          · rintro ⟨j, other, eq, named, hears⟩
            cases cancel.symm.trans eq
            cases handle.symm.trans named
            exact hears

theorem error?_eq_cancelled {s : Contexts} {c : Context} :
    s.error? c = some .cancelled ↔ s.isCancelled c.signal = true := by
  rw [error?]
  split
  case isTrue cancelled => exact iff_of_true rfl cancelled
  case isFalse quiet =>
      refine iff_of_false ?_ quiet
      cases c.deadline with
      | none => exact nofun
      | some deadline =>
          simp only
          split <;> exact nofun

/-! ## Contexts -/

/-- A context that is still held is cancelled exactly if it hears of some
cancellation: one of its own signal, or of a signal above it such that every
signal on the way down was held, or was not made yet, when the cancellation
came. -/
theorem cancelled_iff (all : List ContextStep) (i : Nat) (c : Context)
    (held : (steps all).context? i = some c) :
    (steps all).error? c = some .cancelled ↔
      ∃ before handle after target, all = before ++ .cancel handle :: after ∧
        (steps before).handle? handle = some target ∧
        (steps before).Hears (steps all) target c.signal := by
  have made := (isSound_steps all).context_lt held
  rw [error?_eq_cancelled, isCancelled_steps made, Heard]

/-- The context in between is gone when the cancellation comes, but its
handle is still there. -/
theorem cancelled_iff_handle_between :
    (steps [.background, .withCancel 0, .withCancel 1, .withTimeout 2 1000, .drop 2, .cancel 1]).error?
      ⟨some 1000, 3⟩ = some .cancelled := by
  refine (cancelled_iff _ 3 ⟨some 1000, 3⟩ rfl).mpr ?_
  refine ⟨[.background, .withCancel 0, .withCancel 1, .withTimeout 2 1000, .drop 2], 1, [], 1, rfl,
    rfl, ?_⟩
  exact .tail (b := 2) (.tail .refl ⟨rfl, .inr rfl⟩) ⟨rfl, .inr rfl⟩

/-- The signal lies below another, through any number of them. -/
def Below (s : Contexts) (target x : Nat) : Prop :=
  Relation.ReflTransGen (fun p x => s.parent? x = some p) target x

/-- No context is cancelled but by a handle of its own or of one it was
derived from. -/
theorem cancelled_from_above {all : List ContextStep} {i : Nat} {c : Context}
    (held : (steps all).context? i = some c) (cancelled : (steps all).error? c = some .cancelled) :
    ∃ before handle after target, all = before ++ .cancel handle :: after ∧
      (steps before).handle? handle = some target ∧ (steps all).Below target c.signal := by
  rw [error?_eq_cancelled, isCancelled_steps ((isSound_steps all).context_lt held)] at cancelled
  obtain ⟨before, handle, after, target, eq, named, hears⟩ := cancelled
  have below : (steps all).Below target c.signal :=
    Relation.ReflTransGen.mono (fun _ _ (passes : Passes _ _ _ _) => passes.1) _ _ hears
  exact ⟨before, handle, after, target, eq, named, below⟩

/-- A context that was derived from a cancelled one need not be cancelled:
the context between them was let go before. -/
theorem cut_off_from_ancestor :
    ¬ ∀ (all : List ContextStep) (i : Nat) (c : Context), (steps all).context? i = some c →
      ((steps all).error? c = some .cancelled ↔
        ∃ before handle after target, all = before ++ .cancel handle :: after ∧
          (steps before).handle? handle = some target ∧ (steps all).Below target c.signal) := by
  intro law
  have derived : (steps [.background, .withCancel 0, .withTimeout 1 1000, .withTimeout 2 1000,
      .drop 2, .cancel 1]).Below 1 3 :=
    .tail (b := 2) (.tail .refl rfl) rfl
  have cancelled := (law _ 3 ⟨some 1000, 3⟩ (by decide +kernel)).mpr
    ⟨[.background, .withCancel 0, .withTimeout 1 1000, .withTimeout 2 1000, .drop 2], 1, [], 1, rfl,
      rfl, derived⟩
  exact absurd cancelled (by decide +kernel)

end Contexts

end SqlCompose
