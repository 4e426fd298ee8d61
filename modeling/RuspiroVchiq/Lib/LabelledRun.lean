import Mathlib.Data.List.Induction
import Mathlib.Tactic.Common

/-!
# Runs of labelled transition systems

A run records the labels of its steps in order. Safety results are proved by
one rule: a property of the history and the reached state that holds at the
start and survives every step holds along every run. Trace properties of the
form "every event is justified by what came before it" have their own predicate
with the two rewriting lemmas an induction over a run needs.
-/

namespace RuspiroVchiq.Lib.LabelledRun

set_option autoImplicit false

variable {State Label Event : Type*}

inductive Run (step : State → Label → State → Prop) (start : State) :
    List Label → State → Prop where
  | refl : Run step start [] start
  | snoc {labels : List Label} {before after : State} {label : Label}
      (run : Run step start labels before) (move : step before label after) :
      Run step start (labels ++ [label]) after

/-- Steps that are taken only where the guard allows them. -/
def Guarded (step : State → Label → State → Prop) (guard : State → Label → Prop) :
    State → Label → State → Prop :=
  fun before label after => step before label after ∧ guard before label

/-- The invariant rule. The run so far is available in the step, so that facts
proved of every run can be used while a further one is established. -/
theorem Run.invariant {step : State → Label → State → Prop} {start : State}
    (Inv : List Label → State → Prop) (initial : Inv [] start)
    (preserved : ∀ labels before label after, Run step start labels before →
      Inv labels before → step before label after → Inv (labels ++ [label]) after)
    {labels : List Label} {reached : State} (run : Run step start labels reached) :
    Inv labels reached := by
  induction run with
  | refl => exact initial
  | snoc run move ih => exact preserved _ _ _ _ run ih move

theorem Run.mono {step larger : State → Label → State → Prop} {start : State}
    (included : ∀ before label after, step before label after → larger before label after)
    {labels : List Label} {reached : State} (run : Run step start labels reached) :
    Run larger start labels reached := by
  induction run with
  | refl => exact .refl
  | snoc _ move ih => exact .snoc ih (included _ _ _ move)

/-- One run after another. -/
theorem Run.append {step : State → Label → State → Prop} {start middle reached : State}
    {earlier later : List Label} (first : Run step start earlier middle)
    (second : Run step middle later reached) : Run step start (earlier ++ later) reached := by
  induction second with
  | refl =>
      rw [List.append_nil]
      exact first
  | snoc _ move ih =>
      rw [← List.append_assoc]
      exact .snoc ih move

/-- The guard that forbids nothing. -/
theorem Run.guarded {step : State → Label → State → Prop} {start : State}
    {labels : List Label} {reached : State} (run : Run step start labels reached) :
    Run (Guarded step fun _ _ => True) start labels reached :=
  run.mono fun _ _ _ move => ⟨move, trivial⟩

theorem Run.unguarded {step : State → Label → State → Prop} {guard : State → Label → Prop}
    {start : State} {labels : List Label} {reached : State}
    (run : Run (Guarded step guard) start labels reached) : Run step start labels reached :=
  run.mono fun _ _ _ move => move.1

/-- Forward simulation: related states stay related along runs with the same
labels. -/
theorem Run.simulate {Abstract : Type*} {step : State → Label → State → Prop}
    {abstractStep : Abstract → Label → Abstract → Prop} {start : State}
    {abstractStart : Abstract} (Related : State → Abstract → Prop)
    (initial : Related start abstractStart)
    (simulated : ∀ before label after abstract, Related before abstract →
      step before label after →
        ∃ next, abstractStep abstract label next ∧ Related after next)
    {labels : List Label} {reached : State} (run : Run step start labels reached) :
    ∃ abstract, Run abstractStep abstractStart labels abstract ∧ Related reached abstract := by
  induction run with
  | refl => exact ⟨abstractStart, .refl, initial⟩
  | snoc _ move ih =>
      obtain ⟨abstract, abstractRun, related⟩ := ih
      obtain ⟨next, abstractMove, kept⟩ := simulated _ _ _ abstract related move
      exact ⟨next, .snoc abstractRun abstractMove, kept⟩

/-- Where every step is computed, so is a run. -/
theorem run_of_fold {step : State → Label → Option State} {start before reached : State}
    {earlier : List Label} (labels : List Label)
    (run : Run (fun before label after => step before label = some after) start earlier before)
    (computed : labels.foldlM step before = some reached) :
    Run (fun before label after => step before label = some after) start (earlier ++ labels)
      reached := by
  induction labels generalizing earlier before with
  | nil =>
      rw [List.foldlM_nil, pure, Applicative.toPure, Monad.toApplicative] at computed
      rw [List.append_nil, ← Option.some.inj computed]
      exact run
  | cons label labels ih =>
      rw [List.foldlM_cons] at computed
      rcases Option.bind_eq_some_iff.mp computed with ⟨next, move, others⟩
      have extended := ih (run.snoc move) others
      rwa [List.append_assoc, List.singleton_append] at extended

/-- Moves one after the other, each with the label of the step it makes. -/
def performAll {Move : Type*} (perform : State → Move → Option (Label × State)) (start : State) :
    List Move → Option (List Label × State)
  | [] => some ([], start)
  | move :: moves =>
      match perform start move with
      | none => none
      | some (label, next) =>
          (performAll perform next moves).map fun rest => (label :: rest.1, rest.2)

theorem run_of_performed {Move : Type*} {perform : State → Move → Option (Label × State)}
    {step : State → Label → State → Prop}
    (sound : ∀ before move label after, perform before move = some (label, after) →
      step before label after)
    {start before reached : State} {earlier labels : List Label} {moves : List Move}
    (run : Run step start earlier before)
    (performed : performAll perform before moves = some (labels, reached)) :
    Run step start (earlier ++ labels) reached := by
  induction moves generalizing earlier labels before with
  | nil =>
      simp only [performAll, Option.some.injEq, Prod.mk.injEq] at performed
      rcases performed with ⟨rfl, rfl⟩
      rw [List.append_nil]
      exact run
  | cons move moves ih =>
      simp only [performAll] at performed
      cases first : perform before move with
      | none => simp [first] at performed
      | some result =>
          rcases result with ⟨label, next⟩
          simp only [first, Option.map_eq_some_iff, Prod.mk.injEq] at performed
          rcases performed with ⟨⟨rest, last⟩, others, rfl, rfl⟩
          have extended := ih (run.snoc (sound _ _ _ _ first)) others
          rwa [List.append_assoc, List.singleton_append] at extended

/-- Some event of the trace has the property. -/
def Seen (trace : List Event) (property : Event → Prop) : Prop :=
  ∃ event ∈ trace, property event

theorem seen_nil (property : Event → Prop) : ¬Seen [] property := by
  rintro ⟨event, member, _⟩
  simp at member

theorem seen_snoc (trace : List Event) (last : Event) (property : Event → Prop) :
    Seen (trace ++ [last]) property ↔ Seen trace property ∨ property last := by
  simp [Seen, or_and_right, exists_or]

/-- A step that may come with an event. -/
theorem seen_extend (trace : List Event) (last : Option Event) (property : Event → Prop) :
    Seen (trace ++ last.toList) property ↔
      Seen trace property ∨ ∃ event, last = some event ∧ property event := by
  cases last with
  | none => simp
  | some event => simp [seen_snoc]

theorem Seen.append {trace : List Event} {property : Event → Prop}
    (seen : Seen trace property) (batch : List Event) : Seen (trace ++ batch) property := by
  obtain ⟨event, member, holds⟩ := seen
  exact ⟨event, List.mem_append_left batch member, holds⟩

/-- Every event of the trace is justified by the events before it. -/
def EveryEvent (justified : List Event → Event → Prop) (trace : List Event) : Prop :=
  ∀ earlier event later, trace = earlier ++ event :: later → justified earlier event

theorem every_event_nil (justified : List Event → Event → Prop) :
    EveryEvent justified [] := by
  intro earlier event later same
  simp at same

/-- Where an event of an extended trace is. -/
theorem snoc_eq_split {trace earlier later : List Event} {last event : Event} :
    trace ++ [last] = earlier ++ event :: later ↔
      (later = [] ∧ trace = earlier ∧ last = event) ∨
        ∃ later', later = later' ++ [last] ∧ trace = earlier ++ event :: later' := by
  constructor
  · intro same
    cases later using List.reverseRecOn with
    | nil =>
        have parts := List.append_inj' same rfl
        exact .inl ⟨rfl, parts.1, by simpa using parts.2⟩
    | append_singleton later final _ =>
        have regrouped : trace ++ [last] = (earlier ++ event :: later) ++ [final] := by
          simpa using same
        have parts := List.append_inj' regrouped rfl
        have sameLast : last = final := by simpa using parts.2
        exact .inr ⟨later, by rw [sameLast], parts.1⟩
  · rintro (⟨rfl, rfl, rfl⟩ | ⟨later', rfl, rfl⟩)
    · rfl
    · simp

theorem every_event_snoc (justified : List Event → Event → Prop) (trace : List Event)
    (last : Event) :
    EveryEvent justified (trace ++ [last]) ↔
      EveryEvent justified trace ∧ justified trace last := by
  constructor
  · intro every
    refine ⟨?_, every trace last [] rfl⟩
    intro earlier event later same
    exact every earlier event (later ++ [last]) (by simp [same])
  · rintro ⟨every, final⟩ earlier event later same
    rcases snoc_eq_split.mp same with ⟨_, rfl, rfl⟩ | ⟨later', _, split⟩
    · exact final
    · exact every earlier event later' split

end RuspiroVchiq.Lib.LabelledRun
