import Mathlib.Data.List.Basic
import Mathlib.Tactic.Common

/-!
# Comparing two runs of a schedule

A machine answers each move of a schedule with observations and a next state, or stops.
Two rules compare what is observed. Related states that answer every move alike are never
told apart. Moves that are erased from a schedule leave no trace if they keep the relation
on their own, as long as a guard that may keep a note about the first run is met.
-/

namespace RuspiroVchiq.Lib.Unwinding

set_option autoImplicit false

variable {State Move Seen Note : Type*}

/-- A machine and its answers. -/
abbrev Machine (State Move Seen : Type*) := State → Move → Option (List Seen × State)

def runAll (machine : Machine State Move Seen) : State → List Move → Option (List Seen × State)
  | state, [] => some ([], state)
  | state, move :: moves =>
      match machine state move with
      | none => none
      | some (seen, next) =>
          (runAll machine next moves).map fun result => (seen ++ result.1, result.2)

/-- What is observed of a schedule. -/
def observed (machine : Machine State Move Seen) (state : State) (moves : List Move) :
    Option (List Seen) :=
  (runAll machine state moves).map Prod.fst

theorem run_all_cons {machine : Machine State Move Seen} {state next : State} {move : Move}
    {seen : List Seen} (answered : machine state move = some (seen, next)) (moves : List Move) :
    runAll machine state (move :: moves) =
      (runAll machine next moves).map fun result => (seen ++ result.1, result.2) := by
  rw [runAll, answered]

theorem run_all_append {machine : Machine State Move Seen} {state middle : State}
    {front : List Move} {seen : List Seen}
    (ran : runAll machine state front = some (seen, middle)) (back : List Move) :
    runAll machine state (front ++ back) =
      (runAll machine middle back).map fun result => (seen ++ result.1, result.2) := by
  induction front generalizing state seen with
  | nil =>
      simp only [runAll, Option.some.injEq, Prod.mk.injEq] at ran
      rcases ran with ⟨rfl, rfl⟩
      simp
  | cons move front ih =>
      cases answered : machine state move with
      | none => simp [runAll, answered] at ran
      | some answer =>
          rcases answer with ⟨first, next⟩
          rw [run_all_cons answered, Option.map_eq_some_iff] at ran
          rcases ran with ⟨⟨later, reached⟩, further, same⟩
          simp only [Prod.mk.injEq] at same
          rcases same with ⟨rfl, rfl⟩
          rw [List.cons_append, run_all_cons answered, ih further, Option.map_map]
          congr 1
          funext result
          simp [List.append_assoc]

theorem observed_cons {machine : Machine State Move Seen} {state next : State} {move : Move}
    {seen : List Seen} (answered : machine state move = some (seen, next)) (moves : List Move) :
    observed machine state (move :: moves) =
      (observed machine next moves).map fun later => seen ++ later := by
  simp only [observed, run_all_cons answered, Option.map_map, Function.comp_def]

theorem observed_append {machine : Machine State Move Seen} {state middle : State}
    {front : List Move} {seen : List Seen}
    (ran : runAll machine state front = some (seen, middle)) (back : List Move) :
    observed machine state (front ++ back) =
      (observed machine middle back).map fun later => seen ++ later := by
  simp only [observed, run_all_append ran, Option.map_map, Function.comp_def]

/-- Both stop, or both go on with the same observations to related states. -/
def SameAnswer (related : State → State → Prop) :
    Option (List Seen × State) → Option (List Seen × State) → Prop
  | none, none => True
  | some (seen, next), some (seen', next') => seen = seen' ∧ related next next'
  | _, _ => False

theorem SameAnswer.imp {related stronger : State → State → Prop}
    {left right : Option (List Seen × State)} (same : SameAnswer related left right)
    (step : ∀ seen next next', left = some (seen, next) → right = some (seen, next') →
      related next next' → stronger next next') :
    SameAnswer stronger left right := by
  cases left with
  | none =>
      cases right with
      | none => trivial
      | some answer => exact same
  | some answer =>
      cases right with
      | none => exact same
      | some answer' =>
          rcases answer with ⟨seen, next⟩
          rcases answer' with ⟨seen', next'⟩
          rcases same with ⟨rfl, related⟩
          exact ⟨rfl, step seen next next' rfl rfl related⟩

/-- States that answer alike and stay related are never told apart. -/
theorem observed_eq_of_related {machine : Machine State Move Seen}
    (related : State → State → Prop)
    (alike : ∀ left right move, related left right →
      SameAnswer related (machine left move) (machine right move))
    {left right : State} (start : related left right) (moves : List Move) :
    observed machine left moves = observed machine right moves := by
  induction moves generalizing left right with
  | nil => rfl
  | cons move moves ih =>
      have answers := alike left right move start
      cases answered : machine left move with
      | none =>
          cases answered' : machine right move with
          | none => simp [observed, runAll, answered, answered']
          | some answer => simp [answered, answered', SameAnswer] at answers
      | some answer =>
          cases answered' : machine right move with
          | none => simp [answered, answered', SameAnswer] at answers
          | some answer' =>
              rw [answered, answered'] at answers
              rcases answers with ⟨sameSeen, further⟩
              rw [observed_cons answered, observed_cons answered', ih further, sameSeen]

/-- The guard is met along the run, and the note it ends with is as required. The note
is taken down from the states of this run. -/
def GuardedRun (machine : Machine State Move Seen) (guard : Note → State → Move → Prop)
    (advance : State → Move → Note → Note) (final : Note → Prop) :
    Note → State → List Move → Prop
  | note, _, [] => final note
  | note, state, move :: moves =>
      guard note state move ∧
        ∀ seen next, machine state move = some (seen, next) →
          GuardedRun machine guard advance final (advance state move note) next moves

/-- Erasing moves from a guarded run changes nothing that is observed. -/
theorem erased_run {machine : Machine State Move Seen} {guard : Note → State → Move → Prop}
    {advance : State → Move → Note → Note} {final : Note → Prop} (erased : Move → Bool)
    (related : Note → State → State → Prop) (allowed : Move → Prop)
    (alike : ∀ note left right move, allowed move → erased move = false →
      related note left right → guard note left move →
        SameAnswer (related (advance left move note)) (machine left move) (machine right move))
    (silent : ∀ note left right move seen next, erased move = true →
      related note left right → machine left move = some (seen, next) →
        seen = [] ∧ related (advance left move note) next right)
    {note : Note} {left right reached : State} {moves : List Move} {seen : List Seen}
    (every : ∀ move ∈ moves, allowed move) (start : related note left right)
    (guarded : GuardedRun machine guard advance final note left moves)
    (ran : runAll machine left moves = some (seen, reached)) :
    ∃ note' reached', final note' ∧ related note' reached reached' ∧
      runAll machine right (moves.filter fun move => !erased move) = some (seen, reached') := by
  induction moves generalizing note left right seen with
  | nil =>
      simp only [runAll, Option.some.injEq, Prod.mk.injEq] at ran
      rcases ran with ⟨rfl, rfl⟩
      exact ⟨note, right, guarded, start, rfl⟩
  | cons move moves ih =>
      rcases guarded with ⟨met, rest⟩
      have others : ∀ other ∈ moves, allowed other :=
        fun other member => every other (List.mem_cons_of_mem _ member)
      cases answered : machine left move with
      | none => simp [runAll, answered] at ran
      | some answer =>
          rcases answer with ⟨first, next⟩
          rw [run_all_cons answered, Option.map_eq_some_iff] at ran
          rcases ran with ⟨⟨later, final'⟩, further, same⟩
          simp only [Prod.mk.injEq] at same
          rcases same with ⟨rfl, rfl⟩
          have guardedRest := rest first next answered
          cases isErased : erased move with
          | true =>
              rcases silent note left right move first next isErased start answered with
                ⟨rfl, kept⟩
              rw [List.filter_cons_of_neg (by simp [isErased]), List.nil_append]
              exact ih others kept guardedRest further
          | false =>
              have answers := alike note left right move (every move List.mem_cons_self)
                isErased start met
              rw [answered] at answers
              cases answered' : machine right move with
              | none => simp [answered', SameAnswer] at answers
              | some answer' =>
                  rcases answer' with ⟨first', next'⟩
                  rw [answered'] at answers
                  rcases answers with ⟨rfl, kept⟩
                  rcases ih others kept guardedRest further with
                    ⟨note', reached', ended, relatedEnd, ran'⟩
                  refine ⟨note', reached', ended, relatedEnd, ?_⟩
                  rw [List.filter_cons_of_pos (by simp [isErased]), run_all_cons answered', ran']
                  rfl

end RuspiroVchiq.Lib.Unwinding
