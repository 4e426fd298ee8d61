import Mathlib.Data.List.Basic
import Mathlib.Data.Nat.ModEq
import Mathlib.Logic.Function.Basic
import Mathlib.Tactic.Common

/-!
# Ring buffers with free running counters

A ring of `size` cells is addressed by counters that only ever grow; a counter
selects the cell with its remainder. `Holds` relates such a ring to the list
of its undelivered elements, oldest first. A cell outside the window between
the two counters is vacant, so an insertion below the capacity never meets an
element that was not taken.
-/

namespace RuspiroVchiq.Lib.RingQueue

set_option autoImplicit false

variable {size : Nat} [NeZero size] {Element : Type*}

abbrev Ring (size : Nat) (Element : Type*) := Fin size → Option Element

def cell (size : Nat) [NeZero size] (counter : Nat) : Fin size :=
  ⟨counter % size, Nat.mod_lt _ (Nat.pos_of_neZero size)⟩

theorem cell_inj_of_lt {base left right : Nat} (leftBound : left < size)
    (rightBound : right < size)
    (same : cell size (base + left) = cell size (base + right)) : left = right := by
  have congruent : base + left ≡ base + right [MOD size] := congrArg Fin.val same
  exact (Nat.ModEq.add_left_cancel' base congruent).eq_of_lt_of_lt leftBound rightBound

structure Holds (ring : Ring size Element) (remove insert : Nat)
    (queue : List Element) : Prop where
  counters : remove + queue.length = insert
  capacity : queue.length ≤ size
  stored : ∀ index (bound : index < queue.length),
    ring (cell size (remove + index)) = some (queue.get ⟨index, bound⟩)
  vacant : ∀ target, (∀ index, index < queue.length → cell size (remove + index) ≠ target) →
    ring target = none

theorem holds_empty (counter : Nat) :
    Holds (fun _ => none : Ring size Element) counter counter [] where
  counters := rfl
  capacity := Nat.zero_le _
  stored := fun index bound => absurd bound (Nat.not_lt_zero index)
  vacant := fun _ _ => rfl

/-- Below the capacity the cell of the insert counter is vacant. -/
theorem Holds.insert_vacant {ring : Ring size Element} {remove insert : Nat}
    {queue : List Element} (holds : Holds ring remove insert queue)
    (room : queue.length < size) : ring (cell size insert) = none := by
  apply holds.vacant
  intro index bound same
  rw [← holds.counters] at same
  have equal := cell_inj_of_lt (Nat.lt_trans bound room) room same
  omega

theorem Holds.push {ring : Ring size Element} {remove insert : Nat}
    {queue : List Element} (holds : Holds ring remove insert queue)
    (room : queue.length < size) (element : Element) :
    Holds (Function.update ring (cell size insert) (some element)) remove (insert + 1)
      (queue ++ [element]) where
  counters := by
    have counters := holds.counters
    simp only [List.length_append, List.length_singleton]
    omega
  capacity := by
    simp only [List.length_append, List.length_singleton]
    omega
  stored := by
    intro index bound
    simp only [List.length_append, List.length_singleton] at bound
    by_cases last : index = queue.length
    · subst last
      rw [holds.counters, Function.update_self]
      simp
    · have earlier : index < queue.length := by omega
      have different : cell size (remove + index) ≠ cell size insert := by
        intro same
        rw [← holds.counters] at same
        exact last (cell_inj_of_lt (Nat.lt_trans earlier room) room same)
      rw [Function.update_of_ne different, holds.stored index earlier]
      simp [List.getElem_append_left earlier]
  vacant := by
    intro target unused
    simp only [List.length_append, List.length_singleton] at unused
    have notInsert : target ≠ cell size insert := by
      intro same
      refine unused queue.length (by omega) ?_
      rw [holds.counters, same]
    rw [Function.update_of_ne notInsert]
    exact holds.vacant target fun index bound => unused index (by omega)

theorem Holds.head {ring : Ring size Element} {remove insert : Nat}
    {element : Element} {queue : List Element}
    (holds : Holds ring remove insert (element :: queue)) :
    ring (cell size remove) = some element := by
  simpa using holds.stored 0 (by simp)

theorem Holds.pop {ring : Ring size Element} {remove insert : Nat}
    {element : Element} {queue : List Element}
    (holds : Holds ring remove insert (element :: queue)) :
    Holds (Function.update ring (cell size remove) none) (remove + 1) insert queue where
  counters := by
    have counters := holds.counters
    simp only [List.length_cons] at counters
    omega
  capacity := by
    have capacity := holds.capacity
    simp only [List.length_cons] at capacity
    omega
  stored := by
    intro index bound
    have capacity := holds.capacity
    simp only [List.length_cons] at capacity
    have different : cell size (remove + 1 + index) ≠ cell size remove := by
      intro same
      have shifted : cell size (remove + (index + 1)) = cell size (remove + 0) := by
        simpa [Nat.add_assoc, Nat.add_comm 1 index] using same
      have equal := cell_inj_of_lt (by omega) (by omega) shifted
      omega
    rw [Function.update_of_ne different]
    have shifted := holds.stored (index + 1) (by simpa using bound)
    simpa [Nat.add_assoc, Nat.add_comm 1 index] using shifted
  vacant := by
    intro target unused
    by_cases isHead : target = cell size remove
    · rw [isHead, Function.update_self]
    · rw [Function.update_of_ne isHead]
      apply holds.vacant
      intro index bound
      cases index with
      | zero => simpa using fun same => isHead same.symm
      | succ index =>
          simp only [List.length_cons] at bound
          have later := unused index (by omega)
          simpa [Nat.add_assoc, Nat.add_comm 1 index] using later

end RuspiroVchiq.Lib.RingQueue
