import Mathlib

/-!
# Next-fit packing

Items are put into bins of one size, each behind the one before it if it still fits into
the current bin and at the start of the next bin otherwise. A bin that was left is never
used again. Positions count from the start of the first bin.
-/

namespace RuspiroVchiq.Lib.NextFit

set_option autoImplicit false

/-- Where the next item is put. -/
def nextStart (size cursor item : Nat) : Nat :=
  if item ≤ size - cursor % size then cursor else cursor + (size - cursor % size)

/-- Where the last item ends. -/
def packed (size : Nat) (items : List Nat) : Nat :=
  items.foldl (fun cursor item => nextStart size cursor item + item) 0

variable {size cursor item : Nat}

@[simp] theorem packed_nil (size : Nat) : packed size [] = 0 := rfl

theorem packed_snoc (size : Nat) (items : List Nat) (item : Nat) :
    packed size (items ++ [item]) = nextStart size (packed size items) item + item := by
  rw [packed, List.foldl_append]
  rfl

theorem cursor_le_start (size cursor item : Nat) : cursor ≤ nextStart size cursor item := by
  unfold nextStart
  split_ifs with fits
  · exact Nat.le_refl cursor
  · exact Nat.le_add_right _ _

/-- The gap in front of an item is smaller than the item. -/
theorem start_le_cursor_add (size cursor item : Nat) :
    nextStart size cursor item ≤ cursor + item := by
  unfold nextStart
  split_ifs with fits
  · exact Nat.le_add_right _ _
  · omega

theorem sum_le_packed (size : Nat) (items : List Nat) : items.sum ≤ packed size items := by
  induction items using List.reverseRecOn with
  | nil => exact Nat.le_refl 0
  | append_singleton items item ih =>
      have behind := cursor_le_start size (packed size items) item
      rw [packed_snoc, List.sum_append, List.sum_singleton]
      omega

/-- At most half of the space is wasted. -/
theorem packed_le_twice (size : Nat) (items : List Nat) :
    packed size items ≤ 2 * items.sum := by
  induction items using List.reverseRecOn with
  | nil => exact Nat.le_refl 0
  | append_singleton items item ih =>
      have gap := start_le_cursor_add size (packed size items) item
      rw [packed_snoc, List.sum_append, List.sum_singleton]
      omega

/-- An item does not cross the end of a bin. -/
theorem start_mod_add_le (cursor : Nat) (positive : 0 < size) (small : item ≤ size) :
    nextStart size cursor item % size + item ≤ size := by
  have remainder := Nat.mod_lt cursor positive
  unfold nextStart
  split_ifs with fits
  · omega
  · have boundary : (cursor + (size - cursor % size)) % size = 0 := by
      have split := Nat.div_add_mod cursor size
      have multiple : cursor + (size - cursor % size) = size * (cursor / size + 1) := by
        rw [Nat.mul_succ]
        omega
      rw [multiple, Nat.mul_mod_right]
    omega

/-- An item that starts inside of the first bins ends there. -/
theorem start_add_le (positive : 0 < size) (small : item ≤ size) {bins : Nat}
    (inside : nextStart size cursor item < bins * size) :
    nextStart size cursor item + item ≤ bins * size := by
  have inBin := start_mod_add_le cursor positive small
  have split := Nat.div_add_mod (nextStart size cursor item) size
  have earlier : nextStart size cursor item / size + 1 ≤ bins :=
    Nat.div_lt_of_lt_mul (by rwa [Nat.mul_comm])
  have bound := Nat.mul_le_mul_left size earlier
  rw [Nat.mul_succ, Nat.mul_comm size bins] at bound
  omega

end RuspiroVchiq.Lib.NextFit
