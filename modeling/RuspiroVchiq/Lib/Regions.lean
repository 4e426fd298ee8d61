import Mathlib.Data.List.Pairwise
import Mathlib.Tactic.Common

/-!
# Regions of an address space

Intervals of addresses, the two questions a memory layout is asked, whether a region is
inside a block and whether two regions are apart, and the answers for the cells of an
array.
-/

namespace RuspiroVchiq.Lib.Regions

set_option autoImplicit false

structure Region where
  start : Nat
  size : Nat
  deriving DecidableEq, Repr

def Region.stop (region : Region) : Nat := region.start + region.size

def Region.Within (region block : Region) : Prop :=
  block.start ≤ region.start ∧ region.stop ≤ block.stop

def Region.Apart (left right : Region) : Prop :=
  left.stop ≤ right.start ∨ right.stop ≤ left.start

variable {left right block other : Region}

theorem Region.within_refl (block : Region) : block.Within block :=
  ⟨Nat.le_refl _, Nat.le_refl _⟩

theorem Region.Within.apart (leftInside : left.Within block) (rightInside : right.Within other)
    (apart : block.Apart other) : left.Apart right := by
  unfold Region.Within at leftInside rightInside
  unfold Region.Apart at apart ⊢
  omega

/-- A region with content is not inside of a block it is apart from. -/
theorem Region.Apart.not_within (apart : left.Apart block) (positive : 0 < left.size) :
    ¬left.Within block := by
  unfold Region.Apart at apart
  unfold Region.Within
  unfold Region.stop at *
  omega

/-- The cells of an array. -/
def cells (start size count : Nat) : List Region :=
  (List.range count).map fun index => { start := start + index * size, size := size }

variable {start size count : Nat}

theorem cells_within (fits : Region.Within ⟨start, count * size⟩ block) :
    ∀ cell ∈ cells start size count, cell.Within block := by
  intro cell member
  rcases List.mem_map.mp member with ⟨index, inRange, rfl⟩
  have bound : (index + 1) * size ≤ count * size :=
    Nat.mul_le_mul_right size (List.mem_range.mp inRange)
  rw [Nat.succ_mul] at bound
  unfold Region.Within Region.stop at fits ⊢
  simp only at fits ⊢
  omega

theorem cells_apart (start size count : Nat) :
    (cells start size count).Pairwise Region.Apart := by
  apply List.Pairwise.map _ _ List.pairwise_lt_range
  intro earlier later before
  have bound : (earlier + 1) * size ≤ later * size := Nat.mul_le_mul_right size before
  rw [Nat.succ_mul] at bound
  unfold Region.Apart Region.stop
  simp only
  omega

end RuspiroVchiq.Lib.Regions
