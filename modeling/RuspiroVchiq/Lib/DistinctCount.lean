import Mathlib.Data.Finset.Card
import Mathlib.Order.Basic

/-!
# Counting distinct entries with a cache of the latest one

A sequence whose entries never decrease has as many distinct entries as there are
places where it moves on. A counter that is raised whenever the next entry differs
from the one it has seen last therefore counts a set. The floor bounds the entries
still to come; before the first entry the cache is below it.
-/

namespace RuspiroVchiq.Lib.DistinctCount

set_option autoImplicit false

variable {Index : Type*} [LinearOrder Index]

structure LatestCount (indices : List Index) (floor latest : Index) (count : Nat) : Prop where
  card : count = indices.toFinset.card
  cached : (indices = [] ∧ latest < floor) ∨
    (latest ∈ indices ∧ ∀ index ∈ indices, index ≤ latest)
  below : ∀ index ∈ indices, index ≤ floor

theorem latest_count_empty {floor latest : Index} (lower : latest < floor) :
    LatestCount [] floor latest 0 := by
  constructor
  · simp
  · exact .inl ⟨rfl, lower⟩
  · simp

theorem LatestCount.raise {indices : List Index} {floor higher latest : Index} {count : Nat}
    (counted : LatestCount indices floor latest count) (raised : floor ≤ higher) :
    LatestCount indices higher latest count := by
  constructor
  · exact counted.card
  · rcases counted.cached with ⟨empty, lower⟩ | known
    · exact .inl ⟨empty, lt_of_lt_of_le lower raised⟩
    · exact .inr known
  · intro index member
    exact le_trans (counted.below index member) raised

/-- The next entry is not below the floor. It is new exactly if the cache does not
hold it. -/
theorem LatestCount.mem_iff {indices : List Index} {floor latest next : Index} {count : Nat}
    (counted : LatestCount indices floor latest count) (above : floor ≤ next) :
    next ∈ indices ↔ next = latest := by
  rcases counted.cached with ⟨empty, lower⟩ | ⟨known, greatest⟩
  · have differs : next ≠ latest := ne_of_gt (lt_of_lt_of_le lower above)
    simp [empty, differs]
  · constructor
    · intro member
      exact le_antisymm (greatest next member) (le_trans (counted.below latest known) above)
    · intro same
      rw [same]
      exact known

theorem LatestCount.push {indices : List Index} {floor higher latest next : Index}
    {count : Nat} (counted : LatestCount indices floor latest count) (above : floor ≤ next)
    (raised : next ≤ higher) :
    LatestCount (indices ++ [next]) higher next
      (if next ≠ latest then count + 1 else count) := by
  have entries : (indices ++ [next]).toFinset = insert next indices.toFinset := by
    ext index
    simp
  have greatest : ∀ index ∈ indices, index ≤ next := by
    intro index member
    exact le_trans (counted.below index member) above
  constructor
  · rw [entries, counted.card]
    by_cases same : next = latest
    · have known : next ∈ indices.toFinset :=
        List.mem_toFinset.mpr ((counted.mem_iff above).mpr same)
      rw [if_neg (not_not.mpr same), Finset.insert_eq_of_mem known]
    · have new : next ∉ indices.toFinset := by
        rw [List.mem_toFinset, counted.mem_iff above]
        exact same
      rw [if_pos same, Finset.card_insert_of_notMem new]
  · right
    constructor
    · simp
    · intro index member
      rcases List.mem_append.mp member with earlier | last
      · exact greatest index earlier
      · rw [List.mem_singleton.mp last]
  · intro index member
    rcases List.mem_append.mp member with earlier | last
    · exact le_trans (greatest index earlier) raised
    · rw [List.mem_singleton.mp last]
      exact raised

omit [LinearOrder Index] in
/-- A counter that is only raised while it has not reached the quota stays below. -/
theorem raised_le_quota [DecidableEq Index] {next latest : Index} {count quota : Nat}
    (bounded : count ≤ quota)
    (admitted : ¬(next ≠ latest ∧ count = quota)) :
    (if next ≠ latest then count + 1 else count) ≤ quota := by
  split_ifs with moves
  · exact Nat.lt_of_le_of_ne bounded fun full => admitted ⟨moves, full⟩
  · exact bounded

end RuspiroVchiq.Lib.DistinctCount
