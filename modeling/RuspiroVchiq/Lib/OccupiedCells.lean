import Mathlib

/-!
# Counting the occupied cells of a table

How many cells of a finite table hold an element with some property, when an element is
put into a cell and when it is taken out. Putting may replace an element, so the count
rises at most as far as it should.
-/

namespace RuspiroVchiq.Lib.OccupiedCells

set_option autoImplicit false

variable {Place Element : Type*} [Fintype Place]

/-- The places of the elements with the property. -/
def places (property : Element → Bool) (cells : Place → Option Element) : Finset Place :=
  Finset.univ.filter fun place => (cells place).any property = true

def occupied (property : Element → Bool) (cells : Place → Option Element) : Nat :=
  (places property cells).card

theorem mem_places {property : Element → Bool} {cells : Place → Option Element} {place : Place} :
    place ∈ places property cells ↔ (cells place).any property = true := by
  simp [places]

theorem occupied_empty (property : Element → Bool) :
    occupied property (fun _ : Place => none) = 0 := by
  simp [occupied, places]

variable [DecidableEq Place]

theorem occupied_put_le (property : Element → Bool) (cells : Place → Option Element)
    (place : Place) (element : Element) :
    occupied property (Function.update cells place (some element)) ≤
      occupied property cells + if property element then 1 else 0 := by
  have elsewhere : ∀ other, other ≠ place →
      other ∈ places property (Function.update cells place (some element)) →
        other ∈ places property cells := by
    intro other differs member
    rw [mem_places, Function.update_of_ne differs] at member
    exact mem_places.mpr member
  by_cases holds : property element = true
  · rw [if_pos holds]
    apply le_trans (Finset.card_le_card _) (Finset.card_insert_le place _)
    intro other member
    by_cases here : other = place
    · exact here ▸ Finset.mem_insert_self _ _
    · exact Finset.mem_insert_of_mem (elsewhere other here member)
  · rw [if_neg holds]
    apply Finset.card_le_card
    intro other member
    by_cases here : other = place
    · subst here
      rw [mem_places, Function.update_self] at member
      exact absurd (by simpa using member) holds
    · exact elsewhere other here member

theorem occupied_take (property : Element → Bool) {cells : Place → Option Element}
    {place : Place} {element : Element} (stored : cells place = some element) :
    occupied property (Function.update cells place none) + (if property element then 1 else 0) =
      occupied property cells := by
  have remaining : places property (Function.update cells place none) =
      (places property cells).erase place := by
    ext other
    rw [mem_places, Finset.mem_erase, mem_places]
    by_cases here : other = place
    · simp [here]
    · simp [here]
  unfold occupied
  rw [remaining]
  by_cases holds : property element = true
  · have member : place ∈ places property cells := by
      rw [mem_places, stored]
      exact holds
    rw [if_pos holds]
    exact Finset.card_erase_add_one member
  · have absent : place ∉ places property cells := by
      rw [mem_places, stored]
      exact holds
    rw [if_neg holds, Finset.erase_eq_of_notMem absent, Nat.add_zero]

end RuspiroVchiq.Lib.OccupiedCells
