import Mathlib.Data.Finset.Card
import Mathlib.Data.Fintype.Card
import Mathlib.Data.List.Basic
import Mathlib.Logic.Function.Basic

/-!
# Queues with one ticket per client

A queue whose elements are owned by clients, addressed by positions that only ever
grow. Every client remembers the position of its last element. `Tickets` says that
what the clients remember is right: an element in the queue is at the position its
owner remembers, and a remembered position that was not passed yet holds an element
of that client. Then the queue is never longer than there are clients.
-/

namespace RuspiroVchiq.Lib.TicketQueue

set_option autoImplicit false

variable {Client Element : Type*}

structure Tickets (clients : Finset Client) (owner : Element → Option Client)
    (queue : List Element) (first : Nat) (position : Client → Int) : Prop where
  owned : ∀ index element, queue[index]? = some element →
    ∃ client ∈ clients, owner element = some client ∧ position client = (first + index : Nat)
  pending : ∀ client, (first : Int) ≤ position client →
    ∃ index element, queue[index]? = some element ∧ owner element = some client ∧
      position client = (first + index : Nat)

variable {clients : Finset Client} {owner : Element → Option Client} {queue : List Element}
  {first : Nat} {position : Client → Int}

theorem tickets_empty (behind : ∀ client, position client < first) :
    Tickets clients owner [] first position where
  owned := by
    intro index element found
    simp at found
  pending := by
    intro client ahead
    have passed := behind client
    omega

/-- Different positions belong to different clients. -/
theorem Tickets.length_le (tickets : Tickets clients owner queue first position) :
    queue.length ≤ clients.card := by
  have owners : ∀ index : Fin queue.length, ∃ client : clients,
      position client = (first + index : Nat) := by
    intro index
    obtain ⟨client, member, _, here⟩ :=
      tickets.owned index (queue.get index) (by simp)
    exact ⟨⟨client, member⟩, here⟩
  choose client here using owners
  have injective : Function.Injective client := by
    intro left right same
    have leftHere := here left
    have rightHere := here right
    rw [same] at leftHere
    apply Fin.ext
    omega
  have bound := Fintype.card_le_of_injective client injective
  simpa using bound

/-- A client without a ticket takes the next one. -/
theorem Tickets.push [DecidableEq Client] {client : Client} (element : Element)
    (tickets : Tickets clients owner queue first position) (member : client ∈ clients)
    (without : position client < first) (owns : owner element = some client) :
    Tickets clients owner (queue ++ [element]) first
      (Function.update position client (first + queue.length : Nat)) where
  owned := by
    intro index found element'
    by_cases last : index = queue.length
    · subst last
      simp only [List.getElem?_append_right (Nat.le_refl _), Nat.sub_self,
        List.getElem?_cons_zero, Option.some.injEq] at element'
      subst element'
      exact ⟨client, member, owns, Function.update_self _ _ _⟩
    · have earlier : index < queue.length := by
        have bound := (List.getElem?_eq_some_iff.mp element').1
        simp only [List.length_append, List.length_singleton] at bound
        omega
      rw [List.getElem?_append_left earlier] at element'
      obtain ⟨other, otherMember, otherOwns, here⟩ := tickets.owned index found element'
      have different : other ≠ client := by
        rintro rfl
        omega
      exact ⟨other, otherMember, otherOwns, by rw [Function.update_of_ne different, here]⟩
  pending := by
    intro other ahead
    by_cases same : other = client
    · subst same
      exact ⟨queue.length, element, by simp, owns, Function.update_self _ _ _⟩
    · rw [Function.update_of_ne same] at ahead ⊢
      obtain ⟨index, found, element', otherOwns, here⟩ := tickets.pending other ahead
      have bound := (List.getElem?_eq_some_iff.mp element').1
      exact ⟨index, found, by rw [List.getElem?_append_left bound, element'], otherOwns, here⟩

/-- The first elements leave the queue. -/
theorem Tickets.drop {count : Nat} (tickets : Tickets clients owner queue first position) :
    Tickets clients owner (queue.drop count) (first + count) position where
  owned := by
    intro index element found
    rw [List.getElem?_drop] at found
    obtain ⟨client, member, owns, here⟩ := tickets.owned (count + index) element found
    exact ⟨client, member, owns, by rw [here, Nat.add_assoc]⟩
  pending := by
    intro client ahead
    obtain ⟨index, element, found, owns, here⟩ := tickets.pending client (by omega)
    refine ⟨index - count, element, ?_, owns, ?_⟩
    · rw [List.getElem?_drop]
      have inside : count + (index - count) = index := by omega
      rw [inside, found]
    · omega

end RuspiroVchiq.Lib.TicketQueue
