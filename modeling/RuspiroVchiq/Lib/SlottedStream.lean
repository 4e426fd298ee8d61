import Mathlib.Algebra.Ring.Nat
import Mathlib.Data.List.Basic
import Mathlib.Tactic.Common

/-!
# Streams of framed messages

Messages of different sizes follow one another in a byte stream. `Tiles` says
that a list of messages fills an interval of stream positions without gaps,
each message being placed at its own position. What it means to be placed is
a parameter: the users of this module instantiate it with "the bytes of the
message are in memory at the address of this position".
-/

namespace RuspiroVchiq.Lib.SlottedStream

set_option autoImplicit false

variable {Message : Type*} (stride : Message → Nat)

inductive Tiles (placed : Nat → Message → Prop) : Nat → List Message → Nat → Prop where
  | nil (position : Nat) : Tiles placed position [] position
  | cons {position finish : Nat} {message : Message} {rest : List Message}
      (head : placed position message)
      (tail : Tiles placed (position + stride message) rest finish) :
      Tiles placed position (message :: rest) finish

variable {stride} {placed : Nat → Message → Prop}

theorem Tiles.start_le_finish {start finish : Nat} {messages : List Message}
    (tiles : Tiles stride placed start messages finish) : start ≤ finish := by
  induction tiles with
  | nil position => exact Nat.le_refl position
  | cons _ _ ih => omega

theorem Tiles.eq_of_nil {start finish : Nat} (tiles : Tiles stride placed start [] finish) :
    start = finish := by
  cases tiles
  rfl

theorem Tiles.lt_of_cons {start finish : Nat} {message : Message} {rest : List Message}
    (positive : ∀ message, 0 < stride message)
    (tiles : Tiles stride placed start (message :: rest) finish) : start < finish := by
  cases tiles with
  | cons head tail =>
      have advance := tail.start_le_finish
      have step := positive message
      omega

/-- Placement may be weakened position by position inside the interval. -/
theorem Tiles.imp {other : Nat → Message → Prop} {start finish : Nat}
    {messages : List Message} (tiles : Tiles stride placed start messages finish)
    (weaken : ∀ position message, start ≤ position → position + stride message ≤ finish →
      placed position message → other position message) :
    Tiles stride other start messages finish := by
  induction tiles with
  | nil position => exact .nil position
  | @cons position finish message rest head tail ih =>
      have fits := tail.start_le_finish
      refine .cons (weaken position message (Nat.le_refl _) fits head) (ih ?_)
      intro later message' lower upper placed'
      exact weaken later message' (by omega) upper placed'

theorem Tiles.snoc {start finish : Nat} {messages : List Message} {message : Message}
    (tiles : Tiles stride placed start messages finish) (last : placed finish message) :
    Tiles stride placed start (messages ++ [message]) (finish + stride message) := by
  induction tiles with
  | nil position => exact .cons last (.nil _)
  | cons head _ ih => exact .cons head (ih last)

/-- Messages that are placed one by one behind each other tile their interval. -/
theorem tiles_of_placed (start : Nat) (messages : List Message)
    (each : ∀ earlier message later, messages = earlier ++ message :: later →
      placed (start + (earlier.map stride).sum) message) :
    Tiles stride placed start messages (start + (messages.map stride).sum) := by
  induction messages generalizing start with
  | nil => exact .nil start
  | cons message rest ih =>
      have tail := ih (start + stride message) (by
        intro earlier next later same
        have further := each (message :: earlier) next later (by rw [same]; rfl)
        simpa [Nat.add_assoc] using further)
      have head := each [] message rest rfl
      rw [List.map_cons, List.sum_cons, ← Nat.add_assoc]
      exact .cons (by simpa using head) tail

end RuspiroVchiq.Lib.SlottedStream
