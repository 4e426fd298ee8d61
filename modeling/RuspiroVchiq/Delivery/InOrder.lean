import RuspiroVchiq.Delivery.Backlog

/-!
# The payloads a client gets

The bytes that the removals from the ring of one service returned, against the log of
the messages that were delivered to it: while there is room for each of them, the
removals return their payloads in that order, none twice and none left out.
-/

namespace RuspiroVchiq.Delivery

open RuspiroVchiq.Config
open RuspiroVchiq.Shared
open RuspiroVchiq.Vchiq
open RuspiroVchiq.Lib.LabelledRun
open RuspiroVchiq.Lib.RingQueue

set_option autoImplicit false

def RingLabel.bytesFrom (service : Nat) : RingLabel → Option (List UInt8)
  | .taken other bytes => if other = service then some bytes else none
  | _ => none

/-- The payloads that were taken from the ring of a service, oldest first. -/
def returnedFrom (service : Nat) (labels : List RingLabel) : List (List UInt8) :=
  labels.filterMap (RingLabel.bytesFrom service)

theorem returned_from_snoc (service : Nat) (labels : List RingLabel) (label : RingLabel) :
    returnedFrom service (labels ++ [label]) =
      returnedFrom service labels ++ (label.bytesFrom service).toList := by
  rw [returnedFrom, List.filterMap_append, returnedFrom]
  cases found : label.bytesFrom service <;> simp [found]

/-- So far the payloads of the oldest messages were returned. -/
def ReturnedInOrder (service : Nat) (labels : List RingLabel) (rings : Rings) : Prop :=
  returnedFrom service labels =
    ((deliveredTo service labels).take (rings.users service).msgRemove).map SlotMessage.data

/-- Steps that neither deliver to the service nor take from it. -/
theorem ReturnedInOrder.frame {service : Nat} {labels : List RingLabel} {label : RingLabel}
    {before after : Rings} (returned : ReturnedInOrder service labels before)
    (silent : label.messageFor service = none) (still : label.bytesFrom service = none)
    (same : (after.users service).msgRemove = (before.users service).msgRemove) :
    ReturnedInOrder service (labels ++ [label]) after := by
  unfold ReturnedInOrder
  rw [returned_from_snoc, delivered_to_snoc, silent, still, same, Option.toList_none,
    Option.toList_none, List.append_nil, List.append_nil]
  exact returned

theorem returned_step {service : Nat} {labels : List RingLabel} {label : RingLabel}
    {before after : Rings} (backlog : BacklogInvariant service labels before)
    (returned : ReturnedInOrder service labels before) (move : RingStep before label after) :
    ReturnedInOrder service (labels ++ [label]) after := by
  cases move with
  | @delivered completion user other message callback =>
      by_cases same : other = service
      · subst same
        have kept := service_callback_inserts backlog.vchi callback
        have remove : user.msgRemove = (before.users other).msgRemove := kept.msgRemove
        have within : (before.users other).msgRemove ≤ (deliveredTo other labels).length := by
          rw [backlog.logged]
          exact backlog.order
        unfold ReturnedInOrder
        rw [returned_from_snoc, delivered_to_snoc]
        simp only [RingLabel.bytesFrom, RingLabel.messageFor, if_true, Option.toList_none,
          Option.toList_some, List.append_nil, Function.update_self]
        rw [remove, List.take_append_of_le_length within]
        exact returned
      · apply returned.frame
        · simp [RingLabel.messageFor, same]
        · rfl
        · simp only [Function.update_of_ne (Ne.symm same)]
  | called other _ _ => exact returned.frame rfl rfl rfl
  | polled other _ =>
      apply returned.frame rfl rfl
      by_cases same : service = other
      · subst same
        simp only [Function.update_self]
        exact (dequeue_ready_same_queue _).msgRemove
      · simp only [Function.update_of_ne same]
  | dropped other _ => exact returned.frame rfl rfl rfl
  | @taken user bytes other ready removal =>
      by_cases same : other = service
      · subst same
        rcases backlog.oldest (backlog.ready ready) with ⟨message, split, stored⟩
        rw [dequeue_take_of_some backlog.order stored] at removal
        simp only [Except.ok.injEq, Prod.mk.injEq] at removal
        rcases removal with ⟨rfl, rfl⟩
        have next : (deliveredTo other labels)[(before.users other).msgRemove]? = some message := by
          rw [← List.head?_drop, split]
          rfl
        unfold ReturnedInOrder
        rw [returned_from_snoc, delivered_to_snoc]
        simp only [RingLabel.bytesFrom, RingLabel.messageFor, if_true, Option.toList_none,
          Option.toList_some, List.append_nil, Function.update_self]
        rw [List.take_add_one, next, List.map_append, ← returned]
        rfl
      · apply returned.frame
        · rfl
        · simp [RingLabel.bytesFrom, same]
        · simp only [Function.update_of_ne (Ne.symm same)]
  | failed other _ _ => exact returned.frame rfl rfl rfl
  | awaited _ _ => exact returned.frame rfl rfl rfl
  | pending _ _ => exact returned.frame rfl rfl rfl

/-- While no message is delivered to a full queue, what was returned is the beginning of
what was delivered, and the ring holds the rest. -/
theorem returned_run {userdata : Nat → Option ServiceHandle} {vchi : Nat → Bool} {service : Nat}
    {labels : List RingLabel} {rings : Rings} (isVchi : vchi service = true)
    (run : Run (Guarded RingStep (RoomFor service)) (Rings.initial userdata vchi) labels rings) :
    BacklogInvariant service labels rings ∧ ReturnedInOrder service labels rings := by
  apply run.invariant fun labels rings =>
    BacklogInvariant service labels rings ∧ ReturnedInOrder service labels rings
  · refine ⟨⟨isVchi, rfl, holds_empty 0, ?_⟩, rfl⟩
    simp [Rings.initial]
  · intro labels before label after _ inv step
    exact ⟨backlog_invariant_step inv.1 step, returned_step inv.1 inv.2 step.1⟩

end RuspiroVchiq.Delivery
