import RuspiroVchiq.Delivery.Rings

/-!
# The backlog of a service

The message ring of one vchi service against the log of the messages delivered
to it. While no message is delivered to a full queue, the messages between the
two counters are the undelivered end of that log. The callback does not wait
for room, so a delivery to a full queue replaces the oldest of them.
-/

namespace RuspiroVchiq.Delivery

open RuspiroVchiq.Config
open RuspiroVchiq.Shared
open RuspiroVchiq.Vchiq
open RuspiroVchiq.Lib.LabelledRun
open RuspiroVchiq.Lib.RingQueue

set_option autoImplicit false

def RingLabel.messageFor (service : Nat) : RingLabel → Option SlotMessage
  | .delivered other message _ => if other = service then some message else none
  | _ => none

/-- The messages delivered to a service, oldest first. -/
def deliveredTo (service : Nat) (labels : List RingLabel) : List SlotMessage :=
  labels.filterMap (RingLabel.messageFor service)

theorem delivered_to_snoc (service : Nat) (labels : List RingLabel) (label : RingLabel) :
    deliveredTo service (labels ++ [label]) =
      deliveredTo service labels ++ (label.messageFor service).toList := by
  rw [deliveredTo, List.filterMap_append, deliveredTo]
  cases found : label.messageFor service <;> simp [found]

/-- Nothing undelivered is lost: the counters stay within the ring, every message
between them is in its cell, and a removal behind a readiness poll succeeds. -/
structure UndeliveredIntact (service : Nat) (labels : List RingLabel) (rings : Rings) :
    Prop where
  order : (rings.users service).msgRemove ≤ (rings.users service).msgInsert
  capacity : (rings.users service).msgInsert ≤ (rings.users service).msgRemove + msgQueueSize
  logged : (deliveredTo service labels).length = (rings.users service).msgInsert
  stored : ∀ index, (rings.users service).msgRemove ≤ index →
    ∀ bound : index < (deliveredTo service labels).length,
      (rings.users service).msgQueue (msgQueueIndex index) =
        some ((deliveredTo service labels).get ⟨index, bound⟩)
  removal : rings.phase service = .ready →
    ∃ bytes user, dequeueTake (rings.users service) = .ok (bytes, user)

/-- No message is delivered to this service while its queue is full. -/
def RoomFor (service : Nat) (rings : Rings) : RingLabel → Prop
  | .delivered other _ _ => other = service →
      (rings.users service).msgInsert ≠ (rings.users service).msgRemove + msgQueueSize
  | _ => True

structure BacklogInvariant (service : Nat) (labels : List RingLabel) (rings : Rings) :
    Prop where
  vchi : (rings.users service).isVchi = true
  logged : (deliveredTo service labels).length = (rings.users service).msgInsert
  holds : Holds (rings.users service).msgQueue (rings.users service).msgRemove
    (rings.users service).msgInsert
    ((deliveredTo service labels).drop (rings.users service).msgRemove)
  ready : rings.phase service = .ready →
    (rings.users service).msgRemove < (rings.users service).msgInsert

theorem BacklogInvariant.order {service : Nat} {labels : List RingLabel} {rings : Rings}
    (inv : BacklogInvariant service labels rings) :
    (rings.users service).msgRemove ≤ (rings.users service).msgInsert := by
  have counters := inv.holds.counters
  omega

/-- The oldest undelivered message and the ones behind it. -/
theorem BacklogInvariant.oldest {service : Nat} {labels : List RingLabel} {rings : Rings}
    (inv : BacklogInvariant service labels rings)
    (nonempty : (rings.users service).msgRemove < (rings.users service).msgInsert) :
    ∃ message, (deliveredTo service labels).drop (rings.users service).msgRemove =
        message :: (deliveredTo service labels).drop ((rings.users service).msgRemove + 1) ∧
      (rings.users service).msgQueue (msgQueueIndex (rings.users service).msgRemove) =
        some message := by
  have bound : (rings.users service).msgRemove < (deliveredTo service labels).length := by
    rw [inv.logged]
    exact nonempty
  have split := List.drop_eq_getElem_cons bound
  have holds := inv.holds
  rw [split] at holds
  refine ⟨_, split, ?_⟩
  rw [msg_queue_index_eq]
  exact holds.head

/-- Steps that leave the queue of the service alone. -/
theorem BacklogInvariant.frame {service : Nat} {labels : List RingLabel} {label : RingLabel}
    {before after : Rings} (inv : BacklogInvariant service labels before)
    (silent : label.messageFor service = none)
    (same : SameQueue (before.users service) (after.users service))
    (ready : after.phase service = .ready →
      (before.users service).msgRemove < (before.users service).msgInsert) :
    BacklogInvariant service (labels ++ [label]) after := by
  have log : deliveredTo service (labels ++ [label]) = deliveredTo service labels := by
    rw [delivered_to_snoc, silent]
    simp
  refine ⟨same.isVchi.trans inv.vchi, ?_, ?_, ?_⟩
  · rw [log, same.msgInsert]
    exact inv.logged
  · rw [log, same.msgInsert, same.msgRemove, same.msgQueue]
    exact inv.holds
  · intro isReady
    rw [same.msgInsert, same.msgRemove]
    exact ready isReady

theorem backlog_delivered {service : Nat} {labels : List RingLabel} {before : Rings}
    {completion : Completion} {user : ServiceUser} {message : SlotMessage} {skipped : Bool}
    (inv : BacklogInvariant service labels before)
    (callback : serviceCallback .messageAvailable (some message) (before.users service)
      before.completion = .ok (completion, user))
    (room : (before.users service).msgInsert ≠
      (before.users service).msgRemove + msgQueueSize) :
    BacklogInvariant service (labels ++ [.delivered service message skipped])
      { before with
        users := Function.update before.users service user
        completion := completion } := by
  have same := service_callback_inserts inv.vchi callback
  have order := inv.order
  have counters := inv.holds.counters
  have capacity := inv.holds.capacity
  have log : deliveredTo service (labels ++ [.delivered service message skipped]) =
      deliveredTo service labels ++ [message] := by
    rw [delivered_to_snoc]
    simp [RingLabel.messageFor]
  have space : ((deliveredTo service labels).drop
      (before.users service).msgRemove).length < msgQueueSize := by
    simp only [msgQueueSize] at room capacity ⊢
    omega
  refine ⟨?_, ?_, ?_, ?_⟩
  · simp only [Function.update_self]
    exact same.isVchi.trans inv.vchi
  · rw [log, List.length_append, inv.logged]
    simp only [Function.update_self]
    exact same.msgInsert.symm
  · have pushed := inv.holds.push space message
    rw [log, List.drop_append_of_le_length]
    · simp only [Function.update_self, same.msgQueue, same.msgInsert, same.msgRemove,
        insertMessage, msg_queue_index_eq]
      exact pushed
    · simp only [Function.update_self, same.msgRemove]
      rw [inv.logged]
      exact order
  · intro _
    simp only [Function.update_self, same.msgInsert, same.msgRemove, insertMessage]
    omega

theorem backlog_taken {service : Nat} {labels : List RingLabel} {before : Rings}
    {user : ServiceUser} {bytes : List UInt8} (inv : BacklogInvariant service labels before)
    (ready : before.phase service = .ready)
    (removal : dequeueTake (before.users service) = .ok (bytes, user)) :
    BacklogInvariant service (labels ++ [.taken service bytes])
      { before with
        users := Function.update before.users service user
        phase := Function.update before.phase service .idle } := by
  obtain ⟨message, split, stored⟩ := inv.oldest (inv.ready ready)
  have log : deliveredTo service (labels ++ [.taken service bytes]) =
      deliveredTo service labels := by
    rw [delivered_to_snoc]
    simp [RingLabel.messageFor]
  rw [dequeue_take_of_some inv.order stored] at removal
  simp only [Except.ok.injEq, Prod.mk.injEq] at removal
  obtain ⟨_, rfl⟩ := removal
  have holds := inv.holds
  rw [split] at holds
  refine ⟨?_, ?_, ?_, ?_⟩
  · simp only [Function.update_self]
    exact inv.vchi
  · simp only [Function.update_self]
    rw [log]
    exact inv.logged
  · simp only [Function.update_self, msg_queue_index_eq]
    rw [log]
    exact holds.pop
  · intro isReady
    simp at isReady

theorem backlog_invariant_step {service : Nat} {labels : List RingLabel} {label : RingLabel}
    {before after : Rings} (inv : BacklogInvariant service labels before)
    (step : Guarded RingStep (RoomFor service) before label after) :
    BacklogInvariant service (labels ++ [label]) after := by
  obtain ⟨move, guard⟩ := step
  cases move with
  | @delivered completion user other message callback =>
      by_cases same : other = service
      · subst same
        exact backlog_delivered inv callback (guard rfl)
      · apply inv.frame
        · simp [RingLabel.messageFor, same]
        · simp only [Function.update_of_ne (Ne.symm same)]
          exact SameQueue.refl _
        · exact inv.ready
  | called other isVchi free =>
      exact inv.frame rfl (SameQueue.refl _)
        fun isReady => inv.ready (ready_of_update (by decide) isReady)
  | polled other waits =>
      by_cases same : service = other
      · subst same
        apply inv.frame rfl
        · simp only [Function.update_self]
          exact dequeue_ready_same_queue _
        · intro isReady
          simp only [Function.update_self] at isReady
          split_ifs at isReady with available
          have nonempty := dequeue_ready_nonempty available
          have order := inv.order
          omega
      · apply inv.frame rfl
        · simp only [Function.update_of_ne same]
          exact SameQueue.refl _
        · intro isReady
          simp only [Function.update_of_ne same] at isReady
          exact inv.ready isReady
  | dropped other waits =>
      exact inv.frame rfl (SameQueue.refl _)
        fun isReady => inv.ready (ready_of_update (by decide) isReady)
  | @taken user bytes other ready removal =>
      by_cases same : service = other
      · subst same
        exact backlog_taken inv ready removal
      · apply inv.frame rfl
        · simp only [Function.update_of_ne same]
          exact SameQueue.refl _
        · intro isReady
          simp only [Function.update_of_ne same] at isReady
          exact inv.ready isReady
  | failed other ready removal =>
      exact inv.frame rfl (SameQueue.refl _)
        fun isReady => inv.ready (ready_of_update (by decide) isReady)
  | awaited count result => exact inv.frame rfl (SameQueue.refl _) inv.ready
  | pending count result => exact inv.frame rfl (SameQueue.refl _) inv.ready

theorem undelivered_intact_of_invariant {service : Nat} {labels : List RingLabel}
    {rings : Rings} (inv : BacklogInvariant service labels rings) :
    UndeliveredIntact service labels rings where
  order := inv.order
  capacity := by
    have counters := inv.holds.counters
    have capacity := inv.holds.capacity
    omega
  logged := inv.logged
  stored := by
    intro index lower bound
    obtain ⟨offset, rfl⟩ := Nat.exists_eq_add_of_le lower
    have stored := inv.holds.stored offset (by
      rw [List.length_drop]
      omega)
    rw [msg_queue_index_eq, stored]
    simp
  removal := by
    intro ready
    obtain ⟨message, _, stored⟩ := inv.oldest (inv.ready ready)
    exact ⟨_, _, dequeue_take_of_some inv.order stored⟩

/-- While no message is delivered to a full queue, no undelivered message of a
vchi service is overwritten and no removal fails. -/
theorem undelivered_intact_while_room {userdata : Nat → Option ServiceHandle}
    {vchi : Nat → Bool} {service : Nat} {labels : List RingLabel} {rings : Rings}
    (isVchi : vchi service = true)
    (run : Run (Guarded RingStep (RoomFor service)) (Rings.initial userdata vchi)
      labels rings) :
    UndeliveredIntact service labels rings := by
  have initial : BacklogInvariant service [] (Rings.initial userdata vchi) :=
    ⟨isVchi, rfl, holds_empty 0, fun isReady => nomatch isReady⟩
  apply undelivered_intact_of_invariant
  exact run.invariant (BacklogInvariant service) initial
    fun _ _ _ _ _ inv move => backlog_invariant_step inv move

/-- A message with a one byte payload. -/
def numberedMessage (number : Nat) : SlotMessage where
  header :=
    { msgid := makeMsgId .data 75 0
      size := 1 }
  data := [UInt8.ofNat number]

/-- The vchi services of the examples: each has its own number as handle. -/
def sampleRings : Rings := Rings.initial some fun _ => true

/-- Two messages are delivered, the first one is taken and a third one follows. -/
theorem three_messages_delivered :
    ∃ completion user completion' user' taken last user'',
      serviceCallback .messageAvailable (some (numberedMessage 0)) (sampleRings.users 0)
        sampleRings.completion = .ok (completion, user) ∧
      serviceCallback .messageAvailable (some (numberedMessage 1)) user completion =
        .ok (completion', user') ∧
      (dequeueReady user').1 = true ∧
      dequeueTake (dequeueReady user').2 = .ok ([0], taken) ∧
      serviceCallback .messageAvailable (some (numberedMessage 2)) taken completion' =
        .ok (last, user'') ∧
      user'.isVchi = true ∧ user.msgInsert ≠ user.msgRemove + msgQueueSize ∧
      taken.msgInsert ≠ taken.msgRemove + msgQueueSize :=
  ⟨_, _, _, _, _, _, _, rfl, rfl, rfl, rfl, rfl, rfl, by decide, by decide⟩

/-- The two that wait then are intact. -/
theorem waiting_messages_intact :
    ∃ labels rings, UndeliveredIntact 0 labels rings ∧ .taken 0 [0] ∈ labels ∧
      deliveredTo 0 labels = [numberedMessage 0, numberedMessage 1, numberedMessage 2] := by
  obtain ⟨completion, user, completion', user', taken, last, user'', first, second, ready,
    removal, third, vchi, room, roomAgain⟩ := three_messages_delivered
  have isReady : (if (dequeueReady user').1 then DequeuePhase.ready else .waiting) = .ready :=
    if_pos ready
  refine ⟨_, _, undelivered_intact_while_room rfl
    (.snoc (.snoc (.snoc (.snoc (.snoc (.snoc .refl
      ⟨.delivered 0 (numberedMessage 0) first, fun _ => by decide⟩)
      ⟨.delivered 0 (numberedMessage 1) second, fun _ => room⟩)
      ⟨.called 0 vchi rfl, trivial⟩)
      ⟨.polled 0 rfl, trivial⟩)
      ⟨.taken 0 isReady removal, trivial⟩)
      ⟨.delivered 0 (numberedMessage 2) third, fun _ => roomAgain⟩), by simp, rfl⟩

/-- Any number of messages can be delivered before the first one is read. -/
theorem unread_backlog (count : Nat) :
    ∃ labels rings, Run RingStep sampleRings labels rings ∧
      deliveredTo 0 labels = (List.range count).map numberedMessage ∧
      (rings.users 0).isVchi = true ∧ Ordered rings.completion ∧
      (rings.users 0).msgInsert = count ∧ (rings.users 0).msgRemove = 0 ∧
      (0 < count → (rings.users 0).msgQueue (msgQueueIndex (count - 1)) =
        some (numberedMessage (count - 1))) := by
  induction count with
  | zero => exact ⟨[], sampleRings, .refl, rfl, rfl, Nat.le_refl 0, rfl, rfl, by simp⟩
  | succ count ih =>
      obtain ⟨labels, rings, run, log, vchi, ordered, insert, remove, _⟩ := ih
      obtain ⟨completion, user, callback, kept⟩ := service_callback_ok ordered
        .messageAvailable (some (numberedMessage count)) (rings.users 0)
      have same := service_callback_inserts vchi callback
      refine ⟨_, _, .snoc run (.delivered 0 (numberedMessage count) callback), ?_, ?_, kept,
        ?_, ?_, ?_⟩
      · rw [delivered_to_snoc, log, List.range_succ, List.map_append]
        rfl
      · simp only [Function.update_self]
        exact same.isVchi.trans vchi
      · simp only [Function.update_self, same.msgInsert, insertMessage, insert]
      · simp only [Function.update_self, same.msgRemove, insertMessage, remove]
      · intro _
        simp only [Function.update_self, same.msgQueue, insertMessage, insert,
          Nat.add_sub_cancel]

/-- The 129th unread message takes the cell of the first one. -/
theorem full_queue_overwrites :
    ∃ labels rings, Run RingStep sampleRings labels rings ∧
      ¬UndeliveredIntact 0 labels rings ∧
      (deliveredTo 0 labels)[0]? = some (numberedMessage 0) ∧
      (rings.users 0).msgRemove = 0 ∧
      (rings.users 0).msgQueue (msgQueueIndex 0) = some (numberedMessage 128) := by
  obtain ⟨labels, rings, run, log, _, _, insert, remove, last⟩ := unread_backlog 129
  refine ⟨labels, rings, run, ?_, ?_, remove, last (by decide)⟩
  · intro intact
    have capacity := intact.capacity
    rw [insert, remove] at capacity
    exact absurd capacity (by decide)
  · rw [log]
    rfl

end RuspiroVchiq.Delivery
