import RuspiroVchiq.Delivery.Rings

/-!
# The rings refine queues

What the two rings are for, as plain lists: a delivery appends to the messages
of its service and, unless the announcement is skipped, to the completions; a
removal takes the head of the messages; an await takes up to `count` records
from the front. The rings simulate these queues along every run whose backlogs
stay within the capacities.
-/

namespace RuspiroVchiq.Delivery

open RuspiroVchiq.Config
open RuspiroVchiq.Shared
open RuspiroVchiq.Vchiq
open RuspiroVchiq.Lib.LabelledRun
open RuspiroVchiq.Lib.RingQueue

set_option autoImplicit false

structure Queues where
  messages : Nat → List SlotMessage
  completions : List ServiceCompletion

def Queues.empty : Queues where
  messages := fun _ => []
  completions := []

section Refinement

variable (userdata : Nat → Option ServiceHandle) (vchi : Nat → Bool)

/-- The abstract steps. A failed removal has none. -/
inductive QueueStep : Queues → RingLabel → Queues → Prop where
  | delivered (queues : Queues) (service : Nat) (message : SlotMessage) (skipped : Bool) :
      QueueStep queues (.delivered service message skipped)
        { messages :=
            if vchi service then
              Function.update queues.messages service (queues.messages service ++ [message])
            else queues.messages
          completions :=
            if skipped then queues.completions
            else
              queues.completions ++
                [{ reason := .messageAvailable
                   msg := some message
                   serviceUserdata := userdata service }] }
  | called (queues : Queues) (service : Nat) : QueueStep queues (.called service) queues
  | polled (queues : Queues) (service : Nat) : QueueStep queues (.polled service) queues
  | dropped (queues : Queues) (service : Nat) : QueueStep queues (.dropped service) queues
  | taken (queues : Queues) (service : Nat) (message : SlotMessage) (rest : List SlotMessage)
      (head : queues.messages service = message :: rest) :
      QueueStep queues (.taken service message.data)
        { queues with messages := Function.update queues.messages service rest }
  | awaited (queues : Queues) (count : Nat) (nonempty : queues.completions ≠ []) :
      QueueStep queues (.awaited count (queues.completions.take count))
        { queues with completions := queues.completions.drop count }
  | pending (queues : Queues) (count : Nat) (isEmpty : queues.completions = []) :
      QueueStep queues (.pending count) queues

/-- The simulation relation: each ring holds its queue between its counters. -/
structure Represents (rings : Rings) (queues : Queues) : Prop where
  userdata : ∀ service, (rings.users service).userdata = userdata service
  isVchi : ∀ service, (rings.users service).isVchi = vchi service
  messages : ∀ service, Holds (rings.users service).msgQueue
    (rings.users service).msgRemove (rings.users service).msgInsert (queues.messages service)
  completions : Holds rings.completion.completions rings.completion.completionRemove
    rings.completion.completionInsert queues.completions
  ready : ∀ service, rings.phase service = .ready → queues.messages service ≠ []

/-- The backlog of each ring fits into it. -/
structure WithinCapacity (rings : Rings) : Prop where
  messages : ∀ service, (rings.users service).msgInsert ≤
    (rings.users service).msgRemove + msgQueueSize
  completions : rings.completion.completionInsert ≤
    rings.completion.completionRemove + maxCompletions

def CapacityStep (before : Rings) (label : RingLabel) (after : Rings) : Prop :=
  RingStep before label after ∧ WithinCapacity after

/-- The completion ring after a record was added. -/
def Announced (before after : Completion) (record : ServiceCompletion) : Prop :=
  after.completionRemove = before.completionRemove ∧
    after.completionInsert = before.completionInsert + 1 ∧
    after.completions = Function.update before.completions
      (completionIndex before.completionInsert) (some record)

theorem add_completion_announced {completion next : Completion} {reason : Reason}
    {message : Option SlotMessage} {user user' : ServiceUser}
    (added : completion.addCompletion reason message user = .ok (next, user')) :
    Announced completion next
      { reason := reason, msg := message, serviceUserdata := user.userdata } := by
  unfold Completion.addCompletion at added
  simp only at added
  split at added
  · simp at added
  · simp only [Except.ok.injEq, Prod.mk.injEq] at added
    obtain ⟨rfl, _⟩ := added
    exact ⟨rfl, rfl, rfl⟩

/-- What a callback does to the completion ring while the message queue has room. -/
theorem service_callback_announces {completion next : Completion} {reason : Reason}
    {message : Option SlotMessage} {user user' : ServiceUser}
    (room : user.isVchi = true → user.msgInsert ≠ user.msgRemove + msgQueueSize)
    (called : serviceCallback reason message user completion = .ok (next, user')) :
    if announcementSkipped user completion then next = completion
    else Announced completion next
      { reason := reason, msg := message, serviceUserdata := user.userdata } := by
  unfold serviceCallback at called
  cases kind : user.isVchi with
  | false =>
      simp only [kind, Bool.false_eq_true, if_false] at called
      simp only [announcementSkipped, kind, Bool.false_and, Bool.false_eq_true, if_false]
      exact add_completion_announced called
  | true =>
      simp only [kind, if_true, if_neg (room kind), insertAndAnnounce] at called
      have sameSkip : skipCompletion (insertMessage user message) completion =
          skipCompletion user completion := rfl
      rw [sameSkip] at called
      cases skip : skipCompletion user completion with
      | true =>
          simp only [skip, if_true, Except.ok.injEq, Prod.mk.injEq] at called
          simp only [announcementSkipped, kind, skip, Bool.and_self, if_true]
          exact called.1.symm
      | false =>
          simp only [skip, Bool.false_eq_true, if_false] at called
          simp only [announcementSkipped, kind, skip, Bool.and_false, Bool.false_eq_true,
            if_false]
          have announced := add_completion_announced called
          exact announced

/-- The removal loop takes the records from the front of the queue. -/
theorem take_completions_spec (count : Nat) (completion : Completion)
    {queue : List ServiceCompletion}
    (holds : Holds completion.completions completion.completionRemove
      completion.completionInsert queue) :
    ∃ next, takeCompletions count completion = .ok (queue.take count, next) ∧
      Holds next.completions next.completionRemove next.completionInsert
        (queue.drop count) := by
  induction count generalizing completion queue with
  | zero => exact ⟨completion, rfl, holds⟩
  | succ count ih =>
      have counters := holds.counters
      cases queue with
      | nil =>
          have isEmpty : completion.completionRemove = completion.completionInsert := counters
          refine ⟨completion, ?_, holds⟩
          simp only [takeCompletions, if_pos isEmpty, List.take_nil]
      | cons record rest =>
          have notEmpty : completion.completionRemove ≠ completion.completionInsert := by
            simp only [List.length_cons] at counters
            omega
          have head : completion.completions (completionIndex completion.completionRemove) =
              some record := by
            rw [completion_index_eq]
            exact holds.head
          have popped := holds.pop
          rw [← completion_index_eq] at popped
          obtain ⟨next, others, kept⟩ := ih
            { completion with
              completions := Function.update completion.completions
                (completionIndex completion.completionRemove) none
              completionRemove := completion.completionRemove + 1 } popped
          refine ⟨next, ?_, kept⟩
          simp only [takeCompletions, if_neg notEmpty, head, bind, Except.bind, others, pure,
            Except.pure, List.take_succ_cons]

variable {userdata : Nat → Option ServiceHandle} {vchi : Nat → Bool}

/-- The counters of the ring tell how long the queue is. -/
theorem holds_length_lt {size : Nat} [NeZero size] {Element : Type*} {ring : Ring size Element}
    {remove insert : Nat} {queue : List Element} (holds : Holds ring remove insert queue)
    (room : insert + 1 ≤ remove + size) : queue.length < size := by
  have counters := holds.counters
  omega

/-- Only the flags and the semaphores of one service change. -/
theorem Represents.frame {before after : Rings} {queues : Queues}
    (related : Represents userdata vchi before queues)
    (users : ∀ service, SameQueue (before.users service) (after.users service))
    (completion : after.completion = before.completion)
    (ready : ∀ service, after.phase service = .ready → queues.messages service ≠ []) :
    Represents userdata vchi after queues where
  userdata := fun service => (users service).userdata.trans (related.userdata service)
  isVchi := fun service => (users service).isVchi.trans (related.isVchi service)
  messages := by
    intro service
    rw [(users service).msgQueue, (users service).msgRemove, (users service).msgInsert]
    exact related.messages service
  completions := by
    rw [completion]
    exact related.completions
  ready := ready

/-- The user data after a callback: named as before, and holding the message if
the service is a vchi service. -/
theorem callback_messages {completion next : Completion} {user user' : ServiceUser}
    {message : SlotMessage} {queue : List SlotMessage}
    (holds : Holds user.msgQueue user.msgRemove user.msgInsert queue)
    (called : serviceCallback .messageAvailable (some message) user completion =
      .ok (next, user'))
    (capacity : user'.msgInsert ≤ user'.msgRemove + msgQueueSize) :
    user'.userdata = user.userdata ∧ user'.isVchi = user.isVchi ∧
      Holds user'.msgQueue user'.msgRemove user'.msgInsert
        (if user.isVchi then queue ++ [message] else queue) := by
  cases kind : user.isVchi with
  | false =>
      simp only [serviceCallback, kind, Bool.false_eq_true, if_false] at called
      have same := add_completion_same_queue called
      refine ⟨same.userdata, same.isVchi.trans kind, ?_⟩
      rw [same.msgQueue, same.msgRemove, same.msgInsert]
      exact holds
  | true =>
      have same := service_callback_inserts kind called
      refine ⟨same.userdata, same.isVchi.trans kind, ?_⟩
      rw [same.msgInsert, same.msgRemove] at capacity
      rw [same.msgQueue, same.msgRemove, same.msgInsert]
      simp only [insertMessage, msg_queue_index_eq, if_true] at capacity ⊢
      exact holds.push (holds_length_lt holds capacity) message

/-- The completion ring after a callback that had room for its message. -/
theorem callback_completions {completion next : Completion}
    {record : ServiceCompletion} {skipped : Bool} {queue : List ServiceCompletion}
    (holds : Holds completion.completions completion.completionRemove
      completion.completionInsert queue)
    (announced : if skipped then next = completion else Announced completion next record)
    (capacity : next.completionInsert ≤ next.completionRemove + maxCompletions) :
    Holds next.completions next.completionRemove next.completionInsert
      (if skipped then queue else queue ++ [record]) := by
  cases skipped with
  | true =>
      simp only [if_true] at announced ⊢
      rw [announced]
      exact holds
  | false =>
      simp only [Bool.false_eq_true, if_false] at announced ⊢
      obtain ⟨remove, insert, ring⟩ := announced
      rw [remove, insert] at capacity
      rw [remove, insert, ring, completion_index_eq]
      exact holds.push (holds_length_lt holds capacity) record

theorem delivered_simulated {before : Rings} {queues : Queues} {completion : Completion}
    {user : ServiceUser} {service : Nat} {message : SlotMessage}
    (related : Represents userdata vchi before queues)
    (callback : serviceCallback .messageAvailable (some message) (before.users service)
      before.completion = .ok (completion, user))
    (within : WithinCapacity
      { before with
        users := Function.update before.users service user
        completion := completion }) :
    ∃ next, QueueStep userdata vchi queues
        (.delivered service message
          (announcementSkipped (before.users service) before.completion)) next ∧
      Represents userdata vchi
        { before with
          users := Function.update before.users service user
          completion := completion } next := by
  refine ⟨_, .delivered queues service message _, ?_⟩
  have kind := related.isVchi service
  have name := related.userdata service
  have capacity := within.messages service
  simp only [Function.update_self] at capacity
  have room : (before.users service).isVchi = true →
      (before.users service).msgInsert ≠
        (before.users service).msgRemove + msgQueueSize := by
    intro isVchi full
    have same := service_callback_inserts isVchi callback
    rw [same.msgInsert, same.msgRemove] at capacity
    simp only [insertMessage, msgQueueSize] at capacity full
    omega
  have announced := service_callback_announces room callback
  rw [name] at announced
  obtain ⟨sameName, sameKind, inserted⟩ :=
    callback_messages (related.messages service) callback capacity
  rw [kind] at inserted
  refine ⟨?_, ?_, ?_, callback_completions related.completions announced within.completions, ?_⟩
  · exact (Function.forall_update_iff before.users fun other user =>
      user.userdata = userdata other).mpr
        ⟨sameName.trans name, fun other _ => related.userdata other⟩
  · exact (Function.forall_update_iff before.users fun other user =>
      user.isVchi = vchi other).mpr
        ⟨sameKind.trans kind, fun other _ => related.isVchi other⟩
  · intro other
    by_cases same : other = service
    · subst same
      simp only [Function.update_self]
      cases flag : vchi other <;> simpa [flag] using inserted
    · simp only [Function.update_of_ne same]
      have unchanged := related.messages other
      cases flag : vchi service <;> simpa [flag, Function.update_of_ne same] using unchanged
  · intro other isReady
    have nonempty := related.ready other isReady
    by_cases same : other = service
    · subst same
      cases flag : vchi other <;> simp [nonempty]
    · cases flag : vchi service <;> simpa [Function.update_of_ne same] using nonempty

theorem taken_simulated {before : Rings} {queues : Queues} {user : ServiceUser}
    {service : Nat} {bytes : List UInt8} (related : Represents userdata vchi before queues)
    (ready : before.phase service = .ready)
    (removal : dequeueTake (before.users service) = .ok (bytes, user)) :
    ∃ next, QueueStep userdata vchi queues (.taken service bytes) next ∧
      Represents userdata vchi
        { before with
          users := Function.update before.users service user
          phase := Function.update before.phase service .idle } next := by
  have nonempty := related.ready service ready
  have holds := related.messages service
  cases head : queues.messages service with
  | nil => exact absurd head nonempty
  | cons message rest =>
      rw [head] at holds
      have order : (before.users service).msgRemove ≤ (before.users service).msgInsert :=
        holds.counters ▸ Nat.le_add_right _ _
      have stored : (before.users service).msgQueue
          (msgQueueIndex (before.users service).msgRemove) = some message := by
        rw [msg_queue_index_eq]
        exact holds.head
      rw [dequeue_take_of_some order stored] at removal
      simp only [Except.ok.injEq, Prod.mk.injEq] at removal
      obtain ⟨rfl, rfl⟩ := removal
      refine ⟨_, .taken queues service message rest head, ?_, ?_, ?_, related.completions, ?_⟩
      · exact (Function.forall_update_iff before.users fun other user =>
          user.userdata = userdata other).mpr
            ⟨related.userdata service, fun other _ => related.userdata other⟩
      · exact (Function.forall_update_iff before.users fun other user =>
          user.isVchi = vchi other).mpr
            ⟨related.isVchi service, fun other _ => related.isVchi other⟩
      · intro other
        by_cases same : other = service
        · subst same
          simp only [Function.update_self, msg_queue_index_eq]
          exact holds.pop
        · simp only [Function.update_of_ne same]
          exact related.messages other
      · intro other isReady
        by_cases same : other = service
        · subst same
          simp at isReady
        · simp only [Function.update_of_ne same] at isReady ⊢
          exact related.ready other isReady

theorem polled_simulated {before : Rings} {queues : Queues} {service : Nat}
    (related : Represents userdata vchi before queues) :
    Represents userdata vchi
      { before with
        users := Function.update before.users service (dequeueReady (before.users service)).2
        phase := Function.update before.phase service
          (if (dequeueReady (before.users service)).1 then .ready else .waiting) } queues := by
  apply related.frame
  · exact (Function.forall_update_iff before.users fun other user =>
      SameQueue (before.users other) user).mpr
        ⟨dequeue_ready_same_queue _, fun other _ => SameQueue.refl _⟩
  · rfl
  · intro other isReady
    by_cases same : other = service
    · subst same
      simp only [Function.update_self] at isReady
      split_ifs at isReady with available
      have different := dequeue_ready_nonempty available
      have counters := (related.messages other).counters
      intro isEmpty
      rw [isEmpty] at counters
      exact different counters
    · simp only [Function.update_of_ne same] at isReady
      exact related.ready other isReady

/-- One step of the rings is a step of the queues. -/
theorem ring_step_simulated {before after : Rings} {label : RingLabel} {queues : Queues}
    (related : Represents userdata vchi before queues)
    (step : CapacityStep before label after) :
    ∃ next, QueueStep userdata vchi queues label next ∧ Represents userdata vchi after next := by
  obtain ⟨move, within⟩ := step
  cases move with
  | delivered service message callback => exact delivered_simulated related callback within
  | called service isVchi free =>
      refine ⟨queues, .called queues service, related.frame (fun _ => SameQueue.refl _) rfl ?_⟩
      exact fun other isReady => related.ready other (ready_of_update (by decide) isReady)
  | polled service waits => exact ⟨queues, .polled queues service, polled_simulated related⟩
  | dropped service waits =>
      refine ⟨queues, .dropped queues service, related.frame (fun _ => SameQueue.refl _) rfl ?_⟩
      exact fun other isReady => related.ready other (ready_of_update (by decide) isReady)
  | taken service ready removal => exact taken_simulated related ready removal
  | failed service ready removal =>
      have holds := related.messages service
      have order : (before.users service).msgRemove ≤ (before.users service).msgInsert :=
        holds.counters ▸ Nat.le_add_right _ _
      simp only [dequeueTake, if_neg (Nat.not_lt.mpr order)] at removal
      split at removal <;> simp at removal
  | @awaited completion records count result =>
      obtain ⟨next, taken, kept⟩ := take_completions_spec count _ related.completions
      simp only [awaitCompletion, if_true, taken] at result
      split_ifs at result with isEmpty
      simp only [AwaitOutcome.ready.injEq] at result
      obtain ⟨rfl, rfl⟩ := result
      have counters := related.completions.counters
      refine ⟨_, .awaited queues count ?_, ⟨related.userdata, related.isVchi,
        related.messages, kept, related.ready⟩⟩
      intro none
      rw [none] at counters
      exact isEmpty counters
  | @pending completion count result =>
      obtain ⟨next, taken, _⟩ := take_completions_spec count _ related.completions
      simp only [awaitCompletion, if_true, taken] at result
      split_ifs at result with isEmpty
      simp only [AwaitOutcome.pending.injEq] at result
      subst result
      have counters := related.completions.counters
      rw [isEmpty] at counters
      refine ⟨queues, .pending queues count ?_, ⟨related.userdata, related.isVchi,
        related.messages, related.completions, related.ready⟩⟩
      apply List.eq_nil_of_length_eq_zero
      omega

/-- What never happens to rings that represent queues: a failing operation, a
negative counter difference, or the reuse of a cell before its element was taken. -/
structure Flawless (rings : Rings) (queues : Queues) : Prop where
  callback : ∀ service message, ∃ result,
    serviceCallback .messageAvailable (some message) (rings.users service)
      rings.completion = .ok result
  dequeue : ∀ service, rings.phase service = .ready →
    ∃ message rest user, queues.messages service = message :: rest ∧
      dequeueTake (rings.users service) = .ok (message.data, user)
  await : ∀ count, ∃ next,
    takeCompletions count rings.completion = .ok (queues.completions.take count, next)
  messageOrder : ∀ service,
    (rings.users service).msgRemove ≤ (rings.users service).msgInsert
  completionOrder : rings.completion.completionRemove ≤ rings.completion.completionInsert
  messageReuse : ∀ service, (queues.messages service).length < msgQueueSize →
    (rings.users service).msgQueue (msgQueueIndex (rings.users service).msgInsert) = none
  completionReuse : queues.completions.length < maxCompletions →
    rings.completion.completions (completionIndex rings.completion.completionInsert) = none

theorem flawless_of_represents {rings : Rings} {queues : Queues}
    (related : Represents userdata vchi rings queues) : Flawless rings queues := by
  have messageOrder : ∀ service,
      (rings.users service).msgRemove ≤ (rings.users service).msgInsert :=
    fun service => (related.messages service).counters ▸ Nat.le_add_right _ _
  have completionOrder : Ordered rings.completion := by
    rw [Ordered, ← related.completions.counters]
    exact Nat.le_add_right _ _
  refine ⟨?_, ?_, ?_, messageOrder, completionOrder, ?_, ?_⟩
  · intro service message
    obtain ⟨next, user, called, _⟩ := service_callback_ok completionOrder .messageAvailable
      (some message) (rings.users service)
    exact ⟨_, called⟩
  · intro service ready
    have holds := related.messages service
    cases head : queues.messages service with
    | nil => exact absurd head (related.ready service ready)
    | cons message rest =>
        rw [head] at holds
        have stored := holds.head
        rw [← msg_queue_index_eq] at stored
        exact ⟨message, rest, _, rfl, dequeue_take_of_some (messageOrder service) stored⟩
  · intro count
    obtain ⟨next, taken, _⟩ := take_completions_spec count _ related.completions
    exact ⟨next, taken⟩
  · intro service room
    rw [msg_queue_index_eq]
    exact (related.messages service).insert_vacant room
  · intro room
    rw [completion_index_eq]
    exact related.completions.insert_vacant room

/-- Along every run within the capacities the rings simulate the queues and
return what the queues return. -/
theorem rings_refine_queues {labels : List RingLabel} {rings : Rings}
    (run : Run CapacityStep (Rings.initial userdata vchi) labels rings) :
    ∃ queues, Run (QueueStep userdata vchi) Queues.empty labels queues ∧
      Represents userdata vchi rings queues ∧ Flawless rings queues := by
  have initial : Represents userdata vchi (Rings.initial userdata vchi) Queues.empty :=
    ⟨fun _ => rfl, fun _ => rfl, fun _ => holds_empty 0, holds_empty 0,
      fun _ isReady => nomatch isReady⟩
  have simulated : ∀ before label after queues, Represents userdata vchi before queues →
      CapacityStep before label after →
        ∃ next, QueueStep userdata vchi queues label next ∧
          Represents userdata vchi after next :=
    fun _ _ _ _ related step => ring_step_simulated related step
  obtain ⟨queues, abstractRun, related⟩ :=
    run.simulate (Represents userdata vchi) initial simulated
  exact ⟨queues, abstractRun, related, flawless_of_represents related⟩

end Refinement

theorem WithinCapacity.update {rings : Rings} {service : Nat} {user : ServiceUser}
    {completion : Completion} {phase : Nat → DequeuePhase} (within : WithinCapacity rings)
    (messages : user.msgInsert ≤ user.msgRemove + msgQueueSize)
    (completions : completion.completionInsert ≤
      completion.completionRemove + maxCompletions) :
    WithinCapacity ⟨Function.update rings.users service user, phase, completion⟩ where
  messages := (Function.forall_update_iff rings.users fun _ user =>
    user.msgInsert ≤ user.msgRemove + msgQueueSize).mpr
      ⟨messages, fun other _ => within.messages other⟩
  completions := completions

/-- A message that is delivered, announced, read and awaited. -/
theorem delivered_message_refines :
    ∃ labels rings queues,
      Run CapacityStep (Rings.initial some fun _ => true) labels rings ∧
      Run (QueueStep some fun _ => true) Queues.empty labels queues ∧
      RingLabel.taken 0 [7] ∈ labels ∧ Flawless rings queues := by
  have empty : WithinCapacity (Rings.initial some fun _ => true) :=
    ⟨fun _ => Nat.zero_le _, Nat.zero_le _⟩
  have small : (1 : Nat) ≤ 0 + 128 := by decide
  have run : Run CapacityStep (Rings.initial some fun _ => true) _ _ :=
    .snoc (.snoc (.snoc (.snoc (.snoc .refl
      ⟨.delivered 0 ⟨⟨makeMsgId .data 75 0, 1⟩, [7]⟩ rfl, empty.update small small⟩)
      ⟨.called 0 rfl rfl, (empty.update small small)⟩)
      ⟨.polled 0 rfl, (empty.update small small).update small small⟩)
      ⟨.taken 0 rfl rfl,
        ((empty.update small small).update small small).update (Nat.le_add_right 1 _) small⟩)
      ⟨.awaited 8 rfl,
        ((empty.update small small).update small small).update (Nat.le_add_right 1 _)
          (Nat.le_add_right 1 _)⟩
  obtain ⟨queues, abstractRun, _, flawless⟩ := rings_refine_queues run
  exact ⟨_, _, queues, run, abstractRun, by simp, flawless⟩

end RuspiroVchiq.Delivery
