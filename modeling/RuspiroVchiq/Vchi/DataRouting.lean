import RuspiroVchiq.Vchi.Services

/-!
# Routing of DATA messages

A DATA message goes from its port to a service, from there through the callback
and the handle to a service again, and ends in a message queue. `DataRouted` says
that both lookups hit the same service and that nothing else is touched. It holds
in every reachable state unless the queue of the receiver is full: a message for
a full queue is not turned away but overwrites the oldest one.
-/

namespace RuspiroVchiq.Vchi

open RuspiroVchiq.Config
open RuspiroVchiq.Shared
open RuspiroVchiq.Vchiq
open RuspiroVchiq.Delivery
open RuspiroVchiq.Lib.LabelledRun
open RuspiroVchiq.Lib.ByteMemory
open RuspiroVchiq.Lib.RingQueue

set_option autoImplicit false

/-- The cells between the counters of a message queue, oldest first. -/
def pendingMessages (user : ServiceUser) : List (Option SlotMessage) :=
  (List.range (user.msgInsert - user.msgRemove)).map fun position =>
    user.msgQueue (msgQueueIndex (user.msgRemove + position))

/-- There is no cell left for another message. -/
def QueueFull (user : ServiceUser) : Prop := user.msgRemove + msgQueueSize ≤ user.msgInsert

/-- The queue has gained the message as its last element. -/
structure Appended (message : SlotMessage) (before after : ServiceUser) : Prop where
  msgInsert : after.msgInsert = before.msgInsert + 1
  msgRemove : after.msgRemove = before.msgRemove
  queue : pendingMessages after = pendingMessages before ++ [some message]

/-- The parts of a service outside its user data. -/
def linkOf (service : Service) :
    ServiceState × UInt32 × UInt32 × Bool × Option VchiqCallback :=
  (service.srvstate, service.localport, service.remoteport, service.closing,
    service.base.callback)

def userOf (inst : Instance) (reference : ServiceRef) : Option ServiceUser :=
  (inst.state.srvState.service reference).map fun service => service.base.userdata

/-- What a DATA message for the service leaves alone in any case. -/
structure OthersUntouched (before after : Instance) (receiver : ServiceRef) : Prop where
  links : ∀ reference, (after.state.srvState.service reference).map linkOf =
    (before.state.srvState.service reference).map linkOf
  users : ∀ reference, reference ≠ receiver → userOf after reference = userOf before reference
  slots : after.state.slotState = before.state.slotState
  slotQueueAvailable : after.state.slotQueueAvailable = before.state.slotQueueAvailable
  quotas : after.state.quotaState = before.state.quotaState
  dataQuotaEvent : after.state.dataQuotaEvent = before.state.dataQuotaEvent

/-- No message queue and no completion has changed. -/
structure QueuesKept (before after : Instance) : Prop where
  queues : ∀ reference, Option.Rel SameQueue (userOf before reference) (userOf after reference)
  completion : after.completion = before.completion

/-- The effect of a DATA message on its way to the given service in use. -/
structure DataRouted (before after : Instance) (message : SlotMessage) (service : Service) :
    Prop where
  delivered : Accepts service message → ¬QueueFull service.base.userdata →
    ∃ user, userOf after (receiverRef message) = some user ∧
      Appended message service.base.userdata user
  passed : ¬(Accepts service message ∧ ¬QueueFull service.base.userdata) →
    QueuesKept before after
  undisturbed : OthersUntouched before after (receiverRef message)

/-- Below the capacity an inserted message is the last one. -/
theorem insert_message_appended {user user' : ServiceUser} {message : SlotMessage}
    (ring : MessageRing user) (room : ¬QueueFull user)
    (same : SameQueue (insertMessage user (some message)) user') :
    Appended message user user' := by
  have order := ring.order
  have room' : user.msgInsert < user.msgRemove + msgQueueSize := Nat.not_le.mp room
  have inserted : user'.msgInsert = user.msgInsert + 1 := same.msgInsert
  have removed : user'.msgRemove = user.msgRemove := same.msgRemove
  have stored : user'.msgQueue = Function.update user.msgQueue
      (msgQueueIndex user.msgInsert) (some message) := same.msgQueue
  have count : user.msgInsert + 1 - user.msgRemove = user.msgInsert - user.msgRemove + 1 := by
    omega
  have last : user.msgRemove + (user.msgInsert - user.msgRemove) = user.msgInsert := by omega
  refine ⟨inserted, removed, ?_⟩
  unfold pendingMessages
  rw [inserted, removed, stored, count, List.range_succ, List.map_append]
  simp only [List.map_cons, List.map_nil, last, Function.update_self]
  rw [List.append_cancel_right_eq]
  apply List.map_congr_left
  intro position member
  have small := List.mem_range.mp member
  -- a cell in front of the insert counter is another one
  apply Function.update_of_ne
  rw [msg_queue_index_eq, msg_queue_index_eq, ← last]
  intro equal
  have positions := cell_inj_of_lt (by omega) (by omega) equal
  omega

section Routing

variable {sys : System} {message : SlotMessage} {service : Service}

/-- A DATA message for a service in use is handled, and the callback runs on that very
service. -/
theorem data_dispatched (ready : sys.Ready) (registry : RegistryInvariant sys.protocol)
    (records : RecordInvariant sys.inst)
    (msgType : msgTypeFromId message.header.msgid = some .data)
    (used : InUse sys.inst.state (receiverRef message) service) :
    (¬Accepts service message ∧ dispatch sys.inst message = .ok sys.inst) ∨
      (Accepts service message ∧ ∃ completion user,
        serviceCallback .messageAvailable (some message) service.base.userdata
          sys.inst.completion = .ok (completion, user) ∧
        dispatch sys.inst message =
          .ok (deliveredInstance sys.inst (receiverRef message) completion user)) := by
  have addressed : Addressed sys.inst message :=
    .inr (.inr ⟨⟨.data, msgType, .inr (.inr (.inl rfl))⟩, service, used⟩)
  have agrees : CloseAgrees sys.inst message := by
    intro isClose
    rw [msgType] at isClose
    simp at isClose
  rcases dispatch_ok ready.consistent addressed agrees with ⟨next, handled⟩
  have sameService : ∀ other, InUse sys.inst.state (receiverRef message) other →
      other = service := fun other found => Option.some.inj (found.1.symm.trans used.1)
  cases dispatch_cases handled with
  | connect isConnect => simp [msgType] at isConnect
  | ignored isKind silent =>
      rw [msgType, Option.some.injEq] at isKind
      subst isKind
      simp at silent
  | acknowledged isAck _ => simp [msgType] at isAck
  | closed isClose _ _ => simp [msgType] at isClose
  | @dropped other _ found refused =>
      have same := sameService other found
      subst same
      rcases refused with notAccepted | missing
      · exact .inl ⟨notAccepted, handled⟩
      · have installed := (records.services _ other used.1).callback
        simp [installed] at missing
  | @delivered other target reference completion user _ found accepted located stored callback =>
      have same := sameService other found
      subst same
      rcases registry.callback_receiver used.1 located stored with ⟨here, isTarget⟩
      rw [isTarget] at callback
      rw [here] at handled
      exact .inr ⟨accepted, completion, user, callback, handled⟩

/-- The delivery touches the user data of the receiver only. -/
theorem delivered_undisturbed (inst : Instance) (receiver : ServiceRef)
    (completion : Completion) (user : ServiceUser) :
    OthersUntouched inst (deliveredInstance inst receiver completion user) receiver := by
  constructor
  · intro reference
    simp only [deliveredInstance, Instance.updateService, State.updateService, service_update]
    split_ifs
    · cases inst.state.srvState.service reference <;> rfl
    · rfl
  · intro reference other
    simp only [userOf, deliveredInstance, Instance.updateService, State.updateService,
      service_update]
    rw [if_neg (Ne.symm other)]
  all_goals rfl

theorem delivered_user {inst : Instance} {receiver : ServiceRef} {service : Service}
    (stored : inst.state.srvState.service receiver = some service) (completion : Completion)
    (user : ServiceUser) :
    userOf (deliveredInstance inst receiver completion user) receiver = some user := by
  simp [userOf, deliveredInstance, Instance.updateService, State.updateService, stored]

theorem queues_kept_refl (inst : Instance) : QueuesKept inst inst :=
  ⟨fun _ => rel_refl SameQueue SameQueue.refl _, rfl⟩

/-- A message that is inserted changes a queue. -/
theorem inserted_not_kept {inst : Instance} {receiver : ServiceRef} {service : Service}
    {completion : Completion} {user : ServiceUser}
    (stored : inst.state.srvState.service receiver = some service)
    (inserted : user.msgInsert = service.base.userdata.msgInsert + 1) :
    ¬QueuesKept inst (deliveredInstance inst receiver completion user) := by
  intro kept
  have present : userOf inst receiver = some service.base.userdata := by
    rw [userOf, stored, Option.map_some]
  rcases rel_later (kept.queues receiver) present with ⟨later, found, same⟩
  rw [delivered_user stored, Option.some.injEq] at found
  have unchanged := same.msgInsert
  rw [← found, inserted] at unchanged
  omega

theorem data_routed_of_room (ready : sys.Ready) (registry : RegistryInvariant sys.protocol)
    (records : RecordInvariant sys.inst)
    (msgType : msgTypeFromId message.header.msgid = some .data)
    (used : InUse sys.inst.state (receiverRef message) service)
    (room : ¬(Accepts service message ∧ QueueFull service.base.userdata)) :
    ∃ after, dispatch sys.inst message = .ok after ∧
      DataRouted sys.inst after message service := by
  rcases data_dispatched ready registry records msgType used with
    ⟨refused, handled⟩ | ⟨accepted, completion, user, callback, handled⟩
  · refine ⟨sys.inst, handled, ?_, ?_, ?_⟩
    · exact fun accepted => absurd accepted refused
    · exact fun _ => queues_kept_refl sys.inst
    · exact ⟨fun _ => rfl, fun _ _ => rfl, rfl, rfl, rfl, rfl⟩
  · have notFull : ¬QueueFull service.base.userdata := fun full => room ⟨accepted, full⟩
    have serviceable := records.services _ service used.1
    have same := service_callback_inserts serviceable.vchi callback
    refine ⟨_, handled, ?_, ?_, delivered_undisturbed _ _ _ _⟩
    · intro _ _
      exact ⟨user, delivered_user used.1 completion user,
        insert_message_appended serviceable.ring notFull same⟩
    · exact fun other => absurd ⟨accepted, notFull⟩ other

/-- A message for a full queue is inserted all the same. -/
theorem data_not_routed_when_full (ready : sys.Ready)
    (registry : RegistryInvariant sys.protocol) (records : RecordInvariant sys.inst)
    (msgType : msgTypeFromId message.header.msgid = some .data)
    (used : InUse sys.inst.state (receiverRef message) service)
    (accepts : Accepts service message) (full : QueueFull service.base.userdata)
    {after : Instance} (handled : dispatch sys.inst message = .ok after) :
    ¬DataRouted sys.inst after message service := by
  intro routed
  rcases data_dispatched ready registry records msgType used with
    ⟨refused, _⟩ | ⟨_, completion, user, callback, delivered⟩
  · exact refused accepts
  · rw [delivered, Except.ok.injEq] at handled
    subst handled
    have serviceable := records.services _ service used.1
    have inserted : user.msgInsert = service.base.userdata.msgInsert + 1 :=
      (service_callback_inserts serviceable.vchi callback).msgInsert
    exact inserted_not_kept used.1 inserted (routed.passed fun open' => open'.2 full)

end Routing

/-- In every reachable state a DATA message for a service in use is handled and routed
to its queue and nowhere else, unless it is accepted for a queue that is full. -/
theorem data_routed_iff {raw : SlotZero} {memory : Memory} {totalMemory : Nat}
    {fresh : State} {actions : List Action} {reached : System} {message : SlotMessage}
    {service : Service} (made : freshState raw memory totalMemory = .ok fresh)
    (run : Run SystemStep (System.new (freshInstance fresh)) actions reached)
    (msgType : msgTypeFromId message.header.msgid = some .data)
    (used : InUse reached.inst.state (receiverRef message) service) :
    (∃ after, dispatch reached.inst message = .ok after ∧
        DataRouted reached.inst after message service) ↔
      ¬(Accepts service message ∧ QueueFull service.base.userdata) := by
  rcases record_invariant_run (fresh_state_facts made) run with ⟨ready, protocol, records⟩
  constructor
  · rintro ⟨after, handled, routed⟩ ⟨accepts, full⟩
    exact data_not_routed_when_full ready protocol.registry records msgType used accepts full
      handled routed
  · exact data_routed_of_room ready protocol.registry records msgType used

/-- A DATA message of the VideoCore for the first service. -/
def sampleData : SlotMessage where
  header := { msgid := makeMsgId .data 75 0, size := 2 }
  data := [1, 2]

/-- The first service is open for the messages of its peer, and so many of them are
waiting. -/
structure Backlogged (count : Nat) (sys : System) (service : Service) : Prop where
  stored : sys.inst.state.srvState.service 0 = some service
  accepts : Accepts service sampleData
  msgInsert : service.base.userdata.msgInsert = count
  msgRemove : service.base.userdata.msgRemove = 0

theorem Backlogged.used {count : Nat} {sys : System} {service : Service}
    (backlog : Backlogged count sys service) :
    InUse sys.inst.state (receiverRef sampleData) service := by
  refine ⟨backlog.stored, ?_⟩
  rw [backlog.accepts.2]
  decide

set_option maxRecDepth 20000 in
theorem first_service_open :
    ∃ fresh actions reached service,
      freshState blankSlotZero (fun _ => 0) (65 * vchiqSlotSize) = .ok fresh ∧
      (System.new (freshInstance fresh)).performAll Anything openingMoves =
        some (actions, reached) ∧
      Backlogged 0 reached service :=
  ⟨_, _, _, _, rfl, rfl, rfl, ⟨rfl, rfl⟩, rfl, rfl⟩

/-- A message for the open service is appended, with a place left in its queue. -/
theorem first_service_routed :
    ∃ sys service, Backlogged 0 sys service ∧
      ((∃ after, dispatch sys.inst sampleData = .ok after ∧
          DataRouted sys.inst after sampleData service) ↔
        ¬(Accepts service sampleData ∧ QueueFull service.base.userdata)) := by
  rcases first_service_open with ⟨fresh, actions, reached, service, made, performed, backlog⟩
  exact ⟨reached, service, backlog,
    data_routed_iff made (perform_all_run .refl performed).unguarded (by decide) backlog.used⟩

/-- One more message waits. -/
theorem Backlogged.more {count : Nat} {sys : System} {service : Service}
    (backlog : Backlogged count sys service) (ready : sys.Ready)
    (registry : RegistryInvariant sys.protocol) (records : RecordInvariant sys.inst) :
    ∃ action next later, SystemStep sys action next ∧ Backlogged (count + 1) next later := by
  rcases data_dispatched ready registry records (by decide) backlog.used with
    ⟨refused, _⟩ | ⟨_, completion, user, callback, handled⟩
  · exact absurd backlog.accepts refused
  · have serviceable := records.services _ service backlog.stored
    have same := service_callback_inserts serviceable.vchi callback
    refine ⟨_, _, service.withUser user, .received handled, ?_, backlog.accepts, ?_, ?_⟩
    · have here : receiverRef sampleData = 0 := by decide
      simp [deliveredInstance, Instance.updateService, State.updateService, here,
        backlog.stored, Service.withUser]
    · have inserted : user.msgInsert = service.base.userdata.msgInsert + 1 := same.msgInsert
      rw [← backlog.msgInsert]
      exact inserted
    · have removed : user.msgRemove = service.base.userdata.msgRemove := same.msgRemove
      rw [← backlog.msgRemove]
      exact removed

/-- Messages that nobody takes pile up to any number. -/
theorem backlog_run (count : Nat) :
    ∃ fresh actions reached service,
      freshState blankSlotZero (fun _ => 0) (65 * vchiqSlotSize) = .ok fresh ∧
      Run SystemStep (System.new (freshInstance fresh)) actions reached ∧
      Backlogged count reached service := by
  induction count with
  | zero =>
      rcases first_service_open with ⟨fresh, actions, reached, service, made, performed, backlog⟩
      exact ⟨fresh, actions, reached, service, made,
        (perform_all_run .refl performed).unguarded, backlog⟩
  | succ count ih =>
      rcases ih with ⟨fresh, actions, reached, service, made, run, backlog⟩
      rcases record_invariant_run (fresh_state_facts made) run with ⟨ready, protocol, records⟩
      rcases backlog.more ready protocol.registry records with ⟨action, next, later, move, more⟩
      exact ⟨fresh, actions ++ [action], next, later, made, run.snoc move, more⟩

/-- The message after the one that fills the queue changes it. -/
theorem full_queue_overwritten :
    ∃ fresh actions reached service,
      freshState blankSlotZero (fun _ => 0) (65 * vchiqSlotSize) = .ok fresh ∧
      Run SystemStep (System.new (freshInstance fresh)) actions reached ∧
      InUse reached.inst.state (receiverRef sampleData) service ∧
      QueueFull service.base.userdata ∧
      ¬∃ after, dispatch reached.inst sampleData = .ok after ∧
        DataRouted reached.inst after sampleData service := by
  rcases backlog_run msgQueueSize with ⟨fresh, actions, reached, service, made, run, backlog⟩
  rcases record_invariant_run (fresh_state_facts made) run with ⟨ready, protocol, records⟩
  have full : QueueFull service.base.userdata := by
    rw [QueueFull, backlog.msgInsert, backlog.msgRemove, Nat.zero_add]
  refine ⟨fresh, actions, reached, service, made, run, backlog.used, full, ?_⟩
  rintro ⟨after, handled, routed⟩
  exact data_not_routed_when_full ready protocol.registry records (by decide) backlog.used
    backlog.accepts full handled routed

end RuspiroVchiq.Vchi
