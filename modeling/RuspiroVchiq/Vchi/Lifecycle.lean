import RuspiroVchiq.Vchi.Handshake

/-!
# The lifecycle of a service

What the state of a service says about the messages that were exchanged for its
port, as an invariant of every run. A step is about one entry of the service
table or about none; `PortStep` lists what it can do to that entry, so that later
invariants are proved by its five cases.
-/

namespace RuspiroVchiq.Vchi

open RuspiroVchiq.Config
open RuspiroVchiq.Shared
open RuspiroVchiq.Vchiq
open RuspiroVchiq.Lib.LabelledRun

set_option autoImplicit false

/-- What the state of an endpoint tells about the messages for its port. -/
structure Lifecycle (events : List Event) (port : ServiceRef) (endpoint : Endpoint) :
    Prop where
  states : endpoint.srvstate = .free ∨ endpoint.srvstate = .opening ∨
    endpoint.srvstate = .open ∨ endpoint.srvstate = .closeSent ∨ endpoint.srvstate = .closeWait
  live : endpoint.closing = false → ¬Seen events (Stores .close port) ∧
    ¬Seen events (Processes .close port) ∧
    (endpoint.srvstate = .opening ∨ endpoint.srvstate = .open)
  marked : endpoint.closing = true → endpoint.srvstate ≠ .opening
  unanswered : endpoint.srvstate = .opening → ∀ remote, ¬Seen events (Opens port remote)
  answered : endpoint.srvstate = .open → Seen events (Opens port endpoint.remoteport) ∧
    ∀ remote, Seen events (Opens port remote) → remote = endpoint.remoteport
  ended : Seen events (Stores .close port) →
    endpoint.srvstate ≠ .opening ∧ endpoint.srvstate ≠ .open

/-- Nothing has happened for the port yet. -/
structure Untouched (events : List Event) (port : ServiceRef) : Prop where
  «open» : ¬Seen events (Stores .open port)
  close : ¬Seen events (Stores .close port)
  closed : ¬Seen events (Processes .close port)
  opened : ∀ remote, ¬Seen events (Opens port remote)

/-- The lifecycle of an entry of the service table. -/
def EntryLifecycle (events : List Event) (port : ServiceRef) : Option Endpoint → Prop
  | none => Untouched events port
  | some endpoint => Lifecycle events port endpoint

def LifecycleInvariant (events : List Event) (protocol : Protocol) : Prop :=
  ∀ port, EntryLifecycle events port (protocol.endpoints port)

theorem LifecycleInvariant.present {events : List Event} {protocol : Protocol}
    {port : ServiceRef} {endpoint : Endpoint} (inv : LifecycleInvariant events protocol)
    (present : protocol.endpoints port = some endpoint) : Lifecycle events port endpoint := by
  have entry := inv port
  rw [present] at entry
  exact entry

theorem LifecycleInvariant.vacant {events : List Event} {protocol : Protocol}
    {port : ServiceRef} (inv : LifecycleInvariant events protocol)
    (vacant : protocol.endpoints port = none) : Untouched events port := by
  have entry := inv port
  rw [vacant] at entry
  exact entry

/-- An event, if any, that says nothing about the connection of a port. -/
structure Bland (port : ServiceRef) (event : Option Event) : Prop where
  «open» : ∀ happened, event = some happened → ¬Stores .open port happened
  close : ∀ happened, event = some happened → ¬Stores .close port happened
  closed : ∀ happened, event = some happened → ¬Processes .close port happened
  opened : ∀ remote happened, event = some happened → ¬Opens port remote happened

theorem bland_none (port : ServiceRef) : Bland port none := by
  constructor <;> simp

theorem seen_bland (events : List Event) {event : Option Event} {property : Event → Prop}
    (bland : ∀ happened, event = some happened → ¬property happened) :
    Seen (events ++ event.toList) property ↔ Seen events property := by
  rw [seen_extend, or_iff_left]
  rintro ⟨happened, same, holds⟩
  exact bland happened same holds

/-- A bland event leaves the lifecycle of an entry alone. -/
theorem entry_frame {events : List Event} {event : Option Event} {port : ServiceRef}
    (entry : Option Endpoint) (life : EntryLifecycle events port entry)
    (bland : Bland port event) : EntryLifecycle (events ++ event.toList) port entry := by
  have opening := seen_bland events bland.open
  have close := seen_bland events bland.close
  have closed := seen_bland events bland.closed
  have opened := fun remote => seen_bland events (bland.opened remote)
  cases entry with
  | none =>
      constructor
      · rw [opening]
        exact life.open
      · rw [close]
        exact life.close
      · rw [closed]
        exact life.closed
      · simp only [opened]
        exact life.opened
  | some endpoint =>
      constructor
      · exact life.states
      · rw [close, closed]
        exact life.live
      · exact life.marked
      · simp only [opened]
        exact life.unanswered
      · simp only [opened]
        exact life.answered
      · rw [close]
        exact life.ended

/-- A stored message says nothing about a port other than its sender's, nor does it
if it is neither OPEN nor CLOSE. -/
theorem bland_stored (sent : Outgoing) {kind : MessageType} {port : ServiceRef}
    (msgType : msgTypeFromId sent.message.header.msgid = some kind)
    (other : (kind ≠ .open ∧ kind ≠ .close) ∨ senderRef sent.message ≠ port) :
    Bland port (some (.stored sent)) := by
  have notStored : ∀ expected, expected = .open ∨ expected = .close →
      ¬Stores expected port (.stored sent) := by
    rintro expected isOne ⟨isType, isSender⟩
    rcases other with ⟨notOpen, notClose⟩ | notSender
    · have same : kind = expected := Option.some.inj (msgType.symm.trans isType)
      rcases isOne with rfl | rfl
      · exact notOpen same
      · exact notClose same
    · exact notSender isSender
  constructor
  · rintro happened ⟨⟩
    exact notStored .open (.inl rfl)
  · rintro happened ⟨⟩
    exact notStored .close (.inr rfl)
  · rintro happened ⟨⟩
    exact id
  · rintro remote happened ⟨⟩
    exact id

/-- A processed message says nothing about a port other than its receiver's. -/
theorem bland_processed {message : SlotMessage} {opened : Bool} {port : ServiceRef}
    (other : receiverRef message ≠ port ∨
      (msgTypeFromId message.header.msgid ≠ some .close ∧ opened = false)) :
    Bland port (some (.processed message opened)) := by
  constructor
  · rintro happened ⟨⟩
    exact id
  · rintro happened ⟨⟩
    exact id
  · rintro happened ⟨⟩ ⟨isClose, isReceiver⟩
    rcases other with notReceiver | ⟨notClose, _⟩
    · exact notReceiver isReceiver
    · exact notClose isClose
  · rintro remote happened ⟨⟩ ⟨isOpened, _, isReceiver, _⟩
    rcases other with notReceiver | ⟨_, notOpened⟩
    · exact notReceiver isReceiver
    · simp [notOpened] at isOpened

/-- The type and the source port of a message an endpoint sends. -/
theorem sent_message_decodes {message : SlotMessage} {kind : MessageType}
    {localport remote : UInt32} {port : ServiceRef}
    (msgid : message.header.msgid = makeMsgId kind localport remote)
    (isPort : localport.toNat = port) (small : port < vchiqMaxServices)
    (remoteSmall : remote.toNat < vchiqMaxServices) :
    msgTypeFromId message.header.msgid = some kind ∧ senderRef message = port ∧
      dstPortFromId message.header.msgid = remote := by
  have bound : localport.toNat < 4096 := isPort ▸ small
  refine ⟨?_, ?_, ?_⟩
  · rw [msgid, msg_type_make kind localport remote bound remoteSmall]
  · rw [senderRef, msgid, src_port_make kind localport remote bound remoteSmall, isPort]
  · rw [msgid, dst_port_make kind localport remote bound remoteSmall]

/-- A CLOSE decodes whatever its remote port is. -/
theorem close_message_decodes {message : SlotMessage} {localport remote : UInt32}
    {port : ServiceRef}
    (msgid : message.header.msgid = makeMsgId .close localport (remote &&& 0x0fff))
    (isPort : localport.toNat = port) (small : port < vchiqMaxServices) :
    msgTypeFromId message.header.msgid = some .close ∧ senderRef message = port := by
  have masked : (remote &&& 0x0fff).toNat < vchiqMaxServices := by
    have bound := dst_port_lt remote
    unfold dstPortFromId at bound
    exact bound
  obtain ⟨msgType, sender, _⟩ := sent_message_decodes msgid isPort small masked
  exact ⟨msgType, sender⟩

/-- What a step can do to one entry of the service table. -/
inductive PortStep (port : ServiceRef) : Option Endpoint → Option Event → Endpoint → Prop where
  | opened {sent : Outgoing} {srvHandle : ServiceHandle} {owner : Option ServiceHandle}
      (msgType : msgTypeFromId sent.message.header.msgid = some .open)
      (sender : senderRef sent.message = port) :
      PortStep port none (some (.stored sent)) (freshEndpoint port srvHandle owner)
  | closeSent {endpoint : Endpoint} {sent : Outgoing} (isOpen : endpoint.srvstate = .open)
      (msgType : msgTypeFromId sent.message.header.msgid = some .close)
      (sender : senderRef sent.message = port) :
      PortStep port (some endpoint) (some (.stored sent)) endpoint.sendClose
  | released {endpoint : Endpoint} (ended : endpoint.srvstate = .closeWait) :
      PortStep port (some endpoint) none endpoint.release
  | acknowledged {endpoint : Endpoint} {message : SlotMessage}
      (msgType : msgTypeFromId message.header.msgid = some .openAck)
      (receiver : receiverRef message = port) (used : endpoint.srvstate ≠ .free) :
      PortStep port (some endpoint)
        (some (.processed message (decide (endpoint.srvstate = .opening))))
        (endpoint.acknowledge (srcPortFromId message.header.msgid))
  | closed {endpoint : Endpoint} {message : SlotMessage}
      (msgType : msgTypeFromId message.header.msgid = some .close)
      (receiver : receiverRef message = port) (used : endpoint.srvstate ≠ .free) :
      PortStep port (some endpoint) (some (.processed message false)) endpoint.closeReceived

theorem PortStep.bland_elsewhere {port other : ServiceRef} {old : Option Endpoint}
    {event : Option Event} {changed : Endpoint} (step : PortStep port old event changed)
    (elsewhere : other ≠ port) : Bland other event := by
  cases step with
  | opened msgType sender =>
      exact bland_stored _ msgType (.inr fun same => elsewhere (same.symm.trans sender))
  | closeSent _ msgType sender =>
      exact bland_stored _ msgType (.inr fun same => elsewhere (same.symm.trans sender))
  | released _ => exact bland_none other
  | acknowledged _ receiver _ =>
      exact bland_processed (.inl fun same => elsewhere (same.symm.trans receiver))
  | closed _ receiver _ =>
      exact bland_processed (.inl fun same => elsewhere (same.symm.trans receiver))

theorem PortStep.receiver {port : ServiceRef} {old : Option Endpoint} {changed : Endpoint}
    {message : SlotMessage} {opened : Bool}
    (step : PortStep port old (some (.processed message opened)) changed) :
    receiverRef message = port := by
  cases step with
  | acknowledged _ receiver _ => exact receiver
  | closed _ receiver _ => exact receiver

/-- A step is about one entry of the table or about none. -/
inductive Touches (before : Protocol) (event : Option Event) (after : Protocol) : Prop where
  | nothing (same : after.endpoints = before.endpoints) (bland : ∀ port, Bland port event)
  | entry {port : ServiceRef} {changed : Endpoint}
      (updated : after.endpoints = Function.update before.endpoints port (some changed))
      (step : PortStep port (before.endpoints port) event changed)

/-- A service a handle was given out for is not opening. -/
theorem RegistryInvariant.given_out {protocol : Protocol} {handle srvHandle : ServiceHandle}
    {port : ServiceRef} {endpoint : Endpoint} (registry : RegistryInvariant protocol)
    (known : protocol.services handle = some srvHandle)
    (has : protocol.Has port endpoint srvHandle) : endpoint.srvstate ≠ .opening := by
  obtain ⟨other, found, hasOther, started⟩ := registry.mapped handle srvHandle known
  have same := registry.distinct port other endpoint found srvHandle has hasOther
  subst same
  have isEndpoint : endpoint = found := Option.some.inj (has.1.symm.trans hasOther.1)
  rw [isEndpoint]
  exact started

/-- A service that data may be queued for is open and connected. -/
theorem sender_open {events : List Event} {protocol : Protocol}
    {handle srvHandle : ServiceHandle} {port : ServiceRef} {endpoint : Endpoint}
    (registry : RegistryInvariant protocol) (inv : LifecycleInvariant events protocol)
    (known : protocol.services handle = some srvHandle)
    (sender : protocol.Has port endpoint srvHandle) (live : endpoint.closing = false) :
    endpoint.srvstate = .open ∧ endpoint.remoteport.toNat < vchiqMaxServices := by
  have life := inv.present sender.1
  have isOpen : endpoint.srvstate = .open :=
    (life.live live).2.2.resolve_left (registry.given_out known sender)
  refine ⟨isOpen, ?_⟩
  obtain ⟨event, _, opened⟩ := (life.answered isOpen).1
  cases event with
  | stored sent => exact absurd opened id
  | processed message flag =>
      rw [← opened.2.2.2]
      exact src_port_lt _

theorem step_touches {events : List Event} {before after : Protocol} {action : Action}
    (registry : RegistryInvariant before) (inv : LifecycleInvariant events before)
    (move : ProtocolStep before action after) : Touches before action.event after := by
  cases move with
  | quiet silent =>
      rw [silent]
      exact .nothing rfl bland_none
  | abandoned silent =>
      rw [silent]
      exact .nothing rfl bland_none
  | connectSent _ =>
      refine .nothing rfl fun port => ?_
      exact bland_stored ⟨none, connectCall.message⟩ connect_call_type (.inl (by decide))
  | connectJoined _ => exact .nothing rfl bland_none
  | connectFinished _ _ _ => exact .nothing rfl bland_none
  | connectPassed _ _ => exact .nothing rfl bland_none
  | openFinished _ _ _ => exact .nothing rfl bland_none
  | closeFinished _ => exact .nothing rfl bland_none
  | @openSent setup handle srvHandle port message connected vacant small unknown msgid =>
      obtain ⟨msgType, sender, _⟩ :=
        sent_message_decodes msgid (of_nat_port small) small (by decide)
      refine .entry rfl ?_
      rw [vacant]
      exact .opened msgType sender
  | @closeSent handle srvHandle port endpoint message known closed begun msgid =>
      obtain ⟨isPort, small⟩ := registry.ports port endpoint closed.1
      obtain ⟨msgType, sender⟩ := close_message_decodes msgid isPort small
      have life := inv.present closed.1
      have isOpen : endpoint.srvstate = .open := by
        rcases begun with opening | sync | isOpen
        · exact absurd opening (registry.given_out known closed)
        · rcases life.states with state | state | state | state | state <;> simp [state] at sync
        · exact isOpen
      refine .entry rfl ?_
      rw [closed.1]
      exact .closeSent isOpen msgType sender
  | @closeReleased handle srvHandle port endpoint known closed ended =>
      have life := inv.present closed.1
      have waits : endpoint.srvstate = .closeWait := by
        rcases ended with isClosed | waits
        · rcases life.states with state | state | state | state | state <;>
            simp [state] at isClosed
        · exact waits
      refine .entry rfl ?_
      rw [closed.1]
      exact .released waits
  | @dataSent handle srvHandle data port endpoint message known sender live msgid =>
      obtain ⟨isPort, small⟩ := registry.ports port endpoint sender.1
      obtain ⟨msgType, _, _⟩ := sent_message_decodes msgid isPort small
        (sender_open registry inv known sender live).2
      refine .nothing rfl fun other => ?_
      exact bland_stored ⟨some port, message⟩ msgType (.inl (by decide))
  | greeted msgType =>
      exact .nothing rfl fun port => bland_processed (.inr ⟨by simp [msgType], rfl⟩)
  | @passed message kind msgType other =>
      have notClose : msgTypeFromId message.header.msgid ≠ some .close := by
        rw [msgType]
        simpa using other.2.2
      exact .nothing rfl fun port => bland_processed (.inr ⟨notClose, rfl⟩)
  | acknowledged msgType present used =>
      refine .entry rfl ?_
      rw [present]
      exact .acknowledged msgType rfl used
  | closed msgType present used =>
      refine .entry rfl ?_
      rw [present]
      exact .closed msgType rfl used

/-- A service that was just added. -/
theorem opened_lifecycle {events : List Event} {sent : Outgoing} {port : ServiceRef}
    {srvHandle : ServiceHandle} {owner : Option ServiceHandle} (fresh : Untouched events port)
    (msgType : msgTypeFromId sent.message.header.msgid = some .open) :
    Lifecycle (events ++ [.stored sent]) port (freshEndpoint port srvHandle owner) := by
  have close : ¬Seen (events ++ [.stored sent]) (Stores .close port) := by
    rw [seen_snoc, not_or]
    refine ⟨fresh.close, ?_⟩
    rintro ⟨isClose, _⟩
    simp [msgType] at isClose
  have closed : ¬Seen (events ++ [.stored sent]) (Processes .close port) := by
    rw [seen_snoc, not_or]
    exact ⟨fresh.closed, id⟩
  constructor
  · exact .inr (.inl rfl)
  · exact fun _ => ⟨close, closed, .inl rfl⟩
  · intro closing
    simp [freshEndpoint] at closing
  · intro _ remote
    rw [seen_snoc, not_or]
    exact ⟨fresh.opened remote, id⟩
  · intro isOpen
    simp [freshEndpoint] at isOpen
  · exact fun seen => absurd seen close

/-- OPENACK and the lifecycle of the service it is for. -/
theorem acknowledged_lifecycle {events : List Event} {message : SlotMessage}
    {endpoint : Endpoint} (life : Lifecycle events (receiverRef message) endpoint)
    (msgType : msgTypeFromId message.header.msgid = some .openAck) :
    Lifecycle
      (events ++ [.processed message (decide (endpoint.srvstate = .opening))])
      (receiverRef message) (endpoint.acknowledge (srcPortFromId message.header.msgid)) := by
  have notClose : msgTypeFromId message.header.msgid ≠ some .close := by simp [msgType]
  unfold Endpoint.acknowledge
  by_cases opening : endpoint.srvstate = .opening
  · rw [if_pos opening, decide_eq_true opening]
    have live : endpoint.closing = false := by
      cases closing : endpoint.closing with
      | false => rfl
      | true => exact absurd opening (life.marked closing)
    obtain ⟨noClose, noClosed, _⟩ := life.live live
    have closeStored : ¬Seen (events ++ [.processed message true])
        (Stores .close (receiverRef message)) := by
      rw [seen_snoc]
      exact not_or.mpr ⟨noClose, id⟩
    have closeProcessed : ¬Seen (events ++ [.processed message true])
        (Processes .close (receiverRef message)) := by
      rw [seen_snoc]
      exact not_or.mpr ⟨noClosed, fun processed => notClose processed.1⟩
    constructor
    · exact .inr (.inr (.inl rfl))
    · exact fun _ => ⟨closeStored, closeProcessed, .inr rfl⟩
    · simp
    · simp
    · refine fun _ => ⟨(seen_snoc _ _ _).mpr (.inr ⟨rfl, msgType, rfl, rfl⟩), ?_⟩
      intro remote seen
      rcases (seen_snoc _ _ _).mp seen with old | new
      · exact absurd old (life.unanswered opening remote)
      · exact new.2.2.2.symm
    · exact fun seen => absurd seen closeStored
  · rw [if_neg opening, decide_eq_false opening]
    have bland : Bland (receiverRef message) (some (.processed message false)) :=
      bland_processed (.inr ⟨notClose, rfl⟩)
    exact entry_frame (some endpoint) life bland

/-- CLOSE and the lifecycle of the service it is for. -/
theorem closed_lifecycle {events : List Event} {message : SlotMessage} {endpoint : Endpoint}
    (life : Lifecycle events (receiverRef message) endpoint) :
    Lifecycle (events ++ [.processed message false]) (receiverRef message)
      endpoint.closeReceived := by
  have marked : endpoint.closeReceived.closing = true := by
    unfold Endpoint.closeReceived
    split <;> rfl
  have opened : ∀ remote, Seen (events ++ [.processed message false])
      (Opens (receiverRef message) remote) ↔
        Seen events (Opens (receiverRef message) remote) := by
    intro remote
    rw [seen_snoc, or_iff_left]
    rintro ⟨isOpened, _⟩
    simp at isOpened
  have close : Seen (events ++ [.processed message false])
      (Stores .close (receiverRef message)) ↔
        Seen events (Stores .close (receiverRef message)) := by
    rw [seen_snoc]
    exact or_iff_left id
  have stillOpen : endpoint.closeReceived.srvstate = .open →
      endpoint.srvstate = .open ∧ endpoint.closeReceived.remoteport = endpoint.remoteport := by
    unfold Endpoint.closeReceived
    split
    · simp
    · simp
    · exact fun isOpen => ⟨isOpen, rfl⟩
  constructor
  · unfold Endpoint.closeReceived
    rcases life.states with state | state | state | state | state <;> simp [state]
  · intro notMarked
    simp [marked] at notMarked
  · exact fun _ => close_received_not_opening endpoint
  · exact fun opening => absurd opening (close_received_not_opening endpoint)
  · intro isOpen
    obtain ⟨wasOpen, remoteport⟩ := stillOpen isOpen
    simp only [opened, remoteport]
    exact life.answered wasOpen
  · rw [close]
    intro seen
    exact ⟨close_received_not_opening endpoint,
      fun isOpen => (life.ended seen).2 (stillOpen isOpen).1⟩

/-- A close this side has begun ends the lifecycle whether or not it is announced. -/
theorem given_up_lifecycle {events batch : List Event} {port : ServiceRef}
    {changed : Endpoint}
    (ended : changed.srvstate = .free ∨ changed.srvstate = .closeSent)
    (closing : changed.closing = true) : Lifecycle (events ++ batch) port changed := by
  constructor
  · rcases ended with state | state <;> simp [state]
  · intro live
    simp [closing] at live
  · intro _
    rcases ended with state | state <;> simp [state]
  · intro opening
    rcases ended with state | state <;> simp [state] at opening
  · intro isOpen
    rcases ended with state | state <;> simp [state] at isOpen
  · intro _
    rcases ended with state | state <;> simp [state]

/-- What one step does to the lifecycle of the entry it is about. -/
theorem port_step_lifecycle {events : List Event} {port : ServiceRef} {old : Option Endpoint}
    {event : Option Event} {changed : Endpoint} (life : EntryLifecycle events port old)
    (step : PortStep port old event changed) :
    Lifecycle (events ++ event.toList) port changed := by
  cases step with
  | opened msgType _ => exact opened_lifecycle life msgType
  | closeSent _ _ _ => exact given_up_lifecycle (.inr rfl) rfl
  | released _ => exact given_up_lifecycle (.inl rfl) rfl
  | acknowledged msgType receiver _ =>
      subst receiver
      exact acknowledged_lifecycle life msgType
  | closed _ receiver _ =>
      subst receiver
      exact closed_lifecycle life

theorem lifecycle_step {events : List Event} {before after : Protocol} {action : Action}
    (registry : RegistryInvariant before) (inv : LifecycleInvariant events before)
    (move : ProtocolStep before action after) :
    LifecycleInvariant (events ++ action.event.toList) after := by
  intro port
  cases step_touches registry inv move with
  | nothing same bland =>
      rw [same]
      exact entry_frame _ (inv port) (bland port)
  | @entry touched changed updated step =>
      rw [updated]
      by_cases same : port = touched
      · subst same
        rw [Function.update_self]
        exact port_step_lifecycle (inv port) step
      · rw [Function.update_of_ne same]
        exact entry_frame _ (inv port) (step.bland_elsewhere same)

/-- The three invariants of a run together. -/
structure ProtocolInvariant (actions : List Action) (protocol : Protocol) : Prop where
  registry : RegistryInvariant protocol
  handshake : HandshakeInvariant (eventsOf actions) protocol
  lifecycle : LifecycleInvariant (eventsOf actions) protocol

theorem initial_invariant : ProtocolInvariant [] Protocol.initial := by
  have noEndpoint : ∀ port endpoint, Protocol.initial.endpoints port ≠ some endpoint := by
    intro port endpoint
    simp [Protocol.initial]
  refine ⟨⟨?_, ?_, ?_⟩, ⟨?_, ?_, ?_, ?_, ?_, ?_, ?_⟩, ?_⟩
  · exact fun port endpoint present => absurd present (noEndpoint port endpoint)
  · exact fun port _ endpoint _ _ has _ => absurd has.1 (noEndpoint port endpoint)
  · intro handle srvHandle known
    simp [Protocol.initial] at known
  · exact fun _ => seen_nil _
  · exact fun begun => absurd rfl begun
  · intro raised
    simp [Protocol.initial] at raised
  · exact fun begun _ => absurd rfl begun
  · intro connected
    simp [Protocol.initial] at connected
  · intro waiting
    simp [Protocol.initial] at waiting
  · exact fun port endpoint present => absurd present (noEndpoint port endpoint)
  · exact fun port => ⟨seen_nil _, seen_nil _, seen_nil _, fun _ => seen_nil _⟩

theorem protocol_invariant_step {actions : List Action} {before after : Protocol}
    {action : Action} (inv : ProtocolInvariant actions before)
    (move : ProtocolStep before action after) :
    ProtocolInvariant (actions ++ [action]) after := by
  refine ⟨registry_step inv.registry move, ?_, ?_⟩
  · rw [events_snoc]
    exact handshake_step inv.handshake move
  · rw [events_snoc]
    exact lifecycle_step inv.registry inv.lifecycle move

theorem protocol_invariant_run {actions : List Action} {reached : Protocol}
    (run : Run ProtocolStep Protocol.initial actions reached) :
    ProtocolInvariant actions reached :=
  run.invariant ProtocolInvariant initial_invariant
    fun _ _ _ _ _ inv move => protocol_invariant_step inv move

end RuspiroVchiq.Vchi
