import RuspiroVchiq.Vchi.Protocol

/-!
# Registry and handshake

The events a protocol rule may refer to, and two invariants of every run. The
registry: a service keeps its port, no handle is used twice, and a handle that
was given out names a service that is no longer opening. The handshake: how far
`connect` has come and what that says about the CONNECT messages.
-/

namespace RuspiroVchiq.Vchi

open RuspiroVchiq.Config
open RuspiroVchiq.Shared
open RuspiroVchiq.Vchiq
open RuspiroVchiq.Lib.LabelledRun

set_option autoImplicit false

/-- The source port of a message, as an index of the service table. -/
def senderRef (message : SlotMessage) : ServiceRef :=
  (srcPortFromId message.header.msgid).toNat

/-- A message of this type was stored. -/
def StoresType (kind : MessageType) : Event → Prop
  | .stored sent => msgTypeFromId sent.message.header.msgid = some kind
  | .processed _ _ => False

/-- A message of this type with this source port was stored. -/
def Stores (kind : MessageType) (port : ServiceRef) : Event → Prop
  | .stored sent =>
      msgTypeFromId sent.message.header.msgid = some kind ∧ senderRef sent.message = port
  | .processed _ _ => False

def ProcessesType (kind : MessageType) : Event → Prop
  | .stored _ => False
  | .processed message _ => msgTypeFromId message.header.msgid = some kind

/-- A message of this type for this port was processed. -/
def Processes (kind : MessageType) (port : ServiceRef) : Event → Prop
  | .stored _ => False
  | .processed message _ =>
      msgTypeFromId message.header.msgid = some kind ∧ receiverRef message = port

/-- An OPENACK from the given remote port moved the service of this port to OPEN. -/
def Opens (port : ServiceRef) (remote : UInt32) : Event → Prop
  | .stored _ => False
  | .processed message opened =>
      opened = true ∧ msgTypeFromId message.header.msgid = some .openAck ∧
        receiverRef message = port ∧ srcPortFromId message.header.msgid = remote

structure RegistryInvariant (protocol : Protocol) : Prop where
  ports : ∀ port endpoint, protocol.endpoints port = some endpoint →
    endpoint.localport.toNat = port ∧ port < vchiqMaxServices
  distinct : ∀ port other endpoint otherEndpoint srvHandle,
    protocol.Has port endpoint srvHandle → protocol.Has other otherEndpoint srvHandle →
      port = other
  mapped : ∀ handle srvHandle, protocol.services handle = some srvHandle →
    ∃ port endpoint, protocol.Has port endpoint srvHandle ∧ endpoint.srvstate ≠ .opening

/-- The callback looks its service up by the handle, which is unique: it ends at the
service the message was addressed to. -/
theorem RegistryInvariant.callback_receiver {sys : System}
    (registry : RegistryInvariant sys.protocol) {reference receiver : ServiceRef}
    {service target : Service}
    (addressed : sys.inst.state.srvState.service receiver = some service)
    (found : sys.inst.state.serviceFromHandle service.handle = some reference)
    (stored : sys.inst.state.srvState.service reference = some target) :
    reference = receiver ∧ target = service := by
  have hasHandle : target.handle = service.handle := by
    have lookup : sys.inst.state.serviceOf service.handle = some (reference, target) := by
      simp only [State.serviceOf, found, stored]
    exact (service_of_some lookup).2
  have here : reference = receiver :=
    registry.distinct reference receiver target.endpoint service.endpoint service.handle
      ⟨endpoints_some stored, hasHandle⟩ ⟨endpoints_some addressed, rfl⟩
  refine ⟨here, ?_⟩
  rw [here, addressed] at stored
  exact (Option.some.inj stored).symm

/-- The endpoint after an update in place. -/
theorem has_set {protocol : Protocol} {port other : ServiceRef} {endpoint : Endpoint}
    {changed found : Endpoint} {srvHandle : ServiceHandle}
    (present : protocol.endpoints port = some endpoint)
    (identity : changed.identity = endpoint.identity)
    (has : (protocol.set port changed).Has other found srvHandle) :
    (other = port ∧ found = changed ∧ protocol.Has port endpoint srvHandle) ∨
      (other ≠ port ∧ protocol.Has other found srvHandle) := by
  obtain ⟨entry, handle⟩ := has
  rcases entry_cases entry with ⟨rfl, rfl⟩ | ⟨differs, old⟩
  · have sameHandle : found.handle = endpoint.handle :=
      congrArg (fun parts => parts.2.1) identity
    exact .inl ⟨rfl, rfl, present, sameHandle.symm.trans handle⟩
  · exact .inr ⟨differs, old, handle⟩

/-- Updating an endpoint keeps the registry, provided it does not start to open. -/
theorem RegistryInvariant.set {protocol : Protocol} {port : ServiceRef}
    {endpoint changed : Endpoint} (registry : RegistryInvariant protocol)
    (present : protocol.endpoints port = some endpoint)
    (identity : changed.identity = endpoint.identity)
    (opening : changed.srvstate = .opening → endpoint.srvstate = .opening) :
    RegistryInvariant (protocol.set port changed) where
  ports := by
    intro other found entry
    rcases has_set present identity ⟨entry, rfl⟩ with ⟨rfl, isChanged, _⟩ | ⟨_, old, _⟩
    · have samePort : changed.localport = endpoint.localport := congrArg Prod.fst identity
      rw [isChanged, samePort]
      exact registry.ports other endpoint present
    · exact registry.ports other found old
  distinct := by
    intro first second found other srvHandle hasFirst hasSecond
    rcases has_set present identity hasFirst with ⟨rfl, _, old⟩ | ⟨_, old⟩ <;>
      rcases has_set present identity hasSecond with ⟨rfl, _, older⟩ | ⟨_, older⟩
    all_goals exact registry.distinct _ _ _ _ srvHandle old older
  mapped := by
    intro handle srvHandle known
    obtain ⟨other, found, has, started⟩ := registry.mapped handle srvHandle known
    by_cases same : other = port
    · subst same
      have found' : found = endpoint := Option.some.inj (has.1.symm.trans present)
      subst found'
      have sameHandle : changed.handle = found.handle :=
        congrArg (fun parts => parts.2.1) identity
      refine ⟨other, changed, ⟨?_, sameHandle.trans has.2⟩, fun begins => started (opening begins)⟩
      simp only [Protocol.set, Function.update_self]
    · refine ⟨other, found, ⟨?_, has.2⟩, started⟩
      simp only [Protocol.set, Function.update_of_ne same]
      exact has.1

/-- The parts of the protocol the registry does not read. -/
theorem RegistryInvariant.congr {before after : Protocol} (registry : RegistryInvariant before)
    (endpoints : after.endpoints = before.endpoints)
    (services : after.services = before.services) : RegistryInvariant after := by
  constructor
  · rw [endpoints]
    exact registry.ports
  · intro port other endpoint otherEndpoint srvHandle has hasOther
    unfold Protocol.Has at has hasOther
    rw [endpoints] at has hasOther
    exact registry.distinct port other endpoint otherEndpoint srvHandle has hasOther
  · intro handle srvHandle known
    rw [services] at known
    obtain ⟨port, endpoint, has, started⟩ := registry.mapped handle srvHandle known
    refine ⟨port, endpoint, ⟨?_, has.2⟩, started⟩
    rw [endpoints]
    exact has.1

theorem acknowledge_identity (endpoint : Endpoint) (remotePort : UInt32) :
    (endpoint.acknowledge remotePort).identity = endpoint.identity := by
  unfold Endpoint.acknowledge
  split_ifs <;> rfl

theorem close_received_identity (endpoint : Endpoint) :
    endpoint.closeReceived.identity = endpoint.identity := by
  unfold Endpoint.closeReceived
  split <;> rfl

theorem acknowledge_not_opening (endpoint : Endpoint) (remotePort : UInt32) :
    (endpoint.acknowledge remotePort).srvstate ≠ .opening := by
  unfold Endpoint.acknowledge
  split_ifs with opening
  · simp
  · exact opening

theorem close_received_not_opening (endpoint : Endpoint) :
    endpoint.closeReceived.srvstate ≠ .opening := by
  unfold Endpoint.closeReceived
  split
  · simp
  · simp
  · rename_i notOpening _
    exact notOpening

theorem open_result_ok {srvHandle : ServiceHandle} {srvstate : ServiceState}
    (accepted : openResult srvHandle srvstate = .ok ()) : srvstate ≠ .opening := by
  rintro rfl
  simp [openResult] at accepted

/-- A service is entered at a port that was vacant. -/
theorem RegistryInvariant.opened {before : Protocol} (registry : RegistryInvariant before)
    {port : ServiceRef} {handle srvHandle : ServiceHandle}
    (vacant : before.endpoints port = none) (small : port < vchiqMaxServices)
    (unknown : ∀ other endpoint, before.endpoints other = some endpoint →
      endpoint.handle ≠ srvHandle) :
    RegistryInvariant (before.set port (freshEndpoint port srvHandle (some handle))) := by
  constructor
  · intro other found present
    rcases entry_cases present with ⟨rfl, rfl⟩ | ⟨_, old⟩
    · exact ⟨of_nat_port small, small⟩
    · exact registry.ports other found old
  · rintro first second found other shared ⟨present, handle⟩ ⟨presentOther, handleOther⟩
    rcases entry_cases present with ⟨rfl, rfl⟩ | ⟨_, old⟩ <;>
      rcases entry_cases presentOther with ⟨rfl, rfl⟩ | ⟨_, older⟩
    · rfl
    · exact absurd (handleOther.trans handle.symm) (unknown second other older)
    · exact absurd (handle.trans handleOther.symm) (unknown first found old)
    · exact registry.distinct first second found other shared ⟨old, handle⟩
        ⟨older, handleOther⟩
  · intro key shared known
    obtain ⟨other, found, has, started⟩ := registry.mapped key shared known
    have notHere : other ≠ port := by
      rintro rfl
      simp [has.1] at vacant
    refine ⟨other, found, ⟨?_, has.2⟩, started⟩
    simp only [Protocol.set, Function.update_of_ne notHere]
    exact has.1

/-- One entry of the map of services changes. -/
theorem RegistryInvariant.remapped {before : Protocol} (registry : RegistryInvariant before)
    {handle : ServiceHandle} {entry : Option ServiceHandle} {pending : PendingCall}
    (mapped : ∀ srvHandle, entry = some srvHandle →
      ∃ port endpoint, before.Has port endpoint srvHandle ∧ endpoint.srvstate ≠ .opening) :
    RegistryInvariant
      { before with
        services := Function.update before.services handle entry
        pending := pending } := by
  refine ⟨registry.ports, registry.distinct, ?_⟩
  intro key srvHandle known
  by_cases here : key = handle
  · subst here
    simp only [Function.update_self] at known
    exact mapped srvHandle known
  · simp only [Function.update_of_ne here] at known
    exact registry.mapped key srvHandle known

theorem registry_step {before after : Protocol} {action : Action}
    (registry : RegistryInvariant before) (move : ProtocolStep before action after) :
    RegistryInvariant after := by
  cases move with
  | quiet _ => exact registry
  | abandoned _ => exact registry.congr rfl rfl
  | connectSent _ => exact registry.congr rfl rfl
  | connectJoined _ => exact registry.congr rfl rfl
  | connectFinished _ _ _ => exact registry.congr rfl rfl
  | connectPassed _ _ => exact registry.congr rfl rfl
  | dataSent _ _ _ _ => exact registry
  | greeted _ => exact registry.congr rfl rfl
  | passed _ _ => exact registry
  | openSent connected vacant small unknown msgid =>
      exact (registry.opened vacant small unknown).congr rfl rfl
  | openFinished waiting answered accepted =>
      apply registry.remapped
      intro srvHandle known
      rw [← Option.some.inj known]
      exact ⟨_, _, answered, open_result_ok accepted⟩
  | closeFinished _ => exact registry.remapped (by simp)
  | @closeSent _ _ port endpoint _ _ closed _ _ =>
      have updated : RegistryInvariant (before.set port endpoint.sendClose) :=
        registry.set closed.1 rfl (by simp [Endpoint.sendClose])
      exact updated.congr rfl rfl
  | @closeReleased _ _ port endpoint _ closed _ =>
      have updated : RegistryInvariant (before.set port endpoint.release) :=
        registry.set closed.1 rfl (by simp [Endpoint.release])
      exact updated.congr rfl rfl
  | acknowledged _ present _ =>
      exact registry.set present (acknowledge_identity _ _)
        fun opening => absurd opening (acknowledge_not_opening _ _)
  | closed _ present _ =>
      exact registry.set present (close_received_identity _)
        fun opening => absurd opening (close_received_not_opening _)

def IsStored : Event → Prop
  | .stored _ => True
  | .processed _ _ => False

structure HandshakeInvariant (events : List Event) (protocol : Protocol) : Prop where
  silent : protocol.connState = .disconnected → ¬Seen events IsStored
  begun : protocol.connState ≠ .disconnected → Seen events (StoresType .connect)
  raised : 0 < protocol.connect → Seen events (ProcessesType .connect)
  settled : protocol.connState ≠ .disconnected → protocol.connState ≠ .connecting →
    Seen events (ProcessesType .connect)
  connected : protocol.connected = true →
    Seen events (ProcessesType .connect) ∧ protocol.connState ≠ .disconnected
  waiting : protocol.pending = .connect → protocol.connState ≠ .disconnected
  used : ∀ port endpoint, protocol.endpoints port = some endpoint → protocol.connected = true

/-- A step that does not change the handshake itself. -/
theorem HandshakeInvariant.extend {events batch : List Event} {before after : Protocol}
    (handshake : HandshakeInvariant events before)
    (connState : after.connState = before.connState)
    (connect : 0 < after.connect →
      0 < before.connect ∨ Seen (events ++ batch) (ProcessesType .connect))
    (connected : after.connected = before.connected)
    (pending : after.pending = .connect → before.connState ≠ .disconnected)
    (used : ∀ port endpoint, after.endpoints port = some endpoint → before.connected = true)
    (stored : Seen batch IsStored → before.connected = true) :
    HandshakeInvariant (events ++ batch) after := by
  constructor
  · rintro disconnected ⟨event, member, isStored⟩
    rw [connState] at disconnected
    rcases List.mem_append.mp member with old | new
    · exact handshake.silent disconnected ⟨event, old, isStored⟩
    · exact (handshake.connected (stored ⟨event, new, isStored⟩)).2 disconnected
  · rw [connState]
    exact fun begun => (handshake.begun begun).append batch
  · intro raised
    rcases connect raised with earlier | seen
    · exact (handshake.raised earlier).append batch
    · exact seen
  · rw [connState]
    exact fun begun done => (handshake.settled begun done).append batch
  · rw [connected, connState]
    intro isConnected
    obtain ⟨seen, begun⟩ := handshake.connected isConnected
    exact ⟨seen.append batch, begun⟩
  · rw [connState]
    exact pending
  · rw [connected]
    exact used

theorem handshake_step {events : List Event} {before after : Protocol} {action : Action}
    (handshake : HandshakeInvariant events before) (move : ProtocolStep before action after) :
    HandshakeInvariant (events ++ action.event.toList) after := by
  -- for messages that are only received
  have notStored : ∀ message opened, Seen [Event.processed message opened] IsStored →
      before.connected = true := by
    rintro message opened ⟨event, member, isStored⟩
    rw [List.mem_singleton.mp member] at isStored
    exact absurd isStored id
  cases move with
  | quiet silent =>
      rw [silent, Option.toList_none, List.append_nil]
      exact handshake
  | abandoned silent =>
      rw [silent]
      exact handshake.extend rfl .inl rfl (by simp) handshake.used fun seen => absurd seen (seen_nil _)
  | connectSent disconnected =>
      have sentNow : Seen (events ++ [Event.stored ⟨none, connectCall.message⟩])
          (StoresType .connect) := (seen_snoc _ _ _).mpr (.inr connect_call_type)
      have notConnected : before.connected ≠ true :=
        fun isConnected => (handshake.connected isConnected).2 disconnected
      constructor
      · intro absurdState
        simp at absurdState
      · exact fun _ => sentNow
      · exact fun raised => (handshake.raised raised).append _
      · exact fun _ notConnecting => absurd rfl notConnecting
      · exact fun isConnected => absurd isConnected notConnected
      · simp
      · exact handshake.used
  | connectJoined begun =>
      exact handshake.extend rfl .inl rfl (fun _ => begun) handshake.used
        fun seen => absurd seen (seen_nil _)
  | connectFinished waiting connecting raised =>
      have greeted := handshake.raised raised
      have begun := handshake.begun (by simp [connecting])
      constructor
      · intro absurdState
        simp at absurdState
      · exact fun _ => begun.append _
      · exact fun _ => greeted.append _
      · exact fun _ _ => greeted.append _
      · exact fun _ => ⟨greeted.append _, by simp⟩
      · simp
      · exact fun _ _ _ => rfl
  | connectPassed waiting settled =>
      have begun := handshake.waiting waiting
      have greeted := handshake.settled begun settled
      constructor
      · exact fun disconnected => absurd disconnected begun
      · exact fun _ => (handshake.begun begun).append _
      · exact fun _ => greeted.append _
      · exact fun _ _ => greeted.append _
      · exact fun _ => ⟨greeted.append _, begun⟩
      · simp
      · exact fun _ _ _ => rfl
  | openSent connected _ _ _ _ =>
      exact handshake.extend rfl .inl rfl (by simp) (fun _ _ _ => connected) fun _ => connected
  | openFinished _ _ _ =>
      exact handshake.extend rfl .inl rfl (by simp) handshake.used
        fun seen => absurd seen (seen_nil _)
  | closeSent _ closed _ _ =>
      have connected := handshake.used _ _ closed.1
      exact handshake.extend rfl .inl rfl (by simp) (fun _ _ _ => connected) fun _ => connected
  | closeReleased _ closed _ =>
      have connected := handshake.used _ _ closed.1
      exact handshake.extend rfl .inl rfl (by simp) (fun _ _ _ => connected) fun _ => connected
  | closeFinished _ =>
      exact handshake.extend rfl .inl rfl (by simp) handshake.used
        fun seen => absurd seen (seen_nil _)
  | dataSent _ sender _ _ =>
      have connected := handshake.used _ _ sender.1
      exact handshake.extend rfl .inl rfl handshake.waiting handshake.used fun _ => connected
  | greeted msgType =>
      refine handshake.extend rfl ?_ rfl handshake.waiting handshake.used (notStored _ _)
      exact fun _ => .inr ((seen_snoc _ _ _).mpr (.inr msgType))
  | acknowledged _ present _ =>
      have connected := handshake.used _ _ present
      exact handshake.extend rfl .inl rfl handshake.waiting (fun _ _ _ => connected)
        (notStored _ _)
  | closed _ present _ =>
      have connected := handshake.used _ _ present
      exact handshake.extend rfl .inl rfl handshake.waiting (fun _ _ _ => connected)
        (notStored _ _)
  | passed _ _ =>
      exact handshake.extend rfl .inl rfl handshake.waiting handshake.used (notStored _ _)

end RuspiroVchiq.Vchi
