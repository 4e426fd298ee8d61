import RuspiroVchiq.Vchi.Instance
import RuspiroVchiq.Vchiq.CallEffects

/-!
# The connection protocol

What the whole of the tasks amounts to, without slots, quotas and rings: the
handshake state, one endpoint for every service, the map of the vchi instance
and the call that waits. `ProtocolStep` lists what may happen to them and which
message goes over the wire with it. Every step of the system is such a step.
-/

namespace RuspiroVchiq.Vchi

open RuspiroVchiq.Config
open RuspiroVchiq.Shared
open RuspiroVchiq.Vchiq
open RuspiroVchiq.Lib.LabelledRun

set_option autoImplicit false

/-- What happens on the wire. -/
inductive Event where
  | stored (sent : Outgoing)
  | processed (message : SlotMessage) (opened : Bool)

def Action.event : Action → Option Event
  | .called _ (some sent) => some (.stored sent)
  | .received message opened => some (.processed message opened)
  | _ => none

/-- The events of a run, oldest first. -/
def eventsOf (actions : List Action) : List Event := actions.filterMap Action.event

theorem events_snoc (actions : List Action) (action : Action) :
    eventsOf (actions ++ [action]) = eventsOf actions ++ action.event.toList := by
  cases event : action.event <;> simp [eventsOf, event]

/-- Only the slot handler processes messages. -/
theorem event_processed {action : Action} {message : SlotMessage} {opened : Bool}
    (event : action.event = some (.processed message opened)) :
    action = .received message opened := by
  cases action with
  | called call sent => cases sent <;> simp [Action.event] at event
  | received received flag =>
      simp only [Action.event, Option.some.injEq, Event.processed.injEq] at event
      rw [event.1, event.2]
  | _ => simp [Action.event] at event

/-- The message types on the wire; `true` marks those this side stored. -/
def wireTypes (actions : List Action) : List (Bool × Option MessageType) :=
  (eventsOf actions).map fun event =>
    match event with
    | .stored sent => (true, msgTypeFromId sent.message.header.msgid)
    | .processed message _ => (false, msgTypeFromId message.header.msgid)

structure Protocol where
  connState : ConnectState
  connect : Nat
  connected : Bool
  endpoints : ServiceRef → Option Endpoint
  services : ServiceHandle → Option ServiceHandle
  pending : PendingCall

def System.protocol (sys : System) : Protocol where
  connState := sys.inst.state.connState
  connect := sys.inst.state.connect
  connected := sys.inst.connected
  endpoints := sys.inst.state.endpoints
  services := sys.services
  pending := sys.pending

/-- The endpoint sits in the table under this index and has this handle. -/
def Protocol.Has (protocol : Protocol) (port : ServiceRef) (endpoint : Endpoint)
    (srvHandle : ServiceHandle) : Prop :=
  protocol.endpoints port = some endpoint ∧ endpoint.handle = srvHandle

def Protocol.set (protocol : Protocol) (port : ServiceRef) (endpoint : Endpoint) : Protocol :=
  { protocol with endpoints := Function.update protocol.endpoints port (some endpoint) }

inductive ProtocolStep : Protocol → Action → Protocol → Prop where
  | quiet {protocol : Protocol} {action : Action} (silent : action.event = none) :
      ProtocolStep protocol action protocol
  | abandoned {protocol : Protocol} {action : Action} (silent : action.event = none) :
      ProtocolStep protocol action { protocol with pending := .idle }
  | connectSent {protocol : Protocol} (disconnected : protocol.connState = .disconnected) :
      ProtocolStep protocol (.called .connect (some ⟨none, connectCall.message⟩))
        { protocol with connState := .connecting, pending := .connect }
  | connectJoined {protocol : Protocol} (begun : protocol.connState ≠ .disconnected) :
      ProtocolStep protocol (.called .connect none) { protocol with pending := .connect }
  | connectFinished {protocol : Protocol} (waiting : protocol.pending = .connect)
      (connecting : protocol.connState = .connecting) (raised : 0 < protocol.connect) :
      ProtocolStep protocol .resumed
        { protocol with
          connState := .connected
          connect := protocol.connect - 1
          connected := true
          pending := .idle }
  | connectPassed {protocol : Protocol} (waiting : protocol.pending = .connect)
      (settled : protocol.connState ≠ .connecting) :
      ProtocolStep protocol .resumed { protocol with connected := true, pending := .idle }
  | openSent {protocol : Protocol} {setup : ServiceSetup} {handle srvHandle : ServiceHandle}
      {port : ServiceRef} {message : SlotMessage} (connected : protocol.connected = true)
      (vacant : protocol.endpoints port = none) (small : port < vchiqMaxServices)
      (unknown : ∀ other endpoint, protocol.endpoints other = some endpoint →
        endpoint.handle ≠ srvHandle)
      (msgid : message.header.msgid = makeMsgId .open (UInt32.ofNat port) 0) :
      ProtocolStep protocol (.called (.serviceOpen setup) (some ⟨some port, message⟩))
        { protocol.set port (freshEndpoint port srvHandle (some handle)) with
          pending := .serviceOpen handle srvHandle }
  | openFinished {protocol : Protocol} {handle srvHandle : ServiceHandle} {port : ServiceRef}
      {endpoint : Endpoint} (waiting : protocol.pending = .serviceOpen handle srvHandle)
      (answered : protocol.Has port endpoint srvHandle)
      (accepted : openResult srvHandle endpoint.srvstate = .ok ()) :
      ProtocolStep protocol .resumed
        { protocol with
          services := Function.update protocol.services handle (some srvHandle)
          pending := .idle }
  | closeSent {protocol : Protocol} {handle srvHandle : ServiceHandle} {port : ServiceRef}
      {endpoint : Endpoint} {message : SlotMessage}
      (known : protocol.services handle = some srvHandle)
      (closed : protocol.Has port endpoint srvHandle)
      (begun : endpoint.srvstate = .opening ∨ endpoint.srvstate = .openSync ∨
        endpoint.srvstate = .open)
      (msgid : message.header.msgid =
        makeMsgId .close endpoint.localport (endpoint.remoteport &&& 0x0fff)) :
      ProtocolStep protocol (.called (.serviceClose handle) (some ⟨some port, message⟩))
        { protocol.set port endpoint.sendClose with pending := .serviceClose handle srvHandle }
  | closeReleased {protocol : Protocol} {handle srvHandle : ServiceHandle} {port : ServiceRef}
      {endpoint : Endpoint} (known : protocol.services handle = some srvHandle)
      (closed : protocol.Has port endpoint srvHandle)
      (ended : endpoint.srvstate = .closed ∨ endpoint.srvstate = .closeWait) :
      ProtocolStep protocol (.called (.serviceClose handle) none)
        { protocol.set port endpoint.release with pending := .serviceClose handle srvHandle }
  | closeFinished {protocol : Protocol} {handle srvHandle : ServiceHandle}
      (waiting : protocol.pending = .serviceClose handle srvHandle) :
      ProtocolStep protocol .resumed
        { protocol with
          services := Function.update protocol.services handle none
          pending := .idle }
  | dataSent {protocol : Protocol} {handle srvHandle : ServiceHandle} {data : Payload}
      {port : ServiceRef} {endpoint : Endpoint} {message : SlotMessage}
      (known : protocol.services handle = some srvHandle)
      (sender : protocol.Has port endpoint srvHandle) (live : endpoint.closing = false)
      (msgid : message.header.msgid =
        makeMsgId .data endpoint.localport endpoint.remoteport) :
      ProtocolStep protocol (.called (.queueMessage handle data) (some ⟨some port, message⟩))
        protocol
  | greeted {protocol : Protocol} {message : SlotMessage}
      (msgType : msgTypeFromId message.header.msgid = some .connect) :
      ProtocolStep protocol (.received message false)
        { protocol with connect := protocol.connect + 1 }
  | acknowledged {protocol : Protocol} {message : SlotMessage} {endpoint : Endpoint}
      (msgType : msgTypeFromId message.header.msgid = some .openAck)
      (present : protocol.endpoints (receiverRef message) = some endpoint)
      (used : endpoint.srvstate ≠ .free) :
      ProtocolStep protocol (.received message (decide (endpoint.srvstate = .opening)))
        (protocol.set (receiverRef message)
          (endpoint.acknowledge (srcPortFromId message.header.msgid)))
  | closed {protocol : Protocol} {message : SlotMessage} {endpoint : Endpoint}
      (msgType : msgTypeFromId message.header.msgid = some .close)
      (present : protocol.endpoints (receiverRef message) = some endpoint)
      (used : endpoint.srvstate ≠ .free) :
      ProtocolStep protocol (.received message false)
        (protocol.set (receiverRef message) endpoint.closeReceived)
  | passed {protocol : Protocol} {message : SlotMessage} {kind : MessageType}
      (msgType : msgTypeFromId message.header.msgid = some kind)
      (other : kind ≠ .connect ∧ kind ≠ .openAck ∧ kind ≠ .close) :
      ProtocolStep protocol (.received message false) protocol

/-- What the simulation relies on. -/
def System.Ready (sys : System) : Prop := Registered sys.inst sys.nextSrvHandle

/-- The protocol state after a poll of the VCHIQ instance. -/
theorem protocol_of_effect {sys : System} {inst : Instance} {pending : PendingCall}
    {services : ServiceHandle → Option ServiceHandle}
    {endpoints : ServiceRef → Option Endpoint} (effect : Effect sys.inst inst endpoints)
    (connState : inst.state.connState = sys.inst.state.connState)
    (connect : inst.state.connect = sys.inst.state.connect) :
    { sys with inst := inst, services := services, pending := pending }.protocol =
      { sys.protocol with
        endpoints := endpoints
        services := services
        pending := pending } := by
  simp only [System.protocol, effect.endpoints, effect.connected, connState, connect]

/-- What a simulated step is: the table stays in order and the protocol makes the
step too. -/
def Simulated (sys : System) (action : Action) (next : System) : Prop :=
  next.Ready ∧ ProtocolStep sys.protocol action next.protocol

/-- A poll that changes no endpoint and does not concern the handshake. -/
theorem quiet_simulated {sys : System} {inst : Instance} {action : Action}
    (ready : sys.Ready) (effect : Effect sys.inst inst sys.inst.state.endpoints)
    (connState : inst.state.connState = sys.inst.state.connState)
    (connect : inst.state.connect = sys.inst.state.connect) (silent : action.event = none) :
    Simulated sys action { sys with inst := inst } := by
  refine ⟨Registered.effect ready effect (Evolves.refl _), ?_⟩
  have same : System.protocol { sys with inst := inst } = sys.protocol :=
    protocol_of_effect effect connState connect
  rw [same]
  exact .quiet silent

theorem connect_simulated {sys next : System} {sent : Option Outgoing} (ready : sys.Ready)
    (polled : sys.call .connect = (.ok sent, next)) :
    Simulated sys (.called .connect sent) next := by
  simp only [System.call] at polled
  split_ifs at polled
  · simp only [Prod.mk.injEq, Except.ok.injEq] at polled
    obtain ⟨rfl, rfl⟩ := polled
    exact ⟨ready, .quiet rfl⟩
  · obtain ⟨inst, begun, rfl⟩ := absorb_ok polled
    obtain ⟨effect, connect, sentNow | joined⟩ := begin_connect_ok begun
    · obtain ⟨disconnected, rfl, connState⟩ := sentNow
      refine ⟨Registered.effect ready effect (Evolves.refl _), ?_⟩
      have after : { sys with inst := inst, pending := .connect }.protocol =
          { sys.protocol with connState := .connecting, pending := .connect } := by
        simp only [System.protocol, effect.endpoints, effect.connected, connState, connect]
      rw [after]
      exact .connectSent disconnected
    · obtain ⟨handshake, rfl, connState⟩ := joined
      refine ⟨Registered.effect ready effect (Evolves.refl _), ?_⟩
      rw [protocol_of_effect effect connState connect]
      exact .connectJoined handshake

theorem service_open_simulated {sys next : System} {setup : ServiceSetup}
    {sent : Option Outgoing} (ready : sys.Ready)
    (polled : sys.call (.serviceOpen setup) = (.ok sent, next)) :
    Simulated sys (.called (.serviceOpen setup) sent) next := by
  simp only [System.call] at polled
  split_ifs at polled with initialized connected
  · obtain ⟨inst, created, rfl⟩ := absorb_ok polled
    obtain ⟨registered, port, message, rfl, opening⟩ := create_service_ok ready created
    refine ⟨registered, ?_⟩
    have after : System.protocol
        { sys with
          nextHandle := sys.nextHandle + 1
          nextSrvHandle := sys.nextSrvHandle + 1
          inst := inst
          pending := .serviceOpen sys.nextHandle sys.nextSrvHandle } =
        { sys.protocol.set port (freshEndpoint port sys.nextSrvHandle (some sys.nextHandle)) with
          pending := .serviceOpen sys.nextHandle sys.nextSrvHandle } := by
      simp only [System.protocol, Protocol.set, opening.endpoints, opening.connState,
        opening.connect, opening.kept, opening.connected]
    rw [after]
    apply ProtocolStep.openSent opening.connected opening.vacant opening.small _ opening.msgid
    intro other endpoint present
    exact Nat.ne_of_lt (Registered.handles ready other endpoint present)
  · obtain ⟨inst, created, rfl⟩ := absorb_ok polled
    obtain ⟨_, _, _, _, opening⟩ := create_service_ok ready created
    exact absurd opening.connected connected
  · simp at polled

theorem successor_of_identity {old new : Endpoint} (identity : new.identity = old.identity)
    (remoteport : new.remoteport = old.remoteport) : Successor old new :=
  ⟨identity, .inl remoteport⟩

theorem service_close_simulated {sys next : System} {handle : ServiceHandle}
    {sent : Option Outgoing} (ready : sys.Ready)
    (polled : sys.call (.serviceClose handle) = (.ok sent, next)) :
    Simulated sys (.called (.serviceClose handle) sent) next := by
  simp only [System.call] at polled
  cases known : sys.services handle with
  | none => simp [known] at polled
  | some srvHandle =>
      simp only [known] at polled
      obtain ⟨inst, begun, rfl⟩ := absorb_ok polled
      obtain ⟨port, endpoint, present, same, closing, connState, connect⟩ :=
        begin_close_ok ready begun
      cases closing with
      | released ended effect =>
          refine ⟨Registered.effect ready effect
            (evolves_update present (successor_of_identity rfl rfl)), ?_⟩
          rw [protocol_of_effect effect connState connect]
          exact .closeReleased known ⟨present, same⟩ ended
      | sent begun msgid effect =>
          refine ⟨Registered.effect ready effect
            (evolves_update present (successor_of_identity rfl rfl)), ?_⟩
          rw [protocol_of_effect effect connState connect]
          exact .closeSent known ⟨present, same⟩ begun msgid

theorem queue_message_simulated {sys next : System} {handle : ServiceHandle} {data : Payload}
    {sent : Option Outgoing} (ready : sys.Ready)
    (polled : sys.call (.queueMessage handle data) = (.ok sent, next)) :
    Simulated sys (.called (.queueMessage handle data) sent) next := by
  simp only [System.call] at polled
  cases known : sys.services handle with
  | none => simp [known] at polled
  | some srvHandle =>
      simp only [known] at polled
      obtain ⟨inst, queued, rfl⟩ := absorb_ok polled
      obtain ⟨port, endpoint, message, present, same, live, rfl, msgid, effect, connState,
        connect⟩ := queue_data_ok ready queued
      refine ⟨Registered.effect ready effect (Evolves.refl _), ?_⟩
      rw [protocol_of_effect effect connState connect]
      exact .dataSent known ⟨present, same⟩ live msgid

theorem call_failed_simulated {sys next : System} {call : Call} {error : BoxError}
    (ready : sys.Ready) (polled : sys.call call = (.error (.error error), next)) :
    Simulated sys (.failed call error) next := by
  cases call with
  | initializeInstance => simp [System.call] at polled
  | connect =>
      simp only [System.call] at polled
      split_ifs at polled
      · simp at polled
      · obtain ⟨failure, inst, failed, rfl⟩ := absorb_failed polled
        rw [begin_connect_failed failed]
        exact ⟨ready, .quiet rfl⟩
  | serviceOpen setup =>
      simp only [System.call] at polled
      split_ifs at polled
      · obtain ⟨failure, inst, failed, rfl⟩ := absorb_failed polled
        rw [create_service_failed ready failed]
        refine ⟨?_, .quiet rfl⟩
        refine ⟨ready.quotas, ready.length, ready.tail, ready.ports, ready.remotes, ?_,
          ready.ordered⟩
        intro reference endpoint present
        exact Nat.lt_succ_of_lt (ready.handles reference endpoint present)
      · obtain ⟨failure, inst, failed, rfl⟩ := absorb_failed polled
        rw [create_service_failed ready failed]
        exact ⟨ready, .quiet rfl⟩
      · simp only [Prod.mk.injEq] at polled
        rw [← polled.2]
        exact ⟨ready, .quiet rfl⟩
  | serviceClose handle =>
      simp only [System.call] at polled
      cases known : sys.services handle with
      | none =>
          simp only [known, Prod.mk.injEq] at polled
          rw [← polled.2]
          exact ⟨ready, .quiet rfl⟩
      | some srvHandle =>
          simp only [known] at polled
          obtain ⟨failure, inst, failed, rfl⟩ := absorb_failed polled
          rw [begin_close_failed ready failed]
          exact ⟨ready, .quiet rfl⟩
  | queueMessage handle data =>
      simp only [System.call] at polled
      cases known : sys.services handle with
      | none =>
          simp only [known, Prod.mk.injEq] at polled
          rw [← polled.2]
          exact ⟨ready, .quiet rfl⟩
      | some srvHandle =>
          simp only [known] at polled
          obtain ⟨failure, inst, failed, rfl⟩ := absorb_failed polled
          obtain ⟨effect, connState, connect⟩ := queue_data_failed failed
          exact quiet_simulated ready effect connState connect rfl

/-- A poll that ends the wait of `pending` for a service. -/
theorem await_simulated {sys : System} {inst : Instance} {srvHandle : ServiceHandle}
    {judge : ServiceHandle → ServiceState → Except VchiqError Unit}
    {result : Except VchiqError Unit} (ready : sys.Ready)
    (polled : sys.inst.awaitService srvHandle judge = some (result, inst)) :
    Registered inst sys.nextSrvHandle ∧
      (∀ services, System.protocol
          { sys with inst := inst, services := services, pending := .idle } =
        { sys.protocol with services := services, pending := .idle }) ∧
      ∃ port endpoint, sys.protocol.Has port endpoint srvHandle ∧
        result = judge srvHandle endpoint.srvstate := by
  obtain ⟨effect, connState, connect, port, endpoint, present, same, judged⟩ :=
    await_service_some polled
  exact ⟨Registered.effect ready effect (Evolves.refl _),
    fun _ => protocol_of_effect effect connState connect, port, endpoint, ⟨present, same⟩,
    judged⟩

theorem resume_simulated {sys next : System} (ready : sys.Ready)
    (polled : sys.resume = some next) : Simulated sys .resumed next := by
  cases resume_cases polled with
  | @connected inst waiting finished =>
      have registered : Registered { sys.inst with connected := true } sys.nextSrvHandle :=
        ⟨ready.quotas, ready.length, ready.tail, ready.ports, ready.remotes, ready.handles,
          ready.ordered⟩
      obtain ⟨effect, taken | passed⟩ := finish_connect_some finished
      · obtain ⟨connecting, raised, connState, connect⟩ := taken
        refine ⟨Registered.effect registered effect (Evolves.refl _), ?_⟩
        have after : System.protocol
            { sys with inst := inst, connected := true, pending := .idle } =
            { sys.protocol with
              connState := .connected
              connect := sys.protocol.connect - 1
              connected := true
              pending := .idle } := by
          simp only [System.protocol, effect.endpoints, effect.connected, connState, connect]
        rw [after]
        exact .connectFinished waiting connecting raised
      · obtain ⟨settled, connState, connect⟩ := passed
        refine ⟨Registered.effect registered effect (Evolves.refl _), ?_⟩
        have after : System.protocol
            { sys with inst := inst, connected := true, pending := .idle } =
            { sys.protocol with connected := true, pending := .idle } := by
          simp only [System.protocol, effect.endpoints, effect.connected, connState, connect]
        rw [after]
        exact .connectPassed waiting settled
  | refused busy awaited =>
      obtain ⟨registered, after, _⟩ := await_simulated ready awaited
      refine ⟨registered, ?_⟩
      rw [after]
      exact .abandoned rfl
  | opened waiting awaited =>
      obtain ⟨registered, after, port, endpoint, found, accepted⟩ :=
        await_simulated ready awaited
      refine ⟨registered, ?_⟩
      rw [after]
      exact .openFinished waiting found accepted.symm
  | closed waiting awaited =>
      obtain ⟨registered, after, _⟩ := await_simulated ready awaited
      refine ⟨registered, ?_⟩
      rw [after]
      exact .closeFinished waiting

/-- Whether a message opens a service, read off its endpoint. -/
theorem opens_service_eq {state : State} {message : SlotMessage} {endpoint : Endpoint}
    (msgType : msgTypeFromId message.header.msgid = some .openAck)
    (present : state.endpoints (receiverRef message) = some endpoint) :
    opensService state message = decide (endpoint.srvstate = .opening) := by
  obtain ⟨service, stored, rfl⟩ := endpoints_of_some present
  simp only [opensService, msgType, stored, Option.any_some, decide_true, Bool.true_and]
  rfl

theorem opens_service_other {state : State} {message : SlotMessage}
    (other : msgTypeFromId message.header.msgid ≠ some .openAck) :
    opensService state message = false := by
  simp only [opensService, decide_eq_false other, Bool.false_and]

theorem received_simulated {sys : System} {inst : Instance} {message : SlotMessage}
    (ready : sys.Ready) (handled : dispatch sys.inst message = .ok inst) :
    Simulated sys (.received message (opensService sys.inst.state message))
      { sys with inst := inst } := by
  cases dispatched_received ready.consistent (dispatch_cases handled) with
  | connect msgType effect connState connect =>
      refine ⟨Registered.effect ready effect (Evolves.refl _), ?_⟩
      have after : System.protocol { sys with inst := inst } =
          { sys.protocol with connect := sys.protocol.connect + 1 } := by
        simp only [System.protocol, effect.endpoints, effect.connected, connState, connect]
      rw [after, opens_service_other (by simp [msgType])]
      exact .greeted msgType
  | @acknowledged endpoint msgType present used effect connState connect =>
      have successor : Successor endpoint
          (endpoint.acknowledge (srcPortFromId message.header.msgid)) := by
        unfold Endpoint.acknowledge
        split_ifs
        · exact ⟨rfl, .inr (Nat.le_of_lt (src_port_lt _))⟩
        · exact successor_of_identity rfl rfl
      refine ⟨Registered.effect ready effect (evolves_update present successor), ?_⟩
      have after : System.protocol { sys with inst := inst } =
          sys.protocol.set (receiverRef message)
            (endpoint.acknowledge (srcPortFromId message.header.msgid)) :=
        protocol_of_effect effect connState connect
      rw [after, opens_service_eq msgType present]
      exact .acknowledged msgType present used
  | @closed endpoint msgType present used effect connState connect =>
      have successor : Successor endpoint endpoint.closeReceived := by
        unfold Endpoint.closeReceived
        split
        · exact successor_of_identity rfl rfl
        · exact ⟨rfl, .inr (Nat.le_refl _)⟩
        · exact successor_of_identity rfl rfl
      refine ⟨Registered.effect ready effect (evolves_update present successor), ?_⟩
      have after : System.protocol { sys with inst := inst } =
          sys.protocol.set (receiverRef message) endpoint.closeReceived :=
        protocol_of_effect effect connState connect
      rw [after, opens_service_other (by simp [msgType])]
      exact .closed msgType present used
  | passed msgType other effect connState connect =>
      refine ⟨Registered.effect ready effect (Evolves.refl _), ?_⟩
      have after : System.protocol { sys with inst := inst } = sys.protocol :=
        protocol_of_effect effect connState connect
      have notAck : msgTypeFromId message.header.msgid ≠ some .openAck := by
        rw [msgType]
        simpa using other.2.1
      rw [after, opens_service_other notAck]
      exact .passed msgType other

/-- Taking completions or finding none keeps the counters in order. -/
theorem await_completion_effect {sys : System} {completion : Completion}
    (awaited : (∃ records, sys.awaitCompletion = .ready records completion) ∨
      sys.awaitCompletion = .pending completion) :
    Effect sys.inst { sys.inst with completion := completion } sys.inst.state.endpoints := by
  refine ⟨rfl, rfl, rfl, rfl, fun ordered => ?_, rfl⟩
  simp only [System.awaitCompletion, Vchiq.awaitCompletion] at awaited
  split_ifs at awaited with connected empty
  · rcases awaited with ⟨records, taken⟩ | waiting
    · simp at taken
    · simp only [AwaitOutcome.pending.injEq] at waiting
      rw [← waiting]
      exact ordered
  · cases removal : takeCompletions 8 sys.inst.completion with
    | error panic => simp [removal] at awaited
    | ok result =>
        simp only [removal, AwaitOutcome.ready.injEq, reduceCtorEq, or_false] at awaited
        obtain ⟨records, _, same⟩ := awaited
        rw [← same]
        exact (Delivery.take_completions_subset removal).1 ordered
  · simp at awaited

/-- Every step of the system is a step of the protocol. -/
theorem step_simulated {sys next : System} {action : Action} (ready : sys.Ready)
    (move : SystemStep sys action next) : Simulated sys action next := by
  cases move with
  | @called _ call sent exclusive polled =>
      cases call with
      | initializeInstance =>
          simp only [System.call, Prod.mk.injEq, Except.ok.injEq] at polled
          obtain ⟨rfl, rfl⟩ := polled
          exact ⟨ready, .quiet rfl⟩
      | connect => exact connect_simulated ready polled
      | serviceOpen setup => exact service_open_simulated ready polled
      | serviceClose handle => exact service_close_simulated ready polled
      | queueMessage handle data => exact queue_message_simulated ready polled
  | failed exclusive polled => exact call_failed_simulated ready polled
  | resumed polled => exact resume_simulated ready polled
  | dropped => exact ⟨ready, .abandoned rfl⟩
  | received handled => exact received_simulated ready handled
  | dequeued polled =>
      obtain ⟨effect, connState, connect⟩ := poll_dequeue_ok polled
      exact quiet_simulated ready effect connState connect rfl
  | completed spawned taken known =>
      exact quiet_simulated ready (await_completion_effect (.inl ⟨_, taken⟩)) rfl rfl rfl
  | idled spawned waiting =>
      exact quiet_simulated ready (await_completion_effect (.inr waiting)) rfl rfl rfl

/-- The protocol before anything has happened. -/
def Protocol.initial : Protocol where
  connState := .disconnected
  connect := 0
  connected := false
  endpoints := fun _ => none
  services := fun _ => none
  pending := .idle

theorem fresh_protocol {state : State} (facts : FreshState state) :
    (System.new (freshInstance state)).protocol = Protocol.initial := by
  have endpoints := fresh_endpoints facts
  simp only [System.protocol, System.new, freshInstance, Protocol.initial, facts.connState,
    facts.connect, endpoints]

theorem fresh_ready {state : State} (facts : FreshState state) :
    (System.new (freshInstance state)).Ready :=
  fresh_registered facts _

/-- Runs of the system, as runs of the protocol. A guard on the protocol may restrict
both. -/
theorem run_simulated (guard : Protocol → Action → Prop) {state : State}
    {actions : List Action} {reached : System} (facts : FreshState state)
    (run : Run (Guarded SystemStep fun sys => guard sys.protocol)
      (System.new (freshInstance state)) actions reached) :
    reached.Ready ∧ Run (Guarded ProtocolStep guard) Protocol.initial actions
      reached.protocol := by
  let related := fun (sys : System) (protocol : Protocol) =>
    sys.Ready ∧ protocol = sys.protocol
  have initial : related (System.new (freshInstance state)) Protocol.initial :=
    ⟨fresh_ready facts, (fresh_protocol facts).symm⟩
  have simulated : ∀ before action after protocol, related before protocol →
      Guarded SystemStep (fun sys => guard sys.protocol) before action after →
        ∃ next, Guarded ProtocolStep guard protocol action next ∧ related after next := by
    rintro before action after protocol ⟨ready, rfl⟩ ⟨move, allowed⟩
    obtain ⟨kept, step⟩ := step_simulated ready move
    exact ⟨after.protocol, ⟨step, allowed⟩, kept, rfl⟩
  obtain ⟨protocol, abstractRun, ready, rfl⟩ := run.simulate related initial simulated
  exact ⟨ready, abstractRun⟩

end RuspiroVchiq.Vchi
