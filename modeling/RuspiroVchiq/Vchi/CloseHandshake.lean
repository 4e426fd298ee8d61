import RuspiroVchiq.Vchi.Lifecycle

/-!
# The close handshake

Once both sides have sent a CLOSE for a service, it should be FREE, and a service
the VideoCore has closed should not stay OPEN. The slot handler lets a CLOSE for
a service in state OPEN pass with a warning, so this holds for the closes that
find the service in another state: the refusal of an OPEN and the answer to a
CLOSE of this side, in any order with everything else.
-/

namespace RuspiroVchiq.Vchi

open RuspiroVchiq.Config
open RuspiroVchiq.Shared
open RuspiroVchiq.Lib.ByteMemory
open RuspiroVchiq.Vchiq
open RuspiroVchiq.Lib.LabelledRun

set_option autoImplicit false

/-- A CLOSE of the VideoCore is processed only while its service is not in state
OPEN. -/
def CloseUnopened (sys : System) : Action → Prop
  | .received message _ =>
      msgTypeFromId message.header.msgid = some .close →
        ∀ service ∈ sys.inst.state.srvState.service (receiverRef message),
          service.srvstate ≠ .open
  | _ => True

instance (sys : System) (action : Action) : Decidable (CloseUnopened sys action) :=
  match action with
  | .received _ _ => inferInstanceAs (Decidable (_ → _))
  | .called _ _ | .failed _ _ | .resumed | .dropped | .dequeued _ | .completed _ | .idled =>
      inferInstanceAs (Decidable True)

/-- What both sides agree on in a reached state. -/
def CloseAgreed (actions : List Action) (sys : System) : Prop :=
  ∀ port service, sys.inst.state.srvState.service port = some service →
    (Seen (eventsOf actions) (Stores .close port) →
      Seen (eventsOf actions) (Processes .close port) → service.srvstate = .free) ∧
    (Seen (eventsOf actions) (Processes .close port) → service.srvstate ≠ .open)

/-- The guard on the level of the protocol. -/
def EndpointUnopened (protocol : Protocol) : Action → Prop
  | .received message _ =>
      msgTypeFromId message.header.msgid = some .close →
        ∀ endpoint, protocol.endpoints (receiverRef message) = some endpoint →
          endpoint.srvstate ≠ .open
  | _ => True

theorem endpoint_unopened {sys : System} {action : Action}
    (unopened : CloseUnopened sys action) : EndpointUnopened sys.protocol action := by
  cases action with
  | received message opened =>
      intro isClose endpoint present
      obtain ⟨service, stored, rfl⟩ := endpoints_of_some present
      exact unopened isClose service stored
  | _ => trivial

/-- A processed CLOSE has refused or freed the service, and a stored one is waiting
for its answer or was answered. -/
structure Agreement (events : List Event) (port : ServiceRef) (endpoint : Endpoint) :
    Prop where
  processed : Seen events (Processes .close port) →
    (endpoint.srvstate = .closeWait ∧ ¬Seen events (Stores .close port)) ∨
      endpoint.srvstate = .free
  stored : Seen events (Stores .close port) →
    endpoint.srvstate = .closeSent ∨ endpoint.srvstate = .free

def AgreementInvariant (events : List Event) (protocol : Protocol) : Prop :=
  ∀ port endpoint, protocol.endpoints port = some endpoint → Agreement events port endpoint

theorem Agreement.frame {events : List Event} {event : Option Event} {port : ServiceRef}
    {endpoint : Endpoint} (agreed : Agreement events port endpoint)
    (bland : Bland port event) : Agreement (events ++ event.toList) port endpoint := by
  have close := seen_bland events bland.close
  have closed := seen_bland events bland.closed
  constructor
  · rw [close, closed]
    exact agreed.processed
  · rw [close]
    exact agreed.stored

/-- OPENACK moves a service nobody has closed, or none. -/
theorem acknowledged_agreement {events : List Event} {message : SlotMessage}
    {endpoint : Endpoint} (agreed : Agreement events (receiverRef message) endpoint)
    (msgType : msgTypeFromId message.header.msgid = some .openAck) :
    Agreement (events ++ [.processed message (decide (endpoint.srvstate = .opening))])
      (receiverRef message) (endpoint.acknowledge (srcPortFromId message.header.msgid)) := by
  have closed : Seen (events ++ [.processed message (decide (endpoint.srvstate = .opening))])
      (Processes .close (receiverRef message)) ↔
        Seen events (Processes .close (receiverRef message)) := by
    rw [seen_snoc, or_iff_left]
    rintro ⟨isClose, _⟩
    simp [msgType] at isClose
  have close : Seen (events ++ [.processed message (decide (endpoint.srvstate = .opening))])
      (Stores .close (receiverRef message)) ↔
        Seen events (Stores .close (receiverRef message)) := by
    rw [seen_snoc]
    exact or_iff_left id
  by_cases opening : endpoint.srvstate = .opening
  · constructor
    · rw [closed]
      intro seen
      rcases agreed.processed seen with ⟨waits, _⟩ | isFree
      · simp [waits] at opening
      · simp [isFree] at opening
    · rw [close]
      intro seen
      rcases agreed.stored seen with sent | isFree
      · simp [sent] at opening
      · simp [isFree] at opening
  · rw [Endpoint.acknowledge, if_neg opening]
    constructor
    · rw [closed, close]
      exact agreed.processed
    · rw [close]
      exact agreed.stored

/-- A CLOSE that does not find its service open is a refusal, an answer, or comes
after a refusal. -/
theorem closed_agreement {events : List Event} {message : SlotMessage} {endpoint : Endpoint}
    (agreed : Agreement events (receiverRef message) endpoint)
    (states : endpoint.srvstate = .opening ∨ endpoint.srvstate = .closeSent ∨
      endpoint.srvstate = .closeWait) :
    Agreement (events ++ [.processed message false]) (receiverRef message)
      endpoint.closeReceived := by
  have close : Seen (events ++ [.processed message false])
      (Stores .close (receiverRef message)) ↔
        Seen events (Stores .close (receiverRef message)) := by
    rw [seen_snoc]
    exact or_iff_left id
  -- in the states before and behind a refusal this side has not sent a CLOSE
  have unsent : endpoint.srvstate = .opening ∨ endpoint.srvstate = .closeWait →
      ¬Seen events (Stores .close (receiverRef message)) := by
    intro refused seen
    rcases agreed.stored seen with sent | isFree
    · rcases refused with state | state <;> simp [state] at sent
    · rcases refused with state | state <;> simp [state] at isFree
  rcases states with opening | sent | waits
  · have result : endpoint.closeReceived.srvstate = .closeWait := by
      simp [Endpoint.closeReceived, opening]
    constructor
    · rw [close]
      exact fun _ => .inl ⟨result, unsent (.inl opening)⟩
    · rw [close]
      exact fun seen => absurd seen (unsent (.inl opening))
  · have result : endpoint.closeReceived.srvstate = .free := by
      simp [Endpoint.closeReceived, sent]
    exact ⟨fun _ => .inr result, fun _ => .inr result⟩
  · have result : endpoint.closeReceived.srvstate = .closeWait := by
      simp [Endpoint.closeReceived, waits]
    constructor
    · rw [close]
      exact fun _ => .inl ⟨result, unsent (.inr waits)⟩
    · rw [close]
      exact fun seen => absurd seen (unsent (.inr waits))

/-- A new or closed endpoint, by the step that made it. -/
theorem port_step_agreement {events : List Event} {port : ServiceRef} {old : Option Endpoint}
    {event : Option Event} {changed : Endpoint} (life : EntryLifecycle events port old)
    (agreed : ∀ endpoint, old = some endpoint → Agreement events port endpoint)
    (unopened : ∀ message endpoint, event = some (.processed message false) →
      msgTypeFromId message.header.msgid = some .close → old = some endpoint →
        endpoint.srvstate ≠ .open)
    (step : PortStep port old event changed) :
    Agreement (events ++ event.toList) port changed := by
  cases step with
  | @opened sent srvHandle owner msgType _ =>
      have begun : Lifecycle (events ++ [.stored sent]) port
          (freshEndpoint port srvHandle owner) := opened_lifecycle life msgType
      obtain ⟨noClose, noClosed, _⟩ := begun.live rfl
      exact ⟨fun seen => absurd seen noClosed, fun seen => absurd seen noClose⟩
  | @closeSent endpoint sent isOpen msgType sender =>
      have unanswered : ¬Seen (events ++ [.stored sent]) (Processes .close port) := by
        rw [seen_snoc, not_or]
        refine ⟨fun seen => ?_, id⟩
        rcases (agreed endpoint rfl).processed seen with ⟨waits, _⟩ | isFree
        · simp [waits] at isOpen
        · simp [isFree] at isOpen
      exact ⟨fun seen => absurd seen unanswered, fun _ => .inl rfl⟩
  | released ended => exact ⟨fun _ => .inr rfl, fun _ => .inr rfl⟩
  | @acknowledged endpoint message msgType receiver used =>
      subst receiver
      exact acknowledged_agreement (agreed endpoint rfl) msgType
  | @closed endpoint message msgType receiver used =>
      subst receiver
      have notOpen := unopened message endpoint rfl msgType rfl
      apply closed_agreement (agreed endpoint rfl)
      rcases Lifecycle.states life with state | state | state | state | state
      · exact absurd state used
      · exact .inl state
      · exact absurd state notOpen
      · exact .inr (.inl state)
      · exact .inr (.inr state)

theorem agreement_step {actions : List Action} {before after : Protocol} {action : Action}
    (inv : ProtocolInvariant actions before)
    (agreed : AgreementInvariant (eventsOf actions) before)
    (move : Guarded ProtocolStep EndpointUnopened before action after) :
    AgreementInvariant (eventsOf (actions ++ [action])) after := by
  intro port endpoint present
  rw [events_snoc]
  cases step_touches inv.registry inv.lifecycle move.1 with
  | nothing same bland =>
      rw [same] at present
      exact (agreed port endpoint present).frame (bland port)
  | @entry touched changed updated step =>
      rw [updated] at present
      by_cases here : port = touched
      · subst here
        rw [Function.update_self, Option.some.injEq] at present
        subst present
        apply port_step_agreement (inv.lifecycle port) (agreed port) _ step
        intro message endpoint event isClose stored
        -- the entry the message is for is the one the step is about
        rw [event] at step
        have receiver := step.receiver
        have allowed := move.2
        rw [event_processed event] at allowed
        exact allowed isClose endpoint (receiver ▸ stored)
      · rw [Function.update_of_ne here] at present
        exact (agreed port endpoint present).frame (step.bland_elsewhere here)

theorem agreement_run {actions : List Action} {reached : Protocol}
    (run : Run (Guarded ProtocolStep EndpointUnopened) Protocol.initial actions reached) :
    AgreementInvariant (eventsOf actions) reached := by
  apply run.invariant fun actions protocol => AgreementInvariant (eventsOf actions) protocol
  · intro port endpoint present
    simp [Protocol.initial] at present
  · intro actions before action after run agreed move
    exact agreement_step (protocol_invariant_run run.unguarded) agreed move

/-- In every run in which no CLOSE of the VideoCore meets a service in state OPEN,
both sides agree in every state. -/
theorem unopened_closes_agree {raw : SlotZero} {memory : Memory} {totalMemory : Nat}
    {fresh : State} {actions : List Action} {reached : System}
    (made : freshState raw memory totalMemory = .ok fresh)
    (run : Run (Guarded SystemStep CloseUnopened) (System.new (freshInstance fresh)) actions
      reached) :
    CloseAgreed actions reached := by
  have guarded : Run (Guarded SystemStep fun sys => EndpointUnopened sys.protocol)
      (System.new (freshInstance fresh)) actions reached :=
    run.mono fun _ _ _ move => ⟨move.1, endpoint_unopened move.2⟩
  obtain ⟨_, abstractRun⟩ := run_simulated EndpointUnopened (fresh_state_facts made) guarded
  intro port service stored
  have agreed := agreement_run abstractRun port service.endpoint (endpoints_some stored)
  constructor
  · intro sent processed
    rcases agreed.processed processed with ⟨_, unsent⟩ | isFree
    · exact absurd sent unsent
    · exact isFree
  · intro processed isOpen
    have state : service.endpoint.srvstate = .open := isOpen
    rcases agreed.processed processed with ⟨waits, _⟩ | isFree
    · simp [waits] at state
    · simp [isFree] at state

/-- A service this side closes, with the answer of the VideoCore. -/
def answeredCloseMoves : List Move :=
  openingMoves ++ [.resume, .call (.serviceClose 0), .receive (remoteMessage .close 75 0)]

set_option maxRecDepth 20000 in
theorem answered_close_performed :
    ∃ fresh actions reached service,
      freshState blankSlotZero (fun _ => 0) (65 * vchiqSlotSize) = .ok fresh ∧
      (System.new (freshInstance fresh)).performAll CloseUnopened answeredCloseMoves =
        some (actions, reached) ∧
      reached.inst.state.srvState.service 0 = some service ∧ service.srvstate = .free :=
  ⟨_, _, _, _, rfl, rfl, rfl, rfl⟩

/-- The answer to a CLOSE of this side frees the service. -/
theorem answered_close_agrees :
    ∃ actions reached service, reached.inst.state.srvState.service 0 = some service ∧
      service.srvstate = .free ∧ CloseAgreed actions reached := by
  obtain ⟨fresh, actions, reached, service, made, performed, stored, isFree⟩ :=
    answered_close_performed
  exact ⟨actions, reached, service, stored, isFree,
    unopened_closes_agree made (perform_all_run .refl performed)⟩

/-- A service the VideoCore closes first. -/
def remoteCloseMoves : List Move :=
  openingMoves ++ [.resume, .receive (remoteMessage .close 75 0)]

set_option maxRecDepth 20000 in
theorem remote_close_performed :
    ∃ fresh actions reached service later final closing,
      freshState blankSlotZero (fun _ => 0) (65 * vchiqSlotSize) = .ok fresh ∧
      (System.new (freshInstance fresh)).performAll Anything remoteCloseMoves =
        some (actions, reached) ∧
      actions.getLast? = some (.received (remoteMessage .close 75 0) false) ∧
      reached.inst.state.srvState.service 0 = some service ∧ service.srvstate = .open ∧
      reached.performAll Anything [.call (.serviceClose 0)] = some (later, final) ∧
      later.getLast? = some (.called (.serviceClose 0)
        (some ⟨some 0, remoteMessage .close 0 75⟩)) ∧
      final.inst.state.srvState.service 0 = some closing ∧ closing.srvstate = .closeSent ∧
      wireTypes (actions ++ later) = [(true, some .connect), (false, some .connect),
        (true, some .open), (false, some .openAck), (false, some .close),
        (true, some .close)] :=
  ⟨_, _, _, _, _, _, _, rfl, rfl, rfl, rfl, rfl, rfl, rfl, rfl, rfl, rfl⟩

/-- The only CLOSE of the VideoCore leaves the service OPEN, and when this side then
closes it too, it ends in CLOSESENT. -/
theorem remote_close_disagrees :
    ∃ fresh actions reached later final,
      freshState blankSlotZero (fun _ => 0) (65 * vchiqSlotSize) = .ok fresh ∧
      Run SystemStep (System.new (freshInstance fresh)) actions reached ∧
      Run SystemStep (System.new (freshInstance fresh)) (actions ++ later) final ∧
      wireTypes (actions ++ later) = [(true, some .connect), (false, some .connect),
        (true, some .open), (false, some .openAck), (false, some .close),
        (true, some .close)] ∧
      ¬CloseAgreed actions reached ∧ ¬CloseAgreed (actions ++ later) final := by
  obtain ⟨fresh, actions, reached, service, later, final, closing, made, performed, received,
    stored, isOpen, performedLater, sent, storedLater, isSent, types⟩ := remote_close_performed
  have run := perform_all_run .refl performed
  have processed : Seen (eventsOf actions) (Processes .close 0) := by
    refine ⟨.processed (remoteMessage .close 75 0) false, ?_, by decide, by decide⟩
    exact List.mem_filterMap.mpr ⟨_, List.mem_of_getLast? received, rfl⟩
  have closed : Seen (eventsOf later) (Stores .close 0) := by
    refine ⟨.stored ⟨some 0, remoteMessage .close 0 75⟩, ?_, by decide, by decide⟩
    exact List.mem_filterMap.mpr ⟨_, List.mem_of_getLast? sent, rfl⟩
  refine ⟨fresh, actions, reached, later, final, made, run.unguarded,
    (perform_all_run run performedLater).unguarded, types, ?_, ?_⟩
  · intro agreed
    exact (agreed 0 service stored).2 processed isOpen
  · intro agreed
    have events : eventsOf (actions ++ later) = eventsOf actions ++ eventsOf later :=
      List.filterMap_append
    have isFree := (agreed 0 closing storedLater).1
      (by
        obtain ⟨event, member, holds⟩ := closed
        exact ⟨event, by rw [events]; exact List.mem_append_right _ member, holds⟩)
      (by
        rw [events]
        exact processed.append _)
    simp [isSent] at isFree

end RuspiroVchiq.Vchi
