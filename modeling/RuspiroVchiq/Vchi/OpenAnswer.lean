import RuspiroVchiq.Vchi.Lifecycle

/-!
# What the end of an open call tells

`open_service` reads the state of its service once its semaphore was raised, which
both an OPENACK and a CLOSE of the VideoCore do. `OpenMeansAcknowledged` is what a
client may expect of the result. It holds exactly for the calls whose OPEN was not
answered with CLOSE: a refused service is in state CLOSEWAIT, and that state counts
as opened.
-/

namespace RuspiroVchiq.Vchi

open RuspiroVchiq.Config
open RuspiroVchiq.Shared
open RuspiroVchiq.Vchiq
open RuspiroVchiq.Lib.LabelledRun
open RuspiroVchiq.Lib.ByteMemory

set_option autoImplicit false

/-- What `service_open` returns in the poll that ends it. -/
def System.openReturns (sys : System) : Option (Except VchiqError ServiceHandle) :=
  match sys.pending with
  | .serviceOpen handle srvHandle =>
      (sys.inst.awaitService srvHandle openResult).map fun polled =>
        match polled.1 with
        | .error error => .error error
        | .ok _ => .ok handle
  | _ => none

/-- No CLOSE for the port was processed before an OPENACK had connected it. -/
def Unrefused (events : List Event) (port : ServiceRef) : Prop :=
  EveryEvent (fun earlier event => Processes .close port event →
    ∃ remote, Seen earlier (Opens port remote)) events

/-- The result of the open call for the service at the port. -/
structure OpenMeansAcknowledged (events : List Event) (sys : System) (port : ServiceRef)
    (service : Service) (handle : ServiceHandle) (result : Except VchiqError ServiceHandle) :
    Prop where
  acknowledged : result = .ok handle → Seen events (Opens port service.remoteport)
  refused : ¬Unrefused events port →
    (∃ error, result = .error error) ∧
      ∀ next, sys.resume = some next → next.services = sys.services

theorem unrefused_of_unseen {events : List Event} {port : ServiceRef}
    (unseen : ¬Seen events (Processes .close port)) : Unrefused events port := by
  intro earlier event later split closes
  exact absurd ⟨event, by simp [split], closes⟩ unseen

/-- An event that is no CLOSE for the port. -/
theorem unrefused_bland (events : List Event) {event : Option Event} {port : ServiceRef}
    (bland : ∀ happened, event = some happened → ¬Processes .close port happened) :
    Unrefused (events ++ event.toList) port ↔ Unrefused events port := by
  cases event with
  | none => rw [Option.toList_none, List.append_nil]
  | some happened =>
      rw [Option.toList_some, Unrefused, every_event_snoc, Unrefused]
      apply and_iff_left
      exact fun closes => absurd closes (bland happened rfl)

/-- What the state of an endpoint tells about the answer to its OPEN. -/
structure Answer (events : List Event) (port : ServiceRef) (endpoint : Endpoint) : Prop where
  unanswered : endpoint.srvstate = .opening → Unrefused events port
  answered : endpoint.srvstate = .open → Unrefused events port
  refused : endpoint.srvstate = .closeWait → ¬Unrefused events port

def AnswerInvariant (events : List Event) (protocol : Protocol) : Prop :=
  ∀ port endpoint, protocol.endpoints port = some endpoint → Answer events port endpoint

theorem Answer.frame {events : List Event} {event : Option Event} {port : ServiceRef}
    {endpoint : Endpoint} (answer : Answer events port endpoint) (bland : Bland port event) :
    Answer (events ++ event.toList) port endpoint := by
  have same := unrefused_bland events bland.closed
  constructor <;> rw [same]
  · exact answer.unanswered
  · exact answer.answered
  · exact answer.refused

/-- A CLOSE refuses the service while it is opening and only then. -/
theorem closed_answer {events : List Event} {message : SlotMessage} {endpoint : Endpoint}
    (life : Lifecycle events (receiverRef message) endpoint)
    (answer : Answer events (receiverRef message) endpoint)
    (msgType : msgTypeFromId message.header.msgid = some .close) :
    Answer (events ++ [.processed message false]) (receiverRef message)
      endpoint.closeReceived := by
  have snoc : Unrefused (events ++ [.processed message false]) (receiverRef message) ↔
      Unrefused events (receiverRef message) ∧
        ∃ remote, Seen events (Opens (receiverRef message) remote) := by
    rw [Unrefused, every_event_snoc, Unrefused]
    apply and_congr_right
    intro _
    exact ⟨fun opened => opened ⟨msgType, rfl⟩, fun opened _ => opened⟩
  constructor
  · exact fun opening => absurd opening (close_received_not_opening endpoint)
  · intro isOpen
    have wasOpen : endpoint.srvstate = .open := by
      unfold Endpoint.closeReceived at isOpen
      split at isOpen
      · simp at isOpen
      · simp at isOpen
      · exact isOpen
    rw [snoc]
    exact ⟨answer.answered wasOpen, _, (life.answered wasOpen).1⟩
  · intro waits
    rw [snoc]
    rintro ⟨unrefused, remote, opened⟩
    by_cases opening : endpoint.srvstate = .opening
    · exact life.unanswered opening remote opened
    · have waited : endpoint.srvstate = .closeWait := by
        unfold Endpoint.closeReceived at waits
        split at waits
        · exact absurd ‹_› opening
        · simp at waits
        · exact waits
      exact answer.refused waited unrefused

/-- What one step does to the entry it is about. -/
theorem port_step_answer {events : List Event} {port : ServiceRef} {old : Option Endpoint}
    {event : Option Event} {changed : Endpoint} (life : EntryLifecycle events port old)
    (answer : ∀ endpoint, old = some endpoint → Answer events port endpoint)
    (step : PortStep port old event changed) : Answer (events ++ event.toList) port changed := by
  cases step with
  | @opened sent srvHandle owner msgType _ =>
      have begun : Lifecycle (events ++ [.stored sent]) port
          (freshEndpoint port srvHandle owner) := opened_lifecycle life msgType
      have unrefused := unrefused_of_unseen (begun.live rfl).2.1
      constructor
      · exact fun _ => unrefused
      · exact fun _ => unrefused
      · intro waits
        simp [freshEndpoint] at waits
  | closeSent _ _ _ => constructor <;> simp [Endpoint.sendClose]
  | released _ => constructor <;> simp [Endpoint.release]
  | @acknowledged endpoint message msgType receiver used =>
      have kept := answer endpoint rfl
      have bland : ∀ happened,
          some (Event.processed message (decide (endpoint.srvstate = .opening))) =
            some happened → ¬Processes .close port happened := by
        intro happened same closes
        rw [← Option.some.inj same] at closes
        have isClose := closes.1
        simp [msgType] at isClose
      have same := unrefused_bland events bland
      unfold Endpoint.acknowledge
      split_ifs with opening
      · have unrefused := same.mpr (kept.unanswered opening)
        constructor
        · exact fun _ => unrefused
        · exact fun _ => unrefused
        · intro waits
          simp at waits
      · constructor <;> rw [same]
        · exact kept.unanswered
        · exact kept.answered
        · exact kept.refused
  | @closed endpoint message msgType receiver used =>
      subst receiver
      exact closed_answer life (answer endpoint rfl) msgType

theorem answer_step {actions : List Action} {before after : Protocol} {action : Action}
    (inv : ProtocolInvariant actions before)
    (answers : AnswerInvariant (eventsOf actions) before)
    (move : ProtocolStep before action after) :
    AnswerInvariant (eventsOf (actions ++ [action])) after := by
  intro port endpoint present
  rw [events_snoc]
  cases step_touches inv.registry inv.lifecycle move with
  | nothing same bland =>
      rw [same] at present
      exact (answers port endpoint present).frame (bland port)
  | @entry touched changed updated step =>
      rw [updated] at present
      rcases entry_cases present with ⟨rfl, rfl⟩ | ⟨elsewhere, old⟩
      · exact port_step_answer (inv.lifecycle port) (answers port) step
      · exact (answers port endpoint old).frame (step.bland_elsewhere elsewhere)

theorem answer_run {actions : List Action} {reached : Protocol}
    (run : Run ProtocolStep Protocol.initial actions reached) :
    AnswerInvariant (eventsOf actions) reached := by
  apply run.invariant fun actions protocol => AnswerInvariant (eventsOf actions) protocol
  · intro port endpoint present
    simp [Protocol.initial] at present
  · intro actions before action after run answers move
    exact answer_step (protocol_invariant_run run) answers move

/-- The states a service can be in while its open call waits. -/
def Waits (endpoint : Endpoint) : Prop :=
  endpoint.srvstate = .opening ∨ endpoint.srvstate = .open ∨ endpoint.srvstate = .closeWait

/-- The service of the open call that waits. -/
def OpenWaits (protocol : Protocol) : Prop :=
  ∀ handle srvHandle, protocol.pending = .serviceOpen handle srvHandle →
    ∃ port endpoint, protocol.Has port endpoint srvHandle ∧ Waits endpoint

theorem acknowledge_waits {endpoint : Endpoint} (waits : Waits endpoint) (remote : UInt32) :
    Waits (endpoint.acknowledge remote) := by
  unfold Endpoint.acknowledge
  split_ifs
  · exact .inr (.inl rfl)
  · exact waits

theorem close_received_waits {endpoint : Endpoint} (waits : Waits endpoint) :
    Waits endpoint.closeReceived := by
  unfold Endpoint.closeReceived
  rcases waits with state | state | state
  · simp [state, Waits]
  · simp [state, Waits]
  · simp [state, Waits]

/-- A message changes an endpoint under a call that waits. -/
theorem OpenWaits.set {protocol : Protocol} {port : ServiceRef} {endpoint changed : Endpoint}
    (waits : OpenWaits protocol) (present : protocol.endpoints port = some endpoint)
    (identity : changed.identity = endpoint.identity)
    (keeps : Waits endpoint → Waits changed) : OpenWaits (protocol.set port changed) := by
  intro handle srvHandle pending
  rcases waits handle srvHandle pending with ⟨other, found, ⟨entry, hasHandle⟩, state⟩
  by_cases here : other = port
  · subst here
    have isEndpoint : endpoint = found := Option.some.inj (present.symm.trans entry)
    subst isEndpoint
    have sameHandle : changed.handle = endpoint.handle :=
      congrArg (fun parts => parts.2.1) identity
    refine ⟨other, changed, ⟨?_, sameHandle.trans hasHandle⟩, keeps state⟩
    exact Function.update_self _ _ _
  · refine ⟨other, found, ⟨?_, hasHandle⟩, state⟩
    simp only [Protocol.set, Function.update_of_ne here]
    exact entry

theorem open_waits_step {before after : Protocol} {action : Action} (waits : OpenWaits before)
    (move : ProtocolStep before action after) : OpenWaits after := by
  cases move with
  | quiet _ => exact waits
  | dataSent _ _ _ _ => exact waits
  | greeted _ => exact waits
  | passed _ _ => exact waits
  | @openSent setup opened srvHandle port message _ _ _ _ _ =>
      intro handle other pending
      simp only [PendingCall.serviceOpen.injEq] at pending
      refine ⟨port, freshEndpoint port srvHandle (some opened), ⟨?_, pending.2⟩, .inl rfl⟩
      exact Function.update_self _ _ _
  | acknowledged _ present _ =>
      apply waits.set present (acknowledge_identity _ _)
      exact fun state => acknowledge_waits state _
  | closed _ present _ =>
      exact waits.set present (close_received_identity _) close_received_waits
  | abandoned _ | connectSent _ | connectJoined _ | connectFinished _ _ _ | connectPassed _ _
  | openFinished _ _ _ | closeSent _ _ _ _ | closeReleased _ _ _ | closeFinished _ =>
      exact fun _ _ pending => nomatch pending

theorem open_waits_run {actions : List Action} {reached : Protocol}
    (run : Run ProtocolStep Protocol.initial actions reached) : OpenWaits reached := by
  apply run.invariant fun _ protocol => OpenWaits protocol
  · exact fun _ _ pending => nomatch pending
  · exact fun _ _ _ _ _ waits move => open_waits_step waits move

/-- In every run, what an open call returns says the truth about its service exactly if
the VideoCore did not answer the OPEN with CLOSE. -/
theorem open_answer_iff {raw : SlotZero} {memory : Memory} {totalMemory : Nat}
    {fresh : State} {actions : List Action} {reached : System}
    {handle srvHandle : ServiceHandle} {port : ServiceRef} {service : Service}
    {result : Except VchiqError ServiceHandle}
    (made : freshState raw memory totalMemory = .ok fresh)
    (run : Run SystemStep (System.new (freshInstance fresh)) actions reached)
    (waiting : reached.pending = .serviceOpen handle srvHandle)
    (found : reached.inst.state.serviceOf srvHandle = some (port, service))
    (returned : reached.openReturns = some result) :
    OpenMeansAcknowledged (eventsOf actions) reached port service handle result ↔
      Unrefused (eventsOf actions) port := by
  rcases run_simulated (fun _ _ => True) (fresh_state_facts made) run.guarded with
    ⟨_, abstractRun⟩
  have inv := protocol_invariant_run abstractRun.unguarded
  rcases service_of_some found with ⟨stored, hasHandle⟩
  have present := endpoints_some stored
  have life := inv.lifecycle.present present
  have answer := answer_run abstractRun.unguarded port service.endpoint present
  -- the service found by the handle is the one the call waits for
  have waits : Waits service.endpoint := by
    rcases open_waits_run abstractRun.unguarded handle srvHandle waiting with
      ⟨other, endpoint, has, state⟩
    have same := inv.registry.distinct port other service.endpoint endpoint srvHandle
      ⟨present, hasHandle⟩ has
    subst same
    rw [Option.some.inj (present.symm.trans has.1)]
    exact state
  have judged : ∀ srvstate, service.srvstate = srvstate →
      (openResult srvHandle srvstate = .ok () ∧ result = .ok handle) ∨
        ∃ error, openResult srvHandle srvstate = .error error ∧ result = .error error := by
    intro srvstate state
    subst state
    simp only [System.openReturns, waiting, Instance.awaitService, found] at returned
    split_ifs at returned
    · simp only [Option.map_some, Option.some.injEq] at returned
      cases outcome : openResult srvHandle service.srvstate with
      | ok _ =>
          rw [outcome] at returned
          exact .inl ⟨rfl, returned.symm⟩
      | error error =>
          rw [outcome] at returned
          exact .inr ⟨error, rfl, returned.symm⟩
    · simp at returned
  rcases waits with opening | isOpen | refused
  · apply iff_of_true
    · constructor
      · intro success
        rcases judged .opening opening with ⟨accepted, _⟩ | ⟨error, _, failed⟩
        · simp [openResult] at accepted
        · simp [failed] at success
      · exact fun refused => absurd (answer.unanswered opening) refused
    · exact answer.unanswered opening
  · apply iff_of_true
    · constructor
      · exact fun _ => (life.answered isOpen).1
      · exact fun refused => absurd (answer.answered isOpen) refused
    · exact answer.answered isOpen
  · apply iff_of_false
    · intro meaning
      rcases (meaning.refused (answer.refused refused)).1 with ⟨error, failed⟩
      rcases judged .closeWait refused with ⟨_, success⟩ | ⟨other, rejected, _⟩
      · simp [failed] at success
      · simp [openResult] at rejected
    · exact answer.refused refused

set_option maxRecDepth 20000 in
theorem acknowledged_open_performed :
    ∃ fresh actions reached service,
      freshState blankSlotZero (fun _ => 0) (65 * vchiqSlotSize) = .ok fresh ∧
      (System.new (freshInstance fresh)).performAll Anything openingMoves =
        some (actions, reached) ∧
      reached.pending = .serviceOpen 0 vchiqMaxServices ∧
      reached.inst.state.serviceOf vchiqMaxServices = some (0, service) ∧
      reached.openReturns = some (.ok 0) :=
  ⟨_, _, _, _, rfl, rfl, rfl, rfl, rfl⟩

/-- An acknowledged open call returns the handle of a connected service. -/
theorem acknowledged_open_returns :
    ∃ actions reached service, reached.openReturns = some (.ok 0) ∧
      (OpenMeansAcknowledged (eventsOf actions) reached 0 service 0 (.ok 0) ↔
        Unrefused (eventsOf actions) 0) := by
  rcases acknowledged_open_performed with
    ⟨fresh, actions, reached, service, made, performed, waiting, found, returned⟩
  exact ⟨actions, reached, service, returned,
    open_answer_iff made (perform_all_run .refl performed).unguarded waiting found returned⟩

/-- The first open call is answered with CLOSE. -/
def refusedMoves : List Move :=
  [.call .initializeInstance, .call .connect, .receive (remoteMessage .connect 0 0), .resume,
    .call (.serviceOpen sampleSetup), .receive (remoteMessage .close 75 0)]

set_option maxRecDepth 20000 in
theorem refused_open_performed :
    ∃ fresh actions reached service next,
      freshState blankSlotZero (fun _ => 0) (65 * vchiqSlotSize) = .ok fresh ∧
      (System.new (freshInstance fresh)).performAll Anything refusedMoves =
        some (actions, reached) ∧
      reached.pending = .serviceOpen 0 vchiqMaxServices ∧
      reached.inst.state.serviceOf vchiqMaxServices = some (0, service) ∧
      service.srvstate = .closeWait ∧ service.remoteport = vchiqPortFree ∧
      reached.openReturns = some (.ok 0) ∧ reached.resume = some next ∧
      next.services 0 = some vchiqMaxServices ∧
      wireTypes actions = [(true, some .connect), (false, some .connect), (true, some .open),
        (false, some .close)] :=
  ⟨_, _, _, _, _, rfl, rfl, rfl, rfl, rfl, rfl, rfl, rfl, rfl, rfl⟩

/-- A refused open call returns a handle and enters it into the map, although no OPENACK
was ever processed. -/
theorem refused_open_returns_handle :
    ∃ fresh actions reached service next,
      freshState blankSlotZero (fun _ => 0) (65 * vchiqSlotSize) = .ok fresh ∧
      Run SystemStep (System.new (freshInstance fresh)) actions reached ∧
      reached.pending = .serviceOpen 0 vchiqMaxServices ∧
      reached.inst.state.serviceOf vchiqMaxServices = some (0, service) ∧
      reached.openReturns = some (.ok 0) ∧ reached.resume = some next ∧
      next.services 0 = some vchiqMaxServices ∧
      (∀ remote, ¬Seen (eventsOf actions) (Opens 0 remote)) ∧
      ¬OpenMeansAcknowledged (eventsOf actions) reached 0 service 0 (.ok 0) := by
  rcases refused_open_performed with ⟨fresh, actions, reached, service, next, made, performed,
    waiting, found, _, _, returned, polled, entered, types⟩
  have unopened : ∀ remote, ¬Seen (eventsOf actions) (Opens 0 remote) := by
    rintro remote ⟨event, member, opens⟩
    cases event with
    | stored sent => exact absurd opens id
    | processed message opened =>
        have listed : (false, msgTypeFromId message.header.msgid) ∈ wireTypes actions :=
          List.mem_map.mpr ⟨_, member, rfl⟩
        rw [types] at listed
        simp [opens.2.1] at listed
  refine ⟨fresh, actions, reached, service, next, made,
    (perform_all_run .refl performed).unguarded, waiting, found, returned, polled, entered,
    unopened, ?_⟩
  exact fun meaning => unopened _ (meaning.acknowledged rfl)

end RuspiroVchiq.Vchi
