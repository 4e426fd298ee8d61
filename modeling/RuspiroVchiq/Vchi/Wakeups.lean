import RuspiroVchiq.Vchi.Semaphores
import RuspiroVchiq.Vchi.CloseHandshake

/-!
# The calls that wait are woken by their answers

When a later poll of `connect`, `service_open` or `service_close` ends the call, in
terms of the messages that were processed. A CLOSE of the VideoCore counts for
`service_close` if it answered the OPEN or came after the CLOSE of this side. One that
came in between did not end the service, and the call waits for another.
-/

namespace RuspiroVchiq.Vchi

open RuspiroVchiq.Config
open RuspiroVchiq.Shared
open RuspiroVchiq.Vchiq
open RuspiroVchiq.Lib.LabelledRun
open RuspiroVchiq.Lib.ByteMemory

set_option autoImplicit false

/-- A CLOSE of the VideoCore that ended the service of the port. -/
def CloseAnswered (events : List Event) (port : ServiceRef) : Prop :=
  ∃ earlier event later, events = earlier ++ event :: later ∧ Processes .close port event ∧
    (Seen earlier (Stores .close port) ∨ ∀ remote, ¬Seen earlier (Opens port remote))

theorem close_answered_snoc (events : List Event) (last : Event) (port : ServiceRef) :
    CloseAnswered (events ++ [last]) port ↔ CloseAnswered events port ∨
      (Processes .close port last ∧
        (Seen events (Stores .close port) ∨ ∀ remote, ¬Seen events (Opens port remote))) := by
  constructor
  · rintro ⟨earlier, event, later, split, closes, ended⟩
    rcases snoc_eq_split.mp split with ⟨_, rfl, rfl⟩ | ⟨later', _, before⟩
    · exact .inr ⟨closes, ended⟩
    · exact .inl ⟨earlier, event, later', before, closes, ended⟩
  · rintro (⟨earlier, event, later, rfl, closes, ended⟩ | ⟨closes, ended⟩)
    · exact ⟨earlier, event, later ++ [last], by simp, closes, ended⟩
    · exact ⟨events, last, [], rfl, closes, ended⟩

theorem close_answered_bland (events : List Event) {event : Option Event} {port : ServiceRef}
    (bland : ∀ happened, event = some happened → ¬Processes .close port happened) :
    CloseAnswered (events ++ event.toList) port ↔ CloseAnswered events port := by
  cases event with
  | none => rw [Option.toList_none, List.append_nil]
  | some happened =>
      rw [Option.toList_some, close_answered_snoc]
      apply or_iff_left
      exact fun ended => bland happened rfl ended.1

theorem close_answered_seen {events : List Event} {port : ServiceRef}
    (answered : CloseAnswered events port) : Seen events (Processes .close port) := by
  rcases answered with ⟨earlier, event, later, rfl, closes, _⟩
  exact ⟨event, by simp, closes⟩

/-- What the state of an endpoint tells about the end of its service. -/
structure Ending (events : List Event) (port : ServiceRef) (endpoint : Endpoint) : Prop where
  ended : CloseAnswered events port ↔
    endpoint.srvstate = .closeWait ∨ endpoint.srvstate = .free
  sent : endpoint.srvstate = .closeSent → Seen events (Stores .close port)

def EndingInvariant (events : List Event) (protocol : Protocol) : Prop :=
  ∀ port endpoint, protocol.endpoints port = some endpoint → Ending events port endpoint

theorem Ending.frame {events : List Event} {event : Option Event} {port : ServiceRef}
    {endpoint : Endpoint} (ending : Ending events port endpoint) (bland : Bland port event) :
    Ending (events ++ event.toList) port endpoint := by
  constructor
  · rw [close_answered_bland events bland.closed]
    exact ending.ended
  · rw [seen_bland events bland.close]
    exact ending.sent

/-- A CLOSE ends the service unless it is open. -/
theorem closed_ending {events : List Event} {message : SlotMessage} {endpoint : Endpoint}
    (life : Lifecycle events (receiverRef message) endpoint)
    (ending : Ending events (receiverRef message) endpoint)
    (msgType : msgTypeFromId message.header.msgid = some .close) :
    Ending (events ++ [.processed message false]) (receiverRef message)
      endpoint.closeReceived := by
  have closes : Processes .close (receiverRef message) (.processed message false) :=
    ⟨msgType, rfl⟩
  constructor
  · rw [close_answered_snoc, close_received_state]
    rcases life.states with state | state | state | state | state
    · have answered := ending.ended.mpr (.inr state)
      simp [state, answered]
    · have unopened := life.unanswered state
      simp [state, closes, unopened]
    · have unanswered : ¬CloseAnswered events (receiverRef message) := by
        rw [ending.ended, state]
        simp
      have opened := (life.answered state).1
      have unsent : ¬Seen events (Stores .close (receiverRef message)) :=
        fun stored => (life.ended stored).2 state
      have connected : ¬∀ remote, ¬Seen events (Opens (receiverRef message) remote) :=
        fun unopened => unopened _ opened
      simp [state, unanswered, unsent, connected]
    · have stored := ending.sent state
      simp [state, closes, stored]
    · have answered := ending.ended.mpr (.inl state)
      simp [state, answered]
  · intro state
    rw [close_received_state] at state
    split_ifs at state with opening closeSent
    exact absurd state closeSent

/-- What one step does to the entry it is about. -/
theorem port_step_ending {events : List Event} {port : ServiceRef} {old : Option Endpoint}
    {event : Option Event} {changed : Endpoint} (life : EntryLifecycle events port old)
    (ending : ∀ endpoint, old = some endpoint → Ending events port endpoint)
    (step : PortStep port old event changed) : Ending (events ++ event.toList) port changed := by
  have stored : ∀ sent happened, some (Event.stored sent) = some happened →
      ¬Processes .close port happened := by
    intro sent happened same closes
    rw [← Option.some.inj same] at closes
    exact closes
  cases step with
  | @opened sent srvHandle owner msgType _ =>
      constructor
      · rw [close_answered_bland events (stored sent)]
        apply iff_of_false
        · exact fun answered => life.closed (close_answered_seen answered)
        · simp [freshEndpoint]
      · simp [freshEndpoint]
  | @closeSent endpoint sent isOpen msgType sender =>
      have kept := ending endpoint rfl
      constructor
      · rw [close_answered_bland events (stored sent), kept.ended, isOpen]
        simp [Endpoint.sendClose]
      · intro _
        rw [seen_extend]
        exact .inr ⟨_, rfl, msgType, sender⟩
  | @released endpoint waits =>
      have kept := ending endpoint rfl
      rw [Option.toList_none, List.append_nil]
      constructor
      · rw [kept.ended, waits]
        simp [Endpoint.release]
      · simp [Endpoint.release]
  | @acknowledged endpoint message msgType receiver used =>
      have kept := ending endpoint rfl
      have notClose : ∀ happened,
          some (Event.processed message (decide (endpoint.srvstate = .opening))) =
            some happened → ¬Processes .close port happened := by
        intro happened same closes
        rw [← Option.some.inj same] at closes
        have isClose := closes.1
        simp [msgType] at isClose
      constructor
      · rw [close_answered_bland events notClose, kept.ended, acknowledge_state]
        by_cases opening : endpoint.srvstate = .opening
        · simp [opening]
        · simp [opening]
      · intro state
        rw [acknowledge_state] at state
        split_ifs at state
        exact (kept.sent state).append _
  | @closed endpoint message msgType receiver used =>
      subst receiver
      exact closed_ending life (ending endpoint rfl) msgType

theorem ending_step {actions : List Action} {before after : Protocol} {action : Action}
    (inv : ProtocolInvariant actions before)
    (endings : EndingInvariant (eventsOf actions) before)
    (move : ProtocolStep before action after) :
    EndingInvariant (eventsOf (actions ++ [action])) after := by
  intro port endpoint present
  rw [events_snoc]
  cases step_touches inv.registry inv.lifecycle move with
  | nothing same bland =>
      rw [same] at present
      exact (endings port endpoint present).frame (bland port)
  | @entry touched changed updated step =>
      rw [updated] at present
      rcases entry_cases present with ⟨rfl, rfl⟩ | ⟨elsewhere, old⟩
      · exact port_step_ending (inv.lifecycle port) (endings port) step
      · exact (endings port endpoint old).frame (step.bland_elsewhere elsewhere)

/-- The CONNECT of the VideoCore is not forgotten before it is needed. -/
def Greeting (events : List Event) (protocol : Protocol) : Prop :=
  protocol.connState = .disconnected ∨ protocol.connState = .connecting →
    Seen events (ProcessesType .connect) → 0 < protocol.connect

/-- A step that is not the CONNECT of the VideoCore. -/
theorem Greeting.extend {events : List Event} {event : Option Event} {before after : Protocol}
    (greeting : Greeting events before)
    (begun : after.connState = .disconnected ∨ after.connState = .connecting →
      before.connState = .disconnected ∨ before.connState = .connecting)
    (connect : after.connect = before.connect)
    (other : ∀ happened, event = some happened → ¬ProcessesType .connect happened) :
    Greeting (events ++ event.toList) after := by
  intro waiting seen
  rw [seen_bland events other] at seen
  rw [connect]
  exact greeting (begun waiting) seen

theorem greeting_step {events : List Event} {before after : Protocol} {action : Action}
    (greeting : Greeting events before) (move : ProtocolStep before action after) :
    Greeting (events ++ action.event.toList) after := by
  -- for messages that are only received
  have received : ∀ message opened kind, msgTypeFromId message.header.msgid = some kind →
      kind ≠ .connect → ∀ happened, some (Event.processed message opened) = some happened →
        ¬ProcessesType .connect happened := by
    intro message opened kind msgType other happened same isConnect
    rw [← Option.some.inj same] at isConnect
    exact other (Option.some.inj (msgType.symm.trans isConnect))
  have stored : ∀ sent happened, some (Event.stored sent) = some happened →
      ¬ProcessesType .connect happened := by
    intro sent happened same isConnect
    rw [← Option.some.inj same] at isConnect
    exact isConnect
  cases move with
  | quiet silent => exact greeting.extend id rfl (by simp [silent])
  | abandoned silent => exact greeting.extend id rfl (by simp [silent])
  | connectSent disconnected =>
      exact greeting.extend (fun _ => .inl disconnected) rfl (stored _)
  | connectJoined _ => exact greeting.extend id rfl (by simp [Action.event])
  | connectFinished _ _ _ =>
      intro waiting
      simp at waiting
  | connectPassed _ _ => exact greeting.extend id rfl (by simp [Action.event])
  | openSent _ _ _ _ _ => exact greeting.extend id rfl (stored _)
  | openFinished _ _ _ => exact greeting.extend id rfl (by simp [Action.event])
  | closeSent _ _ _ _ => exact greeting.extend id rfl (stored _)
  | closeReleased _ _ _ => exact greeting.extend id rfl (by simp [Action.event])
  | closeFinished _ => exact greeting.extend id rfl (by simp [Action.event])
  | dataSent _ _ _ _ => exact greeting.extend id rfl (stored _)
  | greeted _ => exact fun _ _ => Nat.succ_pos _
  | acknowledged msgType _ _ => exact greeting.extend id rfl (received _ _ _ msgType (by decide))
  | closed msgType _ _ => exact greeting.extend id rfl (received _ _ _ msgType (by decide))
  | passed msgType other => exact greeting.extend id rfl (received _ _ _ msgType other.1)

/-- The service of a close call that waits. -/
def CloseWaits (protocol : Protocol) : Prop :=
  ∀ handle srvHandle port endpoint, protocol.pending = .serviceClose handle srvHandle →
    protocol.Has port endpoint srvHandle →
      endpoint.srvstate = .closeSent ∨ endpoint.srvstate = .free

theorem close_waits_step {before after : Protocol} {action : Action}
    (registry : RegistryInvariant before) (waits : CloseWaits before)
    (move : ProtocolStep before action after) : CloseWaits after := by
  -- the call that closes a service waits for this very service
  have closes : ∀ port endpoint changed closedHandle, before.Has port endpoint closedHandle →
      changed.identity = endpoint.identity →
      changed.srvstate = .closeSent ∨ changed.srvstate = .free → ∀ other found,
        (before.set port changed).Has other found closedHandle →
          found.srvstate = .closeSent ∨ found.srvstate = .free := by
    intro port endpoint changed closedHandle closed identity state other found has
    rcases has_set closed.1 identity has with ⟨_, rfl, _⟩ | ⟨differs, old⟩
    · exact state
    · exact absurd (registry.distinct _ _ _ _ closedHandle old closed) differs
  cases move with
  | quiet _ => exact waits
  | dataSent _ _ _ _ => exact waits
  | greeted _ => exact waits
  | passed _ _ => exact waits
  | abandoned _ | connectSent _ | connectJoined _ | connectFinished _ _ _ | connectPassed _ _
  | openSent _ _ _ _ _ | openFinished _ _ _ | closeFinished _ =>
      intro handle srvHandle port endpoint waiting
      simp at waiting
  | @closeSent _ closedHandle place closing _ _ closed _ _ =>
      intro handle srvHandle port endpoint waiting has
      simp only [PendingCall.serviceClose.injEq] at waiting
      rw [← waiting.2] at has
      exact closes place closing closing.sendClose closedHandle closed rfl (.inl rfl) port endpoint
        has
  | @closeReleased _ closedHandle place closing _ closed _ =>
      intro handle srvHandle port endpoint waiting has
      simp only [PendingCall.serviceClose.injEq] at waiting
      rw [← waiting.2] at has
      exact closes place closing closing.release closedHandle closed rfl (.inr rfl) port endpoint
        has
  | @acknowledged message old _ present _ =>
      intro handle srvHandle port endpoint waiting has
      rcases has_set present (acknowledge_identity _ _) has with ⟨_, rfl, earlier⟩ | ⟨_, earlier⟩
      · have state := waits handle srvHandle _ _ waiting earlier
        have started : old.srvstate ≠ .opening := by
          rcases state with state | state <;> simp [state]
        rw [acknowledge_state, if_neg started]
        exact state
      · exact waits handle srvHandle port endpoint waiting earlier
  | @closed message old _ present _ =>
      intro handle srvHandle port endpoint waiting has
      rcases has_set present (close_received_identity _) has with ⟨_, rfl, earlier⟩ | ⟨_, earlier⟩
      · rw [close_received_state]
        rcases waits handle srvHandle _ _ waiting earlier with state | state <;> simp [state]
      · exact waits handle srvHandle port endpoint waiting earlier

/-- The three together, for every run. -/
structure WakeupInvariant (actions : List Action) (protocol : Protocol) : Prop where
  endings : EndingInvariant (eventsOf actions) protocol
  greeting : Greeting (eventsOf actions) protocol
  closes : CloseWaits protocol

theorem wakeup_run {actions : List Action} {reached : Protocol}
    (run : Run ProtocolStep Protocol.initial actions reached) :
    WakeupInvariant actions reached := by
  apply run.invariant WakeupInvariant
  · refine ⟨?_, ?_, ?_⟩
    · intro port endpoint present
      simp [Protocol.initial] at present
    · exact fun _ seen => absurd seen (seen_nil _)
    · intro handle srvHandle port endpoint waiting
      simp [Protocol.initial] at waiting
  · intro actions before action after run inv move
    have protocol := protocol_invariant_run run
    refine ⟨ending_step protocol inv.endings move, ?_,
      close_waits_step protocol.registry inv.closes move⟩
    rw [events_snoc]
    exact greeting_step inv.greeting move

/-- The message the pending call waits for was processed. -/
def Answered (events : List Event) (sys : System) : Prop :=
  match sys.pending with
  | .idle => False
  | .connect => Seen events (ProcessesType .connect)
  | .serviceOpen _ srvHandle =>
      ∃ port service, sys.inst.state.serviceOf srvHandle = some (port, service) ∧
        ((∃ remote, Seen events (Opens port remote)) ∨ Seen events (Processes .close port))
  | .serviceClose _ srvHandle =>
      ∃ port service, sys.inst.state.serviceOf srvHandle = some (port, service) ∧
        CloseAnswered events port

/-- What the pending call leaves when it ends without an error. -/
def Succeeded (sys next : System) : Prop :=
  next.pending = .idle ∧
    match sys.pending with
    | .idle => False
    | .connect => next.connected = true ∧ next.services = sys.services
    | .serviceOpen handle srvHandle =>
        next.services = Function.update sys.services handle (some srvHandle)
    | .serviceClose handle _ => next.services = Function.update sys.services handle none

section Calls

variable {actions : List Action} {sys : System} {handle srvHandle : ServiceHandle}

/-- A service with this handle is found by it. -/
theorem service_of_has (registry : RegistryInvariant sys.protocol) {port : ServiceRef}
    {endpoint : Endpoint} (has : sys.protocol.Has port endpoint srvHandle) :
    ∃ service, sys.inst.state.serviceOf srvHandle = some (port, service) := by
  rcases has with ⟨present, rfl⟩
  rcases endpoints_of_some present with ⟨service, stored, rfl⟩
  rcases service_from_handle_found stored with ⟨first, target, located, held, sameHandle⟩
  have here : first = port := registry.distinct first port target.endpoint service.endpoint
    service.handle ⟨endpoints_some held, sameHandle⟩ ⟨endpoints_some stored, rfl⟩
  subst here
  refine ⟨target, ?_⟩
  have handle : service.endpoint.handle = service.handle := rfl
  simp only [State.serviceOf, handle, located, held]

/-- A statement about the service with a handle is one about the port it sits at. -/
theorem found_iff (registry : RegistryInvariant sys.protocol) {port : ServiceRef}
    {endpoint : Endpoint} (has : sys.protocol.Has port endpoint srvHandle)
    (property : ServiceRef → Prop) :
    (∃ other service, sys.inst.state.serviceOf srvHandle = some (other, service) ∧
      property other) ↔ property port := by
  rcases service_of_has registry has with ⟨service, found⟩
  constructor
  · rintro ⟨other, target, foundOther, holds⟩
    rw [found, Option.some.injEq, Prod.mk.injEq] at foundOther
    rw [foundOther.1]
    exact holds
  · exact fun holds => ⟨port, service, found, holds⟩

theorem connect_ends_iff (handshake : HandshakeInvariant (eventsOf actions) sys.protocol)
    (greeting : Greeting (eventsOf actions) sys.protocol) (waiting : sys.pending = .connect) :
    (∃ next, sys.resume = some next) ↔ Seen (eventsOf actions) (ProcessesType .connect) := by
  have resumes : (∃ next, sys.resume = some next) ↔ ∃ inst, sys.inst.finishConnect = some inst := by
    unfold System.resume
    rw [waiting]
    cases sys.inst.finishConnect <;> simp
  rw [resumes]
  have begun : sys.inst.state.connState ≠ .disconnected := handshake.waiting waiting
  by_cases connecting : sys.inst.state.connState = .connecting
  · unfold Instance.finishConnect
    simp only [connecting]
    constructor
    · rintro ⟨inst, finished⟩
      split_ifs at finished with raised
      exact handshake.raised raised
    · intro greeted
      have raised : 0 < sys.inst.state.connect := greeting (.inr connecting) greeted
      rw [if_pos raised]
      exact ⟨_, rfl⟩
  · apply iff_of_true
    · unfold Instance.finishConnect
      split
      · exact absurd ‹_› connecting
      · exact ⟨_, rfl⟩
    · exact handshake.settled begun connecting

/-- The answer to an OPEN shows in the state of the service. -/
theorem open_answered_iff (inv : ProtocolInvariant actions sys.protocol)
    (endings : EndingInvariant (eventsOf actions) sys.protocol) {port : ServiceRef}
    {endpoint : Endpoint} (has : sys.protocol.Has port endpoint srvHandle)
    (state : endpoint.srvstate = .opening ∨ endpoint.srvstate = .open ∨
      endpoint.srvstate = .closeWait) :
    (∃ port service, sys.inst.state.serviceOf srvHandle = some (port, service) ∧
      ((∃ remote, Seen (eventsOf actions) (Opens port remote)) ∨
        Seen (eventsOf actions) (Processes .close port))) ↔ endpoint.srvstate ≠ .opening := by
  have life := inv.lifecycle.present has.1
  rw [found_iff inv.registry has fun port =>
    (∃ remote, Seen (eventsOf actions) (Opens port remote)) ∨
      Seen (eventsOf actions) (Processes .close port)]
  by_cases opening : endpoint.srvstate = .opening
  · apply iff_of_false
    · have unmarked : endpoint.closing = false := by
        by_contra marked
        exact life.marked (by simpa using marked) opening
      rintro (⟨remote, opened⟩ | closed)
      · exact life.unanswered opening remote opened
      · exact (life.live unmarked).2.1 closed
    · simp [opening]
  · apply iff_of_true
    · rcases state with state | isOpen | refused
      · exact absurd state opening
      · exact .inl ⟨_, (life.answered isOpen).1⟩
      · have answered := (endings port endpoint has.1).ended.mpr (.inl refused)
        exact .inr (close_answered_seen answered)
    · exact opening

theorem open_ends_iff (inv : ProtocolInvariant actions sys.protocol)
    (waits : OpenWaits sys.protocol)
    (endings : EndingInvariant (eventsOf actions) sys.protocol)
    (balanced : Balanced sys.protocol (raisedAt sys.inst.state))
    (waiting : sys.pending = .serviceOpen handle srvHandle) :
    (∃ next, sys.resume = some next) ↔
      ∃ port service, sys.inst.state.serviceOf srvHandle = some (port, service) ∧
        ((∃ remote, Seen (eventsOf actions) (Opens port remote)) ∨
          Seen (eventsOf actions) (Processes .close port)) := by
  rcases waits handle srvHandle waiting with ⟨port, endpoint, has, state⟩
  have count := balanced.awaited handle srvHandle port endpoint waiting has
  have resumes : (∃ next, sys.resume = some next) ↔
      ∃ polled, sys.inst.awaitService srvHandle openResult = some polled := by
    rw [resume_open waiting]
    cases sys.inst.awaitService srvHandle openResult <;> simp
  rw [resumes, await_some_iff inv.registry has, count, open_answered_iff inv endings has state]
  by_cases opening : endpoint.srvstate = .opening <;> simp [opening]

theorem close_ends_iff (inv : ProtocolInvariant actions sys.protocol)
    (wakeup : WakeupInvariant actions sys.protocol) (named : NamedOnce sys.protocol)
    (balanced : Balanced sys.protocol (raisedAt sys.inst.state))
    (waiting : sys.pending = .serviceClose handle srvHandle) :
    (∃ next, sys.resume = some next) ↔
      ∃ port service, sys.inst.state.serviceOf srvHandle = some (port, service) ∧
        CloseAnswered (eventsOf actions) port := by
  have known := named.given handle srvHandle waiting
  rcases inv.registry.mapped handle srvHandle known with ⟨port, endpoint, has, _⟩
  have count := balanced.mapped handle srvHandle port endpoint known has
  have ending := wakeup.endings port endpoint has.1
  have resumes : (∃ next, sys.resume = some next) ↔
      ∃ polled, sys.inst.awaitService srvHandle closeResult = some polled := by
    rw [resume_close waiting]
    cases sys.inst.awaitService srvHandle closeResult <;> simp
  rw [resumes, await_some_iff inv.registry has, count,
    found_iff inv.registry has (CloseAnswered (eventsOf actions)), ending.ended]
  rcases wakeup.closes handle srvHandle port endpoint waiting has with closeSent | isFree
  · simp [closeSent]
  · simp [isFree]

/-- A wait that ends never ends with an error. -/
theorem resume_succeeds {next : System} (registry : RegistryInvariant sys.protocol)
    (waits : OpenWaits sys.protocol) (named : NamedOnce sys.protocol)
    (balanced : Balanced sys.protocol (raisedAt sys.inst.state))
    (polled : sys.resume = some next) : Succeeded sys next := by
  unfold Succeeded
  cases waiting : sys.pending with
  | idle =>
      unfold System.resume at polled
      simp [waiting] at polled
  | connect =>
      unfold System.resume at polled
      simp only [waiting, Option.map_eq_some_iff] at polled
      rcases polled with ⟨inst, _, rfl⟩
      exact ⟨rfl, rfl, rfl⟩
  | serviceOpen handle srvHandle =>
      rw [resume_open waiting, Option.map_eq_some_iff] at polled
      rcases polled with ⟨⟨result, inst⟩, awaited, rfl⟩
      rcases await_taken awaited with ⟨port, endpoint, taken, judged⟩
      have accepted : result = .ok () := by
        rw [judged]
        rcases (open_taken registry waits balanced waiting taken).1 with isOpen | closeWait
        · rw [isOpen]
          rfl
        · rw [closeWait]
          rfl
      rw [accepted]
      exact ⟨rfl, rfl⟩
  | serviceClose handle srvHandle =>
      rw [resume_close waiting, Option.map_eq_some_iff] at polled
      rcases polled with ⟨⟨result, inst⟩, awaited, rfl⟩
      rcases await_taken awaited with ⟨port, endpoint, taken, judged⟩
      have accepted : result = .ok () := by
        rw [judged, close_taken named balanced waiting taken]
        rfl
      rw [accepted]
      exact ⟨rfl, rfl⟩

end Calls

/-- What is known about the waiting call after every run. -/
structure CallFacts (actions : List Action) (sys : System) : Prop where
  inv : ProtocolInvariant actions sys.protocol
  waits : OpenWaits sys.protocol
  wakeup : WakeupInvariant actions sys.protocol
  named : NamedOnce sys.protocol
  balanced : Balanced sys.protocol (raisedAt sys.inst.state)

theorem call_facts_run {state : State} {actions : List Action} {reached : System}
    (facts : FreshState state)
    (run : Run SystemStep (System.new (freshInstance state)) actions reached) :
    CallFacts actions reached := by
  rcases run_simulated (fun _ _ => True) facts run.guarded with ⟨_, abstractRun⟩
  rcases balanced_run facts run with ⟨named, balanced⟩
  exact ⟨protocol_invariant_run abstractRun.unguarded, open_waits_run abstractRun.unguarded,
    wakeup_run abstractRun.unguarded, named, balanced⟩

theorem CallFacts.ends_iff {actions : List Action} {sys : System}
    (facts : CallFacts actions sys) :
    (∃ next, sys.resume = some next) ↔ Answered (eventsOf actions) sys := by
  unfold Answered
  cases waiting : sys.pending with
  | idle => simp [System.resume, waiting]
  | connect => exact connect_ends_iff facts.inv.handshake facts.wakeup.greeting waiting
  | serviceOpen handle srvHandle =>
      exact open_ends_iff facts.inv facts.waits facts.wakeup.endings facts.balanced waiting
  | serviceClose handle srvHandle =>
      exact close_ends_iff facts.inv facts.wakeup facts.named facts.balanced waiting

theorem CallFacts.succeeds {actions : List Action} {sys next : System}
    (facts : CallFacts actions sys) (polled : sys.resume = some next) : Succeeded sys next :=
  resume_succeeds facts.inv.registry facts.waits facts.named facts.balanced polled

/-- In every run, a poll of the call that waits ends it exactly if its answer has been
processed: the CONNECT of the VideoCore, the OPENACK or CLOSE for the service that is
opened, or a CLOSE that ended the service that is closed. No count that an earlier call
left behind ends it sooner, none is lost to it, and its end is a success. -/
theorem waits_end_iff_answered {raw : SlotZero} {memory : Memory} {totalMemory : Nat}
    {fresh : State} {actions : List Action} {reached : System}
    (made : freshState raw memory totalMemory = .ok fresh)
    (run : Run SystemStep (System.new (freshInstance fresh)) actions reached) :
    ((∃ next, reached.resume = some next) ↔ Answered (eventsOf actions) reached) ∧
      ∀ next, reached.resume = some next → Succeeded reached next := by
  have facts := call_facts_run (fresh_state_facts made) run
  exact ⟨facts.ends_iff, fun _ polled => facts.succeeds polled⟩

set_option maxRecDepth 20000 in
theorem overtaken_close_performed :
    ∃ fresh actions waiting further ended next,
      freshState blankSlotZero (fun _ => 0) (65 * vchiqSlotSize) = .ok fresh ∧
      (System.new (freshInstance fresh)).performAll Anything
        (remoteCloseMoves ++ [.call (.serviceClose 0)]) = some (actions, waiting) ∧
      waiting.pending = .serviceClose 0 vchiqMaxServices ∧ waiting.resume = none ∧
      waiting.performAll Anything [.receive (remoteMessage .close 75 0)] =
        some (further, ended) ∧ ended.resume = some next :=
  ⟨_, _, _, _, _, _, rfl, rfl, rfl, rfl, rfl, rfl⟩

/-- A CLOSE the VideoCore sent before the client closed is no answer: the call waits, and
only another one ends it. -/
theorem overtaken_close_waits :
    ∃ actions waiting further ended, waiting.pending = .serviceClose 0 vchiqMaxServices ∧
      ¬Answered (eventsOf actions) waiting ∧
      Answered (eventsOf (actions ++ further)) ended ∧ ∃ next, Succeeded ended next := by
  rcases overtaken_close_performed with
    ⟨fresh, actions, waiting, further, ended, next, made, performed, closes, pending, more,
      polled⟩
  have run := perform_all_run .refl performed
  have before := waits_end_iff_answered made run.unguarded
  have after := waits_end_iff_answered made (perform_all_run run more).unguarded
  refine ⟨actions, waiting, further, ended, closes, ?_, after.1.mp ⟨next, polled⟩, next,
    after.2 next polled⟩
  intro answered
  rcases before.1.mpr answered with ⟨early, resumed⟩
  rw [pending] at resumed
  simp at resumed

end RuspiroVchiq.Vchi
