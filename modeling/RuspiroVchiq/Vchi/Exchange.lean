import RuspiroVchiq.Vchi.Lifecycle

/-!
# Both sides of the wire

The system of this side and a VideoCore that keeps to the protocol, connected by
two queues of messages. The VideoCore greets once, answers every OPEN with one
OPENACK or one refusing CLOSE, sends DATA on acknowledged connections only and
closes each of them at most once. It may act at any time, also while its last
messages are still on the way or while this side closes on its own. Against such
a VideoCore the slot handler never meets a message it cannot handle.
-/

namespace RuspiroVchiq.Vchi

open RuspiroVchiq.Config
open RuspiroVchiq.Shared
open RuspiroVchiq.Lib.ByteMemory
open RuspiroVchiq.Vchiq
open RuspiroVchiq.Lib.LabelledRun

set_option autoImplicit false

/-- What the VideoCore knows about a port of this side. -/
inductive PeerPort where
  | idle
  | requested
  | acknowledged (remote : UInt32)
  | closed
  deriving DecidableEq

/-- Both queues hold the oldest message first. -/
structure Exchange where
  sys : System
  toVideoCore : List SlotMessage
  toArm : List SlotMessage
  greeted : Bool
  ports : ServiceRef → PeerPort

def Exchange.new (inst : Instance) : Exchange where
  sys := System.new inst
  toVideoCore := []
  toArm := []
  greeted := false
  ports := fun _ => .idle

/-- The message an event puts on the wire, if any. -/
def storedMessages : Option Event → List SlotMessage
  | some (.stored sent) => [sent.message]
  | _ => []

/-- The VideoCore takes note of an OPEN. -/
def Exchange.noteOpen (exchange : Exchange) (message : SlotMessage) : ServiceRef → PeerPort :=
  if msgTypeFromId message.header.msgid = some .open then
    Function.update exchange.ports (senderRef message) .requested
  else exchange.ports

/-- The VideoCore writes a message and what it knows about its port changes. -/
def Exchange.answer (exchange : Exchange) (message : SlotMessage) (port : PeerPort) : Exchange :=
  { exchange with
    toArm := exchange.toArm ++ [message]
    ports := Function.update exchange.ports (receiverRef message) port }

inductive ExchangeAction where
  | arm (action : Action)
  | fetched (message : SlotMessage)
  | wrote (message : SlotMessage)

inductive ExchangeStep : Exchange → ExchangeAction → Exchange → Prop where
  | armed {exchange : Exchange} {next : System} {action : Action}
      (unrelated : ∀ message opened, action ≠ .received message opened)
      (step : SystemStep exchange.sys action next) :
      ExchangeStep exchange (.arm action)
        { exchange with
          sys := next
          toVideoCore := exchange.toVideoCore ++ storedMessages action.event }
  | processed {exchange : Exchange} {next : System} {message : SlotMessage} {opened : Bool}
      {rest : List SlotMessage} (oldest : exchange.toArm = message :: rest)
      (step : SystemStep exchange.sys (.received message opened) next) :
      ExchangeStep exchange (.arm (.received message opened))
        { exchange with sys := next, toArm := rest }
  | fetched {exchange : Exchange} {message : SlotMessage} {rest : List SlotMessage}
      (oldest : exchange.toVideoCore = message :: rest) :
      ExchangeStep exchange (.fetched message)
        { exchange with toVideoCore := rest, ports := exchange.noteOpen message }
  | greeted {exchange : Exchange} {message : SlotMessage} (first : exchange.greeted = false)
      (msgType : msgTypeFromId message.header.msgid = some .connect) :
      ExchangeStep exchange (.wrote message)
        { exchange with toArm := exchange.toArm ++ [message], greeted := true }
  | padded {exchange : Exchange} {message : SlotMessage}
      (msgType : msgTypeFromId message.header.msgid = some .padding) :
      ExchangeStep exchange (.wrote message)
        { exchange with toArm := exchange.toArm ++ [message] }
  | acknowledged {exchange : Exchange} {message : SlotMessage}
      (msgType : msgTypeFromId message.header.msgid = some .openAck)
      (asked : exchange.ports (receiverRef message) = .requested) :
      ExchangeStep exchange (.wrote message)
        (exchange.answer message (.acknowledged (srcPortFromId message.header.msgid)))
  | refused {exchange : Exchange} {message : SlotMessage}
      (msgType : msgTypeFromId message.header.msgid = some .close)
      (asked : exchange.ports (receiverRef message) = .requested) :
      ExchangeStep exchange (.wrote message) (exchange.answer message .closed)
  | data {exchange : Exchange} {message : SlotMessage}
      (msgType : msgTypeFromId message.header.msgid = some .data)
      (connected : exchange.ports (receiverRef message) =
        .acknowledged (srcPortFromId message.header.msgid)) :
      ExchangeStep exchange (.wrote message)
        (exchange.answer message (.acknowledged (srcPortFromId message.header.msgid)))
  | closed {exchange : Exchange} {message : SlotMessage}
      (msgType : msgTypeFromId message.header.msgid = some .close)
      (connected : exchange.ports (receiverRef message) =
        .acknowledged (srcPortFromId message.header.msgid)) :
      ExchangeStep exchange (.wrote message) (exchange.answer message .closed)

/-- The messages the slot handler looks up a service for. -/
def Concerns (port : ServiceRef) (message : SlotMessage) : Prop :=
  (msgTypeFromId message.header.msgid = some .openAck ∨
      msgTypeFromId message.header.msgid = some .close ∨
      msgTypeFromId message.header.msgid = some .data) ∧
    receiverRef message = port

instance (port : ServiceRef) (message : SlotMessage) : Decidable (Concerns port message) :=
  inferInstanceAs (Decidable (_ ∧ _))

def Requests (port : ServiceRef) (message : SlotMessage) : Prop :=
  msgTypeFromId message.header.msgid = some .open ∧ senderRef message = port

instance (port : ServiceRef) (message : SlotMessage) : Decidable (Requests port message) :=
  inferInstanceAs (Decidable (_ ∧ _))

/-- The messages for a port that are still on the way. -/
def inFlight (messages : List SlotMessage) (port : ServiceRef) : List SlotMessage :=
  messages.filter fun message => decide (Concerns port message)

/-- The OPENs of a port the VideoCore has not seen yet. -/
def requests (messages : List SlotMessage) (port : ServiceRef) : List SlotMessage :=
  messages.filter fun message => decide (Requests port message)

/-- The rest of a connection that was acknowledged: DATA, and a CLOSE at its end
once the VideoCore has closed it. -/
inductive Talk (remote : UInt32) : List SlotMessage → PeerPort → Prop where
  | live : Talk remote [] (.acknowledged remote)
  | data {message : SlotMessage} {messages : List SlotMessage} {peer : PeerPort}
      (msgType : msgTypeFromId message.header.msgid = some .data)
      (source : srcPortFromId message.header.msgid = remote)
      (rest : Talk remote messages peer) : Talk remote (message :: messages) peer
  | close {message : SlotMessage}
      (msgType : msgTypeFromId message.header.msgid = some .close)
      (source : srcPortFromId message.header.msgid = remote) : Talk remote [message] .closed

theorem Talk.peer {remote other : UInt32} {messages : List SlotMessage}
    (talk : Talk remote messages (.acknowledged other)) : other = remote := by
  induction messages with
  | nil =>
      cases talk with
      | live => rfl
  | cons message messages ih =>
      cases talk with
      | data _ _ rest => exact ih rest

theorem Talk.not_requested {remote : UInt32} {messages : List SlotMessage}
    (talk : Talk remote messages .requested) : False := by
  induction messages with
  | nil => cases talk
  | cons message messages ih =>
      cases talk with
      | data _ _ rest => exact ih rest

/-- The VideoCore adds DATA to a connection it has not closed. -/
theorem Talk.add_data {remote other : UInt32} {messages : List SlotMessage}
    {message : SlotMessage} (talk : Talk remote messages (.acknowledged other))
    (msgType : msgTypeFromId message.header.msgid = some .data)
    (source : srcPortFromId message.header.msgid = other) :
    Talk remote (messages ++ [message]) (.acknowledged other) := by
  have same := talk.peer
  subst same
  induction messages with
  | nil => exact .data msgType source .live
  | cons first messages ih =>
      cases talk with
      | data firstType firstSource rest => exact .data firstType firstSource (ih rest)

theorem Talk.add_close {remote other : UInt32} {messages : List SlotMessage}
    {message : SlotMessage} (talk : Talk remote messages (.acknowledged other))
    (msgType : msgTypeFromId message.header.msgid = some .close)
    (source : srcPortFromId message.header.msgid = other) :
    Talk remote (messages ++ [message]) .closed := by
  have same := talk.peer
  subst same
  induction messages with
  | nil => exact .close msgType source
  | cons first messages ih =>
      cases talk with
      | data firstType firstSource rest => exact .data firstType firstSource (ih rest)

/-- Where a connection is, seen from both sides: the endpoint, the OPEN on its way,
what the VideoCore knows, and the messages on their way back. -/
inductive Phase : Option Endpoint → List SlotMessage → PeerPort → List SlotMessage → Prop where
  | unused : Phase none [] .idle []
  | requesting {endpoint : Endpoint} {message : SlotMessage}
      (opening : endpoint.srvstate = .opening) (unbound : endpoint.remoteport = vchiqPortFree) :
      Phase (some endpoint) [message] .idle []
  | requested {endpoint : Endpoint} (opening : endpoint.srvstate = .opening)
      (unbound : endpoint.remoteport = vchiqPortFree) : Phase (some endpoint) [] .requested []
  | acknowledged {endpoint : Endpoint} {message : SlotMessage} {messages : List SlotMessage}
      {peer : PeerPort} (opening : endpoint.srvstate = .opening)
      (unbound : endpoint.remoteport = vchiqPortFree)
      (msgType : msgTypeFromId message.header.msgid = some .openAck)
      (talk : Talk (srcPortFromId message.header.msgid) messages peer) :
      Phase (some endpoint) [] peer (message :: messages)
  | refused {endpoint : Endpoint} {message : SlotMessage}
      (opening : endpoint.srvstate = .opening) (unbound : endpoint.remoteport = vchiqPortFree)
      (msgType : msgTypeFromId message.header.msgid = some .close) :
      Phase (some endpoint) [] .closed [message]
  | connected {endpoint : Endpoint} {messages : List SlotMessage} {peer : PeerPort}
      (started : endpoint.srvstate = .open ∨ endpoint.srvstate = .closeSent)
      (talk : Talk endpoint.remoteport messages peer) :
      Phase (some endpoint) [] peer messages
  | ended {endpoint : Endpoint} (started : endpoint.srvstate ≠ .opening) :
      Phase (some endpoint) [] .closed []

/-- The phase of a port. -/
def Exchange.PhaseOf (exchange : Exchange) (port : ServiceRef) : Prop :=
  Phase (exchange.sys.protocol.endpoints port) (requests exchange.toVideoCore port)
    (exchange.ports port) (inFlight exchange.toArm port)

/-- The messages the VideoCore may have written. -/
def Expected (message : SlotMessage) : Prop :=
  msgTypeFromId message.header.msgid = some .connect ∨
    msgTypeFromId message.header.msgid = some .padding ∨
    Concerns (receiverRef message) message

structure ExchangeInvariant (exchange : Exchange) : Prop where
  phases : ∀ port, exchange.PhaseOf port
  expected : ∀ message ∈ exchange.toArm, Expected message

theorem in_flight_cons {message : SlotMessage} {rest : List SlotMessage} {port : ServiceRef} :
    inFlight (message :: rest) port =
      if Concerns port message then message :: inFlight rest port else inFlight rest port := by
  simp only [inFlight, List.filter_cons, decide_eq_true_eq]

theorem in_flight_snoc {message : SlotMessage} {messages : List SlotMessage}
    {port : ServiceRef} :
    inFlight (messages ++ [message]) port =
      if Concerns port message then inFlight messages port ++ [message]
      else inFlight messages port := by
  simp only [inFlight, List.filter_append, List.filter_cons, List.filter_nil,
    decide_eq_true_eq]
  split_ifs <;> simp

theorem requests_cons {message : SlotMessage} {rest : List SlotMessage} {port : ServiceRef} :
    requests (message :: rest) port =
      if Requests port message then message :: requests rest port else requests rest port := by
  simp only [requests, List.filter_cons, decide_eq_true_eq]

theorem requests_append (messages further : List SlotMessage) (port : ServiceRef) :
    requests (messages ++ further) port = requests messages port ++ requests further port :=
  List.filter_append _ _

theorem requests_bland {event : Option Event} {port : ServiceRef} (bland : Bland port event) :
    requests (storedMessages event) port = [] := by
  cases event with
  | none => rfl
  | some happened =>
      cases happened with
      | stored sent =>
          have notOpen : ¬Requests port sent.message := bland.open (.stored sent) rfl
          simp only [storedMessages, requests_cons, if_neg notOpen]
          rfl
      | processed message opened => rfl

/-- What a call of this side does to the phase of the port it is about. -/
theorem Phase.call {port : ServiceRef} {old : Option Endpoint} {event : Option Event}
    {changed : Endpoint} {asked flying : List SlotMessage} {peer : PeerPort}
    (phase : Phase old asked peer flying) (step : PortStep port old event changed)
    (unprocessed : ∀ message opened, event ≠ some (.processed message opened)) :
    Phase (some changed) (asked ++ requests (storedMessages event) port) peer flying := by
  cases step with
  | @opened sent srvHandle owner msgType sender =>
      have isRequest : Requests port sent.message := ⟨msgType, sender⟩
      cases phase with
      | unused =>
          simp only [storedMessages, requests_cons, if_pos isRequest]
          exact .requesting rfl rfl
  | @closeSent endpoint sent isOpen msgType sender =>
      have notRequest : ¬Requests port sent.message := by
        rintro ⟨isRequest, _⟩
        simp [msgType] at isRequest
      simp only [storedMessages, requests_cons, if_neg notRequest]
      cases phase with
      | connected started talk => exact .connected (.inr rfl) talk
      | ended started => exact .ended (by simp [Endpoint.sendClose])
      | requesting opening _ => simp [isOpen] at opening
      | requested opening _ => simp [isOpen] at opening
      | acknowledged opening _ _ _ => simp [isOpen] at opening
      | refused opening _ _ => simp [isOpen] at opening
  | @released endpoint ended =>
      cases phase with
      | ended started => exact .ended (by simp [Endpoint.release])
      | connected started talk => simp [ended] at started
      | requesting opening _ => simp [ended] at opening
      | requested opening _ => simp [ended] at opening
      | acknowledged opening _ _ _ => simp [ended] at opening
      | refused opening _ _ => simp [ended] at opening
  | acknowledged _ _ _ => exact absurd rfl (unprocessed _ _)
  | closed _ _ _ => exact absurd rfl (unprocessed _ _)

/-- DATA that arrives leaves the rest of the talk. -/
theorem Phase.data {entry : Option Endpoint} {message : SlotMessage}
    {asked flying : List SlotMessage} {peer : PeerPort}
    (phase : Phase entry asked peer (message :: flying))
    (msgType : msgTypeFromId message.header.msgid = some .data) :
    Phase entry asked peer flying := by
  cases phase with
  | acknowledged _ _ isAck _ => simp [msgType] at isAck
  | refused _ _ isClose => simp [msgType] at isClose
  | connected started talk =>
      cases talk with
      | data _ _ rest => exact .connected started rest
      | close isClose _ => simp [msgType] at isClose

theorem Phase.acknowledge {endpoint : Endpoint} {message : SlotMessage}
    {asked flying : List SlotMessage} {peer : PeerPort}
    (phase : Phase (some endpoint) asked peer (message :: flying))
    (msgType : msgTypeFromId message.header.msgid = some .openAck) :
    Phase (some (endpoint.acknowledge (srcPortFromId message.header.msgid))) asked peer
      flying := by
  cases phase with
  | acknowledged opening _ _ talk =>
      rw [Endpoint.acknowledge, if_pos opening]
      exact .connected (.inl rfl) talk
  | refused _ _ isClose => simp [msgType] at isClose
  | connected started talk =>
      cases talk with
      | data isData _ _ => simp [msgType] at isData
      | close isClose _ => simp [msgType] at isClose

/-- A CLOSE that arrives is the last message of its connection. -/
theorem Phase.close {endpoint : Endpoint} {message : SlotMessage}
    {asked flying : List SlotMessage} {peer : PeerPort}
    (phase : Phase (some endpoint) asked peer (message :: flying))
    (msgType : msgTypeFromId message.header.msgid = some .close) :
    Phase (some endpoint.closeReceived) asked peer flying := by
  cases phase with
  | acknowledged _ _ isAck _ => simp [msgType] at isAck
  | refused _ _ _ => exact .ended (close_received_not_opening endpoint)
  | connected started talk =>
      cases talk with
      | data isData _ _ => simp [msgType] at isData
      | close _ _ => exact .ended (close_received_not_opening endpoint)

/-- The VideoCore reads the one OPEN of a port. -/
theorem Phase.fetch {entry : Option Endpoint} {message : SlotMessage}
    {asked flying : List SlotMessage} {peer : PeerPort}
    (phase : Phase entry (message :: asked) peer flying) :
    Phase entry asked .requested flying := by
  cases phase with
  | requesting opening unbound => exact .requested opening unbound

/-- The VideoCore answers an OPEN. -/
theorem Phase.answer {entry : Option Endpoint} {message : SlotMessage}
    {asked flying : List SlotMessage} (phase : Phase entry asked .requested flying) :
    (msgTypeFromId message.header.msgid = some .openAck →
      Phase entry asked (.acknowledged (srcPortFromId message.header.msgid))
        (flying ++ [message])) ∧
    (msgTypeFromId message.header.msgid = some .close →
      Phase entry asked .closed (flying ++ [message])) := by
  cases phase with
  | requested opening unbound =>
      exact ⟨fun isAck => .acknowledged opening unbound isAck .live,
        fun isClose => .refused opening unbound isClose⟩
  | acknowledged _ _ _ talk => exact absurd talk.not_requested id
  | connected _ talk => exact absurd talk.not_requested id

/-- The VideoCore goes on with an acknowledged connection. -/
theorem Phase.extend {entry : Option Endpoint} {message : SlotMessage}
    {asked flying : List SlotMessage}
    (phase : Phase entry asked (.acknowledged (srcPortFromId message.header.msgid)) flying) :
    (msgTypeFromId message.header.msgid = some .data →
      Phase entry asked (.acknowledged (srcPortFromId message.header.msgid))
        (flying ++ [message])) ∧
    (msgTypeFromId message.header.msgid = some .close →
      Phase entry asked .closed (flying ++ [message])) := by
  cases phase with
  | acknowledged opening unbound isAck talk =>
      exact ⟨fun isData => .acknowledged opening unbound isAck (talk.add_data isData rfl),
        fun isClose => .acknowledged opening unbound isAck (talk.add_close isClose rfl)⟩
  | connected started talk =>
      exact ⟨fun isData => .connected started (talk.add_data isData rfl),
        fun isClose => .connected started (talk.add_close isClose rfl)⟩

theorem armed_invariant {actions : List Action} {exchange : Exchange} {next : System}
    {action : Action} (inv : ExchangeInvariant exchange)
    (known : ProtocolInvariant actions exchange.sys.protocol)
    (unrelated : ∀ message opened, action ≠ .received message opened)
    (move : ProtocolStep exchange.sys.protocol action next.protocol) :
    ExchangeInvariant
      { exchange with
        sys := next
        toVideoCore := exchange.toVideoCore ++ storedMessages action.event } := by
  refine ⟨fun port => ?_, inv.expected⟩
  have phase := inv.phases port
  unfold Exchange.PhaseOf at phase ⊢
  simp only [requests_append]
  cases step_touches known.registry known.lifecycle move with
  | nothing same bland =>
      rw [same, requests_bland (bland port), List.append_nil]
      exact phase
  | @entry touched changed updated step =>
      rw [updated]
      by_cases here : port = touched
      · subst here
        rw [Function.update_self]
        apply phase.call step
        intro message opened event
        exact unrelated message opened (event_processed event)
      · rw [Function.update_of_ne here, requests_bland (step.bland_elsewhere here),
          List.append_nil]
        exact phase

/-- A message that concerns no other port leaves the phases of these alone. -/
theorem not_concerns_of_ne {message : SlotMessage} {port : ServiceRef}
    (other : port ≠ receiverRef message) : ¬Concerns port message :=
  fun concerns => other concerns.2.symm

theorem processed_invariant {exchange : Exchange} {next : System} {message : SlotMessage}
    {opened : Bool} {rest : List SlotMessage} (inv : ExchangeInvariant exchange)
    (oldest : exchange.toArm = message :: rest)
    (move : ProtocolStep exchange.sys.protocol (.received message opened) next.protocol) :
    ExchangeInvariant { exchange with sys := next, toArm := rest } := by
  refine ⟨fun port => ?_, ?_⟩
  · have phase := inv.phases port
    unfold Exchange.PhaseOf at phase ⊢
    simp only
    rw [oldest, in_flight_cons] at phase
    generalize next.protocol = after at move ⊢
    cases move with
    | quiet silent => simp [Action.event] at silent
    | abandoned silent => simp [Action.event] at silent
    | greeted msgType =>
        rw [if_neg (by simp [Concerns, msgType])] at phase
        exact phase
    | passed msgType other =>
        split_ifs at phase with concerns
        · have isData : msgTypeFromId message.header.msgid = some .data := by
            rcases concerns.1 with isAck | isClose | isData
            · rw [msgType, Option.some.injEq] at isAck
              exact absurd isAck other.2.1
            · rw [msgType, Option.some.injEq] at isClose
              exact absurd isClose other.2.2
            · exact isData
          exact phase.data isData
        · exact phase
    | acknowledged msgType present used =>
        by_cases here : port = receiverRef message
        · subst here
          rw [if_pos ⟨.inl msgType, rfl⟩, present] at phase
          simp only [Protocol.set, Function.update_self]
          exact phase.acknowledge msgType
        · rw [if_neg (not_concerns_of_ne here)] at phase
          simp only [Protocol.set, Function.update_of_ne here]
          exact phase
    | closed msgType present used =>
        by_cases here : port = receiverRef message
        · subst here
          rw [if_pos ⟨.inr (.inl msgType), rfl⟩, present] at phase
          simp only [Protocol.set, Function.update_self]
          exact phase.close msgType
        · rw [if_neg (not_concerns_of_ne here)] at phase
          simp only [Protocol.set, Function.update_of_ne here]
          exact phase
  · intro other member
    exact inv.expected other (by rw [oldest]; exact List.mem_cons_of_mem _ member)

theorem fetched_invariant {exchange : Exchange} {message : SlotMessage}
    {rest : List SlotMessage} (inv : ExchangeInvariant exchange)
    (oldest : exchange.toVideoCore = message :: rest) :
    ExchangeInvariant
      { exchange with toVideoCore := rest, ports := exchange.noteOpen message } := by
  refine ⟨fun port => ?_, inv.expected⟩
  have phase := inv.phases port
  unfold Exchange.PhaseOf at phase ⊢
  simp only [Exchange.noteOpen]
  rw [oldest, requests_cons] at phase
  by_cases isOpen : msgTypeFromId message.header.msgid = some .open
  · rw [if_pos isOpen]
    by_cases here : port = senderRef message
    · subst here
      rw [if_pos ⟨isOpen, rfl⟩] at phase
      rw [Function.update_self]
      exact phase.fetch
    · rw [if_neg (fun asks : Requests port message => here asks.2.symm)] at phase
      rw [Function.update_of_ne here]
      exact phase
  · rw [if_neg isOpen]
    rw [if_neg (fun asks : Requests port message => isOpen asks.1)] at phase
    exact phase

/-- The VideoCore writes a message for a port: only the phase of that port moves. -/
theorem answer_invariant {exchange : Exchange} {message : SlotMessage} {peer : PeerPort}
    (inv : ExchangeInvariant exchange) (concerns : Concerns (receiverRef message) message)
    (moved : Phase (exchange.sys.protocol.endpoints (receiverRef message))
      (requests exchange.toVideoCore (receiverRef message)) peer
      (inFlight exchange.toArm (receiverRef message) ++ [message])) :
    ExchangeInvariant (exchange.answer message peer) := by
  refine ⟨fun port => ?_, ?_⟩
  · have phase := inv.phases port
    unfold Exchange.PhaseOf at phase ⊢
    simp only [Exchange.answer, in_flight_snoc]
    by_cases here : port = receiverRef message
    · subst here
      rw [if_pos concerns, Function.update_self]
      exact moved
    · rw [if_neg (not_concerns_of_ne here), Function.update_of_ne here]
      exact phase
  · intro other member
    rcases List.mem_append.mp member with old | new
    · exact inv.expected other old
    · rw [List.mem_singleton.mp new]
      exact .inr (.inr concerns)

/-- The VideoCore writes a message that is for no port. -/
theorem written_invariant {exchange : Exchange} {message : SlotMessage} {greeted : Bool}
    (inv : ExchangeInvariant exchange)
    (msgType : msgTypeFromId message.header.msgid = some .connect ∨
      msgTypeFromId message.header.msgid = some .padding) :
    ExchangeInvariant
      { exchange with toArm := exchange.toArm ++ [message], greeted := greeted } := by
  have unrelated : ∀ port, ¬Concerns port message := by
    rintro port ⟨isType, _⟩
    rcases msgType with isConnect | isPadding
    · simp [isConnect] at isType
    · simp [isPadding] at isType
  refine ⟨fun port => ?_, ?_⟩
  · have phase := inv.phases port
    unfold Exchange.PhaseOf at phase ⊢
    simp only [in_flight_snoc, if_neg (unrelated port)]
    exact phase
  · intro other member
    rcases List.mem_append.mp member with old | new
    · exact inv.expected other old
    · rw [List.mem_singleton.mp new]
      rcases msgType with isConnect | isPadding
      · exact .inl isConnect
      · exact .inr (.inl isPadding)

theorem exchange_invariant_step {actions : List Action} {before after : Exchange}
    {label : ExchangeAction} (ready : before.sys.Ready)
    (known : ProtocolInvariant actions before.sys.protocol) (inv : ExchangeInvariant before)
    (move : ExchangeStep before label after) : ExchangeInvariant after := by
  cases move with
  | armed unrelated step => exact armed_invariant inv known unrelated (step_simulated ready step).2
  | processed oldest step => exact processed_invariant inv oldest (step_simulated ready step).2
  | fetched oldest => exact fetched_invariant inv oldest
  | greeted _ msgType => exact written_invariant inv (.inl msgType)
  | padded msgType =>
      have written : ExchangeInvariant
          { before with toArm := before.toArm ++ [_], greeted := before.greeted } :=
        written_invariant inv (.inr msgType)
      exact written
  | @acknowledged message msgType asked =>
      have phase := inv.phases (receiverRef message)
      unfold Exchange.PhaseOf at phase
      rw [asked] at phase
      exact answer_invariant inv ⟨.inl msgType, rfl⟩ (phase.answer.1 msgType)
  | @refused message msgType asked =>
      have phase := inv.phases (receiverRef message)
      unfold Exchange.PhaseOf at phase
      rw [asked] at phase
      exact answer_invariant inv ⟨.inr (.inl msgType), rfl⟩ (phase.answer.2 msgType)
  | @data message msgType connected =>
      have phase := inv.phases (receiverRef message)
      unfold Exchange.PhaseOf at phase
      rw [connected] at phase
      exact answer_invariant inv ⟨.inr (.inr msgType), rfl⟩ (phase.extend.1 msgType)
  | @closed message msgType connected =>
      have phase := inv.phases (receiverRef message)
      unfold Exchange.PhaseOf at phase
      rw [connected] at phase
      exact answer_invariant inv ⟨.inr (.inl msgType), rfl⟩ (phase.extend.2 msgType)

/-- What this side does in an exchange is a run of its system. -/
theorem exchange_system_run {start reached : Exchange} {labels : List ExchangeAction}
    (run : Run ExchangeStep start labels reached) :
    ∃ actions, Run SystemStep start.sys actions reached.sys := by
  induction run with
  | refl => exact ⟨[], .refl⟩
  | snoc _ move ih =>
      obtain ⟨actions, system⟩ := ih
      cases move with
      | armed _ step => exact ⟨_, system.snoc step⟩
      | processed _ step => exact ⟨_, system.snoc step⟩
      | _ => exact ⟨actions, system⟩

theorem fresh_exchange_invariant {state : State} (facts : FreshState state) :
    ExchangeInvariant (Exchange.new (freshInstance state)) := by
  refine ⟨fun port => ?_, by simp [Exchange.new]⟩
  have initial : (Exchange.new (freshInstance state)).sys.protocol = Protocol.initial :=
    fresh_protocol facts
  rw [Exchange.PhaseOf, initial]
  exact .unused

/-- The invariant of an exchange, with what is known about the system in it. -/
theorem exchange_run {state : State} {labels : List ExchangeAction} {reached : Exchange}
    (facts : FreshState state)
    (run : Run ExchangeStep (Exchange.new (freshInstance state)) labels reached) :
    reached.sys.Ready ∧ ExchangeInvariant reached := by
  have system : ∀ {labels : List ExchangeAction} {reached : Exchange},
      Run ExchangeStep (Exchange.new (freshInstance state)) labels reached →
        reached.sys.Ready ∧ ∃ actions, ProtocolInvariant actions reached.sys.protocol := by
    intro labels reached run
    obtain ⟨actions, systemRun⟩ := exchange_system_run run
    have start : (Exchange.new (freshInstance state)).sys = System.new (freshInstance state) :=
      rfl
    rw [start] at systemRun
    obtain ⟨ready, abstractRun⟩ := run_simulated (fun _ _ => True) facts systemRun.guarded
    exact ⟨ready, actions, protocol_invariant_run abstractRun.unguarded⟩
  refine ⟨(system run).1, ?_⟩
  apply run.invariant fun _ exchange => ExchangeInvariant exchange
  · exact fresh_exchange_invariant facts
  · intro labels before label after run inv move
    obtain ⟨ready, actions, known⟩ := system run
    exact exchange_invariant_step ready known inv move

/-- The first message for a port finds a service in use there, and a CLOSE comes from
the port the service is connected with. -/
theorem Phase.first {entry : Option Endpoint} {message : SlotMessage}
    {asked flying : List SlotMessage} {peer : PeerPort}
    (phase : Phase entry asked peer (message :: flying)) :
    ∃ endpoint, entry = some endpoint ∧ endpoint.srvstate ≠ .free ∧
      (msgTypeFromId message.header.msgid = some .close →
        endpoint.remoteport = srcPortFromId message.header.msgid ∨
          endpoint.remoteport = vchiqPortFree) := by
  cases phase with
  | acknowledged opening unbound _ _ =>
      exact ⟨_, rfl, by simp [opening], fun _ => .inr unbound⟩
  | refused opening unbound _ =>
      exact ⟨_, rfl, by simp [opening], fun _ => .inr unbound⟩
  | connected started talk =>
      refine ⟨_, rfl, by rcases started with state | state <;> simp [state], ?_⟩
      intro isClose
      cases talk with
      | data isData _ _ => simp [isClose] at isData
      | close _ source => exact .inl source.symm

/-- Every message the slot handler may find first is for a service in use, and a CLOSE
comes from the port the service is connected with. -/
theorem oldest_addressed {exchange : Exchange} {message : SlotMessage}
    {rest : List SlotMessage} (inv : ExchangeInvariant exchange)
    (oldest : exchange.toArm = message :: rest) :
    Addressed exchange.sys.inst message ∧ CloseAgrees exchange.sys.inst message := by
  rcases inv.expected message (by simp [oldest]) with isConnect | isPadding | concerns
  · exact ⟨.inl isConnect, fun isClose => by simp [isConnect] at isClose⟩
  · exact ⟨.inr (.inl isPadding), fun isClose => by simp [isPadding] at isClose⟩
  · have phase := inv.phases (receiverRef message)
    unfold Exchange.PhaseOf at phase
    rw [oldest, in_flight_cons, if_pos concerns] at phase
    obtain ⟨endpoint, present, used, bound⟩ := phase.first
    obtain ⟨service, stored, rfl⟩ := endpoints_of_some present
    constructor
    · refine .inr (.inr ⟨?_, service, stored, used⟩)
      rcases concerns.1 with isAck | isClose | isData
      · exact ⟨.openAck, isAck, .inl rfl⟩
      · exact ⟨.close, isClose, .inr (.inl rfl)⟩
      · exact ⟨.data, isData, .inr (.inr (.inl rfl))⟩
    · rintro isClose other ⟨storedOther, _⟩ ⟨differs, notFree, _⟩
      have same : other = service := Option.some.inj (storedOther.symm.trans stored)
      subst same
      rcases bound isClose with agrees | unbound
      · exact differs agrees
      · exact notFree unbound

/-- In every reachable state of an exchange the slot handler handles the message it
finds first. -/
theorem slot_handler_never_aborts {raw : SlotZero} {memory : Memory} {totalMemory : Nat}
    {fresh : State} {labels : List ExchangeAction} {reached : Exchange}
    (made : freshState raw memory totalMemory = .ok fresh)
    (run : Run ExchangeStep (Exchange.new (freshInstance fresh)) labels reached) :
    ∀ message rest, reached.toArm = message :: rest →
      ∃ inst, dispatch reached.sys.inst message = .ok inst := by
  intro message rest oldest
  obtain ⟨ready, inv⟩ := exchange_run (fresh_state_facts made) run
  obtain ⟨addressed, agrees⟩ := oldest_addressed inv oldest
  exact dispatch_ok ready.consistent addressed agrees

/-- What may be asked of an exchange, for runs that are computed. -/
inductive ExchangeMove where
  | arm (move : Move)
  | process
  | fetch
  | write (message : SlotMessage)

/-- The VideoCore writes what it may write. -/
def Exchange.write (exchange : Exchange) (message : SlotMessage) : Option Exchange :=
  match msgTypeFromId message.header.msgid, exchange.ports (receiverRef message) with
  | some .connect, _ =>
      if exchange.greeted then none
      else some { exchange with toArm := exchange.toArm ++ [message], greeted := true }
  | some .padding, _ => some { exchange with toArm := exchange.toArm ++ [message] }
  | some .openAck, .requested =>
      some (exchange.answer message (.acknowledged (srcPortFromId message.header.msgid)))
  | some .close, .requested => some (exchange.answer message .closed)
  | some .data, .acknowledged remote =>
      if remote = srcPortFromId message.header.msgid then
        some (exchange.answer message (.acknowledged (srcPortFromId message.header.msgid)))
      else none
  | some .close, .acknowledged remote =>
      if remote = srcPortFromId message.header.msgid then
        some (exchange.answer message .closed)
      else none
  | _, _ => none

theorem write_step {exchange next : Exchange} {message : SlotMessage}
    (written : exchange.write message = some next) :
    ExchangeStep exchange (.wrote message) next := by
  unfold Exchange.write at written
  split at written
  · rename_i msgType
    split_ifs at written with greeted
    simp only [Option.some.injEq] at written
    subst written
    exact .greeted (by simpa using greeted) msgType
  · rename_i msgType
    simp only [Option.some.injEq] at written
    subst written
    exact .padded msgType
  · rename_i msgType asked
    simp only [Option.some.injEq] at written
    subst written
    exact .acknowledged msgType asked
  · rename_i msgType asked
    simp only [Option.some.injEq] at written
    subst written
    exact .refused msgType asked
  · rename_i remote msgType connected
    split_ifs at written with source
    simp only [Option.some.injEq] at written
    subst written
    exact .data msgType (by rw [connected, source])
  · rename_i remote msgType connected
    split_ifs at written with source
    simp only [Option.some.injEq] at written
    subst written
    exact .closed msgType (by rw [connected, source])
  · simp at written

def Exchange.perform (exchange : Exchange) : ExchangeMove → Option (ExchangeAction × Exchange)
  | .arm move =>
      match exchange.sys.perform move with
      | none => none
      | some (.received _ _, _) => none
      | some (action, next) =>
          some (.arm action,
            { exchange with
              sys := next
              toVideoCore := exchange.toVideoCore ++ storedMessages action.event })
  | .process =>
      match exchange.toArm with
      | [] => none
      | message :: rest =>
          match exchange.sys.perform (.receive message) with
          | some (.received received opened, next) =>
              if received = message then
                some (.arm (.received message opened),
                  { exchange with sys := next, toArm := rest })
              else none
          | _ => none
  | .fetch =>
      match exchange.toVideoCore with
      | [] => none
      | message :: rest =>
          some (.fetched message,
            { exchange with toVideoCore := rest, ports := exchange.noteOpen message })
  | .write message => (exchange.write message).map fun next => (.wrote message, next)

theorem exchange_perform_step {exchange next : Exchange} {move : ExchangeMove}
    {label : ExchangeAction} (performed : exchange.perform move = some (label, next)) :
    ExchangeStep exchange label next := by
  cases move with
  | arm move =>
      simp only [Exchange.perform] at performed
      split at performed
      · simp at performed
      · simp at performed
      · rename_i action after notReceived moved
        simp only [Option.some.injEq, Prod.mk.injEq] at performed
        obtain ⟨rfl, rfl⟩ := performed
        refine .armed ?_ (perform_step moved)
        rintro message opened rfl
        exact notReceived message opened rfl
  | process =>
      simp only [Exchange.perform] at performed
      split at performed
      · simp at performed
      · rename_i message rest oldest
        split at performed
        · rename_i received opened after moved
          split_ifs at performed with same
          subst same
          simp only [Option.some.injEq, Prod.mk.injEq] at performed
          obtain ⟨rfl, rfl⟩ := performed
          exact .processed oldest (perform_step moved)
        · simp at performed
  | fetch =>
      simp only [Exchange.perform] at performed
      split at performed
      · simp at performed
      · rename_i message rest oldest
        simp only [Option.some.injEq, Prod.mk.injEq] at performed
        obtain ⟨rfl, rfl⟩ := performed
        exact .fetched oldest
  | write message =>
      simp only [Exchange.perform, Option.map_eq_some_iff, Prod.mk.injEq] at performed
      obtain ⟨after, written, rfl, rfl⟩ := performed
      exact write_step written

def Exchange.performAll (exchange : Exchange) : List ExchangeMove → Option Exchange
  | [] => some exchange
  | move :: moves =>
      match exchange.perform move with
      | none => none
      | some (_, next) => next.performAll moves

theorem exchange_perform_all_run {start exchange reached : Exchange}
    {moves : List ExchangeMove} {labels : List ExchangeAction}
    (run : Run ExchangeStep start labels exchange)
    (performed : exchange.performAll moves = some reached) :
    ∃ labels, Run ExchangeStep start labels reached := by
  induction moves generalizing labels exchange with
  | nil =>
      simp only [Exchange.performAll, Option.some.injEq] at performed
      subst performed
      exact ⟨labels, run⟩
  | cons move moves ih =>
      simp only [Exchange.performAll] at performed
      cases first : exchange.perform move with
      | none => simp [first] at performed
      | some result =>
          simp only [first] at performed
          exact ih (run.snoc (exchange_perform_step first)) performed

/-- Both sides close at the same time, with DATA of the VideoCore still on the way. -/
def crossingMoves : List ExchangeMove :=
  [.arm (.call .initializeInstance), .arm (.call .connect), .fetch,
    .write (remoteMessage .connect 0 0), .process, .arm .resume,
    .arm (.call (.serviceOpen sampleSetup)), .fetch, .write (remoteMessage .openAck 75 0),
    .process, .arm .resume, .write (remoteMessage .data 75 0),
    .arm (.call (.serviceClose 0)), .write (remoteMessage .close 75 0)]

set_option maxRecDepth 20000 in
theorem crossing_performed :
    ∃ fresh reached,
      freshState blankSlotZero (fun _ => 0) (65 * vchiqSlotSize) = .ok fresh ∧
      (Exchange.new (freshInstance fresh)).performAll crossingMoves = some reached ∧
      reached.toArm = [remoteMessage .data 75 0, remoteMessage .close 75 0] ∧
      reached.toVideoCore = [remoteMessage .close 0 75] :=
  ⟨_, _, rfl, rfl, rfl, rfl⟩

/-- The DATA and the CLOSE that cross the CLOSE of this side are both handled. -/
theorem crossing_handled :
    ∃ (reached : Exchange) (inst : Instance),
      reached.toArm = [remoteMessage .data 75 0, remoteMessage .close 75 0] ∧
        reached.toVideoCore = [remoteMessage .close 0 75] ∧
        dispatch reached.sys.inst (remoteMessage .data 75 0) = .ok inst := by
  obtain ⟨fresh, reached, made, performed, flying, sent⟩ := crossing_performed
  obtain ⟨labels, run⟩ := exchange_perform_all_run .refl performed
  obtain ⟨inst, handled⟩ := slot_handler_never_aborts made run _ _ flying
  exact ⟨reached, inst, flying, sent, handled⟩

end RuspiroVchiq.Vchi
