import RuspiroVchiq.Vchi.SharedSlots
import RuspiroVchiq.Receive.Stream

/-!
# From the bytes of the VideoCore to the client

The whole system over the shared memory: the VideoCore writes its stream into its own
slots and publishes it in batches, `slot_handler` is polled as the loop over these bytes,
and the clients call, transmit and dequeue in between. Every such run is one of the
system whose slots change behind its back, and the payloads a client gets are those of
the stream.
-/

namespace RuspiroVchiq.Vchi

open RuspiroVchiq.Config
open RuspiroVchiq.Shared
open RuspiroVchiq.Vchiq
open RuspiroVchiq.Delivery
open RuspiroVchiq.Transmit
open RuspiroVchiq.Receive
open RuspiroVchiq.Lib.LabelledRun
open RuspiroVchiq.Lib.RingQueue
open RuspiroVchiq.Lib.ByteMemory

set_option autoImplicit false

/-- The VideoCore has published these messages, and the ones that are not read yet are in
its own slots. -/
structure OwnSlots (stream : List SlotMessage) (inst : Instance) (published : List SlotMessage) :
    Prop where
  isPublished : Published stream inst published
  remote : ∀ position, rxPosOf inst ≤ position → position < streamEnd published →
    streamSlot (remoteState inst) position ≤ (remoteState inst).slotLast

/-- What the VideoCore may do: it writes its own slots and its own state and publishes
messages of the stream. -/
structure RemoteWrites (stream : List SlotMessage) (before after : Instance) : Prop where
  only : after = before.withSlots after.state.slotState
  undisturbed : Undisturbed before.state after.state
  rxPos : rxPosOf after = rxPosOf before
  rxData : after.state.slotState.rxData = before.state.slotState.rxData
  currentSlot : rxPosOf before % vchiqSlotSize ≠ 0 →
    streamSlot (remoteState after) (rxPosOf before) =
      streamSlot (remoteState before) (rxPosOf before)
  wellFormed : ∃ published, OwnSlots stream after published

/-- The messages a poll hands over, as steps of the system. -/
def pollLabels (sys : System) : List SlotMessage → List (Action × List RingLabel)
  | [] => []
  | message :: rest =>
      let action := Action.received message (opensService sys.inst.state message)
      (action, sys.ringLabels action) ::
        match dispatch sys.inst message with
        | .error _ => []
        | .ok inst => pollLabels { sys with inst := inst } rest

/-- The messages among them that the service at the port accepts when their turn comes. -/
def acceptedBy (port : ServiceRef) : Instance → List SlotMessage → List SlotMessage
  | _, [] => []
  | inst, message :: rest =>
      (if receiverRef message = port ∧ (acceptorOf inst message).isSome then [message] else []) ++
        match dispatch inst message with
        | .error _ => []
        | .ok next => acceptedBy port next rest

inductive WireLabel where
  | acted (label : Action × List RingLabel)
  | polled (dispatched : List SlotMessage) (accepted : ServiceRef → List SlotMessage)
      (steps : List (Action × List RingLabel))
  | written

inductive WireStep (stream : List SlotMessage) : System → WireLabel → System → Prop where
  | acted {sys next : System} {label : Action × List RingLabel}
      (step : ObservedStep sys label next)
      (own : ∀ message opened, label.1 ≠ .received message opened) :
      WireStep stream sys (.acted label) next
  | polled {sys : System} {after : Instance} {dispatched : List SlotMessage} (fuel : Nat)
      (outcome : slotHandler fuel sys.inst = .done after dispatched) :
      WireStep stream sys
        (.polled dispatched (fun port => acceptedBy port sys.inst dispatched)
          (pollLabels sys dispatched))
        { sys with inst := after }
  | written {sys : System} {after : Instance} (writes : RemoteWrites stream sys.inst after) :
      WireStep stream sys .written { sys with inst := after }

def WireLabel.acts : WireLabel → List (Action × List RingLabel)
  | .acted label => [label]
  | .polled _ _ steps => steps
  | .written => []

def WireLabel.reads : WireLabel → List SlotMessage
  | .polled dispatched _ _ => dispatched
  | _ => []

def WireLabel.accepts (port : ServiceRef) : WireLabel → List SlotMessage
  | .polled _ accepted _ => accepted port
  | _ => []

/-- The steps of the system in a run. -/
def wireActs (labels : List WireLabel) : List (Action × List RingLabel) :=
  labels.flatMap WireLabel.acts

/-- The messages `slot_handler` read. -/
def readIn (labels : List WireLabel) : List SlotMessage := labels.flatMap WireLabel.reads

/-- The messages the service at the port accepted. -/
def acceptedIn (port : ServiceRef) (labels : List WireLabel) : List SlotMessage :=
  labels.flatMap (WireLabel.accepts port)

/-- A message that is accepted at the port finds room in the queue. -/
def HasRoom (port : ServiceRef) (inst : Instance) (message : SlotMessage) : Prop :=
  receiverRef message = port → (acceptorOf inst message).isSome →
    ∀ user, userOf inst port = some user → ¬QueueFull user

/-- The runs that are looked at: the payloads of the clients are tidy, and polls are made
where the stream can be decoded and the queue at the port has room. -/
def WireGuard (stream : List SlotMessage) (port : ServiceRef) (sys : System) : WireLabel → Prop
  | .acted label => TidyAction label.1
  | .polled dispatched _ _ => Decodable stream sys.inst ∧ Along (HasRoom port) sys.inst dispatched
  | .written => True

/-- The message of the step fits into the rest of the slot the ARM is in, and its payload is
tidy: aligned to at most a header and, with the header, no longer than a slot. -/
def UnpaddedAction (sys : System) : WireLabel → Prop
  | .acted label => TidyAction label.1 ∧
      ∀ message ∈ label.1.stores, messageStride message ≤ slotSpace sys.inst.state
  | _ => True

theorem poll_labels_with_slots (sys : System) (slotState : SlotState)
    (messages : List SlotMessage) :
    pollLabels { sys with inst := sys.inst.withSlots slotState } messages =
      pollLabels sys messages := by
  induction messages generalizing sys with
  | nil => rfl
  | cons message rest ih =>
      have labels : System.ringLabels { sys with inst := sys.inst.withSlots slotState } =
          sys.ringLabels := rfl
      simp only [pollLabels, dispatch_with_slots, labels]
      cases handled : dispatch sys.inst message with
      | error panic => rfl
      | ok next =>
          have others := ih { sys with inst := next }
          simp only [Except.map]
          rw [others]
          rfl

/-- The guard on the steps of the system. -/
def LooseRoom (port : ServiceRef) (sys : System) : Option (Action × List RingLabel) → Prop
  | some label => RoomAt port sys label
  | none => True

/-- What a message that is handed over does to the rings. -/
theorem received_labels (sys : System) (message : SlotMessage) (opened : Bool) :
    sys.ringLabels (.received message opened) =
      (acceptorOf sys.inst message).toList.map fun service =>
        .delivered (receiverRef message) message
          (announcementSkipped service.base.userdata sys.inst.completion) := by
  simp only [System.ringLabels]
  cases acceptorOf sys.inst message <;> rfl

theorem room_at_received {port : ServiceRef} {sys : System} {message : SlotMessage} {opened : Bool}
    (room : HasRoom port sys.inst message) :
    RoomAt port sys (.received message opened, sys.ringLabels (.received message opened)) := by
  intro delivered skipped member user present
  simp only [received_labels, List.mem_map, Option.mem_toList, RingLabel.delivered.injEq] at member
  rcases member with ⟨service, found, here, _⟩
  exact room here (by rw [found]; rfl) user present

/-- A guard on the steps of the system that a property of the messages provides for. -/
structure Provides (property : Instance → SlotMessage → Prop)
    (guard : System → Option (Action × List RingLabel) → Prop) : Prop where
  blind : ∀ inst slotState message,
    property (Instance.withSlots inst slotState) message ↔ property inst message
  quiet : ∀ sys, guard sys none
  own : ∀ sys label, label.2 = System.ringLabels sys label.1 →
    (∀ message opened, label.1 ≠ .received message opened) → guard sys (some label)
  received : ∀ sys message opened, property sys.inst message →
    guard sys (some (.received message opened, sys.ringLabels (.received message opened)))

theorem provides_nothing : Provides (fun _ _ => True) fun _ _ => True :=
  ⟨fun _ _ _ => Iff.rfl, fun _ => trivial, fun _ _ _ _ => trivial, fun _ _ _ _ => trivial⟩

/-- The slots with the receive cursor elsewhere. -/
def rxMoved (slotState : SlotState) (rxPos : Nat) (rxData : Option SlotPosition) : SlotState :=
  { slotState with rxPos := rxPos, rxData := rxData }

/-- One iteration of the loop: a message is handed over and the cursor moves. -/
theorem receive_message_cases {inst next : Instance} {txPos : Nat} {message : SlotMessage}
    (received : receiveMessage inst txPos = .ok (message, next)) :
    ∃ middle, dispatch inst message = .ok middle ∧ ∃ rxPos rxData,
      next = middle.withSlots (rxMoved inst.state.slotState rxPos rxData) := by
  simp only [receiveMessage] at received
  cases found :
      inst.state.slotState.slotData.readMessage (openRxSlot inst.state.slotState txPos) with
  | error panic => simp [found] at received
  | ok read =>
      simp only [found] at received
      cases handled : dispatch inst read with
      | error panic => simp [handled] at received
      | ok middle =>
          simp only [handled, Except.ok.injEq, Prod.mk.injEq] at received
          rcases received with ⟨rfl, rfl⟩
          refine ⟨middle, handled, ?_⟩
          rw [(dispatched_aside handled).slots]
          exact ⟨_, _, rfl⟩

/-- What a poll does to the slots: it moves the receive cursor. -/
structure CursorMoved (before after : State) : Prop where
  slots : ∃ rxPos rxData, after.slotState = rxMoved before.slotState rxPos rxData
  available : after.slotQueueAvailable = before.slotQueueAvailable

theorem CursorMoved.undisturbed {before after : State} (moved : CursorMoved before after) :
    Undisturbed before after := by
  rcases moved with ⟨⟨rxPos, rxData, slots⟩, available⟩
  refine ⟨?_, ?_, ?_, ?_, available, ?_, ?_, ?_, ?_⟩
  all_goals rw [slots]
  all_goals first | rfl | exact fun _ _ _ => rfl

theorem acted_in_append (earlier later : List (Option (Action × List RingLabel))) :
    actedIn (earlier ++ later) = actedIn earlier ++ actedIn later :=
  List.filterMap_append

/-- A poll is a run of the system whose slots change. -/
theorem poll_loose {property : Instance → SlotMessage → Prop}
    {guard : System → Option (Action × List RingLabel) → Prop} (provides : Provides property guard)
    {sys : System} {txPos fuel : Nat} {after : Instance} {dispatched : List SlotMessage}
    (outcome : receiveLoop txPos fuel sys.inst = .done after dispatched)
    (along : Along property sys.inst dispatched) :
    (∃ loose, Run (Guarded LooseStep guard) sys loose { sys with inst := after } ∧
      actedIn loose = pollLabels sys dispatched) ∧ CursorMoved sys.inst.state after.state := by
  induction fuel generalizing sys dispatched with
  | zero => simp [receiveLoop] at outcome
  | succ fuel ih =>
      unfold receiveLoop at outcome
      split_ifs at outcome with finished
      · simp only [PollOutcome.done.injEq] at outcome
        rcases outcome with ⟨rfl, rfl⟩
        exact ⟨⟨[], .refl, rfl⟩, ⟨_, _, rfl⟩, rfl⟩
      · cases received : receiveMessage sys.inst txPos with
        | error panic => simp [received] at outcome
        | ok result =>
            rcases result with ⟨message, next⟩
            simp only [received] at outcome
            cases others : receiveLoop txPos fuel next with
            | panicked panic => simp [others] at outcome
            | outOfFuel => simp [others] at outcome
            | done last rest =>
                simp only [others, PollOutcome.done.injEq] at outcome
                rcases outcome with ⟨rfl, rfl⟩
                rcases receive_message_cases received with ⟨middle, handled, rxPos, rxData, rfl⟩
                have later := along_with_slots provides.blind middle
                  (rxMoved sys.inst.state.slotState rxPos rxData) (along.2 middle handled)
                have further := @ih
                  { sys with
                    inst := middle.withSlots (rxMoved sys.inst.state.slotState rxPos rxData) } _
                  others later
                rcases further with ⟨⟨loose, run, acts⟩, moved⟩
                have first : Guarded LooseStep guard sys
                    (some (.received message (opensService sys.inst.state message),
                      sys.ringLabels (.received message (opensService sys.inst.state message))))
                    { sys with inst := middle } :=
                  ⟨.acted ⟨.received handled, rfl⟩, provides.received sys message _ along.1⟩
                have second : Guarded LooseStep guard { sys with inst := middle } none
                    { sys with
                      inst := middle.withSlots (rxMoved sys.inst.state.slotState rxPos rxData) } :=
                  ⟨.slots _, provides.quiet _⟩
                refine ⟨⟨_, (Run.refl.snoc first |>.snoc second).append run, ?_⟩, ?_, ?_⟩
                · rw [acted_in_append, acts, poll_labels_with_slots { sys with inst := middle }]
                  simp only [pollLabels, handled]
                  rfl
                · rcases moved.slots with ⟨lastPos, lastData, slots⟩
                  exact ⟨lastPos, lastData, slots⟩
                · rw [moved.available]
                  exact (dispatched_aside handled).available

theorem delivered_to_append (port : ServiceRef) (earlier later : List RingLabel) :
    deliveredTo port (earlier ++ later) = deliveredTo port earlier ++ deliveredTo port later :=
  List.filterMap_append

theorem ring_log_append (earlier later : List (Action × List RingLabel)) :
    ringLog (earlier ++ later) = ringLog earlier ++ ringLog later :=
  List.flatMap_append

/-- The rings get the accepted messages of a poll. -/
theorem poll_delivers (port : ServiceRef) (sys : System) (messages : List SlotMessage) :
    deliveredTo port (ringLog (pollLabels sys messages)) = acceptedBy port sys.inst messages := by
  induction messages generalizing sys with
  | nil => rfl
  | cons message rest ih =>
      have here : deliveredTo port (sys.ringLabels (.received message
          (opensService sys.inst.state message))) =
          if receiverRef message = port ∧ (acceptorOf sys.inst message).isSome then [message]
          else [] := by
        rw [received_labels]
        cases acceptorOf sys.inst message with
        | none => simp [deliveredTo]
        | some service =>
            by_cases same : receiverRef message = port <;>
              simp [deliveredTo, RingLabel.messageFor, same]
      simp only [pollLabels, acceptedBy]
      have split : ∀ label later, ringLog (label :: later) = label.2 ++ ringLog later :=
        fun label later => rfl
      rw [split, delivered_to_append, here]
      cases handled : dispatch sys.inst message with
      | error panic => rfl
      | ok next => exact congrArg _ (ih { sys with inst := next })

theorem accepted_by_sublist (port : ServiceRef) (inst : Instance) (messages : List SlotMessage) :
    (acceptedBy port inst messages).Sublist messages := by
  induction messages generalizing inst with
  | nil => exact .slnil
  | cons message rest ih =>
      simp only [acceptedBy]
      have tail : ∀ later : List SlotMessage, later.Sublist rest →
          ((if receiverRef message = port ∧ (acceptorOf inst message).isSome then [message]
            else []) ++ later).Sublist (message :: rest) := by
        intro later among
        split_ifs
        · exact among.cons_cons message
        · exact among.cons message
      cases dispatch inst message with
      | error panic => exact tail [] (List.nil_sublist rest)
      | ok next => exact tail _ (ih next)

/-- Nothing but `slot_handler` delivers. -/
theorem own_delivers_nothing {sys : System} {action : Action}
    (own : ∀ message opened, action ≠ .received message opened) (port : ServiceRef) :
    deliveredTo port (sys.ringLabels action) = [] := by
  cases action with
  | received message opened => exact absurd rfl (own message opened)
  | dequeued reference =>
      simp only [System.ringLabels]
      split
      · rfl
      · unfold dequeueLabels
        split
        · rfl
        · split <;> rfl
  | _ => rfl

theorem room_at_own {port : ServiceRef} {sys : System} {label : Action × List RingLabel}
    (own : ∀ message opened, label.1 ≠ .received message opened)
    (rings : label.2 = sys.ringLabels label.1) : RoomAt port sys label := by
  intro message skipped member user _
  have nothing := @own_delivers_nothing sys _ own port
  rw [← rings, deliveredTo, List.filterMap_eq_nil_iff] at nothing
  have absent := nothing _ member
  simp [RingLabel.messageFor] at absent

theorem room_provided (port : ServiceRef) : Provides (HasRoom port) (LooseRoom port) :=
  ⟨fun _ _ _ => Iff.rfl, fun _ => trivial, fun _ _ rings own => room_at_own own rings,
    fun _ _ _ room => room_at_received room⟩

section Loose

variable {stream : List SlotMessage} {property : Instance → SlotMessage → Prop}
  {guard : System → Option (Action × List RingLabel) → Prop}

/-- The polls hand over messages with the property only. -/
def HandsOver (property : Instance → SlotMessage → Prop) (sys : System) : WireLabel → Prop
  | .polled dispatched _ _ => Along property sys.inst dispatched
  | _ => True

/-- A step over the shared memory is a run of the system whose slots change. -/
theorem wire_loose (provides : Provides property guard) {sys next : System} {label : WireLabel}
    (step : WireStep stream sys label next) (hands : HandsOver property sys label) :
    ∃ loose, Run (Guarded LooseStep guard) sys loose next ∧ actedIn loose = label.acts := by
  cases step with
  | @acted _ label observed own =>
      exact ⟨[some label],
        .snoc .refl ⟨.acted observed, provides.own sys label observed.rings own⟩, rfl⟩
  | polled fuel outcome => exact (poll_loose provides outcome hands).1
  | @written after writes =>
      have loose : LooseStep sys none { sys with inst := after } := by
        rw [writes.only]
        exact .slots _
      exact ⟨[none], .snoc .refl ⟨loose, provides.quiet sys⟩, rfl⟩

theorem wire_run_loose (provides : Provides property guard)
    {allowed : System → WireLabel → Prop}
    (hands : ∀ sys label, allowed sys label → HandsOver property sys label)
    {start reached : System} {labels : List WireLabel}
    (run : Run (Guarded (WireStep stream) allowed) start labels reached) :
    ∃ loose, Run (Guarded LooseStep guard) start loose reached ∧
      actedIn loose = wireActs labels := by
  induction run with
  | refl => exact ⟨[], .refl, rfl⟩
  | snoc _ step ih =>
      rcases ih with ⟨earlier, run, acts⟩
      rcases wire_loose provides step.1 (hands _ _ step.2) with ⟨later, more, moreActs⟩
      refine ⟨earlier ++ later, run.append more, ?_⟩
      rw [acted_in_append, acts, moreActs, wireActs, wireActs, List.flatMap_append]
      simp

end Loose

theorem wire_guard_hands {stream : List SlotMessage} {port : ServiceRef} (sys : System)
    (label : WireLabel) (guard : WireGuard stream port sys label) :
    HandsOver (HasRoom port) sys label := by
  cases label with
  | polled dispatched accepted steps => exact guard.2
  | _ => trivial

theorem accepted_in_delivered {stream : List SlotMessage} {port : ServiceRef}
    {start reached : System} {labels : List WireLabel}
    (run : Run (Guarded (WireStep stream) (WireGuard stream port)) start labels reached) :
    deliveredTo port (ringLog (wireActs labels)) = acceptedIn port labels := by
  induction run with
  | refl => rfl
  | @snoc labels _ _ label _ step ih =>
      have split : wireActs (labels ++ [label]) = wireActs labels ++ label.acts := by
        simp [wireActs]
      have acceptedSplit : acceptedIn port (labels ++ [label]) =
          acceptedIn port labels ++ label.accepts port := by
        simp [acceptedIn]
      rw [split, ring_log_append, delivered_to_append, ih, acceptedSplit]
      congr 1
      cases step.1 with
      | @acted _ label observed own =>
          have rings : ringLog [label] = label.2 := List.append_nil _
          rw [WireLabel.acts, rings, observed.rings]
          exact own_delivers_nothing own port
      | polled fuel outcome => exact poll_delivers port _ _
      | written writes => rfl

theorem accepted_in_sublist {stream : List SlotMessage} {port : ServiceRef}
    {start reached : System} {labels : List WireLabel}
    (run : Run (WireStep stream) start labels reached) :
    (acceptedIn port labels).Sublist (readIn labels) := by
  induction run with
  | refl => exact .slnil
  | snoc _ step ih =>
      rw [acceptedIn, readIn, List.flatMap_append, List.flatMap_append]
      apply ih.append
      simp only [List.flatMap_cons, List.flatMap_nil, List.append_nil]
      cases step with
      | acted _ _ => exact .slnil
      | polled fuel outcome => exact accepted_by_sublist port _ _
      | written _ => exact .slnil

/-- The bytes of a message in a slot of the VideoCore are in front of the slots of the
ARM. -/
theorem in_slot_framed {numSlots position : Nat} {before after : State} {message : SlotMessage}
    (inv : ReservationInvariant numSlots before) (frame : ArmFrame before after)
    (remote : streamSlot before.slotState.slotZero.master position ≤
      before.slotState.slotZero.master.slotLast)
    (placed : InSlot before.slotState.slotZero.master before.slotState.slotData position message) :
    InSlot after.slotState.slotZero.master after.slotState.slotData position message := by
  rw [frame.master]
  refine ⟨placed.fits, placed.positive, by rw [frame.length]; exact placed.bound, ?_⟩
  apply placed.stored.congr
  intro target _ upper
  apply frame.memory
  have size := placed.stored.2.1
  have stride := (calc_msg_stride_bounds message.header.size.toNat).1
  have fits := placed.fits
  rw [messageStride] at fits
  rw [size] at stride fits
  have ownSlots : streamSlot before.slotState.slotZero.master position + 1 ≤ slotBase before := by
    have lower := inv.layout.lower
    rw [inv.layout.masterLast] at remote
    rw [slotBase, inv.layout.slaveFirst]
    omega
  calc target
    _ < streamSlot before.slotState.slotZero.master position * vchiqSlotSize +
          position % vchiqSlotSize + headerSize + message.data.length := upper
    _ ≤ streamSlot before.slotState.slotZero.master position * vchiqSlotSize + vchiqSlotSize := by
        rw [Nat.add_assoc, Nat.add_assoc]
        exact Nat.add_le_add_left (Nat.le_trans (Nat.add_le_add_left stride _) fits) _
    _ = (streamSlot before.slotState.slotZero.master position + 1) * vchiqSlotSize :=
        (Nat.succ_mul _ _).symm
    _ ≤ slotBase before * vchiqSlotSize := Nat.mul_le_mul_right _ ownSlots

theorem published_framed {numSlots : Nat} {stream published : List SlotMessage}
    {before after : Instance} (inv : ReservationInvariant numSlots before.state)
    (frame : ArmFrame before.state after.state) (own : OwnSlots stream before published) :
    OwnSlots stream after published := by
  have master : remoteState after = remoteState before := frame.master
  have rxPos : rxPosOf after = rxPosOf before := frame.rxPos
  have txPos : txPosOf after = txPosOf before := by rw [txPosOf, master, txPosOf]
  have old := own.isPublished
  refine ⟨⟨old.front, txPos.trans old.txPos, ?_, ?_⟩, ?_⟩
  · rw [rxPos]
    exact old.ahead
  · intro earlier message later split unread
    rw [rxPos] at unread
    have positive := message_stride_pos message
    have below : streamEnd earlier < streamEnd published := by
      rw [split, stream_end_append]
      simp only [streamEnd, List.map_cons, List.sum_cons]
      omega
    have placed := old.placed earlier message later split unread
    exact in_slot_framed inv frame (own.remote _ unread below) placed
  · intro position lower upper
    rw [rxPos] at lower
    rw [master]
    exact own.remote position lower upper

def WireLabel.receive : WireLabel → ReceiveLabel
  | .polled dispatched _ _ => .polled dispatched
  | _ => .environment

theorem read_in_dispatched (labels : List WireLabel) :
    dispatchedMessages (labels.map WireLabel.receive) = readIn labels := by
  rw [dispatchedMessages, readIn, List.flatMap_map]
  congr 1
  funext label
  cases label <;> rfl

/-- The receive side in a run over the shared memory. -/
structure WireInvariant (numSlots : Nat) (stream : List SlotMessage) (labels : List WireLabel)
    (sys : System) : Prop where
  reservation : ReservationInvariant numSlots sys.inst.state
  received : ReceiveInvariant stream (labels.map WireLabel.receive) sys.inst
  remote : ∃ published, OwnSlots stream sys.inst published

section Receive

variable {numSlots : Nat} {stream : List SlotMessage} {port : ServiceRef} {labels : List WireLabel}
  {sys next : System}

theorem wire_between {label : WireLabel} (inv : WireInvariant numSlots stream labels sys)
    (between : BetweenPolls stream sys.inst next.inst) (quiet : label.receive = .environment)
    (reservation : ReservationInvariant numSlots next.inst.state)
    (remote : ∃ published, OwnSlots stream next.inst published) :
    WireInvariant numSlots stream (labels ++ [label]) next := by
  refine ⟨reservation, ?_, remote⟩
  rw [List.map_append, List.map_singleton, quiet]
  exact receive_invariant_step inv.received ⟨.environment between, trivial⟩

theorem acted_between {action : Action} (inv : WireInvariant numSlots stream labels sys)
    (tidy : TidyAction action) (move : SystemStep sys action next) (ready : next.Ready) :
    BetweenPolls stream sys.inst next.inst ∧ ∃ published, OwnSlots stream next.inst published := by
  rcases step_frame inv.reservation tidy move with ⟨_, frame⟩
  rcases inv.remote with ⟨published, old⟩
  have own := published_framed inv.reservation frame old
  have master : remoteState next.inst = remoteState sys.inst := frame.master
  refine ⟨⟨frame.rxPos, frame.rxData, ?_, ⟨_, own.isPublished⟩, ready.consistent⟩, _, own⟩
  intro _
  rw [master]

theorem poll_remote {label : WireLabel} {after : Instance}
    (inv : WireInvariant numSlots stream labels sys)
    (received : ReceiveInvariant stream ((labels ++ [label]).map WireLabel.receive) after)
    (moved : CursorMoved sys.inst.state after.state) (atEnd : rxPosOf after = txPosOf sys.inst) :
    ∃ published, OwnSlots stream after published := by
  rcases inv.remote with ⟨published, own⟩
  rcases moved.slots with ⟨rxPos, rxData, slots⟩
  have master : remoteState after = remoteState sys.inst := by
    rw [remoteState, slots]
    rfl
  have data : after.state.slotState.slotData = sys.inst.state.slotState.slotData := by
    rw [slots]
    rfl
  have order : rxPosOf sys.inst ≤ rxPosOf after := by
    have before := inv.received.rxPos
    have later := received.rxPos
    rw [read_in_dispatched] at before later
    rw [before, later, readIn, readIn, List.flatMap_append, stream_end_append]
    exact Nat.le_add_right _ _
  have old := own.isPublished
  refine ⟨published, ⟨old.front, ?_, ?_, ?_⟩, ?_⟩
  · rw [txPosOf, master]
    exact old.txPos
  · rw [atEnd, old.txPos]
    exact Nat.mod_le _ _
  · intro earlier message later split unread
    rw [master, data]
    exact old.placed earlier message later split (Nat.le_trans order unread)
  · intro position lower upper
    rw [master]
    exact own.remote position (Nat.le_trans order lower) upper

theorem wire_invariant_step {label : WireLabel} (inv : WireInvariant numSlots stream labels sys)
    (ready : next.Ready)
    (step : Guarded (WireStep stream) (WireGuard stream port) sys label next) :
    WireInvariant numSlots stream (labels ++ [label]) next := by
  rcases step with ⟨move, guard⟩
  cases move with
  | acted observed own =>
      rcases acted_between inv guard observed.move ready with ⟨between, remote⟩
      exact wire_between inv between rfl (step_frame inv.reservation guard observed.move).1 remote
  | @polled after dispatched fuel outcome =>
      have moved := (poll_loose (room_provided port) outcome guard.2).2
      have received : ReceiveInvariant stream ((labels ++ [WireLabel.polled dispatched
          (fun port => acceptedBy port sys.inst dispatched) (pollLabels sys dispatched)]).map
            WireLabel.receive) after := by
        rw [List.map_append, List.map_singleton]
        exact receive_invariant_step inv.received ⟨.polled fuel outcome, guard.1⟩
      have atEnd : rxPosOf after = txPosOf sys.inst := receive_loop_end outcome
      exact ⟨moved.undisturbed.reservation inv.reservation, received,
        poll_remote inv received moved atEnd⟩
  | written writes =>
      rcases writes.wellFormed with ⟨published, own⟩
      have between : BetweenPolls stream sys.inst _ :=
        ⟨writes.rxPos, writes.rxData, writes.currentSlot, ⟨published, own.isPublished⟩,
          ready.consistent⟩
      exact wire_between inv between rfl (writes.undisturbed.reservation inv.reservation)
        ⟨published, own⟩

theorem wire_invariant_run {raw slotZero : SlotZero} {memory : Memory} {totalMemory : Nat}
    {fresh : State} (made : freshState raw memory totalMemory = .ok fresh)
    (initialized : initializeSlotZero raw totalMemory = .ok (slotZero, numSlots))
    (upper : numSlots ≤ vchiqMaxSlots) (silent : fresh.slotState.slotZero.master.txPos = 0)
    (run : Run (Guarded (WireStep stream) (WireGuard stream port))
      (System.new (freshInstance fresh)) labels sys) :
    WireInvariant numSlots stream labels sys := by
  have facts := fresh_state_facts made
  apply run.invariant (WireInvariant numSlots stream)
  · have received := @fresh_receive_invariant _ _ _ _ stream made silent
    have nothing : txPosOf (freshInstance fresh) = 0 := congrArg UInt32.toNat silent
    refine ⟨(fresh_state_spec made initialized upper).1, received, [], ⟨List.nil_prefix, nothing,
      Nat.le_of_eq received.rxPos, ?_⟩, ?_⟩
    · intro earlier message later same
      simp at same
    · intro position _ below
      exact absurd below (Nat.not_lt_zero position)
  · intro labels before label after earlier inv step
    rcases wire_run_loose (room_provided port) wire_guard_hands (earlier.snoc step) with
      ⟨loose, looseRun, _⟩
    exact wire_invariant_step inv (loose_invariant_run facts looseRun.unguarded).1 step

/-- From the bytes to the client, in every run over the shared memory: `slot_handler` has
read the messages of the stream up to its cursor, in order and each once. The payloads the
dequeue calls of a service returned are those of the messages among them that the service
accepted, in the order of the stream and each once, and its queue holds the others. -/
theorem bytes_reach_client {raw slotZero : SlotZero} {memory : Memory} {totalMemory : Nat}
    {fresh : State} (made : freshState raw memory totalMemory = .ok fresh)
    (initialized : initializeSlotZero raw totalMemory = .ok (slotZero, numSlots))
    (upper : numSlots ≤ vchiqMaxSlots) (silent : fresh.slotState.slotZero.master.txPos = 0)
    (run : Run (Guarded (WireStep stream) (WireGuard stream port))
      (System.new (freshInstance fresh)) labels sys) :
    readIn labels <+: stream ∧ rxPosOf sys.inst = streamEnd (readIn labels) ∧
    (acceptedIn port labels).Sublist (readIn labels) ∧
    ∀ user, userOf sys.inst port = some user → ∃ waiting : List SlotMessage,
      (acceptedIn port labels).map SlotMessage.data =
        returnedFrom port (ringLog (wireActs labels)) ++ waiting.map SlotMessage.data ∧
      pendingMessages user = waiting.map some := by
  have inv := wire_invariant_run made initialized upper silent run
  have dispatched := inv.received.dispatched
  have rxPos := inv.received.rxPos
  rw [read_in_dispatched] at dispatched rxPos
  refine ⟨dispatched, rxPos, accepted_in_sublist run.unguarded, ?_⟩
  intro user opened
  rcases wire_run_loose (room_provided port) wire_guard_hands run with ⟨loose, looseRun, acts⟩
  let owners := fun reference => (userOf sys.inst reference).bind ServiceUser.userdata
  have owned : Owned owners sys.inst := by
    intro reference other present
    simp only [owners, present, Option.bind_some]
  have permits : ∀ (before : System) (label : Action × List RingLabel),
      LooseRoom port before (some label) →
      ∀ step ∈ label.2, RoomFor port (mirror owners before.inst) step :=
    fun _ _ room => room_at_permits room
  have rings := loose_refines_rings (fresh_state_facts made) (room_for_free port) permits owned
    looseRun
  rw [acts] at rings
  rcases returned_run rfl rings with ⟨backlog, returned⟩
  have here : (mirror owners sys.inst).users port = user := by
    simp only [mirror, userAt, opened, Option.getD_some]
  have holds := backlog.holds
  rw [here, accepted_in_delivered run] at holds
  rw [ReturnedInOrder, here, accepted_in_delivered run] at returned
  refine ⟨(acceptedIn port labels).drop user.msgRemove, ?_, pending_of_holds holds⟩
  rw [returned, ← List.map_append, List.take_append_drop]

end Receive

/-- Where the VideoCore writes its next message while it stays in its first slot. -/
def remoteAddress (inst : Instance) : Nat :=
  (remoteState inst).slotFirst * vchiqSlotSize + txPosOf inst % vchiqSlotSize

/-- The VideoCore writes one more message into its first slot and publishes it. -/
def remotePublish (inst : Instance) (message : SlotMessage) : Instance :=
  let slots := inst.state.slotState
  inst.withSlots
    { slots with
      slotZero :=
        { slots.slotZero with
          master :=
            { slots.slotZero.master with
              txPos := UInt32.ofNat (txPosOf inst + messageStride message)
              slotQueue := fun _ => slots.slotZero.master.slotFirst } }
      slotData :=
        { slots.slotData with
          inner := write (writeHeader slots.slotData.inner (remoteAddress inst) message.header)
            (remoteAddress inst + headerSize) message.data } }

/-- The message is the next one of the stream, all before it are read, and a poll hands it
over. -/
structure Publishable (port : ServiceRef) (inst : Instance) (message : SlotMessage)
    (after : Instance) : Prop where
  caughtUp : rxPosOf inst = txPosOf inst
  short : txPosOf inst + messageStride message < 2 ^ 32
  fits : txPosOf inst % vchiqSlotSize + messageStride message ≤ vchiqSlotSize
  sized : message.header.size.toNat = message.data.length
  current : rxPosOf inst % vchiqSlotSize ≠ 0 →
    streamSlot (remoteState inst) (rxPosOf inst) = (remoteState inst).slotFirst
  addressed : Addressed inst message
  agrees : CloseAgrees inst message
  room : HasRoom port inst message
  outcome : slotHandler 2 (remotePublish inst message) = .done after [message]

section Publish

variable {numSlots : Nat} {stream : List SlotMessage} {port : ServiceRef} {labels : List WireLabel}
  {sys : System} {message : SlotMessage} {after : Instance}

theorem publish_undisturbed (inv : WireInvariant numSlots stream labels sys)
    (publishable : Publishable port sys.inst message after) :
    Undisturbed sys.inst.state (remotePublish sys.inst message).state := by
  refine ⟨rfl, rfl, rfl, rfl, rfl, rfl, ?_, rfl, rfl⟩
  intro address lower _
  have stride := (calc_msg_stride_bounds message.header.size.toNat).1
  have fits := publishable.fits
  rw [messageStride] at fits
  rw [publishable.sized] at stride fits
  -- the first slot of the VideoCore ends in front of the slots of the ARM
  have own : (remoteState sys.inst).slotFirst + 1 ≤ slotBase sys.inst.state := by
    have layout := inv.reservation.layout
    have first : (remoteState sys.inst).slotFirst = vchiqSlotZeroSlots + 1 := layout.masterFirst
    have least := layout.lower
    rw [first, slotBase, layout.slaveFirst]
    omega
  have written : remoteAddress sys.inst + headerSize + message.data.length ≤ address :=
    calc remoteAddress sys.inst + headerSize + message.data.length
      _ ≤ (remoteState sys.inst).slotFirst * vchiqSlotSize + vchiqSlotSize := by
          rw [remoteAddress, Nat.add_assoc, Nat.add_assoc]
          exact Nat.add_le_add_left (Nat.le_trans (Nat.add_le_add_left stride _) fits) _
      _ = ((remoteState sys.inst).slotFirst + 1) * vchiqSlotSize := (Nat.succ_mul _ _).symm
      _ ≤ slotBase sys.inst.state * vchiqSlotSize := Nat.mul_le_mul_right _ own
      _ ≤ address := lower
  have inner : (remotePublish sys.inst message).state.slotState.slotData.inner =
      write (writeHeader sys.inst.state.slotState.slotData.inner (remoteAddress sys.inst)
        message.header) (remoteAddress sys.inst + headerSize) message.data := rfl
  rw [inner, write_outside _ _ _ _ (.inr written), write_header_outside]
  right
  exact Nat.le_trans (Nat.le_add_right _ _) written

theorem publish_tx_pos (publishable : Publishable port sys.inst message after)
    (read : rxPosOf sys.inst = streamEnd (readIn labels)) :
    txPosOf (remotePublish sys.inst message) = streamEnd (readIn labels ++ [message]) := by
  have whole : streamEnd (readIn labels ++ [message]) =
      txPosOf sys.inst + messageStride message := by
    rw [stream_end_append, ← read, publishable.caughtUp]
    simp [streamEnd]
  rw [whole]
  exact UInt32.toNat_ofNat_of_lt' publishable.short

/-- The messages that are read and the new one are published, in the slots of the VideoCore. -/
theorem publish_own_slots (inv : WireInvariant numSlots stream labels sys)
    (publishable : Publishable port sys.inst message after)
    (further : readIn labels ++ [message] <+: stream) :
    OwnSlots stream (remotePublish sys.inst message) (readIn labels ++ [message]) := by
  have read : rxPosOf sys.inst = streamEnd (readIn labels) := by
    rw [← read_in_dispatched]
    exact inv.received.rxPos
  have txPos := publish_tx_pos publishable read
  have layout := inv.reservation.layout
  have first : (remoteState sys.inst).slotFirst = vchiqSlotZeroSlots + 1 := layout.masterFirst
  refine ⟨⟨further, ?_, ?_, ?_⟩, ?_⟩
  · rw [← txPos]
    exact (as_u32_of_lt (UInt32.toNat_lt _)).symm
  · rw [stream_end_append, ← read]
    exact Nat.le_add_right _ _
  · intro earlier last later split unread
    -- all messages but the new one are read
    have new : earlier = readIn labels ∧ last = message := by
      cases later using List.reverseRecOn with
      | nil =>
          have parts := List.append_inj' split rfl
          simp only [List.cons.injEq, and_true] at parts
          exact ⟨parts.1.symm, parts.2.symm⟩
      | append_singleton later final _ =>
          have regrouped :
              readIn labels ++ [message] = (earlier ++ last :: later) ++ [final] := by
            simpa using split
          have parts := List.append_inj' regrouped rfl
          have positive := message_stride_pos last
          have before : rxPosOf sys.inst ≤ streamEnd earlier := unread
          rw [read, parts.1, stream_end_append] at before
          simp only [streamEnd, List.map_cons, List.sum_cons] at before
          omega
    rcases new with ⟨rfl, rfl⟩
    rw [← read, publishable.caughtUp]
    have length := inv.reservation.length
    have least := layout.lower
    refine ⟨publishable.fits, ?_, ?_, ?_⟩
    · change 0 < (remoteState sys.inst).slotFirst
      omega
    · change (remoteState sys.inst).slotFirst < sys.inst.state.slotState.slotData.len
      rw [first, length]
      omega
    · exact stored_after_write _ _ _ publishable.sized
  · intro position _ _
    change (remoteState sys.inst).slotFirst ≤ (remoteState sys.inst).slotLast
    have last : (remoteState sys.inst).slotLast = vchiqSlotZeroSlots + numSlots / 2 - 1 :=
      layout.masterLast
    have least := layout.lower
    rw [first, last]
    omega

theorem publish_writes (inv : WireInvariant numSlots stream labels sys)
    (publishable : Publishable port sys.inst message after)
    (further : readIn labels ++ [message] <+: stream) :
    RemoteWrites stream sys.inst (remotePublish sys.inst message) := by
  refine ⟨rfl, publish_undisturbed inv publishable, rfl, rfl, ?_, _,
    publish_own_slots inv publishable further⟩
  intro inside
  rw [publishable.current inside]
  rfl

theorem stream_end_injective {front other : List SlotMessage} (frontOf : front <+: stream)
    (otherOf : other <+: stream) (same : streamEnd front = streamEnd other) : front = other := by
  have shorter := prefix_of_stream_end_le frontOf otherOf (Nat.le_of_eq same)
  have longer := prefix_of_stream_end_le otherOf frontOf (Nat.le_of_eq same.symm)
  exact shorter.eq_of_length (Nat.le_antisymm shorter.length_le longer.length_le)

theorem publish_unread (inv : WireInvariant numSlots stream labels sys)
    (publishable : Publishable port sys.inst message after)
    (further : readIn labels ++ [message] <+: stream) {unread : List SlotMessage}
    (isUnread : Unread stream (remotePublish sys.inst message) unread) : unread = [message] := by
  rcases isUnread with ⟨read, front, rxPos, txPos⟩
  have cursor : rxPosOf sys.inst = streamEnd (readIn labels) := by
    rw [← read_in_dispatched]
    exact inv.received.rxPos
  have dispatched : readIn labels <+: stream := by
    rw [← read_in_dispatched]
    exact inv.received.dispatched
  have sameRead : read = readIn labels := by
    apply stream_end_injective ((List.prefix_append _ _).trans front) dispatched
    rw [← rxPos, ← cursor]
    rfl
  have whole : read ++ unread = readIn labels ++ [message] := by
    apply stream_end_injective front further
    rw [← txPos, publish_tx_pos publishable cursor]
  rw [sameRead] at whole
  exact List.append_cancel_left whole

theorem publish_decodable (inv : WireInvariant numSlots stream labels sys)
    (publishable : Publishable port sys.inst message after)
    (further : readIn labels ++ [message] <+: stream) :
    Decodable stream (remotePublish sys.inst message) := by
  have read : rxPosOf sys.inst = streamEnd (readIn labels) := by
    rw [← read_in_dispatched]
    exact inv.received.rxPos
  have own := publish_own_slots inv publishable further
  refine ⟨⟨_, own.isPublished, ?_⟩, ?_, fun _ _ _ _ => rfl, ?_⟩
  · rw [← publish_tx_pos publishable read]
    exact UInt32.toNat_lt _
  · intro unread isUnread
    rw [publish_unread inv publishable further isUnread]
    exact ⟨publishable.addressed, fun _ _ => trivial⟩
  · intro unread isUnread
    rw [publish_unread inv publishable further isUnread]
    exact ⟨publishable.agrees, fun _ _ => trivial⟩

/-- The guard of the runs that are computed. -/
def CarefulGuard (stream : List SlotMessage) (port : ServiceRef) (sys : System)
    (label : WireLabel) : Prop :=
  WireGuard stream port sys label ∧ UnpaddedAction sys label

/-- The VideoCore publishes a message and `slot_handler` is polled. -/
theorem publish_run {start : System} (inv : WireInvariant numSlots stream labels sys)
    (publishable : Publishable port sys.inst message after)
    (further : readIn labels ++ [message] <+: stream)
    (run : Run (Guarded (WireStep stream) (CarefulGuard stream port)) start labels sys) :
    ∃ later, Run (Guarded (WireStep stream) (CarefulGuard stream port)) start (labels ++ later)
        { sys with inst := after } ∧ readIn later = [message] := by
  have written : Guarded (WireStep stream) (CarefulGuard stream port) sys .written
      { sys with inst := remotePublish sys.inst message } :=
    ⟨.written (publish_writes inv publishable further), trivial, trivial⟩
  have polled := @WireStep.polled stream { sys with inst := remotePublish sys.inst message } after
    [message] 2 publishable.outcome
  have decodable := publish_decodable inv publishable further
  have both := (run.snoc written).snoc
    ⟨polled, ⟨decodable, publishable.room, fun _ _ => trivial⟩, trivial⟩
  rw [List.append_assoc] at both
  exact ⟨_, both, rfl⟩

/-- The action is one of the clients, its payload is tidy and its message needs no padding. -/
def actionCheck (sys : System) (action : Action) : Bool :=
  (match action with
    | .received _ _ => false
    | .called (.queueMessage _ data) _ =>
        decide (data.align ≤ headerSize) &&
          decide (calcMsgStride data.bytes.length ≤ vchiqSlotSize)
    | _ => true) &&
  action.stores.all fun message => decide (messageStride message ≤ slotSpace sys.inst.state)

theorem careful_of_check {action : Action} {rings : List RingLabel}
    (checked : actionCheck sys action = true) :
    CarefulGuard stream port sys (.acted (action, rings)) ∧
      ∀ message opened, action ≠ .received message opened := by
  simp only [actionCheck, Bool.and_eq_true, Option.all_eq_true_iff_get, decide_eq_true_eq]
    at checked
  rcases checked with ⟨own, fits⟩
  have tidy : TidyAction action := by
    cases action with
    | called call sent => cases call <;> simp_all [TidyAction]
    | _ => trivial
  have unpadded : ∀ message ∈ action.stores,
      messageStride message ≤ slotSpace sys.inst.state := by
    intro message stored
    have found : action.stores = some message := stored
    simpa [found] using fits
  refine ⟨⟨tidy, tidy, unpadded⟩, ?_⟩
  intro message opened same
  simp [same] at own

/-- The message is of an implemented type other than CLOSE and finds its service. -/
def addressedCheck (inst : Instance) (message : SlotMessage) : Bool :=
  match msgTypeFromId message.header.msgid with
  | some .connect | some .padding => true
  | some .openAck | some .data =>
      (inst.state.srvState.service (receiverRef message)).any fun service =>
        decide (service.srvstate ≠ .free)
  | _ => false

theorem addressed_of_check {inst : Instance} (checked : addressedCheck inst message = true) :
    Addressed inst message ∧ CloseAgrees inst message := by
  have found : (inst.state.srvState.service (receiverRef message)).any
      (fun service => decide (service.srvstate ≠ .free)) = true →
      ∃ service, InUse inst.state (receiverRef message) service := by
    intro any
    cases stored : inst.state.srvState.service (receiverRef message) with
    | none => simp [stored] at any
    | some service =>
        rw [stored, Option.any_some, decide_eq_true_eq] at any
        exact ⟨service, stored, any⟩
  unfold addressedCheck at checked
  split at checked
  · rename_i isConnect
    exact ⟨.inl isConnect, fun isClose => by simp [isConnect] at isClose⟩
  · rename_i isPadding
    exact ⟨.inr (.inl isPadding), fun isClose => by simp [isPadding] at isClose⟩
  · rename_i isAck
    exact ⟨.inr (.inr ⟨⟨_, isAck, .inl rfl⟩, found checked⟩),
      fun isClose => by simp [isAck] at isClose⟩
  · rename_i isData
    exact ⟨.inr (.inr ⟨⟨_, isData, .inr (.inr (.inl rfl))⟩, found checked⟩),
      fun isClose => by simp [isData] at isClose⟩
  · simp at checked

/-- What the VideoCore sees to before it publishes, as far as it can be computed. -/
def publishCheck (port : ServiceRef) (inst : Instance) (message : SlotMessage) : Bool :=
  decide (rxPosOf inst = txPosOf inst) &&
    decide (txPosOf inst + messageStride message < 2 ^ 32) &&
    decide (txPosOf inst % vchiqSlotSize + messageStride message ≤ vchiqSlotSize) &&
    decide (message.header.size.toNat = message.data.length) &&
    decide (rxPosOf inst % vchiqSlotSize ≠ 0 →
      streamSlot (remoteState inst) (rxPosOf inst) = (remoteState inst).slotFirst) &&
    addressedCheck inst message &&
    (userOf inst port).all fun user => decide (user.msgInsert < user.msgRemove + msgQueueSize)

theorem publishable_of_check {inst : Instance} (checked : publishCheck port inst message = true)
    (outcome : slotHandler 2 (remotePublish inst message) = .done after [message]) :
    Publishable port inst message after := by
  simp only [publishCheck, Bool.and_eq_true, decide_eq_true_eq] at checked
  rcases checked with ⟨⟨⟨⟨⟨⟨caughtUp, short⟩, fits⟩, sized⟩, current⟩, addressed⟩, room⟩
  rcases addressed_of_check addressed with ⟨isAddressed, agrees⟩
  refine ⟨caughtUp, short, fits, sized, current, isAddressed, agrees, ?_, outcome⟩
  intro _ _ user present
  rw [present, Option.all_some, decide_eq_true_eq] at room
  rw [QueueFull, Nat.not_le]
  exact room

end Publish

/-- A move of a client, or a message of the VideoCore that is read at once. -/
inductive WireMove where
  | act (move : Move)
  | publish (message : SlotMessage)

def WireMove.message : WireMove → Option SlotMessage
  | .act _ => none
  | .publish message => some message

def System.wirePerform (port : ServiceRef) (sys : System) : WireMove → Option System
  | .act move =>
      match sys.perform move with
      | none => none
      | some (action, next) => if actionCheck sys action then some next else none
  | .publish message =>
      if publishCheck port sys.inst message then
        match slotHandler 2 (remotePublish sys.inst message) with
        | .done after [found] => if found = message then some { sys with inst := after } else none
        | _ => none
      else none

section Performed

variable {numSlots : Nat} {stream : List SlotMessage} {port : ServiceRef} {labels : List WireLabel}
  {start sys next : System}

theorem wire_perform_run {move : WireMove} (inv : WireInvariant numSlots stream labels sys)
    (further : readIn labels ++ move.message.toList <+: stream)
    (performed : sys.wirePerform port move = some next)
    (run : Run (Guarded (WireStep stream) (CarefulGuard stream port)) start labels sys) :
    ∃ later, Run (Guarded (WireStep stream) (CarefulGuard stream port)) start (labels ++ later)
        next ∧ readIn later = move.message.toList := by
  cases move with
  | act move =>
      simp only [System.wirePerform] at performed
      cases moved : sys.perform move with
      | none => simp [moved] at performed
      | some result =>
          rcases result with ⟨action, middle⟩
          simp only [moved] at performed
          split_ifs at performed with checked
          rcases careful_of_check checked with ⟨careful, own⟩
          rw [← Option.some.inj performed]
          have step : Guarded (WireStep stream) (CarefulGuard stream port) sys
              (.acted (action, sys.ringLabels action)) middle :=
            ⟨.acted ⟨perform_step moved, rfl⟩ own, careful⟩
          exact ⟨[_], run.snoc step, rfl⟩
  | publish message =>
      simp only [System.wirePerform] at performed
      split_ifs at performed with checked
      split at performed
      · rename_i after found outcome
        split_ifs at performed with same
        subst same
        rw [← Option.some.inj performed]
        exact publish_run inv (publishable_of_check checked outcome) further run
      · simp at performed

theorem careful_run
    (run : Run (Guarded (WireStep stream) (CarefulGuard stream port)) start labels sys) :
    Run (Guarded (WireStep stream) (WireGuard stream port)) start labels sys :=
  run.mono fun _ _ _ step => ⟨step.1, step.2.1⟩

theorem unpadded_run
    (run : Run (Guarded (WireStep stream) (CarefulGuard stream port)) start labels sys) :
    Run (Guarded (WireStep stream) UnpaddedAction) start labels sys :=
  run.mono fun _ _ _ step => ⟨step.1, step.2.2⟩

/-- A computed run is a run. -/
theorem wire_performed_run {raw slotZero : SlotZero} {memory : Memory} {totalMemory : Nat}
    {fresh : State} (made : freshState raw memory totalMemory = .ok fresh)
    (initialized : initializeSlotZero raw totalMemory = .ok (slotZero, numSlots))
    (upper : numSlots ≤ vchiqMaxSlots) (silent : fresh.slotState.slotZero.master.txPos = 0)
    (moves : List WireMove)
    (further : readIn labels ++ moves.filterMap WireMove.message <+: stream)
    (performed : moves.foldlM (System.wirePerform port) sys = some next)
    (run : Run (Guarded (WireStep stream) (CarefulGuard stream port))
      (System.new (freshInstance fresh)) labels sys) :
    ∃ reached, Run (Guarded (WireStep stream) (CarefulGuard stream port))
        (System.new (freshInstance fresh)) reached next ∧
      readIn reached = readIn labels ++ moves.filterMap WireMove.message := by
  induction moves generalizing sys labels with
  | nil =>
      rw [List.foldlM_nil, pure, Applicative.toPure, Monad.toApplicative] at performed
      rw [← Option.some.inj performed]
      exact ⟨labels, run, (List.append_nil _).symm⟩
  | cons move moves ih =>
      rw [List.foldlM_cons] at performed
      rcases Option.bind_eq_some_iff.mp performed with ⟨middle, moved, others⟩
      have split : (move :: moves).filterMap WireMove.message =
          move.message.toList ++ moves.filterMap WireMove.message := by
        cases move <;> rfl
      rw [split, ← List.append_assoc] at further
      have inv := wire_invariant_run made initialized upper silent (careful_run run)
      rcases wire_perform_run inv ((List.prefix_append _ _).trans further) moved run with
        ⟨later, extended, reads⟩
      have longer : readIn (labels ++ later) = readIn labels ++ move.message.toList := by
        rw [readIn, List.flatMap_append, ← readIn, ← readIn, reads]
      rw [← longer] at further
      rcases ih further others extended with ⟨reached, whole, all⟩
      refine ⟨reached, whole, ?_⟩
      rw [all, longer, split, List.append_assoc]

end Performed

def sampleStream : List SlotMessage :=
  [remoteMessage .connect 0 0, remoteMessage .openAck 75 0, sampleData]

/-- A client opens a service while the VideoCore sends the sample stream. -/
def sampleMoves : List WireMove :=
  [.act (.call .initializeInstance), .act (.call .connect), .publish (remoteMessage .connect 0 0),
    .act .resume, .act (.call (.serviceOpen sampleSetup)), .publish (remoteMessage .openAck 75 0),
    .act .resume, .publish sampleData]

set_option maxRecDepth 20000 in
theorem sample_stream_performed :
    ∃ fresh slotZero reached user,
      freshState blankSlotZero (fun _ => 0) (65 * vchiqSlotSize) = .ok fresh ∧
      initializeSlotZero blankSlotZero (65 * vchiqSlotSize) = .ok (slotZero, 64) ∧
      fresh.slotState.slotZero.master.txPos = 0 ∧
      sampleMoves.foldlM (System.wirePerform 0) (System.new (freshInstance fresh)) = some reached ∧
      userOf reached.inst 0 = some user ∧ pendingMessages user = [some sampleData] :=
  ⟨_, _, _, _, rfl, rfl, rfl, rfl, rfl, rfl⟩

/-- The message the VideoCore wrote is the one that waits for the client. -/
theorem sample_stream_reaches_client :
    ∃ labels, readIn labels = sampleStream ∧
      (acceptedIn 0 labels).map SlotMessage.data =
        returnedFrom 0 (ringLog (wireActs labels)) ++ [sampleData.data] := by
  rcases sample_stream_performed with ⟨fresh, slotZero, reached, user, made, initialized, silent,
    performed, opened, pending⟩
  have further : readIn [] ++ sampleMoves.filterMap WireMove.message <+: sampleStream :=
    List.prefix_refl sampleStream
  rcases wire_performed_run made initialized (by decide) silent sampleMoves further performed
    .refl with ⟨labels, run, reads⟩
  rcases bytes_reach_client made initialized (by decide) silent (careful_run run) with
    ⟨_, _, _, client⟩
  rcases client user opened with ⟨waiting, accepted, queued⟩
  have one : waiting = [sampleData] := by
    rw [pending] at queued
    cases waiting with
    | nil => simp at queued
    | cons first rest =>
        simp only [List.map_cons, List.cons.injEq, Option.some.injEq] at queued
        have none : rest = [] := List.map_eq_nil_iff.mp queued.2.symm
        rw [← queued.1, none]
  subst one
  exact ⟨labels, reads, accepted⟩

end RuspiroVchiq.Vchi
