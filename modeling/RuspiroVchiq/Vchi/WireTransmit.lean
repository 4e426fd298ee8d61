import RuspiroVchiq.Vchi.EndToEnd

/-!
# From the client to the bytes of the ARM

The other direction over the shared memory: what the calls of the clients put into the
slots of the ARM, while `slot_handler` is polled and the VideoCore writes its own slots.
As long as no message needs padding and no payload is aligned to more than a header, the
VideoCore reads back the messages of the calls, in the order of the calls and with the bytes
the clients passed.
-/

namespace RuspiroVchiq.Vchi

open RuspiroVchiq.Config
open RuspiroVchiq.Shared
open RuspiroVchiq.Vchiq
open RuspiroVchiq.Delivery
open RuspiroVchiq.Transmit
open RuspiroVchiq.Receive
open RuspiroVchiq.Lib.LabelledRun
open RuspiroVchiq.Lib.SlottedStream
open RuspiroVchiq.Lib.ByteMemory

set_option autoImplicit false

/-- The messages the calls of a run put on the wire, oldest first. -/
def storedIn (labels : List WireLabel) : List SlotMessage :=
  (wireActs labels).filterMap fun label => label.1.stores

theorem stored_in_snoc (labels : List WireLabel) (label : WireLabel) :
    storedIn (labels ++ [label]) =
      storedIn labels ++ label.acts.filterMap fun step => step.1.stores := by
  simp [storedIn, wireActs]

theorem silent_stores_nothing {action : Action} (silent : action.event = none) :
    action.stores = none := by
  cases action with
  | called call sent =>
      cases sent with
      | none => rfl
      | some outgoing => simp [Action.event] at silent
  | _ => rfl

/-- Every message that is put on the wire is of one of the four types. -/
theorem stored_type {actions : List Action} {before after : Protocol} {action : Action}
    {message : SlotMessage} (inv : ProtocolInvariant actions before)
    (move : ProtocolStep before action after) (stored : action.stores = some message) :
    msgTypeFromId message.header.msgid = some .connect ∨
      msgTypeFromId message.header.msgid = some .open ∨
      msgTypeFromId message.header.msgid = some .close ∨
      msgTypeFromId message.header.msgid = some .data := by
  cases move with
  | quiet silent => simp [silent_stores_nothing silent] at stored
  | abandoned silent => simp [silent_stores_nothing silent] at stored
  | connectSent _ =>
      simp only [Action.stores, Option.map_some, Option.some.injEq] at stored
      rw [← stored]
      exact .inl connect_call_type
  | connectJoined _ => simp [Action.stores] at stored
  | @openSent setup handle srvHandle port message _ _ small _ msgid =>
      simp only [Action.stores, Option.map_some, Option.some.injEq] at stored
      rw [← stored]
      exact .inr (.inl (sent_message_decodes msgid (of_nat_port small) small (by decide)).1)
  | @closeSent handle srvHandle port endpoint message known closed _ msgid =>
      simp only [Action.stores, Option.map_some, Option.some.injEq] at stored
      rcases inv.registry.ports port endpoint closed.1 with ⟨isPort, small⟩
      rw [← stored]
      exact .inr (.inr (.inl (close_message_decodes msgid isPort small).1))
  | closeReleased _ _ _ => simp [Action.stores] at stored
  | @dataSent handle srvHandle data port endpoint message known sender live msgid =>
      simp only [Action.stores, Option.map_some, Option.some.injEq] at stored
      rcases inv.registry.ports port endpoint sender.1 with ⟨isPort, small⟩
      rw [← stored]
      exact .inr (.inr (.inr (sent_message_decodes msgid isPort small
        (sender_open inv.registry inv.lifecycle known sender live).2).1))
  | _ => simp [Action.stores] at stored

/-- The slots of the ARM hold the messages of the calls. -/
def ArmStream (numSlots : Nat) (labels : List WireLabel) (sys : System) : Prop :=
  ∃ transmitted, StreamInvariant numSlots transmitted sys.inst.state ∧
    queuedMessages transmitted = storedIn labels

section Transmit

variable {numSlots : Nat} {transmitted : List TransmitLabel} {before after : State}

theorem stream_undisturbed (inv : StreamInvariant numSlots transmitted before)
    (undisturbed : Undisturbed before after) :
    StreamInvariant numSlots (transmitted ++ [.environment]) after ∧
      queuedMessages (transmitted ++ [.environment]) = queuedMessages transmitted := by
  refine ⟨stream_invariant_step inv ⟨.environment undisturbed, trivial⟩, ?_⟩
  rw [queued_messages_snoc]
  exact List.append_nil _

/-- One poll adds the message it sends to the stream. -/
theorem stream_slot_move {call : Option QueueCall}
    (inv : StreamInvariant numSlots transmitted before) (move : SlotMove before after call)
    (tidy : ∀ queued ∈ call, TidyCall queued ∧ Transmittable queued ∧
      queued.msgStride ≤ slotSpace before) :
    ∃ later, StreamInvariant numSlots later after ∧
      queuedMessages later = queuedMessages transmitted ++ (call.map QueueCall.message).toList := by
  cases move with
  | silent aside =>
      rcases stream_undisturbed inv aside.undisturbed with ⟨kept, same⟩
      exact ⟨_, kept, by rw [same]; exact (List.append_nil _).symm⟩
  | rejected earlier step later =>
      rcases stream_undisturbed inv earlier.undisturbed with ⟨first, firstSame⟩
      have second := stream_invariant_step first ⟨step, trivial⟩
      rcases stream_undisturbed second later.undisturbed with ⟨third, thirdSame⟩
      refine ⟨_, third, ?_⟩
      rw [thirdSame, queued_messages_snoc, firstSame]
      rfl
  | @queued region firstState _ earlier step later =>
      rcases tidy region.call rfl with ⟨⟨fits, direct⟩, transmittable, unpadded⟩
      rcases stream_undisturbed inv earlier.undisturbed with ⟨first, firstSame⟩
      have space : slotSpace firstState = slotSpace before := by
        rw [slotSpace, earlier.slots, slotSpace]
      have guard : UnpaddedCall firstState (.queued region) := by
        refine ⟨⟨fits, transmittable⟩, ?_, direct⟩
        rw [space]
        exact unpadded
      have second := stream_invariant_step first ⟨step, guard⟩
      rcases stream_undisturbed second later.undisturbed with ⟨third, thirdSame⟩
      refine ⟨_, third, ?_⟩
      rw [thirdSame, queued_messages_snoc, firstSame]
      rfl

end Transmit

section Runs

variable {numSlots : Nat} {stream : List SlotMessage} {labels : List WireLabel}
  {sys next : System}

theorem acted_arm_stream {actions : List Action} {label : Action × List RingLabel}
    (inv : ArmStream numSlots labels sys) (ready : sys.Ready)
    (protocol : ProtocolInvariant actions sys.protocol) (move : SystemStep sys label.1 next)
    (unpadded : UnpaddedAction sys (.acted label)) :
    ArmStream numSlots (labels ++ [.acted label]) next := by
  rcases inv with ⟨transmitted, invariant, same⟩
  rcases step_slot_effect move with ⟨call, slots, stores, queues⟩
  have tidy : ∀ queued ∈ call, TidyCall queued ∧ Transmittable queued ∧
      queued.msgStride ≤ slotSpace sys.inst.state := by
    intro queued member
    have clean := tidy_queued unpadded.1 (queues queued member)
    have stored : label.1.stores = some queued.message := by
      rw [← stores, member]
      rfl
    have kind := stored_type protocol (step_simulated ready move).2 stored
    have fits := unpadded.2 queued.message stored
    rw [message_stride_eq clean.1] at fits
    exact ⟨clean, kind, fits⟩
  rcases stream_slot_move invariant slots tidy with ⟨later, kept, longer⟩
  refine ⟨later, kept, ?_⟩
  rw [longer, same, stored_in_snoc, stores]
  cases found : label.1.stores <;> simp [WireLabel.acts, found]

/-- Nothing else adds to the stream. -/
theorem arm_stream_undisturbed {label : WireLabel} (inv : ArmStream numSlots labels sys)
    (undisturbed : Undisturbed sys.inst.state next.inst.state)
    (nothing : label.acts.filterMap (fun step => step.1.stores) = []) :
    ArmStream numSlots (labels ++ [label]) next := by
  rcases inv with ⟨transmitted, invariant, same⟩
  rcases stream_undisturbed invariant undisturbed with ⟨kept, longer⟩
  refine ⟨_, kept, ?_⟩
  rw [longer, same, stored_in_snoc, nothing, List.append_nil]

theorem poll_stores_nothing (sys : System) (messages : List SlotMessage) :
    (pollLabels sys messages).filterMap (fun step => step.1.stores) = [] := by
  induction messages generalizing sys with
  | nil => rfl
  | cons message rest ih =>
      simp only [pollLabels]
      cases dispatch sys.inst message with
      | error panic => rfl
      | ok next => exact ih { sys with inst := next }

theorem poll_moves_cursor {fuel : Nat} {after : Instance} {dispatched : List SlotMessage}
    (outcome : slotHandler fuel sys.inst = .done after dispatched) :
    CursorMoved sys.inst.state after.state := by
  have along : Along (fun _ _ => True) sys.inst dispatched :=
    along_of_forall (fun _ _ _ => trivial) sys.inst
  exact (poll_loose provides_nothing outcome along).2

theorem arm_stream_step {actions : List Action} {label : WireLabel}
    (inv : ArmStream numSlots labels sys) (ready : sys.Ready)
    (protocol : ProtocolInvariant actions sys.protocol)
    (step : Guarded (WireStep stream) UnpaddedAction sys label next) :
    ArmStream numSlots (labels ++ [label]) next := by
  rcases step with ⟨move, unpadded⟩
  cases move with
  | acted observed own => exact acted_arm_stream inv ready protocol observed.move unpadded
  | polled fuel outcome =>
      have moved := poll_moves_cursor outcome
      exact arm_stream_undisturbed inv moved.undisturbed (poll_stores_nothing sys _)
  | written writes => exact arm_stream_undisturbed inv writes.undisturbed rfl

/-- The payload a client passes is the payload of its message. -/
theorem queued_payload {handle : ServiceHandle} {data : Payload} {sent : Outgoing}
    (move : SystemStep sys (.called (.queueMessage handle data) (some sent)) next) :
    sent.message.data = data.bytes := by
  rcases step_slot_effect move with ⟨call, _, stores, queues⟩
  cases call with
  | none => simp [Action.stores] at stores
  | some queued =>
      rcases queues queued rfl with ⟨reference, service, rfl⟩
      simp only [Action.stores, Option.map_some, Option.some.injEq] at stores
      rw [← stores]
      rfl

theorem hands_over_anything (sys : System) (label : WireLabel) :
    HandsOver (fun _ _ => True) sys label := by
  cases label with
  | polled dispatched accepted steps => exact along_of_forall (fun _ _ _ => trivial) sys.inst
  | _ => trivial

theorem fresh_stream_invariant {raw slotZero : SlotZero} {memory : Memory} {totalMemory : Nat}
    {fresh : State} (made : freshState raw memory totalMemory = .ok fresh)
    (initialized : initializeSlotZero raw totalMemory = .ok (slotZero, numSlots))
    (upper : numSlots ≤ vchiqMaxSlots) : StreamInvariant numSlots [] fresh := by
  rcases fresh_state_spec made initialized upper with ⟨reservation, cursor, txPos⟩
  refine ⟨⟨reservation, by rw [txPos, cursor], by simp [regions], by simp [regions]⟩, ?_⟩
  rw [cursor]
  exact .nil 0

/-- A stream that is in the slots is what the walk over them finds. -/
theorem walk_stream_queued {transmitted : List TransmitLabel} {state : State}
    (inv : StreamInvariant numSlots transmitted state) :
    walkStream state = some (queuedMessages transmitted) := by
  have published := inv.sequential.published
  apply walk_slots_of_tiles inv.sequential.reservation _ inv.tiles published
    inv.sequential.reservation.bounded
  rw [published]
  simp only [headerSize]
  omega

/-- From the clients to the bytes, in every run over the shared memory in which the payloads
are tidy, no message needs padding, and the VideoCore writes a well-formed stream into its own
slots: walking the slots of the ARM from the beginning to the published position gives the
messages of the calls in their order, and a message that was queued with a payload carries
the bytes of that payload. -/
theorem calls_reach_wire {raw slotZero : SlotZero} {memory : Memory} {totalMemory : Nat}
    {fresh : State} (made : freshState raw memory totalMemory = .ok fresh)
    (initialized : initializeSlotZero raw totalMemory = .ok (slotZero, numSlots))
    (upper : numSlots ≤ vchiqMaxSlots)
    (run : Run (Guarded (WireStep stream) UnpaddedAction) (System.new (freshInstance fresh)) labels
      sys) :
    walkStream sys.inst.state = some (storedIn labels) ∧
    ∀ handle data sent rings,
      WireLabel.acted (.called (.queueMessage handle data) (some sent), rings) ∈ labels →
      sent.message.data = data.bytes := by
  have facts := fresh_state_facts made
  have invariants : ∀ {labels sys}, Run (Guarded (WireStep stream) UnpaddedAction)
      (System.new (freshInstance fresh)) labels sys →
      sys.Ready ∧ ∃ actions, ProtocolInvariant actions sys.protocol := by
    intro labels sys run
    rcases wire_run_loose provides_nothing (fun sys label _ => hands_over_anything sys label) run
      with ⟨loose, looseRun, _⟩
    rcases loose_invariant_run facts looseRun.unguarded with ⟨ready, protocol, _⟩
    exact ⟨ready, _, protocol⟩
  refine ⟨?_, ?_⟩
  · have inv : ArmStream numSlots labels sys := by
      apply run.invariant (ArmStream numSlots)
      · exact ⟨[], fresh_stream_invariant made initialized upper, rfl⟩
      · intro labels before label after earlier inv step
        rcases invariants earlier with ⟨ready, actions, protocol⟩
        exact arm_stream_step inv ready protocol step
    rcases inv with ⟨transmitted, invariant, same⟩
    rw [← same]
    exact walk_stream_queued invariant
  · induction run with
    | refl => simp
    | snoc _ step ih =>
        intro handle data sent rings member
        rcases List.mem_append.mp member with earlier | last
        · exact ih handle data sent rings earlier
        · rw [List.mem_singleton] at last
          rcases step with ⟨move, _⟩
          cases move with
          | acted observed _ =>
              rw [WireLabel.acted.injEq] at last
              have move := observed.move
              rw [← last] at move
              exact queued_payload move
          | polled fuel outcome => simp at last
          | written writes => simp at last

end Runs

/-- A client opens a service and sends one byte. -/
def sendingMoves : List WireMove :=
  [.act (.call .initializeInstance), .act (.call .connect), .publish (remoteMessage .connect 0 0),
    .act .resume, .act (.call (.serviceOpen sampleSetup)), .publish (remoteMessage .openAck 75 0),
    .act .resume,
    .act (.call (.queueMessage 0 { alignLog := 0, bytes := [1], aligned := ⟨1, rfl⟩ }))]

set_option maxRecDepth 20000 in
theorem sending_performed :
    ∃ fresh slotZero reached walked,
      freshState blankSlotZero (fun _ => 0) (65 * vchiqSlotSize) = .ok fresh ∧
      initializeSlotZero blankSlotZero (65 * vchiqSlotSize) = .ok (slotZero, 64) ∧
      fresh.slotState.slotZero.master.txPos = 0 ∧
      sendingMoves.foldlM (System.wirePerform 0) (System.new (freshInstance fresh)) = some reached ∧
      walkStream reached.inst.state = some walked ∧
      walked.map (fun message => msgTypeFromId message.header.msgid) =
        [some .connect, some .open, some .data] ∧
      walked.getLast?.map SlotMessage.data = some [1] :=
  ⟨_, _, _, _, rfl, rfl, rfl, rfl, rfl, rfl, rfl⟩

/-- The calls of the client are CONNECT, OPEN and the byte. -/
theorem sent_byte_reaches_wire :
    ∃ labels,
      (storedIn labels).map (fun message => msgTypeFromId message.header.msgid) =
        [some .connect, some .open, some .data] ∧
      (storedIn labels).getLast?.map SlotMessage.data = some [1] := by
  rcases sending_performed with ⟨fresh, slotZero, reached, walked, made, initialized, silent,
    performed, found, types, last⟩
  have further : readIn [] ++ sendingMoves.filterMap WireMove.message <+:
      [remoteMessage .connect 0 0, remoteMessage .openAck 75 0] := List.prefix_refl _
  rcases wire_performed_run made initialized (by decide) silent sendingMoves further performed
    .refl with ⟨labels, run, _⟩
  have reaches := (calls_reach_wire made initialized (by decide) (unpadded_run run)).1
  rw [found, Option.some.injEq] at reaches
  rw [reaches] at types last
  exact ⟨labels, types, last⟩

end RuspiroVchiq.Vchi
