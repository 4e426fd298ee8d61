import RuspiroVchiq.Transmit.Sequential
import RuspiroVchiq.Lib.SlottedStream

/-!
# The transmit stream as the VideoCore reads it

The reader starts at stream position 0, takes the slot of each position from
the slot queue of the ARM, advances by the stride of the header it finds and
skips padding. While every message fits into the rest of its slot the reader
gets back exactly the queued messages. The padding message of `reserve_space`
is stored where `tx_data` points, which is the start of the message before it,
so that the first padding makes the reader lose a message.
-/

namespace RuspiroVchiq.Transmit

open RuspiroVchiq.Config
open RuspiroVchiq.Shared
open RuspiroVchiq.Vchiq
open RuspiroVchiq.Lib.ByteMemory
open RuspiroVchiq.Lib.LabelledRun
open RuspiroVchiq.Lib.SlottedStream

set_option autoImplicit false

def readAt (state : State) (position : Nat) : Except Panic SlotMessage :=
  state.slotState.slotData.readMessage
    { index := state.slotState.slotZero.slave.slotQueue
        (queueIndex (slotQueueIndexFromPos position))
      offset := position &&& vchiqSlotMask }

/-- The messages between a position and the published `tx_pos`, if the walk ends
exactly there within the given number of steps. -/
def walkSlots (state : State) : Nat → Nat → Option (List SlotMessage)
  | 0, _ => none
  | fuel + 1, position =>
      if position = state.slotState.slotZero.slave.txPos.toNat then some []
      else
        match readAt state position with
        | .error _ => none
        | .ok message =>
            match walkSlots state fuel (position + messageStride message) with
            | none => none
            | some rest =>
                if msgTypeFromId message.header.msgid = some .padding then some rest
                else some (message :: rest)

/-- Every message advances the walk by at least a header, so that this many steps
are enough for any stream. -/
def walkStream (state : State) : Option (List SlotMessage) :=
  walkSlots state (state.slotState.slotZero.slave.txPos.toNat / headerSize + 1) 0

def queuedMessages (labels : List TransmitLabel) : List SlotMessage :=
  (regions labels).map fun region => region.call.message

/-- The payload of the call follows its header directly, as the reader expects. -/
def DirectPayload (call : QueueCall) : Prop :=
  call.align ≤ headerSize ∨ call.payload = []

theorem data_offset_of_direct {call : QueueCall} (direct : call.align ≤ headerSize) :
    dataOffset call.align = headerSize := by
  unfold QueueCall.align at direct ⊢
  cases context : call.context with
  | none => decide
  | some payload =>
      rw [context] at direct
      exact data_offset_of_small payload.alignLog direct

/-- A message whose stride fits into a slot has a size the header can hold. -/
theorem message_size {call : QueueCall} (fits : call.msgStride ≤ vchiqSlotSize) :
    call.message.header.size.toNat = call.message.data.length := by
  have bounds := calc_msg_stride_bounds call.msgSize
  simp only [QueueCall.msgStride, vchiqSlotSize] at fits
  have small : call.msgSize < 2 ^ 32 := by
    simp only [headerSize] at bounds
    omega
  exact UInt32.toNat_ofNat_of_lt' small

theorem message_stride_eq {call : QueueCall} (fits : call.msgStride ≤ vchiqSlotSize) :
    messageStride call.message = call.msgStride := by
  rw [messageStride, message_size fits]
  rfl

/-- The publishing section leaves the complete message at its position. -/
theorem stored_message_memory {call : QueueCall} (memory : Memory) (address : Nat)
    (fits : call.msgStride ≤ vchiqSlotSize) (direct : DirectPayload call) :
    Stored (messageMemory memory address call) address call.message := by
  have size := message_size fits
  have stored := stored_after_write memory address call.message size
  rcases direct with small | empty
  · rw [messageMemory, data_offset_of_direct small]
    exact stored
  · have noData : call.message.data = [] := empty
    rw [noData, write_nil] at stored
    rw [messageMemory, empty, write_nil]
    exact stored

/-- Storing a message writes inside its own region only. -/
theorem message_memory_outside {call : QueueCall} (memory : Memory) (address target : Nat)
    (direct : DirectPayload call)
    (outside : target < address ∨ address + call.msgStride ≤ target) :
    messageMemory memory address call target = memory target := by
  have bounds := (calc_msg_stride_bounds call.msgSize).1
  have header : writeHeader memory address call.message.header target = memory target := by
    apply write_header_outside
    simp only [QueueCall.msgStride] at outside
    omega
  rcases direct with small | empty
  · rw [messageMemory, data_offset_of_direct small, write_outside, header]
    simp only [QueueCall.msgStride, QueueCall.msgSize] at outside bounds
    omega
  · rw [messageMemory, empty, write_nil, header]

/-- The message at a stream position of the ARM. -/
def PlacedAt (state : State) (position : Nat) (message : SlotMessage) : Prop :=
  Stored state.slotState.slotData.inner (streamAddress state position) message ∧
    msgTypeFromId message.header.msgid ≠ some .padding

theorem read_at_placed {numSlots : Nat} {state : State} {position : Nat}
    {message : SlotMessage} (inv : ReservationInvariant numSlots state)
    (below : position < state.slotQueueAvailable * vchiqSlotSize)
    (placed : PlacedAt state position message) : readAt state position = .ok message := by
  have slotBelow : position / vchiqSlotSize < state.slotQueueAvailable :=
    Nat.div_lt_of_lt_mul (by rw [Nat.mul_comm]; exact below)
  have entry := (inv.queue_entry _ slotBelow).2
  have bounds := inv.slot_bounds _ slotBelow
  have target : readAt state position =
      state.slotState.slotData.readMessage (streamPosition state position) := by
    simp only [readAt, slotQueueIndexFromPos, entry, and_slot_mask, streamPosition]
  rw [target]
  apply read_message_of_stored bounds.1 bounds.2.1
  rw [slot_address_stream_position]
  exact placed.1

/-- A tiled stream is read back message by message. -/
theorem walk_slots_of_tiles {numSlots : Nat} {state : State}
    (inv : ReservationInvariant numSlots state) {start finish : Nat}
    {messages : List SlotMessage} (fuel : Nat)
    (tiles : Tiles messageStride (PlacedAt state) start messages finish)
    (published : state.slotState.slotZero.slave.txPos.toNat = finish)
    (bounded : finish ≤ state.slotQueueAvailable * vchiqSlotSize)
    (enough : finish < start + headerSize * fuel) :
    walkSlots state fuel start = some messages := by
  induction tiles generalizing fuel with
  | nil position =>
      cases fuel with
      | zero => omega
      | succ fuel => simp only [walkSlots, if_pos published.symm]
  | @cons position finish message rest head tail ih =>
      have advance : headerSize ≤ messageStride message :=
        Nat.le_trans (Nat.le_add_right _ _) (calc_msg_stride_bounds _).1
      have reach := tail.start_le_finish
      simp only [headerSize] at advance enough
      cases fuel with
      | zero => omega
      | succ fuel =>
          have notFinished : position ≠ state.slotState.slotZero.slave.txPos.toNat := by
            rw [published]
            omega
          have found := read_at_placed inv (by omega) head
          have others := ih fuel published bounded (by simp only [headerSize]; omega)
          simp only [walkSlots, if_neg notFinished, found, others, if_neg head.2]

/-- The types of the messages this crate queues. -/
def Transmittable (call : QueueCall) : Prop :=
  msgTypeFromId call.msgId = some .connect ∨ msgTypeFromId call.msgId = some .open ∨
    msgTypeFromId call.msgId = some .close ∨ msgTypeFromId call.msgId = some .data

/-- The calls a transmit stream is made of. -/
def StreamCall (_ : State) : TransmitLabel → Prop
  | .queued region => region.call.msgStride ≤ vchiqSlotSize ∧ Transmittable region.call
  | _ => True

/-- The calls that need no padding: the message fits into the rest of the current
slot, and its payload follows the header. -/
def UnpaddedCall (state : State) : TransmitLabel → Prop
  | .queued region =>
      StreamCall state (.queued region) ∧ region.call.msgStride ≤ slotSpace state ∧
        DirectPayload region.call
  | _ => True

structure StreamInvariant (numSlots : Nat) (labels : List TransmitLabel) (state : State) :
    Prop where
  sequential : SequentialInvariant numSlots labels state
  tiles : Tiles messageStride (PlacedAt state) 0 (queuedMessages labels)
    state.slotState.localTxPos

theorem queued_messages_snoc (labels : List TransmitLabel) (label : TransmitLabel) :
    queuedMessages (labels ++ [label]) =
      queuedMessages labels ++ label.region.toList.map fun region => region.call.message := by
  rw [queuedMessages, regions_snoc, List.map_append]
  rfl

/-- A tiled stream survives every change outside the positions it fills. -/
theorem tiles_congr {before after : State} {finish : Nat} {messages : List SlotMessage}
    (tiles : Tiles messageStride (PlacedAt before) 0 messages finish)
    (base : slotBase after = slotBase before)
    (same : ∀ address, streamAddress before 0 ≤ address →
      address < streamAddress before finish →
        after.slotState.slotData.inner address = before.slotState.slotData.inner address) :
    Tiles messageStride (PlacedAt after) 0 messages finish := by
  apply tiles.imp
  rintro position message _ inside ⟨stored, notPadding⟩
  refine ⟨?_, notPadding⟩
  have addressEq : streamAddress after position = streamAddress before position := by
    rw [streamAddress, streamAddress, base]
  rw [addressEq]
  apply stored.congr
  intro target lower upper
  have bounds := (calc_msg_stride_bounds message.header.size.toNat).1
  rw [stored.2.1] at bounds
  rw [messageStride, stored.2.1] at inside
  apply same
  · exact Nat.le_trans (Nat.add_le_add_left (Nat.zero_le position) _) lower
  · apply Nat.lt_of_lt_of_le upper
    rw [streamAddress, streamAddress, Nat.add_assoc, Nat.add_assoc]
    apply Nat.add_le_add_left
    omega

theorem not_padding_of_transmittable {call : QueueCall} (transmittable : Transmittable call) :
    msgTypeFromId call.message.header.msgid ≠ some .padding := by
  change msgTypeFromId call.msgId ≠ some .padding
  rcases transmittable with same | same | same | same
  all_goals
    rw [same]
    decide

theorem stream_invariant_step {numSlots : Nat} {labels : List TransmitLabel}
    {label : TransmitLabel} {before after : State}
    (inv : StreamInvariant numSlots labels before)
    (step : Guarded TransmitStep UnpaddedCall before label after) :
    StreamInvariant numSlots (labels ++ [label]) after := by
  obtain ⟨move, guard⟩ := step
  have sequentialStep : Guarded TransmitStep StrideFits before label after := by
    refine ⟨move, ?_⟩
    cases label with
    | queued region => exact guard.1.1
    | rejected call => trivial
    | environment => trivial
  refine ⟨sequential_invariant_step inv.sequential sequentialStep, ?_⟩
  have reservation := inv.sequential.reservation
  rw [queued_messages_snoc]
  cases label with
  | environment =>
      cases move with
      | environment undisturbed =>
          rw [undisturbed.localTxPos]
          simp only [TransmitLabel.region, Option.toList_none, List.map_nil, List.append_nil]
          exact tiles_congr inv.tiles (by rw [slotBase, undisturbed.slave, slotBase])
            (undisturbed.stream_memory reservation)
  | rejected call =>
      cases move with
      | rejected admission =>
          obtain ⟨quotas, _, frame⟩ := admit_frame admission
          simp only [TransmitLabel.region, Option.toList_none, List.map_nil, List.append_nil]
          rw [frame]
          exact tiles_congr inv.tiles rfl fun _ _ _ => rfl
  | queued region =>
      obtain ⟨⟨fits, transmittable⟩, unpadded, direct⟩ := guard
      obtain ⟨start, position, _, admitted, msgType, quotaState, ⟨quotas, frame⟩, _, result⟩ :=
        queued_step_spec move reservation fits
      rw [reserve_start_fits unpadded] at start
      have noPadding : paddedMemory admitted region.call.msgStride =
          before.slotState.slotData.inner := by
        rw [frame]
        simp only [paddedMemory]
        cases before.slotState.txData with
        | none => rfl
        | some slotPos => exact if_neg (Nat.not_lt.mpr unpadded)
      have memory : after.slotState.slotData.inner =
          messageMemory before.slotState.slotData.inner
            (streamAddress before before.slotState.localTxPos) region.call := by
        rw [result, position, start, ← noPadding, ← slot_address_stream_position]
        rfl
      have base : slotBase after = slotBase before := by
        rw [result, frame]
        rfl
      have cursor : after.slotState.localTxPos =
          before.slotState.localTxPos + messageStride region.call.message := by
        rw [result, frame, message_stride_eq fits, ← reserve_start_fits unpadded]
        rfl
      have earlier : Tiles messageStride (PlacedAt after) 0 (queuedMessages labels)
          before.slotState.localTxPos := by
        apply tiles_congr inv.tiles base
        intro address _ upper
        rw [memory]
        exact message_memory_outside _ _ _ direct (.inl upper)
      rw [cursor]
      apply earlier.snoc
      refine ⟨?_, not_padding_of_transmittable transmittable⟩
      have address : streamAddress after before.slotState.localTxPos =
          streamAddress before before.slotState.localTxPos := by
        rw [streamAddress, streamAddress, base]
      rw [memory, address]
      exact stored_message_memory _ _ fits direct

/-- While every message fits into the rest of its slot, the reader ends exactly
at `tx_pos` and has read the queued messages in queue order. -/
theorem unpadded_stream_round_trip {raw slotZero : SlotZero} {memory : Memory}
    {totalMemory numSlots : Nat} {fresh state : State} {labels : List TransmitLabel}
    (initialized : initializeSlotZero raw totalMemory = .ok (slotZero, numSlots))
    (upper : numSlots ≤ vchiqMaxSlots)
    (made : freshState raw memory totalMemory = .ok fresh)
    (run : Run (Guarded TransmitStep UnpaddedCall) fresh labels state) :
    walkStream state = some (queuedMessages labels) := by
  obtain ⟨reservation, cursor, txPos⟩ := fresh_state_spec made initialized upper
  have initial : StreamInvariant numSlots [] fresh := by
    refine ⟨⟨reservation, by rw [txPos, cursor], by simp [regions], by simp [regions]⟩, ?_⟩
    rw [cursor]
    exact .nil 0
  have inv := run.invariant (StreamInvariant numSlots) initial
    fun _ _ _ _ _ inv move => stream_invariant_step inv move
  have published := inv.sequential.published
  apply walk_slots_of_tiles inv.sequential.reservation _ inv.tiles published
    inv.sequential.reservation.bounded
  rw [published]
  simp only [headerSize]
  omega

set_option maxRecDepth 20000 in
/-- The message fits behind CONNECT. -/
theorem short_call_after_connect :
    ∃ fresh connected added state,
      freshState blankSlotZero (fun _ => 0) (65 * vchiqSlotSize) = .ok fresh ∧
      queueMessage fresh connectCall = (.ok (), connected) ∧
      connected.addService sampleParams 4096 = .ok added ∧
      queueMessage added shortCall = (.ok (), state) ∧
      slotSpace fresh = 4096 ∧ slotSpace added = 4088 :=
  ⟨_, _, _, _, rfl, rfl, rfl, rfl, rfl, rfl⟩

/-- The stream of CONNECT and the DATA message reads back as the two. -/
theorem two_messages_round_trip :
    ∃ state, walkStream state = some [connectCall.message, shortCall.message] := by
  obtain ⟨fresh, connected, added, state, made, sent, grown, short, room, rest⟩ :=
    short_call_after_connect
  obtain ⟨position', start', dataStep⟩ :=
    (queue_message_ok_iff added state shortCall).mp short
  have connectFits : connectCall.msgStride ≤ vchiqSlotSize := by decide
  have connectType : Transmittable connectCall := .inl (by decide)
  have connectDirect : DirectPayload connectCall := .inl (by decide)
  have connectRoom : connectCall.msgStride ≤ slotSpace fresh := by
    rw [room]
    decide
  have dataFits : shortCall.msgStride ≤ vchiqSlotSize := by decide
  have dataType : Transmittable shortCall := .inr (.inr (.inr (by decide)))
  have dataDirect : DirectPayload shortCall := .inl (by decide)
  have dataRoom : shortCall.msgStride ≤ slotSpace added := by
    rw [rest]
    decide
  obtain ⟨position, start, run⟩ := connect_run UnpaddedCall sent grown
    (fun _ _ => ⟨⟨connectFits, connectType⟩, connectRoom, connectDirect⟩) trivial
  exact ⟨state, unpadded_stream_round_trip rfl (by decide) made
    (run.snoc ⟨dataStep, ⟨dataFits, dataType⟩, dataRoom, dataDirect⟩)⟩

set_option maxRecDepth 20000 in
/-- After CONNECT the full slot message pads the first slot. The reader then finds
padding where CONNECT was stored. -/
theorem full_slot_after_connect :
    ∃ fresh connected added state,
      freshState blankSlotZero (fun _ => 0) (65 * vchiqSlotSize) = .ok fresh ∧
      queueMessage fresh connectCall = (.ok (), connected) ∧
      connected.addService sampleParams 4096 = .ok added ∧
      queueMessage added fullSlotCall = (.ok (), state) ∧
      (walkStream state).map (List.map SlotMessage.header) =
        some [fullSlotCall.message.header] :=
  ⟨_, _, _, _, rfl, rfl, rfl, rfl, rfl⟩

theorem padding_loses_message :
    ∃ fresh labels state,
      freshState blankSlotZero (fun _ => 0) (65 * vchiqSlotSize) = .ok fresh ∧
      Run (Guarded TransmitStep StreamCall) fresh labels state ∧
      queuedMessages labels = [connectCall.message, fullSlotCall.message] ∧
      (walkStream state).map (List.map SlotMessage.header) =
        some [fullSlotCall.message.header] ∧
      walkStream state ≠ some (queuedMessages labels) := by
  obtain ⟨fresh, connected, added, state, made, sent, grown, full, seen⟩ :=
    full_slot_after_connect
  obtain ⟨position', start', dataStep⟩ :=
    (queue_message_ok_iff added state fullSlotCall).mp full
  have connectType : Transmittable connectCall := .inl (by decide)
  have dataType : Transmittable fullSlotCall := .inr (.inr (.inr (by decide)))
  have connectFits : connectCall.msgStride ≤ vchiqSlotSize := by decide
  obtain ⟨position, start, run⟩ :=
    connect_run StreamCall sent grown (fun _ _ => ⟨connectFits, connectType⟩) trivial
  refine ⟨fresh, _, state, made, run.snoc ⟨dataStep, full_slot_fits, dataType⟩, rfl, seen, ?_⟩
  intro same
  rw [same] at seen
  simp [queuedMessages, regions, TransmitLabel.region] at seen

end RuspiroVchiq.Transmit
