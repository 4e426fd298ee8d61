import RuspiroVchiq.Receive.Termination

/-!
# Where the receive loop reads

The loop of `slot_handler` one iteration at a time, while the VideoCore changes the
shared memory as it likes. The offset in `rx_data` and `rx_pos` name the same place of a
slot, at a multiple of the header size, so that a header is always read inside its slot.
The size in the header is trusted: the payload is inside the slot exactly if the sender
did not let the message cross a slot end of the stream.
-/

namespace RuspiroVchiq.Receive

open RuspiroVchiq.Config
open RuspiroVchiq.Shared
open RuspiroVchiq.Vchiq
open RuspiroVchiq.Lib.ByteMemory
open RuspiroVchiq.Lib.LabelledRun

set_option autoImplicit false

/-- An iteration comes with the place and the message it read. -/
inductive ReadLabel where
  | iterated (slotPos : SlotPosition) (message : SlotMessage)
  | environment

/-- An iteration under any `tx_pos` that has not been reached, or a change of anything
but the receive cursor. -/
inductive ReadStep : Instance → ReadLabel → Instance → Prop where
  | iterated {before after : Instance} {txPos : Nat} {message : SlotMessage}
      (unfinished : rxPosOf before ≠ txPos)
      (received : receiveMessageWrapping before txPos = .ok (message, after)) :
      ReadStep before (.iterated (openRxSlot before.state.slotState txPos) message) after
  | environment {before after : Instance} (rxPos : rxPosOf after = rxPosOf before)
      (rxData : after.state.slotState.rxData = before.state.slotState.rxData) :
      ReadStep before .environment after

def ReadLabel.read : ReadLabel → Option (SlotPosition × SlotMessage)
  | .iterated slotPos message => some (slotPos, message)
  | .environment => none

/-- What was read in a run, and from where. -/
def readsIn (labels : List ReadLabel) : List (SlotPosition × SlotMessage) :=
  labels.filterMap ReadLabel.read

theorem reads_in_snoc (labels : List ReadLabel) (label : ReadLabel) :
    readsIn (labels ++ [label]) = readsIn labels ++ label.read.toList := by
  rw [readsIn, List.filterMap_append, readsIn]
  cases found : label.read <;> simp [found]

/-- The sizes the VideoCore wrote into the headers of these messages. -/
def writtenSizes (labels : List ReadLabel) : List Nat :=
  (readsIn labels).map fun read => read.2.header.size.toNat

/-- The stream bytes that messages of these sizes take. -/
def strideSum (sizes : List Nat) : Nat := (sizes.map calcMsgStride).sum

/-- The rule of the sender: messages of these sizes, one behind the other from the start of
the stream, all end in the slot they start in. -/
def PackedSizes (sizes : List Nat) : Prop :=
  ∀ earlier size later, sizes = earlier ++ size :: later →
    strideSum earlier % vchiqSlotSize + calcMsgStride size ≤ vchiqSlotSize

theorem stride_sum_snoc (sizes : List Nat) (size : Nat) :
    strideSum (sizes ++ [size]) = strideSum sizes + calcMsgStride size := by
  simp [strideSum]

theorem packed_sizes_nil : PackedSizes [] := by
  intro earlier size later split
  simp at split

theorem packed_sizes_snoc (sizes : List Nat) (size : Nat) :
    PackedSizes (sizes ++ [size]) ↔
      PackedSizes sizes ∧
        strideSum sizes % vchiqSlotSize + calcMsgStride size ≤ vchiqSlotSize := by
  constructor
  · intro packed
    constructor
    · intro earlier inner later split
      exact packed earlier inner (later ++ [size]) (by rw [split]; simp)
    · exact packed sizes size [] rfl
  · rintro ⟨packed, fits⟩ earlier inner later split
    cases later using List.reverseRecOn with
    | nil =>
        have parts := List.append_inj' split rfl
        simp only [List.cons.injEq, and_true] at parts
        rw [← parts.1, ← parts.2]
        exact fits
    | append_singleton later last _ =>
        have regrouped : sizes ++ [size] = (earlier ++ inner :: later) ++ [last] := by
          simpa using split
        exact packed earlier inner later (List.append_inj' regrouped rfl).1

/-- The bytes `read_message` takes for its message are in the slot of the position. -/
structure ReadInside (slotPos : SlotPosition) (message : SlotMessage) : Prop where
  start : slotPos.index * vchiqSlotSize ≤ slotAddress slotPos
  header : slotAddress slotPos + headerSize ≤ (slotPos.index + 1) * vchiqSlotSize
  payload : slotAddress slotPos + headerSize + message.header.size.toNat ≤
    (slotPos.index + 1) * vchiqSlotSize

/-- Whatever the next iteration reads is in the slot of the receive position. -/
def ReadsInside (inst : Instance) (txPos : Nat) : Prop :=
  ∀ message,
    inst.state.slotState.slotData.readMessage (openRxSlot inst.state.slotState txPos) =
        .ok message →
      ReadInside (openRxSlot inst.state.slotState txPos) message

/-- The header that is stored at the receive position. -/
def storedHeader (inst : Instance) (txPos : Nat) : SlotMessageHeader :=
  readHeader inst.state.slotState.slotData.inner
    (slotAddress (openRxSlot inst.state.slotState txPos))

/-- The stream position and the slot position agree. -/
structure CursorAligned (inst : Instance) : Prop where
  aligned : 8 ∣ rxPosOf inst
  bounded : rxPosOf inst < 2 ^ 64
  closed : inst.state.slotState.rxData = none → rxPosOf inst % vchiqSlotSize = 0
  offset : ∀ rxData, inst.state.slotState.rxData = some rxData →
    rxData.offset % vchiqSlotSize = rxPosOf inst % vchiqSlotSize

/-- An accepted iteration has dispatched the message and moved the cursor. -/
theorem receive_message_wrapping_cases {inst next : Instance} {txPos : Nat}
    {message : SlotMessage}
    (received : receiveMessageWrapping inst txPos = .ok (message, next)) :
    ∃ middle, Dispatched inst message middle ∧
      next = middle.withSlots
        (advanceRxWrapping inst.state.slotState (openRxSlot inst.state.slotState txPos)
          (messageStride message)) := by
  unfold receiveMessageWrapping at received
  simp only at received
  cases found : inst.state.slotState.slotData.readMessage
      (openRxSlot inst.state.slotState txPos) with
  | error panic => simp [found] at received
  | ok stored =>
      simp only [found] at received
      cases handled : dispatch inst stored with
      | error panic => simp [handled] at received
      | ok after =>
          simp only [handled, Except.ok.injEq, Prod.mk.injEq] at received
          rcases received with ⟨rfl, rfl⟩
          have dispatched := dispatch_cases handled
          refine ⟨after, dispatched, ?_⟩
          rw [dispatched_slot_state dispatched]

theorem received_slot_state {inst next : Instance} {txPos : Nat} {message : SlotMessage}
    (received : receiveMessageWrapping inst txPos = .ok (message, next)) :
    next.state.slotState =
      advanceRxWrapping inst.state.slotState (openRxSlot inst.state.slotState txPos)
        (messageStride message) := by
  rcases receive_message_wrapping_cases received with ⟨middle, _, rfl⟩
  rfl

/-- The next message starts where the stream says. -/
theorem CursorAligned.open_offset {inst : Instance} (cursor : CursorAligned inst)
    (txPos : Nat) :
    (openRxSlot inst.state.slotState txPos).offset % vchiqSlotSize =
      rxPosOf inst % vchiqSlotSize := by
  unfold openRxSlot
  cases opened : inst.state.slotState.rxData with
  | none => exact (cursor.closed opened).symm
  | some rxData => exact cursor.offset rxData opened

/-- A slot divides the range of the cursor. -/
theorem wrapping_add_mod_slot (left right : Nat) :
    wrappingAdd left right % vchiqSlotSize = (left + right) % vchiqSlotSize :=
  Nat.mod_mod_of_dvd _ (by decide)

theorem advance_cursor_aligned {inst next : Instance} {txPos : Nat} {message : SlotMessage}
    (cursor : CursorAligned inst)
    (received : receiveMessageWrapping inst txPos = .ok (message, next)) :
    CursorAligned next := by
  have slots := received_slot_state received
  have position : rxPosOf next = wrappingAdd (rxPosOf inst) (messageStride message) := by
    rw [rxPosOf, slots]
    rfl
  have data : next.state.slotState.rxData =
      if wrappingAdd (rxPosOf inst) (messageStride message) &&& vchiqSlotMask = 0 then none
      else some
        { index := (openRxSlot inst.state.slotState txPos).index
          offset := wrappingAdd (openRxSlot inst.state.slotState txPos).offset
            (messageStride message) } := by
    rw [slots]
    rfl
  constructor
  · rw [position]
    apply (Nat.dvd_mod_iff (by decide : 8 ∣ 2 ^ 64)).mpr
    exact Nat.dvd_add cursor.aligned (calc_msg_stride_dvd _)
  · rw [position]
    exact Nat.mod_lt _ (by decide)
  · intro closed
    rw [data] at closed
    split_ifs at closed with boundary
    rw [and_slot_mask] at boundary
    rw [position, boundary]
  · intro rxData opened
    rw [data] at opened
    split_ifs at opened
    rw [Option.some.injEq] at opened
    rw [← opened, position, wrapping_add_mod_slot, wrapping_add_mod_slot, Nat.add_mod,
      cursor.open_offset txPos, ← Nat.add_mod]

theorem read_step_cursor_aligned {before after : Instance} {label : ReadLabel}
    (cursor : CursorAligned before) (step : ReadStep before label after) :
    CursorAligned after := by
  cases step with
  | iterated unfinished received => exact advance_cursor_aligned cursor received
  | environment rxPos rxData =>
      constructor
      · rw [rxPos]
        exact cursor.aligned
      · rw [rxPos]
        exact cursor.bounded
      · rw [rxPos, rxData]
        exact cursor.closed
      · rw [rxPos, rxData]
        exact cursor.offset

theorem fresh_cursor_aligned {state : State} (facts : FreshState state) :
    CursorAligned (freshInstance state) := by
  have position : rxPosOf (freshInstance state) = 0 := facts.rxPos
  have closed : (freshInstance state).state.slotState.rxData = none := facts.rxData
  constructor
  · rw [position]
    exact Nat.dvd_zero 8
  · rw [position]
    decide
  · intro _
    rw [position, Nat.zero_mod]
  · intro rxData opened
    rw [closed] at opened
    simp at opened

theorem read_run_cursor_aligned {raw : SlotZero} {memory : Memory} {totalMemory : Nat}
    {fresh : State} {labels : List ReadLabel} {inst : Instance}
    (made : freshState raw memory totalMemory = .ok fresh)
    (run : Run ReadStep (freshInstance fresh) labels inst) : CursorAligned inst := by
  apply Run.invariant (fun _ inst => CursorAligned inst) _ _ run
  · exact fresh_cursor_aligned (fresh_state_facts made)
  · intro labels before label after _ cursor step
    exact read_step_cursor_aligned cursor step

/-- A poll is a run of such iterations. -/
theorem poll_is_read_run {start inst after : Instance} {txPos fuel : Nat}
    {labels : List ReadLabel} {dispatched : List SlotMessage}
    (run : Run ReadStep start labels inst)
    (polled : receiveLoopWrapping txPos fuel inst = .done after dispatched) :
    ∃ labels', Run ReadStep start labels' after ∧
      (readsIn labels').map Prod.snd = (readsIn labels).map Prod.snd ++ dispatched := by
  induction fuel generalizing inst labels dispatched with
  | zero => simp [receiveLoopWrapping] at polled
  | succ fuel ih =>
      unfold receiveLoopWrapping at polled
      split_ifs at polled with finished
      · simp only [PollOutcome.done.injEq] at polled
        rcases polled with ⟨rfl, rfl⟩
        exact ⟨labels, run, (List.append_nil _).symm⟩
      · cases received : receiveMessageWrapping inst txPos with
        | error panic => simp [received] at polled
        | ok pair =>
            simp only [received] at polled
            have further := run.snoc (ReadStep.iterated finished received)
            cases rest : receiveLoopWrapping txPos fuel pair.2 with
            | done final messages =>
                simp only [rest, PollOutcome.done.injEq] at polled
                rcases polled with ⟨rfl, rfl⟩
                rcases ih further rest with ⟨labels', whole, reads⟩
                refine ⟨labels', whole, ?_⟩
                rw [reads, reads_in_snoc]
                simp [ReadLabel.read]
            | panicked panic => simp [rest] at polled
            | outOfFuel => simp [rest] at polled

/-- Between eight byte boundaries a message ends with its stride. -/
theorem fits_inside_iff {slotPos : SlotPosition} {message : SlotMessage}
    (aligned : 8 ∣ slotPos.offset % vchiqSlotSize) :
    ReadInside slotPos message ↔
      slotPos.offset % vchiqSlotSize + messageStride message ≤ vchiqSlotSize := by
  have inSlot : slotPos.offset % vchiqSlotSize < vchiqSlotSize := Nat.mod_lt _ (by decide)
  have address : slotAddress slotPos =
      slotPos.index * vchiqSlotSize + slotPos.offset % vchiqSlotSize := by
    rw [slotAddress, and_slot_mask]
  have slotEnd : (slotPos.index + 1) * vchiqSlotSize =
      slotPos.index * vchiqSlotSize + vchiqSlotSize := Nat.succ_mul _ _
  constructor
  · intro inside
    have payload := inside.payload
    rw [address, slotEnd] at payload
    simp only [messageStride, calcMsgStride, headerSize, vchiqSlotSize] at *
    omega
  · intro fits
    constructor
    all_goals
      rw [address]
      simp only [slotEnd, messageStride, calcMsgStride, headerSize, vchiqSlotSize] at *
      omega

/-- The read of a message stays in its slot exactly if the message does not cross the end of
the slot in the stream. -/
theorem CursorAligned.read_inside_iff {inst : Instance} (cursor : CursorAligned inst)
    (txPos : Nat) (message : SlotMessage) :
    ReadInside (openRxSlot inst.state.slotState txPos) message ↔
      rxPosOf inst % vchiqSlotSize + messageStride message ≤ vchiqSlotSize := by
  have offset := cursor.open_offset txPos
  rw [← offset]
  apply fits_inside_iff
  rw [offset]
  exact (Nat.dvd_mod_iff (by decide : 8 ∣ vchiqSlotSize)).mpr cursor.aligned

/-- The cursor is where the sizes read so far lead, and the sizes decide about the reads. -/
structure ReadInvariant (labels : List ReadLabel) (inst : Instance) : Prop where
  cursor : CursorAligned inst
  position : rxPosOf inst % vchiqSlotSize = strideSum (writtenSizes labels) % vchiqSlotSize
  inside : (∀ read ∈ readsIn labels, ReadInside read.1 read.2) ↔ PackedSizes (writtenSizes labels)

/-- One more read. -/
theorem ReadInvariant.next_read {labels : List ReadLabel} {inst : Instance}
    (inv : ReadInvariant labels inst) (txPos : Nat) (message : SlotMessage) :
    ((∀ read ∈ readsIn labels, ReadInside read.1 read.2) ∧
        ReadInside (openRxSlot inst.state.slotState txPos) message) ↔
      PackedSizes (writtenSizes labels ++ [message.header.size.toNat]) := by
  rw [packed_sizes_snoc, inv.inside, inv.cursor.read_inside_iff, inv.position]
  rfl

theorem read_invariant_step {labels : List ReadLabel} {label : ReadLabel}
    {before after : Instance} (inv : ReadInvariant labels before)
    (step : ReadStep before label after) : ReadInvariant (labels ++ [label]) after := by
  have cursor := read_step_cursor_aligned inv.cursor step
  cases step with
  | environment rxPos _ =>
      have same : readsIn (labels ++ [.environment]) = readsIn labels := by
        rw [reads_in_snoc]
        exact List.append_nil _
      refine ⟨cursor, ?_, ?_⟩
      · rw [rxPos, writtenSizes, same]
        exact inv.position
      · rw [writtenSizes, same]
        exact inv.inside
  | @iterated _ txPos message unfinished received =>
      have more : readsIn (labels ++ [.iterated (openRxSlot before.state.slotState txPos)
          message]) = readsIn labels ++ [(openRxSlot before.state.slotState txPos, message)] := by
        rw [reads_in_snoc]
        rfl
      have sizes : writtenSizes (labels ++ [.iterated (openRxSlot before.state.slotState txPos)
          message]) = writtenSizes labels ++ [message.header.size.toNat] := by
        rw [writtenSizes, more, List.map_append]
        rfl
      refine ⟨cursor, ?_, ?_⟩
      · have advanced : rxPosOf after = wrappingAdd (rxPosOf before) (messageStride message) := by
          rw [rxPosOf, received_slot_state received]
          rfl
        rw [advanced, wrapping_add_mod_slot, sizes, stride_sum_snoc, Nat.add_mod, inv.position,
          ← Nat.add_mod]
        rfl
      · rw [sizes, ← inv.next_read txPos message, more]
        simp [or_imp, forall_and]

theorem read_invariant_run {raw : SlotZero} {memory : Memory} {totalMemory : Nat}
    {fresh : State} {labels : List ReadLabel} {inst : Instance}
    (made : freshState raw memory totalMemory = .ok fresh)
    (run : Run ReadStep (freshInstance fresh) labels inst) : ReadInvariant labels inst := by
  have facts := fresh_state_facts made
  apply run.invariant ReadInvariant
  · refine ⟨fresh_cursor_aligned facts, ?_, ?_⟩
    · rw [show rxPosOf (freshInstance fresh) = 0 from facts.rxPos]
      rfl
    · apply iff_of_true
      · simp [readsIn]
      · exact packed_sizes_nil
  · intro labels before label after _ inv step
    exact read_invariant_step inv step

/-- Over every run of the receive loop, under every `tx_pos` and whatever the VideoCore does
to the shared memory in between: the reads so far and the next one all stay in their slots
exactly if the sizes the VideoCore wrote into the headers make messages that do not cross a
slot end. -/
theorem reads_inside_iff_packed {raw : SlotZero} {memory : Memory} {totalMemory : Nat}
    {fresh : State} {labels : List ReadLabel} {inst : Instance} {txPos : Nat}
    {message : SlotMessage} (made : freshState raw memory totalMemory = .ok fresh)
    (run : Run ReadStep (freshInstance fresh) labels inst)
    (stored : inst.state.slotState.slotData.readMessage
      (openRxSlot inst.state.slotState txPos) = .ok message) :
    ((∀ read ∈ readsIn labels, ReadInside read.1 read.2) ∧ ReadsInside inst txPos) ↔
      PackedSizes (writtenSizes labels ++ [message.header.size.toNat]) := by
  rw [← (read_invariant_run made run).next_read txPos message]
  have only : ReadsInside inst txPos ↔
      ReadInside (openRxSlot inst.state.slotState txPos) message := by
    constructor
    · intro inside
      exact inside message stored
    · intro inside other found
      rw [stored, Except.ok.injEq] at found
      rw [← found]
      exact inside
  rw [only]

/-- CONNECT and the PADDING behind it are read, and a PADDING that fills the second slot is
next. -/
theorem two_slots_read :
    ∃ fresh first second third,
      freshState blankSlotZero (fun _ => 0) (65 * vchiqSlotSize) = .ok fresh ∧
      rxPosOf (freshInstance fresh) = 0 ∧
      receiveMessageWrapping (remotePublished fresh 8) 8 = .ok (remoteConnect, first) ∧
      rxPosOf first = 8 ∧
      receiveMessageWrapping first 4104 = .ok (firstPadding, second) ∧
      second.state.slotState.slotData.readMessage (openRxSlot second.state.slotState 4104) =
        .ok third ∧ third.header.size = 4088 :=
  ⟨_, _, _, _, rfl, rfl, rfl, rfl, rfl, rfl, rfl⟩

/-- The three of them are read inside their slots. -/
theorem two_slots_read_inside :
    ∃ labels inst, writtenSizes labels = [0, 4080] ∧
      (∀ read ∈ readsIn labels, ReadInside read.1 read.2) ∧ ReadsInside inst 4104 := by
  rcases two_slots_read with ⟨fresh, first, second, third, made, start, connect, advanced, padding,
    stored, size⟩
  have unread : rxPosOf (remotePublished fresh 8) ≠ 8 := by
    rw [show rxPosOf (remotePublished fresh 8) = 0 from start]
    decide
  have further : rxPosOf first ≠ 4104 := by
    rw [advanced]
    decide
  have published : ReadStep (freshInstance fresh) .environment (remotePublished fresh 8) :=
    .environment rfl rfl
  have run : Run ReadStep (freshInstance fresh)
      [.environment, .iterated _ remoteConnect, .iterated _ firstPadding] second :=
    ((Run.refl.snoc published).snoc (.iterated unread connect)).snoc (.iterated further padding)
  have packed : PackedSizes ((([] ++ [0]) ++ [4080]) ++ [4088]) := by
    rw [packed_sizes_snoc, packed_sizes_snoc, packed_sizes_snoc]
    exact ⟨⟨⟨packed_sizes_nil, by decide⟩, by decide⟩, by decide⟩
  refine ⟨_, second, rfl, (reads_inside_iff_packed made run stored).mpr ?_⟩
  rw [size]
  exact packed

/-- The VideoCore stores a header at the start of slot 2 and publishes it. -/
def headerPublished (fresh : State) (header : SlotMessageHeader) : Instance :=
  (freshInstance fresh).withSlots
    { fresh.slotState with
      slotZero :=
        { fresh.slotState.slotZero with
          master :=
            { fresh.slotState.slotZero.master with txPos := 8, slotQueue := fun _ => 2 } }
      slotData :=
        { fresh.slotState.slotData with
          inner := writeHeader fresh.slotState.slotData.inner (2 * vchiqSlotSize) header } }

theorem header_published_read {fresh : State} (facts : FreshState fresh)
    (header : SlotMessageHeader) :
    rxPosOf (headerPublished fresh header) = 0 ∧
      openRxSlot (headerPublished fresh header).state.slotState 8 = ⟨2, 0⟩ ∧
      storedHeader (headerPublished fresh header) 8 = header := by
  have closed : (headerPublished fresh header).state.slotState.rxData = none := facts.rxData
  have opened : openRxSlot (headerPublished fresh header).state.slotState 8 = ⟨2, 0⟩ := by
    rw [openRxSlot, closed]
    rfl
  refine ⟨facts.rxPos, opened, ?_⟩
  rw [storedHeader, opened]
  exact read_header_write fresh.slotState.slotData.inner (2 * vchiqSlotSize) header

/-- A size that does not fit is used as it is: the payload is read past the slot. -/
theorem oversized_header_read_outside :
    ∃ fresh inst labels,
      freshState blankSlotZero (fun _ => 0) (65 * vchiqSlotSize) = .ok fresh ∧
      Run ReadStep (freshInstance fresh) labels inst ∧ txPosOf inst = 8 ∧
      storedHeader inst 8 = ⟨makeMsgId .connect 0 0, 4096⟩ ∧ ¬ReadsInside inst 8 := by
  rcases (⟨_, rfl, rfl⟩ : ∃ fresh,
      freshState blankSlotZero (fun _ => 0) (65 * vchiqSlotSize) = .ok fresh ∧
        fresh.slotState.slotData.len = 65) with ⟨fresh, made, length⟩
  rcases header_published_read (fresh_state_facts made) ⟨makeMsgId .connect 0 0, 4096⟩ with
    ⟨position, opened, header⟩
  have run : Run ReadStep (freshInstance fresh) _
      (headerPublished fresh ⟨makeMsgId .connect 0 0, 4096⟩) :=
    .snoc .refl (.environment rfl rfl)
  have slots : (headerPublished fresh
      ⟨makeMsgId .connect 0 0, 4096⟩).state.slotState.slotData.len = 65 := length
  have read : (headerPublished fresh
      ⟨makeMsgId .connect 0 0, 4096⟩).state.slotState.slotData.readMessage ⟨2, 0⟩ = .ok _ :=
    (if_neg (by decide)).trans (if_neg (by rw [slots]; decide))
  refine ⟨fresh, _, _, made, run, rfl, header, ?_⟩
  intro inside
  rw [← opened] at read
  have fits := ((read_run_cursor_aligned made run).read_inside_iff 8 _).mp (inside _ read)
  rw [position, messageStride] at fits
  rw [storedHeader] at header
  simp only [header] at fits
  exact absurd fits (by decide)

end RuspiroVchiq.Receive
