import RuspiroVchiq.Vchiq.QueueMessage

/-!
# Transmit reservations

The invariant behind `reserve_space` and the one specification of that function
all transmit results use. The slot queue of the ARM is the identity shifted by
the first slave slot, so a stream position below `slot_queue_available` slots
has exactly one address, and positions and addresses differ by a constant.
-/

namespace RuspiroVchiq.Transmit

open RuspiroVchiq.Config
open RuspiroVchiq.Shared
open RuspiroVchiq.Vchiq
open RuspiroVchiq.Lib.ByteMemory

set_option autoImplicit false

/-- The first data slot of the ARM. -/
def slotBase (state : State) : Nat := state.slotState.slotZero.slave.slotFirst

/-- Where the byte at a stream position of the ARM lives in the slot memory. -/
def streamAddress (state : State) (position : Nat) : Nat :=
  slotBase state * vchiqSlotSize + position

/-- The slot position of a stream position. -/
def streamPosition (state : State) (position : Nat) : SlotPosition where
  index := position / vchiqSlotSize + slotBase state
  offset := position % vchiqSlotSize

theorem slot_address_stream_position (state : State) (position : Nat) :
    slotAddress (streamPosition state position) = streamAddress state position := by
  simp only [slotAddress, streamPosition, streamAddress, and_slot_mask, vchiqSlotSize]
  omega

/-- Everything `reserve_space` relies on. -/
structure ReservationInvariant (numSlots : Nat) (state : State) : Prop where
  layout : SlotLayout state.slotState.slotZero numSlots
  available : state.slotQueueAvailable =
    state.slotState.slotZero.slave.slotLast - state.slotState.slotZero.slave.slotFirst + 1
  length : state.slotState.slotData.len = numSlots + vchiqSlotZeroSlots
  aligned : 8 ∣ state.slotState.localTxPos
  bounded : state.slotState.localTxPos ≤ state.slotQueueAvailable * vchiqSlotSize
  unused : state.slotState.txData = none ↔ state.slotState.localTxPos = 0
  current : ∀ slotPos, state.slotState.txData = some slotPos →
    slotPos.index = (state.slotState.localTxPos - 1) / vchiqSlotSize + slotBase state

theorem ReservationInvariant.available_eq {numSlots : Nat} {state : State}
    (inv : ReservationInvariant numSlots state) :
    state.slotQueueAvailable = numSlots - numSlots / 2 - 1 := by
  have lower := inv.layout.lower
  rw [inv.available, inv.layout.slaveLast, inv.layout.slaveFirst]
  omega

theorem ReservationInvariant.available_lt {numSlots : Nat} {state : State}
    (inv : ReservationInvariant numSlots state) : state.slotQueueAvailable < 64 := by
  have upper := inv.layout.upper
  rw [inv.available_eq]
  simp only [vchiqMaxSlots] at upper
  omega

/-- Every slot index below `slot_queue_available` names a slave data slot. -/
theorem ReservationInvariant.slot_bounds {numSlots : Nat} {state : State}
    (inv : ReservationInvariant numSlots state) (index : Nat)
    (bound : index < state.slotQueueAvailable) :
    0 < index + slotBase state ∧ index + slotBase state < state.slotState.slotData.len ∧
      index + slotBase state ≤ state.slotState.slotZero.slave.slotLast := by
  have availableEq := inv.available_eq
  have lower := inv.layout.lower
  rw [inv.length, inv.layout.slaveLast, slotBase, inv.layout.slaveFirst]
  omega

/-- The slot queue sends a stream slot to its slave slot. -/
theorem ReservationInvariant.queue_entry {numSlots : Nat} {state : State}
    (inv : ReservationInvariant numSlots state) (index : Nat)
    (bound : index < state.slotQueueAvailable) :
    (queueIndex index).val = index ∧
      state.slotState.slotZero.slave.slotQueue (queueIndex index) = index + slotBase state := by
  have small := inv.available_lt
  have value : (queueIndex index).val = index := by
    change index &&& vchiqSlotQueueMask = index
    rw [and_slot_queue_mask]
    exact Nat.mod_eq_of_lt (by simp only [vchiqMaxSlotsPerSide]; omega)
  refine ⟨value, ?_⟩
  have entry := inv.layout.queue (queueIndex index) (by rw [value, ← inv.available]; exact bound)
  rw [entry, value]
  rfl

/-- Bytes left in the slot the next message would start in. -/
def slotSpace (state : State) : Nat :=
  vchiqSlotSize - state.slotState.localTxPos % vchiqSlotSize

/-- The stream position the next reservation of this size starts at. -/
def reserveStart (state : State) (spaceNeeded : Nat) : Nat :=
  if spaceNeeded > slotSpace state then state.slotState.localTxPos + slotSpace state
  else state.slotState.localTxPos

theorem reserve_start_padded {state : State} {spaceNeeded : Nat}
    (padding : spaceNeeded > slotSpace state) :
    reserveStart state spaceNeeded = state.slotState.localTxPos + slotSpace state :=
  if_pos padding

theorem reserve_start_fits {state : State} {spaceNeeded : Nat}
    (fits : spaceNeeded ≤ slotSpace state) :
    reserveStart state spaceNeeded = state.slotState.localTxPos :=
  if_neg (Nat.not_lt.mpr fits)

/-- The slot memory after the padding a reservation of this size writes. -/
def paddedMemory (state : State) (spaceNeeded : Nat) : Memory :=
  match state.slotState.txData with
  | none => state.slotState.slotData.inner
  | some slotPos =>
      if spaceNeeded > slotSpace state then
        writeHeader state.slotState.slotData.inner (slotAddress slotPos)
          { msgid := vchiqMsgidPadding
            size := UInt32.ofNat (slotSpace state - headerSize) }
      else state.slotState.slotData.inner

def reservedState (state : State) (spaceNeeded : Nat) : State :=
  { state with
    slotState :=
      { state.slotState with
        slotData := { state.slotState.slotData with inner := paddedMemory state spaceNeeded }
        localTxPos := reserveStart state spaceNeeded + spaceNeeded
        txData := some (streamPosition state (reserveStart state spaceNeeded)) } }

/-- The size of a message slot reservation: a positive multiple of the header
size that fits into one slot. -/
structure ValidStride (spaceNeeded : Nat) : Prop where
  aligned : 8 ∣ spaceNeeded
  positive : 0 < spaceNeeded
  bounded : spaceNeeded ≤ vchiqSlotSize

theorem valid_stride (call : QueueCall) (bounded : call.msgStride ≤ vchiqSlotSize) :
    ValidStride call.msgStride :=
  ⟨calc_msg_stride_dvd _, calc_msg_stride_pos _, bounded⟩

/-- A reservation that does not fit leaves a started slot. -/
theorem started_of_padding {state : State} {spaceNeeded : Nat}
    (stride : ValidStride spaceNeeded) (padding : spaceNeeded > slotSpace state) :
    0 < state.slotState.localTxPos % vchiqSlotSize := by
  have bounded := stride.bounded
  simp only [slotSpace] at padding
  omega

theorem pad_slot_spec {numSlots : Nat} {state : State} {spaceNeeded : Nat}
    (inv : ReservationInvariant numSlots state) (stride : ValidStride spaceNeeded)
    (padding : spaceNeeded > slotSpace state) :
    padSlot state.slotState (slotSpace state) =
      .ok { state.slotState.slotData with inner := paddedMemory state spaceNeeded } := by
  have started := started_of_padding stride padding
  have notZero : state.slotState.localTxPos ≠ 0 := by
    intro zero
    simp [zero] at started
  have aligned := inv.aligned
  have room : ¬slotSpace state < headerSize := by
    simp only [slotSpace, headerSize, vchiqSlotSize] at *
    omega
  cases txData : state.slotState.txData with
  | none => exact absurd (inv.unused.mp txData) notZero
  | some slotPos =>
      have bounded := inv.bounded
      have index := inv.current slotPos txData
      have slot := inv.slot_bounds ((state.slotState.localTxPos - 1) / vchiqSlotSize) (by
        apply Nat.div_lt_of_lt_mul
        rw [Nat.mul_comm]
        omega)
      rw [← index] at slot
      have stored := store_message_eq state.slotState.slotData slotPos 1 0
        (fun message =>
          { message with
            header :=
              { msgid := vchiqMsgidPadding
                size := UInt32.ofNat (slotSpace state - headerSize) } }) slot.1 slot.2.1
      simp only [padSlot, paddedMemory, txData, if_neg room, if_pos padding, stored]
      simp [Lib.ByteMemory.read]

theorem leave_slot_spec {numSlots : Nat} {state : State} {spaceNeeded : Nat}
    (inv : ReservationInvariant numSlots state) (stride : ValidStride spaceNeeded) :
    leaveSlot state.slotState spaceNeeded =
      .ok ({ state.slotState.slotData with inner := paddedMemory state spaceNeeded },
        reserveStart state spaceNeeded) := by
  have space : vchiqSlotSize - (state.slotState.localTxPos &&& vchiqSlotMask) =
      slotSpace state := by
    rw [and_slot_mask, slotSpace]
  simp only [leaveSlot, space]
  by_cases padding : spaceNeeded > slotSpace state
  · simp only [if_pos padding, pad_slot_spec inv stride padding, reserve_start_padded padding]
  · rw [if_neg padding, reserve_start_fits (Nat.not_lt.mp padding), paddedMemory]
    cases state.slotState.txData with
    | none => rfl
    | some slotPos => simp only [if_neg padding]

theorem choose_position_spec {numSlots : Nat} {state : State} {spaceNeeded : Nat}
    (inv : ReservationInvariant numSlots state) (stride : ValidStride spaceNeeded) :
    (reserveStart state spaceNeeded = state.slotQueueAvailable * vchiqSlotSize ∧
        choosePosition state (reserveStart state spaceNeeded) = .error .outOfSlots) ∨
      (reserveStart state spaceNeeded < state.slotQueueAvailable * vchiqSlotSize ∧
        choosePosition state (reserveStart state spaceNeeded) =
          .ok (streamPosition state (reserveStart state spaceNeeded))) := by
  have bounded := inv.bounded
  by_cases boundary : reserveStart state spaceNeeded % vchiqSlotSize = 0
  · have reach : reserveStart state spaceNeeded ≤ state.slotQueueAvailable * vchiqSlotSize := by
      by_cases padding : spaceNeeded > slotSpace state
      · rw [reserve_start_padded padding]
        have started := started_of_padding stride padding
        simp only [slotSpace, vchiqSlotSize] at started bounded ⊢
        omega
      · rw [reserve_start_fits (Nat.not_lt.mp padding)]
        exact bounded
    by_cases full : reserveStart state spaceNeeded = state.slotQueueAvailable * vchiqSlotSize
    · left
      refine ⟨full, ?_⟩
      simp only [choosePosition, and_slot_mask, if_pos boundary, if_pos full]
    · right
      have below : reserveStart state spaceNeeded < state.slotQueueAvailable * vchiqSlotSize :=
        Nat.lt_of_le_of_ne reach full
      refine ⟨below, ?_⟩
      have entry := (inv.queue_entry (reserveStart state spaceNeeded / vchiqSlotSize)
        (Nat.div_lt_of_lt_mul (by rw [Nat.mul_comm]; exact below))).2
      simp only [choosePosition, and_slot_mask, if_pos boundary, if_neg full,
        slotQueueIndexFromPos, entry]
      simp only [streamPosition, boundary]
  · right
    have fits : reserveStart state spaceNeeded = state.slotState.localTxPos := by
      by_cases padding : spaceNeeded > slotSpace state
      · rw [reserve_start_padded padding] at boundary
        simp only [slotSpace, vchiqSlotSize] at boundary
        omega
      · exact reserve_start_fits (Nat.not_lt.mp padding)
    rw [fits] at boundary ⊢
    have started : state.slotState.localTxPos ≠ 0 := by
      intro zero
      simp [zero] at boundary
    have below : state.slotState.localTxPos < state.slotQueueAvailable * vchiqSlotSize := by
      simp only [vchiqSlotSize] at boundary bounded ⊢
      omega
    refine ⟨below, ?_⟩
    cases txData : state.slotState.txData with
    | none => exact absurd (inv.unused.mp txData) started
    | some slotPos =>
        have index := inv.current slotPos txData
        have sameSlot : (state.slotState.localTxPos - 1) / vchiqSlotSize =
            state.slotState.localTxPos / vchiqSlotSize := by
          simp only [vchiqSlotSize] at boundary ⊢
          omega
        rw [sameSlot] at index
        simp only [choosePosition, and_slot_mask, if_neg boundary, txData, streamPosition, index]

/-- The specification of `reserve_space`: it either stops at the out-of-slots
assertion or hands out the region that starts at `reserveStart`. -/
theorem reserve_space_spec {numSlots : Nat} {state : State} {spaceNeeded : Nat}
    (inv : ReservationInvariant numSlots state) (stride : ValidStride spaceNeeded) :
    (reserveStart state spaceNeeded = state.slotQueueAvailable * vchiqSlotSize ∧
        reserveSpace state spaceNeeded = .error .outOfSlots) ∨
      (reserveStart state spaceNeeded < state.slotQueueAvailable * vchiqSlotSize ∧
        reserveSpace state spaceNeeded =
          .ok (streamPosition state (reserveStart state spaceNeeded),
            reservedState state spaceNeeded)) := by
  have left := leave_slot_spec inv stride
  rcases choose_position_spec inv stride with ⟨full, failed⟩ | ⟨below, chosen⟩
  · left
    refine ⟨full, ?_⟩
    simp only [reserveSpace, left, bind, Except.bind, failed]
  · right
    refine ⟨below, ?_⟩
    simp only [reserveSpace, left, bind, Except.bind, chosen]
    rfl

/-- What a reservation that succeeds returns. -/
theorem reserve_space_ok {numSlots : Nat} {state after : State} {spaceNeeded : Nat}
    {position : SlotPosition} (inv : ReservationInvariant numSlots state)
    (stride : ValidStride spaceNeeded)
    (reservation : reserveSpace state spaceNeeded = .ok (position, after)) :
    reserveStart state spaceNeeded < state.slotQueueAvailable * vchiqSlotSize ∧
      position = streamPosition state (reserveStart state spaceNeeded) ∧
      after = reservedState state spaceNeeded := by
  rcases reserve_space_spec inv stride with ⟨_, failed⟩ | ⟨below, succeeded⟩
  · rw [failed] at reservation
    simp at reservation
  · rw [succeeded] at reservation
    simp only [Except.ok.injEq, Prod.mk.injEq] at reservation
    exact ⟨below, reservation.1.symm, reservation.2.symm⟩

theorem reserve_start_facts {numSlots : Nat} {state : State} {spaceNeeded : Nat}
    (inv : ReservationInvariant numSlots state) (stride : ValidStride spaceNeeded) :
    8 ∣ reserveStart state spaceNeeded ∧
      state.slotState.localTxPos ≤ reserveStart state spaceNeeded ∧
      reserveStart state spaceNeeded % vchiqSlotSize + spaceNeeded ≤ vchiqSlotSize := by
  have aligned := inv.aligned
  have bounded := stride.bounded
  by_cases padding : spaceNeeded > slotSpace state
  · rw [reserve_start_padded padding]
    simp only [slotSpace, vchiqSlotSize] at *
    omega
  · rw [reserve_start_fits (Nat.not_lt.mp padding)]
    simp only [slotSpace, vchiqSlotSize] at *
    omega

/-- The invariant reads the slot descriptor, the transmit cursor and the size of
the slot array, and nothing else. -/
theorem ReservationInvariant.congr {numSlots : Nat} {before after : State}
    (inv : ReservationInvariant numSlots before)
    (layout : SlotLayout after.slotState.slotZero numSlots)
    (available : after.slotQueueAvailable = before.slotQueueAvailable)
    (length : after.slotState.slotData.len = before.slotState.slotData.len)
    (cursor : after.slotState.localTxPos = before.slotState.localTxPos)
    (txData : after.slotState.txData = before.slotState.txData) :
    ReservationInvariant numSlots after where
  layout := layout
  available := by
    rw [available, inv.available, inv.layout.slaveLast, inv.layout.slaveFirst,
      layout.slaveLast, layout.slaveFirst]
  length := length.trans inv.length
  aligned := cursor ▸ inv.aligned
  bounded := by
    rw [cursor, available]
    exact inv.bounded
  unused := by
    rw [txData, cursor]
    exact inv.unused
  current := by
    intro slotPos same
    have index := inv.current slotPos (txData ▸ same)
    rw [index, cursor, slotBase, slotBase, inv.layout.slaveFirst, layout.slaveFirst]

theorem ReservationInvariant.admitted {numSlots : Nat} {state after : State} {call : QueueCall}
    {result : Except Stop MessageType} (inv : ReservationInvariant numSlots state)
    (admission : admitMessage state call = (result, after)) :
    ReservationInvariant numSlots after := by
  obtain ⟨quotas, _, frame⟩ := admit_frame admission
  rw [frame]
  exact inv.congr inv.layout rfl rfl rfl rfl

/-- The cursor fits into the published `tx_pos`. -/
theorem ReservationInvariant.cursor_lt {numSlots : Nat} {state : State}
    (inv : ReservationInvariant numSlots state) : state.slotState.localTxPos < 2 ^ 32 := by
  have bounded := inv.bounded
  have available := inv.available_lt
  simp only [vchiqSlotSize] at bounded
  omega

theorem reserved_invariant {numSlots : Nat} {state : State} {spaceNeeded : Nat}
    (inv : ReservationInvariant numSlots state) (stride : ValidStride spaceNeeded)
    (below : reserveStart state spaceNeeded < state.slotQueueAvailable * vchiqSlotSize) :
    ReservationInvariant numSlots (reservedState state spaceNeeded) := by
  obtain ⟨startAligned, _, fits⟩ := reserve_start_facts inv stride
  have positive := stride.positive
  have strideAligned := stride.aligned
  refine ⟨inv.layout, inv.available, inv.length, ?_, ?_, ?_, ?_⟩
  · exact Nat.dvd_add startAligned strideAligned
  · simp only [reservedState, vchiqSlotSize] at *
    omega
  · simp only [reservedState, reduceCtorEq, false_iff]
    omega
  · intro slotPos same
    simp only [reservedState, Option.some.injEq] at same
    subst same
    simp only [streamPosition, reservedState, slotBase, vchiqSlotSize] at *
    congr 1
    omega

/-- The slot memory after a message was stored at the address. -/
def messageMemory (memory : Memory) (address : Nat) (call : QueueCall) : Memory :=
  write (writeHeader memory address call.message.header) (address + dataOffset call.align)
    call.payload

def publishedState (state : State) (call : QueueCall) (msgType : MessageType)
    (slotPosition : SlotPosition) (quotaState : QuotaState) : State :=
  { state with
    slotState :=
      { state.slotState with
        slotData :=
          { state.slotState.slotData with
            inner := messageMemory state.slotState.slotData.inner (slotAddress slotPosition) call }
        slotZero :=
          { state.slotState.slotZero with
            slave :=
              { state.slotState.slotZero.slave with
                txPos := UInt32.ofNat state.slotState.localTxPos } } }
    quotaState := quotaState
    srvState := markCloseSent state.srvState call msgType }

theorem store_call_eq (slots : SlotAccessor) (slotPos : SlotPosition) (call : QueueCall)
    (positive : 0 < slotPos.index) (bound : slotPos.index < slots.len) :
    (slots.storeMessage slotPos call.align call.msgSize fun message =>
      { header := call.message.header
        data := if call.context.isSome then call.payload else message.data }) =
      .ok { slots with inner := messageMemory slots.inner (slotAddress slotPos) call } := by
  rw [store_message_eq slots slotPos call.align call.msgSize _ positive bound]
  cases context : call.context with
  | some payload => simp only [messageMemory, Option.isSome_some, if_true]
  | none =>
      simp [messageMemory, QueueCall.msgSize, QueueCall.payload, context, Lib.ByteMemory.read]

/-- The publishing section at a valid position fails only where the accounting
does. -/
theorem store_and_publish_eq (state : State) (call : QueueCall) (msgType : MessageType)
    (slotPosition : SlotPosition) (started : 0 < state.slotState.localTxPos)
    (positive : 0 < slotPosition.index)
    (bound : slotPosition.index < state.slotState.slotData.len) :
    storeAndPublish state call msgType slotPosition =
      (accountMessage state call msgType).map
        (publishedState state call msgType slotPosition) := by
  have notZero : state.slotState.localTxPos ≠ 0 := by omega
  simp only [storeAndPublish, if_neg notZero, bind, Except.bind, pure, Except.pure,
    store_call_eq _ _ _ positive bound]
  cases accountMessage state call msgType <;> rfl

/-- The same at a position of the transmit stream. -/
theorem store_and_publish_stream {numSlots : Nat} {state : State} {start : Nat}
    (inv : ReservationInvariant numSlots state) (call : QueueCall) (msgType : MessageType)
    (below : start < state.slotQueueAvailable * vchiqSlotSize)
    (started : 0 < state.slotState.localTxPos) :
    storeAndPublish state call msgType (streamPosition state start) =
      (accountMessage state call msgType).map
        (publishedState state call msgType (streamPosition state start)) := by
  have bounds := inv.slot_bounds (start / vchiqSlotSize)
    (Nat.div_lt_of_lt_mul (by rw [Nat.mul_comm]; exact below))
  exact store_and_publish_eq state call msgType (streamPosition state start) started bounds.1
    bounds.2.1

theorem published_at_stream {numSlots : Nat} {state after : State} {start : Nat}
    {call : QueueCall} {msgType : MessageType} (inv : ReservationInvariant numSlots state)
    (below : start < state.slotQueueAvailable * vchiqSlotSize)
    (started : 0 < state.slotState.localTxPos)
    (publication :
      storeAndPublish state call msgType (streamPosition state start) = .ok after) :
    ∃ quotaState, after =
      publishedState state call msgType (streamPosition state start) quotaState := by
  rw [store_and_publish_stream inv call msgType below started] at publication
  cases account : accountMessage state call msgType with
  | error panic => simp [account, Except.map] at publication
  | ok quotaState =>
      simp only [account, Except.map, Except.ok.injEq] at publication
      exact ⟨quotaState, publication.symm⟩

theorem published_invariant {numSlots : Nat} {state : State} (call : QueueCall)
    (msgType : MessageType) (slotPosition : SlotPosition) (quotaState : QuotaState)
    (inv : ReservationInvariant numSlots state) :
    ReservationInvariant numSlots (publishedState state call msgType slotPosition quotaState) := by
  have layout := inv.layout
  refine inv.congr ?_ rfl rfl rfl rfl
  exact ⟨layout.lower, layout.upper, layout.masterSync, layout.masterFirst, layout.masterLast,
    layout.slaveSync, layout.slaveFirst, layout.slaveLast, layout.queue⟩

/-- An admitted DATA message has a service and a quota record, so that the
accounting behind it cannot fail. -/
theorem account_of_admitted {state admitted : State} {call : QueueCall}
    {msgType : MessageType} (admission : admitMessage state call = (.ok msgType, admitted))
    (later : State) (services : later.srvState = admitted.srvState)
    (quotas : later.quotaState = admitted.quotaState) :
    ∃ quotaState, accountMessage later call msgType = .ok quotaState := by
  unfold accountMessage
  by_cases isData : msgType = .data
  · rw [if_pos isData, services, quotas]
    unfold admitMessage at admission
    cases idType : msgTypeFromId call.msgId with
    | none => simp [idType] at admission
    | some idMsgType =>
        simp only [idType] at admission
        by_cases idData : idMsgType = .data
        · simp only [if_pos idData] at admission
          unfold checkQuota at admission
          cases found : call.service.bind state.srvState.service with
          | none => simp [found] at admission
          | some service =>
              simp only [found] at admission
              cases closing : service.closing with
              | true => simp [closing] at admission
              | false =>
                  simp only [closing, Bool.false_eq_true, if_false] at admission
                  cases quota : state.quotaState.serviceQuotas[service.localport.toNat]? with
                  | none => simp [quota] at admission
                  | some record =>
                      simp only [quota] at admission
                      have bound := (List.getElem?_eq_some_iff.mp quota).1
                      split_ifs at admission
                      · simp at admission
                      · split at admission
                        · simp at admission
                        · rename_i checked
                          obtain ⟨-, same⟩ := Prod.mk.inj checked
                          obtain ⟨-, sameAdmitted⟩ := Prod.mk.inj admission
                          rw [← sameAdmitted, ← same]
                          simp only [found, accountData]
                          rw [List.getElem?_set_self bound]
                          exact ⟨_, rfl⟩
        · simp only [if_neg idData, Prod.mk.injEq, Except.ok.injEq] at admission
          exact absurd (admission.1.trans isData) idData
  · rw [if_neg isData]
    exact ⟨_, rfl⟩

end RuspiroVchiq.Transmit
