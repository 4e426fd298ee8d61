import RuspiroVchiq.Vchi.Services
import RuspiroVchiq.Lib.RoundUp

/-!
# How far a message write reaches

`store_message` writes a whole `SlotMessage<T>`, while the space for it is reserved
by the size of `T` alone. `WriteBounded` compares the two for one call. It holds for
every call with a payload of the given type, in every reachable state, exactly if the
alignment of the type does not exceed the header size and a message of it fits into a
slot.
-/

namespace RuspiroVchiq.Vchi

open RuspiroVchiq.Config
open RuspiroVchiq.Shared
open RuspiroVchiq.Vchiq
open RuspiroVchiq.Lib.LabelledRun
open RuspiroVchiq.Lib.ByteMemory
open RuspiroVchiq.Lib.RoundUp

set_option autoImplicit false

/-- The layout of a payload type: its alignment is a power of two and divides its
size. -/
structure PayloadType where
  alignLog : Nat
  size : Nat
  aligned : 2 ^ alignLog ∣ size

def PayloadType.align (layout : PayloadType) : Nat := 2 ^ layout.alignLog

/-- `mem::size_of::<SlotMessage<T>>()` as `repr(C)` prescribes it: header, payload at
its aligned offset, and padding up to the alignment of the struct, which is the larger
one of the header words and of `T`. -/
def slotMessageBytes (layout : PayloadType) : Nat :=
  roundUp (max 4 layout.align) (dataOffset layout.align + layout.size)

/-- The payload type of a call; without a context it is `()`. -/
def payloadType (call : QueueCall) : PayloadType :=
  match call.context with
  | none => ⟨0, 0, Nat.dvd_zero _⟩
  | some payload => ⟨payload.alignLog, payload.bytes.length, payload.aligned⟩

/-- The address the reservation starts at. -/
def reservedAddress (position : SlotPosition) : Nat :=
  position.index * vchiqSlotSize + position.offset

/-- The write of the message stays inside its reservation. -/
structure WriteInside (call : QueueCall) (msgType : MessageType) (position : SlotPosition)
    (reserved : State) : Prop where
  start : slotAddress position = reservedAddress position
  written : slotMessageBytes (payloadType call) ≤ call.msgStride
  slot : position.offset + call.msgStride ≤ vchiqSlotSize
  payload : dataOffset call.align = headerSize
  untouched : ∀ after, storeAndPublish reserved call msgType position = .ok after →
    ∀ target, target < reservedAddress position ∨
        reservedAddress position + call.msgStride ≤ target →
      after.slotState.slotData.inner target = reserved.slotState.slotData.inner target

/-- Either the call is refused and has changed nothing, or the write for the space it
reserved is inside that space. -/
structure WriteBounded (state : State) (call : QueueCall) : Prop where
  refused : ∀ error after, queueMessage state call = (.error (.error error), after) →
    after.slotState = state.slotState ∧ after.quotaState = state.quotaState
  stored : ∀ admitted msgType position reserved,
    admitMessage state call = (.ok msgType, admitted) →
      reserveSpace admitted call.msgStride = .ok (position, reserved) →
        WriteInside call msgType position reserved

theorem call_align (call : QueueCall) : call.align = (payloadType call).align := by
  unfold QueueCall.align payloadType PayloadType.align
  cases call.context <;> rfl

theorem call_size (call : QueueCall) : call.msgSize = (payloadType call).size := by
  unfold QueueCall.msgSize QueueCall.payload payloadType
  cases call.context <;> rfl

theorem data_offset_eq (align : Nat) : dataOffset align = roundUp align headerSize := rfl

theorem calc_msg_stride_eq (size : Nat) :
    calcMsgStride size = roundUp headerSize (headerSize + size) := rfl

theorem align_pos (layout : PayloadType) : 0 < layout.align := Nat.two_pow_pos _

/-- The payload starts behind the header exactly if its alignment allows it. -/
theorem payload_behind_header (layout : PayloadType) :
    dataOffset layout.align = headerSize ↔ layout.align ≤ headerSize := by
  constructor
  · intro behind
    rw [← behind, data_offset_eq]
    apply Nat.le_of_dvd
    · exact Nat.lt_of_lt_of_le (by decide) (le_round_up (align_pos layout))
    · exact round_up_dvd _ _
  · exact data_offset_of_small layout.alignLog

/-- With a small alignment the struct ends where the reservation does, or before. -/
theorem struct_fits_stride (layout : PayloadType) (small : layout.align ≤ headerSize) :
    slotMessageBytes layout ≤ calcMsgStride layout.size := by
  have log : layout.alignLog ≤ 3 :=
    (Nat.pow_le_pow_iff_right (by decide)).mp (show 2 ^ layout.alignLog ≤ 2 ^ 3 from small)
  have divides : max 4 layout.align ∣ headerSize := by
    rcases Nat.le_total layout.align 4 with below | above
    · rw [Nat.max_eq_left below]
      decide
    · rw [Nat.max_eq_right above]
      exact Nat.pow_dvd_pow 2 log
  unfold slotMessageBytes
  apply round_up_le (by omega)
  · rw [(payload_behind_header layout).mpr small]
    exact (calc_msg_stride_bounds layout.size).1
  · exact Nat.dvd_trans divides (round_up_dvd headerSize _)

theorem stride_fits_slot (layout : PayloadType) :
    calcMsgStride layout.size ≤ vchiqSlotSize ↔ headerSize + layout.size ≤ vchiqSlotSize := by
  constructor
  · exact fun fits => Nat.le_trans (calc_msg_stride_bounds layout.size).1 fits
  · intro fits
    rw [calc_msg_stride_eq]
    exact round_up_le (by decide) fits (by decide)

/-- A reservation that fits into a slot lies inside one. -/
theorem reserve_space_inside {state reserved : State} {spaceNeeded : Nat}
    {position : SlotPosition} (fits : spaceNeeded ≤ vchiqSlotSize)
    (reservation : reserveSpace state spaceNeeded = .ok (position, reserved)) :
    position.offset < vchiqSlotSize ∧ position.offset + spaceNeeded ≤ vchiqSlotSize := by
  unfold reserveSpace at reservation
  simp only [bind, Except.bind, pure, Except.pure] at reservation
  cases left : leaveSlot state.slotState spaceNeeded with
  | error panic => simp [left] at reservation
  | ok result =>
      simp only [left] at reservation
      cases chosen : choosePosition state result.2 with
      | error panic => simp [chosen] at reservation
      | ok target =>
          simp only [chosen, Except.ok.injEq, Prod.mk.injEq] at reservation
          rw [← reservation.1]
          -- behind the padding the position is at a slot start, else the rest is enough
          have start : result.2 % vchiqSlotSize = 0 ∨
              spaceNeeded ≤ vchiqSlotSize - result.2 % vchiqSlotSize := by
            simp only [leaveSlot, and_slot_mask] at left
            split_ifs at left with padding
            · cases padded : padSlot state.slotState
                  (vchiqSlotSize - state.slotState.localTxPos % vchiqSlotSize) with
              | error panic => simp [padded] at left
              | ok slotData =>
                  simp only [padded, Except.ok.injEq] at left
                  rw [← left]
                  simp only [vchiqSlotSize]
                  omega
            · simp only [Except.ok.injEq] at left
              rw [← left]
              exact .inr (Nat.not_lt.mp padding)
          have inside := Nat.mod_lt result.2 (show 0 < vchiqSlotSize by decide)
          unfold choosePosition at chosen
          rw [and_slot_mask] at chosen
          split_ifs at chosen with opened full
          · simp only [Except.ok.injEq] at chosen
            rw [← chosen]
            simp only [Nat.zero_add]
            exact ⟨by decide, fits⟩
          · split at chosen
            · simp at chosen
            · simp only [Except.ok.injEq] at chosen
              rw [← chosen]
              simp only
              omega

/-- A store writes header and payload and nothing else. -/
theorem store_message_outside {slots stored : SlotAccessor} {position : SlotPosition}
    {align size : Nat} {f : SlotMessage → SlotMessage}
    (success : slots.storeMessage position align size f = .ok stored)
    (sized : ∀ message, message.data.length = size → (f message).data.length = size)
    (behind : headerSize ≤ dataOffset align) {target : Nat}
    (outside : target < slotAddress position ∨
      slotAddress position + dataOffset align + size ≤ target) :
    stored.inner target = slots.inner target := by
  unfold SlotAccessor.storeMessage at success
  split_ifs at success
  simp only [Except.ok.injEq] at success
  rw [← success]
  simp only
  rw [write_outside, write_header_outside]
  · omega
  · rw [sized _ (read_length _ _ _)]
    omega

/-- The store in the publishing section. -/
theorem publish_stored {state after : State} {call : QueueCall} {msgType : MessageType}
    {position : SlotPosition}
    (published : storeAndPublish state call msgType position = .ok after) :
    state.slotState.slotData.storeMessage position call.align call.msgSize
      (fun message =>
        { header := call.message.header
          data := if call.context.isSome then call.payload else message.data }) =
      .ok after.slotState.slotData := by
  unfold storeAndPublish at published
  simp only [bind, Except.bind, pure, Except.pure] at published
  by_cases unused : state.slotState.localTxPos = 0
  · simp [if_pos unused, throw, throwThe, MonadExceptOf.throw] at published
  · simp only [if_neg unused] at published
    split at published
    · simp at published
    · rename_i slotData stored
      cases accounted : accountMessage state call msgType with
      | error panic => simp [accounted] at published
      | ok quotaState =>
          simp only [accounted, Except.ok.injEq] at published
          rw [stored, ← published]

/-- A call with a payload of an admissible type stays inside its reservation, from any
state. -/
theorem write_inside_of_layout {state reserved : State} {call : QueueCall}
    {msgType : MessageType} {position : SlotPosition}
    (small : (payloadType call).align ≤ headerSize)
    (fits : headerSize + (payloadType call).size ≤ vchiqSlotSize)
    (reservation : reserveSpace state call.msgStride = .ok (position, reserved)) :
    WriteInside call msgType position reserved := by
  have stride : call.msgStride = calcMsgStride (payloadType call).size := by
    rw [QueueCall.msgStride, call_size]
  have short : call.msgStride ≤ vchiqSlotSize := by
    rw [stride]
    exact (stride_fits_slot _).mpr fits
  rcases reserve_space_inside short reservation with ⟨inSlot, inside⟩
  have start : slotAddress position = reservedAddress position := by
    rw [slotAddress, reservedAddress, and_slot_mask, Nat.mod_eq_of_lt inSlot]
  have behind : dataOffset call.align = headerSize := by
    rw [call_align]
    exact (payload_behind_header _).mpr small
  refine ⟨start, ?_, inside, behind, ?_⟩
  · rw [stride]
    exact struct_fits_stride _ small
  · intro after published target outside
    apply store_message_outside (publish_stored published)
    · intro message sized
      cases call.context with
      | none => exact sized
      | some payload => rfl
    · exact Nat.le_of_eq behind.symm
    · have bounds := (calc_msg_stride_bounds (payloadType call).size).1
      rw [← stride] at bounds
      rw [start, behind, call_size]
      omega

/-- A refused call has changed nothing: the only change of the check would be a quota
event, and those are raised for closing services only. -/
theorem refused_call_unchanged {inst : Instance} {bound : ServiceHandle} {after : State}
    {call : QueueCall} {error : VchiqError} (registered : Registered inst bound)
    (records : RecordInvariant inst)
    (refused : queueMessage inst.state call = (.error (.error error), after)) :
    after = inst.state := by
  have isData := queue_message_refused_data refused
  have checked : checkQuota inst.state call = (.error (.error error), after) := by
    unfold queueMessage at refused
    simp only [admitMessage, isData, if_true] at refused
    split at refused
    · rename_i stop admitted outcome
      split at outcome
      · rename_i reported checked
        rw [checked, ← (Prod.mk.inj refused).2, ← (Prod.mk.inj outcome).2,
          ← Except.error.inj (Prod.mk.inj refused).1,
          ← Except.error.inj (Prod.mk.inj outcome).1]
      · simp at outcome
    · split at refused <;> simp at refused
  unfold checkQuota at checked
  cases found : call.service.bind inst.state.srvState.service with
  | none =>
      simp only [found, Prod.mk.injEq] at checked
      exact checked.2.symm
  | some service =>
      cases closing : service.closing with
      | true =>
          simp only [found, closing, if_true, Prod.mk.injEq] at checked
          exact checked.2.symm
      | false =>
          simp only [found, closing, Bool.false_eq_true, if_false] at checked
          cases record : inst.state.quotaState.serviceQuotas[service.localport.toNat]? with
          | none => simp [record] at checked
          | some quota =>
              rcases Option.bind_eq_some_iff.mp found with ⟨reference, _, stored⟩
              have port : service.localport.toNat = reference :=
                (registered.ports reference _ (endpoints_some stored)).1
              have noEvent : quota.quotaEvent = 0 := by
                by_contra raised
                rcases records.events _ quota record (Nat.pos_of_ne_zero raised) with
                  ⟨other, present, isClosing⟩
                rw [port, stored, Option.some.injEq] at present
                rw [present] at closing
                simp [closing] at isClosing
              simp only [record, noEvent, quotaLoop] at checked
              split_ifs at checked <;> simp at checked

/-- A state in which the service at the index may send and the transmit position is inside
a slot. -/
structure MaySend (state : State) (reference : ServiceRef) (service : Service) : Prop where
  stored : state.srvState.service reference = some service
  live : service.closing = false
  ports : service.localport.toNat < vchiqMaxServices ∧
    service.remoteport.toNat < vchiqMaxServices
  dataQuota : state.quotaState.dataUseCount ≠ state.quotaState.dataQuota
  record : ∃ quota, state.quotaState.serviceQuotas[service.localport.toNat]? = some quota ∧
    quota.messageUseCount ≠ quota.messageQuota ∧ quota.slotUseCount ≠ quota.slotQuota
  started : state.slotState.localTxPos % vchiqSlotSize ≠ 0
  room : headerSize ≤ vchiqSlotSize - state.slotState.localTxPos % vchiqSlotSize
  slot : ∃ slotPos, state.slotState.txData = some slotPos ∧ 0 < slotPos.index ∧
    slotPos.index < state.slotState.slotData.len
  next : (state.slotState.localTxPos / vchiqSlotSize + 1) * vchiqSlotSize ≠
    state.slotQueueAvailable * vchiqSlotSize

theorem quota_loop_passes {service : Service} {quota : ServiceQuota} {txEndIndex : Int}
    (free : ¬quotaExhausted quota txEndIndex) (quotaEvent : Nat) :
    quotaLoop service quota txEndIndex quotaEvent = (.ok (), quotaEvent) := by
  cases quotaEvent with
  | zero => simp only [quotaLoop, if_neg free]
  | succ quotaEvent => simp only [quotaLoop, if_neg free]

/-- A service with quota left is admitted, whatever it sends. -/
theorem MaySend.admitted {state : State} {reference : ServiceRef} {service : Service}
    (maySend : MaySend state reference service) (data : Payload) :
    ∃ admitted, admitMessage state (dataCall reference service data) = (.ok .data, admitted) ∧
      admitted.slotState = state.slotState ∧
      admitted.slotQueueAvailable = state.slotQueueAvailable := by
  rcases maySend.record with ⟨quota, record, messages, slots⟩
  have isData : msgTypeFromId (dataCall reference service data).msgId = some .data :=
    msg_type_make .data service.localport service.remoteport maySend.ports.1 maySend.ports.2
  have found : (dataCall reference service data).service.bind state.srvState.service =
      some service := maySend.stored
  have free : ∀ txEndIndex, ¬quotaExhausted quota txEndIndex := by
    rintro txEndIndex (exhausted | ⟨_, exhausted⟩)
    · exact messages exhausted
    · exact slots exhausted
  have within : ∀ txEndIndex : Int, ¬(txEndIndex ≠ state.quotaState.previousDataIndex ∧
      state.quotaState.dataUseCount = state.quotaState.dataQuota) :=
    fun _ exhausted => maySend.dataQuota exhausted.2
  have passed : (admitMessage state (dataCall reference service data)).1 = .ok .data := by
    simp only [admitMessage, isData, if_true, checkQuota, found, maySend.live,
      Bool.false_eq_true, if_false, record, if_neg (within _), quota_loop_passes (free _)]
  cases admission : admitMessage state (dataCall reference service data) with
  | mk result admitted =>
      rw [admission] at passed
      rcases admit_frame admission with ⟨quotas, _, frame⟩
      refine ⟨admitted, ?_, ?_, ?_⟩
      · rw [show result = .ok .data from passed]
      · rw [frame]
      · rw [frame]

/-- From a position inside a slot any space is reserved, also more than a slot has. -/
theorem reserve_space_any {state : State} {slotPos : SlotPosition} (spaceNeeded : Nat)
    (started : state.slotState.localTxPos % vchiqSlotSize ≠ 0)
    (room : headerSize ≤ vchiqSlotSize - state.slotState.localTxPos % vchiqSlotSize)
    (current : state.slotState.txData = some slotPos) (positive : 0 < slotPos.index)
    (bound : slotPos.index < state.slotState.slotData.len)
    (next : (state.slotState.localTxPos / vchiqSlotSize + 1) * vchiqSlotSize ≠
      state.slotQueueAvailable * vchiqSlotSize) :
    ∃ position reserved, reserveSpace state spaceNeeded = .ok (position, reserved) := by
  have padded : ∃ slotData, padSlot state.slotState
      (vchiqSlotSize - state.slotState.localTxPos % vchiqSlotSize) = .ok slotData := by
    simp only [padSlot, current, if_neg (Nat.not_lt.mpr room)]
    rw [store_message_eq _ _ _ _ _ positive bound]
    exact ⟨_, rfl⟩
  rcases padded with ⟨slotData, padding⟩
  unfold reserveSpace leaveSlot
  simp only [bind, Except.bind, pure, Except.pure, and_slot_mask]
  split_ifs
  · have behind : state.slotState.localTxPos +
        (vchiqSlotSize - state.slotState.localTxPos % vchiqSlotSize) =
          (state.slotState.localTxPos / vchiqSlotSize + 1) * vchiqSlotSize := by
      simp only [vchiqSlotSize]
      omega
    have atStart : (state.slotState.localTxPos / vchiqSlotSize + 1) * vchiqSlotSize %
        vchiqSlotSize = 0 := Nat.mul_mod_left _ _
    simp only [padding, behind, choosePosition, and_slot_mask, atStart, if_true, if_neg next]
    exact ⟨_, _, rfl⟩
  · simp only [choosePosition, and_slot_mask, if_neg started, current]
    exact ⟨_, _, rfl⟩

theorem MaySend.reserved {state : State} {reference : ServiceRef} {service : Service}
    (maySend : MaySend state reference service) (data : Payload) :
    ∃ admitted position reserved,
      admitMessage state (dataCall reference service data) = (.ok .data, admitted) ∧
      reserveSpace admitted (dataCall reference service data).msgStride =
        .ok (position, reserved) := by
  rcases maySend.admitted data with ⟨admitted, admission, slots, available⟩
  rcases maySend.slot with ⟨slotPos, current, positive, bound⟩
  have started := maySend.started
  have room := maySend.room
  have next := maySend.next
  rw [← slots] at started room current bound next
  rw [← available] at next
  rcases reserve_space_any (dataCall reference service data).msgStride started room current
    positive bound next with ⟨position, reserved, reservation⟩
  exact ⟨admitted, position, reserved, admission, reservation⟩

/-- What the bound says about the payload of a call that may be sent. -/
theorem MaySend.bounded {state : State} {reference : ServiceRef} {service : Service}
    (maySend : MaySend state reference service) (data : Payload)
    (bounded : WriteBounded state (dataCall reference service data)) :
    data.align ≤ headerSize ∧ headerSize + data.bytes.length ≤ vchiqSlotSize := by
  rcases maySend.reserved data with ⟨admitted, position, reserved, admission, reservation⟩
  have inside := bounded.stored _ _ _ _ admission reservation
  constructor
  · have behind := inside.payload
    rw [call_align] at behind
    exact (payload_behind_header _).mp behind
  · have slot := inside.slot
    have stride := (calc_msg_stride_bounds data.bytes.length).1
    have same : (dataCall reference service data).msgStride = calcMsgStride data.bytes.length :=
      rfl
    omega

set_option maxRecDepth 20000 in
theorem open_service_may_send :
    ∃ fresh actions reached service,
      freshState blankSlotZero (fun _ => 0) (65 * vchiqSlotSize) = .ok fresh ∧
      (System.new (freshInstance fresh)).performAll Anything (openingMoves ++ [.resume]) =
        some (actions, reached) ∧
      MaySend reached.inst.state 0 service :=
  ⟨_, _, _, _, rfl, rfl, rfl, rfl, by decide, by decide, ⟨_, rfl, by decide, by decide⟩,
    by decide, by decide, ⟨_, rfl, by decide, by decide⟩, by decide⟩

/-- Some value of a payload type. -/
def PayloadType.zero (layout : PayloadType) : Payload where
  alignLog := layout.alignLog
  bytes := List.replicate layout.size 0
  aligned := by
    rw [List.length_replicate]
    exact layout.aligned

/-- Every call with a payload of the type, in every reachable state, is refused without
a change or stays inside its reservation, exactly if the type is not aligned beyond the
header size and a message of it fits into a slot. -/
theorem writes_bounded_iff (layout : PayloadType) :
    (∀ raw memory totalMemory fresh actions reached call,
      freshState raw memory totalMemory = .ok fresh →
        Run SystemStep (System.new (freshInstance fresh)) actions reached →
          payloadType call = layout → WriteBounded reached.inst.state call) ↔
      layout.align ≤ headerSize ∧ headerSize + layout.size ≤ vchiqSlotSize := by
  constructor
  · intro bounded
    rcases open_service_may_send with
      ⟨fresh, actions, reached, service, made, performed, maySend⟩
    have sample : payloadType (dataCall 0 service layout.zero) = layout := by
      simp [payloadType, dataCall, PayloadType.zero]
    have inside := maySend.bounded layout.zero (bounded _ _ _ fresh actions reached _ made
      (perform_all_run .refl performed).unguarded sample)
    simpa [PayloadType.zero, Payload.align, PayloadType.align] using inside
  · rintro ⟨small, fits⟩ raw memory totalMemory fresh actions reached call made run rfl
    rcases record_invariant_run (fresh_state_facts made) run with ⟨ready, _, records⟩
    constructor
    · intro error after refused
      rw [refused_call_unchanged ready records refused]
      exact ⟨rfl, rfl⟩
    · intro admitted msgType position reserved _ reservation
      exact write_inside_of_layout small fits reservation

/-- A payload of one byte more than a slot has room for. -/
def oversizedPayload : Payload where
  alignLog := 0
  bytes := List.replicate 4089 0
  aligned := one_dvd _

/-- An open service sends it, and the write reaches into the next slot. -/
theorem oversized_write_leaves_slot :
    ∃ fresh actions reached service,
      freshState blankSlotZero (fun _ => 0) (65 * vchiqSlotSize) = .ok fresh ∧
      Run SystemStep (System.new (freshInstance fresh)) actions reached ∧
      reached.inst.state.srvState.service 0 = some service ∧
      ¬WriteBounded reached.inst.state (dataCall 0 service oversizedPayload) := by
  rcases open_service_may_send with ⟨fresh, actions, reached, service, made, performed, maySend⟩
  refine ⟨fresh, actions, reached, service, made, (perform_all_run .refl performed).unguarded,
    maySend.stored, ?_⟩
  intro bounded
  have fits := (maySend.bounded oversizedPayload bounded).2
  have length : oversizedPayload.bytes.length = 4089 := List.length_replicate
  rw [length] at fits
  exact absurd fits (by decide)

end RuspiroVchiq.Vchi
