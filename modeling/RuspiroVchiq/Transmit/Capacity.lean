import RuspiroVchiq.Transmit.Sequential
import RuspiroVchiq.Lib.NextFit

/-!
# What can be transmitted at all

No slot of the ARM is ever recycled, so `slot_queue_available` slots are all there is for
the whole life of a state, whatever the VideoCore reads. The messages are packed into them
next-fit: a message that does not fit into the rest of a slot goes to the next one. This
decides exactly which call stops at the assertion of `reserve_space`.
-/

namespace RuspiroVchiq.Transmit

open RuspiroVchiq.Config
open RuspiroVchiq.Shared
open RuspiroVchiq.Vchiq
open RuspiroVchiq.Lib.ByteMemory
open RuspiroVchiq.Lib.LabelledRun
open RuspiroVchiq.Lib.NextFit

set_option autoImplicit false

/-- The strides of the messages of a run, in order. -/
def strides (labels : List TransmitLabel) : List Nat :=
  (regions labels).map fun region => region.call.msgStride

theorem strides_snoc (labels : List TransmitLabel) (label : TransmitLabel) :
    strides (labels ++ [label]) =
      strides labels ++ label.region.toList.map fun region => region.call.msgStride := by
  rw [strides, regions_snoc, List.map_append]
  rfl

theorem reserve_start_eq (state : State) (spaceNeeded : Nat) :
    reserveStart state spaceNeeded =
      nextStart vchiqSlotSize state.slotState.localTxPos spaceNeeded := by
  unfold nextStart
  by_cases fits : spaceNeeded ≤ slotSpace state
  · rw [reserve_start_fits fits]
    exact (if_pos fits).symm
  · rw [reserve_start_padded (Nat.lt_of_not_le fits)]
    exact (if_neg fits).symm

/-- A message needs at least the bytes of its header. -/
theorem eight_length_le (labels : List TransmitLabel) :
    8 * (strides labels).length ≤ (strides labels).sum := by
  rw [strides]
  induction regions labels with
  | nil => exact Nat.le_refl 0
  | cons region rest ih =>
      have header := (calc_msg_stride_bounds region.call.msgSize).1
      rw [List.map_cons, List.length_cons, List.sum_cons]
      simp only [QueueCall.msgStride, headerSize] at *
      omega

/-- The bytes of all data slots of the ARM. -/
def transmitCapacity (numSlots : Nat) : Nat := (numSlots - numSlots / 2 - 1) * vchiqSlotSize

/-- The transmit cursor is the end of the packing. -/
structure Packed (numSlots : Nat) (labels : List TransmitLabel) (state : State) : Prop where
  reservation : ReservationInvariant numSlots state
  cursor : state.slotState.localTxPos = packed vchiqSlotSize (strides labels)

theorem packed_step {numSlots : Nat} {labels : List TransmitLabel} {label : TransmitLabel}
    {before after : State} (earlier : SequentialInvariant numSlots labels before)
    (inv : Packed numSlots labels before)
    (step : Guarded TransmitStep StrideFits before label after) :
    Packed numSlots (labels ++ [label]) after := by
  have later := sequential_invariant_step earlier step
  rcases step with ⟨move, fits⟩
  refine ⟨later.reservation, ?_⟩
  rw [strides_snoc]
  cases label with
  | environment =>
      cases move with
      | environment undisturbed =>
          rw [undisturbed.localTxPos, inv.cursor]
          simp [TransmitLabel.region]
  | rejected call =>
      cases move with
      | rejected admission =>
          rcases admit_frame admission with ⟨quotas, _, frame⟩
          rw [frame]
          simp [TransmitLabel.region, inv.cursor]
  | queued region =>
      rcases queued_step_spec move inv.reservation fits with
        ⟨start, _, _, admitted, msgType, quotaState, ⟨quotas, frame⟩, _, result⟩
      have startEq : reserveStart admitted region.call.msgStride = region.start := by
        rw [frame, start]
        rfl
      have cursor : after.slotState.localTxPos = region.start + region.call.msgStride := by
        rw [result, ← startEq]
        rfl
      rw [cursor, start, reserve_start_eq, inv.cursor]
      exact (packed_snoc _ _ _).symm

section Fresh

variable {raw slotZero : SlotZero} {memory : Memory} {totalMemory numSlots : Nat}
  {fresh state : State} {labels : List TransmitLabel}

theorem packed_run (initialized : initializeSlotZero raw totalMemory = .ok (slotZero, numSlots))
    (upper : numSlots ≤ vchiqMaxSlots) (made : freshState raw memory totalMemory = .ok fresh)
    (run : Run (Guarded TransmitStep StrideFits) fresh labels state) :
    Packed numSlots labels state := by
  rcases fresh_state_spec made initialized upper with ⟨reservation, cursor, txPos⟩
  have initial : SequentialInvariant numSlots [] fresh :=
    ⟨reservation, by rw [txPos, cursor], by simp [regions], by simp [regions]⟩
  have both : SequentialInvariant numSlots labels state ∧ Packed numSlots labels state := by
    apply run.invariant fun labels state =>
      SequentialInvariant numSlots labels state ∧ Packed numSlots labels state
    · exact ⟨initial, reservation, cursor⟩
    · intro labels before label after _ inv step
      exact ⟨sequential_invariant_step inv.1 step, packed_step inv.1 inv.2 step⟩
  exact both.2

end Fresh

section Call

variable {numSlots : Nat} {labels : List TransmitLabel} {state admitted : State}
  {call : QueueCall} {msgType : MessageType}

theorem capacity_eq (inv : ReservationInvariant numSlots state) :
    state.slotQueueAvailable * vchiqSlotSize = transmitCapacity numSlots := by
  rw [transmitCapacity, inv.available_eq]

/-- A message starts below the capacity exactly if it ends there. -/
theorem start_lt_capacity_iff (inv : Packed numSlots labels state)
    (fits : call.msgStride ≤ vchiqSlotSize) :
    reserveStart state call.msgStride < state.slotQueueAvailable * vchiqSlotSize ↔
      packed vchiqSlotSize (strides labels ++ [call.msgStride]) ≤ transmitCapacity numSlots := by
  have positive := calc_msg_stride_pos call.msgSize
  rw [reserve_start_eq, inv.cursor, packed_snoc, ← capacity_eq inv.reservation]
  constructor
  · exact start_add_le (by decide) fits
  · intro inside
    simp only [QueueCall.msgStride] at inside ⊢
    omega

/-- An admitted call is transmitted exactly if there is a place for its message. -/
theorem transmit_ok_iff (inv : ReservationInvariant numSlots state)
    (fits : call.msgStride ≤ vchiqSlotSize)
    (admission : admitMessage state call = (.ok msgType, admitted)) :
    (∃ after, transmit admitted call msgType = .ok after) ↔
      reserveStart state call.msgStride < state.slotQueueAvailable * vchiqSlotSize := by
  rcases admit_frame admission with ⟨quotas, _, frame⟩
  have startEq : reserveStart admitted call.msgStride = reserveStart state call.msgStride := by
    rw [frame]
    rfl
  have available : admitted.slotQueueAvailable = state.slotQueueAvailable := by rw [frame]
  have admittedInv := inv.admitted admission
  have stride := valid_stride call fits
  rw [← startEq, ← available]
  rcases reserve_space_spec admittedInv stride with ⟨full, stopped⟩ | ⟨below, succeeded⟩
  · apply iff_of_false
    · simp [transmit, bind, Except.bind, stopped]
    · rw [full]
      exact Nat.lt_irrefl _
  · apply iff_of_true _ below
    have started : 0 < (reservedState admitted call.msgStride).slotState.localTxPos :=
      Nat.lt_of_lt_of_le stride.positive (Nat.le_add_left _ _)
    have published : storeAndPublish (reservedState admitted call.msgStride) call msgType
        (streamPosition admitted (reserveStart admitted call.msgStride)) = _ :=
      store_and_publish_stream (reserved_invariant admittedInv stride below) call msgType below
        started
    rcases account_of_admitted admission (reservedState admitted call.msgStride) rfl rfl with
      ⟨quotaState, account⟩
    rw [account] at published
    simp only [transmit, bind, Except.bind, succeeded]
    exact ⟨_, published⟩

/-- How an admitted call ends. -/
theorem queue_message_ends (inv : Packed numSlots labels state)
    (fits : call.msgStride ≤ vchiqSlotSize)
    (admission : admitMessage state call = (.ok msgType, admitted)) :
    ((queueMessage state call).1 = .ok () ↔
        packed vchiqSlotSize (strides labels ++ [call.msgStride]) ≤ transmitCapacity numSlots) ∧
      ((queueMessage state call).1 = .error (.panic .outOfSlots) ↔
        transmitCapacity numSlots < packed vchiqSlotSize (strides labels ++ [call.msgStride])) := by
  have sent := (transmit_ok_iff inv.reservation fits admission).trans (start_lt_capacity_iff inv fits)
  rw [← Nat.not_le, ← sent]
  unfold queueMessage
  rw [admission]
  cases transmitted : transmit admitted call msgType with
  | error panic =>
      have stopped := transmit_panic inv.reservation fits admission transmitted
      simp [transmitted, stopped]
  | ok after => simp [transmitted]

end Call

/-- For every admissible memory size, in every state a sequential run of messages of at most a
slot each reaches, whatever the VideoCore and the other tasks do in between: the messages
stored so far fit into the data slots of the ARM as they are packed, so there are at most so
many bytes and messages of them; a further admitted call whose message is not longer than a
slot is stored exactly if it can still be packed behind them, which is certain while twice the
bytes fit, and it stops at the out-of-slots assertion otherwise. -/
theorem transmit_capacity_exact {raw slotZero : SlotZero} {memory : Memory}
    {totalMemory numSlots : Nat} {fresh state : State} {labels : List TransmitLabel}
    (initialized : initializeSlotZero raw totalMemory = .ok (slotZero, numSlots))
    (upper : numSlots ≤ vchiqMaxSlots) (made : freshState raw memory totalMemory = .ok fresh)
    (run : Run (Guarded TransmitStep StrideFits) fresh labels state) :
    packed vchiqSlotSize (strides labels) ≤ transmitCapacity numSlots ∧
      (strides labels).sum ≤ transmitCapacity numSlots ∧
      8 * (strides labels).length ≤ transmitCapacity numSlots ∧
      ∀ call msgType admitted, QueueCall.msgStride call ≤ vchiqSlotSize →
        admitMessage state call = (.ok msgType, admitted) →
          ((queueMessage state call).1 = .ok () ↔
            packed vchiqSlotSize (strides labels ++ [call.msgStride]) ≤
              transmitCapacity numSlots) ∧
          ((queueMessage state call).1 = .error (.panic .outOfSlots) ↔
            transmitCapacity numSlots <
              packed vchiqSlotSize (strides labels ++ [call.msgStride])) ∧
          (2 * ((strides labels).sum + call.msgStride) ≤ transmitCapacity numSlots →
            (queueMessage state call).1 = .ok ()) := by
  have inv := packed_run initialized upper made run
  have whole : packed vchiqSlotSize (strides labels) ≤ transmitCapacity numSlots := by
    rw [← inv.cursor, ← capacity_eq inv.reservation]
    exact inv.reservation.bounded
  have sum := sum_le_packed vchiqSlotSize (strides labels)
  refine ⟨whole, Nat.le_trans sum whole, ?_, ?_⟩
  · exact Nat.le_trans (Nat.le_trans (eight_length_le labels) sum) whole
  · intro call msgType admitted fits admission
    rcases queue_message_ends inv fits admission with ⟨stored, stopped⟩
    refine ⟨stored, stopped, ?_⟩
    intro half
    apply stored.mpr
    have twice := packed_le_twice vchiqSlotSize (strides labels ++ [call.msgStride])
    rw [List.sum_append, List.sum_singleton] at twice
    exact Nat.le_trans twice half

set_option maxRecDepth 20000 in
/-- Two data slots of the ARM are filled by CONNECT and a message of a whole slot. -/
theorem two_slots_filled :
    ∃ slotZero fresh connected added state admitted,
      initializeSlotZero blankSlotZero (7 * vchiqSlotSize) = .ok (slotZero, 6) ∧
      freshState blankSlotZero (fun _ => 0) (7 * vchiqSlotSize) = .ok fresh ∧
      queueMessage fresh connectCall = (.ok (), connected) ∧
      connected.addService sampleParams 4096 = .ok added ∧
      admitMessage added fullSlotCall = (.ok .data, admitted) ∧
      queueMessage added fullSlotCall = (.ok (), state) :=
  ⟨_, _, _, _, _, _, rfl, rfl, rfl, rfl, rfl, rfl⟩

/-- The second message is stored behind the first one. Behind both a further CONNECT stops at
the assertion. -/
theorem two_slots_capacity :
    ∃ first second added state, first.call = connectCall ∧ second.call = fullSlotCall ∧
      (queueMessage added fullSlotCall).1 = .ok () ∧
      packed vchiqSlotSize (strides [.queued first, .environment, .queued second]) ≤
        transmitCapacity 6 ∧
      (queueMessage state connectCall).1 = .error (.panic .outOfSlots) := by
  rcases two_slots_filled with ⟨slotZero, fresh, connected, added, state, admitted, initialized,
    made, sent, grown, admission, full⟩
  rcases (queue_message_ok_iff added state fullSlotCall).mp full with
    ⟨position', start', dataStep⟩
  have connectFits : connectCall.msgStride ≤ vchiqSlotSize := by decide
  have connectStride : connectCall.msgStride = 8 := by decide
  have fullStride : fullSlotCall.msgStride = 4096 := by
    have size : fullSlotCall.msgSize = 4088 := List.length_replicate
    rw [QueueCall.msgStride, size]
    decide
  rcases connect_run StrideFits sent grown (fun _ _ => connectFits) trivial with
    ⟨position, start, run⟩
  rcases transmit_capacity_exact initialized (by decide) made run with ⟨_, _, _, behindFirst⟩
  rcases transmit_capacity_exact initialized (by decide) made
    (run.snoc ⟨dataStep, full_slot_fits⟩) with ⟨whole, _, _, behindBoth⟩
  refine ⟨⟨connectCall, position, start⟩, ⟨fullSlotCall, position', start'⟩, added, state, rfl,
    rfl, ?_, whole, ?_⟩
  · apply (behindFirst fullSlotCall .data admitted full_slot_fits admission).1.mpr
    change packed vchiqSlotSize [connectCall.msgStride, fullSlotCall.msgStride] ≤ _
    rw [connectStride, fullStride]
    decide
  · apply (behindBoth connectCall .connect state connectFits rfl).2.1.mpr
    change _ < packed vchiqSlotSize
      [connectCall.msgStride, fullSlotCall.msgStride, connectCall.msgStride]
    rw [connectStride, fullStride]
    decide

end RuspiroVchiq.Transmit
