import RuspiroVchiq.Receive.Stream

/-!
# The receive loop of a release build

The loop of `slot_handler` as a release build runs it: the cursor is a `usize` and
wraps. `chainCursor` follows the headers the slots hold, without looking at any
service, and the iterations of the loop follow `chainCursor`. Nothing makes `tx_pos` one
of its positions, so a poll may go round in the slots for good.
-/

namespace RuspiroVchiq.Receive

open RuspiroVchiq.Config
open RuspiroVchiq.Shared
open RuspiroVchiq.Vchiq
open RuspiroVchiq.Lib.ByteMemory

set_option autoImplicit false

/-- Addition on `usize`, which wraps in a release build for the 64 bit target. -/
def wrappingAdd (left right : Nat) : Nat := (left + right) % 2 ^ 64

/-- The receive cursor behind a message of the given stride. -/
def advanceRxWrapping (slotState : SlotState) (rxData : SlotPosition) (msgStride : Nat) :
    SlotState :=
  let rxPos := wrappingAdd slotState.rxPos msgStride
  { slotState with
    rxPos := rxPos
    rxData :=
      if rxPos &&& vchiqSlotMask = 0 then none
      else some { index := rxData.index, offset := wrappingAdd rxData.offset msgStride } }

/-- One iteration of the loop. -/
def receiveMessageWrapping (inst : Instance) (txPos : Nat) :
    Except Panic (SlotMessage × Instance) :=
  let rxData := openRxSlot inst.state.slotState txPos
  match inst.state.slotState.slotData.readMessage rxData with
  | .error panic => .error panic
  | .ok message =>
      match dispatch inst message with
      | .error panic => .error panic
      | .ok inst =>
          .ok (message, inst.withSlots
            (advanceRxWrapping inst.state.slotState rxData (messageStride message)))

def receiveLoopWrapping (txPos : Nat) : Nat → Instance → PollOutcome
  | 0, _ => .outOfFuel
  | fuel + 1, inst =>
      if inst.state.slotState.rxPos = txPos then .done inst []
      else
        match receiveMessageWrapping inst txPos with
        | .error panic => .panicked panic
        | .ok (message, inst) =>
            match receiveLoopWrapping txPos fuel inst with
            | .done inst dispatched => .done inst (message :: dispatched)
            | outcome => outcome

/-- One poll of `slot_handler` in a release build. -/
def slotHandlerWrapping (fuel : Nat) (inst : Instance) : PollOutcome :=
  receiveLoopWrapping inst.state.slotState.slotZero.master.txPos.toNat fuel inst

/-- As long as nothing overflows this is the iteration of the other receive results. -/
theorem receive_message_wrapping_eq {inst next : Instance} {txPos : Nat}
    {message : SlotMessage} (received : receiveMessage inst txPos = .ok (message, next))
    (small : inst.state.slotState.rxPos + messageStride message < 2 ^ 64)
    (short : (openRxSlot inst.state.slotState txPos).offset + messageStride message < 2 ^ 64) :
    receiveMessageWrapping inst txPos = .ok (message, next) := by
  unfold receiveMessage at received
  unfold receiveMessageWrapping
  simp only at received ⊢
  cases found : inst.state.slotState.slotData.readMessage
      (openRxSlot inst.state.slotState txPos) with
  | error panic => simp [found] at received
  | ok stored =>
      simp only [found] at received ⊢
      cases handled : dispatch inst stored with
      | error panic => simp [handled] at received
      | ok after =>
          simp only [handled, Except.ok.injEq, Prod.mk.injEq] at received ⊢
          rcases received with ⟨rfl, rfl⟩
          have same := dispatched_slot_state (dispatch_cases handled)
          refine ⟨rfl, ?_⟩
          rw [same]
          simp only [advanceRxWrapping, advanceRx, wrappingAdd, Nat.mod_eq_of_lt small,
            Nat.mod_eq_of_lt short]

/-- A receive position and the slot position it stands for. -/
structure ChainCursor where
  pos : Nat
  data : Option SlotPosition

/-- The slot position of the message at the cursor; a closed slot is reopened. -/
def ChainCursor.position (cursor : ChainCursor) (reopened : Nat) : SlotPosition :=
  match cursor.data with
  | some rxData => rxData
  | none => { index := reopened, offset := 0 }

/-- The cursor behind the message whose header is stored at the cursor. -/
def ChainCursor.next (slots : SlotAccessor) (reopened : Nat) (cursor : ChainCursor) :
    ChainCursor :=
  let rxData := cursor.position reopened
  let msgStride := calcMsgStride (readHeader slots.inner (slotAddress rxData)).size.toNat
  let pos := wrappingAdd cursor.pos msgStride
  { pos := pos
    data :=
      if pos &&& vchiqSlotMask = 0 then none
      else some { index := rxData.index, offset := wrappingAdd rxData.offset msgStride } }

/-- The cursor of an instance. -/
def cursorOf (inst : Instance) : ChainCursor where
  pos := inst.state.slotState.rxPos
  data := inst.state.slotState.rxData

/-- The slot that a poll with this `tx_pos` reopens. -/
def reopenedSlot (inst : Instance) (txPos : Nat) : Nat := streamSlot (remoteState inst) txPos

/-- The boundaries of the messages stored from the receive position on. -/
def chainCursor (inst : Instance) (txPos count : Nat) : ChainCursor :=
  (ChainCursor.next inst.state.slotState.slotData (reopenedSlot inst txPos))^[count]
    (cursorOf inst)

/-- The messages stored there. -/
def chainMessage (inst : Instance) (txPos count : Nat) : Except Panic SlotMessage :=
  inst.state.slotState.slotData.readMessage
    ((chainCursor inst txPos count).position (reopenedSlot inst txPos))

/-- The first messages of the chain are accepted one after the other. -/
def dispatchChain (inst : Instance) (txPos : Nat) : Nat → Except Panic Instance
  | 0 => .ok inst
  | count + 1 => do
      let earlier ← dispatchChain inst txPos count
      let message ← chainMessage inst txPos count
      dispatch earlier message

/-- One of the messages in the chain is refused: its slot index fails the assertions of
`read_message`, or its type or port is one the handler has no answer to. -/
def RefusedAt (inst : Instance) (txPos count : Nat) : Prop :=
  ∃ panic, dispatchChain inst txPos (count + 1) = .error panic

/-- `tx_pos` is a boundary of the stored messages, or one of them is refused. -/
def ChainEnds (inst : Instance) (txPos : Nat) : Prop :=
  ∃ count, (chainCursor inst txPos count).pos = txPos ∨ RefusedAt inst txPos count

theorem chain_cursor_succ (inst : Instance) (txPos count : Nat) :
    chainCursor inst txPos (count + 1) =
      (chainCursor inst txPos count).next inst.state.slotState.slotData
        (reopenedSlot inst txPos) := by
  rw [chainCursor, Function.iterate_succ_apply']
  rfl

/-- The slot state with the cursor somewhere else. -/
def withCursor (slotState : SlotState) (cursor : ChainCursor) : SlotState :=
  { slotState with rxPos := cursor.pos, rxData := cursor.data }

/-- The instance of the loop after some iterations. -/
def chainInstance (inst : Instance) (txPos count : Nat) (dispatched : Instance) : Instance :=
  dispatched.withSlots (withCursor inst.state.slotState (chainCursor inst txPos count))

/-- An iteration of the loop follows the chain. -/
theorem receive_message_chain {inst dispatched : Instance} {txPos count : Nat}
    (accepted : dispatchChain inst txPos count = .ok dispatched) :
    (∃ panic, receiveMessageWrapping (chainInstance inst txPos count dispatched) txPos =
        .error panic ∧ dispatchChain inst txPos (count + 1) = .error panic) ∨
      ∃ message further,
        receiveMessageWrapping (chainInstance inst txPos count dispatched) txPos =
          .ok (message, chainInstance inst txPos (count + 1) further) ∧
        dispatchChain inst txPos (count + 1) = .ok further := by
  have position : openRxSlot (chainInstance inst txPos count dispatched).state.slotState txPos =
      (chainCursor inst txPos count).position (reopenedSlot inst txPos) := by
    unfold openRxSlot ChainCursor.position
    rfl
  have chained : dispatchChain inst txPos (count + 1) =
      (chainMessage inst txPos count).bind fun message => dispatch dispatched message := by
    simp only [dispatchChain, bind, accepted, Except.bind]
  have slots : (chainInstance inst txPos count dispatched).state.slotState.slotData =
      inst.state.slotState.slotData := rfl
  rw [chained]
  unfold receiveMessageWrapping
  simp only [position, slots]
  cases found : inst.state.slotState.slotData.readMessage
      ((chainCursor inst txPos count).position (reopenedSlot inst txPos)) with
  | error panic =>
      left
      refine ⟨panic, rfl, ?_⟩
      rw [chainMessage, found]
      rfl
  | ok message =>
      have isMessage : chainMessage inst txPos count = .ok message := found
      have header : message.header = readHeader inst.state.slotState.slotData.inner
          (slotAddress ((chainCursor inst txPos count).position (reopenedSlot inst txPos))) :=
        (read_message_cases found).2.2
      rw [isMessage]
      simp only [Except.bind, chainInstance, dispatch_with_slots]
      cases handled : dispatch dispatched message with
      | error panic => exact .inl ⟨panic, rfl, rfl⟩
      | ok further =>
          right
          refine ⟨message, further, ?_, rfl⟩
          simp only [Except.map, Except.ok.injEq, Prod.mk.injEq, true_and]
          rw [chain_cursor_succ]
          simp only [Instance.withSlots, advanceRxWrapping, withCursor, ChainCursor.next,
            messageStride, header]

/-- The loop by fuel, from any place in the chain. -/
theorem receive_loop_ends_iff {inst dispatched : Instance} {txPos count : Nat} (fuel : Nat)
    (accepted : dispatchChain inst txPos count = .ok dispatched) :
    receiveLoopWrapping txPos fuel (chainInstance inst txPos count dispatched) ≠ .outOfFuel ↔
      ∃ more, more < fuel ∧ ((chainCursor inst txPos (count + more)).pos = txPos ∨
        RefusedAt inst txPos (count + more)) := by
  induction fuel generalizing count dispatched with
  | zero => simp [receiveLoopWrapping]
  | succ fuel ih =>
      have shifted : (∃ more, more < fuel + 1 ∧
          ((chainCursor inst txPos (count + more)).pos = txPos ∨
            RefusedAt inst txPos (count + more))) ↔
          ((chainCursor inst txPos count).pos = txPos ∨ RefusedAt inst txPos count) ∨
            ∃ more, more < fuel ∧ ((chainCursor inst txPos (count + 1 + more)).pos = txPos ∨
              RefusedAt inst txPos (count + 1 + more)) := by
        constructor
        · rintro ⟨more, bound, ends⟩
          cases more with
          | zero => exact .inl ends
          | succ more =>
              refine .inr ⟨more, Nat.lt_of_succ_lt_succ bound, ?_⟩
              rwa [Nat.add_assoc, Nat.add_comm 1 more]
        · rintro (ends | ⟨more, bound, ends⟩)
          · exact ⟨0, Nat.succ_pos fuel, ends⟩
          · refine ⟨more + 1, Nat.succ_lt_succ bound, ?_⟩
            rwa [Nat.add_comm more 1, ← Nat.add_assoc]
      rw [shifted]
      unfold receiveLoopWrapping
      have cursor : (chainInstance inst txPos count dispatched).state.slotState.rxPos =
          (chainCursor inst txPos count).pos := rfl
      rw [cursor]
      by_cases atEnd : (chainCursor inst txPos count).pos = txPos
      · rw [if_pos atEnd]
        exact iff_of_true (by simp) (.inl (.inl atEnd))
      · rw [if_neg atEnd]
        rcases receive_message_chain accepted with
          ⟨panic, stopped, refused⟩ | ⟨message, further, received, accepted'⟩
        · rw [stopped]
          exact iff_of_true (by simp) (.inl (.inr ⟨panic, refused⟩))
        · have notRefused : ¬RefusedAt inst txPos count := by
            rintro ⟨panic, refused⟩
            rw [accepted'] at refused
            simp at refused
          have rest := ih accepted'
          rw [received]
          simp only [atEnd, notRefused, or_self, false_or]
          rw [← rest]
          cases receiveLoopWrapping txPos fuel (chainInstance inst txPos (count + 1) further) with
          | done after dispatched => simp
          | panicked panic => simp
          | outOfFuel => simp

/-- A loop with enough fuel ends exactly if the chain does. -/
theorem receive_loop_terminates_iff (inst : Instance) (txPos : Nat) :
    (∃ fuel, receiveLoopWrapping txPos fuel inst ≠ .outOfFuel) ↔ ChainEnds inst txPos := by
  have start : chainInstance inst txPos 0 inst = inst := rfl
  have accepted : dispatchChain inst txPos 0 = .ok inst := rfl
  constructor
  · rintro ⟨fuel, ended⟩
    rw [← start, receive_loop_ends_iff fuel accepted] at ended
    rcases ended with ⟨more, _, ends⟩
    rw [Nat.zero_add] at ends
    exact ⟨more, ends⟩
  · rintro ⟨more, ends⟩
    refine ⟨more + 1, ?_⟩
    rw [← start, receive_loop_ends_iff (more + 1) accepted]
    refine ⟨more, Nat.lt_succ_self more, ?_⟩
    rwa [Nat.zero_add]

/-- Strides are multiples of eight, and so is the range of the cursor: a chain that
starts at a multiple of eight never leaves them. -/
theorem chain_cursor_aligned {inst : Instance} (aligned : 8 ∣ rxPosOf inst)
    (txPos count : Nat) : 8 ∣ (chainCursor inst txPos count).pos := by
  induction count with
  | zero => exact aligned
  | succ count ih =>
      rw [chain_cursor_succ]
      apply (Nat.dvd_mod_iff (by decide : 8 ∣ 2 ^ 64)).mpr
      exact Nat.dvd_add ih (calc_msg_stride_dvd _)

/-- Starting with a closed slot, a poll reads one slot only. -/
theorem chain_position_index {inst : Instance}
    (closed : inst.state.slotState.rxData = none) (txPos count : Nat) :
    ((chainCursor inst txPos count).position (reopenedSlot inst txPos)).index =
      reopenedSlot inst txPos := by
  induction count with
  | zero =>
      have start : (chainCursor inst txPos 0).data = none := closed
      simp only [ChainCursor.position, start]
  | succ count ih =>
      rw [chain_cursor_succ]
      unfold ChainCursor.next
      simp only
      split_ifs
      · rfl
      · exact ih

/-- A chain of messages that all leave the instance alone is never refused. -/
theorem silent_chain_accepted {inst : Instance} {txPos : Nat}
    (silent : ∀ count, ∃ message, chainMessage inst txPos count = .ok message ∧
      dispatch inst message = .ok inst) (count : Nat) :
    dispatchChain inst txPos count = .ok inst := by
  induction count with
  | zero => rfl
  | succ count ih =>
      rcases silent count with ⟨message, stored, handled⟩
      simp only [dispatchChain, bind, Except.bind, ih, stored, handled]

/-- The VideoCore offers slot 2 for all positions, publishes `tx_pos` = 4 and leaves the
slots zeroed. -/
def misalignedPublished (fresh : State) : Instance :=
  (freshInstance fresh).withSlots
    { fresh.slotState with
      slotZero :=
        { fresh.slotState.slotZero with
          master :=
            { fresh.slotState.slotZero.master with txPos := 4, slotQueue := fun _ => 2 } }
      slotData := { fresh.slotState.slotData with inner := fun _ => 0 } }

/-- A zeroed slot is full of PADDING without payload. -/
theorem read_zeroed_message {slots : SlotAccessor} {slotPos : SlotPosition}
    (zeroed : slots.inner = fun _ => 0) (positive : 0 < slotPos.index)
    (bound : slotPos.index < slots.len) :
    slots.readMessage slotPos = .ok { header := { msgid := 0, size := 0 }, data := [] } := by
  apply read_message_of_stored positive bound
  rw [zeroed]
  exact ⟨rfl, rfl, rfl⟩

/-- The handler passes `tx_pos` = 4 in its first step and goes on for good. -/
theorem misaligned_tx_pos_never_reached :
    ∃ fresh, freshState blankSlotZero (fun _ => 0) (65 * vchiqSlotSize) = .ok fresh ∧
      ∀ fuel, slotHandlerWrapping fuel (misalignedPublished fresh) = .outOfFuel := by
  rcases (⟨_, rfl, rfl⟩ : ∃ fresh,
      freshState blankSlotZero (fun _ => 0) (65 * vchiqSlotSize) = .ok fresh ∧
        fresh.slotState.slotData.len = 65) with ⟨fresh, made, length⟩
  have facts := fresh_state_facts made
  have slots : (misalignedPublished fresh).state.slotState.slotData.len = 65 := length
  have silent : ∀ count, ∃ message,
      chainMessage (misalignedPublished fresh) 4 count = .ok message ∧
        dispatch (misalignedPublished fresh) message = .ok (misalignedPublished fresh) := by
    intro count
    have closed : (misalignedPublished fresh).state.slotState.rxData = none := facts.rxData
    have index : ((chainCursor (misalignedPublished fresh) 4 count).position
        (reopenedSlot (misalignedPublished fresh) 4)).index = 2 :=
      chain_position_index closed 4 count
    refine ⟨_, read_zeroed_message rfl ?_ ?_, rfl⟩
    · rw [index]
      decide
    · rw [index, slots]
      decide
  refine ⟨fresh, made, ?_⟩
  intro fuel
  by_contra ended
  rcases (receive_loop_terminates_iff _ 4).mp ⟨fuel, ended⟩ with
    ⟨count, boundary | ⟨panic, refused⟩⟩
  · have aligned : 8 ∣ rxPosOf (misalignedPublished fresh) := by
      rw [rxPosOf, show (misalignedPublished fresh).state.slotState.rxPos = 0 from facts.rxPos]
      exact Nat.dvd_zero 8
    have onBoundary := chain_cursor_aligned aligned 4 count
    rw [boundary] at onBoundary
    exact absurd onBoundary (by decide)
  · rw [silent_chain_accepted silent] at refused
    simp at refused

end RuspiroVchiq.Receive
