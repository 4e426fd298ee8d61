import RuspiroVchiq.Vchiq.Dispatch
import RuspiroVchiq.Lib.SlottedStream

/-!
# Decoding the receive stream

The VideoCore writes a stream of messages into its slots and publishes it in
batches; `slot_handler` polls. A poll that opens a slot takes the slot of the
published `tx_pos`. While every slot it opens is that slot, the handler
dispatches the stream message by message. A batch that ends in a later slot, or
exactly at a slot end, makes it read the wrong slot.
-/

namespace RuspiroVchiq.Receive

open RuspiroVchiq.Config
open RuspiroVchiq.Shared
open RuspiroVchiq.Vchiq
open RuspiroVchiq.Delivery
open RuspiroVchiq.Lib.ByteMemory
open RuspiroVchiq.Lib.LabelledRun
open RuspiroVchiq.Lib.SlottedStream

set_option autoImplicit false

/-- The stream position behind a list of messages. -/
def streamEnd (messages : List SlotMessage) : Nat := (messages.map messageStride).sum

theorem stream_end_append (front back : List SlotMessage) :
    streamEnd (front ++ back) = streamEnd front + streamEnd back := by
  simp [streamEnd]

theorem message_stride_pos (message : SlotMessage) : 0 < messageStride message :=
  calc_msg_stride_pos _

/-- The slot of a stream position. -/
def streamSlot (master : SharedState) (position : Nat) : Nat :=
  master.slotQueue (queueIndex (slotQueueIndexFromPos position))

/-- The message is in memory at its stream position and inside one slot. -/
structure InSlot (master : SharedState) (slots : SlotAccessor) (position : Nat)
    (message : SlotMessage) : Prop where
  fits : position % vchiqSlotSize + messageStride message ≤ vchiqSlotSize
  positive : 0 < streamSlot master position
  bound : streamSlot master position < slots.len
  stored : Stored slots.inner
    (streamSlot master position * vchiqSlotSize + position % vchiqSlotSize) message

def remoteState (inst : Instance) : SharedState := inst.state.slotState.slotZero.master

def rxPosOf (inst : Instance) : Nat := inst.state.slotState.rxPos

def txPosOf (inst : Instance) : Nat := (remoteState inst).txPos.toNat

/-- The VideoCore has published these messages of the stream. What it stores in `tx_pos`
is the lower half of their end, and every one that is not read yet is in its slot. -/
structure Published (stream : List SlotMessage) (inst : Instance)
    (published : List SlotMessage) : Prop where
  front : published <+: stream
  txPos : txPosOf inst = asU32 (streamEnd published)
  ahead : rxPosOf inst ≤ streamEnd published
  placed : ∀ earlier message later, published = earlier ++ message :: later →
    rxPosOf inst ≤ streamEnd earlier →
      InSlot (remoteState inst) inst.state.slotState.slotData (streamEnd earlier) message

/-- What the VideoCore guarantees: it publishes the stream up to a message boundary. -/
def WellFormed (stream : List SlotMessage) (inst : Instance) : Prop :=
  ∃ published, Published stream inst published

inductive ReceiveLabel where
  | polled (dispatched : List SlotMessage)
  | environment

/-- Everything that happens between two polls: the VideoCore writes and publishes,
the ARM adds, opens and closes services, transmits and delivers. The receive
cursor belongs to the slot handler, and the slot it is in stays in the queue. -/
structure BetweenPolls (stream : List SlotMessage) (before after : Instance) : Prop where
  rxPos : rxPosOf after = rxPosOf before
  rxData : after.state.slotState.rxData = before.state.slotState.rxData
  currentSlot : rxPosOf before % vchiqSlotSize ≠ 0 →
    streamSlot (remoteState after) (rxPosOf before) =
      streamSlot (remoteState before) (rxPosOf before)
  wellFormed : WellFormed stream after
  consistent : Consistent after

inductive ReceiveStep (stream : List SlotMessage) :
    Instance → ReceiveLabel → Instance → Prop where
  | polled {before after : Instance} {dispatched : List SlotMessage} (fuel : Nat)
      (outcome : slotHandler fuel before = .done after dispatched) :
      ReceiveStep stream before (.polled dispatched) after
  | environment {before after : Instance} (between : BetweenPolls stream before after) :
      ReceiveStep stream before .environment after

/-- A property of every message at the time it is dispatched. -/
def Along (property : Instance → SlotMessage → Prop) : Instance → List SlotMessage → Prop
  | _, [] => True
  | inst, message :: rest =>
      property inst message ∧
        ∀ next, dispatch inst message = .ok next → Along property next rest

/-- The messages between the receive cursor and a `tx_pos` that has not wrapped. -/
def Unread (stream : List SlotMessage) (inst : Instance) (unread : List SlotMessage) : Prop :=
  ∃ read, read ++ unread <+: stream ∧ rxPosOf inst = streamEnd read ∧
    txPosOf inst = streamEnd (read ++ unread)

/-- The VideoCore has published less than 4 GiB so far: `tx_pos` has not wrapped. -/
def Unwrapped (stream : List SlotMessage) (inst : Instance) : Prop :=
  ∃ published, Published stream inst published ∧ streamEnd published < 2 ^ 32

/-- Every unread message is of an implemented type and addressed to a service in
use when its turn comes. -/
def StreamAddressed (stream : List SlotMessage) (inst : Instance) : Prop :=
  ∀ unread, Unread stream inst unread → Along Addressed inst unread

/-- Every slot a poll opens is the slot of the published `tx_pos`. -/
def OpensPublishedSlot (inst : Instance) : Prop :=
  ∀ boundary, boundary % vchiqSlotSize = 0 → rxPosOf inst ≤ boundary →
    boundary < txPosOf inst →
      streamSlot (remoteState inst) (txPosOf inst) = streamSlot (remoteState inst) boundary

/-- Every unread CLOSE for local port 0 comes from the port its service knows. -/
def StreamAgrees (stream : List SlotMessage) (inst : Instance) : Prop :=
  ∀ unread, Unread stream inst unread → Along CloseAgrees inst unread

/-- The states in which a poll decodes the stream. -/
def Decodable (stream : List SlotMessage) (inst : Instance) : Prop :=
  Unwrapped stream inst ∧ StreamAddressed stream inst ∧ OpensPublishedSlot inst ∧
    StreamAgrees stream inst

/-- Polls are made in these states only. -/
def PolledWhen (allowed : Instance → Prop) (inst : Instance) : ReceiveLabel → Prop
  | .polled _ => allowed inst
  | .environment => True

/-- Where the receive cursor points. -/
def RxCursor (inst : Instance) : Prop :=
  inst.state.slotState.rxData =
    if rxPosOf inst % vchiqSlotSize = 0 then none
    else some
      { index := streamSlot (remoteState inst) (rxPosOf inst)
        offset := rxPosOf inst % vchiqSlotSize }

theorem dispatched_slot_state {inst next : Instance} {message : SlotMessage}
    (handled : Dispatched inst message next) :
    next.state.slotState = inst.state.slotState := by
  cases handled <;> rfl

/-- A property that does not look at the slots may be moved over them. -/
theorem along_with_slots {property : Instance → SlotMessage → Prop}
    (blind : ∀ inst slotState message,
      property (Instance.withSlots inst slotState) message ↔ property inst message)
    {messages : List SlotMessage} (inst : Instance) (slotState : SlotState)
    (along : Along property inst messages) :
    Along property (inst.withSlots slotState) messages := by
  induction messages generalizing inst with
  | nil => trivial
  | cons message rest ih =>
      obtain ⟨head, tail⟩ := along
      refine ⟨(blind inst slotState message).mpr head, ?_⟩
      intro next handled
      rw [dispatch_with_slots] at handled
      cases result : dispatch inst message with
      | error panic => simp [result, Except.map] at handled
      | ok middle =>
          simp only [result, Except.map, Except.ok.injEq] at handled
          subst handled
          exact ih middle (tail middle result)

/-- The cursor opens the slot of its own position. -/
theorem open_rx_slot {inst : Instance} (cursor : RxCursor inst)
    (sight : OpensPublishedSlot inst) (unfinished : rxPosOf inst < txPosOf inst) :
    openRxSlot inst.state.slotState (txPosOf inst) =
      { index := streamSlot (remoteState inst) (rxPosOf inst)
        offset := rxPosOf inst % vchiqSlotSize } := by
  unfold openRxSlot
  rw [cursor]
  by_cases boundary : rxPosOf inst % vchiqSlotSize = 0
  · simp only [if_pos boundary, SlotPosition.mk.injEq]
    exact ⟨sight (rxPosOf inst) boundary (Nat.le_refl _) unfinished, boundary.symm⟩
  · simp only [if_neg boundary]

/-- One iteration reads the message at the cursor, dispatches it and moves on. -/
theorem receive_message_spec {inst : Instance} {message : SlotMessage}
    (cursor : RxCursor inst) (sight : OpensPublishedSlot inst)
    (unfinished : rxPosOf inst < txPosOf inst)
    (placed : InSlot (remoteState inst) inst.state.slotState.slotData (rxPosOf inst) message)
    (consistent : Consistent inst) (addressed : Addressed inst message)
    (agrees : CloseAgrees inst message) :
    ∃ middle slotState, dispatch inst message = .ok middle ∧
      receiveMessage inst (txPosOf inst) = .ok (message, middle.withSlots slotState) ∧
      Consistent (middle.withSlots slotState) ∧ RxCursor (middle.withSlots slotState) ∧
      slotState.slotZero = inst.state.slotState.slotZero ∧
      slotState.slotData = inst.state.slotState.slotData ∧
      slotState.rxPos = rxPosOf inst + messageStride message := by
  obtain ⟨middle, handled⟩ := dispatch_ok consistent addressed agrees
  have inverted := dispatch_cases handled
  have sameSlots := dispatched_slot_state inverted
  have opened := open_rx_slot cursor sight unfinished
  have address : slotAddress
      { index := streamSlot (remoteState inst) (rxPosOf inst)
        offset := rxPosOf inst % vchiqSlotSize } =
      streamSlot (remoteState inst) (rxPosOf inst) * vchiqSlotSize +
        rxPosOf inst % vchiqSlotSize := by
    simp only [slotAddress, and_slot_mask, Nat.mod_mod]
  have found := read_message_of_stored placed.positive placed.bound
    (address.symm ▸ placed.stored)
  refine ⟨middle, advanceRx inst.state.slotState
    { index := streamSlot (remoteState inst) (rxPosOf inst)
      offset := rxPosOf inst % vchiqSlotSize } (messageStride message), handled, ?_, ?_, ?_,
    rfl, rfl, rfl⟩
  · simp only [receiveMessage, opened, found, handled, sameSlots]
  · have kept := dispatch_consistent consistent inverted
    exact ⟨kept.quotas, kept.ports, kept.ordered⟩
  · have fits := placed.fits
    have positive := message_stride_pos message
    simp only [RxCursor, Instance.withSlots, advanceRx, rxPosOf, remoteState, and_slot_mask]
    by_cases finished :
        (inst.state.slotState.rxPos + messageStride message) % vchiqSlotSize = 0
    · simp only [if_pos finished]
    · have sameSlot : (inst.state.slotState.rxPos + messageStride message) / vchiqSlotSize =
          inst.state.slotState.rxPos / vchiqSlotSize := by
        simp only [rxPosOf, vchiqSlotSize] at fits finished ⊢
        omega
      have offset : inst.state.slotState.rxPos % vchiqSlotSize + messageStride message =
          (inst.state.slotState.rxPos + messageStride message) % vchiqSlotSize := by
        simp only [rxPosOf, vchiqSlotSize] at fits finished ⊢
        omega
      simp only [if_neg finished, offset, streamSlot, slotQueueIndexFromPos, sameSlot]

/-- What a finished poll leaves behind. -/
structure PollResult (before after : Instance) : Prop where
  rxPos : rxPosOf after = txPosOf before
  slotZero : after.state.slotState.slotZero = before.state.slotState.slotZero
  slotData : after.state.slotState.slotData = before.state.slotState.slotData
  cursor : RxCursor after
  consistent : Consistent after

theorem receive_loop_spec {unread : List SlotMessage} (inst : Instance) (fuel : Nat)
    (tiles : Tiles messageStride (InSlot (remoteState inst) inst.state.slotState.slotData)
      (rxPosOf inst) unread (txPosOf inst))
    (cursor : RxCursor inst) (consistent : Consistent inst) (sight : OpensPublishedSlot inst)
    (addressed : Along Addressed inst unread) (agrees : Along CloseAgrees inst unread)
    (enough : unread.length < fuel) :
    ∃ after, receiveLoop (txPosOf inst) fuel inst = .done after unread ∧
      PollResult inst after := by
  induction unread generalizing inst fuel with
  | nil =>
      have finished := tiles.eq_of_nil
      cases fuel with
      | zero => simp at enough
      | succ fuel =>
          refine ⟨inst, ?_, finished, rfl, rfl, cursor, consistent⟩
          have done : inst.state.slotState.rxPos = txPosOf inst := finished
          simp only [receiveLoop, if_pos done]
  | cons message rest ih =>
      have unfinished := tiles.lt_of_cons message_stride_pos
      cases fuel with
      | zero => simp at enough
      | succ fuel =>
          cases tiles with
          | cons head tail =>
              obtain ⟨middle, slotState, handled, received, kept, nextCursor, sameZero, sameData,
                advanced⟩ := receive_message_spec cursor sight unfinished head consistent
                  addressed.1 agrees.1
              have sameTx : txPosOf (middle.withSlots slotState) = txPosOf inst := by
                simp only [txPosOf, remoteState, Instance.withSlots, sameZero]
              have sameRemote : remoteState (middle.withSlots slotState) = remoteState inst := by
                simp only [remoteState, Instance.withSlots, sameZero]
              have nextRx : rxPosOf (middle.withSlots slotState) =
                  rxPosOf inst + messageStride message := advanced
              have nextSight : OpensPublishedSlot (middle.withSlots slotState) := by
                intro boundary aligned lower upper
                rw [sameRemote, sameTx]
                rw [sameTx] at upper
                rw [nextRx] at lower
                exact sight boundary aligned (by omega) upper
              obtain ⟨after, others, result⟩ := ih (middle.withSlots slotState) fuel
                (by
                  rw [sameTx, sameRemote, nextRx]
                  simp only [Instance.withSlots, sameData]
                  exact tail)
                nextCursor kept nextSight
                (along_with_slots (fun _ _ _ => Iff.rfl) middle slotState
                  (addressed.2 middle handled))
                (along_with_slots (fun _ _ _ => Iff.rfl) middle slotState
                  (agrees.2 middle handled))
                (by simpa using enough)
              rw [sameTx] at others
              have notDone : inst.state.slotState.rxPos ≠ txPosOf inst :=
                Nat.ne_of_lt unfinished
              refine ⟨after, ?_, ?_, ?_, ?_, result.cursor, result.consistent⟩
              · simp only [receiveLoop, if_neg notDone, received, others]
              · rw [result.rxPos, sameTx]
              · rw [result.slotZero]
                exact sameZero
              · rw [result.slotData]
                exact sameData

/-- Two beginnings of the stream are ordered as their ends are. -/
theorem prefix_of_stream_end_le {stream front whole : List SlotMessage}
    (frontOf : front <+: stream) (wholeOf : whole <+: stream)
    (order : streamEnd front ≤ streamEnd whole) : front <+: whole := by
  rcases List.prefix_or_prefix_of_prefix frontOf wholeOf with shorter | ⟨rest, rfl⟩
  · exact shorter
  · cases rest with
    | nil => simp
    | cons message rest =>
        have positive := message_stride_pos message
        rw [stream_end_append] at order
        simp only [streamEnd, List.map_cons, List.sum_cons] at order
        omega

/-- The unread messages of a stream whose `tx_pos` has not wrapped tile the way to it. -/
theorem unread_tiles {stream read published : List SlotMessage} {inst : Instance}
    (isPublished : Published stream inst published) (short : streamEnd published < 2 ^ 32)
    (readOf : read <+: stream) (rxPos : rxPosOf inst = streamEnd read) :
    ∃ unread, read ++ unread <+: stream ∧ txPosOf inst = streamEnd (read ++ unread) ∧
      Tiles messageStride (InSlot (remoteState inst) inst.state.slotState.slotData)
        (rxPosOf inst) unread (txPosOf inst) := by
  have order := isPublished.ahead
  rw [rxPos] at order
  obtain ⟨unread, rfl⟩ := prefix_of_stream_end_le readOf isPublished.front order
  have txPos : txPosOf inst = streamEnd (read ++ unread) :=
    isPublished.txPos.trans (as_u32_of_lt short)
  refine ⟨unread, isPublished.front, txPos, ?_⟩
  rw [txPos, rxPos, stream_end_append]
  apply tiles_of_placed
  intro earlier message later same
  have here := isPublished.placed (read ++ earlier) message later
    (by rw [same, List.append_assoc])
  rw [stream_end_append] at here
  exact here (by rw [rxPos]; exact Nat.le_add_right _ _)

def dispatchedMessages (labels : List ReceiveLabel) : List SlotMessage :=
  labels.flatMap fun label =>
    match label with
    | .polled dispatched => dispatched
    | .environment => []

structure ReceiveInvariant (stream : List SlotMessage) (labels : List ReceiveLabel)
    (inst : Instance) : Prop where
  wellFormed : WellFormed stream inst
  consistent : Consistent inst
  cursor : RxCursor inst
  dispatched : dispatchedMessages labels <+: stream
  rxPos : rxPosOf inst = streamEnd (dispatchedMessages labels)

/-- A poll in a decodable state dispatches the unread messages. -/
theorem ReceiveInvariant.poll {stream : List SlotMessage} {labels : List ReceiveLabel}
    {inst : Instance} (inv : ReceiveInvariant stream labels inst)
    (decodable : Decodable stream inst) :
    ∃ unread, dispatchedMessages labels ++ unread <+: stream ∧
      txPosOf inst = streamEnd (dispatchedMessages labels ++ unread) ∧
      ∀ fuel, unread.length < fuel →
        ∃ after, slotHandler fuel inst = .done after unread ∧ PollResult inst after := by
  obtain ⟨⟨published, isPublished, short⟩, addressed, sight, agrees⟩ := decodable
  obtain ⟨unread, unreadOf, txPos, tiles⟩ :=
    unread_tiles isPublished short inv.dispatched inv.rxPos
  have isUnread : Unread stream inst unread := ⟨_, unreadOf, inv.rxPos, txPos⟩
  refine ⟨unread, unreadOf, txPos, ?_⟩
  intro fuel enough
  exact receive_loop_spec inst fuel tiles inv.cursor inv.consistent sight
    (addressed unread isUnread) (agrees unread isUnread) enough

/-- More fuel does not change a finished poll. -/
theorem receive_loop_mono {txPos fuel : Nat} {inst after : Instance}
    {dispatched : List SlotMessage} (extra : Nat)
    (finished : receiveLoop txPos fuel inst = .done after dispatched) :
    receiveLoop txPos (fuel + extra) inst = .done after dispatched := by
  induction fuel generalizing inst after dispatched with
  | zero => simp [receiveLoop] at finished
  | succ fuel ih =>
      rw [Nat.succ_add]
      unfold receiveLoop at finished ⊢
      split_ifs at finished ⊢ with done
      · exact finished
      · cases received : receiveMessage inst txPos with
        | error panic => simp [received] at finished
        | ok result =>
            simp only [received] at finished ⊢
            cases rest : receiveLoop txPos fuel result.2 with
            | panicked panic => simp [rest] at finished
            | outOfFuel => simp [rest] at finished
            | done last others =>
                simp only [rest] at finished
                simp only [ih rest]
                exact finished

/-- A finished poll has come to the `tx_pos` it read. -/
theorem receive_loop_end {txPos fuel : Nat} {inst after : Instance}
    {dispatched : List SlotMessage}
    (finished : receiveLoop txPos fuel inst = .done after dispatched) :
    rxPosOf after = txPos := by
  induction fuel generalizing inst dispatched with
  | zero => simp [receiveLoop] at finished
  | succ fuel ih =>
      unfold receiveLoop at finished
      split_ifs at finished with done
      · simp only [PollOutcome.done.injEq] at finished
        rw [← finished.1]
        exact done
      · cases received : receiveMessage inst txPos with
        | error panic => simp [received] at finished
        | ok result =>
            simp only [received] at finished
            cases rest : receiveLoop txPos fuel result.2 with
            | panicked panic => simp [rest] at finished
            | outOfFuel => simp [rest] at finished
            | done last others =>
                simp only [rest, PollOutcome.done.injEq] at finished
                rcases finished with ⟨rfl, rfl⟩
                exact ih rest

theorem dispatched_messages_snoc (labels : List ReceiveLabel) (label : ReceiveLabel) :
    dispatchedMessages (labels ++ [label]) =
      dispatchedMessages labels ++ dispatchedMessages [label] :=
  List.flatMap_append

theorem receive_invariant_step {stream : List SlotMessage} {labels : List ReceiveLabel}
    {label : ReceiveLabel} {before after : Instance}
    (inv : ReceiveInvariant stream labels before)
    (step : Guarded (ReceiveStep stream) (PolledWhen (Decodable stream)) before label after) :
    ReceiveInvariant stream (labels ++ [label]) after := by
  obtain ⟨move, guard⟩ := step
  cases move with
  | environment between =>
      have log : dispatchedMessages (labels ++ [.environment]) = dispatchedMessages labels := by
        rw [dispatched_messages_snoc]
        exact List.append_nil _
      refine ⟨between.wellFormed, between.consistent, ?_, ?_, ?_⟩
      · have cursor := inv.cursor
        unfold RxCursor at cursor ⊢
        rw [between.rxData, cursor, between.rxPos]
        by_cases boundary : rxPosOf before % vchiqSlotSize = 0
        · simp only [if_pos boundary]
        · simp only [if_neg boundary, between.currentSlot boundary]
      · rw [log]
        exact inv.dispatched
      · rw [log, between.rxPos]
        exact inv.rxPos
  | polled fuel outcome =>
      obtain ⟨unread, unreadOf, txPos, polls⟩ := inv.poll guard
      obtain ⟨expected, finished, result⟩ :=
        polls (fuel + (unread.length + 1)) (by omega)
      have same := receive_loop_mono (unread.length + 1) outcome
      rw [slotHandler] at finished
      rw [finished] at same
      simp only [PollOutcome.done.injEq] at same
      obtain ⟨rfl, rfl⟩ := same
      have log : dispatchedMessages (labels ++ [.polled unread]) =
          dispatchedMessages labels ++ unread := by
        rw [dispatched_messages_snoc]
        simp [dispatchedMessages]
      have sameTx : txPosOf expected = txPosOf before := by
        rw [txPosOf, remoteState, result.slotZero]
        rfl
      have rxEnd : rxPosOf expected = streamEnd (dispatchedMessages labels ++ unread) := by
        rw [result.rxPos, txPos]
      have order : rxPosOf before ≤ rxPosOf expected := by
        rw [rxEnd, inv.rxPos, stream_end_append]
        exact Nat.le_add_right _ _
      refine ⟨?_, result.consistent, result.cursor, ?_, ?_⟩
      · obtain ⟨published, isPublished⟩ := inv.wellFormed
        refine ⟨published, isPublished.front, sameTx.trans isPublished.txPos, ?_, ?_⟩
        · rw [result.rxPos, isPublished.txPos]
          exact Nat.mod_le _ _
        · intro earlier message later split lower
          rw [remoteState, result.slotZero, result.slotData]
          exact isPublished.placed earlier message later split (Nat.le_trans order lower)
      · rw [log]
        exact unreadOf
      · rw [log]
        exact rxEnd

/-- The stream has been decoded so far, and the next poll in a decodable state
decodes what is published. -/
structure StreamDecoded (stream : List SlotMessage) (labels : List ReceiveLabel)
    (inst : Instance) : Prop where
  dispatched : dispatchedMessages labels <+: stream
  rxPos : rxPosOf inst = streamEnd (dispatchedMessages labels)
  poll : Decodable stream inst →
    ∃ unread, dispatchedMessages labels ++ unread <+: stream ∧
      txPosOf inst = streamEnd (dispatchedMessages labels ++ unread) ∧
      ∀ fuel, unread.length < fuel →
        ∃ after, slotHandler fuel inst = .done after unread ∧ rxPosOf after = txPosOf inst

theorem fresh_receive_invariant {raw : SlotZero} {memory : Memory} {totalMemory : Nat}
    {fresh : State} {stream : List SlotMessage}
    (made : freshState raw memory totalMemory = .ok fresh)
    (silent : fresh.slotState.slotZero.master.txPos = 0) :
    ReceiveInvariant stream [] (freshInstance fresh) := by
  have facts := fresh_state_facts made
  have rxPos : rxPosOf (freshInstance fresh) = 0 := facts.rxPos
  have txPos : txPosOf (freshInstance fresh) = 0 := congrArg UInt32.toNat silent
  refine ⟨⟨[], List.nil_prefix, txPos, Nat.le_of_eq rxPos, ?_⟩, fresh_consistent facts, ?_,
    List.nil_prefix, rxPos⟩
  · intro earlier message later same
    simp at same
  · rw [RxCursor, rxPos]
    exact facts.rxData

theorem receive_invariant_run {raw : SlotZero} {memory : Memory} {totalMemory : Nat}
    {fresh : State} {stream : List SlotMessage} {labels : List ReceiveLabel} {inst : Instance}
    (made : freshState raw memory totalMemory = .ok fresh)
    (silent : fresh.slotState.slotZero.master.txPos = 0)
    (run : Run (Guarded (ReceiveStep stream) (PolledWhen (Decodable stream)))
      (freshInstance fresh) labels inst) : ReceiveInvariant stream labels inst :=
  run.invariant (ReceiveInvariant stream) (fresh_receive_invariant made silent)
    fun _ _ _ _ _ inv move => receive_invariant_step inv move

/-- In every run whose polls are made in decodable states the stream is decoded, each
message once and in order. -/
theorem decodable_polls_decode_stream {raw : SlotZero} {memory : Memory} {totalMemory : Nat}
    {fresh : State} {stream : List SlotMessage} {labels : List ReceiveLabel} {inst : Instance}
    (made : freshState raw memory totalMemory = .ok fresh)
    (silent : fresh.slotState.slotZero.master.txPos = 0)
    (run : Run (Guarded (ReceiveStep stream) (PolledWhen (Decodable stream)))
      (freshInstance fresh) labels inst) :
    StreamDecoded stream labels inst := by
  have inv := receive_invariant_run made silent run
  refine ⟨inv.dispatched, inv.rxPos, ?_⟩
  intro decodable
  obtain ⟨unread, unreadOf, txPos, polls⟩ := inv.poll decodable
  refine ⟨unread, unreadOf, txPos, ?_⟩
  intro fuel enough
  obtain ⟨after, finished, result⟩ := polls fuel enough
  exact ⟨after, finished, result.rxPos⟩

theorem along_of_forall {property : Instance → SlotMessage → Prop}
    {messages : List SlotMessage} (each : ∀ inst, ∀ message ∈ messages, property inst message)
    (inst : Instance) : Along property inst messages := by
  induction messages generalizing inst with
  | nil => trivial
  | cons message rest ih =>
      refine ⟨each inst message (by simp), ?_⟩
      intro next _
      exact ih (fun inst message member => each inst message (by simp [member])) next

theorem unread_subset {stream unread : List SlotMessage} {inst : Instance}
    (isUnread : Unread stream inst unread) : ∀ message ∈ unread, message ∈ stream := by
  obtain ⟨read, front, _, _⟩ := isUnread
  intro message member
  exact front.subset (List.mem_append_right read member)

/-- The message with this header whose payload is what memory holds behind it. -/
def messageAt (memory : Memory) (address : Nat) (msgid : UInt32) (size : Nat) :
    SlotMessage where
  header := { msgid := msgid, size := UInt32.ofNat size }
  data := read memory (address + headerSize) size

/-- CONNECT and the padding of the first slot of the VideoCore, and a padding
message that takes its whole second slot. -/
def remoteMemory : Memory :=
  writeHeader
    (writeHeader
      (writeHeader (fun _ => 0) (2 * vchiqSlotSize) ⟨makeMsgId .connect 0 0, 0⟩)
      (2 * vchiqSlotSize + 8) ⟨vchiqMsgidPadding, 4080⟩)
    (3 * vchiqSlotSize) ⟨vchiqMsgidPadding, 4088⟩

def remoteConnect : SlotMessage :=
  messageAt remoteMemory (2 * vchiqSlotSize) (makeMsgId .connect 0 0) 0

def firstPadding : SlotMessage :=
  messageAt remoteMemory (2 * vchiqSlotSize + 8) vchiqMsgidPadding 4080

def secondPadding : SlotMessage :=
  messageAt remoteMemory (3 * vchiqSlotSize) vchiqMsgidPadding 4088

def remoteStream : List SlotMessage := [remoteConnect, firstPadding, secondPadding]

/-- The VideoCore has filled its first two slots and published up to `txPos`. -/
def remotePublished (fresh : State) (txPos : Nat) : Instance :=
  freshInstance
    { fresh with
      slotState :=
        { fresh.slotState with
          slotData := { fresh.slotState.slotData with inner := remoteMemory }
          slotZero :=
            { fresh.slotState.slotZero with
              master :=
                { fresh.slotState.slotZero.master with
                  txPos := UInt32.ofNat txPos
                  slotQueue := fun index => 2 + index.val } } } }

theorem stored_message_at {memory : Memory} {address : Nat} {msgid : UInt32} {size : Nat}
    (small : size < 2 ^ 32) (header : readHeader memory address = ⟨msgid, UInt32.ofNat size⟩) :
    Stored memory address (messageAt memory address msgid size) := by
  refine ⟨header, ?_, ?_⟩
  · simp only [messageAt, read_length]
    exact UInt32.toNat_ofNat_of_lt' small
  · simp only [messageAt, read_length]

/-- The slots and the slot queue hold the example stream, of which this much is published. -/
structure ExamplePublished (inst : Instance) (published : List SlotMessage) : Prop where
  memory : inst.state.slotState.slotData.inner = remoteMemory
  length : inst.state.slotState.slotData.len = 65
  slotQueue : (remoteState inst).slotQueue = fun index => 2 + index.val
  txPos : txPosOf inst = streamEnd published
  ahead : rxPosOf inst ≤ streamEnd published

/-- The messages of the example stream are where the slot queue says. -/
theorem example_placed {inst : Instance} {published : List SlotMessage}
    (isExample : ExamplePublished inst published) :
    InSlot (remoteState inst) inst.state.slotState.slotData 0 remoteConnect ∧
      InSlot (remoteState inst) inst.state.slotState.slotData 8 firstPadding := by
  have connectStored : Stored remoteMemory (2 * vchiqSlotSize) remoteConnect :=
    stored_message_at (by decide) (by decide)
  have paddingStored : Stored remoteMemory (2 * vchiqSlotSize + 8) firstPadding :=
    stored_message_at (by decide) (by decide)
  have firstSlot : ∀ position, position < vchiqSlotSize →
      streamSlot (remoteState inst) position = 2 := by
    intro position small
    rw [streamSlot, isExample.slotQueue, slotQueueIndexFromPos, Nat.div_eq_of_lt small]
    rfl
  constructor
  · refine ⟨by decide, ?_, ?_, ?_⟩
    · rw [firstSlot 0 (by decide)]
      decide
    · rw [firstSlot 0 (by decide), isExample.length]
      decide
    · rw [firstSlot 0 (by decide), isExample.memory, Nat.zero_mod, Nat.add_zero]
      exact connectStored
  · refine ⟨by decide, ?_, ?_, ?_⟩
    · rw [firstSlot 8 (by decide)]
      decide
    · rw [firstSlot 8 (by decide), isExample.length]
      decide
    · rw [firstSlot 8 (by decide), isExample.memory]
      exact paddingStored

/-- Publishing the first message or the whole first slot is what the VideoCore may do. -/
theorem example_published {inst : Instance} {published : List SlotMessage}
    (isExample : ExamplePublished inst published)
    (choice : published = [remoteConnect] ∨ published = [remoteConnect, firstPadding]) :
    Published remoteStream inst published ∧ streamEnd published < 2 ^ 32 := by
  obtain ⟨placedConnect, placedPadding⟩ := example_placed isExample
  have short : streamEnd published < 2 ^ 32 := by
    rcases choice with rfl | rfl
    · decide
    · decide
  refine ⟨⟨?_, isExample.txPos.trans (as_u32_of_lt short).symm, isExample.ahead, ?_⟩, short⟩
  · rcases choice with rfl | rfl
    · exact ⟨[firstPadding, secondPadding], rfl⟩
    · exact ⟨[secondPadding], rfl⟩
  · intro earlier message later split _
    rcases choice with rfl | rfl
    · cases earlier with
      | nil =>
          simp only [List.nil_append, List.cons.injEq] at split
          rw [← split.1]
          exact placedConnect
      | cons first rest => simp at split
    · cases earlier with
      | nil =>
          simp only [List.nil_append, List.cons.injEq] at split
          rw [← split.1]
          exact placedConnect
      | cons first rest =>
          cases rest with
          | nil =>
              simp only [List.cons_append, List.nil_append, List.cons.injEq] at split
              rw [← split.1, ← split.2.1]
              exact placedPadding
          | cons second rest => simp at split

theorem remote_stream_addressed (inst : Instance) : StreamAddressed remoteStream inst := by
  intro unread isUnread
  apply along_of_forall
  intro later message member
  have known := unread_subset isUnread message member
  simp only [remoteStream, List.mem_cons, List.not_mem_nil, or_false] at known
  rcases known with rfl | rfl | rfl
  · exact .inl (by decide)
  · exact .inr (.inl (by decide))
  · exact .inr (.inl (by decide))

theorem remote_stream_agrees (inst : Instance) : StreamAgrees remoteStream inst := by
  intro unread isUnread
  apply along_of_forall
  intro later message member isClose
  have known := unread_subset isUnread message member
  simp only [remoteStream, List.mem_cons, List.not_mem_nil, or_false] at known
  rcases known with rfl | rfl | rfl
  all_goals exact absurd isClose (by decide)

/-- The VideoCore publishes up to another position. -/
def republished (inst : Instance) (txPos : Nat) : Instance :=
  inst.withSlots
    { inst.state.slotState with
      slotZero :=
        { inst.state.slotState.slotZero with
          master := { remoteState inst with txPos := UInt32.ofNat txPos } } }

/-- A batch that ends exactly at the end of the first slot makes the handler read
the second one: CONNECT is never dispatched. -/
theorem slot_end_batch_misread :
    ∃ fresh labels inst,
      freshState blankSlotZero (fun _ => 0) (65 * vchiqSlotSize) = .ok fresh ∧
      fresh.slotState.slotZero.master.txPos = 0 ∧
      Run (Guarded (ReceiveStep remoteStream) (PolledWhen (StreamAddressed remoteStream)))
        (freshInstance fresh) labels inst ∧
      dispatchedMessages labels = [secondPadding] ∧ rxPosOf inst = txPosOf inst ∧
      ¬dispatchedMessages labels <+: remoteStream := by
  obtain ⟨fresh, after, made, silent, isExample, polled, finished⟩ :
      ∃ fresh after, freshState blankSlotZero (fun _ => 0) (65 * vchiqSlotSize) = .ok fresh ∧
        fresh.slotState.slotZero.master.txPos = 0 ∧
        ExamplePublished (remotePublished fresh (streamEnd [remoteConnect, firstPadding]))
          [remoteConnect, firstPadding] ∧
        slotHandler 2 (remotePublished fresh (streamEnd [remoteConnect, firstPadding])) =
          .done after [secondPadding] ∧ rxPosOf after = txPosOf after :=
    ⟨_, _, rfl, rfl, ⟨rfl, rfl, rfl, rfl, by decide⟩, rfl, rfl⟩
  have facts := fresh_state_facts made
  have consistent := fresh_consistent facts
  have rxPos : rxPosOf (freshInstance fresh) = 0 := facts.rxPos
  have between : BetweenPolls remoteStream (freshInstance fresh)
      (remotePublished fresh (streamEnd [remoteConnect, firstPadding])) := by
    refine ⟨rfl, rfl, ?_, ⟨_, (example_published isExample (.inr rfl)).1⟩,
      ⟨consistent.quotas, consistent.ports, consistent.ordered⟩⟩
    intro midSlot
    rw [rxPos] at midSlot
    exact absurd rfl midSlot
  refine ⟨fresh, _, after, made, silent,
    .snoc (.snoc .refl ⟨.environment between, trivial⟩)
      ⟨.polled 2 polled, remote_stream_addressed _⟩, rfl, finished, ?_⟩
  intro front
  have same : secondPadding = remoteConnect := by
    obtain ⟨rest, split⟩ := front
    exact (List.cons.inj split).1
  exact absurd (congrArg (fun message => message.header.msgid) same) (by decide)

/-- As long as the published messages are in the slot that is read, no other is opened. -/
theorem example_opens {inst : Instance} {published : List SlotMessage}
    (isExample : ExamplePublished inst published) (first : streamEnd published ≤ vchiqSlotSize)
    (atStart : rxPosOf inst = 0 → streamEnd published < vchiqSlotSize) :
    OpensPublishedSlot inst := by
  intro boundary aligned lower upper
  rw [isExample.txPos] at upper ⊢
  have zero : boundary = 0 := by
    simp only [vchiqSlotSize] at aligned first
    omega
  subst zero
  have inFirst := atStart (Nat.le_zero.mp lower)
  rw [streamSlot, streamSlot, slotQueueIndexFromPos, slotQueueIndexFromPos,
    Nat.div_eq_of_lt inFirst, Nat.zero_div]

/-- CONNECT in one batch and the PADDING behind it in another one are decoded. -/
theorem two_batches_decoded :
    ∃ labels inst, StreamDecoded remoteStream labels inst ∧
      dispatchedMessages labels = [remoteConnect, firstPadding] := by
  obtain ⟨fresh, middle, after, made, silent, first, firstPoll, second, secondPoll, rxPos⟩ :
      ∃ fresh middle after,
        freshState blankSlotZero (fun _ => 0) (65 * vchiqSlotSize) = .ok fresh ∧
        fresh.slotState.slotZero.master.txPos = 0 ∧
        ExamplePublished (remotePublished fresh (streamEnd [remoteConnect])) [remoteConnect] ∧
        slotHandler 2 (remotePublished fresh (streamEnd [remoteConnect])) =
          .done middle [remoteConnect] ∧
        ExamplePublished (republished middle (streamEnd [remoteConnect, firstPadding]))
          [remoteConnect, firstPadding] ∧
        slotHandler 2 (republished middle (streamEnd [remoteConnect, firstPadding])) =
          .done after [firstPadding] ∧ rxPosOf middle = 8 :=
    ⟨_, _, _, rfl, rfl, ⟨rfl, rfl, rfl, rfl, by decide⟩, rfl, ⟨rfl, rfl, rfl, rfl, by decide⟩,
      rfl, rfl⟩
  have facts := fresh_state_facts made
  have steady := fresh_consistent facts
  have start : rxPosOf (freshInstance fresh) = 0 := facts.rxPos
  have published := example_published first (.inl rfl)
  have between : BetweenPolls remoteStream (freshInstance fresh)
      (remotePublished fresh (streamEnd [remoteConnect])) := by
    refine ⟨rfl, rfl, ?_, ⟨_, published.1⟩, ⟨steady.quotas, steady.ports, steady.ordered⟩⟩
    intro midSlot
    rw [start] at midSlot
    exact absurd rfl midSlot
  have sight := example_opens first (by decide) fun _ => by decide
  have run : Run (Guarded (ReceiveStep remoteStream) (PolledWhen (Decodable remoteStream)))
      (freshInstance fresh) _ middle :=
    .snoc (.snoc .refl ⟨.environment between, trivial⟩)
      ⟨.polled 2 firstPoll, ⟨_, published⟩, remote_stream_addressed _, sight,
        remote_stream_agrees _⟩
  have consistent := (receive_invariant_run made silent run).consistent
  have whole := example_published second (.inr rfl)
  have later : BetweenPolls remoteStream middle
      (republished middle (streamEnd [remoteConnect, firstPadding])) :=
    ⟨rfl, rfl, fun _ => rfl, ⟨_, whole.1⟩,
      ⟨consistent.quotas, consistent.ports, consistent.ordered⟩⟩
  have sameSlot := example_opens second (by decide) fun begins => by
    have position : rxPosOf middle = 0 := begins
    rw [rxPos] at position
    exact absurd position (by decide)
  exact ⟨_, after, decodable_polls_decode_stream made silent
    (.snoc (.snoc run ⟨.environment later, trivial⟩)
      ⟨.polled 2 secondPoll, ⟨_, whole⟩, remote_stream_addressed _, sameSlot,
        remote_stream_agrees _⟩), rfl⟩

end RuspiroVchiq.Receive
