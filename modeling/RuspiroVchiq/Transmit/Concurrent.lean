import RuspiroVchiq.Transmit.Stream

/-!
# Concurrent transmit runs

Any number of senders execute `queue_message` at the same time. Each section
under one `slot_state` guard is a step: admission with the quota check,
`reserve_space`, and the section that stores and publishes. The last one
publishes the current `local_tx_pos`, so what it makes visible depends on
which other senders have reserved in the meantime.
-/

namespace RuspiroVchiq.Transmit

open RuspiroVchiq.Config
open RuspiroVchiq.Shared
open RuspiroVchiq.Vchiq
open RuspiroVchiq.Lib.ByteMemory
open RuspiroVchiq.Lib.LabelledRun

set_option autoImplicit false

/-- Where a sender is inside `queue_message`. -/
inductive SenderPhase where
  | idle
  | admitted (call : QueueCall) (msgType : MessageType)
  | reserved (region : Region) (msgType : MessageType)

structure Senders where
  state : State
  phase : Nat → SenderPhase

inductive SenderLabel where
  | admitted (sender : Nat) (call : QueueCall)
  | rejected (sender : Nat) (call : QueueCall)
  | reserved (sender : Nat) (region : Region)
  | published (sender : Nat) (region : Region)
  | environment

/-- A section that panics or blocks makes no step: its sender never gets on. -/
inductive SenderStep : Senders → SenderLabel → Senders → Prop where
  | admitted {before : Senders} {after : State} (sender : Nat) {call : QueueCall}
      {msgType : MessageType} (ready : before.phase sender = .idle)
      (admission : admitMessage before.state call = (.ok msgType, after)) :
      SenderStep before (.admitted sender call)
        ⟨after, Function.update before.phase sender (.admitted call msgType)⟩
  | rejected {before : Senders} {after : State} (sender : Nat) {call : QueueCall}
      {error : VchiqError} (ready : before.phase sender = .idle)
      (admission : admitMessage before.state call = (.error (.error error), after)) :
      SenderStep before (.rejected sender call) ⟨after, before.phase⟩
  | reserved {before : Senders} {after : State} (sender : Nat) {call : QueueCall}
      {msgType : MessageType} {position : SlotPosition}
      (ready : before.phase sender = .admitted call msgType)
      (reservation : reserveSpace before.state call.msgStride = .ok (position, after)) :
      SenderStep before
        (.reserved sender ⟨call, position, after.slotState.localTxPos - call.msgStride⟩)
        ⟨after, Function.update before.phase sender
          (.reserved ⟨call, position, after.slotState.localTxPos - call.msgStride⟩ msgType)⟩
  | published {before : Senders} {after : State} (sender : Nat) {region : Region}
      {msgType : MessageType} (ready : before.phase sender = .reserved region msgType)
      (publication :
        storeAndPublish before.state region.call msgType region.position = .ok after) :
      SenderStep before (.published sender region)
        ⟨after, Function.update before.phase sender .idle⟩
  | environment {before : Senders} {after : State}
      (undisturbed : Undisturbed before.state after) :
      SenderStep before .environment ⟨after, before.phase⟩

def SenderLabel.region : SenderLabel → Option Region
  | .reserved _ region => some region
  | _ => none

def reservedRegions (labels : List SenderLabel) : List Region :=
  labels.filterMap SenderLabel.region

theorem reserved_regions_snoc (labels : List SenderLabel) (label : SenderLabel) :
    reservedRegions (labels ++ [label]) = reservedRegions labels ++ label.region.toList := by
  cases label <;> simp [reservedRegions, SenderLabel.region]

def publishedPos (senders : Senders) : Nat := senders.state.slotState.slotZero.slave.txPos.toNat

/-- Everything the VideoCore may read is there: a region that starts below the
published position holds the message it was reserved for. -/
def PublishedComplete (labels : List SenderLabel) (senders : Senders) : Prop :=
  ∀ region ∈ reservedRegions labels, region.start < publishedPos senders →
    Stored senders.state.slotState.slotData.inner (slotAddress region.position)
      region.call.message

/-- Senders that do not get into each other's way. A reservation is for a message
of at most a slot whose payload follows its header; it needs no padding unless
the message that padding would overwrite is still unpublished. Whoever publishes
is the only one with a reservation. -/
def Undivided (senders : Senders) : SenderLabel → Prop
  | .reserved _ region =>
      region.call.msgStride ≤ vchiqSlotSize ∧ DirectPayload region.call ∧
        (region.call.msgStride ≤ slotSpace senders.state ∨
          publishedPos senders < senders.state.slotState.localTxPos)
  | .published sender _ =>
      ∀ other, other ≠ sender → ∀ region msgType,
        senders.phase other ≠ .reserved region msgType
  | _ => True

/-- What is known of a region that was handed out. -/
structure RegionPlaced (state : State) (region : Region) : Prop where
  position : region.position = streamPosition state region.start
  below : region.start < state.slotQueueAvailable * vchiqSlotSize
  finish : region.start + region.call.msgStride ≤ state.slotState.localTxPos
  fits : region.call.msgStride ≤ vchiqSlotSize
  direct : DirectPayload region.call

/-- A region is either published and complete, or its sender still holds it. -/
def RegionSettled (senders : Senders) (region : Region) : Prop :=
  (region.start + region.call.msgStride ≤ publishedPos senders ∧
      Stored senders.state.slotState.slotData.inner (slotAddress region.position)
        region.call.message) ∨
    (publishedPos senders ≤ region.start ∧
      ∃ sender msgType, senders.phase sender = .reserved region msgType)

structure ConcurrentInvariant (numSlots : Nat) (labels : List SenderLabel)
    (senders : Senders) : Prop where
  reservation : ReservationInvariant numSlots senders.state
  published : publishedPos senders ≤ senders.state.slotState.localTxPos
  placed : ∀ region ∈ reservedRegions labels, RegionPlaced senders.state region
  settled : ∀ region ∈ reservedRegions labels, RegionSettled senders region
  held : ∀ sender region msgType, senders.phase sender = .reserved region msgType →
    region ∈ reservedRegions labels ∧ publishedPos senders ≤ region.start
  latest : ∀ slotPos, senders.state.slotState.txData = some slotPos →
    publishedPos senders < senders.state.slotState.localTxPos →
      streamAddress senders.state (publishedPos senders) ≤ slotAddress slotPos

/-- Writes outside the bytes of a placed region leave its message complete. -/
theorem stored_region_congr {before after : State} {region : Region} {bound : Nat}
    (placed : RegionPlaced before region)
    (stored : Stored before.slotState.slotData.inner (slotAddress region.position)
      region.call.message)
    (finish : region.start + region.call.msgStride ≤ bound)
    (same : ∀ address, streamAddress before 0 ≤ address →
      address < streamAddress before bound →
        after.slotState.slotData.inner address = before.slotState.slotData.inner address) :
    Stored after.slotState.slotData.inner (slotAddress region.position)
      region.call.message := by
  apply stored.congr
  rw [placed.position, slot_address_stream_position]
  intro target lower upper
  have bounds := (calc_msg_stride_bounds region.call.msgSize).1
  have size : region.call.message.data.length = region.call.msgSize := rfl
  rw [size] at upper
  simp only [QueueCall.msgStride] at finish
  simp only [streamAddress] at lower upper same
  apply same target
  · exact Nat.le_trans (Nat.add_le_add_left (Nat.zero_le _) _) lower
  · apply Nat.lt_of_lt_of_le upper
    rw [Nat.add_assoc, Nat.add_assoc]
    apply Nat.add_le_add_left
    omega

/-- Moves that leave the cursor, the published position, the phases and the ARM
slots alone keep the invariant. -/
theorem ConcurrentInvariant.frame {numSlots : Nat} {labels : List SenderLabel}
    {label : SenderLabel} {before after : Senders}
    (inv : ConcurrentInvariant numSlots labels before)
    (noRegion : label.region = none)
    (reservation : ReservationInvariant numSlots after.state)
    (slave : after.state.slotState.slotZero.slave = before.state.slotState.slotZero.slave)
    (available : after.state.slotQueueAvailable = before.state.slotQueueAvailable)
    (cursor : after.state.slotState.localTxPos = before.state.slotState.localTxPos)
    (txData : after.state.slotState.txData = before.state.slotState.txData)
    (memory : ∀ address, streamAddress before.state 0 ≤ address →
      address < streamAddress before.state before.state.slotState.localTxPos →
        after.state.slotState.slotData.inner address =
          before.state.slotState.slotData.inner address)
    (phase : ∀ sender region msgType,
      after.phase sender = .reserved region msgType ↔
        before.phase sender = .reserved region msgType) :
    ConcurrentInvariant numSlots (labels ++ [label]) after := by
  have same : reservedRegions (labels ++ [label]) = reservedRegions labels := by
    rw [reserved_regions_snoc, noRegion]
    simp
  have publishedEq : publishedPos after = publishedPos before := by
    rw [publishedPos, slave, publishedPos]
  have address : ∀ position, streamAddress after.state position =
      streamAddress before.state position := by
    intro position
    rw [streamAddress, slotBase, slave, streamAddress, slotBase]
  refine ⟨reservation, ?_, ?_, ?_, ?_, ?_⟩
  · rw [publishedEq, cursor]
    exact inv.published
  · intro region member
    rw [same] at member
    have placed := inv.placed region member
    refine ⟨?_, available ▸ placed.below, cursor ▸ placed.finish, placed.fits, placed.direct⟩
    rw [placed.position, streamPosition, streamPosition, slotBase, slotBase, slave]
  · intro region member
    rw [same] at member
    rcases inv.settled region member with ⟨finish, stored⟩ | ⟨start, sender, msgType, ready⟩
    · left
      have placed := inv.placed region member
      exact ⟨publishedEq ▸ finish, stored_region_congr placed stored placed.finish memory⟩
    · right
      exact ⟨publishedEq ▸ start, sender, msgType, (phase _ _ _).mpr ready⟩
  · intro sender region msgType ready
    rw [same, publishedEq]
    exact inv.held sender region msgType ((phase _ _ _).mp ready)
  · intro slotPos found unpublished
    rw [txData] at found
    rw [publishedEq, cursor] at unpublished
    rw [publishedEq, address]
    exact inv.latest slotPos found unpublished

theorem admission_step {numSlots : Nat} {labels : List SenderLabel} {label : SenderLabel}
    {before : Senders} {after : State} {call : QueueCall} {result : Except Stop MessageType}
    {phase : Nat → SenderPhase} (inv : ConcurrentInvariant numSlots labels before)
    (noRegion : label.region = none)
    (admission : admitMessage before.state call = (result, after))
    (samePhase : ∀ sender region msgType, phase sender = .reserved region msgType ↔
      before.phase sender = .reserved region msgType) :
    ConcurrentInvariant numSlots (labels ++ [label]) ⟨after, phase⟩ := by
  have reservation := inv.reservation.admitted admission
  obtain ⟨quotas, _, rfl⟩ := admit_frame admission
  exact inv.frame noRegion reservation rfl rfl rfl rfl (fun _ _ _ => rfl) samePhase

theorem environment_step {numSlots : Nat} {labels : List SenderLabel} {before : Senders}
    {after : State} (inv : ConcurrentInvariant numSlots labels before)
    (undisturbed : Undisturbed before.state after) :
    ConcurrentInvariant numSlots (labels ++ [.environment]) ⟨after, before.phase⟩ := by
  have reservation := inv.reservation
  refine inv.frame rfl (undisturbed.reservation reservation) undisturbed.slave
    undisturbed.available undisturbed.localTxPos undisturbed.txData ?_ fun _ _ _ => Iff.rfl
  exact undisturbed.stream_memory reservation

/-- The padding of an undivided reservation stays above what is published. -/
theorem padding_above_published {numSlots : Nat} {labels : List SenderLabel}
    {before : Senders} {spaceNeeded : Nat} (inv : ConcurrentInvariant numSlots labels before)
    (room : spaceNeeded ≤ slotSpace before.state ∨
      publishedPos before < before.state.slotState.localTxPos) (address : Nat)
    (below : address < streamAddress before.state (publishedPos before)) :
    paddedMemory before.state spaceNeeded address =
      before.state.slotState.slotData.inner address := by
  unfold paddedMemory
  cases txData : before.state.slotState.txData with
  | none => rfl
  | some slotPos =>
      by_cases padding : spaceNeeded > slotSpace before.state
      · simp only [if_pos padding]
        rcases room with fits | unpublished
        · omega
        · have above := inv.latest slotPos txData unpublished
          exact write_header_outside _ _ _ _ (.inl (Nat.lt_of_lt_of_le below above))
      · simp only [if_neg padding]

theorem reserve_step {numSlots : Nat} {labels : List SenderLabel} {before : Senders}
    {after : State} {sender : Nat} {call : QueueCall} {msgType : MessageType}
    {position : SlotPosition} (inv : ConcurrentInvariant numSlots labels before)
    (ready : before.phase sender = .admitted call msgType)
    (reservation : reserveSpace before.state call.msgStride = .ok (position, after))
    (guard : Undivided before
      (.reserved sender ⟨call, position, after.slotState.localTxPos - call.msgStride⟩)) :
    ConcurrentInvariant numSlots
      (labels ++
        [.reserved sender ⟨call, position, after.slotState.localTxPos - call.msgStride⟩])
      ⟨after, Function.update before.phase sender
        (.reserved ⟨call, position, after.slotState.localTxPos - call.msgStride⟩ msgType)⟩ := by
  obtain ⟨fits, direct, room⟩ := guard
  simp only at fits direct room
  have stride := valid_stride call fits
  obtain ⟨below, rfl, rfl⟩ := reserve_space_ok inv.reservation stride reservation
  have cursorLe := (reserve_start_facts inv.reservation stride).2.1
  have published := inv.published
  have start : (reservedState before.state call.msgStride).slotState.localTxPos -
      call.msgStride = reserveStart before.state call.msgStride := Nat.add_sub_cancel _ _
  rw [start]
  refine ⟨reserved_invariant inv.reservation stride below, ?_, ?_, ?_, ?_, ?_⟩
  · exact Nat.le_trans published (Nat.le_trans cursorLe (Nat.le_add_right _ _))
  · intro region member
    rw [reserved_regions_snoc, List.mem_append] at member
    rcases member with earlier | last
    · have placed := inv.placed region earlier
      exact ⟨placed.position, placed.below,
        Nat.le_trans placed.finish (Nat.le_trans cursorLe (Nat.le_add_right _ _)),
        placed.fits, placed.direct⟩
    · simp only [SenderLabel.region, Option.toList_some, List.mem_singleton] at last
      subst last
      exact ⟨rfl, below, Nat.le_refl _, fits, direct⟩
  · intro region member
    rw [reserved_regions_snoc, List.mem_append] at member
    rcases member with earlier | last
    · rcases inv.settled region earlier with ⟨finish, stored⟩ | ⟨above, holder, kind, holds⟩
      · left
        refine ⟨finish, ?_⟩
        apply stored_region_congr (inv.placed region earlier) stored finish
        intro address _ upper
        exact padding_above_published inv room address upper
      · right
        have different : holder ≠ sender := by
          intro same
          rw [same, ready] at holds
          simp at holds
        refine ⟨above, holder, kind, ?_⟩
        simp only [Function.update_of_ne different, holds]
    · simp only [SenderLabel.region, Option.toList_some, List.mem_singleton] at last
      subst last
      right
      refine ⟨Nat.le_trans published cursorLe, sender, msgType, ?_⟩
      simp only [Function.update_self]
  · intro holder region kind holds
    rw [reserved_regions_snoc, List.mem_append]
    by_cases same : holder = sender
    · subst same
      simp only [Function.update_self, SenderPhase.reserved.injEq] at holds
      rw [← holds.1]
      exact ⟨.inr (by simp [SenderLabel.region]), Nat.le_trans published cursorLe⟩
    · simp only [Function.update_of_ne same] at holds
      obtain ⟨earlier, above⟩ := inv.held holder region kind holds
      exact ⟨.inl earlier, above⟩
  · intro slotPos found _
    simp only [reservedState, Option.some.injEq] at found
    subst found
    rw [slot_address_stream_position]
    exact Nat.add_le_add_left (Nat.le_trans published cursorLe) _

/-- A sender that publishes alone completes everything below the new position. -/
theorem publish_step {numSlots : Nat} {labels : List SenderLabel} {before : Senders}
    {after : State} {sender : Nat} {region : Region} {msgType : MessageType}
    (inv : ConcurrentInvariant numSlots labels before)
    (ready : before.phase sender = .reserved region msgType)
    (publication :
      storeAndPublish before.state region.call msgType region.position = .ok after)
    (guard : Undivided before (.published sender region)) :
    ConcurrentInvariant numSlots (labels ++ [.published sender region])
      ⟨after, Function.update before.phase sender .idle⟩ := by
  obtain ⟨member, unpublished⟩ := inv.held sender region msgType ready
  have placed := inv.placed region member
  have positive : 0 < region.call.msgStride := calc_msg_stride_pos _
  have finish := placed.finish
  have started : 0 < before.state.slotState.localTxPos := by omega
  have publishedAt : ∃ quotaState, after =
      publishedState before.state region.call msgType region.position quotaState := by
    rw [placed.position] at publication ⊢
    exact published_at_stream inv.reservation placed.below started publication
  obtain ⟨quotaState, rfl⟩ := publishedAt
  have publishedEq : publishedPos
      ⟨publishedState before.state region.call msgType region.position quotaState,
        Function.update before.phase sender .idle⟩ =
          before.state.slotState.localTxPos := as_u32_of_lt inv.reservation.cursor_lt
  have same : reservedRegions (labels ++ [.published sender region]) =
      reservedRegions labels := by
    rw [reserved_regions_snoc]
    simp [SenderLabel.region]
  refine ⟨published_invariant _ _ _ _ inv.reservation, ?_, ?_, ?_, ?_, ?_⟩
  · rw [publishedEq]
    exact Nat.le_refl _
  · intro other otherMember
    rw [same] at otherMember
    have otherPlaced := inv.placed other otherMember
    exact ⟨otherPlaced.position, otherPlaced.below, otherPlaced.finish, otherPlaced.fits,
      otherPlaced.direct⟩
  · intro other otherMember
    rw [same] at otherMember
    have otherPlaced := inv.placed other otherMember
    left
    refine ⟨publishedEq ▸ otherPlaced.finish, ?_⟩
    rcases inv.settled other otherMember with ⟨done, stored⟩ | ⟨_, holder, kind, holds⟩
    · apply stored_region_congr otherPlaced stored done
      intro address _ upper
      apply message_memory_outside _ _ _ placed.direct
      left
      rw [placed.position, slot_address_stream_position]
      exact Nat.lt_of_lt_of_le upper (Nat.add_le_add_left unpublished _)
    · have sameHolder : holder = sender := by
        by_contra different
        exact guard holder different other kind holds
      rw [sameHolder, ready, SenderPhase.reserved.injEq] at holds
      rw [← holds.1]
      exact stored_message_memory _ _ placed.fits placed.direct
  · intro holder other kind holds
    by_cases sameHolder : holder = sender
    · subst sameHolder
      simp at holds
    · simp only [Function.update_of_ne sameHolder] at holds
      exact absurd holds (guard holder sameHolder other kind)
  · intro slotPos _ unpublished
    rw [publishedEq] at unpublished
    exact absurd unpublished (Nat.lt_irrefl _)

theorem concurrent_invariant_step {numSlots : Nat} {labels : List SenderLabel}
    {label : SenderLabel} {before after : Senders}
    (inv : ConcurrentInvariant numSlots labels before)
    (step : Guarded SenderStep Undivided before label after) :
    ConcurrentInvariant numSlots (labels ++ [label]) after := by
  obtain ⟨move, guard⟩ := step
  cases move with
  | @admitted after sender call msgType ready admission =>
      apply admission_step inv rfl admission
      intro holder region kind
      by_cases same : holder = sender
      · subst same
        simp [ready]
      · rw [Function.update_of_ne same]
  | rejected _ ready admission => exact admission_step inv rfl admission fun _ _ _ => Iff.rfl
  | reserved _ ready reservation => exact reserve_step inv ready reservation guard
  | published _ ready publication => exact publish_step inv ready publication guard
  | environment undisturbed => exact environment_step inv undisturbed

/-- Senders that keep undivided never publish an unwritten message. -/
theorem undivided_senders_publish_complete {raw slotZero : SlotZero} {memory : Memory}
    {totalMemory numSlots : Nat} {fresh : State} {senders : Senders}
    {labels : List SenderLabel}
    (initialized : initializeSlotZero raw totalMemory = .ok (slotZero, numSlots))
    (upper : numSlots ≤ vchiqMaxSlots)
    (made : freshState raw memory totalMemory = .ok fresh)
    (run : Run (Guarded SenderStep Undivided) ⟨fresh, fun _ => .idle⟩ labels senders) :
    PublishedComplete labels senders := by
  obtain ⟨reservation, cursor, txPos⟩ := fresh_state_spec made initialized upper
  have initial : ConcurrentInvariant numSlots [] ⟨fresh, fun _ => .idle⟩ := by
    refine ⟨reservation, ?_, by simp [reservedRegions], by simp [reservedRegions], ?_, ?_⟩
    · rw [publishedPos, txPos]
      exact Nat.zero_le _
    · intro sender region msgType holds
      simp at holds
    · intro slotPos _ unpublished
      rw [publishedPos, txPos, cursor] at unpublished
      exact absurd unpublished (Nat.lt_irrefl 0)
  have inv := run.invariant (ConcurrentInvariant numSlots) initial
    fun _ _ _ _ _ inv move => concurrent_invariant_step inv move
  intro region member below
  rcases inv.settled region member with ⟨_, stored⟩ | ⟨above, _⟩
  · exact stored
  · omega

set_option maxRecDepth 20000 in
/-- A second sender is admitted before the first one reserves, and reserves behind its
publication. -/
theorem alternating_sections :
    ∃ fresh added admitted second reserved published both state position position',
      freshState blankSlotZero (fun _ => 0) (65 * vchiqSlotSize) = .ok fresh ∧
      fresh.addService sampleParams 4096 = .ok added ∧
      admitMessage added connectCall = (.ok .connect, admitted) ∧
      admitMessage admitted shortCall = (.ok .data, second) ∧
      slotSpace second = 4096 ∧
      reserveSpace second connectCall.msgStride = .ok (position, reserved) ∧
      storeAndPublish reserved connectCall .connect position = .ok published ∧
      slotSpace published = 4088 ∧
      reserveSpace published shortCall.msgStride = .ok (position', both) ∧
      storeAndPublish both shortCall .data position' = .ok state ∧
      reserved.slotState.localTxPos = 8 ∧ both.slotState.localTxPos = 24 ∧
      state.slotState.slotZero.slave.txPos.toNat = 24 :=
  ⟨_, _, _, _, _, _, _, _, _, _, rfl, rfl, rfl, rfl, rfl, rfl, rfl, rfl, rfl, rfl, rfl, rfl, rfl⟩

/-- The messages of two senders that reserve in turn are published complete. -/
theorem alternating_senders_publish_complete :
    ∃ labels senders, PublishedComplete labels senders ∧
      (reservedRegions labels).map Region.call = [connectCall, shortCall] ∧
      ∀ region ∈ reservedRegions labels, region.start < publishedPos senders := by
  obtain ⟨fresh, added, admitted, second, reserved, published, both, state, position, position',
    made, grown, admission, admission', space, reservation, publication, space', reservation',
    publication', first, last, txPos⟩ := alternating_sections
  have connectFits : connectCall.msgStride ≤ vchiqSlotSize := by decide
  have connectDirect : DirectPayload connectCall := .inl (by decide)
  have connectRoom : connectCall.msgStride ≤ slotSpace second := by
    rw [space]
    decide
  have dataFits : shortCall.msgStride ≤ vchiqSlotSize := by decide
  have dataDirect : DirectPayload shortCall := .inl (by decide)
  have dataRoom : shortCall.msgStride ≤ slotSpace published := by
    rw [space']
    decide
  refine ⟨_, _, undivided_senders_publish_complete rfl (by decide) made
    (.snoc (.snoc (.snoc (.snoc (.snoc (.snoc (.snoc .refl
      ⟨.environment (add_service_undisturbed grown), trivial⟩)
      ⟨.admitted 0 rfl admission, trivial⟩) ⟨.admitted 1 rfl admission', trivial⟩)
      ⟨.reserved 0 rfl reservation, connectFits, connectDirect, .inl connectRoom⟩)
      ⟨.published 0 rfl publication, ?_⟩)
      ⟨.reserved 1 rfl reservation', dataFits, dataDirect, .inl dataRoom⟩)
      ⟨.published 1 rfl publication', ?_⟩), rfl, ?_⟩
  · intro other different region msgType
    by_cases second : other = 1
    · simp [second]
    · simp [Function.update_of_ne different, Function.update_of_ne second]
  · intro other different region msgType
    by_cases first : other = 0
    · simp [first]
    · simp [Function.update_of_ne different, Function.update_of_ne first]
  · intro region member
    have either : ⟨connectCall, position, 8 - connectCall.msgStride⟩ = region ∨
        ⟨shortCall, position', 24 - shortCall.msgStride⟩ = region := by
      rw [← first, ← last]
      simpa [reservedRegions, SenderLabel.region] using member
    rw [publishedPos, txPos]
    rcases either with rfl | rfl
    · exact (by decide : 8 - connectCall.msgStride < 24)
    · exact (by decide : 24 - shortCall.msgStride < 24)

set_option maxRecDepth 20000 in
/-- Two senders reserve one after the other and the second publishes first. -/
theorem crossed_sections :
    ∃ fresh added admitted second reserved both published first last,
      freshState blankSlotZero (fun _ => 0) (65 * vchiqSlotSize) = .ok fresh ∧
      fresh.addService sampleParams 4096 = .ok added ∧
      admitMessage added shortCall = (.ok .data, admitted) ∧
      admitMessage admitted shortCall = (.ok .data, second) ∧
      reserveSpace second shortCall.msgStride = .ok (first, reserved) ∧
      reserved.slotState.localTxPos = shortCall.msgStride ∧
      reserveSpace reserved shortCall.msgStride = .ok (last, both) ∧
      storeAndPublish both shortCall .data last = .ok published ∧
      published.slotState.slotZero.slave.txPos.toNat = 2 * shortCall.msgStride ∧
      readHeader published.slotState.slotData.inner (slotAddress first) = ⟨0, 0⟩ :=
  ⟨_, _, _, _, _, _, _, _, _, rfl, rfl, rfl, rfl, rfl, rfl, rfl, rfl, rfl, rfl⟩

/-- The second sender makes the region of the first one visible while it still
holds the zeroes of the fresh memory. -/
theorem crossed_senders_publish_unwritten :
    ∃ fresh labels senders,
      freshState blankSlotZero (fun _ => 0) (65 * vchiqSlotSize) = .ok fresh ∧
      Run SenderStep ⟨fresh, fun _ => .idle⟩ labels senders ∧
      ¬PublishedComplete labels senders := by
  obtain ⟨fresh, added, admitted, second, reserved, both, published, first, last, made, grown,
    admission, admission', reservation, cursor, reservation', publication, txPos, header⟩ :=
    crossed_sections
  refine ⟨fresh, _, _, made,
    .snoc (.snoc (.snoc (.snoc (.snoc (.snoc .refl
      (.environment (add_service_undisturbed grown)))
      (.admitted 0 rfl admission))
      (.admitted 1 rfl admission'))
      (.reserved 0 rfl reservation))
      (.reserved 1 rfl reservation'))
      (.published 1 rfl publication), ?_⟩
  intro complete
  have visible : shortCall.msgStride - shortCall.msgStride < 2 * shortCall.msgStride := by
    decide
  have stored := complete
    ⟨shortCall, first, reserved.slotState.localTxPos - shortCall.msgStride⟩
    (by simp [reservedRegions, SenderLabel.region])
    (by rw [publishedPos, txPos, cursor]; exact visible)
  have different : (⟨0, 0⟩ : SlotMessageHeader) ≠ shortCall.message.header := by decide
  exact different (header.symm.trans stored.1)

end RuspiroVchiq.Transmit
