import RuspiroVchiq.Transmit.Reservation
import RuspiroVchiq.Lib.LabelledRun

/-!
# Sequential transmit runs

Calls of `queue_message` one after another from a freshly initialised state.
Between two calls everything else may move: services are added, opened and
closed, quotas are set up, the receive cursor advances and the VideoCore writes
its own slots. Such moves are one environment step; it leaves the slave part of
SlotZero, the ARM slots and the transmit cursor alone.
-/

namespace RuspiroVchiq.Transmit

open RuspiroVchiq.Config
open RuspiroVchiq.Shared
open RuspiroVchiq.Vchiq
open RuspiroVchiq.Lib.ByteMemory
open RuspiroVchiq.Lib.LabelledRun

set_option autoImplicit false

/-- What every step other than a transmission leaves unchanged. -/
structure Undisturbed (before after : State) : Prop where
  slave : after.slotState.slotZero.slave = before.slotState.slotZero.slave
  masterSync : after.slotState.slotZero.master.slotSync =
    before.slotState.slotZero.master.slotSync
  masterFirst : after.slotState.slotZero.master.slotFirst =
    before.slotState.slotZero.master.slotFirst
  masterLast : after.slotState.slotZero.master.slotLast =
    before.slotState.slotZero.master.slotLast
  available : after.slotQueueAvailable = before.slotQueueAvailable
  length : after.slotState.slotData.len = before.slotState.slotData.len
  memory : ∀ address,
    before.slotState.slotZero.slave.slotFirst * vchiqSlotSize ≤ address →
    address < (before.slotState.slotZero.slave.slotLast + 1) * vchiqSlotSize →
      after.slotState.slotData.inner address = before.slotState.slotData.inner address
  txData : after.slotState.txData = before.slotState.txData
  localTxPos : after.slotState.localTxPos = before.slotState.localTxPos

/-- A region handed out by `reserve_space`, with the stream position it starts
at and the call it was reserved for. -/
structure Region where
  call : QueueCall
  position : SlotPosition
  start : Nat

inductive TransmitLabel where
  | queued (region : Region)
  | rejected (call : QueueCall)
  | environment

/-- One step of a sequential run. A call that panics or blocks makes no further
step. -/
inductive TransmitStep : State → TransmitLabel → State → Prop where
  | queued {before admitted reserved after : State} {call : QueueCall}
      {msgType : MessageType} {position : SlotPosition}
      (admission : admitMessage before call = (.ok msgType, admitted))
      (reservation : reserveSpace admitted call.msgStride = .ok (position, reserved))
      (publication : storeAndPublish reserved call msgType position = .ok after) :
      TransmitStep before
        (.queued ⟨call, position, reserved.slotState.localTxPos - call.msgStride⟩) after
  | rejected {before after : State} {call : QueueCall} {error : VchiqError}
      (admission : admitMessage before call = (.error (.error error), after)) :
      TransmitStep before (.rejected call) after
  | environment {before after : State} (undisturbed : Undisturbed before after) :
      TransmitStep before .environment after

/-- The queued steps are exactly the successful calls of `queue_message`. -/
theorem queue_message_ok_iff (before after : State) (call : QueueCall) :
    queueMessage before call = (.ok (), after) ↔
      ∃ position start, TransmitStep before (.queued ⟨call, position, start⟩) after := by
  rw [queue_message_sections]
  constructor
  · rintro ⟨msgType, admitted, position, reserved, admission, reservation, publication⟩
    exact ⟨_, _, .queued admission reservation publication⟩
  · rintro ⟨position, start, step⟩
    cases step with
    | queued admission reservation publication =>
        exact ⟨_, _, _, _, admission, reservation, publication⟩

/-- Every queued message fits into a slot. -/
def StrideFits (_ : State) : TransmitLabel → Prop
  | .queued region => region.call.msgStride ≤ vchiqSlotSize
  | _ => True

def TransmitLabel.region : TransmitLabel → Option Region
  | .queued region => some region
  | _ => none

def regions (labels : List TransmitLabel) : List Region :=
  labels.filterMap TransmitLabel.region

theorem fresh_state_spec {raw slotZero : SlotZero} {memory : Memory}
    {totalMemory numSlots : Nat} {state : State}
    (made : freshState raw memory totalMemory = .ok state)
    (initialized : initializeSlotZero raw totalMemory = .ok (slotZero, numSlots))
    (upper : numSlots ≤ vchiqMaxSlots) :
    ReservationInvariant numSlots state ∧ state.slotState.localTxPos = 0 ∧
      state.slotState.slotZero.slave.txPos.toNat = 0 := by
  obtain ⟨layout, txPos⟩ := initialize_layout initialized upper
  have created := made
  simp only [freshState, State.new, initialized, bind, Except.bind, pure, Except.pure,
    initializeState] at created
  split at created
  · simp at created
  · rename_i slotData stored
    have length : slotData.len = numSlots + vchiqSlotZeroSlots := store_message_len stored
    simp only [ne_eq, not_true_eq_false, if_false, Except.ok.injEq] at created
    subst created
    refine ⟨⟨layout, rfl, length, ?_, ?_, ?_, ?_⟩, rfl, congrArg UInt32.toNat txPos⟩
    · exact Nat.dvd_zero 8
    · exact Nat.zero_le _
    · simp
    · intro slotPos absent
      simp at absent

theorem Undisturbed.layout {before after : State} {numSlots : Nat}
    (undisturbed : Undisturbed before after)
    (layout : SlotLayout before.slotState.slotZero numSlots) :
    SlotLayout after.slotState.slotZero numSlots := by
  have slave := undisturbed.slave
  exact ⟨layout.lower, layout.upper, undisturbed.masterSync.trans layout.masterSync,
    undisturbed.masterFirst.trans layout.masterFirst,
    undisturbed.masterLast.trans layout.masterLast, slave ▸ layout.slaveSync,
    slave ▸ layout.slaveFirst, slave ▸ layout.slaveLast, slave ▸ layout.queue⟩

theorem Undisturbed.reservation {before after : State} {numSlots : Nat}
    (undisturbed : Undisturbed before after) (inv : ReservationInvariant numSlots before) :
    ReservationInvariant numSlots after :=
  inv.congr (undisturbed.layout inv.layout) undisturbed.available undisturbed.length
    undisturbed.localTxPos undisturbed.txData

/-- The environment leaves the bytes of the transmit stream alone. -/
theorem Undisturbed.stream_memory {before after : State} {numSlots : Nat}
    (undisturbed : Undisturbed before after) (inv : ReservationInvariant numSlots before) :
    ∀ address, streamAddress before 0 ≤ address →
      address < streamAddress before before.slotState.localTxPos →
        after.slotState.slotData.inner address = before.slotState.slotData.inner address := by
  intro address lower upper
  have bounded := inv.bounded
  rw [inv.available] at bounded
  have order : before.slotState.slotZero.slave.slotFirst ≤
      before.slotState.slotZero.slave.slotLast := by
    rw [inv.layout.slaveFirst, inv.layout.slaveLast]
    have atLeast := inv.layout.lower
    omega
  apply undisturbed.memory
  · simpa only [streamAddress, slotBase, Nat.add_zero] using lower
  · simp only [streamAddress, slotBase, vchiqSlotSize] at upper bounded ⊢
    omega

/-- What a queued step does, in terms of the reservation specification: it
reserves at `reserveStart`, stores the message there and publishes. -/
theorem queued_step_spec {before after : State} {region : Region} {numSlots : Nat}
    (step : TransmitStep before (.queued region) after)
    (inv : ReservationInvariant numSlots before)
    (fits : region.call.msgStride ≤ vchiqSlotSize) :
    region.start = reserveStart before region.call.msgStride ∧
      region.position = streamPosition before region.start ∧
      region.start < before.slotQueueAvailable * vchiqSlotSize ∧
      ∃ admitted msgType quotaState,
        (∃ quotas, admitted =
          { before with quotaState := { before.quotaState with serviceQuotas := quotas } }) ∧
        msgTypeFromId region.call.msgId = some msgType ∧
        after = publishedState (reservedState admitted region.call.msgStride) region.call
          msgType region.position quotaState := by
  cases step with
  | @queued admitted reserved _ call msgType position admission reservation publication =>
      obtain ⟨quotas, _, frame⟩ := admit_frame admission
      have admittedInv := inv.admitted admission
      have stride := valid_stride call fits
      obtain ⟨below, rfl, rfl⟩ := reserve_space_ok admittedInv stride reservation
      have started : 0 < (reservedState admitted call.msgStride).slotState.localTxPos :=
        Nat.lt_of_lt_of_le stride.positive (Nat.le_add_left _ _)
      obtain ⟨quotaState, published⟩ :=
        published_at_stream (reserved_invariant admittedInv stride below) below started
          publication
      -- admission changed nothing the positions are computed from
      have startEq : reserveStart admitted call.msgStride =
          reserveStart before call.msgStride := by rw [frame]; rfl
      have cursor : (reservedState admitted call.msgStride).slotState.localTxPos -
          call.msgStride = reserveStart before call.msgStride := by
        rw [← startEq]
        exact Nat.add_sub_cancel _ _
      have position : streamPosition admitted (reserveStart admitted call.msgStride) =
          streamPosition before (reserveStart before call.msgStride) := by rw [frame]; rfl
      have available : admitted.slotQueueAvailable = before.slotQueueAvailable := by rw [frame]
      refine ⟨cursor, ?_, ?_, admitted, msgType, quotaState, ⟨quotas, frame⟩,
        (admitted_cases admission).1, published⟩
      · simp only [cursor]
        exact position
      · simp only [cursor]
        rwa [available, startEq] at below

structure SequentialInvariant (numSlots : Nat) (labels : List TransmitLabel)
    (state : State) : Prop where
  reservation : ReservationInvariant numSlots state
  published : state.slotState.slotZero.slave.txPos.toNat = state.slotState.localTxPos
  placed : ∀ region ∈ regions labels,
    region.position = streamPosition state region.start ∧
      region.start % vchiqSlotSize + region.call.msgStride ≤ vchiqSlotSize ∧
      region.start + region.call.msgStride ≤ state.slotState.localTxPos
  increasing : (regions labels).Pairwise fun earlier later =>
    earlier.start + earlier.call.msgStride ≤ later.start

theorem regions_snoc (labels : List TransmitLabel) (label : TransmitLabel) :
    regions (labels ++ [label]) = regions labels ++ label.region.toList := by
  cases label <;> simp [regions, TransmitLabel.region]

/-- Steps that hand out no region keep the invariant as long as the cursor and
the slot descriptor stay. -/
theorem SequentialInvariant.frame {numSlots : Nat} {labels : List TransmitLabel}
    {label : TransmitLabel} {before after : State}
    (inv : SequentialInvariant numSlots labels before)
    (reservation : ReservationInvariant numSlots after)
    (slave : after.slotState.slotZero.slave = before.slotState.slotZero.slave)
    (cursor : after.slotState.localTxPos = before.slotState.localTxPos)
    (noRegion : label.region = none) :
    SequentialInvariant numSlots (labels ++ [label]) after := by
  have same : regions (labels ++ [label]) = regions labels := by
    rw [regions_snoc, noRegion]
    simp
  refine ⟨reservation, ?_, ?_, ?_⟩
  · rw [slave, cursor]
    exact inv.published
  · intro region member
    rw [same] at member
    rw [streamPosition, slotBase, slave, cursor]
    exact inv.placed region member
  · rw [same]
    exact inv.increasing

theorem sequential_invariant_step {numSlots : Nat} {labels : List TransmitLabel}
    {label : TransmitLabel} {before after : State}
    (inv : SequentialInvariant numSlots labels before)
    (step : Guarded TransmitStep StrideFits before label after) :
    SequentialInvariant numSlots (labels ++ [label]) after := by
  obtain ⟨move, fits⟩ := step
  cases label with
  | environment =>
      cases move with
      | environment undisturbed =>
          exact inv.frame (undisturbed.reservation inv.reservation) undisturbed.slave
            undisturbed.localTxPos rfl
  | rejected call =>
      cases move with
      | rejected admission =>
          obtain ⟨quotas, _, frame⟩ := admit_frame admission
          exact inv.frame (inv.reservation.admitted admission) (by rw [frame]) (by rw [frame])
            rfl
  | queued region =>
      have reservation := inv.reservation
      obtain ⟨start, position, below, admitted, msgType, quotaState, ⟨quotas, frame⟩, _, result⟩ :=
        queued_step_spec move reservation fits
      have stride := valid_stride region.call fits
      obtain ⟨_, cursorLe, inSlot⟩ := reserve_start_facts reservation stride
      rw [← start] at cursorLe inSlot
      have startEq : reserveStart admitted region.call.msgStride = region.start := by
        rw [frame, start]
        rfl
      have admittedInv : ReservationInvariant numSlots admitted := by
        rw [frame]
        exact reservation.congr reservation.layout rfl rfl rfl rfl
      have belowAdmitted : reserveStart admitted region.call.msgStride <
          admitted.slotQueueAvailable * vchiqSlotSize := by
        rw [startEq, frame]
        exact below
      have nextInv : ReservationInvariant numSlots after := by
        rw [result]
        exact published_invariant _ _ _ _ (reserved_invariant admittedInv stride belowAdmitted)
      have cursor : after.slotState.localTxPos = region.start + region.call.msgStride := by
        rw [result, ← startEq]
        rfl
      have base : slotBase after = slotBase before := by
        rw [result, frame]
        rfl
      refine ⟨nextInv, ?_, ?_, ?_⟩
      · have txPos : after.slotState.slotZero.slave.txPos.toNat =
            asU32 after.slotState.localTxPos := by
          rw [result]
          exact UInt32.toNat_ofNat'
        rw [txPos, as_u32_of_lt nextInv.cursor_lt]
      · intro other member
        rw [regions_snoc, List.mem_append] at member
        rw [streamPosition, base]
        rcases member with earlier | last
        · obtain ⟨otherPosition, otherFits, otherEnd⟩ := inv.placed other earlier
          refine ⟨otherPosition, otherFits, ?_⟩
          rw [cursor]
          omega
        · simp only [TransmitLabel.region, Option.toList_some, List.mem_singleton] at last
          subst last
          exact ⟨position, inSlot, by rw [cursor]⟩
      · rw [regions_snoc, List.pairwise_append]
        refine ⟨inv.increasing, ?_, ?_⟩
        · exact List.pairwise_singleton _ _
        · intro earlier member last lastMember
          simp only [TransmitLabel.region, Option.toList_some, List.mem_singleton] at lastMember
          subst lastMember
          have finish := (inv.placed earlier member).2.2
          omega

/-- A call whose identifier carries a message type and whose service has a quota
record, as every caller in the crate passes. -/
def WellFormedCall (state : State) (call : QueueCall) : Prop :=
  (msgTypeFromId call.msgId).isSome ∧
    ∀ service, call.service.bind state.srvState.service = some service →
      service.localport.toNat < state.quotaState.serviceQuotas.length

theorem quota_loop_no_panic (service : Service) (quota : ServiceQuota) (txEndIndex : Int)
    (quotaEvent : Nat) (panic : Panic) :
    (quotaLoop service quota txEndIndex quotaEvent).1 ≠ .error (.panic panic) := by
  induction quotaEvent with
  | zero =>
      unfold quotaLoop
      split_ifs <;> simp
  | succ quotaEvent ih =>
      unfold quotaLoop
      split_ifs
      · simp
      · simp
      · exact ih
      · simp

theorem admit_no_panic {state : State} {call : QueueCall} (wellFormed : WellFormedCall state call)
    (panic : Panic) : (admitMessage state call).1 ≠ .error (.panic panic) := by
  obtain ⟨hasType, quotaBound⟩ := wellFormed
  obtain ⟨msgType, idType⟩ := Option.isSome_iff_exists.mp hasType
  simp only [admitMessage, idType]
  split_ifs with isData
  · have noPanic : (checkQuota state call).1 ≠ .error (.panic panic) := by
      unfold checkQuota
      cases found : call.service.bind state.srvState.service with
      | none => simp
      | some service =>
          have bound := quotaBound service found
          simp only [List.getElem?_eq_getElem bound]
          split_ifs
          · simp
          · simp
          · exact quota_loop_no_panic _ _ _ _ panic
    cases outcome : checkQuota state call with
    | mk result admitted =>
        rw [outcome] at noPanic
        cases result with
        | error stop => simpa using noPanic
        | ok _ => simp
  · simp

/-- Behind a successful admission a transmission only stops when the slots of the
ARM are used up. -/
theorem transmit_panic {numSlots : Nat} {state admitted : State} {call : QueueCall}
    {msgType : MessageType} {panic : Panic} (inv : ReservationInvariant numSlots state)
    (fits : call.msgStride ≤ vchiqSlotSize)
    (admission : admitMessage state call = (.ok msgType, admitted))
    (failed : transmit admitted call msgType = .error panic) : panic = .outOfSlots := by
  have admittedInv := inv.admitted admission
  have stride := valid_stride call fits
  rcases reserve_space_spec admittedInv stride with ⟨_, stopped⟩ | ⟨below, succeeded⟩
  · simp only [transmit, bind, Except.bind, stopped, Except.error.injEq] at failed
    exact failed.symm
  · simp only [transmit, bind, Except.bind, succeeded] at failed
    have started : 0 < (reservedState admitted call.msgStride).slotState.localTxPos :=
      Nat.lt_of_lt_of_le stride.positive (Nat.le_add_left _ _)
    have published : storeAndPublish (reservedState admitted call.msgStride) call msgType
        (streamPosition admitted (reserveStart admitted call.msgStride)) = _ :=
      store_and_publish_stream (reserved_invariant admittedInv stride below) call msgType below
        started
    obtain ⟨quotaState, account⟩ :=
      account_of_admitted admission (reservedState admitted call.msgStride) rfl rfl
    rw [published, account] at failed
    simp [Except.map] at failed

/-- The slot layout and transmit discipline of a reachable state. -/
structure SlotDiscipline (numSlots : Nat) (labels : List TransmitLabel) (state : State) :
    Prop where
  partition : slotPartition state.slotState.slotZero =
    List.range (vchiqSlotZeroSlots + numSlots)
  aligned : 8 ∣ state.slotState.localTxPos
  published : state.slotState.slotZero.slave.txPos.toNat = state.slotState.localTxPos
  bounded : state.slotState.localTxPos ≤ state.slotQueueAvailable * vchiqSlotSize
  inside : ∀ region ∈ regions labels,
    region.start / vchiqSlotSize < state.slotQueueAvailable ∧
      state.slotState.slotZero.slave.slotQueue (queueIndex (region.start / vchiqSlotSize)) =
        region.position.index ∧
      state.slotState.slotZero.slave.slotFirst ≤ region.position.index ∧
      region.position.index ≤ state.slotState.slotZero.slave.slotLast ∧
      region.position.offset + region.call.msgStride ≤ vchiqSlotSize
  disjoint : (regions labels).Pairwise fun earlier later => ∀ address,
    slotAddress earlier.position ≤ address →
    address < slotAddress earlier.position + earlier.call.msgStride →
      address < slotAddress later.position ∨
        slotAddress later.position + later.call.msgStride ≤ address
  increasing : (regions labels).Pairwise fun earlier later =>
    earlier.start + earlier.call.msgStride ≤ later.start
  unused : state.slotState.txData = none ↔ state.slotState.localTxPos = 0
  reserveAborts : ∀ call panic, QueueCall.msgStride call ≤ vchiqSlotSize →
    reserveSpace state call.msgStride = .error panic → panic = .outOfSlots
  queueAborts : ∀ call panic, WellFormedCall state call → call.msgStride ≤ vchiqSlotSize →
    (queueMessage state call).1 = .error (.panic panic) → panic = .outOfSlots

theorem slot_discipline_of_invariant {numSlots : Nat} {labels : List TransmitLabel}
    {state : State} (inv : SequentialInvariant numSlots labels state) :
    SlotDiscipline numSlots labels state where
  partition := slot_partition_eq_range inv.reservation.layout
  aligned := inv.reservation.aligned
  published := inv.published
  bounded := inv.reservation.bounded
  inside := by
    intro region member
    obtain ⟨position, inSlot, finish⟩ := inv.placed region member
    have positive := calc_msg_stride_pos region.call.msgSize
    have bounded := inv.reservation.bounded
    have below : region.start / vchiqSlotSize < state.slotQueueAvailable := by
      apply Nat.div_lt_of_lt_mul
      rw [Nat.mul_comm]
      simp only [QueueCall.msgStride] at finish
      omega
    have bounds := inv.reservation.slot_bounds _ below
    refine ⟨below, ?_, ?_, ?_, ?_⟩
    · rw [position]
      exact (inv.reservation.queue_entry _ below).2
    · rw [position]
      exact Nat.le_add_left _ _
    · rw [position]
      exact bounds.2.2
    · rw [position]
      exact inSlot
  disjoint := by
    have ordered := inv.increasing
    refine List.Pairwise.imp_of_mem ?_ ordered
    intro earlier later earlierMember laterMember before address lower upper
    rw [(inv.placed earlier earlierMember).1, slot_address_stream_position] at lower upper
    rw [(inv.placed later laterMember).1, slot_address_stream_position]
    simp only [streamAddress] at *
    omega
  increasing := inv.increasing
  unused := inv.reservation.unused
  reserveAborts := by
    intro call panic fits failed
    rcases reserve_space_spec inv.reservation (valid_stride call fits) with
      ⟨_, stopped⟩ | ⟨_, succeeded⟩
    · rw [stopped] at failed
      exact (Except.error.inj failed).symm
    · rw [succeeded] at failed
      simp at failed
  queueAborts := by
    intro call panic wellFormed fits failed
    have noPanic := admit_no_panic wellFormed panic
    unfold queueMessage at failed
    cases admission : admitMessage state call with
    | mk result admitted =>
        rw [admission] at noPanic failed
        cases result with
        | error stop =>
            simp only [ne_eq, Except.error.injEq] at failed noPanic
            exact absurd failed noPanic
        | ok msgType =>
            cases sent : transmit admitted call msgType with
            | error stopped =>
                simp only [sent, Except.error.injEq, Stop.panic.injEq] at failed
                rw [← failed]
                exact transmit_panic inv.reservation fits admission sent
            | ok after => simp [sent] at failed

/-- For every memory size that yields an admissible number of data slots, every
state a sequential transmit run reaches keeps the slot discipline. The lower
bound of four slots is asserted by the initialisation itself. -/
theorem transmit_run_keeps_slot_discipline {raw slotZero : SlotZero} {memory : Memory}
    {totalMemory numSlots : Nat} {fresh state : State} {labels : List TransmitLabel}
    (initialized : initializeSlotZero raw totalMemory = .ok (slotZero, numSlots))
    (upper : numSlots ≤ vchiqMaxSlots)
    (made : freshState raw memory totalMemory = .ok fresh)
    (run : Run (Guarded TransmitStep StrideFits) fresh labels state) :
    SlotDiscipline numSlots labels state := by
  obtain ⟨reservation, cursor, txPos⟩ := fresh_state_spec made initialized upper
  have initial : SequentialInvariant numSlots [] fresh :=
    ⟨reservation, by rw [txPos, cursor], by simp [regions], by simp [regions]⟩
  apply slot_discipline_of_invariant
  exact run.invariant (SequentialInvariant numSlots) initial
    fun _ _ _ _ _ inv move => sequential_invariant_step inv move

/-- Adding a service does not touch the transmit side. -/
theorem add_service_undisturbed {before after : State} {params : ServiceParams}
    {handle : ServiceHandle} (added : before.addService params handle = .ok after) :
    Undisturbed before after := by
  simp only [State.addService] at added
  split at added
  · simp at added
  · split_ifs at added
    simp only [Except.ok.injEq] at added
    subst added
    exact ⟨rfl, rfl, rfl, rfl, rfl, rfl, fun _ _ _ => rfl, rfl, rfl⟩

def sampleParams : ServiceParams where
  fourcc := 0x6d6d616c
  callback := some .serviceCallback
  userdata := ServiceUser.new (some 1) true
  version := 1
  versionMin := 1

/-- A DATA message with a payload of four bytes. -/
def shortCall : QueueCall where
  service := some 0
  msgId := makeMsgId .data 0 75
  context := some { alignLog := 2, bytes := [1, 2, 3, 4], aligned := ⟨1, rfl⟩ }

/-- A DATA message that takes a whole slot. -/
def fullSlotCall : QueueCall where
  service := some 0
  msgId := makeMsgId .data 0 75
  context := some { alignLog := 0, bytes := List.replicate 4088 0, aligned := one_dvd _ }

set_option maxRecDepth 20000 in
/-- CONNECT and, behind an added service, a message that does not fit into the rest of the
slot. -/
theorem full_slot_queued :
    ∃ fresh connected added state,
      freshState blankSlotZero (fun _ => 0) (65 * vchiqSlotSize) = .ok fresh ∧
      queueMessage fresh connectCall = (.ok (), connected) ∧
      connected.addService sampleParams 4096 = .ok added ∧
      queueMessage added fullSlotCall = (.ok (), state) ∧
      state.slotState.localTxPos = 2 * vchiqSlotSize :=
  ⟨_, _, _, _, rfl, rfl, rfl, rfl, rfl⟩

theorem full_slot_fits : fullSlotCall.msgStride ≤ vchiqSlotSize := by
  have size : fullSlotCall.msgSize = 4088 := List.length_replicate
  rw [QueueCall.msgStride, size]
  decide

/-- CONNECT is queued and a service is added behind it. -/
theorem connect_run (guard : State → TransmitLabel → Prop) {fresh connected added : State}
    (sent : queueMessage fresh connectCall = (.ok (), connected))
    (grown : connected.addService sampleParams 4096 = .ok added)
    (allowed : ∀ position start, guard fresh (.queued ⟨connectCall, position, start⟩))
    (quiet : guard connected .environment) :
    ∃ position start, Run (Guarded TransmitStep guard) fresh
      [.queued ⟨connectCall, position, start⟩, .environment] added := by
  obtain ⟨position, start, step⟩ := (queue_message_ok_iff fresh connected connectCall).mp sent
  exact ⟨position, start, (Run.refl.snoc ⟨step, allowed position start⟩).snoc
    ⟨.environment (add_service_undisturbed grown), quiet⟩⟩

/-- The discipline behind the two messages and the padding between them. -/
theorem padded_run_keeps_slot_discipline :
    ∃ first second state, state.slotState.localTxPos = 2 * vchiqSlotSize ∧
      first.call = connectCall ∧ second.call = fullSlotCall ∧
      SlotDiscipline 64 [.queued first, .environment, .queued second] state := by
  obtain ⟨fresh, connected, added, state, made, sent, grown, full, cursor⟩ := full_slot_queued
  have connectFits : connectCall.msgStride ≤ vchiqSlotSize := by decide
  obtain ⟨position, start, run⟩ :=
    connect_run StrideFits sent grown (fun _ _ => connectFits) trivial
  obtain ⟨position', start', dataStep⟩ :=
    (queue_message_ok_iff added state fullSlotCall).mp full
  exact ⟨⟨connectCall, position, start⟩, ⟨fullSlotCall, position', start'⟩, state, cursor, rfl,
    rfl, transmit_run_keeps_slot_discipline rfl (by decide) made
      (run.snoc ⟨dataStep, full_slot_fits⟩)⟩

end RuspiroVchiq.Transmit
