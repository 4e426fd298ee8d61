import RuspiroVchiq.Transmit.Concurrent
import RuspiroVchiq.Quota.Accounting

/-!
# Quotas in sequential runs

Services are added and messages are queued one call after another, from a freshly
initialised state. A call that would wait for a quota makes no further step. The
two use counters then count the slots that hold DATA messages: of all services,
and of the one service the record belongs to. The message counter of a service
is not moved by any section.
-/

namespace RuspiroVchiq.Quota

open RuspiroVchiq.Config
open RuspiroVchiq.Shared
open RuspiroVchiq.Vchiq
open RuspiroVchiq.Transmit
open RuspiroVchiq.Lib.DistinctCount
open RuspiroVchiq.Lib.LabelledRun

set_option autoImplicit false

/-- A queued message comes with the slot queue index that was predicted for it. -/
inductive QuotaLabel where
  | queued (region : Region) (predicted : Int)
  | rejected (call : QueueCall)
  | added

def QuotaLabel.transmit : QuotaLabel → TransmitLabel
  | .queued region _ => .queued region
  | .rejected call => .rejected call
  | .added => .environment

inductive QuotaStep : State → QuotaLabel → State → Prop where
  | queued {before after : State} {region : Region}
      (move : TransmitStep before (.queued region) after) :
      QuotaStep before (.queued region (predictedEnd before region.call)) after
  | rejected {before after : State} {call : QueueCall}
      (move : TransmitStep before (.rejected call) after) :
      QuotaStep before (.rejected call) after
  | added {before after : State} {params : ServiceParams} {handle : ServiceHandle}
      (addition : before.addService params handle = .ok after) :
      QuotaStep before .added after

/-- Every queued message fits into a slot. -/
def FitsSlot (_ : State) : QuotaLabel → Prop
  | .queued region _ => region.call.msgStride ≤ vchiqSlotSize
  | _ => True

/-- The slot queue index of the last byte of a region. -/
def endIndex (region : Region) : Int :=
  slotQueueIndexFromPos (region.start + region.call.msgStride - 1)

def QuotaLabel.dataRegion : QuotaLabel → Option Region
  | .queued region _ =>
      if msgTypeFromId region.call.msgId = some .data then some region else none
  | _ => none

/-- The DATA messages stored so far. -/
def dataRegions (labels : List QuotaLabel) : List Region :=
  labels.filterMap QuotaLabel.dataRegion

/-- Those of the service with the local port. -/
def serviceRegions (labels : List QuotaLabel) (port : ServiceRef) : List Region :=
  (dataRegions labels).filter fun region => region.call.service = some port

def dataIndices (labels : List QuotaLabel) : List Int := (dataRegions labels).map endIndex

def serviceIndices (labels : List QuotaLabel) (port : ServiceRef) : List Int :=
  (serviceRegions labels port).map endIndex

theorem data_regions_snoc (labels : List QuotaLabel) (label : QuotaLabel) :
    dataRegions (labels ++ [label]) = dataRegions labels ++ label.dataRegion.toList := by
  cases dataRegion : label.dataRegion <;> simp [dataRegions, dataRegion]

/-- A step that stores no DATA message. -/
theorem indices_quiet (labels : List QuotaLabel) {label : QuotaLabel}
    (quiet : label.dataRegion = none) :
    dataIndices (labels ++ [label]) = dataIndices labels ∧
      ∀ port, serviceRegions (labels ++ [label]) port = serviceRegions labels port := by
  have same : dataRegions (labels ++ [label]) = dataRegions labels := by
    rw [data_regions_snoc, quiet]
    simp
  constructor
  · rw [dataIndices, same, dataIndices]
  · intro port
    rw [serviceRegions, same, serviceRegions]

theorem indices_data (labels : List QuotaLabel) {label : QuotaLabel} {region : Region}
    (stored : label.dataRegion = some region) :
    dataIndices (labels ++ [label]) = dataIndices labels ++ [endIndex region] ∧
      ∀ port, serviceRegions (labels ++ [label]) port =
        if region.call.service = some port then serviceRegions labels port ++ [region]
        else serviceRegions labels port := by
  have more : dataRegions (labels ++ [label]) = dataRegions labels ++ [region] := by
    rw [data_regions_snoc, stored]
    rfl
  constructor
  · rw [dataIndices, more, dataIndices, List.map_append, List.map_singleton]
  · intro port
    rw [serviceRegions, more, List.filter_append, serviceRegions]
    by_cases own : region.call.service = some port
    · rw [if_pos own]
      simp [own]
    · rw [if_neg own]
      simp [own]

/-- The slot queue index the next message starts in, unless it needs padding. -/
def cursorIndex (state : State) : Int := slotQueueIndexFromPos state.slotState.localTxPos

/-- Padding included, the predicted slot is the one the message goes to. -/
theorem predicted_end_eq {numSlots : Nat} {state : State} {call : QueueCall}
    (inv : ReservationInvariant numSlots state) (fits : call.msgStride ≤ vchiqSlotSize) :
    slotQueueIndexFromPos (state.slotState.localTxPos + call.msgStride - 1) =
        slotQueueIndexFromPos (reserveStart state call.msgStride) ∧
      slotQueueIndexFromPos (reserveStart state call.msgStride + call.msgStride - 1) =
        slotQueueIndexFromPos (reserveStart state call.msgStride) ∧
      state.slotState.localTxPos ≤ reserveStart state call.msgStride := by
  have stride := valid_stride call fits
  have positive := stride.positive
  obtain ⟨_, advanced, inSlot⟩ := reserve_start_facts inv stride
  simp only [slotQueueIndexFromPos, vchiqSlotSize] at *
  by_cases padding : call.msgStride > slotSpace state
  · have started := started_of_padding stride padding
    rw [reserve_start_padded padding] at *
    simp only [slotSpace, vchiqSlotSize] at *
    omega
  · rw [reserve_start_fits (Nat.not_lt.mp padding)] at *
    omega

/-- The sections behind a queued message. Reserving moves no quota. -/
theorem queued_sections {before after : State} {region : Region}
    (move : TransmitStep before (.queued region) after) :
    ∃ msgType admitted reserved, admitMessage before region.call = (.ok msgType, admitted) ∧
      reserveSpace admitted region.call.msgStride = .ok (region.position, reserved) ∧
      QuotaKept before reserved ∧ Published reserved after region.call msgType ∧
      region.start = reserved.slotState.localTxPos - region.call.msgStride := by
  cases move with
  | @queued admitted reserved _ call msgType position admission reservation publication =>
      refine ⟨msgType, admitted, reserved, admission, reservation, ?_,
        published_quota publication, rfl⟩
      have kept := admit_kept admission
      obtain ⟨_, _, rfl⟩ := reserve_space_frame reservation
      exact ⟨kept.usage, kept.previousDataIndex, kept.dataUseCount, kept.dataQuota,
        kept.srvState⟩

/-- The cursor stands right behind the region that was just reserved. -/
theorem reserved_cursor {numSlots : Nat} {state reserved : State} {call : QueueCall}
    {position : SlotPosition} (inv : ReservationInvariant numSlots state)
    (fits : call.msgStride ≤ vchiqSlotSize)
    (reservation : reserveSpace state call.msgStride = .ok (position, reserved)) :
    call.msgStride ≤ reserved.slotState.localTxPos := by
  obtain ⟨_, _, rfl⟩ := reserve_space_ok inv (valid_stride call fits) reservation
  exact Nat.le_add_left _ _

/-- The counters of all services and of each service count slots. An entry without a
service has no DATA message and an unused record. -/
structure Counted (labels : List QuotaLabel) (state : State) : Prop where
  data : LatestCount (dataIndices labels) (cursorIndex state)
    state.quotaState.previousDataIndex state.quotaState.dataUseCount
  dataBound : state.quotaState.dataUseCount ≤ state.quotaState.dataQuota
  services : ∀ port service quota, state.srvState.service port = some service →
    usage state port = some quota →
      LatestCount (serviceIndices labels port) (cursorIndex state) quota.previousTxIndex
          quota.slotUseCount ∧
        quota.slotUseCount ≤ quota.slotQuota
  vacant : ∀ port, state.srvState.service port = none →
    serviceRegions labels port = [] ∧
      ∀ quota, usage state port = some quota → quota.slotUseCount = 0

/-- The same entries of the table are taken. -/
def SameEntries (before after : State) : Prop :=
  ∀ port, (after.srvState.service port).map Service.localport =
    (before.srvState.service port).map Service.localport

theorem SameEntries.older {before after : State} (entries : SameEntries before after)
    {port : ServiceRef} {service : Service}
    (stored : after.srvState.service port = some service) :
    ∃ old, before.srvState.service port = some old := by
  have same := entries port
  rw [stored, Option.map_some] at same
  obtain ⟨old, found, _⟩ := Option.map_eq_some_iff.mp same.symm
  exact ⟨old, found⟩

theorem SameEntries.absent {before after : State} (entries : SameEntries before after)
    {port : ServiceRef} (absent : after.srvState.service port = none) :
    before.srvState.service port = none := by
  have same := entries port
  rw [absent, Option.map_none] at same
  exact Option.map_eq_none_iff.mp same.symm

/-- A step that stores no DATA message and leaves the counters alone. -/
theorem Counted.quiet {labels : List QuotaLabel} {label : QuotaLabel} {before after : State}
    (counted : Counted labels before) (quiet : label.dataRegion = none)
    (entries : SameEntries before after) (sameUsage : usage after = usage before)
    (previous : after.quotaState.previousDataIndex = before.quotaState.previousDataIndex)
    (count : after.quotaState.dataUseCount = before.quotaState.dataUseCount)
    (quota : after.quotaState.dataQuota = before.quotaState.dataQuota)
    (advanced : cursorIndex before ≤ cursorIndex after) :
    Counted (labels ++ [label]) after := by
  obtain ⟨sameData, sameRegions⟩ := indices_quiet labels quiet
  constructor
  · rw [sameData, previous, count]
    exact counted.data.raise advanced
  · rw [count, quota]
    exact counted.dataBound
  · intro port service record stored found
    obtain ⟨old, oldStored⟩ := entries.older stored
    rw [sameUsage] at found
    obtain ⟨exact', bounded⟩ := counted.services port old record oldStored found
    rw [serviceIndices, sameRegions]
    exact ⟨exact'.raise advanced, bounded⟩
  · intro port absent
    rw [sameRegions, sameUsage]
    exact counted.vacant port (entries.absent absent)

/-- A DATA message is accounted to the slot it was checked for. -/
theorem Counted.stored {labels : List QuotaLabel} {label : QuotaLabel} {before after : State}
    {region : Region} {reference : ServiceRef} {service : Service} {quota : ServiceQuota}
    (counted : Counted labels before) (stored : label.dataRegion = some region)
    (admitted : DataAdmitted before region.call (endIndex region) reference service quota)
    (accounted : DataAccounted before after.quotaState service quota (endIndex region))
    (port : service.localport.toNat = reference)
    (entries : SameEntries before after)
    (above : cursorIndex before ≤ endIndex region)
    (advanced : endIndex region ≤ cursorIndex after) :
    Counted (labels ++ [label]) after := by
  obtain ⟨moreData, moreRegions⟩ := indices_data labels stored
  have ownCount := counted.services reference service quota admitted.stored
    (port ▸ admitted.record)
  -- the message is of one service, and the records of the others stay
  have foreign : ∀ other, other ≠ reference → region.call.service ≠ some other := by
    intro other differs same
    rw [admitted.named] at same
    exact differs (Option.some.inj same).symm
  have elsewhere : ∀ other, other ≠ reference → usage after other = usage before other := by
    intro other differs
    exact accounted.others other (port ▸ differs)
  constructor
  · rw [moreData, accounted.previousDataIndex, accounted.dataUseCount]
    exact counted.data.push above advanced
  · rw [accounted.dataUseCount, accounted.dataQuota]
    exact raised_le_quota counted.dataBound admitted.dataQuota
  · intro other target record targetStored found
    by_cases own : other = reference
    · subst own
      have record' : usage after other = _ := port ▸ accounted.own
      rw [found, Option.some.injEq] at record'
      rw [serviceIndices, moreRegions, if_pos admitted.named, List.map_append,
        List.map_singleton, record']
      exact ⟨ownCount.1.push above advanced,
        raised_le_quota ownCount.2 admitted.slotQuota⟩
    · obtain ⟨old, oldStored⟩ := entries.older targetStored
      rw [elsewhere other own] at found
      obtain ⟨exact', bounded⟩ := counted.services other old record oldStored found
      rw [serviceIndices, moreRegions, if_neg (foreign other own)]
      exact ⟨exact'.raise (le_trans above advanced), bounded⟩
  · intro other absent
    have vacant := entries.absent absent
    have own : other ≠ reference := by
      rintro rfl
      rw [admitted.stored] at vacant
      simp at vacant
    obtain ⟨empty, unused⟩ := counted.vacant other vacant
    rw [moreRegions, if_neg (foreign other own)]
    refine ⟨empty, ?_⟩
    intro record found
    rw [elsewhere other own] at found
    exact unused record found

/-- The record of a new service starts below the slot its first message can go to. -/
theorem Counted.entered {labels : List QuotaLabel} {before after : State}
    {port : ServiceRef} {service : Service} (counted : Counted labels before)
    (entered : ServiceEntered before after port service) :
    Counted (labels ++ [.added]) after := by
  obtain ⟨sameData, sameRegions⟩ := indices_quiet labels
    (show QuotaLabel.added.dataRegion = none from rfl)
  have cursor : cursorIndex after = cursorIndex before := by
    rw [cursorIndex, entered.slots, cursorIndex]
  obtain ⟨empty, unused⟩ := counted.vacant port entered.vacant
  constructor
  · rw [sameData, cursor, entered.previousDataIndex, entered.dataUseCount]
    exact counted.data
  · rw [entered.dataUseCount, entered.dataQuota]
    exact counted.dataBound
  · intro other target record stored found
    rw [serviceIndices, sameRegions, cursor]
    by_cases own : other = port
    · subst own
      rw [entered.record] at found
      obtain ⟨old, oldFound, rfl⟩ := Option.map_eq_some_iff.mp found
      have zero := unused old oldFound
      simp only [empty, List.map_nil, initializeQuota, zero, if_true]
      refine ⟨latest_count_empty ?_, Nat.zero_le _⟩
      exact Int.sub_one_lt_of_le (le_refl _)
    · rw [entered.elsewhere other own] at stored
      rw [entered.others other own] at found
      exact counted.services other target record stored found
  · intro other absent
    have differs : other ≠ port := by
      rintro rfl
      rw [entered.here] at absent
      simp at absent
    rw [entered.elsewhere other differs] at absent
    rw [sameRegions, entered.others other differs]
    exact counted.vacant other absent

structure QuotaInvariant (numSlots : Nat) (labels : List QuotaLabel) (state : State) :
    Prop where
  sequential : SequentialInvariant numSlots (labels.map QuotaLabel.transmit) state
  shape : TableShape state
  counted : Counted labels state
  predicted : ∀ (region : Region) (index : Int), .queued region index ∈ labels →
    index = slotQueueIndexFromPos region.start

/-- No record of a fresh state was used. -/
theorem fresh_usage {state : State} (facts : FreshState state) {port : Nat}
    {quota : ServiceQuota} (found : usage state port = some quota) :
    quota = usageOf ServiceQuota.default := by
  rw [usage, facts.quotas, List.getElem?_replicate] at found
  split_ifs at found
  · exact (Option.some.inj found).symm
  · simp at found

theorem fresh_shape {state : State} (facts : FreshState state) : TableShape state := by
  have absent := fresh_service_absent facts
  constructor
  · rw [facts.services, List.length_replicate]
  · intro port bound
    rw [usage, facts.quotas, List.getElem?_replicate, if_pos bound]
    exact ⟨_, rfl⟩
  · intro reference _
    exact absent reference
  · intro reference service stored
    rw [absent] at stored
    simp at stored

theorem fresh_counted {state : State} (facts : FreshState state)
    (previous : state.quotaState.previousDataIndex = -1)
    (count : state.quotaState.dataUseCount = 0) : Counted [] state := by
  have absent := fresh_service_absent facts
  constructor
  · rw [previous, count]
    apply latest_count_empty
    exact Int.lt_of_lt_of_le (by decide) (Int.natCast_nonneg _)
  · rw [count]
    exact Nat.zero_le _
  · intro port service quota stored
    rw [absent] at stored
    simp at stored
  · intro port _
    refine ⟨rfl, ?_⟩
    intro quota found
    rw [fresh_usage facts found]
    rfl

theorem QuotaInvariant.queued {numSlots : Nat} {labels : List QuotaLabel}
    {before after : State} {region : Region} (inv : QuotaInvariant numSlots labels before)
    (move : TransmitStep before (.queued region) after)
    (fits : region.call.msgStride ≤ vchiqSlotSize) :
    QuotaInvariant numSlots
      (labels ++ [.queued region (predictedEnd before region.call)]) after := by
  have reservation := inv.sequential.reservation
  have start := (queued_step_spec move reservation fits).1
  obtain ⟨msgType, admitted, reserved, admission, reserving, kept, published, begins⟩ :=
    queued_sections move
  have cursor : reserved.slotState.localTxPos = region.start + region.call.msgStride := by
    rw [begins]
    exact (Nat.sub_add_cancel
      (reserved_cursor (reservation.admitted admission) fits reserving)).symm
  obtain ⟨predicted, inSlot, advanced⟩ := predicted_end_eq reservation fits
  rw [← start] at predicted inSlot advanced
  have idType := (admitted_cases admission).1
  have endEq : predictedEnd before region.call = endIndex region := by
    rw [predictedEnd, endIndex, predicted, inSlot]
  have above : cursorIndex before ≤ endIndex region := by
    rw [cursorIndex, endIndex, inSlot]
    exact Int.ofNat_le.mpr (Nat.div_le_div_right advanced)
  have below : endIndex region ≤ cursorIndex after := by
    rw [cursorIndex, published.cursor, cursor, endIndex]
    exact Int.ofNat_le.mpr (Nat.div_le_div_right (Nat.sub_le _ _))
  have entries : SameEntries before after := by
    intro port
    rw [published.port port, kept.srvState]
  constructor
  · rw [List.map_append, List.map_singleton]
    exact sequential_invariant_step inv.sequential ⟨move, fits⟩
  · exact published.shape (inv.shape.kept kept)
  · by_cases isData : msgType = .data
    · subst isData
      obtain ⟨reference, service, quota, admittedData⟩ := data_admitted admission
      rw [endEq] at admittedData
      have accounted := published.accounted (admittedData.kept kept)
      have index : (slotQueueIndexFromPos (reserved.slotState.localTxPos - 1) : Int) =
          endIndex region := by
        rw [cursor, endIndex]
      rw [index] at accounted
      have accountedHere := accounted.earlier kept
      have port := (inv.shape.ports reference service admittedData.stored).1
      apply inv.counted.stored _ admittedData accountedHere port entries above below
      simp [QuotaLabel.dataRegion, idType]
    · have sameQuotas := published.other isData
      have quiet : (QuotaLabel.queued region (predictedEnd before region.call)).dataRegion =
          none := by
        simp [QuotaLabel.dataRegion, idType, isData]
      apply inv.counted.quiet quiet entries
      · rw [← kept.usage]
        funext port
        rw [usage, sameQuotas, usage]
      · rw [sameQuotas, kept.previousDataIndex]
      · rw [sameQuotas, kept.dataUseCount]
      · rw [sameQuotas, kept.dataQuota]
      · exact le_trans above below
  · intro other index member
    rw [List.mem_append, List.mem_singleton] at member
    rcases member with earlier | last
    · exact inv.predicted other index earlier
    · cases last
      exact congrArg Int.ofNat predicted

theorem QuotaInvariant.rejected {numSlots : Nat} {labels : List QuotaLabel}
    {before after : State} {call : QueueCall} (inv : QuotaInvariant numSlots labels before)
    (move : TransmitStep before (.rejected call) after) :
    QuotaInvariant numSlots (labels ++ [.rejected call]) after := by
  have sequential := sequential_invariant_step inv.sequential
    (show Guarded TransmitStep StrideFits before (.rejected call) after from ⟨move, trivial⟩)
  cases move with
  | rejected admission =>
      have kept := admit_kept admission
      obtain ⟨quotas, _, frame⟩ := admit_frame admission
      constructor
      · rw [List.map_append, List.map_singleton]
        exact sequential
      · exact inv.shape.kept kept
      · apply inv.counted.quiet rfl _ kept.usage kept.previousDataIndex kept.dataUseCount
          kept.dataQuota
        · rw [frame]
          exact le_refl (cursorIndex before)
        · intro port
          rw [kept.srvState]
      · intro region index member
        simp only [List.mem_append, List.mem_singleton, reduceCtorEq, or_false] at member
        exact inv.predicted region index member

theorem QuotaInvariant.added {numSlots : Nat} {labels : List QuotaLabel}
    {before after : State} {params : ServiceParams} {handle : ServiceHandle}
    (inv : QuotaInvariant numSlots labels before)
    (addition : before.addService params handle = .ok after) :
    QuotaInvariant numSlots (labels ++ [.added]) after := by
  obtain ⟨shape, port, service, entered⟩ := service_entered inv.shape addition
  constructor
  · rw [List.map_append, List.map_singleton]
    exact sequential_invariant_step inv.sequential
      ⟨.environment (add_service_undisturbed addition), trivial⟩
  · exact shape
  · exact inv.counted.entered entered
  · intro region index member
    simp only [List.mem_append, List.mem_singleton, reduceCtorEq, or_false] at member
    exact inv.predicted region index member

theorem quota_step {numSlots : Nat} {labels : List QuotaLabel} {label : QuotaLabel}
    {before after : State} (inv : QuotaInvariant numSlots labels before)
    (step : Guarded QuotaStep FitsSlot before label after) :
    QuotaInvariant numSlots (labels ++ [label]) after := by
  obtain ⟨move, fits⟩ := step
  cases move with
  | queued move => exact inv.queued move fits
  | rejected move => exact inv.rejected move
  | added addition => exact inv.added addition

theorem quota_run {raw slotZero : SlotZero} {memory : Lib.ByteMemory.Memory}
    {totalMemory numSlots : Nat} {fresh state : State} {labels : List QuotaLabel}
    (initialized : initializeSlotZero raw totalMemory = .ok (slotZero, numSlots))
    (upper : numSlots ≤ vchiqMaxSlots)
    (made : freshState raw memory totalMemory = .ok fresh)
    (run : Run (Guarded QuotaStep FitsSlot) fresh labels state) :
    QuotaInvariant numSlots labels state := by
  obtain ⟨reservation, cursor, txPos⟩ := fresh_state_spec made initialized upper
  obtain ⟨previous, count⟩ := fresh_quota made
  have facts := fresh_state_facts made
  apply run.invariant (QuotaInvariant numSlots)
  · constructor
    · exact ⟨reservation, by rw [txPos, cursor], by simp [regions], by simp [regions]⟩
    · exact fresh_shape facts
    · exact fresh_counted facts previous count
    · simp
  · intro labels before label after _ inv move
    exact quota_step inv move

/-- The accounting between two calls. -/
structure QuotasExact (labels : List QuotaLabel) (state : State) : Prop where
  /-- The slot a message was predicted to end in is the one it was placed in. -/
  predicted : ∀ (region : Region) (index : Int), .queued region index ∈ labels →
    index = slotQueueIndexFromPos region.start ∧ endIndex region = index ∧
      state.slotState.slotZero.slave.slotQueue
        (queueIndex (slotQueueIndexFromPos region.start)) = region.position.index
  dataCount : state.quotaState.dataUseCount = (dataIndices labels).toFinset.card
  dataBound : state.quotaState.dataUseCount ≤ state.quotaState.dataQuota
  slotCount : ∀ port service, state.srvState.service port = some service →
    ∃ quota, state.quotaState.serviceQuotas[service.localport.toNat]? = some quota ∧
      quota.slotUseCount = (serviceIndices labels port).toFinset.card ∧
      quota.slotUseCount ≤ quota.slotQuota

theorem queued_region_mem {labels : List QuotaLabel} {region : Region} {index : Int}
    (member : .queued region index ∈ labels) :
    region ∈ regions (labels.map QuotaLabel.transmit) := by
  rw [regions, List.filterMap_map]
  exact List.mem_filterMap.mpr ⟨_, member, rfl⟩

theorem QuotaInvariant.exact {numSlots : Nat} {labels : List QuotaLabel} {state : State}
    (inv : QuotaInvariant numSlots labels state) : QuotasExact labels state := by
  constructor
  · intro region index member
    have predicted := inv.predicted region index member
    obtain ⟨position, fits, finish⟩ := inv.sequential.placed region (queued_region_mem member)
    have bounded := inv.sequential.reservation.bounded
    have positive : 0 < region.call.msgStride := calc_msg_stride_pos _
    have available : slotQueueIndexFromPos region.start < state.slotQueueAvailable := by
      apply Nat.div_lt_of_lt_mul
      rw [Nat.mul_comm]
      omega
    refine ⟨predicted, ?_, ?_⟩
    · rw [predicted, endIndex]
      simp only [slotQueueIndexFromPos, vchiqSlotSize] at *
      omega
    · rw [(inv.sequential.reservation.queue_entry _ available).2, position]
      rfl
  · exact inv.counted.data.card
  · exact inv.counted.dataBound
  · intro port service stored
    obtain ⟨samePort, small⟩ := inv.shape.ports port service stored
    obtain ⟨record, found⟩ := inv.shape.records port small
    obtain ⟨counted, bounded⟩ := inv.counted.services port service record stored found
    obtain ⟨quota, located, rfl⟩ := Option.map_eq_some_iff.mp found
    rw [samePort]
    exact ⟨quota, located, counted.card, bounded⟩

theorem sequential_quotas_exact {raw slotZero : SlotZero} {memory : Lib.ByteMemory.Memory}
    {totalMemory numSlots : Nat} {fresh state : State} {labels : List QuotaLabel}
    (initialized : initializeSlotZero raw totalMemory = .ok (slotZero, numSlots))
    (upper : numSlots ≤ vchiqMaxSlots)
    (made : freshState raw memory totalMemory = .ok fresh)
    (run : Run (Guarded QuotaStep FitsSlot) fresh labels state) :
    QuotasExact labels state :=
  (quota_run initialized upper made run).exact

set_option maxRecDepth 20000 in
/-- A service is added and sends a DATA message. -/
theorem short_call_queued :
    ∃ fresh added state quota,
      freshState blankSlotZero (fun _ => 0) (65 * vchiqSlotSize) = .ok fresh ∧
      fresh.addService sampleParams 4096 = .ok added ∧
      queueMessage added shortCall = (.ok (), state) ∧
      state.quotaState.dataUseCount = 1 ∧
      state.quotaState.serviceQuotas[0]? = some quota ∧ quota.messageUseCount = 0 :=
  ⟨_, _, _, _, rfl, rfl, rfl, rfl, rfl, rfl⟩

set_option maxRecDepth 20000 in
/-- A message that takes the next slot follows it. -/
theorem full_slot_counted :
    ∃ fresh added first state,
      freshState blankSlotZero (fun _ => 0) (65 * vchiqSlotSize) = .ok fresh ∧
      fresh.addService sampleParams 4096 = .ok added ∧
      queueMessage added shortCall = (.ok (), first) ∧
      queueMessage first fullSlotCall = (.ok (), state) ∧
      state.quotaState.dataUseCount = 2 :=
  ⟨_, _, _, _, rfl, rfl, rfl, rfl, rfl⟩

/-- Two slots are in use behind the two messages. -/
theorem two_messages_quotas_exact :
    ∃ labels state, (dataRegions labels).map Region.call = [shortCall, fullSlotCall] ∧
      state.quotaState.dataUseCount = 2 ∧ QuotasExact labels state := by
  obtain ⟨fresh, added, first, state, made, grown, sent, full, count⟩ := full_slot_counted
  obtain ⟨position, start, step⟩ := (queue_message_ok_iff added first shortCall).mp sent
  obtain ⟨position', start', step'⟩ := (queue_message_ok_iff first state fullSlotCall).mp full
  have fits : shortCall.msgStride ≤ vchiqSlotSize := by decide
  refine ⟨_, state, ?_, count, sequential_quotas_exact rfl (by decide) made
    (((Run.refl.snoc ⟨.added grown, trivial⟩).snoc ⟨.queued step, fits⟩).snoc
      ⟨.queued step', full_slot_fits⟩)⟩
  have shortType : msgTypeFromId shortCall.msgId = some .data := by decide
  have fullType : msgTypeFromId fullSlotCall.msgId = some .data := by decide
  rw [data_regions_snoc, data_regions_snoc, QuotaLabel.dataRegion, if_pos shortType,
    QuotaLabel.dataRegion, if_pos fullType]
  rfl

/-- The message quota as it is meant: the counter counts the DATA messages of the
service, and the next one is stored only below the quota. -/
structure MessageQuotaEnforced (labels : List QuotaLabel) (state : State) : Prop where
  counted : ∀ port service quota, state.srvState.service port = some service →
    state.quotaState.serviceQuotas[service.localport.toNat]? = some quota →
      quota.messageUseCount = (serviceRegions labels port).length
  enforced : ∀ region predicted after, QuotaStep state (.queued region predicted) after →
    msgTypeFromId region.call.msgId = some .data →
      ∀ port service quota, region.call.service = some port →
        state.srvState.service port = some service →
        state.quotaState.serviceQuotas[service.localport.toNat]? = some quota →
          (serviceRegions labels port).length < quota.messageQuota

/-- The message counters stay at zero, whatever is stored. -/
structure MessageInvariant (labels : List QuotaLabel) (state : State) : Prop where
  shape : TableShape state
  unmoved : ∀ port quota, usage state port = some quota → quota.messageUseCount = 0
  owned : ∀ region ∈ dataRegions labels, ∃ port service,
    region.call.service = some port ∧ state.srvState.service port = some service

theorem SameEntries.keeps {before after : State} (entries : SameEntries before after)
    {port : ServiceRef} {service : Service}
    (stored : before.srvState.service port = some service) :
    ∃ new, after.srvState.service port = some new := by
  have same := entries port
  rw [stored, Option.map_some] at same
  obtain ⟨new, found, _⟩ := Option.map_eq_some_iff.mp same
  exact ⟨new, found⟩

/-- No section moves the message counters. -/
theorem Published.messages {before after : State} {call : QueueCall} {msgType : MessageType}
    (published : Published before after call msgType)
    (unmoved : ∀ port quota, usage before port = some quota → quota.messageUseCount = 0) :
    ∀ port quota, usage after port = some quota → quota.messageUseCount = 0 := by
  intro port quota found
  by_cases isData : msgType = .data
  · obtain ⟨service, record, _, accounted⟩ := published.data isData
    by_cases own : port = service.localport.toNat
    · rw [own, usage, accounted.own, Option.some.injEq] at found
      rw [← found]
      exact unmoved _ record accounted.record
    · rw [usage, accounted.others port own] at found
      exact unmoved port quota found
  · rw [usage, published.other isData] at found
    exact unmoved port quota found

theorem MessageInvariant.queued {labels : List QuotaLabel} {before after : State}
    {region : Region} {predicted : Int} (inv : MessageInvariant labels before)
    (move : TransmitStep before (.queued region) after) :
    MessageInvariant (labels ++ [.queued region predicted]) after := by
  obtain ⟨msgType, admitted, reserved, admission, _, kept, published, _⟩ :=
    queued_sections move
  have entries : SameEntries before after := by
    intro port
    rw [published.port port, kept.srvState]
  have idType := (admitted_cases admission).1
  constructor
  · exact published.shape (inv.shape.kept kept)
  · apply published.messages
    rw [kept.usage]
    exact inv.unmoved
  · intro other member
    rw [data_regions_snoc, List.mem_append] at member
    rcases member with earlier | last
    · obtain ⟨port, service, named, stored⟩ := inv.owned other earlier
      obtain ⟨new, found⟩ := entries.keeps stored
      exact ⟨port, new, named, found⟩
    · by_cases isData : msgType = .data
      · subst isData
        simp only [QuotaLabel.dataRegion, idType, if_true, Option.toList_some,
          List.mem_singleton] at last
        subst last
        obtain ⟨reference, service, quota, admittedData⟩ := data_admitted admission
        obtain ⟨new, found⟩ := entries.keeps admittedData.stored
        exact ⟨reference, new, admittedData.named, found⟩
      · simp [QuotaLabel.dataRegion, idType, isData] at last

theorem message_step {labels : List QuotaLabel} {label : QuotaLabel} {before after : State}
    (inv : MessageInvariant labels before) (step : QuotaStep before label after) :
    MessageInvariant (labels ++ [label]) after := by
  cases step with
  | queued move => exact inv.queued move
  | rejected move =>
      cases move with
      | rejected admission =>
          have kept := admit_kept admission
          constructor
          · exact inv.shape.kept kept
          · rw [kept.usage]
            exact inv.unmoved
          · intro region member
            rw [data_regions_snoc] at member
            rw [kept.srvState]
            exact inv.owned region (by simpa [QuotaLabel.dataRegion] using member)
  | added addition =>
      obtain ⟨shape, port, service, entered⟩ := service_entered inv.shape addition
      constructor
      · exact shape
      · intro other quota found
        by_cases own : other = port
        · subst own
          rw [entered.record] at found
          obtain ⟨old, oldFound, rfl⟩ := Option.map_eq_some_iff.mp found
          exact inv.unmoved other old oldFound
        · rw [entered.others other own] at found
          exact inv.unmoved other quota found
      · intro region member
        rw [data_regions_snoc] at member
        obtain ⟨other, old, named, stored⟩ :=
          inv.owned region (by simpa [QuotaLabel.dataRegion] using member)
        by_cases own : other = port
        · subst own
          exact ⟨other, service, named, entered.here⟩
        · exact ⟨other, old, named, (entered.elsewhere other own).trans stored⟩

theorem message_run {raw : SlotZero} {memory : Lib.ByteMemory.Memory} {totalMemory : Nat}
    {fresh state : State} {labels : List QuotaLabel}
    (made : freshState raw memory totalMemory = .ok fresh)
    (run : Run QuotaStep fresh labels state) : MessageInvariant labels state := by
  have facts := fresh_state_facts made
  apply run.invariant MessageInvariant
  · constructor
    · exact fresh_shape facts
    · intro port quota found
      rw [fresh_usage facts found]
      rfl
    · simp [dataRegions]
  · intro labels before label after _ inv move
    exact message_step inv move

theorem MessageInvariant.enforced_iff {labels : List QuotaLabel} {state : State}
    (inv : MessageInvariant labels state) :
    MessageQuotaEnforced labels state ↔ dataRegions labels = [] := by
  constructor
  · intro enforced
    by_contra some
    obtain ⟨region, member⟩ := List.exists_mem_of_ne_nil _ some
    obtain ⟨port, service, named, stored⟩ := inv.owned region member
    obtain ⟨samePort, small⟩ := inv.shape.ports port service stored
    obtain ⟨record, found⟩ := inv.shape.records port small
    have zero := inv.unmoved port record found
    obtain ⟨quota, located, rfl⟩ := Option.map_eq_some_iff.mp found
    have counted := enforced.counted port service quota stored (samePort.symm ▸ located)
    have stands : region ∈ serviceRegions labels port := by
      rw [serviceRegions, List.mem_filter]
      exact ⟨member, by simp [named]⟩
    have positive := List.length_pos_of_mem stands
    have zero' : quota.messageUseCount = 0 := zero
    omega
  · intro none
    have unsent : ∀ port, serviceRegions labels port = [] := by
      intro port
      rw [serviceRegions, none]
      rfl
    constructor
    · intro port service quota stored located
      rw [unsent]
      exact inv.unmoved service.localport.toNat (usageOf quota)
        (by rw [usage, located, Option.map_some])
    · intro region predicted after step isData port service quota named stored located
      rw [unsent]
      cases step with
      | queued move =>
          obtain ⟨msgType, admitted, _, admission, _⟩ := queued_sections move
          have idType := (admitted_cases admission).1
          rw [isData, Option.some.injEq] at idType
          subst idType
          obtain ⟨reference, target, record, admittedData⟩ := data_admitted admission
          have sameReference : reference = port :=
            Option.some.inj (admittedData.named.symm.trans named)
          subst sameReference
          have sameService : target = service :=
            Option.some.inj (admittedData.stored.symm.trans stored)
          subst sameService
          have zero := inv.unmoved _ record admittedData.record
          have sameQuota := admittedData.record
          rw [usage, located, Option.map_some, Option.some.injEq] at sameQuota
          subst sameQuota
          have differs := admittedData.messageQuota
          rw [zero] at differs
          exact Nat.pos_of_ne_zero (Ne.symm differs)

/-- The message quota is kept exactly as long as no DATA message was stored. -/
theorem message_quota_enforced_iff {raw : SlotZero} {memory : Lib.ByteMemory.Memory}
    {totalMemory : Nat} {fresh state : State} {labels : List QuotaLabel}
    (made : freshState raw memory totalMemory = .ok fresh)
    (run : Run QuotaStep fresh labels state) :
    MessageQuotaEnforced labels state ↔ dataRegions labels = [] :=
  (message_run made run).enforced_iff

set_option maxRecDepth 20000 in
/-- CONNECT is stored beside a service. -/
theorem connect_beside_service :
    ∃ fresh added state,
      freshState blankSlotZero (fun _ => 0) (65 * vchiqSlotSize) = .ok fresh ∧
      fresh.addService sampleParams 4096 = .ok added ∧
      queueMessage added connectCall = (.ok (), state) :=
  ⟨_, _, _, rfl, rfl, rfl⟩

/-- The quota stands as long as only CONNECT is stored. -/
theorem connect_keeps_message_quota :
    ∃ state region predicted, region.call = connectCall ∧
      MessageQuotaEnforced [.added, .queued region predicted] state := by
  obtain ⟨fresh, added, state, made, grown, sent⟩ := connect_beside_service
  obtain ⟨position, start, step⟩ := (queue_message_ok_iff added state connectCall).mp sent
  have other : msgTypeFromId connectCall.msgId ≠ some .data := by decide
  refine ⟨state, ⟨connectCall, position, start⟩, _, rfl, (message_quota_enforced_iff made
    ((Run.refl.snoc (.added grown)).snoc (.queued step))).mpr ?_⟩
  simp [dataRegions, QuotaLabel.dataRegion, other]

/-- The first DATA message of a service is not counted. -/
theorem stored_message_uncounted :
    ∃ fresh labels state quota,
      freshState blankSlotZero (fun _ => 0) (65 * vchiqSlotSize) = .ok fresh ∧
      Run QuotaStep fresh labels state ∧ (serviceRegions labels 0).length = 1 ∧
      state.quotaState.serviceQuotas[0]? = some quota ∧ quota.messageUseCount = 0 ∧
      ¬MessageQuotaEnforced labels state := by
  obtain ⟨fresh, added, state, quota, made, grown, sent, _, found, zero⟩ := short_call_queued
  obtain ⟨position, start, step⟩ := (queue_message_ok_iff added state shortCall).mp sent
  have run : Run QuotaStep fresh _ state :=
    (Run.refl.snoc (.added grown)).snoc (.queued step)
  have isData : msgTypeFromId shortCall.msgId = some .data := by decide
  have stored : dataRegions ([] ++ [.added] ++ [.queued ⟨shortCall, position, start⟩
      (predictedEnd added shortCall)]) = [⟨shortCall, position, start⟩] := by
    rw [data_regions_snoc, QuotaLabel.dataRegion, if_pos isData]
    rfl
  refine ⟨fresh, _, state, quota, made, run, ?_, found, zero, ?_⟩
  · rw [serviceRegions, stored]
    rfl
  · rw [(message_run made run).enforced_iff, stored]
    simp

end RuspiroVchiq.Quota
