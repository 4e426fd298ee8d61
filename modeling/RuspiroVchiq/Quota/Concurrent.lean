import RuspiroVchiq.Quota.Sequential

/-!
# Quotas under concurrent senders

The quota check, the reservation and the section that stores and accounts are
separate steps of any number of senders, with services added in between. What the
check has found is used two sections later: by then another sender may have taken
the space or the quota, and the accounted slot is the one behind `local_tx_pos`,
whoever moved it there.
-/

namespace RuspiroVchiq.Quota

open RuspiroVchiq.Config
open RuspiroVchiq.Shared
open RuspiroVchiq.Vchiq
open RuspiroVchiq.Transmit
open RuspiroVchiq.Lib.DistinctCount
open RuspiroVchiq.Lib.LabelledRun

set_option autoImplicit false

/-- The sections of the senders, and services that are added. -/
inductive QuotaSenderStep : Senders → SenderLabel → Senders → Prop where
  | moved {before after : Senders} {label : SenderLabel}
      (move : SenderStep before label after) (section' : label ≠ .environment) :
      QuotaSenderStep before label after
  | added {before : Senders} {after : State} {params : ServiceParams}
      {handle : ServiceHandle}
      (addition : before.state.addService params handle = .ok after) :
      QuotaSenderStep before .environment ⟨after, before.phase⟩

/-- The sender of a DATA message between its check and its accounting. -/
def InData : SenderPhase → Prop
  | .idle => False
  | .admitted _ msgType => msgType = .data
  | .reserved _ msgType => msgType = .data

def AloneInData (senders : Senders) (sender : Nat) : Prop :=
  ∀ other, other ≠ sender → ¬InData (senders.phase other)

/-- While one sender is between the check and the accounting of a DATA message, no other
one reserves space or accounts a DATA message. Every message fits into a slot. -/
def Unraced (senders : Senders) : SenderLabel → Prop
  | .reserved sender region =>
      region.call.msgStride ≤ vchiqSlotSize ∧ AloneInData senders sender
  | .published sender region =>
      msgTypeFromId region.call.msgId = some .data → AloneInData senders sender
  | _ => True

/-- The quotas in every state, and the slot the next DATA message is accounted to. -/
structure QuotasHold (senders : Senders) : Prop where
  dataBound : senders.state.quotaState.dataUseCount ≤ senders.state.quotaState.dataQuota
  slotBound : ∀ port service, senders.state.srvState.service port = some service →
    ∃ quota, senders.state.quotaState.serviceQuotas[service.localport.toNat]? = some quota ∧
      quota.slotUseCount ≤ quota.slotQuota
  accounted : ∀ sender region after,
    QuotaSenderStep senders (.published sender region) after →
    msgTypeFromId region.call.msgId = some .data →
      senders.state.slotState.slotZero.slave.slotQueue
          (queueIndex (slotQueueIndexFromPos region.start)) = region.position.index ∧
        after.state.quotaState.previousDataIndex = slotQueueIndexFromPos region.start ∧
        ∃ port service quota, region.call.service = some port ∧
          senders.state.srvState.service port = some service ∧
          after.state.quotaState.serviceQuotas[service.localport.toNat]? = some quota ∧
          quota.previousTxIndex = slotQueueIndexFromPos region.start

/-- Where a region lies. -/
structure RegionAt (state : State) (region : Region) : Prop where
  inSlot : endIndex region = slotQueueIndexFromPos region.start
  available : slotQueueIndexFromPos region.start < state.slotQueueAvailable
  position : region.position.index = slotQueueIndexFromPos region.start + slotBase state

/-- What a sender relies on. A checked DATA message would still pass the check, and
nothing was reserved behind a reserved one. -/
def PhaseHolds (state : State) : SenderPhase → Prop
  | .idle => True
  | .admitted call msgType =>
      msgTypeFromId call.msgId = some msgType ∧
        (msgType = .data → ∃ reference service quota,
          DataAdmitted state call (predictedEnd state call) reference service quota)
  | .reserved region msgType =>
      msgTypeFromId region.call.msgId = some msgType ∧
        (msgType = .data →
          RegionAt state region ∧
            state.slotState.localTxPos = region.start + region.call.msgStride ∧
            ∃ reference service quota,
              DataAdmitted state region.call (endIndex region) reference service quota)

/-- A step that leaves what the senders rely on alone. -/
structure Calm (before after : State) : Prop where
  entries : ∀ port service, before.srvState.service port = some service →
    ∃ later, after.srvState.service port = some later ∧
      later.localport = service.localport ∧
      usage after service.localport.toNat = usage before service.localport.toNat
  previousDataIndex : after.quotaState.previousDataIndex = before.quotaState.previousDataIndex
  dataUseCount : after.quotaState.dataUseCount = before.quotaState.dataUseCount
  dataQuota : after.quotaState.dataQuota = before.quotaState.dataQuota
  cursor : after.slotState.localTxPos = before.slotState.localTxPos
  base : slotBase after = slotBase before
  available : after.slotQueueAvailable = before.slotQueueAvailable

theorem DataAdmitted.calm {before after : State} {call : QueueCall} {txEndIndex : Int}
    {reference : ServiceRef} {service : Service} {quota : ServiceQuota}
    (admitted : DataAdmitted before call txEndIndex reference service quota)
    (calm : Calm before after) :
    ∃ later, DataAdmitted after call txEndIndex reference later quota := by
  obtain ⟨later, stored, port, record⟩ := calm.entries reference service admitted.stored
  exact ⟨later, admitted.transfer stored port record calm.previousDataIndex calm.dataUseCount
    calm.dataQuota⟩

theorem PhaseHolds.calm {before after : State} {phase : SenderPhase}
    (holds : PhaseHolds before phase) (calm : Calm before after) : PhaseHolds after phase := by
  cases phase with
  | idle => trivial
  | admitted call msgType =>
      refine ⟨holds.1, ?_⟩
      intro isData
      obtain ⟨reference, service, quota, admitted⟩ := holds.2 isData
      obtain ⟨later, admitted⟩ := admitted.calm calm
      have predicted : predictedEnd after call = predictedEnd before call := by
        rw [predictedEnd, calm.cursor, predictedEnd]
      rw [predicted]
      exact ⟨reference, later, quota, admitted⟩
  | reserved region msgType =>
      refine ⟨holds.1, ?_⟩
      intro isData
      obtain ⟨placed, cursor, reference, service, quota, admitted⟩ := holds.2 isData
      obtain ⟨later, admitted⟩ := admitted.calm calm
      refine ⟨⟨placed.inSlot, ?_, ?_⟩, ?_, reference, later, quota, admitted⟩
      · rw [calm.available]
        exact placed.available
      · rw [calm.base]
        exact placed.position
      · rw [calm.cursor]
        exact cursor

/-- Outside DATA a sender relies on the type of its message only. -/
theorem PhaseHolds.outside {before after : State} {phase : SenderPhase}
    (holds : PhaseHolds before phase) (outside : ¬InData phase) : PhaseHolds after phase := by
  cases phase with
  | idle => trivial
  | admitted call msgType => exact ⟨holds.1, fun isData => absurd isData outside⟩
  | reserved region msgType => exact ⟨holds.1, fun isData => absurd isData outside⟩

structure RaceInvariant (numSlots : Nat) (senders : Senders) : Prop where
  reservation : ReservationInvariant numSlots senders.state
  shape : TableShape senders.state
  dataBound : senders.state.quotaState.dataUseCount ≤ senders.state.quotaState.dataQuota
  slotBound : ∀ port quota, usage senders.state port = some quota →
    quota.slotUseCount ≤ quota.slotQuota
  vacant : ∀ port, senders.state.srvState.service port = none →
    ∀ quota, usage senders.state port = some quota → quota.slotUseCount = 0
  phases : ∀ sender, PhaseHolds senders.state (senders.phase sender)

theorem admission_calm {before after : State} {call : QueueCall}
    {result : Except Stop MessageType}
    (admission : admitMessage before call = (result, after)) : Calm before after := by
  have kept := admit_kept admission
  obtain ⟨quotas, _, frame⟩ := admit_frame admission
  constructor
  · intro port service stored
    refine ⟨service, ?_, rfl, ?_⟩
    · rw [kept.srvState]
      exact stored
    · rw [kept.usage]
  · exact kept.previousDataIndex
  · exact kept.dataUseCount
  · exact kept.dataQuota
  · rw [frame]
  · rw [frame]
    rfl
  · rw [frame]

/-- The quotas after a check are those before it. -/
theorem RaceInvariant.admission {numSlots : Nat} {before : Senders} {after : State}
    {call : QueueCall} {result : Except Stop MessageType} {phase : Nat → SenderPhase}
    (inv : RaceInvariant numSlots before)
    (admission : admitMessage before.state call = (result, after))
    (phases : ∀ sender, PhaseHolds after (phase sender)) :
    RaceInvariant numSlots ⟨after, phase⟩ := by
  have kept := admit_kept admission
  constructor
  · exact inv.reservation.admitted admission
  · exact inv.shape.kept kept
  · simp only [kept.dataUseCount, kept.dataQuota]
    exact inv.dataBound
  · simp only [kept.usage]
    exact inv.slotBound
  · simp only [kept.usage, kept.srvState]
    exact inv.vacant
  · exact phases

theorem RaceInvariant.admitted {numSlots : Nat} {before : Senders} {after : State}
    {sender : Nat} {call : QueueCall} {msgType : MessageType}
    (inv : RaceInvariant numSlots before)
    (admission : admitMessage before.state call = (.ok msgType, after)) :
    RaceInvariant numSlots
      ⟨after, Function.update before.phase sender (.admitted call msgType)⟩ := by
  have calm := admission_calm admission
  apply inv.admission admission
  intro other
  by_cases same : other = sender
  · subst same
    rw [Function.update_self]
    refine ⟨(admitted_cases admission).1, ?_⟩
    intro isData
    subst isData
    obtain ⟨reference, service, quota, admitted⟩ := data_admitted admission
    have predicted : predictedEnd after call = predictedEnd before.state call := by
      rw [predictedEnd, calm.cursor, predictedEnd]
    rw [predicted]
    exact ⟨reference, service, quota, admitted.kept (admit_kept admission)⟩
  · rw [Function.update_of_ne same]
    exact (inv.phases other).calm calm

/-- A reservation by the only sender inside DATA goes to the slot that was predicted. -/
theorem RaceInvariant.reserved {numSlots : Nat} {before : Senders} {after : State}
    {sender : Nat} {call : QueueCall} {msgType : MessageType} {position : SlotPosition}
    (inv : RaceInvariant numSlots before)
    (ready : before.phase sender = .admitted call msgType)
    (reservation : reserveSpace before.state call.msgStride = .ok (position, after))
    (fits : call.msgStride ≤ vchiqSlotSize) (alone : AloneInData before sender) :
    RaceInvariant numSlots
      ⟨after, Function.update before.phase sender
        (.reserved ⟨call, position, after.slotState.localTxPos - call.msgStride⟩ msgType)⟩ := by
  have stride := valid_stride call fits
  obtain ⟨below, rfl, rfl⟩ := reserve_space_ok inv.reservation stride reservation
  have start : (reservedState before.state call.msgStride).slotState.localTxPos -
      call.msgStride = reserveStart before.state call.msgStride := Nat.add_sub_cancel _ _
  rw [start]
  obtain ⟨predicted, inSlot, _⟩ := predicted_end_eq inv.reservation fits
  have kept : QuotaKept before.state (reservedState before.state call.msgStride) :=
    ⟨rfl, rfl, rfl, rfl, rfl⟩
  constructor
  · exact reserved_invariant inv.reservation stride below
  · exact inv.shape.kept kept
  · exact inv.dataBound
  · exact inv.slotBound
  · exact inv.vacant
  · intro other
    by_cases same : other = sender
    · subst same
      have holds := inv.phases other
      simp only [ready] at holds
      simp only [Function.update_self]
      refine ⟨holds.1, ?_⟩
      intro isData
      obtain ⟨reference, service, quota, admitted⟩ := holds.2 isData
      refine ⟨⟨?_, ?_, rfl⟩, rfl, reference, service, quota, ?_⟩
      · rw [endIndex, inSlot]
      · apply Nat.div_lt_of_lt_mul
        rw [Nat.mul_comm]
        exact below
      · have endEq : endIndex ⟨call, streamPosition before.state
            (reserveStart before.state call.msgStride),
            reserveStart before.state call.msgStride⟩ = predictedEnd before.state call := by
          rw [endIndex, inSlot, predictedEnd, predicted]
        rw [endEq]
        exact admitted.kept kept
    · simp only [Function.update_of_ne same]
      exact (inv.phases other).outside (alone other same)

theorem publication_calm {before after : State} {call : QueueCall} {msgType : MessageType}
    (published : Published before after call msgType) (notData : msgType ≠ .data) :
    Calm before after := by
  have quotas := published.other notData
  constructor
  · intro port service stored
    have same := published.port port
    rw [stored, Option.map_some] at same
    obtain ⟨later, found, localport⟩ := Option.map_eq_some_iff.mp same
    refine ⟨later, found, localport, ?_⟩
    rw [usage, quotas, usage]
  · rw [quotas]
  · rw [quotas]
  · rw [quotas]
  · exact published.cursor
  · exact published.base
  · exact published.available

theorem Published.vacant {before after : State} {call : QueueCall} {msgType : MessageType}
    (published : Published before after call msgType) {port : ServiceRef}
    (absent : after.srvState.service port = none) : before.srvState.service port = none := by
  have same := published.port port
  rw [absent, Option.map_none] at same
  exact Option.map_eq_none_iff.mp same.symm

/-- A message of another type is published. -/
theorem RaceInvariant.published_other {numSlots : Nat} {before : Senders} {after : State}
    {sender : Nat} {region : Region} {msgType : MessageType}
    (inv : RaceInvariant numSlots before)
    (publication :
      storeAndPublish before.state region.call msgType region.position = .ok after)
    (notData : msgType ≠ .data) :
    RaceInvariant numSlots ⟨after, Function.update before.phase sender .idle⟩ := by
  have published := published_quota publication
  have quotas := published.other notData
  have sameUsage : usage after = usage before.state := by
    funext port
    rw [usage, quotas, usage]
  constructor
  · exact published_reservation inv.reservation publication
  · exact published.shape inv.shape
  · simp only [quotas]
    exact inv.dataBound
  · simp only [sameUsage]
    exact inv.slotBound
  · intro port absent
    simp only [sameUsage]
    exact inv.vacant port (published.vacant absent)
  · intro other
    by_cases same : other = sender
    · subst same
      simp only [Function.update_self]
      trivial
    · simp only [Function.update_of_ne same]
      exact (inv.phases other).calm (publication_calm published notData)

/-- A DATA message is accounted by the only sender inside DATA. -/
theorem RaceInvariant.published_data {numSlots : Nat} {before : Senders} {after : State}
    {sender : Nat} {region : Region} (inv : RaceInvariant numSlots before)
    (ready : before.phase sender = .reserved region .data)
    (publication :
      storeAndPublish before.state region.call .data region.position = .ok after)
    (alone : AloneInData before sender) :
    RaceInvariant numSlots ⟨after, Function.update before.phase sender .idle⟩ := by
  have published := published_quota publication
  have holds := inv.phases sender
  simp only [ready] at holds
  obtain ⟨_, cursor, reference, service, quota, admitted⟩ := holds.2 rfl
  have accounted := published.accounted admitted
  have index : (slotQueueIndexFromPos (before.state.slotState.localTxPos - 1) : Int) =
      endIndex region := by
    rw [cursor, endIndex]
  rw [index] at accounted
  have ownBound := inv.slotBound _ quota admitted.record
  constructor
  · exact published_reservation inv.reservation publication
  · exact published.shape inv.shape
  · simp only [accounted.dataUseCount, accounted.dataQuota]
    exact raised_le_quota inv.dataBound admitted.dataQuota
  · intro port record found
    by_cases own : port = service.localport.toNat
    · rw [own, usage, accounted.own, Option.some.injEq] at found
      rw [← found]
      exact raised_le_quota ownBound admitted.slotQuota
    · rw [usage, accounted.others port own] at found
      exact inv.slotBound port record found
  · intro port absent record found
    have empty := published.vacant absent
    have own : port ≠ service.localport.toNat := by
      rw [(inv.shape.ports reference service admitted.stored).1]
      rintro rfl
      rw [admitted.stored] at empty
      simp at empty
    rw [usage, accounted.others port own] at found
    exact inv.vacant port empty record found
  · intro other
    by_cases same : other = sender
    · subst same
      simp only [Function.update_self]
      trivial
    · simp only [Function.update_of_ne same]
      exact (inv.phases other).outside (alone other same)

theorem addition_calm {before after : State} {port : ServiceRef} {service : Service}
    (shape : TableShape before) (entered : ServiceEntered before after port service) :
    Calm before after := by
  constructor
  · intro other old stored
    have differs : other ≠ port := by
      rintro rfl
      rw [entered.vacant] at stored
      simp at stored
    refine ⟨old, ?_, rfl, ?_⟩
    · rw [entered.elsewhere other differs]
      exact stored
    · rw [(shape.ports other old stored).1]
      exact entered.others other differs
  · exact entered.previousDataIndex
  · exact entered.dataUseCount
  · exact entered.dataQuota
  · rw [entered.slots]
  · rw [slotBase, entered.slots, slotBase]
  · exact entered.available

theorem RaceInvariant.added {numSlots : Nat} {before : Senders} {after : State}
    {params : ServiceParams} {handle : ServiceHandle} (inv : RaceInvariant numSlots before)
    (addition : before.state.addService params handle = .ok after) :
    RaceInvariant numSlots ⟨after, before.phase⟩ := by
  obtain ⟨shape, port, service, entered⟩ := service_entered inv.shape addition
  constructor
  · exact (add_service_undisturbed addition).reservation inv.reservation
  · exact shape
  · simp only [entered.dataUseCount, entered.dataQuota]
    exact inv.dataBound
  · intro other quota found
    by_cases own : other = port
    · subst own
      simp only [entered.record] at found
      obtain ⟨old, oldFound, rfl⟩ := Option.map_eq_some_iff.mp found
      have unused := inv.vacant other entered.vacant old oldFound
      simp only [initializeQuota, unused]
      exact Nat.zero_le _
    · simp only [entered.others other own] at found
      exact inv.slotBound other quota found
  · intro other absent quota found
    have differs : other ≠ port := by
      rintro rfl
      simp only [entered.here] at absent
      simp at absent
    simp only [entered.elsewhere other differs] at absent
    simp only [entered.others other differs] at found
    exact inv.vacant other absent quota found
  · intro sender
    exact (inv.phases sender).calm (addition_calm inv.shape entered)

theorem race_step {numSlots : Nat} {before after : Senders} {label : SenderLabel}
    (inv : RaceInvariant numSlots before)
    (step : Guarded QuotaSenderStep Unraced before label after) :
    RaceInvariant numSlots after := by
  obtain ⟨move, guard⟩ := step
  cases move with
  | added addition => exact inv.added addition
  | moved move section' =>
      cases move with
      | admitted sender _ admission => exact inv.admitted admission
      | rejected sender _ admission =>
          apply inv.admission admission
          intro other
          exact (inv.phases other).calm (admission_calm admission)
      | reserved sender ready reservation =>
          exact inv.reserved ready reservation guard.1 guard.2
      | @published _ sender region msgType ready publication =>
          by_cases isData : msgType = .data
          · subst isData
            have holds := inv.phases sender
            simp only [ready] at holds
            exact inv.published_data ready publication (guard holds.1)
          · exact inv.published_other publication isData
      | environment _ => exact absurd rfl section'

theorem RaceInvariant.holds {numSlots : Nat} {senders : Senders}
    (inv : RaceInvariant numSlots senders) : QuotasHold senders := by
  constructor
  · exact inv.dataBound
  · intro port service stored
    obtain ⟨samePort, small⟩ := inv.shape.ports port service stored
    obtain ⟨record, found⟩ := inv.shape.records port small
    have bounded := inv.slotBound port record found
    obtain ⟨quota, located, rfl⟩ := Option.map_eq_some_iff.mp found
    rw [samePort]
    exact ⟨quota, located, bounded⟩
  · intro sender region after step isData
    cases step with
    | moved move _ =>
        cases move with
        | @published state _ _ msgType ready publication =>
            have holds := inv.phases sender
            simp only [ready] at holds
            have sameType : msgType = .data := by
              have idType := holds.1
              rw [isData, Option.some.injEq] at idType
              exact idType.symm
            subst sameType
            obtain ⟨placed, cursor, reference, service, quota, admitted⟩ := holds.2 rfl
            have accounted := (published_quota publication).accounted admitted
            have index : (slotQueueIndexFromPos
                (senders.state.slotState.localTxPos - 1) : Int) =
                slotQueueIndexFromPos region.start := by
              rw [← placed.inSlot, cursor, endIndex]
            rw [index] at accounted
            obtain ⟨later, located, same⟩ := Option.map_eq_some_iff.mp accounted.own
            refine ⟨?_, accounted.previousDataIndex, reference, service, later,
              admitted.named, admitted.stored, located, ?_⟩
            · rw [(inv.reservation.queue_entry _ placed.available).2, placed.position]
            · exact congrArg ServiceQuota.previousTxIndex same

theorem unraced_senders_keep_quotas {raw slotZero : SlotZero}
    {memory : Lib.ByteMemory.Memory} {totalMemory numSlots : Nat} {fresh : State}
    {senders : Senders} {labels : List SenderLabel}
    (initialized : initializeSlotZero raw totalMemory = .ok (slotZero, numSlots))
    (upper : numSlots ≤ vchiqMaxSlots)
    (made : freshState raw memory totalMemory = .ok fresh)
    (run : Run (Guarded QuotaSenderStep Unraced) ⟨fresh, fun _ => .idle⟩ labels senders) :
    QuotasHold senders := by
  have facts := fresh_state_facts made
  have initial : RaceInvariant numSlots ⟨fresh, fun _ => .idle⟩ := by
    constructor
    · exact (fresh_state_spec made initialized upper).1
    · exact fresh_shape facts
    · simp only [(fresh_quota made).2]
      exact Nat.zero_le _
    · intro port quota found
      rw [fresh_usage facts found]
      exact Nat.le_refl 0
    · intro port _ quota found
      rw [fresh_usage facts found]
      rfl
    · intro sender
      trivial
  apply RaceInvariant.holds
  exact run.invariant (fun _ reached => RaceInvariant numSlots reached) initial
    fun _ _ _ _ _ inv move => race_step inv move

set_option maxRecDepth 20000 in
/-- CONNECT and a DATA message of two senders, and a DATA message of the first one behind
them that takes the next slot. -/
theorem alternating_data_sections :
    ∃ fresh added connect first middle second third both fourth fifth state position position'
      last,
      freshState blankSlotZero (fun _ => 0) (65 * vchiqSlotSize) = .ok fresh ∧
      fresh.addService sampleParams 4096 = .ok added ∧
      admitMessage added connectCall = (.ok .connect, connect) ∧
      reserveSpace connect connectCall.msgStride = .ok (position, first) ∧
      admitMessage first shortCall = (.ok .data, middle) ∧
      storeAndPublish middle connectCall .connect position = .ok second ∧
      reserveSpace second shortCall.msgStride = .ok (position', third) ∧
      storeAndPublish third shortCall .data position' = .ok both ∧
      admitMessage both fullSlotCall = (.ok .data, fourth) ∧
      reserveSpace fourth fullSlotCall.msgStride = .ok (last, fifth) ∧
      storeAndPublish fifth fullSlotCall .data last = .ok state ∧
      state.quotaState.dataUseCount = 2 :=
  ⟨_, _, _, _, _, _, _, _, _, _, _, _, _, _, rfl, rfl, rfl, rfl, rfl, rfl, rfl, rfl, rfl, rfl,
    rfl, rfl⟩

/-- Two senders that take turns in their DATA messages are accounted for. -/
theorem alternating_senders_keep_quotas :
    ∃ senders, senders.state.quotaState.dataUseCount = 2 ∧ QuotasHold senders := by
  obtain ⟨fresh, added, connect, first, middle, second, third, both, fourth, fifth, state,
    position, position', last, made, grown, connecting, reservation, admission, connected,
    reservation', publication, admission', filled, published, count⟩ := alternating_data_sections
  have connectFits : connectCall.msgStride ≤ vchiqSlotSize := by decide
  have shortFits : shortCall.msgStride ≤ vchiqSlotSize := by decide
  have connectType : msgTypeFromId connectCall.msgId ≠ some .data := by decide
  refine ⟨_, ?_, unraced_senders_keep_quotas rfl (by decide) made
    ((((((((((Run.refl.snoc ⟨.added grown, trivial⟩).snoc
      ⟨.moved (.admitted 0 rfl connecting) (by simp), trivial⟩).snoc
      ⟨.moved (.reserved 0 rfl reservation) (by simp), connectFits, ?_⟩).snoc
      ⟨.moved (.admitted 1 rfl admission) (by simp), trivial⟩).snoc
      ⟨.moved (.published 0 rfl connected) (by simp), fun isData => absurd isData connectType⟩).snoc
      ⟨.moved (.reserved 1 rfl reservation') (by simp), shortFits, ?_⟩).snoc
      ⟨.moved (.published 1 rfl publication) (by simp), fun _ => ?_⟩).snoc
      ⟨.moved (.admitted 0 rfl admission') (by simp), trivial⟩).snoc
      ⟨.moved (.reserved 0 rfl filled) (by simp), full_slot_fits, ?_⟩).snoc
      ⟨.moved (.published 0 rfl published) (by simp), fun _ => ?_⟩)⟩
  · exact count
  all_goals
    intro other different
    by_cases first : other = 0
    · simp_all [InData]
    · by_cases second : other = 1
      · simp_all [InData]
      · simp [Function.update_of_ne, first, second, InData]

/-- Two senders that both reserve before the first one accounts. -/
theorem raced_run {fresh added admitted second reserved both : State} {call : QueueCall}
    {params : ServiceParams} {handle : ServiceHandle} {first last : SlotPosition}
    (grown : fresh.addService params handle = .ok added)
    (admission : admitMessage added call = (.ok .data, admitted))
    (admission' : admitMessage admitted call = (.ok .data, second))
    (reservation : reserveSpace second call.msgStride = .ok (first, reserved))
    (reservation' : reserveSpace reserved call.msgStride = .ok (last, both)) :
    ∃ labels phase, Run QuotaSenderStep ⟨fresh, fun _ => .idle⟩ labels ⟨both, phase⟩ ∧
      phase 0 = .reserved ⟨call, first, reserved.slotState.localTxPos - call.msgStride⟩ .data := by
  refine ⟨_, _,
    ((((Run.refl.snoc (.added grown)).snoc
      (.moved (.admitted 0 rfl admission) (by simp))).snoc
      (.moved (.admitted 1 rfl admission') (by simp))).snoc
      (.moved (.reserved 0 rfl reservation) (by simp))).snoc
      (.moved (.reserved 1 rfl reservation') (by simp)), rfl⟩

set_option maxRecDepth 20000 in
/-- The sections of two messages that fill a slot each. -/
theorem raced_sections :
    ∃ fresh added admitted second reserved both published first last,
      freshState blankSlotZero (fun _ => 0) (65 * vchiqSlotSize) = .ok fresh ∧
      fresh.addService sampleParams 4096 = .ok added ∧
      admitMessage added fullSlotCall = (.ok .data, admitted) ∧
      admitMessage admitted fullSlotCall = (.ok .data, second) ∧
      reserveSpace second fullSlotCall.msgStride = .ok (first, reserved) ∧
      reserved.slotState.localTxPos - fullSlotCall.msgStride = 0 ∧
      reserveSpace reserved fullSlotCall.msgStride = .ok (last, both) ∧
      storeAndPublish both fullSlotCall .data first = .ok published ∧
      published.quotaState.previousDataIndex = 1 :=
  ⟨_, _, _, _, _, _, _, _, _, rfl, rfl, rfl, rfl, rfl, rfl, rfl, rfl, rfl⟩

/-- The first message is stored in the first slot and accounted to the second one. -/
theorem raced_senders_account_wrong_slot :
    ∃ fresh labels senders,
      freshState blankSlotZero (fun _ => 0) (65 * vchiqSlotSize) = .ok fresh ∧
      Run QuotaSenderStep ⟨fresh, fun _ => .idle⟩ labels senders ∧
      ¬QuotasHold senders := by
  obtain ⟨fresh, added, admitted, second, reserved, both, published, first, last, made, grown,
    admission, admission', reservation, begins, reservation', publication, index⟩ :=
    raced_sections
  obtain ⟨labels, phase, run, ready⟩ :=
    raced_run grown admission admission' reservation reservation'
  refine ⟨fresh, labels, ⟨both, phase⟩, made, run, ?_⟩
  intro holds
  have isData : msgTypeFromId fullSlotCall.msgId = some .data := by decide
  have step : SenderStep ⟨both, phase⟩ (.published 0
      ⟨fullSlotCall, first, reserved.slotState.localTxPos - fullSlotCall.msgStride⟩)
      ⟨published, Function.update phase 0 .idle⟩ := .published 0 ready publication
  have accounted := (holds.accounted 0 _ _ (.moved step (by simp)) isData).2.1
  have slots : (1 : Int) = slotQueueIndexFromPos 0 := by
    rw [← begins, ← index]
    exact accounted
  exact absurd slots (by decide)

end RuspiroVchiq.Quota
