import RuspiroVchiq.Transmit.Reservation
import RuspiroVchiq.Lib.DistinctCount

/-!
# What the sections of `queue_message` do to the quotas

The usage of a service is its quota record without the semaphore, which only the
waits move. The check of a DATA message compares the usage with the slot the
message is expected to end in, the publishing section accounts the message to the
slot behind `local_tx_pos`, and `add_service` sets the record of a new service up.
-/

namespace RuspiroVchiq.Quota

open RuspiroVchiq.Config
open RuspiroVchiq.Shared
open RuspiroVchiq.Vchiq
open RuspiroVchiq.Transmit

set_option autoImplicit false

def usageOf (quota : ServiceQuota) : ServiceQuota := { quota with quotaEvent := 0 }

def usage (state : State) (port : Nat) : Option ServiceQuota :=
  state.quotaState.serviceQuotas[port]?.map usageOf

/-- The slot queue index a message is expected to end in before its space is
reserved. -/
def predictedEnd (state : State) (call : QueueCall) : Int :=
  slotQueueIndexFromPos (state.slotState.localTxPos + call.msgStride - 1)

/-- Nothing but the quota semaphores moved. -/
structure QuotaKept (before after : State) : Prop where
  usage : usage after = usage before
  previousDataIndex : after.quotaState.previousDataIndex = before.quotaState.previousDataIndex
  dataUseCount : after.quotaState.dataUseCount = before.quotaState.dataUseCount
  dataQuota : after.quotaState.dataQuota = before.quotaState.dataQuota
  srvState : after.srvState = before.srvState

theorem QuotaKept.refl (state : State) : QuotaKept state state :=
  ⟨rfl, rfl, rfl, rfl, rfl⟩

theorem usage_set_event {quotas : List ServiceQuota} {quota : ServiceQuota} {port : Nat}
    (found : quotas[port]? = some quota) (event other : Nat) :
    (quotas.set port { quota with quotaEvent := event })[other]?.map usageOf =
      quotas[other]?.map usageOf := by
  by_cases same : port = other
  · subst same
    have bound := (List.getElem?_eq_some_iff.mp found).1
    rw [List.getElem?_set_self bound, found]
    rfl
  · rw [List.getElem?_set_ne same]

theorem usage_modify (quotas : List ServiceQuota) (port : Nat)
    (change : ServiceQuota → ServiceQuota)
    (plain : ∀ quota, usageOf (change quota) = change (usageOf quota)) (other : Nat) :
    (quotas.modify port change)[other]?.map usageOf =
      if other = port then (quotas[other]?.map usageOf).map change
      else quotas[other]?.map usageOf := by
  rw [List.getElem?_modify]
  by_cases same : port = other
  · rw [if_pos same.symm]
    cases quotas[other]? with
    | none => rfl
    | some quota => simp [same, plain]
  · rw [if_neg (Ne.symm same)]
    cases quotas[other]? with
    | none => rfl
    | some quota => simp [same]

theorem check_quota_kept (state : State) (call : QueueCall) :
    QuotaKept state (checkQuota state call).2 := by
  unfold checkQuota
  split
  · exact QuotaKept.refl state
  · split
    · exact QuotaKept.refl state
    · split
      · exact QuotaKept.refl state
      · rename_i quota found
        simp only
        split
        · exact QuotaKept.refl state
        · refine ⟨?_, rfl, rfl, rfl, rfl⟩
          funext port
          exact usage_set_event found _ port

theorem admit_kept {state admitted : State} {call : QueueCall}
    {result : Except Stop MessageType} (admission : admitMessage state call = (result, admitted)) :
    QuotaKept state admitted := by
  unfold admitMessage at admission
  split at admission
  · rw [← (Prod.mk.inj admission).2]
    exact QuotaKept.refl state
  · split_ifs at admission
    · have kept := check_quota_kept state call
      cases outcome : checkQuota state call with
      | mk checked next =>
          rw [outcome] at kept admission
          cases checked with
          | error stop =>
              rw [← (Prod.mk.inj admission).2]
              exact kept
          | ok _ =>
              rw [← (Prod.mk.inj admission).2]
              exact kept
    · rw [← (Prod.mk.inj admission).2]
      exact QuotaKept.refl state

/-- The wait on the quota of a service ends well only where there is nothing to wait
for. -/
theorem quota_loop_ok {service : Service} {quota : ServiceQuota} {txEndIndex : Int}
    {event : Nat} (passed : (quotaLoop service quota txEndIndex event).1 = .ok ()) :
    ¬quotaExhausted quota txEndIndex := by
  intro exhausted
  induction event with
  | zero => simp [quotaLoop, exhausted] at passed
  | succ event ih =>
      simp only [quotaLoop, if_pos exhausted] at passed
      split_ifs at passed
      exact ih passed

/-- What the check of a DATA message has found that is to end in the given slot. -/
structure DataAdmitted (state : State) (call : QueueCall) (txEndIndex : Int)
    (reference : ServiceRef) (service : Service) (quota : ServiceQuota) : Prop where
  named : call.service = some reference
  stored : state.srvState.service reference = some service
  record : usage state service.localport.toNat = some quota
  dataQuota : ¬(txEndIndex ≠ state.quotaState.previousDataIndex ∧
    state.quotaState.dataUseCount = state.quotaState.dataQuota)
  messageQuota : quota.messageUseCount ≠ quota.messageQuota
  slotQuota : ¬(txEndIndex ≠ quota.previousTxIndex ∧ quota.slotUseCount = quota.slotQuota)

theorem data_admitted {state admitted : State} {call : QueueCall}
    (admission : admitMessage state call = (.ok .data, admitted)) :
    ∃ reference service quota,
      DataAdmitted state call (predictedEnd state call) reference service quota := by
  have isData := (admitted_cases admission).1
  simp only [admitMessage, isData, if_true] at admission
  cases outcome : checkQuota state call with
  | mk checked next =>
      rw [outcome] at admission
      cases checked with
      | error stop => simp at admission
      | ok _ =>
          unfold checkQuota at outcome
          cases lookup : call.service.bind state.srvState.service with
          | none => simp [lookup] at outcome
          | some service =>
              cases closing : service.closing with
              | true => simp [lookup, closing] at outcome
              | false =>
                  simp only [lookup, closing, Bool.false_eq_true, if_false] at outcome
                  cases record : state.quotaState.serviceQuotas[service.localport.toNat]? with
                  | none => simp [record] at outcome
                  | some quota =>
                      simp only [record] at outcome
                      split_ifs at outcome with full
                      · simp at outcome
                      · obtain ⟨reference, named, stored⟩ := Option.bind_eq_some_iff.mp lookup
                        have within := not_or.mp (quota_loop_ok (congrArg Prod.fst outcome))
                        refine ⟨reference, service, usageOf quota, named, stored, ?_, full,
                          within.1, within.2⟩
                        rw [usage, record, Option.map_some]

/-- The finding stands as long as the counters it compared do. -/
theorem DataAdmitted.transfer {before after : State} {call : QueueCall} {txEndIndex : Int}
    {reference : ServiceRef} {service later : Service} {quota : ServiceQuota}
    (admitted : DataAdmitted before call txEndIndex reference service quota)
    (stored : after.srvState.service reference = some later)
    (port : later.localport = service.localport)
    (record : usage after service.localport.toNat = usage before service.localport.toNat)
    (previous : after.quotaState.previousDataIndex = before.quotaState.previousDataIndex)
    (count : after.quotaState.dataUseCount = before.quotaState.dataUseCount)
    (dataQuota : after.quotaState.dataQuota = before.quotaState.dataQuota) :
    DataAdmitted after call txEndIndex reference later quota := by
  constructor
  · exact admitted.named
  · exact stored
  · rw [port, record]
    exact admitted.record
  · rw [previous, count, dataQuota]
    exact admitted.dataQuota
  · exact admitted.messageQuota
  · exact admitted.slotQuota

theorem DataAdmitted.kept {before after : State} {call : QueueCall} {txEndIndex : Int}
    {reference : ServiceRef} {service : Service} {quota : ServiceQuota}
    (admitted : DataAdmitted before call txEndIndex reference service quota)
    (kept : QuotaKept before after) :
    DataAdmitted after call txEndIndex reference service quota := by
  apply admitted.transfer _ rfl _ kept.previousDataIndex kept.dataUseCount kept.dataQuota
  · rw [kept.srvState]
    exact admitted.stored
  · rw [kept.usage]

/-- What a DATA message moves when it is accounted to the slot. -/
structure DataAccounted (before : State) (after : QuotaState) (service : Service)
    (quota : ServiceQuota) (txEndIndex : Int) : Prop where
  record : usage before service.localport.toNat = some quota
  previousDataIndex : after.previousDataIndex = txEndIndex
  dataUseCount : after.dataUseCount =
    if txEndIndex ≠ before.quotaState.previousDataIndex then
      before.quotaState.dataUseCount + 1
    else before.quotaState.dataUseCount
  dataQuota : after.dataQuota = before.quotaState.dataQuota
  own : after.serviceQuotas[service.localport.toNat]?.map usageOf =
    some
      { quota with
        previousTxIndex := txEndIndex
        slotUseCount :=
          if txEndIndex ≠ quota.previousTxIndex then quota.slotUseCount + 1
          else quota.slotUseCount }
  others : ∀ port, port ≠ service.localport.toNat →
    after.serviceQuotas[port]?.map usageOf = usage before port

theorem DataAccounted.earlier {before later : State} {after : QuotaState} {service : Service}
    {quota : ServiceQuota} {txEndIndex : Int}
    (accounted : DataAccounted later after service quota txEndIndex)
    (kept : QuotaKept before later) :
    DataAccounted before after service quota txEndIndex := by
  constructor
  · rw [← kept.usage]
    exact accounted.record
  · exact accounted.previousDataIndex
  · rw [accounted.dataUseCount, kept.previousDataIndex, kept.dataUseCount]
  · rw [accounted.dataQuota, kept.dataQuota]
  · exact accounted.own
  · intro port other
    rw [accounted.others port other, kept.usage]

theorem data_accounted {state : State} {call : QueueCall} {quotaState : QuotaState}
    (accounted : accountMessage state call .data = .ok quotaState) :
    ∃ service quota, call.service.bind state.srvState.service = some service ∧
      DataAccounted state quotaState service quota
        (slotQueueIndexFromPos (state.slotState.localTxPos - 1)) := by
  simp only [accountMessage, if_true] at accounted
  cases lookup : call.service.bind state.srvState.service with
  | none => simp [lookup] at accounted
  | some service =>
      simp only [lookup, accountData] at accounted
      cases record : state.quotaState.serviceQuotas[service.localport.toNat]? with
      | none => simp [record] at accounted
      | some quota =>
          simp only [record, Except.ok.injEq] at accounted
          subst accounted
          have bound := (List.getElem?_eq_some_iff.mp record).1
          refine ⟨service, usageOf quota, rfl, ?_, rfl, rfl, rfl, ?_, ?_⟩
          · rw [usage, record, Option.map_some]
          · rw [List.getElem?_set_self bound, Option.map_some]
            rfl
          · intro port other
            rw [List.getElem?_set_ne (Ne.symm other)]
            rfl

/-- Messages of any other type are not accounted. -/
theorem account_other {state : State} {call : QueueCall} {msgType : MessageType}
    {quotaState : QuotaState} (notData : msgType ≠ .data)
    (accounted : accountMessage state call msgType = .ok quotaState) :
    quotaState = state.quotaState := by
  simp only [accountMessage, if_neg notData, Except.ok.injEq] at accounted
  exact accounted.symm

/-- What is known of the service table between the steps. -/
structure TableShape (state : State) : Prop where
  length : state.srvState.services.length = vchiqMaxServices
  records : ∀ port, port < vchiqMaxServices → ∃ quota, usage state port = some quota
  tail : ∀ reference, state.srvState.unusedService ≤ reference →
    state.srvState.service reference = none
  ports : ∀ reference service, state.srvState.service reference = some service →
    service.localport.toNat = reference ∧ reference < vchiqMaxServices

theorem TableShape.kept {before after : State} (shape : TableShape before)
    (kept : QuotaKept before after) : TableShape after := by
  constructor
  · rw [kept.srvState]
    exact shape.length
  · rw [kept.usage]
    exact shape.records
  · rw [kept.srvState]
    exact shape.tail
  · rw [kept.srvState]
    exact shape.ports

/-- A CLOSE changes the state of its service only. -/
theorem mark_close_sent_port (table : SrvState) (call : QueueCall) (msgType : MessageType)
    (port : ServiceRef) :
    ((markCloseSent table call msgType).service port).map Service.localport =
      (table.service port).map Service.localport := by
  unfold markCloseSent
  split
  · rfl
  · split_ifs
    · rw [service_update]
      split_ifs
      · rw [Option.map_map]
        rfl
      · rfl
    · rfl

theorem mark_close_sent_table (table : SrvState) (call : QueueCall) (msgType : MessageType) :
    (markCloseSent table call msgType).services.length = table.services.length ∧
      (markCloseSent table call msgType).unusedService = table.unusedService := by
  unfold markCloseSent
  split
  · exact ⟨rfl, rfl⟩
  · split_ifs
    · exact ⟨update_length _ _ _, rfl⟩
    · exact ⟨rfl, rfl⟩

/-- What the publishing section does outside the slots. -/
structure Published (before after : State) (call : QueueCall) (msgType : MessageType) :
    Prop where
  table : after.srvState = markCloseSent before.srvState call msgType
  cursor : after.slotState.localTxPos = before.slotState.localTxPos
  base : slotBase after = slotBase before
  available : after.slotQueueAvailable = before.slotQueueAvailable
  data : msgType = .data → ∃ service quota,
    call.service.bind before.srvState.service = some service ∧
      DataAccounted before after.quotaState service quota
        (slotQueueIndexFromPos (before.slotState.localTxPos - 1))
  other : msgType ≠ .data → after.quotaState = before.quotaState

theorem published_quota {before after : State} {call : QueueCall} {msgType : MessageType}
    {position : SlotPosition}
    (publication : storeAndPublish before call msgType position = .ok after) :
    Published before after call msgType := by
  obtain ⟨slotData, quotaState, _, accounted, rfl⟩ := store_and_publish_frame publication
  constructor
  · rfl
  · rfl
  · rfl
  · rfl
  · intro isData
    subst isData
    exact data_accounted accounted
  · intro notData
    exact account_other notData accounted

/-- The service that was checked is the one the message is accounted to. -/
theorem Published.accounted {before after : State} {call : QueueCall} {txEndIndex : Int}
    {reference : ServiceRef} {service : Service} {quota : ServiceQuota}
    (published : Published before after call .data)
    (admitted : DataAdmitted before call txEndIndex reference service quota) :
    DataAccounted before after.quotaState service quota
      (slotQueueIndexFromPos (before.slotState.localTxPos - 1)) := by
  obtain ⟨target, record, found, accounted⟩ := published.data rfl
  have sameService : target = service := by
    rw [admitted.named, Option.bind_some, admitted.stored] at found
    exact (Option.some.inj found).symm
  subst sameService
  have sameQuota : record = quota := by
    have recorded := accounted.record
    rw [admitted.record] at recorded
    exact (Option.some.inj recorded).symm
  subst sameQuota
  exact accounted

/-- Publishing keeps what `reserve_space` relies on, wherever the message is stored. -/
theorem published_reservation {numSlots : Nat} {before after : State} {call : QueueCall}
    {msgType : MessageType} {position : SlotPosition}
    (inv : ReservationInvariant numSlots before)
    (publication : storeAndPublish before call msgType position = .ok after) :
    ReservationInvariant numSlots after := by
  obtain ⟨slotData, quotaState, length, _, rfl⟩ := store_and_publish_frame publication
  have layout := inv.layout
  refine inv.congr ?_ rfl length rfl rfl
  exact ⟨layout.lower, layout.upper, layout.masterSync, layout.masterFirst, layout.masterLast,
    layout.slaveSync, layout.slaveFirst, layout.slaveLast, layout.queue⟩

theorem Published.port {before after : State} {call : QueueCall} {msgType : MessageType}
    (published : Published before after call msgType) (port : ServiceRef) :
    (after.srvState.service port).map Service.localport =
      (before.srvState.service port).map Service.localport := by
  rw [published.table]
  exact mark_close_sent_port _ call msgType port

theorem Published.shape {before after : State} {call : QueueCall} {msgType : MessageType}
    (published : Published before after call msgType) (shape : TableShape before) :
    TableShape after := by
  obtain ⟨length, unused⟩ := mark_close_sent_table before.srvState call msgType
  constructor
  · rw [published.table, length]
    exact shape.length
  · intro port bound
    by_cases isData : msgType = .data
    · obtain ⟨service, quota, _, accounted⟩ := published.data isData
      by_cases own : port = service.localport.toNat
      · rw [own]
        exact ⟨_, accounted.own⟩
      · obtain ⟨record, found⟩ := shape.records port bound
        exact ⟨record, (accounted.others port own).trans found⟩
    · rw [usage, published.other isData]
      exact shape.records port bound
  · intro reference beyond
    rw [published.table, unused] at beyond
    have same := published.port reference
    rw [shape.tail reference beyond, Option.map_none, Option.map_eq_none_iff] at same
    exact same
  · intro reference service stored
    have same := published.port reference
    rw [stored, Option.map_some] at same
    obtain ⟨old, found, port⟩ := Option.map_eq_some_iff.mp same.symm
    rw [← port]
    exact shape.ports reference old found

/-- What `add_service` does to the table and the quotas. -/
structure ServiceEntered (before after : State) (port : ServiceRef) (service : Service) :
    Prop where
  vacant : before.srvState.service port = none
  here : after.srvState.service port = some service
  elsewhere : ∀ other, other ≠ port →
    after.srvState.service other = before.srvState.service other
  record : usage after port = (usage before port).map (initializeQuota before)
  others : ∀ other, other ≠ port → usage after other = usage before other
  previousDataIndex : after.quotaState.previousDataIndex = before.quotaState.previousDataIndex
  dataUseCount : after.quotaState.dataUseCount = before.quotaState.dataUseCount
  dataQuota : after.quotaState.dataQuota = before.quotaState.dataQuota
  slots : after.slotState = before.slotState
  available : after.slotQueueAvailable = before.slotQueueAvailable

theorem service_entered {before after : State} {params : ServiceParams}
    {handle : ServiceHandle} (shape : TableShape before)
    (addition : before.addService params handle = .ok after) :
    TableShape after ∧ ∃ port service, ServiceEntered before after port service := by
  obtain ⟨port, chosen, within, rfl⟩ := add_service_cases addition
  obtain ⟨below, vacant⟩ := free_index_vacant shape.tail chosen
  have small : port < vchiqMaxServices := shape.length ▸ within
  have here := entered_here before params handle within
  have elsewhere : ∀ other, other ≠ port →
      (before.entered params handle port).srvState.service other =
        before.srvState.service other :=
    fun _ differs => entered_elsewhere before params handle differs
  have record : ∀ other, usage (before.entered params handle port) other =
      if other = port then (usage before other).map (initializeQuota before)
      else usage before other := by
    intro other
    exact usage_modify _ port (initializeQuota before) (fun _ => rfl) other
  refine ⟨⟨?_, ?_, ?_, ?_⟩, port, _, vacant, here, elsewhere, ?_, ?_, rfl, rfl, rfl, rfl, rfl⟩
  · exact List.length_set.trans shape.length
  · intro other bound
    obtain ⟨quota, found⟩ := shape.records other bound
    rw [record, found]
    split_ifs
    · exact ⟨_, rfl⟩
    · exact ⟨_, rfl⟩
  · intro reference beyond
    have past : before.srvState.unusedService < reference := beyond
    rw [elsewhere reference (Nat.ne_of_gt (Nat.lt_of_le_of_lt below past))]
    exact shape.tail reference (Nat.le_of_lt past)
  · intro reference service stored
    by_cases same : reference = port
    · subst same
      rw [here, Option.some.injEq] at stored
      rw [← stored, openingService, UInt32.toNat_ofNat']
      exact ⟨Nat.mod_eq_of_lt (Nat.lt_trans small (by decide)), small⟩
    · rw [elsewhere reference same] at stored
      exact shape.ports reference service stored
  · rw [record, if_pos rfl]
  · intro other differs
    rw [record, if_neg differs]

end RuspiroVchiq.Quota
