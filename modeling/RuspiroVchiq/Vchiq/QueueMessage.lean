import RuspiroVchiq.Vchiq.State

/-!
# Queueing a message

`State::queue_message` as the three sections it executes under a `slot_state`
guard: the quota check of DATA messages, `reserve_space`, and the section that
stores the message, accounts for it and publishes the new `tx_pos`. The
sequential call composes them; concurrent senders interleave them.
-/

namespace RuspiroVchiq.Vchiq

open RuspiroVchiq.Config
open RuspiroVchiq.Shared
open RuspiroVchiq.Lib.ByteMemory

set_option autoImplicit false

/-- The arguments of a call. Without a context the payload type is `()`. The
flag `block` has no effect in the source. -/
structure QueueCall where
  service : Option ServiceRef
  msgId : UInt32
  context : Option Payload

def QueueCall.payload (call : QueueCall) : List UInt8 :=
  match call.context with
  | none => []
  | some payload => payload.bytes

def QueueCall.align (call : QueueCall) : Nat :=
  match call.context with
  | none => 1
  | some payload => payload.align

def QueueCall.msgSize (call : QueueCall) : Nat := call.payload.length

def QueueCall.msgStride (call : QueueCall) : Nat := calcMsgStride call.msgSize

/-- The message a call puts on the wire. -/
def QueueCall.message (call : QueueCall) : SlotMessage where
  header :=
    { msgid := call.msgId
      size := UInt32.ofNat call.msgSize }
  data := call.payload

/-- The condition under which a service has to wait for its quota. -/
def quotaExhausted (quota : ServiceQuota) (txEndIndex : Int) : Prop :=
  quota.messageUseCount = quota.messageQuota ∨
    (txEndIndex ≠ quota.previousTxIndex ∧ quota.slotUseCount = quota.slotQuota)

instance (quota : ServiceQuota) (txEndIndex : Int) :
    Decidable (quotaExhausted quota txEndIndex) :=
  inferInstanceAs (Decidable (_ ∨ _))

/-- The wait on the quota of one service, by the number of times the semaphore
can be taken. The guards held here keep every value the loop tests constant, so
an iteration only consumes the semaphore. -/
def quotaLoop (service : Service) (quota : ServiceQuota) (txEndIndex : Int) :
    Nat → Except Stop Unit × Nat
  | 0 => if quotaExhausted quota txEndIndex then (.error .blocked, 0) else (.ok (), 0)
  | quotaEvent + 1 =>
      if quotaExhausted quota txEndIndex then
        if service.closing then (.error (.error .serviceClosing), quotaEvent)
        else if service.srvstate ≠ .open then
          (.error (.error (.serviceAlreadyClosed service.handle)), quotaEvent)
        else quotaLoop service quota txEndIndex quotaEvent
      else (.ok (), quotaEvent + 1)

/-- The section of `queue_message` that only DATA messages execute. The wait on
the data quota never ends: `data_quota_event` is raised by nobody else and the
read guards keep the tested values constant. -/
def checkQuota (state : State) (call : QueueCall) : Except Stop Unit × State :=
  match call.service.bind state.srvState.service with
  | none => (.error (.error .dataMessageWithoutService), state)
  | some service =>
      if service.closing then
        (.error (.error (.serviceAlreadyClosed service.handle)), state)
      else
        match state.quotaState.serviceQuotas[service.localport.toNat]? with
        | none => (.error (.panic .unwrapNone), state)
        | some quota =>
            let txEndIndex : Int :=
              slotQueueIndexFromPos (state.slotState.localTxPos + call.msgStride - 1)
            if txEndIndex ≠ state.quotaState.previousDataIndex ∧
                state.quotaState.dataUseCount = state.quotaState.dataQuota then
              (.error .blocked, state)
            else
              let (result, quotaEvent) := quotaLoop service quota txEndIndex quota.quotaEvent
              (result,
                { state with
                  quotaState :=
                    { state.quotaState with
                      serviceQuotas := state.quotaState.serviceQuotas.set
                        service.localport.toNat { quota with quotaEvent := quotaEvent } } })

/-- The message type of the identifier and, for DATA, the quota check. -/
def admitMessage (state : State) (call : QueueCall) : Except Stop MessageType × State :=
  match msgTypeFromId call.msgId with
  | none => (.error (.panic .unreachable), state)
  | some msgType =>
      if msgType = .data then
        match checkQuota state call with
        | (.error stop, state) => (.error stop, state)
        | (.ok _, state) => (.ok msgType, state)
      else (.ok msgType, state)

/-- The padding message `reserve_space` writes when the request does not fit into
the current slot. It is stored where `tx_data` points. -/
def padSlot (slotState : SlotState) (slotSpace : Nat) : Except Panic SlotAccessor :=
  match slotState.txData with
  | none => .error (.expectNone "no slot available to be used")
  | some slotPos =>
      if slotSpace < headerSize then .error .arithmeticOverflow
      else
        slotState.slotData.storeMessage slotPos 1 0 fun message =>
          { message with
            header :=
              { msgid := vchiqMsgidPadding
                size := UInt32.ofNat (slotSpace - headerSize) } }

/-- The position of the message once `tx_pos` is past any padding. -/
def choosePosition (state : State) (txPos : Nat) : Except Panic SlotPosition :=
  if txPos &&& vchiqSlotMask = 0 then
    if txPos = state.slotQueueAvailable * vchiqSlotSize then .error .outOfSlots
    else
      .ok
        { index :=
            state.slotState.slotZero.slave.slotQueue (queueIndex (slotQueueIndexFromPos txPos))
          offset := 0 }
  else
    match state.slotState.txData with
    | none => .error .unwrapNone
    | some slotPos => .ok { index := slotPos.index, offset := txPos &&& vchiqSlotMask }

/-- Leave a slot whose rest is too small: its padded content and the position
the reservation continues from. -/
def leaveSlot (slotState : SlotState) (spaceNeeded : Nat) : Except Panic (SlotAccessor × Nat) :=
  let slotSpace := vchiqSlotSize - (slotState.localTxPos &&& vchiqSlotMask)
  if spaceNeeded > slotSpace then
    match padSlot slotState slotSpace with
    | .error panic => .error panic
    | .ok slotData => .ok (slotData, slotState.localTxPos + slotSpace)
  else .ok (slotState.slotData, slotState.localTxPos)

def reserveSpace (state : State) (spaceNeeded : Nat) : Except Panic (SlotPosition × State) := do
  let (slotData, txPos) ← leaveSlot state.slotState spaceNeeded
  let slotPosition ← choosePosition state txPos
  return (slotPosition,
    { state with
      slotState :=
        { state.slotState with
          slotData := slotData
          localTxPos := txPos + spaceNeeded
          txData := some slotPosition } })

/-- Account a DATA message to the slot it ends in. -/
def accountData (quotaState : QuotaState) (service : Service) (txEndIndex : Int) :
    Except Panic QuotaState :=
  match quotaState.serviceQuotas[service.localport.toNat]? with
  | none => .error .unwrapNone
  | some quota =>
      .ok
        { quotaState with
          previousDataIndex := txEndIndex
          dataUseCount :=
            if txEndIndex ≠ quotaState.previousDataIndex then quotaState.dataUseCount + 1
            else quotaState.dataUseCount
          serviceQuotas := quotaState.serviceQuotas.set service.localport.toNat
            { quota with
              previousTxIndex := txEndIndex
              slotUseCount :=
                if txEndIndex ≠ quota.previousTxIndex then quota.slotUseCount + 1
                else quota.slotUseCount } }

/-- The bookkeeping of the publishing section. Only DATA messages count. -/
def accountMessage (state : State) (call : QueueCall) (msgType : MessageType) :
    Except Panic QuotaState :=
  if msgType = .data then
    match call.service.bind state.srvState.service with
    | none => .error .unwrapNone
    | some service =>
        accountData state.quotaState service
          (slotQueueIndexFromPos (state.slotState.localTxPos - 1))
  else .ok state.quotaState

/-- A CLOSE message moves the service it was queued for to CLOSESENT. -/
def markCloseSent (table : SrvState) (call : QueueCall) (msgType : MessageType) : SrvState :=
  match call.service with
  | none => table
  | some reference =>
      if msgType = .close then
        table.update reference fun service => service.setState .closeSent
      else table

/-- The store, account and publish section. It publishes the current
`local_tx_pos`, whoever advanced it. -/
def storeAndPublish (state : State) (call : QueueCall) (msgType : MessageType)
    (slotPosition : SlotPosition) : Except Panic State := do
  if state.slotState.localTxPos = 0 then
    throw .arithmeticOverflow
  let slotData ← state.slotState.slotData.storeMessage slotPosition call.align call.msgSize
    fun message =>
      { header := call.message.header
        data := if call.context.isSome then call.payload else message.data }
  let quotaState ← accountMessage state call msgType
  let slotZero := state.slotState.slotZero
  return {
    state with
    slotState :=
      { state.slotState with
        slotData := slotData
        slotZero :=
          { slotZero with
            slave := { slotZero.slave with txPos := UInt32.ofNat state.slotState.localTxPos } } }
    quotaState := quotaState
    srvState := markCloseSent state.srvState call msgType }

/-- `reserve_space` followed by the publishing section. -/
def transmit (state : State) (call : QueueCall) (msgType : MessageType) : Except Panic State := do
  let (slotPosition, state) ← reserveSpace state call.msgStride
  storeAndPublish state call msgType slotPosition

def queueMessage (state : State) (call : QueueCall) : Except Stop Unit × State :=
  match admitMessage state call with
  | (.error stop, state) => (.error stop, state)
  | (.ok msgType, state) =>
      match transmit state call msgType with
      | .error panic => (.error (.panic panic), state)
      | .ok state => (.ok (), state)

/-- The quota check touches the quota semaphores only. -/
theorem check_quota_frame (state : State) (call : QueueCall) :
    ∃ quotas, quotas.length = state.quotaState.serviceQuotas.length ∧
      (checkQuota state call).2 =
        { state with quotaState := { state.quotaState with serviceQuotas := quotas } } := by
  unfold checkQuota
  split
  · exact ⟨_, rfl, rfl⟩
  · split
    · exact ⟨_, rfl, rfl⟩
    · split
      · exact ⟨_, rfl, rfl⟩
      · simp only
        split
        · exact ⟨_, rfl, rfl⟩
        · exact ⟨_, List.length_set, rfl⟩

/-- So does the admission. -/
theorem admit_frame {state admitted : State} {call : QueueCall}
    {result : Except Stop MessageType} (admission : admitMessage state call = (result, admitted)) :
    ∃ quotas, quotas.length = state.quotaState.serviceQuotas.length ∧ admitted =
      { state with quotaState := { state.quotaState with serviceQuotas := quotas } } := by
  unfold admitMessage at admission
  split at admission
  · obtain ⟨_, rfl⟩ := Prod.mk.inj admission
    exact ⟨_, rfl, rfl⟩
  · split_ifs at admission
    · obtain ⟨quotas, length, frame⟩ := check_quota_frame state call
      cases outcome : checkQuota state call with
      | mk checked next =>
          rw [outcome] at frame admission
          cases checked with
          | error stop =>
              obtain ⟨_, rfl⟩ := Prod.mk.inj admission
              exact ⟨quotas, length, frame⟩
          | ok _ =>
              obtain ⟨_, rfl⟩ := Prod.mk.inj admission
              exact ⟨quotas, length, frame⟩
    · obtain ⟨_, rfl⟩ := Prod.mk.inj admission
      exact ⟨_, rfl, rfl⟩

/-- An admitted message has a type, and an admitted DATA message a service that is
not closing. -/
theorem admitted_cases {state admitted : State} {call : QueueCall} {msgType : MessageType}
    (admission : admitMessage state call = (.ok msgType, admitted)) :
    msgTypeFromId call.msgId = some msgType ∧
      (msgType = .data → ∃ service, call.service.bind state.srvState.service = some service ∧
        service.closing = false) := by
  unfold admitMessage at admission
  cases idType : msgTypeFromId call.msgId with
  | none => simp [idType] at admission
  | some kind =>
      simp only [idType] at admission
      split_ifs at admission with isData
      · cases checked : checkQuota state call with
        | mk result next =>
            cases result with
            | error stop => simp [checked] at admission
            | ok _ =>
                simp only [checked, Prod.mk.injEq, Except.ok.injEq] at admission
                refine ⟨by rw [admission.1], fun _ => ?_⟩
                unfold checkQuota at checked
                cases found : call.service.bind state.srvState.service with
                | none => simp [found] at checked
                | some service =>
                    cases closing : service.closing with
                    | true => simp [found, closing] at checked
                    | false => exact ⟨service, rfl, closing⟩
      · simp only [Prod.mk.injEq, Except.ok.injEq] at admission
        rw [← admission.1]
        exact ⟨rfl, fun same => absurd same isData⟩

theorem account_message_length {state : State} {call : QueueCall} {msgType : MessageType}
    {quotaState : QuotaState} (accounted : accountMessage state call msgType = .ok quotaState) :
    quotaState.serviceQuotas.length = state.quotaState.serviceQuotas.length := by
  unfold accountMessage at accounted
  split_ifs at accounted
  · cases found : call.service.bind state.srvState.service with
    | none => simp [found] at accounted
    | some service =>
        simp only [found, accountData] at accounted
        cases quota : state.quotaState.serviceQuotas[service.localport.toNat]? with
        | none => simp [quota] at accounted
        | some record =>
            simp only [quota, Except.ok.injEq] at accounted
            rw [← accounted]
            exact List.length_set
  · simp only [Except.ok.injEq] at accounted
    rw [accounted]

/-- What a successful call does outside the slots. -/
structure Sent (before after : State) (call : QueueCall) (msgType : MessageType) : Prop where
  idType : msgTypeFromId call.msgId = some msgType
  table : after.srvState = markCloseSent before.srvState call msgType
  connState : after.connState = before.connState
  connect : after.connect = before.connect
  initialized : after.initialized = before.initialized
  quotas : after.quotaState.serviceQuotas.length = before.quotaState.serviceQuotas.length
  rxPos : after.slotState.rxPos = before.slotState.rxPos
  rxData : after.slotState.rxData = before.slotState.rxData
  notClosing : msgType = .data →
    ∃ service, call.service.bind before.srvState.service = some service ∧
      service.closing = false

theorem reserve_space_frame {state next : State} {spaceNeeded : Nat}
    {slotPosition : SlotPosition}
    (reserved : reserveSpace state spaceNeeded = .ok (slotPosition, next)) :
    ∃ slotData localTxPos, next =
      { state with
        slotState :=
          { state.slotState with
            slotData := slotData
            localTxPos := localTxPos
            txData := some slotPosition } } := by
  unfold reserveSpace at reserved
  simp only [bind, Except.bind, pure, Except.pure] at reserved
  cases left : leaveSlot state.slotState spaceNeeded with
  | error panic => simp [left] at reserved
  | ok result =>
      simp only [left] at reserved
      cases chosen : choosePosition state result.2 with
      | error panic => simp [chosen] at reserved
      | ok position =>
          simp only [chosen, Except.ok.injEq, Prod.mk.injEq] at reserved
          obtain ⟨rfl, rfl⟩ := reserved
          exact ⟨_, _, rfl⟩

theorem store_and_publish_frame {state after : State} {call : QueueCall}
    {msgType : MessageType} {slotPosition : SlotPosition}
    (published : storeAndPublish state call msgType slotPosition = .ok after) :
    ∃ slotData quotaState, slotData.len = state.slotState.slotData.len ∧
      accountMessage state call msgType = .ok quotaState ∧ after =
      { state with
        slotState :=
          { state.slotState with
            slotData := slotData
            slotZero :=
              { state.slotState.slotZero with
                slave :=
                  { state.slotState.slotZero.slave with
                    txPos := UInt32.ofNat state.slotState.localTxPos } } }
        quotaState := quotaState
        srvState := markCloseSent state.srvState call msgType } := by
  unfold storeAndPublish at published
  simp only [bind, Except.bind, pure, Except.pure] at published
  by_cases unused : state.slotState.localTxPos = 0
  · simp [if_pos unused, throw, throwThe, MonadExceptOf.throw] at published
  · simp only [if_neg unused] at published
    split at published
    · simp at published
    · rename_i slotData stored
      cases accounted : accountMessage state call msgType with
      | error panic => simp [accounted] at published
      | ok quotaState =>
          simp only [accounted, Except.ok.injEq] at published
          subst published
          exact ⟨_, _, store_message_len stored, rfl, rfl⟩

/-- The sections a successful call goes through. -/
theorem queue_message_sections {before after : State} {call : QueueCall} :
    queueMessage before call = (.ok (), after) ↔
      ∃ msgType admitted position reserved,
        admitMessage before call = (.ok msgType, admitted) ∧
        reserveSpace admitted call.msgStride = .ok (position, reserved) ∧
        storeAndPublish reserved call msgType position = .ok after := by
  constructor
  · intro success
    unfold queueMessage at success
    cases admission : admitMessage before call with
    | mk result admitted =>
        cases result with
        | error stop => simp [admission] at success
        | ok msgType =>
            simp only [admission, transmit, bind, Except.bind] at success
            cases reservation : reserveSpace admitted call.msgStride with
            | error panic => simp [reservation] at success
            | ok reserved =>
                simp only [reservation] at success
                cases publication : storeAndPublish reserved.2 call msgType reserved.1 with
                | error panic => simp [publication] at success
                | ok published =>
                    simp only [publication, Prod.mk.injEq, true_and] at success
                    subst success
                    exact ⟨msgType, admitted, reserved.1, reserved.2, rfl, reservation,
                      publication⟩
  · rintro ⟨msgType, admitted, position, reserved, admission, reservation, publication⟩
    simp only [queueMessage, admission, transmit, bind, Except.bind, reservation, publication]

theorem queue_message_sent {before after : State} {call : QueueCall}
    (sent : queueMessage before call = (.ok (), after)) :
    ∃ msgType, Sent before after call msgType := by
  obtain ⟨msgType, admitted, position, reserved, admission, reservation, publication⟩ :=
    queue_message_sections.mp sent
  obtain ⟨idType, notClosing⟩ := admitted_cases admission
  obtain ⟨quotas, quotaLength, frame⟩ := admit_frame admission
  obtain ⟨_, _, reservedFrame⟩ := reserve_space_frame reservation
  obtain ⟨_, quotaState, _, accounted, publishedFrame⟩ := store_and_publish_frame publication
  have accountedLength := account_message_length accounted
  refine ⟨msgType, idType, ?_, ?_, ?_, ?_, ?_, ?_, ?_, notClosing⟩
  · rw [publishedFrame, reservedFrame, frame]
  · rw [publishedFrame, reservedFrame, frame]
  · rw [publishedFrame, reservedFrame, frame]
  · rw [publishedFrame, reservedFrame, frame]
  · rw [publishedFrame]
    simp only
    rw [accountedLength, reservedFrame, frame]
    exact quotaLength
  · rw [publishedFrame, reservedFrame, frame]
  · rw [publishedFrame, reservedFrame, frame]

/-- A call without a result leaves the state of its quota check behind. -/
theorem queue_message_refused {before after : State} {call : QueueCall} {stop : Stop}
    (refused : queueMessage before call = (.error stop, after)) :
    ∃ quotas, quotas.length = before.quotaState.serviceQuotas.length ∧ after =
      { before with quotaState := { before.quotaState with serviceQuotas := quotas } } := by
  unfold queueMessage at refused
  cases admission : admitMessage before call with
  | mk result admitted =>
      have same : admitted = after := by
        cases result with
        | error stop =>
            simp only [admission, Prod.mk.injEq] at refused
            exact refused.2
        | ok msgType =>
            simp only [admission] at refused
            cases sent : transmit admitted call msgType with
            | ok state => simp [sent] at refused
            | error panic =>
                simp only [sent, Prod.mk.injEq] at refused
                exact refused.2
      rw [← same]
      exact admit_frame admission

/-- Only the section for DATA messages refuses a call. -/
theorem queue_message_refused_data {before after : State} {call : QueueCall}
    {error : VchiqError}
    (refused : queueMessage before call = (.error (.error error), after)) :
    msgTypeFromId call.msgId = some .data := by
  unfold queueMessage at refused
  cases admission : admitMessage before call with
  | mk result admitted =>
      cases result with
      | ok msgType =>
          simp only [admission] at refused
          cases sent : transmit admitted call msgType <;> simp [sent] at refused
      | error stop =>
          simp only [admission, Prod.mk.injEq, Except.error.injEq] at refused
          rw [refused.1] at admission
          unfold admitMessage at admission
          cases idType : msgTypeFromId call.msgId with
          | none => simp [idType] at admission
          | some msgType =>
              simp only [idType] at admission
              split_ifs at admission with isData
              · rw [isData]
              · simp at admission

/-- The call `State::connect` makes. -/
def connectCall : QueueCall where
  service := none
  msgId := makeMsgId .connect 0 0
  context := none

/-- `OpenPayload`, with its fields in declaration order. -/
def openPayload (service : Service) : Payload where
  alignLog := 2
  bytes := encodeU32 service.base.fourcc ++ encodeU32 0 ++ encodeLE 2 service.version ++
    encodeLE 2 service.versionMin
  aligned := ⟨3, by simp⟩

/-- The call `open_service` makes. -/
def openCall (service : Service) : QueueCall where
  service := none
  msgId := makeMsgId .open service.localport 0
  context := some (openPayload service)

/-- The call `close_service` makes. -/
def closeCall (reference : ServiceRef) (service : Service) : QueueCall where
  service := some reference
  msgId := makeMsgId .close service.localport (service.remoteport &&& 0x0fff)
  context := none

/-- The call `Instance::queue_message` makes. -/
def dataCall (reference : ServiceRef) (service : Service) (payload : Payload) : QueueCall where
  service := some reference
  msgId := makeMsgId .data service.localport service.remoteport
  context := some payload

end RuspiroVchiq.Vchiq
