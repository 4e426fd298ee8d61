import RuspiroVchiq.Vchiq.State
import RuspiroVchiq.Vchiq.Completion

/-!
# The slot handler

`slot_handler` of `vchiq/slothandler.rs`: the loop over the messages the
VideoCore published and the dispatch of one message. The handler holds the
guard of `slot_state` during the whole loop and reads the remote `tx_pos` once.
It is defined by fuel; the receive results show how much is enough.
-/

namespace RuspiroVchiq.Vchiq

open RuspiroVchiq.Config
open RuspiroVchiq.Shared
open RuspiroVchiq.Lib.ByteMemory

set_option autoImplicit false

/-- The VCHIQ instance. -/
structure Instance where
  state : State
  connected : Bool
  completion : Completion

def Instance.updateService (inst : Instance) (reference : ServiceRef)
    (change : Service → Service) : Instance :=
  { inst with state := inst.state.updateService reference change }

/-- `TryFrom` for `OpenAckPayload`, a 16 bit version. -/
def openAckVersion (message : SlotMessage) : Option Nat :=
  if message.header.size.toNat < 2 then none else some (decodeLE (message.data.take 2))

/-- The service a message is related to, if its type asks for one. -/
def receiverOf (state : State) (msgType : MessageType) (localPort remotePort : UInt32) :
    Except Panic (Option ServiceRef) :=
  match msgType with
  | .close =>
      match state.serviceByPort localPort with
      | .error panic => .error panic
      | .ok none => .error .todo
      | .ok (some reference) =>
          match state.srvState.service reference with
          | none => .ok (some reference)
          | some service =>
              if service.remoteport ≠ remotePort ∧ service.remoteport ≠ vchiqPortFree ∧
                  localPort = 0 then
                .error .todo
              else .ok (some reference)
  | .openAck | .data | .bulkRx | .bulkTx | .bulkRxDone | .bulkTxDone =>
      match state.serviceByPort localPort with
      | .error panic => .error panic
      | .ok none => .error .todo
      | .ok (some reference) => .ok (some reference)
  | _ => .ok none

/-- The effect of OPENACK on its service. -/
def Service.openAcknowledged (service : Service) (remotePort : UInt32)
    (message : SlotMessage) : Service :=
  let service :=
    match openAckVersion message with
    | none => service
    | some version => { service with peerVersion := version }
  if service.srvstate = .opening then
    { service with
      remoteport := remotePort
      srvstate := .open
      removeEvent := service.removeEvent + 1 }
  else service

/-- The effect of CLOSE on its service. A service in state OPEN is only marked. -/
def Service.closeReceived (service : Service) : Service :=
  let service := { service with closing := true }
  match service.srvstate with
  | .opening =>
      { service with srvstate := .closeWait, removeEvent := service.removeEvent + 1 }
  | .closeSent => service.closeComplete
  | _ => service

def raiseQuotaEvent (quota : ServiceQuota) : ServiceQuota :=
  { quota with quotaEvent := quota.quotaEvent + 1 }

def receiveClose (inst : Instance) (reference : ServiceRef) : Except Panic Instance :=
  match inst.state.srvState.service reference with
  | none => .error .unwrapNone
  | some service =>
      if service.localport.toNat < inst.state.quotaState.serviceQuotas.length then
        let inst := inst.updateService reference Service.closeReceived
        .ok
          { inst with
            state :=
              { inst.state with
                quotaState :=
                  { inst.state.quotaState with
                    serviceQuotas := inst.state.quotaState.serviceQuotas.modify
                      service.localport.toNat raiseQuotaEvent } } }
      else .error .indexOutOfRange

/-- The closure installed as service callback: it finds the service by its handle
and runs `service_callback` on its user data. -/
def invokeCallback (inst : Instance) (handle : ServiceHandle) (message : SlotMessage) :
    Except Panic Instance :=
  match inst.state.serviceFromHandle handle with
  | none => .error .unwrapNone
  | some reference =>
      match inst.state.srvState.service reference with
      | none => .error .unwrapNone
      | some service =>
          match serviceCallback .messageAvailable (some message) service.base.userdata
              inst.completion with
          | .error panic => .error panic
          | .ok (completion, user) =>
              let inst := inst.updateService reference fun service =>
                { service with base := { service.base with userdata := user } }
              .ok { inst with completion := completion }

/-- DATA is delivered to an open service that is connected with the sender. -/
def receiveData (inst : Instance) (reference : ServiceRef) (remotePort : UInt32)
    (message : SlotMessage) : Except Panic Instance :=
  match inst.state.srvState.service reference with
  | none => .error .unwrapNone
  | some service =>
      if service.remoteport = remotePort ∧ service.srvstate = .open then
        match service.base.callback with
        | none => .ok inst
        | some _ => invokeCallback inst service.handle message
      else .ok inst

/-- The match over the message type. -/
def handleMessage (inst : Instance) (msgType : MessageType) (receiver : Option ServiceRef)
    (remotePort : UInt32) (message : SlotMessage) : Except Panic Instance :=
  match msgType with
  | .openAck =>
      match receiver with
      | none => .error (.expectNone "OPENACK expects a service to be available")
      | some reference =>
          .ok (inst.updateService reference fun service =>
            service.openAcknowledged remotePort message)
  | .close =>
      match receiver with
      | none => .error (.expectNone "CLOSE expects a service to be available")
      | some reference => receiveClose inst reference
  | .data =>
      match receiver with
      | none => .error (.expectNone "DATA expects a service to be available")
      | some reference => receiveData inst reference remotePort message
  | .connect => .ok { inst with state := { inst.state with connect := inst.state.connect + 1 } }
  | .bulkRxDone | .bulkTxDone | .padding => .ok inst
  | .open | .bulkRx | .bulkTx | .pause | .resume | .remoteUse | .remoteRelease
  | .remoteUseActive => .error .unimplemented

/-- What the loop does with the message it has read. -/
def dispatch (inst : Instance) (message : SlotMessage) : Except Panic Instance :=
  match msgTypeFromId message.header.msgid with
  | none => .error .unreachable
  | some msgType =>
      let remotePort := srcPortFromId message.header.msgid
      match receiverOf inst.state msgType (dstPortFromId message.header.msgid) remotePort with
      | .error panic => .error panic
      | .ok receiver => handleMessage inst msgType receiver remotePort message

/-- The position of the next message. A closed slot is reopened at the slot of the
`tx_pos` that was read, not at the one of `rx_pos`. -/
def openRxSlot (slotState : SlotState) (txPos : Nat) : SlotPosition :=
  match slotState.rxData with
  | some rxData => rxData
  | none =>
      { index := slotState.slotZero.master.slotQueue (queueIndex (slotQueueIndexFromPos txPos))
        offset := 0 }

/-- The receive cursor behind a message of the given stride. -/
def advanceRx (slotState : SlotState) (rxData : SlotPosition) (msgStride : Nat) : SlotState :=
  let rxPos := slotState.rxPos + msgStride
  { slotState with
    rxPos := rxPos
    rxData :=
      if rxPos &&& vchiqSlotMask = 0 then none
      else some { index := rxData.index, offset := rxData.offset + msgStride } }

def Instance.withSlots (inst : Instance) (slotState : SlotState) : Instance :=
  { inst with state := { inst.state with slotState := slotState } }

/-- One iteration of the loop. -/
def receiveMessage (inst : Instance) (txPos : Nat) : Except Panic (SlotMessage × Instance) :=
  let rxData := openRxSlot inst.state.slotState txPos
  match inst.state.slotState.slotData.readMessage rxData with
  | .error panic => .error panic
  | .ok message =>
      match dispatch inst message with
      | .error panic => .error panic
      | .ok inst =>
          .ok (message, inst.withSlots
            (advanceRx inst.state.slotState rxData (messageStride message)))

inductive PollOutcome where
  | done (inst : Instance) (dispatched : List SlotMessage)
  | panicked (panic : Panic)
  | outOfFuel

def receiveLoop (txPos : Nat) : Nat → Instance → PollOutcome
  | 0, _ => .outOfFuel
  | fuel + 1, inst =>
      if inst.state.slotState.rxPos = txPos then .done inst []
      else
        match receiveMessage inst txPos with
        | .error panic => .panicked panic
        | .ok (message, inst) =>
            match receiveLoop txPos fuel inst with
            | .done inst dispatched => .done inst (message :: dispatched)
            | outcome => outcome

/-- One poll of `slot_handler` that gets the guard of the slot state. -/
def slotHandler (fuel : Nat) (inst : Instance) : PollOutcome :=
  receiveLoop inst.state.slotState.slotZero.master.txPos.toNat fuel inst

theorem receive_close_with_slots (inst : Instance) (slotState : SlotState)
    (reference : ServiceRef) :
    receiveClose (inst.withSlots slotState) reference =
      (receiveClose inst reference).map fun next => next.withSlots slotState := by
  unfold receiveClose
  have sameService : (inst.withSlots slotState).state.srvState.service reference =
      inst.state.srvState.service reference := rfl
  have sameQuotas : (inst.withSlots slotState).state.quotaState = inst.state.quotaState := rfl
  rw [sameService]
  cases inst.state.srvState.service reference with
  | none => rfl
  | some service =>
      by_cases bound : service.localport.toNat < inst.state.quotaState.serviceQuotas.length
      · simp only [sameQuotas, if_pos bound]
        rfl
      · simp only [sameQuotas, if_neg bound]
        rfl

theorem invoke_callback_with_slots (inst : Instance) (slotState : SlotState)
    (handle : ServiceHandle) (message : SlotMessage) :
    invokeCallback (inst.withSlots slotState) handle message =
      (invokeCallback inst handle message).map fun next => next.withSlots slotState := by
  unfold invokeCallback
  have sameReference : (inst.withSlots slotState).state.serviceFromHandle handle =
      inst.state.serviceFromHandle handle := rfl
  rw [sameReference]
  cases inst.state.serviceFromHandle handle with
  | none => rfl
  | some reference =>
      have sameService : (inst.withSlots slotState).state.srvState.service reference =
          inst.state.srvState.service reference := rfl
      have sameCompletion : (inst.withSlots slotState).completion = inst.completion := rfl
      simp only [sameService, sameCompletion]
      cases inst.state.srvState.service reference with
      | none => rfl
      | some service =>
          simp only
          cases serviceCallback .messageAvailable (some message) service.base.userdata
            inst.completion <;> rfl

theorem receive_data_with_slots (inst : Instance) (slotState : SlotState)
    (reference : ServiceRef) (remotePort : UInt32) (message : SlotMessage) :
    receiveData (inst.withSlots slotState) reference remotePort message =
      (receiveData inst reference remotePort message).map
        fun next => next.withSlots slotState := by
  unfold receiveData
  have sameService : (inst.withSlots slotState).state.srvState.service reference =
      inst.state.srvState.service reference := rfl
  rw [sameService]
  cases inst.state.srvState.service reference with
  | none => rfl
  | some service =>
      simp only
      split_ifs
      · cases service.base.callback with
        | none => rfl
        | some callback => exact invoke_callback_with_slots inst slotState _ message
      · rfl

/-- Dispatching neither reads nor writes the slot state. -/
theorem dispatch_with_slots (inst : Instance) (slotState : SlotState) (message : SlotMessage) :
    dispatch (inst.withSlots slotState) message =
      (dispatch inst message).map fun next => next.withSlots slotState := by
  unfold dispatch
  cases msgTypeFromId message.header.msgid with
  | none => rfl
  | some msgType =>
      have sameReceiver : receiverOf (inst.withSlots slotState).state msgType =
          receiverOf inst.state msgType := rfl
      simp only [sameReceiver]
      cases receiverOf inst.state msgType (dstPortFromId message.header.msgid)
          (srcPortFromId message.header.msgid) with
      | error panic => rfl
      | ok receiver =>
          simp only
          cases msgType <;> cases receiver <;>
            first
            | rfl
            | exact receive_close_with_slots inst slotState _
            | exact receive_data_with_slots inst slotState _ _ message

end RuspiroVchiq.Vchiq
