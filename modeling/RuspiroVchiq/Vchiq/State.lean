import RuspiroVchiq.Vchiq.Service

/-!
# The VCHIQ state

The record of `vchiq/state.rs`, its construction and the operations on the
service table. The record is split as the source splits it into separately
locked parts. Memory barriers and the mailbox transfer are not modelled beyond
the status word the mailbox returns.
-/

namespace RuspiroVchiq.Vchiq

open RuspiroVchiq.Config
open RuspiroVchiq.Shared
open RuspiroVchiq.Lib.ByteMemory

set_option autoImplicit false

inductive ConnectState where
  | disconnected
  | connecting
  | connected
  | pausing
  | pauseSent
  | paused
  | resuming
  | pauseTimeout
  | resumeTimeout
  deriving DecidableEq, Repr

structure SlotState where
  slotZero : SlotZero
  slotData : SlotAccessor
  txData : Option SlotPosition
  rxData : Option SlotPosition
  localTxPos : Nat
  rxPos : Nat

structure State where
  initialized : Bool
  slotState : SlotState
  connState : ConnectState
  slotQueueAvailable : Nat
  quotaState : QuotaState
  srvState : SrvState
  defaultSlotQuota : Nat
  defaultMessageQuota : Nat
  connect : Nat
  dataQuotaEvent : Nat

/-- `State::new` once the memory is allocated: `raw` and `memory` are what the
allocator left there, `totalMemory` is the size behind the slot aligned start. -/
def State.new (raw : SlotZero) (memory : Memory) (totalMemory : Nat) : Except Panic State := do
  let (slotZero, numSlots) ← initializeSlotZero raw totalMemory
  let slotQueueAvailable := slotZero.slave.slotLast - slotZero.slave.slotFirst + 1
  let defaultSlotQuota := slotQueueAvailable / 2
  return {
    initialized := false
    slotState :=
      { slotZero := slotZero
        slotData := { inner := memory, len := numSlots + vchiqSlotZeroSlots }
        txData := none
        rxData := none
        localTxPos := 0
        rxPos := 0 }
    connState := .disconnected
    slotQueueAvailable := slotQueueAvailable
    quotaState :=
      { previousDataIndex := -1
        dataUseCount := 0
        dataQuota := slotQueueAvailable - 1
        serviceQuotas := List.replicate vchiqMaxServices ServiceQuota.default }
    srvState :=
      { services := List.replicate vchiqMaxServices none
        unusedService := 0 }
    defaultSlotQuota := defaultSlotQuota
    defaultMessageQuota := min (defaultSlotQuota * 256) (2 ^ 64 - 1)
    connect := 0
    dataQuotaEvent := 0 }

/-- `State::initialize`: mark the sync slot empty and hand the memory to the
VideoCore, whose mailbox answers with the given status. -/
def initializeState (state : State) (status : Nat) : Except Stop State :=
  let slotIndex := state.slotState.slotZero.slave.slotSync
  match state.slotState.slotData.storeMessage ⟨slotIndex, 0⟩ 1 0
      (fun message => { message with header := { message.header with msgid := vchiqMsgidPadding } })
  with
  | .error panic => .error (.panic panic)
  | .ok slotData =>
      if status ≠ 0 then .error (.error (.generic "unable to set VCHIQ base address"))
      else
        .ok
          { state with
            slotState := { state.slotState with slotData := slotData }
            initialized := true }

/-- A freshly created and initialised state. -/
def freshState (raw : SlotZero) (memory : Memory) (totalMemory : Nat) : Except Stop State :=
  match State.new raw memory totalMemory with
  | .error panic => .error (.panic panic)
  | .ok state => initializeState state 0

/-- What a fresh state looks like outside the slots. -/
structure FreshState (state : State) : Prop where
  initialized : state.initialized = true
  rxPos : state.slotState.rxPos = 0
  rxData : state.slotState.rxData = none
  connState : state.connState = .disconnected
  connect : state.connect = 0
  quotas : state.quotaState.serviceQuotas =
    List.replicate vchiqMaxServices ServiceQuota.default
  services : state.srvState.services = List.replicate vchiqMaxServices none
  unused : state.srvState.unusedService = 0

/-- The state `State::new` and `State::initialize` build. -/
theorem fresh_state_eq {raw : SlotZero} {memory : Memory} {totalMemory : Nat}
    {state : State} (made : freshState raw memory totalMemory = .ok state) :
    ∃ slotZero slotData slotQueueAvailable defaultSlotQuota defaultMessageQuota,
      state =
        { initialized := true
          slotState :=
            { slotZero := slotZero
              slotData := slotData
              txData := none
              rxData := none
              localTxPos := 0
              rxPos := 0 }
          connState := .disconnected
          slotQueueAvailable := slotQueueAvailable
          quotaState :=
            { previousDataIndex := -1
              dataUseCount := 0
              dataQuota := slotQueueAvailable - 1
              serviceQuotas := List.replicate vchiqMaxServices ServiceQuota.default }
          srvState :=
            { services := List.replicate vchiqMaxServices none
              unusedService := 0 }
          defaultSlotQuota := defaultSlotQuota
          defaultMessageQuota := defaultMessageQuota
          connect := 0
          dataQuotaEvent := 0 } := by
  unfold freshState at made
  cases created : State.new raw memory totalMemory with
  | error panic => simp [created] at made
  | ok fresh =>
      simp only [created, initializeState] at made
      split at made
      · simp at made
      · simp only [ne_eq, not_true_eq_false, if_false, Except.ok.injEq] at made
        subst made
        unfold State.new at created
        cases layout : initializeSlotZero raw totalMemory with
        | error panic => simp [layout, bind, Except.bind] at created
        | ok result =>
            simp only [layout, bind, Except.bind, pure, Except.pure, Except.ok.injEq] at created
            subst created
            exact ⟨_, _, _, _, _, rfl⟩

theorem fresh_state_facts {raw : SlotZero} {memory : Memory} {totalMemory : Nat}
    {state : State} (made : freshState raw memory totalMemory = .ok state) :
    FreshState state := by
  obtain ⟨_, _, _, _, _, rfl⟩ := fresh_state_eq made
  exact ⟨rfl, rfl, rfl, rfl, rfl, rfl, rfl, rfl⟩

/-- No data message was counted yet. -/
theorem fresh_quota {raw : SlotZero} {memory : Memory} {totalMemory : Nat}
    {state : State} (made : freshState raw memory totalMemory = .ok state) :
    state.quotaState.previousDataIndex = -1 ∧ state.quotaState.dataUseCount = 0 := by
  obtain ⟨_, _, _, _, _, rfl⟩ := fresh_state_eq made
  exact ⟨rfl, rfl⟩

theorem fresh_service_absent {state : State} (facts : FreshState state)
    (reference : ServiceRef) : state.srvState.service reference = none := by
  rw [SrvState.service, facts.services, List.getElem?_replicate]
  split_ifs <;> rfl

/-- Quota bookkeeping of `add_service` for the entry the service was put into. -/
def initializeQuota (state : State) (quota : ServiceQuota) : ServiceQuota :=
  { quota with
    slotQuota := state.defaultSlotQuota
    messageQuota := state.defaultMessageQuota
    previousTxIndex :=
      if quota.slotUseCount = 0 then
        (slotQueueIndexFromPos state.slotState.localTxPos : Int) - 1
      else quota.previousTxIndex }

/-- The table index `add_service` chooses: the first empty entry below
`unused_service`, else `unused_service` itself while the table has room. -/
def SrvState.freeIndex (table : SrvState) : Option Nat :=
  match (table.services.take table.unusedService).findIdx? Option.isNone with
  | some index => some index
  | none => if table.unusedService < vchiqMaxServices then some table.unusedService else none

/-- The chosen index is below or at the end of the used part, and it is empty. -/
theorem free_index_vacant {table : SrvState} {index : Nat}
    (tail : ∀ reference, table.unusedService ≤ reference → table.service reference = none)
    (chosen : table.freeIndex = some index) :
    index ≤ table.unusedService ∧ table.service index = none := by
  unfold SrvState.freeIndex at chosen
  cases hole : (table.services.take table.unusedService).findIdx? Option.isNone with
  | some first =>
      simp only [hole, Option.some.injEq] at chosen
      subst chosen
      obtain ⟨within, isNone, _⟩ := List.findIdx?_eq_some_iff_getElem.mp hole
      have below : first < table.unusedService :=
        Nat.lt_of_lt_of_le within (List.length_take_le _ _)
      have stored : first < table.services.length :=
        Nat.lt_of_lt_of_le within (List.length_take_le' _ _)
      rw [List.getElem_take] at isNone
      refine ⟨Nat.le_of_lt below, ?_⟩
      rw [SrvState.service, List.getElem?_eq_getElem stored, Option.join_some]
      exact Option.isNone_iff_eq_none.mp isNone
  | none =>
      simp only [hole] at chosen
      split_ifs at chosen
      simp only [Option.some.injEq] at chosen
      subst chosen
      exact ⟨Nat.le_refl _, tail _ (Nat.le_refl _)⟩

/-- `add_service` for the only state it is called with, OPENING. The handle is
the one `Service::new` drew. -/
def State.addService (state : State) (params : ServiceParams) (handle : ServiceHandle) :
    Except Stop State :=
  let service := { Service.new params handle with publicFourcc := none }
  match state.srvState.freeIndex with
  | none => .error (.error .unableToAddService)
  | some index =>
      if index < state.srvState.services.length then
        .ok
          { state with
            srvState :=
              { services := state.srvState.services.set index
                  (some
                    { service with
                      localport := UInt32.ofNat index
                      srvstate := .opening })
                unusedService := state.srvState.unusedService + 1 }
            quotaState :=
              { state.quotaState with
                serviceQuotas :=
                  state.quotaState.serviceQuotas.modify index (initializeQuota state) } }
      else .error (.panic .indexOutOfRange)

/-- The service `add_service` stores at the index. -/
def openingService (params : ServiceParams) (handle : ServiceHandle) (index : Nat) : Service :=
  { Service.new params handle with
    publicFourcc := none
    localport := UInt32.ofNat index
    srvstate := .opening }

/-- The state with the new service at the index. -/
def State.entered (state : State) (params : ServiceParams) (handle : ServiceHandle)
    (index : Nat) : State :=
  { state with
    srvState :=
      { services := state.srvState.services.set index (some (openingService params handle index))
        unusedService := state.srvState.unusedService + 1 }
    quotaState :=
      { state.quotaState with
        serviceQuotas := state.quotaState.serviceQuotas.modify index (initializeQuota state) } }

theorem add_service_cases {before after : State} {params : ServiceParams}
    {handle : ServiceHandle} (addition : before.addService params handle = .ok after) :
    ∃ index, before.srvState.freeIndex = some index ∧
      index < before.srvState.services.length ∧ after = before.entered params handle index := by
  unfold State.addService at addition
  simp only at addition
  cases chosen : before.srvState.freeIndex with
  | none => simp [chosen] at addition
  | some index =>
      simp only [chosen] at addition
      split_ifs at addition with within
      simp only [Except.ok.injEq] at addition
      exact ⟨index, rfl, within, addition.symm⟩

theorem entered_here (state : State) (params : ServiceParams) (handle : ServiceHandle)
    {index : Nat} (within : index < state.srvState.services.length) :
    (state.entered params handle index).srvState.service index =
      some (openingService params handle index) := by
  rw [State.entered, SrvState.service, List.getElem?_set_self within, Option.join_some]

theorem entered_elsewhere (state : State) (params : ServiceParams) (handle : ServiceHandle)
    {index other : Nat} (differs : other ≠ index) :
    (state.entered params handle index).srvState.service other =
      state.srvState.service other := by
  rw [State.entered, SrvState.service, SrvState.service, List.getElem?_set_ne (Ne.symm differs)]

/-- The non-FREE service with this table index; an index outside the table is a
panic. -/
def State.serviceByPort (state : State) (localPort : UInt32) :
    Except Panic (Option ServiceRef) :=
  match state.srvState.services[localPort.toNat]? with
  | none => .error .indexOutOfRange
  | some none => .ok none
  | some (some service) =>
      if service.srvstate = .free then .ok none else .ok (some localPort.toNat)

def State.serviceFromHandle (state : State) (handle : ServiceHandle) : Option ServiceRef :=
  state.srvState.services.findIdx? fun entry => entry.any fun service => service.handle == handle

def State.updateService (state : State) (reference : ServiceRef)
    (change : Service → Service) : State :=
  { state with srvState := state.srvState.update reference change }

def Service.setState (service : Service) (newState : ServiceState) : Service :=
  { service with srvstate := newState }

/-- `free_service`; a wrong state is only logged. -/
def Service.free (service : Service) : Service :=
  match service.srvstate with
  | .opening | .closed | .hidden | .listening | .closeWait =>
      { service with srvstate := .free, removeEvent := service.removeEvent + 1 }
  | _ => service

/-- `close_service_complete`. Its result is discarded by the only caller. -/
def Service.closeComplete (service : Service) : Service :=
  match service.srvstate with
  | .open | .closeSent | .closeRecvd =>
      { service with srvstate := .closed, clientId := 0, remoteport := vchiqPortFree }.free
  | .listening =>
      { service with
        clientId := 0
        remoteport := vchiqPortFree
        removeEvent := service.removeEvent + 1 }
  | _ => service

end RuspiroVchiq.Vchiq
