import RuspiroVchiq.Shared.SlotZero
import RuspiroVchiq.Lib.RingQueue

/-!
# Services, quotas and completions

The records of `vchiq/service.rs`, `vchiq/instance/completion.rs` and
`crate::types`. Semaphores are counters. Every service of this crate is created
by `Instance::create_service`, so its user data is always a `ServiceUser` and
its callback, while installed, is always the one internal callback.
-/

namespace RuspiroVchiq.Vchiq

open RuspiroVchiq.Config
open RuspiroVchiq.Shared
open RuspiroVchiq.Lib.RingQueue

set_option autoImplicit false

def vchiqPortFree : UInt32 := 0x1000

inductive ServiceState where
  | free
  | hidden
  | listening
  | opening
  | open
  | openSync
  | closeSent
  | closeRecvd
  | closeWait
  | closed
  deriving DecidableEq, Repr

inductive Reason where
  | serviceOpened
  | serviceClosed
  | messageAvailable
  | bulkTransmitDone
  | bulkReceiveDone
  | bulkTransmitAborted
  | bulkReceiveAborted
  deriving DecidableEq, Repr

/-- The user data of a completion is the handle the vchi layer passed when it
created the service. -/
structure ServiceCompletion where
  reason : Reason
  msg : Option SlotMessage
  serviceUserdata : Option ServiceHandle
  deriving DecidableEq, Repr

structure Completion where
  completionInsert : Nat
  completionRemove : Nat
  insertEvent : Nat
  removeEvent : Nat
  completions : Ring maxCompletions ServiceCompletion

def Completion.default : Completion where
  completionInsert := 0
  completionRemove := 0
  insertEvent := 0
  removeEvent := 0
  completions := fun _ => none

structure ServiceUser where
  userdata : Option ServiceHandle
  isVchi : Bool
  dequeuePending : Bool
  messageAvailablePos : Int
  msgInsert : Nat
  msgRemove : Nat
  insertEvent : Nat
  removeEvent : Nat
  msgQueue : Ring msgQueueSize SlotMessage

/-- The user service `create_service` builds. -/
def ServiceUser.new (userdata : Option ServiceHandle) (vchi : Bool) : ServiceUser where
  userdata := userdata
  isVchi := vchi
  dequeuePending := false
  messageAvailablePos := -1
  msgInsert := 0
  msgRemove := 0
  insertEvent := 0
  removeEvent := 0
  msgQueue := fun _ => none

/-- The closure `create_service` installs: it looks the service up by its handle
and runs `service_callback` on it. -/
inductive VchiqCallback where
  | serviceCallback
  deriving DecidableEq, Repr

structure ServiceBase where
  fourcc : UInt32
  callback : Option VchiqCallback
  userdata : ServiceUser

structure ServiceParams where
  fourcc : UInt32
  callback : Option VchiqCallback
  userdata : ServiceUser
  version : Nat
  versionMin : Nat

structure Service where
  base : ServiceBase
  handle : ServiceHandle
  srvstate : ServiceState
  localport : UInt32
  remoteport : UInt32
  publicFourcc : Option UInt32
  clientId : Int
  closing : Bool
  version : Nat
  versionMin : Nat
  peerVersion : Nat
  removeEvent : Nat

/-- `Service::new` with the handle it drew from `NEXT_SRV_HANDLE`. -/
def Service.new (params : ServiceParams) (handle : ServiceHandle) : Service where
  base :=
    { fourcc := params.fourcc
      callback := params.callback
      userdata := params.userdata }
  handle := handle
  srvstate := .free
  localport := vchiqPortFree
  remoteport := vchiqPortFree
  publicFourcc := some params.fourcc
  clientId := 0
  closing := false
  version := params.version
  versionMin := params.versionMin
  peerVersion := 0
  removeEvent := 0

structure ServiceQuota where
  slotQuota : Nat
  slotUseCount : Nat
  messageQuota : Nat
  messageUseCount : Nat
  quotaEvent : Nat
  previousTxIndex : Int
  deriving DecidableEq

def ServiceQuota.default : ServiceQuota where
  slotQuota := 0
  slotUseCount := 0
  messageQuota := 0
  messageUseCount := 0
  quotaEvent := 0
  previousTxIndex := 0

structure QuotaState where
  previousDataIndex : Int
  dataUseCount : Nat
  dataQuota : Nat
  serviceQuotas : List ServiceQuota

structure SrvState where
  services : List (Option Service)
  unusedService : Nat

/-- A shared reference to a service is the index of its table entry: entries are
never removed or replaced once a service is stored in them. -/
abbrev ServiceRef := Nat

def SrvState.service (table : SrvState) (reference : ServiceRef) : Option Service :=
  table.services[reference]?.join

def SrvState.update (table : SrvState) (reference : ServiceRef)
    (change : Service → Service) : SrvState :=
  { table with services := table.services.modify reference (Option.map change) }

@[simp] theorem service_update (table : SrvState) (reference other : ServiceRef)
    (change : Service → Service) :
    (table.update reference change).service other =
      if reference = other then (table.service other).map change else table.service other := by
  simp only [SrvState.service, SrvState.update, List.getElem?_modify]
  by_cases same : reference = other
  · simp only [if_pos same]
    cases table.services[other]? <;> rfl
  · simp only [if_neg same]
    cases table.services[other]? <;> rfl

@[simp] theorem update_length (table : SrvState) (reference : ServiceRef)
    (change : Service → Service) :
    (table.update reference change).services.length = table.services.length := by
  simp [SrvState.update]

end RuspiroVchiq.Vchiq
