import RuspiroVchiq.Vchiq.QueueMessage
import RuspiroVchiq.Vchiq.SlotHandler

/-!
# The calls of the VCHIQ instance

`connect`, `create_service` with `open_service`, `close_service` and
`queue_message`, cut at the semaphores they wait on: the part up to the wait is
one poll, and so is every later look at the semaphore. A call that fails keeps
what it changed before it failed.
-/

namespace RuspiroVchiq.Vchiq

open RuspiroVchiq.Config
open RuspiroVchiq.Shared

set_option autoImplicit false

/-- A message that was put on the wire, with the service it was queued for. -/
structure Outgoing where
  sender : Option ServiceRef
  message : SlotMessage

/-- The end of a poll: the message it stored, if any, and the instance it left. -/
abbrev Polled := Except Stop (Option Outgoing) × Instance

/-- A call of `queue_message` by the given sender. -/
def Instance.send (inst : Instance) (sender : Option ServiceRef) (call : QueueCall) : Polled :=
  match queueMessage inst.state call with
  | (.error stop, state) => (.error stop, { inst with state := state })
  | (.ok _, state) => (.ok (some ⟨sender, call.message⟩), { inst with state := state })

/-- `connect` up to the wait for the CONNECT of the VideoCore. -/
def Instance.beginConnect (inst : Instance) : Polled :=
  if inst.connected then (.error (.error .alreadyConnected), inst)
  else if inst.state.initialized then
    match inst.state.connState with
    | .disconnected =>
        match inst.send none connectCall with
        | (.error stop, inst) => (.error stop, inst)
        | (.ok sent, inst) =>
            (.ok sent, { inst with state := { inst.state with connState := .connecting } })
    | _ => (.ok none, inst)
  else (.error (.error .stateNotInitialized), inst)

/-- The rest of `connect`; `none` while it has to wait. -/
def Instance.finishConnect (inst : Instance) : Option Instance :=
  match inst.state.connState with
  | .connecting =>
      if 0 < inst.state.connect then
        some
          { inst with
            state :=
              { inst.state with
                connect := inst.state.connect - 1
                connState := .connected }
            connected := true }
      else none
  | _ => some { inst with connected := true }

/-- The parts of `ServiceCreation` that reach the VCHIQ side. -/
structure ServiceSetup where
  fourcc : UInt32
  version : Nat
  versionMin : Nat

/-- The parameters `create_service` passes on for a vchi service: the user data is
its vchi handle and the callback is the internal one. -/
def ServiceSetup.params (setup : ServiceSetup) (handle : ServiceHandle) : ServiceParams where
  fourcc := setup.fourcc
  callback := some .serviceCallback
  userdata := ServiceUser.new (some handle) true
  version := setup.version
  versionMin := setup.versionMin

/-- The service a handle names, with its table index. -/
def State.serviceOf (state : State) (handle : ServiceHandle) : Option (ServiceRef × Service) :=
  match state.serviceFromHandle handle with
  | none => none
  | some reference =>
      match state.srvState.service reference with
      | none => none
      | some service => some (reference, service)

/-- `open_service` up to the wait for the answer. -/
def Instance.beginOpen (inst : Instance) (srvHandle : ServiceHandle) : Polled :=
  match inst.state.serviceOf srvHandle with
  | none => (.error (.panic .unwrapNone), inst)
  | some (reference, service) => inst.send (some reference) (openCall service)

/-- `create_service` up to the wait for the answer. -/
def Instance.createService (inst : Instance) (setup : ServiceSetup)
    (handle srvHandle : ServiceHandle) : Polled :=
  if inst.connected then
    match inst.state.addService (setup.params handle) srvHandle with
    | .error stop => (.error stop, inst)
    | .ok state => { inst with state := state }.beginOpen srvHandle
  else (.error (.error .notConnected), inst)

/-- `try_down` on the semaphore of a service. -/
def Service.takeRemoveEvent (service : Service) : Service :=
  { service with removeEvent := service.removeEvent - 1 }

/-- How the answer to OPEN is judged. A refused service in state CLOSEWAIT counts as
opened. -/
def openResult (srvHandle : ServiceHandle) (srvstate : ServiceState) : Except VchiqError Unit :=
  match srvstate with
  | .open | .openSync | .closeWait => .ok ()
  | _ => .error (.unableToOpenService srvHandle)

/-- How the end of a close is judged. -/
def closeResult (srvHandle : ServiceHandle) (srvstate : ServiceState) :
    Except VchiqError Unit :=
  match srvstate with
  | .free | .listening => .ok ()
  | _ => .error (.unableToCloseService srvHandle)

/-- One poll of a wait on the service; `none` while the semaphore is not raised. -/
def Instance.awaitService (inst : Instance) (srvHandle : ServiceHandle)
    (judge : ServiceHandle → ServiceState → Except VchiqError Unit) :
    Option (Except VchiqError Unit × Instance) :=
  match inst.state.serviceOf srvHandle with
  | none => none
  | some (reference, service) =>
      if 0 < service.removeEvent then
        some (judge srvHandle service.srvstate,
          inst.updateService reference Service.takeRemoveEvent)
      else none

def Service.markClosing (service : Service) : Service := { service with closing := true }

/-- The CLOSE of an open service. A failure to queue it is swallowed, and the state
that `queue_message` has set is set once more. -/
def Instance.sendClose (inst : Instance) (reference : ServiceRef) (service : Service) : Polled :=
  match inst.send (some reference) (closeCall reference service) with
  | (.error (.error _), inst) => (.ok none, inst)
  | (.error stop, inst) => (.error stop, inst)
  | (.ok sent, inst) =>
      (.ok sent, inst.updateService reference fun service => service.setState .closeSent)

/-- `close_service` up to the wait for the end of the close. In state CLOSEWAIT or
CLOSED the service is freed at once; a close that is already under way is a
`todo!()`. -/
def Instance.beginClose (inst : Instance) (srvHandle : ServiceHandle) : Polled :=
  match inst.state.serviceOf srvHandle with
  | none => (.error (.error (.serviceNotFound srvHandle)), inst)
  | some (reference, service) =>
      let marked := inst.updateService reference Service.markClosing
      match service.srvstate with
      | .free | .listening | .hidden =>
          (.error (.error (.unableToCloseService srvHandle)), inst)
      | .closed | .closeWait => (.ok none, marked.updateService reference Service.free)
      | .opening => marked.send (some reference) (closeCall reference service)
      | .openSync | .open => marked.sendClose reference service
      | .closeSent | .closeRecvd => (.error (.panic .todo), marked)

/-- `queue_message`. -/
def Instance.queueMessage (inst : Instance) (srvHandle : ServiceHandle) (data : Payload) :
    Polled :=
  match inst.state.serviceOf srvHandle with
  | none => (.error (.error (.serviceNotFound srvHandle)), inst)
  | some (reference, service) => inst.send (some reference) (dataCall reference service data)

/-- One poll of `dequeue_message`: the readiness closure and, when it reports ready,
the removal. -/
def Instance.pollDequeue (inst : Instance) (reference : ServiceRef) : Except Stop Instance :=
  match inst.state.srvState.service reference with
  | none => .error (.panic .unwrapNone)
  | some service =>
      let storeUser := fun user =>
        inst.updateService reference fun service =>
          { service with base := { service.base with userdata := user } }
      match dequeueReady service.base.userdata with
      | (false, user) => .ok (storeUser user)
      | (true, user) =>
          match dequeueTake user with
          | .error stop => .error stop
          | .ok (_, user) => .ok (storeUser user)

end RuspiroVchiq.Vchiq
