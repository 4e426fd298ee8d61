import RuspiroVchiq.Vchi.ClientDelivery
import RuspiroVchiq.Delivery.Causes

/-!
# The callbacks of the clients

The service records of the vchi instance with the callbacks and parameters clients open
them with, and `completion_handler` with the calls it makes. What a client is told is
caused by messages for its own service: it is called with its own parameter, with reason
MESSAGE_AVAILABLE and no other, and at most once for each message.
-/

namespace RuspiroVchiq.Vchi

open RuspiroVchiq.Config
open RuspiroVchiq.Shared
open RuspiroVchiq.Vchiq
open RuspiroVchiq.Delivery
open RuspiroVchiq.Lib.LabelledRun
open RuspiroVchiq.Lib.ByteMemory

set_option autoImplicit false

variable {Callback Data : Type}

/-- The parts of `ServiceCreation` that are read. -/
structure ServiceCreation (Callback Data : Type) where
  setup : ServiceSetup
  callback : Option Callback
  callbackParam : Option Data

/-- The parts of `ServiceBase` that are read. -/
structure VchiServiceBase (Data : Type) where
  callback : Option VchiqCallback
  userdata : Option Data

/-- The parts of `vchi::Service` that are read; the handle is the one of the VCHIQ service. -/
structure VchiService (Callback Data : Type) where
  base : VchiServiceBase Data
  vchiCallback : Option Callback
  handle : ServiceHandle

/-- The record `create_service` enters; `service_open` passes no internal callback. -/
def VchiService.new (creation : ServiceCreation Callback Data) (srvHandle : ServiceHandle) :
    VchiService Callback Data where
  base :=
    { callback := none
      userdata := creation.callbackParam }
  vchiCallback := creation.callback
  handle := srvHandle

/-- A call `completion_handler` makes for the service it found under the handle. -/
inductive Invocation (Callback Data : Type) where
  | internal (handle : ServiceHandle) (callback : VchiqCallback) (reason : Reason)
      (msg : Option SlotMessage) (srvHandle : ServiceHandle)
  | client (handle : ServiceHandle) (callback : Callback) (userdata : Option Data)
      (reason : Reason)

def Invocation.handle : Invocation Callback Data → ServiceHandle
  | .internal handle _ _ _ _ => handle
  | .client handle _ _ _ => handle

/-- The call for one record: the internal callback, or else the one of the client. -/
def invokeFor (handle : ServiceHandle) (service : VchiService Callback Data)
    (record : ServiceCompletion) : Option (Invocation Callback Data) :=
  match service.base.callback with
  | some callback => some (.internal handle callback record.reason record.msg service.handle)
  | none =>
      service.vchiCallback.map fun callback =>
        .client handle callback service.base.userdata record.reason

/-- The loop of `completion_handler` over the records it got. -/
def completionHandler (services : ServiceHandle → Option (VchiService Callback Data)) :
    List ServiceCompletion → Except Panic (List (Invocation Callback Data))
  | [] => .ok []
  | record :: records =>
      match record.serviceUserdata with
      | none => .error .unwrapNone
      | some handle =>
          match services handle with
          | none => .error .unwrapNone
          | some service =>
              match completionHandler services records with
              | .error panic => .error panic
              | .ok later => .ok ((invokeFor handle service record).toList ++ later)

/-- The system with the records of the clients. `creation` is what the open call that
waits was given. -/
structure ClientSystem (Callback Data : Type) where
  sys : System
  services : ServiceHandle → Option (VchiService Callback Data)
  creation : Option (ServiceCreation Callback Data)

def ClientSystem.new (inst : Instance) : ClientSystem Callback Data where
  sys := System.new inst
  services := fun _ => none
  creation := none

/-- The record an open call that ends enters into the map. -/
def ClientSystem.opening (client : ClientSystem Callback Data) :
    Option (ServiceHandle × ServiceCreation Callback Data × ServiceHandle) :=
  match client.sys.pending with
  | .serviceOpen handle srvHandle =>
      match client.sys.inst.awaitService srvHandle openResult, client.creation with
      | some (.ok _, _), some creation => some (handle, creation, srvHandle)
      | _, _ => none
  | _ => none

/-- The map after the poll that ends the pending call. -/
def ClientSystem.resumedServices (client : ClientSystem Callback Data) :
    ServiceHandle → Option (VchiService Callback Data) :=
  match client.sys.pending with
  | .serviceOpen _ _ =>
      match client.opening with
      | some (handle, creation, srvHandle) =>
          Function.update client.services handle (some (.new creation srvHandle))
      | none => client.services
  | .serviceClose handle srvHandle =>
      match client.sys.inst.awaitService srvHandle closeResult with
      | some (.ok _, _) => Function.update client.services handle none
      | _ => client.services
  | _ => client.services

/-- The record a step enters into the map. -/
def ClientSystem.enteredBy (client : ClientSystem Callback Data) :
    Action → Option (ServiceHandle × ServiceCreation Callback Data)
  | .resumed => client.opening.map fun entry => (entry.1, entry.2.1)
  | _ => none

def ClientSystem.servicesAfter (client : ClientSystem Callback Data) :
    Action → ServiceHandle → Option (VchiService Callback Data)
  | .resumed => client.resumedServices
  | _ => client.services

/-- An open call moves what it was given into its future. -/
def ClientSystem.creationAfter (client : ClientSystem Callback Data) (callback : Option Callback)
    (callbackParam : Option Data) : Action → Option (ServiceCreation Callback Data)
  | .called (.serviceOpen setup) _ => some ⟨setup, callback, callbackParam⟩
  | .resumed => none
  | .dropped => none
  | _ => client.creation

/-- The calls a step makes into the clients. -/
def ClientSystem.invokedBy (client : ClientSystem Callback Data) :
    Action → Except Panic (List (Invocation Callback Data))
  | .completed records => completionHandler client.services records
  | _ => .ok []

/-- What is seen of a step: the action, its steps of the rings, the record it entered and
the calls it made. -/
structure ClientLabel (Callback Data : Type) where
  action : Action
  rings : List RingLabel
  entered : Option (ServiceHandle × ServiceCreation Callback Data)
  invoked : List (Invocation Callback Data)

/-- A step of the system with what it does to the records of the clients. -/
structure ClientStep (client : ClientSystem Callback Data) (label : ClientLabel Callback Data)
    (next : ClientSystem Callback Data) : Prop where
  move : SystemStep client.sys label.action next.sys
  rings : label.rings = client.sys.ringLabels label.action
  entered : label.entered = client.enteredBy label.action
  invoked : client.invokedBy label.action = .ok label.invoked
  services : next.services = client.servicesAfter label.action
  creation : ∃ callback callbackParam,
    next.creation = client.creationAfter callback callbackParam label.action

/-- The records entered in a run, oldest first. -/
def enteredIn (labels : List (ClientLabel Callback Data)) :
    List (ServiceHandle × ServiceCreation Callback Data) :=
  labels.filterMap ClientLabel.entered

/-- The calls made in a run, oldest first. -/
def invokedIn (labels : List (ClientLabel Callback Data)) : List (Invocation Callback Data) :=
  labels.flatMap ClientLabel.invoked

/-- How often the callback of the service was called. -/
def callsFor (handle : ServiceHandle) (invoked : List (Invocation Callback Data)) : Nat :=
  invoked.countP fun invocation => decide (invocation.handle = handle)

/-- The steps of the rings in a run. -/
def ringsOf (labels : List (ClientLabel Callback Data)) : List RingLabel :=
  labels.flatMap ClientLabel.rings

section Handler

variable {services : ServiceHandle → Option (VchiService Callback Data)}
  {records : List ServiceCompletion} {invoked : List (Invocation Callback Data)}

theorem invoke_for_handle {handle : ServiceHandle} {service : VchiService Callback Data}
    {record : ServiceCompletion} {invocation : Invocation Callback Data}
    (called : invokeFor handle service record = some invocation) :
    invocation.handle = handle := by
  unfold invokeFor at called
  split at called
  · rw [← Option.some.inj called]
    rfl
  · rcases Option.map_eq_some_iff.mp called with ⟨callback, _, rfl⟩
    rfl

/-- How the loop over the records goes on. -/
theorem completion_handler_cons {record : ServiceCompletion}
    (handled : completionHandler services (record :: records) = .ok invoked) :
    ∃ handle service later, record.serviceUserdata = some handle ∧
      services handle = some service ∧ completionHandler services records = .ok later ∧
        invoked = (invokeFor handle service record).toList ++ later := by
  unfold completionHandler at handled
  cases owner : record.serviceUserdata with
  | none => simp [owner] at handled
  | some handle =>
      cases found : services handle with
      | none => simp [owner, found] at handled
      | some service =>
          cases rest : completionHandler services records with
          | error panic => simp [owner, found, rest] at handled
          | ok later =>
              simp only [owner, found, rest, Except.ok.injEq] at handled
              exact ⟨handle, service, later, rfl, found, rfl, handled.symm⟩

/-- Every call is made for a record, with the service found under its handle. -/
theorem completion_handler_invoked
    (handled : completionHandler services records = .ok invoked) :
    ∀ invocation ∈ invoked, ∃ record ∈ records, ∃ handle service,
      services handle = some service ∧ invokeFor handle service record = some invocation := by
  induction records generalizing invoked with
  | nil =>
      simp only [completionHandler, Except.ok.injEq] at handled
      simp [← handled]
  | cons record records ih =>
      rcases completion_handler_cons handled with ⟨handle, service, later, _, found, rest, rfl⟩
      intro invocation member
      rcases List.mem_append.mp member with here | elsewhere
      · exact ⟨record, List.mem_cons_self, handle, service, found, Option.mem_toList.mp here⟩
      · rcases ih rest invocation elsewhere with ⟨other, among, called⟩
        exact ⟨other, List.mem_cons_of_mem _ among, called⟩

/-- A handle gets a call at most for each record that names it. -/
theorem completion_handler_count (handle : ServiceHandle)
    (handled : completionHandler services records = .ok invoked) :
    callsFor handle invoked ≤ records.countP (named (some handle)) := by
  unfold callsFor
  induction records generalizing invoked with
  | nil =>
      simp only [completionHandler, Except.ok.injEq] at handled
      simp [← handled]
  | cons record records ih =>
      rcases completion_handler_cons handled with ⟨named, service, later, owner, _, rest, rfl⟩
      have others := ih rest
      rw [List.countP_append, List.countP_cons]
      cases called : invokeFor named service record with
      | none =>
          simp only [Option.toList_none, List.countP_nil]
          omega
      | some invocation =>
          have here := invoke_for_handle called
          simp only [Option.toList_some, List.countP_singleton, Delivery.named, owner, here,
            Option.some.injEq]
          omega

/-- The handler panics where the lookups of its records do. -/
theorem completion_handler_ok {known : ServiceHandle → Option ServiceHandle}
    {found : List ServiceHandle}
    (agree : ∀ handle, (services handle).map VchiService.handle = known handle)
    (looked : lookupServices known records = .ok found) :
    ∃ invoked, completionHandler services records = .ok invoked := by
  induction records generalizing found with
  | nil => exact ⟨[], rfl⟩
  | cons record records ih =>
      unfold lookupServices at looked
      cases owner : record.serviceUserdata with
      | none => simp [owner] at looked
      | some handle =>
          have same := agree handle
          cases stored : services handle with
          | none =>
              rw [stored, Option.map_none] at same
              simp [owner, ← same] at looked
          | some service =>
              rw [stored, Option.map_some] at same
              cases rest : lookupServices known records with
              | error panic => simp [owner, ← same, rest] at looked
              | ok others =>
                  rcases ih rest with ⟨later, handled⟩
                  exact ⟨_, by simp only [completionHandler, owner, stored, handled]; rfl⟩

end Handler

/-- What the map of the clients holds: the services the system knows, each as it was
entered. -/
structure ClientInvariant (entered : List (ServiceHandle × ServiceCreation Callback Data))
    (client : ClientSystem Callback Data) : Prop where
  agree : ∀ handle, (client.services handle).map VchiService.handle = client.sys.services handle
  given : ∀ handle srvHandle, client.sys.pending = .serviceOpen handle srvHandle →
    ∃ creation, client.creation = some creation
  records : ∀ handle service, client.services handle = some service →
    ∃ creation, (handle, creation) ∈ entered ∧ service = .new creation service.handle

section Resume

variable {entered : List (ServiceHandle × ServiceCreation Callback Data)}
  {client : ClientSystem Callback Data}

theorem opening_of_awaited {handle srvHandle : ServiceHandle} {inst : Instance}
    {creation : ServiceCreation Callback Data}
    (waiting : client.sys.pending = .serviceOpen handle srvHandle)
    (awaited : client.sys.inst.awaitService srvHandle openResult = some (.ok (), inst))
    (given : client.creation = some creation) :
    client.opening = some (handle, creation, srvHandle) := by
  simp only [ClientSystem.opening, waiting, awaited, given]

theorem resumed_agree {next : System} (inv : ClientInvariant entered client)
    (polled : client.sys.resume = some next) (handle : ServiceHandle) :
    (client.resumedServices handle).map VchiService.handle = next.services handle := by
  have agree := inv.agree handle
  unfold System.resume at polled
  unfold ClientSystem.resumedServices
  cases waiting : client.sys.pending with
  | idle => simp [waiting] at polled
  | connect =>
      simp only [waiting, Option.map_eq_some_iff] at polled
      rcases polled with ⟨inst, _, rfl⟩
      exact agree
  | serviceOpen opened srvHandle =>
      rcases inv.given opened srvHandle waiting with ⟨creation, given⟩
      simp only [waiting] at polled ⊢
      split at polled
      · simp at polled
      · rename_i awaited
        rw [← Option.some.inj polled]
        simp only [ClientSystem.opening, waiting, awaited]
        exact agree
      · rename_i awaited
        rw [← Option.some.inj polled, opening_of_awaited waiting awaited given]
        by_cases here : handle = opened
        · subst here
          simp [VchiService.new]
        · simp only [Function.update_of_ne here]
          exact agree
  | serviceClose closed srvHandle =>
      simp only [waiting] at polled ⊢
      split at polled
      · simp at polled
      · rename_i awaited
        rw [← Option.some.inj polled]
        simp only [awaited]
        exact agree
      · rename_i awaited
        rw [← Option.some.inj polled]
        simp only [awaited]
        by_cases here : handle = closed
        · subst here
          simp
        · simp only [Function.update_of_ne here]
          exact agree

/-- A record in the map was there before or is the one that was entered. -/
theorem resumed_record {handle : ServiceHandle} {service : VchiService Callback Data}
    (found : client.resumedServices handle = some service) :
    client.services handle = some service ∨
      ∃ creation srvHandle, client.opening = some (handle, creation, srvHandle) ∧
        service = .new creation srvHandle := by
  unfold ClientSystem.resumedServices at found
  cases waiting : client.sys.pending with
  | idle =>
      simp only [waiting] at found
      exact .inl found
  | connect =>
      simp only [waiting] at found
      exact .inl found
  | serviceOpen opened srvHandle =>
      simp only [waiting] at found
      cases opening : client.opening with
      | none =>
          simp only [opening] at found
          exact .inl found
      | some entry =>
          rcases entry with ⟨opened, creation, srvHandle⟩
          simp only [opening] at found
          by_cases here : handle = opened
          · subst here
            rw [Function.update_self, Option.some.injEq] at found
            exact .inr ⟨creation, srvHandle, rfl, found.symm⟩
          · rw [Function.update_of_ne here] at found
            exact .inl found
  | serviceClose closed srvHandle =>
      simp only [waiting] at found
      cases awaited : client.sys.inst.awaitService srvHandle closeResult with
      | none =>
          simp only [awaited] at found
          exact .inl found
      | some result =>
          rcases result with ⟨outcome, inst⟩
          cases outcome with
          | error error =>
              simp only [awaited] at found
              exact .inl found
          | ok closedWell =>
              simp only [awaited] at found
              by_cases here : handle = closed
              · subst here
                simp at found
              · rw [Function.update_of_ne here] at found
                exact .inl found

end Resume

theorem absorb_services (sys : System) (pending : PendingCall) (polled : Polled) :
    (sys.absorb pending polled).2.services = sys.services := by
  rcases polled with ⟨result, inst⟩
  cases result <;> rfl

/-- Only the poll that ends a call changes the map. -/
theorem call_services (sys : System) (call : Call) :
    (sys.call call).2.services = sys.services := by
  cases call with
  | initializeInstance => rfl
  | connect =>
      simp only [System.call]
      split_ifs
      · rfl
      · exact absorb_services _ _ _
  | serviceOpen setup =>
      simp only [System.call]
      split_ifs
      · exact absorb_services _ _ _
      · exact absorb_services _ _ _
      · rfl
  | serviceClose handle =>
      simp only [System.call]
      split
      · rfl
      · exact absorb_services _ _ _
  | queueMessage handle data =>
      simp only [System.call]
      split
      · rfl
      · exact absorb_services _ _ _

theorem step_services {sys next : System} {action : Action} (move : SystemStep sys action next)
    (other : action ≠ .resumed) : next.services = sys.services := by
  cases move with
  | @called _ call sent exclusive polled =>
      have same := call_services sys call
      rw [polled] at same
      exact same
  | @failed _ call error exclusive polled =>
      have same := call_services sys call
      rw [polled] at same
      exact same
  | resumed polled => exact absurd rfl other
  | dropped => rfl
  | received handled => rfl
  | dequeued polled => rfl
  | completed spawned taken known => rfl
  | idled spawned waiting => rfl

/-- A call that fails does not wait. -/
theorem call_failed_pending {sys next : System} {call : Call} {error : BoxError}
    (polled : sys.call call = (.error (.error error), next)) : next.pending = sys.pending := by
  cases call with
  | initializeInstance => simp [System.call] at polled
  | connect =>
      simp only [System.call] at polled
      split_ifs at polled
      · simp at polled
      · rcases absorb_failed polled with ⟨failure, inst, _, rfl⟩
        rfl
  | serviceOpen setup =>
      simp only [System.call] at polled
      split_ifs at polled
      · rcases absorb_failed polled with ⟨failure, inst, _, rfl⟩
        rfl
      · rcases absorb_failed polled with ⟨failure, inst, _, rfl⟩
        rfl
      · simp only [Prod.mk.injEq] at polled
        rw [polled.2]
  | serviceClose closed =>
      simp only [System.call] at polled
      split at polled
      · simp only [Prod.mk.injEq] at polled
        rw [polled.2]
      · rcases absorb_failed polled with ⟨failure, inst, _, rfl⟩
        rfl
  | queueMessage target data =>
      simp only [System.call] at polled
      split at polled
      · simp only [Prod.mk.injEq] at polled
        rw [polled.2]
      · rcases absorb_failed polled with ⟨failure, inst, _, rfl⟩
        rfl

/-- An open call that waits was begun by this step or waited before it. -/
theorem waiting_open {sys next : System} {action : Action} (move : SystemStep sys action next)
    {handle srvHandle : ServiceHandle} (waiting : next.pending = .serviceOpen handle srvHandle) :
    (∃ setup sent, action = .called (.serviceOpen setup) sent ∧ handle = sys.nextHandle ∧
      next.nextHandle = sys.nextHandle + 1) ∨
    sys.pending = .serviceOpen handle srvHandle ∧ action ≠ .resumed ∧ action ≠ .dropped := by
  cases move with
  | @called _ call sent exclusive polled =>
      cases call with
      | initializeInstance =>
          simp only [System.call, Prod.mk.injEq] at polled
          rw [← polled.2] at waiting
          exact .inr ⟨waiting, by simp, by simp⟩
      | connect =>
          simp only [System.call] at polled
          split_ifs at polled
          · simp only [Prod.mk.injEq] at polled
            rw [polled.2]
            exact .inr ⟨waiting, by simp, by simp⟩
          · rcases absorb_ok polled with ⟨inst, _, rfl⟩
            simp at waiting
      | serviceOpen setup =>
          left
          simp only [System.call] at polled
          split_ifs at polled
          · rcases absorb_ok polled with ⟨inst, _, rfl⟩
            simp only [PendingCall.serviceOpen.injEq] at waiting
            exact ⟨setup, sent, rfl, waiting.1.symm, rfl⟩
          · rcases absorb_ok polled with ⟨inst, _, rfl⟩
            simp only [PendingCall.serviceOpen.injEq] at waiting
            exact ⟨setup, sent, rfl, waiting.1.symm, rfl⟩
          · simp at polled
      | serviceClose closed =>
          simp only [System.call] at polled
          split at polled
          · simp at polled
          · rcases absorb_ok polled with ⟨inst, _, rfl⟩
            simp at waiting
      | queueMessage target data =>
          simp only [System.call] at polled
          split at polled
          · simp at polled
          · rcases absorb_ok polled with ⟨inst, _, rfl⟩
            exact .inr ⟨waiting, by simp, by simp⟩
  | @failed _ call error exclusive polled =>
      refine .inr ⟨?_, by simp, by simp⟩
      rw [← call_failed_pending polled]
      exact waiting
  | resumed polled =>
      cases resume_cases polled <;> simp at waiting
  | dropped => simp at waiting
  | received handled => exact .inr ⟨waiting, by simp, by simp⟩
  | dequeued polled => exact .inr ⟨waiting, by simp, by simp⟩
  | completed spawned taken known => exact .inr ⟨waiting, by simp, by simp⟩
  | idled spawned idle => exact .inr ⟨waiting, by simp, by simp⟩

section Clients

variable {labels : List (ClientLabel Callback Data)} {label : ClientLabel Callback Data}
  {client next : ClientSystem Callback Data}

theorem entered_in_snoc :
    enteredIn (labels ++ [label]) = enteredIn labels ++ label.entered.toList := by
  rw [enteredIn, List.filterMap_append, enteredIn]
  cases entry : label.entered <;> simp [entry]

theorem invoked_in_snoc : invokedIn (labels ++ [label]) = invokedIn labels ++ label.invoked := by
  simp [invokedIn]

theorem rings_of_snoc : ringsOf (labels ++ [label]) = ringsOf labels ++ label.rings := by
  simp [ringsOf]

theorem services_after_other {action : Action} (other : action ≠ .resumed) :
    client.servicesAfter action = client.services := by
  cases action with
  | resumed => exact absurd rfl other
  | _ => rfl

theorem client_given (inv : ClientInvariant (enteredIn labels) client)
    (step : ClientStep client label next) {handle srvHandle : ServiceHandle}
    (waiting : next.sys.pending = .serviceOpen handle srvHandle) :
    ∃ creation, next.creation = some creation := by
  rcases step.creation with ⟨callback, callbackParam, creation⟩
  rw [creation]
  rcases waiting_open step.move waiting with
    ⟨setup, sent, begun, _, _⟩ | ⟨waited, later, kept⟩
  · rw [begun]
    exact ⟨_, rfl⟩
  · rcases inv.given handle srvHandle waited with ⟨earlier, given⟩
    unfold ClientSystem.creationAfter
    split
    · exact ⟨_, rfl⟩
    · rename_i resumed
      exact absurd resumed later
    · rename_i dropped
      exact absurd dropped kept
    · exact ⟨earlier, given⟩

theorem client_invariant_step (inv : ClientInvariant (enteredIn labels) client)
    (step : ClientStep client label next) :
    ClientInvariant (enteredIn (labels ++ [label])) next := by
  have services := step.services
  have entered := step.entered
  have move := step.move
  -- what was in the map stays justified by the longer run
  have old : ∀ handle service, client.services handle = some service →
      ∃ creation, (handle, creation) ∈ enteredIn (labels ++ [label]) ∧
        service = .new creation service.handle := by
    intro handle service stored
    rcases inv.records handle service stored with ⟨creation, member, same⟩
    rw [entered_in_snoc]
    exact ⟨creation, List.mem_append_left _ member, same⟩
  have given := fun handle srvHandle waiting => @client_given _ _ _ _ _ _ inv step handle srvHandle waiting
  by_cases resumed : label.action = .resumed
  · rw [resumed] at services entered move
    refine ⟨?_, given, ?_⟩
    · intro handle
      rw [services]
      cases move with
      | resumed polled => exact resumed_agree inv polled handle
    · intro handle service found
      rw [services] at found
      rcases resumed_record found with stored | ⟨creation, srvHandle, opening, rfl⟩
      · exact old handle service stored
      · refine ⟨creation, ?_, rfl⟩
        rw [entered_in_snoc, entered, ClientSystem.enteredBy, opening]
        exact List.mem_append_right _ (List.mem_singleton_self _)
  · rw [services_after_other resumed] at services
    refine ⟨?_, given, ?_⟩
    · intro handle
      rw [services, step_services move resumed]
      exact inv.agree handle
    · rw [services]
      exact old

/-- Every step of the system goes on with the clients, whatever an open call is given. -/
theorem client_follows {entered : List (ServiceHandle × ServiceCreation Callback Data)}
    {action : Action} {after : System} (inv : ClientInvariant entered client)
    (move : SystemStep client.sys action after) (callback : Option Callback)
    (callbackParam : Option Data) :
    ∃ label reached, ClientStep client label reached ∧ label.action = action ∧
      reached.sys = after ∧ reached.creation = client.creationAfter callback callbackParam action := by
  have invoked : ∃ invoked, client.invokedBy action = .ok invoked := by
    cases move with
    | completed _ _ known => exact completion_handler_ok inv.agree known
    | _ => exact ⟨[], rfl⟩
  rcases invoked with ⟨invoked, handled⟩
  refine ⟨⟨action, client.sys.ringLabels action, client.enteredBy action, invoked⟩,
    ⟨after, client.servicesAfter action, client.creationAfter callback callbackParam action⟩,
    ?_, rfl, rfl, rfl⟩
  exact ⟨move, rfl, rfl, handled, rfl, callback, callbackParam, rfl⟩

/-- The calls made so far, against the records that were handled. -/
structure ClientHistory (labels : List (ClientLabel Callback Data))
    (client : ClientSystem Callback Data) : Prop where
  clients : ClientInvariant (enteredIn labels) client
  calls : ∀ invocation ∈ invokedIn labels, ∃ record ∈ handledRecords (ringsOf labels),
    ∃ handle creation callback, (handle, creation) ∈ enteredIn labels ∧
      creation.callback = some callback ∧
      invocation = .client handle callback creation.callbackParam record.reason
  counted : ∀ handle, callsFor handle (invokedIn labels) ≤
    (handledRecords (ringsOf labels)).countP (named (some handle))

theorem handled_records_append (earlier later : List RingLabel) :
    handledRecords (earlier ++ later) = handledRecords earlier ++ handledRecords later :=
  List.flatMap_append

/-- A service is called through the callback it was opened with. -/
theorem invoked_as_entered {entered : List (ServiceHandle × ServiceCreation Callback Data)}
    (inv : ClientInvariant entered client) {handle : ServiceHandle}
    {service : VchiService Callback Data} {record : ServiceCompletion}
    {invocation : Invocation Callback Data} (found : client.services handle = some service)
    (called : invokeFor handle service record = some invocation) :
    ∃ creation callback, (handle, creation) ∈ entered ∧ creation.callback = some callback ∧
      invocation = .client handle callback creation.callbackParam record.reason := by
  rcases inv.records handle service found with ⟨creation, member, same⟩
  rw [same] at called
  rcases Option.map_eq_some_iff.mp called with ⟨callback, present, rfl⟩
  exact ⟨creation, callback, member, present, rfl⟩

/-- The handler runs on the records of the step. -/
theorem step_invoked (step : ClientStep client label next) :
    completionHandler client.services (handledRecords label.rings) = .ok label.invoked := by
  have invoked := step.invoked
  rw [step.rings]
  cases action : label.action with
  | received message opened =>
      rw [action] at invoked
      cases acceptor : acceptorOf client.sys.inst message with
      | none =>
          simp only [System.ringLabels, acceptor]
          exact invoked
      | some service =>
          simp only [System.ringLabels, acceptor]
          exact invoked
  | dequeued reference =>
      rw [action] at invoked
      have none : handledRecords (client.sys.ringLabels (.dequeued reference)) = [] := by
        simp only [System.ringLabels]
        split
        · rfl
        · unfold dequeueLabels
          split
          · rfl
          · split <;> rfl
      rw [none]
      exact invoked
  | completed records =>
      rw [action] at invoked
      have all : handledRecords (client.sys.ringLabels (.completed records)) = records :=
        List.append_nil records
      rw [all]
      exact invoked
  | _ =>
      rw [action] at invoked
      exact invoked

theorem client_history_step (history : ClientHistory labels client)
    (step : ClientStep client label next) : ClientHistory (labels ++ [label]) next := by
  have handled := step_invoked step
  refine ⟨client_invariant_step history.clients step, ?_, ?_⟩
  · intro invocation member
    rw [rings_of_snoc, handled_records_append, entered_in_snoc]
    rw [invoked_in_snoc] at member
    rcases List.mem_append.mp member with earlier | now
    · rcases history.calls invocation earlier with
        ⟨record, among, handle, creation, callback, entered, present, same⟩
      exact ⟨record, List.mem_append_left _ among, handle, creation, callback,
        List.mem_append_left _ entered, present, same⟩
    · rcases completion_handler_invoked handled invocation now with
        ⟨record, among, handle, service, found, called⟩
      rcases invoked_as_entered history.clients found called with
        ⟨creation, callback, entered, present, same⟩
      exact ⟨record, List.mem_append_right _ among, handle, creation, callback,
        List.mem_append_left _ entered, present, same⟩
  · intro handle
    have earlier := history.counted handle
    have now := completion_handler_count handle handled
    rw [rings_of_snoc, handled_records_append, invoked_in_snoc, List.countP_append]
    unfold callsFor at earlier now ⊢
    rw [List.countP_append]
    exact Nat.add_le_add earlier now

theorem client_history_run {inst : Instance}
    (run : Run ClientStep (ClientSystem.new inst) labels client) : ClientHistory labels client := by
  apply run.invariant ClientHistory
  · refine ⟨⟨fun _ => rfl, ?_, ?_⟩, ?_, ?_⟩
    · intro handle srvHandle waiting
      simp [ClientSystem.new, System.new] at waiting
    · intro handle service found
      simp [ClientSystem.new] at found
    · simp [invokedIn]
    · simp [callsFor, invokedIn]
  · exact fun _ _ _ _ _ history step => client_history_step history step

/-- Every run of the system is one of the clients. -/
theorem clients_follow {inst : Instance} {actions : List Action} {reached : System}
    (run : Run SystemStep (System.new inst) actions reached) :
    ∃ (labels : List (ClientLabel Callback Data)) (client : ClientSystem Callback Data),
      Run ClientStep (ClientSystem.new inst) labels client ∧
        labels.map ClientLabel.action = actions ∧ client.sys = reached := by
  induction run with
  | refl => exact ⟨[], .new inst, .refl, rfl, rfl⟩
  | snoc _ move ih =>
      rcases ih with ⟨labels, client, earlier, rfl, rfl⟩
      have inv := (client_history_run earlier).clients
      rcases client_follows inv move none none with ⟨label, next, step, rfl, rfl, _⟩
      exact ⟨labels ++ [label], next, .snoc earlier step, by simp, rfl⟩

end Clients

theorem absorb_next_handle (sys : System) (pending : PendingCall) (polled : Polled) :
    (sys.absorb pending polled).2.nextHandle = sys.nextHandle := by
  rcases polled with ⟨result, inst⟩
  cases result <;> rfl

theorem call_next_handle (sys : System) (call : Call) :
    sys.nextHandle ≤ (sys.call call).2.nextHandle := by
  cases call with
  | initializeInstance => exact Nat.le_refl _
  | connect =>
      simp only [System.call]
      split_ifs
      · exact Nat.le_refl _
      · rw [absorb_next_handle]
  | serviceOpen setup =>
      simp only [System.call]
      split_ifs
      · rw [absorb_next_handle]
        exact Nat.le_succ _
      · rw [absorb_next_handle]
        exact Nat.le_succ _
      · exact Nat.le_refl _
  | serviceClose handle =>
      simp only [System.call]
      split
      · exact Nat.le_refl _
      · rw [absorb_next_handle]
  | queueMessage handle data =>
      simp only [System.call]
      split
      · exact Nat.le_refl _
      · rw [absorb_next_handle]

/-- The counter of the handles never goes back. -/
theorem step_next_handle {sys next : System} {action : Action} (move : SystemStep sys action next) :
    sys.nextHandle ≤ next.nextHandle := by
  cases move with
  | @called _ call sent exclusive polled =>
      have grown := call_next_handle sys call
      rw [polled] at grown
      exact grown
  | @failed _ call error exclusive polled =>
      have grown := call_next_handle sys call
      rw [polled] at grown
      exact grown
  | resumed polled => cases resume_cases polled <;> exact Nat.le_refl _
  | _ => exact Nat.le_refl _

/-- An entry of the table was there before, with the same owner, or is made by this step
for the handle of the open call. -/
theorem entry_owner {before after : Protocol} {action : Action}
    (move : ProtocolStep before action after) {port : ServiceRef} {endpoint : Endpoint}
    (present : after.endpoints port = some endpoint) :
    (∃ old, before.endpoints port = some old ∧ old.owner = endpoint.owner) ∨
      ∃ setup message handle srvHandle,
        action = .called (.serviceOpen setup) (some ⟨some port, message⟩) ∧
          after.pending = .serviceOpen handle srvHandle ∧ endpoint.owner = some handle := by
  have unchanged : ∀ {touched : ServiceRef} {old changed : Endpoint},
      before.endpoints touched = some old → changed.identity = old.identity →
      (before.set touched changed).endpoints port = some endpoint →
      ∃ earlier, before.endpoints port = some earlier ∧ earlier.owner = endpoint.owner := by
    intro touched old changed stored identity entry
    rcases has_set stored identity ⟨entry, rfl⟩ with ⟨rfl, rfl, _⟩ | ⟨_, same, _⟩
    · exact ⟨old, stored, (congrArg (fun parts => parts.2.2) identity).symm⟩
    · exact ⟨endpoint, same, rfl⟩
  cases move with
  | @openSent setup handle srvHandle chosen message _ vacant _ _ _ =>
      by_cases here : port = chosen
      · subst here
        simp only [Protocol.set, Function.update_self, Option.some.injEq] at present
        exact .inr ⟨setup, message, handle, srvHandle, rfl, rfl, by rw [← present]; rfl⟩
      · simp only [Protocol.set, Function.update_of_ne here] at present
        exact .inl ⟨endpoint, present, rfl⟩
  | @closeSent _ _ touched old _ _ closed _ _ =>
      exact .inl (@unchanged touched old old.sendClose closed.1 rfl present)
  | @closeReleased _ _ touched old _ closed _ =>
      exact .inl (@unchanged touched old old.release closed.1 rfl present)
  | acknowledged _ stored _ => exact .inl (unchanged stored (acknowledge_identity _ _) present)
  | closed _ stored _ => exact .inl (unchanged stored (close_received_identity _) present)
  | _ => exact .inl ⟨endpoint, present, rfl⟩

/-- The owners of the entries are handles that were drawn, each for one entry. -/
structure OwnersInvariant (sys : System) : Prop where
  below : ∀ port endpoint, sys.protocol.endpoints port = some endpoint →
    ∃ handle, endpoint.owner = some handle ∧ handle < sys.nextHandle
  distinct : ∀ port other endpoint otherEndpoint, sys.protocol.endpoints port = some endpoint →
    sys.protocol.endpoints other = some otherEndpoint →
      endpoint.owner = otherEndpoint.owner → port = other

/-- The handle an entry that was just made belongs to. -/
theorem new_entry_owner {sys next : System} {setup : ServiceSetup} {sent : Option Outgoing}
    (move : SystemStep sys (.called (.serviceOpen setup) sent) next) {handle srvHandle : ServiceHandle}
    (inv : ∀ handle srvHandle, sys.pending ≠ .serviceOpen handle srvHandle)
    (waiting : next.pending = .serviceOpen handle srvHandle) :
    handle = sys.nextHandle ∧ next.nextHandle = sys.nextHandle + 1 := by
  rcases waiting_open move waiting with ⟨_, _, _, drawn, counted⟩ | ⟨waited, _, _⟩
  · exact ⟨drawn, counted⟩
  · exact absurd waited (inv handle srvHandle)

theorem owners_step {sys next : System} {action : Action} (ready : sys.Ready)
    (inv : OwnersInvariant sys) (move : SystemStep sys action next) : OwnersInvariant next := by
  have grown := step_next_handle move
  -- an entry is old, or it belongs to the handle drawn now
  have entries : ∀ port endpoint, next.protocol.endpoints port = some endpoint →
      (∃ old, sys.protocol.endpoints port = some old ∧ old.owner = endpoint.owner) ∨
      ∃ setup message, action = .called (.serviceOpen setup) (some ⟨some port, message⟩) ∧
        endpoint.owner = some sys.nextHandle ∧ next.nextHandle = sys.nextHandle + 1 := by
    intro port endpoint present
    rcases entry_owner (step_simulated ready move).2 present with
      old | ⟨setup, message, handle, srvHandle, rfl, waiting, owner⟩
    · exact .inl old
    · have idle : ∀ handle srvHandle, sys.pending ≠ .serviceOpen handle srvHandle := by
        intro handle srvHandle
        cases move with
        | called exclusive _ => simp [exclusive trivial]
      rcases new_entry_owner move idle waiting with ⟨rfl, counted⟩
      exact .inr ⟨setup, message, rfl, owner, counted⟩
  have drawn : ∀ port (endpoint old : Endpoint), sys.protocol.endpoints port = some old →
      old.owner = endpoint.owner → endpoint.owner ≠ some sys.nextHandle := by
    intro port endpoint old stored same
    rcases inv.below port old stored with ⟨handle, owner, below⟩
    rw [← same, owner]
    simp only [ne_eq, Option.some.injEq]
    exact Nat.ne_of_lt below
  constructor
  · intro port endpoint present
    rcases entries port endpoint present with
      ⟨old, stored, same⟩ | ⟨_, _, _, owner, counted⟩
    · rcases inv.below port old stored with ⟨handle, owner, below⟩
      exact ⟨handle, same.symm.trans owner, Nat.lt_of_lt_of_le below grown⟩
    · rw [counted]
      exact ⟨sys.nextHandle, owner, Nat.lt_succ_self _⟩
  · intro port other endpoint otherEndpoint present otherPresent sameOwner
    rcases entries port endpoint present with
      ⟨old, stored, same⟩ | ⟨setup, message, action, owner, _⟩ <;>
    rcases entries other otherEndpoint otherPresent with
      ⟨older, otherStored, otherSame⟩ | ⟨otherSetup, otherMessage, otherAction, otherOwner, _⟩
    · apply inv.distinct port other old older stored otherStored
      rw [same, otherSame, sameOwner]
    · exact absurd (sameOwner.trans otherOwner) (drawn port endpoint old stored same)
    · exact absurd (sameOwner.symm.trans owner) (drawn other otherEndpoint older otherStored otherSame)
    · rw [action] at otherAction
      simp only [Action.called.injEq, Option.some.injEq, Outgoing.mk.injEq] at otherAction
      exact otherAction.2.1

theorem owners_run {state : State} {actions : List Action} {reached : System}
    (facts : FreshState state)
    (run : Run SystemStep (System.new (freshInstance state)) actions reached) :
    OwnersInvariant reached := by
  apply run.invariant fun _ sys => OwnersInvariant sys
  · have empty : ∀ port endpoint,
        (System.new (freshInstance state)).protocol.endpoints port ≠ some endpoint := by
      intro port endpoint
      rw [fresh_protocol facts]
      simp [Protocol.initial]
    exact ⟨fun port endpoint present => absurd present (empty port endpoint),
      fun port _ endpoint _ present _ _ => absurd present (empty port endpoint)⟩
  · intro actions before action after earlier inv move
    exact owners_step (record_invariant_run facts earlier).1 inv move

section Runs

variable {labels : List (ClientLabel Callback Data)} {label : ClientLabel Callback Data}
  {client next : ClientSystem Callback Data}

/-- The handles in the map were drawn, and each was entered once. -/
structure EnteredOnce (labels : List (ClientLabel Callback Data))
    (client : ClientSystem Callback Data) : Prop where
  below : ∀ handle ∈ (enteredIn labels).map Prod.fst, handle < client.sys.nextHandle
  waiting : ∀ handle srvHandle, client.sys.pending = .serviceOpen handle srvHandle →
    handle < client.sys.nextHandle ∧ handle ∉ (enteredIn labels).map Prod.fst
  distinct : ((enteredIn labels).map Prod.fst).Nodup

theorem opening_waits {handle srvHandle : ServiceHandle}
    {creation : ServiceCreation Callback Data}
    (opening : client.opening = some (handle, creation, srvHandle)) :
    client.sys.pending = .serviceOpen handle srvHandle := by
  unfold ClientSystem.opening at opening
  split at opening
  · rename_i waiting
    split at opening
    · simp only [Option.some.injEq, Prod.mk.injEq] at opening
      rw [waiting, opening.1, opening.2.2]
    · simp at opening
  · simp at opening

/-- Steps that enter nothing. -/
theorem EnteredOnce.frame (once : EnteredOnce labels client) (step : ClientStep client label next)
    (nothing : label.entered = none) : EnteredOnce (labels ++ [label]) next := by
  have grown := step_next_handle step.move
  have same : enteredIn (labels ++ [label]) = enteredIn labels := by
    rw [entered_in_snoc, nothing, Option.toList_none, List.append_nil]
  constructor
  · rw [same]
    exact fun handle member => Nat.lt_of_lt_of_le (once.below handle member) grown
  · intro handle srvHandle waiting
    rw [same]
    rcases waiting_open step.move waiting with ⟨_, _, _, drawn, counted⟩ | ⟨waited, _, _⟩
    · rw [counted, drawn]
      exact ⟨Nat.lt_succ_self _, fun member => Nat.lt_irrefl _ (once.below _ member)⟩
    · rcases once.waiting handle srvHandle waited with ⟨below, absent⟩
      exact ⟨Nat.lt_of_lt_of_le below grown, absent⟩
  · rw [same]
    exact once.distinct

theorem entered_once_step (once : EnteredOnce labels client) (step : ClientStep client label next) :
    EnteredOnce (labels ++ [label]) next := by
  cases entry : label.entered with
  | none => exact once.frame step entry
  | some pair =>
      rcases pair with ⟨handle, creation⟩
      have entered := step.entered
      have move := step.move
      rw [entry] at entered
      cases action : label.action with
      | resumed =>
          rw [action] at entered move
          simp only [ClientSystem.enteredBy] at entered
          rcases Option.map_eq_some_iff.mp entered.symm with ⟨⟨opened, given, srvHandle⟩, opening, same⟩
          simp only [Prod.mk.injEq] at same
          rcases same with ⟨rfl, rfl⟩
          rcases once.waiting opened srvHandle (opening_waits opening) with ⟨below, absent⟩
          have grown := step_next_handle move
          have longer : (enteredIn (labels ++ [label])).map Prod.fst =
              (enteredIn labels).map Prod.fst ++ [opened] := by
            rw [entered_in_snoc, entry, Option.toList_some, List.map_append]
            rfl
          refine ⟨?_, ?_, ?_⟩
          · intro other member
            rw [longer] at member
            rcases List.mem_append.mp member with earlier | now
            · exact Nat.lt_of_lt_of_le (once.below other earlier) grown
            · rw [List.mem_singleton.mp now]
              exact Nat.lt_of_lt_of_le below grown
          · intro other otherHandle waiting
            rcases waiting_open move waiting with ⟨_, _, begun, _⟩ | ⟨_, later, _⟩
            · simp at begun
            · exact absurd rfl later
          · rw [longer, List.nodup_append]
            refine ⟨once.distinct, List.nodup_singleton _, ?_⟩
            intro other earlier last now same
            rw [List.mem_singleton.mp now] at same
            exact absent (same ▸ earlier)
      | _ =>
          rw [action] at entered
          simp [ClientSystem.enteredBy] at entered

theorem entered_once_run {inst : Instance}
    (run : Run ClientStep (ClientSystem.new inst) labels client) : EnteredOnce labels client := by
  apply run.invariant EnteredOnce
  · refine ⟨?_, ?_, ?_⟩
    · simp [enteredIn]
    · intro handle srvHandle waiting
      simp [ClientSystem.new, System.new] at waiting
    · simp [enteredIn]
  · exact fun _ _ _ _ _ once step => entered_once_step once step

/-- Fewer than 2^63 records were ever announced. -/
def FewAnnounced (client : ClientSystem Callback Data) (_ : ClientLabel Callback Data) : Prop :=
  client.sys.inst.completion.completionInsert < 2 ^ 63

theorem few_completions_free : DeliveryGuard FewCompletions := by
  intro rings label other
  cases label with
  | delivered service message skipped => exact absurd rfl (other service message skipped)
  | _ => trivial

/-- A run of the clients, seen through the rings. -/
theorem observed_clients {inst : Instance}
    (run : Run (Guarded ClientStep FewAnnounced) (ClientSystem.new inst) labels client) :
    Run (Guarded ObservedStep fun sys _ => sys.inst.completion.completionInsert < 2 ^ 63)
      (System.new inst) (labels.map fun label => (label.action, label.rings)) client.sys := by
  induction run with
  | refl => exact .refl
  | snoc _ step ih =>
      rw [List.map_append]
      exact .snoc ih ⟨⟨step.1.move, step.1.rings⟩, step.2⟩

theorem ring_log_of_labels :
    ringLog (labels.map fun label => (label.action, label.rings)) = ringsOf labels :=
  List.flatMap_map ..

/-- The messages for the services of a handle are those for its one service. -/
theorem causes_eq_delivered {owners : Nat → Option ServiceHandle} {handle : ServiceHandle}
    {port : ServiceRef} (only : ∀ service, owners service = some handle ↔ service = port)
    (log : List RingLabel) :
    log.countP (RingLabel.causes owners (some handle)) = (deliveredTo port log).length := by
  rw [deliveredTo, List.length_filterMap_eq_countP]
  apply List.countP_congr
  intro label _
  cases label with
  | delivered service message skipped =>
      simp only [RingLabel.causes, RingLabel.messageFor, decide_eq_true_eq, only service]
      by_cases here : service = port <;> simp [here]
  | _ => simp [RingLabel.causes, RingLabel.messageFor]

/-- In every run of the whole system, whatever the clients do and whatever arrives: each
call into a client goes to the callback a service was opened with, with the parameter
given there and with reason MESSAGE_AVAILABLE, and a handle is opened once. A client is
called at most once for each message its own service accepted. -/
theorem callbacks_are_caused {raw : SlotZero} {memory : Memory} {totalMemory : Nat}
    {fresh : State} (made : freshState raw memory totalMemory = .ok fresh)
    (run : Run (Guarded ClientStep FewAnnounced) (ClientSystem.new (freshInstance fresh)) labels
      client) :
    ((enteredIn labels).map Prod.fst).Nodup ∧
    (∀ invocation ∈ invokedIn labels, ∃ handle creation callback,
      (handle, creation) ∈ enteredIn labels ∧ creation.callback = some callback ∧
        invocation = .client handle callback creation.callbackParam .messageAvailable) ∧
    ∀ handle, 0 < callsFor handle (invokedIn labels) → ∃ port user,
      userOf client.sys.inst port = some user ∧ user.userdata = some handle ∧
        callsFor handle (invokedIn labels) ≤ (deliveredTo port (ringsOf labels)).length := by
  have facts := fresh_state_facts made
  have observed := observed_clients run
  let owners := fun reference => (userOf client.sys.inst reference).bind ServiceUser.userdata
  have owned : Owned owners client.sys.inst := by
    intro reference user present
    simp only [owners, present, Option.bind_some]
  have permits : ∀ (sys : System) (label : Action × List RingLabel),
      sys.inst.completion.completionInsert < 2 ^ 63 →
      ∀ step ∈ label.2, FewCompletions (mirror owners sys.inst) step := by
    intro sys label few step _
    cases step with
    | delivered service message skipped => exact few
    | _ => trivial
  have rings := system_refines_rings facts few_completions_free permits owned observed
  rw [ring_log_of_labels] at rings
  have caused := caused_run rings
  have history := client_history_run run.unguarded
  refine ⟨(entered_once_run run.unguarded).distinct, ?_, ?_⟩
  · intro invocation member
    rcases history.calls invocation member with
      ⟨record, handled, handle, creation, callback, entered, present, same⟩
    rw [caused.handled record handled] at same
    exact ⟨handle, creation, callback, entered, present, same⟩
  · intro handle called
    have bound : callsFor handle (invokedIn labels) ≤
        (ringsOf labels).countP (RingLabel.causes owners (some handle)) :=
      calc callsFor handle (invokedIn labels)
        _ ≤ (handledRecords (ringsOf labels)).countP (named (some handle)) := history.counted handle
        _ ≤ unhandledFor (some handle) (mirror owners client.sys.inst).completion +
              (handledRecords (ringsOf labels)).countP (named (some handle)) :=
            Nat.le_add_left _ _
        _ ≤ (ringsOf labels).countP (RingLabel.causes owners (some handle)) :=
            caused.counted (some handle)
    rcases List.countP_pos_iff.mp (Nat.lt_of_lt_of_le called bound) with ⟨label, _, causes⟩
    cases label with
    | delivered port message skipped =>
        simp only [RingLabel.causes, decide_eq_true_eq, owners] at causes
        rcases Option.bind_eq_some_iff.mp causes with ⟨user, present, owner⟩
        have only : ∀ service, owners service = some handle ↔ service = port := by
          intro service
          constructor
          · intro named
            rcases Option.bind_eq_some_iff.mp named with ⟨other, found, otherOwner⟩
            rcases endpoint_of_user present with ⟨endpoint, entry, same⟩
            rcases endpoint_of_user found with ⟨otherEndpoint, otherEntry, otherSame⟩
            apply (owners_run facts (observed_run observed)).distinct service port otherEndpoint
              endpoint otherEntry entry
            rw [same, otherSame, owner, otherOwner]
          · rintro rfl
            exact causes
        rw [causes_eq_delivered only] at bound
        exact ⟨port, user, present, owner, bound⟩
    | _ => simp [RingLabel.causes] at causes

end Runs

/-- A move of the system, with what it does to the clients. -/
def ClientSystem.perform (callback : Option Callback) (callbackParam : Option Data)
    (client : ClientSystem Callback Data) (move : Move) :
    Option (ClientLabel Callback Data × ClientSystem Callback Data) :=
  match client.sys.perform move with
  | none => none
  | some (action, next) =>
      match client.invokedBy action with
      | .error _ => none
      | .ok invoked =>
          if client.sys.inst.completion.completionInsert < 2 ^ 63 then
            some
              (⟨action, client.sys.ringLabels action, client.enteredBy action, invoked⟩,
                ⟨next, client.servicesAfter action,
                  client.creationAfter callback callbackParam action⟩)
          else none

theorem client_perform_step {callback : Option Callback} {callbackParam : Option Data}
    (client : ClientSystem Callback Data) (move : Move) (label : ClientLabel Callback Data)
    (next : ClientSystem Callback Data)
    (performed : client.perform callback callbackParam move = some (label, next)) :
    Guarded ClientStep FewAnnounced client label next := by
  unfold ClientSystem.perform at performed
  cases moved : client.sys.perform move with
  | none => simp [moved] at performed
  | some result =>
      rcases result with ⟨action, after⟩
      cases handled : client.invokedBy action with
      | error panic => simp [moved, handled] at performed
      | ok invoked =>
          simp only [moved, handled] at performed
          split_ifs at performed with few
          simp only [Option.some.injEq, Prod.mk.injEq] at performed
          rcases performed with ⟨rfl, rfl⟩
          exact ⟨⟨perform_step moved, rfl, rfl, handled, rfl, callback, callbackParam, rfl⟩, few⟩

set_option maxRecDepth 20000 in
theorem told_client_performed :
    ∃ fresh labels, ∃ client : ClientSystem Unit Nat,
      freshState blankSlotZero (fun _ => 0) (65 * vchiqSlotSize) = .ok fresh ∧
      performAll (ClientSystem.perform (some ()) (some 7)) (ClientSystem.new (freshInstance fresh))
        (openingMoves ++ [.resume, .receive sampleData, .complete]) = some (labels, client) ∧
      invokedIn labels = [.client 0 () (some 7) .messageAvailable] :=
  ⟨_, _, _, rfl, rfl, rfl⟩

/-- The client is told of the message, with the parameter it opened its service with. -/
theorem told_client_caused :
    ∃ (labels : List (ClientLabel Unit Nat)) (client : ClientSystem Unit Nat) (port : ServiceRef)
      (user : ServiceUser), invokedIn labels = [.client 0 () (some 7) .messageAvailable] ∧
      userOf client.sys.inst port = some user ∧ user.userdata = some 0 ∧
      1 ≤ (deliveredTo port (ringsOf labels)).length := by
  rcases told_client_performed with ⟨fresh, labels, client, made, performed, told⟩
  have run := run_of_performed client_perform_step .refl performed
  rcases callbacks_are_caused made run with ⟨_, _, counted⟩
  rw [List.nil_append, told] at counted
  have once : callsFor 0 [Invocation.client 0 () (some 7) Reason.messageAvailable] = 1 := rfl
  rcases counted 0 (by rw [once]; exact Nat.one_pos) with ⟨port, user, present, owner, bound⟩
  rw [once] at bound
  exact ⟨labels, client, port, user, told, present, owner, bound⟩

end RuspiroVchiq.Vchi
