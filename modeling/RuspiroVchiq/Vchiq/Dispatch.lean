import RuspiroVchiq.Vchiq.SlotHandler
import RuspiroVchiq.Delivery.Rings

/-!
# What dispatching a message can do

The inversion of `dispatch`: every way a message is handled without a panic,
with the facts the code checked on that way. All later results about received
messages go through it. `Consistent` is what the handler relies on: a service
sits at the table index of its local port, and that port has a quota record.
-/

namespace RuspiroVchiq.Vchiq

open RuspiroVchiq.Config
open RuspiroVchiq.Shared
open RuspiroVchiq.Delivery

set_option autoImplicit false

/-- The table index a message is addressed to. -/
def receiverRef (message : SlotMessage) : ServiceRef :=
  (dstPortFromId message.header.msgid).toNat

/-- The remote port of a CLOSE for local port 0 disagrees with the one the service
knows. -/
def PortClash (service : Service) (message : SlotMessage) : Prop :=
  service.remoteport ≠ srcPortFromId message.header.msgid ∧
    service.remoteport ≠ vchiqPortFree ∧ dstPortFromId message.header.msgid = 0

instance (service : Service) (message : SlotMessage) : Decidable (PortClash service message) :=
  inferInstanceAs (Decidable (_ ∧ _ ∧ _))

/-- The sender of a DATA message is the peer of an open service. -/
def Accepts (service : Service) (message : SlotMessage) : Prop :=
  service.remoteport = srcPortFromId message.header.msgid ∧ service.srvstate = .open

instance (service : Service) (message : SlotMessage) : Decidable (Accepts service message) :=
  inferInstanceAs (Decidable (_ ∧ _))

/-- A service in use sits at the index. -/
def InUse (state : State) (reference : ServiceRef) (service : Service) : Prop :=
  state.srvState.service reference = some service ∧ service.srvstate ≠ .free

/-- The instance after a CLOSE was received for the service. -/
def closedInstance (inst : Instance) (reference : ServiceRef) (localPort : Nat) : Instance :=
  { inst with
    state :=
      { inst.state.updateService reference Service.closeReceived with
        quotaState :=
          { inst.state.quotaState with
            serviceQuotas :=
              inst.state.quotaState.serviceQuotas.modify localPort raiseQuotaEvent } } }

/-- The instance after a message was delivered to the service. -/
def deliveredInstance (inst : Instance) (reference : ServiceRef) (completion : Completion)
    (user : ServiceUser) : Instance :=
  { inst.updateService reference fun service =>
      { service with base := { service.base with userdata := user } } with
    completion := completion }

inductive Dispatched (inst : Instance) (message : SlotMessage) : Instance → Prop where
  | connect (msgType : msgTypeFromId message.header.msgid = some .connect) :
      Dispatched inst message
        { inst with state := { inst.state with connect := inst.state.connect + 1 } }
  | ignored {kind : MessageType} (msgType : msgTypeFromId message.header.msgid = some kind)
      (silent : kind = .padding ∨ kind = .bulkRxDone ∨ kind = .bulkTxDone) :
      Dispatched inst message inst
  | acknowledged {service : Service}
      (msgType : msgTypeFromId message.header.msgid = some .openAck)
      (used : InUse inst.state (receiverRef message) service) :
      Dispatched inst message
        (inst.updateService (receiverRef message) fun service =>
          service.openAcknowledged (srcPortFromId message.header.msgid) message)
  | closed {service : Service}
      (msgType : msgTypeFromId message.header.msgid = some .close)
      (used : InUse inst.state (receiverRef message) service)
      (agrees : ¬PortClash service message) :
      Dispatched inst message
        (closedInstance inst (receiverRef message) service.localport.toNat)
  | dropped {service : Service}
      (msgType : msgTypeFromId message.header.msgid = some .data)
      (used : InUse inst.state (receiverRef message) service)
      (refused : ¬Accepts service message ∨ service.base.callback = none) :
      Dispatched inst message inst
  | delivered {service target : Service} {reference : ServiceRef} {completion : Completion}
      {user : ServiceUser} (msgType : msgTypeFromId message.header.msgid = some .data)
      (used : InUse inst.state (receiverRef message) service)
      (accepted : Accepts service message)
      (found : inst.state.serviceFromHandle service.handle = some reference)
      (stored : inst.state.srvState.service reference = some target)
      (callback : serviceCallback .messageAvailable (some message) target.base.userdata
        inst.completion = .ok (completion, user)) :
      Dispatched inst message (deliveredInstance inst reference completion user)

/-- A service found by its port is in use and has a table entry. -/
theorem service_by_port_some {state : State} {localPort : UInt32} {reference : ServiceRef}
    (found : state.serviceByPort localPort = .ok (some reference)) :
    reference = localPort.toNat ∧ ∃ service, InUse state reference service := by
  unfold State.serviceByPort at found
  cases entry : state.srvState.services[localPort.toNat]? with
  | none => simp [entry] at found
  | some slot =>
      cases slot with
      | none => simp [entry] at found
      | some service =>
          simp only [entry] at found
          split_ifs at found with unused
          · simp at found
          · simp only [Except.ok.injEq, Option.some.injEq] at found
            subst found
            refine ⟨rfl, service, ?_, unused⟩
            simp [SrvState.service, entry]

theorem service_by_port_of_used {state : State} {localPort : UInt32} {service : Service}
    (used : InUse state localPort.toNat service) :
    state.serviceByPort localPort = .ok (some localPort.toNat) := by
  obtain ⟨stored, notFree⟩ := used
  unfold SrvState.service at stored
  unfold State.serviceByPort
  cases entry : state.srvState.services[localPort.toNat]? with
  | none => simp [entry] at stored
  | some slot =>
      simp only [entry, Option.join_some] at stored
      simp only [stored, if_neg notFree]

/-- The message types that need a service. -/
def NeedsService (msgType : MessageType) : Prop :=
  msgType = .openAck ∨ msgType = .close ∨ msgType = .data ∨ msgType = .bulkRx ∨
    msgType = .bulkTx ∨ msgType = .bulkRxDone ∨ msgType = .bulkTxDone

theorem receiver_of_some {state : State} {message : SlotMessage} {msgType : MessageType}
    {receiver : Option ServiceRef} (needs : NeedsService msgType)
    (found : receiverOf state msgType (dstPortFromId message.header.msgid)
      (srcPortFromId message.header.msgid) = .ok receiver) :
    receiver = some (receiverRef message) ∧
      ∃ service, InUse state (receiverRef message) service ∧
        (msgType = .close → ¬PortClash service message) := by
  have lookup : ∀ answer, state.serviceByPort (dstPortFromId message.header.msgid) =
      .ok (some answer) → answer = receiverRef message ∧
        ∃ service, InUse state (receiverRef message) service := by
    intro answer some
    obtain ⟨rfl, used⟩ := service_by_port_some some
    exact ⟨rfl, used⟩
  unfold receiverOf at found
  cases byPort : state.serviceByPort (dstPortFromId message.header.msgid) with
  | error panic =>
      rcases needs with rfl | rfl | rfl | rfl | rfl | rfl | rfl <;> simp [byPort] at found
  | ok answer =>
      cases answer with
      | none =>
          rcases needs with rfl | rfl | rfl | rfl | rfl | rfl | rfl <;> simp [byPort] at found
      | some answer =>
          obtain ⟨rfl, service, used⟩ := lookup answer byPort
          by_cases isClose : msgType = .close
          · subst isClose
            simp only [byPort, used.1] at found
            split_ifs at found with clash
            simp only [Except.ok.injEq] at found
            exact ⟨found.symm, service, used, fun _ => clash⟩
          · refine ⟨?_, service, used, fun same => absurd same isClose⟩
            rcases needs with rfl | rfl | rfl | rfl | rfl | rfl | rfl
            all_goals first | exact absurd rfl isClose | skip
            all_goals
              simp only [byPort, Except.ok.injEq] at found
              exact found.symm

theorem receive_data_cases {inst next : Instance} {message : SlotMessage} {service : Service}
    (msgType : msgTypeFromId message.header.msgid = some .data)
    (used : InUse inst.state (receiverRef message) service)
    (received : receiveData inst (receiverRef message) (srcPortFromId message.header.msgid)
      message = .ok next) :
    Dispatched inst message next := by
  unfold receiveData at received
  simp only [used.1] at received
  by_cases accepted : Accepts service message
  · have condition : service.remoteport = srcPortFromId message.header.msgid ∧
        service.srvstate = .open := accepted
    simp only [if_pos condition] at received
    cases installed : service.base.callback with
    | none =>
        simp only [installed, Except.ok.injEq] at received
        subst received
        exact .dropped msgType used (.inr installed)
    | some callback =>
        simp only [installed, invokeCallback] at received
        cases found : inst.state.serviceFromHandle service.handle with
        | none => simp [found] at received
        | some reference =>
            simp only [found] at received
            cases stored : inst.state.srvState.service reference with
            | none => simp [stored] at received
            | some target =>
                simp only [stored] at received
                cases called : serviceCallback .messageAvailable (some message)
                    target.base.userdata inst.completion with
                | error panic => simp [called] at received
                | ok result =>
                    simp only [called, Except.ok.injEq] at received
                    subst received
                    exact .delivered msgType used accepted found stored called
  · have condition : ¬(service.remoteport = srcPortFromId message.header.msgid ∧
        service.srvstate = .open) := accepted
    simp only [if_neg condition, Except.ok.injEq] at received
    subst received
    exact .dropped msgType used (.inl accepted)

/-- The inversion of `dispatch`. -/
theorem dispatch_cases {inst next : Instance} {message : SlotMessage}
    (handled : dispatch inst message = .ok next) : Dispatched inst message next := by
  unfold dispatch at handled
  cases idType : msgTypeFromId message.header.msgid with
  | none => simp [idType] at handled
  | some msgType =>
      simp only [idType] at handled
      cases received : receiverOf inst.state msgType (dstPortFromId message.header.msgid)
          (srcPortFromId message.header.msgid) with
      | error panic => simp [received] at handled
      | ok receiver =>
          simp only [received] at handled
          cases msgType with
          | connect =>
              simp only [handleMessage, Except.ok.injEq] at handled
              subst handled
              exact .connect idType
          | padding =>
              simp only [handleMessage, Except.ok.injEq] at handled
              subst handled
              exact .ignored idType (.inl rfl)
          | bulkRxDone =>
              simp only [handleMessage, Except.ok.injEq] at handled
              subst handled
              exact .ignored idType (.inr (.inl rfl))
          | bulkTxDone =>
              simp only [handleMessage, Except.ok.injEq] at handled
              subst handled
              exact .ignored idType (.inr (.inr rfl))
          | openAck =>
              obtain ⟨rfl, service, used, _⟩ := receiver_of_some (.inl rfl) received
              simp only [handleMessage, Except.ok.injEq] at handled
              subst handled
              exact .acknowledged idType used
          | close =>
              obtain ⟨rfl, service, used, agrees⟩ :=
                receiver_of_some (.inr (.inl rfl)) received
              simp only [handleMessage, receiveClose, used.1] at handled
              split_ifs at handled
              simp only [Except.ok.injEq] at handled
              subst handled
              exact .closed idType used (agrees rfl)
          | data =>
              obtain ⟨rfl, service, used, _⟩ :=
                receiver_of_some (.inr (.inr (.inl rfl))) received
              exact receive_data_cases idType used handled
          | «open» => simp [handleMessage] at handled
          | bulkRx => simp [handleMessage] at handled
          | bulkTx => simp [handleMessage] at handled
          | pause => simp [handleMessage] at handled
          | resume => simp [handleMessage] at handled
          | remoteUse => simp [handleMessage] at handled
          | remoteRelease => simp [handleMessage] at handled
          | remoteUseActive => simp [handleMessage] at handled

/-- What the slot handler relies on. -/
structure Consistent (inst : Instance) : Prop where
  quotas : inst.state.quotaState.serviceQuotas.length = vchiqMaxServices
  ports : ∀ reference service, inst.state.srvState.service reference = some service →
    service.localport.toNat = reference ∧ reference < vchiqMaxServices
  ordered : Ordered inst.completion

/-- The types the handler implements, addressed to a service in use where one is
needed. -/
def Addressed (inst : Instance) (message : SlotMessage) : Prop :=
  msgTypeFromId message.header.msgid = some .connect ∨
    msgTypeFromId message.header.msgid = some .padding ∨
    (∃ msgType, msgTypeFromId message.header.msgid = some msgType ∧
      (msgType = .openAck ∨ msgType = .close ∨ msgType = .data ∨ msgType = .bulkRxDone ∨
        msgType = .bulkTxDone)) ∧
      ∃ service, InUse inst.state (receiverRef message) service

/-- A CLOSE of the message does not run into the unfinished lookup for port 0. -/
def CloseAgrees (inst : Instance) (message : SlotMessage) : Prop :=
  msgTypeFromId message.header.msgid = some .close →
    ∀ service, InUse inst.state (receiverRef message) service → ¬PortClash service message

/-- A service in the table is found by its handle. -/
theorem service_from_handle_found {state : State} {reference : ServiceRef} {service : Service}
    (stored : state.srvState.service reference = some service) :
    ∃ first target, state.serviceFromHandle service.handle = some first ∧
      state.srvState.service first = some target ∧ target.handle = service.handle := by
  unfold SrvState.service at stored
  have entry : state.srvState.services[reference]? = some (some service) := by
    cases slot : state.srvState.services[reference]? with
    | none => simp [slot] at stored
    | some slot =>
        simp only [slot, Option.join_some] at stored
        rw [stored]
  cases found : state.serviceFromHandle service.handle with
  | none =>
      unfold State.serviceFromHandle at found
      rw [List.findIdx?_eq_none_iff] at found
      have absent := found (some service) (List.mem_of_getElem? entry)
      simp at absent
  | some first =>
      have located := found
      unfold State.serviceFromHandle at located
      obtain ⟨bound, matches', _⟩ := List.findIdx?_eq_some_iff_getElem.mp located
      have slot : state.srvState.services[first]? =
          some (state.srvState.services.get ⟨first, bound⟩) := List.getElem?_eq_getElem bound
      cases content : state.srvState.services.get ⟨first, bound⟩ with
      | none =>
          simp only [List.get_eq_getElem] at content
          simp [content] at matches'
      | some target =>
          simp only [List.get_eq_getElem] at content
          refine ⟨first, target, rfl, ?_, ?_⟩
          · simp [SrvState.service, bound, content]
          · simpa [content] using matches'

/-- An addressed message is handled without a panic. -/
theorem dispatch_ok {inst : Instance} {message : SlotMessage} (consistent : Consistent inst)
    (addressed : Addressed inst message) (agrees : CloseAgrees inst message) :
    ∃ next, dispatch inst message = .ok next := by
  rcases addressed with isConnect | isPadding | ⟨⟨msgType, idType, kind⟩, service, used⟩
  · exact ⟨_, by simp only [dispatch, isConnect]; rfl⟩
  · exact ⟨_, by simp only [dispatch, isPadding]; rfl⟩
  · have byPort := service_by_port_of_used used
    simp only [dispatch, idType]
    rcases kind with rfl | rfl | rfl | rfl | rfl
    · simp only [receiverOf, byPort, handleMessage]
      exact ⟨_, rfl⟩
    · have noClash := agrees idType service used
      obtain ⟨port, bound⟩ := consistent.ports _ _ used.1
      have quotaBound : service.localport.toNat <
          inst.state.quotaState.serviceQuotas.length := by
        rw [consistent.quotas, port]
        exact bound
      have stored : inst.state.srvState.service (dstPortFromId message.header.msgid).toNat =
          some service := used.1
      unfold PortClash at noClash
      simp only [receiverOf, byPort, stored]
      rw [if_neg noClash]
      simp only [handleMessage, receiveClose, stored, if_pos quotaBound]
      exact ⟨_, rfl⟩
    · have stored : inst.state.srvState.service (dstPortFromId message.header.msgid).toNat =
          some service := used.1
      simp only [receiverOf, byPort, handleMessage, receiveData, stored]
      split_ifs
      · cases service.base.callback with
        | none => exact ⟨_, rfl⟩
        | some callback =>
            obtain ⟨first, target, found, content, _⟩ := service_from_handle_found stored
            obtain ⟨next, user, called, _⟩ := service_callback_ok consistent.ordered
              .messageAvailable (some message) target.base.userdata
            simp only [invokeCallback, found, content, called]
            exact ⟨_, rfl⟩
      · exact ⟨_, rfl⟩
    · simp only [receiverOf, byPort, handleMessage]
      exact ⟨_, rfl⟩
    · simp only [receiverOf, byPort, handleMessage]
      exact ⟨_, rfl⟩

/-- Changing a service in place keeps the ports where they are. -/
theorem Consistent.update {inst : Instance} (consistent : Consistent inst)
    (reference : ServiceRef) (change : Service → Service)
    (samePort : ∀ service, (change service).localport = service.localport) :
    Consistent (inst.updateService reference change) where
  quotas := consistent.quotas
  ports := by
    intro other service stored
    simp only [Instance.updateService, State.updateService, service_update] at stored
    split_ifs at stored with same
    · rw [Option.map_eq_some_iff] at stored
      obtain ⟨earlier, found, rfl⟩ := stored
      rw [samePort]
      exact consistent.ports other earlier found
    · exact consistent.ports other service stored
  ordered := consistent.ordered

theorem open_acknowledged_port (service : Service) (remotePort : UInt32)
    (message : SlotMessage) :
    (service.openAcknowledged remotePort message).localport = service.localport := by
  unfold Service.openAcknowledged
  cases openAckVersion message <;> (simp only; split_ifs <;> rfl)

theorem free_port (service : Service) : service.free.localport = service.localport := by
  unfold Service.free
  split <;> rfl

theorem close_complete_port (service : Service) :
    service.closeComplete.localport = service.localport := by
  unfold Service.closeComplete
  split
  · exact free_port _
  · exact free_port _
  · exact free_port _
  · rfl
  · rfl

theorem close_received_port (service : Service) :
    service.closeReceived.localport = service.localport := by
  unfold Service.closeReceived
  simp only
  split
  · rfl
  · exact close_complete_port _
  · rfl

theorem dispatch_consistent {inst next : Instance} {message : SlotMessage}
    (consistent : Consistent inst) (handled : Dispatched inst message next) :
    Consistent next := by
  cases handled with
  | connect _ => exact ⟨consistent.quotas, consistent.ports, consistent.ordered⟩
  | ignored _ _ => exact consistent
  | dropped _ _ _ => exact consistent
  | acknowledged _ _ =>
      exact consistent.update _ _ fun service => open_acknowledged_port service _ _
  | closed _ _ _ =>
      have updated := consistent.update (receiverRef message) _ close_received_port
      refine ⟨?_, updated.ports, consistent.ordered⟩
      simp only [closedInstance, List.length_modify]
      exact consistent.quotas
  | @delivered service target reference completion user _ _ _ _ _ callback =>
      have updated := consistent.update reference
        (fun service => { service with base := { service.base with userdata := user } })
        fun _ => rfl
      obtain ⟨expected, user', called, ordered⟩ := service_callback_ok consistent.ordered
        .messageAvailable (some message) target.base.userdata
      rw [callback] at called
      simp only [Except.ok.injEq, Prod.mk.injEq] at called
      refine ⟨updated.quotas, updated.ports, ?_⟩
      rw [deliveredInstance, called.1]
      exact ordered

/-- A fresh instance. -/
def freshInstance (state : State) : Instance where
  state := state
  connected := false
  completion := Completion.default

theorem fresh_consistent {state : State} (facts : FreshState state) :
    Consistent (freshInstance state) := by
  refine ⟨?_, ?_, Nat.le_refl 0⟩
  · simp only [freshInstance, facts.quotas, List.length_replicate]
  · intro reference service stored
    rw [freshInstance, fresh_service_absent facts] at stored
    simp at stored

end RuspiroVchiq.Vchiq
