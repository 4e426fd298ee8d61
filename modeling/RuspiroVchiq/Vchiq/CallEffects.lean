import RuspiroVchiq.Vchiq.Endpoints

/-!
# What the calls do to the service table

For every poll of a call and for every received message there is one lemma that
says which endpoint it changes, what it sends and what it leaves alone. The
results about whole runs go through these lemmas and do not unfold the calls
again.
-/

namespace RuspiroVchiq.Vchiq

open RuspiroVchiq.Config
open RuspiroVchiq.Shared
open RuspiroVchiq.Delivery

set_option autoImplicit false

theorem connect_call_type : msgTypeFromId connectCall.msgId = some .connect := by decide

/-- `connect` sends its message in state DISCONNECTED only. -/
theorem begin_connect_ok {inst next : Instance} {sent : Option Outgoing}
    (polled : inst.beginConnect = (.ok sent, next)) :
    Effect inst next inst.state.endpoints ∧ next.state.connect = inst.state.connect ∧
      ((inst.state.connState = .disconnected ∧ sent = some ⟨none, connectCall.message⟩ ∧
          next.state.connState = .connecting) ∨
        (inst.state.connState ≠ .disconnected ∧ sent = none ∧
          next.state.connState = inst.state.connState)) := by
  unfold Instance.beginConnect at polled
  split_ifs at polled
  · simp at polled
  · by_cases disconnected : inst.state.connState = .disconnected
    · simp only [disconnected] at polled
      cases queued : inst.send none connectCall with
      | mk result after =>
          cases result with
          | error stop => simp [queued] at polled
          | ok message =>
              simp only [queued, Prod.mk.injEq, Except.ok.injEq] at polled
              obtain ⟨rfl, rfl⟩ := polled
              obtain ⟨rfl, msgType, done⟩ := send_queued queued
              have effect := done.effect (.inl rfl)
              refine ⟨⟨effect.connected, effect.quotas, effect.length, effect.unused,
                effect.ordered, effect.endpoints⟩, done.sent.connect,
                .inl ⟨disconnected, rfl, rfl⟩⟩
    · have unchanged : ((.ok none, inst) : Polled) = (.ok sent, next) := by
        rw [← polled]
        cases state : inst.state.connState with
        | disconnected => exact absurd state disconnected
        | _ => rfl
      simp only [Prod.mk.injEq, Except.ok.injEq] at unchanged
      obtain ⟨rfl, rfl⟩ := unchanged
      exact ⟨Effect.refl inst, rfl, .inr ⟨disconnected, rfl, rfl⟩⟩
  · simp at polled

theorem begin_connect_failed {inst next : Instance} {error : VchiqError}
    (polled : inst.beginConnect = (.error (.error error), next)) : next = inst := by
  unfold Instance.beginConnect at polled
  split_ifs at polled
  · exact (congrArg Prod.snd polled).symm
  · by_cases disconnected : inst.state.connState = .disconnected
    · simp only [disconnected] at polled
      cases queued : inst.send none connectCall with
      | mk result after =>
          cases result with
          | ok message => simp [queued] at polled
          | error stop =>
              simp only [queued, Prod.mk.injEq, Except.error.injEq] at polled
              rw [polled.1] at queued
              have isData := (send_refused queued).2.2.2
              rw [connect_call_type] at isData
              simp at isData
    · cases state : inst.state.connState with
      | disconnected => exact absurd state disconnected
      | _ => simp [state] at polled
  · exact (congrArg Prod.snd polled).symm

/-- `connect` ends by taking the CONNECT of the VideoCore unless that was taken
before. -/
theorem finish_connect_some {inst next : Instance}
    (polled : inst.finishConnect = some next) :
    Effect { inst with connected := true } next inst.state.endpoints ∧
      ((inst.state.connState = .connecting ∧ 0 < inst.state.connect ∧
          next.state.connState = .connected ∧
          next.state.connect = inst.state.connect - 1) ∨
        (inst.state.connState ≠ .connecting ∧
          next.state.connState = inst.state.connState ∧
          next.state.connect = inst.state.connect)) := by
  unfold Instance.finishConnect at polled
  by_cases connecting : inst.state.connState = .connecting
  · simp only [connecting] at polled
    split_ifs at polled with raised
    simp only [Option.some.injEq] at polled
    subst polled
    exact ⟨⟨rfl, rfl, rfl, rfl, id, rfl⟩, .inl ⟨connecting, raised, rfl, rfl⟩⟩
  · have unchanged : some { inst with connected := true } = some next := by
      rw [← polled]
      cases state : inst.state.connState with
      | connecting => exact absurd state connecting
      | _ => rfl
    simp only [Option.some.injEq] at unchanged
    subst unchanged
    exact ⟨⟨rfl, rfl, rfl, rfl, id, rfl⟩, .inr ⟨connecting, rfl, rfl⟩⟩

/-- The endpoint of a service that was just added. -/
def freshEndpoint (index : ServiceRef) (handle : ServiceHandle)
    (owner : Option ServiceHandle) : Endpoint where
  localport := UInt32.ofNat index
  remoteport := vchiqPortFree
  srvstate := .opening
  closing := false
  handle := handle
  owner := owner

theorem of_nat_port {index : ServiceRef} (small : index < vchiqMaxServices) :
    (UInt32.ofNat index).toNat = index := by
  rw [UInt32.toNat_ofNat']
  exact Nat.mod_eq_of_lt (Nat.lt_trans small (by decide))

/-- The chosen entry has no endpoint. -/
theorem free_index_empty {inst : Instance} {bound : ServiceHandle} {index : Nat}
    (registered : Registered inst bound)
    (chosen : inst.state.srvState.freeIndex = some index) :
    index ≤ inst.state.srvState.unusedService ∧ inst.state.endpoints index = none := by
  have tail : ∀ reference, inst.state.srvState.unusedService ≤ reference →
      inst.state.srvState.service reference = none := by
    intro reference beyond
    exact Option.map_eq_none_iff.mp (registered.tail reference beyond)
  obtain ⟨below, vacant⟩ := free_index_vacant tail chosen
  exact ⟨below, by rw [State.endpoints, vacant, Option.map_none]⟩

/-- What `add_service` does: one entry that was empty holds the new service. -/
structure ServiceAdded (before after : State) (index : ServiceRef) (fresh : Endpoint) :
    Prop where
  vacant : before.endpoints index = none
  small : index < vchiqMaxServices
  below : index ≤ before.srvState.unusedService
  endpoints : after.endpoints = Function.update before.endpoints index (some fresh)
  connState : after.connState = before.connState
  connect : after.connect = before.connect
  quotas : after.quotaState.serviceQuotas.length = before.quotaState.serviceQuotas.length
  length : after.srvState.services.length = before.srvState.services.length
  unused : after.srvState.unusedService = before.srvState.unusedService + 1

theorem add_service_ok {inst : Instance} {bound : ServiceHandle} {params : ServiceParams}
    {srvHandle : ServiceHandle} {state : State} (registered : Registered inst bound)
    (added : inst.state.addService params srvHandle = .ok state) :
    ∃ index, inst.state.srvState.freeIndex = some index ∧
      ServiceAdded inst.state state index
        (freshEndpoint index srvHandle params.userdata.userdata) := by
  obtain ⟨index, chosen, within, rfl⟩ := add_service_cases added
  obtain ⟨below, vacant⟩ := free_index_empty registered chosen
  refine ⟨index, chosen, vacant, by rw [← registered.length]; exact within, below, ?_, rfl, rfl,
    List.length_modify _ _ _, List.length_set, rfl⟩
  funext other
  by_cases same : other = index
  · subst same
    rw [Function.update_self, State.endpoints, entered_here _ _ _ within, Option.map_some]
    rfl
  · rw [Function.update_of_ne same, State.endpoints, entered_elsewhere _ _ _ same]
    rfl

theorem ServiceAdded.registered {inst : Instance} {srvHandle : ServiceHandle} {state : State}
    {index : ServiceRef} {owner : Option ServiceHandle}
    (added : ServiceAdded inst.state state index (freshEndpoint index srvHandle owner))
    (registered : Registered inst srvHandle) :
    Registered { inst with state := state } (srvHandle + 1) := by
  -- an entry is the new one or an old one
  have entry : ∀ reference endpoint, state.endpoints reference = some endpoint →
      (reference = index ∧ endpoint = freshEndpoint index srvHandle owner) ∨
        inst.state.endpoints reference = some endpoint := by
    intro reference endpoint present
    rw [added.endpoints] at present
    by_cases same : reference = index
    · subst same
      rw [Function.update_self, Option.some.injEq] at present
      exact .inl ⟨rfl, present.symm⟩
    · rw [Function.update_of_ne same] at present
      exact .inr present
  constructor
  · exact added.quotas.trans registered.quotas
  · exact added.length.trans registered.length
  · intro reference beyond
    have past : inst.state.srvState.unusedService < reference := by
      simp only [added.unused] at beyond
      exact beyond
    have other : reference ≠ index :=
      Nat.ne_of_gt (Nat.lt_of_le_of_lt added.below past)
    simp only [added.endpoints, Function.update_of_ne other]
    exact registered.tail reference (Nat.le_of_lt past)
  · intro reference endpoint present
    rcases entry reference endpoint present with ⟨rfl, rfl⟩ | old
    · exact ⟨of_nat_port added.small, added.small⟩
    · exact registered.ports reference endpoint old
  · intro reference endpoint present
    rcases entry reference endpoint present with ⟨rfl, rfl⟩ | old
    · exact Nat.le_refl vchiqMaxServices
    · exact registered.remotes reference endpoint old
  · intro reference endpoint present
    rcases entry reference endpoint present with ⟨rfl, rfl⟩ | old
    · exact Nat.lt_succ_self srvHandle
    · exact Nat.lt_succ_of_lt (registered.handles reference endpoint old)
  · exact registered.ordered

/-- The endpoint found by a handle no older service has is the new one. -/
theorem ServiceAdded.found {inst : Instance} {srvHandle : ServiceHandle} {state : State}
    {index reference : ServiceRef} {owner : Option ServiceHandle} {service : Service}
    (added : ServiceAdded inst.state state index (freshEndpoint index srvHandle owner))
    (registered : Registered inst srvHandle)
    (found : state.serviceOf srvHandle = some (reference, service)) :
    reference = index ∧ service.endpoint = freshEndpoint index srvHandle owner := by
  obtain ⟨stored, handle⟩ := service_of_some found
  have present := endpoints_some stored
  rw [added.endpoints] at present
  by_cases same : reference = index
  · subst same
    rw [Function.update_self, Option.some.injEq] at present
    exact ⟨rfl, present.symm⟩
  · rw [Function.update_of_ne same] at present
    have older : service.handle < srvHandle := registered.handles reference _ present
    exact absurd handle (Nat.ne_of_lt older)

theorem open_call_type {service : Service} (port : service.localport.toNat < vchiqMaxServices) :
    msgTypeFromId (openCall service).msgId = some .open :=
  msg_type_make .open service.localport 0 port (by decide)

/-- What `create_service` has done when it starts to wait. -/
structure ServiceOpening (before after : Instance) (index : ServiceRef) (fresh : Endpoint)
    (message : SlotMessage) : Prop where
  connected : before.connected = true
  kept : after.connected = true
  vacant : before.state.endpoints index = none
  small : index < vchiqMaxServices
  msgid : message.header.msgid = makeMsgId .open (UInt32.ofNat index) 0
  endpoints : after.state.endpoints =
    Function.update before.state.endpoints index (some fresh)
  connState : after.state.connState = before.state.connState
  connect : after.state.connect = before.state.connect

theorem create_service_ok {inst next : Instance} {setup : ServiceSetup}
    {handle srvHandle : ServiceHandle} {sent : Option Outgoing}
    (registered : Registered inst srvHandle)
    (polled : inst.createService setup handle srvHandle = (.ok sent, next)) :
    Registered next (srvHandle + 1) ∧ ∃ index message,
      sent = some ⟨some index, message⟩ ∧
        ServiceOpening inst next index (freshEndpoint index srvHandle (some handle)) message := by
  unfold Instance.createService at polled
  split_ifs at polled with connected
  · cases addition : inst.state.addService (setup.params handle) srvHandle with
    | error stop => simp [addition] at polled
    | ok state =>
        obtain ⟨index, _, added⟩ := add_service_ok registered addition
        simp only [addition, Instance.beginOpen] at polled
        cases lookup : state.serviceOf srvHandle with
        | none => simp [lookup] at polled
        | some target =>
            obtain ⟨rfl, fresh⟩ := added.found registered lookup
            simp only [lookup] at polled
            obtain ⟨rfl, msgType, queued⟩ := send_queued polled
            have effect := queued.effect (.inl rfl)
            have port : target.2.localport = UInt32.ofNat target.1 :=
              congrArg Endpoint.localport fresh
            refine ⟨(added.registered registered).effect effect (Evolves.refl _),
              target.1, _, rfl, connected, ?_, added.vacant, added.small, ?_, ?_, ?_, ?_⟩
            · exact queued.connected.trans connected
            · simp only [QueueCall.message, openCall, port]
            · exact effect.endpoints.trans added.endpoints
            · exact queued.sent.connState.trans added.connState
            · exact queued.sent.connect.trans added.connect
  · simp at polled

theorem create_service_failed {inst next : Instance} {setup : ServiceSetup}
    {handle srvHandle : ServiceHandle} {error : VchiqError}
    (registered : Registered inst srvHandle)
    (polled : inst.createService setup handle srvHandle = (.error (.error error), next)) :
    next = inst := by
  unfold Instance.createService at polled
  split_ifs at polled with connected
  · cases addition : inst.state.addService (setup.params handle) srvHandle with
    | error stop =>
        simp only [addition] at polled
        exact (congrArg Prod.snd polled).symm
    | ok state =>
        obtain ⟨index, _, added⟩ := add_service_ok registered addition
        simp only [addition, Instance.beginOpen] at polled
        cases lookup : state.serviceOf srvHandle with
        | none => simp [lookup] at polled
        | some target =>
            obtain ⟨rfl, fresh⟩ := added.found registered lookup
            simp only [lookup] at polled
            have isData := (send_refused polled).2.2.2
            have port : target.2.localport.toNat < vchiqMaxServices := by
              rw [show target.2.localport = UInt32.ofNat target.1 from
                congrArg Endpoint.localport fresh, of_nat_port added.small]
              exact added.small
            rw [open_call_type port] at isData
            simp at isData
  · exact (congrArg Prod.snd polled).symm

/-- A wait on a service ends with its semaphore and changes no endpoint. -/
theorem await_service_some {inst next : Instance} {srvHandle : ServiceHandle}
    {judge : ServiceHandle → ServiceState → Except VchiqError Unit}
    {result : Except VchiqError Unit}
    (polled : inst.awaitService srvHandle judge = some (result, next)) :
    Effect inst next inst.state.endpoints ∧ next.state.connState = inst.state.connState ∧
      next.state.connect = inst.state.connect ∧
      ∃ reference endpoint, inst.state.endpoints reference = some endpoint ∧
        endpoint.handle = srvHandle ∧ result = judge srvHandle endpoint.srvstate := by
  unfold Instance.awaitService at polled
  cases lookup : inst.state.serviceOf srvHandle with
  | none => simp [lookup] at polled
  | some target =>
      obtain ⟨stored, handle⟩ := service_of_some lookup
      simp only [lookup] at polled
      split_ifs at polled
      simp only [Option.some.injEq, Prod.mk.injEq] at polled
      obtain ⟨rfl, rfl⟩ := polled
      have effect := (Effect.refl inst).update target.1 Service.takeRemoveEvent
      rw [endpoints_update_same inst.state target.1 Service.takeRemoveEvent fun _ => rfl] at effect
      exact ⟨effect, rfl, rfl, target.1, target.2.endpoint, endpoints_some stored, handle, rfl⟩

/-- The endpoint whose close was requested by this side and put on the wire. -/
def Endpoint.sendClose (endpoint : Endpoint) : Endpoint :=
  { endpoint with srvstate := .closeSent, closing := true }

/-- The endpoint that was given up without a message. -/
def Endpoint.release (endpoint : Endpoint) : Endpoint :=
  { endpoint with srvstate := .free, closing := true }

theorem close_call_type {service : Service} (reference : ServiceRef)
    (port : service.localport.toNat < vchiqMaxServices) :
    msgTypeFromId (closeCall reference service).msgId = some .close :=
  msg_type_make .close service.localport _ port (dst_port_lt service.remoteport)

/-- The two updates of a close, seen on the endpoints. -/
theorem endpoints_mark_update {state : State} {reference : ServiceRef} {service : Service}
    (change : Service → Service)
    (stored : state.srvState.service reference = some service) :
    ((state.updateService reference Service.markClosing).updateService reference
        change).endpoints =
      Function.update state.endpoints reference (some (change service.markClosing).endpoint) := by
  have marked : (state.updateService reference Service.markClosing).srvState.service
      reference = some service.markClosing := by
    simp [State.updateService, stored]
  rw [endpoints_update change marked, endpoints_update Service.markClosing stored,
    Function.update_idem]

/-- A CLOSE that was queued for a service marked before. -/
theorem send_close_effect {inst next : Instance} {reference : ServiceRef} {service : Service}
    {sent : Option Outgoing} (stored : inst.state.srvState.service reference = some service)
    (port : service.localport.toNat < vchiqMaxServices)
    (polled : (inst.updateService reference Service.markClosing).send (some reference)
      (closeCall reference service) = (.ok sent, next)) :
    sent = some ⟨some reference, (closeCall reference service).message⟩ ∧
      Effect inst next (Function.update inst.state.endpoints reference
        (some service.endpoint.sendClose)) ∧
      next.state.connState = inst.state.connState ∧
      next.state.connect = inst.state.connect := by
  obtain ⟨same, msgType, queued⟩ := send_queued polled
  have idType := queued.sent.idType
  rw [close_call_type reference port, Option.some.injEq] at idType
  subst idType
  have effect := queued.close_effect rfl
  have endpoints := endpoints_mark_update (fun service => service.setState .closeSent) stored
  have marking := (Effect.refl inst).update reference Service.markClosing
  exact ⟨same, ⟨effect.connected, effect.quotas, effect.length.trans marking.length,
    effect.unused, effect.ordered, effect.endpoints.trans endpoints⟩,
    queued.sent.connState, queued.sent.connect⟩

/-- A second CLOSESENT changes nothing. -/
theorem Effect.mark_sent {before after : Instance} {reference : ServiceRef}
    {endpoints : ServiceRef → Option Endpoint} {endpoint : Endpoint}
    (effect : Effect before after
      (Function.update endpoints reference (some endpoint.sendClose))) :
    Effect before (after.updateService reference fun service => service.setState .closeSent)
      (Function.update endpoints reference (some endpoint.sendClose)) := by
  have present : after.state.endpoints reference = some endpoint.sendClose := by
    rw [effect.endpoints, Function.update_self]
  obtain ⟨service, stored, same⟩ := endpoints_of_some present
  have again : (service.setState .closeSent).endpoint = endpoint.sendClose := by
    have sentState : service.srvstate = .closeSent := congrArg Endpoint.srvstate same
    rw [← same]
    simp only [Service.setState, Service.endpoint, sentState]
  have updated := effect.update reference fun service => service.setState .closeSent
  rw [endpoints_update _ stored, again, effect.endpoints, Function.update_idem] at updated
  exact updated

/-- What `close_service` has done when it starts to wait. -/
inductive Closing (before after : Instance) (srvHandle : ServiceHandle) :
    Option Outgoing → ServiceRef → Endpoint → Prop where
  | released {reference : ServiceRef} {endpoint : Endpoint}
      (ended : endpoint.srvstate = .closed ∨ endpoint.srvstate = .closeWait)
      (effect : Effect before after (Function.update before.state.endpoints reference
        (some endpoint.release))) :
      Closing before after srvHandle none reference endpoint
  | sent {reference : ServiceRef} {endpoint : Endpoint} {message : SlotMessage}
      (begun : endpoint.srvstate = .opening ∨ endpoint.srvstate = .openSync ∨
        endpoint.srvstate = .open)
      (msgid : message.header.msgid =
        makeMsgId .close endpoint.localport (endpoint.remoteport &&& 0x0fff))
      (effect : Effect before after (Function.update before.state.endpoints reference
        (some endpoint.sendClose))) :
      Closing before after srvHandle (some ⟨some reference, message⟩) reference endpoint

/-- The service that was closed, with what was done to it. -/
def CloseBegun (before after : Instance) (srvHandle : ServiceHandle)
    (sent : Option Outgoing) : Prop :=
  ∃ reference endpoint, before.state.endpoints reference = some endpoint ∧
    endpoint.handle = srvHandle ∧ Closing before after srvHandle sent reference endpoint ∧
    after.state.connState = before.state.connState ∧
    after.state.connect = before.state.connect

/-- A service in state CLOSED or CLOSEWAIT is freed without a message. -/
theorem release_begun {inst : Instance} {reference : ServiceRef} {service : Service}
    (stored : inst.state.srvState.service reference = some service)
    (ended : service.srvstate = .closed ∨ service.srvstate = .closeWait) :
    CloseBegun inst ((inst.updateService reference Service.markClosing).updateService
      reference Service.free) service.handle none := by
  have effect := ((Effect.refl inst).update reference Service.markClosing).update
    reference Service.free
  have freed : service.markClosing.free.endpoint = service.endpoint.release := by
    rcases ended with isClosed | isWaiting
    · simp [Service.free, Service.markClosing, isClosed, Service.endpoint, Endpoint.release]
    · simp [Service.free, Service.markClosing, isWaiting, Service.endpoint, Endpoint.release]
  have endpoints := endpoints_mark_update Service.free stored
  rw [freed] at endpoints
  exact ⟨reference, service.endpoint, endpoints_some stored, rfl, .released ended
    ⟨effect.connected, effect.quotas, effect.length, effect.unused, effect.ordered,
      endpoints⟩, rfl, rfl⟩

/-- An open service is closed with a message that cannot be refused. -/
theorem send_close_begun {inst next : Instance} {reference : ServiceRef} {service : Service}
    {sent : Option Outgoing} (stored : inst.state.srvState.service reference = some service)
    (port : service.localport.toNat < vchiqMaxServices)
    (begun : service.srvstate = .openSync ∨ service.srvstate = .open)
    (polled : (inst.updateService reference Service.markClosing).sendClose reference
      service = (.ok sent, next)) :
    CloseBegun inst next service.handle sent := by
  unfold Instance.sendClose at polled
  cases queued : (inst.updateService reference Service.markClosing).send (some reference)
      (closeCall reference service) with
  | mk result after =>
      rw [queued] at polled
      cases result with
      | error stop =>
          cases stop with
          | error refused =>
              have isData := (send_refused queued).2.2.2
              rw [close_call_type reference port] at isData
              simp at isData
          | panic panic => simp at polled
          | blocked => simp at polled
      | ok message =>
          simp only [Prod.mk.injEq, Except.ok.injEq] at polled
          obtain ⟨rfl, rfl⟩ := polled
          obtain ⟨rfl, effect, connState, connect⟩ := send_close_effect stored port queued
          exact ⟨reference, service.endpoint, endpoints_some stored, rfl,
            .sent (.inr begun) rfl effect.mark_sent, connState, connect⟩

theorem Registered.port_lt {inst : Instance} {bound : ServiceHandle} {reference : ServiceRef}
    {service : Service} (registered : Registered inst bound)
    (stored : inst.state.srvState.service reference = some service) :
    service.localport.toNat < vchiqMaxServices := by
  obtain ⟨same, small⟩ := registered.ports reference _ (endpoints_some stored)
  exact same ▸ small

theorem begin_close_ok {inst next : Instance} {bound srvHandle : ServiceHandle}
    {sent : Option Outgoing} (registered : Registered inst bound)
    (polled : inst.beginClose srvHandle = (.ok sent, next)) :
    CloseBegun inst next srvHandle sent := by
  unfold Instance.beginClose at polled
  cases lookup : inst.state.serviceOf srvHandle with
  | none => simp [lookup] at polled
  | some target =>
      obtain ⟨reference, service⟩ := target
      obtain ⟨stored, rfl⟩ := service_of_some lookup
      have port := registered.port_lt stored
      simp only [lookup] at polled
      cases srvstate : service.srvstate with
      | closed =>
          simp only [srvstate, Prod.mk.injEq, Except.ok.injEq] at polled
          obtain ⟨rfl, rfl⟩ := polled
          exact release_begun stored (.inl srvstate)
      | closeWait =>
          simp only [srvstate, Prod.mk.injEq, Except.ok.injEq] at polled
          obtain ⟨rfl, rfl⟩ := polled
          exact release_begun stored (.inr srvstate)
      | openSync =>
          simp only [srvstate] at polled
          exact send_close_begun stored port (.inl srvstate) polled
      | «open» =>
          simp only [srvstate] at polled
          exact send_close_begun stored port (.inr srvstate) polled
      | opening =>
          simp only [srvstate] at polled
          obtain ⟨rfl, effect, connState, connect⟩ := send_close_effect stored port polled
          exact ⟨reference, service.endpoint, endpoints_some stored, rfl,
            .sent (.inl srvstate) rfl effect, connState, connect⟩
      | _ => simp [srvstate] at polled

theorem begin_close_failed {inst next : Instance} {bound srvHandle : ServiceHandle}
    {error : VchiqError} (registered : Registered inst bound)
    (polled : inst.beginClose srvHandle = (.error (.error error), next)) : next = inst := by
  unfold Instance.beginClose at polled
  cases lookup : inst.state.serviceOf srvHandle with
  | none =>
      simp only [lookup] at polled
      exact (congrArg Prod.snd polled).symm
  | some target =>
      obtain ⟨reference, service⟩ := target
      obtain ⟨stored, rfl⟩ := service_of_some lookup
      have isClose := close_call_type reference (registered.port_lt stored)
      -- queueing a CLOSE is never refused
      have queued : ∀ error' after, (inst.updateService reference Service.markClosing).send
          (some reference) (closeCall reference service) ≠ (.error (.error error'), after) := by
        intro error' after refused
        have isData := (send_refused refused).2.2.2
        rw [isClose] at isData
        simp at isData
      simp only [lookup] at polled
      cases srvstate : service.srvstate with
      | opening =>
          simp only [srvstate] at polled
          exact absurd polled (queued error next)
      | openSync | «open» =>
          simp only [srvstate, Instance.sendClose] at polled
          split at polled
          · simp at polled
          · simp only [Prod.mk.injEq, Except.error.injEq] at polled
            rename_i stop after notError sending
            exact absurd polled.1 (notError error)
          · simp at polled
      | free | listening | hidden =>
          simp only [srvstate, Prod.mk.injEq] at polled
          exact polled.2.symm
      | _ => simp [srvstate] at polled

/-- A DATA message that was stored belongs to a service that is not closing. -/
theorem queue_data_ok {inst next : Instance} {bound srvHandle : ServiceHandle}
    {data : Payload} {sent : Option Outgoing} (registered : Registered inst bound)
    (polled : inst.queueMessage srvHandle data = (.ok sent, next)) :
    ∃ reference endpoint message, inst.state.endpoints reference = some endpoint ∧
      endpoint.handle = srvHandle ∧ endpoint.closing = false ∧
      sent = some ⟨some reference, message⟩ ∧
      message.header.msgid = makeMsgId .data endpoint.localport endpoint.remoteport ∧
      Effect inst next inst.state.endpoints ∧
      next.state.connState = inst.state.connState ∧
      next.state.connect = inst.state.connect := by
  unfold Instance.queueMessage at polled
  cases lookup : inst.state.serviceOf srvHandle with
  | none => simp [lookup] at polled
  | some target =>
      obtain ⟨reference, service⟩ := target
      obtain ⟨stored, rfl⟩ := service_of_some lookup
      have present := endpoints_some stored
      simp only [lookup] at polled
      obtain ⟨rfl, msgType, queued⟩ := send_queued polled
      have idType := queued.sent.idType
      have isData := msg_type_make_spill .data service.localport service.remoteport
        (registered.port_lt stored) (registered.remotes reference _ present)
      rw [show (dataCall reference service data).msgId =
        makeMsgId .data service.localport service.remoteport from rfl, isData,
        Option.some.injEq] at idType
      subst idType
      obtain ⟨found, lookedUp, open'⟩ := queued.sent.notClosing rfl
      have same : found = service := by
        simp only [dataCall, Option.bind_some, stored, Option.some.injEq] at lookedUp
        exact lookedUp.symm
      rw [same] at open'
      exact ⟨reference, service.endpoint, _, present, rfl, open', rfl, rfl,
        queued.effect (.inr (by decide)), queued.sent.connState, queued.sent.connect⟩

theorem queue_data_failed {inst next : Instance} {srvHandle : ServiceHandle}
    {data : Payload} {error : VchiqError}
    (polled : inst.queueMessage srvHandle data = (.error (.error error), next)) :
    Effect inst next inst.state.endpoints ∧ next.state.connState = inst.state.connState ∧
      next.state.connect = inst.state.connect := by
  unfold Instance.queueMessage at polled
  cases lookup : inst.state.serviceOf srvHandle with
  | none =>
      simp only [lookup, Prod.mk.injEq] at polled
      rw [← polled.2]
      exact ⟨Effect.refl inst, rfl, rfl⟩
  | some target =>
      simp only [lookup] at polled
      obtain ⟨effect, connState, connect, _⟩ := send_refused polled
      exact ⟨effect, connState, connect⟩

/-- Storing new user data of the same owner changes no endpoint. -/
theorem store_user_effect (inst : Instance) {reference : ServiceRef} {service : Service}
    (stored : inst.state.srvState.service reference = some service) {user : ServiceUser}
    (owner : user.userdata = service.base.userdata.userdata) :
    Effect inst
      (inst.updateService reference fun service =>
        { service with base := { service.base with userdata := user } })
      inst.state.endpoints := by
  have effect := (Effect.refl inst).update reference fun service =>
    { service with base := { service.base with userdata := user } }
  rw [endpoints_update _ stored] at effect
  have same : ({ service with base := { service.base with userdata := user } } :
      Service).endpoint = service.endpoint := by
    simp only [Service.endpoint, owner]
  rw [same, ← endpoints_some stored, Function.update_eq_self] at effect
  exact effect

theorem poll_dequeue_ok {inst next : Instance} {reference : ServiceRef}
    (polled : inst.pollDequeue reference = .ok next) :
    Effect inst next inst.state.endpoints ∧ next.state.connState = inst.state.connState ∧
      next.state.connect = inst.state.connect := by
  unfold Instance.pollDequeue at polled
  cases stored : inst.state.srvState.service reference with
  | none => simp [stored] at polled
  | some service =>
      have ready := (dequeue_ready_same_queue service.base.userdata).userdata
      simp only [stored] at polled
      cases outcome : dequeueReady service.base.userdata with
      | mk isReady user =>
          rw [outcome] at ready
          cases isReady with
          | false =>
              simp only [outcome, Except.ok.injEq] at polled
              subst polled
              exact ⟨store_user_effect inst stored ready, rfl, rfl⟩
          | true =>
              simp only [outcome] at polled
              cases taken : dequeueTake user with
              | error stop => simp [taken] at polled
              | ok result =>
                  simp only [taken, Except.ok.injEq] at polled
                  subst polled
                  have owner := (dequeue_take_userdata taken).trans ready
                  exact ⟨store_user_effect inst stored owner, rfl, rfl⟩

/-- OPENACK connects an endpoint that waits for it and is lost on any other. -/
def Endpoint.acknowledge (endpoint : Endpoint) (remotePort : UInt32) : Endpoint :=
  if endpoint.srvstate = .opening then
    { endpoint with remoteport := remotePort, srvstate := .open }
  else endpoint

/-- CLOSE refuses an endpoint that waits for its answer and completes a close of
this side. In any other state the endpoint is only marked. -/
def Endpoint.closeReceived (endpoint : Endpoint) : Endpoint :=
  match endpoint.srvstate with
  | .opening => { endpoint with srvstate := .closeWait, closing := true }
  | .closeSent =>
      { endpoint with srvstate := .free, remoteport := vchiqPortFree, closing := true }
  | _ => { endpoint with closing := true }

theorem open_acknowledged_endpoint (service : Service) (remotePort : UInt32)
    (message : SlotMessage) :
    (service.openAcknowledged remotePort message).endpoint =
      service.endpoint.acknowledge remotePort := by
  have state : service.endpoint.srvstate = service.srvstate := rfl
  unfold Service.openAcknowledged Endpoint.acknowledge
  rw [state]
  by_cases opening : service.srvstate = .opening
  · cases openAckVersion message with
    | none =>
        simp only [if_pos opening]
        rfl
    | some version =>
        simp only [if_pos opening]
        rfl
  · cases openAckVersion message with
    | none => simp only [if_neg opening]
    | some version =>
        simp only [if_neg opening]
        rfl

theorem close_received_endpoint (service : Service) :
    service.closeReceived.endpoint = service.endpoint.closeReceived := by
  have state : service.endpoint.srvstate = service.srvstate := rfl
  unfold Service.closeReceived Endpoint.closeReceived
  rw [state]
  cases srvstate : service.srvstate with
  | closeSent =>
      simp only [Service.closeComplete, Service.free]
      rfl
  | _ => rfl

/-- A received message on the level of the endpoints. -/
inductive Received (before after : Instance) (message : SlotMessage) : Prop where
  | connect (msgType : msgTypeFromId message.header.msgid = some .connect)
      (effect : Effect before after before.state.endpoints)
      (connState : after.state.connState = before.state.connState)
      (connect : after.state.connect = before.state.connect + 1)
  | acknowledged {endpoint : Endpoint}
      (msgType : msgTypeFromId message.header.msgid = some .openAck)
      (present : before.state.endpoints (receiverRef message) = some endpoint)
      (used : endpoint.srvstate ≠ .free)
      (effect : Effect before after
        (Function.update before.state.endpoints (receiverRef message)
          (some (endpoint.acknowledge (srcPortFromId message.header.msgid)))))
      (connState : after.state.connState = before.state.connState)
      (connect : after.state.connect = before.state.connect)
  | closed {endpoint : Endpoint}
      (msgType : msgTypeFromId message.header.msgid = some .close)
      (present : before.state.endpoints (receiverRef message) = some endpoint)
      (used : endpoint.srvstate ≠ .free)
      (effect : Effect before after
        (Function.update before.state.endpoints (receiverRef message)
          (some endpoint.closeReceived)))
      (connState : after.state.connState = before.state.connState)
      (connect : after.state.connect = before.state.connect)
  | passed {kind : MessageType} (msgType : msgTypeFromId message.header.msgid = some kind)
      (other : kind ≠ .connect ∧ kind ≠ .openAck ∧ kind ≠ .close)
      (effect : Effect before after before.state.endpoints)
      (connState : after.state.connState = before.state.connState)
      (connect : after.state.connect = before.state.connect)

theorem dispatched_received {inst next : Instance} {message : SlotMessage}
    (consistent : Consistent inst) (handled : Dispatched inst message next) :
    Received inst next message := by
  have ordered : Ordered inst.completion → Ordered next.completion :=
    fun _ => (dispatch_consistent consistent handled).ordered
  cases handled with
  | connect msgType => exact .connect msgType ⟨rfl, rfl, rfl, rfl, id, rfl⟩ rfl rfl
  | @ignored kind msgType silent =>
      have other : kind ≠ .connect ∧ kind ≠ .openAck ∧ kind ≠ .close := by
        rcases silent with rfl | rfl | rfl <;> decide
      exact .passed msgType other (Effect.refl inst) rfl rfl
  | dropped msgType _ _ => exact .passed msgType (by decide) (Effect.refl inst) rfl rfl
  | @acknowledged service msgType used =>
      have effect := (Effect.refl inst).update (receiverRef message) fun service =>
        service.openAcknowledged (srcPortFromId message.header.msgid) message
      rw [endpoints_update _ used.1, open_acknowledged_endpoint] at effect
      exact .acknowledged msgType (endpoints_some used.1) used.2 effect rfl rfl
  | @closed service msgType used _ =>
      have effect := (Effect.refl inst).update (receiverRef message) Service.closeReceived
      rw [endpoints_update _ used.1, close_received_endpoint] at effect
      have quotas : (closedInstance inst (receiverRef message)
          service.localport.toNat).state.quotaState.serviceQuotas.length =
          inst.state.quotaState.serviceQuotas.length := List.length_modify _ _ _
      exact .closed msgType (endpoints_some used.1) used.2
        ⟨rfl, quotas, effect.length, effect.unused, ordered, effect.endpoints⟩ rfl rfl
  | @delivered service target reference completion user msgType _ _ _ stored callback =>
      have effect := store_user_effect inst stored (service_callback_userdata callback)
      exact .passed msgType (by decide)
        ⟨rfl, effect.quotas, effect.length, effect.unused, ordered, effect.endpoints⟩ rfl rfl

end RuspiroVchiq.Vchiq
