import RuspiroVchiq.Vchiq.Operations
import RuspiroVchiq.Vchiq.Dispatch

/-!
# Endpoints

The endpoint of a service is the part of it the connection protocol depends on.
An `Effect` says which endpoints a poll ends with and what it leaves alone.
`Registered` is what keeps the table in order: a service sits at the index of its local port, behind
the used part the table is empty, and the next handle is a new one.
-/

namespace RuspiroVchiq.Vchiq

open RuspiroVchiq.Config
open RuspiroVchiq.Shared
open RuspiroVchiq.Delivery

set_option autoImplicit false

/-- The owner is the vchi handle the service was created for. -/
structure Endpoint where
  localport : UInt32
  remoteport : UInt32
  srvstate : ServiceState
  closing : Bool
  handle : ServiceHandle
  owner : Option ServiceHandle

def Service.endpoint (service : Service) : Endpoint where
  localport := service.localport
  remoteport := service.remoteport
  srvstate := service.srvstate
  closing := service.closing
  handle := service.handle
  owner := service.base.userdata.userdata

def State.endpoints (state : State) (reference : ServiceRef) : Option Endpoint :=
  (state.srvState.service reference).map Service.endpoint

/-- The parts of an endpoint that never change. -/
def Endpoint.identity (endpoint : Endpoint) : UInt32 × ServiceHandle × Option ServiceHandle :=
  (endpoint.localport, endpoint.handle, endpoint.owner)

/-- The entries of a table behind the update of one: the new one and the old ones. -/
theorem entry_cases {endpoints : ServiceRef → Option Endpoint} {port other : ServiceRef}
    {changed found : Endpoint}
    (present : Function.update endpoints port (some changed) other = some found) :
    (other = port ∧ found = changed) ∨ (other ≠ port ∧ endpoints other = some found) := by
  by_cases same : other = port
  · subst same
    rw [Function.update_self, Option.some.injEq] at present
    exact .inl ⟨rfl, present.symm⟩
  · rw [Function.update_of_ne same] at present
    exact .inr ⟨same, present⟩

theorem endpoints_some {state : State} {reference : ServiceRef} {service : Service}
    (stored : state.srvState.service reference = some service) :
    state.endpoints reference = some service.endpoint := by
  rw [State.endpoints, stored, Option.map_some]

theorem endpoints_of_some {state : State} {reference : ServiceRef} {endpoint : Endpoint}
    (present : state.endpoints reference = some endpoint) :
    ∃ service, state.srvState.service reference = some service ∧ service.endpoint = endpoint :=
  Option.map_eq_some_iff.mp present

theorem endpoints_update {state : State} {reference : ServiceRef} {service : Service}
    (change : Service → Service)
    (stored : state.srvState.service reference = some service) :
    (state.updateService reference change).endpoints =
      Function.update state.endpoints reference (some (change service).endpoint) := by
  funext other
  by_cases same : other = reference
  · subst same
    simp [State.endpoints, State.updateService, stored]
  · rw [Function.update_of_ne same]
    simp [State.endpoints, State.updateService, Ne.symm same]

theorem endpoints_update_same (state : State) (reference : ServiceRef)
    (change : Service → Service)
    (keeps : ∀ service, (change service).endpoint = service.endpoint) :
    (state.updateService reference change).endpoints = state.endpoints := by
  funext other
  simp only [State.endpoints, State.updateService, service_update]
  split_ifs
  · rw [Option.map_map]
    congr 1
    funext service
    exact keeps service
  · rfl

/-- What a poll leaves alone, and the endpoints it ends with. -/
structure Effect (before after : Instance) (endpoints : ServiceRef → Option Endpoint) :
    Prop where
  connected : after.connected = before.connected
  quotas : after.state.quotaState.serviceQuotas.length =
    before.state.quotaState.serviceQuotas.length
  length : after.state.srvState.services.length = before.state.srvState.services.length
  unused : after.state.srvState.unusedService = before.state.srvState.unusedService
  ordered : Ordered before.completion → Ordered after.completion
  endpoints : after.state.endpoints = endpoints

theorem Effect.refl (inst : Instance) : Effect inst inst inst.state.endpoints :=
  ⟨rfl, rfl, rfl, rfl, id, rfl⟩

/-- An update in place behind another effect. -/
theorem Effect.update {before after : Instance} {endpoints : ServiceRef → Option Endpoint}
    (effect : Effect before after endpoints) (reference : ServiceRef)
    (change : Service → Service) :
    Effect before (after.updateService reference change)
      (after.state.updateService reference change).endpoints where
  connected := effect.connected
  quotas := effect.quotas
  length := by
    rw [← effect.length]
    exact update_length _ _ _
  unused := effect.unused
  ordered := effect.ordered
  endpoints := rfl

structure Registered (inst : Instance) (bound : ServiceHandle) : Prop where
  quotas : inst.state.quotaState.serviceQuotas.length = vchiqMaxServices
  length : inst.state.srvState.services.length = vchiqMaxServices
  tail : ∀ reference, inst.state.srvState.unusedService ≤ reference →
    inst.state.endpoints reference = none
  ports : ∀ reference endpoint, inst.state.endpoints reference = some endpoint →
    endpoint.localport.toNat = reference ∧ reference < vchiqMaxServices
  remotes : ∀ reference endpoint, inst.state.endpoints reference = some endpoint →
    endpoint.remoteport.toNat ≤ vchiqMaxServices
  handles : ∀ reference endpoint, inst.state.endpoints reference = some endpoint →
    endpoint.handle < bound
  ordered : Ordered inst.completion

theorem Registered.consistent {inst : Instance} {bound : ServiceHandle}
    (registered : Registered inst bound) : Consistent inst where
  quotas := registered.quotas
  ports := by
    intro reference service stored
    exact registered.ports reference service.endpoint (endpoints_some stored)
  ordered := registered.ordered

theorem fresh_endpoints {state : State} (facts : FreshState state) :
    state.endpoints = fun _ => none := by
  funext reference
  rw [State.endpoints, fresh_service_absent facts, Option.map_none]

theorem fresh_registered {state : State} (facts : FreshState state) (bound : ServiceHandle) :
    Registered (freshInstance state) bound := by
  have absent : ∀ reference, (freshInstance state).state.endpoints reference = none := by
    intro reference
    rw [freshInstance, fresh_endpoints facts]
  constructor
  · simp only [freshInstance, facts.quotas, List.length_replicate]
  · simp only [freshInstance, facts.services, List.length_replicate]
  · exact fun reference _ => absent reference
  all_goals first
    | exact Nat.le_refl 0
    | intro reference endpoint present
      exact absurd present (by simp [absent])

/-- A later state of the same endpoint. -/
def Successor (old new : Endpoint) : Prop :=
  new.identity = old.identity ∧
    (new.remoteport = old.remoteport ∨ new.remoteport.toNat ≤ vchiqMaxServices)

/-- The endpoints after a step belong to the same services as before. -/
def Evolves (before after : ServiceRef → Option Endpoint) : Prop :=
  ∀ reference, Option.Rel Successor (before reference) (after reference)

theorem Evolves.refl (endpoints : ServiceRef → Option Endpoint) :
    Evolves endpoints endpoints := by
  intro reference
  cases endpoints reference with
  | none => exact .none
  | some endpoint => exact .some ⟨rfl, .inl rfl⟩

theorem evolves_update {endpoints : ServiceRef → Option Endpoint}
    {reference : ServiceRef} {endpoint changed : Endpoint}
    (present : endpoints reference = some endpoint) (successor : Successor endpoint changed) :
    Evolves endpoints (Function.update endpoints reference (some changed)) := by
  intro other
  by_cases here : other = reference
  · subst here
    rw [Function.update_self, present]
    exact .some successor
  · rw [Function.update_of_ne here]
    exact Evolves.refl endpoints other

theorem Evolves.earlier {before after : ServiceRef → Option Endpoint}
    (evolves : Evolves before after) {reference : ServiceRef} {endpoint : Endpoint}
    (present : after reference = some endpoint) :
    ∃ old, before reference = some old ∧ Successor old endpoint := by
  have related := evolves reference
  rw [present] at related
  cases found : before reference with
  | none =>
      rw [found] at related
      cases related
  | some old =>
      rw [found] at related
      cases related with
      | some successor => exact ⟨old, rfl, successor⟩

theorem Evolves.absent {before after : ServiceRef → Option Endpoint}
    (evolves : Evolves before after) {reference : ServiceRef}
    (absent : before reference = none) : after reference = none := by
  have related := evolves reference
  rw [absent] at related
  cases found : after reference with
  | none => rfl
  | some endpoint =>
      rw [found] at related
      cases related

theorem Evolves.later {before after : ServiceRef → Option Endpoint}
    (evolves : Evolves before after) {reference : ServiceRef} {endpoint : Endpoint}
    (present : before reference = some endpoint) :
    ∃ new, after reference = some new ∧ Successor endpoint new := by
  have related := evolves reference
  rw [present] at related
  cases found : after reference with
  | none =>
      rw [found] at related
      cases related
  | some new =>
      rw [found] at related
      cases related with
      | some successor => exact ⟨new, rfl, successor⟩

theorem Successor.trans {first second third : Endpoint} (early : Successor first second)
    (late : Successor second third) : Successor first third := by
  refine ⟨late.1.trans early.1, ?_⟩
  rcases late.2 with same | small
  · rw [same]
    exact early.2
  · exact .inr small

theorem Evolves.trans {first second third : ServiceRef → Option Endpoint}
    (early : Evolves first second) (late : Evolves second third) : Evolves first third := by
  intro reference
  cases found : first reference with
  | none =>
      rw [late.absent (early.absent found)]
      exact .none
  | some endpoint =>
      obtain ⟨middle, between, sooner⟩ := early.later found
      obtain ⟨last, stored, later⟩ := late.later between
      rw [stored]
      exact .some (sooner.trans later)

theorem Registered.effect {before after : Instance} {bound : ServiceHandle}
    {endpoints : ServiceRef → Option Endpoint} (registered : Registered before bound)
    (effect : Effect before after endpoints)
    (evolves : Evolves before.state.endpoints endpoints) : Registered after bound := by
  rw [← effect.endpoints] at evolves
  constructor
  · rw [effect.quotas, registered.quotas]
  · rw [effect.length, registered.length]
  · intro reference beyond
    rw [effect.unused] at beyond
    exact evolves.absent (registered.tail reference beyond)
  · intro reference endpoint present
    obtain ⟨old, found, identity, _⟩ := evolves.earlier present
    have port : endpoint.localport = old.localport := congrArg Prod.fst identity
    rw [port]
    exact registered.ports reference old found
  · intro reference endpoint present
    obtain ⟨old, found, _, same | small⟩ := evolves.earlier present
    · rw [same]
      exact registered.remotes reference old found
    · exact small
  · intro reference endpoint present
    obtain ⟨old, found, identity, _⟩ := evolves.earlier present
    have handle : endpoint.handle = old.handle := congrArg (fun parts => parts.2.1) identity
    rw [handle]
    exact registered.handles reference old found
  · exact effect.ordered registered.ordered

/-- A lookup by handle ends at a service with that handle. -/
theorem service_of_some {state : State} {handle : ServiceHandle} {reference : ServiceRef}
    {service : Service} (found : state.serviceOf handle = some (reference, service)) :
    state.srvState.service reference = some service ∧ service.handle = handle := by
  unfold State.serviceOf at found
  cases located : state.serviceFromHandle handle with
  | none => simp [located] at found
  | some first =>
      simp only [located] at found
      cases stored : state.srvState.service first with
      | none => simp [stored] at found
      | some target =>
          simp only [stored, Option.some.injEq, Prod.mk.injEq] at found
          obtain ⟨rfl, rfl⟩ := found
          refine ⟨stored, ?_⟩
          unfold State.serviceFromHandle at located
          obtain ⟨bound, matches', _⟩ := List.findIdx?_eq_some_iff_getElem.mp located
          simp only [SrvState.service, List.getElem?_eq_getElem bound, Option.join_some] at stored
          simpa [stored] using matches'

/-- What `queue_message` leaves behind in the instance. -/
structure Queued (before after : Instance) (call : QueueCall) (msgType : MessageType) :
    Prop where
  sent : Sent before.state after.state call msgType
  connected : after.connected = before.connected
  completion : after.completion = before.completion

theorem send_queued {inst next : Instance} {sender : Option ServiceRef} {call : QueueCall}
    {sent : Option Outgoing} (polled : inst.send sender call = (.ok sent, next)) :
    sent = some ⟨sender, call.message⟩ ∧ ∃ msgType, Queued inst next call msgType := by
  unfold Instance.send at polled
  cases queued : Vchiq.queueMessage inst.state call with
  | mk result state =>
      cases result with
      | error stop => simp [queued] at polled
      | ok _ =>
          simp only [queued, Prod.mk.injEq, Except.ok.injEq] at polled
          obtain ⟨rfl, rfl⟩ := polled
          obtain ⟨msgType, sent⟩ := queue_message_sent queued
          exact ⟨rfl, msgType, sent, rfl, rfl⟩

/-- A message that is not stored leaves only the state of its quota check behind. -/
theorem send_failed {inst next : Instance} {sender : Option ServiceRef} {call : QueueCall}
    {stop : Stop} (polled : inst.send sender call = (.error stop, next)) :
    queueMessage inst.state call = (.error stop, next.state) ∧
      ∃ quotas, quotas.length = inst.state.quotaState.serviceQuotas.length ∧ next =
        { inst with
          state :=
            { inst.state with
              quotaState := { inst.state.quotaState with serviceQuotas := quotas } } } := by
  unfold Instance.send at polled
  cases queued : Vchiq.queueMessage inst.state call with
  | mk result state =>
      cases result with
      | ok _ => simp [queued] at polled
      | error stop =>
          simp only [queued, Prod.mk.injEq, Except.error.injEq] at polled
          obtain ⟨rfl, rfl⟩ := polled
          obtain ⟨quotas, length, rfl⟩ := queue_message_refused queued
          exact ⟨rfl, quotas, length, rfl⟩

/-- Only a DATA message can be refused. -/
theorem send_refused {inst next : Instance} {sender : Option ServiceRef} {call : QueueCall}
    {error : VchiqError} (polled : inst.send sender call = (.error (.error error), next)) :
    Effect inst next inst.state.endpoints ∧ next.state.connState = inst.state.connState ∧
      next.state.connect = inst.state.connect ∧
      msgTypeFromId call.msgId = some .data := by
  obtain ⟨queued, quotas, length, rfl⟩ := send_failed polled
  exact ⟨⟨rfl, length, rfl, rfl, id, rfl⟩, rfl, rfl, queue_message_refused_data queued⟩

theorem Queued.table_kept {before after : Instance} {call : QueueCall} {msgType : MessageType}
    (queued : Queued before after call msgType)
    (plain : call.service = none ∨ msgType ≠ .close) :
    after.state.srvState = before.state.srvState := by
  rw [queued.sent.table, markCloseSent]
  rcases plain with isNone | notClose
  · simp only [isNone]
  · cases call.service with
    | none => rfl
    | some reference => simp only [if_neg notClose]

theorem Queued.table_closed {before after : Instance} {call : QueueCall}
    {reference : ServiceRef} (queued : Queued before after call .close)
    (service : call.service = some reference) :
    after.state.srvState =
      before.state.srvState.update reference fun service => service.setState .closeSent := by
  rw [queued.sent.table, markCloseSent]
  simp only [service, if_true]

/-- A queued message that is not the CLOSE of a service changes no endpoint. -/
theorem Queued.effect {before after : Instance} {call : QueueCall} {msgType : MessageType}
    (queued : Queued before after call msgType)
    (plain : call.service = none ∨ msgType ≠ .close) :
    Effect before after before.state.endpoints := by
  have table := queued.table_kept plain
  refine ⟨queued.connected, queued.sent.quotas, by rw [table], by rw [table], ?_, ?_⟩
  · rw [queued.completion]
    exact id
  · unfold State.endpoints
    rw [table]

/-- The CLOSE of a service moves it to CLOSESENT. -/
theorem Queued.close_effect {before after : Instance} {call : QueueCall}
    {reference : ServiceRef} (queued : Queued before after call .close)
    (service : call.service = some reference) :
    Effect before after (before.state.updateService reference
      fun service => service.setState .closeSent).endpoints := by
  have table := queued.table_closed service
  refine ⟨queued.connected, queued.sent.quotas, ?_, by rw [table]; rfl, ?_, ?_⟩
  · rw [table, update_length]
  · rw [queued.completion]
    exact id
  · unfold State.endpoints State.updateService
    rw [table]

end RuspiroVchiq.Vchiq
