import RuspiroVchiq.Vchi.Lifecycle
import RuspiroVchiq.Vchiq.ServiceRecords
import RuspiroVchiq.Delivery.Announcements

/-!
# The services of a run

What one step of the system may do to the records of its services, and what
follows for every run: a service keeps the internal callback, is a vchi service,
has its message ring in order, and only the quota events of a service that is
closing were ever raised.
-/

namespace RuspiroVchiq.Vchi

open RuspiroVchiq.Config
open RuspiroVchiq.Shared
open RuspiroVchiq.Vchiq
open RuspiroVchiq.Delivery
open RuspiroVchiq.Lib.LabelledRun

set_option autoImplicit false

/-- What one poll of `dequeue_message` makes of the user data. -/
inductive DequeuePolled (user : ServiceUser) : ServiceUser → Prop where
  | waiting {after : ServiceUser} (empty : dequeueReady user = (false, after)) :
      DequeuePolled user after
  | taken {ready after : ServiceUser} {bytes : List UInt8}
      (filled : dequeueReady user = (true, ready))
      (removal : dequeueTake ready = .ok (bytes, after)) :
      DequeuePolled user after

theorem poll_dequeue_cases {inst next : Instance} {reference : ServiceRef}
    (polled : inst.pollDequeue reference = .ok next) :
    ∃ service user, inst.state.srvState.service reference = some service ∧
      DequeuePolled service.base.userdata user ∧
      next = inst.updateService reference (fun service => service.withUser user) := by
  unfold Instance.pollDequeue at polled
  cases stored : inst.state.srvState.service reference with
  | none => simp [stored] at polled
  | some service =>
      simp only [stored] at polled
      cases outcome : dequeueReady service.base.userdata with
      | mk isReady user =>
          cases isReady with
          | false =>
              simp only [outcome, Except.ok.injEq] at polled
              exact ⟨service, user, rfl, .waiting outcome, polled.symm⟩
          | true =>
              simp only [outcome] at polled
              cases removal : dequeueTake user with
              | error stop => simp [removal] at polled
              | ok result =>
                  simp only [removal, Except.ok.injEq] at polled
                  exact ⟨service, result.2, rfl, .taken outcome removal, polled.symm⟩

/-- What a step of the system may do to the services and their quota records. -/
inductive RecordStep (before : Instance) : Instance → Prop where
  | carried {after : Instance} (carries : Carries before after) : RecordStep before after
  | entered {after : Instance} {setup : ServiceSetup} {handle srvHandle : ServiceHandle}
      {index : ServiceRef} (chosen : before.state.srvState.freeIndex = some index)
      (within : index < before.state.srvState.services.length)
      (carries : Carries
        { before with state := before.state.entered (setup.params handle) srvHandle index }
        after) :
      RecordStep before after
  | closed {service : Service} {reference : ServiceRef}
      (stored : before.state.srvState.service reference = some service) :
      RecordStep before (closedInstance before reference service.localport.toNat)
  | delivered {service : Service} {reference : ServiceRef} {message : SlotMessage}
      {completion : Completion} {user : ServiceUser}
      (stored : before.state.srvState.service reference = some service)
      (called : serviceCallback .messageAvailable (some message) service.base.userdata
        before.completion = .ok (completion, user)) :
      RecordStep before (deliveredInstance before reference completion user)
  | dequeued {service : Service} {reference : ServiceRef} {user : ServiceUser}
      (stored : before.state.srvState.service reference = some service)
      (polled : DequeuePolled service.base.userdata user) :
      RecordStep before (before.updateService reference (fun service => service.withUser user))

theorem create_service_records (inst : Instance) (setup : ServiceSetup)
    (handle srvHandle : ServiceHandle) :
    RecordStep inst (inst.createService setup handle srvHandle).2 := by
  unfold Instance.createService
  split_ifs
  · cases added : inst.state.addService (setup.params handle) srvHandle with
    | error stop => exact .carried (.refl inst)
    | ok state =>
        obtain ⟨index, chosen, within, rfl⟩ := add_service_cases added
        exact .entered chosen within (begin_open_carries _ srvHandle)
  · exact .carried (.refl inst)

theorem absorb_inst (sys : System) (pending : PendingCall) (polled : Polled) :
    (sys.absorb pending polled).2.inst = polled.2 := by
  obtain ⟨result, inst⟩ := polled
  cases result <;> rfl

theorem call_records (sys : System) (call : Call) :
    RecordStep sys.inst (sys.call call).2.inst := by
  cases call with
  | initializeInstance => exact .carried (.refl _)
  | connect =>
      simp only [System.call]
      split_ifs
      · exact .carried (.refl _)
      · rw [absorb_inst]
        exact .carried (begin_connect_carries sys.inst)
  | serviceOpen setup =>
      simp only [System.call]
      split_ifs
      · rw [absorb_inst]
        exact create_service_records sys.inst setup _ _
      · rw [absorb_inst]
        exact create_service_records sys.inst setup _ _
      · exact .carried (.refl _)
  | serviceClose handle =>
      simp only [System.call]
      split
      · exact .carried (.refl _)
      · rw [absorb_inst]
        exact .carried (begin_close_carries sys.inst _)
  | queueMessage handle data =>
      simp only [System.call]
      split
      · exact .carried (.refl _)
      · rw [absorb_inst]
        exact .carried (queue_data_carries sys.inst _ data)

theorem resume_records {sys next : System} (polled : sys.resume = some next) :
    RecordStep sys.inst next.inst := by
  cases resume_cases polled with
  | connected waiting finished => exact .carried (finish_connect_carries finished)
  | refused busy awaited => exact .carried (await_service_carries awaited)
  | opened waiting awaited => exact .carried (await_service_carries awaited)
  | closed waiting awaited => exact .carried (await_service_carries awaited)

theorem received_records {inst next : Instance} {message : SlotMessage}
    (handled : Dispatched inst message next) : RecordStep inst next := by
  cases handled with
  | connect _ => exact .carried (carries_same rfl rfl)
  | ignored _ _ => exact .carried (.refl inst)
  | dropped _ _ _ => exact .carried (.refl inst)
  | acknowledged _ _ => exact .carried (carries_update inst _ (kept_open_acknowledged _ message))
  | closed _ used _ => exact .closed used.1
  | delivered _ _ _ _ stored callback => exact .delivered stored callback

theorem step_records {sys next : System} {action : Action} (move : SystemStep sys action next) :
    RecordStep sys.inst next.inst := by
  cases move with
  | @called _ call sent exclusive polled =>
      have records := call_records sys call
      rwa [polled] at records
  | @failed _ call error exclusive polled =>
      have records := call_records sys call
      rwa [polled] at records
  | resumed polled => exact resume_records polled
  | dropped => exact .carried (.refl _)
  | received handled => exact received_records (dispatch_cases handled)
  | dequeued polled =>
      obtain ⟨service, user, stored, outcome, rfl⟩ := poll_dequeue_cases polled
      exact .dequeued stored outcome
  | completed _ _ _ => exact .carried (carries_same rfl rfl)
  | idled _ _ => exact .carried (carries_same rfl rfl)

/-- What every stored service is like. -/
structure Serviceable (service : Service) : Prop where
  callback : service.base.callback = some .serviceCallback
  vchi : service.base.userdata.isVchi = true
  ring : MessageRing service.base.userdata

structure RecordInvariant (inst : Instance) : Prop where
  services : ∀ reference service, inst.state.srvState.service reference = some service →
    Serviceable service
  events : ∀ (port : Nat) quota, inst.state.quotaState.serviceQuotas[port]? = some quota →
    0 < quota.quotaEvent →
      ∃ service, inst.state.srvState.service port = some service ∧ service.closing = true

theorem Serviceable.kept {old new : Service} (serviceable : Serviceable old)
    (kept : Kept old new) : Serviceable new := by
  constructor <;> rw [kept.base]
  · exact serviceable.callback
  · exact serviceable.vchi
  · exact serviceable.ring

theorem RecordInvariant.carried {before after : Instance} (inv : RecordInvariant before)
    (carries : Carries before after) : RecordInvariant after := by
  constructor
  · intro reference service stored
    obtain ⟨old, found, kept⟩ := rel_earlier (carries.services reference) stored
    exact (inv.services reference old found).kept kept
  · intro port quota present raised
    obtain ⟨old, found, lowered⟩ := rel_earlier (carries.quotas port) present
    obtain ⟨service, stored, closing⟩ :=
      inv.events port old found (Nat.lt_of_lt_of_le raised lowered)
    obtain ⟨new, later, kept⟩ := rel_later (carries.services port) stored
    exact ⟨new, later, kept.closing closing⟩

/-- The user data of one service changes. -/
theorem RecordInvariant.with_user {inst : Instance} (inv : RecordInvariant inst)
    {reference : ServiceRef} {service : Service} {user : ServiceUser}
    (stored : inst.state.srvState.service reference = some service)
    (vchi : user.isVchi = true) (ring : MessageRing user) :
    RecordInvariant (inst.updateService reference (fun service => service.withUser user)) := by
  have entry : ∀ other,
      (inst.updateService reference fun service => service.withUser user).state.srvState.service
        other =
        if reference = other then
          (inst.state.srvState.service other).map fun service => service.withUser user
        else inst.state.srvState.service other := fun other => service_update _ _ _ _
  constructor
  · intro other found present
    rw [entry] at present
    split_ifs at present with here
    · subst here
      rw [stored, Option.map_some, Option.some.injEq] at present
      rw [← present]
      exact ⟨(inv.services reference service stored).callback, vchi, ring⟩
    · exact inv.services other found present
  · intro port quota present raised
    obtain ⟨found, old, closing⟩ := inv.events port quota present raised
    rw [entry]
    split_ifs with here
    · exact ⟨found.withUser user, by rw [old, Option.map_some], closing⟩
    · exact ⟨found, old, closing⟩

theorem RecordInvariant.entered {inst : Instance} {bound : ServiceHandle} {index : ServiceRef}
    (inv : RecordInvariant inst) (registered : Registered inst bound)
    (chosen : inst.state.srvState.freeIndex = some index)
    (within : index < inst.state.srvState.services.length) (setup : ServiceSetup)
    (handle srvHandle : ServiceHandle) :
    RecordInvariant
      { inst with state := inst.state.entered (setup.params handle) srvHandle index } := by
  have vacant : inst.state.srvState.service index = none :=
    Option.map_eq_none_iff.mp (free_index_empty registered chosen).2
  constructor
  · intro other found present
    by_cases here : other = index
    · subst here
      rw [entered_here _ _ _ within, Option.some.injEq] at present
      rw [← present]
      refine ⟨rfl, rfl, Nat.le_refl 0, ?_⟩
      intro target message filled
      simp [openingService, Service.new, ServiceSetup.params, ServiceUser.new] at filled
    · rw [entered_elsewhere _ _ _ here] at present
      exact inv.services other found present
  · intro port quota present raised
    -- the new record has the events of the vacant one, which are none
    have old : ∃ earlier, inst.state.quotaState.serviceQuotas[port]? = some earlier ∧
        0 < earlier.quotaEvent := by
      simp only [State.entered, List.getElem?_modify] at present
      cases found : inst.state.quotaState.serviceQuotas[port]? with
      | none => simp [found] at present
      | some earlier =>
          simp only [found, Option.map_eq_map, Option.map_some, Option.some.injEq] at present
          rw [← present] at raised
          refine ⟨earlier, rfl, ?_⟩
          split_ifs at raised
          · exact raised
          · exact raised
    obtain ⟨earlier, found, events⟩ := old
    obtain ⟨service, stored, closing⟩ := inv.events port earlier found events
    have here : port ≠ index := by
      rintro rfl
      simp [vacant] at stored
    exact ⟨service, by rw [entered_elsewhere _ _ _ here]; exact stored, closing⟩

theorem RecordInvariant.closed {inst : Instance} {bound : ServiceHandle}
    {reference : ServiceRef} {service : Service} (inv : RecordInvariant inst)
    (registered : Registered inst bound)
    (stored : inst.state.srvState.service reference = some service) :
    RecordInvariant (closedInstance inst reference service.localport.toNat) := by
  have port : service.localport.toNat = reference :=
    (registered.ports reference service.endpoint (endpoints_some stored)).1
  have updated := inv.carried
    (carries_update inst reference fun service => (kept_close_received service).1)
  constructor
  · exact updated.services
  · intro other quota present raised
    by_cases here : reference = other
    · subst here
      refine ⟨service.closeReceived, ?_, (kept_close_received service).2⟩
      simp [closedInstance, State.updateService, stored]
    · have same : inst.state.quotaState.serviceQuotas[other]? = some quota := by
        rw [port] at present
        simpa [closedInstance, List.getElem?_modify, here] using present
      exact updated.events other quota same raised

theorem DequeuePolled.ring {user after : ServiceUser} (polled : DequeuePolled user after)
    (ring : MessageRing user) : MessageRing after ∧ after.isVchi = user.isVchi := by
  have same := dequeue_ready_same_queue user
  cases polled with
  | waiting empty =>
      rw [empty] at same
      exact ⟨ring.congr same, same.isVchi⟩
  | @taken ready _ bytes filled removal =>
      rw [filled] at same
      obtain ⟨_, kept, _⟩ := (ring.congr same).take removal
      refine ⟨kept, ?_⟩
      unfold dequeueTake at removal
      split_ifs at removal
      split at removal
      · simp at removal
      · simp only [Except.ok.injEq, Prod.mk.injEq] at removal
        rw [← removal.2]
        exact same.isVchi

theorem record_invariant_step {before after : Instance} {bound : ServiceHandle}
    (inv : RecordInvariant before) (registered : Registered before bound)
    (move : RecordStep before after) : RecordInvariant after := by
  cases move with
  | carried carries => exact inv.carried carries
  | entered chosen within carries =>
      exact (inv.entered registered chosen within _ _ _).carried carries
  | closed stored => exact inv.closed registered stored
  | @delivered service reference message completion user stored called =>
      have serviceable := inv.services reference service stored
      have same := service_callback_inserts serviceable.vchi called
      have kept := inv.with_user stored (same.isVchi.trans serviceable.vchi)
        ((serviceable.ring.insert message).congr same)
      exact ⟨kept.services, kept.events⟩
  | @dequeued service reference user stored polled =>
      have serviceable := inv.services reference service stored
      obtain ⟨ring, vchi⟩ := polled.ring serviceable.ring
      exact inv.with_user stored (vchi.trans serviceable.vchi) ring

theorem fresh_records {state : State} (facts : FreshState state) :
    RecordInvariant (freshInstance state) := by
  constructor
  · intro reference service stored
    rw [freshInstance, fresh_service_absent facts] at stored
    simp at stored
  · intro port quota present raised
    rw [freshInstance, facts.quotas, List.getElem?_replicate] at present
    split_ifs at present
    simp only [Option.some.injEq] at present
    rw [← present] at raised
    exact absurd raised (by decide)

/-- In every run the table is in order, no handle is used twice and the records of the
services keep their invariant. -/
theorem record_invariant_run {state : State} {actions : List Action} {reached : System}
    (facts : FreshState state)
    (run : Run SystemStep (System.new (freshInstance state)) actions reached) :
    reached.Ready ∧ ProtocolInvariant actions reached.protocol ∧
      RecordInvariant reached.inst := by
  have protocol : ∀ {actions reached},
      Run SystemStep (System.new (freshInstance state)) actions reached →
        reached.Ready ∧ ProtocolInvariant actions reached.protocol := by
    intro actions reached run
    obtain ⟨ready, abstractRun⟩ := run_simulated (fun _ _ => True) facts run.guarded
    exact ⟨ready, protocol_invariant_run abstractRun.unguarded⟩
  refine ⟨(protocol run).1, (protocol run).2, ?_⟩
  apply run.invariant fun _ sys => RecordInvariant sys.inst
  · exact fresh_records facts
  · intro actions before action after earlier inv move
    exact record_invariant_step inv (protocol earlier).1 (step_records move)

end RuspiroVchiq.Vchi
