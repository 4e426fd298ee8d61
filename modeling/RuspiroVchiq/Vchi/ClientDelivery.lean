import RuspiroVchiq.Vchi.DataRouting
import RuspiroVchiq.Vchi.PendingCompletions
import RuspiroVchiq.Delivery.InOrder

/-!
# What reaches the client

The whole system, seen through the rings of its services: every step of a run is a
few steps of the rings, or none. What was proved of the rings alone holds in every
run, and the payloads that `dequeue_message` returns are the ones that were sent.
-/

namespace RuspiroVchiq.Vchi

open RuspiroVchiq.Config
open RuspiroVchiq.Shared
open RuspiroVchiq.Vchiq
open RuspiroVchiq.Delivery
open RuspiroVchiq.Lib.LabelledRun
open RuspiroVchiq.Lib.RingQueue
open RuspiroVchiq.Lib.ByteMemory

set_option autoImplicit false

/-- The service whose callback runs for a message. -/
def acceptorOf (inst : Instance) (message : SlotMessage) : Option Service :=
  if msgTypeFromId message.header.msgid = some .data then
    (inst.state.srvState.service (receiverRef message)).filter fun service =>
      decide (Accepts service message)
  else none

/-- One poll of `dequeue_message`, as steps of the rings. -/
def dequeueLabels (reference : ServiceRef) (user : ServiceUser) : List RingLabel :=
  match dequeueReady user with
  | (false, _) => [.called reference, .polled reference, .dropped reference]
  | (true, ready) =>
      match dequeueTake ready with
      | .error _ => []
      | .ok (bytes, _) => [.called reference, .polled reference, .taken reference bytes]

/-- What a step of the system does to the rings. -/
def System.ringLabels (sys : System) : Action → List RingLabel
  | .received message _ =>
      match acceptorOf sys.inst message with
      | none => []
      | some service =>
          [.delivered (receiverRef message) message
            (announcementSkipped service.base.userdata sys.inst.completion)]
  | .dequeued reference =>
      match userOf sys.inst reference with
      | none => []
      | some user => dequeueLabels reference user
  | .completed records => [.awaited 8 records]
  | .idled => [.pending 8]
  | _ => []

/-- A step together with what it does to the rings. -/
structure ObservedStep (sys : System) (label : Action × List RingLabel) (next : System) :
    Prop where
  move : SystemStep sys label.1 next
  rings : label.2 = sys.ringLabels label.1

/-- The steps of the rings in a run, oldest first. -/
def ringLog (labels : List (Action × List RingLabel)) : List RingLabel :=
  labels.flatMap Prod.snd

theorem ring_log_snoc (labels : List (Action × List RingLabel))
    (label : Action × List RingLabel) : ringLog (labels ++ [label]) = ringLog labels ++ label.2 := by
  simp [ringLog]

/-- The user data of a service; one that is yet to be opened has that of a new service. -/
def userAt (owners : Nat → Option ServiceHandle) (inst : Instance) (reference : ServiceRef) :
    ServiceUser :=
  (userOf inst reference).getD (ServiceUser.new (owners reference) true)

/-- The rings of an instance. Between two steps no dequeue is in the middle of a poll. -/
def mirror (owners : Nat → Option ServiceHandle) (inst : Instance) : Rings where
  users := userAt owners inst
  phase := fun _ => .idle
  completion := inst.completion

/-- The services that exist have the owners they were opened for. -/
def Owned (owners : Nat → Option ServiceHandle) (inst : Instance) : Prop :=
  ∀ reference user, userOf inst reference = some user → user.userdata = owners reference

section Mirror

variable {owners : Nat → Option ServiceHandle} {inst next : Instance}

theorem mirror_same (users : ∀ reference, userAt owners next reference = userAt owners inst reference)
    (completion : next.completion = inst.completion) : mirror owners next = mirror owners inst := by
  simp only [mirror, completion, Rings.mk.injEq, and_true]
  funext reference
  exact users reference

theorem user_of_rel {reference : ServiceRef}
    (kept : Option.Rel Kept (inst.state.srvState.service reference)
      (next.state.srvState.service reference)) : userOf next reference = userOf inst reference := by
  unfold userOf
  generalize inst.state.srvState.service reference = old at kept ⊢
  generalize next.state.srvState.service reference = new at kept ⊢
  cases kept with
  | none => rfl
  | some kept => rw [Option.map_some, Option.map_some, kept.base]

theorem Carries.mirror (carries : Carries inst next) (completion : next.completion = inst.completion) :
    mirror owners next = mirror owners inst := by
  apply mirror_same _ completion
  intro reference
  rw [userAt, userAt, user_of_rel (carries.services reference)]

/-- A new service has the rings its entry had before. -/
theorem entered_mirror {setup : ServiceSetup} {handle srvHandle : ServiceHandle}
    {index : ServiceRef} {bound : ServiceHandle} (registered : Registered inst bound)
    (chosen : inst.state.srvState.freeIndex = some index)
    (within : index < inst.state.srvState.services.length)
    (carries : Carries
      { inst with state := inst.state.entered (setup.params handle) srvHandle index } next)
    (completion : next.completion = inst.completion) (owned : Owned owners next) :
    mirror owners next = mirror owners inst := by
  have vacant : inst.state.srvState.service index = none :=
    Option.map_eq_none_iff.mp (free_index_empty registered chosen).2
  apply mirror_same _ completion
  intro reference
  have kept := user_of_rel (carries.services reference)
  by_cases here : reference = index
  · subst here
    have fresh : userOf next reference = some (ServiceUser.new (some handle) true) := by
      rw [kept, userOf, entered_here _ _ _ within]
      rfl
    have owner := owned reference _ fresh
    rw [userAt, userAt, fresh, userOf, vacant, ← owner]
    rfl
  · have same : userOf next reference = userOf inst reference := by
      rw [kept, userOf, entered_elsewhere _ _ _ here, userOf]
    rw [userAt, userAt, same]

/-- The user data of one service changes. -/
theorem user_at_update {reference : ServiceRef} {service : Service} {user : ServiceUser}
    (stored : inst.state.srvState.service reference = some service) :
    userAt owners (inst.updateService reference fun service => service.withUser user) =
      Function.update (userAt owners inst) reference user := by
  funext other
  by_cases here : other = reference
  · subst here
    rw [Function.update_self]
    simp [userAt, userOf, Instance.updateService, State.updateService, stored, Service.withUser]
  · rw [Function.update_of_ne here]
    simp [userAt, userOf, Instance.updateService, State.updateService, Ne.symm here]

theorem user_at_stored {reference : ServiceRef} {service : Service}
    (stored : inst.state.srvState.service reference = some service) :
    userAt owners inst reference = service.base.userdata := by
  rw [userAt, userOf, stored]
  rfl

end Mirror

/-- A guard that speaks about deliveries only. -/
def DeliveryGuard (allowed : Rings → RingLabel → Prop) : Prop :=
  ∀ rings label, (∀ service message skipped, label ≠ .delivered service message skipped) →
    allowed rings label

section Dequeues

variable {allowed : Rings → RingLabel → Prop} {rings : Rings} {service : Nat}
  {user ready : ServiceUser} {bytes : List UInt8}

/-- A poll that begins a call, up to the readiness closure. -/
theorem begin_dequeue_run (free : DeliveryGuard allowed)
    (vchi : (rings.users service).isVchi = true) (idle : rings.phase service = .idle) :
    Run (Guarded RingStep allowed) rings [.called service, .polled service]
      { rings with
        users := Function.update rings.users service (dequeueReady (rings.users service)).2
        phase := Function.update rings.phase service
          (if (dequeueReady (rings.users service)).1 then .ready else .waiting) } := by
  have called : RingStep rings (.called service)
      { rings with phase := Function.update rings.phase service .waiting } :=
    .called service vchi idle
  have polled : RingStep { rings with phase := Function.update rings.phase service .waiting }
      (.polled service)
      { rings with
        users := Function.update rings.users service (dequeueReady (rings.users service)).2
        phase := Function.update rings.phase service
          (if (dequeueReady (rings.users service)).1 then .ready else .waiting) } := by
    have step := @RingStep.polled
      { rings with phase := Function.update rings.phase service .waiting } service
      (Function.update_self _ _ _)
    simpa only [Function.update_idem] using step
  exact .snoc (.snoc .refl ⟨called, free _ _ (by simp)⟩) ⟨polled, free _ _ (by simp)⟩

theorem phase_restored (idle : rings.phase service = .idle) (phase : DequeuePhase) :
    Function.update (Function.update rings.phase service phase) service .idle = rings.phase := by
  rw [Function.update_idem, ← idle, Function.update_eq_self]

/-- A poll that finds the queue empty. -/
theorem dequeue_pending_run (free : DeliveryGuard allowed)
    (vchi : (rings.users service).isVchi = true) (idle : rings.phase service = .idle)
    (empty : dequeueReady (rings.users service) = (false, user)) :
    Run (Guarded RingStep allowed) rings [.called service, .polled service, .dropped service]
      { rings with users := Function.update rings.users service user } := by
  have begun := begin_dequeue_run free vchi idle
  simp only [empty, Bool.false_eq_true, if_false] at begun
  have dropped := @RingStep.dropped
    { rings with
      users := Function.update rings.users service user
      phase := Function.update rings.phase service .waiting } service (Function.update_self _ _ _)
  simp only [phase_restored idle] at dropped
  exact .snoc begun ⟨dropped, free _ _ (by simp)⟩

/-- A poll that returns a message. -/
theorem dequeue_taken_run (free : DeliveryGuard allowed)
    (vchi : (rings.users service).isVchi = true) (idle : rings.phase service = .idle)
    (filled : dequeueReady (rings.users service) = (true, ready))
    (removal : dequeueTake ready = .ok (bytes, user)) :
    Run (Guarded RingStep allowed) rings [.called service, .polled service, .taken service bytes]
      { rings with users := Function.update rings.users service user } := by
  have begun := begin_dequeue_run free vchi idle
  simp only [filled, if_true] at begun
  have here : dequeueTake (Function.update rings.users service ready service) =
      .ok (bytes, user) := by
    rw [Function.update_self]
    exact removal
  have taken := @RingStep.taken
    { rings with
      users := Function.update rings.users service ready
      phase := Function.update rings.phase service .ready } user bytes service
    (Function.update_self _ _ _) here
  simp only [phase_restored idle, Function.update_idem] at taken
  exact .snoc begun ⟨taken, free _ _ (by simp)⟩

end Dequeues

section Steps

variable {owners : Nat → Option ServiceHandle} {allowed : Rings → RingLabel → Prop}
  {inst : Instance}

theorem dequeue_mirror_run (free : DeliveryGuard allowed) {reference : ServiceRef}
    {service : Service} {user : ServiceUser}
    (stored : inst.state.srvState.service reference = some service)
    (vchi : service.base.userdata.isVchi = true)
    (polled : DequeuePolled service.base.userdata user) :
    Run (Guarded RingStep allowed) (mirror owners inst)
      (dequeueLabels reference service.base.userdata)
      (mirror owners (inst.updateService reference fun service => service.withUser user)) := by
  have here : (mirror owners inst).users reference = service.base.userdata :=
    user_at_stored stored
  have after : mirror owners (inst.updateService reference fun service => service.withUser user) =
      { mirror owners inst with
        users := Function.update (mirror owners inst).users reference user } := by
    simp only [mirror, user_at_update stored]
    rfl
  have isVchi : ((mirror owners inst).users reference).isVchi = true := by
    rw [here]
    exact vchi
  rw [after]
  cases polled with
  | waiting empty =>
      have labels : dequeueLabels reference service.base.userdata =
          [.called reference, .polled reference, .dropped reference] := by
        rw [dequeueLabels, empty]
      rw [labels]
      rw [← here] at empty
      exact dequeue_pending_run free isVchi rfl empty
  | @taken ready _ bytes filled removal =>
      have labels : dequeueLabels reference service.base.userdata =
          [.called reference, .polled reference, .taken reference bytes] := by
        simp only [dequeueLabels, filled, removal]
      rw [labels]
      rw [← here] at filled
      exact dequeue_taken_run free isVchi rfl filled removal

theorem delivered_mirror_run {message : SlotMessage} {service : Service}
    {completion : Completion} {user : ServiceUser}
    (stored : inst.state.srvState.service (receiverRef message) = some service)
    (callback : serviceCallback .messageAvailable (some message) service.base.userdata
      inst.completion = .ok (completion, user))
    (permitted : allowed (mirror owners inst) (.delivered (receiverRef message) message
      (announcementSkipped service.base.userdata inst.completion))) :
    Run (Guarded RingStep allowed) (mirror owners inst)
      [.delivered (receiverRef message) message
        (announcementSkipped service.base.userdata inst.completion)]
      (mirror owners (deliveredInstance inst (receiverRef message) completion user)) := by
  have here : (mirror owners inst).users (receiverRef message) = service.base.userdata :=
    user_at_stored stored
  have after : mirror owners (deliveredInstance inst (receiverRef message) completion user) =
      { mirror owners inst with
        users := Function.update (mirror owners inst).users (receiverRef message) user
        completion := completion } := by
    have users := @user_at_update owners inst _ service user stored
    unfold mirror
    rw [← users]
    rfl
  rw [after]
  rw [← here] at callback permitted ⊢
  exact .snoc .refl ⟨.delivered _ message callback, permitted⟩

theorem absorbed_mirror {sys : System} {pending : PendingCall} {polled : Polled}
    (carries : Carries sys.inst polled.2) (completion : polled.2.completion = sys.inst.completion) :
    mirror owners (sys.absorb pending polled).2.inst = mirror owners sys.inst := by
  rw [absorb_inst]
  exact Carries.mirror carries completion

/-- No call touches a ring. -/
theorem call_mirror {sys : System} (ready : sys.Ready) (call : Call)
    (owned : Owned owners (sys.call call).2.inst) :
    mirror owners (sys.call call).2.inst = mirror owners sys.inst := by
  cases call with
  | initializeInstance => rfl
  | connect =>
      simp only [System.call]
      split_ifs
      · rfl
      · exact absorbed_mirror (begin_connect_carries sys.inst) (begin_connect_completion sys.inst)
  | serviceOpen setup =>
      have completion := create_service_completion sys.inst setup sys.nextHandle sys.nextSrvHandle
      have opened : Owned owners
          (sys.inst.createService setup sys.nextHandle sys.nextSrvHandle).2 →
          mirror owners (sys.inst.createService setup sys.nextHandle sys.nextSrvHandle).2 =
            mirror owners sys.inst := by
        intro owned
        unfold Instance.createService at owned completion ⊢
        split_ifs at owned completion ⊢
        · cases added : sys.inst.state.addService (setup.params sys.nextHandle)
              sys.nextSrvHandle with
          | error stop => rfl
          | ok state =>
              simp only [added] at owned completion ⊢
              rcases add_service_cases added with ⟨index, chosen, within, rfl⟩
              exact entered_mirror ready chosen within (begin_open_carries _ _) completion owned
        · rfl
      simp only [System.call] at owned ⊢
      split_ifs at owned ⊢
      · rw [absorb_inst] at owned ⊢
        exact opened owned
      · rw [absorb_inst] at owned ⊢
        exact opened owned
      · rfl
  | serviceClose handle =>
      simp only [System.call]
      split
      · rfl
      · exact absorbed_mirror (begin_close_carries sys.inst _) (begin_close_completion sys.inst _)
  | queueMessage handle data =>
      simp only [System.call]
      split
      · rfl
      · exact absorbed_mirror (queue_data_carries sys.inst _ data)
          (queue_message_completion sys.inst _ data)

theorem resume_mirror {sys next : System} (polled : sys.resume = some next) :
    mirror owners next.inst = mirror owners sys.inst := by
  cases resume_cases polled with
  | connected _ finished =>
      exact Carries.mirror (finish_connect_carries finished) (finish_connect_completion finished)
  | refused _ awaited =>
      exact Carries.mirror (await_service_carries awaited) (await_service_completion awaited).1
  | opened _ awaited =>
      exact Carries.mirror (await_service_carries awaited) (await_service_completion awaited).1
  | closed _ awaited =>
      exact Carries.mirror (await_service_carries awaited) (await_service_completion awaited).1

theorem acceptor_of_other {message : SlotMessage} {kind : MessageType}
    (msgType : msgTypeFromId message.header.msgid = some kind) (other : kind ≠ .data) :
    acceptorOf inst message = none := by
  rw [acceptorOf, msgType, if_neg]
  simpa using other

theorem acceptor_of_used {message : SlotMessage} {service : Service}
    (msgType : msgTypeFromId message.header.msgid = some .data)
    (used : InUse inst.state (receiverRef message) service) :
    acceptorOf inst message = if Accepts service message then some service else none := by
  rw [acceptorOf, if_pos msgType, used.1]
  by_cases accepts : Accepts service message <;> simp [accepts]

theorem received_mirror_run {sys : System} {next : Instance} {message : SlotMessage}
    {opened : Bool} (ready : sys.Ready) (registry : RegistryInvariant sys.protocol)
    (records : RecordInvariant sys.inst) (handled : dispatch sys.inst message = .ok next)
    (permitted : ∀ label ∈ sys.ringLabels (.received message opened),
      allowed (mirror owners sys.inst) label) :
    Run (Guarded RingStep allowed) (mirror owners sys.inst)
      (sys.ringLabels (.received message opened)) (mirror owners next) := by
  -- a message that is not for a client
  have quiet : ∀ kind, msgTypeFromId message.header.msgid = some kind → kind ≠ .data →
      mirror owners next = mirror owners sys.inst →
      Run (Guarded RingStep allowed) (mirror owners sys.inst)
        (sys.ringLabels (.received message opened)) (mirror owners next) := by
    intro kind msgType other same
    simp only [System.ringLabels, acceptor_of_other msgType other]
    rw [same]
    exact .refl
  have data : ∀ service, msgTypeFromId message.header.msgid = some .data →
      InUse sys.inst.state (receiverRef message) service →
      Run (Guarded RingStep allowed) (mirror owners sys.inst)
        (sys.ringLabels (.received message opened)) (mirror owners next) := by
    intro service msgType used
    have acceptor := acceptor_of_used msgType used
    rcases data_dispatched ready registry records msgType used with
      ⟨refused, passed⟩ | ⟨accepts, completion, user, callback, delivered⟩
    · rw [passed, Except.ok.injEq] at handled
      rw [if_neg refused] at acceptor
      simp only [System.ringLabels, acceptor]
      rw [← handled]
      exact .refl
    · rw [delivered, Except.ok.injEq] at handled
      rw [if_pos accepts] at acceptor
      simp only [System.ringLabels, acceptor, List.mem_singleton, forall_eq] at permitted ⊢
      rw [← handled]
      exact delivered_mirror_run used.1 callback permitted
  cases dispatch_cases handled with
  | connect msgType => exact quiet _ msgType (by decide) rfl
  | ignored msgType silent =>
      apply quiet _ msgType _ rfl
      rcases silent with rfl | rfl | rfl <;> decide
  | acknowledged msgType _ =>
      apply quiet _ msgType (by decide)
      exact Carries.mirror (carries_update sys.inst _ (kept_open_acknowledged _ message)) rfl
  | closed msgType _ _ =>
      apply quiet _ msgType (by decide)
      have carries := carries_update sys.inst (receiverRef message)
        fun service => (kept_close_received service).1
      refine mirror_same ?_ rfl
      intro reference
      have same := user_of_rel (carries.services reference)
      rw [userAt, userAt, ← same]
      rfl
  | dropped msgType used _ => exact data _ msgType used
  | delivered msgType used _ _ _ _ => exact data _ msgType used

/-- A step of the system is a run of the rings. -/
theorem mirror_step (free : DeliveryGuard allowed) {sys next : System} {action : Action}
    (ready : sys.Ready) (registry : RegistryInvariant sys.protocol)
    (records : RecordInvariant sys.inst) (move : SystemStep sys action next)
    (owned : Owned owners next.inst)
    (permitted : ∀ label ∈ sys.ringLabels action, allowed (mirror owners sys.inst) label) :
    Run (Guarded RingStep allowed) (mirror owners sys.inst) (sys.ringLabels action)
      (mirror owners next.inst) := by
  cases move with
  | @called _ call sent _ polled =>
      have same := @call_mirror owners sys ready call
      rw [polled] at same
      rw [same owned]
      exact .refl
  | @failed _ call error _ polled =>
      have same := @call_mirror owners sys ready call
      rw [polled] at same
      rw [same owned]
      exact .refl
  | resumed polled =>
      rw [resume_mirror polled]
      exact .refl
  | dropped => exact .refl
  | received handled => exact received_mirror_run ready registry records handled permitted
  | dequeued polled =>
      rcases poll_dequeue_cases polled with ⟨service, user, stored, outcome, rfl⟩
      have vchi := (records.services _ service stored).vchi
      simp only [System.ringLabels, userOf, stored, Option.map_some]
      exact dequeue_mirror_run free stored vchi outcome
  | completed spawned taken _ =>
      have connected : sys.inst.connected = true := by
        by_contra disconnected
        simp [System.awaitCompletion, awaitCompletion, disconnected] at taken
      rw [System.awaitCompletion, connected] at taken
      exact .snoc .refl ⟨.awaited 8 taken, free _ _ (by simp)⟩
  | idled spawned waiting =>
      have connected : sys.inst.connected = true := by
        by_contra disconnected
        simp [System.awaitCompletion, awaitCompletion, disconnected] at waiting
      rw [System.awaitCompletion, connected] at waiting
      exact .snoc .refl ⟨.pending 8 waiting, free _ _ (by simp)⟩

end Steps

/-- An entry of the table keeps its owner. -/
theorem touched_owner {before after : Protocol} {event : Option Event}
    (touch : Touches before event after) {port : ServiceRef} {endpoint : Endpoint}
    (present : before.endpoints port = some endpoint) :
    ∃ later, after.endpoints port = some later ∧ later.owner = endpoint.owner := by
  have owner : ∀ changed : Endpoint, changed.identity = endpoint.identity →
      changed.owner = endpoint.owner :=
    fun changed identity => congrArg (fun parts => parts.2.2) identity
  cases touch with
  | nothing same _ => exact ⟨endpoint, by rw [same]; exact present, rfl⟩
  | @entry touched changed updated step =>
      by_cases here : port = touched
      · subst here
        refine ⟨changed, by rw [updated, Function.update_self], ?_⟩
        rw [present] at step
        cases step with
        | closeSent _ _ _ => rfl
        | released _ => rfl
        | acknowledged _ _ _ => exact owner _ (acknowledge_identity _ _)
        | closed _ _ _ => exact owner _ (close_received_identity _)
      · exact ⟨endpoint, by rw [updated, Function.update_of_ne here]; exact present, rfl⟩

theorem user_of_endpoint {inst : Instance} {reference : ServiceRef}
    {endpoint : Endpoint} (present : inst.state.endpoints reference = some endpoint) :
    ∃ user, userOf inst reference = some user ∧ user.userdata = endpoint.owner := by
  rcases endpoints_of_some present with ⟨service, stored, rfl⟩
  exact ⟨service.base.userdata, by rw [userOf, stored, Option.map_some], rfl⟩

theorem endpoint_of_user {inst : Instance} {reference : ServiceRef} {user : ServiceUser}
    (present : userOf inst reference = some user) :
    ∃ endpoint, inst.state.endpoints reference = some endpoint ∧ endpoint.owner = user.userdata := by
  unfold userOf at present
  rcases Option.map_eq_some_iff.mp present with ⟨service, stored, rfl⟩
  exact ⟨service.endpoint, endpoints_some stored, rfl⟩

/-- Who owns the services now owned them before. -/
theorem owned_earlier {owners : Nat → Option ServiceHandle} {actions : List Action}
    {sys next : System} {action : Action} (ready : sys.Ready)
    (inv : ProtocolInvariant actions sys.protocol) (move : SystemStep sys action next)
    (owned : Owned owners next.inst) : Owned owners sys.inst := by
  intro reference user present
  rcases endpoint_of_user present with ⟨endpoint, entry, owner⟩
  have touch := step_touches inv.registry inv.lifecycle (step_simulated ready move).2
  rcases touched_owner touch entry with ⟨later, stays, sameOwner⟩
  rcases user_of_endpoint stays with ⟨laterUser, found, laterOwner⟩
  rw [← owner, ← sameOwner, ← laterOwner]
  exact owned reference laterUser found

theorem observed_run {start reached : System} {labels : List (Action × List RingLabel)}
    {guard : System → Action × List RingLabel → Prop}
    (run : Run (Guarded ObservedStep guard) start labels reached) :
    Run SystemStep start (labels.map Prod.fst) reached := by
  induction run with
  | refl => exact .refl
  | snoc _ step ih =>
      rw [List.map_append]
      exact .snoc ih step.1.move

theorem fresh_mirror {state : State} {owners : Nat → Option ServiceHandle}
    (facts : FreshState state) :
    mirror owners (System.new (freshInstance state)).inst = Rings.initial owners fun _ => true := by
  unfold mirror Rings.initial
  simp only [System.new, freshInstance, Rings.mk.injEq, and_true]
  funext reference
  rw [userAt, userOf, fresh_service_absent facts]
  rfl

/-- The whole system refines its rings: a run is one of the rings, for the owners the
services have in the end. -/
theorem system_refines_rings {state : State} {labels : List (Action × List RingLabel)}
    {reached : System} {owners : Nat → Option ServiceHandle}
    {allowed : Rings → RingLabel → Prop} {guard : System → Action × List RingLabel → Prop}
    (facts : FreshState state) (free : DeliveryGuard allowed)
    (permits : ∀ sys label, guard sys label → ∀ step ∈ label.2, allowed (mirror owners sys.inst) step)
    (owned : Owned owners reached.inst)
    (run : Run (Guarded ObservedStep guard) (System.new (freshInstance state)) labels reached) :
    Run (Guarded RingStep allowed) (Rings.initial owners fun _ => true) (ringLog labels)
      (mirror owners reached.inst) := by
  induction run with
  | refl =>
      rw [fresh_mirror facts]
      exact .refl
  | @snoc labels before after label earlier step ih =>
      rcases step with ⟨⟨move, rings⟩, guarded⟩
      rcases record_invariant_run facts (observed_run earlier) with ⟨ready, inv, records⟩
      have log := ih (owned_earlier ready inv move owned)
      rw [ring_log_snoc]
      apply log.append
      have permitted := permits before label guarded
      rw [rings] at permitted ⊢
      exact mirror_step free ready inv.registry records move owned permitted

/-- A message is delivered to the service at the port only while its queue has room. -/
def RoomAt (port : ServiceRef) (sys : System) (label : Action × List RingLabel) : Prop :=
  ∀ message skipped, RingLabel.delivered port message skipped ∈ label.2 →
    ∀ user, userOf sys.inst port = some user → ¬QueueFull user

theorem room_for_free (port : ServiceRef) : DeliveryGuard (RoomFor port) := by
  intro rings label other
  cases label with
  | delivered service message skipped => exact absurd rfl (other service message skipped)
  | _ => trivial

theorem room_at_permits {owners : Nat → Option ServiceHandle} {port : ServiceRef} {sys : System}
    {label : Action × List RingLabel} (room : RoomAt port sys label) :
    ∀ step ∈ label.2, RoomFor port (mirror owners sys.inst) step := by
  intro step member
  cases step with
  | delivered service message skipped =>
      rintro rfl
      cases present : userOf sys.inst service with
      | none =>
          simp [mirror, userAt, present, ServiceUser.new, msgQueueSize]
      | some user =>
          have free := room message skipped member user present
          simp only [mirror, userAt, present, Option.getD_some]
          unfold QueueFull at free
          omega
  | _ => trivial

/-- The cells a ring holds its messages in, in order. -/
theorem pending_of_holds {user : ServiceUser} {waiting : List SlotMessage}
    (holds : Holds user.msgQueue user.msgRemove user.msgInsert waiting) :
    pendingMessages user = waiting.map some := by
  have counters := holds.counters
  have count : user.msgInsert - user.msgRemove = waiting.length := by omega
  unfold pendingMessages
  rw [count]
  apply List.ext_getElem
  · simp
  · intro index _ bound
    rw [List.length_map] at bound
    have stored := holds.stored index bound
    rw [← msg_queue_index_eq] at stored
    simpa using stored

/-- What the next poll of `dequeue_message` returns. -/
theorem next_poll_returns {port : ServiceRef} {user : ServiceUser} {waiting : List SlotMessage}
    (holds : Holds user.msgQueue user.msgRemove user.msgInsert waiting) :
    returnedFrom port (dequeueLabels port user) = (waiting.head?.map SlotMessage.data).toList := by
  have counters := holds.counters
  cases waiting with
  | nil =>
      have empty : user.msgRemove = user.msgInsert := counters
      unfold dequeueLabels
      rw [dequeue_ready_empty empty]
      rfl
  | cons message rest =>
      have filled : user.msgRemove ≠ user.msgInsert := by
        rw [List.length_cons] at counters
        omega
      have stored : user.msgQueue (msgQueueIndex user.msgRemove) = some message := by
        rw [msg_queue_index_eq]
        exact holds.head
      have order : user.msgRemove ≤ user.msgInsert := by omega
      unfold dequeueLabels
      simp only [dequeue_ready_filled filled, dequeue_take_of_some order stored]
      simp [returnedFrom, List.filterMap_cons, RingLabel.bytesFrom]

/-- In every run of the whole system, with any other calls and services in between: while
no message arrives for a service whose queue is full, the payloads its dequeue calls
returned are those of the accepted messages from the first one on, in order and each
once; the queue holds the other accepted messages, and the next poll returns the payload
of the oldest of them or waits if there is none. -/
theorem payloads_returned_in_order {raw : SlotZero} {memory : Memory} {totalMemory : Nat}
    {fresh : State} {labels : List (Action × List RingLabel)} {reached : System}
    {port : ServiceRef} {user : ServiceUser}
    (made : freshState raw memory totalMemory = .ok fresh)
    (run : Run (Guarded ObservedStep (RoomAt port)) (System.new (freshInstance fresh)) labels
      reached)
    (opened : userOf reached.inst port = some user) :
    ∃ waiting : List SlotMessage, (deliveredTo port (ringLog labels)).map SlotMessage.data =
        returnedFrom port (ringLog labels) ++ waiting.map SlotMessage.data ∧
      pendingMessages user = waiting.map some ∧
      returnedFrom port (reached.ringLabels (.dequeued port)) =
        (waiting.head?.map SlotMessage.data).toList := by
  let owners := fun reference => (userOf reached.inst reference).bind ServiceUser.userdata
  have owned : Owned owners reached.inst := by
    intro reference other present
    simp only [owners, present, Option.bind_some]
  have rings := system_refines_rings (fresh_state_facts made) (room_for_free port)
    (fun _ _ room => room_at_permits room) owned run
  rcases returned_run rfl rings with ⟨backlog, returned⟩
  have here : (mirror owners reached.inst).users port = user := by
    simp only [mirror, userAt, opened, Option.getD_some]
  have holds := backlog.holds
  rw [here] at holds
  rw [ReturnedInOrder, here] at returned
  refine ⟨(deliveredTo port (ringLog labels)).drop user.msgRemove, ?_, pending_of_holds holds, ?_⟩
  · rw [returned, ← List.map_append, List.take_append_drop]
  · simp only [System.ringLabels, opened]
    exact next_poll_returns holds

/-- Every run can be observed. -/
theorem observed_of_run {start reached : System} {actions : List Action}
    {guard : System → Action → Prop} {observed : System → Action × List RingLabel → Prop}
    (implied : ∀ sys action, guard sys action → observed sys (action, sys.ringLabels action))
    (run : Run (Guarded SystemStep guard) start actions reached) :
    ∃ labels, Run (Guarded ObservedStep observed) start labels reached := by
  induction run with
  | refl => exact ⟨[], .refl⟩
  | @snoc actions before after action _ step ih =>
      rcases ih with ⟨labels, earlier⟩
      exact ⟨_, .snoc earlier
        ⟨⟨step.1, (rfl : (action, before.ringLabels action).2 = _)⟩, implied _ _ step.2⟩⟩

/-- The queue at the port is not full. -/
def Uncrowded (port : ServiceRef) (sys : System) (_ : Action) : Prop :=
  (userOf sys.inst port).all (fun user =>
    decide (user.msgInsert < user.msgRemove + msgQueueSize)) = true

instance (port : ServiceRef) (sys : System) (action : Action) :
    Decidable (Uncrowded port sys action) := inferInstanceAs (Decidable (_ = true))

theorem room_of_uncrowded {port : ServiceRef} {sys : System} {action : Action}
    (uncrowded : Uncrowded port sys action) (rings : List RingLabel) :
    RoomAt port sys (action, rings) := by
  intro message skipped _ user present
  rw [Uncrowded, present] at uncrowded
  rw [QueueFull, Nat.not_le]
  simpa using uncrowded

set_option maxRecDepth 20000 in
/-- Three messages are delivered and one of them is taken. -/
theorem three_messages_performed :
    ∃ fresh actions filled reached user,
      freshState blankSlotZero (fun _ => 0) (65 * vchiqSlotSize) = .ok fresh ∧
      (System.new (freshInstance fresh)).performAll (Uncrowded 0)
        (openingMoves ++ [.resume, .receive (numberedMessage 0), .receive (numberedMessage 1),
          .receive (numberedMessage 2)]) = some (actions, filled) ∧
      Uncrowded 0 filled (.dequeued 0) ∧
      returnedFrom 0 (filled.ringLabels (.dequeued 0)) = [[0]] ∧
      filled.perform (.dequeue 0) = some (.dequeued 0, reached) ∧
      userOf reached.inst 0 = some user ∧
      pendingMessages user = [some (numberedMessage 1), some (numberedMessage 2)] :=
  ⟨_, _, _, _, _, rfl, rfl, rfl, rfl, rfl, rfl, rfl⟩

/-- Behind the first payload the second one is what the next poll returns. -/
theorem second_message_returned :
    ∃ labels, ∃ reached : System, [0] ∈ returnedFrom 0 (ringLog labels) ∧
      (deliveredTo 0 (ringLog labels)).map SlotMessage.data =
        returnedFrom 0 (ringLog labels) ++ [[1], [2]] ∧
      returnedFrom 0 (reached.ringLabels (.dequeued 0)) = [[1]] := by
  rcases three_messages_performed with ⟨fresh, actions, filled, reached, user, made, performed,
    uncrowded, first, taken, opened, pending⟩
  have permits : ∀ sys action, Uncrowded 0 sys action → RoomAt 0 sys (action, sys.ringLabels action) :=
    fun sys action uncrowded => room_of_uncrowded uncrowded _
  rcases observed_of_run permits (perform_all_run .refl performed) with ⟨labels, run⟩
  have whole := run.snoc
    ⟨⟨perform_step taken, (rfl : (Action.dequeued 0, filled.ringLabels (.dequeued 0)).2 = _)⟩,
      room_of_uncrowded uncrowded _⟩
  rcases payloads_returned_in_order made whole opened with ⟨waiting, delivered, queued, next⟩
  have two : waiting = [numberedMessage 1, numberedMessage 2] := by
    apply List.map_injective_iff.mpr (Option.some_injective SlotMessage)
    rw [← queued, pending]
    rfl
  subst two
  refine ⟨_, reached, ?_, delivered, next⟩
  rw [ring_log_snoc, returnedFrom, List.filterMap_append, List.mem_append]
  right
  exact List.mem_of_mem_head? (by rw [← returnedFrom, first]; rfl)

end RuspiroVchiq.Vchi
