import RuspiroVchiq.Vchi.PollGuards

/-!
# Guards across the await points

The tasks of the vchi instance on one core. A task runs until it returns `Pending`,
and a request for a lock that a suspended task holds spins for ever. A call that is
suspended keeps what it holds at its await point.

`service_close` waits with a read guard of the map of services, but it borrows the
instance mutably, so no other client call is under way. `dequeue_message` waits with
the write guard of that map, which `completion_handler` and every other client need.
-/

namespace RuspiroVchiq.Vchi

open RuspiroVchiq.Config
open RuspiroVchiq.Shared
open RuspiroVchiq.Vchiq
open RuspiroVchiq.Lib.GuardPrograms
open RuspiroVchiq.Lib.LabelledRun

set_option autoImplicit false

/-- A `dequeue_message` that has returned `Pending`. -/
structure Dequeuer where
  reference : ServiceRef
  held : ClientGuards

/-- The instance with the guards of the suspended calls: of the one that borrows it
mutably, and of the `dequeue_message` calls. -/
structure Scene where
  sys : System
  exclusive : ClientGuards
  dequeuers : List Dequeuer

def Scene.new (state : State) : Scene where
  sys := System.new (freshInstance state)
  exclusive := []
  dequeuers := []

def Scene.guards (scene : Scene) : ClientGuards :=
  scene.exclusive ++ scene.dequeuers.flatMap Dequeuer.held

inductive SceneLabel where
  | handled (message : SlotMessage)
  | completed (records : List ServiceCompletion)
  | idled
  | called (call : Call)
  | resumed
  | dropped
  | queued (handle : ServiceHandle)
  | dequeued (handle : ServiceHandle)
  | repolled (reference : ServiceRef)
  | abandoned (reference : ServiceRef)

/-- One poll of one task that comes to its end. A poll that spins is no step. Calls that
share the instance exclude the one that borrows it mutably. -/
inductive SceneStep : Scene → SceneLabel → Scene → Prop where
  | handled {before : Scene} {message : SlotMessage} {opened : Bool} {next : System}
      {path : MessagePath} (kind : msgTypeFromId message.header.msgid = some path.msgType)
      (step : SystemStep before.sys (.received message opened) next)
      (runs : runGuards before.guards [] (slotHandlerPoll [path]) = some []) :
      SceneStep before (.handled message) { before with sys := next }
  | completed {before : Scene} {records : List ServiceCompletion} {next : System}
      (step : SystemStep before.sys (.completed records) next)
      (runs : runGuards before.guards [] (completionHandlerPoll before.sys.awaitCompletion) =
        some []) :
      SceneStep before (.completed records) { before with sys := next }
  | idled {before : Scene} {next : System} (step : SystemStep before.sys .idled next)
      (runs : runGuards before.guards [] (completionHandlerPoll before.sys.awaitCompletion) =
        some []) :
      SceneStep before .idled { before with sys := next }
  | called {before : Scene} {call : Call} {sent : Option Outgoing} {next : System}
      {found : Bool} {held : ClientGuards} (exclusive : call.Exclusive)
      (alone : before.sys.pending = .idle ∧ before.dequeuers = [])
      (step : SystemStep before.sys (.called call sent) next)
      (runs : runGuards before.guards []
        (before.sys.exclusivePoll found (decide (next.pending ≠ .idle)) call) = some held) :
      SceneStep before (.called call) { before with sys := next, exclusive := held }
  | failed {before : Scene} {call : Call} {error : BoxError} {next : System}
      {found : Bool} {held : ClientGuards} (exclusive : call.Exclusive)
      (alone : before.sys.pending = .idle ∧ before.dequeuers = [])
      (step : SystemStep before.sys (.failed call error) next)
      (runs : runGuards before.guards [] (before.sys.exclusivePoll found false call) =
        some held) :
      SceneStep before (.called call) { before with sys := next, exclusive := held }
  | resumed {before : Scene} {next : System} {succeeds : Bool} {held : ClientGuards}
      (step : SystemStep before.sys .resumed next)
      (runs : runGuards (before.dequeuers.flatMap Dequeuer.held) before.exclusive
        (resumePoll succeeds before.sys.pending) = some held) :
      SceneStep before .resumed { before with sys := next, exclusive := held }
  | dropped {before : Scene} :
      SceneStep before .dropped
        { before with sys := { before.sys with pending := .idle }, exclusive := [] }
  | queued {before : Scene} {handle : ServiceHandle} {data : Payload} {admitted : Bool}
      {sent : Option Outgoing} {next : System} (shared : before.sys.pending = .idle)
      (step : SystemStep before.sys (.called (.queueMessage handle data) sent) next)
      (runs : runGuards before.guards [] (before.sys.queueMessagePoll handle admitted) =
        some []) :
      SceneStep before (.queued handle) { before with sys := next }
  | refused {before : Scene} {handle : ServiceHandle} {data : Payload} {admitted : Bool}
      {error : BoxError} {next : System} (shared : before.sys.pending = .idle)
      (step : SystemStep before.sys (.failed (.queueMessage handle data) error) next)
      (runs : runGuards before.guards [] (before.sys.queueMessagePoll handle admitted) =
        some []) :
      SceneStep before (.queued handle) { before with sys := next }
  | missed {before : Scene} {handle : ServiceHandle} (shared : before.sys.pending = .idle)
      (unknown : (before.sys.services handle).bind before.sys.inst.state.serviceOf = none)
      (runs : runGuards before.guards [] (before.sys.dequeuePoll handle) = some []) :
      SceneStep before (.dequeued handle) before
  | took {before : Scene} {handle : ServiceHandle} {reference : ServiceRef}
      {service : Service} {next : System} (shared : before.sys.pending = .idle)
      (known : (before.sys.services handle).bind before.sys.inst.state.serviceOf =
        some (reference, service))
      (message : service.base.userdata.msgRemove ≠ service.base.userdata.msgInsert)
      (step : SystemStep before.sys (.dequeued reference) next)
      (runs : runGuards before.guards [] (before.sys.dequeuePoll handle) = some []) :
      SceneStep before (.dequeued handle) { before with sys := next }
  | suspended {before : Scene} {handle : ServiceHandle} {reference : ServiceRef}
      {service : Service} {next : System} {held : ClientGuards}
      (shared : before.sys.pending = .idle)
      (known : (before.sys.services handle).bind before.sys.inst.state.serviceOf =
        some (reference, service))
      (empty : service.base.userdata.msgRemove = service.base.userdata.msgInsert)
      (step : SystemStep before.sys (.dequeued reference) next)
      (runs : runGuards before.guards [] (before.sys.dequeuePoll handle) = some held) :
      SceneStep before (.dequeued handle)
        { before with sys := next, dequeuers := ⟨reference, held⟩ :: before.dequeuers }
  | repolled {before : Scene} {front back : List Dequeuer} {dequeuer : Dequeuer}
      {service : Service} {next : System} {held : ClientGuards}
      (waits : before.dequeuers = front ++ dequeuer :: back)
      (stored : before.sys.inst.state.srvState.service dequeuer.reference = some service)
      (step : SystemStep before.sys (.dequeued dequeuer.reference) next)
      (runs : runGuards (before.exclusive ++ (front ++ back).flatMap Dequeuer.held)
        dequeuer.held (dequeueLookOps dequeuer.reference service.base.userdata) = some held) :
      SceneStep before (.repolled dequeuer.reference)
        { before with
          sys := next
          dequeuers :=
            if service.base.userdata.msgRemove = service.base.userdata.msgInsert then
              front ++ { dequeuer with held := held } :: back
            else front ++ back }
  | abandoned {before : Scene} {front back : List Dequeuer} {dequeuer : Dequeuer}
      (waits : before.dequeuers = front ++ dequeuer :: back) :
      SceneStep before (.abandoned dequeuer.reference)
        { before with dequeuers := front ++ back }

/-- The poll does not come to its end. -/
def Spins (others held : ClientGuards) (ops : ClientOps) : Prop :=
  runGuards others held ops = none

/-- No poll that may come next spins. While a call borrows the instance mutably, no
other client call is under way. -/
structure NothingSpins (scene : Scene) : Prop where
  slotHandler : ∀ paths, ¬Spins scene.guards [] (slotHandlerPoll paths)
  completionHandler :
    ¬Spins scene.guards [] (completionHandlerPoll scene.sys.awaitCompletion)
  queueMessage : scene.sys.pending = .idle → ∀ handle admitted,
    ¬Spins scene.guards [] (scene.sys.queueMessagePoll handle admitted)
  dequeueMessage : scene.sys.pending = .idle → ∀ handle,
    ¬Spins scene.guards [] (scene.sys.dequeuePoll handle)
  repolled : ∀ front dequeuer back, scene.dequeuers = front ++ dequeuer :: back → ∀ user,
    ¬Spins (scene.exclusive ++ (front ++ back).flatMap Dequeuer.held) dequeuer.held
      (dequeueLookOps dequeuer.reference user)
  resumed : ∀ succeeds, ¬Spins (scene.dequeuers.flatMap Dequeuer.held) scene.exclusive
    (resumePoll succeeds scene.sys.pending)

/-- A `dequeue_message` that finds its service finds a message. -/
def Prompt (scene : Scene) : SceneLabel → Prop
  | .dequeued handle => ∀ reference service,
      (scene.sys.services handle).bind scene.sys.inst.state.serviceOf =
        some (reference, service) →
      service.base.userdata.msgRemove ≠ service.base.userdata.msgInsert
  | _ => True

theorem failed_pending {sys next : System} {call : Call} {error : BoxError}
    (polled : sys.call call = (.error (.error error), next)) : next.pending = sys.pending := by
  cases call with
  | initializeInstance => simp [System.call] at polled
  | connect =>
      simp only [System.call] at polled
      split_ifs at polled
      · simp at polled
      · obtain ⟨_, _, _, rfl⟩ := absorb_failed polled
        rfl
  | serviceOpen setup =>
      simp only [System.call] at polled
      by_cases initialized : sys.initialized
      · rw [if_pos initialized] at polled
        obtain ⟨_, _, _, rfl⟩ := absorb_failed polled
        rfl
      · rw [if_neg initialized] at polled
        exact congrArg System.pending (congrArg Prod.snd polled).symm
  | serviceClose handle | queueMessage handle data =>
      simp only [System.call] at polled
      split at polled
      · exact congrArg System.pending (congrArg Prod.snd polled).symm
      · obtain ⟨_, _, _, rfl⟩ := absorb_failed polled
        rfl

theorem queue_message_pending {sys next : System} {handle : ServiceHandle} {data : Payload}
    {sent : Option Outgoing} (polled : sys.call (.queueMessage handle data) = (.ok sent, next)) :
    next.pending = sys.pending := by
  simp only [System.call] at polled
  split at polled
  · simp at polled
  · obtain ⟨_, _, rfl⟩ := absorb_ok polled
    rfl

/-- What a call that comes to its wait holds there. -/
theorem called_guards {sys next : System} {call : Call} {sent : Option Outgoing}
    (idle : sys.pending = .idle) (exclusive : call.Exclusive)
    (polled : sys.call call = (.ok sent, next)) :
    callGuards (decide (next.pending ≠ .idle)) call = pendingGuards next.pending := by
  cases call with
  | initializeInstance =>
      simp only [System.call, Prod.mk.injEq] at polled
      rw [← polled.2, idle]
      rfl
  | connect =>
      simp only [System.call] at polled
      split_ifs at polled
      · simp only [Prod.mk.injEq] at polled
        rw [← polled.2, idle]
        rfl
      · obtain ⟨_, _, rfl⟩ := absorb_ok polled
        rfl
  | serviceOpen setup =>
      simp only [System.call] at polled
      by_cases initialized : sys.initialized
      · rw [if_pos initialized] at polled
        obtain ⟨_, _, rfl⟩ := absorb_ok polled
        rfl
      · rw [if_neg initialized] at polled
        simp at polled
  | serviceClose handle =>
      simp only [System.call] at polled
      split at polled
      · simp at polled
      · obtain ⟨_, _, rfl⟩ := absorb_ok polled
        rfl
  | queueMessage handle data => exact exclusive.elim

theorem resume_pending {sys next : System} (resumed : sys.resume = some next) :
    sys.pending ≠ .idle ∧ next.pending = .idle := by
  cases resume_cases resumed with
  | connected waiting finished => exact ⟨by simp [waiting], rfl⟩
  | refused busy awaited => exact ⟨busy, rfl⟩
  | opened waiting awaited => exact ⟨by simp [waiting], rfl⟩
  | closed waiting awaited => exact ⟨by simp [waiting], rfl⟩

/-- What the suspended calls hold. Calls that share the instance are suspended only
while none borrows it mutably. -/
structure SceneInvariant (scene : Scene) : Prop where
  exclusive : scene.exclusive = pendingGuards scene.sys.pending
  dequeuers : ∀ dequeuer ∈ scene.dequeuers, dequeuer.held = [(.services, .exclusive)]
  shared : scene.dequeuers ≠ [] → scene.sys.pending = .idle

theorem pending_guards_services (pending : PendingCall) :
    ∀ guard ∈ pendingGuards pending, guard = (.services, .shared) := by
  cases pending with
  | serviceClose handle srvHandle => simp [pendingGuards]
  | _ => simp [pendingGuards]

theorem SceneInvariant.initial (state : State) : SceneInvariant (Scene.new state) where
  exclusive := rfl
  dequeuers := by simp [Scene.new]
  shared := by simp [Scene.new]

theorem SceneInvariant.moved {scene : Scene} (inv : SceneInvariant scene) {next : System}
    (same : next.pending = scene.sys.pending) :
    SceneInvariant { scene with sys := next } where
  exclusive := by rw [inv.exclusive, same]
  dequeuers := inv.dequeuers
  shared := fun waiting => same.trans (inv.shared waiting)

/-- Without a suspended `dequeue_message` the guards of a pending call remain. -/
theorem SceneInvariant.guards {scene : Scene} (inv : SceneInvariant scene)
    (none : scene.dequeuers = []) : scene.guards = pendingGuards scene.sys.pending := by
  rw [Scene.guards, none, inv.exclusive]
  simp

theorem SceneInvariant.unguarded {scene : Scene} (inv : SceneInvariant scene)
    (none : scene.dequeuers = []) (idle : scene.sys.pending = .idle) : scene.guards = [] := by
  rw [inv.guards none, idle]
  rfl

/-- A suspended `dequeue_message` keeps every other task from the map of services. -/
theorem SceneInvariant.excluded {scene : Scene} (inv : SceneInvariant scene)
    (waiting : scene.dequeuers ≠ []) (mode : Mode) :
    excludes scene.guards .services mode = true := by
  obtain ⟨dequeuer, member⟩ := List.exists_mem_of_ne_nil _ waiting
  have held : (ClientLock.services, Mode.exclusive) ∈ dequeuer.held := by
    rw [inv.dequeuers dequeuer member]
    exact List.mem_singleton_self _
  rw [excludes, List.any_eq_true]
  refine ⟨(.services, .exclusive), ?_, by simp [Mode.Conflicts]⟩
  apply List.mem_append_right
  exact List.mem_flatMap.mpr ⟨dequeuer, member, held⟩

theorem SceneInvariant.queue_message_spins {scene : Scene} (inv : SceneInvariant scene)
    (waiting : scene.dequeuers ≠ []) (handle : ServiceHandle) (admitted : Bool) :
    Spins scene.guards [] (scene.sys.queueMessagePoll handle admitted) := by
  unfold Spins System.queueMessagePoll
  simp [runGuards, inv.excluded waiting .shared]

theorem SceneInvariant.dequeue_spins {scene : Scene} (inv : SceneInvariant scene)
    (waiting : scene.dequeuers ≠ []) (handle : ServiceHandle) :
    Spins scene.guards [] (scene.sys.dequeuePoll handle) := by
  unfold Spins System.dequeuePoll
  simp [runGuards, inv.excluded waiting .exclusive]

/-- A first poll of `dequeue_message` that comes to its end is alone on the map. -/
theorem SceneInvariant.dequeue_alone {scene : Scene} (inv : SceneInvariant scene)
    {handle : ServiceHandle} {held : ClientGuards}
    (runs : runGuards scene.guards [] (scene.sys.dequeuePoll handle) = some held) :
    scene.dequeuers = [] := by
  by_contra waiting
  have spins := inv.dequeue_spins waiting handle
  rw [Spins, runs] at spins
  simp at spins

theorem remaining_waits {dequeuers front back : List Dequeuer} {dequeuer other : Dequeuer}
    (waits : dequeuers = front ++ dequeuer :: back) (member : other ∈ front ++ back) :
    other ∈ dequeuers := by
  rw [waits]
  simp only [List.mem_append, List.mem_cons] at member ⊢
  exact member.imp_right Or.inr

theorem SceneInvariant.pending_services {scene : Scene} (inv : SceneInvariant scene) :
    ServicesOnly scene.exclusive := by
  rw [inv.exclusive]
  intro guard member
  rw [pending_guards_services _ guard member]

theorem SceneInvariant.dequeuers_services {scene : Scene} (inv : SceneInvariant scene)
    {dequeuers : List Dequeuer} (among : ∀ dequeuer ∈ dequeuers, dequeuer ∈ scene.dequeuers) :
    ServicesOnly (dequeuers.flatMap Dequeuer.held) := by
  intro guard member
  obtain ⟨dequeuer, listed, held⟩ := List.mem_flatMap.mp member
  rw [inv.dequeuers dequeuer (among dequeuer listed), List.mem_singleton] at held
  rw [held]

theorem SceneInvariant.services_only {scene : Scene} (inv : SceneInvariant scene) :
    ServicesOnly scene.guards :=
  inv.pending_services.append (inv.dequeuers_services fun _ member => member)

/-- The other guards while one of the suspended `dequeue_message` calls is polled. -/
theorem SceneInvariant.others {scene : Scene} (inv : SceneInvariant scene)
    {front back : List Dequeuer} {dequeuer : Dequeuer}
    (waits : scene.dequeuers = front ++ dequeuer :: back) :
    ServicesOnly (scene.exclusive ++ (front ++ back).flatMap Dequeuer.held) :=
  inv.pending_services.append (inv.dequeuers_services fun _ => remaining_waits waits)

/-- With a record due, so does the completion handler. -/
theorem SceneInvariant.completion_handler_spins {scene : Scene} (inv : SceneInvariant scene)
    (waiting : scene.dequeuers ≠ []) {record : ServiceCompletion}
    {records : List ServiceCompletion} {completion : Completion} {handle : ServiceHandle}
    (due : scene.sys.awaitCompletion = .ready (record :: records) completion)
    (named : record.serviceUserdata = some handle) :
    Spins scene.guards [] (completionHandlerPoll scene.sys.awaitCompletion) := by
  have only := inv.services_only
  have free := only.free (.handleData handle) (by simp) .shared
  have excluded := inv.excluded waiting .shared
  rw [Spins, due, completionHandlerPoll, taken_passes only]
  simp [recordOps, named, brief, runGuards, free, excluded]

/-- One of the suspended `dequeue_message` calls is gone. -/
theorem SceneInvariant.fewer {scene : Scene} (inv : SceneInvariant scene)
    {front back : List Dequeuer} {dequeuer : Dequeuer}
    (waits : scene.dequeuers = front ++ dequeuer :: back) :
    SceneInvariant { scene with dequeuers := front ++ back } where
  exclusive := inv.exclusive
  dequeuers := fun other member => inv.dequeuers other (remaining_waits waits member)
  shared := fun _ => inv.shared (by simp [waits])

/-- A call that returns at once leaves nothing held. -/
theorem call_guards_returned (call : Call) : callGuards false call = [] := by
  cases call with
  | serviceClose handle => rfl
  | _ => rfl

theorem SceneInvariant.exclusive_poll {scene : Scene} (inv : SceneInvariant scene)
    (alone : scene.sys.pending = .idle ∧ scene.dequeuers = []) (found waits : Bool)
    (call : Call) :
    runGuards scene.guards [] (scene.sys.exclusivePoll found waits call) =
      some (callGuards waits call) := by
  rw [inv.unguarded alone.2 alone.1]
  exact exclusive_runs scene.sys found waits call

theorem SceneInvariant.queue_message_poll {scene : Scene} (inv : SceneInvariant scene)
    (none : scene.dequeuers = []) (idle : scene.sys.pending = .idle) (handle : ServiceHandle)
    (admitted : Bool) :
    runGuards scene.guards [] (scene.sys.queueMessagePoll handle admitted) = some [] := by
  rw [inv.unguarded none idle]
  exact queue_message_runs scene.sys handle admitted

/-- A call that borrows the instance mutably leaves held what its wait holds. -/
theorem SceneInvariant.called {scene : Scene} (inv : SceneInvariant scene)
    (alone : scene.sys.pending = .idle ∧ scene.dequeuers = []) {found waits : Bool} {call : Call}
    {held : ClientGuards}
    (runs : runGuards scene.guards [] (scene.sys.exclusivePoll found waits call) = some held)
    {next : System} (left : callGuards waits call = pendingGuards next.pending) :
    SceneInvariant { scene with sys := next, exclusive := held } := by
  rw [inv.exclusive_poll alone, Option.some.injEq] at runs
  exact
    { exclusive := runs.symm.trans left
      dequeuers := inv.dequeuers
      shared := fun waiting => absurd alone.2 waiting }

theorem scene_step_maintains {before after : Scene} {label : SceneLabel}
    (step : SceneStep before label after) (inv : SceneInvariant before) :
    SceneInvariant after := by
  cases step with
  | handled kind step runs =>
      cases step with
      | received handled => exact inv.moved rfl
  | completed step runs =>
      cases step with
      | completed spawned taken known => exact inv.moved rfl
  | idled step runs =>
      cases step with
      | idled spawned waiting => exact inv.moved rfl
  | called exclusive alone step runs =>
      cases step with
      | called _ polled => exact inv.called alone runs (called_guards alone.1 exclusive polled)
  | failed exclusive alone step runs =>
      cases step with
      | failed _ polled =>
          apply inv.called alone runs
          rw [failed_pending polled, alone.1, call_guards_returned]
          rfl
  | resumed step runs =>
      cases step with
      | resumed polled =>
          obtain ⟨busy, idle⟩ := resume_pending polled
          -- a pending call has the instance for itself
          have none : before.dequeuers = [] := by
            by_contra waiting
            exact busy (inv.shared waiting)
          rw [none, inv.exclusive, List.flatMap_nil, resume_runs, Option.some.injEq] at runs
          exact
            { exclusive := by rw [← runs, idle]; rfl
              dequeuers := inv.dequeuers
              shared := fun _ => idle }
  | dropped =>
      exact
        { exclusive := rfl
          dequeuers := inv.dequeuers
          shared := fun _ => rfl }
  | queued shared step runs =>
      cases step with
      | called _ polled => exact inv.moved (queue_message_pending polled)
  | refused shared step runs =>
      cases step with
      | failed _ polled => exact inv.moved (failed_pending polled)
  | missed shared unknown runs => exact inv
  | took shared known message step runs =>
      cases step with
      | dequeued polled => exact inv.moved rfl
  | suspended shared known empty step runs =>
      cases step with
      | dequeued polled =>
          have none := inv.dequeue_alone runs
          rw [inv.unguarded none shared, dequeue_runs, known] at runs
          simp only [empty, if_true, Option.some.injEq] at runs
          exact
            { exclusive := inv.exclusive
              dequeuers := by simp [none, ← runs]
              shared := fun _ => shared }
  | @repolled front back dequeuer service next held waits stored step runs =>
      cases step with
      | dequeued polled =>
          have member : dequeuer ∈ before.dequeuers := by simp [waits]
          have own := inv.dequeuers dequeuer member
          rw [own, dequeue_look_runs (inv.others waits), Option.some.injEq] at runs
          split_ifs with empty
          · rw [if_pos empty] at runs
            have same : { dequeuer with held := held } = dequeuer := by rw [← runs, ← own]
            rw [same, ← waits]
            exact inv.moved rfl
          · exact (inv.fewer waits).moved rfl
  | abandoned waits => exact inv.fewer waits

/-- What the suspended calls hold in every reachable state. -/
theorem scene_run_invariant {state : State} {labels : List SceneLabel} {reached : Scene}
    (run : Run SceneStep (Scene.new state) labels reached) : SceneInvariant reached := by
  induction run with
  | refl => exact .initial state
  | snoc _ step ih => exact scene_step_maintains step ih

theorem SceneInvariant.all_shared {scene : Scene} (inv : SceneInvariant scene)
    (none : scene.dequeuers = []) : ∀ guard ∈ scene.guards, guard.2 = .shared := by
  rw [inv.guards none]
  intro guard member
  rw [pending_guards_services _ guard member]

/-- A pending call alone keeps no poll from its end. -/
theorem SceneInvariant.nothing_spins {scene : Scene} (inv : SceneInvariant scene)
    (none : scene.dequeuers = []) : NothingSpins scene := by
  have only := inv.services_only
  have shared := inv.all_shared none
  exact
    { slotHandler := by
        intro paths spins
        rw [Spins, slot_handler_runs only] at spins
        simp at spins
      completionHandler := by
        intro spins
        rw [Spins, completion_handler_runs only shared] at spins
        simp at spins
      queueMessage := by
        intro idle handle admitted spins
        rw [Spins, inv.queue_message_poll none idle] at spins
        simp at spins
      dequeueMessage := by
        intro idle handle spins
        rw [Spins, inv.unguarded none idle, dequeue_runs] at spins
        simp at spins
      repolled := by
        intro front dequeuer back waits
        simp [none] at waits
      resumed := by
        intro succeeds spins
        rw [Spins, none, inv.exclusive, List.flatMap_nil, resume_runs] at spins
        simp at spins }

/-- A suspended `dequeue_message` is what makes a poll spin, and it always does. -/
theorem SceneInvariant.nothing_spins_iff {scene : Scene} (inv : SceneInvariant scene) :
    NothingSpins scene ↔ scene.dequeuers = [] := by
  constructor
  · intro clear
    by_contra waiting
    exact clear.queueMessage (inv.shared waiting) 0 true
      (inv.queue_message_spins waiting 0 true)
  · exact inv.nothing_spins

/-- Which steps leave no `dequeue_message` suspended. -/
theorem scene_step_prompt {before after : Scene} {label : SceneLabel}
    (step : SceneStep before label after) (none : before.dequeuers = []) :
    after.dequeuers = [] ↔ Prompt before label := by
  cases step with
  | handled | completed | idled | called | failed | resumed | dropped | queued | refused =>
      simp [Prompt, none]
  | missed shared unknown runs => simp [Prompt, none, unknown]
  | took shared known message step runs =>
      simp only [Prompt, none, known, true_iff]
      intro reference service found
      simp only [Option.some.injEq, Prod.mk.injEq] at found
      rwa [← found.2]
  | suspended shared known empty step runs =>
      simp only [Prompt, known, List.cons_ne_nil, false_iff]
      intro prompt
      exact prompt _ _ rfl empty
  | repolled waits stored step runs => simp [none] at waits
  | abandoned waits => simp [none] at waits

/-- As long as every `dequeue_message` finds a message, no suspended call keeps a poll
from its end; the first one that has to wait does. -/
theorem prompt_dequeues_leave_nothing_spinning {state : State} {labels : List SceneLabel}
    {reached : Scene} (run : Run (Guarded SceneStep Prompt) (Scene.new state) labels reached) :
    NothingSpins reached ∧ ∀ label after, SceneStep reached label after →
      (NothingSpins after ↔ Prompt reached label) := by
  have inv := scene_run_invariant run.unguarded
  have none : reached.dequeuers = [] := by
    clear inv
    induction run with
    | refl => rfl
    | snoc _ move ih => exact (scene_step_prompt move.1 ih).mpr move.2
  constructor
  · exact inv.nothing_spins none
  · intro label after step
    rw [(scene_step_maintains step inv).nothing_spins_iff]
    exact scene_step_prompt step none

/-- The scene of a run in which no `dequeue_message` is suspended. -/
def Scene.ofSystem (sys : System) : Scene where
  sys := sys
  exclusive := pendingGuards sys.pending
  dequeuers := []

/-- Moves of the system that keep to the borrows and do not dequeue. -/
def Undisturbed (sys : System) : Action → Prop
  | .dequeued _ => False
  | .called call _ | .failed call _ => call.Exclusive ∨ sys.pending = .idle
  | _ => True

instance (sys : System) (action : Action) : Decidable (Undisturbed sys action) :=
  match action with
  | .dequeued _ => inferInstanceAs (Decidable False)
  | .called call _ | .failed call _ =>
      inferInstanceAs (Decidable (call.Exclusive ∨ sys.pending = .idle))
  | .resumed | .dropped | .received _ _ | .completed _ | .idled =>
      inferInstanceAs (Decidable True)

theorem SceneInvariant.ofSystem (sys : System) : SceneInvariant (Scene.ofSystem sys) where
  exclusive := rfl
  dequeuers := by simp [Scene.ofSystem]
  shared := by simp [Scene.ofSystem]

theorem dispatched_kind {inst next : Instance} {message : SlotMessage}
    (handled : dispatch inst message = .ok next) :
    ∃ msgType, msgTypeFromId message.header.msgid = some msgType := by
  unfold dispatch at handled
  split at handled
  · simp at handled
  · exact ⟨_, by assumption⟩

theorem Scene.ofSystem_moved {sys next : System} (kept : next.pending = sys.pending) :
    Scene.ofSystem next = { Scene.ofSystem sys with sys := next } := by
  rw [Scene.ofSystem, kept]
  rfl

/-- The guards stop none of these moves. -/
theorem undisturbed_step_runs {sys next : System} {action : Action}
    (step : SystemStep sys action next) (undisturbed : Undisturbed sys action) :
    ∃ label, Guarded SceneStep Prompt (Scene.ofSystem sys) label (Scene.ofSystem next) := by
  have inv := SceneInvariant.ofSystem sys
  have only := inv.services_only
  have shared := inv.all_shared rfl
  cases step with
  | @called _ call sent exclusive polled =>
      by_cases borrows : call.Exclusive
      · have idle := exclusive borrows
        have runs := inv.exclusive_poll ⟨idle, rfl⟩ true (decide (next.pending ≠ .idle)) call
        rw [called_guards idle borrows polled] at runs
        exact ⟨.called call, .called borrows ⟨idle, rfl⟩ (.called exclusive polled) runs, trivial⟩
      · have idle := undisturbed.resolve_left borrows
        cases call with
        | queueMessage handle data =>
            rw [Scene.ofSystem_moved (queue_message_pending polled)]
            have runs := inv.queue_message_poll rfl idle handle true
            exact ⟨.queued handle, .queued idle (.called exclusive polled) runs, trivial⟩
        | _ => exact absurd trivial borrows
  | @failed _ call error exclusive polled =>
      by_cases borrows : call.Exclusive
      · have idle := exclusive borrows
        have runs := inv.exclusive_poll ⟨idle, rfl⟩ true false call
        have returned : callGuards false call = pendingGuards next.pending := by
          rw [call_guards_returned, failed_pending polled, idle]
          rfl
        rw [returned] at runs
        exact ⟨.called call, .failed borrows ⟨idle, rfl⟩ (.failed exclusive polled) runs, trivial⟩
      · have idle := undisturbed.resolve_left borrows
        cases call with
        | queueMessage handle data =>
            rw [Scene.ofSystem_moved (failed_pending polled)]
            have runs := inv.queue_message_poll rfl idle handle true
            exact ⟨.queued handle, .refused idle (.failed exclusive polled) runs, trivial⟩
        | _ => exact absurd trivial borrows
  | resumed polled =>
      have idle := (resume_pending polled).2
      have ended :
          Scene.ofSystem next = { Scene.ofSystem sys with sys := next, exclusive := [] } := by
        rw [Scene.ofSystem, idle]
        rfl
      rw [ended]
      exact ⟨.resumed, .resumed (.resumed polled) (resume_runs true sys.pending), trivial⟩
  | dropped => exact ⟨.dropped, .dropped, trivial⟩
  | @received inst message handled =>
      obtain ⟨msgType, kind⟩ := dispatched_kind handled
      let path : MessagePath :=
        { msgType := msgType, accepted := true, reference := receiverRef message, full := true
          extra := true, skipped := false }
      have runs := slot_handler_runs only [path]
      exact ⟨.handled message, .handled kind (.received handled) runs, trivial⟩
  | dequeued polled => exact undisturbed.elim
  | completed spawned taken known =>
      have runs := completion_handler_runs only shared sys.awaitCompletion
      exact ⟨.completed _, .completed (.completed spawned taken known) runs, trivial⟩
  | idled spawned waiting =>
      have runs := completion_handler_runs only shared sys.awaitCompletion
      exact ⟨.idled, .idled (.idled spawned waiting) runs, trivial⟩

theorem undisturbed_run {state : State} {actions : List Action} {reached : System}
    (run : Run (Guarded SystemStep Undisturbed) (System.new (freshInstance state)) actions
      reached) :
    ∃ labels, Run (Guarded SceneStep Prompt) (Scene.new state) labels
      (Scene.ofSystem reached) := by
  induction run with
  | refl => exact ⟨[], .refl⟩
  | snoc _ move ih =>
      obtain ⟨labels, run⟩ := ih
      obtain ⟨label, step⟩ := undisturbed_step_runs move.1 move.2
      exact ⟨labels ++ [label], run.snoc step⟩

/-- A close call that waits for its answer while a completion of its service is due. -/
def closingMoves : List Move :=
  openingMoves ++ [.resume, .receive (remoteMessage .data 75 0), .call (.serviceClose 0)]

set_option maxRecDepth 20000 in
theorem closing_performed :
    ∃ fresh actions reached records completion,
      freshState blankSlotZero (fun _ => 0) (65 * vchiqSlotSize) = .ok fresh ∧
      (System.new (freshInstance fresh)).performAll Undisturbed closingMoves =
        some (actions, reached) ∧
      pendingGuards reached.pending = [(.services, .shared)] ∧
      reached.awaitCompletion = .ready records completion ∧ records.length = 1 :=
  ⟨_, _, _, _, _, rfl, rfl, rfl, rfl, rfl⟩

/-- It keeps no other task from its work. -/
theorem suspended_close_leaves_nothing_spinning :
    ∃ (reached : Scene) (records : List ServiceCompletion) (completion : Completion),
      reached.exclusive = [(.services, .shared)] ∧
        reached.sys.awaitCompletion = .ready records completion ∧ records.length = 1 ∧
        NothingSpins reached := by
  obtain ⟨fresh, actions, reached, records, completion, made, performed, closing, due, single⟩ :=
    closing_performed
  obtain ⟨labels, run⟩ := undisturbed_run (perform_all_run .refl performed)
  obtain ⟨clear, _⟩ := prompt_dequeues_leave_nothing_spinning run
  exact ⟨_, records, completion, closing, due, single, clear⟩

/-- Two services are opened. -/
def twoServicesMoves : List Move :=
  openingMoves ++
    [.resume, .call (.serviceOpen sampleSetup), .receive (remoteMessage .openAck 76 1), .resume]

set_option maxRecDepth 20000 in
theorem two_services_performed :
    ∃ fresh actions opened reference service later waiting notified record completion,
      freshState blankSlotZero (fun _ => 0) (65 * vchiqSlotSize) = .ok fresh ∧
      (System.new (freshInstance fresh)).performAll Undisturbed twoServicesMoves =
        some (actions, opened) ∧
      opened.pending = .idle ∧
      (opened.services 0).bind opened.inst.state.serviceOf = some (reference, service) ∧
      service.base.userdata.msgRemove = service.base.userdata.msgInsert ∧
      opened.inst.pollDequeue reference = .ok waiting ∧
      dispatch waiting (remoteMessage .data 76 1) = .ok notified ∧
      (opened.services 0).bind notified.state.serviceOf = some (reference, later) ∧
      { opened with inst := notified }.awaitCompletion = .ready [record] completion ∧
      record.serviceUserdata = some 1 :=
  ⟨_, _, _, _, _, _, _, _, _, _, rfl, rfl, rfl, rfl, rfl, rfl, rfl, rfl, rfl, rfl⟩

/-- A client waits in `dequeue_message` on the first service when DATA of the second one
arrives. The completion handler spins on the map of services. -/
theorem waiting_dequeue_blocks_completions :
    ∃ fresh labels reached reference service record completion,
      freshState blankSlotZero (fun _ => 0) (65 * vchiqSlotSize) = .ok fresh ∧
      Run SceneStep (Scene.new fresh) labels reached ∧
      (reached.sys.services 0).bind reached.sys.inst.state.serviceOf =
        some (reference, service) ∧
      reached.dequeuers = [⟨reference, [(.services, .exclusive)]⟩] ∧
      reached.sys.awaitCompletion = .ready [record] completion ∧
      record.serviceUserdata = some 1 ∧
      Spins reached.guards [] (completionHandlerPoll reached.sys.awaitCompletion) ∧
      ¬NothingSpins reached := by
  obtain ⟨fresh, actions, opened, reference, service, later, waiting, notified, record, completion,
    made, performed, idle, known, empty, polled, handled, still, due, other⟩ :=
    two_services_performed
  obtain ⟨labels, prompt⟩ := undisturbed_run (perform_all_run .refl performed)
  have inv := SceneInvariant.ofSystem opened
  have looked : runGuards (Scene.ofSystem opened).guards [] (opened.dequeuePoll 0) =
      some [(.services, .exclusive)] := by
    rw [inv.unguarded rfl idle, dequeue_runs, known]
    simp only [empty, if_true]
  have suspended := prompt.unguarded.snoc (.suspended idle known empty (.dequeued polled) looked)
  have only := (scene_run_invariant suspended).services_only
  let path : MessagePath :=
    { msgType := .data, accepted := true, reference := receiverRef (remoteMessage .data 76 1)
      full := false, extra := false, skipped := false }
  have kind : msgTypeFromId (remoteMessage .data 76 1).header.msgid = some path.msgType := rfl
  have run := suspended.snoc (.handled kind (.received handled) (slot_handler_runs only [path]))
  have blocked := scene_run_invariant run
  have waits := List.cons_ne_nil (⟨reference, [(.services, .exclusive)]⟩ : Dequeuer) []
  have spins := blocked.completion_handler_spins waits due other
  exact ⟨fresh, _, _, reference, later, record, completion, made, run, still, rfl, due, other, spins,
    fun clear => clear.completionHandler spins⟩

end RuspiroVchiq.Vchi
