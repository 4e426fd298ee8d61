import RuspiroVchiq.Vchiq.CallEffects
import RuspiroVchiq.Lib.LabelledRun

/-!
# The service registry

The service table over every sequence of `add_service`, `open_service` and
`close_service` calls and incoming messages. A call is cut at its waits, and the
state it leaves counts however it ends, with an error or a panic included. The
handle counter does not wrap.

Nothing ever empties an entry of the table again. The search for an empty entry
in `add_service` therefore never finds one, and the table is used up after
`VCHIQ_MAX_SERVICES` additions.
-/

namespace RuspiroVchiq.Vchiq

open RuspiroVchiq.Config
open RuspiroVchiq.Shared
open RuspiroVchiq.Lib.LabelledRun

set_option autoImplicit false

/-- A poll that keeps the services it finds. A service that is open afterwards was
open before or has just been connected to a port of the VideoCore. -/
structure Maintains (before after : Instance) : Prop where
  effect : Effect before after after.state.endpoints
  evolves : Evolves before.state.endpoints after.state.endpoints
  opened : ∀ reference endpoint, after.state.endpoints reference = some endpoint →
    endpoint.srvstate = .open → endpoint.remoteport.toNat < vchiqMaxServices ∨
      ∃ old, before.state.endpoints reference = some old ∧ old.srvstate = .open ∧
        old.remoteport = endpoint.remoteport

/-- A poll that changes no endpoint. -/
theorem Effect.maintains {before after : Instance}
    (effect : Effect before after before.state.endpoints) : Maintains before after := by
  have same := effect.endpoints
  constructor
  · rw [same]
    exact effect
  · rw [same]
    exact Evolves.refl _
  · intro reference endpoint present isOpen
    rw [same] at present
    exact .inr ⟨endpoint, present, isOpen, rfl⟩

/-- A poll that changes one endpoint. -/
theorem Effect.maintains_update {before after : Instance} {reference : ServiceRef}
    {endpoint changed : Endpoint}
    (effect : Effect before after
      (Function.update before.state.endpoints reference (some changed)))
    (present : before.state.endpoints reference = some endpoint)
    (successor : Successor endpoint changed)
    (connected : changed.srvstate = .open → changed.remoteport.toNat < vchiqMaxServices ∨
      endpoint.srvstate = .open ∧ endpoint.remoteport = changed.remoteport) :
    Maintains before after := by
  have same := effect.endpoints
  constructor
  · rw [same]
    exact effect
  · rw [same]
    exact evolves_update present successor
  · intro other found stored isOpen
    rw [same] at stored
    by_cases here : other = reference
    · subst here
      rw [Function.update_self, Option.some.injEq] at stored
      subst stored
      rcases connected isOpen with small | ⟨wasOpen, remote⟩
      · exact .inl small
      · exact .inr ⟨endpoint, present, wasOpen, remote⟩
    · rw [Function.update_of_ne here] at stored
      exact .inr ⟨found, stored, isOpen, rfl⟩

theorem Maintains.trans {first second third : Instance} (early : Maintains first second)
    (late : Maintains second third) : Maintains first third := by
  constructor
  · exact ⟨late.effect.connected.trans early.effect.connected,
      late.effect.quotas.trans early.effect.quotas,
      late.effect.length.trans early.effect.length,
      late.effect.unused.trans early.effect.unused,
      fun ordered => late.effect.ordered (early.effect.ordered ordered), rfl⟩
  · exact early.evolves.trans late.evolves
  · intro reference endpoint present isOpen
    rcases late.opened reference endpoint present isOpen with small | ⟨middle, found, open', remote⟩
    · exact .inl small
    · rw [← remote]
      exact early.opened reference middle found open'

/-- A change of a service that leaves its ports, its handle and its owner alone and
opens nothing. -/
def QuietChange (change : Service → Service) : Prop :=
  ∀ service, (change service).endpoint.identity = service.endpoint.identity ∧
    (change service).remoteport = service.remoteport ∧
    ((change service).srvstate = .open → service.srvstate = .open)

theorem QuietChange.maintains {change : Service → Service} (quiet : QuietChange change)
    (inst : Instance) (reference : ServiceRef) :
    Maintains inst (inst.updateService reference change) := by
  have effect := (Effect.refl inst).update reference change
  cases stored : inst.state.srvState.service reference with
  | none =>
      have absent : (inst.state.updateService reference change).endpoints =
          inst.state.endpoints := by
        funext other
        simp only [State.endpoints, State.updateService, service_update]
        split_ifs with same
        · subst same
          rw [stored]
          rfl
        · rfl
      rw [absent] at effect
      exact effect.maintains
  | some service =>
      rw [endpoints_update change stored] at effect
      obtain ⟨identity, remote, opens⟩ := quiet service
      apply effect.maintains_update (endpoints_some stored) ⟨identity, .inl remote⟩
      intro isOpen
      exact .inr ⟨opens isOpen, remote.symm⟩

theorem mark_closing_quiet : QuietChange Service.markClosing :=
  fun _ => ⟨rfl, rfl, id⟩

theorem set_close_sent_quiet : QuietChange fun service => service.setState .closeSent :=
  fun _ => ⟨rfl, rfl, fun isOpen => nomatch isOpen⟩

theorem free_quiet : QuietChange Service.free := by
  intro service
  unfold Service.free
  cases srvstate : service.srvstate <;> simp [Service.endpoint, Endpoint.identity, srvstate]

/-- Every call of `queue_message` keeps the services, however it ends. -/
theorem send_maintains (inst : Instance) (sender : Option ServiceRef) (call : QueueCall) :
    Maintains inst (inst.send sender call).2 := by
  cases polled : inst.send sender call with
  | mk result next =>
      cases result with
      | ok sent =>
          obtain ⟨_, msgType, queued⟩ := send_queued polled
          by_cases plain : call.service = none ∨ msgType ≠ .close
          · exact (queued.effect plain).maintains
          · obtain ⟨notNone, isClose⟩ := not_or.mp plain
            rw [not_not] at isClose
            subst isClose
            obtain ⟨reference, isSome⟩ := Option.ne_none_iff_exists'.mp notNone
            have effect := queued.close_effect isSome
            have marked := set_close_sent_quiet.maintains inst reference
            have same : next.state.endpoints =
                (inst.updateService reference fun service =>
                  service.setState .closeSent).state.endpoints := effect.endpoints
            constructor
            · rw [same]
              exact effect
            · rw [same]
              exact marked.evolves
            · rw [same]
              exact marked.opened
      | error stop =>
          obtain ⟨_, quotas, length, rfl⟩ := send_failed polled
          apply Effect.maintains
          exact ⟨rfl, length, rfl, rfl, id, rfl⟩

theorem begin_open_maintains (inst : Instance) (srvHandle : ServiceHandle) :
    Maintains inst (inst.beginOpen srvHandle).2 := by
  unfold Instance.beginOpen
  cases inst.state.serviceOf srvHandle with
  | none => exact (Effect.refl inst).maintains
  | some target => exact send_maintains inst _ _

theorem send_close_maintains (inst : Instance) (reference : ServiceRef) (service : Service) :
    Maintains inst (inst.sendClose reference service).2 := by
  have queued := send_maintains inst (some reference) (closeCall reference service)
  unfold Instance.sendClose
  cases polled : inst.send (some reference) (closeCall reference service) with
  | mk result next =>
      rw [polled] at queued
      cases result with
      | error stop =>
          cases stop <;> exact queued
      | ok sent =>
          exact queued.trans (set_close_sent_quiet.maintains next reference)

theorem begin_close_maintains (inst : Instance) (srvHandle : ServiceHandle) :
    Maintains inst (inst.beginClose srvHandle).2 := by
  unfold Instance.beginClose
  cases inst.state.serviceOf srvHandle with
  | none => exact (Effect.refl inst).maintains
  | some target =>
      obtain ⟨reference, service⟩ := target
      have marked := mark_closing_quiet.maintains inst reference
      simp only
      cases service.srvstate with
      | free | listening | hidden => exact (Effect.refl inst).maintains
      | closed | closeWait => exact marked.trans (free_quiet.maintains _ reference)
      | opening => exact marked.trans (send_maintains _ _ _)
      | openSync | «open» => exact marked.trans (send_close_maintains _ reference service)
      | closeSent | closeRecvd => exact marked

theorem await_maintains {inst next : Instance} {srvHandle : ServiceHandle}
    {judge : ServiceHandle → ServiceState → Except VchiqError Unit}
    {result : Except VchiqError Unit}
    (polled : inst.awaitService srvHandle judge = some (result, next)) :
    Maintains inst next :=
  (await_service_some polled).1.maintains

theorem received_maintains {inst next : Instance} {message : SlotMessage}
    (received : Received inst next message) : Maintains inst next := by
  cases received with
  | connect _ effect _ _ => exact effect.maintains
  | passed _ _ effect _ _ => exact effect.maintains
  | @acknowledged endpoint _ present _ effect _ _ =>
      have small := src_port_lt message.header.msgid
      apply effect.maintains_update present
      · unfold Endpoint.acknowledge
        split_ifs
        · exact ⟨rfl, .inr (Nat.le_of_lt small)⟩
        · exact ⟨rfl, .inl rfl⟩
      · unfold Endpoint.acknowledge
        split_ifs
        · exact fun _ => .inl small
        · exact fun isOpen => .inr ⟨isOpen, rfl⟩
  | @closed endpoint _ present _ effect _ _ =>
      apply effect.maintains_update present
      · unfold Endpoint.closeReceived
        cases endpoint.srvstate with
        | closeSent => exact ⟨rfl, .inr (Nat.le_refl vchiqMaxServices)⟩
        | _ => exact ⟨rfl, .inl rfl⟩
      · unfold Endpoint.closeReceived
        cases srvstate : endpoint.srvstate <;> simp

/-- The instance with the counter `Service::new` draws its handles from. -/
structure Registry where
  inst : Instance
  nextHandle : ServiceHandle

def Registry.new (state : State) : Registry where
  inst := freshInstance state
  nextHandle := vchiqMaxServices

inductive RegistryLabel where
  | added (handle : ServiceHandle) (port : ServiceRef)
  | refused (handle : ServiceHandle)
  | opened (handle : ServiceHandle)
  | closed (handle : ServiceHandle)
  | awaited (handle : ServiceHandle)
  | received (message : SlotMessage)

/-- One step of the registry. A handle is drawn even where no service is added. A
message the slot handler panics on leaves nothing behind. -/
inductive RegistryStep : Registry → RegistryLabel → Registry → Prop where
  | added {registry : Registry} {params : ServiceParams} {state : State} {port : ServiceRef}
      (chosen : registry.inst.state.srvState.freeIndex = some port)
      (addition : registry.inst.state.addService params registry.nextHandle = .ok state) :
      RegistryStep registry (.added registry.nextHandle port)
        { inst := { registry.inst with state := state }
          nextHandle := registry.nextHandle + 1 }
  | refused {registry : Registry} {params : ServiceParams} {stop : Stop}
      (addition : registry.inst.state.addService params registry.nextHandle = .error stop) :
      RegistryStep registry (.refused registry.nextHandle)
        { registry with nextHandle := registry.nextHandle + 1 }
  | opened {registry : Registry} (handle : ServiceHandle) :
      RegistryStep registry (.opened handle)
        { registry with inst := (registry.inst.beginOpen handle).2 }
  | closed {registry : Registry} (handle : ServiceHandle) :
      RegistryStep registry (.closed handle)
        { registry with inst := (registry.inst.beginClose handle).2 }
  | awaited {registry : Registry} {handle : ServiceHandle} {next : Instance}
      {judge : ServiceHandle → ServiceState → Except VchiqError Unit}
      {result : Except VchiqError Unit}
      (polled : registry.inst.awaitService handle judge = some (result, next)) :
      RegistryStep registry (.awaited handle) { registry with inst := next }
  | received {registry : Registry} {message : SlotMessage} {next : Instance}
      (handled : dispatch registry.inst message = .ok next) :
      RegistryStep registry (.received message) { registry with inst := next }

/-- How many services were added. -/
def additions (labels : List RegistryLabel) : Nat :=
  labels.countP fun label =>
    match label with
    | .added _ _ => true
    | _ => false

/-- Handles name one entry each. -/
def DistinctHandles (endpoints : ServiceRef → Option Endpoint) : Prop :=
  ∀ first second one other, endpoints first = some one → endpoints second = some other →
    one.handle = other.handle → first = second

structure TableInvariant (labels : List RegistryLabel) (registry : Registry) : Prop where
  registered : Registered registry.inst registry.nextHandle
  filled : ∀ reference, reference < registry.inst.state.srvState.unusedService →
    ∃ endpoint, registry.inst.state.endpoints reference = some endpoint
  distinct : DistinctHandles registry.inst.state.endpoints
  connected : ∀ reference endpoint, registry.inst.state.endpoints reference = some endpoint →
    endpoint.srvstate = .open → endpoint.remoteport.toNat < vchiqMaxServices
  created : ∀ handle port, .added handle port ∈ labels →
    ∃ endpoint, registry.inst.state.endpoints port = some endpoint ∧ endpoint.handle = handle
  counted : registry.inst.state.srvState.unusedService = additions labels

theorem fresh_table {state : State} (facts : FreshState state) :
    TableInvariant [] (Registry.new state) := by
  have absent : ∀ reference endpoint,
      (freshInstance state).state.endpoints reference ≠ some endpoint := by
    intro reference endpoint present
    rw [freshInstance, fresh_endpoints facts] at present
    simp at present
  constructor
  · exact fresh_registered facts vchiqMaxServices
  · intro reference used
    simp only [Registry.new, freshInstance, facts.unused] at used
    exact absurd used (Nat.not_lt_zero reference)
  · intro first _ one _ present
    exact absurd present (absent first one)
  · intro reference endpoint present
    exact absurd present (absent reference endpoint)
  · intro handle port member
    simp at member
  · exact facts.unused

def RegistryLabel.Plain (label : RegistryLabel) : Prop :=
  ∀ handle port, label ≠ .added handle port

theorem additions_plain (labels : List RegistryLabel) {label : RegistryLabel}
    (plain : label.Plain) : additions (labels ++ [label]) = additions labels := by
  cases label with
  | added handle port => exact absurd rfl (plain handle port)
  | _ => simp [additions]

theorem additions_added (labels : List RegistryLabel) (handle : ServiceHandle)
    (port : ServiceRef) :
    additions (labels ++ [.added handle port]) = additions labels + 1 := by
  simp [additions]

/-- Every step but an addition. -/
theorem TableInvariant.maintained {labels : List RegistryLabel} {label : RegistryLabel}
    {registry : Registry} {next : Instance} {nextHandle : ServiceHandle}
    (inv : TableInvariant labels registry) (maintains : Maintains registry.inst next)
    (plain : label.Plain) (drawn : registry.nextHandle ≤ nextHandle) :
    TableInvariant (labels ++ [label]) { inst := next, nextHandle := nextHandle } := by
  have evolves := maintains.evolves
  have handle : ∀ {old new : Endpoint}, Successor old new → new.handle = old.handle := by
    intro old new successor
    exact congrArg (fun parts => parts.2.1) successor.1
  constructor
  · have registered := inv.registered.effect maintains.effect evolves
    exact
      { registered with
        handles := fun reference endpoint present =>
          Nat.lt_of_lt_of_le (registered.handles reference endpoint present) drawn }
  · intro reference used
    simp only [maintains.effect.unused] at used
    obtain ⟨endpoint, present⟩ := inv.filled reference used
    obtain ⟨new, stored, _⟩ := evolves.later present
    exact ⟨new, stored⟩
  · intro first second one other oneStored otherStored same
    obtain ⟨oldOne, oneFound, oneKept⟩ := evolves.earlier oneStored
    obtain ⟨oldOther, otherFound, otherKept⟩ := evolves.earlier otherStored
    apply inv.distinct first second oldOne oldOther oneFound otherFound
    rw [← handle oneKept, ← handle otherKept]
    exact same
  · intro reference endpoint present isOpen
    rcases maintains.opened reference endpoint present isOpen with small | ⟨old, found, wasOpen, remote⟩
    · exact small
    · rw [← remote]
      exact inv.connected reference old found wasOpen
  · intro created port member
    rw [List.mem_append, List.mem_singleton] at member
    rcases member with earlier | last
    · obtain ⟨endpoint, present, same⟩ := inv.created created port earlier
      obtain ⟨new, stored, kept⟩ := evolves.later present
      exact ⟨new, stored, (handle kept).trans same⟩
    · exact absurd last.symm (plain created port)
  · rw [additions_plain labels plain, ← inv.counted]
    exact maintains.effect.unused

/-- The search for an empty entry in the used part of the table finds none. -/
theorem TableInvariant.free_index {labels : List RegistryLabel} {registry : Registry}
    (inv : TableInvariant labels registry) :
    registry.inst.state.srvState.freeIndex =
      if registry.inst.state.srvState.unusedService < vchiqMaxServices then
        some registry.inst.state.srvState.unusedService
      else none := by
  have noHole : (registry.inst.state.srvState.services.take
      registry.inst.state.srvState.unusedService).findIdx? Option.isNone = none := by
    rw [List.findIdx?_eq_none_iff]
    intro entry member
    obtain ⟨reference, bound, stored⟩ := List.mem_iff_getElem.mp member
    have used : reference < registry.inst.state.srvState.unusedService :=
      Nat.lt_of_lt_of_le bound (List.length_take_le _ _)
    obtain ⟨endpoint, present⟩ := inv.filled reference used
    obtain ⟨service, found, _⟩ := endpoints_of_some present
    have within : reference < registry.inst.state.srvState.services.length :=
      Nat.lt_of_lt_of_le bound (List.length_take_le' _ _)
    rw [List.getElem_take] at stored
    rw [SrvState.service, List.getElem?_eq_getElem within, Option.join_some, stored] at found
    rw [found]
    rfl
  rw [SrvState.freeIndex, noHole]

theorem TableInvariant.added {labels : List RegistryLabel} {registry : Registry}
    {params : ServiceParams} {state : State} {port : ServiceRef}
    (inv : TableInvariant labels registry)
    (chosen : registry.inst.state.srvState.freeIndex = some port)
    (addition : registry.inst.state.addService params registry.nextHandle = .ok state) :
    TableInvariant (labels ++ [.added registry.nextHandle port])
      { inst := { registry.inst with state := state }
        nextHandle := registry.nextHandle + 1 } := by
  obtain ⟨index, found, added⟩ := add_service_ok inv.registered addition
  rw [chosen, Option.some.injEq] at found
  subst found
  have atEnd : port = registry.inst.state.srvState.unusedService := by
    rw [inv.free_index] at chosen
    split_ifs at chosen
    exact (Option.some.inj chosen).symm
  -- the entries are the new one and the old ones
  have here : state.endpoints port =
      some (freshEndpoint port registry.nextHandle params.userdata.userdata) := by
    rw [added.endpoints, Function.update_self]
  have entries : ∀ other endpoint, state.endpoints other = some endpoint →
      (other = port ∧
          endpoint = freshEndpoint port registry.nextHandle params.userdata.userdata) ∨
        (other ≠ port ∧ registry.inst.state.endpoints other = some endpoint) := by
    intro other endpoint present
    rw [added.endpoints] at present
    exact entry_cases present
  have older : ∀ other endpoint, registry.inst.state.endpoints other = some endpoint →
      endpoint.handle ≠ registry.nextHandle := by
    intro other endpoint present
    exact Nat.ne_of_lt (inv.registered.handles other endpoint present)
  have kept : ∀ other endpoint, registry.inst.state.endpoints other = some endpoint →
      state.endpoints other = some endpoint := by
    intro other endpoint present
    rw [added.endpoints, Function.update_of_ne, present]
    rintro rfl
    rw [added.vacant] at present
    simp at present
  constructor
  · exact added.registered inv.registered
  · intro reference used
    by_cases last : reference = port
    · rw [last]
      exact ⟨_, here⟩
    · simp only [added.unused, ← atEnd] at used
      have below := Nat.lt_of_le_of_ne (Nat.le_of_lt_succ used) last
      obtain ⟨endpoint, present⟩ := inv.filled reference (atEnd ▸ below)
      exact ⟨endpoint, kept reference endpoint present⟩
  · intro first second one other oneStored otherStored same
    rcases entries first one oneStored with ⟨rfl, rfl⟩ | ⟨_, oneOld⟩ <;>
      rcases entries second other otherStored with ⟨rfl, rfl⟩ | ⟨_, otherOld⟩
    · rfl
    · exact absurd same.symm (older second other otherOld)
    · exact absurd same (older first one oneOld)
    · exact inv.distinct first second one other oneOld otherOld same
  · intro reference endpoint present isOpen
    rcases entries reference endpoint present with ⟨_, rfl⟩ | ⟨_, old⟩
    · exact absurd isOpen (by simp [freshEndpoint])
    · exact inv.connected reference endpoint old isOpen
  · intro handle created member
    rw [List.mem_append, List.mem_singleton] at member
    rcases member with earlier | last
    · obtain ⟨endpoint, present, same⟩ := inv.created handle created earlier
      exact ⟨endpoint, kept created endpoint present, same⟩
    · cases last
      exact ⟨_, here, rfl⟩
  · rw [additions_added, ← inv.counted]
    exact added.unused

theorem table_step {labels : List RegistryLabel} {before after : Registry}
    {label : RegistryLabel} (inv : TableInvariant labels before)
    (step : RegistryStep before label after) : TableInvariant (labels ++ [label]) after := by
  cases step with
  | added chosen addition => exact inv.added chosen addition
  | refused _ =>
      exact inv.maintained (Effect.refl _).maintains (fun _ _ => by simp) (Nat.le_succ _)
  | opened handle =>
      exact inv.maintained (begin_open_maintains _ handle) (fun _ _ => by simp) (Nat.le_refl _)
  | closed handle =>
      exact inv.maintained (begin_close_maintains _ handle) (fun _ _ => by simp) (Nat.le_refl _)
  | awaited polled =>
      exact inv.maintained (await_maintains polled) (fun _ _ => by simp) (Nat.le_refl _)
  | received handled =>
      have received := dispatched_received inv.registered.consistent (dispatch_cases handled)
      exact inv.maintained (received_maintains received) (fun _ _ => by simp) (Nat.le_refl _)

theorem table_run {raw : SlotZero} {memory : Lib.ByteMemory.Memory} {totalMemory : Nat}
    {state : State} {labels : List RegistryLabel} {reached : Registry}
    (made : freshState raw memory totalMemory = .ok state)
    (run : Run RegistryStep (Registry.new state) labels reached) :
    TableInvariant labels reached := by
  apply run.invariant TableInvariant (fresh_table (fresh_state_facts made))
  intro labels before label after _ inv move
  exact table_step inv move

/-- The registry as its users rely on it. -/
structure RegistryInOrder (labels : List RegistryLabel) (registry : Registry) : Prop where
  length : registry.inst.state.srvState.services.length = vchiqMaxServices
  bounded : registry.inst.state.srvState.unusedService ≤ vchiqMaxServices
  used : ∀ index, (∃ service, registry.inst.state.srvState.service index = some service) ↔
    index < registry.inst.state.srvState.unusedService
  ports : ∀ index service, registry.inst.state.srvState.service index = some service →
    service.localport.toNat = index
  handles : ∀ first second one other,
    registry.inst.state.srvState.service first = some one →
    registry.inst.state.srvState.service second = some other →
      one.handle = other.handle → first = second
  /-- A handle leads to the service it was drawn for. -/
  byHandle : ∀ handle port, .added handle port ∈ labels →
    registry.inst.state.serviceFromHandle handle = some port ∧
      ∃ service, registry.inst.state.srvState.service port = some service ∧
        service.handle = handle
  byPort : ∀ port reference,
    registry.inst.state.serviceByPort port = .ok (some reference) ↔
      reference = port.toNat ∧ ∃ service, InUse registry.inst.state reference service ∧
        service.localport = port
  inRange : ∀ msgid panic,
    registry.inst.state.serviceByPort (dstPortFromId msgid) ≠ .error panic
  /-- The port field of an identifier has twelve bits. -/
  msgIds : ∀ index service, registry.inst.state.srvState.service index = some service →
    ∀ msgType dstPort, dstPort.toNat < 0x1000 →
      srcPortFromId (makeMsgId msgType service.localport dstPort) = service.localport ∧
        msgTypeFromId (makeMsgId msgType service.localport dstPort) = some msgType
  openIds : ∀ index service, registry.inst.state.srvState.service index = some service →
    srcPortFromId (openCall service).msgId = service.localport ∧
      msgTypeFromId (openCall service).msgId = some .open
  closeIds : ∀ index service, registry.inst.state.srvState.service index = some service →
    srcPortFromId (closeCall index service).msgId = service.localport ∧
      msgTypeFromId (closeCall index service).msgId = some .close
  dataIds : ∀ index service payload,
    registry.inst.state.srvState.service index = some service → service.srvstate = .open →
      srcPortFromId (dataCall index service payload).msgId = service.localport ∧
        msgTypeFromId (dataCall index service payload).msgId = some .data

/-- The search by handle ends at the entry that holds it. -/
theorem TableInvariant.found {labels : List RegistryLabel} {registry : Registry}
    (inv : TableInvariant labels registry) {port : ServiceRef} {endpoint : Endpoint}
    (present : registry.inst.state.endpoints port = some endpoint) :
    registry.inst.state.serviceFromHandle endpoint.handle = some port ∧
      ∃ service, registry.inst.state.srvState.service port = some service ∧
        service.handle = endpoint.handle := by
  obtain ⟨service, stored, rfl⟩ := endpoints_of_some present
  obtain ⟨first, target, located, found, same⟩ := service_from_handle_found stored
  have samePort := inv.distinct first port target.endpoint service.endpoint
    (endpoints_some found) present same
  rw [samePort] at located
  exact ⟨located, service, stored, rfl⟩

/-- The table is as long as the port field of an identifier reaches. -/
theorem Registered.by_port_ok {inst : Instance} {bound : ServiceHandle}
    (registered : Registered inst bound) (port : UInt32)
    (small : port.toNat < vchiqMaxServices) (panic : Panic) :
    inst.state.serviceByPort port ≠ .error panic := by
  have within : port.toNat < inst.state.srvState.services.length := by
    rw [registered.length]
    exact small
  unfold State.serviceByPort
  rw [List.getElem?_eq_getElem within]
  intro failed
  split at failed
  · simp at *
  · simp at failed
  · split_ifs at failed

theorem TableInvariant.in_order {labels : List RegistryLabel} {registry : Registry}
    (inv : TableInvariant labels registry) : RegistryInOrder labels registry := by
  have registered := inv.registered
  have portLt : ∀ index service, registry.inst.state.srvState.service index = some service →
      service.localport.toNat < vchiqMaxServices :=
    fun _ _ stored => registered.port_lt stored
  have msgIds : ∀ index service, registry.inst.state.srvState.service index = some service →
      ∀ msgType dstPort, dstPort.toNat < 0x1000 →
        srcPortFromId (makeMsgId msgType service.localport dstPort) = service.localport ∧
          msgTypeFromId (makeMsgId msgType service.localport dstPort) = some msgType := by
    intro index service stored msgType dstPort small
    exact ⟨src_port_make msgType _ dstPort (portLt index service stored) small,
      msg_type_make msgType _ dstPort (portLt index service stored) small⟩
  constructor
  · exact registered.length
  · -- the last used entry is one of the table
    cases size : registry.inst.state.srvState.unusedService with
    | zero => exact Nat.zero_le _
    | succ last =>
        obtain ⟨endpoint, present⟩ := inv.filled last (by rw [size]; exact Nat.lt_succ_self last)
        exact (registered.ports last endpoint present).2
  · intro index
    constructor
    · rintro ⟨service, stored⟩
      by_contra beyond
      have absent := registered.tail index (Nat.le_of_not_lt beyond)
      rw [endpoints_some stored] at absent
      simp at absent
    · intro below
      obtain ⟨endpoint, present⟩ := inv.filled index below
      obtain ⟨service, stored, _⟩ := endpoints_of_some present
      exact ⟨service, stored⟩
  · intro index service stored
    exact (registered.ports index _ (endpoints_some stored)).1
  · intro first second one other oneStored otherStored same
    exact inv.distinct first second _ _ (endpoints_some oneStored) (endpoints_some otherStored) same
  · intro handle port member
    obtain ⟨endpoint, present, rfl⟩ := inv.created handle port member
    exact inv.found present
  · intro port reference
    constructor
    · intro found
      obtain ⟨rfl, service, used⟩ := service_by_port_some found
      refine ⟨rfl, service, used, ?_⟩
      exact UInt32.toNat_inj.mp (registered.ports _ _ (endpoints_some used.1)).1
    · rintro ⟨rfl, service, used, _⟩
      exact service_by_port_of_used used
  · intro msgid
    exact registered.by_port_ok _ (dst_port_lt msgid)
  · exact msgIds
  · intro index service stored
    exact msgIds index service stored .open 0 (by decide)
  · intro index service stored
    exact msgIds index service stored .close _ (dst_port_lt service.remoteport)
  · intro index service payload stored isOpen
    exact msgIds index service stored .data _
      (inv.connected index service.endpoint (endpoints_some stored) isOpen)

/-- Every identifier made of the ports of a registered service gives back its local port and
the type. -/
def IdsDecode (state : State) : Prop :=
  ∀ index service, state.srvState.service index = some service → ∀ msgType,
    srcPortFromId (makeMsgId msgType service.localport service.remoteport) = service.localport ∧
      msgTypeFromId (makeMsgId msgType service.localport service.remoteport) = some msgType

/-- Every service at an even port knows a remote port. -/
def EvenPortsConnected (state : State) : Prop :=
  ∀ index service, state.srvState.service index = some service → index % 2 = 0 →
    service.remoteport ≠ vchiqPortFree

theorem TableInvariant.ids_decode_iff {labels : List RegistryLabel} {registry : Registry}
    (inv : TableInvariant labels registry) :
    IdsDecode registry.inst.state ↔ EvenPortsConnected registry.inst.state := by
  have registered := inv.registered
  constructor
  · intro decode index service stored even unconnected
    have port : service.localport.toNat = index :=
      (registered.ports index _ (endpoints_some stored)).1
    have spilled := (decode index service stored .data).1
    rw [unconnected] at spilled
    have odd := (src_port_make_spill .data (registered.port_lt stored)).mp spilled
    rw [← port, odd] at even
    exact absurd even (by decide)
  · intro connected index service stored msgType
    have port : service.localport.toNat = index :=
      (registered.ports index _ (endpoints_some stored)).1
    have small := registered.port_lt stored
    have remote : service.remoteport.toNat ≤ vchiqMaxServices :=
      registered.remotes index _ (endpoints_some stored)
    refine ⟨?_, msg_type_make_spill msgType _ _ small remote⟩
    rcases Nat.lt_or_eq_of_le remote with inside | free
    · exact src_port_make msgType _ _ small inside
    · have unconnected : service.remoteport = vchiqPortFree := UInt32.toNat_inj.mp free
      rw [unconnected]
      apply (src_port_make_spill msgType small).mpr
      rcases Nat.mod_two_eq_zero_or_one service.localport.toNat with even | odd
      · rw [port] at even
        exact absurd unconnected (connected index service stored even)
      · exact odd

/-- The registry is in order in every reachable state. Its identifiers decode as long as no
service at an even port is without a remote port. -/
theorem registry_ids_decode_iff {raw : SlotZero} {memory : Lib.ByteMemory.Memory}
    {totalMemory : Nat} {state : State} {labels : List RegistryLabel} {reached : Registry}
    (made : freshState raw memory totalMemory = .ok state)
    (run : Run RegistryStep (Registry.new state) labels reached) :
    RegistryInOrder labels reached ∧
      (IdsDecode reached.inst.state ↔ EvenPortsConnected reached.inst.state) := by
  have inv := table_run made run
  exact ⟨inv.in_order, inv.ids_decode_iff⟩

def firstSetup : ServiceSetup := ⟨0x6d6d616c, 1, 1⟩

/-- The VideoCore accepts the service at port 0 and gives it its port 75. -/
def firstAccepted : SlotMessage where
  header := { msgid := makeMsgId .openAck 75 0, size := 2 }
  data := [1, 0]

set_option maxRecDepth 20000 in
/-- The first service is added, asks to be opened and is accepted, and so is a second one
asked for at port 1. -/
theorem first_services_added :
    ∃ state first accepted second service connected,
      freshState blankSlotZero (fun _ => 0) (65 * vchiqSlotSize) = .ok state ∧
      state.srvState.freeIndex = some 0 ∧
      state.addService (firstSetup.params 0) 4096 = .ok first ∧
      dispatch (Instance.beginOpen { freshInstance state with state := first } 4096).2
        firstAccepted = .ok accepted ∧
      accepted.state.srvState.freeIndex = some 1 ∧
      accepted.state.addService (firstSetup.params 1) 4097 = .ok second ∧
      (Instance.beginOpen { freshInstance state with state := first }
        4096).2.state.srvState.service 0 = some service ∧ service.localport = 0 ∧
      service.remoteport = vchiqPortFree ∧
      second.srvState.unusedService = 2 ∧ second.srvState.service 0 = some connected ∧
      connected.remoteport = 75 :=
  ⟨_, _, _, _, _, _, rfl, rfl, rfl, rfl, rfl, rfl, rfl, rfl, rfl, rfl, rfl, rfl⟩

/-- The service at port 0 waits to be accepted. The identifier of its DATA names port 1. -/
theorem opening_service_id_misread :
    ∃ state reached service,
      freshState blankSlotZero (fun _ => 0) (65 * vchiqSlotSize) = .ok state ∧
      Run RegistryStep (Registry.new state) [.added 4096 0, .opened 4096] reached ∧
      reached.inst.state.srvState.service 0 = some service ∧ service.localport = 0 ∧
      (∀ payload, srcPortFromId (dataCall 0 service payload).msgId = 1) ∧
      ¬IdsDecode reached.inst.state := by
  obtain ⟨state, first, _, _, service, _, made, chosen, addition, _, _, _, stored, port,
    unconnected, _⟩ := first_services_added
  have added : RegistryStep (Registry.new state) (.added 4096 0) _ := .added chosen addition
  have misread : srcPortFromId (makeMsgId .data service.localport service.remoteport) = 1 := by
    rw [port, unconnected]
    decide
  refine ⟨state, _, service, made, (Run.refl.snoc added).snoc (.opened 4096), stored, port,
    fun _ => misread, ?_⟩
  intro decodes
  have same := (decodes 0 service stored .data).1
  rw [misread, port] at same
  exact absurd same (by decide)

/-- The first service is accepted, and the second one is at an odd port. -/
theorem accepted_service_ids_decode :
    ∃ state reached, freshState blankSlotZero (fun _ => 0) (65 * vchiqSlotSize) = .ok state ∧
      RegistryInOrder
        [.added 4096 0, .opened 4096, .received firstAccepted, .added 4097 1] reached ∧
      reached.inst.state.srvState.unusedService = 2 ∧ IdsDecode reached.inst.state := by
  obtain ⟨state, first, accepted, second, _, connected, made, chosen, addition, handled, next,
    further, _, _, _, count, stored, remote⟩ := first_services_added
  have added : RegistryStep (Registry.new state) (.added 4096 0) _ := .added chosen addition
  have run := (((Run.refl.snoc added).snoc (.opened 4096)).snoc (.received handled)).snoc
    (.added next further)
  obtain ⟨inOrder, decode⟩ := registry_ids_decode_iff made run
  refine ⟨state, _, made, inOrder, count, decode.mpr ?_⟩
  intro index service found even
  have below := (inOrder.used index).mp ⟨service, found⟩
  rw [show _ = 2 from count] at below
  have first : index = 0 := by
    rcases Nat.lt_succ_iff_lt_or_eq.mp below with zero | one
    · exact Nat.lt_one_iff.mp zero
    · rw [one] at even
      exact absurd even (by decide)
  subst first
  rw [Option.some.inj (found.symm.trans stored), remote]
  decide

end RuspiroVchiq.Vchiq
