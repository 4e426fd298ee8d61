import RuspiroVchiq.Vchiq.Registry
import RuspiroVchiq.Transmit.Stream

/-!
# The supply of ports

`free_service` marks a service FREE and leaves it in the table. Its port is not
given out again: `add_service` fails for good once `VCHIQ_MAX_SERVICES` services
were added, however many of them are in use. The failing run opens, has refused
and closes one service after the other.
-/

namespace RuspiroVchiq.Vchiq

open RuspiroVchiq.Config
open RuspiroVchiq.Shared
open RuspiroVchiq.Transmit
open RuspiroVchiq.Lib.LabelledRun

set_option autoImplicit false

/-- The number of services in a state other than FREE. -/
def liveServices (state : State) : Nat :=
  state.srvState.services.countP fun entry =>
    entry.any fun service => decide (service.srvstate ≠ .free)

/-- `add_service` puts the service at a port that no service in use has. -/
def AddsAtFreePort (registry : Registry) (params : ServiceParams) : Prop :=
  ∃ state port service,
    registry.inst.state.addService params registry.nextHandle = .ok state ∧
      state.srvState.service port = some service ∧ service.handle = registry.nextHandle ∧
      service.srvstate = .opening ∧ service.localport.toNat = port ∧
      ∀ reference other, InUse registry.inst.state reference other →
        other.localport.toNat ≠ port

/-- As long as not every port is taken by a service in use, another service can be
added. -/
def PortsSupplied (registry : Registry) : Prop :=
  liveServices registry.inst.state < vchiqMaxServices →
    ∀ params, AddsAtFreePort registry params

theorem add_service_succeeds {state : State} {port : ServiceRef} (params : ServiceParams)
    (handle : ServiceHandle) (chosen : state.srvState.freeIndex = some port)
    (within : port < state.srvState.services.length) :
    ∃ next, state.addService params handle = .ok next := by
  simp only [State.addService, chosen, if_pos within]
  exact ⟨_, rfl⟩

theorem TableInvariant.adds_iff {labels : List RegistryLabel} {registry : Registry}
    (inv : TableInvariant labels registry) (params : ServiceParams) :
    AddsAtFreePort registry params ↔ additions labels < vchiqMaxServices := by
  rw [← inv.counted]
  have chosen := inv.free_index
  constructor
  · rintro ⟨state, _, _, addition, _⟩
    by_contra full
    rw [if_neg full] at chosen
    simp [State.addService, chosen] at addition
  · intro room
    rw [if_pos room] at chosen
    obtain ⟨state, addition⟩ := add_service_succeeds params registry.nextHandle chosen
      (by rw [inv.registered.length]; exact room)
    obtain ⟨port, found, added⟩ := add_service_ok inv.registered addition
    have here : state.endpoints port =
        some (freshEndpoint port registry.nextHandle params.userdata.userdata) := by
      rw [added.endpoints, Function.update_self]
    obtain ⟨service, stored, fresh⟩ := endpoints_of_some here
    refine ⟨state, port, service, addition, stored, congrArg Endpoint.handle fresh,
      congrArg Endpoint.srvstate fresh, ?_, ?_⟩
    · rw [show service.localport = UInt32.ofNat port from congrArg Endpoint.localport fresh]
      exact of_nat_port added.small
    · intro reference other used same
      have port' := (inv.registered.ports reference _ (endpoints_some used.1)).1
      have clash : reference = port := port'.symm.trans same
      have vacant := added.vacant
      rw [← clash, endpoints_some used.1] at vacant
      simp at vacant

/-- The ports last for `VCHIQ_MAX_SERVICES` additions. -/
theorem ports_supplied_iff {raw : SlotZero} {memory : Lib.ByteMemory.Memory}
    {totalMemory : Nat} {state : State} {labels : List RegistryLabel} {reached : Registry}
    (made : freshState raw memory totalMemory = .ok state)
    (run : Run RegistryStep (Registry.new state) labels reached) :
    PortsSupplied reached ↔
      (liveServices reached.inst.state < vchiqMaxServices →
        additions labels < vchiqMaxServices) := by
  have inv := table_run made run
  constructor
  · intro supplied few
    exact (inv.adds_iff sampleParams).mp (supplied few sampleParams)
  · intro enough few params
    exact (inv.adds_iff params).mpr (enough few)

theorem open_call_stride (service : Service) : (openCall service).msgStride = 24 := by
  simp [QueueCall.msgStride, QueueCall.msgSize, QueueCall.payload, openCall, openPayload,
    calcMsgStride, headerSize]

/-- OPEN is queued as long as its region starts inside the ARM slots. -/
theorem open_queued {numSlots : Nat} (inst : Instance) {service : Service}
    (inv : ReservationInvariant numSlots inst.state)
    (port : service.localport.toNat < vchiqMaxServices)
    (room : reserveStart inst.state 24 < inst.state.slotQueueAvailable * vchiqSlotSize)
    (sender : Option ServiceRef) :
    ReservationInvariant numSlots (inst.send sender (openCall service)).2.state ∧
      (inst.send sender (openCall service)).2.state.slotState.localTxPos =
        reserveStart inst.state 24 + 24 ∧
      (inst.send sender (openCall service)).2.state.slotQueueAvailable =
        inst.state.slotQueueAvailable ∧
      (inst.send sender (openCall service)).2.state.srvState = inst.state.srvState := by
  have stride : ValidStride 24 := ⟨by decide, by decide, by decide⟩
  have admission : admitMessage inst.state (openCall service) = (.ok .open, inst.state) := by
    simp [admitMessage, open_call_type port]
  rcases reserve_space_spec inv stride with ⟨full, _⟩ | ⟨_, reservation⟩
  · exact absurd full (Nat.ne_of_lt room)
  have reserved := reserved_invariant inv stride room
  have publication := store_and_publish_stream reserved (openCall service) .open room
    (Nat.lt_of_lt_of_le stride.positive (Nat.le_add_left _ _))
  have accounted : accountMessage (reservedState inst.state 24) (openCall service) .open =
      .ok inst.state.quotaState := rfl
  rw [accounted, Except.map] at publication
  have queued : queueMessage inst.state (openCall service) =
      (.ok (), publishedState (reservedState inst.state 24) (openCall service) .open
        (streamPosition inst.state (reserveStart inst.state 24)) inst.state.quotaState) := by
    rw [queue_message_sections]
    refine ⟨.open, inst.state, _, _, admission, ?_, publication⟩
    rw [open_call_stride]
    exact reservation
  simp only [Instance.send, queued]
  exact ⟨published_invariant _ _ _ _ reserved, rfl, rfl, rfl⟩

/-- A service is found by its handle. -/
theorem TableInvariant.service_of {labels : List RegistryLabel} {registry : Registry}
    (inv : TableInvariant labels registry) {port : ServiceRef} {service : Service}
    (stored : registry.inst.state.srvState.service port = some service) :
    registry.inst.state.serviceOf service.handle = some (port, service) := by
  have located : registry.inst.state.serviceFromHandle service.handle = some port :=
    (inv.found (endpoints_some stored)).1
  simp only [State.serviceOf, located, stored]

/-- A CLOSE of the VideoCore for the port. -/
def closeFor (port : ServiceRef) : SlotMessage where
  header :=
    { msgid := makeMsgId .close 0 (UInt32.ofNat port)
      size := 0 }
  data := []

set_option maxRecDepth 20000 in
/-- A service is refused and closed, and another one is added. -/
theorem refused_service_replaced :
    ∃ state first refused answered ended second,
      freshState blankSlotZero (fun _ => 0) (65 * vchiqSlotSize) = .ok state ∧
      state.srvState.freeIndex = some 0 ∧
      state.addService sampleParams 4096 = .ok first ∧
      dispatch (Instance.beginOpen { freshInstance state with state := first } 4096).2
        (closeFor 0) = .ok refused ∧
      refused.awaitService 4096 openResult = some answered ∧
      Instance.awaitService (answered.2.beginClose 4096).2 4096 closeResult = some ended ∧
      ended.2.state.srvState.freeIndex = some 1 ∧
      ended.2.state.addService sampleParams 4097 = .ok second :=
  ⟨_, _, _, _, _, _, rfl, rfl, rfl, rfl, rfl, rfl, rfl, rfl⟩

def replacement : List RegistryLabel :=
  [.added 4096 0, .opened 4096, .received (closeFor 0), .awaited 4096, .closed 4096,
    .awaited 4096, .added 4097 1]

/-- There are ports left behind the two services. -/
theorem replaced_ports_supplied :
    ∃ state reached, freshState blankSlotZero (fun _ => 0) (65 * vchiqSlotSize) = .ok state ∧
      Run RegistryStep (Registry.new state) replacement reached ∧ PortsSupplied reached := by
  obtain ⟨state, first, refused, ⟨opened, answered⟩, ⟨closed, ended⟩, second, made, chosen,
    addition, refusal, answer, ending, next, further⟩ := refused_service_replaced
  have added : RegistryStep (Registry.new state) (.added 4096 0) _ := .added chosen addition
  have run : Run RegistryStep (Registry.new state) replacement _ :=
    ((((((Run.refl.snoc added).snoc (.opened 4096)).snoc (.received refusal)).snoc
      (.awaited answer)).snoc (.closed 4096)).snoc (.awaited ending)).snoc (.added next further)
  exact ⟨state, _, made, run, (ports_supplied_iff made run).mpr fun _ => by decide⟩

theorem close_for_receiver {port : ServiceRef} (small : port < vchiqMaxServices) :
    msgTypeFromId (closeFor port).header.msgid = some .close ∧
      receiverRef (closeFor port) = port := by
  have bound : (UInt32.ofNat port).toNat < 4096 := by
    rw [of_nat_port small]
    exact small
  refine ⟨msg_type_make .close 0 _ (by decide) bound, ?_⟩
  rw [receiverRef, closeFor, dst_port_make .close 0 _ (by decide) bound, of_nat_port small]

/-- The VideoCore refuses a service that waits for its answer. -/
theorem refusal_dispatched {inst : Instance} {bound : ServiceHandle} {port : ServiceRef}
    {service : Service} (registered : Registered inst bound)
    (stored : inst.state.srvState.service port = some service)
    (opening : service.srvstate = .opening) (unconnected : service.remoteport = vchiqPortFree) :
    dispatch inst (closeFor port) = .ok (closedInstance inst port port) := by
  obtain ⟨samePort, small⟩ := registered.ports port _ (endpoints_some stored)
  obtain ⟨isClose, receiver⟩ := close_for_receiver small
  have used : InUse inst.state (receiverRef (closeFor port)) service := by
    rw [receiver]
    exact ⟨stored, by simp [opening]⟩
  have agrees : CloseAgrees inst (closeFor port) := by
    intro _ other otherUsed clash
    have same : other = service := Option.some.inj (otherUsed.1.symm.trans used.1)
    rw [same] at clash
    exact clash.2.1 unconnected
  have addressed : Addressed inst (closeFor port) :=
    .inr (.inr ⟨⟨.close, isClose, .inr (.inl rfl)⟩, service, used⟩)
  obtain ⟨next, handled⟩ := dispatch_ok registered.consistent addressed agrees
  rw [handled]
  have served := dispatch_cases handled
  cases served with
  | @closed other _ otherUsed _ =>
      have same : other = service := Option.some.inj (otherUsed.1.symm.trans used.1)
      have port' : service.localport.toNat = port := samePort
      rw [receiver, same, port']
  | connect msgType => simp [isClose] at msgType
  | @ignored kind msgType silent =>
      rw [isClose, Option.some.injEq] at msgType
      subst msgType
      simp at silent
  | acknowledged msgType _ => simp [isClose] at msgType
  | dropped msgType _ _ => simp [isClose] at msgType
  | delivered msgType _ _ _ _ _ => simp [isClose] at msgType

/-- A wait on a service whose semaphore is raised ends. -/
theorem TableInvariant.await {labels : List RegistryLabel} {registry : Registry}
    (inv : TableInvariant labels registry) {port : ServiceRef} {service : Service}
    (stored : registry.inst.state.srvState.service port = some service)
    (raised : 0 < service.removeEvent)
    (judge : ServiceHandle → ServiceState → Except VchiqError Unit) :
    RegistryStep registry (.awaited service.handle)
      { registry with inst := registry.inst.updateService port Service.takeRemoveEvent } := by
  have polled : registry.inst.awaitService service.handle judge =
      some (judge service.handle service.srvstate,
        registry.inst.updateService port Service.takeRemoveEvent) := by
    simp only [Instance.awaitService, inv.service_of stored, if_pos raised]
  exact .awaited polled

/-- `open_service` queues the OPEN of the service. -/
theorem TableInvariant.open_added {labels : List RegistryLabel} {registry : Registry}
    (inv : TableInvariant labels registry) {port : ServiceRef} {service : Service}
    (stored : registry.inst.state.srvState.service port = some service) :
    RegistryStep registry (.opened service.handle)
      { registry with inst := (registry.inst.send (some port) (openCall service)).2 } := by
  have opened : RegistryStep registry (.opened service.handle) _ := .opened service.handle
  simp only [Instance.beginOpen, inv.service_of stored] at opened
  exact opened

/-- `close_service` frees a refused service at once. -/
theorem TableInvariant.close_waiting {labels : List RegistryLabel} {registry : Registry}
    (inv : TableInvariant labels registry) {port : ServiceRef} {service : Service}
    (stored : registry.inst.state.srvState.service port = some service)
    (waiting : service.srvstate = .closeWait) :
    RegistryStep registry (.closed service.handle)
      { registry with
        inst := (registry.inst.updateService port Service.markClosing).updateService port
          Service.free } := by
  have closed : RegistryStep registry (.closed service.handle) _ := .closed service.handle
  simp only [Instance.beginClose, inv.service_of stored, waiting] at closed
  exact closed

theorem service_update_self {inst : Instance} {port : ServiceRef} {service : Service}
    (stored : inst.state.srvState.service port = some service) (change : Service → Service) :
    (inst.updateService port change).state.srvState.service port = some (change service) := by
  simp [Instance.updateService, State.updateService, stored]

/-- What the rest of the cycle leaves behind: the service at the port is FREE and the
transmit side has not moved. -/
structure Released (port : ServiceRef) (before after : Registry) : Prop where
  slots : after.inst.state.slotState = before.inst.state.slotState
  available : after.inst.state.slotQueueAvailable = before.inst.state.slotQueueAvailable
  freed : ∀ endpoint, after.inst.state.endpoints port = some endpoint →
    endpoint.srvstate = .free
  elsewhere : ∀ other, other ≠ port →
    after.inst.state.endpoints other = before.inst.state.endpoints other

/-- The VideoCore refuses the service, the wait of `open_service` ends, and the service
is closed. -/
theorem refused_and_closed {start registry : Registry} {labels : List RegistryLabel}
    {port : ServiceRef} {service : Service}
    (run : Run RegistryStep start labels registry) (inv : TableInvariant labels registry)
    (stored : registry.inst.state.srvState.service port = some service)
    (opening : service.srvstate = .opening) (unconnected : service.remoteport = vchiqPortFree) :
    ∃ labels' next, Run RegistryStep start labels' next ∧ TableInvariant labels' next ∧
      additions labels' = additions labels ∧ Released port registry next := by
  have refusal : RegistryStep registry (.received (closeFor port))
      { registry with inst := closedInstance registry.inst port port } :=
    .received (refusal_dispatched inv.registered stored opening unconnected)
  have refusedInv := table_step inv refusal
  have refused : service.closeReceived =
      { service with
        closing := true
        srvstate := .closeWait
        removeEvent := service.removeEvent + 1 } := by
    simp only [Service.closeReceived, opening]
  have refusedStored : (closedInstance registry.inst port port).state.srvState.service port =
      some service.closeReceived := by
    simp [closedInstance, State.updateService, stored]
  have answered := refusedInv.await refusedStored (by rw [refused]; exact Nat.succ_pos _)
    openResult
  have answeredInv := table_step refusedInv answered
  have answeredStored := service_update_self refusedStored Service.takeRemoveEvent
  have waiting : service.closeReceived.takeRemoveEvent.srvstate = .closeWait := by
    rw [refused]
    rfl
  have closed := answeredInv.close_waiting answeredStored waiting
  have closedInv := table_step answeredInv closed
  have closedStored := service_update_self
    (service_update_self answeredStored Service.markClosing) Service.free
  have freed : service.closeReceived.takeRemoveEvent.markClosing.free =
      { service.closeReceived.takeRemoveEvent with
        closing := true
        srvstate := .free
        removeEvent := service.closeReceived.takeRemoveEvent.removeEvent + 1 } := by
    simp only [Service.free, Service.markClosing, waiting]
  have ended := closedInv.await closedStored (by rw [freed]; exact Nat.succ_pos _) closeResult
  have endedStored := service_update_self closedStored Service.takeRemoveEvent
  refine ⟨_, _, (((run.snoc refusal).snoc answered).snoc closed).snoc ended,
    table_step closedInv ended, ?_, ?_, ?_, ?_, ?_⟩
  · simp [additions]
  · simp only [Instance.updateService, State.updateService, closedInstance]
  · simp only [Instance.updateService, State.updateService, closedInstance]
  · intro endpoint present
    rw [endpoints_some endedStored, Option.some.injEq] at present
    rw [← present, freed]
    rfl
  · intro other differs
    simp [State.endpoints, Instance.updateService, closedInstance, State.updateService,
      Ne.symm differs]

/-- So many services were opened, refused and closed. The cursor moved by one OPEN for
each of them, and by a padding of at most 16 bytes for each slot. -/
structure Leaked (numSlots count : Nat) (labels : List RegistryLabel) (registry : Registry) :
    Prop where
  table : TableInvariant labels registry
  added : additions labels = count
  reservation : ReservationInvariant numSlots registry.inst.state
  cursor : registry.inst.state.slotState.localTxPos ≤
    24 * count + 16 * (registry.inst.state.slotState.localTxPos / vchiqSlotSize)
  freed : ∀ reference endpoint, registry.inst.state.endpoints reference = some endpoint →
    endpoint.srvstate = .free

/-- The slots of the crate's memory have room for the OPEN of every service. -/
theorem open_room {state : State} {count : Nat} (inv : ReservationInvariant 64 state)
    (cursor : state.slotState.localTxPos ≤
      24 * count + 16 * (state.slotState.localTxPos / vchiqSlotSize))
    (few : count < vchiqMaxServices) :
    reserveStart state 24 < state.slotQueueAvailable * vchiqSlotSize ∧
      reserveStart state 24 + 24 ≤
        24 * (count + 1) + 16 * ((reserveStart state 24 + 24) / vchiqSlotSize) := by
  have available := inv.available_eq
  have aligned := inv.aligned
  rw [available]
  by_cases padding : 24 > slotSpace state
  · rw [reserve_start_padded padding]
    simp only [slotSpace, vchiqSlotSize, vchiqMaxServices] at *
    omega
  · rw [reserve_start_fits (Nat.not_lt.mp padding)]
    simp only [slotSpace, vchiqSlotSize, vchiqMaxServices] at *
    omega

theorem leak_cycle {start registry : Registry} {labels : List RegistryLabel} {count : Nat}
    (run : Run RegistryStep start labels registry) (leaked : Leaked 64 count labels registry)
    (few : count < vchiqMaxServices) :
    ∃ labels' next, Run RegistryStep start labels' next ∧
      Leaked 64 (count + 1) labels' next := by
  have inv := leaked.table
  have room : registry.inst.state.srvState.unusedService < vchiqMaxServices := by
    rw [inv.counted, leaked.added]
    exact few
  have chosen := inv.free_index
  rw [if_pos room] at chosen
  obtain ⟨state, addition⟩ := add_service_succeeds sampleParams registry.nextHandle chosen
    (by rw [inv.registered.length]; exact room)
  have adding := RegistryStep.added chosen addition
  have addedInv := table_step inv adding
  obtain ⟨port, _, added⟩ := add_service_ok inv.registered addition
  have here : state.endpoints port = some (freshEndpoint port registry.nextHandle
      sampleParams.userdata.userdata) := by
    rw [added.endpoints, Function.update_self]
  obtain ⟨service, stored, fresh⟩ := endpoints_of_some here
  have undisturbed := add_service_undisturbed addition
  have reservation := undisturbed.reservation leaked.reservation
  obtain ⟨fits, advanced⟩ := open_room reservation
    (by rw [undisturbed.localTxPos]; exact leaked.cursor) few
  have opening := addedInv.open_added stored
  have openedInv := table_step addedInv opening
  obtain ⟨queued, cursor, available, table⟩ := open_queued
    { registry.inst with state := state } reservation
    (addedInv.registered.port_lt stored) fits (some port)
  obtain ⟨labels', next, closedRun, closedInv, additions', released⟩ :=
    refused_and_closed ((run.snoc adding).snoc opening) openedInv (by rw [table]; exact stored)
      (congrArg Endpoint.srvstate fresh) (congrArg Endpoint.remoteport fresh)
  refine ⟨labels', next, closedRun, closedInv, ?_, ?_, ?_, ?_⟩
  · rw [additions', ← leaked.added]
    simp [additions]
  · apply queued.congr
    · rw [released.slots]
      exact queued.layout
    · exact released.available
    · rw [released.slots]
    · rw [released.slots]
    · rw [released.slots]
  · rw [released.slots]
    simp only [cursor]
    exact advanced
  · intro reference endpoint present
    by_cases last : reference = port
    · rw [last] at present
      exact released.freed endpoint present
    · rw [released.elsewhere reference last] at present
      simp only [State.endpoints, table] at present
      have old : state.endpoints reference = some endpoint := present
      rw [added.endpoints, Function.update_of_ne last] at old
      exact leaked.freed reference endpoint old

theorem leaked_run {state : State}
    (made : freshState blankSlotZero (fun _ => 0) (65 * vchiqSlotSize) = .ok state)
    (count : Nat) (few : count ≤ vchiqMaxServices) :
    ∃ labels reached, Run RegistryStep (Registry.new state) labels reached ∧
      Leaked 64 count labels reached := by
  induction count with
  | zero =>
      have facts := fresh_state_facts made
      have layout := fresh_state_spec made rfl (by decide)
      refine ⟨[], _, .refl, fresh_table facts, rfl, layout.1, ?_, ?_⟩
      · exact Nat.le_trans (Nat.le_of_eq layout.2.1) (Nat.zero_le _)
      · intro reference endpoint present
        simp only [Registry.new, freshInstance, fresh_endpoints facts] at present
        simp at present
  | succ count ih =>
      obtain ⟨labels, reached, run, leaked⟩ := ih (Nat.le_of_succ_le few)
      exact leak_cycle run leaked few

theorem live_services_of_freed {inst : Instance}
    (freed : ∀ reference endpoint, inst.state.endpoints reference = some endpoint →
      endpoint.srvstate = .free) : liveServices inst.state = 0 := by
  rw [liveServices, List.countP_eq_zero]
  intro entry member
  cases entry with
  | none => simp
  | some service =>
      obtain ⟨reference, bound, stored⟩ := List.mem_iff_getElem.mp member
      have found : inst.state.srvState.service reference = some service := by
        simp [SrvState.service, List.getElem?_eq_getElem bound, stored]
      have isFree : service.srvstate = .free := freed reference _ (endpoints_some found)
      simp [isFree]

/-- No service is in use, and none can be added. -/
theorem closed_services_use_up_ports :
    ∃ state labels reached,
      freshState blankSlotZero (fun _ => 0) (65 * vchiqSlotSize) = .ok state ∧
      Run RegistryStep (Registry.new state) labels reached ∧
      liveServices reached.inst.state = 0 ∧
      (∀ params, reached.inst.state.addService params reached.nextHandle =
        .error (.error .unableToAddService)) ∧
      ¬PortsSupplied reached := by
  obtain ⟨state, made⟩ : ∃ state,
      freshState blankSlotZero (fun _ => 0) (65 * vchiqSlotSize) = .ok state := ⟨_, rfl⟩
  obtain ⟨labels, reached, run, leaked⟩ := leaked_run made vchiqMaxServices (Nat.le_refl _)
  have unused := live_services_of_freed leaked.freed
  have full : ¬reached.inst.state.srvState.unusedService < vchiqMaxServices := by
    rw [leaked.table.counted, leaked.added]
    exact Nat.lt_irrefl _
  refine ⟨state, labels, reached, made, run, unused, ?_, ?_⟩
  · intro params
    have chosen := leaked.table.free_index
    rw [if_neg full] at chosen
    simp only [State.addService, chosen]
  · intro supplied
    have adds := supplied (by rw [unused]; decide) sampleParams
    rw [leaked.table.adds_iff, leaked.added] at adds
    exact Nat.lt_irrefl _ adds

end RuspiroVchiq.Vchiq
