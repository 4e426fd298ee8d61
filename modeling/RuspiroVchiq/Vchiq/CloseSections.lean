import RuspiroVchiq.Vchiq.PortSupply

/-!
# Closing next to the slot handler

`close_service` on one core and `slot_handler` on another. The close is cut where
`queue_message` is called and where it returns, and every later look at the
semaphore is a step of its own. Additions, `open_service` and `queue_message` of
other tasks may come in between. `service_open` and `service_close` both borrow the
instance mutably, so the wait of `open_service` is over while a close is under way.

The standing of a service is its state with the count of its semaphore. For every
section there is one lemma that says which standing it leaves, and the labels record
each state that is set on the way.
-/

namespace RuspiroVchiq.Vchiq

open RuspiroVchiq.Config
open RuspiroVchiq.Shared

set_option autoImplicit false

/-- How far the call of `close_service` is. It has read the service and has not queued
its message, it has queued the message and not returned to the OPEN arm, or it waits. -/
inductive CloserPhase where
  | idle
  | sending (handle : ServiceHandle) (reference : ServiceRef) (service : Service) (again : Bool)
  | sent (handle : ServiceHandle) (reference : ServiceRef)
  | waiting (handle : ServiceHandle) (reference : ServiceRef)

def CloserPhase.reference : CloserPhase → Option ServiceRef
  | .idle => none
  | .sending _ reference _ _ | .sent _ reference | .waiting _ reference => some reference

/-- `close_service` up to the call of `queue_message`. -/
def Instance.startClose (inst : Instance) (handle : ServiceHandle) : CloserPhase × Instance :=
  match inst.state.serviceOf handle with
  | none => (.idle, inst)
  | some (reference, service) =>
      let marked := inst.updateService reference Service.markClosing
      match service.srvstate with
      | .free | .listening | .hidden => (.idle, inst)
      | .closed | .closeWait =>
          (.waiting handle reference, marked.updateService reference Service.free)
      | .opening => (.sending handle reference service false, marked)
      | .openSync | .open => (.sending handle reference service true, marked)
      | .closeSent | .closeRecvd => (.idle, marked)

/-- The call of `queue_message`. Only the OPEN arm goes on when it fails. -/
def Instance.queueClose (inst : Instance) (handle : ServiceHandle) (reference : ServiceRef)
    (service : Service) (again : Bool) : CloserPhase × Instance :=
  match inst.send (some reference) (closeCall reference service) with
  | (.ok _, inst) => (if again then .sent handle reference else .waiting handle reference, inst)
  | (.error (.error _), inst) => (if again then .waiting handle reference else .idle, inst)
  | (.error _, inst) => (.idle, inst)

/-- The OPEN arm behind `queue_message`. -/
def Instance.finishClose (inst : Instance) (reference : ServiceRef) : Instance :=
  inst.updateService reference fun service => service.setState .closeSent

/-- The sections of a close without anything between them. -/
def Instance.closeUndisturbed (inst : Instance) (handle : ServiceHandle) : Instance :=
  match inst.startClose handle with
  | (.sending handle reference service again, inst) =>
      match inst.queueClose handle reference service again with
      | (.sent _ reference, inst) => inst.finishClose reference
      | (_, inst) => inst
  | (_, inst) => inst

/-- Without anything between them the sections are `begin_close`. -/
theorem close_undisturbed (inst : Instance) (handle : ServiceHandle) :
    inst.closeUndisturbed handle = (inst.beginClose handle).2 := by
  unfold Instance.closeUndisturbed Instance.startClose Instance.beginClose
  cases inst.state.serviceOf handle with
  | none => rfl
  | some target =>
      obtain ⟨reference, service⟩ := target
      simp only
      cases service.srvstate with
      | opening =>
          simp only [Instance.queueClose]
          rcases (inst.updateService reference Service.markClosing).send (some reference)
            (closeCall reference service) with ⟨result | _, next⟩
          · cases result <;> rfl
          · rfl
      | openSync | «open» =>
          simp only [Instance.queueClose, Instance.sendClose]
          rcases (inst.updateService reference Service.markClosing).send (some reference)
            (closeCall reference service) with ⟨result | _, next⟩
          · cases result <;> rfl
          · rfl
      | _ => rfl

/-- The states a service is set to, one after the other, in one step. -/
structure StateChange where
  reference : ServiceRef
  old : ServiceState
  assigned : List ServiceState
  deriving DecidableEq

/-- The record of a step that sets the states given for the present one. -/
def Instance.recordChange (inst : Instance) (reference : ServiceRef)
    (states : ServiceState → List ServiceState) : Option StateChange :=
  (inst.state.srvState.service reference).map fun service =>
    { reference := reference
      old := service.srvstate
      assigned := states service.srvstate }

/-- What `close_service` sets itself before it queues anything. -/
def startStates : ServiceState → List ServiceState
  | .closed | .closeWait => [.free]
  | _ => []

/-- What the slot handler sets. A close of this side is completed through CLOSED. -/
def receivedStates (message : SlotMessage) (srvstate : ServiceState) : List ServiceState :=
  match msgTypeFromId message.header.msgid, srvstate with
  | some .openAck, .opening => [.open]
  | some .close, .opening => [.closeWait]
  | some .close, .closeSent => [.closed, .free]
  | _, _ => []

structure ClosingState where
  registry : Registry
  closer : CloserPhase

inductive ClosingLabel where
  | aside (label : RegistryLabel)
  | wrote (handle : ServiceHandle)
  | started (handle : ServiceHandle) (change : Option StateChange)
  | queued (change : Option StateChange)
  | unqueued
  | finished (change : Option StateChange)
  | returned (handle : ServiceHandle) (reference : ServiceRef) (result : Except VchiqError Unit)
  | received (message : SlotMessage) (change : Option StateChange)

def ClosingLabel.change : ClosingLabel → Option StateChange
  | .started _ change | .queued change | .finished change | .received _ change => change
  | _ => none

/-- The steps of other tasks. A wait on a service is the one of `open_service`. -/
def RegistryLabel.Beside (closer : CloserPhase) : RegistryLabel → Prop
  | .added _ _ | .refused _ | .opened _ => True
  | .awaited _ => closer = .idle
  | .closed _ | .received _ => False

def Registry.withInst (registry : Registry) (inst : Instance) : Registry :=
  { registry with inst := inst }

inductive ClosingStep : ClosingState → ClosingLabel → ClosingState → Prop where
  | aside {before : ClosingState} {label : RegistryLabel} {registry : Registry}
      (beside : label.Beside before.closer)
      (step : RegistryStep before.registry label registry) :
      ClosingStep before (.aside label) { before with registry := registry }
  | wrote {before : ClosingState} (handle : ServiceHandle) (data : Payload) :
      ClosingStep before (.wrote handle)
        { before with
          registry := before.registry.withInst
            (before.registry.inst.queueMessage handle data).2 }
  | started {before : ClosingState} (handle : ServiceHandle) (idle : before.closer = .idle) :
      ClosingStep before
        (.started handle ((before.registry.inst.state.serviceOf handle).bind fun target =>
          before.registry.inst.recordChange target.1 startStates))
        { registry := before.registry.withInst (before.registry.inst.startClose handle).2
          closer := (before.registry.inst.startClose handle).1 }
  | queued {before : ClosingState} {handle : ServiceHandle} {reference : ServiceRef}
      {service : Service} {again : Bool} {sent : Option Outgoing} {next : Instance}
      (ready : before.closer = .sending handle reference service again)
      (polled : before.registry.inst.send (some reference) (closeCall reference service) =
        (.ok sent, next)) :
      ClosingStep before
        (.queued (before.registry.inst.recordChange reference fun _ => [.closeSent]))
        { registry := before.registry.withInst
            (before.registry.inst.queueClose handle reference service again).2
          closer := (before.registry.inst.queueClose handle reference service again).1 }
  | unqueued {before : ClosingState} {handle : ServiceHandle} {reference : ServiceRef}
      {service : Service} {again : Bool} {stop : Stop} {next : Instance}
      (ready : before.closer = .sending handle reference service again)
      (polled : before.registry.inst.send (some reference) (closeCall reference service) =
        (.error stop, next)) :
      ClosingStep before .unqueued
        { registry := before.registry.withInst
            (before.registry.inst.queueClose handle reference service again).2
          closer := (before.registry.inst.queueClose handle reference service again).1 }
  | finished {before : ClosingState} {handle : ServiceHandle} {reference : ServiceRef}
      (ready : before.closer = .sent handle reference) :
      ClosingStep before
        (.finished (before.registry.inst.recordChange reference fun _ => [.closeSent]))
        { registry := before.registry.withInst (before.registry.inst.finishClose reference)
          closer := .waiting handle reference }
  | returned {before : ClosingState} {handle : ServiceHandle} {reference : ServiceRef}
      {result : Except VchiqError Unit} {next : Instance}
      (ready : before.closer = .waiting handle reference)
      (polled : before.registry.inst.awaitService handle closeResult = some (result, next)) :
      ClosingStep before (.returned handle reference result)
        { registry := before.registry.withInst next
          closer := .idle }
  | received {before : ClosingState} {message : SlotMessage} {next : Instance}
      (handled : dispatch before.registry.inst message = .ok next) :
      ClosingStep before
        (.received message
          (before.registry.inst.recordChange (receiverRef message) (receivedStates message)))
        { before with registry := before.registry.withInst next }

def ClosingState.new (state : State) : ClosingState where
  registry := Registry.new state
  closer := .idle

/-- The state behind the step of a service that is in the table before it. -/
def ClosingLabel.stateAfter (label : ClosingLabel) (reference : ServiceRef)
    (old : ServiceState) : ServiceState :=
  match label.change with
  | none => old
  | some change =>
      if change.reference = reference then change.assigned.getLastD change.old else old

/-- The label names the states the services had and get. -/
def ClosingLabel.Records (label : ClosingLabel) (before after : Instance) : Prop :=
  ∀ reference service, before.state.srvState.service reference = some service →
    (∀ change, label.change = some change → change.reference = reference →
      change.old = service.srvstate) ∧
    ∃ later, after.state.srvState.service reference = some later ∧
      later.srvstate = label.stateAfter reference service.srvstate

/-- The state of a service and the count of its semaphore. -/
def Service.standing (service : Service) : ServiceState × Nat :=
  (service.srvstate, service.removeEvent)

def State.standing (state : State) (reference : ServiceRef) : Option (ServiceState × Nat) :=
  (state.srvState.service reference).map Service.standing

theorem standing_some {state : State} {reference : ServiceRef} {service : Service}
    (stored : state.srvState.service reference = some service) :
    state.standing reference = some service.standing := by
  rw [State.standing, stored, Option.map_some]

theorem standing_of_some {state : State} {reference : ServiceRef}
    {standing : ServiceState × Nat} (present : state.standing reference = some standing) :
    ∃ service, state.srvState.service reference = some service ∧ service.standing = standing :=
  Option.map_eq_some_iff.mp present

theorem standing_update (state : State) (reference : ServiceRef) {change : Service → Service}
    {advance : ServiceState × Nat → ServiceState × Nat}
    (agrees : ∀ service, (change service).standing = advance service.standing) :
    (state.updateService reference change).standing =
      Function.update state.standing reference ((state.standing reference).map advance) := by
  funext other
  by_cases same : other = reference
  · subst same
    rw [Function.update_self]
    simp only [State.standing, State.updateService, service_update, if_true, Option.map_map]
    congr 1
    funext service
    exact agrees service
  · rw [Function.update_of_ne same]
    simp only [State.standing, State.updateService, service_update, if_neg (Ne.symm same)]

theorem standing_update_same (state : State) (reference : ServiceRef)
    {change : Service → Service} (keeps : ∀ service, (change service).standing = service.standing) :
    (state.updateService reference change).standing = state.standing := by
  have updated := @standing_update state reference change id keeps
  rw [updated, Option.map_id, id, Function.update_eq_self]

theorem standing_of_table {before after : State} (same : after.srvState = before.srvState) :
    after.standing = before.standing := by
  funext reference
  rw [State.standing, State.standing, same]

/-- `queue_message` moves the service of a CLOSE to CLOSESENT. -/
theorem send_close_standing {inst next : Instance} {reference : ServiceRef} {service : Service}
    {sent : Option Outgoing}
    (isClose : msgTypeFromId (closeCall reference service).msgId = some .close)
    (polled : inst.send (some reference) (closeCall reference service) = (.ok sent, next)) :
    next.state.standing = Function.update inst.state.standing reference
      ((inst.state.standing reference).map fun standing => (.closeSent, standing.2)) := by
  obtain ⟨_, msgType, queued⟩ := send_queued polled
  have sameType : msgType = .close := by
    have idType := queued.sent.idType
    rw [isClose, Option.some.injEq] at idType
    exact idType.symm
  subst sameType
  have updated := @standing_update inst.state reference
    (fun service => service.setState .closeSent) (fun standing => (.closeSent, standing.2))
    fun _ => rfl
  rw [← updated]
  exact standing_of_table (queued.table_closed rfl)

/-- A message that is not a CLOSE of a service changes no state. -/
theorem send_standing {inst next : Instance} {sender : Option ServiceRef} {call : QueueCall}
    {result : Except Stop (Option Outgoing)}
    (plain : call.service = none ∨ msgTypeFromId call.msgId ≠ some .close)
    (polled : inst.send sender call = (result, next)) :
    next.state.standing = inst.state.standing := by
  cases result with
  | ok sent =>
      obtain ⟨_, msgType, queued⟩ := send_queued polled
      apply standing_of_table
      apply queued.table_kept
      rcases plain with isNone | notClose
      · exact .inl isNone
      · right
        rintro rfl
        exact notClose queued.sent.idType
  | error stop =>
      obtain ⟨_, _, _, rfl⟩ := send_failed polled
      rfl

/-- A change of state that raises the semaphore. -/
def raisedBy (states : ServiceState → List ServiceState) (standing : ServiceState × Nat) :
    ServiceState × Nat :=
  match states standing.1 with
  | [] => standing
  | assigned => (assigned.getLastD standing.1, standing.2 + 1)

theorem raised_by_nil {states : ServiceState → List ServiceState} {standing : ServiceState × Nat}
    (silent : states standing.1 = []) : raisedBy states standing = standing := by
  simp only [raisedBy, silent]

theorem raised_by_state (states : ServiceState → List ServiceState)
    (standing : ServiceState × Nat) :
    (raisedBy states standing).1 = (states standing.1).getLastD standing.1 := by
  unfold raisedBy
  cases states standing.1 <;> rfl

theorem received_states_other {message : SlotMessage} {kind : MessageType}
    (msgType : msgTypeFromId message.header.msgid = some kind)
    (other : kind ≠ .openAck ∧ kind ≠ .close) (srvstate : ServiceState) :
    receivedStates message srvstate = [] := by
  unfold receivedStates
  rw [msgType]
  cases kind <;> simp at other ⊢

theorem open_acknowledged_standing {message : SlotMessage}
    (msgType : msgTypeFromId message.header.msgid = some .openAck) (remotePort : UInt32)
    (service : Service) :
    (service.openAcknowledged remotePort message).standing =
      raisedBy (receivedStates message) service.standing := by
  have states : receivedStates message service.srvstate =
      if service.srvstate = .opening then [.open] else [] := by
    unfold receivedStates
    rw [msgType]
    cases service.srvstate <;> rfl
  have same : raisedBy (receivedStates message) service.standing =
      if service.srvstate = .opening then (.open, service.removeEvent + 1)
      else service.standing := by
    simp only [raisedBy, Service.standing, states]
    split_ifs <;> rfl
  rw [same]
  unfold Service.openAcknowledged
  by_cases opening : service.srvstate = .opening
  · cases openAckVersion message <;> simp [opening, Service.standing]
  · cases openAckVersion message <;> simp [opening, Service.standing]

theorem close_received_standing {message : SlotMessage}
    (msgType : msgTypeFromId message.header.msgid = some .close) (service : Service) :
    service.closeReceived.standing = raisedBy (receivedStates message) service.standing := by
  unfold Service.closeReceived raisedBy receivedStates
  rw [msgType]
  cases srvstate : service.srvstate <;>
    simp [Service.standing, srvstate, Service.closeComplete, Service.free]

theorem dispatch_standing {inst next : Instance} {message : SlotMessage}
    (handled : dispatch inst message = .ok next) :
    next.state.standing = Function.update inst.state.standing (receiverRef message)
      ((inst.state.standing (receiverRef message)).map (raisedBy (receivedStates message))) := by
  have unmoved : ∀ kind, msgTypeFromId message.header.msgid = some kind →
      kind ≠ .openAck ∧ kind ≠ .close → next.state.standing = inst.state.standing →
      next.state.standing = Function.update inst.state.standing (receiverRef message)
        ((inst.state.standing (receiverRef message)).map (raisedBy (receivedStates message))) := by
    intro kind msgType other same
    have identity : raisedBy (receivedStates message) = id := by
      funext standing
      exact raised_by_nil (received_states_other msgType other standing.1)
    rw [identity, Option.map_id, id, Function.update_eq_self]
    exact same
  cases dispatch_cases handled with
  | connect msgType => exact unmoved .connect msgType (by decide) rfl
  | ignored msgType silent =>
      apply unmoved _ msgType _ rfl
      rcases silent with rfl | rfl | rfl <;> decide
  | acknowledged msgType _ =>
      exact standing_update inst.state _ (open_acknowledged_standing msgType _)
  | closed msgType _ _ =>
      exact standing_update inst.state _ (close_received_standing msgType)
  | dropped msgType _ _ => exact unmoved .data msgType (by decide) rfl
  | delivered msgType _ _ _ _ _ =>
      apply unmoved .data msgType (by decide)
      exact standing_update_same inst.state _ fun _ => rfl

theorem mark_closing_standing (state : State) (reference : ServiceRef) :
    (state.updateService reference Service.markClosing).standing = state.standing :=
  standing_update_same state reference fun _ => rfl

/-- What `close_service` has done when it reaches `queue_message` or its wait. -/
inductive Started (before : Instance) (handle : ServiceHandle) : CloserPhase → Instance → Prop
  where
  | missed (absent : before.state.serviceOf handle = none) : Started before handle .idle before
  | ended {reference : ServiceRef} {service : Service} {next : Instance}
      (found : before.state.serviceOf handle = some (reference, service))
      (silent : startStates service.srvstate = [])
      (same : next.state.standing = before.state.standing) : Started before handle .idle next
  | released {reference : ServiceRef} {service : Service} {next : Instance}
      (found : before.state.serviceOf handle = some (reference, service))
      (closable : service.srvstate = .closed ∨ service.srvstate = .closeWait)
      (freed : next.state.standing = Function.update before.state.standing reference
        (some (.free, service.removeEvent + 1))) :
      Started before handle (.waiting handle reference) next
  | begun {reference : ServiceRef} {service : Service} {again : Bool} {next : Instance}
      (found : before.state.serviceOf handle = some (reference, service))
      (usable : service.srvstate = .opening ∧ again = false ∨
        (service.srvstate = .openSync ∨ service.srvstate = .open) ∧ again = true)
      (same : next.state.standing = before.state.standing) :
      Started before handle (.sending handle reference service again) next

theorem released_standing {inst : Instance} {reference : ServiceRef} {service : Service}
    (stored : inst.state.srvState.service reference = some service)
    (closable : service.srvstate = .closed ∨ service.srvstate = .closeWait) :
    ((inst.updateService reference Service.markClosing).updateService reference
      Service.free).state.standing =
        Function.update inst.state.standing reference (some (.free, service.removeEvent + 1)) := by
  have freed : service.markClosing.free.standing = (.free, service.removeEvent + 1) := by
    rcases closable with closed | closeWait
    · simp [Service.free, Service.markClosing, Service.standing, closed]
    · simp [Service.free, Service.markClosing, Service.standing, closeWait]
  funext other
  by_cases same : other = reference
  · subst same
    rw [Function.update_self, ← freed]
    simp [State.standing, Instance.updateService, State.updateService, stored]
  · rw [Function.update_of_ne same]
    simp [State.standing, Instance.updateService, State.updateService, Ne.symm same]

theorem start_close_cases (inst : Instance) (handle : ServiceHandle) :
    Started inst handle (inst.startClose handle).1 (inst.startClose handle).2 := by
  unfold Instance.startClose
  cases found : inst.state.serviceOf handle with
  | none => exact .missed found
  | some target =>
      obtain ⟨reference, service⟩ := target
      have stored := (service_of_some found).1
      have marked := mark_closing_standing inst.state reference
      simp only
      cases srvstate : service.srvstate with
      | free | listening | hidden => exact .ended found (by rw [srvstate]; rfl) rfl
      | closeSent | closeRecvd => exact .ended found (by rw [srvstate]; rfl) marked
      | closed =>
          exact .released found (.inl srvstate) (released_standing stored (.inl srvstate))
      | closeWait =>
          exact .released found (.inr srvstate) (released_standing stored (.inr srvstate))
      | opening => exact .begun found (.inl ⟨srvstate, rfl⟩) marked
      | openSync => exact .begun found (.inr ⟨.inl srvstate, rfl⟩) marked
      | «open» => exact .begun found (.inr ⟨.inr srvstate, rfl⟩) marked

theorem Started.missing {before next : Instance} {handle : ServiceHandle} {phase : CloserPhase}
    (started : Started before handle phase next)
    (absent : before.state.serviceOf handle = none) :
    next.state.standing = before.state.standing := by
  cases started with
  | missed _ => rfl
  | ended found _ _ | released found _ _ | begun found _ _ => simp [absent] at found

theorem Started.standing {before next : Instance} {handle : ServiceHandle}
    {phase : CloserPhase} {target : ServiceRef × Service}
    (started : Started before handle phase next)
    (present : before.state.serviceOf handle = some target) :
    next.state.standing = Function.update before.state.standing target.1
      ((before.state.standing target.1).map (raisedBy startStates)) := by
  have stored := (service_of_some present).1
  have unmoved : startStates target.2.srvstate = [] →
      next.state.standing = before.state.standing → next.state.standing =
        Function.update before.state.standing target.1
          ((before.state.standing target.1).map (raisedBy startStates)) := by
    intro silent same
    rw [standing_some stored, Option.map_some, raised_by_nil silent, ← standing_some stored,
      Function.update_eq_self]
    exact same
  cases started with
  | missed absent => simp [absent] at present
  | ended found silent same =>
      rw [present, Option.some.injEq] at found
      subst found
      exact unmoved silent same
  | released found closable freed =>
      rw [present, Option.some.injEq] at found
      subst found
      rw [freed, standing_some stored, Option.map_some, raisedBy]
      rcases closable with closed | closeWait
      · simp [Service.standing, startStates, closed]
      · simp [Service.standing, startStates, closeWait]
  | begun found usable same =>
      rw [present, Option.some.injEq] at found
      subst found
      apply unmoved _ same
      rcases usable with ⟨opening, _⟩ | ⟨openSync | isOpen, _⟩
      · rw [opening]
        rfl
      · rw [openSync]
        rfl
      · rw [isOpen]
        rfl

theorem await_standing {inst next : Instance} {handle : ServiceHandle}
    {judge : ServiceHandle → ServiceState → Except VchiqError Unit}
    {result : Except VchiqError Unit}
    (polled : inst.awaitService handle judge = some (result, next)) :
    ∃ reference service, inst.state.serviceOf handle = some (reference, service) ∧
      result = judge handle service.srvstate ∧
      next.state.standing = Function.update inst.state.standing reference
        ((inst.state.standing reference).map fun standing => (standing.1, standing.2 - 1)) := by
  unfold Instance.awaitService at polled
  cases found : inst.state.serviceOf handle with
  | none => simp [found] at polled
  | some target =>
      obtain ⟨reference, service⟩ := target
      simp only [found] at polled
      split_ifs at polled
      simp only [Option.some.injEq, Prod.mk.injEq] at polled
      obtain ⟨rfl, rfl⟩ := polled
      exact ⟨reference, service, rfl, rfl, standing_update inst.state reference fun _ => rfl⟩

/-- A step that names no change and keeps every state. -/
theorem records_unchanged {label : ClosingLabel} {before after : Instance}
    (silent : label.change = none)
    (kept : ∀ reference standing, before.state.standing reference = some standing →
      ∃ count, after.state.standing reference = some (standing.1, count)) :
    label.Records before after := by
  intro reference service stored
  obtain ⟨count, present⟩ := kept reference _ (standing_some stored)
  obtain ⟨later, found, same⟩ := standing_of_some present
  constructor
  · intro change isSome
    rw [silent] at isSome
    simp at isSome
  · refine ⟨later, found, ?_⟩
    rw [ClosingLabel.stateAfter, silent]
    exact congrArg Prod.fst same

/-- A step that changes one service as its label says. -/
theorem records_change {label : ClosingLabel} {before after : Instance}
    {reference : ServiceRef} (states : ServiceState → List ServiceState)
    {advance : ServiceState × Nat → ServiceState × Nat}
    (named : label.change = before.recordChange reference states)
    (advanced : after.state.standing = Function.update before.state.standing reference
      ((before.state.standing reference).map advance))
    (last : ∀ standing, (advance standing).1 = (states standing.1).getLastD standing.1) :
    label.Records before after := by
  intro other service stored
  by_cases same : other = reference
  · subst same
    have change : label.change = some ⟨other, service.srvstate, states service.srvstate⟩ := by
      rw [named, Instance.recordChange, stored, Option.map_some]
    have present : after.state.standing other = some (advance service.standing) := by
      rw [advanced, Function.update_self, standing_some stored, Option.map_some]
    obtain ⟨later, found, final⟩ := standing_of_some present
    constructor
    · intro change' isSome _
      rw [change, Option.some.injEq] at isSome
      rw [← isSome]
    · refine ⟨later, found, ?_⟩
      simp only [ClosingLabel.stateAfter, change, if_true]
      exact (congrArg Prod.fst final).trans (last service.standing)
  · have present : after.state.standing other = some service.standing := by
      rw [advanced, Function.update_of_ne same, standing_some stored]
    obtain ⟨later, found, final⟩ := standing_of_some present
    have elsewhere : ∀ change, label.change = some change → change.reference = reference := by
      intro change isSome
      rw [named] at isSome
      obtain ⟨_, _, rfl⟩ := Option.map_eq_some_iff.mp isSome
      rfl
    constructor
    · intro change isSome here
      exact absurd (here.symm.trans (elsewhere change isSome)) same
    · refine ⟨later, found, ?_⟩
      have state : later.srvstate = service.srvstate := congrArg Prod.fst final
      rw [state, ClosingLabel.stateAfter]
      cases isSome : label.change with
      | none => rfl
      | some change =>
          have different : change.reference ≠ other := by
            rw [elsewhere change isSome]
            exact Ne.symm same
          simp only [if_neg different]

theorem queue_close_inst (inst : Instance) (handle : ServiceHandle) (reference : ServiceRef)
    (service : Service) (again : Bool) :
    (inst.queueClose handle reference service again).2 =
      (inst.send (some reference) (closeCall reference service)).2 := by
  unfold Instance.queueClose
  rcases inst.send (some reference) (closeCall reference service) with ⟨result | _, next⟩
  · cases result <;> rfl
  · rfl

theorem start_close_maintains (inst : Instance) (handle : ServiceHandle) :
    Maintains inst (inst.startClose handle).2 := by
  unfold Instance.startClose
  cases inst.state.serviceOf handle with
  | none => exact (Effect.refl inst).maintains
  | some target =>
      obtain ⟨reference, service⟩ := target
      have marked := mark_closing_quiet.maintains inst reference
      simp only
      cases service.srvstate with
      | free | listening | hidden => exact (Effect.refl inst).maintains
      | closed | closeWait => exact marked.trans (free_quiet.maintains _ reference)
      | _ => exact marked

theorem queue_data_maintains (inst : Instance) (handle : ServiceHandle) (data : Payload) :
    Maintains inst (inst.queueMessage handle data).2 := by
  unfold Instance.queueMessage
  cases inst.state.serviceOf handle with
  | none => exact (Effect.refl inst).maintains
  | some target => exact send_maintains inst _ _

/-- The handle belongs to the entry. -/
def State.Named (state : State) (handle : ServiceHandle) (reference : ServiceRef) : Prop :=
  ∃ endpoint, state.endpoints reference = some endpoint ∧ endpoint.handle = handle

/-- The table is in order, and handles keep their entries. -/
structure TableKept (before after : Registry) : Prop where
  table : ∃ history, TableInvariant history after
  named : ∀ handle reference, before.inst.state.Named handle reference →
    after.inst.state.Named handle reference

theorem Maintains.named {before after : Instance} (maintains : Maintains before after)
    {handle : ServiceHandle} {reference : ServiceRef}
    (named : before.state.Named handle reference) : after.state.Named handle reference := by
  obtain ⟨endpoint, present, rfl⟩ := named
  obtain ⟨later, stored, identity, _⟩ := maintains.evolves.later present
  exact ⟨later, stored, congrArg (fun parts => parts.2.1) identity⟩

theorem Maintains.table_kept {registry : Registry} {next : Instance}
    (table : ∃ history, TableInvariant history registry)
    (maintains : Maintains registry.inst next) : TableKept registry (registry.withInst next) := by
  obtain ⟨history, inv⟩ := table
  have plain : RegistryLabel.Plain (.awaited 0) := fun _ _ => by simp
  exact ⟨⟨_, inv.maintained maintains plain (Nat.le_refl _)⟩, fun _ _ named =>
    maintains.named named⟩

theorem registry_step_named {before after : Registry} {label : RegistryLabel}
    {history : List RegistryLabel} (inv : TableInvariant history before)
    (step : RegistryStep before label after) {handle : ServiceHandle} {reference : ServiceRef}
    (named : before.inst.state.Named handle reference) :
    after.inst.state.Named handle reference := by
  cases step with
  | added _ addition =>
      obtain ⟨port, _, added⟩ := add_service_ok inv.registered addition
      obtain ⟨endpoint, present, same⟩ := named
      have differs : reference ≠ port := by
        rintro rfl
        rw [added.vacant] at present
        simp at present
      refine ⟨endpoint, ?_, same⟩
      simp only [added.endpoints, Function.update_of_ne differs, present]
  | refused _ => exact named
  | opened handle => exact (begin_open_maintains _ handle).named named
  | closed handle => exact (begin_close_maintains _ handle).named named
  | awaited polled => exact (await_maintains polled).named named
  | received handled =>
      have received := dispatched_received inv.registered.consistent (dispatch_cases handled)
      exact (received_maintains received).named named

theorem closing_step_table {before after : ClosingState} {label : ClosingLabel}
    (table : ∃ history, TableInvariant history before.registry)
    (step : ClosingStep before label after) : TableKept before.registry after.registry := by
  cases step with
  | aside _ step =>
      obtain ⟨history, inv⟩ := table
      exact ⟨⟨_, table_step inv step⟩, fun _ _ named => registry_step_named inv step named⟩
  | wrote handle data => exact (queue_data_maintains _ handle data).table_kept table
  | started handle _ => exact (start_close_maintains _ handle).table_kept table
  | queued _ _ =>
      rw [queue_close_inst]
      exact (send_maintains _ _ _).table_kept table
  | unqueued _ _ =>
      rw [queue_close_inst]
      exact (send_maintains _ _ _).table_kept table
  | finished _ => exact (set_close_sent_quiet.maintains _ _).table_kept table
  | returned _ polled => exact (await_maintains polled).table_kept table
  | received handled =>
      obtain ⟨history, inv⟩ := table
      have received := dispatched_received inv.registered.consistent (dispatch_cases handled)
      exact (received_maintains received).table_kept ⟨history, inv⟩

/-- A step of another task sets no state of a service that is there, and while a close is
under way it takes no semaphore. A new service is in state OPENING. -/
structure AsideStanding (closer : CloserPhase) (before after : State) : Prop where
  kept : ∀ reference standing, before.standing reference = some standing →
    ∃ count, after.standing reference = some (standing.1, count) ∧
      (closer ≠ .idle → count = standing.2)
  fresh : ∀ reference standing, after.standing reference = some standing →
    standing.1 = .opening ∨ ∃ count, before.standing reference = some (standing.1, count)

theorem AsideStanding.of_same {closer : CloserPhase} {before after : State}
    (same : after.standing = before.standing) : AsideStanding closer before after := by
  constructor
  · intro reference standing present
    exact ⟨standing.2, by rw [same, present], fun _ => rfl⟩
  · intro reference standing present
    rw [same] at present
    exact .inr ⟨standing.2, present⟩

theorem aside_standing {before after : Registry} {label : RegistryLabel} {closer : CloserPhase}
    {history : List RegistryLabel} (inv : TableInvariant history before)
    (beside : label.Beside closer) (step : RegistryStep before label after) :
    AsideStanding closer before.inst.state after.inst.state := by
  cases step with
  | @added params _ _ _ addition =>
      obtain ⟨index, chosen, within, rfl⟩ := add_service_cases addition
      have vacant := (free_index_empty inv.registered chosen).2
      have here := standing_some (entered_here before.inst.state params before.nextHandle within)
      have elsewhere : ∀ other, other ≠ index →
          (before.inst.state.entered params before.nextHandle index).standing other =
            before.inst.state.standing other := by
        intro other differs
        rw [State.standing, entered_elsewhere _ _ _ differs, State.standing]
      constructor
      · intro reference standing present
        obtain ⟨service, stored, _⟩ := standing_of_some present
        have differs : reference ≠ index := by
          rintro rfl
          rw [endpoints_some stored] at vacant
          simp at vacant
        exact ⟨standing.2, (elsewhere reference differs).trans present, fun _ => rfl⟩
      · intro reference standing present
        by_cases same : reference = index
        · subst same
          rw [here, Option.some.injEq] at present
          rw [← present]
          exact .inl rfl
        · exact .inr ⟨standing.2, (elsewhere reference same).symm.trans present⟩
  | refused _ => exact .of_same rfl
  | opened handle =>
      apply AsideStanding.of_same
      unfold Instance.beginOpen
      cases before.inst.state.serviceOf handle with
      | none => rfl
      | some target => exact send_standing (.inl rfl) rfl
  | closed _ => exact beside.elim
  | received _ => exact beside.elim
  | awaited polled =>
      obtain ⟨reference, service, _, _, taken⟩ := await_standing polled
      constructor
      · intro other standing present
        by_cases same : other = reference
        · subst same
          refine ⟨standing.2 - 1, ?_, fun busy => absurd beside busy⟩
          simp only [taken, Function.update_self, present, Option.map_some]
        · refine ⟨standing.2, ?_, fun _ => rfl⟩
          simp only [taken, Function.update_of_ne same, present]
      · intro other standing present
        right
        by_cases same : other = reference
        · subst same
          simp only [taken, Function.update_self] at present
          obtain ⟨old, found, rfl⟩ := Option.map_eq_some_iff.mp present
          exact ⟨old.2, found⟩
        · simp only [taken, Function.update_of_ne same] at present
          exact ⟨standing.2, present⟩

/-- DATA changes no state. -/
theorem queue_data_standing {registry : Registry} {history : List RegistryLabel}
    (inv : TableInvariant history registry) (handle : ServiceHandle) (data : Payload) :
    (registry.inst.queueMessage handle data).2.state.standing =
      registry.inst.state.standing := by
  unfold Instance.queueMessage
  cases found : registry.inst.state.serviceOf handle with
  | none => rfl
  | some target =>
      obtain ⟨reference, service⟩ := target
      have stored := (service_of_some found).1
      have isData := msg_type_make_spill .data service.localport service.remoteport
        (inv.registered.port_lt stored)
        (inv.registered.remotes reference _ (endpoints_some stored))
      have plain : msgTypeFromId (dataCall reference service data).msgId ≠ some .close := by
        rw [show (dataCall reference service data).msgId =
          makeMsgId .data service.localport service.remoteport from rfl, isData]
        simp
      exact send_standing (.inr plain) rfl

end RuspiroVchiq.Vchiq
