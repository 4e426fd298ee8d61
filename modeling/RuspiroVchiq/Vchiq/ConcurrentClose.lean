import RuspiroVchiq.Vchiq.CloseSections

/-!
# The life of a service under a concurrent close

Every change of a service's state along the runs of `close_service` next to
`slot_handler`. For an open service CLOSESENT is set twice, under the guard of the
slot state and once more after it was given back. An answer that is handled between
the two is overwritten. A CLOSE of the VideoCore that crosses the one of this side
while the service is still in state OPENING is overwritten too.
-/

namespace RuspiroVchiq.Vchiq

open RuspiroVchiq.Config
open RuspiroVchiq.Shared
open RuspiroVchiq.Transmit
open RuspiroVchiq.Lib.LabelledRun

set_option autoImplicit false

/-- The changes of a state in the life of a service. -/
def ServiceState.successors : ServiceState → List ServiceState
  | .opening => [.open, .closeWait, .closeSent]
  | .open => [.closeSent]
  | .closeSent => [.closed]
  | .closed | .closeWait => [.free]
  | _ => []

def StateChange.InOrder (change : StateChange) : Prop :=
  List.IsChain (fun old new => new = old ∨ new ∈ old.successors) (change.old :: change.assigned)

instance (change : StateChange) : Decidable change.InOrder :=
  inferInstanceAs (Decidable (List.IsChain _ _))

/-- A CLOSE of the VideoCore has moved the service to FREE. -/
def ClosingLabel.Answers (reference : ServiceRef) : ClosingLabel → Prop
  | .received _ (some change) => change.reference = reference ∧ .free ∈ change.assigned
  | _ => False

structure LifecycleKept (labels : List ClosingLabel) (reached : ClosingState) : Prop where
  inOrder : ∀ label ∈ labels, ∀ change, label.change = some change → change.InOrder
  answered : ∀ handle reference result, .returned handle reference result ∈ labels →
    Seen labels (ClosingLabel.Answers reference) → result = .ok ()
  /-- A call that has its answer returns when it is polled next. -/
  wakes : ∀ handle reference, reached.closer = .waiting handle reference →
    Seen labels (ClosingLabel.Answers reference) →
      ∃ next, reached.registry.inst.awaitService handle closeResult = some (.ok (), next)
  /-- The labels record every change. -/
  recorded : ∀ label after, ClosingStep reached label after →
    label.Records reached.registry.inst after.registry.inst

/-- The CLOSE of the VideoCore is handled in state CLOSESENT while `close_service` waits
for it, and in state OPENING only while `close_service` has not read that state to queue
its own CLOSE. -/
def Unraced (before : ClosingState) : ClosingLabel → Prop
  | .received message _ => msgTypeFromId message.header.msgid = some .close →
      ∀ service, before.registry.inst.state.srvState.service (receiverRef message) =
        some service →
          (service.srvstate = .closeSent →
            ∃ handle, before.closer = .waiting handle (receiverRef message)) ∧
          (service.srvstate = .opening →
            ∀ handle snapshot again,
              before.closer ≠ .sending handle (receiverRef message) snapshot again)
  | _ => True

def State.InState (state : State) (reference : ServiceRef) (srvstate : ServiceState) : Prop :=
  ∃ count, state.standing reference = some (srvstate, count)

theorem in_state_unique {state : State} {reference : ServiceRef} {one other : ServiceState}
    (first : state.InState reference one) (second : state.InState reference other) :
    one = other := by
  obtain ⟨_, present⟩ := first
  obtain ⟨_, stored⟩ := second
  rw [present, Option.some.injEq] at stored
  exact congrArg Prod.fst stored

/-- What the sections of an undisturbed close rely on. -/
def CloserPhase.Kept (state : State) : CloserPhase → Prop
  | .idle => True
  | .sending handle reference service again =>
      state.Named handle reference ∧
        msgTypeFromId (closeCall reference service).msgId = some .close ∧
        (state.InState reference .open ∨ again = false ∧ state.InState reference .opening)
  | .sent handle reference => state.Named handle reference ∧ state.InState reference .closeSent
  | .waiting handle reference =>
      state.Named handle reference ∧
        (state.InState reference .closeSent ∨
          ∃ count, state.standing reference = some (.free, count + 1))

/-- The states services are in between the steps. -/
def settledStates : List ServiceState := [.opening, .open, .closeWait, .closeSent, .free]

structure CloseInvariant (labels : List ClosingLabel) (reached : ClosingState) : Prop where
  table : ∃ history, TableInvariant history reached.registry
  inOrder : ∀ label ∈ labels, ∀ change, label.change = some change → change.InOrder
  settled : ∀ reference standing, reached.registry.inst.state.standing reference =
    some standing → standing.1 ∈ settledStates
  phase : reached.closer.Kept reached.registry.inst.state
  answered : ∀ reference, Seen labels (ClosingLabel.Answers reference) →
    reached.registry.inst.state.InState reference .free
  /-- A call that returned early has left its service in state CLOSESENT. -/
  early : ∀ handle reference error, .returned handle reference (.error error) ∈ labels →
    reached.registry.inst.state.InState reference .closeSent ∧
      reached.closer.reference ≠ some reference

/-- What a step has to show beyond its effect on the table. -/
theorem CloseInvariant.extend {labels : List ClosingLabel} {before after : ClosingState}
    {label : ClosingLabel} (inv : CloseInvariant labels before)
    (step : ClosingStep before label after)
    (inOrder : ∀ change, label.change = some change → change.InOrder)
    (settled : ∀ reference standing, after.registry.inst.state.standing reference =
      some standing → standing.1 ∈ settledStates)
    (phase : after.closer.Kept after.registry.inst.state)
    (answered : ∀ reference, before.registry.inst.state.InState reference .free ∨
      label.Answers reference → after.registry.inst.state.InState reference .free)
    (early : ∀ reference, before.registry.inst.state.InState reference .closeSent ∧
        before.closer.reference ≠ some reference ∨
        (∃ handle error, label = .returned handle reference (.error error)) →
      after.registry.inst.state.InState reference .closeSent ∧
        after.closer.reference ≠ some reference) :
    CloseInvariant (labels ++ [label]) after := by
  constructor
  · exact (closing_step_table inv.table step).table
  · intro other member
    rw [List.mem_append, List.mem_singleton] at member
    rcases member with earlier | rfl
    · exact inv.inOrder other earlier
    · exact inOrder
  · exact settled
  · exact phase
  · intro reference seen
    apply answered
    rcases (seen_snoc _ _ _).mp seen with earlier | last
    · exact .inl (inv.answered reference earlier)
    · exact .inr last
  · intro handle reference error member
    apply early
    rw [List.mem_append, List.mem_singleton] at member
    rcases member with earlier | last
    · exact .inl (inv.early handle reference error earlier)
    · exact .inr ⟨handle, error, last.symm⟩

/-- Where nothing is taken from a semaphore, the phase of the call stays as it is. -/
theorem CloserPhase.Kept.carried {before after : State} {closer : CloserPhase}
    (kept : closer.Kept before)
    (named : ∀ handle reference, before.Named handle reference → after.Named handle reference)
    (same : ∀ reference standing, closer.reference = some reference →
      before.standing reference = some standing → after.standing reference = some standing) :
    closer.Kept after := by
  cases closer with
  | idle => trivial
  | sending handle reference service again =>
      obtain ⟨belongs, isClose, state⟩ := kept
      refine ⟨named _ _ belongs, isClose, ?_⟩
      rcases state with ⟨count, isOpen⟩ | ⟨notAgain, count, opening⟩
      · exact .inl ⟨count, same _ _ rfl isOpen⟩
      · exact .inr ⟨notAgain, count, same _ _ rfl opening⟩
  | sent handle reference =>
      obtain ⟨belongs, count, sent⟩ := kept
      exact ⟨named _ _ belongs, count, same _ _ rfl sent⟩
  | waiting handle reference =>
      obtain ⟨belongs, state⟩ := kept
      refine ⟨named _ _ belongs, ?_⟩
      rcases state with ⟨count, sent⟩ | ⟨count, free⟩
      · exact .inl ⟨count, same _ _ rfl sent⟩
      · exact .inr ⟨count, same _ _ rfl free⟩

theorem CloseInvariant.aside {labels : List ClosingLabel} {before after : ClosingState}
    {label : ClosingLabel} (inv : CloseInvariant labels before)
    (step : ClosingStep before label after) (sameCloser : after.closer = before.closer)
    (standing : AsideStanding before.closer before.registry.inst.state
      after.registry.inst.state)
    (inOrder : ∀ change, label.change = some change → change.InOrder)
    (unanswered : ∀ reference, ¬label.Answers reference)
    (notReturned : ∀ handle reference result, label ≠ .returned handle reference result) :
    CloseInvariant (labels ++ [label]) after := by
  have kept : ∀ reference srvstate, before.registry.inst.state.InState reference srvstate →
      after.registry.inst.state.InState reference srvstate := by
    rintro reference srvstate ⟨count, present⟩
    obtain ⟨later, stored, _⟩ := standing.kept reference _ present
    exact ⟨later, stored⟩
  apply inv.extend step inOrder
  · intro reference later present
    rcases standing.fresh reference later present with opening | ⟨count, stored⟩
    · rw [opening]
      decide
    · exact inv.settled reference (later.1, count) stored
  · rw [sameCloser]
    apply inv.phase.carried (closing_step_table inv.table step).named
    intro reference old busy present
    obtain ⟨count, stored, same⟩ := standing.kept reference old present
    have notIdle : before.closer ≠ .idle := by
      intro idle
      rw [idle] at busy
      simp [CloserPhase.reference] at busy
    rw [stored, same notIdle]
  · intro reference cause
    rcases cause with free | answers
    · exact kept reference .free free
    · exact absurd answers (unanswered reference)
  · intro reference cause
    rcases cause with ⟨sent, elsewhere⟩ | ⟨handle, error, returned⟩
    · rw [sameCloser]
      exact ⟨kept reference .closeSent sent, elsewhere⟩
    · exact absurd returned (notReturned handle reference _)

theorem recorded_change {inst : Instance} {reference : ServiceRef} {service : Service}
    {states : ServiceState → List ServiceState} {change : StateChange}
    (stored : inst.state.srvState.service reference = some service)
    (isSome : inst.recordChange reference states = some change) :
    change = ⟨reference, service.srvstate, states service.srvstate⟩ := by
  rw [Instance.recordChange, stored, Option.map_some, Option.some.injEq] at isSome
  exact isSome.symm

theorem start_in_order (reference : ServiceRef) (srvstate : ServiceState) :
    StateChange.InOrder ⟨reference, srvstate, startStates srvstate⟩ := by
  cases srvstate <;> simp [StateChange.InOrder, startStates, ServiceState.successors]

theorem received_in_order (reference : ServiceRef) (message : SlotMessage)
    (srvstate : ServiceState) :
    StateChange.InOrder ⟨reference, srvstate, receivedStates message srvstate⟩ := by
  unfold receivedStates
  split <;> simp [StateChange.InOrder, ServiceState.successors]

/-- The service whose entry is changed and the other ones. -/
theorem in_state_elsewhere {before after : State} {reference other : ServiceRef}
    {entry : Option (ServiceState × Nat)} {srvstate : ServiceState}
    (updated : after.standing = Function.update before.standing reference entry)
    (differs : other ≠ reference) (present : before.InState other srvstate) :
    after.InState other srvstate := by
  obtain ⟨count, stored⟩ := present
  exact ⟨count, by rw [updated, Function.update_of_ne differs, stored]⟩

theorem ne_of_in_state {state : State} {reference other : ServiceRef}
    {one another : ServiceState} (first : state.InState reference one)
    (second : state.InState other another) (differ : another ≠ one) : other ≠ reference := by
  rintro rfl
  exact differ (in_state_unique second first)

theorem in_state_some {state : State} {reference : ServiceRef} {service : Service}
    (stored : state.srvState.service reference = some service) :
    state.InState reference service.srvstate :=
  ⟨service.removeEvent, standing_some stored⟩

theorem service_of_named {state : State} {handle : ServiceHandle} {reference : ServiceRef}
    {service : Service} (found : state.serviceOf handle = some (reference, service)) :
    state.Named handle reference := by
  obtain ⟨stored, handle⟩ := service_of_some found
  exact ⟨service.endpoint, endpoints_some stored, handle⟩

/-- One entry is changed, and the new state of it is among the settled ones. -/
theorem settled_updated {before after : State} {reference : ServiceRef}
    {entry : Option (ServiceState × Nat)}
    (settled : ∀ other standing, before.standing other = some standing →
      standing.1 ∈ settledStates)
    (updated : after.standing = Function.update before.standing reference entry)
    (here : ∀ standing, entry = some standing → standing.1 ∈ settledStates)
    (other : ServiceRef) (standing : ServiceState × Nat)
    (present : after.standing other = some standing) : standing.1 ∈ settledStates := by
  rw [updated] at present
  by_cases same : other = reference
  · subst same
    rw [Function.update_self] at present
    exact here standing present
  · rw [Function.update_of_ne same] at present
    exact settled other standing present

theorem start_recorded {inst : Instance} {handle : ServiceHandle} {reference : ServiceRef}
    {service : Service} (found : inst.state.serviceOf handle = some (reference, service))
    (change : StateChange)
    (isSome : ((inst.state.serviceOf handle).bind fun target =>
      inst.recordChange target.1 startStates) = some change) : change.InOrder := by
  rw [found, Option.bind_some] at isSome
  rw [recorded_change (service_of_some found).1 isSome]
  exact start_in_order _ _

/-- The call finds its service closed and releases it. -/
theorem CloseInvariant.started_released {labels : List ClosingLabel} {before : ClosingState}
    {handle : ServiceHandle} {change : Option StateChange} {reference : ServiceRef}
    {service : Service} {next : Instance} (inv : CloseInvariant labels before)
    (step : ClosingStep before (.started handle change)
      { registry := before.registry.withInst next, closer := .waiting handle reference })
    (inOrder : ∀ recorded, change = some recorded → recorded.InOrder)
    (found : before.registry.inst.state.serviceOf handle = some (reference, service))
    (closable : service.srvstate = .closed ∨ service.srvstate = .closeWait)
    (freed : next.state.standing = Function.update before.registry.inst.state.standing reference
      (some (.free, service.removeEvent + 1))) :
    CloseInvariant (labels ++ [.started handle change])
      { registry := before.registry.withInst next, closer := .waiting handle reference } := by
  have named := (closing_step_table inv.table step).named
  have state := in_state_some (service_of_some found).1
  obtain ⟨notFree, notSent⟩ : service.srvstate ≠ .free ∧ service.srvstate ≠ .closeSent := by
    rcases closable with closed | closeWait
    · simp [closed]
    · simp [closeWait]
  apply inv.extend step inOrder
  · apply settled_updated inv.settled freed
    intro standing new
    rw [← Option.some.inj new]
    simp [settledStates]
  · refine ⟨named _ _ (service_of_named found), .inr ⟨service.removeEvent, ?_⟩⟩
    simp only [Registry.withInst, freed, Function.update_self]
  · rintro other (free | answers)
    · exact in_state_elsewhere freed (ne_of_in_state state free (Ne.symm notFree)) free
    · exact answers.elim
  · rintro other (⟨sent, _⟩ | ⟨_, _, returned⟩)
    · have differs := ne_of_in_state state sent (Ne.symm notSent)
      refine ⟨in_state_elsewhere freed differs sent, ?_⟩
      simp [CloserPhase.reference, Ne.symm differs]
    · simp at returned

/-- The call has marked its service and goes on to `queue_message`. -/
theorem CloseInvariant.started_begun {labels : List ClosingLabel} {before : ClosingState}
    {handle : ServiceHandle} {change : Option StateChange} {reference : ServiceRef}
    {service : Service} {again : Bool} {next : Instance} (inv : CloseInvariant labels before)
    (step : ClosingStep before (.started handle change)
      { registry := before.registry.withInst next
        closer := .sending handle reference service again })
    (inOrder : ∀ recorded, change = some recorded → recorded.InOrder)
    (found : before.registry.inst.state.serviceOf handle = some (reference, service))
    (usable : service.srvstate = .opening ∧ again = false ∨
      (service.srvstate = .openSync ∨ service.srvstate = .open) ∧ again = true)
    (same : next.state.standing = before.registry.inst.state.standing) :
    CloseInvariant (labels ++ [.started handle change])
      { registry := before.registry.withInst next
        closer := .sending handle reference service again } := by
  have named := (closing_step_table inv.table step).named
  obtain ⟨history, table⟩ := inv.table
  have stored := (service_of_some found).1
  have state := in_state_some stored
  have settled := inv.settled reference _ (standing_some stored)
  have isOpen : service.srvstate = .open ∨ again = false ∧ service.srvstate = .opening := by
    rcases usable with ⟨opening, notAgain⟩ | ⟨openSync | isOpen, _⟩
    · exact .inr ⟨notAgain, opening⟩
    · simp only [Service.standing, openSync] at settled
      exact absurd settled (by decide)
    · exact .inl isOpen
  have notSent : service.srvstate ≠ .closeSent := by
    rcases isOpen with isOpen | ⟨_, opening⟩
    · simp [isOpen]
    · simp [opening]
  have kept : ∀ other srvstate, before.registry.inst.state.InState other srvstate →
      next.state.InState other srvstate := by
    rintro other srvstate ⟨count, present⟩
    exact ⟨count, by rw [same, present]⟩
  apply inv.extend step inOrder
  · intro other standing present
    simp only [Registry.withInst, same] at present
    exact inv.settled other standing present
  · refine ⟨named _ _ (service_of_named found),
      close_call_type reference (table.registered.port_lt stored), ?_⟩
    have later := kept reference service.srvstate state
    rcases isOpen with isOpen | ⟨notAgain, opening⟩
    · rw [isOpen] at later
      exact .inl later
    · rw [opening] at later
      exact .inr ⟨notAgain, later⟩
  · rintro other (free | answers)
    · exact kept other .free free
    · exact answers.elim
  · rintro other (⟨sent, _⟩ | ⟨_, _, returned⟩)
    · refine ⟨kept other .closeSent sent, ?_⟩
      have differs := ne_of_in_state state sent (Ne.symm notSent)
      simp [CloserPhase.reference, Ne.symm differs]
    · simp at returned

theorem CloseInvariant.started {labels : List ClosingLabel} {before : ClosingState}
    (inv : CloseInvariant labels before) (handle : ServiceHandle)
    (idle : before.closer = .idle) :
    CloseInvariant (labels ++ [.started handle
        ((before.registry.inst.state.serviceOf handle).bind fun target =>
          before.registry.inst.recordChange target.1 startStates)])
      { registry := before.registry.withInst (before.registry.inst.startClose handle).2
        closer := (before.registry.inst.startClose handle).1 } := by
  have step := ClosingStep.started handle idle
  have started := start_close_cases before.registry.inst handle
  revert step
  generalize before.registry.inst.startClose handle = result at started ⊢
  obtain ⟨phase, next⟩ := result
  intro step
  cases started with
  | missed absent =>
      apply inv.aside step idle.symm (.of_same rfl)
      · simp [ClosingLabel.change, absent]
      · simp [ClosingLabel.Answers]
      · simp
  | ended found silent same =>
      apply inv.aside step idle.symm (.of_same same) (start_recorded found)
      · simp [ClosingLabel.Answers]
      · simp
  | released found closable freed =>
      exact inv.started_released step (start_recorded found) found closable freed
  | begun found usable same =>
      exact inv.started_begun step (start_recorded found) found usable same

/-- CLOSESENT is set for the service of the close. -/
theorem CloseInvariant.close_sent {labels : List ClosingLabel} {before after : ClosingState}
    {label : ClosingLabel} {reference : ServiceRef} {srvstate : ServiceState}
    (inv : CloseInvariant labels before) (step : ClosingStep before label after)
    (present : before.registry.inst.state.InState reference srvstate)
    (usable : srvstate = .open ∨ srvstate = .opening ∨ srvstate = .closeSent)
    (named : label.change = before.registry.inst.recordChange reference fun _ => [.closeSent])
    (standing : after.registry.inst.state.standing =
      Function.update before.registry.inst.state.standing reference
        ((before.registry.inst.state.standing reference).map
          fun standing => (.closeSent, standing.2)))
    (phase : after.registry.inst.state.InState reference .closeSent →
      after.closer.Kept after.registry.inst.state)
    (sameClose : before.closer.reference = some reference ∧
      after.closer.reference = some reference)
    (unanswered : ∀ reference, ¬label.Answers reference)
    (notReturned : ∀ handle reference result, label ≠ .returned handle reference result) :
    CloseInvariant (labels ++ [label]) after := by
  obtain ⟨count, stored⟩ := present
  obtain ⟨service, found, same⟩ := standing_of_some stored
  have state : service.srvstate = srvstate := congrArg Prod.fst same
  rw [stored, Option.map_some] at standing
  have notFree : srvstate ≠ .free := by
    rcases usable with rfl | rfl | rfl <;> decide
  apply inv.extend step
  · intro change isSome
    rw [named] at isSome
    rw [recorded_change found isSome, state]
    rcases usable with rfl | rfl | rfl <;>
      simp [StateChange.InOrder, ServiceState.successors]
  · apply settled_updated inv.settled standing
    intro later new
    rw [← Option.some.inj new]
    simp [settledStates]
  · exact phase ⟨count, by rw [standing, Function.update_self]⟩
  · rintro other (free | answers)
    · exact in_state_elsewhere standing
        (ne_of_in_state ⟨count, stored⟩ free (Ne.symm notFree)) free
    · exact absurd answers (unanswered other)
  · rintro other (⟨sent, elsewhere⟩ | ⟨handle, error, returned⟩)
    · rw [sameClose.2, ← sameClose.1]
      refine ⟨in_state_elsewhere standing ?_ sent, elsewhere⟩
      rintro rfl
      exact elsewhere sameClose.1
    · exact absurd returned (notReturned handle other _)

theorem CloseInvariant.queued {labels : List ClosingLabel} {before : ClosingState}
    {handle : ServiceHandle} {reference : ServiceRef} {service : Service} {again : Bool}
    {sent : Option Outgoing} {next : Instance} (inv : CloseInvariant labels before)
    (ready : before.closer = .sending handle reference service again)
    (polled : before.registry.inst.send (some reference) (closeCall reference service) =
      (.ok sent, next)) :
    CloseInvariant (labels ++ [.queued (before.registry.inst.recordChange reference
        fun _ => [.closeSent])])
      { registry := before.registry.withInst
          (before.registry.inst.queueClose handle reference service again).2
        closer := (before.registry.inst.queueClose handle reference service again).1 } := by
  have step := ClosingStep.queued ready polled
  have table := closing_step_table inv.table step
  have phase := inv.phase
  rw [ready] at phase
  obtain ⟨belongs, isClose, state⟩ := phase
  have result : before.registry.inst.queueClose handle reference service again =
      (if again then .sent handle reference else .waiting handle reference, next) := by
    simp only [Instance.queueClose, polled]
  rw [result] at step table ⊢
  have standing := send_close_standing isClose polled
  have kept : next.state.InState reference .closeSent →
      (if again then CloserPhase.sent handle reference
        else .waiting handle reference).Kept next.state := by
    intro present
    cases again with
    | false => exact ⟨table.named _ _ belongs, .inl present⟩
    | true => exact ⟨table.named _ _ belongs, present⟩
  have sameClose : before.closer.reference = some reference ∧
      (if again then CloserPhase.sent handle reference
        else .waiting handle reference).reference = some reference := by
    rw [ready]
    cases again <;> exact ⟨rfl, rfl⟩
  rcases state with isOpen | ⟨_, opening⟩
  · exact inv.close_sent step isOpen (.inl rfl) rfl standing kept sameClose (by simp
      [ClosingLabel.Answers]) (by simp)
  · exact inv.close_sent step opening (.inr (.inl rfl)) rfl standing kept sameClose (by simp
      [ClosingLabel.Answers]) (by simp)

theorem CloseInvariant.unqueued {labels : List ClosingLabel} {before : ClosingState}
    {handle : ServiceHandle} {reference : ServiceRef} {service : Service} {again : Bool}
    {stop : Stop} {next : Instance} (inv : CloseInvariant labels before)
    (ready : before.closer = .sending handle reference service again)
    (polled : before.registry.inst.send (some reference) (closeCall reference service) =
      (.error stop, next)) :
    CloseInvariant (labels ++ [.unqueued])
      { registry := before.registry.withInst
          (before.registry.inst.queueClose handle reference service again).2
        closer := (before.registry.inst.queueClose handle reference service again).1 } := by
  have step := ClosingStep.unqueued ready polled
  have phase := inv.phase
  rw [ready] at phase
  -- a CLOSE is never refused
  have result : before.registry.inst.queueClose handle reference service again =
      (.idle, next) := by
    simp only [Instance.queueClose, polled]
    cases stop with
    | error refused =>
        have isData := (send_refused polled).2.2.2
        rw [phase.2.1] at isData
        simp at isData
    | _ => rfl
  rw [result] at step ⊢
  obtain ⟨_, _, _, rfl⟩ := send_failed polled
  apply inv.extend step
  · simp [ClosingLabel.change]
  · exact inv.settled
  · trivial
  · rintro other (free | answers)
    · exact free
    · exact answers.elim
  · rintro other (⟨sent, _⟩ | ⟨_, _, returned⟩)
    · exact ⟨sent, by simp [CloserPhase.reference]⟩
    · simp at returned

theorem CloseInvariant.finished {labels : List ClosingLabel} {before : ClosingState}
    {handle : ServiceHandle} {reference : ServiceRef} (inv : CloseInvariant labels before)
    (ready : before.closer = .sent handle reference) :
    CloseInvariant (labels ++ [.finished (before.registry.inst.recordChange reference
        fun _ => [.closeSent])])
      { registry := before.registry.withInst (before.registry.inst.finishClose reference)
        closer := .waiting handle reference } := by
  have step := ClosingStep.finished ready
  have table := closing_step_table inv.table step
  have phase := inv.phase
  rw [ready] at phase
  have standing := @standing_update before.registry.inst.state reference
    (fun service => service.setState .closeSent) (fun standing => (.closeSent, standing.2))
    fun _ => rfl
  apply inv.close_sent step phase.2 (.inr (.inr rfl)) rfl standing
  · intro present
    exact ⟨table.named _ _ phase.1, .inl present⟩
  · rw [ready]
    exact ⟨rfl, rfl⟩
  · simp [ClosingLabel.Answers]
  · simp

theorem TableInvariant.named_unique {history : List RegistryLabel} {registry : Registry}
    (inv : TableInvariant history registry) {handle : ServiceHandle} {one other : ServiceRef}
    (first : registry.inst.state.Named handle one)
    (second : registry.inst.state.Named handle other) : one = other := by
  obtain ⟨endpoint, present, handle⟩ := first
  obtain ⟨another, stored, same⟩ := second
  exact inv.distinct one other endpoint another present stored (handle.trans same.symm)

theorem CloseInvariant.returned {labels : List ClosingLabel} {before : ClosingState}
    {handle : ServiceHandle} {reference : ServiceRef} {result : Except VchiqError Unit}
    {next : Instance} (inv : CloseInvariant labels before)
    (ready : before.closer = .waiting handle reference)
    (polled : before.registry.inst.awaitService handle closeResult = some (result, next)) :
    CloseInvariant (labels ++ [.returned handle reference result])
      { registry := before.registry.withInst next
        closer := .idle } := by
  have step := ClosingStep.returned ready polled
  have phase := inv.phase
  rw [ready] at phase
  obtain ⟨history, table⟩ := inv.table
  obtain ⟨found, service, lookup, judged, taken⟩ := await_standing polled
  have same := table.named_unique phase.1 (service_of_named lookup)
  subst same
  have stored := (service_of_some lookup).1
  rw [standing_some stored, Option.map_some] at taken
  -- the semaphore is taken and no state is set
  have kept : ∀ other srvstate, before.registry.inst.state.InState other srvstate →
      next.state.InState other srvstate := by
    intro other srvstate present
    by_cases here : other = reference
    · subst here
      have state := in_state_unique present (in_state_some stored)
      rw [state]
      exact ⟨service.removeEvent - 1, by rw [taken, Function.update_self]; rfl⟩
    · exact in_state_elsewhere taken here present
  apply inv.extend step
  · simp [ClosingLabel.change]
  · apply settled_updated inv.settled taken
    intro standing new
    rw [← Option.some.inj new]
    exact inv.settled reference service.standing (standing_some stored)
  · trivial
  · rintro other (free | answers)
    · exact kept other .free free
    · exact answers.elim
  · rintro other (⟨sent, _⟩ | ⟨_, error, returned⟩)
    · exact ⟨kept other .closeSent sent, by simp [CloserPhase.reference]⟩
    · simp only [ClosingLabel.returned.injEq] at returned
      obtain ⟨_, rfl, failed⟩ := returned
      refine ⟨kept reference .closeSent ?_, by simp [CloserPhase.reference]⟩
      rcases phase.2 with sent | ⟨count, free⟩
      · exact sent
      · have isFree := in_state_unique ⟨_, free⟩ (in_state_some stored)
        rw [judged, ← isFree] at failed
        simp [closeResult] at failed

/-- A message of the VideoCore that sets no state of the service. -/
theorem received_silent {before after : State} {message : SlotMessage} {reference : ServiceRef}
    {standing : ServiceState × Nat}
    (updated : after.standing = Function.update before.standing (receiverRef message)
      ((before.standing (receiverRef message)).map (raisedBy (receivedStates message))))
    (present : before.standing reference = some standing)
    (silent : reference = receiverRef message → receivedStates message standing.1 = []) :
    after.standing reference = some standing := by
  rw [updated]
  by_cases here : reference = receiverRef message
  · rw [← here, Function.update_self, present, Option.map_some, raised_by_nil (silent here)]
  · rw [Function.update_of_ne here, present]

/-- Only a CLOSE sets a state of a service whose CLOSE was sent. -/
theorem received_states_sent {message : SlotMessage}
    (notClose : msgTypeFromId message.header.msgid ≠ some .close) :
    receivedStates message .closeSent = [] := by
  unfold receivedStates
  split <;> simp_all

theorem received_states_free (message : SlotMessage) : receivedStates message .free = [] := by
  unfold receivedStates
  split <;> simp_all

theorem received_states_open (message : SlotMessage) : receivedStates message .open = [] := by
  unfold receivedStates
  split <;> simp_all

theorem received_states_opening (message : SlotMessage) :
    receivedStates message .opening = [] ∨ receivedStates message .opening = [.open] ∨
      msgTypeFromId message.header.msgid = some .close := by
  unfold receivedStates
  split
  · exact .inr (.inl rfl)
  · rename_i isClose _
    exact .inr (.inr isClose)
  · simp_all
  · exact .inl rfl

theorem received_states_settled (message : SlotMessage) {srvstate : ServiceState}
    (settled : srvstate ∈ settledStates) :
    (receivedStates message srvstate).getLastD srvstate ∈ settledStates := by
  unfold receivedStates
  split
  · simp [settledStates]
  · simp [settledStates]
  · simp [settledStates]
  · exact settled

/-- Only an answer to a CLOSE that was sent leads to FREE. -/
theorem free_received {message : SlotMessage} {srvstate : ServiceState}
    (free : .free ∈ receivedStates message srvstate) :
    srvstate = .closeSent ∧ msgTypeFromId message.header.msgid = some .close := by
  unfold receivedStates at free
  split at free
  · simp at free
  · simp at free
  · rename_i isClose
    exact ⟨rfl, isClose⟩
  · simp at free

/-- The answer to a CLOSE comes while the call that sent it waits for it. -/
theorem Unraced.answer_awaited {before : ClosingState} {message : SlotMessage}
    {change : Option StateChange} {count : Nat}
    (guard : Unraced before (.received message change))
    (isClose : msgTypeFromId message.header.msgid = some .close)
    (sent : before.registry.inst.state.standing (receiverRef message) =
      some (.closeSent, count)) :
    ∃ handle, before.closer = .waiting handle (receiverRef message) := by
  obtain ⟨service, found, same⟩ := standing_of_some sent
  exact (guard isClose service found).1 (congrArg Prod.fst same)

/-- The phase of the close behind a message. -/
theorem CloseInvariant.received_phase {labels : List ClosingLabel} {before : ClosingState}
    {message : SlotMessage} {change : Option StateChange} {next : Instance}
    (inv : CloseInvariant labels before) (guard : Unraced before (.received message change))
    (named : ∀ handle reference, before.registry.inst.state.Named handle reference →
      next.state.Named handle reference)
    (updated : next.state.standing = Function.update before.registry.inst.state.standing
      (receiverRef message) ((before.registry.inst.state.standing (receiverRef message)).map
        (raisedBy (receivedStates message)))) :
    before.closer.Kept next.state := by
  have phase := inv.phase
  have receiver : ∀ standing, before.registry.inst.state.standing (receiverRef message) =
      some standing → next.state.standing (receiverRef message) =
        some (raisedBy (receivedStates message) standing) := by
    intro standing present
    rw [updated, Function.update_self, present, Option.map_some]
  cases closer : before.closer with
  | idle => trivial
  | sending handle reference service again =>
      rw [closer] at phase
      obtain ⟨belongs, isClose, ⟨count, isOpen⟩ | ⟨notAgain, count, opening⟩⟩ := phase
      · refine ⟨named _ _ belongs, isClose, .inl ⟨count, ?_⟩⟩
        exact received_silent updated isOpen fun _ => received_states_open message
      · refine ⟨named _ _ belongs, isClose, ?_⟩
        by_cases here : reference = receiverRef message
        · subst here
          rcases received_states_opening message with silent | acknowledged | refused
          · exact .inr ⟨notAgain, count, received_silent updated opening fun _ => silent⟩
          · refine .inl ⟨count + 1, ?_⟩
            rw [receiver _ opening, raisedBy, acknowledged]
            rfl
          · obtain ⟨stored, found, same⟩ := standing_of_some opening
            exact absurd closer
              ((guard refused stored found).2 (congrArg Prod.fst same) handle service again)
        · refine .inr ⟨notAgain, count, ?_⟩
          exact received_silent updated opening fun same => absurd same here
  | sent handle reference =>
      rw [closer] at phase
      obtain ⟨belongs, count, sent⟩ := phase
      refine ⟨named _ _ belongs, count, received_silent updated sent ?_⟩
      intro here
      apply received_states_sent
      intro isClose
      rw [here] at sent
      obtain ⟨handle', waiting⟩ := guard.answer_awaited isClose sent
      rw [closer] at waiting
      simp at waiting
  | waiting handle reference =>
      rw [closer] at phase
      obtain ⟨belongs, ⟨count, sent⟩ | ⟨count, free⟩⟩ := phase
      · refine ⟨named _ _ belongs, ?_⟩
        by_cases answer : reference = receiverRef message ∧
            msgTypeFromId message.header.msgid = some .close
        · obtain ⟨rfl, isClose⟩ := answer
          right
          refine ⟨count, ?_⟩
          rw [receiver _ sent]
          simp [raisedBy, receivedStates, isClose]
        · refine .inl ⟨count, received_silent updated sent ?_⟩
          intro here
          apply received_states_sent
          exact fun isClose => answer ⟨here, isClose⟩
      · refine ⟨named _ _ belongs, .inr ⟨count, ?_⟩⟩
        exact received_silent updated free fun _ => received_states_free message

theorem CloseInvariant.received {labels : List ClosingLabel} {before : ClosingState}
    {message : SlotMessage} {next : Instance} (inv : CloseInvariant labels before)
    (handled : dispatch before.registry.inst message = .ok next)
    (guard : Unraced before (.received message
      (before.registry.inst.recordChange (receiverRef message) (receivedStates message)))) :
    CloseInvariant (labels ++ [.received message
        (before.registry.inst.recordChange (receiverRef message) (receivedStates message))])
      { before with registry := before.registry.withInst next } := by
  have step := ClosingStep.received handled
  have table := closing_step_table inv.table step
  have updated := dispatch_standing handled
  apply inv.extend step
  · intro change isSome
    obtain ⟨service, _, rfl⟩ := Option.map_eq_some_iff.mp isSome
    exact received_in_order _ message service.srvstate
  · apply settled_updated inv.settled updated
    intro standing new
    obtain ⟨old, stored, rfl⟩ := Option.map_eq_some_iff.mp new
    rw [raised_by_state]
    exact received_states_settled message (inv.settled _ old stored)
  · exact inv.received_phase guard table.named updated
  · rintro other (⟨count, free⟩ | answers)
    · exact ⟨count, received_silent updated free fun _ => received_states_free message⟩
    · cases recorded : before.registry.inst.recordChange (receiverRef message)
          (receivedStates message) with
      | none =>
          rw [recorded] at answers
          exact answers.elim
      | some change =>
          rw [recorded] at answers
          obtain ⟨service, stored, rfl⟩ := Option.map_eq_some_iff.mp recorded
          obtain ⟨rfl, free⟩ := answers
          obtain ⟨sent, isClose⟩ := free_received free
          refine ⟨service.removeEvent + 1, ?_⟩
          simp only [Registry.withInst, updated, Function.update_self, standing_some stored,
            Option.map_some]
          simp [raisedBy, receivedStates, isClose, Service.standing, sent]
  · rintro other (⟨⟨count, sent⟩, elsewhere⟩ | ⟨_, _, returned⟩)
    · refine ⟨⟨count, received_silent updated sent ?_⟩, elsewhere⟩
      intro here
      apply received_states_sent
      intro isClose
      rw [here] at sent
      obtain ⟨handle, waiting⟩ := guard.answer_awaited isClose sent
      rw [waiting, ← here] at elsewhere
      exact elsewhere rfl
    · simp at returned

theorem close_step {labels : List ClosingLabel} {before after : ClosingState}
    {label : ClosingLabel} (inv : CloseInvariant labels before)
    (move : Guarded ClosingStep Unraced before label after) :
    CloseInvariant (labels ++ [label]) after := by
  obtain ⟨step, guard⟩ := move
  have whole := step
  obtain ⟨history, table⟩ := inv.table
  cases step with
  | aside beside step =>
      apply inv.aside whole rfl (aside_standing table beside step)
      · simp [ClosingLabel.change]
      · simp [ClosingLabel.Answers]
      · simp
  | wrote handle data =>
      apply inv.aside whole rfl (.of_same (queue_data_standing table handle data))
      · simp [ClosingLabel.change]
      · simp [ClosingLabel.Answers]
      · simp
  | started handle idle => exact inv.started handle idle
  | queued ready polled => exact inv.queued ready polled
  | unqueued ready polled => exact inv.unqueued ready polled
  | finished ready => exact inv.finished ready
  | returned ready polled => exact inv.returned ready polled
  | received handled => exact inv.received handled guard

/-- Whatever comes next is recorded by its label. -/
theorem CloseInvariant.records {labels : List ClosingLabel} {before after : ClosingState}
    {label : ClosingLabel} (inv : CloseInvariant labels before)
    (step : ClosingStep before label after) :
    label.Records before.registry.inst after.registry.inst := by
  obtain ⟨history, table⟩ := inv.table
  cases step with
  | aside beside step =>
      have standing := aside_standing table beside step
      apply records_unchanged rfl
      intro reference old present
      obtain ⟨count, stored, _⟩ := standing.kept reference old present
      exact ⟨count, stored⟩
  | wrote handle data =>
      apply records_unchanged rfl
      intro reference old present
      exact ⟨old.2, by rw [← present, ← queue_data_standing table handle data]; rfl⟩
  | started handle _ =>
      have started := start_close_cases before.registry.inst handle
      cases found : before.registry.inst.state.serviceOf handle with
      | none =>
          apply records_unchanged
          · simp [ClosingLabel.change]
          · intro reference old present
            exact ⟨old.2, by rw [← present, ← started.missing found]; rfl⟩
      | some target =>
          exact records_change startStates rfl (started.standing found) (raised_by_state _)
  | queued ready polled =>
      have phase := inv.phase
      rw [ready] at phase
      rw [queue_close_inst, polled]
      exact records_change (fun _ => [.closeSent]) rfl (send_close_standing phase.2.1 polled)
        fun _ => rfl
  | unqueued ready polled =>
      rw [queue_close_inst, polled]
      obtain ⟨_, _, _, rfl⟩ := send_failed polled
      apply records_unchanged rfl
      intro reference old present
      exact ⟨old.2, present⟩
  | @finished _ reference ready =>
      have standing := @standing_update before.registry.inst.state reference
        (fun service => service.setState .closeSent) (fun standing => (.closeSent, standing.2))
        fun _ => rfl
      exact records_change (fun _ => [.closeSent]) rfl standing fun _ => rfl
  | returned ready polled =>
      obtain ⟨found, _, _, _, taken⟩ := await_standing polled
      apply records_unchanged rfl
      intro reference old present
      by_cases here : reference = found
      · subst here
        exact ⟨old.2 - 1, by simp only [Registry.withInst, taken, Function.update_self, present,
          Option.map_some]⟩
      · exact ⟨old.2, by simp only [Registry.withInst, taken, Function.update_of_ne here, present]⟩
  | received handled =>
      exact records_change _ rfl (dispatch_standing handled) (raised_by_state _)

/-- A service in state FREE whose semaphore is raised ends the wait of its close. -/
theorem TableInvariant.close_returns {history : List RegistryLabel} {registry : Registry}
    (inv : TableInvariant history registry) {handle : ServiceHandle} {reference : ServiceRef}
    {count : Nat} (named : registry.inst.state.Named handle reference)
    (free : registry.inst.state.standing reference = some (.free, count + 1)) :
    ∃ next, registry.inst.awaitService handle closeResult = some (.ok (), next) := by
  obtain ⟨service, stored, same⟩ := standing_of_some free
  obtain ⟨endpoint, present, rfl⟩ := named
  rw [endpoints_some stored, Option.some.injEq] at present
  have raised : 0 < service.removeEvent := by
    rw [show service.removeEvent = count + 1 from congrArg Prod.snd same]
    exact Nat.succ_pos count
  have isFree : service.srvstate = .free := congrArg Prod.fst same
  rw [← present]
  simp only [Instance.awaitService, Service.endpoint, inv.service_of stored, if_pos raised,
    isFree, closeResult]
  exact ⟨_, rfl⟩

theorem CloseInvariant.kept {labels : List ClosingLabel} {reached : ClosingState}
    (inv : CloseInvariant labels reached) : LifecycleKept labels reached := by
  constructor
  · exact inv.inOrder
  · intro handle reference result member seen
    cases result with
    | ok _ => rfl
    | error error =>
        have sent := (inv.early handle reference error member).1
        exact absurd (in_state_unique sent (inv.answered reference seen)) (by simp)
  · intro handle reference waiting seen
    have phase := inv.phase
    rw [waiting] at phase
    obtain ⟨history, table⟩ := inv.table
    rcases phase.2 with sent | ⟨count, free⟩
    · exact absurd (in_state_unique sent (inv.answered reference seen)) (by simp)
    · exact table.close_returns phase.1 free
  · intro label after step
    exact inv.records step

theorem fresh_closing {state : State} (facts : FreshState state) :
    CloseInvariant [] (ClosingState.new state) := by
  have absent : ∀ reference, state.standing reference = none := by
    intro reference
    rw [State.standing, fresh_service_absent facts, Option.map_none]
  constructor
  · exact ⟨[], fresh_table facts⟩
  · simp
  · intro reference standing present
    have none := absent reference
    rw [show state.standing reference = some standing from present] at none
    simp at none
  · trivial
  · intro reference seen
    exact absurd seen (seen_nil _)
  · simp

theorem unraced_close_keeps_lifecycle {raw : SlotZero} {memory : Lib.ByteMemory.Memory}
    {totalMemory : Nat} {state : State} {labels : List ClosingLabel} {reached : ClosingState}
    (made : freshState raw memory totalMemory = .ok state)
    (run : Run (Guarded ClosingStep Unraced) (ClosingState.new state) labels reached) :
    LifecycleKept labels reached := by
  apply CloseInvariant.kept
  apply run.invariant CloseInvariant (fresh_closing (fresh_state_facts made))
  intro labels before label after _ inv move
  exact close_step inv move

/-- The VideoCore accepts the service at the port. -/
def acceptFor (port : ServiceRef) : SlotMessage where
  header :=
    { msgid := makeMsgId .openAck 0 (UInt32.ofNat port)
      size := 2 }
  data := [1, 0]

/-- A service is opened, and the CLOSE of this side is on the wire. -/
def sentLabels : List ClosingLabel :=
  [.aside (.added vchiqMaxServices 0), .aside (.opened vchiqMaxServices),
    .received (acceptFor 0) (some ⟨0, .opening, [.open]⟩), .aside (.awaited vchiqMaxServices),
    .started vchiqMaxServices (some ⟨0, .open, []⟩), .queued (some ⟨0, .open, [.closeSent]⟩)]

set_option maxRecDepth 20000 in
theorem close_sections :
    ∃ fresh added opened acknowledged ready service marked sent queued,
      freshState blankSlotZero (fun _ => 0) (65 * vchiqSlotSize) = .ok fresh ∧
      fresh.srvState.freeIndex = some 0 ∧
      fresh.addService sampleParams vchiqMaxServices = .ok added ∧
      ({ freshInstance fresh with state := added }.beginOpen vchiqMaxServices).2 = opened ∧
      dispatch opened (acceptFor 0) = .ok acknowledged ∧
      opened.recordChange 0 (receivedStates (acceptFor 0)) = some ⟨0, .opening, [.open]⟩ ∧
      acknowledged.awaitService vchiqMaxServices openResult = some (.ok (), ready) ∧
      ready.startClose vchiqMaxServices = (.sending vchiqMaxServices 0 service true, marked) ∧
      ((ready.state.serviceOf vchiqMaxServices).bind fun target =>
        ready.recordChange target.1 startStates) = some ⟨0, .open, []⟩ ∧
      marked.send (some 0) (closeCall 0 service) = (.ok sent, queued) ∧
      marked.recordChange 0 (fun _ => [.closeSent]) = some ⟨0, .open, [.closeSent]⟩ ∧
      (∃ freed, dispatch queued (closeFor 0) = .ok freed ∧
        queued.recordChange 0 (receivedStates (closeFor 0)) =
          some ⟨0, .closeSent, [.closed, .free]⟩ ∧
        freed.recordChange 0 (fun _ => [.closeSent]) = some ⟨0, .free, [.closeSent]⟩ ∧
        ∃ returned, (freed.finishClose 0).awaitService vchiqMaxServices closeResult =
          some (.error (.unableToCloseService vchiqMaxServices), returned)) ∧
      (queued.recordChange 0 (fun _ => [.closeSent]) = some ⟨0, .closeSent, [.closeSent]⟩ ∧
        (queued.finishClose 0).recordChange 0 (receivedStates (closeFor 0)) =
          some ⟨0, .closeSent, [.closed, .free]⟩ ∧
        ∃ freed, dispatch (queued.finishClose 0) (closeFor 0) = .ok freed ∧
          ∃ returned, freed.awaitService vchiqMaxServices closeResult =
            some (.ok (), returned)) :=
  ⟨_, _, _, _, _, _, _, _, _, rfl, rfl, rfl, rfl, rfl, rfl, rfl, rfl, rfl, rfl, rfl,
    ⟨_, rfl, rfl, rfl, _, rfl⟩, rfl, rfl, _, rfl, _, rfl⟩

theorem sent_run {fresh added : State} {opened acknowledged ready marked queued : Instance}
    {service : Service} {sent : Option Outgoing}
    (chosen : fresh.srvState.freeIndex = some 0)
    (addition : fresh.addService sampleParams vchiqMaxServices = .ok added)
    (opening :
      ({ freshInstance fresh with state := added }.beginOpen vchiqMaxServices).2 = opened)
    (accepted : dispatch opened (acceptFor 0) = .ok acknowledged)
    (acceptance : opened.recordChange 0 (receivedStates (acceptFor 0)) =
      some ⟨0, .opening, [.open]⟩)
    (awaited : acknowledged.awaitService vchiqMaxServices openResult = some (.ok (), ready))
    (started : ready.startClose vchiqMaxServices =
      (.sending vchiqMaxServices 0 service true, marked))
    (start : ((ready.state.serviceOf vchiqMaxServices).bind fun target =>
      ready.recordChange target.1 startStates) = some ⟨0, .open, []⟩)
    (polled : marked.send (some 0) (closeCall 0 service) = (.ok sent, queued))
    (queueing : marked.recordChange 0 (fun _ => [.closeSent]) = some ⟨0, .open, [.closeSent]⟩) :
    Run (Guarded ClosingStep Unraced) (ClosingState.new fresh) sentLabels
      ⟨⟨queued, vchiqMaxServices + 1⟩, .sent vchiqMaxServices 0⟩ := by
  have first : ClosingStep (ClosingState.new fresh) (.aside (.added vchiqMaxServices 0))
      ⟨⟨{ freshInstance fresh with state := added }, vchiqMaxServices + 1⟩, .idle⟩ :=
    .aside trivial (.added chosen addition)
  have second : ClosingStep
      ⟨⟨{ freshInstance fresh with state := added }, vchiqMaxServices + 1⟩, .idle⟩
      (.aside (.opened vchiqMaxServices)) ⟨⟨opened, vchiqMaxServices + 1⟩, .idle⟩ := by
    rw [← opening]
    exact .aside trivial (.opened vchiqMaxServices)
  have third : ClosingStep ⟨⟨opened, vchiqMaxServices + 1⟩, .idle⟩
      (.received (acceptFor 0) (some ⟨0, .opening, [.open]⟩))
      ⟨⟨acknowledged, vchiqMaxServices + 1⟩, .idle⟩ := by
    rw [← acceptance]
    exact .received accepted
  have fourth : ClosingStep ⟨⟨acknowledged, vchiqMaxServices + 1⟩, .idle⟩
      (.aside (.awaited vchiqMaxServices)) ⟨⟨ready, vchiqMaxServices + 1⟩, .idle⟩ :=
    .aside rfl (.awaited awaited)
  have fifth : ClosingStep ⟨⟨ready, vchiqMaxServices + 1⟩, .idle⟩
      (.started vchiqMaxServices (some ⟨0, .open, []⟩))
      ⟨⟨marked, vchiqMaxServices + 1⟩, .sending vchiqMaxServices 0 service true⟩ := by
    have step : ClosingStep ⟨⟨ready, vchiqMaxServices + 1⟩, .idle⟩ _ _ :=
      .started vchiqMaxServices rfl
    rw [started, start] at step
    exact step
  have sixth : ClosingStep
      ⟨⟨marked, vchiqMaxServices + 1⟩, .sending vchiqMaxServices 0 service true⟩
      (.queued (some ⟨0, .open, [.closeSent]⟩))
      ⟨⟨queued, vchiqMaxServices + 1⟩, .sent vchiqMaxServices 0⟩ := by
    have step : ClosingStep
        ⟨⟨marked, vchiqMaxServices + 1⟩, .sending vchiqMaxServices 0 service true⟩ _ _ :=
      .queued rfl polled
    simp only [Instance.queueClose, polled, queueing] at step
    exact step
  have notClose : Unraced ⟨⟨opened, vchiqMaxServices + 1⟩, .idle⟩
      (.received (acceptFor 0) (some ⟨0, .opening, [.open]⟩)) := by
    intro isClose
    exact absurd isClose (by decide)
  exact (((((Run.refl.snoc ⟨first, trivial⟩).snoc ⟨second, trivial⟩).snoc
    ⟨third, notClose⟩).snoc ⟨fourth, trivial⟩).snoc ⟨fifth, trivial⟩).snoc ⟨sixth, trivial⟩

/-- The answer comes while `close_service` waits for it. -/
theorem awaited_answer_keeps_lifecycle :
    ∃ reached, LifecycleKept
      (sentLabels ++ [.finished (some ⟨0, .closeSent, [.closeSent]⟩)] ++
        [.received (closeFor 0) (some ⟨0, .closeSent, [.closed, .free]⟩)] ++
        [.returned vchiqMaxServices 0 (.ok ())]) reached := by
  obtain ⟨fresh, added, opened, acknowledged, ready, service, marked, sent, queued, made, chosen,
    addition, opening, accepted, acceptance, awaited, started, start, polled, queueing, _,
    finishing, answer, freed, answered, returned, finished⟩ := close_sections
  have run := sent_run chosen addition opening accepted acceptance awaited started start polled
    queueing
  have seventh : ClosingStep ⟨⟨queued, vchiqMaxServices + 1⟩, .sent vchiqMaxServices 0⟩
      (.finished (some ⟨0, .closeSent, [.closeSent]⟩))
      ⟨⟨queued.finishClose 0, vchiqMaxServices + 1⟩, .waiting vchiqMaxServices 0⟩ := by
    rw [← finishing]
    exact .finished rfl
  have eighth : ClosingStep
      ⟨⟨queued.finishClose 0, vchiqMaxServices + 1⟩, .waiting vchiqMaxServices 0⟩
      (.received (closeFor 0) (some ⟨0, .closeSent, [.closed, .free]⟩))
      ⟨⟨freed, vchiqMaxServices + 1⟩, .waiting vchiqMaxServices 0⟩ := by
    rw [← answer]
    exact .received answered
  have ninth : ClosingStep ⟨⟨freed, vchiqMaxServices + 1⟩, .waiting vchiqMaxServices 0⟩
      (.returned vchiqMaxServices 0 (.ok ())) ⟨⟨returned, vchiqMaxServices + 1⟩, .idle⟩ :=
    .returned rfl finished
  have unraced : Unraced
      ⟨⟨queued.finishClose 0, vchiqMaxServices + 1⟩, .waiting vchiqMaxServices 0⟩
      (.received (closeFor 0) (some ⟨0, .closeSent, [.closed, .free]⟩)) := by
    intro _ service _
    exact ⟨fun _ => ⟨vchiqMaxServices, rfl⟩, fun _ _ _ _ => by simp⟩
  exact ⟨_, unraced_close_keeps_lifecycle made (((run.snoc ⟨seventh, trivial⟩).snoc
    ⟨eighth, unraced⟩).snoc ⟨ninth, trivial⟩)⟩

/-- The answer comes before CLOSESENT is set for the second time. The service leaves state
FREE again, and the close that was answered fails. -/
theorem early_answer_breaks_lifecycle :
    ∃ fresh reached,
      freshState blankSlotZero (fun _ => 0) (65 * vchiqSlotSize) = .ok fresh ∧
      Run ClosingStep (ClosingState.new fresh)
        (sentLabels ++ [.received (closeFor 0) (some ⟨0, .closeSent, [.closed, .free]⟩)] ++
          [.finished (some ⟨0, .free, [.closeSent]⟩)] ++
          [.returned vchiqMaxServices 0 (.error (.unableToCloseService vchiqMaxServices))])
        reached ∧
      ¬StateChange.InOrder ⟨0, .free, [.closeSent]⟩ ∧
      ¬LifecycleKept
        (sentLabels ++ [.received (closeFor 0) (some ⟨0, .closeSent, [.closed, .free]⟩)] ++
          [.finished (some ⟨0, .free, [.closeSent]⟩)] ++
          [.returned vchiqMaxServices 0 (.error (.unableToCloseService vchiqMaxServices))])
        reached := by
  obtain ⟨fresh, added, opened, acknowledged, ready, service, marked, sent, queued, made, chosen,
    addition, opening, accepted, acceptance, awaited, started, start, polled, queueing,
    ⟨freed, answered, answer, finishing, returned, failed⟩, _⟩ := close_sections
  have run := (sent_run chosen addition opening accepted acceptance awaited started start polled
    queueing).unguarded
  have seventh : ClosingStep ⟨⟨queued, vchiqMaxServices + 1⟩, .sent vchiqMaxServices 0⟩
      (.received (closeFor 0) (some ⟨0, .closeSent, [.closed, .free]⟩))
      ⟨⟨freed, vchiqMaxServices + 1⟩, .sent vchiqMaxServices 0⟩ := by
    rw [← answer]
    exact .received answered
  have eighth : ClosingStep ⟨⟨freed, vchiqMaxServices + 1⟩, .sent vchiqMaxServices 0⟩
      (.finished (some ⟨0, .free, [.closeSent]⟩))
      ⟨⟨freed.finishClose 0, vchiqMaxServices + 1⟩, .waiting vchiqMaxServices 0⟩ := by
    rw [← finishing]
    exact .finished rfl
  have ninth : ClosingStep
      ⟨⟨freed.finishClose 0, vchiqMaxServices + 1⟩, .waiting vchiqMaxServices 0⟩
      (.returned vchiqMaxServices 0 (.error (.unableToCloseService vchiqMaxServices)))
      ⟨⟨returned, vchiqMaxServices + 1⟩, .idle⟩ :=
    .returned rfl failed
  have outOfOrder : ¬StateChange.InOrder ⟨0, .free, [.closeSent]⟩ := by decide
  refine ⟨fresh, _, made, ((run.snoc seventh).snoc eighth).snoc ninth, outOfOrder, ?_⟩
  intro kept
  exact outOfOrder (kept.inOrder (.finished (some ⟨0, .free, [.closeSent]⟩)) (by simp) _ rfl)

end RuspiroVchiq.Vchiq
