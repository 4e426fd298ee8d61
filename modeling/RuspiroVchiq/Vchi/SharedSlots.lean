import RuspiroVchiq.Vchi.ClientDelivery
import RuspiroVchiq.Transmit.Stream

/-!
# The slots behind the system

The steps of the whole system, with the slots changing behind its back: the VideoCore
writes them and `slot_handler` moves its cursor. What was proved of the services and the
rings does not look at the slots and holds of these runs as well. What the system does to
the slots is a run of transmissions.
-/

namespace RuspiroVchiq.Vchi

open RuspiroVchiq.Config
open RuspiroVchiq.Shared
open RuspiroVchiq.Vchiq
open RuspiroVchiq.Delivery
open RuspiroVchiq.Transmit
open RuspiroVchiq.Lib.LabelledRun
open RuspiroVchiq.Lib.ByteMemory

set_option autoImplicit false

/-- A step of the system, or a change of the slots. -/
inductive LooseStep (sys : System) : Option (Action × List RingLabel) → System → Prop where
  | acted {label : Action × List RingLabel} {next : System} (step : ObservedStep sys label next) :
      LooseStep sys (some label) next
  | slots (slotState : SlotState) :
      LooseStep sys none { sys with inst := sys.inst.withSlots slotState }

/-- The steps of the system in a run. -/
def actedIn (labels : List (Option (Action × List RingLabel))) : List (Action × List RingLabel) :=
  labels.filterMap id

theorem acted_in_some (labels : List (Option (Action × List RingLabel)))
    (label : Action × List RingLabel) :
    actedIn (labels ++ [some label]) = actedIn labels ++ [label] := by
  simp [actedIn]

theorem acted_in_none (labels : List (Option (Action × List RingLabel))) :
    actedIn (labels ++ [none]) = actedIn labels := by
  simp [actedIn]

section Slots

variable {sys : System} {slotState : SlotState} {actions : List Action}

theorem slots_ready (ready : sys.Ready) :
    System.Ready { sys with inst := sys.inst.withSlots slotState } :=
  ⟨ready.quotas, ready.length, ready.tail, ready.ports, ready.remotes, ready.handles,
    ready.ordered⟩

theorem slots_records (records : RecordInvariant sys.inst) :
    RecordInvariant (sys.inst.withSlots slotState) :=
  ⟨records.services, records.events⟩

end Slots

/-- What holds of the services in every run, whatever happens to the slots. -/
theorem loose_invariant_run {state : State} {labels : List (Option (Action × List RingLabel))}
    {reached : System} (facts : FreshState state)
    (run : Run LooseStep (System.new (freshInstance state)) labels reached) :
    reached.Ready ∧ ProtocolInvariant ((actedIn labels).map Prod.fst) reached.protocol ∧
      RecordInvariant reached.inst := by
  induction run with
  | refl =>
      refine ⟨fresh_ready facts, ?_, fresh_records facts⟩
      rw [fresh_protocol facts]
      exact initial_invariant
  | snoc _ step ih =>
      rcases ih with ⟨ready, inv, records⟩
      cases step with
      | acted step =>
          rcases step_simulated ready step.move with ⟨kept, move⟩
          rw [acted_in_some, List.map_append]
          exact ⟨kept, protocol_invariant_step inv move,
            record_invariant_step records ready (step_records step.move)⟩
      | slots slotState =>
          rw [acted_in_none]
          exact ⟨slots_ready ready, inv, slots_records records⟩

/-- Such a run is one of the rings. -/
theorem loose_refines_rings {state : State} {labels : List (Option (Action × List RingLabel))}
    {reached : System} {owners : Nat → Option ServiceHandle}
    {allowed : Rings → RingLabel → Prop}
    {guard : System → Option (Action × List RingLabel) → Prop} (facts : FreshState state)
    (free : DeliveryGuard allowed)
    (permits : ∀ sys label, guard sys (some label) →
      ∀ step ∈ label.2, allowed (mirror owners sys.inst) step)
    (owned : Owned owners reached.inst)
    (run : Run (Guarded LooseStep guard) (System.new (freshInstance state)) labels reached) :
    Run (Guarded RingStep allowed) (Rings.initial owners fun _ => true)
      (ringLog (actedIn labels)) (mirror owners reached.inst) := by
  induction run with
  | refl =>
      rw [fresh_mirror facts]
      exact .refl
  | @snoc labels before after label earlier step ih =>
      rcases step with ⟨move, guarded⟩
      rcases loose_invariant_run facts earlier.unguarded with ⟨ready, inv, records⟩
      cases move with
      | @acted label _ observed =>
          rcases observed with ⟨move, rings⟩
          have log := ih (owned_earlier ready inv move owned)
          rw [acted_in_some, ring_log_snoc]
          apply log.append
          have permitted := permits before label guarded
          rw [rings] at permitted ⊢
          exact mirror_step free ready inv.registry records move owned permitted
      | slots slotState =>
          rw [acted_in_none]
          exact ih owned

/-- A change that leaves the slots alone. -/
structure Aside (before after : State) : Prop where
  slots : after.slotState = before.slotState
  available : after.slotQueueAvailable = before.slotQueueAvailable

theorem Aside.refl (state : State) : Aside state state := ⟨rfl, rfl⟩

theorem Aside.trans {first second third : State} (earlier : Aside first second)
    (later : Aside second third) : Aside first third :=
  ⟨later.slots.trans earlier.slots, later.available.trans earlier.available⟩

theorem Aside.undisturbed {before after : State} (aside : Aside before after) :
    Undisturbed before after := by
  rcases aside with ⟨slots, available⟩
  constructor <;> first | exact available | rw [slots]
  exact fun _ _ _ => rfl

/-- What a poll does to the slots: one transmission at most, and nothing else. -/
inductive SlotMove (before after : State) : Option QueueCall → Prop where
  | silent (aside : Aside before after) : SlotMove before after none
  | rejected {call : QueueCall} {first second : State} (earlier : Aside before first)
      (step : TransmitStep first (.rejected call) second) (later : Aside second after) :
      SlotMove before after none
  | queued {region : Region} {first second : State} (earlier : Aside before first)
      (step : TransmitStep first (.queued region) second) (later : Aside second after) :
      SlotMove before after (some region.call)

section SlotMoves

variable {before middle after : State} {call : Option QueueCall}

theorem SlotMove.begun (earlier : Aside before middle) (move : SlotMove middle after call) :
    SlotMove before after call := by
  cases move with
  | silent aside => exact .silent (earlier.trans aside)
  | rejected first step later => exact .rejected (earlier.trans first) step later
  | queued first step later => exact .queued (earlier.trans first) step later

theorem SlotMove.ended (move : SlotMove before middle call) (later : Aside middle after) :
    SlotMove before after call := by
  cases move with
  | silent aside => exact .silent (aside.trans later)
  | rejected earlier step last => exact .rejected earlier step (last.trans later)
  | queued earlier step last => exact .queued earlier step (last.trans later)

end SlotMoves

/-- What a poll that neither panics nor blocks does to the slots. A poll that fails sends
nothing. -/
def Settles (before : State) (kind : QueueCall → Prop) : Polled → Prop
  | (.ok sent, inst) => ∃ call, SlotMove before inst.state call ∧
      call.map QueueCall.message = sent.map Outgoing.message ∧ ∀ queued ∈ call, kind queued
  | (.error (.error _), inst) => SlotMove before inst.state none
  | (.error _, _) => True

theorem settles_failed {before : State} {kind : QueueCall → Prop} {error : VchiqError}
    {inst : Instance} (aside : Aside before inst.state) :
    Settles before kind (.error (.error error), inst) := .silent aside

theorem settles_quiet {before : State} {kind : QueueCall → Prop} {inst : Instance}
    (aside : Aside before inst.state) : Settles before kind (.ok none, inst) :=
  ⟨none, .silent aside, rfl, by simp⟩

theorem send_settles (inst : Instance) (sender : Option ServiceRef) (call : QueueCall) :
    Settles inst.state (fun queued => queued = call) (inst.send sender call) := by
  unfold Instance.send
  cases outcome : queueMessage inst.state call with
  | mk result after =>
      cases result with
      | ok done =>
          rcases (queue_message_ok_iff inst.state after call).mp outcome with
            ⟨position, start, step⟩
          exact ⟨some call, .queued (.refl _) step (.refl _), rfl, by simp⟩
      | error stop =>
          cases stop with
          | panic raised => trivial
          | blocked => trivial
          | error reported =>
              unfold queueMessage at outcome
              cases admission : admitMessage inst.state call with
              | mk admitted state =>
                  cases admitted with
                  | error stop =>
                      simp only [admission, Prod.mk.injEq, Except.error.injEq] at outcome
                      rcases outcome with ⟨rfl, rfl⟩
                      exact .rejected (.refl _) (.rejected admission) (.refl _)
                  | ok msgType =>
                      simp only [admission] at outcome
                      split at outcome <;> simp at outcome

theorem Settles.begun {before middle : State} {kind : QueueCall → Prop} {polled : Polled}
    (earlier : Aside before middle) (settles : Settles middle kind polled) :
    Settles before kind polled := by
  rcases polled with ⟨result, inst⟩
  cases result with
  | ok sent =>
      rcases settles with ⟨call, move, same, all⟩
      exact ⟨call, move.begun earlier, same, all⟩
  | error stop =>
      cases stop with
      | error reported => exact SlotMove.begun earlier settles
      | panic raised => trivial
      | blocked => trivial

theorem Settles.imp {before : State} {kind other : QueueCall → Prop} {polled : Polled}
    (implied : ∀ call, kind call → other call) (settles : Settles before kind polled) :
    Settles before other polled := by
  rcases polled with ⟨result, inst⟩
  cases result with
  | ok sent =>
      rcases settles with ⟨call, move, same, all⟩
      exact ⟨call, move, same, fun queued member => implied queued (all queued member)⟩
  | error stop =>
      cases stop with
      | error reported => exact settles
      | panic raised => trivial
      | blocked => trivial

theorem begin_connect_settles (inst : Instance) :
    Settles inst.state (fun call => call = connectCall) inst.beginConnect := by
  have sends := send_settles inst none connectCall
  unfold Instance.beginConnect
  split_ifs
  · exact settles_failed (.refl _)
  · split
    · split
      · rename_i stop next sent
        rw [sent] at sends
        exact sends
      · rename_i outgoing next sent
        rw [sent] at sends
        rcases sends with ⟨call, move, same, all⟩
        exact ⟨call, move.ended ⟨rfl, rfl⟩, same, all⟩
    · exact settles_quiet (.refl _)
  · exact settles_failed (.refl _)

theorem create_service_settles (inst : Instance) (setup : ServiceSetup)
    (handle srvHandle : ServiceHandle) :
    Settles inst.state (fun call => ∃ service, call = openCall service)
      (inst.createService setup handle srvHandle) := by
  unfold Instance.createService
  split_ifs
  · cases added : inst.state.addService (setup.params handle) srvHandle with
    | error stop =>
        cases stop with
        | error reported => exact settles_failed (.refl _)
        | panic raised => trivial
        | blocked => trivial
    | ok state =>
        rcases add_service_cases added with ⟨index, _, _, rfl⟩
        have aside : Aside inst.state (inst.state.entered (setup.params handle) srvHandle index) :=
          ⟨rfl, rfl⟩
        simp only
        unfold Instance.beginOpen
        split
        · trivial
        · rename_i reference service _
          exact ((send_settles _ (some reference) (openCall service)).imp
            fun call same => ⟨service, same⟩).begun aside
  · exact settles_failed (.refl _)

theorem send_close_settles (inst : Instance) (reference : ServiceRef) (service : Service) :
    Settles inst.state (fun call => call = closeCall reference service)
      (inst.sendClose reference service) := by
  have sends := send_settles inst (some reference) (closeCall reference service)
  unfold Instance.sendClose
  split
  · rename_i reported next sent
    rw [sent] at sends
    exact ⟨none, sends, rfl, by simp⟩
  · rename_i stop next _ sent
    rw [sent] at sends
    exact sends
  · rename_i outgoing next sent
    rw [sent] at sends
    rcases sends with ⟨call, move, same, all⟩
    exact ⟨call, move.ended ⟨rfl, rfl⟩, same, all⟩

theorem begin_close_settles (inst : Instance) (srvHandle : ServiceHandle) :
    Settles inst.state (fun call => ∃ reference service, call = closeCall reference service)
      (inst.beginClose srvHandle) := by
  unfold Instance.beginClose
  split
  · exact settles_failed (.refl _)
  · rename_i reference service _
    have marked : Aside inst.state (inst.updateService reference Service.markClosing).state :=
      ⟨rfl, rfl⟩
    have closes : ∀ call, call = closeCall reference service →
        ∃ reference service, call = closeCall reference service :=
      fun call same => ⟨reference, service, same⟩
    simp only
    split
    · exact settles_failed (.refl _)
    · exact settles_failed (.refl _)
    · exact settles_failed (.refl _)
    · exact settles_quiet ⟨rfl, rfl⟩
    · exact settles_quiet ⟨rfl, rfl⟩
    · exact ((send_settles _ (some reference) _).imp closes).begun marked
    · exact ((send_close_settles _ reference service).imp closes).begun marked
    · exact ((send_close_settles _ reference service).imp closes).begun marked
    · trivial
    · trivial

theorem queue_data_settles (inst : Instance) (srvHandle : ServiceHandle) (data : Payload) :
    Settles inst.state (fun call => ∃ reference service, call = dataCall reference service data)
      (inst.queueMessage srvHandle data) := by
  unfold Instance.queueMessage
  split
  · exact settles_failed (.refl _)
  · rename_i reference service _
    exact (send_settles inst (some reference) _).imp fun call same => ⟨reference, service, same⟩

/-- The calls of `queue_message` that a client call may lead to. -/
def Call.Queues : Call → QueueCall → Prop
  | .initializeInstance, _ => False
  | .connect, queued => queued = connectCall
  | .serviceOpen _, queued => ∃ service, queued = openCall service
  | .serviceClose _, queued => ∃ reference service, queued = closeCall reference service
  | .queueMessage _ data, queued => ∃ reference service, queued = dataCall reference service data

def Action.Queues : Action → QueueCall → Prop
  | .called call _, queued => call.Queues queued
  | _, _ => False

/-- The message an action puts on the wire. -/
def Action.stores : Action → Option SlotMessage
  | .called _ sent => sent.map Outgoing.message
  | _ => none

/-- What a step does to the slots: it transmits its message, if it has one. -/
def SlotEffect (sys : System) (action : Action) (next : System) : Prop :=
  ∃ call, SlotMove sys.inst.state next.inst.state call ∧
    call.map QueueCall.message = action.stores ∧ ∀ queued ∈ call, action.Queues queued

theorem quiet_effect {sys next : System} {action : Action}
    (aside : Aside sys.inst.state next.inst.state) (nothing : action.stores = none) :
    SlotEffect sys action next :=
  ⟨none, .silent aside, nothing.symm, by simp⟩

theorem absorbed_effect {sys waiting next : System} {call : Call} {pending : PendingCall}
    {polled : Polled} {sent : Option Outgoing}
    (settles : Settles sys.inst.state call.Queues polled)
    (absorbed : waiting.absorb pending polled = (.ok sent, next)) :
    SlotEffect sys (.called call sent) next := by
  rcases absorb_ok absorbed with ⟨inst, rfl, rfl⟩
  exact settles

theorem absorbed_failure {sys waiting next : System} {call : Call} {pending : PendingCall}
    {polled : Polled} {kind : QueueCall → Prop} {error : BoxError}
    (settles : Settles sys.inst.state kind polled)
    (absorbed : waiting.absorb pending polled = (.error (.error error), next)) :
    SlotEffect sys (.failed call error) next := by
  rcases absorb_failed absorbed with ⟨failure, inst, rfl, rfl⟩
  exact ⟨none, settles, rfl, by simp⟩

theorem call_effect {sys next : System} {call : Call} {sent : Option Outgoing}
    (polled : sys.call call = (.ok sent, next)) : SlotEffect sys (.called call sent) next := by
  cases call with
  | initializeInstance =>
      simp only [System.call, Prod.mk.injEq, Except.ok.injEq] at polled
      rcases polled with ⟨rfl, rfl⟩
      exact quiet_effect (.refl _) rfl
  | connect =>
      simp only [System.call] at polled
      split_ifs at polled
      · simp only [Prod.mk.injEq, Except.ok.injEq] at polled
        rcases polled with ⟨rfl, rfl⟩
        exact quiet_effect (.refl _) rfl
      · exact absorbed_effect (begin_connect_settles sys.inst) polled
  | serviceOpen setup =>
      simp only [System.call] at polled
      split_ifs at polled
      · exact absorbed_effect (create_service_settles sys.inst setup _ _) polled
      · exact absorbed_effect (create_service_settles sys.inst setup _ _) polled
      · simp at polled
  | serviceClose handle =>
      simp only [System.call] at polled
      split at polled
      · simp at polled
      · exact absorbed_effect (begin_close_settles sys.inst _) polled
  | queueMessage handle data =>
      simp only [System.call] at polled
      split at polled
      · simp at polled
      · exact absorbed_effect (queue_data_settles sys.inst _ data) polled

theorem failed_effect {sys next : System} {call : Call} {error : BoxError}
    (polled : sys.call call = (.error (.error error), next)) :
    SlotEffect sys (.failed call error) next := by
  have untouched : ∀ {failure : VchiStop},
      ((.error failure, sys) : SystemPolled) = (.error (.error error), next) →
      SlotEffect sys (.failed call error) next := by
    intro failure same
    rw [← (Prod.mk.inj same).2]
    exact quiet_effect (.refl _) rfl
  cases call with
  | initializeInstance => simp [System.call] at polled
  | connect =>
      simp only [System.call] at polled
      split_ifs at polled
      · simp at polled
      · exact absorbed_failure (begin_connect_settles sys.inst) polled
  | serviceOpen setup =>
      simp only [System.call] at polled
      split_ifs at polled
      · exact absorbed_failure (create_service_settles sys.inst setup _ _) polled
      · exact absorbed_failure (create_service_settles sys.inst setup _ _) polled
      · exact untouched polled
  | serviceClose handle =>
      simp only [System.call] at polled
      split at polled
      · exact untouched polled
      · exact absorbed_failure (begin_close_settles sys.inst _) polled
  | queueMessage handle data =>
      simp only [System.call] at polled
      split at polled
      · exact untouched polled
      · exact absorbed_failure (queue_data_settles sys.inst _ data) polled

theorem dispatched_aside {inst next : Instance} {message : SlotMessage}
    (handled : dispatch inst message = .ok next) : Aside inst.state next.state := by
  cases dispatch_cases handled <;> exact ⟨rfl, rfl⟩

theorem resumed_aside {sys next : System} (polled : sys.resume = some next) :
    Aside sys.inst.state next.inst.state := by
  have awaited : ∀ {srvHandle judge result inst},
      sys.inst.awaitService srvHandle judge = some (result, inst) →
      Aside sys.inst.state inst.state := by
    intro srvHandle judge result inst awaited
    unfold Instance.awaitService at awaited
    split at awaited
    · simp at awaited
    · split_ifs at awaited
      simp only [Option.some.injEq, Prod.mk.injEq] at awaited
      rw [← awaited.2]
      exact ⟨rfl, rfl⟩
  cases resume_cases polled with
  | @connected inst _ finished =>
      unfold Instance.finishConnect at finished
      split at finished
      · split_ifs at finished
        rw [← Option.some.inj finished]
        exact ⟨rfl, rfl⟩
      · rw [← Option.some.inj finished]
        exact ⟨rfl, rfl⟩
  | refused _ ended => exact awaited ended
  | opened _ ended => exact awaited ended
  | closed _ ended => exact awaited ended

/-- Every step of the system transmits its message and leaves the slots alone otherwise. -/
theorem step_slot_effect {sys next : System} {action : Action}
    (move : SystemStep sys action next) : SlotEffect sys action next := by
  cases move with
  | called _ polled => exact call_effect polled
  | failed _ polled => exact failed_effect polled
  | resumed polled => exact quiet_effect (resumed_aside polled) rfl
  | dropped => exact quiet_effect (.refl _) rfl
  | received handled => exact quiet_effect (dispatched_aside handled) rfl
  | dequeued polled =>
      rcases poll_dequeue_cases polled with ⟨service, user, _, _, rfl⟩
      exact quiet_effect ⟨rfl, rfl⟩ rfl
  | completed _ _ _ => exact quiet_effect ⟨rfl, rfl⟩ rfl
  | idled _ _ => exact quiet_effect ⟨rfl, rfl⟩ rfl

/-- A message that fits into a slot, with its payload directly behind the header. -/
def TidyCall (call : QueueCall) : Prop :=
  call.msgStride ≤ vchiqSlotSize ∧ DirectPayload call

/-- What the transmissions of the ARM leave alone: the receive cursor, the state of the
VideoCore and everything in front of the slots of the ARM. -/
structure ArmFrame (before after : State) : Prop where
  rxPos : after.slotState.rxPos = before.slotState.rxPos
  rxData : after.slotState.rxData = before.slotState.rxData
  master : after.slotState.slotZero.master = before.slotState.slotZero.master
  base : slotBase after = slotBase before
  length : after.slotState.slotData.len = before.slotState.slotData.len
  memory : ∀ address, address < slotBase before * vchiqSlotSize →
    after.slotState.slotData.inner address = before.slotState.slotData.inner address

theorem Aside.frame {before after : State} (aside : Aside before after) :
    ArmFrame before after := by
  rcases aside with ⟨slots, _⟩
  constructor
  · rw [slots]
  · rw [slots]
  · rw [slots]
  · rw [slotBase, slots, slotBase]
  · rw [slots]
  · intro address _
    rw [slots]

theorem ArmFrame.trans {first second third : State} (earlier : ArmFrame first second)
    (later : ArmFrame second third) : ArmFrame first third where
  rxPos := later.rxPos.trans earlier.rxPos
  rxData := later.rxData.trans earlier.rxData
  master := later.master.trans earlier.master
  base := later.base.trans earlier.base
  length := later.length.trans earlier.length
  memory := by
    intro address below
    rw [later.memory address (by rw [earlier.base]; exact below), earlier.memory address below]

theorem padded_memory_below {numSlots spaceNeeded : Nat} {state : State}
    (inv : ReservationInvariant numSlots state) {address : Nat}
    (below : address < slotBase state * vchiqSlotSize) :
    paddedMemory state spaceNeeded address = state.slotState.slotData.inner address := by
  unfold paddedMemory
  cases cursor : state.slotState.txData with
  | none => rfl
  | some slotPos =>
      have index := inv.current slotPos cursor
      split_ifs
      · apply write_header_outside
        left
        calc address
          _ < slotBase state * vchiqSlotSize := below
          _ ≤ slotPos.index * vchiqSlotSize := by
              rw [index]
              exact Nat.mul_le_mul_right _ (Nat.le_add_left _ _)
          _ ≤ slotAddress slotPos := Nat.le_add_right _ _
      · rfl

/-- A message the ARM stores stays in its own slots. -/
theorem queued_frame {numSlots : Nat} {before after : State} {region : Region}
    (inv : ReservationInvariant numSlots before) (tidy : TidyCall region.call)
    (step : TransmitStep before (.queued region) after) : ArmFrame before after := by
  rcases queued_step_spec step inv tidy.1 with
    ⟨start, position, _, admitted, msgType, quotaState, ⟨quotas, frame⟩, _, result⟩
  have admittedInv : ReservationInvariant numSlots admitted := by
    rw [frame]
    exact inv.congr inv.layout rfl rfl rfl rfl
  constructor
  · rw [result, frame]
    rfl
  · rw [result, frame]
    rfl
  · rw [result, frame]
    rfl
  · rw [result, frame]
    rfl
  · rw [result, frame]
    rfl
  · intro address below
    have base : slotBase admitted = slotBase before := by rw [frame]; rfl
    have memory : after.slotState.slotData.inner =
        messageMemory (paddedMemory admitted region.call.msgStride)
          (streamAddress before region.start) region.call := by
      rw [result, position, ← slot_address_stream_position]
      rfl
    rw [memory, message_memory_outside _ _ _ tidy.2, padded_memory_below admittedInv, frame]
    · rw [base]
      exact below
    · left
      exact Nat.lt_of_lt_of_le below (Nat.le_add_right _ _)

theorem rejected_frame {before after : State} {call : QueueCall}
    (step : TransmitStep before (.rejected call) after) :
    ArmFrame before after ∧ ∃ quotas, after =
      { before with quotaState := { before.quotaState with serviceQuotas := quotas } } := by
  cases step with
  | rejected admission =>
      rcases admit_frame admission with ⟨quotas, _, rfl⟩
      exact ⟨⟨rfl, rfl, rfl, rfl, rfl, fun _ _ => rfl⟩, quotas, rfl⟩

theorem queued_reservation {numSlots : Nat} {before after : State} {region : Region}
    (inv : ReservationInvariant numSlots before) (fits : region.call.msgStride ≤ vchiqSlotSize)
    (step : TransmitStep before (.queued region) after) : ReservationInvariant numSlots after := by
  rcases queued_step_spec step inv fits with
    ⟨start, _, below, admitted, msgType, quotaState, ⟨quotas, rfl⟩, _, rfl⟩
  rw [start] at below
  apply published_invariant
  exact reserved_invariant (inv.congr inv.layout rfl rfl rfl rfl) (valid_stride _ fits) below

/-- The reservation invariant and the frame, for one poll. -/
theorem slot_move_frame {numSlots : Nat} {before after : State} {call : Option QueueCall}
    (inv : ReservationInvariant numSlots before) (tidy : ∀ queued ∈ call, TidyCall queued)
    (move : SlotMove before after call) :
    ReservationInvariant numSlots after ∧ ArmFrame before after := by
  cases move with
  | silent aside => exact ⟨aside.undisturbed.reservation inv, aside.frame⟩
  | rejected earlier step later =>
      rcases rejected_frame step with ⟨frame, quotas, rfl⟩
      have first := earlier.undisturbed.reservation inv
      refine ⟨later.undisturbed.reservation (first.congr first.layout rfl rfl rfl rfl), ?_⟩
      exact (earlier.frame.trans frame).trans later.frame
  | queued earlier step later =>
      have first := earlier.undisturbed.reservation inv
      have clean := tidy _ rfl
      refine ⟨later.undisturbed.reservation (queued_reservation first clean.1 step), ?_⟩
      exact (earlier.frame.trans (queued_frame first clean step)).trans later.frame

/-- What every client keeps to: the payloads it sends are aligned to at most a header and
fit into a slot. -/
def TidyAction : Action → Prop
  | .called (.queueMessage _ data) _ =>
      data.align ≤ headerSize ∧ calcMsgStride data.bytes.length ≤ vchiqSlotSize
  | _ => True

theorem tidy_without_payload {call : QueueCall} (empty : call.context = none) : TidyCall call := by
  refine ⟨?_, .inr ?_⟩
  · simp only [QueueCall.msgStride, QueueCall.msgSize, QueueCall.payload, empty]
    decide
  · simp only [QueueCall.payload, empty]

theorem tidy_open (service : Service) : TidyCall (openCall service) := by
  refine ⟨?_, .inl ?_⟩
  · have length : (openPayload service).bytes.length = 12 := by
      simp [openPayload]
    simp only [QueueCall.msgStride, QueueCall.msgSize, QueueCall.payload, openCall, length]
    decide
  · simp [QueueCall.align, openCall, openPayload, Payload.align, headerSize]

theorem tidy_queued {action : Action} {queued : QueueCall} (tidy : TidyAction action)
    (queues : action.Queues queued) : TidyCall queued := by
  cases action with
  | called call sent =>
      cases call with
      | initializeInstance => exact absurd queues id
      | connect =>
          rw [queues]
          exact tidy_without_payload rfl
      | serviceOpen setup =>
          rcases queues with ⟨service, rfl⟩
          exact tidy_open service
      | serviceClose handle =>
          rcases queues with ⟨reference, service, rfl⟩
          exact tidy_without_payload rfl
      | queueMessage handle data =>
          rcases queues with ⟨reference, service, rfl⟩
          exact ⟨tidy.2, .inl tidy.1⟩
  | _ => exact absurd queues id

/-- What a step of the system leaves of the slots. -/
theorem step_frame {numSlots : Nat} {sys next : System} {action : Action}
    (inv : ReservationInvariant numSlots sys.inst.state) (tidy : TidyAction action)
    (move : SystemStep sys action next) :
    ReservationInvariant numSlots next.inst.state ∧ ArmFrame sys.inst.state next.inst.state := by
  rcases step_slot_effect move with ⟨call, slots, _, queues⟩
  exact slot_move_frame inv (fun queued member => tidy_queued tidy (queues queued member)) slots

end RuspiroVchiq.Vchi
