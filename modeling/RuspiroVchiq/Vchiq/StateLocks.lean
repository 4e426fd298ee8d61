import RuspiroVchiq.Shared.SlotMessage
import RuspiroVchiq.Lib.GuardPrograms

/-!
# The locks of the VCHIQ state

The guards of `slot_state`, `quota_state` and `srv_state` that `add_service`,
`queue_message` and `slot_handler` take and give back, in the order of the source.
A guard lives to the end of the block it is bound in, and the one of
`self.slot_state.read().local_tx_pos` to the end of its statement. The flags stand
for the branches that depend on data.

`queue_message` and `slot_handler` take `slot_state` before the other two,
`add_service` takes it last.
-/

namespace RuspiroVchiq.Vchiq

open RuspiroVchiq.Shared
open RuspiroVchiq.Lib.GuardPrograms
open RuspiroVchiq.Lib.LabelledRun

set_option autoImplicit false

inductive StateLock where
  | slot
  | quota
  | srv
  deriving DecidableEq, Repr

abbrev StateOps := List (GuardOp StateLock)

/-- `add_service`; the flag tells whether the table has an index left. -/
def addServiceOps (found : Bool) : StateOps :=
  .acquire .srv .exclusive ::
    (if found then
      [.acquire .quota .exclusive, .acquire .slot .shared, .release .slot, .release .quota]
    else []) ++
    [.release .srv]

/-- `service_by_port` and `service_from_handle`. -/
def serviceLookupOps : StateOps := [.acquire .srv .shared, .release .srv]

/-- The check of a DATA message. -/
def quotaCheckOps : StateOps :=
  [.acquire .slot .shared, .acquire .quota .shared, .release .quota, .release .slot]

def reserveSpaceOps : StateOps := [.acquire .slot .exclusive, .release .slot]

/-- The section that stores the message. -/
def storeMessageOps : StateOps :=
  [.acquire .slot .exclusive, .acquire .quota .exclusive, .release .quota, .release .slot]

/-- `queue_message`; the flag tells whether the check lets a DATA message pass. -/
def queueMessageOps (msgType : MessageType) (admitted : Bool) : StateOps :=
  if msgType = .data then
    quotaCheckOps ++ if admitted then reserveSpaceOps ++ storeMessageOps else []
  else reserveSpaceOps ++ storeMessageOps

/-- What `slot_handler` does for one message; the flag tells whether a DATA message is
passed to the callback. -/
def handleMessageOps (msgType : MessageType) (accepted : Bool) : StateOps :=
  match msgType with
  | .close => serviceLookupOps ++ [.acquire .quota .shared, .release .quota]
  | .data => serviceLookupOps ++ if accepted then serviceLookupOps else []
  | .openAck | .bulkRx | .bulkTx | .bulkRxDone | .bulkTxDone => serviceLookupOps
  | _ => []

/-- One poll of `slot_handler`, over the messages it finds. -/
def slotHandlerOps (messages : List (MessageType × Bool)) : StateOps :=
  .attempt .slot .exclusive ::
    (messages.flatMap fun message => handleMessageOps message.1 message.2) ++ [.release .slot]

inductive StateProgram : StateOps → Prop where
  | addService (found : Bool) : StateProgram (addServiceOps found)
  | serviceLookup : StateProgram serviceLookupOps
  | queueMessage (msgType : MessageType) (admitted : Bool) :
      StateProgram (queueMessageOps msgType admitted)
  | slotHandler (messages : List (MessageType × Bool)) : StateProgram (slotHandlerOps messages)

/-- Every request of the programs, with the guards that are held there. -/
def nestings : List (List (StateLock × Mode) × StateLock × Mode) :=
  [([], .srv, .exclusive), ([(.srv, .exclusive)], .quota, .exclusive),
    ([(.quota, .exclusive), (.srv, .exclusive)], .slot, .shared),
    ([], .srv, .shared), ([], .slot, .shared), ([(.slot, .shared)], .quota, .shared),
    ([], .slot, .exclusive), ([(.slot, .exclusive)], .quota, .exclusive),
    ([(.slot, .exclusive)], .srv, .shared), ([(.slot, .exclusive)], .quota, .shared)]

def Nested (held : List (StateLock × Mode)) (lock : StateLock) (mode : Mode) : Prop :=
  (held, lock, mode) ∈ nestings

instance (held : List (StateLock × Mode)) (lock : StateLock) (mode : Mode) :
    Decidable (Nested held lock mode) :=
  inferInstanceAs (Decidable (_ ∈ _))

/-- A message leaves the handler with the guard of the slots alone. -/
theorem handle_message_disciplined (msgType : MessageType) (accepted : Bool) (rest : StateOps)
    (disciplined : Disciplined Nested [(.slot, .exclusive)] rest) :
    Disciplined Nested [(.slot, .exclusive)] (handleMessageOps msgType accepted ++ rest) := by
  cases msgType <;> cases accepted <;>
    simp [handleMessageOps, serviceLookupOps, Disciplined, giveBack, Nested, nestings,
      disciplined]

theorem slot_handler_disciplined (messages : List (MessageType × Bool)) :
    Disciplined Nested [] (slotHandlerOps messages) := by
  have handled : Disciplined Nested [(.slot, .exclusive)]
      ((messages.flatMap fun message => handleMessageOps message.1 message.2) ++
        [.release .slot]) := by
    induction messages with
    | nil => rfl
    | cons message messages ih =>
        rw [List.flatMap_cons, List.append_assoc]
        exact handle_message_disciplined message.1 message.2 _ ih
  exact ⟨rfl, handled⟩

theorem state_program_disciplined (program : StateOps) (known : StateProgram program) :
    Disciplined Nested [] program := by
  cases known with
  | addService found =>
      cases found <;> simp [addServiceOps, Disciplined, giveBack, Nested, nestings]
  | serviceLookup => simp [serviceLookupOps, Disciplined, giveBack, Nested, nestings]
  | queueMessage msgType admitted =>
      unfold queueMessageOps
      split_ifs <;>
        simp [quotaCheckOps, reserveSpaceOps, storeMessageOps, Disciplined, giveBack, Nested,
          nestings]
  | slotHandler messages => exact slot_handler_disciplined messages

section Tasks

variable {Task : Type}

/-- A task that holds `quota_state` exclusively asks for another guard only while no task
that holds `slot_state` exclusively waits for one, and the other way round. -/
def Untangled (tasks : Task → TaskState StateLock) : GuardLabel Task → Prop
  | .requested task =>
      ((.quota, .exclusive) ∈ (tasks task).held → ∀ other,
        (.slot, .exclusive) ∈ (tasks other).held → (tasks other).waiting = false) ∧
      ((.slot, .exclusive) ∈ (tasks task).held → ∀ other,
        (.quota, .exclusive) ∈ (tasks other).held → (tasks other).waiting = false)
  | _ => True

structure LockInvariant (tasks : Task → TaskState StateLock) : Prop where
  disciplined : ∀ task, Disciplined Nested (tasks task).held (tasks task).todo
  asking : ∀ task, Asking (tasks task)
  apart : ∀ one other, (.quota, .exclusive) ∈ (tasks one).held →
    (.slot, .exclusive) ∈ (tasks other).held →
      ¬((tasks one).waiting = true ∧ (tasks other).waiting = true)

theorem idle_locks : LockInvariant fun _ : Task => TaskState.idle := by
  constructor
  · intro task
    rfl
  · intro task waiting
    exact nomatch waiting
  · intro one other quota
    exact nomatch quota

/-- How far up a request is: the later ones are waited for by the earlier ones. -/
def requestRank (held : List (StateLock × Mode)) : StateLock → Nat
  | .slot => if (.quota, .exclusive) ∈ held then 3 else 0
  | .srv => 1
  | .quota => 2

def waitRank (task : TaskState StateLock) : Nat :=
  match task.todo with
  | .acquire lock _ :: _ => requestRank task.held lock
  | _ => 0

/-- What a task holds where it waits tells how far up its request is. -/
theorem held_rank : ∀ request ∈ nestings,
    (∀ guard ∈ request.1, guard.1 = .slot → 1 ≤ requestRank request.1 request.2.1) ∧
    (∀ guard ∈ request.1, guard.1 = .srv → 2 ≤ requestRank request.1 request.2.1) ∧
    ∀ guard ∈ request.1, guard.1 = .quota → 3 ≤ requestRank request.1 request.2.1 := by
  decide

/-- Only `add_service` asks for a guard with `quota_state` in its hands. -/
theorem quota_nested : ∀ request ∈ nestings, (.quota, .exclusive) ∈ request.1 →
    request.2 = (.slot, .shared) ∧ (.srv, .exclusive) ∈ request.1 ∧
      (.slot, .exclusive) ∉ request.1 := by
  decide

theorem slot_nested : ∀ request ∈ nestings, (.slot, .exclusive) ∈ request.1 →
    request.2.1 = .srv ∨ request.2.1 = .quota := by
  decide

theorem LockInvariant.nested {tasks : Task → TaskState StateLock} (inv : LockInvariant tasks)
    {task : Task} {lock : StateLock} {mode : Mode} {rest : StateOps}
    (next : (tasks task).todo = .acquire lock mode :: rest) :
    ((tasks task).held, lock, mode) ∈ nestings := by
  have fits := inv.disciplined task
  rw [next] at fits
  exact fits.1

theorem LockInvariant.no_circular_wait {tasks : Task → TaskState StateLock}
    (inv : LockInvariant tasks) : ¬CircularWait tasks := by
  rintro ⟨task, cycle⟩
  apply no_cycle_of_rank (fun task => waitRank (tasks task)) _ task cycle
  intro first second third waits later
  obtain ⟨lock, mode, rest, held, waiting, next, taken, conflict⟩ := waits
  obtain ⟨_, _, _, _, waiting', next', _, _⟩ := later
  have firstNested := inv.nested next
  have secondNested := inv.nested next'
  obtain ⟨slot, srv, quota⟩ := held_rank _ secondNested
  simp only [waitRank, next, next']
  cases lock with
  | srv => exact srv _ taken rfl
  | quota => exact quota _ taken rfl
  | slot =>
      by_cases last : (.quota, .exclusive) ∈ (tasks first).held
      · -- this is `add_service`, and the holder of the slots does not wait
        have shared : mode = .shared :=
          congrArg Prod.snd (quota_nested _ firstNested last).1
        have exclusive : held = .exclusive := by
          rcases conflict with isExclusive | isExclusive
          · rw [shared] at isExclusive
            simp at isExclusive
          · exact isExclusive
        rw [exclusive] at taken
        exact absurd ⟨waiting, waiting'⟩ (inv.apart first second last taken)
      · rw [show requestRank (tasks first).held .slot = 0 from if_neg last]
        exact slot _ taken rfl

/-- A task that waits with `quota_state` in its hands and one that waits with `slot_state`
wait for each other. -/
theorem opposed_tasks_wait {tasks : Task → TaskState StateLock}
    (disciplined : ∀ task, Disciplined Nested (tasks task).held (tasks task).todo)
    (asking : ∀ task, Asking (tasks task)) {one other : Task}
    (quota : (.quota, .exclusive) ∈ (tasks one).held)
    (slot : (.slot, .exclusive) ∈ (tasks other).held) (waiting : (tasks one).waiting = true)
    (waiting' : (tasks other).waiting = true) : CircularWait tasks := by
  obtain ⟨lock, mode, rest, next⟩ := asking one waiting
  obtain ⟨lock', mode', rest', next'⟩ := asking other waiting'
  have fits := disciplined one
  have fits' := disciplined other
  rw [next] at fits
  rw [next'] at fits'
  obtain ⟨asked, srv, _⟩ := quota_nested _ fits.1 quota
  have sameLock : lock = .slot := congrArg Prod.fst asked
  have forth : WaitsFor tasks one other :=
    ⟨lock, mode, rest, .exclusive, waiting, next, by rw [sameLock]; exact slot, .inr rfl⟩
  have held : (lock', .exclusive) ∈ (tasks one).held := by
    rcases slot_nested _ fits'.1 slot with isSrv | isQuota
    · rw [show lock' = .srv from isSrv]
      exact srv
    · rw [show lock' = .quota from isQuota]
      exact quota
  have back : WaitsFor tasks other one :=
    ⟨lock', mode', rest', .exclusive, waiting', next', held, .inr rfl⟩
  exact ⟨one, .tail (.single forth) back⟩

variable [DecidableEq Task]

abbrev LockStep : (Task → TaskState StateLock) → GuardLabel Task →
    (Task → TaskState StateLock) → Prop :=
  GuardStep StateProgram

theorem lock_step {before after : Task → TaskState StateLock} {label : GuardLabel Task}
    (inv : LockInvariant before) (move : Guarded LockStep Untangled before label after) :
    LockInvariant after := by
  obtain ⟨step, guard⟩ := move
  constructor
  · exact guard_step_disciplined state_program_disciplined inv.disciplined step
  · exact guard_step_asking inv.asking step
  · intro one other quota slot waits
    rcases guard_step_waiting step waits.1 with same | ⟨asked, same⟩
    · rcases guard_step_waiting step waits.2 with same' | ⟨asked', same'⟩
      · rw [same, same'] at waits
        rw [same] at quota
        rw [same'] at slot
        exact inv.apart one other quota slot waits
      · subst asked'
        rw [same] at quota waits
        rw [same'] at slot
        have running := guard.2 slot one quota
        rw [running] at waits
        exact absurd waits.1 (by simp)
    · subst asked
      rcases guard_step_waiting step waits.2 with same' | ⟨asked', same'⟩
      · rw [same] at quota
        rw [same'] at slot waits
        have running := guard.1 quota other slot
        rw [running] at waits
        exact absurd waits.2 (by simp)
      · -- one task does not ask with both guards in its hands
        cases asked'
        obtain ⟨lock, mode, rest, next⟩ := guard_step_asking inv.asking step one waits.1
        have fits := guard_step_disciplined state_program_disciplined inv.disciplined step one
        rw [next] at fits
        exact (quota_nested _ fits.1 quota).2.2 slot

/-- A request that is not untangled closes a circle. -/
theorem tangled_request_waits {before after : Task → TaskState StateLock}
    {label : GuardLabel Task} (inv : LockInvariant before) (step : LockStep before label after)
    (tangled : ¬Untangled before label) : CircularWait after := by
  have disciplined :=
    guard_step_disciplined state_program_disciplined inv.disciplined step
  have asking := guard_step_asking inv.asking step
  cases step with
  | requested task _ running =>
      -- the task that asks waits afterwards, and the other one waits as before
      have here : Function.update before task { before task with waiting := true } task =
          { before task with waiting := true } := Function.update_self ..
      have elsewhere : ∀ other, (before other).waiting = true →
          Function.update before task { before task with waiting := true } other =
            before other := by
        intro other waiting
        apply Function.update_of_ne
        rintro rfl
        rw [running] at waiting
        simp at waiting
      by_cases first : (.quota, .exclusive) ∈ (before task).held → ∀ other,
          (.slot, .exclusive) ∈ (before other).held → (before other).waiting = false
      · have second : ¬((.slot, .exclusive) ∈ (before task).held → ∀ other,
            (.quota, .exclusive) ∈ (before other).held → (before other).waiting = false) :=
          fun second => tangled ⟨first, second⟩
        push Not at second
        obtain ⟨slot, other, quota, waits⟩ := second
        have waiting := Bool.eq_true_of_not_eq_false waits
        rw [← elsewhere other waiting] at quota waiting
        have waiting' := congrArg TaskState.waiting here
        rw [show (before task).held = _ from (congrArg TaskState.held here).symm] at slot
        exact opposed_tasks_wait disciplined asking quota slot waiting waiting'
      · push Not at first
        obtain ⟨quota, other, slot, waits⟩ := first
        have waiting := Bool.eq_true_of_not_eq_false waits
        rw [← elsewhere other waiting] at slot waiting
        have waiting' := congrArg TaskState.waiting here
        rw [show (before task).held = _ from (congrArg TaskState.held here).symm] at quota
        exact opposed_tasks_wait disciplined asking quota slot waiting' waiting
  | _ => exact absurd trivial tangled

/-- Untangled requests lead to no circular wait, and every other request closes one. -/
theorem untangled_requests_no_circular_wait {labels : List (GuardLabel Task)}
    {tasks : Task → TaskState StateLock}
    (run : Run (Guarded LockStep Untangled) (fun _ => TaskState.idle) labels tasks) :
    ¬CircularWait tasks ∧ ∀ label after, LockStep tasks label after →
      (¬CircularWait after ↔ Untangled tasks label) := by
  have inv : LockInvariant tasks := by
    apply run.invariant (fun _ reached => LockInvariant reached) idle_locks
    intro _ before label after _ inv move
    exact lock_step inv move
  refine ⟨inv.no_circular_wait, ?_⟩
  intro label after step
  constructor
  · intro none
    by_contra tangled
    exact none (tangled_request_waits inv step tangled)
  · intro untangled
    exact (lock_step inv ⟨step, untangled⟩).no_circular_wait

end Tasks

/-- A poll of `slot_handler` next to a call of `add_service`. -/
inductive RaceTask where
  | handler
  | adder
  deriving DecidableEq

def raceTasks (handler adder : TaskState StateLock) : RaceTask → TaskState StateLock
  | .handler => handler
  | .adder => adder

/-- The handler has `slot_state` and an OPENACK to find the service of. -/
def handlerInside (waiting : Bool) : TaskState StateLock :=
  ⟨[(.slot, .exclusive)], serviceLookupOps ++ [.release .slot], waiting⟩

/-- `add_service` has `srv_state` and `quota_state` and needs `slot_state`. -/
def adderInside (waiting : Bool) : TaskState StateLock :=
  ⟨[(.quota, .exclusive), (.srv, .exclusive)],
    [.acquire .slot .shared, .release .slot, .release .quota, .release .srv], waiting⟩

theorem race_handler {handler adder changed : TaskState StateLock} {label : GuardLabel RaceTask}
    (step : LockStep (raceTasks handler adder) label
      (Function.update (raceTasks handler adder) .handler changed)) :
    LockStep (raceTasks handler adder) label (raceTasks changed adder) := by
  have same : Function.update (raceTasks handler adder) .handler changed =
      raceTasks changed adder := by
    funext task
    cases task <;> rfl
  rw [same] at step
  exact step

theorem race_adder {handler adder changed : TaskState StateLock} {label : GuardLabel RaceTask}
    (step : LockStep (raceTasks handler adder) label
      (Function.update (raceTasks handler adder) .adder changed)) :
    LockStep (raceTasks handler adder) label (raceTasks handler changed) := by
  have same : Function.update (raceTasks handler adder) .adder changed =
      raceTasks handler changed := by
    funext task
    cases task <;> rfl
  rw [same] at step
  exact step

theorem race_free {handler adder : TaskState StateLock} {lock : StateLock} {mode : Mode}
    (free : ∀ guard ∈ handler.held ++ adder.held, guard.1 ≠ lock) :
    ¬Taken (raceTasks handler adder) lock mode := by
  rintro ⟨task, other, member, _⟩
  apply free (lock, other) _ rfl
  cases task with
  | handler => exact List.mem_append_left _ member
  | adder => exact List.mem_append_right _ member

/-- Both are inside, and neither waits. -/
theorem race_run : ∃ labels, Run (Guarded LockStep Untangled) (fun _ => TaskState.idle) labels
    (raceTasks (handlerInside false) (adderInside false)) := by
  have start : (fun _ => TaskState.idle) = raceTasks .idle .idle := by
    funext task
    cases task <;> rfl
  rw [start]
  have first : LockStep (raceTasks .idle .idle) (.started .handler)
      (raceTasks ⟨[], slotHandlerOps [(.openAck, true)], false⟩ .idle) :=
    race_handler (.started RaceTask.handler rfl (.slotHandler [(.openAck, true)]))
  have second : LockStep (raceTasks ⟨[], slotHandlerOps [(.openAck, true)], false⟩ .idle)
      (.entered .handler) (raceTasks (handlerInside false) .idle) :=
    race_handler (.entered RaceTask.handler rfl (race_free (by decide)))
  have third : LockStep (raceTasks (handlerInside false) .idle) (.started .adder)
      (raceTasks (handlerInside false) ⟨[], addServiceOps true, false⟩) :=
    race_adder (.started RaceTask.adder rfl (.addService true))
  have fourth : LockStep (raceTasks (handlerInside false) ⟨[], addServiceOps true, false⟩)
      (.requested .adder) (raceTasks (handlerInside false) ⟨[], addServiceOps true, true⟩) :=
    race_adder (.requested RaceTask.adder rfl rfl)
  have fifth : LockStep (raceTasks (handlerInside false) ⟨[], addServiceOps true, true⟩)
      (.granted .adder)
      (raceTasks (handlerInside false)
        ⟨[(.srv, .exclusive)], (addServiceOps true).tail, false⟩) :=
    race_adder (.granted RaceTask.adder rfl rfl (race_free (by decide)))
  have sixth : LockStep
      (raceTasks (handlerInside false) ⟨[(.srv, .exclusive)], (addServiceOps true).tail, false⟩)
      (.requested .adder)
      (raceTasks (handlerInside false)
        ⟨[(.srv, .exclusive)], (addServiceOps true).tail, true⟩) :=
    race_adder (.requested RaceTask.adder rfl rfl)
  have seventh : LockStep
      (raceTasks (handlerInside false) ⟨[(.srv, .exclusive)], (addServiceOps true).tail, true⟩)
      (.granted .adder) (raceTasks (handlerInside false) (adderInside false)) :=
    race_adder (.granted RaceTask.adder rfl rfl (race_free (by decide)))
  exact ⟨_, ((((((Run.refl.snoc ⟨first, trivial⟩).snoc ⟨second, trivial⟩).snoc
    ⟨third, trivial⟩).snoc ⟨fourth, by simp [Untangled, raceTasks]⟩).snoc
    ⟨fifth, trivial⟩).snoc ⟨sixth, by simp [Untangled, raceTasks]⟩).snoc ⟨seventh, trivial⟩⟩

/-- The two are inside at the same time and have not asked for each other's guards. -/
theorem inside_no_circular_wait :
    ¬CircularWait (raceTasks (handlerInside false) (adderInside false)) := by
  obtain ⟨labels, run⟩ := race_run
  exact (untangled_requests_no_circular_wait run).1

/-- `slot_handler` waits for `srv_state` and `add_service` for `slot_state`. -/
theorem handler_and_adder_wait_for_each_other :
    ∃ labels, Run LockStep (fun _ => TaskState.idle) labels
        (raceTasks (handlerInside true) (adderInside true)) ∧
      CircularWait (raceTasks (handlerInside true) (adderInside true)) := by
  obtain ⟨labels, run⟩ := race_run
  have asked : LockStep (raceTasks (handlerInside false) (adderInside false))
      (.requested .adder) (raceTasks (handlerInside false) (adderInside true)) :=
    race_adder (.requested RaceTask.adder rfl rfl)
  have asked' : LockStep (raceTasks (handlerInside false) (adderInside true))
      (.requested .handler) (raceTasks (handlerInside true) (adderInside true)) :=
    race_handler (.requested RaceTask.handler rfl rfl)
  refine ⟨_, (run.unguarded.snoc asked).snoc asked', .handler, ?_⟩
  have forth : WaitsFor (raceTasks (handlerInside true) (adderInside true)) .handler .adder :=
    ⟨.srv, .shared, _, .exclusive, rfl, rfl, by decide, .inr rfl⟩
  have back : WaitsFor (raceTasks (handlerInside true) (adderInside true)) .adder .handler :=
    ⟨.slot, .shared, _, .exclusive, rfl, rfl, by decide, .inr rfl⟩
  exact .tail (.single forth) back

end RuspiroVchiq.Vchiq
