import RuspiroVchiq.Vchi.Lifecycle

/-!
# Pending completions and the map of services

`completion_handler` looks every record it takes up in the map of services and
panics if the handle is missing. The map entry is made when `service_open`
returns, after the service may have received data, and removed without a look at
the completion ring. So the lookup is safe in the runs in which DATA reaches a
service only while its handle is in the map, and a handle is removed only when
no record names it.
-/

namespace RuspiroVchiq.Vchi

open RuspiroVchiq.Config
open RuspiroVchiq.Shared
open RuspiroVchiq.Lib.ByteMemory
open RuspiroVchiq.Vchiq
open RuspiroVchiq.Delivery
open RuspiroVchiq.Lib.LabelledRun

set_option autoImplicit false

/-- The lookup of the completion handler for this user data succeeds. -/
def Known (services : ServiceHandle → Option ServiceHandle)
    (userdata : Option ServiceHandle) : Prop :=
  (userdata.bind services).isSome = true

instance (services : ServiceHandle → Option ServiceHandle)
    (userdata : Option ServiceHandle) : Decidable (Known services userdata) :=
  inferInstanceAs (Decidable (_ = _))

/-- DATA for an open service is processed only while its handle is in the map. -/
def DeliveredKnown (sys : System) (message : SlotMessage) : Prop :=
  msgTypeFromId message.header.msgid = some .data →
    ∀ service ∈ sys.inst.state.srvState.service (receiverRef message),
      Accepts service message → Known sys.services service.base.userdata.userdata

instance (sys : System) (message : SlotMessage) : Decidable (DeliveredKnown sys message) :=
  inferInstanceAs (Decidable (_ → _))

/-- `service_close` removes a handle only when no record names it. -/
def RemovedUnnamed (sys : System) : PendingCall → Prop
  | .serviceClose handle srvHandle =>
      ∀ target ∈ sys.inst.state.serviceOf srvHandle,
        closeResult srvHandle target.2.srvstate = .ok () →
          ∀ index, ∀ record ∈ sys.inst.completion.completions index,
            record.serviceUserdata ≠ some handle
  | _ => True

instance (sys : System) (pending : PendingCall) : Decidable (RemovedUnnamed sys pending) :=
  match pending with
  | .serviceClose _ _ => inferInstanceAs (Decidable (∀ _ ∈ _, _))
  | .idle | .connect | .serviceOpen _ _ => inferInstanceAs (Decidable True)

/-- The steps that keep the map and the completion ring in line. -/
def KeepsNames (sys : System) : Action → Prop
  | .received message _ => DeliveredKnown sys message
  | .resumed => RemovedUnnamed sys sys.pending
  | _ => True

instance (sys : System) (action : Action) : Decidable (KeepsNames sys action) :=
  match action with
  | .received message _ => inferInstanceAs (Decidable (DeliveredKnown sys message))
  | .resumed => inferInstanceAs (Decidable (RemovedUnnamed sys sys.pending))
  | .called _ _ | .failed _ _ | .dropped | .dequeued _ | .completed _ | .idled =>
      inferInstanceAs (Decidable True)

/-- Every record in the completion ring names a service in the map. -/
def PendingKnown (sys : System) : Prop :=
  ∀ index record, sys.inst.completion.completions index = some record →
    Known sys.services record.serviceUserdata

/-- The completion handler finds the service of every record it takes now. -/
def LookupsSucceed (sys : System) : Prop :=
  ∀ records completion, sys.awaitCompletion = .ready records completion →
    ∃ found, lookupServices sys.services records = .ok found

theorem lookup_services_ok {services : ServiceHandle → Option ServiceHandle}
    {records : List ServiceCompletion}
    (known : ∀ record ∈ records, Known services record.serviceUserdata) :
    ∃ found, lookupServices services records = .ok found := by
  induction records with
  | nil => exact ⟨[], rfl⟩
  | cons record records ih =>
      obtain ⟨found, looked⟩ := ih fun other member => known other (by simp [member])
      obtain ⟨srvHandle, here⟩ := Option.isSome_iff_exists.mp (known record (by simp))
      refine ⟨srvHandle :: found, ?_⟩
      simp only [lookupServices, here, looked]

/-- What the completion handler takes or leaves was in the ring. -/
theorem await_completion_subset {sys : System} :
    (∀ records completion, sys.awaitCompletion = .ready records completion →
      (∀ record ∈ records, ∃ index, sys.inst.completion.completions index = some record) ∧
        ∀ index record, completion.completions index = some record →
          sys.inst.completion.completions index = some record) ∧
    (∀ completion, sys.awaitCompletion = .pending completion →
      completion.completions = sys.inst.completion.completions) := by
  unfold System.awaitCompletion Vchiq.awaitCompletion
  split_ifs
  · refine ⟨by simp, ?_⟩
    intro completion waiting
    simp only [AwaitOutcome.pending.injEq] at waiting
    rw [← waiting]
  · cases removal : takeCompletions 8 sys.inst.completion with
    | error panic => simp
    | ok result =>
        refine ⟨?_, by simp⟩
        intro records completion taken
        simp only [AwaitOutcome.ready.injEq] at taken
        obtain ⟨rfl, rfl⟩ := taken
        exact (take_completions_subset removal).2
  · simp

theorem PendingKnown.lookups {sys : System} (known : PendingKnown sys) :
    LookupsSucceed sys := by
  intro records completion taken
  apply lookup_services_ok
  intro record member
  obtain ⟨index, present⟩ := (await_completion_subset.1 records completion taken).1 record member
  exact known index record present

theorem send_completion (inst : Instance) (sender : Option ServiceRef) (call : QueueCall) :
    (inst.send sender call).2.completion = inst.completion := by
  unfold Instance.send
  cases queued : Vchiq.queueMessage inst.state call with
  | mk result state => cases result <;> rfl

/-- No call touches the completion ring. -/
theorem begin_connect_completion (inst : Instance) :
    inst.beginConnect.2.completion = inst.completion := by
  unfold Instance.beginConnect
  split_ifs
  · rfl
  · split
    · have sent := send_completion inst none connectCall
      cases queued : inst.send none connectCall with
      | mk result after =>
          rw [queued] at sent
          cases result <;> exact sent
    · rfl
  · rfl

theorem create_service_completion (inst : Instance) (setup : ServiceSetup)
    (handle srvHandle : ServiceHandle) :
    (inst.createService setup handle srvHandle).2.completion = inst.completion := by
  unfold Instance.createService
  split_ifs
  · split
    · rfl
    · unfold Instance.beginOpen
      split
      · rfl
      · exact send_completion _ _ _
  · rfl

theorem send_close_completion (inst : Instance) (reference : ServiceRef) (service : Service) :
    (inst.sendClose reference service).2.completion = inst.completion := by
  have sent := send_completion inst (some reference) (closeCall reference service)
  unfold Instance.sendClose
  cases queued : inst.send (some reference) (closeCall reference service) with
  | mk result after =>
      rw [queued] at sent
      cases result with
      | ok sent' => exact sent
      | error stop => cases stop <;> exact sent

theorem begin_close_completion (inst : Instance) (srvHandle : ServiceHandle) :
    (inst.beginClose srvHandle).2.completion = inst.completion := by
  unfold Instance.beginClose
  split
  · rfl
  · rename_i reference service _
    cases service.srvstate with
    | opening => exact send_completion _ _ _
    | «open» => exact send_close_completion _ _ _
    | openSync => exact send_close_completion _ _ _
    | _ => rfl

theorem queue_message_completion (inst : Instance) (srvHandle : ServiceHandle)
    (data : Payload) : (inst.queueMessage srvHandle data).2.completion = inst.completion := by
  unfold Instance.queueMessage
  split
  · rfl
  · exact send_completion _ _ _

theorem absorb_completion (sys : System) (pending : PendingCall) (polled : Polled) :
    (sys.absorb pending polled).2.inst.completion = polled.2.completion ∧
      (sys.absorb pending polled).2.services = sys.services := by
  obtain ⟨result, inst⟩ := polled
  cases result <;> exact ⟨rfl, rfl⟩

theorem call_completion (sys : System) (call : Call) :
    (sys.call call).2.inst.completion = sys.inst.completion ∧
      (sys.call call).2.services = sys.services := by
  cases call with
  | initializeInstance => exact ⟨rfl, rfl⟩
  | connect =>
      simp only [System.call]
      split_ifs
      · exact ⟨rfl, rfl⟩
      · obtain ⟨completion, services⟩ := absorb_completion sys .connect sys.inst.beginConnect
        exact ⟨completion.trans (begin_connect_completion _), services⟩
  | serviceOpen setup =>
      simp only [System.call]
      split_ifs
      all_goals first
        | exact ⟨rfl, rfl⟩
        | exact ⟨(absorb_completion _ _ _).1.trans (create_service_completion _ _ _ _),
            (absorb_completion _ _ _).2⟩
  | serviceClose handle =>
      simp only [System.call]
      split
      · exact ⟨rfl, rfl⟩
      · exact ⟨(absorb_completion _ _ _).1.trans (begin_close_completion _ _),
          (absorb_completion _ _ _).2⟩
  | queueMessage handle data =>
      simp only [System.call]
      split
      · exact ⟨rfl, rfl⟩
      · exact ⟨(absorb_completion _ _ _).1.trans (queue_message_completion _ _ _),
          (absorb_completion _ _ _).2⟩

/-- No new records, and the names of the old ones are kept. -/
theorem PendingKnown.grow {sys next : System} (known : PendingKnown sys)
    (records : ∀ index record, next.inst.completion.completions index = some record →
      sys.inst.completion.completions index = some record)
    (names : ∀ index record, sys.inst.completion.completions index = some record →
      Known sys.services record.serviceUserdata →
        Known next.services record.serviceUserdata) : PendingKnown next := by
  intro index record present
  have old := records index record present
  exact names index record old (known index record old)

/-- A step that leaves the records alone and only adds names. -/
theorem PendingKnown.same_records {sys next : System} (known : PendingKnown sys)
    (records : next.inst.completion.completions = sys.inst.completion.completions)
    (names : ∀ userdata, Known sys.services userdata → Known next.services userdata) :
    PendingKnown next := by
  apply known.grow
  · intro index record present
    rwa [records] at present
  · intro index record _ named
    exact names record.serviceUserdata named

theorem known_insert {services : ServiceHandle → Option ServiceHandle}
    {userdata : Option ServiceHandle} (handle srvHandle : ServiceHandle)
    (known : Known services userdata) :
    Known (Function.update services handle (some srvHandle)) userdata := by
  cases userdata with
  | none => simp [Known] at known
  | some name =>
      by_cases same : name = handle
      · simp [Known, same]
      · simpa [Known, Function.update_of_ne same] using known

theorem known_remove {services : ServiceHandle → Option ServiceHandle}
    {userdata : Option ServiceHandle} {handle : ServiceHandle}
    (known : Known services userdata) (other : userdata ≠ some handle) :
    Known (Function.update services handle none) userdata := by
  cases userdata with
  | none => simp [Known] at known
  | some name =>
      have different : name ≠ handle := fun same => other (by rw [same])
      simpa [Known, Function.update_of_ne different] using known

/-- A wait that ends leaves the ring alone. -/
theorem await_service_completion {inst next : Instance} {srvHandle : ServiceHandle}
    {judge : ServiceHandle → ServiceState → Except VchiqError Unit}
    {result : Except VchiqError Unit}
    (polled : inst.awaitService srvHandle judge = some (result, next)) :
    next.completion = inst.completion ∧
      ∃ target ∈ inst.state.serviceOf srvHandle, result = judge srvHandle target.2.srvstate := by
  unfold Instance.awaitService at polled
  cases lookup : inst.state.serviceOf srvHandle with
  | none => simp [lookup] at polled
  | some target =>
      simp only [lookup] at polled
      split_ifs at polled
      simp only [Option.some.injEq, Prod.mk.injEq] at polled
      obtain ⟨rfl, rfl⟩ := polled
      exact ⟨rfl, target, rfl, rfl⟩

theorem finish_connect_completion {inst next : Instance}
    (finished : inst.finishConnect = some next) : next.completion = inst.completion := by
  unfold Instance.finishConnect at finished
  split at finished
  · split_ifs at finished
    simp only [Option.some.injEq] at finished
    rw [← finished]
  · simp only [Option.some.injEq] at finished
    rw [← finished]

theorem resume_known {sys next : System} (known : PendingKnown sys)
    (unnamed : RemovedUnnamed sys sys.pending) (polled : sys.resume = some next) :
    PendingKnown next := by
  cases resume_cases polled with
  | connected waiting finished =>
      apply known.same_records
      · exact congrArg Completion.completions (finish_connect_completion finished)
      · exact fun _ named => named
  | refused busy awaited =>
      apply known.same_records
      · exact congrArg Completion.completions (await_service_completion awaited).1
      · exact fun _ named => named
  | opened waiting awaited =>
      apply known.same_records
      · exact congrArg Completion.completions (await_service_completion awaited).1
      · exact fun _ named => known_insert _ _ named
  | closed waiting awaited =>
      -- the one step that takes a name away
      rw [waiting] at unnamed
      obtain ⟨same, target, found, judged⟩ := await_service_completion awaited
      apply known.grow
      · simp only [same]
        exact fun _ _ present => present
      · intro index record present named
        exact known_remove named (unnamed target found judged.symm index record present)

/-- The records after a message are those before and some of the receiver. -/
theorem received_known {sys : System} {inst : Instance} {message : SlotMessage}
    (registry : RegistryInvariant sys.protocol) (known : PendingKnown sys)
    (delivered : DeliveredKnown sys message)
    (handled : Dispatched sys.inst message inst) : PendingKnown { sys with inst := inst } := by
  cases handled with
  | connect _ => exact known
  | ignored _ _ => exact known
  | acknowledged _ _ => exact known
  | closed _ _ _ => exact known
  | dropped _ _ _ => exact known
  | @delivered service target reference completion user msgType used accepted found stored
      callback =>
      obtain ⟨_, isTarget⟩ := registry.callback_receiver used.1 found stored
      intro index record present
      rcases service_callback_records callback index record present with old | new
      · exact known index record old
      · rw [new, isTarget]
        exact delivered msgType service used.1 accepted

theorem poll_dequeue_completion {inst next : Instance} {reference : ServiceRef}
    (polled : inst.pollDequeue reference = .ok next) : next.completion = inst.completion := by
  unfold Instance.pollDequeue at polled
  split at polled
  · simp at polled
  · simp only at polled
    split at polled
    · simp only [Except.ok.injEq] at polled
      rw [← polled]
      rfl
    · split at polled
      · simp at polled
      · simp only [Except.ok.injEq] at polled
        rw [← polled]
        rfl

theorem call_known {sys next : System} {call : Call}
    {result : Except VchiStop (Option Outgoing)} (known : PendingKnown sys)
    (polled : sys.call call = (result, next)) : PendingKnown next := by
  obtain ⟨completion, services⟩ := call_completion sys call
  rw [polled] at completion services
  apply known.same_records
  · exact congrArg Completion.completions completion
  · rw [services]
    exact fun _ named => named

theorem pending_known_step {sys next : System} {action : Action}
    (registry : RegistryInvariant sys.protocol) (known : PendingKnown sys)
    (move : Guarded SystemStep KeepsNames sys action next) : PendingKnown next := by
  obtain ⟨step, keeps⟩ := move
  cases step with
  | @called _ call sent exclusive polled => exact call_known known polled
  | @failed _ call error exclusive polled => exact call_known known polled
  | resumed polled => exact resume_known known keeps polled
  | dropped => exact known
  | received handled => exact received_known registry known keeps (dispatch_cases handled)
  | dequeued polled =>
      apply known.same_records
      · exact congrArg Completion.completions (poll_dequeue_completion polled)
      · exact fun _ named => named
  | completed spawned taken looked =>
      apply known.grow
      · exact (await_completion_subset.1 _ _ taken).2
      · exact fun _ _ _ named => named
  | idled spawned waiting =>
      apply known.same_records
      · exact await_completion_subset.2 _ waiting
      · exact fun _ named => named

/-- In every run that keeps the names in line, every pending completion names a
service in the map, and the completion handler finds it. -/
theorem pending_completions_known {raw : SlotZero} {memory : Memory} {totalMemory : Nat}
    {fresh : State} {actions : List Action} {reached : System}
    (made : freshState raw memory totalMemory = .ok fresh)
    (run : Run (Guarded SystemStep KeepsNames) (System.new (freshInstance fresh)) actions
      reached) :
    PendingKnown reached ∧ LookupsSucceed reached := by
  have known : PendingKnown reached := by
    apply run.invariant fun _ sys => PendingKnown sys
    · intro index record present
      simp [System.new, freshInstance, Completion.default] at present
    · intro actions before action after run known move
      obtain ⟨_, abstractRun⟩ :=
        run_simulated (fun _ _ => True) (fresh_state_facts made) run.unguarded.guarded
      exact pending_known_step (protocol_invariant_run abstractRun.unguarded).registry known move
  exact ⟨known, known.lookups⟩

/-- DATA for a service whose open call has returned. -/
def announcedMoves : List Move :=
  openingMoves ++ [.resume, .receive (remoteMessage .data 75 0)]

set_option maxRecDepth 20000 in
theorem announced_performed :
    ∃ fresh actions reached records completion,
      freshState blankSlotZero (fun _ => 0) (65 * vchiqSlotSize) = .ok fresh ∧
      (System.new (freshInstance fresh)).performAll KeepsNames announcedMoves =
        some (actions, reached) ∧
      reached.awaitCompletion = .ready records completion ∧ records.length = 1 :=
  ⟨_, _, _, _, _, rfl, rfl, rfl, rfl⟩

/-- Its completion is found. -/
theorem announced_completion_known :
    ∃ (reached : System) (records : List ServiceCompletion) (completion : Completion)
        (found : List ServiceHandle),
      reached.awaitCompletion = .ready records completion ∧ records.length = 1 ∧
        lookupServices reached.services records = .ok found := by
  obtain ⟨fresh, actions, reached, records, completion, made, performed, taken, single⟩ :=
    announced_performed
  obtain ⟨_, lookups⟩ := pending_completions_known made (perform_all_run .refl performed)
  obtain ⟨found, looked⟩ := lookups records completion taken
  exact ⟨reached, records, completion, found, taken, single, looked⟩

/-- DATA that follows the OPENACK before the open call has returned. -/
def earlyDataMoves : List Move := openingMoves ++ [.receive (remoteMessage .data 75 0)]

/-- A service that is closed while a completion of it is pending. -/
def lateCompletionMoves : List Move :=
  announcedMoves ++
    [.call (.serviceClose 0), .receive (remoteMessage .close 75 0), .resume]

set_option maxRecDepth 20000 in
theorem early_data_performed :
    ∃ fresh actions reached records completion,
      freshState blankSlotZero (fun _ => 0) (65 * vchiqSlotSize) = .ok fresh ∧
      (System.new (freshInstance fresh)).performAll Anything earlyDataMoves =
        some (actions, reached) ∧
      wireTypes actions = [(true, some .connect), (false, some .connect), (true, some .open),
        (false, some .openAck), (false, some .data)] ∧
      reached.awaitCompletion = .ready records completion ∧
      lookupServices reached.services records = .error .unwrapNone :=
  ⟨_, _, _, _, _, rfl, rfl, rfl, rfl, rfl⟩

set_option maxRecDepth 20000 in
theorem late_completion_performed :
    ∃ fresh actions reached records completion,
      freshState blankSlotZero (fun _ => 0) (65 * vchiqSlotSize) = .ok fresh ∧
      (System.new (freshInstance fresh)).performAll Anything lateCompletionMoves =
        some (actions, reached) ∧
      wireTypes actions = [(true, some .connect), (false, some .connect), (true, some .open),
        (false, some .openAck), (false, some .data), (true, some .close),
        (false, some .close)] ∧
      reached.awaitCompletion = .ready records completion ∧
      lookupServices reached.services records = .error .unwrapNone :=
  ⟨_, _, _, _, _, rfl, rfl, rfl, rfl, rfl⟩

theorem lookups_fail {sys : System} {records : List ServiceCompletion}
    {completion : Completion} {panic : Panic}
    (taken : sys.awaitCompletion = .ready records completion)
    (failed : lookupServices sys.services records = .error panic) : ¬LookupsSucceed sys := by
  intro lookups
  obtain ⟨found, looked⟩ := lookups records completion taken
  rw [failed] at looked
  simp at looked

/-- In both runs the completion handler finds no service. -/
theorem lost_names_panic :
    ∃ fresh early first fresh' late second,
      freshState blankSlotZero (fun _ => 0) (65 * vchiqSlotSize) = .ok fresh ∧
      Run SystemStep (System.new (freshInstance fresh)) early first ∧
      wireTypes early = [(true, some .connect), (false, some .connect), (true, some .open),
        (false, some .openAck), (false, some .data)] ∧ ¬LookupsSucceed first ∧
      freshState blankSlotZero (fun _ => 0) (65 * vchiqSlotSize) = .ok fresh' ∧
      Run SystemStep (System.new (freshInstance fresh')) late second ∧
      wireTypes late = [(true, some .connect), (false, some .connect), (true, some .open),
        (false, some .openAck), (false, some .data), (true, some .close),
        (false, some .close)] ∧ ¬LookupsSucceed second := by
  obtain ⟨fresh, early, first, _, _, made, performed, types, taken, failed⟩ :=
    early_data_performed
  obtain ⟨fresh', late, second, _, _, made', performed', types', taken', failed'⟩ :=
    late_completion_performed
  exact ⟨fresh, early, first, fresh', late, second, made,
    (perform_all_run .refl performed).unguarded, types, lookups_fail taken failed, made',
    (perform_all_run .refl performed').unguarded, types', lookups_fail taken' failed'⟩

end RuspiroVchiq.Vchi
