import RuspiroVchiq.Delivery.Notices
import RuspiroVchiq.Lib.TicketQueue

/-!
# Announcements

Every service has at most one unhandled announcement in the completion ring, at the
position it remembers. So the ring is never longer than there are services, and it
overflows exactly when there are more of them than the ring has cells: nothing else
keeps `add_completion` from overwriting the oldest record. Positions are compared
as `isize`, so all this is about the first 2^63 announcements.
-/

namespace RuspiroVchiq.Delivery

open RuspiroVchiq.Config
open RuspiroVchiq.Shared
open RuspiroVchiq.Vchiq
open RuspiroVchiq.Lib.LabelledRun
open RuspiroVchiq.Lib.RingQueue
open RuspiroVchiq.Lib.TicketQueue

set_option autoImplicit false

def NoticeLabel.record : NoticeLabel → Option ServiceCompletion
  | .noticed _ record | .announced _ record => some record
  | _ => none

/-- Every record that was ever added to the ring, by its position. -/
def announcedRecords (labels : List NoticeLabel) : List ServiceCompletion :=
  labels.filterMap NoticeLabel.record

theorem announced_records_snoc (labels : List NoticeLabel) (label : NoticeLabel) :
    announcedRecords (labels ++ [label]) = announcedRecords labels ++ label.record.toList := by
  rw [announcedRecords, List.filterMap_append, announcedRecords]
  cases found : label.record <;> simp [found]

/-- Only the first `services` services receive messages, and the positions stay
within the range of `isize`. -/
def Among (services : Nat) (state : Notices) : NoticeLabel → Prop
  | .entered service _ => service < services
  | .noticed _ _ | .announced _ _ => state.completion.completionInsert + 1 < 2 ^ 63
  | _ => True

/-- The counters stay within the ring, every record that was not removed yet is in its
cell, and the removal loop never meets an empty one. -/
structure CompletionsBounded (labels : List NoticeLabel) (state : Notices) : Prop where
  order : state.completion.completionRemove ≤ state.completion.completionInsert
  capacity : state.completion.completionInsert ≤
    state.completion.completionRemove + maxCompletions
  logged : (announcedRecords labels).length = state.completion.completionInsert
  intact : ∀ position, state.completion.completionRemove ≤ position →
    ∀ bound : position < (announcedRecords labels).length,
      state.completion.completions (completionIndex position) =
        some ((announcedRecords labels).get ⟨position, bound⟩)
  await : ∀ count, ∃ records next, takeCompletions count state.completion = .ok (records, next)

/-- The record at a pending position of the ring names the service. -/
def Owns (state : Notices) (service position : Nat) : Prop :=
  state.completion.completionRemove ≤ position ∧ position < state.completion.completionInsert ∧
    ∃ record, state.completion.completions (completionIndex position) = some record ∧
      record.reason = .messageAvailable ∧ record.serviceUserdata = some service

/-- A record that makes a message of the service known. -/
def Announces (service : Nat) (record : ServiceCompletion) : Prop :=
  record.reason = .messageAvailable ∧ record.serviceUserdata = some service

/-- What became of a message behind its insertion: a caller was waiting, or a record of
the service is pending, or one was removed since. -/
def Notified (state : Notices) (service : Nat) (callers : Nat → CallerPhase)
    (later : List NoticeLabel) : Prop :=
  (∃ caller, callers caller = .waiting service) ∨ (∃ position, Owns state service position) ∨
    ∃ records, NoticeLabel.awaited records ∈ later ∧ ∃ record ∈ records, Announces service record

/-- A message counts once its callback has given the user data free. -/
structure NotificationDiscipline (labels : List NoticeLabel) (state : Notices) : Prop where
  single : ∀ service first second, Owns state service first → Owns state service second →
    first = second
  remembered : ∀ service position, Owns state service position →
    (state.users service).messageAvailablePos = position
  waiting : ∀ service, (state.users service).dequeuePending = true →
    (state.users service).msgInsert = (state.users service).msgRemove
  notified : ∀ earlier service message callers later,
    labels = earlier ++ .inserted service message callers :: later →
      state.callback.locked ≠ some service → Notified state service callers later

theorem as_isize_of_lt {value : Nat} (small : value < 2 ^ 63) : asIsize value = value := by
  unfold asIsize
  have reduced : value % 2 ^ 64 = value := Nat.mod_eq_of_lt (by omega)
  rw [reduced, if_pos small]

/-- What an addition does to the user data. -/
theorem add_completion_user {completion next : Completion} {message : Option SlotMessage}
    {user user' : ServiceUser}
    (added : completion.addCompletion .messageAvailable message user = .ok (next, user')) :
    user' = { user with messageAvailablePos := asIsize completion.completionInsert } := by
  unfold Completion.addCompletion at added
  simp only at added
  split at added
  · simp at added
  · simp only [Except.ok.injEq, Prod.mk.injEq, if_true] at added
    exact added.2.symm

theorem take_completions_counters {count : Nat} {completion next : Completion}
    {records : List ServiceCompletion}
    (taken : takeCompletions count completion = .ok (records, next)) :
    next.completionInsert = completion.completionInsert ∧
      next.completionRemove = completion.completionRemove + records.length := by
  induction count generalizing completion records with
  | zero =>
      simp only [takeCompletions, Except.ok.injEq, Prod.mk.injEq] at taken
      obtain ⟨rfl, rfl⟩ := taken
      exact ⟨rfl, rfl⟩
  | succ count ih =>
      rcases take_completions_succ taken with ⟨rfl, rfl⟩ | ⟨record, rest, _, _, further, rfl⟩
      · exact ⟨rfl, rfl⟩
      · obtain ⟨insert, remove⟩ := ih further
        refine ⟨insert, ?_⟩
        rw [remove, List.length_cons]
        simp only
        omega

/-- The counters of a message ring are in order, and its occupied cells belong to
positions between them. It stays so when messages are overwritten. -/
structure MessageRing (user : ServiceUser) : Prop where
  order : user.msgRemove ≤ user.msgInsert
  occupied : ∀ target message, user.msgQueue target = some message →
    ∃ position, user.msgRemove ≤ position ∧ position < user.msgInsert ∧
      msgQueueIndex position = target

theorem MessageRing.congr {user user' : ServiceUser} (ring : MessageRing user)
    (same : SameQueue user user') : MessageRing user' := by
  constructor
  · rw [same.msgRemove, same.msgInsert]
    exact ring.order
  · rw [same.msgRemove, same.msgInsert, same.msgQueue]
    exact ring.occupied

theorem MessageRing.insert {user : ServiceUser} (ring : MessageRing user)
    (message : SlotMessage) : MessageRing (insertMessage user (some message)) := by
  have order := ring.order
  constructor
  · exact Nat.le_succ_of_le order
  · intro target stored present
    simp only [insertMessage] at present ⊢
    by_cases here : target = msgQueueIndex user.msgInsert
    · exact ⟨user.msgInsert, order, Nat.lt_succ_self _, here.symm⟩
    · rw [Function.update_of_ne here] at present
      obtain ⟨position, lower, upper, cell⟩ := ring.occupied target stored present
      exact ⟨position, lower, Nat.lt_succ_of_lt upper, cell⟩

/-- Only a queue with messages can be read, also when two callers were ready for the
same message. -/
theorem MessageRing.take {user user' : ServiceUser} {bytes : List UInt8}
    (ring : MessageRing user) (removal : dequeueTake user = .ok (bytes, user')) :
    user.msgRemove < user.msgInsert ∧ MessageRing user' ∧
      user'.dequeuePending = user.dequeuePending ∧
      user'.messageAvailablePos = user.messageAvailablePos ∧
      user'.userdata = user.userdata := by
  unfold dequeueTake at removal
  split_ifs at removal
  cases stored : user.msgQueue (msgQueueIndex user.msgRemove) with
  | none => simp [stored] at removal
  | some message =>
      simp only [stored, Except.ok.injEq, Prod.mk.injEq] at removal
      obtain ⟨_, rfl⟩ := removal
      obtain ⟨position, lower, upper, _⟩ := ring.occupied _ message stored
      have nonempty : user.msgRemove < user.msgInsert := Nat.lt_of_le_of_lt lower upper
      refine ⟨nonempty, ⟨nonempty, ?_⟩, rfl, rfl, rfl⟩
      intro target other present
      simp only at present ⊢
      by_cases here : target = msgQueueIndex user.msgRemove
      · rw [here, Function.update_self] at present
        simp at present
      · rw [Function.update_of_ne here] at present
        obtain ⟨position, lower, upper, cell⟩ := ring.occupied target other present
        refine ⟨position, ?_, upper, cell⟩
        apply Nat.lt_of_le_of_ne lower
        rintro rfl
        exact here cell.symm

/-- A waiting flag is only set while the queue is empty and a caller waits. -/
structure CallerInvariant (state : Notices) : Prop where
  ring : ∀ service, MessageRing (state.users service)
  waiting : ∀ service, (state.users service).dequeuePending = true →
    (state.users service).msgInsert = (state.users service).msgRemove ∧
      ∃ caller, state.callers caller = .waiting service

/-- One service changes, and the callers waiting on the others stay. -/
theorem CallerInvariant.update {state : Notices} {service : Nat} {user : ServiceUser}
    {completion : Completion} {callback : CallbackPhase} {callers : Nat → CallerPhase}
    (inv : CallerInvariant state) (ring : MessageRing user)
    (waiting : user.dequeuePending = true → user.msgInsert = user.msgRemove ∧
      ∃ caller, callers caller = .waiting service)
    (stay : ∀ other, other ≠ service → ∀ caller, state.callers caller = .waiting other →
      callers caller = .waiting other) :
    CallerInvariant ⟨Function.update state.users service user, completion, callback,
      callers⟩ := by
  constructor
  · intro other
    by_cases same : other = service
    · subst same
      simpa only [Function.update_self] using ring
    · simpa only [Function.update_of_ne same] using inv.ring other
  · intro other pending
    by_cases same : other = service
    · subst same
      simp only [Function.update_self] at pending ⊢
      exact waiting pending
    · simp only [Function.update_of_ne same] at pending ⊢
      obtain ⟨counters, caller, waits⟩ := inv.waiting other pending
      exact ⟨counters, caller, stay other same caller waits⟩

/-- The callers move, but the one that waits on an empty queue stays. -/
theorem CallerInvariant.moved {state : Notices} {callers : Nat → CallerPhase}
    (inv : CallerInvariant state)
    (stay : ∀ service caller, state.callers caller = .waiting service →
      callers caller = .waiting service) :
    CallerInvariant { state with callers := callers } := by
  constructor
  · exact inv.ring
  · intro service pending
    obtain ⟨counters, caller, waits⟩ := inv.waiting service pending
    exact ⟨counters, caller, stay service caller waits⟩

/-- The user data as far as queues, flags and positions are concerned. -/
structure SameNotice (before after : ServiceUser) : Prop where
  queue : SameQueue before after
  dequeuePending : after.dequeuePending = before.dequeuePending
  position : after.messageAvailablePos = before.messageAvailablePos

theorem enter_callback_same (service : Nat) (message : SlotMessage) (user : ServiceUser)
    (completion : Completion) :
    SameNotice user (enterCallback service message user completion).2 := by
  unfold enterCallback
  split_ifs
  all_goals exact ⟨⟨rfl, rfl, rfl, rfl, rfl⟩, rfl, rfl⟩

theorem enter_callback_locked (service : Nat) (message : SlotMessage) (user : ServiceUser)
    (completion : Completion) :
    (enterCallback service message user completion).1.locked = some service := by
  unfold enterCallback
  split_ifs <;> rfl

/-- A poll of an empty queue leaves the flag set and the caller waiting; any other poll
changes nothing. -/
theorem dequeue_ready_cases (user : ServiceUser) :
    (user.msgRemove = user.msgInsert ∧ (dequeueReady user).1 = false ∧
        (dequeueReady user).2.messageAvailablePos = user.messageAvailablePos) ∨
      (user.msgRemove ≠ user.msgInsert ∧ dequeueReady user = (true, user)) := by
  by_cases isEmpty : user.msgRemove = user.msgInsert
  · left
    rw [dequeue_ready_empty isEmpty]
    exact ⟨isEmpty, rfl, rfl⟩
  · right
    exact ⟨isEmpty, dequeue_ready_filled isEmpty⟩

theorem insert_section_pending (message : SlotMessage) (user : ServiceUser)
    (completion : Completion) :
    (insertSection message user completion).2.dequeuePending = false := by
  unfold insertSection
  simp only
  split_ifs with skipped
  · rfl
  · simp only [skipCompletion, Bool.or_eq_true, not_or, Bool.not_eq_true] at skipped
    exact skipped.2

/-- A caller that does not wait moves on; those that wait stay. -/
theorem waiting_stays {callers : Nat → CallerPhase} {caller waiter service : Nat}
    {phase : CallerPhase} (notWaiting : callers caller ≠ .waiting service)
    (waits : callers waiter = .waiting service) :
    Function.update callers caller phase waiter = .waiting service := by
  have different : waiter ≠ caller := by
    rintro rfl
    exact notWaiting waits
  rw [Function.update_of_ne different, waits]

theorem caller_invariant_step {before after : Notices} {label : NoticeLabel}
    (inv : CallerInvariant before) (step : NoticeStep before label after) :
    CallerInvariant after := by
  -- a service whose queue and flag stay keeps its waiting caller
  have kept : ∀ {service : Nat} {user : ServiceUser} {completion : Completion}
      {callback : CallbackPhase}, SameQueue (before.users service) user →
      user.dequeuePending = (before.users service).dequeuePending →
      CallerInvariant ⟨Function.update before.users service user, completion, callback,
        before.callers⟩ := by
    intro service user completion callback same flag
    apply inv.update ((inv.ring service).congr same)
    · rw [flag, same.msgInsert, same.msgRemove]
      exact inv.waiting service
    · exact fun _ _ _ waits => waits
  cases step with
  | entered service message idle =>
      have same := enter_callback_same service message (before.users service) before.completion
      exact kept same.queue same.dequeuePending
  | noticed phase added =>
      rw [add_completion_user added]
      exact kept ⟨rfl, rfl, rfl, rfl, rfl⟩ rfl
  | @inserted service message phase =>
      apply inv.update
      · exact ((inv.ring service).insert message).congr ⟨rfl, rfl, rfl, rfl, rfl⟩
      · intro pending
        rw [insert_section_pending] at pending
        simp at pending
      · exact fun _ _ _ waits => waits
  | announced phase added =>
      rw [add_completion_user added]
      exact kept ⟨rfl, rfl, rfl, rfl, rfl⟩ rfl
  | called caller service free =>
      apply inv.moved
      intro other waiter
      exact waiting_stays (by simp [free])
  | polled caller service polls unlocked =>
      apply inv.update ((inv.ring service).congr (dequeue_ready_same_queue _))
      · intro pending
        rcases dequeue_ready_cases (before.users service) with
          ⟨isEmpty, notReady, _⟩ | ⟨nonempty, unchanged⟩
        · have same := dequeue_ready_same_queue (before.users service)
          rw [same.msgInsert, same.msgRemove]
          refine ⟨isEmpty.symm, caller, ?_⟩
          rw [Function.update_self, notReady]
          rfl
        · rw [unchanged] at pending
          exact absurd (inv.waiting service pending).1.symm nonempty
      · intro other different waiter
        apply waiting_stays
        rcases polls with isCalled | isWaiting
        · simp [isCalled]
        · rw [isWaiting]
          exact fun same => different (CallerPhase.waiting.inj same).symm
  | taken caller service ready unlocked removal =>
      obtain ⟨nonempty, ring, flag, _, _⟩ := (inv.ring service).take removal
      apply inv.update ring
      · intro pending
        rw [flag] at pending
        have isEmpty := (inv.waiting service pending).1
        omega
      · intro other _ waiter
        exact waiting_stays (by simp [ready])
  | failed caller service ready unlocked removal =>
      apply inv.moved
      intro other waiter
      exact waiting_stays (by simp [ready])
  | awaited count removal => exact ⟨inv.ring, inv.waiting⟩
  | pending => exact ⟨inv.ring, inv.waiting⟩

/-- The position every service remembers. -/
def Notices.position (state : Notices) (service : Nat) : Int :=
  (state.users service).messageAvailablePos

/-- What is known of a message behind its insertion while the callback may still run. -/
def Accounted (state : Notices) (service : Nat) (callers : Nat → CallerPhase)
    (later : List NoticeLabel) : Prop :=
  (∃ caller, callers caller = .waiting service) ∨
    (state.completion.completionRemove : Int) ≤ state.position service ∨
    (∃ records, NoticeLabel.awaited records ∈ later ∧
      ∃ record ∈ records, Announces service record) ∨
    ∃ message, state.callback = .announcing service message

def AllAccounted (labels : List NoticeLabel) (state : Notices) : Prop :=
  ∀ earlier service message callers later,
    labels = earlier ++ .inserted service message callers :: later →
      Accounted state service callers later

/-- An account is carried over a step that keeps what it rests on. -/
theorem Accounted.carried {before after : Notices} {service : Nat}
    {callers : Nat → CallerPhase} {later : List NoticeLabel} {label : NoticeLabel}
    (accounted : Accounted before service callers later)
    (pending : (before.completion.completionRemove : Int) ≤ before.position service →
      Accounted after service callers (later ++ [label]))
    (announcing : ∀ message, before.callback = .announcing service message →
      Accounted after service callers (later ++ [label])) :
    Accounted after service callers (later ++ [label]) := by
  rcases accounted with waits | remembered | ⟨records, member, removed⟩ | ⟨message, busy⟩
  · exact .inl waits
  · exact pending remembered
  · exact .inr (.inr (.inl ⟨records, List.mem_append_left _ member, removed⟩))
  · exact announcing message busy

theorem AllAccounted.snoc {labels : List NoticeLabel} {label : NoticeLabel}
    {before after : Notices} (accounted : AllAccounted labels before)
    (last : ∀ service message callers, label = .inserted service message callers →
      Accounted after service callers [])
    (carried : ∀ service callers later, Accounted before service callers later →
      Accounted after service callers (later ++ [label])) :
    AllAccounted (labels ++ [label]) after := by
  intro earlier service message callers later split
  rcases snoc_eq_split.mp split with ⟨rfl, _, isLast⟩ | ⟨later', rfl, split'⟩
  · exact last service message callers isLast
  · exact carried service callers later'
      (accounted earlier service message callers later' split')

/-- One service changes and keeps the position it remembers. -/
theorem position_update {state : Notices} {service : Nat} {user : ServiceUser}
    (kept : user.messageAvailablePos = state.position service) (completion : Completion)
    (callback : CallbackPhase) (callers : Nat → CallerPhase) :
    (⟨Function.update state.users service user, completion, callback, callers⟩ :
      Notices).position = state.position := by
  funext other
  by_cases same : other = service
  · subst same
    simp only [Notices.position, Function.update_self, kept]
  · simp only [Notices.position, Function.update_of_ne same]

theorem userdata_update {users : Nat → ServiceUser} {service : Nat} {user : ServiceUser}
    (same : user.userdata = (users service).userdata) (other : Nat) :
    (Function.update users service user other).userdata = (users other).userdata :=
  (Function.forall_update_iff users fun other user =>
    user.userdata = (users other).userdata).mpr ⟨same, fun _ _ => rfl⟩ other

/-- The records that were not removed yet, oldest first. -/
def unhandled (labels : List NoticeLabel) (state : Notices) : List ServiceCompletion :=
  (announcedRecords labels).drop state.completion.completionRemove

structure NoticeInvariant (services : Nat) (labels : List NoticeLabel) (state : Notices) :
    Prop where
  callers : CallerInvariant state
  named : ∀ service, (state.users service).userdata = some service
  small : state.completion.completionInsert < 2 ^ 63
  logged : (announcedRecords labels).length = state.completion.completionInsert
  reasons : ∀ record ∈ announcedRecords labels, record.reason = .messageAvailable
  holds : Holds state.completion.completions state.completion.completionRemove
    state.completion.completionInsert (unhandled labels state)
  tickets : Tickets (Finset.range services) ServiceCompletion.serviceUserdata
    (unhandled labels state) state.completion.completionRemove state.position
  admitted : ∀ service, state.callback.locked = some service → service < services
  unannounced : ∀ service message, state.callback = .noticing service message ∨
    state.callback = .announcing service message →
      state.position service < state.completion.completionRemove
  accounted : AllAccounted labels state

theorem NoticeInvariant.order {services : Nat} {labels : List NoticeLabel} {state : Notices}
    (inv : NoticeInvariant services labels state) :
    state.completion.completionRemove ≤ state.completion.completionInsert := by
  rw [← inv.holds.counters]
  exact Nat.le_add_right _ _

theorem NoticeInvariant.remove_position {services : Nat} {labels : List NoticeLabel}
    {state : Notices} (inv : NoticeInvariant services labels state) :
    asIsize state.completion.completionRemove = state.completion.completionRemove :=
  as_isize_of_lt (Nat.lt_of_le_of_lt inv.order inv.small)

/-- Steps that add and remove no record. -/
theorem NoticeInvariant.frame {services : Nat} {labels : List NoticeLabel}
    {label : NoticeLabel} {before after : Notices}
    (inv : NoticeInvariant services labels before) (callers : CallerInvariant after)
    (named : ∀ service, (after.users service).userdata = (before.users service).userdata)
    (position : after.position = before.position)
    (insert : after.completion.completionInsert = before.completion.completionInsert)
    (remove : after.completion.completionRemove = before.completion.completionRemove)
    (ring : after.completion.completions = before.completion.completions)
    (silent : label.record = none)
    (last : ∀ service message callers, label = .inserted service message callers →
      Accounted after service callers [])
    (admitted : ∀ service, after.callback.locked = some service → service < services)
    (unannounced : ∀ service message, after.callback = .noticing service message ∨
      after.callback = .announcing service message →
        before.position service < before.completion.completionRemove)
    (announcing : ∀ service message, before.callback = .announcing service message →
      after.callback = .announcing service message) :
    NoticeInvariant services (labels ++ [label]) after := by
  have log : announcedRecords (labels ++ [label]) = announcedRecords labels := by
    rw [announced_records_snoc, silent]
    simp
  have queue : unhandled (labels ++ [label]) after = unhandled labels before := by
    rw [unhandled, log, remove, unhandled]
  refine ⟨callers, ?_, ?_, ?_, ?_, ?_, ?_, admitted, ?_, ?_⟩
  · intro service
    rw [named, inv.named]
  · rw [insert]
    exact inv.small
  · rw [log, insert]
    exact inv.logged
  · rw [log]
    exact inv.reasons
  · rw [queue, ring, insert, remove]
    exact inv.holds
  · rw [queue, remove, position]
    exact inv.tickets
  · rw [remove, position]
    exact unannounced
  · apply inv.accounted.snoc last
    intro service callers later accounted
    apply accounted.carried
    · intro pending
      right; left
      rw [remove, position]
      exact pending
    · intro message busy
      exact .inr (.inr (.inr ⟨message, announcing service message busy⟩))

/-- A record is added for a service without one. The ring has room because the services
that own a record are fewer than the ring has cells. -/
theorem NoticeInvariant.added {services : Nat} {labels : List NoticeLabel}
    {label : NoticeLabel} {before : Notices} {completion : Completion} {user : ServiceUser}
    {service : Nat} {message : Option SlotMessage} {callback : CallbackPhase}
    (inv : NoticeInvariant services labels before) (few : services ≤ maxCompletions)
    (busy : before.callback.locked = some service)
    (without : before.position service < before.completion.completionRemove)
    (range : before.completion.completionInsert + 1 < 2 ^ 63)
    (announced : Announced before.completion completion
      (availableRecord (before.users service) message))
    (recorded : label.record = some (availableRecord (before.users service) message))
    (uninserted : ∀ service message callers, label ≠ .inserted service message callers)
    (named : user.userdata = (before.users service).userdata)
    (position : user.messageAvailablePos = asIsize before.completion.completionInsert)
    (locked : ∀ other, callback.locked = some other → other = service)
    (settled : ∀ other message, callback ≠ .noticing other message ∧
      callback ≠ .announcing other message)
    (callers : CallerInvariant
      ⟨Function.update before.users service user, completion, callback, before.callers⟩) :
    NoticeInvariant services (labels ++ [label])
      ⟨Function.update before.users service user, completion, callback, before.callers⟩ := by
  obtain ⟨remove, insert, ring⟩ := announced
  have order := inv.order
  have log : announcedRecords (labels ++ [label]) =
      announcedRecords labels ++ [availableRecord (before.users service) message] := by
    rw [announced_records_snoc, recorded]
    rfl
  have queue : unhandled (labels ++ [label])
      ⟨Function.update before.users service user, completion, callback, before.callers⟩ =
        unhandled labels before ++ [availableRecord (before.users service) message] := by
    simp only [unhandled, remove, log]
    rw [List.drop_append_of_le_length]
    rw [inv.logged]
    exact order
  have length : before.completion.completionRemove + (unhandled labels before).length =
      before.completion.completionInsert := inv.holds.counters
  have positions : (⟨Function.update before.users service user, completion, callback,
      before.callers⟩ : Notices).position = Function.update before.position service
        (before.completion.completionRemove + (unhandled labels before).length : Nat) := by
    funext other
    by_cases same : other = service
    · subst same
      simp only [Notices.position, Function.update_self, position]
      rw [as_isize_of_lt (Nat.lt_of_succ_lt range), length]
    · simp only [Notices.position, Function.update_of_ne same]
  have tickets := inv.tickets.push (availableRecord (before.users service) message)
    (Finset.mem_range.mpr (inv.admitted service busy)) without (inv.named service)
  have room : (unhandled labels before).length < maxCompletions := by
    have bound := tickets.length_le
    simp only [List.length_append, List.length_singleton, Finset.card_range] at bound
    omega
  refine ⟨callers, ?_, ?_, ?_, ?_, ?_, ?_, ?_, ?_, ?_⟩
  · exact (Function.forall_update_iff before.users fun other user =>
      user.userdata = some other).mpr
        ⟨named.trans (inv.named service), fun other _ => inv.named other⟩
  · simp only [insert]
    exact range
  · rw [log, List.length_append, inv.logged]
    exact insert.symm
  · rw [log]
    intro record member
    rcases List.mem_append.mp member with old | new
    · exact inv.reasons record old
    · rw [List.mem_singleton.mp new]
      rfl
  · rw [queue]
    simp only [remove, insert, ring, completion_index_eq]
    exact inv.holds.push room _
  · rw [queue, positions]
    simp only [remove]
    exact tickets
  · intro other isLocked
    rw [locked other isLocked]
    exact inv.admitted service busy
  · intro other message' phase
    rcases phase with isNoticing | isAnnouncing
    · exact absurd isNoticing (settled other message').1
    · exact absurd isAnnouncing (settled other message').2
  · apply inv.accounted.snoc
    · intro other message' callers isLast
      exact absurd isLast (uninserted other message' callers)
    intro other callers later accounted
    by_cases same : other = service
    · subst same
      right; left
      rw [positions, Function.update_self]
      simp only [remove]
      omega
    · apply accounted.carried
      · intro pending
        right; left
        rw [positions, Function.update_of_ne same]
        simp only [remove]
        exact pending
      · intro message' announcing
        rw [announcing] at busy
        exact absurd (Option.some.inj busy) same

/-- The removal of records by `await_completion`. -/
theorem NoticeInvariant.removed {services : Nat} {labels : List NoticeLabel}
    {before : Notices} {completion : Completion} {records : List ServiceCompletion}
    {count : Nat} (inv : NoticeInvariant services labels before)
    (removal : takeCompletions count before.completion = .ok (records, completion)) :
    NoticeInvariant services (labels ++ [.awaited records])
      { before with completion := completion } := by
  obtain ⟨insert, remove⟩ := take_completions_counters removal
  obtain ⟨next, taken, kept⟩ := take_completions_spec count _ inv.holds
  rw [removal] at taken
  simp only [Except.ok.injEq, Prod.mk.injEq] at taken
  obtain ⟨front, rfl⟩ := taken
  have log : announcedRecords (labels ++ [.awaited records]) = announcedRecords labels := by
    rw [announced_records_snoc]
    simp [NoticeLabel.record]
  have queue : unhandled (labels ++ [.awaited records])
      { before with completion := completion } =
        (unhandled labels before).drop records.length := by
    simp only [unhandled, log, remove, List.drop_drop]
  have rest : (unhandled labels before).drop count =
      (unhandled labels before).drop records.length := by
    rw [front, List.length_take]
    by_cases enough : count ≤ (unhandled labels before).length
    · rw [Nat.min_eq_left enough]
    · rw [Nat.min_eq_right (by omega), List.drop_length, List.drop_eq_nil_of_le (by omega)]
  have lower : before.completion.completionRemove ≤ completion.completionRemove := by omega
  refine ⟨⟨inv.callers.ring, inv.callers.waiting⟩, inv.named, ?_, ?_, ?_, ?_, ?_, inv.admitted,
    ?_, ?_⟩
  · simp only [insert]
    exact inv.small
  · rw [log, inv.logged]
    exact insert.symm
  · rw [log]
    exact inv.reasons
  · rw [queue, ← rest]
    exact kept
  · rw [queue]
    simp only [remove]
    exact inv.tickets.drop
  · intro service message phase
    have behind := inv.unannounced service message phase
    simp only [Notices.position] at behind ⊢
    omega
  · apply inv.accounted.snoc (by simp)
    intro service callers later accounted
    apply accounted.carried
    · intro pending
      by_cases still : (completion.completionRemove : Int) ≤ before.position service
      · exact .inr (.inl still)
      · -- the record of the service is among those that were removed
        right; right; left
        obtain ⟨index, record, found, owns, here⟩ := inv.tickets.pending service pending
        have inside : index < records.length := by omega
        refine ⟨records, by simp, record, ?_, ?_, owns⟩
        · rw [front] at inside ⊢
          rw [List.length_take] at inside
          rw [← List.getElem?_take_of_lt (Nat.lt_of_lt_of_le inside (Nat.min_le_left _ _))]
            at found
          exact List.mem_of_getElem? found
        · exact inv.reasons record (List.mem_of_mem_drop (List.mem_of_getElem? found))
    · intro message announcing
      exact .inr (.inr (.inr ⟨message, announcing⟩))

/-- The insertion of a message: it is skipped only for a caller that waits or a record
that is pending. -/
theorem NoticeInvariant.inserted {services : Nat} {labels : List NoticeLabel}
    {before : Notices} {service : Nat} {message : SlotMessage}
    (inv : NoticeInvariant services labels before)
    (phase : before.callback = .inserting service message)
    (step : NoticeStep before (.inserted service message before.callers)
      { before with
        users := Function.update before.users service
          (insertSection message (before.users service) before.completion).2
        callback :=
          if (insertSection message (before.users service) before.completion).1 then .idle
          else .announcing service message }) :
    NoticeInvariant services (labels ++ [.inserted service message before.callers])
      { before with
        users := Function.update before.users service
          (insertSection message (before.users service) before.completion).2
        callback :=
          if (insertSection message (before.users service) before.completion).1 then .idle
          else .announcing service message } := by
  have callers := caller_invariant_step inv.callers step
  have positions := fun callback => position_update
    (show (insertSection message (before.users service) before.completion).2.messageAvailablePos =
      before.position service from rfl) before.completion callback before.callers
  have busy : before.callback.locked = some service := by rw [phase]; rfl
  -- why the announcement is skipped, if it is
  have skipped : (insertSection message (before.users service) before.completion).1 =
      (decide ((before.completion.completionRemove : Int) ≤ before.position service) ||
        (before.users service).dequeuePending) := by
    simp only [insertSection, skipCompletion, inv.remove_position]
    rfl
  apply inv.frame callers (userdata_update rfl) (positions _) rfl rfl rfl rfl
  · intro other message' callers' isLast
    simp only [NoticeLabel.inserted.injEq] at isLast
    obtain ⟨rfl, rfl, rfl⟩ := isLast
    unfold Accounted
    rw [positions]
    cases skip : (insertSection message (before.users service) before.completion).1 with
    | false => exact .inr (.inr (.inr ⟨message, by simp⟩))
    | true =>
        rw [skipped] at skip
        simp only [Bool.or_eq_true, decide_eq_true_eq] at skip
        rcases skip with pending | waits
        · exact .inr (.inl pending)
        · exact .inl (inv.callers.waiting service waits).2
  · intro other locked
    split_ifs at locked
    · simp [CallbackPhase.locked] at locked
    · rw [← Option.some.inj locked]
      exact inv.admitted service busy
  · intro other message' isNext
    split_ifs at isNext with skip
    · simp at isNext
    · simp only [false_or, CallbackPhase.announcing.injEq] at isNext
      rw [← isNext.1]
      rw [skipped] at skip
      simp only [Bool.or_eq_true, decide_eq_true_eq, not_or] at skip
      exact Int.not_le.mp skip.1
  · intro other message' announcing
    rw [phase] at announcing
    simp at announcing

theorem notice_invariant_step {services : Nat} {labels : List NoticeLabel}
    {label : NoticeLabel} {before after : Notices} (few : services ≤ maxCompletions)
    (inv : NoticeInvariant services labels before)
    (step : Guarded NoticeStep (Among services) before label after) :
    NoticeInvariant services (labels ++ [label]) after := by
  obtain ⟨move, guard⟩ := step
  have callers := caller_invariant_step inv.callers move
  cases move with
  | entered service message idle =>
      have same := enter_callback_same service message (before.users service) before.completion
      apply inv.frame callers (userdata_update same.queue.userdata)
        (position_update same.position _ _ _) rfl rfl rfl rfl (by simp)
      · intro other locked
        simp only [enter_callback_locked, Option.some.injEq] at locked
        rw [← locked]
        exact guard
      · intro other message' next
        have remove := inv.remove_position
        unfold enterCallback at next
        split_ifs at next with full unannounced
        · simp only [CallbackPhase.noticing.injEq, or_false] at next
          rw [← next.1, ← remove]
          exact unannounced
        · simp at next
        · simp at next
      · intro other message' announcing
        simp [idle] at announcing
  | noticed phase added =>
      refine inv.added few (by rw [phase]; rfl) (inv.unannounced _ _ (.inl phase)) guard
        (add_completion_announced added) rfl (by simp) (by rw [add_completion_user added])
        (by rw [add_completion_user added]) ?_ (by simp) callers
      intro other locked
      exact (Option.some.inj locked).symm
  | inserted phase => exact inv.inserted phase (.inserted phase)
  | announced phase added =>
      refine inv.added few (by rw [phase]; rfl) (inv.unannounced _ _ (.inr phase)) guard
        (add_completion_announced added) rfl (by simp) (by rw [add_completion_user added])
        (by rw [add_completion_user added]) ?_ (by simp) callers
      intro other locked
      simp [CallbackPhase.locked] at locked
  | called caller service free =>
      exact inv.frame callers (fun _ => rfl) rfl rfl rfl rfl rfl (by simp) inv.admitted
        inv.unannounced fun _ _ announcing => announcing
  | polled caller service polls unlocked =>
      have same := dequeue_ready_same_queue (before.users service)
      have position : (dequeueReady (before.users service)).2.messageAvailablePos =
          before.position service := by
        rcases dequeue_ready_cases (before.users service) with ⟨_, _, kept⟩ | ⟨_, unchanged⟩
        · exact kept
        · rw [unchanged]
          rfl
      exact inv.frame callers (userdata_update same.userdata) (position_update position _ _ _) rfl
        rfl rfl rfl (by simp) inv.admitted inv.unannounced fun _ _ announcing => announcing
  | taken caller service ready unlocked removal =>
      obtain ⟨_, _, _, position, named⟩ := (inv.callers.ring service).take removal
      exact inv.frame callers (userdata_update named) (position_update position _ _ _) rfl rfl rfl
        rfl (by simp) inv.admitted inv.unannounced fun _ _ announcing => announcing
  | failed caller service ready unlocked removal =>
      exact inv.frame callers (fun _ => rfl) rfl rfl rfl rfl rfl (by simp) inv.admitted
        inv.unannounced fun _ _ announcing => announcing
  | awaited count removal => exact inv.removed removal
  | pending =>
      exact inv.frame callers (fun _ => rfl) rfl rfl rfl rfl rfl (by simp) inv.admitted
        inv.unannounced fun _ _ announcing => announcing

theorem initial_notice_invariant (services : Nat) :
    NoticeInvariant services [] Notices.initial where
  callers := by
    constructor
    · intro service
      exact ⟨Nat.le_refl _, fun target message present => nomatch present⟩
    · intro service pending
      simp [Notices.initial, ServiceUser.new] at pending
  named := fun _ => rfl
  small := by decide
  logged := rfl
  reasons := by simp [announcedRecords]
  holds := holds_empty 0
  tickets := by
    apply tickets_empty
    intro service
    simp [Notices.position, Notices.initial, ServiceUser.new, Completion.default]
  admitted := by simp [Notices.initial, CallbackPhase.locked]
  unannounced := by simp [Notices.initial]
  accounted := by
    intro earlier service message callers later split
    simp at split

theorem notice_invariant_run {services : Nat} {labels : List NoticeLabel} {state : Notices}
    (few : services ≤ maxCompletions)
    (run : Run (Guarded NoticeStep (Among services)) Notices.initial labels state) :
    NoticeInvariant services labels state :=
  run.invariant (NoticeInvariant services) (initial_notice_invariant services)
    fun _ _ _ _ _ inv move => notice_invariant_step few inv move

theorem NoticeInvariant.bounded {services : Nat} {labels : List NoticeLabel} {state : Notices}
    (inv : NoticeInvariant services labels state) : CompletionsBounded labels state where
  order := inv.order
  capacity := by
    rw [← inv.holds.counters]
    exact Nat.add_le_add_left inv.holds.capacity _
  logged := inv.logged
  intact := by
    intro position lower bound
    have inside : position - state.completion.completionRemove <
        (unhandled labels state).length := by
      rw [unhandled, List.length_drop]
      omega
    have stored := inv.holds.stored _ inside
    rw [Nat.add_sub_cancel' lower] at stored
    rw [completion_index_eq, stored]
    simp [unhandled, Nat.add_sub_cancel' lower]
  await := by
    intro count
    obtain ⟨next, taken, _⟩ := take_completions_spec count _ inv.holds
    exact ⟨_, next, taken⟩

/-- A record at a pending position is the unhandled one there. -/
theorem NoticeInvariant.owns_iff {services : Nat} {labels : List NoticeLabel}
    {state : Notices} (inv : NoticeInvariant services labels state) (service position : Nat) :
    Owns state service position ↔ ∃ index record,
      position = state.completion.completionRemove + index ∧
        (unhandled labels state)[index]? = some record ∧
        record.serviceUserdata = some service := by
  have counters := inv.holds.counters
  constructor
  · rintro ⟨lower, upper, record, present, _, owner⟩
    have inside : position - state.completion.completionRemove <
        (unhandled labels state).length := by omega
    have stored := inv.holds.stored _ inside
    rw [Nat.add_sub_cancel' lower, ← completion_index_eq, present, Option.some.injEq] at stored
    refine ⟨_, record, (Nat.add_sub_cancel' lower).symm, ?_, owner⟩
    rw [stored, List.getElem?_eq_getElem inside]
    rfl
  · rintro ⟨index, record, rfl, found, owner⟩
    obtain ⟨inside, value⟩ := List.getElem?_eq_some_iff.mp found
    have stored := inv.holds.stored index inside
    have reason := inv.reasons record (List.mem_of_mem_drop (List.mem_of_getElem? found))
    refine ⟨Nat.le_add_right _ _, by omega, record, ?_, reason, owner⟩
    rw [completion_index_eq, stored]
    exact congrArg some value

theorem NoticeInvariant.discipline {services : Nat} {labels : List NoticeLabel}
    {state : Notices} (inv : NoticeInvariant services labels state) :
    NotificationDiscipline labels state := by
  have remembered : ∀ service position, Owns state service position →
      (state.users service).messageAvailablePos = position := by
    intro service position owns
    obtain ⟨index, record, rfl, found, owner⟩ := (inv.owns_iff service position).mp owns
    obtain ⟨client, _, owner', here⟩ := inv.tickets.owned index record found
    rw [owner, Option.some.injEq] at owner'
    rw [owner']
    exact here
  refine ⟨?_, remembered, ?_, ?_⟩
  · intro service first second ownsFirst ownsSecond
    have atFirst := remembered service first ownsFirst
    rw [remembered service second ownsSecond] at atFirst
    exact Int.ofNat.inj atFirst.symm
  · intro service pending
    exact (inv.callers.waiting service pending).1
  · intro earlier service message callers later split unlocked
    rcases inv.accounted earlier service message callers later split with
      waits | pending | removed | ⟨message', announcing⟩
    · exact .inl waits
    · right; left
      obtain ⟨index, record, found, owner, _⟩ := inv.tickets.pending service pending
      exact ⟨_, (inv.owns_iff service _).mpr ⟨index, record, rfl, found, owner⟩⟩
    · exact .inr (.inr removed)
    · rw [announcing] at unlocked
      exact absurd rfl unlocked

/-- A message without payload for some service. -/
def sampleMessage : SlotMessage where
  header := { msgid := makeMsgId .data 75 0, size := 0 }
  data := []

/-- One message for each of the first `count` services and no `await_completion`: the
records fill the ring and then replace each other. -/
structure Flooded (count : Nat) (labels : List NoticeLabel) (state : Notices) : Prop where
  idle : state.callback = .idle
  callers : state.callers = fun _ => .idle
  insert : state.completion.completionInsert = count
  remove : state.completion.completionRemove = 0
  fresh : ∀ service, count ≤ service →
    state.users service = ServiceUser.new (some service) true
  newest : ∀ target record, state.completion.completions target = some record →
    ∃ service, record.serviceUserdata = some service ∧ completionIndex service = target ∧
      count ≤ service + maxCompletions
  unheard : ∀ records, NoticeLabel.awaited records ∉ labels
  oldest : 0 < count → NoticeLabel.inserted 0 sampleMessage (fun _ => .idle) ∈ labels

/-- The ring behind one more record: what it holds is of the newest services. -/
theorem Flooded.newest_added {count : Nat} {labels : List NoticeLabel} {state : Notices}
    (flooded : Flooded count labels state)
    {completions : Fin maxCompletions → Option ServiceCompletion} {added : ServiceCompletion}
    (ring : completions = Function.update state.completion.completions (completionIndex count)
      (some added))
    (owner : added.serviceUserdata = some count) (target : Fin maxCompletions)
    (record : ServiceCompletion) (present : completions target = some record) :
    ∃ service, record.serviceUserdata = some service ∧ completionIndex service = target ∧
      count + 1 ≤ service + maxCompletions := by
  rw [ring] at present
  by_cases here : target = completionIndex count
  · rw [here, Function.update_self, Option.some.injEq] at present
    refine ⟨count, ?_, here.symm, ?_⟩
    · rw [← present]
      exact owner
    · simp only [maxCompletions]
      omega
  · rw [Function.update_of_ne here] at present
    obtain ⟨service, owns, cell, recent⟩ := flooded.newest target record present
    refine ⟨service, owns, cell, ?_⟩
    -- the one record that would be too old was in the cell just written
    have notOldest : count ≠ service + maxCompletions := by
      rintro rfl
      apply here
      rw [← cell]
      apply Fin.ext
      simp only [completion_index_eq, Lib.RingQueue.cell, Nat.add_mod_right]
    omega

theorem flooded_run (services count : Nat) (among : count ≤ services)
    (range : count + 1 < 2 ^ 63) :
    ∃ labels state, Run (Guarded NoticeStep (Among services)) Notices.initial labels state ∧
      Flooded count labels state := by
  induction count with
  | zero =>
      refine ⟨[], Notices.initial, .refl, rfl, rfl, rfl, rfl, fun _ _ => rfl, ?_, by simp,
        by simp⟩
      intro target record present
      simp [Notices.initial, Completion.default] at present
  | succ count ih =>
      obtain ⟨labels, state, run, flooded⟩ := ih (by omega) (by omega)
      have fresh := flooded.fresh count (Nat.le_refl _)
      have entered := run.snoc ⟨.entered count sampleMessage flooded.idle,
        (by exact among : Among services state (.entered count sampleMessage))⟩
      have enters : enterCallback count sampleMessage (state.users count) state.completion =
          (.inserting count sampleMessage, state.users count) := by
        rw [fresh]
        rfl
      simp only [enters, Function.update_eq_self] at entered
      have inserted := entered.snoc ⟨.inserted rfl, trivial⟩
      have announces : (insertSection sampleMessage (state.users count) state.completion).1 =
          false := by
        rw [fresh]
        simp only [insertSection, skipCompletion, flooded.remove]
        rfl
      simp only [announces, Bool.false_eq_true, if_false] at inserted
      have added : ∃ completion user, state.completion.addCompletion .messageAvailable
          (some sampleMessage)
          (insertSection sampleMessage (state.users count) state.completion).2 =
            .ok (completion, user) := by
        have ordered : Ordered state.completion := by
          rw [Ordered, flooded.remove]
          exact Nat.zero_le _
        obtain ⟨completion, user, succeeded, _⟩ := add_completion_ok ordered
          .messageAvailable (some sampleMessage)
          (insertSection sampleMessage (state.users count) state.completion).2
        exact ⟨completion, user, succeeded⟩
      obtain ⟨completion, user, succeeded⟩ := added
      obtain ⟨remove, insert, ring⟩ := add_completion_announced succeeded
      have owner : (insertSection sampleMessage (state.users count)
          state.completion).2.userdata = some count := by
        rw [fresh]
        rfl
      have announced := inserted.snoc ⟨.announced rfl
        (by simpa only [Function.update_self] using succeeded),
        (by simp only [Among, flooded.insert]; omega)⟩
      refine ⟨_, _, announced, rfl, flooded.callers, ?_, ?_, ?_, ?_, ?_, ?_⟩
      · simp only [insert, flooded.insert]
      · simp only [remove, flooded.remove]
      · intro service later
        have different : service ≠ count := by omega
        simp only [Function.update_of_ne different]
        exact flooded.fresh service (by omega)
      · rw [flooded.insert] at ring
        exact flooded.newest_added ring owner
      · intro records member
        simp only [List.mem_append, List.mem_singleton, reduceCtorEq, or_false] at member
        exact flooded.unheard records member
      · intro _
        by_cases isFirst : count = 0
        · subst isFirst
          simp [flooded.callers]
        · have member := flooded.oldest (by omega)
          simp [member]

/-- With room for a record of every service the ring never overflows, and only then. -/
theorem completion_queue_bounded_iff (services : Nat) :
    (∀ labels state, Run (Guarded NoticeStep (Among services)) Notices.initial labels state →
      CompletionsBounded labels state) ↔ services ≤ maxCompletions := by
  constructor
  · intro bounded
    by_contra more
    obtain ⟨labels, state, run, flooded⟩ :=
      flooded_run services (maxCompletions + 1) (by omega) (by decide)
    have capacity := (bounded labels state run).capacity
    rw [flooded.insert, flooded.remove] at capacity
    omega
  · intro few labels state run
    exact (notice_invariant_run few run).bounded

/-- As many services as the registry admits overflow the ring. -/
theorem full_registry_overflows :
    ∃ labels state,
      Run (Guarded NoticeStep (Among vchiqMaxServices)) Notices.initial labels state ∧
        state.completion.completionInsert = maxCompletions + 1 ∧
        state.completion.completionRemove = 0 ∧ ¬CompletionsBounded labels state := by
  obtain ⟨labels, state, run, flooded⟩ :=
    flooded_run vchiqMaxServices (maxCompletions + 1) (by decide) (by decide)
  refine ⟨labels, state, run, flooded.insert, flooded.remove, ?_⟩
  intro bounded
  have capacity := bounded.capacity
  rw [flooded.insert, flooded.remove] at capacity
  omega

/-- One service more than the ring has cells: the first message is not announced any
more. -/
theorem Flooded.unnotified {labels : List NoticeLabel} {state : Notices}
    (flooded : Flooded (maxCompletions + 1) labels state) :
    ¬NotificationDiscipline labels state := by
  intro discipline
  obtain ⟨earlier, later, split⟩ := List.append_of_mem (flooded.oldest (by decide))
  have unlocked : state.callback.locked ≠ some 0 := by
    rw [flooded.idle]
    simp [CallbackPhase.locked]
  rcases discipline.notified earlier 0 sampleMessage _ later split unlocked with
    ⟨caller, waits⟩ | ⟨position, _, _, record, present, _, owner⟩ | ⟨records, member, _⟩
  · simp at waits
  · obtain ⟨service, owner', _, recent⟩ := flooded.newest _ record present
    rw [owner, Option.some.injEq] at owner'
    omega
  · apply flooded.unheard records
    rw [split]
    exact List.mem_append_right _ (List.mem_cons_of_mem _ member)

theorem notification_discipline_iff (services : Nat) :
    (∀ labels state, Run (Guarded NoticeStep (Among services)) Notices.initial labels state →
      NotificationDiscipline labels state) ↔ services ≤ maxCompletions := by
  constructor
  · intro disciplined
    by_contra more
    obtain ⟨labels, state, run, flooded⟩ :=
      flooded_run services (maxCompletions + 1) (by omega) (by decide)
    exact flooded.unnotified (disciplined labels state run)
  · intro few labels state run
    exact (notice_invariant_run few run).discipline

/-- With as many services as the registry admits a message may arrive unnoticed. -/
theorem full_registry_loses_notice :
    ∃ labels state,
      Run (Guarded NoticeStep (Among vchiqMaxServices)) Notices.initial labels state ∧
        ¬NotificationDiscipline labels state := by
  obtain ⟨labels, state, run, flooded⟩ :=
    flooded_run vchiqMaxServices (maxCompletions + 1) (by decide) (by decide)
  exact ⟨labels, state, run, flooded.unnotified⟩

end RuspiroVchiq.Delivery
