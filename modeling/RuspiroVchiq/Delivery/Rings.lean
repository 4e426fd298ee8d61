import RuspiroVchiq.Vchiq.Completion
import RuspiroVchiq.Lib.LabelledRun

/-!
# The delivery rings at work

The message ring of every service and the completion ring they share, as a
transition system. The slot handler delivers DATA messages through
`service_callback`, clients run `dequeue_message`, and the completion handler
runs `await_completion`. The vchi layer keeps its services locked during a whole
`dequeue_message`, so a service has at most one caller at a time. Its readiness
poll and its removal lock the user data separately and are two steps.
-/

namespace RuspiroVchiq.Delivery

open RuspiroVchiq.Config
open RuspiroVchiq.Shared
open RuspiroVchiq.Vchiq
open RuspiroVchiq.Lib.LabelledRun

set_option autoImplicit false

/-- Where the caller of `dequeue_message` is. -/
inductive DequeuePhase where
  | idle
  | waiting
  | ready
  deriving DecidableEq

structure Rings where
  users : Nat → ServiceUser
  phase : Nat → DequeuePhase
  completion : Completion

/-- Every service starts with empty rings. The functions give the handle and the
kind each service was created with. -/
def Rings.initial (userdata : Nat → Option ServiceHandle) (vchi : Nat → Bool) : Rings where
  users := fun service => ServiceUser.new (userdata service) (vchi service)
  phase := fun _ => .idle
  completion := Completion.default

/-- The labels carry what a step returns; `skipped` tells whether a delivery left
the completion ring alone. -/
inductive RingLabel where
  | delivered (service : Nat) (message : SlotMessage) (skipped : Bool)
  | called (service : Nat)
  | polled (service : Nat)
  | dropped (service : Nat)
  | taken (service : Nat) (bytes : List UInt8)
  | failed (service : Nat)
  | awaited (count : Nat) (records : List ServiceCompletion)
  | pending (count : Nat)

/-- Whether the callback of this service would leave the completion ring alone. -/
def announcementSkipped (user : ServiceUser) (completion : Completion) : Bool :=
  user.isVchi && skipCompletion user completion

inductive RingStep : Rings → RingLabel → Rings → Prop where
  | delivered {before : Rings} {completion : Completion} {user : ServiceUser}
      (service : Nat) (message : SlotMessage)
      (callback : serviceCallback .messageAvailable (some message) (before.users service)
        before.completion = .ok (completion, user)) :
      RingStep before
        (.delivered service message
          (announcementSkipped (before.users service) before.completion))
        { before with
          users := Function.update before.users service user
          completion := completion }
  | called {before : Rings} (service : Nat) (isVchi : (before.users service).isVchi = true)
      (free : before.phase service = .idle) :
      RingStep before (.called service)
        { before with phase := Function.update before.phase service .waiting }
  | polled {before : Rings} (service : Nat) (waits : before.phase service = .waiting) :
      RingStep before (.polled service)
        { before with
          users := Function.update before.users service (dequeueReady (before.users service)).2
          phase := Function.update before.phase service
            (if (dequeueReady (before.users service)).1 then .ready else .waiting) }
  | dropped {before : Rings} (service : Nat) (waits : before.phase service = .waiting) :
      RingStep before (.dropped service)
        { before with phase := Function.update before.phase service .idle }
  | taken {before : Rings} {user : ServiceUser} {bytes : List UInt8} (service : Nat)
      (ready : before.phase service = .ready)
      (removal : dequeueTake (before.users service) = .ok (bytes, user)) :
      RingStep before (.taken service bytes)
        { before with
          users := Function.update before.users service user
          phase := Function.update before.phase service .idle }
  | failed {before : Rings} {error : VchiqError} (service : Nat)
      (ready : before.phase service = .ready)
      (removal : dequeueTake (before.users service) = .error (.error error)) :
      RingStep before (.failed service)
        { before with phase := Function.update before.phase service .idle }
  | awaited {before : Rings} {completion : Completion} {records : List ServiceCompletion}
      (count : Nat)
      (result : awaitCompletion true count before.completion = .ready records completion) :
      RingStep before (.awaited count records) { before with completion := completion }
  | pending {before : Rings} {completion : Completion} (count : Nat)
      (result : awaitCompletion true count before.completion = .pending completion) :
      RingStep before (.pending count) { before with completion := completion }

/-- The parts of the user data the message ring is about. -/
structure SameQueue (before after : ServiceUser) : Prop where
  userdata : after.userdata = before.userdata
  isVchi : after.isVchi = before.isVchi
  msgInsert : after.msgInsert = before.msgInsert
  msgRemove : after.msgRemove = before.msgRemove
  msgQueue : after.msgQueue = before.msgQueue

theorem SameQueue.refl (user : ServiceUser) : SameQueue user user :=
  ⟨rfl, rfl, rfl, rfl, rfl⟩

theorem SameQueue.trans {first second third : ServiceUser} (left : SameQueue first second)
    (right : SameQueue second third) : SameQueue first third where
  userdata := right.userdata.trans left.userdata
  isVchi := right.isVchi.trans left.isVchi
  msgInsert := right.msgInsert.trans left.msgInsert
  msgRemove := right.msgRemove.trans left.msgRemove
  msgQueue := right.msgQueue.trans left.msgQueue

/-- `add_completion` only notes its position in the user data. -/
theorem add_completion_same_queue {completion next : Completion} {reason : Reason}
    {message : Option SlotMessage} {user user' : ServiceUser}
    (added : completion.addCompletion reason message user = .ok (next, user')) :
    SameQueue user user' := by
  unfold Completion.addCompletion at added
  simp only at added
  split_ifs at added
  all_goals
    simp only [Except.ok.injEq, Prod.mk.injEq] at added
    obtain ⟨_, rfl⟩ := added
    exact ⟨rfl, rfl, rfl, rfl, rfl⟩

theorem queue_full_notice_same_queue {completion next : Completion} {reason : Reason}
    {user user' : ServiceUser}
    (noticed : queueFullNotice reason user completion = .ok (next, user')) :
    SameQueue user user' := by
  unfold queueFullNotice at noticed
  simp only [bind, Except.bind, pure, Except.pure] at noticed
  split_ifs at noticed with unannounced
  · cases added : completion.addCompletion reason none user with
    | error panic => simp [added] at noticed
    | ok result =>
        simp only [added, Except.ok.injEq, Prod.mk.injEq] at noticed
        have same := add_completion_same_queue added
        obtain ⟨_, rfl⟩ := noticed
        exact ⟨same.userdata, same.isVchi, same.msgInsert, same.msgRemove, same.msgQueue⟩
  · simp only [Except.ok.injEq, Prod.mk.injEq] at noticed
    obtain ⟨_, rfl⟩ := noticed
    exact ⟨rfl, rfl, rfl, rfl, rfl⟩

theorem insert_and_announce_same_queue {completion next : Completion} {reason : Reason}
    {message : Option SlotMessage} {user user' : ServiceUser}
    (inserted : insertAndAnnounce reason message user completion = .ok (next, user')) :
    SameQueue (insertMessage user message) user' := by
  unfold insertAndAnnounce at inserted
  simp only at inserted
  split_ifs at inserted
  · simp only [Except.ok.injEq, Prod.mk.injEq] at inserted
    obtain ⟨_, rfl⟩ := inserted
    exact ⟨rfl, rfl, rfl, rfl, rfl⟩
  · have same := add_completion_same_queue inserted
    exact ⟨same.userdata, same.isVchi, same.msgInsert, same.msgRemove, same.msgQueue⟩

theorem SameQueue.insert_message {before after : ServiceUser} (same : SameQueue before after)
    (message : Option SlotMessage) :
    SameQueue (insertMessage before message) (insertMessage after message) where
  userdata := same.userdata
  isVchi := same.isVchi
  msgInsert := congrArg (· + 1) same.msgInsert
  msgRemove := same.msgRemove
  msgQueue := by simp only [insertMessage, same.msgInsert, same.msgQueue]

/-- Whatever the callback of a vchi service announces, it inserts the message. -/
theorem service_callback_inserts {completion next : Completion} {reason : Reason}
    {message : Option SlotMessage} {user user' : ServiceUser} (vchi : user.isVchi = true)
    (called : serviceCallback reason message user completion = .ok (next, user')) :
    SameQueue (insertMessage user message) user' := by
  unfold serviceCallback at called
  rw [if_pos vchi] at called
  split_ifs at called with full
  · cases noticed : queueFullNotice reason user completion with
    | error panic => simp [noticed] at called
    | ok result =>
        simp only [noticed] at called
        have same := queue_full_notice_same_queue noticed
        exact (same.insert_message message).trans (insert_and_announce_same_queue called)
  · exact insert_and_announce_same_queue called

theorem service_callback_userdata {completion next : Completion} {reason : Reason}
    {message : Option SlotMessage} {user user' : ServiceUser}
    (called : serviceCallback reason message user completion = .ok (next, user')) :
    user'.userdata = user.userdata := by
  by_cases vchi : user.isVchi = true
  · exact (service_callback_inserts vchi called).userdata
  · rw [serviceCallback, if_neg vchi] at called
    exact (add_completion_same_queue called).userdata

/-- A poll of an empty queue sets the flag and takes the semaphore if it is raised. -/
theorem dequeue_ready_empty {user : ServiceUser} (empty : user.msgRemove = user.msgInsert) :
    dequeueReady user =
      (false,
        { user with dequeuePending := true, insertEvent := tryDown user.insertEvent }) := by
  unfold dequeueReady
  rw [if_pos empty]
  simp only
  split_ifs with raised
  · simp only [empty, ne_eq, not_true_eq_false, decide_false]
    rfl
  · have lowered : user.insertEvent = 0 := Nat.eq_zero_of_not_pos raised
    simp only [lowered]
    rfl

theorem dequeue_ready_filled {user : ServiceUser} (filled : user.msgRemove ≠ user.msgInsert) :
    dequeueReady user = (true, user) :=
  if_neg filled

/-- The readiness poll touches the flag and the semaphore only. -/
theorem dequeue_ready_same_queue (user : ServiceUser) :
    SameQueue user (dequeueReady user).2 := by
  by_cases empty : user.msgRemove = user.msgInsert
  · rw [dequeue_ready_empty empty]
    exact ⟨rfl, rfl, rfl, rfl, rfl⟩
  · rw [dequeue_ready_filled empty]
    exact SameQueue.refl user

/-- A poll reports ready only when there is a message. -/
theorem dequeue_ready_nonempty {user : ServiceUser} (ready : (dequeueReady user).1 = true) :
    user.msgRemove ≠ user.msgInsert := by
  intro empty
  rw [dequeue_ready_empty empty] at ready
  simp at ready

theorem ready_of_update {phase : Nat → DequeuePhase} {service other : Nat}
    {next : DequeuePhase} (notReady : next ≠ .ready)
    (isReady : Function.update phase other next service = .ready) :
    phase service = .ready := by
  by_cases same : service = other
  · subst same
    rw [Function.update_self] at isReady
    exact absurd isReady notReady
  · rwa [Function.update_of_ne same] at isReady

/-- A removal behind a filled cell. -/
theorem dequeue_take_of_some {user : ServiceUser} {message : SlotMessage}
    (order : user.msgRemove ≤ user.msgInsert)
    (stored : user.msgQueue (msgQueueIndex user.msgRemove) = some message) :
    dequeueTake user = .ok (message.data,
      { user with
        msgRemove := user.msgRemove + 1
        msgQueue := Function.update user.msgQueue (msgQueueIndex user.msgRemove) none
        removeEvent := user.removeEvent + 1 }) := by
  simp only [dequeueTake, if_neg (Nat.not_lt.mpr order), stored]

theorem dequeue_take_userdata {user user' : ServiceUser} {bytes : List UInt8}
    (taken : dequeueTake user = .ok (bytes, user')) : user'.userdata = user.userdata := by
  unfold dequeueTake at taken
  split_ifs at taken
  cases stored : user.msgQueue (msgQueueIndex user.msgRemove) with
  | none => simp [stored] at taken
  | some message =>
      simp only [stored, Except.ok.injEq, Prod.mk.injEq] at taken
      rw [← taken.2]

/-- The counters of the completion ring are in order. -/
def Ordered (completion : Completion) : Prop :=
  completion.completionRemove ≤ completion.completionInsert

theorem add_completion_ok {completion : Completion} (ordered : Ordered completion)
    (reason : Reason) (message : Option SlotMessage) (user : ServiceUser) :
    ∃ next user', completion.addCompletion reason message user = .ok (next, user') ∧
      Ordered next := by
  have notLess : ¬completion.completionInsert < completion.completionRemove :=
    Nat.not_lt.mpr ordered
  simp only [Completion.addCompletion, if_neg notLess]
  exact ⟨_, _, rfl, Nat.le_succ_of_le ordered⟩

theorem insert_and_announce_ok {completion : Completion} (ordered : Ordered completion)
    (reason : Reason) (message : Option SlotMessage) (user : ServiceUser) :
    ∃ next user', insertAndAnnounce reason message user completion = .ok (next, user') ∧
      Ordered next := by
  unfold insertAndAnnounce
  simp only
  split_ifs
  · exact ⟨_, _, rfl, ordered⟩
  · exact add_completion_ok ordered reason message _

/-- The callback never fails while the completion counters are in order. -/
theorem service_callback_ok {completion : Completion} (ordered : Ordered completion)
    (reason : Reason) (message : Option SlotMessage) (user : ServiceUser) :
    ∃ next user', serviceCallback reason message user completion = .ok (next, user') ∧
      Ordered next := by
  unfold serviceCallback
  split_ifs
  · have noticed : ∃ next user', queueFullNotice reason user completion = .ok (next, user') ∧
        Ordered next := by
      unfold queueFullNotice
      simp only [bind, Except.bind, pure, Except.pure]
      split_ifs
      · obtain ⟨next, user', added, kept⟩ := add_completion_ok ordered reason none user
        simp only [added]
        exact ⟨_, _, rfl, kept⟩
      · exact ⟨_, _, rfl, ordered⟩
    obtain ⟨next, user', result, kept⟩ := noticed
    simp only [result]
    exact insert_and_announce_ok kept reason message user'
  · exact insert_and_announce_ok ordered reason message user
  · exact add_completion_ok ordered reason message user

/-- The records of a ring are those of another one and some of the given owner. -/
def AddsRecordsOf (owner : Option ServiceHandle) (before after : Completion) : Prop :=
  ∀ index record, after.completions index = some record →
    before.completions index = some record ∨ record.serviceUserdata = owner

theorem add_completion_records {completion next : Completion} {reason : Reason}
    {message : Option SlotMessage} {user user' : ServiceUser}
    (added : completion.addCompletion reason message user = .ok (next, user')) :
    AddsRecordsOf user.userdata completion next := by
  unfold Completion.addCompletion at added
  simp only at added
  split_ifs at added
  all_goals
    simp only [Except.ok.injEq, Prod.mk.injEq] at added
    obtain ⟨rfl, _⟩ := added
    intro index record present
    by_cases same : index = completionIndex completion.completionInsert
    · rw [same] at present
      simp only [Function.update_self, Option.some.injEq] at present
      right
      rw [← present]
    · simp only [Function.update_of_ne same] at present
      exact .inl present

/-- Whatever the callback announces, it announces for its own service. -/
theorem service_callback_records {completion next : Completion} {reason : Reason}
    {message : Option SlotMessage} {user user' : ServiceUser}
    (called : serviceCallback reason message user completion = .ok (next, user')) :
    AddsRecordsOf user.userdata completion next := by
  have inserted : ∀ (user : ServiceUser) (completion : Completion),
      insertAndAnnounce reason message user completion = .ok (next, user') →
        AddsRecordsOf user.userdata completion next := by
    intro user completion announced
    unfold insertAndAnnounce at announced
    simp only at announced
    split_ifs at announced
    · simp only [Except.ok.injEq, Prod.mk.injEq] at announced
      rw [announced.1]
      exact fun _ _ present => .inl present
    · have added := add_completion_records announced
      exact added
  unfold serviceCallback at called
  split_ifs at called
  · cases noticed : queueFullNotice reason user completion with
    | error panic => simp [noticed] at called
    | ok result =>
        obtain ⟨middle, warned⟩ := result
        simp only [noticed] at called
        have owner := (queue_full_notice_same_queue noticed).userdata
        have later := inserted warned middle called
        rw [owner] at later
        have earlier : AddsRecordsOf user.userdata completion middle := by
          unfold queueFullNotice at noticed
          simp only [bind, Except.bind, pure, Except.pure] at noticed
          split_ifs at noticed
          · cases added : completion.addCompletion reason none user with
            | error panic => simp [added] at noticed
            | ok result =>
                simp only [added, Except.ok.injEq, Prod.mk.injEq] at noticed
                rw [← noticed.1]
                exact add_completion_records added
          · simp only [Except.ok.injEq, Prod.mk.injEq] at noticed
            rw [noticed.1]
            exact fun _ _ present => .inl present
        intro index record present
        rcases later index record present with old | new
        · exact earlier index record old
        · exact .inr new
  · exact inserted user completion called
  · exact add_completion_records called

/-- The removal loop: it has met the end of the ring, or it has taken a record and gone
on. -/
theorem take_completions_succ {count : Nat} {completion next : Completion}
    {records : List ServiceCompletion}
    (taken : takeCompletions (count + 1) completion = .ok (records, next)) :
    (records = [] ∧ next = completion) ∨
      ∃ record rest, completion.completionRemove ≠ completion.completionInsert ∧
        completion.completions (completionIndex completion.completionRemove) = some record ∧
        takeCompletions count
            { completion with
              completions := Function.update completion.completions
                (completionIndex completion.completionRemove) none
              completionRemove := completion.completionRemove + 1 } = .ok (rest, next) ∧
        records = record :: rest := by
  unfold takeCompletions at taken
  split_ifs at taken with isEmpty
  · simp only [Except.ok.injEq, Prod.mk.injEq] at taken
    exact .inl ⟨taken.1.symm, taken.2.symm⟩
  · right
    cases stored : completion.completions (completionIndex completion.completionRemove) with
    | none => simp [stored] at taken
    | some record =>
        simp only [stored, bind, Except.bind, pure, Except.pure] at taken
        split at taken
        · simp at taken
        · rename_i result further
          simp only [Except.ok.injEq, Prod.mk.injEq] at taken
          obtain ⟨rfl, rfl⟩ := taken
          exact ⟨record, result.1, isEmpty, rfl, further, rfl⟩

/-- What the removal loop takes was in the ring, and so is what it leaves. -/
theorem take_completions_subset {count : Nat} {completion next : Completion}
    {records : List ServiceCompletion}
    (taken : takeCompletions count completion = .ok (records, next)) :
    (Ordered completion → Ordered next) ∧
      (∀ record ∈ records, ∃ index, completion.completions index = some record) ∧
      (∀ index record, next.completions index = some record →
        completion.completions index = some record) := by
  induction count generalizing completion records with
  | zero =>
      simp only [takeCompletions, Except.ok.injEq, Prod.mk.injEq] at taken
      obtain ⟨rfl, rfl⟩ := taken
      exact ⟨id, by simp, fun _ _ stored => stored⟩
  | succ count ih =>
      rcases take_completions_succ taken with
        ⟨rfl, rfl⟩ | ⟨record, rest, notEmpty, stored, further, rfl⟩
      · exact ⟨id, by simp, fun _ _ stored => stored⟩
      · obtain ⟨ordered, members, left⟩ := ih further
        -- a cell of the shortened ring is a cell of the ring
        have older : ∀ index other, Function.update completion.completions
            (completionIndex completion.completionRemove) none index = some other →
            completion.completions index = some other := by
          intro index other present
          by_cases same : index = completionIndex completion.completionRemove
          · rw [same, Function.update_self] at present
            simp at present
          · rwa [Function.update_of_ne same] at present
        refine ⟨fun order => ordered ?_, ?_, ?_⟩
        · exact Nat.lt_of_le_of_ne order notEmpty
        · intro other member
          rcases List.mem_cons.mp member with rfl | member
          · exact ⟨_, stored⟩
          · obtain ⟨index, present⟩ := members other member
            exact ⟨index, older index other present⟩
        · intro index other present
          exact older index other (left index other present)

end RuspiroVchiq.Delivery
