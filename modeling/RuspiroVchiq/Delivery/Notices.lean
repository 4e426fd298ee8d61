import RuspiroVchiq.Delivery.Refinement

/-!
# Notices

How a client learns of a message: by a completion record, or because it waits in
`dequeue_message`. `service_callback` keeps the user data of its service locked,
but it takes the lock of the completion ring anew for every look at it, so
`await_completion` may run in between. The steps here are cut at these locks. Any
number of services receive messages, and any number of callers wait on each.
-/

namespace RuspiroVchiq.Delivery

open RuspiroVchiq.Config
open RuspiroVchiq.Shared
open RuspiroVchiq.Vchiq
open RuspiroVchiq.Lib.LabelledRun
open RuspiroVchiq.Lib.RingQueue

set_option autoImplicit false

/-- Where the callback that is running is. Only the slot handler invokes callbacks,
one at a time. -/
inductive CallbackPhase where
  | idle
  | noticing (service : Nat) (message : SlotMessage)
  | inserting (service : Nat) (message : SlotMessage)
  | announcing (service : Nat) (message : SlotMessage)

/-- The service whose user data the callback keeps locked. -/
def CallbackPhase.locked : CallbackPhase → Option Nat
  | .idle => none
  | .noticing service _ | .inserting service _ | .announcing service _ => some service

/-- Where a call of `dequeue_message` is; it waits once a poll returned pending. -/
inductive CallerPhase where
  | idle
  | called (service : Nat)
  | waiting (service : Nat)
  | ready (service : Nat)

structure Notices where
  users : Nat → ServiceUser
  completion : Completion
  callback : CallbackPhase
  callers : Nat → CallerPhase

/-- Every service is a vchi service and named by its handle. -/
def Notices.initial : Notices where
  users := fun service => ServiceUser.new (some service) true
  completion := Completion.default
  callback := .idle
  callers := fun _ => .idle

/-- The label of an insertion keeps where the callers were at that time. -/
inductive NoticeLabel where
  | entered (service : Nat) (message : SlotMessage)
  | noticed (service : Nat) (record : ServiceCompletion)
  | inserted (service : Nat) (message : SlotMessage) (callers : Nat → CallerPhase)
  | announced (service : Nat) (record : ServiceCompletion)
  | called (caller service : Nat)
  | polled (caller service : Nat)
  | taken (caller service : Nat) (bytes : List UInt8)
  | failed (caller service : Nat)
  | awaited (records : List ServiceCompletion)
  | pending

/-- The first look of the callback: what is next, and the user data it leaves. A full
queue that is believed to be announced only costs the `try_down`. -/
def enterCallback (service : Nat) (message : SlotMessage) (user : ServiceUser)
    (completion : Completion) : CallbackPhase × ServiceUser :=
  if user.msgInsert = user.msgRemove + msgQueueSize then
    if user.messageAvailablePos < asIsize completion.completionRemove then
      (.noticing service message, user)
    else (.inserting service message, { user with removeEvent := tryDown user.removeEvent })
  else (.inserting service message, user)

/-- The insertion and the look at the ring behind it: whether the announcement is
skipped, and the user data. -/
def insertSection (message : SlotMessage) (user : ServiceUser) (completion : Completion) :
    Bool × ServiceUser :=
  let user := insertMessage user (some message)
  let skip := skipCompletion user completion
  (skip,
    { user with
      dequeuePending := if skip then false else user.dequeuePending
      insertEvent := user.insertEvent + 1 })

/-- The record `add_completion` makes for a service. -/
def availableRecord (user : ServiceUser) (message : Option SlotMessage) : ServiceCompletion where
  reason := .messageAvailable
  msg := message
  serviceUserdata := user.userdata

inductive NoticeStep : Notices → NoticeLabel → Notices → Prop where
  | entered {before : Notices} (service : Nat) (message : SlotMessage)
      (idle : before.callback = .idle) :
      NoticeStep before (.entered service message)
        { before with
          users := Function.update before.users service
            (enterCallback service message (before.users service) before.completion).2
          callback := (enterCallback service message (before.users service)
            before.completion).1 }
  | noticed {before : Notices} {completion : Completion} {user : ServiceUser} {service : Nat}
      {message : SlotMessage} (phase : before.callback = .noticing service message)
      (added : before.completion.addCompletion .messageAvailable none (before.users service) =
        .ok (completion, user)) :
      NoticeStep before (.noticed service (availableRecord (before.users service) none))
        { before with
          users := Function.update before.users service
            { user with removeEvent := tryDown user.removeEvent }
          completion := completion
          callback := .inserting service message }
  | inserted {before : Notices} {service : Nat} {message : SlotMessage}
      (phase : before.callback = .inserting service message) :
      NoticeStep before (.inserted service message before.callers)
        { before with
          users := Function.update before.users service
            (insertSection message (before.users service) before.completion).2
          callback :=
            if (insertSection message (before.users service) before.completion).1 then .idle
            else .announcing service message }
  | announced {before : Notices} {completion : Completion} {user : ServiceUser} {service : Nat}
      {message : SlotMessage} (phase : before.callback = .announcing service message)
      (added : before.completion.addCompletion .messageAvailable (some message)
        (before.users service) = .ok (completion, user)) :
      NoticeStep before
        (.announced service (availableRecord (before.users service) (some message)))
        { before with
          users := Function.update before.users service user
          completion := completion
          callback := .idle }
  | called {before : Notices} (caller service : Nat) (free : before.callers caller = .idle) :
      NoticeStep before (.called caller service)
        { before with callers := Function.update before.callers caller (.called service) }
  | polled {before : Notices} (caller service : Nat)
      (polls : before.callers caller = .called service ∨
        before.callers caller = .waiting service)
      (unlocked : before.callback.locked ≠ some service) :
      NoticeStep before (.polled caller service)
        { before with
          users := Function.update before.users service (dequeueReady (before.users service)).2
          callers := Function.update before.callers caller
            (if (dequeueReady (before.users service)).1 then .ready service
              else .waiting service) }
  | taken {before : Notices} {user : ServiceUser} {bytes : List UInt8} (caller service : Nat)
      (ready : before.callers caller = .ready service)
      (unlocked : before.callback.locked ≠ some service)
      (removal : dequeueTake (before.users service) = .ok (bytes, user)) :
      NoticeStep before (.taken caller service bytes)
        { before with
          users := Function.update before.users service user
          callers := Function.update before.callers caller .idle }
  | failed {before : Notices} {error : VchiqError} (caller service : Nat)
      (ready : before.callers caller = .ready service)
      (unlocked : before.callback.locked ≠ some service)
      (removal : dequeueTake (before.users service) = .error (.error error)) :
      NoticeStep before (.failed caller service)
        { before with callers := Function.update before.callers caller .idle }
  | awaited {before : Notices} {completion : Completion} {records : List ServiceCompletion}
      (count : Nat)
      (removal : takeCompletions count before.completion = .ok (records, completion)) :
      NoticeStep before (.awaited records) { before with completion := completion }
  | pending {before : Notices} :
      NoticeStep before .pending
        { before with
          completion :=
            { before.completion with insertEvent := tryDown before.completion.insertEvent } }

/-- Behind the insertion the callback either is done or adds its record. -/
theorem insert_sections {start middle : Notices} {labels : List NoticeLabel} {service : Nat}
    {message : SlotMessage} {next : Completion} {after : ServiceUser}
    (run : Run NoticeStep start labels middle)
    (phase : middle.callback = .inserting service message)
    (announced : insertAndAnnounce .messageAvailable (some message) (middle.users service)
      middle.completion = .ok (next, after)) :
    ∃ labels, Run NoticeStep start labels
      { middle with
        users := Function.update middle.users service after
        completion := next
        callback := .idle } := by
  have inserted := run.snoc (NoticeStep.inserted phase)
  have split : insertAndAnnounce .messageAvailable (some message) (middle.users service)
      middle.completion =
        if (insertSection message (middle.users service) middle.completion).1 then
          .ok (middle.completion,
            (insertSection message (middle.users service) middle.completion).2)
        else middle.completion.addCompletion .messageAvailable (some message)
          (insertSection message (middle.users service) middle.completion).2 := rfl
  rw [split] at announced
  cases skip : (insertSection message (middle.users service) middle.completion).1 with
  | true =>
      simp only [skip, if_true, Except.ok.injEq, Prod.mk.injEq] at announced inserted
      obtain ⟨rfl, rfl⟩ := announced
      exact ⟨_, inserted⟩
  | false =>
      simp only [skip, Bool.false_eq_true, if_false] at announced inserted
      have added := inserted.snoc (NoticeStep.announced rfl
        (by simpa only [Function.update_self] using announced))
      simp only [Function.update_idem] at added
      exact ⟨_, added⟩

/-- The sections of a callback that is not interrupted are `service_callback`. -/
theorem callback_sections {state : Notices} {service : Nat} {message : SlotMessage}
    {completion : Completion} {user : ServiceUser} (idle : state.callback = .idle)
    (vchi : (state.users service).isVchi = true)
    (called : serviceCallback .messageAvailable (some message) (state.users service)
      state.completion = .ok (completion, user)) :
    ∃ labels, Run NoticeStep state labels
      { state with
        users := Function.update state.users service user
        completion := completion } := by
  have entered := Run.refl.snoc (NoticeStep.entered service message idle)
  unfold serviceCallback at called
  simp only [vchi, if_true] at called
  simp only [enterCallback] at entered
  by_cases full : (state.users service).msgInsert =
      (state.users service).msgRemove + msgQueueSize
  · simp only [if_pos full] at called entered
    cases noticed : queueFullNotice .messageAvailable (state.users service)
        state.completion with
    | error panic => simp [noticed] at called
    | ok result =>
        simp only [noticed] at called
        simp only [queueFullNotice, bind, Except.bind, pure, Except.pure] at noticed
        by_cases unannounced : (state.users service).messageAvailablePos <
            asIsize state.completion.completionRemove
        · simp only [if_pos unannounced, Function.update_eq_self] at noticed entered
          cases added : state.completion.addCompletion .messageAvailable none
              (state.users service) with
          | error panic => simp [added] at noticed
          | ok pair =>
              simp only [added, Except.ok.injEq] at noticed
              subst noticed
              have extra := entered.snoc (NoticeStep.noticed rfl added)
              obtain ⟨labels, run⟩ := insert_sections extra rfl
                (by simpa only [Function.update_self] using called)
              simp only [Function.update_idem, ← idle] at run
              exact ⟨labels, run⟩
        · simp only [if_neg unannounced, Except.ok.injEq] at noticed entered
          subst noticed
          obtain ⟨labels, run⟩ := insert_sections entered rfl
            (by simpa only [Function.update_self] using called)
          simp only [Function.update_idem, ← idle] at run
          exact ⟨labels, run⟩
  · simp only [if_neg full, Function.update_eq_self] at called entered
    obtain ⟨labels, run⟩ := insert_sections entered rfl called
    simp only [← idle] at run
    exact ⟨labels, run⟩

end RuspiroVchiq.Delivery
