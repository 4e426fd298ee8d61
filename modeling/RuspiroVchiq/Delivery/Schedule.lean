import RuspiroVchiq.Delivery.Notices
import RuspiroVchiq.Lib.Unwinding

/-!
# Schedules of the delivery tasks

The sections of the callback, of `dequeue_message` and of `await_completion` as moves of a
schedule, with what the clients get from each, so that two runs can be compared move by
move. Any number of callers wait, and a pending call may be dropped. A task that has to
wait for a lock, or has nothing to do, leaves the state alone; only a panic stops.
-/

namespace RuspiroVchiq.Delivery

open RuspiroVchiq.Config
open RuspiroVchiq.Shared
open RuspiroVchiq.Vchiq
open RuspiroVchiq.Lib.Unwinding

set_option autoImplicit false

inductive DeliveryMove where
  | enter (service : Nat) (message : SlotMessage)
  | proceed
  | call (caller service : Nat)
  | poll (caller : Nat)
  | take (caller : Nat)
  | drop (caller : Nat)
  | lookAtCompletions
  | takeCompletions (count : Nat)

/-- What the clients get: completion records and dequeued messages. -/
inductive Observation where
  | completed (record : ServiceCompletion)
  | dequeued (caller service : Nat) (bytes : List UInt8)

abbrev Answer := Option (List Observation × Notices)

/-- DATA for a service: its callback starts. A service that is not vchi has no message
queue and goes straight to the completion. -/
def Notices.enter (notices : Notices) (service : Nat) (message : SlotMessage) : Answer :=
  match notices.callback with
  | .idle =>
      if (notices.users service).isVchi then
        let entered := enterCallback service message (notices.users service) notices.completion
        some ([],
          { notices with
            users := Function.update notices.users service entered.2
            callback := entered.1 })
      else some ([], { notices with callback := .announcing service message })
  | _ => some ([], notices)

/-- The next section of the running callback. -/
def Notices.proceed (notices : Notices) : Answer :=
  match notices.callback with
  | .idle => some ([], notices)
  | .noticing service message =>
      match notices.completion.addCompletion .messageAvailable none (notices.users service) with
      | .error _ => none
      | .ok (completion, user) =>
          some ([],
            { notices with
              users := Function.update notices.users service
                { user with removeEvent := tryDown user.removeEvent }
              completion := completion
              callback := .inserting service message })
  | .inserting service message =>
      let inserted := insertSection message (notices.users service) notices.completion
      some ([],
        { notices with
          users := Function.update notices.users service inserted.2
          callback := if inserted.1 then .idle else .announcing service message })
  | .announcing service message =>
      match notices.completion.addCompletion .messageAvailable (some message)
          (notices.users service) with
      | .error _ => none
      | .ok (completion, user) =>
          some ([],
            { notices with
              users := Function.update notices.users service user
              completion := completion
              callback := .idle })

/-- `dequeue_message` up to its first wait; it refuses a service that is not vchi. -/
def Notices.call (notices : Notices) (caller service : Nat) : Notices :=
  match notices.callers caller with
  | .idle =>
      if (notices.users service).isVchi then
        { notices with callers := Function.update notices.callers caller (.called service) }
      else notices
  | _ => notices

/-- The service a caller would poll now. -/
def Notices.polls (notices : Notices) (caller : Nat) : Option Nat :=
  match notices.callers caller with
  | .called service | .waiting service =>
      if notices.callback.locked = some service then none else some service
  | _ => none

def Notices.poll (notices : Notices) (caller : Nat) : Notices :=
  match notices.polls caller with
  | none => notices
  | some service =>
      let polled := dequeueReady (notices.users service)
      { notices with
        users := Function.update notices.users service polled.2
        callers := Function.update notices.callers caller
          (if polled.1 then .ready service else .waiting service) }

/-- The section of `dequeue_message` that removes the message. -/
def Notices.take (notices : Notices) (caller : Nat) : Answer :=
  match notices.callers caller with
  | .ready service =>
      if notices.callback.locked = some service then some ([], notices)
      else
        match dequeueTake (notices.users service) with
        | .ok (bytes, user) =>
            some ([.dequeued caller service bytes],
              { notices with
                users := Function.update notices.users service user
                callers := Function.update notices.callers caller .idle })
        | .error (.error _) =>
            some ([], { notices with callers := Function.update notices.callers caller .idle })
        | .error _ => none
  | _ => some ([], notices)

/-- A pending future is dropped; one that found a message takes it in the same poll. -/
def Notices.drop (notices : Notices) (caller : Nat) : Notices :=
  match notices.callers caller with
  | .called _ | .waiting _ =>
      { notices with callers := Function.update notices.callers caller .idle }
  | _ => notices

def Notices.lookAtCompletions (notices : Notices) : Notices :=
  if notices.completion.completionRemove = notices.completion.completionInsert then
    { notices with
      completion :=
        { notices.completion with insertEvent := tryDown notices.completion.insertEvent } }
  else notices

def Notices.takeCompletions (notices : Notices) (count : Nat) : Answer :=
  match Vchiq.takeCompletions count notices.completion with
  | .error _ => none
  | .ok (records, completion) =>
      some (records.map .completed, { notices with completion := completion })

def Notices.perform : Machine Notices DeliveryMove Observation
  | notices, .enter service message => notices.enter service message
  | notices, .proceed => notices.proceed
  | notices, .call caller service => some ([], notices.call caller service)
  | notices, .poll caller => some ([], notices.poll caller)
  | notices, .take caller => notices.take caller
  | notices, .drop caller => some ([], notices.drop caller)
  | notices, .lookAtCompletions => some ([], notices.lookAtCompletions)
  | notices, .takeCompletions count => notices.takeCompletions count

/-- Who makes a move of `dequeue_message`. -/
def DeliveryMove.caller : DeliveryMove → Option Nat
  | .call caller _ | .poll caller | .take caller | .drop caller => some caller
  | _ => none

theorem polls_cases {notices : Notices} {caller service : Nat}
    (polls : notices.polls caller = some service) :
    (notices.callers caller = .called service ∨ notices.callers caller = .waiting service) ∧
      notices.callback.locked ≠ some service := by
  unfold Notices.polls at polls
  cases phase : notices.callers caller with
  | idle => simp [phase] at polls
  | ready other => simp [phase] at polls
  | called other =>
      simp only [phase] at polls
      split_ifs at polls with locked
      rw [Option.some.injEq] at polls
      subst polls
      exact ⟨.inl rfl, locked⟩
  | waiting other =>
      simp only [phase] at polls
      split_ifs at polls with locked
      rw [Option.some.injEq] at polls
      subst polls
      exact ⟨.inr rfl, locked⟩

theorem proceed_notice_step {notices next : Notices} {seen : List Observation}
    (performed : notices.proceed = some (seen, next)) :
    next = notices ∨ ∃ label, NoticeStep notices label next := by
  unfold Notices.proceed at performed
  cases phase : notices.callback with
  | idle =>
      simp only [phase, Option.some.injEq, Prod.mk.injEq] at performed
      exact .inl performed.2.symm
  | noticing service message =>
      simp only [phase] at performed
      split at performed
      · simp at performed
      · rename_i completion user added
        rw [← (Prod.mk.inj (Option.some.inj performed)).2]
        exact .inr ⟨_, .noticed phase added⟩
  | inserting service message =>
      simp only [phase] at performed
      rw [← (Prod.mk.inj (Option.some.inj performed)).2]
      exact .inr ⟨_, .inserted phase⟩
  | announcing service message =>
      simp only [phase] at performed
      split at performed
      · simp at performed
      · rename_i completion user added
        rw [← (Prod.mk.inj (Option.some.inj performed)).2]
        exact .inr ⟨_, .announced phase added⟩

theorem take_notice_step {notices next : Notices} {caller : Nat} {seen : List Observation}
    (performed : notices.take caller = some (seen, next)) :
    next = notices ∨ ∃ label, NoticeStep notices label next := by
  unfold Notices.take at performed
  split at performed
  · rename_i service ready
    split_ifs at performed with locked
    · exact .inl (Prod.mk.inj (Option.some.inj performed)).2.symm
    · split at performed
      · rename_i bytes user removal
        rw [← (Prod.mk.inj (Option.some.inj performed)).2]
        exact .inr ⟨_, .taken caller service ready locked removal⟩
      · rename_i error removal
        rw [← (Prod.mk.inj (Option.some.inj performed)).2]
        exact .inr ⟨_, .failed caller service ready locked removal⟩
      · simp at performed
  · exact .inl (Prod.mk.inj (Option.some.inj performed)).2.symm

/-- The moves are steps of the system of notices, apart from what that leaves out: drops,
and the moves of tasks that wait. -/
theorem perform_notice_step {notices next : Notices} {move : DeliveryMove}
    {seen : List Observation} (vchi : ∀ service, (notices.users service).isVchi = true)
    (kept : ∀ caller, move ≠ .drop caller)
    (performed : notices.perform move = some (seen, next)) :
    next = notices ∨ ∃ label, NoticeStep notices label next := by
  cases move with
  | enter service message =>
      simp only [Notices.perform, Notices.enter, vchi service, if_true] at performed
      split at performed
      · rename_i idle
        rw [← (Prod.mk.inj (Option.some.inj performed)).2]
        exact .inr ⟨_, .entered service message idle⟩
      · exact .inl (Prod.mk.inj (Option.some.inj performed)).2.symm
  | proceed => exact proceed_notice_step performed
  | call caller service =>
      simp only [Notices.perform, Notices.call, vchi service, if_true, Option.some.injEq,
        Prod.mk.injEq] at performed
      rw [← performed.2]
      split
      · rename_i free
        exact .inr ⟨_, .called caller service free⟩
      · exact .inl rfl
  | poll caller =>
      simp only [Notices.perform, Notices.poll, Option.some.injEq, Prod.mk.injEq] at performed
      rw [← performed.2]
      split
      · exact .inl rfl
      · rename_i service polls
        rcases polls_cases polls with ⟨phase, unlocked⟩
        exact .inr ⟨_, .polled caller service phase unlocked⟩
  | take caller => exact take_notice_step performed
  | drop caller => exact absurd rfl (kept caller)
  | lookAtCompletions =>
      simp only [Notices.perform, Notices.lookAtCompletions, Option.some.injEq,
        Prod.mk.injEq] at performed
      rw [← performed.2]
      split_ifs
      · exact .inr ⟨_, .pending⟩
      · exact .inl rfl
  | takeCompletions count =>
      simp only [Notices.perform, Notices.takeCompletions] at performed
      split at performed
      · simp at performed
      · rename_i records completion removal
        rw [← (Prod.mk.inj (Option.some.inj performed)).2]
        exact .inr ⟨_, .awaited count removal⟩

theorem proceed_callers {notices next : Notices} {seen : List Observation}
    (performed : notices.proceed = some (seen, next)) : next.callers = notices.callers := by
  unfold Notices.proceed at performed
  cases phase : notices.callback with
  | idle =>
      simp only [phase] at performed
      rw [← (Prod.mk.inj (Option.some.inj performed)).2]
  | noticing service message =>
      simp only [phase] at performed
      split at performed
      · simp at performed
      · rw [← (Prod.mk.inj (Option.some.inj performed)).2]
  | inserting service message =>
      simp only [phase] at performed
      rw [← (Prod.mk.inj (Option.some.inj performed)).2]
  | announcing service message =>
      simp only [phase] at performed
      split at performed
      · simp at performed
      · rw [← (Prod.mk.inj (Option.some.inj performed)).2]

theorem take_callers {notices next : Notices} {caller other : Nat} {seen : List Observation}
    (foreign : caller ≠ other) (performed : notices.take other = some (seen, next)) :
    next.callers caller = notices.callers caller := by
  unfold Notices.take at performed
  split at performed
  · split_ifs at performed
    · rw [← (Prod.mk.inj (Option.some.inj performed)).2]
    · split at performed
      · rw [← (Prod.mk.inj (Option.some.inj performed)).2]
        exact Function.update_of_ne foreign _ _
      · rw [← (Prod.mk.inj (Option.some.inj performed)).2]
        exact Function.update_of_ne foreign _ _
      · simp at performed
  · rw [← (Prod.mk.inj (Option.some.inj performed)).2]

/-- Nobody else moves a caller. -/
theorem perform_callers {notices next : Notices} {move : DeliveryMove} {caller : Nat}
    {seen : List Observation} (foreign : move.caller ≠ some caller)
    (performed : notices.perform move = some (seen, next)) :
    next.callers caller = notices.callers caller := by
  have apart : ∀ other, move.caller = some other → caller ≠ other := by
    intro other moves same
    exact foreign (same ▸ moves)
  cases move with
  | enter service message =>
      simp only [Notices.perform, Notices.enter] at performed
      split at performed
      · split_ifs at performed
        all_goals rw [← (Prod.mk.inj (Option.some.inj performed)).2]
      · rw [← (Prod.mk.inj (Option.some.inj performed)).2]
  | proceed => rw [proceed_callers performed]
  | call other service =>
      rw [← (Prod.mk.inj (Option.some.inj performed)).2, Notices.call]
      split
      · split_ifs
        · exact Function.update_of_ne (apart other rfl) _ _
        · rfl
      · rfl
  | poll other =>
      rw [← (Prod.mk.inj (Option.some.inj performed)).2, Notices.poll]
      split
      · rfl
      · exact Function.update_of_ne (apart other rfl) _ _
  | take other => exact take_callers (apart other rfl) performed
  | drop other =>
      rw [← (Prod.mk.inj (Option.some.inj performed)).2, Notices.drop]
      split
      · exact Function.update_of_ne (apart other rfl) _ _
      · exact Function.update_of_ne (apart other rfl) _ _
      · rfl
  | lookAtCompletions =>
      rw [← (Prod.mk.inj (Option.some.inj performed)).2, Notices.lookAtCompletions]
      split_ifs
      · rfl
      · rfl
  | takeCompletions count =>
      simp only [Notices.perform, Notices.takeCompletions] at performed
      split at performed
      · simp at performed
      · rw [← (Prod.mk.inj (Option.some.inj performed)).2]

end RuspiroVchiq.Delivery
