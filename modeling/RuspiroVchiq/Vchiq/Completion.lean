import RuspiroVchiq.Vchiq.Service

/-!
# The message and completion rings

`Completion::add_completion`, `service_callback` and the locked sections of
`dequeue_message` and `await_completion`. Each function here is executed under
the lock of the user data or of the completion record, so it is one atomic step
of the interleavings considered later. The waits that the source left as TODO
fall through, exactly as they do there.
-/

namespace RuspiroVchiq.Vchiq

open RuspiroVchiq.Config
open RuspiroVchiq.Shared
open RuspiroVchiq.Lib.RingQueue

set_option autoImplicit false

/-- `try_down` on a counter: a raised semaphore is taken, a lowered one left. -/
def tryDown (semaphore : Nat) : Nat := semaphore - 1

def completionIndex (counter : Nat) : Fin maxCompletions :=
  ⟨counter &&& (maxCompletions - 1), Nat.lt_of_le_of_lt Nat.and_le_right (by decide)⟩

def msgQueueIndex (counter : Nat) : Fin msgQueueSize :=
  ⟨counter &&& (msgQueueSize - 1), Nat.lt_of_le_of_lt Nat.and_le_right (by decide)⟩

theorem completion_index_eq (counter : Nat) :
    completionIndex counter = cell maxCompletions counter := by
  apply Fin.ext
  exact Nat.and_two_pow_sub_one_eq_mod counter 7

theorem msg_queue_index_eq (counter : Nat) :
    msgQueueIndex counter = cell msgQueueSize counter := by
  apply Fin.ext
  exact Nat.and_two_pow_sub_one_eq_mod counter 7

def Completion.addCompletion (completion : Completion) (reason : Reason)
    (message : Option SlotMessage) (user : ServiceUser) :
    Except Panic (Completion × ServiceUser) :=
  let insert := completion.completionInsert
  let remove := completion.completionRemove
  if insert < remove then .error .arithmeticOverflow
  else
    .ok (
      { completion with
        removeEvent :=
          if insert - remove ≥ maxCompletions then tryDown completion.removeEvent
          else completion.removeEvent
        completions := Function.update completion.completions (completionIndex insert)
          (some
            { reason := reason
              msg := message
              serviceUserdata := user.userdata })
        completionInsert := insert + 1
        insertEvent := completion.insertEvent + 1 },
      { user with
        messageAvailablePos :=
          if reason = .messageAvailable then asIsize insert else user.messageAvailablePos })

/-- The branch taken when the message queue is full: an extra completion without
message unless one is believed to be pending, and a `try_down` whose result is
ignored. -/
def queueFullNotice (reason : Reason) (user : ServiceUser) (completion : Completion) :
    Except Panic (Completion × ServiceUser) := do
  let (completion, user) ←
    if user.messageAvailablePos < asIsize completion.completionRemove then
      completion.addCompletion reason none user
    else pure (completion, user)
  return (completion, { user with removeEvent := tryDown user.removeEvent })

def insertMessage (user : ServiceUser) (message : Option SlotMessage) : ServiceUser :=
  { user with
    msgQueue := Function.update user.msgQueue (msgQueueIndex user.msgInsert) message
    msgInsert := user.msgInsert + 1 }

/-- A completion is skipped when one of this service is taken to be pending or a
`dequeue_message` call waits. -/
def skipCompletion (user : ServiceUser) (completion : Completion) : Bool :=
  decide (asIsize completion.completionRemove ≤ user.messageAvailablePos) || user.dequeuePending

/-- Insert the message into the queue and announce it unless that is skipped. -/
def insertAndAnnounce (reason : Reason) (message : Option SlotMessage)
    (user : ServiceUser) (completion : Completion) : Except Panic (Completion × ServiceUser) :=
  let user := insertMessage user message
  let skip := skipCompletion user completion
  let user :=
    { user with
      dequeuePending := if skip then false else user.dequeuePending
      insertEvent := user.insertEvent + 1 }
  if skip then .ok (completion, user)
  else completion.addCompletion reason message user

/-- `service_callback`. The full queue is noticed, but the message is inserted all
the same. -/
def serviceCallback (reason : Reason) (message : Option SlotMessage)
    (user : ServiceUser) (completion : Completion) : Except Panic (Completion × ServiceUser) :=
  if user.isVchi then
    if user.msgInsert = user.msgRemove + msgQueueSize then
      match queueFullNotice reason user completion with
      | .error panic => .error panic
      | .ok (completion, user) => insertAndAnnounce reason message user completion
    else insertAndAnnounce reason message user completion
  else completion.addCompletion reason message user

/-- One poll of the readiness closure in `dequeue_message`. -/
def dequeueReady (user : ServiceUser) : Bool × ServiceUser :=
  if user.msgRemove = user.msgInsert then
    let user := { user with dequeuePending := true }
    if 0 < user.insertEvent then
      let user := { user with insertEvent := user.insertEvent - 1 }
      (decide (user.msgRemove ≠ user.msgInsert), user)
    else (false, user)
  else (true, user)

/-- The locked section of `dequeue_message` behind the readiness poll. The result
is converted to the payload bytes, which never fails. -/
def dequeueTake (user : ServiceUser) : Except Stop (List UInt8 × ServiceUser) :=
  if user.msgInsert < user.msgRemove then
    .error (.error (.generic "user service msg_remove > msg_insert"))
  else
    match user.msgQueue (msgQueueIndex user.msgRemove) with
    | none => .error (.panic .unwrapNone)
    | some message =>
        .ok (message.data,
          { user with
            msgRemove := user.msgRemove + 1
            msgQueue := Function.update user.msgQueue (msgQueueIndex user.msgRemove) none
            removeEvent := user.removeEvent + 1 })

/-- The loop of `await_completion` that removes up to `count` records. -/
def takeCompletions : Nat → Completion → Except Panic (List ServiceCompletion × Completion)
  | 0, completion => .ok ([], completion)
  | count + 1, completion =>
      if completion.completionRemove = completion.completionInsert then .ok ([], completion)
      else
        match completion.completions (completionIndex completion.completionRemove) with
        | none => .error .unwrapNone
        | some record => do
            let (rest, completion) ← takeCompletions count
              { completion with
                completions := Function.update completion.completions
                  (completionIndex completion.completionRemove) none
                completionRemove := completion.completionRemove + 1 }
            return (record :: rest, completion)

inductive AwaitOutcome where
  | pending (completion : Completion)
  | error (error : VchiqError)
  | panic (panic : Panic)
  | ready (records : List ServiceCompletion) (completion : Completion)

/-- One poll of a fresh `await_completion` future. -/
def awaitCompletion (connected : Bool) (count : Nat) (completion : Completion) : AwaitOutcome :=
  if connected then
    if completion.completionRemove = completion.completionInsert then
      .pending { completion with insertEvent := tryDown completion.insertEvent }
    else
      match takeCompletions count completion with
      | .error panic => .panic panic
      | .ok (records, completion) => .ready records completion
  else .error .notConnected

end RuspiroVchiq.Vchiq
