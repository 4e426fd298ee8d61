import RuspiroVchiq.Delivery.Refinement
import RuspiroVchiq.Delivery.Announcements
import RuspiroVchiq.Lib.OccupiedCells

/-!
# Where completions come from

Every completion record that is handled stems from a message that was delivered to the
service it names, and from a different one each. This holds also while the completion
ring overflows: records are lost then, but none is made up.
-/

namespace RuspiroVchiq.Delivery

open RuspiroVchiq.Config
open RuspiroVchiq.Shared
open RuspiroVchiq.Vchiq
open RuspiroVchiq.Lib.LabelledRun
open RuspiroVchiq.Lib.OccupiedCells

set_option autoImplicit false

/-- The record names the owner. -/
def named (owner : Option ServiceHandle) (record : ServiceCompletion) : Bool :=
  decide (record.serviceUserdata = owner)

/-- The records in the ring that name the owner. -/
def unhandledFor (owner : Option ServiceHandle) (completion : Completion) : Nat :=
  occupied (named owner) completion.completions

/-- What one message does to the completion ring: nothing, or it adds one record for the
owner. -/
inductive Adds (owner : Option ServiceHandle) (before after : Completion) : Prop where
  | nothing (remove : after.completionRemove = before.completionRemove)
      (insert : after.completionInsert = before.completionInsert)
      (completions : after.completions = before.completions)
  | record {record : ServiceCompletion} (announced : Announced before after record)
      (userdata : record.serviceUserdata = owner) (reason : record.reason = .messageAvailable)

theorem add_completion_adds {completion next : Completion} {message : Option SlotMessage}
    {user user' : ServiceUser}
    (added : completion.addCompletion .messageAvailable message user = .ok (next, user')) :
    Adds user.userdata completion next :=
  .record (add_completion_announced added) rfl rfl

theorem insert_and_announce_adds {completion next : Completion} {message : Option SlotMessage}
    {user user' : ServiceUser}
    (called : insertAndAnnounce .messageAvailable message user completion = .ok (next, user')) :
    Adds user.userdata completion next := by
  unfold insertAndAnnounce at called
  simp only at called
  split_ifs at called
  · simp only [Except.ok.injEq, Prod.mk.injEq] at called
    rw [← called.1]
    exact .nothing rfl rfl rfl
  · have added := add_completion_adds called
    exact added

/-- A message that found the queue full is announced with the notice and not once more. -/
theorem noticed_adds {completion middle next : Completion} {message : Option SlotMessage}
    {user noticed user' : ServiceUser} (ordered : Ordered completion)
    (small : completion.completionInsert < 2 ^ 63)
    (notice : queueFullNotice .messageAvailable user completion = .ok (middle, noticed))
    (called : insertAndAnnounce .messageAvailable message noticed middle = .ok (next, user')) :
    Adds user.userdata completion next := by
  have sameOwner := (queue_full_notice_same_queue notice).userdata
  unfold queueFullNotice at notice
  simp only [bind, Except.bind, pure, Except.pure] at notice
  split_ifs at notice
  · cases added : completion.addCompletion .messageAvailable none user with
    | error panic => simp [added] at notice
    | ok result =>
        rcases result with ⟨after, told⟩
        simp only [added, Except.ok.injEq, Prod.mk.injEq] at notice
        rcases notice with ⟨rfl, rfl⟩
        have announced := add_completion_announced added
        have position := add_completion_user added
        -- the notice is pending, so the message itself is not announced
        have skipped : skipCompletion
            (insertMessage { told with removeEvent := tryDown told.removeEvent } message) after =
              true := by
          have remove : after.completionRemove = completion.completionRemove := announced.1
          have order : completion.completionRemove ≤ completion.completionInsert := ordered
          simp only [skipCompletion, insertMessage, position, remove, Bool.or_eq_true,
            decide_eq_true_eq]
          left
          rw [as_isize_of_lt small, as_isize_of_lt (Nat.lt_of_le_of_lt order small)]
          exact_mod_cast order
        unfold insertAndAnnounce at called
        simp only [skipped, if_true, Except.ok.injEq, Prod.mk.injEq] at called
        rw [← called.1]
        exact add_completion_adds added
  · simp only [Except.ok.injEq, Prod.mk.injEq] at notice
    have inserted := insert_and_announce_adds called
    rw [sameOwner, ← notice.1] at inserted
    exact inserted

/-- One message makes one record at most, and for its own service. -/
theorem service_callback_adds {completion next : Completion} {message : Option SlotMessage}
    {user user' : ServiceUser} (ordered : Ordered completion)
    (small : completion.completionInsert < 2 ^ 63)
    (called : serviceCallback .messageAvailable message user completion = .ok (next, user')) :
    Adds user.userdata completion next := by
  unfold serviceCallback at called
  split_ifs at called
  · cases notice : queueFullNotice .messageAvailable user completion with
    | error panic => simp [notice] at called
    | ok result =>
        simp only [notice] at called
        exact noticed_adds ordered small notice called
  · exact insert_and_announce_adds called
  · exact add_completion_adds called

section Added

variable {owner : Option ServiceHandle} {before after : Completion}

theorem Adds.unhandled (adds : Adds owner before after) (other : Option ServiceHandle) :
    unhandledFor other after ≤ unhandledFor other before + if owner = other then 1 else 0 := by
  cases adds with
  | nothing _ _ completions =>
      rw [unhandledFor, completions]
      exact Nat.le_add_right _ _
  | @record record announced userdata _ =>
      have put := occupied_put_le (named other) before.completions
        (completionIndex before.completionInsert) record
      rw [← announced.2.2] at put
      simpa [named, unhandledFor, userdata] using put

theorem Adds.reasons (adds : Adds owner before after) {index : Fin maxCompletions}
    {record : ServiceCompletion} (stored : after.completions index = some record) :
    before.completions index = some record ∨ record.reason = .messageAvailable := by
  cases adds with
  | nothing _ _ completions =>
      rw [completions] at stored
      exact .inl stored
  | record announced _ reason =>
      rw [announced.2.2] at stored
      by_cases here : index = completionIndex before.completionInsert
      · rw [here, Function.update_self, Option.some.injEq] at stored
        rw [← stored]
        exact .inr reason
      · rw [Function.update_of_ne here] at stored
        exact .inl stored

end Added

/-- What is handled was in the ring. -/
theorem take_completions_unhandled {count : Nat} {completion next : Completion}
    {records : List ServiceCompletion} (owner : Option ServiceHandle)
    (taken : takeCompletions count completion = .ok (records, next)) :
    unhandledFor owner next + records.countP (named owner) = unhandledFor owner completion := by
  induction count generalizing completion records with
  | zero =>
      simp only [takeCompletions, Except.ok.injEq, Prod.mk.injEq] at taken
      rcases taken with ⟨rfl, rfl⟩
      rfl
  | succ count ih =>
      rcases take_completions_succ taken with
        ⟨rfl, rfl⟩ | ⟨record, rest, _, stored, further, rfl⟩
      · rfl
      · have left := ih further
        have removed := occupied_take (named owner) stored
        rw [List.countP_cons, ← Nat.add_assoc, left]
        exact removed

/-- The records a step hands to `completion_handler`. -/
def RingLabel.handled : RingLabel → List ServiceCompletion
  | .awaited _ records => records
  | _ => []

/-- The records handled in a run, oldest first. -/
def handledRecords (labels : List RingLabel) : List ServiceCompletion :=
  labels.flatMap RingLabel.handled

theorem handled_records_snoc (labels : List RingLabel) (label : RingLabel) :
    handledRecords (labels ++ [label]) = handledRecords labels ++ label.handled := by
  simp [handledRecords]

/-- A message for a service of the owner is delivered. -/
def RingLabel.causes (userdata : Nat → Option ServiceHandle) (owner : Option ServiceHandle) :
    RingLabel → Bool
  | .delivered service _ _ => decide (userdata service = owner)
  | _ => false

/-- The handled records and those still in the ring, against the delivered messages. -/
structure Caused (userdata : Nat → Option ServiceHandle) (labels : List RingLabel)
    (rings : Rings) : Prop where
  owners : ∀ service, (rings.users service).userdata = userdata service
  ordered : Ordered rings.completion
  reasons : ∀ index record, rings.completion.completions index = some record →
    record.reason = .messageAvailable
  handled : ∀ record ∈ handledRecords labels, record.reason = .messageAvailable
  counted : ∀ owner, unhandledFor owner rings.completion +
    (handledRecords labels).countP (named owner) ≤ labels.countP (RingLabel.causes userdata owner)

/-- Messages are delivered only while fewer than 2^63 records were ever added. -/
def FewCompletions (rings : Rings) : RingLabel → Prop
  | .delivered _ _ _ => rings.completion.completionInsert < 2 ^ 63
  | _ => True

section Caused

variable {userdata : Nat → Option ServiceHandle} {labels : List RingLabel} {label : RingLabel}
  {before after : Rings}

/-- Steps that neither add nor handle a record. -/
theorem Caused.frame (caused : Caused userdata labels before)
    (users : ∀ service, (after.users service).userdata = (before.users service).userdata)
    (ordered : Ordered before.completion → Ordered after.completion)
    (completions : after.completion.completions = before.completion.completions)
    (silent : label.handled = []) : Caused userdata (labels ++ [label]) after := by
  have same : handledRecords (labels ++ [label]) = handledRecords labels := by
    rw [handled_records_snoc, silent, List.append_nil]
  refine ⟨fun service => (users service).trans (caused.owners service),
    ordered caused.ordered, ?_, ?_, ?_⟩
  · rw [completions]
    exact caused.reasons
  · rw [same]
    exact caused.handled
  · intro owner
    rw [same, unhandledFor, completions, List.countP_append]
    exact Nat.le_trans (caused.counted owner) (Nat.le_add_right _ _)

theorem userdata_updated {users : Nat → ServiceUser} {target : Nat} {user : ServiceUser}
    (same : user.userdata = (users target).userdata) (service : Nat) :
    (Function.update users target user service).userdata = (users service).userdata := by
  by_cases here : service = target
  · subst here
    rw [Function.update_self]
    exact same
  · rw [Function.update_of_ne here]

theorem caused_delivered {completion : Completion} {user : ServiceUser} {service : Nat}
    {message : SlotMessage} {skipped : Bool} (caused : Caused userdata labels before)
    (small : before.completion.completionInsert < 2 ^ 63)
    (callback : serviceCallback .messageAvailable (some message) (before.users service)
      before.completion = .ok (completion, user)) :
    Caused userdata (labels ++ [.delivered service message skipped])
      { before with
        users := Function.update before.users service user
        completion := completion } := by
  have adds := service_callback_adds caused.ordered small callback
  rw [caused.owners service] at adds
  have same : handledRecords (labels ++ [.delivered service message skipped]) =
      handledRecords labels := by
    rw [handled_records_snoc]
    exact List.append_nil _
  refine ⟨?_, ?_, ?_, ?_, ?_⟩
  · intro other
    rw [← caused.owners other]
    exact userdata_updated (service_callback_userdata callback) other
  · rcases service_callback_ok caused.ordered .messageAvailable (some message)
      (before.users service) with ⟨next, told, called, kept⟩
    rw [callback, Except.ok.injEq, Prod.mk.injEq] at called
    rw [called.1]
    exact kept
  · intro index record stored
    rcases adds.reasons stored with old | reason
    · exact caused.reasons index record old
    · exact reason
  · rw [same]
    exact caused.handled
  · intro owner
    have more := adds.unhandled owner
    have earlier := caused.counted owner
    rw [same, List.countP_append, List.countP_singleton]
    simp only [RingLabel.causes, decide_eq_true_eq]
    omega

theorem caused_awaited {completion : Completion} {records : List ServiceCompletion} {count : Nat}
    (caused : Caused userdata labels before)
    (taken : takeCompletions count before.completion = .ok (records, completion)) :
    Caused userdata (labels ++ [.awaited count records])
      { before with completion := completion } := by
  rcases take_completions_subset taken with ⟨ordered, members, left⟩
  have split : handledRecords (labels ++ [.awaited count records]) =
      handledRecords labels ++ records := handled_records_snoc _ _
  refine ⟨caused.owners, ordered caused.ordered, ?_, ?_, ?_⟩
  · exact fun index record stored => caused.reasons index record (left index record stored)
  · intro record member
    rw [split] at member
    rcases List.mem_append.mp member with old | new
    · exact caused.handled record old
    · rcases members record new with ⟨index, stored⟩
      exact caused.reasons index record stored
  · intro owner
    have removed := take_completions_unhandled owner taken
    have earlier := caused.counted owner
    rw [split, List.countP_append, List.countP_append]
    simp only
    omega

theorem caused_step (caused : Caused userdata labels before)
    (step : Guarded RingStep FewCompletions before label after) :
    Caused userdata (labels ++ [label]) after := by
  rcases step with ⟨move, small⟩
  cases move with
  | delivered service message callback => exact caused_delivered caused small callback
  | called service _ _ => exact caused.frame (fun _ => rfl) id rfl rfl
  | polled service _ =>
      refine caused.frame ?_ id rfl rfl
      exact userdata_updated (dequeue_ready_same_queue _).userdata
  | dropped service _ => exact caused.frame (fun _ => rfl) id rfl rfl
  | taken service _ removal =>
      refine caused.frame ?_ id rfl rfl
      exact userdata_updated (dequeue_take_userdata removal)
  | failed service _ _ => exact caused.frame (fun _ => rfl) id rfl rfl
  | awaited count result =>
      unfold awaitCompletion at result
      simp only [if_true] at result
      split_ifs at result
      cases taken : takeCompletions count before.completion with
      | error panic => simp [taken] at result
      | ok outcome =>
          simp only [taken, AwaitOutcome.ready.injEq] at result
          rcases result with ⟨rfl, rfl⟩
          exact caused_awaited caused taken
  | pending count result =>
      unfold awaitCompletion at result
      simp only [if_true] at result
      split_ifs at result
      · simp only [AwaitOutcome.pending.injEq] at result
        rw [← result]
        exact caused.frame (fun _ => rfl) id rfl rfl
      · cases taken : takeCompletions count before.completion with
        | error panic => simp [taken] at result
        | ok outcome => simp [taken] at result

theorem caused_run {vchi : Nat → Bool} {rings : Rings}
    (run : Run (Guarded RingStep FewCompletions) (Rings.initial userdata vchi) labels rings) :
    Caused userdata labels rings := by
  apply run.invariant (Caused userdata)
  · refine ⟨fun _ => rfl, Nat.le_refl 0, ?_, ?_, ?_⟩
    · simp [Rings.initial, Completion.default]
    · simp [handledRecords]
    · intro owner
      simp [Rings.initial, Completion.default, unhandledFor, occupied_empty, handledRecords]
  · exact fun _ _ _ _ _ caused step => caused_step caused step

end Caused

end RuspiroVchiq.Delivery
