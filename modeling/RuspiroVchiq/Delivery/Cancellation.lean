import RuspiroVchiq.Delivery.Schedule

/-!
# Cancelled calls of `dequeue_message`

A schedule with a call that is dropped while it is pending, compared with the schedule
without that call. What the call leaves behind is the flag `dequeue_pending`: it stands for
a caller who waits, and the callback skips one announcement for it. The flag is harmless
while somebody else has set it too, or a completion of the service is pending anyway.
-/

namespace RuspiroVchiq.Delivery

open RuspiroVchiq.Config
open RuspiroVchiq.Shared
open RuspiroVchiq.Vchiq
open RuspiroVchiq.Lib.Unwinding

set_option autoImplicit false

/-- User data that differ in the semaphore, which nobody observes, and where marked in
the flag: it is set on the left only. -/
structure UserAlike (marked : Bool) (left right : ServiceUser) : Prop where
  same : ∃ event, left =
    { right with
      insertEvent := event
      dequeuePending := right.dequeuePending || marked }
  unset : marked = true → right.dequeuePending = false

section UserAlike

variable {marked : Bool} {left right : ServiceUser}

theorem UserAlike.refl (user : ServiceUser) : UserAlike false user user :=
  ⟨⟨user.insertEvent, by rw [Bool.or_false]⟩, by simp⟩

theorem UserAlike.is_vchi (alike : UserAlike marked left right) :
    left.isVchi = right.isVchi := by
  rcases alike.same with ⟨event, same⟩
  rw [same]

theorem UserAlike.enter (alike : UserAlike marked left right) (service : Nat)
    (message : SlotMessage) (completion : Completion) :
    (enterCallback service message left completion).1 =
        (enterCallback service message right completion).1 ∧
      UserAlike marked (enterCallback service message left completion).2
        (enterCallback service message right completion).2 := by
  rcases alike with ⟨⟨event, rfl⟩, unset⟩
  unfold enterCallback
  simp only
  split_ifs
  · exact ⟨rfl, ⟨event, rfl⟩, unset⟩
  · exact ⟨rfl, ⟨event, rfl⟩, unset⟩
  · exact ⟨rfl, ⟨event, rfl⟩, unset⟩

/-- The same record is added for both. -/
theorem UserAlike.add_completion (alike : UserAlike marked left right) (completion : Completion)
    (message : Option SlotMessage) :
    (∃ panic, completion.addCompletion .messageAvailable message left = .error panic ∧
        completion.addCompletion .messageAvailable message right = .error panic) ∨
      ∃ next left' right',
        completion.addCompletion .messageAvailable message left = .ok (next, left') ∧
        completion.addCompletion .messageAvailable message right = .ok (next, right') ∧
        UserAlike marked left' right' := by
  rcases alike with ⟨⟨event, rfl⟩, unset⟩
  unfold Completion.addCompletion
  simp only
  split_ifs
  · exact .inl ⟨_, rfl, rfl⟩
  · exact .inr ⟨_, _, _, rfl, rfl, ⟨event, rfl⟩, unset⟩
  · exact .inr ⟨_, _, _, rfl, rfl, ⟨event, rfl⟩, unset⟩

/-- An insertion clears the flag on both sides if it is skipped on both. -/
theorem UserAlike.insert (alike : UserAlike marked left right) (message : SlotMessage)
    (completion : Completion)
    (announced : marked = true →
      asIsize completion.completionRemove ≤ left.messageAvailablePos) :
    (insertSection message left completion).1 = (insertSection message right completion).1 ∧
      UserAlike false (insertSection message left completion).2
        (insertSection message right completion).2 := by
  rcases alike with ⟨⟨event, rfl⟩, unset⟩
  cases marked with
  | false =>
      rw [Bool.or_false]
      exact ⟨rfl, ⟨event + 1, by rw [Bool.or_false]; rfl⟩, by simp⟩
  | true =>
      -- a pending completion skips the announcement on both sides
      have pending : asIsize completion.completionRemove ≤ right.messageAvailablePos :=
        announced rfl
      have skipped : ∀ user : ServiceUser, user.messageAvailablePos = right.messageAvailablePos →
          skipCompletion user completion = true := by
        intro user position
        rw [skipCompletion, position, decide_eq_true pending, Bool.true_or]
      unfold insertSection
      simp only
      rw [skipped (insertMessage right (some message)) rfl,
        skipped (insertMessage
          { right with insertEvent := event, dequeuePending := right.dequeuePending || true }
            (some message)) rfl]
      exact ⟨rfl, ⟨event + 1, rfl⟩, by simp⟩

/-- A poll of an empty queue sets the flag on both sides. -/
theorem UserAlike.poll (alike : UserAlike marked left right) :
    (dequeueReady left).1 = (dequeueReady right).1 ∧
      UserAlike (marked && decide (left.msgRemove ≠ left.msgInsert)) (dequeueReady left).2
        (dequeueReady right).2 := by
  rcases alike with ⟨⟨event, rfl⟩, unset⟩
  by_cases empty : right.msgRemove = right.msgInsert
  · rw [dequeue_ready_empty empty, dequeue_ready_empty (by exact empty)]
    exact ⟨rfl, ⟨tryDown event, by simp [empty]⟩, by simp [empty]⟩
  · rw [dequeue_ready_filled empty, dequeue_ready_filled (by exact empty)]
    have filled : decide (right.msgRemove ≠ right.msgInsert) = true := decide_eq_true empty
    simp only [filled, Bool.and_true, true_and]
    exact ⟨⟨event, rfl⟩, unset⟩

/-- Setting the flag on the left only. -/
theorem UserAlike.flag_set (alike : UserAlike marked left right) (event : Nat) :
    UserAlike (marked || !left.dequeuePending)
      { left with dequeuePending := true, insertEvent := event } right := by
  rcases alike with ⟨⟨_, rfl⟩, unset⟩
  refine ⟨⟨event, ?_⟩, ?_⟩
  · cases marked <;> cases right.dequeuePending <;> rfl
  · cases marked with
    | true => exact fun _ => unset rfl
    | false => cases right.dequeuePending <;> simp

theorem UserAlike.take (alike : UserAlike marked left right) :
    (∃ stop, dequeueTake left = .error stop ∧ dequeueTake right = .error stop) ∨
      ∃ bytes left' right', dequeueTake left = .ok (bytes, left') ∧
        dequeueTake right = .ok (bytes, right') ∧ UserAlike marked left' right' := by
  rcases alike with ⟨⟨event, rfl⟩, unset⟩
  unfold dequeueTake
  simp only
  split_ifs
  · exact .inl ⟨_, rfl, rfl⟩
  · cases right.msgQueue (msgQueueIndex right.msgRemove) with
    | none => exact .inl ⟨_, rfl, rfl⟩
    | some message => exact .inr ⟨_, _, _, rfl, rfl, ⟨event, rfl⟩, unset⟩

end UserAlike

/-- Whether the mark of a service is still there after a move of anybody but the cancelled
caller: an insertion clears the flag, a poll of the empty queue sets it. -/
def markKept (service : Nat) (notices : Notices) (marked : Bool) : DeliveryMove → Bool
  | .proceed =>
      match notices.callback with
      | .inserting other _ => marked && decide (other ≠ service)
      | _ => marked
  | .poll caller =>
      if notices.polls caller = some service ∧
          (notices.users service).msgRemove = (notices.users service).msgInsert then false
      else marked
  | _ => marked

/-- While only the cancelled call has set the flag, messages are inserted into the queue
of the service only if a completion is pending anyway. -/
def AnnouncedAnyway (service : Nat) (marked : Bool) (notices : Notices) (move : DeliveryMove) :
    Prop :=
  marked = true → move = .proceed → ∀ message, notices.callback = .inserting service message →
    asIsize notices.completion.completionRemove ≤
      (notices.users service).messageAvailablePos

/-- States that look the same to the callers in `agree`, up to the mark of one service. -/
structure Alike (agree : Nat → Prop) (service : Nat) (marked : Bool) (left right : Notices) :
    Prop where
  users : ∀ other, UserAlike (marked && decide (other = service)) (left.users other)
    (right.users other)
  completion : left.completion = right.completion
  callback : left.callback = right.callback
  callers : ∀ caller, agree caller → left.callers caller = right.callers caller

section Alike

variable {agree : Nat → Prop} {service : Nat} {marked marked' : Bool} {left right : Notices}

/-- Replacing the user data of one service on both sides. -/
theorem Alike.update_users (alike : Alike agree service marked left right) {target : Nat}
    {user user' : ServiceUser}
    (replaced : UserAlike (marked' && decide (target = service)) user user')
    (kept : target ≠ service → marked' = marked) (other : Nat) :
    UserAlike (marked' && decide (other = service))
      (Function.update left.users target user other)
      (Function.update right.users target user' other) := by
  by_cases same : other = target
  · subst same
    rw [Function.update_self, Function.update_self]
    exact replaced
  · rw [Function.update_of_ne same, Function.update_of_ne same]
    have mark : (marked' && decide (other = service)) =
        (marked && decide (other = service)) := by
      by_cases isTarget : target = service
      · have apart : other ≠ service := fun isService => same (isService.trans isTarget.symm)
        simp [apart]
      · rw [kept isTarget]
    rw [mark]
    exact alike.users other

theorem Alike.update_callers (alike : Alike agree service marked left right) (caller : Nat)
    (phase : CallerPhase) :
    ∀ other, agree other → Function.update left.callers caller phase other =
      Function.update right.callers caller phase other := by
  intro other agreed
  by_cases same : other = caller
  · rw [same, Function.update_self, Function.update_self]
  · rw [Function.update_of_ne same, Function.update_of_ne same]
    exact alike.callers other agreed

theorem Alike.polls (alike : Alike agree service marked left right) {caller : Nat}
    (agreed : agree caller) : left.polls caller = right.polls caller := by
  unfold Notices.polls
  rw [alike.callers caller agreed, alike.callback]

/-- The answers of states that are alike. -/
abbrev AlikeAnswers (agree : Nat → Prop) (service : Nat) (marked : Bool) : Answer → Answer → Prop :=
  SameAnswer (Alike agree service marked)

theorem Alike.enter (alike : Alike agree service marked left right) (target : Nat)
    (message : SlotMessage) :
    AlikeAnswers agree service marked (left.enter target message)
      (right.enter target message) := by
  rcases (alike.users target).enter target message left.completion with ⟨phase, users⟩
  have vchi := (alike.users target).is_vchi
  unfold Notices.enter
  rw [← alike.callback]
  cases left.callback with
  | idle =>
      simp only [← vchi]
      split_ifs
      · refine ⟨rfl, alike.update_users ?_ fun _ => rfl, alike.completion, ?_, alike.callers⟩
        · rw [← alike.completion]
          exact users
        · rw [← alike.completion]
          exact phase
      · exact ⟨rfl, alike.users, alike.completion, rfl, alike.callers⟩
  | noticing _ _ => exact ⟨rfl, alike⟩
  | inserting _ _ => exact ⟨rfl, alike⟩
  | announcing _ _ => exact ⟨rfl, alike⟩

theorem Alike.proceed (alike : Alike agree service marked left right)
    (guard : AnnouncedAnyway service marked left .proceed) :
    AlikeAnswers agree service (markKept service left marked .proceed) left.proceed
      right.proceed := by
  unfold Notices.proceed markKept
  rw [← alike.callback]
  cases phase : left.callback with
  | idle => exact ⟨rfl, alike⟩
  | noticing target message =>
      simp only [← alike.completion]
      rcases (alike.users target).add_completion left.completion none with
        ⟨panic, stopped, stopped'⟩ | ⟨next, user, user', added, added', users⟩
      · simp only [stopped, stopped']
        trivial
      · simp only [added, added']
        rcases users with ⟨⟨event, rfl⟩, unset⟩
        exact ⟨rfl, alike.update_users ⟨⟨event, rfl⟩, unset⟩ fun _ => rfl, rfl, rfl,
          alike.callers⟩
  | inserting target message =>
      rcases (alike.users target).insert message left.completion
          (by
            intro isMarked
            rw [Bool.and_eq_true, decide_eq_true_eq] at isMarked
            rcases isMarked with ⟨isMarked, rfl⟩
            exact guard isMarked rfl message phase) with ⟨skip, users⟩
      simp only [← alike.completion, skip]
      refine ⟨rfl, alike.update_users ?_ ?_, rfl, rfl, alike.callers⟩
      · have cleared : (marked && decide (target ≠ service) && decide (target = service)) =
            false := by
          by_cases same : target = service <;> simp [same]
        rw [cleared]
        exact users
      · intro apart
        rw [decide_eq_true apart, Bool.and_true]
  | announcing target message =>
      simp only [← alike.completion]
      rcases (alike.users target).add_completion left.completion (some message) with
        ⟨panic, stopped, stopped'⟩ | ⟨next, user, user', added, added', users⟩
      · simp only [stopped, stopped']
        trivial
      · simp only [added, added']
        exact ⟨rfl, alike.update_users users fun _ => rfl, rfl, rfl, alike.callers⟩

theorem Alike.poll (alike : Alike agree service marked left right) {caller : Nat}
    (agreed : agree caller) :
    Alike agree service (markKept service left marked (.poll caller)) (left.poll caller)
      (right.poll caller) := by
  unfold Notices.poll markKept
  rw [← alike.polls agreed]
  cases polls : left.polls caller with
  | none =>
      simp only [polls, reduceCtorEq, false_and, if_false]
      exact alike
  | some target =>
      rcases (alike.users target).poll with ⟨ready, users⟩
      simp only [polls, ready, Option.some.injEq]
      refine ⟨alike.update_users ?_ ?_, alike.completion, alike.callback,
        alike.update_callers caller _⟩
      · by_cases same : target = service
        · subst same
          by_cases empty : (left.users target).msgRemove = (left.users target).msgInsert
          · simpa [empty] using users
          · simpa [empty] using users
        · simpa [same] using users
      · intro apart
        rw [if_neg (fun both => apart both.1)]

theorem Alike.take (alike : Alike agree service marked left right) {caller : Nat}
    (agreed : agree caller) :
    AlikeAnswers agree service marked (left.take caller) (right.take caller) := by
  unfold Notices.take
  rw [← alike.callers caller agreed, ← alike.callback]
  cases left.callers caller with
  | idle => exact ⟨rfl, alike⟩
  | called _ => exact ⟨rfl, alike⟩
  | waiting _ => exact ⟨rfl, alike⟩
  | ready target =>
      simp only
      split_ifs
      · exact ⟨rfl, alike⟩
      · rcases (alike.users target).take with
          ⟨stop, stopped, stopped'⟩ | ⟨bytes, user, user', taken, taken', users⟩
        · rw [stopped, stopped']
          cases stop with
          | error error =>
              exact ⟨rfl, alike.users, alike.completion, rfl, alike.update_callers caller _⟩
          | panic panic => trivial
          | blocked => trivial
        · rw [taken, taken']
          exact ⟨rfl, alike.update_users users fun _ => rfl, alike.completion, rfl,
            alike.update_callers caller _⟩

/-- A move of a caller both sides know is answered alike. -/
theorem Alike.perform (alike : Alike agree service marked left right) (move : DeliveryMove)
    (agreed : ∀ caller, move.caller = some caller → agree caller)
    (guard : AnnouncedAnyway service marked left move) :
    AlikeAnswers agree service (markKept service left marked move) (left.perform move)
      (right.perform move) := by
  cases move with
  | enter target message => exact alike.enter target message
  | proceed => exact alike.proceed guard
  | call caller target =>
      refine ⟨rfl, ?_⟩
      unfold Notices.call
      rw [← alike.callers caller (agreed caller rfl), ← (alike.users target).is_vchi]
      cases left.callers caller with
      | idle =>
          simp only
          split_ifs
          · exact ⟨alike.users, alike.completion, alike.callback, alike.update_callers caller _⟩
          · exact alike
      | called _ => exact alike
      | waiting _ => exact alike
      | ready _ => exact alike
  | poll caller => exact ⟨rfl, alike.poll (agreed caller rfl)⟩
  | take caller => exact alike.take (agreed caller rfl)
  | drop caller =>
      refine ⟨rfl, ?_⟩
      unfold Notices.drop
      rw [← alike.callers caller (agreed caller rfl)]
      cases left.callers caller with
      | idle => exact alike
      | ready _ => exact alike
      | called _ =>
          exact ⟨alike.users, alike.completion, alike.callback, alike.update_callers caller _⟩
      | waiting _ =>
          exact ⟨alike.users, alike.completion, alike.callback, alike.update_callers caller _⟩
  | lookAtCompletions =>
      refine ⟨rfl, ?_⟩
      unfold Notices.lookAtCompletions
      rw [← alike.completion]
      split_ifs
      · exact ⟨alike.users, rfl, alike.callback, alike.callers⟩
      · exact alike
  | takeCompletions count =>
      simp only [Notices.perform, Notices.takeCompletions, ← alike.completion]
      cases Vchiq.takeCompletions count left.completion with
      | error panic => trivial
      | ok result => exact ⟨rfl, alike.users, rfl, alike.callback, alike.callers⟩

end Alike

/-- The polls of a caller. -/
def pollsOf (caller : Nat) : DeliveryMove → Bool
  | .poll other => decide (other = caller)
  | _ => false

/-- The mark after a move: a poll of the cancelled call that finds the queue empty and the
flag not set is the one that sets it. -/
def markAfter (caller service : Nat) (notices : Notices) (move : DeliveryMove)
    (marked : Bool) : Bool :=
  if pollsOf caller move then
    if notices.polls caller = some service ∧
        (notices.users service).msgRemove = (notices.users service).msgInsert then
      marked || !(notices.users service).dequeuePending
    else marked
  else markKept service notices marked move

/-- While the call is pending, nothing happens on account of the flag that it alone has
set: no announcement is skipped for it, and it is not left behind in the end. -/
def Unnoticed (caller service : Nat) (notices : Notices) (between : List DeliveryMove) : Prop :=
  GuardedRun Notices.perform (AnnouncedAnyway service) (markAfter caller service)
    (fun marked => marked = false) false (notices.call caller service) between

/-- A call of `dequeue_message` is made, and it is still pending after further moves, of
which only its polls are its own. -/
structure PendingAfter (caller service : Nat) (notices : Notices)
    (between : List DeliveryMove) : Prop where
  free : notices.callers caller = .idle
  vchi : (notices.users service).isVchi = true
  own : ∀ move ∈ between, move.caller = some caller → pollsOf caller move = true
  pending : ∃ seen reached,
    runAll Notices.perform (notices.call caller service) between = some (seen, reached) ∧
      (reached.callers caller = .called service ∨ reached.callers caller = .waiting service)

/-- The state with the pending call and the one without it. -/
structure BesideCall (caller service : Nat) (marked : Bool) (left right : Notices) : Prop where
  alike : Alike (fun other => other ≠ caller) service marked left right
  absent : right.callers caller = .idle
  present : left.callers caller = .called service ∨ left.callers caller = .waiting service ∨
    left.callers caller = .ready service

section BesideCall

variable {caller service : Nat} {marked : Bool} {left right : Notices}

/-- Whom the pending call polls. -/
theorem BesideCall.polled_service (beside : BesideCall caller service marked left right)
    {target : Nat} (polls : left.polls caller = some target) : target = service := by
  rcases polls_cases polls with ⟨phase | phase, _⟩
  · rcases beside.present with known | known | known
    all_goals simp_all
  · rcases beside.present with known | known | known
    all_goals simp_all

/-- A poll of the cancelled call sets the flag, or finds a message. -/
theorem BesideCall.own_poll (beside : BesideCall caller service marked left right) :
    BesideCall caller service (markAfter caller service left (.poll caller) marked)
      (left.poll caller) right := by
  have isOwn : pollsOf caller (.poll caller) = true := decide_eq_true rfl
  rcases beside with ⟨alike, absent, present⟩
  unfold markAfter Notices.poll
  rw [if_pos isOwn]
  cases polls : left.polls caller with
  | none =>
      simp only [reduceCtorEq, false_and, if_false]
      exact ⟨alike, absent, present⟩
  | some target =>
      have same := BesideCall.polled_service ⟨alike, absent, present⟩ polls
      subst same
      have others : ∀ phase other, other ≠ caller →
          Function.update left.callers caller phase other = right.callers other := by
        intro phase other foreign
        rw [Function.update_of_ne foreign]
        exact alike.callers other foreign
      simp only [true_and]
      by_cases empty : (left.users target).msgRemove = (left.users target).msgInsert
      · simp only [dequeue_ready_empty empty, if_pos empty]
        refine ⟨⟨?_, alike.completion, alike.callback, others _⟩, absent, ?_⟩
        · intro other
          simp only
          by_cases isTarget : other = target
          · subst isTarget
            rw [Function.update_self, decide_eq_true rfl, Bool.and_true]
            have waits := (alike.users other).flag_set (tryDown (left.users other).insertEvent)
            rwa [decide_eq_true rfl, Bool.and_true] at waits
          · have known := alike.users other
            rw [Function.update_of_ne isTarget]
            rwa [decide_eq_false isTarget, Bool.and_false] at known ⊢
        · right
          left
          exact Function.update_self caller _ _
      · simp only [dequeue_ready_filled empty, if_neg empty, Function.update_eq_self]
        refine ⟨⟨alike.users, alike.completion, alike.callback, others _⟩, absent, ?_⟩
        right
        right
        exact Function.update_self caller _ _

/-- Without the caller, the states look the same. -/
theorem BesideCall.dropped (beside : BesideCall caller service false left right)
    (pending : left.callers caller = .called service ∨ left.callers caller = .waiting service) :
    Alike (fun _ => True) service false (left.drop caller) right := by
  have released : left.drop caller =
      { left with callers := Function.update left.callers caller .idle } := by
    unfold Notices.drop
    rcases pending with phase | phase
    · rw [phase]
    · rw [phase]
  rw [released]
  refine ⟨beside.alike.users, beside.alike.completion, beside.alike.callback, ?_⟩
  intro other _
  simp only
  by_cases same : other = caller
  · rw [same, Function.update_self, beside.absent]
  · rw [Function.update_of_ne same]
    exact beside.alike.callers other same

end BesideCall

/-- Without a mark there is none later. -/
theorem mark_kept_false (service : Nat) (notices : Notices) (move : DeliveryMove) :
    markKept service notices false move = false := by
  unfold markKept
  split
  · split
    · rfl
    · rfl
  · split_ifs
    · rfl
    · rfl
  · rfl

/-- States that look the same to everybody stay so. -/
theorem alike_observed {service : Nat} {left right : Notices}
    (alike : Alike (fun _ => True) service false left right) (moves : List DeliveryMove) :
    observed Notices.perform left moves = observed Notices.perform right moves := by
  apply observed_eq_of_related (Alike (fun _ => True) service false) _ alike
  intro left right move related
  have answers := related.perform move (fun _ _ => trivial) (by simp [AnnouncedAnyway])
  rwa [mark_kept_false] at answers

/-- The call as it begins. -/
theorem PendingAfter.start {caller service : Nat} {notices : Notices}
    {between : List DeliveryMove} (cancelled : PendingAfter caller service notices between) :
    BesideCall caller service false (notices.call caller service) notices := by
  have called : notices.call caller service =
      { notices with callers := Function.update notices.callers caller (.called service) } := by
    rw [Notices.call, cancelled.free]
    simp only [cancelled.vchi, if_true]
  rw [called]
  refine ⟨⟨?_, rfl, rfl, ?_⟩, cancelled.free, .inl (Function.update_self caller _ _)⟩
  · intro other
    exact UserAlike.refl _
  · intro other foreign
    exact Function.update_of_ne foreign _ _

section BesideCall

variable {caller service : Nat} {marked : Bool} {left right : Notices}

/-- The others move beside the call as they do without it. -/
theorem BesideCall.others_move (beside : BesideCall caller service marked left right)
    {move : DeliveryMove} (foreign : move.caller ≠ some caller)
    (isOther : pollsOf caller move = false)
    (guard : AnnouncedAnyway service marked left move) :
    SameAnswer (BesideCall caller service (markAfter caller service left move marked))
      (left.perform move) (right.perform move) := by
  have kept : markAfter caller service left move marked = markKept service left marked move := by
    rw [markAfter, if_neg (by simp [isOther])]
  rw [kept]
  apply (beside.alike.perform move _ guard).imp
  · intro seen next next' performed performed' alike
    refine ⟨alike, ?_, ?_⟩
    · rw [perform_callers foreign performed']
      exact beside.absent
    · rw [perform_callers foreign performed]
      exact beside.present
  · intro other moves same
    exact foreign (same ▸ moves)

/-- The call shows nothing of its polls. -/
theorem BesideCall.own_move (beside : BesideCall caller service marked left right)
    {move : DeliveryMove} {seen : List Observation} {next : Notices}
    (isOwn : pollsOf caller move = true) (performed : left.perform move = some (seen, next)) :
    seen = [] ∧ BesideCall caller service (markAfter caller service left move marked) next
      right := by
  cases move with
  | poll other =>
      have same : other = caller := of_decide_eq_true isOwn
      subst same
      simp only [Notices.perform, Option.some.injEq, Prod.mk.injEq] at performed
      rcases performed with ⟨rfl, rfl⟩
      exact ⟨rfl, beside.own_poll⟩
  | _ => simp [pollsOf] at isOwn

end BesideCall

/-- From any state, so at any point of a run: a call of `dequeue_message` that is dropped
while it is pending changes nothing of what the clients get, during the call and in every
continuation, if the flag that it alone has set goes unnoticed. -/
theorem cancelled_dequeue_leaves_no_trace {caller service : Nat} {notices : Notices}
    {between : List DeliveryMove} (cancelled : PendingAfter caller service notices between)
    (unnoticed : Unnoticed caller service notices between) (after : List DeliveryMove) :
    observed Notices.perform notices
        (.call caller service :: between ++ .drop caller :: after) =
      observed Notices.perform notices
        (between.filter (fun move => !pollsOf caller move) ++ after) := by
  rcases cancelled.pending with ⟨seen, reached, ran, pending⟩
  have erased : ∃ marked reached', marked = false ∧
      BesideCall caller service marked reached reached' ∧
        runAll Notices.perform notices (between.filter fun move => !pollsOf caller move) =
          some (seen, reached') := by
    apply erased_run (pollsOf caller) (BesideCall caller service)
      (fun move => move.caller = some caller → pollsOf caller move = true)
      _ _ cancelled.own cancelled.start unnoticed ran
    · intro marked left right move own isOther beside guard
      apply beside.others_move _ isOther guard
      intro moves
      rw [own moves] at isOther
      simp at isOther
    · intro marked left right move seen next isOwn beside performed
      exact beside.own_move isOwn performed
  rcases erased with ⟨marked, reached', rfl, beside, ran'⟩
  have called : runAll Notices.perform notices (.call caller service :: between) =
      some (seen, reached) := by
    rw [run_all_cons rfl, ran]
    rfl
  rw [observed_append called, observed_cons rfl, alike_observed (beside.dropped pending),
    observed_append ran']
  simp

/-- A second caller waits for the same service and has set the flag before. -/
theorem second_waiter_hides_cancelled :
    PendingAfter 0 0 Notices.initial [.call 1 0, .poll 1, .poll 0] ∧
      ∀ after, observed Notices.perform Notices.initial
          ([.call 0 0, .call 1 0, .poll 1, .poll 0] ++ .drop 0 :: after) =
        observed Notices.perform Notices.initial ([.call 1 0, .poll 1] ++ after) := by
  have cancelled : PendingAfter 0 0 Notices.initial [.call 1 0, .poll 1, .poll 0] := by
    refine ⟨rfl, rfl, ?_, ⟨_, _, rfl, .inr rfl⟩⟩
    intro move member
    simp only [List.mem_cons, List.not_mem_nil, or_false] at member
    rcases member with rfl | rfl | rfl
    all_goals simp [DeliveryMove.caller, pollsOf]
  have unnoticed : Unnoticed 0 0 Notices.initial [.call 1 0, .poll 1, .poll 0] := by
    refine ⟨by simp [AnnouncedAnyway], ?_⟩
    intro seen next performed
    rw [← (Prod.mk.inj (Option.some.inj performed)).2]
    refine ⟨by simp [AnnouncedAnyway], ?_⟩
    intro seen next performed
    rw [← (Prod.mk.inj (Option.some.inj performed)).2]
    refine ⟨by simp [AnnouncedAnyway], ?_⟩
    intro seen next performed
    rfl
  exact ⟨cancelled, cancelled_dequeue_leaves_no_trace cancelled unnoticed⟩

/-- One byte of DATA for the service at port 0. -/
def lateData : SlotMessage where
  header := { msgid := makeMsgId .data 75 0, size := 1 }
  data := [7]

/-- The call is polled once and dropped. The message that comes then is not announced. -/
theorem cancelled_dequeue_silences_message :
    PendingAfter 0 0 Notices.initial [.poll 0] ∧
      observed Notices.perform Notices.initial
          ([.call 0 0, .poll 0] ++ .drop 0 ::
            [.enter 0 lateData, .proceed, .proceed, .takeCompletions 1]) =
        some [] ∧
      observed Notices.perform Notices.initial
          ([.poll 0].filter (fun move => !pollsOf 0 move) ++
            [.enter 0 lateData, .proceed, .proceed, .takeCompletions 1]) =
        some [.completed ⟨.messageAvailable, some lateData, some 0⟩] := by
  refine ⟨⟨rfl, rfl, ?_, ⟨_, _, rfl, .inr rfl⟩⟩, rfl, rfl⟩
  intro move member
  rw [List.mem_singleton] at member
  rw [member]
  simp [pollsOf]

/-- No callback runs, every completion has been taken, and the queue of the service has
room. -/
structure Quiet (service : Nat) (notices : Notices) : Prop where
  idle : notices.callback = .idle
  vchi : (notices.users service).isVchi = true
  room : (notices.users service).msgInsert ≠ (notices.users service).msgRemove + msgQueueSize
  drained : notices.completion.completionRemove = notices.completion.completionInsert
  passed : (notices.users service).messageAvailablePos <
    asIsize notices.completion.completionRemove

/-- The next message of a service and the look for its announcement. -/
def nextMessage (service : Nat) (message : SlotMessage) : List DeliveryMove :=
  [.enter service message, .proceed, .proceed, .takeCompletions 1]

/-- A record that is added to a drained ring is the next one taken. -/
theorem take_added_completion {completion : Completion} (user : ServiceUser)
    (message : Option SlotMessage)
    (drained : completion.completionRemove = completion.completionInsert) :
    ∃ next user',
      completion.addCompletion .messageAvailable message user = .ok (next, user') ∧
        ∃ rest, Vchiq.takeCompletions 1 next = .ok ([availableRecord user message], rest) := by
  have ordered : ¬completion.completionInsert < completion.completionRemove := by omega
  unfold Completion.addCompletion
  simp only [if_neg ordered]
  refine ⟨_, _, rfl, ?_⟩
  have filled : completion.completionInsert ≠ completion.completionInsert + 1 := by omega
  simp only [Vchiq.takeCompletions, drained, if_neg filled, Function.update_self, bind,
    Except.bind, pure, Except.pure]
  exact ⟨_, rfl⟩

/-- In a quiet state the next message is announced exactly if the flag is not set. -/
theorem Quiet.next_observed {service : Nat} {notices : Notices} (quiet : Quiet service notices)
    (message : SlotMessage) :
    observed Notices.perform notices (nextMessage service message) =
      if (notices.users service).dequeuePending then some []
      else some [.completed (availableRecord (notices.users service) (some message))] := by
  have entered : notices.perform (.enter service message) =
      some ([], { notices with callback := .inserting service message }) := by
    simp only [Notices.perform, Notices.enter, quiet.idle, quiet.vchi, if_true, enterCallback,
      if_neg quiet.room, Function.update_eq_self]
  have notPending : ¬asIsize notices.completion.completionRemove ≤
      (notices.users service).messageAvailablePos := not_le.mpr quiet.passed
  rw [nextMessage, observed_cons entered]
  cases flag : (notices.users service).dequeuePending with
  | true =>
      have skip : (insertSection message (notices.users service) notices.completion).1 =
          true := by
        simp [insertSection, skipCompletion, insertMessage, flag]
      rw [observed_cons rfl]
      simp only [skip, if_true]
      rw [observed_cons rfl, observed_cons (by
        simp only [Notices.perform, Notices.takeCompletions, Vchiq.takeCompletions,
          quiet.drained, if_true]
        rfl)]
      rfl
  | false =>
      have skip : (insertSection message (notices.users service) notices.completion).1 =
          false := by
        simp [insertSection, skipCompletion, insertMessage, flag, notPending]
      rcases take_added_completion
          (insertSection message (notices.users service) notices.completion).2 (some message)
          quiet.drained with ⟨next, user, added, rest, taken⟩
      rw [observed_cons rfl]
      simp only [skip]
      rw [observed_cons (by
        simp only [Notices.perform, Notices.proceed, Bool.false_eq_true, if_false,
          Function.update_self, added]
        rfl)]
      rw [observed_cons (by
        simp only [Notices.perform, Notices.takeCompletions, taken]
        rfl)]
      rfl

/-- A flag that is left behind is told apart: what `Unnoticed` asks of the drop is
necessary. -/
theorem flag_left_behind_noticed {service : Nat} {left right : Notices}
    (alike : Alike (fun _ => True) service true left right) (quiet : Quiet service left)
    (message : SlotMessage) :
    observed Notices.perform left (nextMessage service message) ≠
      observed Notices.perform right (nextMessage service message) := by
  rcases alike.users service with ⟨⟨event, same⟩, unset⟩
  rw [decide_eq_true rfl, Bool.and_true] at same unset
  have quiet' : Quiet service right := by
    rcases quiet with ⟨idle, vchi, room, drained, passed⟩
    rw [same] at vchi room passed
    rw [alike.completion] at drained passed
    exact ⟨alike.callback ▸ idle, vchi, room, drained, passed⟩
  have flagged : (left.users service).dequeuePending = true := by
    rw [same, Bool.or_true]
  rw [quiet.next_observed, quiet'.next_observed, flagged, unset rfl]
  simp

end RuspiroVchiq.Delivery
