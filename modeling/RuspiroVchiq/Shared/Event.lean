import RuspiroVchiq.Lib.LabelledRun

/-!
# Shared events

`vchiq/shared/event.rs`, one access to the shared words at a time. The side that owns an
event waits for it and runs the functions of `EventAccessor<LocalEvent>`, the other side
signals it with those of `EventAccessor<RemoteEvent>`; their accesses interleave in any
order. All functions take `&mut self`, so each side is in at most one of them, and a
suspended `wait` can only be polled again or dropped. The word with the address of the
VideoCore's own semaphore is not used by this code.
-/

namespace RuspiroVchiq.Shared

open RuspiroVchiq.Lib.LabelledRun

set_option autoImplicit false

/-- The next access of the owner. `idle` is outside of every call, `asleep` a poll that
has returned `Pending`. -/
inductive OwnerAt where
  | idle
  | start
  | arm
  | check
  | tryDown
  | disarm
  | clear
  | asleep
  | up
  deriving DecidableEq, Repr

/-- The next access of the side that signals. -/
inductive PeerAt where
  | idle
  | look
  | ring
  deriving DecidableEq, Repr

/-- The two shared words, the semaphore of the owner and where both sides are. -/
structure EventSystem where
  armed : UInt32
  fired : UInt32
  event : Option Nat
  owner : OwnerAt
  peer : PeerAt
  deriving DecidableEq, Repr

inductive Access where
  | wait
  | poll
  | arm
  | check
  | sleep
  | take
  | disarm
  | clear
  | dropped
  | signalLocal
  | up
  | fire
  | look
  | ring
  deriving DecidableEq, Repr

/-- An accessor for the words as the allocator left them. -/
def EventSystem.new (armed fired : UInt32) : EventSystem where
  armed := armed
  fired := fired
  event := none
  owner := .idle
  peer := .idle

/-- `init`. The word `fired` keeps what it was. -/
def EventSystem.init (sys : EventSystem) (event : Option Nat) : EventSystem :=
  { sys with
    armed := 0
    event :=
      match event with
      | some semaphore => some semaphore
      | none => sys.event }

/-- One access. `wait` arms the event before the first poll, `poll` is the first look at
`fired` and `check` the second one. A poll is over with `sleep` (`Pending`), or with
`disarm` or `clear` (`Ready`). Without a semaphore there is no access behind `check`:
the source panics there. -/
def EventSystem.access (sys : EventSystem) : Access → Option EventSystem
  | .wait => if sys.owner = .idle then some { sys with armed := 1, owner := .start } else none
  | .poll =>
      match sys.owner with
      | .idle | .start | .asleep =>
          some { sys with owner := if sys.fired = 0 then .arm else .clear }
      | _ => none
  | .arm => if sys.owner = .arm then some { sys with armed := 1, owner := .check } else none
  | .check =>
      if sys.owner = .check then
        some { sys with owner := if sys.fired = 0 then .tryDown else .clear }
      else none
  | .sleep =>
      if sys.owner = .tryDown ∧ sys.event = some 0 then some { sys with owner := .asleep }
      else none
  | .take =>
      match sys.owner, sys.event with
      | .tryDown, some (semaphore + 1) =>
          some { sys with event := some semaphore, owner := .disarm }
      | _, _ => none
  | .disarm =>
      if sys.owner = .disarm then some { sys with armed := 0, owner := .idle } else none
  | .clear => if sys.owner = .clear then some { sys with fired := 0, owner := .idle } else none
  | .dropped => if sys.owner = .asleep then some { sys with owner := .idle } else none
  | .signalLocal =>
      if sys.owner = .idle then some { sys with armed := 0, owner := .up } else none
  | .up =>
      if sys.owner = .up then
        some { sys with event := sys.event.map (· + 1), owner := .idle }
      else none
  | .fire => if sys.peer = .idle then some { sys with fired := 1, peer := .look } else none
  | .look =>
      if sys.peer = .look then
        some { sys with peer := if sys.armed = 0 then .idle else .ring }
      else none
  | .ring => if sys.peer = .ring then some { sys with peer := .idle } else none

def EventStep (before : EventSystem) (access : Access) (after : EventSystem) : Prop :=
  before.access access = some after

/-- Where the owner may begin a poll. -/
def OwnerAt.Between : OwnerAt → Prop
  | .idle | .start | .asleep => True
  | _ => False

/-- What one access does. -/
inductive Accessed (sys : EventSystem) : Access → EventSystem → Prop where
  | wait (here : sys.owner = .idle) : Accessed sys .wait { sys with armed := 1, owner := .start }
  | unfired (here : sys.owner.Between) (unset : sys.fired = 0) :
      Accessed sys .poll { sys with owner := .arm }
  | found (here : sys.owner.Between) (set : sys.fired ≠ 0) :
      Accessed sys .poll { sys with owner := .clear }
  | arm (here : sys.owner = .arm) : Accessed sys .arm { sys with armed := 1, owner := .check }
  | nothing (here : sys.owner = .check) (unset : sys.fired = 0) :
      Accessed sys .check { sys with owner := .tryDown }
  | meanwhile (here : sys.owner = .check) (set : sys.fired ≠ 0) :
      Accessed sys .check { sys with owner := .clear }
  | sleep (here : sys.owner = .tryDown) (lowered : sys.event = some 0) :
      Accessed sys .sleep { sys with owner := .asleep }
  | take {semaphore : Nat} (here : sys.owner = .tryDown)
      (raised : sys.event = some (semaphore + 1)) :
      Accessed sys .take { sys with event := some semaphore, owner := .disarm }
  | disarm (here : sys.owner = .disarm) :
      Accessed sys .disarm { sys with armed := 0, owner := .idle }
  | clear (here : sys.owner = .clear) :
      Accessed sys .clear { sys with fired := 0, owner := .idle }
  | dropped (here : sys.owner = .asleep) : Accessed sys .dropped { sys with owner := .idle }
  | signalLocal (here : sys.owner = .idle) :
      Accessed sys .signalLocal { sys with armed := 0, owner := .up }
  | up (here : sys.owner = .up) :
      Accessed sys .up { sys with event := sys.event.map (· + 1), owner := .idle }
  | fire (here : sys.peer = .idle) : Accessed sys .fire { sys with fired := 1, peer := .look }
  | unarmed (here : sys.peer = .look) (unset : sys.armed = 0) :
      Accessed sys .look { sys with peer := .idle }
  | waited (here : sys.peer = .look) (set : sys.armed ≠ 0) :
      Accessed sys .look { sys with peer := .ring }
  | ring (here : sys.peer = .ring) : Accessed sys .ring { sys with peer := .idle }

theorem poll_cases {sys next : EventSystem} (step : EventStep sys .poll next) :
    Accessed sys .poll next := by
  have begun : sys.owner.Between ∧
      next = { sys with owner := if sys.fired = 0 then .arm else .clear } := by
    unfold EventStep EventSystem.access at step
    cases here : sys.owner with
    | idle | start | asleep =>
        simp only [here, Option.some.injEq] at step
        exact ⟨trivial, step.symm⟩
    | arm | check | tryDown | disarm | clear | up => simp [here] at step
  rcases begun with ⟨here, rfl⟩
  by_cases unset : sys.fired = 0
  · rw [if_pos unset]
    exact .unfired here unset
  · rw [if_neg unset]
    exact .found here unset

theorem take_cases {sys next : EventSystem} (step : EventStep sys .take next) :
    Accessed sys .take next := by
  unfold EventStep EventSystem.access at step
  simp only at step
  split at step
  · rename_i semaphore here raised
    rw [← Option.some.inj step]
    exact .take here raised
  · simp at step

theorem access_cases {sys next : EventSystem} {access : Access}
    (step : EventStep sys access next) : Accessed sys access next := by
  cases access with
  | poll => exact poll_cases step
  | take => exact take_cases step
  | check =>
      simp only [EventStep, EventSystem.access, Option.ite_none_right_eq_some,
        Option.some.injEq] at step
      rcases step with ⟨here, rfl⟩
      by_cases unset : sys.fired = 0
      · rw [if_pos unset]
        exact .nothing here unset
      · rw [if_neg unset]
        exact .meanwhile here unset
  | look =>
      simp only [EventStep, EventSystem.access, Option.ite_none_right_eq_some,
        Option.some.injEq] at step
      rcases step with ⟨here, rfl⟩
      by_cases unset : sys.armed = 0
      · rw [if_pos unset]
        exact .unarmed here unset
      · rw [if_neg unset]
        exact .waited here unset
  | sleep =>
      simp only [EventStep, EventSystem.access, Option.ite_none_right_eq_some,
        Option.some.injEq] at step
      rcases step with ⟨⟨here, lowered⟩, rfl⟩
      exact .sleep here lowered
  | wait | arm | disarm | clear | dropped | signalLocal | up | fire | ring =>
      simp only [EventStep, EventSystem.access, Option.ite_none_right_eq_some,
        Option.some.injEq] at step
      rcases step with ⟨here, rfl⟩
      constructor
      exact here

/-- Whether a signal is still to be answered: `fired` was written later than it was
cleared. -/
def outstanding (fired : UInt32) (accesses : List Access) : Bool :=
  accesses.foldl
    (fun pending access =>
      match access with
      | .fire => true
      | .clear => false
      | _ => pending)
    (fired != 0)

/-- Whether the doorbell was rung after the owner last looked at `fired` with the event
armed. -/
def rungSinceCheck (accesses : List Access) : Bool :=
  accesses.foldl
    (fun rung access =>
      match access with
      | .check => false
      | .ring => true
      | _ => rung)
    false

/-- The part of a poll in which the event is armed. -/
def OwnerAt.Armed : OwnerAt → Prop
  | .check | .tryDown | .asleep => True
  | _ => False

/-- Behind the second look at `fired`. -/
def OwnerAt.Checked : OwnerAt → Prop
  | .tryDown | .asleep => True
  | _ => False

/-- What the interleaved accesses keep. -/
structure EventInvariant (fired : UInt32) (accesses : List Access) (sys : EventSystem) :
    Prop where
  flag : outstanding fired accesses = (sys.fired != 0)
  clearing : sys.owner = .clear → sys.fired ≠ 0
  armed : sys.owner.Armed → sys.armed ≠ 0
  noticed : sys.owner.Checked → sys.fired ≠ 0 →
    sys.peer ≠ .idle ∨ rungSinceCheck accesses = true

/-- The words after one more access. -/
theorem outstanding_snoc (fired : UInt32) (accesses : List Access) (access : Access) :
    outstanding fired (accesses ++ [access]) =
      match access with
      | .fire => true
      | .clear => false
      | _ => outstanding fired accesses := by
  rw [outstanding, List.foldl_append]
  rfl

theorem rung_since_check_snoc (accesses : List Access) (access : Access) :
    rungSinceCheck (accesses ++ [access]) =
      match access with
      | .check => false
      | .ring => true
      | _ => rungSinceCheck accesses := by
  rw [rungSinceCheck, List.foldl_append]
  rfl

theorem event_invariant_initial (armed fired : UInt32) (event : Option Nat) :
    EventInvariant fired [] ((EventSystem.new armed fired).init event) where
  flag := rfl
  clearing := by
    intro here
    simp [EventSystem.init, EventSystem.new] at here
  armed := by
    intro here
    simp [EventSystem.init, EventSystem.new, OwnerAt.Armed] at here
  noticed := by
    intro here
    simp [EventSystem.init, EventSystem.new, OwnerAt.Checked] at here

section Step

variable {fired : UInt32} {accesses : List Access} {sys next : EventSystem} {access : Access}

theorem flag_step (flag : outstanding fired accesses = (sys.fired != 0))
    (step : Accessed sys access next) :
    outstanding fired (accesses ++ [access]) = (next.fired != 0) := by
  rw [outstanding_snoc]
  cases step with
  | fire => rfl
  | clear => rfl
  | wait | unfired | found | arm | nothing | meanwhile | sleep | take | disarm | dropped
  | signalLocal | up | unarmed | waited | ring => exact flag

/-- Only the owner clears the flag, so it is still set when it comes to that. -/
theorem clearing_step (clearing : sys.owner = .clear → sys.fired ≠ 0)
    (step : Accessed sys access next) : next.owner = .clear → next.fired ≠ 0 := by
  cases step with
  | found here set => exact fun _ => set
  | meanwhile here set => exact fun _ => set
  | fire => exact fun _ => by simp
  | unarmed | waited | ring => exact clearing
  | wait | unfired | arm | nothing | sleep | take | disarm | clear | dropped | signalLocal | up =>
      intro here
      simp at here

theorem Checked.armed {owner : OwnerAt} (checked : owner.Checked) : owner.Armed := by
  cases owner <;> first | exact checked | trivial

/-- Only the owner disarms, and not while it looks. -/
theorem armed_step (armed : sys.owner.Armed → sys.armed ≠ 0)
    (step : Accessed sys access next) : next.owner.Armed → next.armed ≠ 0 := by
  cases step with
  | arm => exact fun _ => by simp
  | nothing here => exact fun _ => armed (by rw [here]; trivial)
  | sleep here => exact fun _ => armed (by rw [here]; trivial)
  | fire | unarmed | waited | ring => exact armed
  | wait | unfired | found | meanwhile | take | disarm | clear | dropped | signalLocal | up =>
      exact False.elim

/-- A signal that comes after the second look finds the event armed. -/
theorem noticed_step (armed : sys.owner.Armed → sys.armed ≠ 0)
    (noticed : sys.owner.Checked → sys.fired ≠ 0 →
      sys.peer ≠ .idle ∨ rungSinceCheck accesses = true)
    (step : Accessed sys access next) :
    next.owner.Checked → next.fired ≠ 0 →
      next.peer ≠ .idle ∨ rungSinceCheck (accesses ++ [access]) = true := by
  rw [rung_since_check_snoc]
  cases step with
  | nothing here unset => exact fun _ set => absurd unset set
  | sleep here => exact fun _ set => noticed (by rw [here]; trivial) set
  | fire => exact fun _ _ => .inl (by simp)
  | unarmed here unset => exact fun checked _ => absurd unset (armed (Checked.armed checked))
  | waited => exact fun _ _ => .inl (by simp)
  | ring => exact fun _ _ => .inr rfl
  | wait | unfired | found | arm | meanwhile | take | disarm | clear | dropped | signalLocal
  | up => exact False.elim

theorem event_invariant_step (inv : EventInvariant fired accesses sys)
    (step : EventStep sys access next) :
    EventInvariant fired (accesses ++ [access]) next where
  flag := flag_step inv.flag (access_cases step)
  clearing := clearing_step inv.clearing (access_cases step)
  armed := armed_step inv.armed (access_cases step)
  noticed := noticed_step inv.armed inv.noticed (access_cases step)

end Step

theorem event_run {armed fired : UInt32} {event : Option Nat} {accesses : List Access}
    {sys : EventSystem}
    (run : Run EventStep ((EventSystem.new armed fired).init event) accesses sys) :
    EventInvariant fired accesses sys :=
  run.invariant (EventInvariant fired) (event_invariant_initial armed fired event)
    fun _ _ _ _ _ inv step => event_invariant_step inv step

/-- A flag as a number. -/
def flagged (flag : Prop) [Decidable flag] : Nat := if flag then 1 else 0

/-- The counts of signals, wake-ups and doorbells, for an event that started with the given
flag and semaphore. -/
structure EventAccounts (fired : UInt32) (raised : Nat) (accesses : List Access)
    (sys : EventSystem) : Prop where
  signals : accesses.count .clear + flagged (sys.fired ≠ 0) ≤
    accesses.count .fire + flagged (fired ≠ 0)
  semaphore : ∃ left, sys.event = some left ∧
    accesses.count .take + left = accesses.count .up + raised
  taken : accesses.count .take = accesses.count .disarm + flagged (sys.owner = .disarm)
  rings : accesses.count .ring + flagged (sys.peer ≠ .idle) ≤ accesses.count .fire

section Accounts

variable {fired : UInt32} {raised : Nat} {accesses : List Access} {sys next : EventSystem}
  {access : Access}

theorem signals_step (clearing : sys.owner = .clear → sys.fired ≠ 0)
    (signals : accesses.count .clear + flagged (sys.fired ≠ 0) ≤
      accesses.count .fire + flagged (fired ≠ 0))
    (step : Accessed sys access next) :
    (accesses ++ [access]).count .clear + flagged (next.fired ≠ 0) ≤
      (accesses ++ [access]).count .fire + flagged (fired ≠ 0) := by
  rw [List.count_append, List.count_append]
  cases step with
  | fire =>
      have once : flagged (sys.fired ≠ 0) ≤ 1 := by
        unfold flagged
        split <;> omega
      simp [flagged] at signals ⊢
      omega
  | clear here =>
      rw [flagged, if_pos (clearing here)] at signals
      simp [flagged] at signals ⊢
      omega
  | wait | unfired | found | arm | nothing | meanwhile | sleep | take | disarm | dropped
  | signalLocal | up | unarmed | waited | ring => simpa using signals

theorem semaphore_step
    (semaphore : ∃ left, sys.event = some left ∧
      accesses.count .take + left = accesses.count .up + raised)
    (step : Accessed sys access next) :
    ∃ left, next.event = some left ∧
      (accesses ++ [access]).count .take + left = (accesses ++ [access]).count .up + raised := by
  rcases semaphore with ⟨left, present, balance⟩
  rw [List.count_append, List.count_append]
  cases step with
  | take here lowered =>
      rename_i semaphore
      have same : left = semaphore + 1 := Option.some.inj (present.symm.trans lowered)
      refine ⟨semaphore, rfl, ?_⟩
      simp
      omega
  | up here =>
      refine ⟨left + 1, by simp [present], ?_⟩
      simp
      omega
  | wait | unfired | found | arm | nothing | meanwhile | sleep | disarm | clear | dropped
  | signalLocal | fire | unarmed | waited | ring => exact ⟨left, present, by simpa using balance⟩

theorem taken_step
    (taken : accesses.count .take = accesses.count .disarm + flagged (sys.owner = .disarm))
    (step : Accessed sys access next) :
    (accesses ++ [access]).count .take =
      (accesses ++ [access]).count .disarm + flagged (next.owner = .disarm) := by
  rw [List.count_append, List.count_append]
  cases step with
  | fire | unarmed | waited | ring => simpa using taken
  | unfired here | found here =>
      have elsewhere : sys.owner ≠ .disarm := by
        intro same
        rw [same] at here
        exact here
      rw [flagged, if_neg elsewhere] at taken
      simpa [flagged] using taken
  | wait here | arm here | nothing here | meanwhile here | sleep here | take here | disarm here
  | clear here | dropped here | signalLocal here | up here =>
      rw [here] at taken
      simpa [flagged] using taken

theorem rings_step
    (rings : accesses.count .ring + flagged (sys.peer ≠ .idle) ≤ accesses.count .fire)
    (step : Accessed sys access next) :
    (accesses ++ [access]).count .ring + flagged (next.peer ≠ .idle) ≤
      (accesses ++ [access]).count .fire := by
  rw [List.count_append, List.count_append]
  cases step with
  | fire here | unarmed here | waited here | ring here =>
      rw [here] at rings
      simp [flagged] at rings ⊢
      omega
  | wait | unfired | found | arm | nothing | meanwhile | sleep | take | disarm | clear | dropped
  | signalLocal | up => simpa using rings

end Accounts

theorem event_accounts {armed fired : UInt32} {raised : Nat} {accesses : List Access}
    {sys : EventSystem}
    (run : Run EventStep ((EventSystem.new armed fired).init (some raised)) accesses sys) :
    EventAccounts fired raised accesses sys := by
  apply run.invariant (EventAccounts fired raised)
  · exact ⟨Nat.le_refl _,
      ⟨raised, rfl, by simp⟩, rfl, by simp [EventSystem.init, EventSystem.new, flagged]⟩
  · intro accesses before access after earlier accounts step
    exact ⟨signals_step (event_run earlier).clearing accounts.signals (access_cases step),
      semaphore_step accounts.semaphore (access_cases step),
      taken_step accounts.taken (access_cases step),
      rings_step accounts.rings (access_cases step)⟩

/-- In every interleaving, from any content of the shared words, for an event whose owner
has a semaphore: a poll that begins with a signal to be answered finds it, whatever the
other side does meanwhile; a poll that has returned `Pending` is not left alone with a
signal, the doorbell has been rung since its last look at the flag or is about to be
rung; and the wait never comes to the panic for an event without semaphore. -/
theorem signals_reach_owner {armed fired : UInt32} {raised : Nat} {accesses : List Access}
    {sys : EventSystem}
    (run : Run EventStep ((EventSystem.new armed fired).init (some raised)) accesses sys) :
    (∀ next, outstanding fired accesses = true → EventStep sys .poll next →
        next.owner = .clear) ∧
      (sys.owner = .asleep → outstanding fired accesses = true →
        rungSinceCheck accesses = true ∨ sys.peer = .ring ∨
          (sys.peer = .look ∧ sys.armed ≠ 0)) ∧
      (sys.owner = .tryDown →
        ∃ access next, EventStep sys access next ∧ (access = .sleep ∨ access = .take)) := by
  have inv := event_run run
  rcases (event_accounts run).semaphore with ⟨left, present, _⟩
  refine ⟨?_, ?_, ?_⟩
  · intro next pending step
    have set : sys.fired ≠ 0 := by simpa [inv.flag] using pending
    cases access_cases step with
    | unfired here unset => exact absurd unset set
    | found => rfl
  · intro asleep pending
    have set : sys.fired ≠ 0 := by simpa [inv.flag] using pending
    have isArmed := inv.armed (by rw [asleep]; trivial)
    rcases inv.noticed (by rw [asleep]; trivial) set with busy | rung
    · cases at_ : sys.peer with
      | idle => exact absurd at_ busy
      | look => exact .inr (.inr ⟨rfl, isArmed⟩)
      | ring => exact .inr (.inl rfl)
    · exact .inl rung
  · intro here
    cases left with
    | zero => exact ⟨.sleep, _, if_pos ⟨here, present⟩, .inl rfl⟩
    | succ left =>
        refine ⟨.take, { sys with event := some left, owner := .disarm }, ?_, .inr rfl⟩
        simp only [EventStep, EventSystem.access, here, present]

/-- A signal between the second look and the return of the poll. -/
def lateSignal : List Access := [.wait, .poll, .arm, .check, .fire, .sleep, .look]

theorem late_signal_reaches_owner :
    ∃ sys, Run EventStep ((EventSystem.new 0 0).init (some 0)) lateSignal sys ∧
      sys.owner = .asleep ∧ sys.peer = .ring ∧
      (rungSinceCheck lateSignal = true ∨ sys.peer = .ring ∨
        (sys.peer = .look ∧ sys.armed ≠ 0)) := by
  have run := run_of_fold lateSignal .refl
    (show lateSignal.foldlM EventSystem.access ((EventSystem.new 0 0).init (some 0)) = _ from rfl)
  exact ⟨_, run, rfl, rfl, (signals_reach_owner run).2.1 rfl rfl⟩

/-- In every interleaving the completed waits are paid for: one of them for each signal
from the other side, one for each raise of the semaphore and, as `init` does not clear the
flag, at most one for the content the words started with. The doorbell is rung at most
once for each signal. -/
theorem waits_are_caused {armed fired : UInt32} {raised : Nat} {accesses : List Access}
    {sys : EventSystem}
    (run : Run EventStep ((EventSystem.new armed fired).init (some raised)) accesses sys) :
    accesses.count .clear + accesses.count .disarm ≤
        accesses.count .fire + flagged (fired ≠ 0) + accesses.count .up + raised ∧
      accesses.count .ring ≤ accesses.count .fire := by
  have accounts := event_accounts run
  rcases accounts.semaphore with ⟨left, _, balance⟩
  have signals := accounts.signals
  have taken := accounts.taken
  have rings := accounts.rings
  constructor
  · omega
  · omega

/-- The same signal up to its answer. -/
def answeredSignal : List Access :=
  [.wait, .poll, .arm, .check, .fire, .sleep, .look, .ring, .poll, .clear]

theorem answered_signal_is_caused :
    ∃ sys, Run EventStep ((EventSystem.new 0 0).init (some 0)) answeredSignal sys ∧
      answeredSignal.count .clear = 1 ∧
      answeredSignal.count .clear + answeredSignal.count .disarm ≤
        answeredSignal.count .fire + flagged ((0 : UInt32) ≠ 0) + answeredSignal.count .up + 0 := by
  have run := run_of_fold answeredSignal .refl
    (show answeredSignal.foldlM EventSystem.access ((EventSystem.new 0 0).init (some 0)) = _
      from rfl)
  exact ⟨_, run, rfl, (waits_are_caused run).1⟩

end RuspiroVchiq.Shared
