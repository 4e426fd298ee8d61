import RuspiroVchiq.Vchi.OpenAnswer
import RuspiroVchiq.Vchi.Services
import RuspiroVchiq.Vchiq.CloseSections

/-!
# The semaphore of a service

`service_open` and `service_close` wait on the same semaphore of a service. It is
raised with every change into the states OPEN, CLOSEWAIT and FREE, so a count that
nobody took could end a later wait too early, and one that was taken twice would
leave a call waiting for good. `Balanced` says how far it is raised in every run.
-/

namespace RuspiroVchiq.Vchi

open RuspiroVchiq.Config
open RuspiroVchiq.Shared
open RuspiroVchiq.Vchiq
open RuspiroVchiq.Lib.LabelledRun
open RuspiroVchiq.Lib.ByteMemory

set_option autoImplicit false

/-- How often a change of state raises the semaphore. -/
def raises (old new : ServiceState) : Nat :=
  if old ≠ new ∧ (new = .open ∨ new = .closeWait ∨ new = .free) then 1 else 0

theorem raises_self (srvstate : ServiceState) : raises srvstate srvstate = 0 := by
  simp [raises]

/-- What a step may do to the standing of an entry while no wait on it ends. -/
inductive Metered : Option (ServiceState × Nat) → Option (ServiceState × Nat) → Prop where
  | vacant : Metered none none
  | entered : Metered none (some (.opening, 0))
  | moved (old new : ServiceState) (count : Nat) :
      Metered (some (old, count)) (some (new, count + raises old new))

def MeteredTable (before after : State) : Prop :=
  ∀ port, Metered (before.standing port) (after.standing port)

theorem metered_refl (standing : Option (ServiceState × Nat)) : Metered standing standing := by
  cases standing with
  | none => exact .vacant
  | some standing =>
      have moved := Metered.moved standing.1 standing.1 standing.2
      rwa [raises_self] at moved

theorem metered_same {before after : State} (same : after.standing = before.standing) :
    MeteredTable before after := by
  intro port
  rw [same]
  exact metered_refl _

/-- One entry changes. -/
theorem metered_update {before after : State} {reference : ServiceRef}
    {changed : Option (ServiceState × Nat)}
    (updated : after.standing = Function.update before.standing reference changed)
    (entry : Metered (before.standing reference) changed) : MeteredTable before after := by
  intro port
  rw [updated]
  by_cases here : port = reference
  · subst here
    rw [Function.update_self]
    exact entry
  · rw [Function.update_of_ne here]
    exact metered_refl _

theorem metered_mapped {standing : Option (ServiceState × Nat)}
    {advance : ServiceState × Nat → ServiceState × Nat}
    (counts : ∀ entry, (advance entry).2 = entry.2 + raises entry.1 (advance entry).1) :
    Metered standing (standing.map advance) := by
  cases standing with
  | none => exact .vacant
  | some entry =>
      have moved := Metered.moved entry.1 (advance entry).1 entry.2
      rwa [← counts] at moved

/-- What a received message raises. -/
theorem raised_by_counts (message : SlotMessage) (entry : ServiceState × Nat) :
    (raisedBy (receivedStates message) entry).2 =
      entry.2 + raises entry.1 (raisedBy (receivedStates message) entry).1 := by
  obtain ⟨srvstate, count⟩ := entry
  unfold raisedBy receivedStates
  cases msgTypeFromId message.header.msgid with
  | none => simp [raises]
  | some kind =>
      cases kind <;> cases srvstate <;> simp [raises]

theorem dispatch_metered {inst next : Instance} {message : SlotMessage}
    (handled : dispatch inst message = .ok next) : MeteredTable inst.state next.state := by
  apply metered_update (dispatch_standing handled)
  exact metered_mapped (raised_by_counts message)

theorem begin_connect_metered {inst next : Instance} {sent : Option Outgoing}
    (polled : inst.beginConnect = (.ok sent, next)) : MeteredTable inst.state next.state := by
  apply metered_same
  unfold Instance.beginConnect at polled
  split_ifs at polled
  · simp at polled
  · split at polled
    · cases queued : inst.send none connectCall with
      | mk result after =>
          have same := send_standing (.inl rfl) queued
          cases result with
          | error stop => simp [queued] at polled
          | ok message =>
              simp only [queued, Prod.mk.injEq, Except.ok.injEq] at polled
              rw [← polled.2]
              exact same
    · simp only [Prod.mk.injEq] at polled
      rw [polled.2]
  · simp at polled

theorem create_service_metered {inst next : Instance} {setup : ServiceSetup}
    {handle srvHandle : ServiceHandle} {sent : Option Outgoing}
    (registered : Registered inst srvHandle)
    (polled : inst.createService setup handle srvHandle = (.ok sent, next)) :
    MeteredTable inst.state next.state := by
  unfold Instance.createService at polled
  split_ifs at polled
  · cases addition : inst.state.addService (setup.params handle) srvHandle with
    | error stop => simp [addition] at polled
    | ok state =>
        simp only [addition] at polled
        rcases add_service_cases addition with ⟨index, chosen, within, rfl⟩
        have vacant : inst.state.srvState.service index = none :=
          Option.map_eq_none_iff.mp (free_index_empty registered chosen).2
        -- the OPEN itself moves no service
        have sending : next.state.standing =
            (inst.state.entered (setup.params handle) srvHandle index).standing := by
          unfold Instance.beginOpen at polled
          split at polled
          · simp at polled
          · exact send_standing (.inl rfl) polled
        intro port
        rw [sending]
        by_cases here : port = index
        · subst here
          have new : (inst.state.entered (setup.params handle) srvHandle port).standing port =
              some (.opening, 0) := standing_some (entered_here _ _ _ within)
          have old : inst.state.standing port = none := by
            rw [State.standing, vacant, Option.map_none]
          rw [new, old]
          exact .entered
        · have elsewhere : (inst.state.entered (setup.params handle) srvHandle index).standing
              port = inst.state.standing port := by
            rw [State.standing, entered_elsewhere _ _ _ here, State.standing]
          rw [elsewhere]
          exact metered_refl _
  · simp at polled

/-- The CLOSE of a service that is not closed yet. -/
theorem close_sent_metered {inst next : Instance} {reference : ServiceRef} {service : Service}
    {sent : Option Outgoing} (port : service.localport.toNat < vchiqMaxServices)
    (polled : (inst.updateService reference Service.markClosing).send (some reference)
      (closeCall reference service) = (.ok sent, next)) :
    MeteredTable inst.state next.state := by
  have updated := send_close_standing (close_call_type reference port) polled
  have marked : (inst.updateService reference Service.markClosing).state.standing =
      inst.state.standing := mark_closing_standing inst.state reference
  rw [marked] at updated
  apply metered_update updated
  apply metered_mapped
  intro entry
  simp [raises]

theorem begin_close_metered {inst next : Instance} {bound srvHandle : ServiceHandle}
    {sent : Option Outgoing} (registered : Registered inst bound)
    (polled : inst.beginClose srvHandle = (.ok sent, next)) :
    MeteredTable inst.state next.state := by
  unfold Instance.beginClose at polled
  cases lookup : inst.state.serviceOf srvHandle with
  | none => simp [lookup] at polled
  | some target =>
      rcases target with ⟨reference, service⟩
      have stored := (service_of_some lookup).1
      have port := registered.port_lt stored
      have release : service.srvstate = .closed ∨ service.srvstate = .closeWait →
          MeteredTable inst.state ((inst.updateService reference
            Service.markClosing).updateService reference Service.free).state := by
        intro closable
        apply metered_update (released_standing stored closable)
        have old : inst.state.standing reference =
            some (service.srvstate, service.removeEvent) := standing_some stored
        have gain : raises service.srvstate .free = 1 := by
          rcases closable with closed | closeWait
          · simp [raises, closed]
          · simp [raises, closeWait]
        rw [old, ← gain]
        exact .moved _ _ _
      simp only [lookup] at polled
      cases srvstate : service.srvstate with
      | closed =>
          simp only [srvstate, Prod.mk.injEq] at polled
          rw [← polled.2]
          exact release (.inl srvstate)
      | closeWait =>
          simp only [srvstate, Prod.mk.injEq] at polled
          rw [← polled.2]
          exact release (.inr srvstate)
      | opening =>
          simp only [srvstate] at polled
          exact close_sent_metered port polled
      | openSync | «open» =>
          simp only [srvstate, Instance.sendClose] at polled
          split at polled
          · rename_i error after sending
            -- queueing a CLOSE is never refused
            have isData := (send_refused sending).2.2.2
            rw [close_call_type reference port] at isData
            simp at isData
          · simp at polled
          · rename_i message after sending
            simp only [Prod.mk.injEq] at polled
            rw [← polled.2]
            have metered := close_sent_metered port sending
            have again : (after.updateService reference
                fun service => service.setState .closeSent).state.standing =
                  after.state.standing := by
              have updated := send_close_standing (close_call_type reference port) sending
              have second := @standing_update after.state reference
                (fun service => service.setState .closeSent)
                (fun standing => (.closeSent, standing.2)) fun _ => rfl
              rw [show (after.updateService reference
                fun service => service.setState .closeSent).state.standing = _ from second]
              rw [updated, Function.update_self, Option.map_map, Function.update_idem]
              rfl
            intro other
            rw [again]
            exact metered other
      | _ => simp [srvstate] at polled

/-- The count of the semaphore of an entry. -/
def raisedAt (state : State) (port : ServiceRef) : Nat :=
  match state.standing port with
  | none => 0
  | some standing => standing.2

theorem standing_of_endpoint {state : State} {port : ServiceRef} {endpoint : Endpoint}
    (present : state.endpoints port = some endpoint) :
    state.standing port = some (endpoint.srvstate, raisedAt state port) := by
  rcases endpoints_of_some present with ⟨service, stored, rfl⟩
  have standing := standing_some stored
  rw [raisedAt, standing]
  rfl

theorem metered_raised {before after : State} (metered : MeteredTable before after)
    {port : ServiceRef} {old new : Endpoint} (was : before.endpoints port = some old)
    (now : after.endpoints port = some new) :
    raisedAt after port = raisedAt before port + raises old.srvstate new.srvstate := by
  have entry := metered port
  rw [standing_of_endpoint was, standing_of_endpoint now] at entry
  generalize raisedAt after port = count at entry ⊢
  cases entry with
  | moved => rfl

theorem metered_entered {before after : State} (metered : MeteredTable before after)
    {port : ServiceRef} (was : before.endpoints port = none) : raisedAt after port = 0 := by
  have vacant : before.standing port = none := by
    rw [State.standing, Option.map_eq_none_iff]
    exact Option.map_eq_none_iff.mp was
  have entry := metered port
  rw [vacant] at entry
  unfold raisedAt
  generalize after.standing port = standing at entry ⊢
  cases entry with
  | vacant => rfl
  | entered => rfl

/-- Who may name a service: one handle of the map at most, and none while it is being
opened. -/
structure NamedOnce (protocol : Protocol) : Prop where
  given : ∀ handle srvHandle, protocol.pending = .serviceClose handle srvHandle →
    protocol.services handle = some srvHandle
  single : ∀ handle other srvHandle, protocol.services handle = some srvHandle →
    protocol.services other = some srvHandle → handle = other
  withheld : ∀ handle srvHandle other, protocol.pending = .serviceOpen handle srvHandle →
    protocol.services other ≠ some srvHandle

theorem NamedOnce.congr {before after : Protocol} (named : NamedOnce before)
    (services : after.services = before.services) (pending : after.pending = before.pending) :
    NamedOnce after := by
  constructor
  · rw [services, pending]
    exact named.given
  · rw [services]
    exact named.single
  · rw [services, pending]
    exact named.withheld

/-- Another call begins to wait, or none. -/
theorem NamedOnce.waits {before after : Protocol} (named : NamedOnce before)
    (services : after.services = before.services)
    (given : ∀ handle srvHandle, after.pending = .serviceClose handle srvHandle →
      before.services handle = some srvHandle)
    (withheld : ∀ handle srvHandle other, after.pending = .serviceOpen handle srvHandle →
      before.services other ≠ some srvHandle) : NamedOnce after := by
  constructor
  · rw [services]
    exact given
  · rw [services]
    exact named.single
  · rw [services]
    exact withheld

theorem named_once_step {before after : Protocol} {action : Action}
    (registry : RegistryInvariant before) (named : NamedOnce before)
    (move : ProtocolStep before action after) : NamedOnce after := by
  cases move with
  | quiet _ => exact named
  | dataSent _ _ _ _ => exact named
  | greeted _ => exact named.congr rfl rfl
  | passed _ _ => exact named
  | acknowledged _ _ _ => exact named.congr rfl rfl
  | closed _ _ _ => exact named.congr rfl rfl
  | abandoned _ | connectSent _ | connectJoined _ | connectFinished _ _ _ | connectPassed _ _ =>
      refine named.waits rfl ?_ ?_ <;> simp
  | @openSent setup opened fresh port message _ _ _ unknown _ =>
      refine named.waits rfl ?_ ?_
      · simp
      · intro handle srvHandle other pending known
        simp only [PendingCall.serviceOpen.injEq] at pending
        rcases registry.mapped other srvHandle known with ⟨place, endpoint, has, _⟩
        exact unknown place endpoint has.1 (has.2.trans pending.2.symm)
  | @openFinished opened fresh port endpoint waiting _ _ =>
      constructor
      · simp
      · intro handle other srvHandle known also
        simp only [Function.update_apply] at known also
        split_ifs at known also with here there there
        · rw [here, there]
        · rw [Option.some.injEq] at known
          rw [← known] at also
          exact absurd also (named.withheld opened fresh other waiting)
        · rw [Option.some.injEq] at also
          rw [← also] at known
          exact absurd known (named.withheld opened fresh handle waiting)
        · exact named.single handle other srvHandle known also
      · simp
  | @closeSent closed closedHandle port endpoint message known _ _ _ =>
      refine named.waits rfl ?_ ?_
      · intro handle srvHandle pending
        simp only [PendingCall.serviceClose.injEq] at pending
        rw [← pending.1, ← pending.2]
        exact known
      · simp
  | @closeReleased closed closedHandle port endpoint known _ _ =>
      refine named.waits rfl ?_ ?_
      · intro handle srvHandle pending
        simp only [PendingCall.serviceClose.injEq] at pending
        rw [← pending.1, ← pending.2]
        exact known
      · simp
  | @closeFinished closed closedHandle waiting =>
      constructor
      · simp
      · intro handle other srvHandle known also
        simp only [Function.update_apply] at known also
        split_ifs at known also
        exact named.single handle other srvHandle known also
      · simp

/-- How far the semaphore of a service is raised: a service the client has a handle of
owes the end of its close only, and one that is being opened its answer. -/
structure Balanced (protocol : Protocol) (raised : ServiceRef → Nat) : Prop where
  mapped : ∀ handle srvHandle port endpoint, protocol.services handle = some srvHandle →
    protocol.Has port endpoint srvHandle →
      raised port = if endpoint.srvstate = .free then 1 else 0
  awaited : ∀ handle srvHandle port endpoint, protocol.pending = .serviceOpen handle srvHandle →
    protocol.Has port endpoint srvHandle →
      raised port = if endpoint.srvstate = .opening then 0 else 1

/-- How a step that ends no wait changes the counts. -/
structure Counted (before after : Protocol) (raised raisedAfter : ServiceRef → Nat) : Prop where
  moved : ∀ port old new, before.endpoints port = some old → after.endpoints port = some new →
    raisedAfter port = raised port + raises old.srvstate new.srvstate
  entered : ∀ port, before.endpoints port = none → raisedAfter port = 0

section Counts

variable {before after : Protocol} {raised raisedAfter : ServiceRef → Nat}

/-- No endpoint changes. -/
theorem Balanced.same (balanced : Balanced before raised)
    (counted : Counted before after raised raisedAfter)
    (endpoints : after.endpoints = before.endpoints) (services : after.services = before.services)
    (pending : ∀ handle srvHandle, after.pending = .serviceOpen handle srvHandle →
      before.pending = .serviceOpen handle srvHandle) : Balanced after raisedAfter := by
  have count : ∀ port endpoint srvHandle, after.Has port endpoint srvHandle →
      before.Has port endpoint srvHandle ∧ raisedAfter port = raised port := by
    intro port endpoint srvHandle has
    have was : before.endpoints port = some endpoint := by
      rw [← endpoints]
      exact has.1
    have moved := counted.moved port endpoint endpoint was has.1
    rw [raises_self] at moved
    exact ⟨⟨was, has.2⟩, moved⟩
  constructor
  · intro handle srvHandle port endpoint known has
    rw [services] at known
    rcases count port endpoint srvHandle has with ⟨old, kept⟩
    rw [kept]
    exact balanced.mapped handle srvHandle port endpoint known old
  · intro handle srvHandle port endpoint waiting has
    rcases count port endpoint srvHandle has with ⟨old, kept⟩
    rw [kept]
    exact balanced.awaited handle srvHandle port endpoint (pending _ _ waiting) old

/-- One endpoint changes in place. -/
theorem Balanced.set {port : ServiceRef} {endpoint changed : Endpoint}
    (balanced : Balanced before raised) (registry : RegistryInvariant before)
    (counted : Counted before after raised raisedAfter)
    (present : before.endpoints port = some endpoint)
    (endpoints : after.endpoints = (before.set port changed).endpoints)
    (services : after.services = before.services)
    (identity : changed.identity = endpoint.identity)
    (mapped : endpoint.srvstate ≠ .opening →
      (if endpoint.srvstate = .free then 1 else 0) + raises endpoint.srvstate changed.srvstate =
        if changed.srvstate = .free then 1 else 0)
    (awaited : ∀ handle srvHandle, after.pending = .serviceOpen handle srvHandle →
      before.pending = .serviceOpen handle srvHandle ∧
        (before.Has port endpoint srvHandle →
          (if endpoint.srvstate = .opening then 0 else 1) +
            raises endpoint.srvstate changed.srvstate =
              if changed.srvstate = .opening then 0 else 1)) : Balanced after raisedAfter := by
  have count : ∀ other found srvHandle, after.Has other found srvHandle →
      (other = port ∧ found = changed ∧ before.Has port endpoint srvHandle ∧
        raisedAfter port = raised port + raises endpoint.srvstate changed.srvstate) ∨
      (before.Has other found srvHandle ∧ raisedAfter other = raised other) := by
    intro other found srvHandle has
    have inSet : (before.set port changed).Has other found srvHandle := by
      refine ⟨?_, has.2⟩
      rw [← endpoints]
      exact has.1
    rcases has_set present identity inSet with ⟨rfl, rfl, old⟩ | ⟨_, old⟩
    · exact .inl ⟨rfl, rfl, old, counted.moved _ _ _ present has.1⟩
    · have moved := counted.moved other found found old.1 has.1
      rw [raises_self] at moved
      exact .inr ⟨old, moved⟩
  constructor
  · intro handle srvHandle other found known has
    rw [services] at known
    rcases count other found srvHandle has with ⟨rfl, rfl, old, moved⟩ | ⟨old, kept⟩
    · rw [moved, balanced.mapped handle srvHandle _ _ known old]
      exact mapped (registry.given_out known old)
    · rw [kept]
      exact balanced.mapped handle srvHandle other found known old
  · intro handle srvHandle other found waiting has
    rcases awaited handle srvHandle waiting with ⟨waited, step⟩
    rcases count other found srvHandle has with ⟨rfl, rfl, old, moved⟩ | ⟨old, kept⟩
    · rw [moved, balanced.awaited handle srvHandle _ _ waited old]
      exact step old
    · rw [kept]
      exact balanced.awaited handle srvHandle other found waited old

theorem Balanced.opened {handle srvHandle : ServiceHandle} {port : ServiceRef}
    (balanced : Balanced before raised) (registry : RegistryInvariant before)
    (counted : Counted before after raised raisedAfter)
    (vacant : before.endpoints port = none)
    (unknown : ∀ other endpoint, before.endpoints other = some endpoint →
      endpoint.handle ≠ srvHandle)
    (endpoints : after.endpoints = Function.update before.endpoints port
      (some (freshEndpoint port srvHandle (some handle))))
    (services : after.services = before.services)
    (pending : after.pending = .serviceOpen handle srvHandle) : Balanced after raisedAfter := by
  have count : ∀ other found, after.endpoints other = some found →
      (other = port ∧ found = freshEndpoint port srvHandle (some handle)) ∨
      (before.endpoints other = some found ∧ raisedAfter other = raised other) := by
    intro other found present
    have entry := present
    rw [endpoints] at entry
    rcases entry_cases entry with ⟨here, isFresh⟩ | ⟨_, old⟩
    · exact .inl ⟨here, isFresh⟩
    · have moved := counted.moved other found found old present
      rw [raises_self] at moved
      exact .inr ⟨old, moved⟩
  constructor
  · intro name named other found known has
    rw [services] at known
    rcases count other found has.1 with ⟨_, isFresh⟩ | ⟨old, kept⟩
    · -- no handle of the map names a service that did not exist
      rcases registry.mapped name named known with ⟨place, endpoint, placed, _⟩
      have isNew : named = srvHandle := by
        rw [← has.2, isFresh]
        rfl
      exact absurd (placed.2.trans isNew) (unknown place endpoint placed.1)
    · rw [kept]
      exact balanced.mapped name named other found known ⟨old, has.2⟩
  · intro name named other found waiting has
    rw [pending] at waiting
    simp only [PendingCall.serviceOpen.injEq] at waiting
    rcases count other found has.1 with ⟨rfl, rfl⟩ | ⟨old, _⟩
    · rw [counted.entered other vacant]
      rfl
    · exact absurd (has.2.trans waiting.2.symm) (unknown other found old)

theorem acknowledge_state (endpoint : Endpoint) (remotePort : UInt32) :
    (endpoint.acknowledge remotePort).srvstate =
      if endpoint.srvstate = .opening then .open else endpoint.srvstate := by
  unfold Endpoint.acknowledge
  split_ifs <;> rfl

theorem close_received_state (endpoint : Endpoint) :
    endpoint.closeReceived.srvstate =
      if endpoint.srvstate = .opening then .closeWait
      else if endpoint.srvstate = .closeSent then .free else endpoint.srvstate := by
  unfold Endpoint.closeReceived
  cases srvstate : endpoint.srvstate <;> simp

/-- A step that ends no wait. -/
theorem balanced_step {action : Action} (balanced : Balanced before raised)
    (registry : RegistryInvariant before) (waits : OpenWaits before)
    (counted : Counted before after raised raisedAfter) (move : ProtocolStep before action after)
    (plain : action ≠ .resumed) : Balanced after raisedAfter := by
  cases move with
  | quiet _ => exact balanced.same counted rfl rfl fun _ _ => id
  | dataSent _ _ _ _ => exact balanced.same counted rfl rfl fun _ _ => id
  | greeted _ => exact balanced.same counted rfl rfl fun _ _ => id
  | passed _ _ => exact balanced.same counted rfl rfl fun _ _ => id
  | abandoned _ | connectSent _ | connectJoined _ =>
      refine balanced.same counted rfl rfl ?_
      simp
  | connectFinished _ _ _ | connectPassed _ _ | openFinished _ _ _ | closeFinished _ =>
      exact absurd rfl plain
  | openSent _ vacant _ unknown _ =>
      exact balanced.opened registry counted vacant unknown rfl rfl rfl
  | @closeSent _ _ port endpoint _ _ closed begun _ =>
      refine balanced.set registry counted closed.1 rfl rfl rfl ?_ (by simp)
      intro _
      rcases begun with state | state | state <;> simp [state, Endpoint.sendClose, raises]
  | @closeReleased _ _ port endpoint _ closed ended =>
      refine balanced.set registry counted closed.1 rfl rfl rfl ?_ (by simp)
      intro _
      rcases ended with state | state <;> simp [state, Endpoint.release, raises]
  | @acknowledged message endpoint _ present _ =>
      refine balanced.set registry counted present rfl rfl (acknowledge_identity _ _) ?_ ?_
      · intro started
        rw [acknowledge_state, if_neg started, raises_self, Nat.add_zero]
      · intro handle srvHandle waiting
        refine ⟨waiting, fun _ => ?_⟩
        rw [acknowledge_state]
        by_cases opening : endpoint.srvstate = .opening
        · simp [opening, raises]
        · simp [opening, raises_self]
  | @closed message endpoint _ present _ =>
      refine balanced.set registry counted present rfl rfl (close_received_identity _) ?_ ?_
      · intro started
        rw [close_received_state]
        by_cases closeSent : endpoint.srvstate = .closeSent
        · simp [closeSent, raises]
        · simp [started, closeSent, raises_self]
      · intro handle srvHandle waiting
        refine ⟨waiting, fun has => ?_⟩
        rcases waits handle srvHandle waiting with ⟨place, found, placed, state⟩
        have here := registry.distinct _ _ _ _ srvHandle has placed
        subst here
        rw [← Option.some.inj (has.1.symm.trans placed.1)] at state
        rcases state with state | state | state <;>
          simp [close_received_state, state, raises]

end Counts

/-- The poll that ends a wait takes the semaphore down once. -/
structure Taken (before after : Instance) (srvHandle : ServiceHandle) (port : ServiceRef)
    (endpoint : Endpoint) : Prop where
  present : before.state.endpoints port = some endpoint
  handle : endpoint.handle = srvHandle
  positive : 0 < raisedAt before.state port
  lowered : raisedAt after.state port = raisedAt before.state port - 1
  elsewhere : ∀ other, other ≠ port → raisedAt after.state other = raisedAt before.state other
  endpoints : after.state.endpoints = before.state.endpoints

theorem await_taken {inst next : Instance} {srvHandle : ServiceHandle}
    {judge : ServiceHandle → ServiceState → Except VchiqError Unit}
    {result : Except VchiqError Unit}
    (polled : inst.awaitService srvHandle judge = some (result, next)) :
    ∃ port endpoint, Taken inst next srvHandle port endpoint ∧
      result = judge srvHandle endpoint.srvstate := by
  have effect := (await_service_some polled).1
  rcases await_standing polled with ⟨port, service, found, judged, standing⟩
  have stored := (service_of_some found).1
  have old : inst.state.standing port = some (service.srvstate, service.removeEvent) :=
    standing_some stored
  rw [old] at standing
  refine ⟨port, service.endpoint, ⟨endpoints_some stored, (service_of_some found).2, ?_, ?_, ?_,
    effect.endpoints⟩, judged⟩
  · unfold Instance.awaitService at polled
    simp only [found] at polled
    split_ifs at polled with raised
    rw [raisedAt, old]
    exact raised
  · rw [raisedAt, raisedAt, standing, Function.update_self, old]
    rfl
  · intro other differs
    rw [raisedAt, raisedAt, standing, Function.update_of_ne differs]

/-- A wait ends exactly if the semaphore of its service is raised. -/
theorem await_some_iff {sys : System} (registry : RegistryInvariant sys.protocol)
    {srvHandle : ServiceHandle} {port : ServiceRef} {endpoint : Endpoint}
    (has : sys.protocol.Has port endpoint srvHandle)
    (judge : ServiceHandle → ServiceState → Except VchiqError Unit) :
    (∃ polled, sys.inst.awaitService srvHandle judge = some polled) ↔
      0 < raisedAt sys.inst.state port := by
  rcases has with ⟨present, rfl⟩
  rcases endpoints_of_some present with ⟨service, stored, rfl⟩
  rcases service_from_handle_found stored with ⟨first, target, located, held, sameHandle⟩
  have found : sys.inst.state.serviceOf service.handle = some (first, target) := by
    simp only [State.serviceOf, located, held]
  have here : first = port := registry.distinct first port target.endpoint service.endpoint
    service.handle ⟨endpoints_some held, sameHandle⟩ ⟨endpoints_some stored, rfl⟩
  subst here
  have same : target = service := Option.some.inj (held.symm.trans stored)
  subst same
  have count : raisedAt sys.inst.state first = target.removeEvent := by
    rw [raisedAt, standing_some stored]
    rfl
  have handle : target.endpoint.handle = target.handle := rfl
  rw [count, handle]
  unfold Instance.awaitService
  rw [found]
  by_cases raised : 0 < target.removeEvent
  · simp [raised]
  · simp [raised]

/-- The later polls of the two calls, in terms of the wait. -/
theorem resume_open {sys : System} {handle srvHandle : ServiceHandle}
    (waiting : sys.pending = .serviceOpen handle srvHandle) :
    sys.resume = (sys.inst.awaitService srvHandle openResult).map fun polled =>
      { sys with
        inst := polled.2
        services :=
          match polled.1 with
          | .ok _ => Function.update sys.services handle (some srvHandle)
          | .error _ => sys.services
        pending := .idle } := by
  unfold System.resume
  rw [waiting]
  cases polled : sys.inst.awaitService srvHandle openResult with
  | none => simp [polled]
  | some ended =>
      rcases ended with ⟨result, inst⟩
      cases result <;> simp [polled]

theorem resume_close {sys : System} {handle srvHandle : ServiceHandle}
    (waiting : sys.pending = .serviceClose handle srvHandle) :
    sys.resume = (sys.inst.awaitService srvHandle closeResult).map fun polled =>
      { sys with
        inst := polled.2
        services :=
          match polled.1 with
          | .ok _ => Function.update sys.services handle none
          | .error _ => sys.services
        pending := .idle } := by
  unfold System.resume
  rw [waiting]
  cases polled : sys.inst.awaitService srvHandle closeResult with
  | none => simp [polled]
  | some ended =>
      rcases ended with ⟨result, inst⟩
      cases result <;> simp [polled]

section Resumed

variable {sys : System} {inst : Instance} {handle srvHandle : ServiceHandle}
  {port : ServiceRef} {endpoint : Endpoint}

/-- The wait of an open call ends with a service that is open or was refused. -/
theorem open_taken (registry : RegistryInvariant sys.protocol) (waits : OpenWaits sys.protocol)
    (balanced : Balanced sys.protocol (raisedAt sys.inst.state))
    (waiting : sys.pending = .serviceOpen handle srvHandle)
    (taken : Taken sys.inst inst srvHandle port endpoint) :
    (endpoint.srvstate = .open ∨ endpoint.srvstate = .closeWait) ∧
      raisedAt inst.state port = 0 := by
  have has : sys.protocol.Has port endpoint srvHandle := ⟨taken.present, taken.handle⟩
  have count := balanced.awaited handle srvHandle port endpoint waiting has
  have positive := taken.positive
  have started : endpoint.srvstate ≠ .opening := by
    intro opening
    rw [count, if_pos opening] at positive
    exact Nat.lt_irrefl 0 positive
  rw [if_neg started] at count
  refine ⟨?_, by rw [taken.lowered, count]⟩
  rcases waits handle srvHandle waiting with ⟨place, found, placed, state⟩
  have here := registry.distinct _ _ _ _ srvHandle has placed
  subst here
  rw [← Option.some.inj (has.1.symm.trans placed.1)] at state
  exact state.resolve_left started

/-- The wait of a close call ends with a service that is free. -/
theorem close_taken (named : NamedOnce sys.protocol)
    (balanced : Balanced sys.protocol (raisedAt sys.inst.state))
    (waiting : sys.pending = .serviceClose handle srvHandle)
    (taken : Taken sys.inst inst srvHandle port endpoint) : endpoint.srvstate = .free := by
  have count := balanced.mapped handle srvHandle port endpoint (named.given _ _ waiting)
    ⟨taken.present, taken.handle⟩
  have positive := taken.positive
  by_contra used
  rw [count, if_neg used] at positive
  exact Nat.lt_irrefl 0 positive

end Resumed

theorem finish_connect_standing {inst next : Instance} (polled : inst.finishConnect = some next) :
    next.state.standing = inst.state.standing := by
  apply standing_of_table
  unfold Instance.finishConnect at polled
  split at polled
  · split_ifs at polled
    rw [← Option.some.inj polled]
  · rw [← Option.some.inj polled]

theorem raised_same {before after : State} (same : after.standing = before.standing) :
    raisedAt after = raisedAt before := by
  funext port
  rw [raisedAt, raisedAt, same]

/-- A step that ends a wait. -/
theorem balanced_resumed {sys next : System} (registry : RegistryInvariant sys.protocol)
    (named : NamedOnce sys.protocol) (waits : OpenWaits sys.protocol)
    (balanced : Balanced sys.protocol (raisedAt sys.inst.state))
    (polled : sys.resume = some next) : Balanced next.protocol (raisedAt next.inst.state) := by
  cases waiting : sys.pending with
  | idle =>
      unfold System.resume at polled
      simp [waiting] at polled
  | connect =>
      unfold System.resume at polled
      simp only [waiting, Option.map_eq_some_iff] at polled
      rcases polled with ⟨inst, finished, rfl⟩
      rw [raised_same (finish_connect_standing finished)]
      have endpoints := (finish_connect_some finished).1.endpoints
      constructor
      · intro handle srvHandle port endpoint known has
        refine balanced.mapped handle srvHandle port endpoint known ⟨?_, has.2⟩
        exact (congrFun endpoints port).symm.trans has.1
      · simp [System.protocol]
  | serviceOpen handle srvHandle =>
      rw [resume_open waiting, Option.map_eq_some_iff] at polled
      rcases polled with ⟨⟨result, inst⟩, awaited, rfl⟩
      rcases await_taken awaited with ⟨port, endpoint, taken, judged⟩
      rcases open_taken registry waits balanced waiting taken with ⟨state, lowered⟩
      have accepted : result = .ok () := by
        rw [judged]
        rcases state with isOpen | closeWait
        · rw [isOpen]
          rfl
        · rw [closeWait]
          rfl
      subst accepted
      constructor
      · intro name other place found known has
        have entry : sys.inst.state.endpoints place = some found :=
          (congrFun taken.endpoints place).symm.trans has.1
        simp only [System.protocol, Function.update_apply] at known
        split_ifs at known with here
        · rw [Option.some.injEq] at known
          have samePlace := registry.distinct place port found endpoint srvHandle
            ⟨entry, has.2.trans known.symm⟩ ⟨taken.present, taken.handle⟩
          subst samePlace
          have same : found = endpoint := Option.some.inj (entry.symm.trans taken.present)
          subst same
          rw [lowered]
          rcases state with isOpen | closeWait
          · simp [isOpen]
          · simp [closeWait]
        · have differs : place ≠ port := by
            rintro rfl
            have same : found = endpoint := Option.some.inj (entry.symm.trans taken.present)
            rw [same] at has
            rw [← has.2, taken.handle] at known
            exact named.withheld handle srvHandle name waiting known
          rw [taken.elsewhere place differs]
          exact balanced.mapped name other place found known ⟨entry, has.2⟩
      · simp [System.protocol]
  | serviceClose handle srvHandle =>
      rw [resume_close waiting, Option.map_eq_some_iff] at polled
      rcases polled with ⟨⟨result, inst⟩, awaited, rfl⟩
      rcases await_taken awaited with ⟨port, endpoint, taken, judged⟩
      have freed := close_taken named balanced waiting taken
      have accepted : result = .ok () := by
        rw [judged, freed]
        rfl
      subst accepted
      constructor
      · intro name other place found known has
        have entry : sys.inst.state.endpoints place = some found :=
          (congrFun taken.endpoints place).symm.trans has.1
        simp only [System.protocol, Function.update_apply] at known
        split_ifs at known with here
        have differs : place ≠ port := by
          rintro rfl
          have same : found = endpoint := Option.some.inj (entry.symm.trans taken.present)
          rw [same] at has
          rw [← has.2, taken.handle] at known
          exact here (named.single name handle srvHandle known (named.given _ _ waiting))
        rw [taken.elsewhere place differs]
        exact balanced.mapped name other place found known ⟨entry, has.2⟩
      · simp [System.protocol]

theorem queue_data_metered {inst next : Instance} {bound srvHandle : ServiceHandle}
    {data : Payload} {result : Except Stop (Option Outgoing)} (registered : Registered inst bound)
    (polled : inst.queueMessage srvHandle data = (result, next)) :
    MeteredTable inst.state next.state := by
  apply metered_same
  unfold Instance.queueMessage at polled
  cases lookup : inst.state.serviceOf srvHandle with
  | none =>
      simp only [lookup, Prod.mk.injEq] at polled
      rw [← polled.2]
  | some target =>
      rcases target with ⟨reference, service⟩
      have stored := (service_of_some lookup).1
      simp only [lookup] at polled
      have isData : msgTypeFromId (dataCall reference service data).msgId = some .data :=
        msg_type_make_spill .data service.localport service.remoteport
          (registered.port_lt stored) (registered.remotes reference _ (endpoints_some stored))
      apply send_standing (.inr _) polled
      rw [isData]
      simp

theorem called_metered {sys next : System} {call : Call} {sent : Option Outgoing}
    (ready : sys.Ready) (polled : sys.call call = (.ok sent, next)) :
    MeteredTable sys.inst.state next.inst.state := by
  cases call with
  | initializeInstance =>
      simp only [System.call, Prod.mk.injEq] at polled
      rw [← polled.2]
      exact metered_same rfl
  | connect =>
      simp only [System.call] at polled
      split_ifs at polled
      · simp only [Prod.mk.injEq] at polled
        rw [← polled.2]
        exact metered_same rfl
      · rcases absorb_ok polled with ⟨inst, begun, rfl⟩
        exact begin_connect_metered begun
  | serviceOpen setup =>
      simp only [System.call] at polled
      split_ifs at polled
      · rcases absorb_ok polled with ⟨inst, created, rfl⟩
        exact create_service_metered ready created
      · rcases absorb_ok polled with ⟨inst, created, rfl⟩
        exact create_service_metered ready created
      · simp at polled
  | serviceClose handle =>
      simp only [System.call] at polled
      cases known : sys.services handle with
      | none => simp [known] at polled
      | some srvHandle =>
          simp only [known] at polled
          rcases absorb_ok polled with ⟨inst, begun, rfl⟩
          exact begin_close_metered ready begun
  | queueMessage handle data =>
      simp only [System.call] at polled
      cases known : sys.services handle with
      | none => simp [known] at polled
      | some srvHandle =>
          simp only [known] at polled
          rcases absorb_ok polled with ⟨inst, queued, rfl⟩
          exact queue_data_metered ready queued

theorem failed_metered {sys next : System} {call : Call} {error : BoxError}
    (ready : sys.Ready) (polled : sys.call call = (.error (.error error), next)) :
    MeteredTable sys.inst.state next.inst.state := by
  cases call with
  | initializeInstance => simp [System.call] at polled
  | connect =>
      simp only [System.call] at polled
      split_ifs at polled
      · simp at polled
      · rcases absorb_failed polled with ⟨failure, inst, failed, rfl⟩
        rw [begin_connect_failed failed]
        exact metered_same rfl
  | serviceOpen setup =>
      simp only [System.call] at polled
      split_ifs at polled
      · rcases absorb_failed polled with ⟨failure, inst, failed, rfl⟩
        rw [create_service_failed ready failed]
        exact metered_same rfl
      · rcases absorb_failed polled with ⟨failure, inst, failed, rfl⟩
        rw [create_service_failed ready failed]
        exact metered_same rfl
      · simp only [Prod.mk.injEq] at polled
        rw [← polled.2]
        exact metered_same rfl
  | serviceClose handle =>
      simp only [System.call] at polled
      cases known : sys.services handle with
      | none =>
          simp only [known, Prod.mk.injEq] at polled
          rw [← polled.2]
          exact metered_same rfl
      | some srvHandle =>
          simp only [known] at polled
          rcases absorb_failed polled with ⟨failure, inst, failed, rfl⟩
          rw [begin_close_failed ready failed]
          exact metered_same rfl
  | queueMessage handle data =>
      simp only [System.call] at polled
      cases known : sys.services handle with
      | none =>
          simp only [known, Prod.mk.injEq] at polled
          rw [← polled.2]
          exact metered_same rfl
      | some srvHandle =>
          simp only [known] at polled
          rcases absorb_failed polled with ⟨failure, inst, failed, rfl⟩
          exact queue_data_metered ready failed

theorem step_metered {sys next : System} {action : Action} (ready : sys.Ready)
    (move : SystemStep sys action next) (plain : action ≠ .resumed) :
    MeteredTable sys.inst.state next.inst.state := by
  cases move with
  | called _ polled => exact called_metered ready polled
  | failed _ polled => exact failed_metered ready polled
  | resumed _ => exact absurd rfl plain
  | dropped => exact metered_same rfl
  | received handled => exact dispatch_metered handled
  | dequeued polled =>
      rcases poll_dequeue_cases polled with ⟨service, user, _, _, rfl⟩
      exact metered_same (standing_update_same sys.inst.state _ fun _ => rfl)
  | completed _ _ _ => exact metered_same rfl
  | idled _ _ => exact metered_same rfl

theorem MeteredTable.counted {sys next : System}
    (metered : MeteredTable sys.inst.state next.inst.state) :
    Counted sys.protocol next.protocol (raisedAt sys.inst.state) (raisedAt next.inst.state) :=
  ⟨fun _ _ _ was now => metered_raised metered was now,
    fun _ was => metered_entered metered was⟩

/-- In every run the semaphores are raised as far as they should be. -/
theorem balanced_run {state : State} {actions : List Action} {reached : System}
    (facts : FreshState state)
    (run : Run SystemStep (System.new (freshInstance state)) actions reached) :
    NamedOnce reached.protocol ∧ Balanced reached.protocol (raisedAt reached.inst.state) := by
  apply run.invariant fun _ sys =>
    NamedOnce sys.protocol ∧ Balanced sys.protocol (raisedAt sys.inst.state)
  · rw [fresh_protocol facts]
    refine ⟨⟨?_, ?_, ?_⟩, ⟨?_, ?_⟩⟩ <;> simp [Protocol.initial]
  · intro actions before action after run inv move
    rcases run_simulated (fun _ _ => True) facts run.guarded with ⟨ready, abstractRun⟩
    have registry := (protocol_invariant_run abstractRun.unguarded).registry
    have waits := open_waits_run abstractRun.unguarded
    have step := (step_simulated ready move).2
    refine ⟨named_once_step registry inv.1 step, ?_⟩
    by_cases resumed : action = .resumed
    · subst resumed
      cases move with
      | resumed polled => exact balanced_resumed registry inv.1 waits inv.2 polled
    · exact balanced_step inv.2 registry waits (step_metered ready move resumed).counted step
        resumed

end RuspiroVchiq.Vchi
