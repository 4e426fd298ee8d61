import RuspiroVchiq.Vchi.Instance
import RuspiroVchiq.Vchiq.StateLocks

/-!
# The guards of a poll

For every poll of a task of the vchi instance the list of guards it takes and gives
back, in the vchi and in the VCHIQ layer, and when such a poll comes to its end on one
core. A list that ends at an await point leaves what the task holds there.
-/

namespace RuspiroVchiq.Vchi

open RuspiroVchiq.Config
open RuspiroVchiq.Shared
open RuspiroVchiq.Vchiq
open RuspiroVchiq.Lib.GuardPrograms

set_option autoImplicit false

/-- The locks of the two layers. Each vchi handle is kept in user data of its own, and
so is the user service of each VCHIQ service. -/
inductive ClientLock where
  | services
  | connected
  | completion
  | handleData (handle : ServiceHandle)
  | userData (reference : ServiceRef)
  | state (lock : StateLock)
  deriving DecidableEq, Repr

abbrev ClientOps := List (GuardOp ClientLock)

abbrev ClientGuards := List (ClientLock × Mode)

def onState (ops : StateOps) : ClientOps := ops.map (GuardOp.map .state)

/-- A guard that is dropped at once. -/
def brief (lock : ClientLock) (mode : Mode) : ClientOps := [.acquire lock mode, .release lock]

/-- The branches that depend on the data of a message: whether DATA is passed to the
callback, and what the callback finds. -/
structure MessagePath where
  msgType : MessageType
  accepted : Bool
  reference : ServiceRef
  full : Bool
  extra : Bool
  skipped : Bool

/-- `service_callback`. -/
def serviceCallbackOps (path : MessagePath) : ClientOps :=
  .acquire (.userData path.reference) .exclusive ::
    ((if path.full then
        brief .completion .shared ++ if path.extra then brief .completion .exclusive else []
      else []) ++
      brief .completion .shared ++
      if path.skipped then [] else brief .completion .exclusive) ++
    [.release (.userData path.reference)]

def messageOps (path : MessagePath) : ClientOps :=
  onState (handleMessageOps path.msgType path.accepted) ++
    if path.msgType = .data ∧ path.accepted then serviceCallbackOps path else []

def slotHandlerPoll (paths : List MessagePath) : ClientOps :=
  .attempt (.state .slot) .exclusive :: paths.flatMap messageOps ++ [.release (.state .slot)]

/-- What `completion_handler` does for one record. A record without user data is a
panic. -/
def recordOps (record : ServiceCompletion) : ClientOps :=
  match record.serviceUserdata with
  | none => []
  | some handle =>
      .acquire (.handleData handle) .shared :: brief .services .shared ++
        [.release (.handleData handle)]

def completionHandlerPoll : AwaitOutcome → ClientOps
  | .error _ => brief .connected .shared
  | .pending _ => brief .connected .shared ++ brief .completion .shared
  | .panic _ =>
      brief .connected .shared ++ (brief .completion .shared ++ brief .completion .exclusive)
  | .ready records _ =>
      brief .connected .shared ++ (brief .completion .shared ++ brief .completion .exclusive) ++
        records.flatMap recordOps

/-- `queue_message`; the flag tells whether the quota check lets the message pass. -/
def System.queueMessagePoll (sys : System) (handle : ServiceHandle) (admitted : Bool) :
    ClientOps :=
  .acquire .services .shared ::
    (match sys.services handle with
    | none => []
    | some srvHandle =>
        onState serviceLookupOps ++
          match sys.inst.state.serviceOf srvHandle with
          | none => []
          | some _ => onState (queueMessageOps .data admitted)) ++
    [.release .services]

/-- The readiness poll of `dequeue_message` and, with a message, the rest of the call. -/
def dequeueLookOps (reference : ServiceRef) (user : ServiceUser) : ClientOps :=
  brief (.userData reference) .exclusive ++
    if user.msgRemove = user.msgInsert then []
    else brief (.userData reference) .exclusive ++ [.release .services]

/-- The first poll of `dequeue_message`. -/
def System.dequeuePoll (sys : System) (handle : ServiceHandle) : ClientOps :=
  .acquire .services .exclusive ::
    match sys.services handle with
    | none => [.release .services]
    | some srvHandle =>
        onState serviceLookupOps ++
          match sys.inst.state.serviceOf srvHandle with
          | none => [.release .services]
          | some (reference, service) =>
              brief (.userData reference) .shared ++
                dequeueLookOps reference service.base.userdata

/-- The part of `close_service` behind the lookup. -/
def closeServiceOps (service : Service) : StateOps :=
  match service.srvstate with
  | .opening | .openSync | .open => queueMessageOps .close true
  | _ => []

/-- The first poll of a call that borrows the instance mutably. The flags tell whether
`add_service` finds an index and whether the call comes to its wait. -/
def System.exclusivePoll (sys : System) (found waits : Bool) : Call → ClientOps
  | .initializeInstance | .queueMessage _ _ => []
  | .connect =>
      if sys.connected then []
      else
        brief .connected .shared ++
          if sys.inst.connected = false ∧ sys.inst.state.initialized ∧
              sys.inst.state.connState = .disconnected then
            onState (queueMessageOps .connect true)
          else []
  | .serviceOpen _ =>
      if sys.initialized then
        brief .connected .shared ++
          if sys.inst.connected then
            onState (addServiceOps found) ++
              if found then
                onState serviceLookupOps ++ onState (queueMessageOps .open true) ++
                  onState serviceLookupOps
              else []
          else []
      else []
  | .serviceClose handle =>
      .acquire .services .shared ::
        (match sys.services handle with
        | none => []
        | some srvHandle =>
            onState serviceLookupOps ++
              match sys.inst.state.serviceOf srvHandle with
              | none => []
              | some (_, service) => onState (closeServiceOps service)) ++
        if waits then onState serviceLookupOps else [.release .services]

/-- The poll that ends the pending call; the flag tells whether it ends well. -/
def resumePoll (succeeds : Bool) : PendingCall → ClientOps
  | .idle => []
  | .connect => brief .connected .exclusive
  | .serviceOpen _ _ =>
      onState serviceLookupOps ++ if succeeds then brief .services .exclusive else []
  | .serviceClose _ _ =>
      onState serviceLookupOps ++ .release .services ::
        if succeeds then brief .services .exclusive else []

/-- None of the guards is one of the VCHIQ state. -/
def StateFree (others held : ClientGuards) : Prop :=
  ∀ lock mode, excludes (held ++ others) (.state lock) mode = false

theorem StateFree.cons {others held : ClientGuards} (free : StateFree others held)
    {lock : ClientLock} (elsewhere : ∀ inner, lock ≠ .state inner) (mode : Mode) :
    StateFree others ((lock, mode) :: held) := by
  intro inner mode'
  simp [elsewhere inner, free inner mode']

theorem service_lookup_passes {others held : ClientGuards}
    (free : ∀ mode, excludes (held ++ others) (.state .srv) mode = false) :
    Passes others held (onState serviceLookupOps) :=
  Passes.brief (free .shared)

theorem reserve_space_passes {others held : ClientGuards} (free : StateFree others held) :
    Passes others held (onState reserveSpaceOps) :=
  Passes.brief (free .slot .exclusive)

/-- A section under `slot_state` and `quota_state`. -/
theorem slot_quota_passes {others held : ClientGuards} (free : StateFree others held)
    (mode : Mode) :
    Passes others held (onState [.acquire .slot mode, .acquire .quota mode, .release .quota,
      .release .slot]) := by
  have inside : Passes others ((.state .slot, mode) :: held) (brief (.state .quota) mode) := by
    apply Passes.brief
    simp [free .quota mode]
  exact Passes.nest (free .slot mode) inside

theorem queue_message_passes {others held : ClientGuards} (free : StateFree others held)
    (msgType : MessageType) (admitted : Bool) :
    Passes others held (onState (queueMessageOps msgType admitted)) := by
  have check := slot_quota_passes free .shared
  have stored := (reserve_space_passes free).append (slot_quota_passes free .exclusive)
  unfold queueMessageOps
  split_ifs
  · exact check.append stored
  · exact check
  · exact stored

theorem add_service_passes {others held : ClientGuards} (free : StateFree others held)
    (found : Bool) : Passes others held (onState (addServiceOps found)) := by
  cases found with
  | false => exact Passes.brief (free .srv .exclusive)
  | true =>
      have slot : Passes others
          ((.state .quota, .exclusive) :: (.state .srv, .exclusive) :: held)
          (brief (.state .slot) .shared) := by
        apply Passes.brief
        simp [free .slot .shared]
      have quota : excludes ((.state .srv, .exclusive) :: held ++ others) (.state .quota)
          .exclusive = false := by
        simp [free .quota .exclusive]
      exact Passes.nest (free .srv .exclusive) (Passes.nest quota slot)

theorem close_service_passes {others held : ClientGuards} (free : StateFree others held)
    (service : Service) : Passes others held (onState (closeServiceOps service)) := by
  unfold closeServiceOps
  split
  all_goals first
    | exact queue_message_passes free .close true
    | exact Passes.nil _ _

theorem service_callback_passes {others held : ClientGuards} (path : MessagePath)
    (userData : ∀ mode, excludes (held ++ others) (.userData path.reference) mode = false)
    (completion : ∀ mode, excludes (held ++ others) .completion mode = false) :
    Passes others held (serviceCallbackOps path) := by
  have inside : ∀ mode, Passes others ((.userData path.reference, .exclusive) :: held)
      (brief .completion mode) := by
    intro mode
    apply Passes.brief
    simp [completion mode]
  have nothing := Passes.nil others ((.userData path.reference, .exclusive) :: held)
  have notice : Passes others ((.userData path.reference, .exclusive) :: held)
      (if path.full then
        brief .completion .shared ++ if path.extra then brief .completion .exclusive else []
      else []) := by
    split_ifs
    · exact (inside .shared).append (inside .exclusive)
    · exact (inside .shared).append nothing
    · exact nothing
  have announced : Passes others ((.userData path.reference, .exclusive) :: held)
      (if path.skipped then [] else brief .completion .exclusive) := by
    split_ifs
    · exact nothing
    · exact inside .exclusive
  exact Passes.nest (userData .exclusive) ((notice.append (inside .shared)).append announced)

/-- The guards of the suspended calls are all of the map of services. -/
def ServicesOnly (others : ClientGuards) : Prop := ∀ guard ∈ others, guard.1 = .services

theorem ServicesOnly.free {others : ClientGuards} (only : ServicesOnly others)
    (lock : ClientLock) (elsewhere : lock ≠ .services) (mode : Mode) :
    excludes others lock mode = false := by
  apply excludes_absent
  intro guard member same
  exact elsewhere (same.symm.trans (only guard member))

theorem ServicesOnly.append {guards others : ClientGuards} (first : ServicesOnly guards)
    (second : ServicesOnly others) : ServicesOnly (guards ++ others) := by
  intro guard member
  exact (List.mem_append.mp member).elim (first guard) (second guard)

theorem message_passes {others : ClientGuards} (only : ServicesOnly others)
    (path : MessagePath) :
    Passes others [(.state .slot, .exclusive)] (messageOps path) := by
  have nothing := Passes.nil others [(.state .slot, .exclusive)]
  have lookup : Passes others [(.state .slot, .exclusive)] (onState serviceLookupOps) := by
    apply service_lookup_passes
    intro mode
    simp [only.free (.state .srv) (by simp) mode]
  have quota : Passes others [(.state .slot, .exclusive)] (brief (.state .quota) .shared) := by
    apply Passes.brief
    simp [only.free (.state .quota) (by simp) .shared]
  have handled : Passes others [(.state .slot, .exclusive)]
      (onState (handleMessageOps path.msgType path.accepted)) := by
    cases path.msgType with
    | close => exact lookup.append quota
    | data =>
        cases path.accepted with
        | false => exact lookup
        | true => exact lookup.append lookup
    | openAck | bulkRx | bulkTx | bulkRxDone | bulkTxDone => exact lookup
    | _ => exact nothing
  apply handled.append
  split_ifs
  · apply service_callback_passes path
    · intro mode
      simp [only.free (.userData path.reference) (by simp) mode]
    · intro mode
      simp [only.free .completion (by simp) mode]
  · exact nothing

theorem slot_handler_runs {others : ClientGuards} (only : ServicesOnly others)
    (paths : List MessagePath) : runGuards others [] (slotHandlerPoll paths) = some [] := by
  apply attempt_passes
  induction paths with
  | nil => exact Passes.nil _ _
  | cons path paths ih =>
      rw [List.flatMap_cons]
      exact (message_passes only path).append ih

theorem record_passes {others : ClientGuards} (only : ServicesOnly others)
    (shared : ∀ guard ∈ others, guard.2 = .shared) (record : ServiceCompletion) :
    Passes others [] (recordOps record) := by
  unfold recordOps
  cases record.serviceUserdata with
  | none => exact Passes.nil _ _
  | some handle =>
      have inside : Passes others [(.handleData handle, .shared)] (brief .services .shared) := by
        apply Passes.brief
        simp [excludes_shared shared .services]
      exact Passes.nest (only.free (.handleData handle) (by simp) .shared) inside

/-- The poll up to the records it took. -/
theorem taken_passes {others : ClientGuards} (only : ServicesOnly others) :
    Passes others [] (brief .connected .shared ++
      (brief .completion .shared ++ brief .completion .exclusive)) := by
  have connected : Passes others [] (brief .connected .shared) :=
    Passes.brief (only.free .connected (by simp) .shared)
  have completion : ∀ mode, Passes others [] (brief .completion mode) :=
    fun mode => Passes.brief (only.free .completion (by simp) mode)
  exact connected.append ((completion .shared).append (completion .exclusive))

theorem completion_handler_runs {others : ClientGuards} (only : ServicesOnly others)
    (shared : ∀ guard ∈ others, guard.2 = .shared) (outcome : AwaitOutcome) :
    runGuards others [] (completionHandlerPoll outcome) = some [] := by
  have connected : Passes others [] (brief .connected .shared) :=
    Passes.brief (only.free .connected (by simp) .shared)
  have completion : Passes others [] (brief .completion .shared) :=
    Passes.brief (only.free .completion (by simp) .shared)
  apply Passes.runs
  cases outcome with
  | error error => exact connected
  | pending later => exact connected.append completion
  | panic panic => exact taken_passes only
  | ready records later =>
      apply (taken_passes only).append
      induction records with
      | nil => exact Passes.nil _ _
      | cons record records ih =>
          rw [List.flatMap_cons]
          exact (record_passes only shared record).append ih

theorem services_only_nil : ServicesOnly [] := by
  intro guard member
  simp at member

theorem state_free_nil : StateFree [] [] := fun _ _ => rfl

theorem queue_message_runs (sys : System) (handle : ServiceHandle) (admitted : Bool) :
    runGuards [] [] (sys.queueMessagePoll handle admitted) = some [] := by
  have free : StateFree [] [(ClientLock.services, .shared)] :=
    state_free_nil.cons (by simp) .shared
  have lookup := service_lookup_passes (free .srv)
  have nothing := Passes.nil [] [(ClientLock.services, Mode.shared)]
  apply Passes.runs
  unfold System.queueMessagePoll
  apply Passes.nest rfl
  cases sys.services handle with
  | none => exact nothing
  | some srvHandle =>
      apply lookup.append
      cases sys.inst.state.serviceOf srvHandle with
      | none => exact nothing
      | some target => exact queue_message_passes free .data admitted

/-- A look into the message queue under the write guard of the map. -/
theorem dequeue_look_runs {others : ClientGuards} (only : ServicesOnly others)
    (reference : ServiceRef) (user : ServiceUser) :
    runGuards others [(.services, .exclusive)] (dequeueLookOps reference user) =
      some (if user.msgRemove = user.msgInsert then [(.services, .exclusive)] else []) := by
  have look : Passes others [(.services, .exclusive)]
      (brief (.userData reference) .exclusive) := by
    apply Passes.brief
    simp [only.free (.userData reference) (by simp) .exclusive]
  unfold dequeueLookOps
  rw [look]
  split_ifs
  · rfl
  · rw [look]
    rfl

theorem dequeue_runs (sys : System) (handle : ServiceHandle) :
    runGuards [] [] (sys.dequeuePoll handle) =
      some (match (sys.services handle).bind sys.inst.state.serviceOf with
        | none => []
        | some (_, service) =>
            if service.base.userdata.msgRemove = service.base.userdata.msgInsert then
              [(.services, .exclusive)]
            else []) := by
  have free : StateFree [] [(ClientLock.services, .exclusive)] :=
    state_free_nil.cons (by simp) .exclusive
  have lookup := service_lookup_passes (free .srv)
  have start : ∀ rest, runGuards [] [] (GuardOp.acquire ClientLock.services .exclusive :: rest) =
      runGuards [] [(.services, .exclusive)] rest := fun _ => rfl
  unfold System.dequeuePoll
  rw [start]
  cases sys.services handle with
  | none => rfl
  | some srvHandle =>
      simp only [Option.bind_some]
      rw [lookup]
      cases sys.inst.state.serviceOf srvHandle with
      | none => rfl
      | some target =>
          have checked : Passes [] [(ClientLock.services, Mode.exclusive)]
              (brief (.userData target.1) .shared) := by
            apply Passes.brief
            simp
          simp only
          rw [checked, dequeue_look_runs services_only_nil]

/-- What a suspended call that borrows the instance mutably holds. -/
def pendingGuards : PendingCall → ClientGuards
  | .serviceClose _ _ => [(.services, .shared)]
  | _ => []

/-- What the first poll of such a call leaves held. -/
def callGuards (waits : Bool) : Call → ClientGuards
  | .serviceClose _ => if waits then [(.services, .shared)] else []
  | _ => []

theorem exclusive_runs (sys : System) (found waits : Bool) (call : Call) :
    runGuards [] [] (sys.exclusivePoll found waits call) = some (callGuards waits call) := by
  have connected : Passes [] [] (brief .connected .shared) := Passes.brief rfl
  have lookup := service_lookup_passes (state_free_nil .srv)
  have nothing := Passes.nil [] ([] : ClientGuards)
  cases call with
  | initializeInstance | queueMessage handle data => rfl
  | connect =>
      apply Passes.runs
      simp only [System.exclusivePoll]
      split_ifs
      · exact nothing
      · exact connected.append (queue_message_passes state_free_nil .connect true)
      · exact connected.append nothing
  | serviceOpen setup =>
      apply Passes.runs
      simp only [System.exclusivePoll]
      split_ifs
      · apply connected.append
        apply (add_service_passes state_free_nil found).append
        exact (lookup.append (queue_message_passes state_free_nil .open true)).append lookup
      · apply connected.append
        exact (add_service_passes state_free_nil found).append nothing
      · exact connected.append nothing
      · exact nothing
  | serviceClose handle =>
      have free : StateFree [] [(ClientLock.services, .shared)] :=
        state_free_nil.cons (by simp) .shared
      have lookupInside := service_lookup_passes (free .srv)
      have closing : Passes [] [(ClientLock.services, Mode.shared)]
          (match sys.services handle with
          | none => []
          | some srvHandle =>
              onState serviceLookupOps ++
                match sys.inst.state.serviceOf srvHandle with
                | none => []
                | some (_, service) => onState (closeServiceOps service)) := by
        cases sys.services handle with
        | none => exact Passes.nil _ _
        | some srvHandle =>
            apply lookupInside.append
            cases sys.inst.state.serviceOf srvHandle with
            | none => exact Passes.nil _ _
            | some target => exact close_service_passes free target.2
      have start : ∀ rest, runGuards [] [] (GuardOp.acquire ClientLock.services .shared :: rest) =
          runGuards [] [(.services, .shared)] rest := fun _ => rfl
      simp only [System.exclusivePoll, List.cons_append]
      rw [start, closing]
      cases waits with
      | false => rfl
      | true => exact lookupInside.runs

theorem resume_runs (succeeds : Bool) (pending : PendingCall) :
    runGuards [] (pendingGuards pending) (resumePoll succeeds pending) = some [] := by
  have services : Passes [] [] (brief .services .exclusive) := Passes.brief rfl
  cases pending with
  | idle => rfl
  | connect => rfl
  | serviceOpen handle srvHandle =>
      apply Passes.runs
      apply (service_lookup_passes (state_free_nil .srv)).append
      cases succeeds with
      | false => exact Passes.nil _ _
      | true => exact services
  | serviceClose handle srvHandle =>
      have free : StateFree [] [(ClientLock.services, .shared)] :=
        state_free_nil.cons (by simp) .shared
      simp only [resumePoll, pendingGuards]
      rw [service_lookup_passes (free .srv)]
      cases succeeds <;> rfl

end RuspiroVchiq.Vchi
