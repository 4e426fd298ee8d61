import RuspiroVchiq.Vchiq.Operations
import RuspiroVchiq.Vchiq.Dispatch
import RuspiroVchiq.Lib.LabelledRun

/-!
# The vchi instance and its tasks

`vchi::Instance` with the VCHIQ instance below it, and the tasks that run on
them: the client calls, `slot_handler` and `completion_handler`. One step is one
poll of one task; a call that does not have to wait takes its later polls at
once. The calls that take `&mut self` exclude each other, and a pending one may
be dropped. A panic or a call that blocks for good ends the run, so neither is a
step. A received message is handed to `dispatch` as it is: where it was read is the
matter of the receive results. The callbacks of the clients are added on top of it.
-/

namespace RuspiroVchiq.Vchi

open RuspiroVchiq.Config
open RuspiroVchiq.Shared
open RuspiroVchiq.Vchiq
open RuspiroVchiq.Lib.LabelledRun

set_option autoImplicit false

inductive VchiError where
  | notInitialized
  | serviceNotFound (handle : ServiceHandle)
  deriving DecidableEq, Repr

/-- The errors a vchi call may return. -/
inductive BoxError where
  | vchi (error : VchiError)
  | vchiq (error : VchiqError)
  deriving DecidableEq, Repr

inductive VchiStop where
  | error (error : BoxError)
  | panic (panic : Panic)
  | blocked

def VchiStop.ofVchiq : Stop → VchiStop
  | .error reported => .error (.vchiq reported)
  | .panic raised => .panic raised
  | .blocked => .blocked

/-- The call that holds `&mut self` while it waits. The handles are the vchi handle
and the VCHIQ handle of its service. -/
inductive PendingCall where
  | idle
  | connect
  | serviceOpen (handle srvHandle : ServiceHandle)
  | serviceClose (handle srvHandle : ServiceHandle)
  deriving DecidableEq, Repr

/-- The map of services keeps the VCHIQ handle of each vchi handle. The two
counters are `SERVICE_HANDLE` and `NEXT_SRV_HANDLE`. -/
structure System where
  initialized : Bool
  connected : Bool
  services : ServiceHandle → Option ServiceHandle
  nextHandle : ServiceHandle
  nextSrvHandle : ServiceHandle
  inst : Instance
  pending : PendingCall

/-- `Instance::new` around a VCHIQ instance. -/
def System.new (inst : Instance) : System where
  initialized := false
  connected := false
  services := fun _ => none
  nextHandle := 0
  nextSrvHandle := vchiqMaxServices
  inst := inst
  pending := .idle

inductive Call where
  | initializeInstance
  | connect
  | serviceOpen (setup : ServiceSetup)
  | serviceClose (handle : ServiceHandle)
  | queueMessage (handle : ServiceHandle) (data : Payload)

/-- The calls that take `&mut self`. -/
def Call.Exclusive : Call → Prop
  | .queueMessage _ _ => False
  | _ => True

instance (call : Call) : Decidable call.Exclusive :=
  match call with
  | .queueMessage _ _ => inferInstanceAs (Decidable False)
  | .initializeInstance | .connect | .serviceOpen _ | .serviceClose _ =>
      inferInstanceAs (Decidable True)

/-- The end of a poll on the level of the vchi instance. -/
abbrev SystemPolled := Except VchiStop (Option Outgoing) × System

/-- A poll of the VCHIQ instance on behalf of a call, which waits as `pending`
unless the poll failed. -/
def System.absorb (sys : System) (pending : PendingCall) (polled : Polled) : SystemPolled :=
  match polled with
  | (.error stop, inst) => (.error (.ofVchiq stop), { sys with inst := inst })
  | (.ok sent, inst) => (.ok sent, { sys with inst := inst, pending := pending })

/-- The first poll of a call. The handle of a VCHIQ service is drawn only if the
instance is connected. -/
def System.call (sys : System) : Call → SystemPolled
  | .initializeInstance => (.ok none, { sys with initialized := true })
  | .connect =>
      if sys.connected then (.ok none, sys) else sys.absorb .connect sys.inst.beginConnect
  | .serviceOpen setup =>
      if sys.initialized then
        let handle := sys.nextHandle
        let srvHandle := sys.nextSrvHandle
        { sys with
          nextHandle := handle + 1
          nextSrvHandle := if sys.inst.connected then srvHandle + 1 else srvHandle }.absorb
            (.serviceOpen handle srvHandle) (sys.inst.createService setup handle srvHandle)
      else (.error (.error (.vchi .notInitialized)), sys)
  | .serviceClose handle =>
      match sys.services handle with
      | none => (.error (.error (.vchi (.serviceNotFound handle))), sys)
      | some srvHandle =>
          sys.absorb (.serviceClose handle srvHandle) (sys.inst.beginClose srvHandle)
  | .queueMessage handle data =>
      match sys.services handle with
      | none => (.error (.error (.vchi (.serviceNotFound handle))), sys)
      | some srvHandle => sys.absorb sys.pending (sys.inst.queueMessage srvHandle data)

theorem absorb_ok {sys next : System} {pending : PendingCall} {polled : Polled}
    {sent : Option Outgoing} (absorbed : sys.absorb pending polled = (.ok sent, next)) :
    ∃ inst, polled = (.ok sent, inst) ∧ next = { sys with inst := inst, pending := pending } := by
  obtain ⟨result, inst⟩ := polled
  cases result with
  | error stop => simp [System.absorb] at absorbed
  | ok message =>
      simp only [System.absorb, Prod.mk.injEq, Except.ok.injEq] at absorbed
      obtain ⟨rfl, rfl⟩ := absorbed
      exact ⟨inst, rfl, rfl⟩

theorem absorb_failed {sys next : System} {pending : PendingCall} {polled : Polled}
    {error : BoxError} (absorbed : sys.absorb pending polled = (.error (.error error), next)) :
    ∃ failure inst, polled = (.error (.error failure), inst) ∧
      next = { sys with inst := inst } := by
  obtain ⟨result, inst⟩ := polled
  cases result with
  | ok message => simp [System.absorb] at absorbed
  | error stop =>
      simp only [System.absorb, Prod.mk.injEq, Except.error.injEq] at absorbed
      cases stop with
      | error failure => exact ⟨failure, inst, rfl, absorbed.2.symm⟩
      | panic panic => simp [VchiStop.ofVchiq] at absorbed
      | blocked => simp [VchiStop.ofVchiq] at absorbed

/-- A later poll of the pending call that finds its semaphore raised. -/
def System.resume (sys : System) : Option System :=
  match sys.pending with
  | .idle => none
  | .connect =>
      sys.inst.finishConnect.map fun inst =>
        { sys with inst := inst, connected := true, pending := .idle }
  | .serviceOpen handle srvHandle =>
      match sys.inst.awaitService srvHandle openResult with
      | none => none
      | some (.error _, inst) => some { sys with inst := inst, pending := .idle }
      | some (.ok _, inst) =>
          some
            { sys with
              inst := inst
              services := Function.update sys.services handle (some srvHandle)
              pending := .idle }
  | .serviceClose handle srvHandle =>
      match sys.inst.awaitService srvHandle closeResult with
      | none => none
      | some (.error _, inst) => some { sys with inst := inst, pending := .idle }
      | some (.ok _, inst) =>
          some
            { sys with
              inst := inst
              services := Function.update sys.services handle none
              pending := .idle }

/-- How the poll that ends a pending call ends it. -/
inductive Resumed (sys : System) : System → Prop where
  | connected {inst : Instance} (waiting : sys.pending = .connect)
      (finished : sys.inst.finishConnect = some inst) :
      Resumed sys { sys with inst := inst, connected := true, pending := .idle }
  | refused {inst : Instance} {srvHandle : ServiceHandle} {error : VchiqError}
      {judge : ServiceHandle → ServiceState → Except VchiqError Unit}
      (busy : sys.pending ≠ .idle)
      (awaited : sys.inst.awaitService srvHandle judge = some (.error error, inst)) :
      Resumed sys { sys with inst := inst, pending := .idle }
  | opened {inst : Instance} {handle srvHandle : ServiceHandle}
      (waiting : sys.pending = .serviceOpen handle srvHandle)
      (awaited : sys.inst.awaitService srvHandle openResult = some (.ok (), inst)) :
      Resumed sys
        { sys with
          inst := inst
          services := Function.update sys.services handle (some srvHandle)
          pending := .idle }
  | closed {inst : Instance} {handle srvHandle : ServiceHandle}
      (waiting : sys.pending = .serviceClose handle srvHandle)
      (awaited : sys.inst.awaitService srvHandle closeResult = some (.ok (), inst)) :
      Resumed sys
        { sys with
          inst := inst
          services := Function.update sys.services handle none
          pending := .idle }

theorem resume_cases {sys next : System} (polled : sys.resume = some next) :
    Resumed sys next := by
  unfold System.resume at polled
  cases waiting : sys.pending with
  | idle => simp [waiting] at polled
  | connect =>
      simp only [waiting, Option.map_eq_some_iff] at polled
      obtain ⟨inst, finished, rfl⟩ := polled
      exact .connected waiting finished
  | serviceOpen handle srvHandle =>
      simp only [waiting] at polled
      split at polled
      · simp at polled
      · rename_i awaited
        rw [← Option.some.inj polled]
        exact .refused (by simp [waiting]) awaited
      · rename_i awaited
        rw [← Option.some.inj polled]
        exact .opened waiting awaited
  | serviceClose handle srvHandle =>
      simp only [waiting] at polled
      split at polled
      · simp at polled
      · rename_i awaited
        rw [← Option.some.inj polled]
        exact .refused (by simp [waiting]) awaited
      · rename_i awaited
        rw [← Option.some.inj polled]
        exact .closed waiting awaited

/-- The lookups of `completion_handler` for the records it took: the handle in the
user data, then the service in the map. -/
def lookupServices (services : ServiceHandle → Option ServiceHandle) :
    List ServiceCompletion → Except Panic (List ServiceHandle)
  | [] => .ok []
  | record :: records =>
      match record.serviceUserdata.bind services with
      | none => .error .unwrapNone
      | some srvHandle =>
          match lookupServices services records with
          | .error panic => .error panic
          | .ok found => .ok (srvHandle :: found)

/-- What `completion_handler` gets from the VCHIQ instance in one poll. -/
def System.awaitCompletion (sys : System) : AwaitOutcome :=
  Vchiq.awaitCompletion sys.inst.connected 8 sys.inst.completion

/-- An OPENACK that finds its service in state OPENING. -/
def opensService (state : State) (message : SlotMessage) : Bool :=
  decide (msgTypeFromId message.header.msgid = some .openAck) &&
    (state.srvState.service (receiverRef message)).any fun service =>
      decide (service.srvstate = .opening)

inductive Action where
  | called (call : Call) (sent : Option Outgoing)
  | failed (call : Call) (error : BoxError)
  | resumed
  | dropped
  | received (message : SlotMessage) (opened : Bool)
  | dequeued (reference : ServiceRef)
  | completed (records : List ServiceCompletion)
  | idled

inductive SystemStep : System → Action → System → Prop where
  | called {sys next : System} {call : Call} {sent : Option Outgoing}
      (exclusive : call.Exclusive → sys.pending = .idle)
      (polled : sys.call call = (.ok sent, next)) :
      SystemStep sys (.called call sent) next
  | failed {sys next : System} {call : Call} {error : BoxError}
      (exclusive : call.Exclusive → sys.pending = .idle)
      (polled : sys.call call = (.error (.error error), next)) :
      SystemStep sys (.failed call error) next
  | resumed {sys next : System} (polled : sys.resume = some next) :
      SystemStep sys .resumed next
  | dropped {sys : System} : SystemStep sys .dropped { sys with pending := .idle }
  | received {sys : System} {inst : Instance} {message : SlotMessage}
      (handled : dispatch sys.inst message = .ok inst) :
      SystemStep sys (.received message (opensService sys.inst.state message))
        { sys with inst := inst }
  | dequeued {sys : System} {inst : Instance} {reference : ServiceRef}
      (polled : sys.inst.pollDequeue reference = .ok inst) :
      SystemStep sys (.dequeued reference) { sys with inst := inst }
  | completed {sys : System} {records : List ServiceCompletion} {completion : Completion}
      {found : List ServiceHandle} (spawned : sys.connected = true)
      (taken : sys.awaitCompletion = .ready records completion)
      (known : lookupServices sys.services records = .ok found) :
      SystemStep sys (.completed records)
        { sys with inst := { sys.inst with completion := completion } }
  | idled {sys : System} {completion : Completion} (spawned : sys.connected = true)
      (waiting : sys.awaitCompletion = .pending completion) :
      SystemStep sys .idled { sys with inst := { sys.inst with completion := completion } }

/-- What may be asked of the system, for runs that are computed. -/
inductive Move where
  | call (call : Call)
  | resume
  | drop
  | receive (message : SlotMessage)
  | dequeue (reference : ServiceRef)
  | complete

def System.perform (sys : System) : Move → Option (Action × System)
  | .call call =>
      if call.Exclusive ∧ sys.pending ≠ .idle then none
      else
        match sys.call call with
        | (.ok sent, next) => some (.called call sent, next)
        | (.error (.error error), next) => some (.failed call error, next)
        | _ => none
  | .resume => sys.resume.map fun next => (.resumed, next)
  | .drop => some (.dropped, { sys with pending := .idle })
  | .receive message =>
      match dispatch sys.inst message with
      | .error _ => none
      | .ok inst =>
          some (.received message (opensService sys.inst.state message),
            { sys with inst := inst })
  | .dequeue reference =>
      match sys.inst.pollDequeue reference with
      | .error _ => none
      | .ok inst => some (.dequeued reference, { sys with inst := inst })
  | .complete =>
      if sys.connected then
        match sys.awaitCompletion with
        | .ready records completion =>
            match lookupServices sys.services records with
            | .error _ => none
            | .ok _ =>
                some (.completed records,
                  { sys with inst := { sys.inst with completion := completion } })
        | .pending completion =>
            some (.idled, { sys with inst := { sys.inst with completion := completion } })
        | _ => none
      else none

/-- The moves one after the other, as long as the guard allows them. -/
def System.performAll (guard : System → Action → Prop)
    [∀ sys action, Decidable (guard sys action)] (sys : System) :
    List Move → Option (List Action × System)
  | [] => some ([], sys)
  | move :: moves =>
      match sys.perform move with
      | none => none
      | some (action, next) =>
          if guard sys action then
            match System.performAll guard next moves with
            | none => none
            | some (actions, reached) => some (action :: actions, reached)
          else none

/-- The guard of unrestricted runs. -/
def Anything (_ : System) (_ : Action) : Prop := True

instance (sys : System) (action : Action) : Decidable (Anything sys action) :=
  inferInstanceAs (Decidable True)

theorem perform_step {sys next : System} {move : Move} {action : Action}
    (performed : sys.perform move = some (action, next)) : SystemStep sys action next := by
  cases move with
  | call call =>
      simp only [System.perform] at performed
      split_ifs at performed with busy
      have exclusive : call.Exclusive → sys.pending = .idle :=
        fun exclusive => not_not.mp fun waiting => busy ⟨exclusive, waiting⟩
      split at performed
      · rename_i sent reached polled
        simp only [Option.some.injEq, Prod.mk.injEq] at performed
        obtain ⟨rfl, rfl⟩ := performed
        exact .called exclusive polled
      · rename_i error reached polled
        simp only [Option.some.injEq, Prod.mk.injEq] at performed
        obtain ⟨rfl, rfl⟩ := performed
        exact .failed exclusive polled
      · simp at performed
  | resume =>
      simp only [System.perform, Option.map_eq_some_iff, Prod.mk.injEq] at performed
      obtain ⟨reached, resumed, rfl, rfl⟩ := performed
      exact .resumed resumed
  | drop =>
      simp only [System.perform, Option.some.injEq, Prod.mk.injEq] at performed
      obtain ⟨rfl, rfl⟩ := performed
      exact .dropped
  | receive message =>
      simp only [System.perform] at performed
      cases handled : dispatch sys.inst message with
      | error panic => simp [handled] at performed
      | ok inst =>
          simp only [handled, Option.some.injEq, Prod.mk.injEq] at performed
          obtain ⟨rfl, rfl⟩ := performed
          exact .received handled
  | dequeue reference =>
      simp only [System.perform] at performed
      cases polled : sys.inst.pollDequeue reference with
      | error stop => simp [polled] at performed
      | ok inst =>
          simp only [polled, Option.some.injEq, Prod.mk.injEq] at performed
          obtain ⟨rfl, rfl⟩ := performed
          exact .dequeued polled
  | complete =>
      simp only [System.perform] at performed
      split_ifs at performed with spawned
      cases awaited : sys.awaitCompletion with
      | ready records completion =>
          simp only [awaited] at performed
          cases known : lookupServices sys.services records with
          | error panic => simp [known] at performed
          | ok found =>
              simp only [known, Option.some.injEq, Prod.mk.injEq] at performed
              obtain ⟨rfl, rfl⟩ := performed
              exact .completed spawned awaited known
      | pending completion =>
          simp only [awaited, Option.some.injEq, Prod.mk.injEq] at performed
          obtain ⟨rfl, rfl⟩ := performed
          exact .idled spawned awaited
      | error error => simp [awaited] at performed
      | panic panic => simp [awaited] at performed

/-- A computed run is a run. -/
theorem perform_all_run {guard : System → Action → Prop}
    [∀ sys action, Decidable (guard sys action)] {start sys reached : System}
    {moves : List Move} {earlier actions : List Action}
    (run : Run (Guarded SystemStep guard) start earlier sys)
    (performed : sys.performAll guard moves = some (actions, reached)) :
    Run (Guarded SystemStep guard) start (earlier ++ actions) reached := by
  induction moves generalizing earlier actions sys with
  | nil =>
      simp only [System.performAll, Option.some.injEq, Prod.mk.injEq] at performed
      obtain ⟨rfl, rfl⟩ := performed
      rw [List.append_nil]
      exact run
  | cons move moves ih =>
      simp only [System.performAll] at performed
      cases first : sys.perform move with
      | none => simp [first] at performed
      | some result =>
          obtain ⟨action, next⟩ := result
          simp only [first] at performed
          split_ifs at performed with allowed
          cases others : next.performAll guard moves with
          | none => simp [others] at performed
          | some rest =>
              simp only [others, Option.some.injEq, Prod.mk.injEq] at performed
              obtain ⟨rfl, rfl⟩ := performed
              have extended := ih (run.snoc ⟨perform_step first, allowed⟩) others
              rwa [List.append_assoc, List.singleton_append] at extended

/-- A message of the VideoCore without payload. -/
def remoteMessage (kind : MessageType) (remote port : UInt32) : SlotMessage where
  header := { msgid := makeMsgId kind remote port, size := 0 }
  data := []

def sampleSetup : ServiceSetup where
  fourcc := 0x6d6d616c
  version := 1
  versionMin := 1

/-- The moves up to the OPENACK of the first service. -/
def openingMoves : List Move :=
  [.call .initializeInstance, .call .connect, .receive (remoteMessage .connect 0 0), .resume,
    .call (.serviceOpen sampleSetup), .receive (remoteMessage .openAck 75 0)]

end RuspiroVchiq.Vchi
