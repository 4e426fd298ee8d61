import RuspiroVchiq.Vchi.Lifecycle

/-!
# The messages of this side conform to the protocol

Whatever the VideoCore sends and in whatever order the tasks are polled, every
message this side stores is one the protocol allows at that point. The rule only
looks at the messages exchanged before.
-/

namespace RuspiroVchiq.Vchi

open RuspiroVchiq.Config
open RuspiroVchiq.Shared
open RuspiroVchiq.Lib.ByteMemory
open RuspiroVchiq.Vchiq
open RuspiroVchiq.Lib.LabelledRun

set_option autoImplicit false

/-- An OPEN goes out once for a port, after a CONNECT of the VideoCore. -/
structure OpenAllowed (earlier : List Event) (port : ServiceRef) : Prop where
  greeted : Seen earlier (ProcessesType .connect)
  first : ¬Seen earlier (Stores .open port)

/-- DATA goes to the remote port of the one OPENACK that opened the service, while
neither side has closed it. -/
structure DataAllowed (earlier : List Event) (port : ServiceRef) (remote : UInt32) : Prop where
  opened : Seen earlier (Opens port remote)
  unique : ∀ other, Seen earlier (Opens port other) → other = remote
  notClosed : ¬Seen earlier (Stores .close port)
  notRefused : ¬Seen earlier (Processes .close port)

/-- The messages this side may store after the earlier events. -/
def Conforms (earlier : List Event) : Event → Prop
  | .processed _ _ => True
  | .stored sent =>
      (msgTypeFromId sent.message.header.msgid = some .connect ∧ ¬Seen earlier IsStored) ∨
        (Seen earlier (StoresType .connect) ∧
          ∃ port, sent.sender = some port ∧ senderRef sent.message = port ∧
            ((msgTypeFromId sent.message.header.msgid = some .open ∧
                OpenAllowed earlier port) ∨
              (msgTypeFromId sent.message.header.msgid = some .data ∧
                DataAllowed earlier port (dstPortFromId sent.message.header.msgid)) ∨
              (msgTypeFromId sent.message.header.msgid = some .close ∧
                ¬Seen earlier (Stores .close port))))

theorem data_allowed {events : List Event} {protocol : Protocol}
    {handle srvHandle : ServiceHandle} {port : ServiceRef} {endpoint : Endpoint}
    (registry : RegistryInvariant protocol) (inv : LifecycleInvariant events protocol)
    (known : protocol.services handle = some srvHandle)
    (sender : protocol.Has port endpoint srvHandle) (live : endpoint.closing = false) :
    DataAllowed events port endpoint.remoteport := by
  have life := inv.present sender.1
  have isOpen := (sender_open registry inv known sender live).1
  obtain ⟨opened, unique⟩ := life.answered isOpen
  obtain ⟨notClosed, notRefused, _⟩ := life.live live
  exact ⟨opened, unique, notClosed, notRefused⟩

/-- A step stores only what the earlier events allow. -/
theorem step_conforms {actions : List Action} {before after : Protocol} {action : Action}
    {event : Event} (inv : ProtocolInvariant actions before)
    (move : ProtocolStep before action after) (happens : action.event = some event) :
    Conforms (eventsOf actions) event := by
  -- a service in the table was opened by a connected instance
  have begun : ∀ port endpoint, before.endpoints port = some endpoint →
      Seen (eventsOf actions) (StoresType .connect) := by
    intro port endpoint present
    have connected := inv.handshake.used port endpoint present
    exact inv.handshake.begun (inv.handshake.connected connected).2
  cases move with
  | quiet silent | abandoned silent =>
      rw [silent] at happens
      simp at happens
  | connectJoined _ | connectFinished _ _ _ | connectPassed _ _ | openFinished _ _ _
  | closeReleased _ _ _ | closeFinished _ => simp [Action.event] at happens
  | greeted _ | acknowledged _ _ _ | closed _ _ _ | passed _ _ =>
      simp only [Action.event, Option.some.injEq] at happens
      subst happens
      trivial
  | connectSent disconnected =>
      simp only [Action.event, Option.some.injEq] at happens
      subst happens
      exact .inl ⟨connect_call_type, inv.handshake.silent disconnected⟩
  | @openSent setup handle srvHandle port message connected vacant small unknown msgid =>
      simp only [Action.event, Option.some.injEq] at happens
      subst happens
      obtain ⟨greeted, started⟩ := inv.handshake.connected connected
      obtain ⟨msgType, sender, _⟩ :=
        sent_message_decodes msgid (of_nat_port small) small (by decide)
      exact .inr ⟨inv.handshake.begun started, port, rfl, sender,
        .inl ⟨msgType, greeted, (inv.lifecycle.vacant vacant).open⟩⟩
  | @closeSent handle srvHandle port endpoint message known closed begins msgid =>
      simp only [Action.event, Option.some.injEq] at happens
      subst happens
      obtain ⟨isPort, small⟩ := inv.registry.ports port endpoint closed.1
      obtain ⟨msgType, sender⟩ := close_message_decodes msgid isPort small
      have life := inv.lifecycle.present closed.1
      have first : ¬Seen (eventsOf actions) (Stores .close port) := by
        intro seen
        obtain ⟨notOpening, notOpen⟩ := life.ended seen
        rcases begins with opening | sync | isOpen
        · exact notOpening opening
        · rcases life.states with state | state | state | state | state <;> simp [state] at sync
        · exact notOpen isOpen
      exact .inr ⟨begun port endpoint closed.1, port, rfl, sender, .inr (.inr ⟨msgType, first⟩)⟩
  | @dataSent handle srvHandle data port endpoint message known sender live msgid =>
      simp only [Action.event, Option.some.injEq] at happens
      subst happens
      obtain ⟨isPort, small⟩ := inv.registry.ports port endpoint sender.1
      obtain ⟨msgType, isSender, remote⟩ := sent_message_decodes msgid isPort small
        (sender_open inv.registry inv.lifecycle known sender live).2
      have allowed := data_allowed inv.registry inv.lifecycle known sender live
      rw [← remote] at allowed
      exact .inr ⟨begun port endpoint sender.1, port, rfl, isSender,
        .inr (.inl ⟨msgType, allowed⟩)⟩

theorem protocol_run_conforms {actions : List Action} {reached : Protocol}
    (run : Run ProtocolStep Protocol.initial actions reached) :
    EveryEvent Conforms (eventsOf actions) := by
  induction run with
  | refl => exact every_event_nil Conforms
  | @snoc labels before after label run move ih =>
      rw [events_snoc]
      cases happens : label.event with
      | none =>
          rw [Option.toList_none, List.append_nil]
          exact ih
      | some event =>
          rw [Option.toList_some, every_event_snoc]
          exact ⟨ih, step_conforms (protocol_invariant_run run) move happens⟩

/-- In every run of the system, each stored message conforms. -/
theorem outgoing_messages_conform {raw : SlotZero} {memory : Memory} {totalMemory : Nat}
    {fresh : State} {actions : List Action} {reached : System}
    (made : freshState raw memory totalMemory = .ok fresh)
    (run : Run SystemStep (System.new (freshInstance fresh)) actions reached) :
    EveryEvent Conforms (eventsOf actions) := by
  obtain ⟨_, abstractRun⟩ := run_simulated (fun _ _ => True) (fresh_state_facts made) run.guarded
  exact protocol_run_conforms abstractRun.unguarded

/-- A service that is opened, used once and closed. -/
def wholeLifeMoves : List Move :=
  openingMoves ++
    [.resume, .call (.queueMessage 0 { alignLog := 0, bytes := [1], aligned := one_dvd _ }),
      .call (.serviceClose 0), .receive (remoteMessage .close 75 0), .resume]

set_option maxRecDepth 20000 in
theorem whole_life_performed :
    ∃ fresh actions reached,
      freshState blankSlotZero (fun _ => 0) (65 * vchiqSlotSize) = .ok fresh ∧
      (System.new (freshInstance fresh)).performAll Anything wholeLifeMoves =
        some (actions, reached) ∧
      wireTypes actions = [(true, some .connect), (false, some .connect), (true, some .open),
        (false, some .openAck), (true, some .data), (true, some .close),
        (false, some .close)] :=
  ⟨_, _, _, rfl, rfl, rfl⟩

/-- The four messages of such a service are each allowed where they are stored. -/
theorem whole_life_conforms :
    ∃ actions, wireTypes actions = [(true, some .connect), (false, some .connect),
        (true, some .open), (false, some .openAck), (true, some .data), (true, some .close),
        (false, some .close)] ∧
      EveryEvent Conforms (eventsOf actions) := by
  obtain ⟨fresh, actions, reached, made, performed, types⟩ := whole_life_performed
  exact ⟨actions, types,
    outgoing_messages_conform made (perform_all_run .refl performed).unguarded⟩

end RuspiroVchiq.Vchi
