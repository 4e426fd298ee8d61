import RuspiroVchiq.Receive.ReadBounds
import RuspiroVchiq.Lib.CyclicWalk

/-!
# The end of a poll

When `slot_handler` comes to an end is decided by what it finds: the sizes in the stored
headers, `tx_pos`, and the service table. The messages it meets lie in the open slot up to
the first one that ends with the slot, and from there on in the slot of `tx_pos`, over and
over again. A poll ends exactly if their strides add up to `tx_pos` at some point, or if one
of the messages is refused. A service takes part in this with its state and its remote port,
and these change at most once in a poll.
-/

namespace RuspiroVchiq.Receive

open RuspiroVchiq.Config
open RuspiroVchiq.Shared
open RuspiroVchiq.Vchiq
open RuspiroVchiq.Lib.ByteMemory
open RuspiroVchiq.Lib.LabelledRun
open RuspiroVchiq.Lib.CyclicWalk

set_option autoImplicit false

/-- The stride of the message that is stored at an offset of a slot. -/
def storedStride (slots : SlotAccessor) (slot offset : Nat) : Nat :=
  calcMsgStride
    (readHeader slots.inner (slotAddress { index := slot, offset := offset })).size.toNat

/-- The slot the receive cursor is in. -/
def openSlot (inst : Instance) (txPos : Nat) : Nat :=
  (openRxSlot inst.state.slotState txPos).index

/-- The slot and the stream position of the message behind so many others. -/
def messageAhead (inst : Instance) (txPos count : Nat) : Nat × Nat :=
  relay vchiqSlotSize (storedStride inst.state.slotState.slotData) (openSlot inst txPos)
    (reopenedSlot inst txPos) (rxPosOf inst) count

/-- What is stored there. -/
def storedMessage (inst : Instance) (txPos count : Nat) : Except Panic SlotMessage :=
  inst.state.slotState.slotData.readMessage
    { index := (messageAhead inst txPos count).1
      offset := (messageAhead inst txPos count).2 % vchiqSlotSize }

/-- The strides of the first stored messages add up to `tx_pos`, as a `usize`. Where a slot is
read again and again, the first 4096 of them and the length of a round decide. -/
def TxPosReached (inst : Instance) (txPos : Nat) : Prop :=
  RelayReaches vchiqSlotSize (storedStride inst.state.slotState.slotData) (openSlot inst txPos)
    (reopenedSlot inst txPos) (rxPosOf inst) (2 ^ 64) txPos

/-- What decides whether a service refuses a message. -/
structure Peer where
  srvstate : ServiceState
  remoteport : UInt32

def peerOfService (service : Service) : Peer where
  srvstate := service.srvstate
  remoteport := service.remoteport

def peerOf (inst : Instance) (reference : ServiceRef) : Option Peer :=
  (inst.state.srvState.service reference).map peerOfService

/-- OPENACK and CLOSE answer a request of the service. -/
def Peer.after (peer : Peer) (message : SlotMessage) : Peer :=
  match msgTypeFromId message.header.msgid, peer.srvstate with
  | some .openAck, .opening =>
      { srvstate := .open, remoteport := srcPortFromId message.header.msgid }
  | some .close, .opening => { peer with srvstate := .closeWait }
  | some .close, .closeSent => { srvstate := .free, remoteport := vchiqPortFree }
  | _, _ => peer

/-- The first stored message that changes anything about the service. -/
structure FirstAnswer (inst : Instance) (txPos : Nat) (reference : ServiceRef) (peer : Peer)
    (answer : Nat) (message : SlotMessage) : Prop where
  stored : storedMessage inst txPos answer = .ok message
  addressed : receiverRef message = reference
  changes : peer.after message ≠ peer
  first : ∀ earlier, earlier < answer → ∀ other, storedMessage inst txPos earlier = .ok other →
    receiverRef other = reference → peer.after other = peer

/-- The service as the first of the stored messages leave it. -/
inductive PeerLeft (inst : Instance) (txPos : Nat) (reference : ServiceRef) (count : Nat) :
    Peer → Prop where
  | start {peer : Peer} (entered : peerOf inst reference = some peer)
      (unchanged : ∀ earlier, earlier < count → ∀ other,
        storedMessage inst txPos earlier = .ok other → receiverRef other = reference →
          peer.after other = peer) :
      PeerLeft inst txPos reference count peer
  | answered {peer : Peer} {answer : Nat} {message : SlotMessage}
      (entered : peerOf inst reference = some peer) (order : answer < count)
      (first : FirstAnswer inst txPos reference peer answer message) :
      PeerLeft inst txPos reference count (peer.after message)

/-- There is no service in use for the message, or its CLOSE is from another port. -/
def Peer.Refuses (peer : Peer) (message : SlotMessage) : Prop :=
  peer.srvstate = .free ∨
    msgTypeFromId message.header.msgid = some .close ∧
      peer.remoteport ≠ srcPortFromId message.header.msgid ∧
      peer.remoteport ≠ vchiqPortFree ∧ dstPortFromId message.header.msgid = 0

/-- The messages that are handed to a service. -/
def AsksForService (message : SlotMessage) : Prop :=
  ∃ msgType, msgTypeFromId message.header.msgid = some msgType ∧ NeedsService msgType

/-- The handler stops at one of the stored messages: its slot fails the assertions of
`read_message`, its type is not implemented, it has no service when the poll starts, or its
service refuses it after the answers in front of it. -/
inductive PollRefused (inst : Instance) (txPos : Nat) : Prop where
  | noSlot {count : Nat} {panic : Panic} (outside : storedMessage inst txPos count = .error panic)
  | unaddressed {count : Nat} {message : SlotMessage}
      (stored : storedMessage inst txPos count = .ok message)
      (unknown : ¬Addressed inst message)
  | refused {count : Nat} {message : SlotMessage} {peer : Peer}
      (stored : storedMessage inst txPos count = .ok message) (asks : AsksForService message)
      (left : PeerLeft inst txPos (receiverRef message) count peer)
      (refuses : peer.Refuses message)

/-- The cursor of the loop is in the slot, and both of its parts stand for the stream
position. -/
structure StandsAt (cursor : ChainCursor) (reopened slot position : Nat) : Prop where
  pos : cursor.pos = position % 2 ^ 64
  index : (cursor.position reopened).index = slot
  offset : (cursor.position reopened).offset % vchiqSlotSize = position % vchiqSlotSize

/-- Only the offset inside the slot counts for the address. -/
theorem slot_address_mod (slot offset : Nat) :
    slotAddress { index := slot, offset := offset % vchiqSlotSize } =
      slotAddress { index := slot, offset := offset } := by
  simp only [slotAddress, and_slot_mask, Nat.mod_mod]

theorem read_message_mod (slots : SlotAccessor) (slotPos : SlotPosition) :
    slots.readMessage { slotPos with offset := slotPos.offset % vchiqSlotSize } =
      slots.readMessage slotPos := by
  simp only [SlotAccessor.readMessage, slot_address_mod]

theorem StandsAt.stored_stride {cursor : ChainCursor} {reopened slot position : Nat}
    (stands : StandsAt cursor reopened slot position) (slots : SlotAccessor) :
    calcMsgStride (readHeader slots.inner
        (slotAddress (cursor.position reopened))).size.toNat =
      storedStride slots slot (position % vchiqSlotSize) := by
  rw [storedStride, ← stands.index, ← stands.offset, slot_address_mod]

/-- One iteration of the loop moves on to the next stored message. -/
theorem StandsAt.next {cursor : ChainCursor} {reopened slot position : Nat}
    (stands : StandsAt cursor reopened slot position) (slots : SlotAccessor) :
    StandsAt (cursor.next slots reopened) reopened
      (if (position + storedStride slots slot (position % vchiqSlotSize)) % vchiqSlotSize = 0
        then reopened else slot)
      (position + storedStride slots slot (position % vchiqSlotSize)) := by
  have stride := stands.stored_stride slots
  generalize storedStride slots slot (position % vchiqSlotSize) = msgStride at stride ⊢
  have advanced : wrappingAdd cursor.pos msgStride = (position + msgStride) % 2 ^ 64 := by
    rw [wrappingAdd, stands.pos, Nat.mod_add_mod]
  have boundary : (wrappingAdd cursor.pos msgStride &&& vchiqSlotMask = 0) ↔
      (position + msgStride) % vchiqSlotSize = 0 := by
    rw [and_slot_mask, advanced, Nat.mod_mod_of_dvd _ (by decide : vchiqSlotSize ∣ 2 ^ 64)]
  have pos : (cursor.next slots reopened).pos = wrappingAdd cursor.pos msgStride := by
    rw [← stride]
    rfl
  have data : (cursor.next slots reopened).data =
      if wrappingAdd cursor.pos msgStride &&& vchiqSlotMask = 0 then none
      else some
        { index := (cursor.position reopened).index
          offset := wrappingAdd (cursor.position reopened).offset msgStride } := by
    rw [← stride]
    rfl
  refine ⟨pos.trans advanced, ?_, ?_⟩
  all_goals
    rw [ChainCursor.position, data]
    by_cases atEnd : (position + msgStride) % vchiqSlotSize = 0
  · rw [if_pos (boundary.mpr atEnd), if_pos atEnd]
  · rw [if_neg (mt boundary.mp atEnd), if_neg atEnd]
    exact stands.index
  · rw [if_pos (boundary.mpr atEnd), atEnd]
    rfl
  · rw [if_neg (mt boundary.mp atEnd)]
    simp only
    rw [wrapping_add_mod_slot, Nat.add_mod, stands.offset, ← Nat.add_mod]

theorem message_ahead_succ (inst : Instance) (txPos count : Nat) :
    messageAhead inst txPos (count + 1) =
      let here := messageAhead inst txPos count
      let position := here.2 +
        storedStride inst.state.slotState.slotData here.1 (here.2 % vchiqSlotSize)
      (if position % vchiqSlotSize = 0 then reopenedSlot inst txPos else here.1, position) :=
  relay_succ (by decide) count

/-- The loop meets the stored messages one after the other. -/
theorem chain_stands {inst : Instance} (cursor : CursorAligned inst) (txPos count : Nat) :
    StandsAt (chainCursor inst txPos count) (reopenedSlot inst txPos)
      (messageAhead inst txPos count).1 (messageAhead inst txPos count).2 := by
  induction count with
  | zero =>
      have opened : (chainCursor inst txPos 0).position (reopenedSlot inst txPos) =
          openRxSlot inst.state.slotState txPos := by
        unfold openRxSlot ChainCursor.position
        rfl
      rw [messageAhead, relay_zero]
      refine ⟨(Nat.mod_eq_of_lt cursor.bounded).symm, ?_, ?_⟩
      · rw [opened, openSlot]
      · rw [opened]
        exact cursor.open_offset txPos
  | succ count ih =>
      rw [chain_cursor_succ, message_ahead_succ]
      exact ih.next inst.state.slotState.slotData

theorem chain_message_eq {inst : Instance} (cursor : CursorAligned inst) (txPos count : Nat) :
    chainMessage inst txPos count = storedMessage inst txPos count := by
  have stands := chain_stands cursor txPos count
  rw [chainMessage, storedMessage, ← stands.index, ← stands.offset, read_message_mod]

/-- The stored sizes decide whether the cursor comes to `tx_pos`. -/
theorem chain_reaches_iff {inst : Instance} (cursor : CursorAligned inst) {txPos : Nat}
    (small : txPos < 2 ^ 64) :
    (∃ count, (chainCursor inst txPos count).pos = txPos) ↔ TxPosReached inst txPos := by
  rw [TxPosReached, ← relay_reaches_iff (by decide) small]
  constructor
  · rintro ⟨count, reached⟩
    rw [(chain_stands cursor txPos count).pos] at reached
    exact ⟨count, reached⟩
  · rintro ⟨count, reached⟩
    refine ⟨count, ?_⟩
    rw [(chain_stands cursor txPos count).pos]
    exact reached

/-- All but OPENACK and CLOSE leave the service as it is. -/
theorem peer_after_silent (peer : Peer) {message : SlotMessage}
    (notAck : msgTypeFromId message.header.msgid ≠ some .openAck)
    (notClose : msgTypeFromId message.header.msgid ≠ some .close) :
    peer.after message = peer := by
  unfold Peer.after
  split
  · next isAck _ => exact absurd isAck notAck
  · next isClose _ => exact absurd isClose notClose
  · next isClose _ => exact absurd isClose notClose
  · rfl

theorem peer_after_free {peer : Peer} (unused : peer.srvstate = .free) (message : SlotMessage) :
    peer.after message = peer := by
  unfold Peer.after
  split <;> simp_all

/-- A request is answered once. -/
theorem peer_after_changed {peer : Peer} {message : SlotMessage}
    (changes : peer.after message ≠ peer) (other : SlotMessage) :
    (peer.after message).after other = peer.after message := by
  unfold Peer.after at changes ⊢
  split at changes
  · simp only
    split <;> simp_all
  · simp only
    split <;> simp_all
  · simp only
    split <;> simp_all
  · exact absurd rfl changes

theorem open_acknowledged_peer (service : Service) {message : SlotMessage}
    (isAck : msgTypeFromId message.header.msgid = some .openAck) :
    peerOfService (service.openAcknowledged (srcPortFromId message.header.msgid) message) =
      (peerOfService service).after message := by
  have after : (peerOfService service).after message =
      if service.srvstate = .opening then
        { srvstate := .open, remoteport := srcPortFromId message.header.msgid }
      else peerOfService service := by
    cases state : service.srvstate <;> simp [Peer.after, peerOfService, isAck, state]
  rw [after, Service.openAcknowledged]
  cases openAckVersion message <;> (simp only; split_ifs <;> rfl)

theorem close_received_peer (service : Service) {message : SlotMessage}
    (isClose : msgTypeFromId message.header.msgid = some .close) :
    peerOfService service.closeReceived = (peerOfService service).after message := by
  cases state : service.srvstate <;>
    simp [Service.closeReceived, Service.closeComplete, Service.free, Peer.after, peerOfService,
      isClose, state]

theorem peer_update (inst : Instance) (reference other : ServiceRef)
    (change : Service → Service) :
    peerOf (inst.updateService reference change) other =
      if reference = other then
        (inst.state.srvState.service other).map (peerOfService ∘ change)
      else peerOf inst other := by
  simp only [peerOf, Instance.updateService, State.updateService, service_update]
  by_cases same : reference = other
  · simp [same]
  · simp [same]

/-- What a dispatched message does to the services. -/
theorem dispatched_peer {inst next : Instance} {message : SlotMessage}
    (handled : Dispatched inst message next) (reference : ServiceRef) :
    peerOf next reference = (peerOf inst reference).map fun peer =>
      if receiverRef message = reference then peer.after message else peer := by
  have silent : msgTypeFromId message.header.msgid ≠ some .openAck →
      msgTypeFromId message.header.msgid ≠ some .close →
        peerOf inst reference = (peerOf inst reference).map fun peer =>
          if receiverRef message = reference then peer.after message else peer := by
    intro notAck notClose
    simp [peer_after_silent _ notAck notClose]
  cases handled with
  | connect msgType =>
      exact silent (by rw [msgType]; simp) (by rw [msgType]; simp)
  | ignored msgType kinds =>
      apply silent
      · rcases kinds with rfl | rfl | rfl <;> (rw [msgType]; simp)
      · rcases kinds with rfl | rfl | rfl <;> (rw [msgType]; simp)
  | acknowledged msgType _ =>
      rw [peer_update]
      by_cases here : receiverRef message = reference
      · simp only [if_pos here, peerOf, Option.map_map]
        congr 1
        funext service
        exact open_acknowledged_peer service msgType
      · simp [here]
  | closed msgType _ _ =>
      have closed : peerOf (inst.updateService (receiverRef message) Service.closeReceived)
          reference = (peerOf inst reference).map fun peer =>
            if receiverRef message = reference then peer.after message else peer := by
        rw [peer_update]
        by_cases here : receiverRef message = reference
        · simp only [if_pos here, peerOf, Option.map_map]
          congr 1
          funext service
          exact close_received_peer service msgType
        · simp [here]
      exact closed
  | dropped msgType _ _ =>
      exact silent (by rw [msgType]; simp) (by rw [msgType]; simp)
  | @delivered _ _ target _ user msgType _ _ _ _ _ =>
      have same : peerOf (inst.updateService target fun service =>
          { service with base := { service.base with userdata := user } }) reference =
            peerOf inst reference := by
        rw [peer_update]
        split_ifs <;> rfl
      exact same.trans (silent (by rw [msgType]; simp) (by rw [msgType]; simp))

/-- A service either has a first answer among the messages or is left as it was. -/
theorem exists_peer_left {inst : Instance} {reference : ServiceRef} {peer : Peer}
    (entered : peerOf inst reference = some peer) (txPos count : Nat) :
    ∃ left, PeerLeft inst txPos reference count left := by
  classical
  by_cases answers : ∃ answer, answer < count ∧ ∃ message,
      storedMessage inst txPos answer = .ok message ∧ receiverRef message = reference ∧
        peer.after message ≠ peer
  · rcases Nat.find_spec answers with ⟨order, message, stored, addressed, changes⟩
    refine ⟨_, .answered entered order ⟨stored, addressed, changes, ?_⟩⟩
    intro earlier before other found here
    by_contra changed
    exact Nat.find_min answers before ⟨Nat.lt_trans before order, other, found, here, changed⟩
  · refine ⟨peer, .start entered ?_⟩
    intro earlier order other found here
    by_contra changed
    exact answers ⟨earlier, order, other, found, here, changed⟩

/-- One more message. -/
theorem peer_left_succ {inst : Instance} {txPos count : Nat} {reference : ServiceRef} {after : Peer}
    {message : SlotMessage} (left : PeerLeft inst txPos reference (count + 1) after)
    (stored : storedMessage inst txPos count = .ok message) :
    ∃ before, PeerLeft inst txPos reference count before ∧
      after = if receiverRef message = reference then before.after message else before := by
  rcases left with ⟨entered, unchanged⟩ | @⟨peer, answer, message', entered, order, first⟩
  · refine ⟨after, .start entered fun earlier order => unchanged earlier (Nat.lt_succ_of_lt order),
      ?_⟩
    split_ifs with here
    · exact (unchanged count (Nat.lt_succ_self count) message stored here).symm
    · rfl
  · rcases Nat.lt_succ_iff_lt_or_eq.mp order with before | now
    · refine ⟨_, .answered entered before first, ?_⟩
      split_ifs
      · exact (peer_after_changed first.changes message).symm
      · rfl
    · subst now
      refine ⟨peer, .start entered first.first, ?_⟩
      have same := first.stored.symm.trans stored
      rw [Except.ok.injEq] at same
      subst same
      rw [if_pos first.addressed]

theorem dispatch_chain_succ {inst later : Instance} {txPos count : Nat}
    (cursor : CursorAligned inst)
    (accepted : dispatchChain inst txPos (count + 1) = .ok later) :
    ∃ earlier message, dispatchChain inst txPos count = .ok earlier ∧
      storedMessage inst txPos count = .ok message ∧ dispatch earlier message = .ok later := by
  simp only [dispatchChain, bind, Except.bind] at accepted
  cases front : dispatchChain inst txPos count with
  | error panic => simp [front] at accepted
  | ok earlier =>
      rw [chain_message_eq cursor] at accepted
      cases stored : storedMessage inst txPos count with
      | error panic => simp [front, stored] at accepted
      | ok message =>
          simp only [front, stored] at accepted
          exact ⟨earlier, message, rfl, rfl, accepted⟩

/-- The service in the instance of the loop is the one the answers have left. -/
theorem chain_peer {inst later : Instance} {txPos count : Nat} {reference : ServiceRef}
    {left : Peer} (cursor : CursorAligned inst)
    (accepted : dispatchChain inst txPos count = .ok later)
    (leaves : PeerLeft inst txPos reference count left) : peerOf later reference = some left := by
  induction count generalizing later left with
  | zero =>
      rw [dispatchChain, Except.ok.injEq] at accepted
      rw [← accepted]
      cases leaves with
      | start entered _ => exact entered
      | answered _ order _ => exact absurd order (Nat.not_lt_zero _)
  | succ count ih =>
      rcases dispatch_chain_succ cursor accepted with ⟨earlier, message, front, stored, handled⟩
      rcases peer_left_succ leaves stored with ⟨before, left', rfl⟩
      rw [dispatched_peer (dispatch_cases handled), ih front left']
      rfl

theorem dispatch_chain_consistent {inst later : Instance} {txPos count : Nat}
    (cursor : CursorAligned inst) (consistent : Consistent inst)
    (accepted : dispatchChain inst txPos count = .ok later) : Consistent later := by
  induction count generalizing later with
  | zero =>
      rw [dispatchChain, Except.ok.injEq] at accepted
      rw [← accepted]
      exact consistent
  | succ count ih =>
      rcases dispatch_chain_succ cursor accepted with ⟨earlier, message, front, _, handled⟩
      exact dispatch_consistent (ih front) (dispatch_cases handled)

/-- An accepted message for a service has found one that does not refuse it. -/
theorem accepted_by_service {inst next : Instance} {message : SlotMessage}
    (handled : dispatch inst message = .ok next) (asks : AsksForService message) :
    ∃ service, InUse inst.state (receiverRef message) service ∧
      ¬(peerOfService service).Refuses message := by
  rcases asks with ⟨msgType, idType, needs⟩
  simp only [dispatch, idType] at handled
  cases received : receiverOf inst.state msgType (dstPortFromId message.header.msgid)
      (srcPortFromId message.header.msgid) with
  | error panic => simp [received] at handled
  | ok receiver =>
      rcases receiver_of_some needs received with ⟨_, service, used, agrees⟩
      refine ⟨service, used, ?_⟩
      rintro (unused | ⟨isClose, clash⟩)
      · exact used.2 unused
      · rw [idType, Option.some.injEq] at isClose
        exact agrees isClose clash

theorem accepted_addressed {inst next : Instance} {message : SlotMessage}
    (handled : dispatch inst message = .ok next) : Addressed inst message := by
  have served : ∀ {msgType}, msgTypeFromId message.header.msgid = some msgType →
      (msgType = .openAck ∨ msgType = .close ∨ msgType = .data ∨ msgType = .bulkRxDone ∨
        msgType = .bulkTxDone) → NeedsService msgType → Addressed inst message := by
    intro msgType idType kind needs
    rcases accepted_by_service handled ⟨msgType, idType, needs⟩ with ⟨service, used, _⟩
    exact .inr (.inr ⟨⟨msgType, idType, kind⟩, service, used⟩)
  cases dispatch_cases handled with
  | connect msgType => exact .inl msgType
  | ignored msgType kinds =>
      rcases kinds with rfl | rfl | rfl
      · exact .inr (.inl msgType)
      · exact served msgType (by simp) (by simp [NeedsService])
      · exact served msgType (by simp) (by simp [NeedsService])
  | acknowledged msgType _ => exact served msgType (by simp) (by simp [NeedsService])
  | closed msgType _ _ => exact served msgType (by simp) (by simp [NeedsService])
  | dropped msgType _ _ => exact served msgType (by simp) (by simp [NeedsService])
  | delivered msgType _ _ _ _ _ => exact served msgType (by simp) (by simp [NeedsService])

/-- Whether a message has a service depends on the peers alone. -/
theorem in_use_iff_peer {inst : Instance} {reference : ServiceRef} :
    (∃ service, InUse inst.state reference service) ↔
      ∃ peer, peerOf inst reference = some peer ∧ peer.srvstate ≠ .free := by
  constructor
  · rintro ⟨service, stored, used⟩
    exact ⟨peerOfService service, by rw [peerOf, stored]; rfl, used⟩
  · rintro ⟨peer, found, used⟩
    rw [peerOf, Option.map_eq_some_iff] at found
    rcases found with ⟨service, stored, rfl⟩
    exact ⟨service, stored, used⟩

/-- While no service refuses it, the handler accepts what it knows. -/
theorem accepted_unless_refused {inst later : Instance} {message : SlotMessage}
    (consistent : Consistent later) (known : Addressed inst message)
    (accepts : AsksForService message → ∃ left, peerOf later (receiverRef message) = some left ∧
      ¬left.Refuses message) :
    ∃ next, dispatch later message = .ok next := by
  have agrees : CloseAgrees later message := by
    intro isClose service used clash
    rcases accepts ⟨.close, isClose, .inr (.inl rfl)⟩ with ⟨left, found, unrefused⟩
    rw [peerOf, used.1, Option.map_some, Option.some.injEq] at found
    rw [← found] at unrefused
    exact unrefused (.inr ⟨isClose, clash⟩)
  apply dispatch_ok consistent _ agrees
  rcases known with isConnect | isPadding | ⟨⟨msgType, idType, kind⟩, _⟩
  · exact .inl isConnect
  · exact .inr (.inl isPadding)
  · have needs : NeedsService msgType := by
      rcases kind with rfl | rfl | rfl | rfl | rfl <;> simp [NeedsService]
    rcases accepts ⟨msgType, idType, needs⟩ with ⟨left, found, unrefused⟩
    refine .inr (.inr ⟨⟨msgType, idType, kind⟩, in_use_iff_peer.mpr ⟨left, found, ?_⟩⟩)
    intro unused
    exact unrefused (.inl unused)

theorem asked_in_use {inst : Instance} {message : SlotMessage} (known : Addressed inst message)
    (asks : AsksForService message) :
    ∃ service, InUse inst.state (receiverRef message) service := by
  rcases asks with ⟨msgType, idType, needs⟩
  rcases known with isConnect | isPadding | ⟨_, used⟩
  · rw [isConnect, Option.some.injEq] at idType
    simp [← idType, NeedsService] at needs
  · rw [isPadding, Option.some.injEq] at idType
    simp [← idType, NeedsService] at needs
  · exact used

/-- No message puts a service to use. -/
theorem chain_in_use {inst later : Instance} {txPos count : Nat} {reference : ServiceRef}
    (cursor : CursorAligned inst) (accepted : dispatchChain inst txPos count = .ok later)
    (used : ∃ service, InUse later.state reference service) :
    ∃ service, InUse inst.state reference service := by
  induction count generalizing later with
  | zero =>
      rw [dispatchChain, Except.ok.injEq] at accepted
      rw [accepted]
      exact used
  | succ count ih =>
      rcases dispatch_chain_succ cursor accepted with ⟨earlier, message, front, _, handled⟩
      apply ih front
      rw [in_use_iff_peer] at used ⊢
      rcases used with ⟨left, found, inUse⟩
      rw [dispatched_peer (dispatch_cases handled), Option.map_eq_some_iff] at found
      rcases found with ⟨before, stored, rfl⟩
      refine ⟨before, stored, ?_⟩
      intro unused
      rw [peer_after_free unused, ite_self] at inUse
      exact inUse unused

/-- The first message that is not accepted. -/
theorem exists_first_refused {inst : Instance} {txPos count : Nat} {panic : Panic}
    (stopped : dispatchChain inst txPos count = .error panic) :
    ∃ earlier later panic, dispatchChain inst txPos earlier = .ok later ∧
      dispatchChain inst txPos (earlier + 1) = .error panic := by
  induction count generalizing panic with
  | zero => simp [dispatchChain] at stopped
  | succ count ih =>
      cases front : dispatchChain inst txPos count with
      | error earlier => exact ih front
      | ok later => exact ⟨count, later, panic, front, stopped⟩

/-- The stored messages and the service table decide whether the handler stops. -/
theorem chain_refused_iff {inst : Instance} (cursor : CursorAligned inst)
    (consistent : Consistent inst) (txPos : Nat) :
    (∃ count, RefusedAt inst txPos count) ↔ PollRefused inst txPos := by
  constructor
  · rintro ⟨_, _, stopped⟩
    rcases exists_first_refused stopped with ⟨count, later, panic, front, refused⟩
    cases stored : storedMessage inst txPos count with
    | error panic => exact .noSlot stored
    | ok message =>
        by_cases known : Addressed inst message
        · by_contra unrefused
          have inOrder := dispatch_chain_consistent cursor consistent front
          have accepts : AsksForService message →
              ∃ left, peerOf later (receiverRef message) = some left ∧
                ¬left.Refuses message := by
            intro asks
            rcases in_use_iff_peer.mp (asked_in_use known asks) with ⟨peer, entered, _⟩
            rcases exists_peer_left entered txPos count with ⟨left, leaves⟩
            refine ⟨left, chain_peer cursor front leaves, ?_⟩
            intro refuses
            exact unrefused (.refused stored asks leaves refuses)
          rcases accepted_unless_refused inOrder known accepts with ⟨next, handled⟩
          simp [dispatchChain, bind, Except.bind, front, chain_message_eq cursor, stored,
            handled] at refused
        · exact .unaddressed stored known
  · intro refusal
    by_contra never
    have accepted : ∀ count, ∃ later, dispatchChain inst txPos count = .ok later := by
      intro count
      cases chain : dispatchChain inst txPos count with
      | ok later => exact ⟨later, rfl⟩
      | error panic =>
          rcases exists_first_refused chain with ⟨count, _, panic, _, refused⟩
          exact absurd ⟨count, panic, refused⟩ never
    have taken : ∀ count, ∃ earlier message next, dispatchChain inst txPos count = .ok earlier ∧
        storedMessage inst txPos count = .ok message ∧ dispatch earlier message = .ok next := by
      intro count
      rcases accepted (count + 1) with ⟨next, chain⟩
      rcases dispatch_chain_succ cursor chain with ⟨earlier, message, front, found, handled⟩
      exact ⟨earlier, message, next, front, found, handled⟩
    cases refusal with
    | @noSlot count _ outside =>
        rcases taken count with ⟨_, _, _, _, found, _⟩
        rw [outside] at found
        simp at found
    | @unaddressed count message stored unknown =>
        rcases taken count with ⟨earlier, message', next, front, found, handled⟩
        rw [stored, Except.ok.injEq] at found
        subst found
        apply unknown
        rcases accepted_addressed handled with isConnect | isPadding | ⟨kind, used⟩
        · exact .inl isConnect
        · exact .inr (.inl isPadding)
        · exact .inr (.inr ⟨kind, chain_in_use cursor front used⟩)
    | @refused count message left stored asks leaves refuses =>
        rcases taken count with ⟨earlier, message', next, front, found, handled⟩
        rw [stored, Except.ok.injEq] at found
        subst found
        rcases accepted_by_service handled asks with ⟨service, used, unrefused⟩
        have same := chain_peer cursor front leaves
        rw [peerOf, used.1, Option.map_some, Option.some.injEq] at same
        rw [same] at unrefused
        exact unrefused refuses

/-- An iteration of the loop, or anything else the two sides do. The receive cursor belongs
to the handler, and the other calls leave the service table in order. -/
inductive PollStep : Instance → ReadLabel → Instance → Prop where
  | iterated {before after : Instance} {txPos : Nat} {message : SlotMessage}
      (unfinished : rxPosOf before ≠ txPos)
      (received : receiveMessageWrapping before txPos = .ok (message, after)) :
      PollStep before (.iterated (openRxSlot before.state.slotState txPos) message) after
  | environment {before after : Instance} (rxPos : rxPosOf after = rxPosOf before)
      (rxData : after.state.slotState.rxData = before.state.slotState.rxData)
      (consistent : Consistent after) :
      PollStep before .environment after

theorem PollStep.reads {before after : Instance} {label : ReadLabel}
    (step : PollStep before label after) : ReadStep before label after := by
  cases step with
  | iterated unfinished received => exact .iterated unfinished received
  | environment rxPos rxData _ => exact .environment rxPos rxData

theorem iterated_consistent {before after : Instance} {txPos : Nat} {message : SlotMessage}
    (consistent : Consistent before)
    (received : receiveMessageWrapping before txPos = .ok (message, after)) :
    Consistent after := by
  rcases receive_message_wrapping_cases received with ⟨middle, dispatched, rfl⟩
  have inOrder := dispatch_consistent consistent dispatched
  exact ⟨inOrder.quotas, inOrder.ports, inOrder.ordered⟩

/-- What a poll relies on holds before every poll. -/
theorem poll_run_invariant {raw : SlotZero} {memory : Memory} {totalMemory : Nat}
    {fresh : State} {labels : List ReadLabel} {inst : Instance}
    (made : freshState raw memory totalMemory = .ok fresh)
    (run : Run PollStep (freshInstance fresh) labels inst) :
    CursorAligned inst ∧ Consistent inst := by
  apply run.invariant (fun _ inst => CursorAligned inst ∧ Consistent inst)
  · have facts := fresh_state_facts made
    exact ⟨fresh_cursor_aligned facts, fresh_consistent facts⟩
  · rintro labels before label after _ ⟨cursor, consistent⟩ step
    refine ⟨read_step_cursor_aligned cursor step.reads, ?_⟩
    cases step with
    | iterated _ received => exact iterated_consistent consistent received
    | environment _ _ inOrder => exact inOrder

/-- In every state of every run, with any content of the shared memory: a poll ends exactly if
the strides of stored messages add up to the published `tx_pos`, or the handler stops at one
of them. -/
theorem poll_ends_iff {raw : SlotZero} {memory : Memory} {totalMemory : Nat}
    {fresh : State} {labels : List ReadLabel} {inst : Instance}
    (made : freshState raw memory totalMemory = .ok fresh)
    (run : Run PollStep (freshInstance fresh) labels inst) :
    (∃ fuel, slotHandlerWrapping fuel inst ≠ .outOfFuel) ↔
      TxPosReached inst (txPosOf inst) ∨ PollRefused inst (txPosOf inst) := by
  rcases poll_run_invariant made run with ⟨cursor, consistent⟩
  have small : txPosOf inst < 2 ^ 64 :=
    Nat.lt_trans (UInt32.toNat_lt (remoteState inst).txPos) (by decide)
  rw [← chain_reaches_iff cursor small, ← chain_refused_iff cursor consistent, ← exists_or]
  exact receive_loop_terminates_iff inst (txPosOf inst)

/-- Behind CONNECT, with a `tx_pos` that is back at zero: the PADDING ends with the open slot,
and the strides of the slot of `tx_pos` add up to one slot size. -/
theorem wrapped_tx_pos_reached :
    ∃ fresh first,
      freshState blankSlotZero (fun _ => 0) (65 * vchiqSlotSize) = .ok fresh ∧
      rxPosOf (freshInstance fresh) = 0 ∧
      receiveMessageWrapping (remotePublished fresh 8) 8 = .ok (remoteConnect, first) ∧
      rxPosOf (republished first 0) = 8 ∧ TxPosReached (republished first 0) 0 := by
  rcases (⟨_, _, _, rfl, rfl, rfl, rfl, rfl, rfl, rfl, rfl, rfl, rfl⟩ : ∃ fresh first slots,
      freshState blankSlotZero (fun _ => 0) (65 * vchiqSlotSize) = .ok fresh ∧
      rxPosOf (freshInstance fresh) = 0 ∧
      receiveMessageWrapping (remotePublished fresh 8) 8 = .ok (remoteConnect, first) ∧
      (republished first 0).state.slotState.slotData = slots ∧
      rxPosOf (republished first 0) = 8 ∧ openSlot (republished first 0) 0 = 2 ∧
      reopenedSlot (republished first 0) 0 = 2 ∧
      returns vchiqSlotSize (storedStride slots 2) 8 = some 1 ∧
      walk vchiqSlotSize (storedStride slots 2) 8 1 = 4096 ∧
      walk vchiqSlotSize (storedStride slots 2) 4096 2 = 8192) with
    ⟨fresh, first, slots, made, start, connect, same, position, opened, reopened, left, slotEnd,
      round⟩
  refine ⟨fresh, first, made, start, connect, position, ?_⟩
  unfold TxPosReached RelayReaches
  rw [same, position, opened, reopened, left]
  simp only [slotEnd]
  refine .inr (.inr ⟨0, 2, 4096, by decide, by decide, ⟨round, by decide⟩, ?_⟩)
  rw [walk_zero]
  decide

/-- The poll of this state comes to an end, after as many rounds as it takes `rx_pos` to wrap. -/
theorem wrapped_tx_pos_ends :
    ∃ inst, rxPosOf inst = 8 ∧ txPosOf inst = 0 ∧
      ∃ fuel, slotHandlerWrapping fuel inst ≠ .outOfFuel := by
  rcases wrapped_tx_pos_reached with ⟨fresh, first, made, start, connect, position, reached⟩
  have steady := fresh_consistent (fresh_state_facts made)
  have unread : rxPosOf (remotePublished fresh 8) ≠ 8 := by
    rw [show rxPosOf (remotePublished fresh 8) = 0 from start]
    decide
  have published : PollStep (freshInstance fresh) .environment (remotePublished fresh 8) :=
    .environment rfl rfl ⟨steady.quotas, steady.ports, steady.ordered⟩
  have run : Run PollStep (freshInstance fresh) [.environment, .iterated _ remoteConnect] first :=
    (Run.refl.snoc published).snoc (.iterated unread connect)
  have consistent := (poll_run_invariant made run).2
  have wrapped : PollStep first .environment (republished first 0) :=
    .environment rfl rfl ⟨consistent.quotas, consistent.ports, consistent.ordered⟩
  exact ⟨republished first 0, position, rfl,
    (poll_ends_iff made (run.snoc wrapped)).mpr (.inl reached)⟩

end RuspiroVchiq.Receive
