import RuspiroVchiq.Config
import RuspiroVchiq.Lib.ByteMemory
import Mathlib.Tactic.Ring
import Mathlib.Tactic.IntervalCases

/-!
# Slot messages

Message identifiers, the message header and the stride of a message in a slot,
as in `vchiq/shared/slotmessage.rs`. Identifiers are 32 bit words; the type of a
message sits in the top byte and the two ports in the 12 bit fields below it.
-/

namespace RuspiroVchiq.Shared

open RuspiroVchiq.Config
open RuspiroVchiq.Lib.ByteMemory

set_option autoImplicit false

inductive MessageType where
  | padding
  | connect
  | open
  | openAck
  | close
  | data
  | bulkRx
  | bulkTx
  | bulkRxDone
  | bulkTxDone
  | pause
  | resume
  | remoteUse
  | remoteRelease
  | remoteUseActive
  deriving DecidableEq, Repr

/-- The `repr(u32)` discriminants. -/
def MessageType.toU32 : MessageType → UInt32
  | .padding => 0
  | .connect => 1
  | .open => 2
  | .openAck => 3
  | .close => 4
  | .data => 5
  | .bulkRx => 6
  | .bulkTx => 7
  | .bulkRxDone => 8
  | .bulkTxDone => 9
  | .pause => 10
  | .resume => 11
  | .remoteUse => 12
  | .remoteRelease => 13
  | .remoteUseActive => 14

/-- `From<u32> for MessageType`; `none` is the `unreachable!()` arm. -/
def MessageType.fromU32 (orig : UInt32) : Option MessageType :=
  match orig.toNat with
  | 0 => some .padding
  | 1 => some .connect
  | 2 => some .open
  | 3 => some .openAck
  | 4 => some .close
  | 5 => some .data
  | 6 => some .bulkRx
  | 7 => some .bulkTx
  | 8 => some .bulkRxDone
  | 9 => some .bulkTxDone
  | 10 => some .pause
  | 11 => some .resume
  | 12 => some .remoteUse
  | 13 => some .remoteRelease
  | 14 => some .remoteUseActive
  | _ => none

theorem message_type_round_trip (msgType : MessageType) :
    MessageType.fromU32 msgType.toU32 = some msgType := by
  cases msgType <;> rfl

def makeMsgId (msgType : MessageType) (srcPort dstPort : UInt32) : UInt32 :=
  (msgType.toU32 <<< 24) ||| (srcPort <<< 12) ||| dstPort

def msgTypeFromId (id : UInt32) : Option MessageType := MessageType.fromU32 (id >>> 24)

def dstPortFromId (id : UInt32) : UInt32 := id &&& 0xfff

def srcPortFromId (id : UInt32) : UInt32 := (id >>> 12) &&& 0xfff

def vchiqMsgidPadding : UInt32 := makeMsgId .padding 0 0

structure SlotMessageHeader where
  msgid : UInt32
  size : UInt32
  deriving DecidableEq, Repr

structure SlotMessage where
  header : SlotMessageHeader
  data : List Byte
  deriving DecidableEq, Repr

/-- `mem::size_of::<SlotMessageHeader>()`: two 32 bit words. -/
abbrev headerSize : Nat := 8

/-- The padded size of a message. The header size is a power of two, so that
masking with `!(hdr_size - 1)` rounds down to one of its multiples. -/
def calcMsgStride (payloadSize : Nat) : Nat :=
  (headerSize + payloadSize + headerSize - 1) / headerSize * headerSize

theorem calc_msg_stride_dvd (payloadSize : Nat) : 8 ∣ calcMsgStride payloadSize :=
  Nat.dvd_mul_left _ _

theorem calc_msg_stride_bounds (payloadSize : Nat) :
    headerSize + payloadSize ≤ calcMsgStride payloadSize ∧
      calcMsgStride payloadSize < headerSize + payloadSize + 8 := by
  simp only [calcMsgStride, headerSize]
  omega

theorem calc_msg_stride_pos (payloadSize : Nat) : 0 < calcMsgStride payloadSize := by
  have bounds := calc_msg_stride_bounds payloadSize
  simp only [headerSize] at bounds
  omega

/-- The stride a reader of the message advances by. -/
def messageStride (message : SlotMessage) : Nat := calcMsgStride message.header.size.toNat

/-- The ports of an identifier always index the service table. -/
theorem dst_port_lt (id : UInt32) : (dstPortFromId id).toNat < vchiqMaxServices := by
  have masked : (dstPortFromId id).toNat = id.toNat % 2 ^ 12 := by
    simp only [dstPortFromId, UInt32.toNat_and]
    exact Nat.and_two_pow_sub_one_eq_mod id.toNat 12
  rw [masked]
  exact Nat.mod_lt _ (by decide)

theorem src_port_lt (id : UInt32) : (srcPortFromId id).toNat < vchiqMaxServices :=
  dst_port_lt (id >>> 12)

theorem make_msg_id_toNat (msgType : MessageType) (srcPort dstPort : UInt32)
    (srcBound : srcPort.toNat < 4096) (dstBound : dstPort.toNat < 4096) :
    (makeMsgId msgType srcPort dstPort).toNat =
      msgType.toU32.toNat * 2 ^ 24 + srcPort.toNat * 2 ^ 12 + dstPort.toNat := by
  have typeBound : msgType.toU32.toNat < 15 := by cases msgType <;> decide
  have typeShift : (msgType.toU32 <<< 24).toNat = msgType.toU32.toNat * 2 ^ 24 := by
    rw [UInt32.toNat_shiftLeft, Nat.shiftLeft_eq, show UInt32.toNat 24 % 32 = 24 from rfl]
    exact Nat.mod_eq_of_lt (by omega)
  have srcShift : (srcPort <<< 12).toNat = srcPort.toNat * 2 ^ 12 := by
    rw [UInt32.toNat_shiftLeft, Nat.shiftLeft_eq, show UInt32.toNat 12 % 32 = 12 from rfl]
    exact Nat.mod_eq_of_lt (by omega)
  have upper : msgType.toU32.toNat * 2 ^ 24 ||| srcPort.toNat * 2 ^ 12 =
      (msgType.toU32.toNat * 2 ^ 12 + srcPort.toNat) * 2 ^ 12 := by
    have disjoint := Nat.shiftLeft_add_eq_or_of_lt
      (show srcPort.toNat * 2 ^ 12 < 2 ^ 24 by omega) msgType.toU32.toNat
    rw [Nat.shiftLeft_eq] at disjoint
    rw [← disjoint]
    ring
  have lower := Nat.shiftLeft_add_eq_or_of_lt
    (show dstPort.toNat < 2 ^ 12 by omega) (msgType.toU32.toNat * 2 ^ 12 + srcPort.toNat)
  rw [Nat.shiftLeft_eq] at lower
  simp only [makeMsgId, UInt32.toNat_or, typeShift, srcShift, upper, ← lower]
  ring

theorem dst_port_make (msgType : MessageType) (srcPort dstPort : UInt32)
    (srcBound : srcPort.toNat < 4096) (dstBound : dstPort.toNat < 4096) :
    dstPortFromId (makeMsgId msgType srcPort dstPort) = dstPort := by
  apply UInt32.toNat_inj.mp
  have masked : (dstPortFromId (makeMsgId msgType srcPort dstPort)).toNat =
      (makeMsgId msgType srcPort dstPort).toNat % 2 ^ 12 := by
    simp only [dstPortFromId, UInt32.toNat_and]
    exact Nat.and_two_pow_sub_one_eq_mod _ 12
  rw [masked, make_msg_id_toNat msgType srcPort dstPort srcBound dstBound]
  omega

theorem src_port_make (msgType : MessageType) (srcPort dstPort : UInt32)
    (srcBound : srcPort.toNat < 4096) (dstBound : dstPort.toNat < 4096) :
    srcPortFromId (makeMsgId msgType srcPort dstPort) = srcPort := by
  apply UInt32.toNat_inj.mp
  have masked : (srcPortFromId (makeMsgId msgType srcPort dstPort)).toNat =
      (makeMsgId msgType srcPort dstPort).toNat / 2 ^ 12 % 2 ^ 12 := by
    simp only [srcPortFromId, UInt32.toNat_and, UInt32.toNat_shiftRight]
    rw [← Nat.shiftRight_eq_div_pow]
    exact Nat.and_two_pow_sub_one_eq_mod _ 12
  rw [masked, make_msg_id_toNat msgType srcPort dstPort srcBound dstBound]
  omega

theorem msg_type_make (msgType : MessageType) (srcPort dstPort : UInt32)
    (srcBound : srcPort.toNat < 4096) (dstBound : dstPort.toNat < 4096) :
    msgTypeFromId (makeMsgId msgType srcPort dstPort) = some msgType := by
  have shifted : makeMsgId msgType srcPort dstPort >>> 24 = msgType.toU32 := by
    apply UInt32.toNat_inj.mp
    rw [UInt32.toNat_shiftRight, make_msg_id_toNat msgType srcPort dstPort srcBound dstBound]
    rw [Nat.shiftRight_eq_div_pow, show UInt32.toNat 24 % 32 = 24 from rfl]
    omega
  rw [msgTypeFromId, shifted, message_type_round_trip]

/-- A destination of 0x1000, the value of an unconnected remote port, spills into
the source port. -/
theorem make_msg_id_spill (msgType : MessageType) (srcPort : UInt32) :
    makeMsgId msgType srcPort 0x1000 = makeMsgId msgType (srcPort ||| 1) 0 := by
  have shifted : (srcPort ||| 1) <<< 12 = (srcPort <<< 12) ||| 0x1000 :=
    UInt32.shiftLeft_or
  simp only [makeMsgId, shifted, UInt32.or_zero, UInt32.or_assoc]

theorem spilled_port_lt {srcPort : UInt32} (srcBound : srcPort.toNat < 4096) :
    (srcPort ||| 1).toNat < 4096 := by
  rw [UInt32.toNat_or]
  exact Nat.or_lt_two_pow srcBound (by decide : UInt32.toNat 1 < 2 ^ 12)

/-- Only an odd source port survives an unconnected remote port. -/
theorem src_port_make_spill (msgType : MessageType) {srcPort : UInt32}
    (srcBound : srcPort.toNat < 4096) :
    srcPortFromId (makeMsgId msgType srcPort 0x1000) = srcPort ↔ srcPort.toNat % 2 = 1 := by
  rw [make_msg_id_spill, src_port_make msgType _ 0 (spilled_port_lt srcBound) (by decide),
    ← UInt32.toNat_inj, UInt32.toNat_or]
  constructor
  · intro same
    rw [← same]
    simp
  · intro odd
    apply Nat.eq_of_testBit_eq
    intro bit
    cases bit with
    | zero => simp [odd]
    | succ bit =>
        have beyond : (UInt32.toNat 1).testBit (bit + 1) = false := by
          rw [Bool.eq_false_iff, Ne, UInt32.toNat_one, Nat.testBit_one_eq_true_iff_self_eq_zero]
          exact Nat.succ_ne_zero bit
        rw [Nat.testBit_or, beyond, Bool.or_false]

/-- The type is read back in any case. -/
theorem msg_type_make_spill (msgType : MessageType) (srcPort dstPort : UInt32)
    (srcBound : srcPort.toNat < 4096) (dstBound : dstPort.toNat ≤ 4096) :
    msgTypeFromId (makeMsgId msgType srcPort dstPort) = some msgType := by
  rcases Nat.lt_or_eq_of_le dstBound with inside | spill
  · exact msg_type_make msgType srcPort dstPort srcBound inside
  · have unconnected : dstPort = 0x1000 := UInt32.toNat_inj.mp spill
    rw [unconnected, make_msg_id_spill]
    exact msg_type_make msgType _ 0 (spilled_port_lt srcBound) (by decide)

end RuspiroVchiq.Shared
