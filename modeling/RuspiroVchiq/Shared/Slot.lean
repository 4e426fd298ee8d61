import RuspiroVchiq.Shared.SlotMessage

/-!
# Slot access

The slot array shared with the VideoCore as one flat byte memory: slot `i`
starts at byte `i * VCHIQ_SLOT_SIZE`. A typed access through `SlotMessage<T>` is
laid out as `repr(C)` prescribes, so that the payload of a type with an
alignment above the header size does not start directly behind the header. The
bytes a struct copy may place into layout padding are left as they were.
-/

namespace RuspiroVchiq.Shared

open RuspiroVchiq.Config
open RuspiroVchiq.Lib.ByteMemory

set_option autoImplicit false

structure SlotPosition where
  index : Nat
  offset : Nat
  deriving DecidableEq, Repr

structure SlotAccessor where
  inner : Memory
  len : Nat

/-- A value of a payload type `T`: its bytes and the alignment of `T`. The size
of a type is a multiple of its alignment. -/
structure Payload where
  alignLog : Nat
  bytes : List Byte
  aligned : 2 ^ alignLog ∣ bytes.length
  deriving DecidableEq

def Payload.align (payload : Payload) : Nat := 2 ^ payload.alignLog

/-- Offset of the field `data` in `SlotMessage<T>`. -/
def dataOffset (align : Nat) : Nat := (headerSize + align - 1) / align * align

theorem data_offset_of_small (alignLog : Nat) (small : 2 ^ alignLog ≤ headerSize) :
    dataOffset (2 ^ alignLog) = headerSize := by
  have logBound : alignLog ≤ 3 := by
    by_contra large
    have power : 2 ^ 4 ≤ 2 ^ alignLog := Nat.pow_le_pow_right (by decide) (by omega)
    simp only [headerSize] at small
    omega
  interval_cases alignLog <;> decide

def readHeader (memory : Memory) (address : Nat) : SlotMessageHeader where
  msgid := decodeU32 (read memory address 4)
  size := decodeU32 (read memory (address + 4) 4)

def writeHeader (memory : Memory) (address : Nat) (header : SlotMessageHeader) : Memory :=
  write (write memory address (encodeU32 header.msgid)) (address + 4) (encodeU32 header.size)

theorem read_header_write (memory : Memory) (address : Nat) (header : SlotMessageHeader) :
    readHeader (writeHeader memory address header) address = header := by
  have msgid : read (writeHeader memory address header) address 4 = encodeU32 header.msgid := by
    rw [writeHeader, read_write_disjoint _ _ _ _ _ (by omega)]
    simpa using read_write_same memory address (encodeU32 header.msgid)
  have size : read (writeHeader memory address header) (address + 4) 4 =
      encodeU32 header.size := by
    simpa [writeHeader] using
      read_write_same (write memory address (encodeU32 header.msgid)) (address + 4)
        (encodeU32 header.size)
  simp only [readHeader, msgid, size, decode_u32_encode]

theorem write_header_outside (memory : Memory) (address : Nat) (header : SlotMessageHeader)
    (target : Nat) (outside : target < address ∨ address + headerSize ≤ target) :
    writeHeader memory address header target = memory target := by
  simp only [headerSize] at outside
  rw [writeHeader, write_outside _ _ _ _ (by rw [encode_u32_length]; omega),
    write_outside _ _ _ _ (by rw [encode_u32_length]; omega)]

def slotAddress (slotPos : SlotPosition) : Nat :=
  slotPos.index * vchiqSlotSize + (slotPos.offset &&& vchiqSlotMask)

/-- Read the message at the position as a `SlotMessage<T>` for a type `T` with
the given alignment and size, let the closure change it and write it back. -/
def SlotAccessor.storeMessage (slots : SlotAccessor) (slotPos : SlotPosition)
    (align size : Nat) (f : SlotMessage → SlotMessage) : Except Panic SlotAccessor :=
  if slotPos.index = 0 then .error .assertFailed
  else if slots.len ≤ slotPos.index then .error .assertFailed
  else
    let address := slotAddress slotPos
    let message := f
      { header := readHeader slots.inner address
        data := read slots.inner (address + dataOffset align) size }
    .ok
      { slots with
        inner := write (writeHeader slots.inner address message.header)
          (address + dataOffset align) message.data }

/-- The header decides how many payload bytes are read behind it. -/
def SlotAccessor.readMessage (slots : SlotAccessor) (slotPos : SlotPosition) :
    Except Panic SlotMessage :=
  if slotPos.index = 0 then .error .assertFailed
  else if slots.len ≤ slotPos.index then .error .assertFailed
  else
    let address := slotAddress slotPos
    let header := readHeader slots.inner address
    .ok
      { header := header
        data := read slots.inner (address + headerSize) header.size.toNat }

def slotQueueIndexFromPos (pos : Nat) : Nat := pos / vchiqSlotSize

/-- The complete message, header and payload, is in memory at the address. -/
def Stored (memory : Memory) (address : Nat) (message : SlotMessage) : Prop :=
  readHeader memory address = message.header ∧
    message.header.size.toNat = message.data.length ∧
    read memory (address + headerSize) message.data.length = message.data

theorem Stored.congr {memory other : Memory} {address : Nat} {message : SlotMessage}
    (stored : Stored memory address message)
    (same : ∀ target, address ≤ target →
      target < address + headerSize + message.data.length → other target = memory target) :
    Stored other address message := by
  obtain ⟨header, size, payload⟩ := stored
  simp only [headerSize] at same
  have sameHeader : readHeader other address = readHeader memory address := by
    have msgid := read_congr other memory address 4
      (fun target lower upper => same target lower (by omega))
    have size := read_congr other memory (address + 4) 4
      (fun target lower upper => same target (by omega) (by omega))
    simp only [readHeader, msgid, size]
  have samePayload := read_congr other memory (address + headerSize) message.data.length
    (fun target lower upper => same target (by simp only [headerSize] at lower; omega)
      (by simpa only [headerSize] using upper))
  exact ⟨sameHeader.trans header, size, samePayload.trans payload⟩

theorem stored_after_write (memory : Memory) (address : Nat) (message : SlotMessage)
    (size : message.header.size.toNat = message.data.length) :
    Stored (write (writeHeader memory address message.header) (address + headerSize) message.data)
      address message := by
  refine ⟨?_, size, read_write_same _ _ _⟩
  have msgid : read (write (writeHeader memory address message.header) (address + headerSize)
      message.data) address 4 = read (writeHeader memory address message.header) address 4 :=
    read_write_disjoint _ _ _ _ _ (by simp only [headerSize]; omega)
  have sizeWord : read (write (writeHeader memory address message.header)
      (address + headerSize) message.data) (address + 4) 4 =
        read (writeHeader memory address message.header) (address + 4) 4 :=
    read_write_disjoint _ _ _ _ _ (by simp only [headerSize]; omega)
  calc
    readHeader _ address = readHeader (writeHeader memory address message.header) address := by
      simp only [readHeader, msgid, sizeWord]
    _ = message.header := read_header_write memory address message.header

/-- Reading at the position of a stored message gives exactly that message. -/
theorem read_message_of_stored {slots : SlotAccessor} {slotPos : SlotPosition}
    {message : SlotMessage} (positive : 0 < slotPos.index) (bound : slotPos.index < slots.len)
    (stored : Stored slots.inner (slotAddress slotPos) message) :
    slots.readMessage slotPos = .ok message := by
  obtain ⟨header, size, payload⟩ := stored
  have notZero : slotPos.index ≠ 0 := by omega
  have notOutside : ¬slots.len ≤ slotPos.index := by omega
  simp only [SlotAccessor.readMessage, if_neg notZero, if_neg notOutside, header, size, payload]

/-- What a read that passes the assertions tells. -/
theorem read_message_cases {slots : SlotAccessor} {slotPos : SlotPosition}
    {message : SlotMessage} (read : slots.readMessage slotPos = .ok message) :
    0 < slotPos.index ∧ slotPos.index < slots.len ∧
      message.header = readHeader slots.inner (slotAddress slotPos) := by
  unfold SlotAccessor.readMessage at read
  split_ifs at read with zero outside
  simp only [Except.ok.injEq] at read
  rw [← read]
  exact ⟨Nat.pos_of_ne_zero zero, Nat.lt_of_not_le outside, rfl⟩

/-- The effect of a store whose assertions pass. -/
theorem store_message_eq (slots : SlotAccessor) (slotPos : SlotPosition) (align size : Nat)
    (f : SlotMessage → SlotMessage) (positive : 0 < slotPos.index)
    (bound : slotPos.index < slots.len) :
    slots.storeMessage slotPos align size f = .ok
      { slots with
        inner :=
          let message := f
            { header := readHeader slots.inner (slotAddress slotPos)
              data := read slots.inner (slotAddress slotPos + dataOffset align) size }
          write (writeHeader slots.inner (slotAddress slotPos) message.header)
            (slotAddress slotPos + dataOffset align) message.data } := by
  have notZero : slotPos.index ≠ 0 := by omega
  have notOutside : ¬slots.len ≤ slotPos.index := by omega
  simp only [SlotAccessor.storeMessage, if_neg notZero, if_neg notOutside]

theorem store_message_len {slots stored : SlotAccessor} {slotPos : SlotPosition}
    {align size : Nat} {f : SlotMessage → SlotMessage}
    (success : slots.storeMessage slotPos align size f = .ok stored) : stored.len = slots.len := by
  unfold SlotAccessor.storeMessage at success
  split_ifs at success
  simp only [Except.ok.injEq] at success
  rw [← success]

end RuspiroVchiq.Shared
