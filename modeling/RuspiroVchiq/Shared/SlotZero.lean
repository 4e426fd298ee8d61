import RuspiroVchiq.Shared.Slot

/-!
# SlotZero and the slot layout

The descriptor both sides share and the partition of the slots that
`SlotZeroAccessor::initialize` announces in it. The VideoCore is the master
(the accessor's remote side), the ARM the slave (its local side). Before
initialisation the shared memory holds whatever the allocator returned, hence
the `raw` argument. Events and debug counters carry no message data and are
left out.
-/

namespace RuspiroVchiq.Shared

open RuspiroVchiq.Config

set_option autoImplicit false

/-- `tx_pos` is a stream position of 32 bits: the side that publishes lets it wrap. -/
structure SharedState where
  initialized : Nat
  slotFirst : Nat
  slotLast : Nat
  slotSync : Nat
  txPos : UInt32
  slotQueue : Fin vchiqMaxSlotsPerSide → Nat

structure SlotZero where
  magic : UInt32
  version : Nat
  versionMin : Nat
  slotZeroSize : Nat
  slotSize : Nat
  maxSlots : Nat
  maxSlotsPerSide : Nat
  master : SharedState
  slave : SharedState

/-- `mem::size_of::<SharedState>()`: sixteen bytes of slot indices, four events
of three words, `tx_pos`, `slot_queue_recycle`, the slot queue and eleven debug
words. -/
def sharedStateBytes : Nat := 4 * 4 + 4 * 12 + 4 + 4 + 4 * vchiqMaxSlotsPerSide + 4 * 11

/-- `mem::size_of::<SlotZero>()`. -/
def slotZeroBytes : Nat :=
  4 + 2 + 2 + 4 + 4 + 4 + 4 + 2 * 4 + 2 * sharedStateBytes + vchiqMaxSlots * 4

def vchiqSlotZeroSlots : Nat := (slotZeroBytes + vchiqSlotSize - 1) / vchiqSlotSize

theorem slot_zero_slots_eq : vchiqSlotZeroSlots = 1 := by decide

def queueIndex (index : Nat) : Fin vchiqMaxSlotsPerSide :=
  ⟨index &&& vchiqSlotQueueMask, by
    rw [and_slot_queue_mask]
    exact Nat.mod_lt _ (by decide)⟩

/-- The loop that fills the initial slot queue; an index past the array is a
panic. -/
def fillSlotQueue (slotQueue : Fin vchiqMaxSlotsPerSide → Nat) (first available : Nat) :
    Except Panic (Fin vchiqMaxSlotsPerSide → Nat) :=
  if available ≤ vchiqMaxSlotsPerSide then
    .ok fun index => if index.val < available then index.val + first else slotQueue index
  else .error .indexOutOfRange

/-- Initialise the descriptor for a memory of the given size and return it with
the number of data slots. -/
def initializeSlotZero (raw : SlotZero) (totalMemory : Nat) :
    Except Panic (SlotZero × Nat) := do
  let firstDataSlot := vchiqSlotZeroSlots
  if totalMemory / vchiqSlotSize < firstDataSlot then
    throw .arithmeticOverflow
  let numSlots := totalMemory / vchiqSlotSize - firstDataSlot
  if numSlots < 4 then
    throw .assertFailed
  let slotFirst := asU32 (firstDataSlot + numSlots / 2 + 1)
  let slotLast := asU32 (firstDataSlot + numSlots - 1)
  if slotLast < slotFirst then
    throw .arithmeticOverflow
  let slotQueueAvailable := slotLast - slotFirst + 1
  let slotQueue ← fillSlotQueue raw.slave.slotQueue slotFirst slotQueueAvailable
  return (
    { magic := 0x56434849
      version := 8
      versionMin := 3
      slotZeroSize := asU32 slotZeroBytes
      slotSize := asU32 vchiqSlotSize
      maxSlots := asU32 vchiqMaxSlots
      maxSlotsPerSide := asU32 vchiqMaxSlotsPerSide
      master :=
        { raw.master with
          slotSync := asU32 firstDataSlot
          slotFirst := asU32 (firstDataSlot + 1)
          slotLast := asU32 (firstDataSlot + numSlots / 2 - 1) }
      slave :=
        { initialized := 1
          slotSync := asU32 (firstDataSlot + numSlots / 2)
          slotFirst := slotFirst
          slotLast := slotLast
          txPos := 0
          slotQueue := slotQueue } },
    numSlots)

/-- What an initialised descriptor says about the slots when the memory yields
an admissible number of data slots. -/
structure SlotLayout (slotZero : SlotZero) (numSlots : Nat) : Prop where
  lower : 4 ≤ numSlots
  upper : numSlots ≤ vchiqMaxSlots
  masterSync : slotZero.master.slotSync = vchiqSlotZeroSlots
  masterFirst : slotZero.master.slotFirst = vchiqSlotZeroSlots + 1
  masterLast : slotZero.master.slotLast = vchiqSlotZeroSlots + numSlots / 2 - 1
  slaveSync : slotZero.slave.slotSync = vchiqSlotZeroSlots + numSlots / 2
  slaveFirst : slotZero.slave.slotFirst = vchiqSlotZeroSlots + numSlots / 2 + 1
  slaveLast : slotZero.slave.slotLast = vchiqSlotZeroSlots + numSlots - 1
  queue : ∀ index : Fin vchiqMaxSlotsPerSide,
    index.val < slotZero.slave.slotLast - slotZero.slave.slotFirst + 1 →
      slotZero.slave.slotQueue index = index.val + slotZero.slave.slotFirst

/-- Slot indices from `first` to `last`, both included. -/
def slotRange (first last : Nat) : List Nat := List.range' first (last + 1 - first)

/-- SlotZero, the sync and data slots of the master and the sync and data slots
of the slave, in this order. -/
def slotPartition (slotZero : SlotZero) : List Nat :=
  List.range vchiqSlotZeroSlots ++
    [slotZero.master.slotSync] ++ slotRange slotZero.master.slotFirst slotZero.master.slotLast ++
    [slotZero.slave.slotSync] ++ slotRange slotZero.slave.slotFirst slotZero.slave.slotLast

theorem initialize_layout {raw slotZero : SlotZero} {totalMemory numSlots : Nat}
    (initialized : initializeSlotZero raw totalMemory = .ok (slotZero, numSlots))
    (upper : numSlots ≤ vchiqMaxSlots) :
    SlotLayout slotZero numSlots ∧ slotZero.slave.txPos = 0 := by
  simp only [initializeSlotZero, slot_zero_slots_eq, bind, Except.bind, pure, Except.pure,
    throw, throwThe, MonadExceptOf.throw, fillSlotQueue, asU32] at initialized
  simp only [vchiqMaxSlots] at upper
  split_ifs at initialized with noMemory tooFew reversed fits
  · simp only [Except.ok.injEq, Prod.mk.injEq] at initialized
    obtain ⟨descriptor, count⟩ := initialized
    subst count
    subst descriptor
    refine ⟨⟨by omega, upper, ?_, ?_, ?_, ?_, ?_, ?_, ?_⟩, rfl⟩
    all_goals simp only [slot_zero_slots_eq]
    case refine_7 =>
        intro index bound
        rw [if_pos bound]
    all_goals omega

theorem range_snoc_range (start left right : Nat) :
    List.range' start left ++ [start + left] ++ List.range' (start + left + 1) right =
      List.range' start (left + 1 + right) := by
  have first := List.range'_append_1 (s := start) (m := left) (n := 1 + right)
  have second := List.range'_append_1 (s := start + left) (m := 1) (n := right)
  rw [← second] at first
  simpa [Nat.add_assoc, List.append_assoc] using first

/-- The announced slot groups partition the slots of the shared memory. -/
theorem slot_partition_eq_range {slotZero : SlotZero} {numSlots : Nat}
    (layout : SlotLayout slotZero numSlots) :
    slotPartition slotZero = List.range (vchiqSlotZeroSlots + numSlots) := by
  have lower := layout.lower
  have masterCount : slotZero.master.slotLast + 1 - slotZero.master.slotFirst =
      numSlots / 2 - 1 := by
    rw [layout.masterLast, layout.masterFirst]
    omega
  have slaveCount : slotZero.slave.slotLast + 1 - slotZero.slave.slotFirst =
      numSlots - numSlots / 2 - 1 := by
    rw [layout.slaveLast, layout.slaveFirst]
    omega
  have masterPart := range_snoc_range 0 vchiqSlotZeroSlots (numSlots / 2 - 1)
  have slavePart := range_snoc_range 0 (vchiqSlotZeroSlots + numSlots / 2)
    (numSlots - numSlots / 2 - 1)
  have masterLength : vchiqSlotZeroSlots + 1 + (numSlots / 2 - 1) =
      vchiqSlotZeroSlots + numSlots / 2 := by omega
  have total : vchiqSlotZeroSlots + numSlots / 2 + 1 + (numSlots - numSlots / 2 - 1) =
      vchiqSlotZeroSlots + numSlots := by omega
  rw [Nat.zero_add, masterLength] at masterPart
  rw [Nat.zero_add, total, ← masterPart] at slavePart
  rw [slotPartition, slotRange, slotRange, masterCount, slaveCount, layout.masterSync,
    layout.masterFirst, layout.slaveSync, layout.slaveFirst, List.range_eq_range',
    List.range_eq_range']
  exact slavePart

/-- Zeroed memory, as an allocator may return it. -/
def blankSlotZero : SlotZero where
  magic := 0
  version := 0
  versionMin := 0
  slotZeroSize := 0
  slotSize := 0
  maxSlots := 0
  maxSlotsPerSide := 0
  master := ⟨0, 0, 0, 0, 0, fun _ => 0⟩
  slave := ⟨0, 0, 0, 0, 0, fun _ => 0⟩

end RuspiroVchiq.Shared
