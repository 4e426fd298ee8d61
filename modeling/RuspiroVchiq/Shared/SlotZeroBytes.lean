import RuspiroVchiq.Shared.SlotZero
import RuspiroVchiq.Lib.ReprC

/-!
# SlotZero as bytes

`vchiq/shared/slotzero.rs`, `sharedstate.rs`, `event.rs` and `slotinfo.rs` on the level of
the shared memory: the `#[repr(C)]` records as shapes, their accessors, which the macros
`volatile_getter!` and `volatile_setter!` generate for each field, and `initialize` with
every read and write it makes. The initialisation of the descriptor record is what these
bytes amount to.
-/

namespace RuspiroVchiq.Shared

open RuspiroVchiq.Config
open RuspiroVchiq.Lib.ByteMemory
open RuspiroVchiq.Lib.Regions
open RuspiroVchiq.Lib.ReprC

set_option autoImplicit false

/-- `armed`, `fired` and `event`. -/
def eventShape : Shape := .record [.word 2, .word 2, .word 2]

/-- `use_count` and `release_count`. -/
def slotInfoShape : Shape := .record [.word 1, .word 1]

/-- `DebugInfo::MAX`. -/
abbrev debugMax : Nat := 11

def sharedStateShape : Shape :=
  .record
    [.word 2, .word 2, .word 2, .word 2, eventShape, .word 2, eventShape, .word 2, eventShape,
      eventShape, .array (.word 2) vchiqMaxSlotsPerSide, .array (.word 2) debugMax]

def slotZeroShape : Shape :=
  .record
    [.word 2, .word 1, .word 1, .word 2, .word 2, .word 2, .word 2, .array (.word 2) 2,
      sharedStateShape, sharedStateShape, .array slotInfoShape vchiqMaxSlots]

/-- The records have the sizes the configuration is computed with, and no padding. -/
theorem slot_zero_shape_size :
    slotZeroShape.size = slotZeroBytes ∧ slotZeroShape.content = slotZeroBytes ∧
      sharedStateShape.size = sharedStateBytes := by
  decide

/-- The VideoCore's and the ARM's half of the descriptor. -/
inductive Side where
  | master
  | slave
  deriving DecidableEq, Repr

abbrev Side.index : Side → Nat
  | .master => 8
  | .slave => 9

namespace Field

abbrev magic : Path := [0]
abbrev version : Path := [1]
abbrev versionMin : Path := [2]
abbrev slotZeroSize : Path := [3]
abbrev slotSize : Path := [4]
abbrev maxSlots : Path := [5]
abbrev maxSlotsPerSide : Path := [6]
abbrev platformData (index : Nat) : Path := [7, index]

abbrev initialized (side : Side) : Path := [side.index, 0]
abbrev slotFirst (side : Side) : Path := [side.index, 1]
abbrev slotLast (side : Side) : Path := [side.index, 2]
abbrev slotSync (side : Side) : Path := [side.index, 3]
abbrev triggerArmed (side : Side) : Path := [side.index, 4, 0]
abbrev txPos (side : Side) : Path := [side.index, 5]
abbrev recycleArmed (side : Side) : Path := [side.index, 6, 0]
abbrev syncTriggerArmed (side : Side) : Path := [side.index, 8, 0]
abbrev syncReleaseArmed (side : Side) : Path := [side.index, 9, 0]
abbrev slotQueue (side : Side) (index : Nat) : Path := [side.index, 10, index]
abbrev debug (side : Side) (index : Nat) : Path := [side.index, 11, index]

end Field

/-- `FourCC::from`. -/
def fourccFrom (first second third fourth : UInt8) : UInt32 :=
  (first.toUInt32 <<< 24) ||| (second.toUInt32 <<< 16) ||| (third.toUInt32 <<< 8) |||
    fourth.toUInt32

structure SlotZeroAccessor where
  inner : Nat
  totalMemory : Nat

/-- `volatile_getter!`. -/
def SlotZeroAccessor.volatileGetter (zero : SlotZeroAccessor) (field : Path)
    (memory : Memory) : Nat :=
  slotZeroShape.get zero.inner field memory

/-- `volatile_setter!`, for the fields and values in the order in which they are set. -/
def SlotZeroAccessor.volatileSetters (zero : SlotZeroAccessor)
    (updates : List (Path × Nat)) (memory : Memory) : Memory :=
  slotZeroShape.setAll zero.inner updates memory

/-- The constants `initialize` announces. -/
def headerUpdates : List (Path × Nat) :=
  [(Field.magic, (fourccFrom 0x56 0x43 0x48 0x49).toNat), (Field.version, 8),
    (Field.versionMin, 3), (Field.slotZeroSize, asU32 slotZeroShape.size),
    (Field.slotSize, asU32 vchiqSlotSize), (Field.maxSlots, asU32 vchiqMaxSlots),
    (Field.maxSlotsPerSide, asU32 vchiqMaxSlotsPerSide)]

/-- The slot indices of both sides and the transmit position. -/
def slotUpdates (firstDataSlot numSlots : Nat) : List (Path × Nat) :=
  [(Field.slotSync .master, asU32 firstDataSlot),
    (Field.slotFirst .master, asU32 (firstDataSlot + 1)),
    (Field.slotLast .master, asU32 (firstDataSlot + numSlots / 2 - 1)),
    (Field.slotSync .slave, asU32 (firstDataSlot + numSlots / 2)),
    (Field.slotFirst .slave, asU32 (firstDataSlot + numSlots / 2 + 1)),
    (Field.slotLast .slave, asU32 (firstDataSlot + numSlots - 1)),
    (Field.txPos .slave, 0)]

/-- A write of the whole slot queue. -/
def queueUpdates (slotQueue : Fin vchiqMaxSlotsPerSide → Nat) : List (Path × Nat) :=
  (List.finRange vchiqMaxSlotsPerSide).map fun index =>
    (Field.slotQueue .slave index.val, slotQueue index)

/-- A write of the whole debug array. -/
def debugUpdates (debug : Fin debugMax → Nat) : List (Path × Nat) :=
  (List.finRange debugMax).map fun index => (Field.debug .slave index.val, debug index)

/-- The `init` of the four events and the final mark. -/
def eventUpdates : List (Path × Nat) :=
  [(Field.triggerArmed .slave, 0), (Field.syncTriggerArmed .slave, 0),
    (Field.syncReleaseArmed .slave, 0), (Field.recycleArmed .slave, 0),
    (Field.initialized .slave, 1)]

/-- The debug array with the number of its entries in the first one. -/
def debugEntries (debug : Fin debugMax → Nat) : Fin debugMax → Nat :=
  fun index => if index.val = 0 then debugMax else debug index

def SlotZeroAccessor.initializeBytes (zero : SlotZeroAccessor) (memory : Memory) :
    Except Panic (Memory × Nat) := do
  let firstDataSlot := (slotZeroShape.size + vchiqSlotSize - 1) / vchiqSlotSize
  if zero.totalMemory / vchiqSlotSize < firstDataSlot then
    throw .arithmeticOverflow
  let numSlots := zero.totalMemory / vchiqSlotSize - firstDataSlot
  if numSlots < 4 then
    throw .assertFailed
  let memory := zero.volatileSetters headerUpdates memory
  let memory := zero.volatileSetters (slotUpdates firstDataSlot numSlots) memory
  -- the indices just written are read back
  let slotQueue := fun index : Fin vchiqMaxSlotsPerSide =>
    zero.volatileGetter (Field.slotQueue .slave index.val) memory
  let first := zero.volatileGetter (Field.slotFirst .slave) memory
  let last := zero.volatileGetter (Field.slotLast .slave) memory
  if last < first then
    throw .arithmeticOverflow
  let slotQueue ← fillSlotQueue slotQueue first (last - first + 1)
  let memory := zero.volatileSetters (queueUpdates slotQueue) memory
  let debug := fun index : Fin debugMax =>
    zero.volatileGetter (Field.debug .slave index.val) memory
  let memory := zero.volatileSetters (debugUpdates (debugEntries debug)) memory
  return (zero.volatileSetters eventUpdates memory, numSlots)

/-- One side of the descriptor, as the bytes at the address say. -/
def sharedStateAt (base : Nat) (side : Side) (memory : Memory) : SharedState where
  initialized := slotZeroShape.get base (Field.initialized side) memory
  slotFirst := slotZeroShape.get base (Field.slotFirst side) memory
  slotLast := slotZeroShape.get base (Field.slotLast side) memory
  slotSync := slotZeroShape.get base (Field.slotSync side) memory
  txPos := UInt32.ofNat (slotZeroShape.get base (Field.txPos side) memory)
  slotQueue := fun index => slotZeroShape.get base (Field.slotQueue side index.val) memory

/-- The descriptor that the bytes at the address encode. -/
def slotZeroAt (base : Nat) (memory : Memory) : SlotZero where
  magic := UInt32.ofNat (slotZeroShape.get base Field.magic memory)
  version := slotZeroShape.get base Field.version memory
  versionMin := slotZeroShape.get base Field.versionMin memory
  slotZeroSize := slotZeroShape.get base Field.slotZeroSize memory
  slotSize := slotZeroShape.get base Field.slotSize memory
  maxSlots := slotZeroShape.get base Field.maxSlots memory
  maxSlotsPerSide := slotZeroShape.get base Field.maxSlotsPerSide memory
  master := sharedStateAt base .master memory
  slave := sharedStateAt base .slave memory

/-- All that is written, in one list. -/
def allUpdates (firstDataSlot numSlots : Nat) (slotQueue : Fin vchiqMaxSlotsPerSide → Nat)
    (debug : Fin debugMax → Nat) : List (Path × Nat) :=
  headerUpdates ++ slotUpdates firstDataSlot numSlots ++ queueUpdates slotQueue ++
    debugUpdates debug ++ eventUpdates

/-- The fields that are written. -/
def updatedFields : List Path :=
  headerUpdates.map Prod.fst ++ (slotUpdates 0 0).map Prod.fst ++
    (List.finRange vchiqMaxSlotsPerSide).map (fun index => Field.slotQueue .slave index.val) ++
    (List.finRange debugMax).map (fun index => Field.debug .slave index.val) ++
    eventUpdates.map Prod.fst

theorem all_updates_fields (firstDataSlot numSlots : Nat)
    (slotQueue : Fin vchiqMaxSlotsPerSide → Nat) (debug : Fin debugMax → Nat) :
    (allUpdates firstDataSlot numSlots slotQueue debug).map Prod.fst = updatedFields := by
  simp only [allUpdates, updatedFields, List.map_append, queueUpdates, debugUpdates, List.map_map]
  rfl

theorem updated_fields_nodup : updatedFields.Nodup := by
  decide +kernel

/-- Where an integer of four bytes is. -/
def IsWord (base : Nat) (field : Path) : Prop :=
  ∃ start, slotZeroShape.locate field base = some ⟨start, 4⟩

theorem side_word (base : Nat) (side : Side) :
    IsWord base (Field.initialized side) ∧ IsWord base (Field.slotFirst side) ∧
      IsWord base (Field.slotLast side) ∧ IsWord base (Field.slotSync side) ∧
      IsWord base (Field.txPos side) := by
  cases side with
  | master => exact ⟨⟨_, rfl⟩, ⟨_, rfl⟩, ⟨_, rfl⟩, ⟨_, rfl⟩, ⟨_, rfl⟩⟩
  | slave => exact ⟨⟨_, rfl⟩, ⟨_, rfl⟩, ⟨_, rfl⟩, ⟨_, rfl⟩, ⟨_, rfl⟩⟩

theorem slot_queue_word (base : Nat) (side : Side) (index : Fin vchiqMaxSlotsPerSide) :
    IsWord base (Field.slotQueue side index.val) := by
  cases side with
  | master => exact ⟨_, if_pos index.isLt⟩
  | slave => exact ⟨_, if_pos index.isLt⟩

section Reading

variable {base value firstDataSlot numSlots : Nat} {field : Path}
  {updates further : List (Path × Nat)} {memory : Memory}

theorem set_all_append :
    slotZeroShape.setAll base further (slotZeroShape.setAll base updates memory) =
      slotZeroShape.setAll base (updates ++ further) memory :=
  List.foldl_append.symm

theorem get_word (isWord : IsWord base field) (distinct : (updates.map Prod.fst).Nodup)
    (present : (field, value) ∈ updates) (small : value < 2 ^ 32) :
    slotZeroShape.get base field (slotZeroShape.setAll base updates memory) = value := by
  rcases isWord with ⟨start, found⟩
  rw [get_set_all_present found distinct present]
  exact Nat.mod_eq_of_lt small

theorem as_u32_lt (value : Nat) : asU32 value < 2 ^ 32 := Nat.mod_lt _ (by decide)

/-- The fields written before the slot queue. -/
theorem first_fields_eq (firstDataSlot numSlots : Nat) :
    (headerUpdates ++ slotUpdates firstDataSlot numSlots).map Prod.fst =
      (headerUpdates ++ slotUpdates 0 0).map Prod.fst :=
  rfl

theorem first_fields_nodup (firstDataSlot numSlots : Nat) :
    ((headerUpdates ++ slotUpdates firstDataSlot numSlots).map Prod.fst).Nodup := by
  rw [first_fields_eq]
  decide

/-- The indices that were written are read back. -/
theorem slot_bounds_read :
    slotZeroShape.get base (Field.slotFirst .slave)
        (slotZeroShape.setAll base (headerUpdates ++ slotUpdates firstDataSlot numSlots) memory) =
          asU32 (firstDataSlot + numSlots / 2 + 1) ∧
      slotZeroShape.get base (Field.slotLast .slave)
        (slotZeroShape.setAll base (headerUpdates ++ slotUpdates firstDataSlot numSlots) memory) =
          asU32 (firstDataSlot + numSlots - 1) := by
  rcases side_word base .slave with ⟨_, firstWord, lastWord, _, _⟩
  constructor
  · exact get_word firstWord (first_fields_nodup _ _) (by simp [slotUpdates]) (as_u32_lt _)
  · exact get_word lastWord (first_fields_nodup _ _) (by simp [slotUpdates]) (as_u32_lt _)

/-- The slot queue is still what it was when it is read. -/
theorem slot_queue_read (base firstDataSlot numSlots : Nat) (memory : Memory) :
    (fun index : Fin vchiqMaxSlotsPerSide =>
        slotZeroShape.get base (Field.slotQueue .slave index.val)
          (slotZeroShape.setAll base (headerUpdates ++ slotUpdates firstDataSlot numSlots)
            memory)) =
      (slotZeroAt base memory).slave.slotQueue := by
  funext index
  apply get_set_all_absent
  simp [headerUpdates, slotUpdates]

end Reading

/-- The debug array of the ARM's side. -/
def debugAt (base : Nat) (memory : Memory) : Fin debugMax → Nat :=
  fun index => slotZeroShape.get base (Field.debug .slave index.val) memory

/-- And so is the debug array. -/
theorem debug_read (base firstDataSlot numSlots : Nat) (memory : Memory)
    (slotQueue : Fin vchiqMaxSlotsPerSide → Nat) :
    (fun index : Fin debugMax =>
        slotZeroShape.get base (Field.debug .slave index.val)
          (slotZeroShape.setAll base
            (headerUpdates ++ slotUpdates firstDataSlot numSlots ++ queueUpdates slotQueue)
            memory)) =
      debugAt base memory := by
  funext index
  apply get_set_all_absent
  simp [headerUpdates, slotUpdates, queueUpdates]

/-- The bytes after an initialisation that left the given record. -/
def initializedBytes (base : Nat) (memory : Memory) (result : SlotZero × Nat) : Memory :=
  slotZeroShape.setAll base
    (allUpdates vchiqSlotZeroSlots result.2 result.1.slave.slotQueue
      (debugEntries (debugAt base memory))) memory

/-- Whether and how `initialize` ends is decided by the record, and the bytes it leaves are
those of the record it is left with. -/
theorem initialize_bytes_eq (zero : SlotZeroAccessor) (memory : Memory) :
    zero.initializeBytes memory =
      (initializeSlotZero (slotZeroAt zero.inner memory) zero.totalMemory).map fun result =>
        (initializedBytes zero.inner memory result, result.2) := by
  have blocks : (slotZeroShape.size + vchiqSlotSize - 1) / vchiqSlotSize = vchiqSlotZeroSlots := by
    decide
  simp only [SlotZeroAccessor.initializeBytes, initializeSlotZero, blocks,
    SlotZeroAccessor.volatileSetters, SlotZeroAccessor.volatileGetter, set_all_append,
    slot_bounds_read.1, slot_bounds_read.2, bind, Except.bind, pure, Except.pure, throw,
    throwThe, MonadExceptOf.throw]
  split_ifs with noMemory tooFew reversed
  · rfl
  · rfl
  · rfl
  · rw [slot_queue_read]
    split
    · rfl
    · rw [debug_read]
      rfl

/-- What a successful initialisation leaves, as a record. -/
theorem initialize_slot_zero_cases {raw : SlotZero} {totalMemory : Nat}
    {result : SlotZero × Nat} (initialized : initializeSlotZero raw totalMemory = .ok result) :
    ∃ slotQueue, (∀ index, slotQueue index = raw.slave.slotQueue index ∨
        slotQueue index < 2 ^ 32) ∧
      result.1 =
        { magic := 0x56434849
          version := 8
          versionMin := 3
          slotZeroSize := asU32 slotZeroBytes
          slotSize := asU32 vchiqSlotSize
          maxSlots := asU32 vchiqMaxSlots
          maxSlotsPerSide := asU32 vchiqMaxSlotsPerSide
          master :=
            { raw.master with
              slotSync := asU32 vchiqSlotZeroSlots
              slotFirst := asU32 (vchiqSlotZeroSlots + 1)
              slotLast := asU32 (vchiqSlotZeroSlots + result.2 / 2 - 1) }
          slave :=
            { initialized := 1
              slotSync := asU32 (vchiqSlotZeroSlots + result.2 / 2)
              slotFirst := asU32 (vchiqSlotZeroSlots + result.2 / 2 + 1)
              slotLast := asU32 (vchiqSlotZeroSlots + result.2 - 1)
              txPos := 0
              slotQueue := slotQueue } } := by
  simp only [initializeSlotZero, bind, Except.bind, pure, Except.pure, throw, throwThe,
    MonadExceptOf.throw, fillSlotQueue] at initialized
  split_ifs at initialized with noMemory tooFew reversed fits
  rw [← Except.ok.inj initialized]
  refine ⟨_, ?_, rfl⟩
  intro index
  by_cases inside : index.val <
      asU32 (vchiqSlotZeroSlots + (totalMemory / vchiqSlotSize - vchiqSlotZeroSlots) - 1) -
        asU32 (vchiqSlotZeroSlots + (totalMemory / vchiqSlotSize - vchiqSlotZeroSlots) / 2 + 1) + 1
  · right
    have bound := as_u32_lt
      (vchiqSlotZeroSlots + (totalMemory / vchiqSlotSize - vchiqSlotZeroSlots) - 1)
    rw [if_pos inside]
    omega
  · left
    rw [if_neg inside]

section Encoding

variable {base totalMemory firstDataSlot numSlots : Nat} {memory : Memory}
  {slotQueue : Fin vchiqMaxSlotsPerSide → Nat} {debug : Fin debugMax → Nat} {field : Path}

theorem all_updates_nodup :
    ((allUpdates firstDataSlot numSlots slotQueue debug).map Prod.fst).Nodup := by
  rw [all_updates_fields]
  exact updated_fields_nodup

theorem updated_word {value : Nat} (isWord : IsWord base field)
    (present : (field, value) ∈ allUpdates firstDataSlot numSlots slotQueue debug)
    (small : value < 2 ^ 32) :
    slotZeroShape.get base field
      (slotZeroShape.setAll base (allUpdates firstDataSlot numSlots slotQueue debug) memory) =
        value :=
  get_word isWord all_updates_nodup present small

theorem updated_half {value : Nat}
    (isHalf : ∃ start, slotZeroShape.locate field base = some ⟨start, 2⟩)
    (present : (field, value) ∈ allUpdates firstDataSlot numSlots slotQueue debug)
    (small : value < 2 ^ 16) :
    slotZeroShape.get base field
      (slotZeroShape.setAll base (allUpdates firstDataSlot numSlots slotQueue debug) memory) =
        value := by
  rcases isHalf with ⟨start, found⟩
  rw [get_set_all_present found all_updates_nodup present]
  exact Nat.mod_eq_of_lt small

theorem kept_field (absent : field ∉ updatedFields) :
    slotZeroShape.get base field
      (slotZeroShape.setAll base (allUpdates firstDataSlot numSlots slotQueue debug) memory) =
        slotZeroShape.get base field memory := by
  apply get_set_all_absent
  rw [all_updates_fields]
  exact absent

variable (base firstDataSlot numSlots memory slotQueue debug) in
theorem header_read :
    let after :=
      slotZeroShape.setAll base (allUpdates firstDataSlot numSlots slotQueue debug) memory
    UInt32.ofNat (slotZeroShape.get base Field.magic after) = 0x56434849 ∧
      slotZeroShape.get base Field.version after = 8 ∧
      slotZeroShape.get base Field.versionMin after = 3 ∧
      slotZeroShape.get base Field.slotZeroSize after = asU32 slotZeroBytes ∧
      slotZeroShape.get base Field.slotSize after = asU32 vchiqSlotSize ∧
      slotZeroShape.get base Field.maxSlots after = asU32 vchiqMaxSlots ∧
      slotZeroShape.get base Field.maxSlotsPerSide after = asU32 vchiqMaxSlotsPerSide := by
  have present : ∀ update ∈ headerUpdates,
      update ∈ allUpdates firstDataSlot numSlots slotQueue debug := by
    intro update member
    simp [allUpdates, member]
  have magicRead : slotZeroShape.get base Field.magic
      (slotZeroShape.setAll base (allUpdates firstDataSlot numSlots slotQueue debug) memory) =
        (fourccFrom 0x56 0x43 0x48 0x49).toNat :=
    updated_word ⟨_, rfl⟩ (present _ (by simp [headerUpdates])) (UInt32.toNat_lt _)
  refine ⟨?_, ?_, ?_, ?_, ?_, ?_, ?_⟩
  · rw [magicRead]
    decide
  · exact updated_half ⟨_, rfl⟩ (present _ (by simp [headerUpdates])) (by decide)
  · exact updated_half ⟨_, rfl⟩ (present _ (by simp [headerUpdates])) (by decide)
  · rw [← slot_zero_shape_size.1]
    exact updated_word ⟨_, rfl⟩ (present _ (by simp [headerUpdates])) (as_u32_lt _)
  · exact updated_word ⟨_, rfl⟩ (present _ (by simp [headerUpdates])) (as_u32_lt _)
  · exact updated_word ⟨_, rfl⟩ (present _ (by simp [headerUpdates])) (as_u32_lt _)
  · exact updated_word ⟨_, rfl⟩ (present _ (by simp [headerUpdates])) (as_u32_lt _)

/-- The VideoCore's half: three indices are written, the rest is left alone. -/
theorem master_read :
    sharedStateAt base .master
        (slotZeroShape.setAll base (allUpdates firstDataSlot numSlots slotQueue debug) memory) =
      { sharedStateAt base .master memory with
        slotSync := asU32 firstDataSlot
        slotFirst := asU32 (firstDataSlot + 1)
        slotLast := asU32 (firstDataSlot + numSlots / 2 - 1) } := by
  have present : ∀ update ∈ slotUpdates firstDataSlot numSlots,
      update ∈ allUpdates firstDataSlot numSlots slotQueue debug := by
    intro update member
    simp [allUpdates, member]
  rcases side_word base .master with ⟨_, firstWord, lastWord, syncWord, _⟩
  simp only [sharedStateAt, SharedState.mk.injEq]
  refine ⟨kept_field (by decide), ?_, ?_, ?_, congrArg UInt32.ofNat (kept_field (by decide)), ?_⟩
  · exact updated_word firstWord (present _ (by simp [slotUpdates])) (as_u32_lt _)
  · exact updated_word lastWord (present _ (by simp [slotUpdates])) (as_u32_lt _)
  · exact updated_word syncWord (present _ (by simp [slotUpdates])) (as_u32_lt _)
  · funext index
    apply kept_field
    simp [updatedFields, headerUpdates, slotUpdates, eventUpdates]

/-- The ARM's half. -/
theorem slave_read (small : ∀ index, slotQueue index < 2 ^ 32) :
    sharedStateAt base .slave
        (slotZeroShape.setAll base (allUpdates firstDataSlot numSlots slotQueue debug) memory) =
      { initialized := 1
        slotSync := asU32 (firstDataSlot + numSlots / 2)
        slotFirst := asU32 (firstDataSlot + numSlots / 2 + 1)
        slotLast := asU32 (firstDataSlot + numSlots - 1)
        txPos := 0
        slotQueue := slotQueue } := by
  have present : ∀ update ∈ slotUpdates firstDataSlot numSlots,
      update ∈ allUpdates firstDataSlot numSlots slotQueue debug := by
    intro update member
    simp [allUpdates, member]
  rcases side_word base .slave with ⟨initializedWord, firstWord, lastWord, syncWord, txWord⟩
  simp only [sharedStateAt, SharedState.mk.injEq]
  refine ⟨?_, ?_, ?_, ?_, ?_, ?_⟩
  · exact updated_word initializedWord (by simp [allUpdates, eventUpdates]) (by decide)
  · exact updated_word firstWord (present _ (by simp [slotUpdates])) (as_u32_lt _)
  · exact updated_word lastWord (present _ (by simp [slotUpdates])) (as_u32_lt _)
  · exact updated_word syncWord (present _ (by simp [slotUpdates])) (as_u32_lt _)
  · have published : (Field.txPos Side.slave, 0) ∈
        allUpdates firstDataSlot numSlots slotQueue debug := present _ (by simp [slotUpdates])
    exact congrArg UInt32.ofNat (updated_word txWord published (by decide))
  · funext index
    apply updated_word (slot_queue_word base .slave index) _ (small index)
    have member : (Field.slotQueue .slave index.val, slotQueue index) ∈ queueUpdates slotQueue :=
      List.mem_map.mpr ⟨index, List.mem_finRange index, rfl⟩
    simp [allUpdates, member]

end Encoding

/-- The record that the bytes of an initialisation encode. -/
theorem initialized_bytes_encode {base totalMemory : Nat} {memory : Memory}
    {result : SlotZero × Nat}
    (initialized : initializeSlotZero (slotZeroAt base memory) totalMemory = .ok result) :
    slotZeroAt base (initializedBytes base memory result) = result.1 := by
  rcases initialize_slot_zero_cases initialized with ⟨slotQueue, bounds, record⟩
  have small : ∀ index, slotQueue index < 2 ^ 32 := by
    intro index
    rcases bounds index with kept | bounded
    · rcases slot_queue_word base .slave index with ⟨start, found⟩
      rw [kept]
      exact get_lt found
    · exact bounded
  have sameQueue : result.1.slave.slotQueue = slotQueue := by rw [record]
  rw [initializedBytes, sameQueue, record]
  unfold slotZeroAt
  rw [master_read, slave_read small]
  rcases header_read base vchiqSlotZeroSlots result.2 memory slotQueue
      (debugEntries (debugAt base memory)) with
    ⟨magic, version, versionMin, zeroSize, slotSize, maxSlots, perSide⟩
  rw [magic, version, versionMin, zeroSize, slotSize, maxSlots, perSide]

end RuspiroVchiq.Shared
