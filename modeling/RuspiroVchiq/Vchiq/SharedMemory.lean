import RuspiroVchiq.Vchiq.State
import RuspiroVchiq.Lib.Regions
import RuspiroVchiq.Lib.RoundUp

/-!
# The shared memory block

The part of `State::new` that allocates the memory shared with the VideoCore and divides
it: SlotZero and the slots from the first slot aligned address on, the fragments behind
`slot_mem_size` bytes. The block has just these bytes. The slots are inside of it; the
fragments, with the link words that are written into them, never are.
-/

namespace RuspiroVchiq.Vchiq

open RuspiroVchiq.Config
open RuspiroVchiq.Shared
open RuspiroVchiq.Lib.ByteMemory
open RuspiroVchiq.Lib.Regions
open RuspiroVchiq.Lib.RoundUp

set_option autoImplicit false

abbrev vchiqNumCurrentBulks : Nat := 32
abbrev maxFragments : Nat := vchiqNumCurrentBulks * 2
abbrev cacheLineSize : Nat := 32

/-- `mem::size_of::<Fragment>()`: the head and the tail buffer. -/
def fragmentBytes : Nat := cacheLineSize + cacheLineSize

def totalSlots : Nat := vchiqSlotZeroSlots + 2 * 32

/-- What the MMU offers: its page size, rounding up to pages, and the address under which
an allocated block is mapped. -/
structure Platform where
  pageSize : Nat
  pageAlign : Nat → Nat
  mapMemory : Nat → Nat → Nat
  align_dvd : ∀ size, pageSize ∣ pageAlign size
  le_align : ∀ size, size ≤ pageAlign size
  align_lt : ∀ size, pageAlign size < size + pageSize

structure Layout where
  size : Nat
  align : Nat

/-- `Layout::from_size_align`: the alignment is a power of two, and the size rounded up to
it is an `isize`. -/
def layoutFromSizeAlign (size align : Nat) : Option Layout :=
  if 2 ^ Nat.log2 align = align ∧ size ≤ 2 ^ 63 - align then some { size := size, align := align }
  else none

/-- Subtraction on `usize`, which wraps in a release build for the 64 bit target. -/
def wrappingSub (left right : Nat) : Nat := (left + (2 ^ 64 - right % 2 ^ 64)) % 2 ^ 64

/-- The distance to the first slot aligned address. -/
def slotZeroOffset (shmPtr : Nat) : Nat := wrappingSub vchiqSlotSize shmPtr &&& vchiqSlotMask

/-- The first `count` fragments get the address of the one behind them. -/
def linkFragments (memory : Memory) (fragmentsAddr : Nat) : Nat → Memory
  | 0 => memory
  | count + 1 =>
      write (linkFragments memory fragmentsAddr count) (fragmentsAddr + count * fragmentBytes)
        (encodeLE 4 (fragmentsAddr + (count + 1) * fragmentBytes))

/-- The fragments that `chunks_exact_mut(MAX_FRAGMENTS - 1)` visits. -/
def linkedFragments : Nat := maxFragments / (maxFragments - 1) * (maxFragments - 1)

structure SharedMemory where
  shmPtr : Nat
  shmPtrPhys : Nat
  layout : Layout
  slotZeroPtr : Nat
  platformData : Nat × Nat
  fragmentsAddr : Nat
  memory : Memory
  state : State

/-- The bytes to allocate: all slots, in whole pages. -/
def slotMemSize (platform : Platform) : Nat := platform.pageAlign (totalSlots * vchiqSlotSize)

/-- `State::new`, given the address the allocator returned and the content of the memory. -/
def newSharedMemory (platform : Platform) (allocated : Nat) (raw : SlotZero)
    (memory : Memory) : Except Stop SharedMemory :=
  match layoutFromSizeAlign (slotMemSize platform) platform.pageSize with
  | none => .error (.error (.generic "invalid parameters to Layout::from_size_align"))
  | some layout =>
      let shmPtrPhys := allocated ||| 0xC0000000
      let shmPtr := platform.mapMemory allocated layout.size
      let slotZeroPtr := shmPtr + slotZeroOffset shmPtr
      if slotZeroPtr % vchiqSlotSize ≠ 0 then .error (.panic .assertFailed)
      else
        -- the slots are a view of the same memory, hence they see the link words
        let fragmentsAddr := shmPtr + slotMemSize platform
        let memory := linkFragments memory fragmentsAddr linkedFragments
        match State.new raw (fun offset => memory (slotZeroPtr + offset))
            (wrappingSub (slotMemSize platform) (slotZeroOffset shmPtr)) with
        | .error panic => .error (.panic panic)
        | .ok state =>
            .ok
              { shmPtr := shmPtr
                shmPtrPhys := shmPtrPhys
                layout := layout
                slotZeroPtr := slotZeroPtr
                platformData := (asU32 (shmPtrPhys + slotMemSize platform), asU32 maxFragments)
                fragmentsAddr := fragmentsAddr
                memory := memory
                state := state }

namespace SharedMemory

/-- The allocated bytes. -/
def block (shared : SharedMemory) : Region :=
  { start := shared.shmPtr, size := shared.layout.size }

def slotZeroRegion (shared : SharedMemory) : Region :=
  { start := shared.slotZeroPtr, size := slotZeroBytes }

/-- The slots an accessor gives access to; slot 0 is SlotZero. -/
def slotRegions (shared : SharedMemory) : List Region :=
  cells (shared.slotZeroPtr + vchiqSlotSize) vchiqSlotSize
    (shared.state.slotState.slotData.len - 1)

def fragmentRegions (shared : SharedMemory) : List Region :=
  cells shared.fragmentsAddr fragmentBytes maxFragments

def regions (shared : SharedMemory) : List Region :=
  shared.slotZeroRegion :: shared.slotRegions ++ shared.fragmentRegions

/-- Everything that is set up or announced is inside the block, at a place of its own. -/
structure Fits (shared : SharedMemory) : Prop where
  inside : ∀ region ∈ shared.regions, region.Within shared.block
  apart : shared.regions.Pairwise Region.Apart

end SharedMemory

theorem slot_zero_offset_eq (shmPtr : Nat) :
    slotZeroOffset shmPtr = (vchiqSlotSize - shmPtr % vchiqSlotSize) % vchiqSlotSize := by
  rw [slotZeroOffset, and_slot_mask]
  simp only [wrappingSub, vchiqSlotSize]
  omega

theorem slot_zero_offset_lt (shmPtr : Nat) : slotZeroOffset shmPtr < vchiqSlotSize := by
  rw [slot_zero_offset_eq]
  exact Nat.mod_lt _ (by decide)

theorem slot_zero_aligned (shmPtr : Nat) :
    (shmPtr + slotZeroOffset shmPtr) % vchiqSlotSize = 0 := by
  rw [slot_zero_offset_eq]
  simp only [vchiqSlotSize]
  omega

theorem wrapping_sub_of_le {left right : Nat} (ordered : right ≤ left) (small : left < 2 ^ 64) :
    wrappingSub left right = left - right := by
  unfold wrappingSub
  omega

theorem layout_accepted_iff {size align : Nat} {layout : Layout} :
    layoutFromSizeAlign size align = some layout ↔
      (∃ power, align = 2 ^ power) ∧ size ≤ 2 ^ 63 - align ∧
        layout = { size := size, align := align } := by
  have isPower : 2 ^ Nat.log2 align = align ↔ ∃ power, align = 2 ^ power := by
    constructor
    · intro same
      exact ⟨Nat.log2 align, same.symm⟩
    · rintro ⟨power, rfl⟩
      rw [Nat.log2_two_pow]
  rw [← isPower]
  unfold layoutFromSizeAlign
  split_ifs with accepted
  · simp only [Option.some.injEq, accepted, true_and]
    exact eq_comm
  · simp only [false_iff]
    rintro ⟨power, bound, _⟩
    exact accepted ⟨power, bound⟩

/-- When the slots can be divided between the two sides. -/
theorem initialize_slot_zero_iff (raw : SlotZero) (totalMemory : Nat) :
    (∃ initialized, initializeSlotZero raw totalMemory = .ok initialized) ↔
      5 ≤ totalMemory / vchiqSlotSize ∧
        asU32 (2 + (totalMemory / vchiqSlotSize - 1) / 2) ≤
          asU32 (totalMemory / vchiqSlotSize - 1) ∧
        asU32 (totalMemory / vchiqSlotSize - 1) <
          asU32 (2 + (totalMemory / vchiqSlotSize - 1) / 2) + vchiqMaxSlotsPerSide := by
  have first : 1 + (totalMemory / vchiqSlotSize - 1) / 2 + 1 =
      2 + (totalMemory / vchiqSlotSize - 1) / 2 := by omega
  have last : 1 + (totalMemory / vchiqSlotSize - 1) - 1 = totalMemory / vchiqSlotSize - 1 := by
    omega
  simp only [initializeSlotZero, slot_zero_slots_eq, bind, Except.bind, pure, Except.pure,
    throw, throwThe, MonadExceptOf.throw, fillSlotQueue, first, last, vchiqMaxSlotsPerSide]
  generalize totalMemory / vchiqSlotSize = slots
  split_ifs with noMemory tooFew reversed fits
  · exact iff_of_false (by simp) (by omega)
  · exact iff_of_false (by simp) (by omega)
  · exact iff_of_false (by simp) (by omega)
  · exact iff_of_true ⟨_, rfl⟩ (by omega)
  · exact iff_of_false (by simp) (by omega)

theorem state_new_iff (raw : SlotZero) (memory : Memory) (totalMemory : Nat) :
    (∃ state, State.new raw memory totalMemory = .ok state) ↔
      ∃ initialized, initializeSlotZero raw totalMemory = .ok initialized := by
  unfold State.new
  simp only [bind, Except.bind, pure, Except.pure]
  cases initializeSlotZero raw totalMemory with
  | error panic => simp
  | ok initialized => exact iff_of_true ⟨_, rfl⟩ ⟨_, rfl⟩

/-- The accessor covers the whole slots of the memory it is given. -/
theorem state_new_len {raw : SlotZero} {memory : Memory} {totalMemory : Nat} {state : State}
    (made : State.new raw memory totalMemory = .ok state) :
    state.slotState.slotData.len = totalMemory / vchiqSlotSize := by
  unfold State.new at made
  simp only [bind, Except.bind, pure, Except.pure] at made
  cases initialized : initializeSlotZero raw totalMemory with
  | error panic => simp [initialized] at made
  | ok pair =>
      simp only [initialized, Except.ok.injEq] at made
      have enough := ((initialize_slot_zero_iff raw totalMemory).mp ⟨pair, initialized⟩).1
      have count : pair.2 = totalMemory / vchiqSlotSize - 1 := by
        simp only [initializeSlotZero, slot_zero_slots_eq, bind, Except.bind, pure, Except.pure,
          throw, throwThe, MonadExceptOf.throw, fillSlotQueue] at initialized
        split_ifs at initialized with noMemory tooFew reversed fits
        simp only [Except.ok.injEq] at initialized
        rw [← initialized]
      rw [← made]
      simp only [count, slot_zero_slots_eq]
      exact Nat.sub_add_cancel (Nat.le_trans (by decide) enough)

section Division

variable {platform : Platform} {allocated : Nat} {raw : SlotZero} {memory : Memory}
  {shared : SharedMemory}

theorem total_slots_le_slot_mem_size (platform : Platform) :
    65 * vchiqSlotSize ≤ slotMemSize platform :=
  platform.le_align (65 * vchiqSlotSize)

/-- The memory behind the slot aligned start; the subtraction never wraps. -/
theorem slot_memory_eq (platform : Platform) (shmPtr : Nat)
    (bounded : slotMemSize platform ≤ 2 ^ 63 - platform.pageSize) :
    wrappingSub (slotMemSize platform) (slotZeroOffset shmPtr) =
      slotMemSize platform - slotZeroOffset shmPtr := by
  have enough := total_slots_le_slot_mem_size platform
  have offset := slot_zero_offset_lt shmPtr
  simp only [vchiqSlotSize] at enough offset
  apply wrapping_sub_of_le
  · omega
  · omega

/-- How a block is divided. -/
structure Divided (platform : Platform) (allocated : Nat) (memory : Memory)
    (shared : SharedMemory) : Prop where
  base : shared.shmPtr = platform.mapMemory allocated (slotMemSize platform)
  size : shared.layout.size = slotMemSize platform
  slotZero : shared.slotZeroPtr = shared.shmPtr + slotZeroOffset shared.shmPtr
  fragments : shared.fragmentsAddr = shared.shmPtr + slotMemSize platform
  slots : shared.state.slotState.slotData.len =
    (slotMemSize platform - slotZeroOffset shared.shmPtr) / vchiqSlotSize
  linked : shared.memory = linkFragments memory shared.fragmentsAddr linkedFragments

theorem new_shared_memory_divided
    (made : newSharedMemory platform allocated raw memory = .ok shared) :
    Divided platform allocated memory shared := by
  unfold newSharedMemory at made
  cases accepted : layoutFromSizeAlign (slotMemSize platform) platform.pageSize with
  | none => simp [accepted] at made
  | some layout =>
      rcases layout_accepted_iff.mp accepted with ⟨_, bounded, rfl⟩
      simp only [accepted, ne_eq, slot_zero_aligned, not_true_eq_false, if_false] at made
      split at made
      · simp at made
      · rename_i state created
        rw [slot_memory_eq _ _ bounded] at created
        rw [Except.ok.injEq] at made
        rw [← made]
        exact ⟨rfl, rfl, rfl, rfl, state_new_len created, rfl⟩

/-- SlotZero and the slots, as one region. -/
def slotSpan (shared : SharedMemory) : Region :=
  { start := shared.slotZeroPtr, size := shared.state.slotState.slotData.len * vchiqSlotSize }

theorem Divided.span_within (divided : Divided platform allocated memory shared) :
    (slotSpan shared).Within shared.block ∧ 0 < shared.state.slotState.slotData.len := by
  have enough := total_slots_le_slot_mem_size platform
  have offset := slot_zero_offset_lt shared.shmPtr
  have slots := divided.slots
  have slotZero := divided.slotZero
  have size := divided.size
  unfold Region.Within Region.stop slotSpan SharedMemory.block
  simp only [vchiqSlotSize] at *
  omega

/-- The descriptor is in the first slot, the accessible slots are behind it. -/
theorem slot_regions_within (shared : SharedMemory) :
    shared.slotZeroRegion.Within ⟨shared.slotZeroPtr, vchiqSlotSize⟩ ∧
      ∀ region ∈ shared.slotRegions, region.Within
        ⟨shared.slotZeroPtr + vchiqSlotSize,
          (shared.state.slotState.slotData.len - 1) * vchiqSlotSize⟩ := by
  have small : slotZeroBytes ≤ vchiqSlotSize := by decide
  constructor
  · exact ⟨Nat.le_refl _, Nat.add_le_add_left small _⟩
  · exact cells_within (Region.within_refl _)

theorem Divided.slots_within (divided : Divided platform allocated memory shared) :
    ∀ region ∈ shared.slotZeroRegion :: shared.slotRegions, region.Within shared.block := by
  rcases divided.span_within with ⟨span, positive⟩
  rcases slot_regions_within shared with ⟨descriptor, slots⟩
  intro region member
  rcases List.mem_cons.mp member with rfl | isSlot
  · unfold Region.Within Region.stop slotSpan at *
    simp only [vchiqSlotSize] at *
    omega
  · have inside := slots region isSlot
    unfold Region.Within Region.stop slotSpan at *
    simp only [vchiqSlotSize] at *
    omega

/-- The fragments start where the block ends. -/
theorem Divided.fragments_apart (divided : Divided platform allocated memory shared) :
    ∀ region ∈ shared.fragmentRegions, region.Apart shared.block := by
  intro region member
  have inside : region.Within ⟨shared.fragmentsAddr, maxFragments * fragmentBytes⟩ :=
    cells_within (Region.within_refl _) region member
  apply inside.apart (Region.within_refl shared.block)
  right
  rw [divided.fragments, ← divided.size]
  exact Nat.le_refl _

/-- No two of the regions overlap. -/
theorem Divided.regions_apart (divided : Divided platform allocated memory shared) :
    shared.regions.Pairwise Region.Apart := by
  rcases slot_regions_within shared with ⟨descriptor, slots⟩
  apply List.pairwise_append.mpr
  refine ⟨List.pairwise_cons.mpr ⟨?_, cells_apart _ _ _⟩, cells_apart _ _ _, ?_⟩
  · intro region isSlot
    exact descriptor.apart (slots region isSlot) (.inl (Nat.le_refl _))
  · intro region isSlot fragment isFragment
    have inside := divided.slots_within region isSlot
    have behind := divided.fragments_apart fragment isFragment
    exact ((Region.within_refl fragment).apart inside behind).symm

/-- A block that is divided has its fragments outside. -/
theorem Divided.not_fits (divided : Divided platform allocated memory shared) : ¬shared.Fits := by
  intro fits
  have member : Region.mk shared.fragmentsAddr fragmentBytes ∈ shared.fragmentRegions :=
    List.mem_map.mpr ⟨0, by decide, by rw [Nat.zero_mul, Nat.add_zero]⟩
  apply (divided.fragments_apart _ member).not_within (show 0 < fragmentBytes by decide)
  exact fits.inside _ (List.mem_append_right _ member)

/-- When nothing stops the call. -/
theorem new_shared_memory_ok_iff (platform : Platform) (allocated : Nat) (raw : SlotZero)
    (memory : Memory) :
    (∃ shared, newSharedMemory platform allocated raw memory = .ok shared) ↔
      (∃ power, platform.pageSize = 2 ^ power) ∧
        slotMemSize platform ≤ 2 ^ 63 - platform.pageSize ∧
        ∃ initialized, initializeSlotZero raw (slotMemSize platform -
          slotZeroOffset (platform.mapMemory allocated (slotMemSize platform))) =
            .ok initialized := by
  unfold newSharedMemory
  cases accepted : layoutFromSizeAlign (slotMemSize platform) platform.pageSize with
  | none =>
      apply iff_of_false
      · simp
      · rintro ⟨power, bounded, _⟩
        have isSome := layout_accepted_iff.mpr ⟨power, bounded, rfl⟩
        rw [accepted] at isSome
        simp at isSome
  | some layout =>
      rcases layout_accepted_iff.mp accepted with ⟨power, bounded, rfl⟩
      simp only [ne_eq, slot_zero_aligned, not_true_eq_false, if_false, power, bounded, true_and,
        slot_memory_eq _ _ bounded]
      rw [← state_new_iff raw (fun offset => linkFragments memory
        (platform.mapMemory allocated (slotMemSize platform) + slotMemSize platform)
        linkedFragments (platform.mapMemory allocated (slotMemSize platform) +
          slotZeroOffset (platform.mapMemory allocated (slotMemSize platform)) + offset))]
      split
      · rename_i panic stopped
        rw [stopped]
        simp
      · rename_i state created
        exact iff_of_true ⟨_, rfl⟩ ⟨state, created⟩

/-- The slots of a block with small pages can be divided. -/
theorem small_pages_initialize (raw : SlotZero) {power size offset factor : Nat}
    (small : power ≤ 19) (multiple : size = 2 ^ power * factor)
    (enough : 65 * vchiqSlotSize ≤ size) (least : size < 65 * vchiqSlotSize + 2 ^ power)
    (inSlot : offset < vchiqSlotSize) :
    ∃ initialized, initializeSlotZero raw (size - offset) = .ok initialized := by
  have lower : 64 ≤ (size - offset) / vchiqSlotSize := by
    simp only [vchiqSlotSize] at *
    omega
  have upper : (size - offset) / vchiqSlotSize ≤ 128 := by
    simp only [vchiqSlotSize] at *
    interval_cases power <;> omega
  apply (initialize_slot_zero_iff raw _).mpr
  generalize (size - offset) / vchiqSlotSize = slots at lower upper
  rw [as_u32_of_lt (by omega), as_u32_of_lt (by omega)]
  simp only [vchiqMaxSlotsPerSide]
  omega

/-- With large pages there are more slots than a slot queue has entries. -/
theorem large_pages_refused (raw : SlotZero) {power size offset factor : Nat}
    (large : 20 ≤ power) (bounded : power ≤ 62) (multiple : size = 2 ^ power * factor)
    (enough : 65 * vchiqSlotSize ≤ size) (least : size < 65 * vchiqSlotSize + 2 ^ power)
    (inSlot : offset < vchiqSlotSize) :
    ¬∃ initialized, initializeSlotZero raw (size - offset) = .ok initialized := by
  have count : (size - offset) / vchiqSlotSize = 2 ^ (power - 12) ∨
      (size - offset) / vchiqSlotSize = 2 ^ (power - 12) - 1 := by
    simp only [vchiqSlotSize] at *
    interval_cases power <;> omega
  intro initialized
  rcases (initialize_slot_zero_iff raw _).mp initialized with ⟨_, _, available⟩
  revert available
  rcases count with count | count
  · rw [count]
    interval_cases power <;> decide
  · rw [count]
    interval_cases power <;> decide

/-- The page sizes with which the block is set up. -/
theorem new_shared_memory_iff (platform : Platform) (allocated : Nat) (raw : SlotZero)
    (memory : Memory) :
    (∃ shared, newSharedMemory platform allocated raw memory = .ok shared) ↔
      ∃ power, power ≤ 19 ∧ platform.pageSize = 2 ^ power := by
  have enough := total_slots_le_slot_mem_size platform
  have least : slotMemSize platform < 65 * vchiqSlotSize + platform.pageSize :=
    platform.align_lt _
  have offset := slot_zero_offset_lt (platform.mapMemory allocated (slotMemSize platform))
  rcases platform.align_dvd (totalSlots * vchiqSlotSize) with ⟨factor, multiple⟩
  rw [new_shared_memory_ok_iff]
  constructor
  · rintro ⟨⟨power, isPower⟩, bounded, initialized⟩
    rw [isPower] at least multiple bounded
    refine ⟨power, ?_, isPower⟩
    by_contra large
    have upper : power ≤ 62 := by
      by_contra beyond
      have huge : 2 ^ 63 ≤ 2 ^ power := Nat.pow_le_pow_right (by decide) (by omega)
      simp only [vchiqSlotSize] at enough
      omega
    exact large_pages_refused raw (by omega) upper multiple enough least offset initialized
  · rintro ⟨power, small, isPower⟩
    rw [isPower] at least multiple ⊢
    have pageBound : 2 ^ power ≤ 2 ^ 19 := Nat.pow_le_pow_right (by decide) small
    refine ⟨⟨power, rfl⟩, ?_, small_pages_initialize raw small multiple enough least offset⟩
    simp only [vchiqSlotSize] at least
    omega

end Division

/-- A link word is the address of the next fragment. -/
theorem linked_fragment_read (memory : Memory) (fragmentsAddr : Nat) {index count : Nat}
    (linked : index < count) :
    read (linkFragments memory fragmentsAddr count) (fragmentsAddr + index * fragmentBytes) 4 =
      encodeLE 4 (fragmentsAddr + (index + 1) * fragmentBytes) := by
  induction count with
  | zero => exact absurd linked (Nat.not_lt_zero index)
  | succ count ih =>
      rcases Nat.lt_succ_iff_lt_or_eq.mp linked with earlier | rfl
      · have apart : (index + 1) * fragmentBytes ≤ count * fragmentBytes :=
          Nat.mul_le_mul_right _ earlier
        rw [linkFragments, read_write_disjoint, ih earlier]
        left
        simp only [fragmentBytes, cacheLineSize] at apart ⊢
        omega
      · have written := read_write_same (linkFragments memory fragmentsAddr index)
          (fragmentsAddr + index * fragmentBytes)
          (encodeLE 4 (fragmentsAddr + (index + 1) * fragmentBytes))
        rwa [encode_le_length] at written

/-- For every page size, base address and content of the memory: whatever `State::new`
sets up is inside the allocated block exactly if it sets up nothing, because the page size
is no power of two or too large for the slot queue. In every other case the regions are
apart, SlotZero and the slots are inside the block, and all fragments are behind it. -/
theorem shared_memory_fits_iff (platform : Platform) (allocated : Nat) (raw : SlotZero)
    (memory : Memory) :
    ((∀ shared, newSharedMemory platform allocated raw memory = .ok shared → shared.Fits) ↔
      ¬∃ power, power ≤ 19 ∧ platform.pageSize = 2 ^ power) ∧
      ∀ shared, newSharedMemory platform allocated raw memory = .ok shared →
        shared.regions.Pairwise Region.Apart ∧
          (∀ region ∈ shared.slotZeroRegion :: shared.slotRegions,
            region.Within shared.block) ∧
          ∀ region ∈ shared.fragmentRegions, region.Apart shared.block := by
  rw [← new_shared_memory_iff platform allocated raw memory]
  constructor
  · constructor
    · rintro fits ⟨shared, made⟩
      exact (new_shared_memory_divided made).not_fits (fits shared made)
    · intro nothing shared made
      exact absurd ⟨shared, made⟩ nothing
  · intro shared made
    have divided := new_shared_memory_divided made
    exact ⟨divided.regions_apart, divided.slots_within, divided.fragments_apart⟩

/-- Pages of 4 KiB, as the MMU is configured on the Raspberry Pi, mapped where they are. -/
def smallPages : Platform where
  pageSize := 4096
  pageAlign := roundUp 4096
  mapMemory := fun ptr _ => ptr
  align_dvd := round_up_dvd 4096
  le_align := fun _ => le_round_up (by decide)
  align_lt := fun _ => round_up_lt (by decide)

/-- A block at 0x400000: the first link word is written right behind its last byte. -/
theorem fragments_behind_block :
    ∃ shared, newSharedMemory smallPages 0x400000 blankSlotZero (fun _ => 0) = .ok shared ∧
      shared.block = ⟨0x400000, 65 * vchiqSlotSize⟩ ∧
      shared.fragmentsAddr = shared.block.stop ∧
      read shared.memory shared.block.stop 4 =
        encodeLE 4 (shared.block.stop + fragmentBytes) ∧
      ¬shared.Fits := by
  have pages : ∃ power, power ≤ 19 ∧ smallPages.pageSize = 2 ^ power := ⟨12, by decide, rfl⟩
  rcases (new_shared_memory_iff smallPages 0x400000 blankSlotZero (fun _ => 0)).mpr pages with
    ⟨shared, made⟩
  have divided := new_shared_memory_divided made
  have size : slotMemSize smallPages = 65 * vchiqSlotSize := by decide
  have base : shared.shmPtr = 0x400000 := divided.base
  have fragments : shared.fragmentsAddr = shared.block.stop := by
    rw [divided.fragments, ← divided.size]
    rfl
  refine ⟨shared, made, ?_, fragments, ?_, divided.not_fits⟩
  · rw [SharedMemory.block, base, divided.size, size]
  · have link := linked_fragment_read (fun _ => 0) shared.block.stop
      (show 0 < linkedFragments by decide)
    rw [divided.linked, fragments]
    simpa using link

end RuspiroVchiq.Vchiq
