import RuspiroVchiq.Vchiq.SharedMemory
import RuspiroVchiq.Shared.SlotZeroBytes

/-!
# Handing the memory over to the VideoCore

`State::new` once more, now with every byte it writes into the shared memory: the
descriptor, the platform data in it and the link words of the fragments. What the
VideoCore finds there is the record and the slots that the rest of this development works
with. The last part is about the addresses of the block: the one the mailbox is told and
the one `Drop` gives back to the allocator.
-/

namespace RuspiroVchiq.Vchiq

open RuspiroVchiq.Config
open RuspiroVchiq.Shared
open RuspiroVchiq.Lib.ByteMemory
open RuspiroVchiq.Lib.Regions
open RuspiroVchiq.Lib.ReprC

set_option autoImplicit false

/-- Where `State::new` puts SlotZero. -/
def slotZeroAddress (platform : Platform) (allocated : Nat) : Nat :=
  let shmPtr := platform.mapMemory allocated (slotMemSize platform)
  shmPtr + slotZeroOffset shmPtr

/-- The offset of the fragments on the bus and their number. -/
def platformUpdates (platform : Platform) (allocated : Nat) : List (Path × Nat) :=
  [(Field.platformData 0, asU32 ((allocated ||| 0xC0000000) + slotMemSize platform)),
    (Field.platformData 1, asU32 maxFragments)]

/-- The accessor `State::new` creates. -/
def slotZeroAccessor (platform : Platform) (allocated : Nat) : SlotZeroAccessor where
  inner := slotZeroAddress platform allocated
  totalMemory := wrappingSub (slotMemSize platform)
    (slotZeroOffset (platform.mapMemory allocated (slotMemSize platform)))

/-- The memory after `State::new`. -/
def newSharedBytes (platform : Platform) (allocated : Nat) (memory : Memory) :
    Except Stop Memory :=
  match layoutFromSizeAlign (slotMemSize platform) platform.pageSize with
  | none => .error (.error (.generic "invalid parameters to Layout::from_size_align"))
  | some _ =>
      let zero := slotZeroAccessor platform allocated
      if zero.inner % vchiqSlotSize ≠ 0 then .error (.panic .assertFailed)
      else
        match zero.initializeBytes memory with
        | .error panic => .error (.panic panic)
        | .ok (memory, _) =>
            let memory := zero.volatileSetters (platformUpdates platform allocated) memory
            .ok (linkFragments memory
              (platform.mapMemory allocated (slotMemSize platform) + slotMemSize platform)
              linkedFragments)

/-- What the bytes of a memory have to do with the record that models it. -/
structure Embodies (bytes : Memory) (shared : SharedMemory) : Prop where
  descriptor : slotZeroAt shared.slotZeroPtr bytes = shared.state.slotState.slotZero
  platformOffset : slotZeroShape.get shared.slotZeroPtr (Field.platformData 0) bytes =
    shared.platformData.1
  platformCount : slotZeroShape.get shared.slotZeroPtr (Field.platformData 1) bytes =
    shared.platformData.2
  slots : ∀ offset, slotZeroBytes ≤ offset →
    bytes (shared.slotZeroPtr + offset) = shared.state.slotState.slotData.inner offset

/-- The link words are at and behind the address of the first fragment. -/
theorem link_fragments_below (memory : Memory) (fragmentsAddr count : Nat) {target : Nat}
    (below : target < fragmentsAddr) :
    linkFragments memory fragmentsAddr count target = memory target := by
  induction count with
  | zero => rfl
  | succ count ih =>
      rw [linkFragments, write_outside]
      · exact ih
      · left
        omega

/-- Memories that agree from an address on still do when the fragments behind it are
linked. -/
theorem link_fragments_congr {left right : Memory} (fragmentsAddr count : Nat) {target : Nat}
    (same : left target = right target) :
    linkFragments left fragmentsAddr count target =
      linkFragments right fragmentsAddr count target := by
  induction count with
  | zero => exact same
  | succ count ih =>
      simp only [linkFragments, write, encode_le_length, ih]

/-- A descriptor is determined by its bytes. -/
theorem slot_zero_at_congr {base : Nat} {left right : Memory}
    (same : ∀ target, base ≤ target → target < base + slotZeroShape.size →
      left target = right target) : slotZeroAt base left = slotZeroAt base right := by
  simp only [slotZeroAt, sharedStateAt, get_congr same]

/-- The platform data is no part of the record. -/
theorem platform_updates_descriptor (platform : Platform) (allocated base : Nat)
    (memory : Memory) :
    slotZeroAt base (slotZeroShape.setAll base (platformUpdates platform allocated) memory) =
      slotZeroAt base memory := by
  simp [slotZeroAt, sharedStateAt, get_set_all_absent, platformUpdates]

theorem platform_updates_read (platform : Platform) (allocated base : Nat) (memory : Memory) :
    slotZeroShape.get base (Field.platformData 0)
        (slotZeroShape.setAll base (platformUpdates platform allocated) memory) =
          asU32 ((allocated ||| 0xC0000000) + slotMemSize platform) ∧
      slotZeroShape.get base (Field.platformData 1)
        (slotZeroShape.setAll base (platformUpdates platform allocated) memory) =
          asU32 maxFragments := by
  have distinct : ((platformUpdates platform allocated).map Prod.fst).Nodup := by
    simp [platformUpdates]
  constructor
  · exact get_word ⟨_, rfl⟩ distinct (by simp [platformUpdates]) (as_u32_lt _)
  · exact get_word ⟨_, rfl⟩ distinct (by simp [platformUpdates]) (as_u32_lt _)

section Embodied

variable {platform : Platform} {allocated : Nat} {memory : Memory}

/-- The descriptor ends before the fragments start. -/
theorem slot_zero_before_fragments (platform : Platform) (allocated : Nat) :
    slotZeroAddress platform allocated + slotZeroShape.size ≤
      platform.mapMemory allocated (slotMemSize platform) + slotMemSize platform := by
  have enough := total_slots_le_slot_mem_size platform
  have offset := slot_zero_offset_lt (platform.mapMemory allocated (slotMemSize platform))
  have size : slotZeroShape.size ≤ vchiqSlotSize := by decide
  unfold slotZeroAddress
  simp only [vchiqSlotSize] at *
  omega

/-- The bytes of a successful call. -/
theorem initialized_embody {result : SlotZero × Nat} {shared : SharedMemory}
    (initialized : initializeSlotZero (slotZeroAt (slotZeroAddress platform allocated) memory)
      (slotZeroAccessor platform allocated).totalMemory = .ok result)
    (base : shared.slotZeroPtr = slotZeroAddress platform allocated)
    (descriptor : shared.state.slotState.slotZero = result.1)
    (platformData : shared.platformData =
      (asU32 ((allocated ||| 0xC0000000) + slotMemSize platform), asU32 maxFragments))
    (slots : shared.state.slotState.slotData.inner = fun offset =>
      linkFragments memory
        (platform.mapMemory allocated (slotMemSize platform) + slotMemSize platform)
        linkedFragments (slotZeroAddress platform allocated + offset)) :
    Embodies
      (linkFragments
        (slotZeroShape.setAll (slotZeroAddress platform allocated)
          (platformUpdates platform allocated)
          (initializedBytes (slotZeroAddress platform allocated) memory result))
        (platform.mapMemory allocated (slotMemSize platform) + slotMemSize platform)
        linkedFragments) shared := by
  have before := slot_zero_before_fragments platform allocated
  have unlinked : ∀ target, slotZeroAddress platform allocated ≤ target →
      target < slotZeroAddress platform allocated + slotZeroShape.size →
        linkFragments
          (slotZeroShape.setAll (slotZeroAddress platform allocated)
            (platformUpdates platform allocated)
            (initializedBytes (slotZeroAddress platform allocated) memory result))
          (platform.mapMemory allocated (slotMemSize platform) + slotMemSize platform)
          linkedFragments target =
        slotZeroShape.setAll (slotZeroAddress platform allocated)
          (platformUpdates platform allocated)
          (initializedBytes (slotZeroAddress platform allocated) memory result) target := by
    intro target _ upper
    exact link_fragments_below _ _ _ (Nat.lt_of_lt_of_le upper before)
  rcases platform_updates_read platform allocated (slotZeroAddress platform allocated)
    (initializedBytes (slotZeroAddress platform allocated) memory result) with ⟨offsetRead, countRead⟩
  constructor
  · rw [base, slot_zero_at_congr unlinked, platform_updates_descriptor,
      initialized_bytes_encode initialized, descriptor]
  · rw [base, get_congr unlinked, offsetRead, platformData]
  · rw [base, get_congr unlinked, countRead, platformData]
  · intro offset behind
    rw [base, slots]
    apply link_fragments_congr
    rw [← slot_zero_shape_size.1] at behind
    rw [set_all_outside (.inr (Nat.add_le_add_left behind _)), initializedBytes,
      set_all_outside (.inr (Nat.add_le_add_left behind _))]

end Embodied

/-- For every page size, address and content of the memory: `State::new` fails on the
bytes exactly as it does on the record, and when it succeeds the VideoCore finds in the
shared memory just the descriptor, the platform data and the slots of the record. -/
theorem shared_bytes_embody_record (platform : Platform) (allocated : Nat) (memory : Memory) :
    match newSharedMemory platform allocated
        (slotZeroAt (slotZeroAddress platform allocated) memory) memory with
    | .error stop => newSharedBytes platform allocated memory = .error stop
    | .ok shared =>
        ∃ bytes, newSharedBytes platform allocated memory = .ok bytes ∧ Embodies bytes shared := by
  unfold newSharedMemory newSharedBytes
  cases accepted : layoutFromSizeAlign (slotMemSize platform) platform.pageSize with
  | none => rfl
  | some layout =>
      rcases layout_accepted_iff.mp accepted with ⟨_, _, rfl⟩
      have aligned : (slotZeroAccessor platform allocated).inner % vchiqSlotSize = 0 :=
        slot_zero_aligned _
      simp only [slot_zero_aligned, aligned, ne_eq, not_true_eq_false, if_false,
        initialize_bytes_eq]
      cases initialized : initializeSlotZero
          (slotZeroAt (slotZeroAddress platform allocated) memory)
          (slotZeroAccessor platform allocated).totalMemory with
      | error panic =>
          have failed := initialized
          simp only [slotZeroAccessor] at failed
          simp only [State.new, failed, bind, Except.bind, slotZeroAccessor, Except.map]
      | ok result =>
          have succeeded := initialized
          simp only [slotZeroAccessor] at succeeded
          simp only [State.new, succeeded, bind, Except.bind, pure, Except.pure, slotZeroAccessor,
            Except.map]
          exact ⟨_, rfl, initialized_embody initialized rfl rfl rfl rfl⟩

/-- The 32 bit address under which the VideoCore sees physical memory. -/
def busAddress (physical : Nat) : Nat := asU32 (physical ||| 0xC0000000)

/-- The argument of `set_vchiq_slot_base` in `State::initialize`. -/
def SharedMemory.slotBase (shared : SharedMemory) : Nat := asU32 shared.shmPtrPhys

/-- The pointer `Drop` releases: the bus address without its upper two bits, on `usize`. -/
def SharedMemory.releasedPtr (shared : SharedMemory) : Nat :=
  shared.shmPtrPhys &&& (2 ^ 64 - 1 - 0xC0000000)

theorem bus_address_eq (physical : Nat) :
    busAddress physical = 0xC0000000 + physical % 2 ^ 30 := by
  have low : (physical ||| 0xC0000000) % 2 ^ 30 = physical % 2 ^ 30 := by
    rw [Nat.or_mod_two_pow]
    simp
  have top : (physical ||| 0xC0000000) / 2 ^ 30 % 4 = 3 := by
    have quotient : (physical ||| 0xC0000000) / 2 ^ 30 = physical / 2 ^ 30 ||| 3 := by
      rw [Nat.or_div_two_pow]
    rw [quotient, show 4 = 2 ^ 2 from rfl, Nat.or_mod_two_pow]
    have small : physical / 2 ^ 30 % 2 ^ 2 < 4 := Nat.mod_lt _ (by decide)
    generalize physical / 2 ^ 30 % 2 ^ 2 = digit at small
    interval_cases digit <;> rfl
  unfold busAddress asU32
  omega

theorem released_eq {allocated : Nat} (bounded : allocated < 2 ^ 64) :
    (allocated ||| 0xC0000000) &&& (2 ^ 64 - 1 - 0xC0000000) =
      2 ^ 32 * (allocated / 2 ^ 32) + allocated % 2 ^ 30 := by
  have masked : (allocated ||| 0xC0000000) &&& (2 ^ 64 - 1 - 0xC0000000) =
      allocated &&& (2 ^ 64 - 1 - 0xC0000000) := by
    rw [Nat.and_or_distrib_right]
    simp
  have low : (allocated &&& (2 ^ 64 - 1 - 0xC0000000)) % 2 ^ 32 = allocated % 2 ^ 30 := by
    rw [Nat.and_mod_two_pow, show (2 ^ 64 - 1 - 0xC0000000) % 2 ^ 32 = 2 ^ 30 - 1 from rfl,
      Nat.and_two_pow_sub_one_eq_mod]
    omega
  have high : (allocated &&& (2 ^ 64 - 1 - 0xC0000000)) / 2 ^ 32 = allocated / 2 ^ 32 := by
    rw [Nat.and_div_two_pow, show (2 ^ 64 - 1 - 0xC0000000) / 2 ^ 32 = 2 ^ 32 - 1 from rfl,
      Nat.and_two_pow_sub_one_eq_mod]
    omega
  rw [masked]
  omega

theorem new_shared_memory_physical {platform : Platform} {allocated : Nat} {raw : SlotZero}
    {memory : Memory} {shared : SharedMemory}
    (made : newSharedMemory platform allocated raw memory = .ok shared) :
    shared.shmPtrPhys = allocated ||| 0xC0000000 := by
  unfold newSharedMemory at made
  cases accepted : layoutFromSizeAlign (slotMemSize platform) platform.pageSize with
  | none => simp [accepted] at made
  | some layout =>
      simp only [accepted, ne_eq, slot_zero_aligned, not_true_eq_false, if_false] at made
      split at made
      · simp at made
      · rw [← Except.ok.inj made]

/-- With memory that is mapped where it is, for every page size and every address of the
block: the VideoCore is told the address of SlotZero exactly if the block starts on a slot
boundary, and `Drop` gives back the pointer that was allocated exactly if its bits 30 and
31 are clear. -/
theorem announced_and_released_iff {platform : Platform} {allocated : Nat} {raw : SlotZero}
    {memory : Memory} {shared : SharedMemory}
    (made : newSharedMemory platform allocated raw memory = .ok shared)
    (mapped : platform.mapMemory allocated (slotMemSize platform) = allocated)
    (bounded : allocated < 2 ^ 64) :
    (shared.slotBase = busAddress shared.slotZeroPtr ↔ vchiqSlotSize ∣ allocated) ∧
      (shared.releasedPtr = allocated ↔ allocated % 2 ^ 32 < 2 ^ 30) := by
  have divided := new_shared_memory_divided made
  have physical := new_shared_memory_physical made
  have base : shared.slotBase = 0xC0000000 + allocated % 2 ^ 30 := by
    rw [SharedMemory.slotBase, physical]
    exact bus_address_eq allocated
  have released : shared.releasedPtr = 2 ^ 32 * (allocated / 2 ^ 32) + allocated % 2 ^ 30 := by
    rw [SharedMemory.releasedPtr, physical]
    exact released_eq bounded
  have offset := slot_zero_offset_eq allocated
  have inSlot := slot_zero_offset_lt allocated
  rw [divided.slotZero, divided.base, mapped, base, released, bus_address_eq, Nat.dvd_iff_mod_eq_zero]
  simp only [vchiqSlotSize] at *
  constructor
  · omega
  · omega

/-- A block at 0x400000 in pages of 4 KiB. -/
theorem small_block_announced :
    ∃ shared, newSharedMemory smallPages 0x400000 blankSlotZero (fun _ => 0) = .ok shared ∧
      shared.slotBase = busAddress shared.slotZeroPtr ∧ shared.releasedPtr = 0x400000 := by
  have pages : ∃ power, power ≤ 19 ∧ smallPages.pageSize = 2 ^ power := ⟨12, by decide, rfl⟩
  rcases (new_shared_memory_iff smallPages 0x400000 blankSlotZero (fun _ => 0)).mpr pages with
    ⟨shared, made⟩
  rcases announced_and_released_iff made rfl (by decide) with ⟨announced, released⟩
  exact ⟨shared, made, announced.mpr (by decide), released.mpr (by decide)⟩

end RuspiroVchiq.Vchiq
