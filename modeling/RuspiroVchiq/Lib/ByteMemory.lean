import Mathlib.Data.List.Basic
import Mathlib.Tactic.NormNum

/-!
# Byte addressed memory

A flat memory is a total function from addresses to bytes. Writes replace an
interval of addresses, reads collect one. Nothing here knows an allocation
bound: whether an address belongs to a block is the business of the caller,
so that a write past the end of a block is visible and not silently dropped.
-/

namespace RuspiroVchiq.Lib.ByteMemory

set_option autoImplicit false

abbrev Byte := UInt8

abbrev Memory := Nat → Byte

/-- Replace the bytes at `address, address + 1, ...` by the given ones. -/
def write (memory : Memory) (address : Nat) (bytes : List Byte) : Memory :=
  fun target =>
    if address ≤ target ∧ target < address + bytes.length then
      bytes.getD (target - address) 0
    else memory target

def read (memory : Memory) (address : Nat) : Nat → List Byte
  | 0 => []
  | count + 1 => memory address :: read memory (address + 1) count

@[simp] theorem read_length (memory : Memory) (address count : Nat) :
    (read memory address count).length = count := by
  induction count generalizing address with
  | zero => rfl
  | succ count ih => simp [read, ih]

theorem read_congr (left right : Memory) (address count : Nat)
    (same : ∀ target, address ≤ target → target < address + count →
      left target = right target) :
    read left address count = read right address count := by
  induction count generalizing address with
  | zero => rfl
  | succ count ih =>
      have head : left address = right address := same address (by omega) (by omega)
      have tail := ih (address + 1) (by
        intro target lower upper
        exact same target (by omega) (by omega))
      simp [read, head, tail]

theorem write_outside (memory : Memory) (address : Nat) (bytes : List Byte) (target : Nat)
    (outside : target < address ∨ address + bytes.length ≤ target) :
    write memory address bytes target = memory target := by
  have notInside : ¬(address ≤ target ∧ target < address + bytes.length) := by omega
  simp only [write, if_neg notInside]

theorem write_inside (memory : Memory) (address : Nat) (bytes : List Byte) (index : Nat)
    (bound : index < bytes.length) :
    write memory address bytes (address + index) = bytes.getD index 0 := by
  have inside : address ≤ address + index ∧ address + index < address + bytes.length := by
    omega
  simp only [write, if_pos inside, Nat.add_sub_cancel_left]

@[simp] theorem write_nil (memory : Memory) (address : Nat) :
    write memory address [] = memory := by
  funext target
  exact write_outside memory address [] target (by simp only [List.length_nil]; omega)

theorem read_of_bytes (memory : Memory) (address : Nat) (bytes : List Byte)
    (stored : ∀ index, index < bytes.length → memory (address + index) = bytes.getD index 0) :
    read memory address bytes.length = bytes := by
  induction bytes generalizing address with
  | nil => rfl
  | cons head tail ih =>
      have first : memory address = head := by
        simpa using stored 0 (by simp)
      have rest := ih (address + 1) (by
        intro index bound
        have shifted := stored (index + 1) (by simpa using bound)
        simpa [Nat.add_assoc, Nat.add_comm 1 index] using shifted)
      simp only [List.length_cons, read, first, rest]

/-- What was written is read back. -/
theorem read_write_same (memory : Memory) (address : Nat) (bytes : List Byte) :
    read (write memory address bytes) address bytes.length = bytes := by
  apply read_of_bytes
  intro index bound
  exact write_inside memory address bytes index bound

/-- A write leaves every disjoint interval as it was. -/
theorem read_write_disjoint (memory : Memory) (address : Nat) (bytes : List Byte)
    (start count : Nat)
    (disjoint : start + count ≤ address ∨ address + bytes.length ≤ start) :
    read (write memory address bytes) start count = read memory start count := by
  apply read_congr
  intro target lower upper
  exact write_outside memory address bytes target (by omega)

/-- Little endian words of a fixed byte width. -/
def encodeLE : Nat → Nat → List Byte
  | 0, _ => []
  | width + 1, value => UInt8.ofNat value :: encodeLE width (value / 256)

def decodeLE : List Byte → Nat
  | [] => 0
  | byte :: rest => byte.toNat + 256 * decodeLE rest

@[simp] theorem encode_le_length (width value : Nat) :
    (encodeLE width value).length = width := by
  induction width generalizing value with
  | zero => rfl
  | succ width ih => simp [encodeLE, ih]

theorem decode_le_encode (width value : Nat) :
    decodeLE (encodeLE width value) = value % 256 ^ width := by
  induction width generalizing value with
  | zero => simp [encodeLE, decodeLE, Nat.mod_one]
  | succ width ih =>
      have power : 256 ^ (width + 1) = 256 * 256 ^ width := Nat.pow_succ'
      have split : value % (256 * 256 ^ width) =
          value % 256 + 256 * (value / 256 % 256 ^ width) := Nat.mod_mul
      simp only [encodeLE, decodeLE, ih, UInt8.toNat_ofNat', power, split]

theorem decode_le_lt (bytes : List Byte) : decodeLE bytes < 256 ^ bytes.length := by
  induction bytes with
  | nil => exact Nat.one_pos
  | cons byte rest ih =>
      have bounded : byte.toNat < 256 := byte.toNat_lt
      rw [decodeLE, List.length_cons, Nat.pow_succ']
      omega

/-- The 32 bit words of a message header. -/
def encodeU32 (word : UInt32) : List Byte := encodeLE 4 word.toNat

def decodeU32 (bytes : List Byte) : UInt32 := UInt32.ofNat (decodeLE bytes)

@[simp] theorem encode_u32_length (word : UInt32) : (encodeU32 word).length = 4 :=
  encode_le_length 4 word.toNat

@[simp] theorem decode_u32_encode (word : UInt32) : decodeU32 (encodeU32 word) = word := by
  have small : word.toNat < 256 ^ 4 := word.toNat_lt
  rw [decodeU32, encodeU32, decode_le_encode, Nat.mod_eq_of_lt small]
  exact UInt32.ofNat_toNat

end RuspiroVchiq.Lib.ByteMemory
