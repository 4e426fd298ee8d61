import Mathlib.Data.Nat.Bitwise
import Mathlib.Tactic.Common

/-!
# Configuration constants and failure outcomes

The constants of `vchiq/config.rs` under their source names, the error type of
`vchiq/error.rs`, and the ways a call can end without a result. A panic halts
the panicking core for good; a blocked call is one that spins in a semaphore or
lock that nobody will ever release.
-/

namespace RuspiroVchiq.Config

set_option autoImplicit false

abbrev vchiqSlotSize : Nat := 4096
abbrev vchiqSlotMask : Nat := vchiqSlotSize - 1
abbrev vchiqMaxSlots : Nat := 128
abbrev vchiqMaxSlotsPerSide : Nat := 64
abbrev vchiqSlotQueueMask : Nat := vchiqMaxSlotsPerSide - 1
abbrev vchiqMaxServices : Nat := 4096
abbrev maxCompletions : Nat := 128
abbrev msgQueueSize : Nat := 128

/-- Masking with a slot mask takes the offset inside a slot. -/
theorem and_slot_mask (position : Nat) :
    position &&& vchiqSlotMask = position % vchiqSlotSize :=
  Nat.and_two_pow_sub_one_eq_mod position 12

theorem and_slot_queue_mask (index : Nat) :
    index &&& vchiqSlotQueueMask = index % vchiqMaxSlotsPerSide :=
  Nat.and_two_pow_sub_one_eq_mod index 6

/-- `as u32`: the low 32 bits of a `usize`. -/
def asU32 (value : Nat) : Nat := value % 2 ^ 32

theorem as_u32_of_lt {value : Nat} (small : value < 2 ^ 32) : asU32 value = value :=
  Nat.mod_eq_of_lt small

/-- `as isize`: the upper half of the `usize` range becomes negative. -/
def asIsize (value : Nat) : Int :=
  if value % 2 ^ 64 < 2 ^ 63 then (value % 2 ^ 64 : Nat) else (value % 2 ^ 64 : Nat) - 2 ^ 64

abbrev ServiceHandle := Nat

inductive VchiqError where
  | stateNotInitialized
  | alreadyConnected
  | notConnected
  | serviceNotFound (handle : ServiceHandle)
  | serviceClosing
  | serviceAlreadyClosed (handle : ServiceHandle)
  | unableToAddService
  | unableToOpenService (handle : ServiceHandle)
  | unableToCloseService (handle : ServiceHandle)
  | dataMessageWithoutService
  | generic (message : String)
  deriving DecidableEq, Repr

/-- The macro or operation that raised a panic. `outOfSlots` is the assertion of
`reserve_space`, which is told apart from the bound assertions of the slot
accessor. -/
inductive Panic where
  | outOfSlots
  | assertFailed
  | expectNone (message : String)
  | unwrapNone
  | arithmeticOverflow
  | indexOutOfRange
  | unreachable
  | todo
  | unimplemented
  deriving DecidableEq, Repr

/-- How a call ends without a result. -/
inductive Stop where
  | error (error : VchiqError)
  | panic (panic : Panic)
  | blocked
  deriving DecidableEq, Repr

end RuspiroVchiq.Config
