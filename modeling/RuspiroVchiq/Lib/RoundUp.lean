import Mathlib.Data.Nat.Basic
import Mathlib.Tactic.Common

/-!
# Rounding up to a multiple

The least multiple of an alignment that is not below a value, in the form in which
layout code computes it.
-/

namespace RuspiroVchiq.Lib.RoundUp

set_option autoImplicit false

def roundUp (align value : Nat) : Nat := (value + align - 1) / align * align

variable {align value bound : Nat}

theorem round_up_dvd (align value : Nat) : align ∣ roundUp align value :=
  Nat.dvd_mul_left _ _

theorem le_round_up (positive : 0 < align) : value ≤ roundUp align value := by
  have split := Nat.div_add_mod (value + align - 1) align
  have remainder := Nat.mod_lt (value + align - 1) positive
  rw [Nat.mul_comm] at split
  unfold roundUp
  omega

/-- A multiple that is not below the value is not below the rounded value. -/
theorem round_up_le (positive : 0 < align) (above : value ≤ bound) (multiple : align ∣ bound) :
    roundUp align value ≤ bound := by
  rcases multiple with ⟨factor, rfl⟩
  have quotient : (value + align - 1) / align ≤ factor := by
    apply Nat.lt_succ_iff.mp
    rw [Nat.div_lt_iff_lt_mul positive, Nat.succ_mul, Nat.mul_comm]
    omega
  unfold roundUp
  rw [Nat.mul_comm]
  exact Nat.mul_le_mul_left align quotient

theorem round_up_lt (positive : 0 < align) : roundUp align value < value + align := by
  have bound := Nat.div_mul_le_self (value + align - 1) align
  unfold roundUp
  omega

end RuspiroVchiq.Lib.RoundUp
