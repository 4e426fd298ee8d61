import Mathlib

/-!
# Walks that read their steps off a ring

A walk goes upwards from number to number. Its next step depends only on where it is modulo
the length of a ring, so that sooner or later it goes round. What it reaches modulo a range is
then decided by as many steps as the ring is long, and by the length of a round. A relay
changes the ring when it comes to the start of its first one.
-/

namespace RuspiroVchiq.Lib.CyclicWalk

set_option autoImplicit false

/-- Where the walk is after some steps. -/
def walk (ring : Nat) (step : Nat → Nat) (start : Nat) : Nat → Nat
  | 0 => start
  | count + 1 =>
      walk ring step start count + step (walk ring step start count % ring)

variable {ring : Nat} {step : Nat → Nat} {start : Nat}

@[simp] theorem walk_zero : walk ring step start 0 = start := rfl

theorem walk_succ (count : Nat) : walk ring step start (count + 1) =
    walk ring step start count + step (walk ring step start count % ring) := rfl

theorem walk_add (count more : Nat) : walk ring step start (count + more) =
    walk ring step (walk ring step start count) more := by
  induction more with
  | zero => rfl
  | succ more ih => rw [← Nat.add_assoc, walk_succ, walk_succ, ih]

/-- A walk that starts whole rings later is the same walk. -/
theorem walk_shift {length : Nat} (whole : ring ∣ length) (count : Nat) :
    walk ring step (start + length) count = walk ring step start count + length := by
  induction count with
  | zero => rfl
  | succ count ih =>
      rcases whole with ⟨rings, rfl⟩
      rw [walk_succ, walk_succ, ih, Nat.add_mul_mod_self_left, Nat.add_right_comm]

/-- From this step on the walk goes round. A round takes some steps and this length. -/
structure Round (ring : Nat) (step : Nat → Nat) (start first steps length : Nat) : Prop where
  back : walk ring step start (first + steps) = walk ring step start first + length
  whole : ring ∣ length

/-- A round can be started anywhere in it. -/
theorem Round.later {first steps length : Nat} (round : Round ring step start first steps length)
    (more : Nat) : Round ring step start (first + more) steps length := by
  refine ⟨?_, round.whole⟩
  rw [Nat.add_right_comm, walk_add, round.back, walk_shift round.whole, ← walk_add]

theorem Round.repeated {first steps length : Nat}
    (round : Round ring step start first steps length) (rounds : Nat) :
    walk ring step start (first + rounds * steps) =
      walk ring step start first + rounds * length := by
  induction rounds with
  | zero => simp
  | succ rounds ih =>
      rw [Nat.succ_mul, Nat.succ_mul, ← Nat.add_assoc, ← Nat.add_assoc,
        (round.later (rounds * steps)).back, ih]

theorem walk_mono {first last : Nat} (order : first ≤ last) :
    walk ring step start first ≤ walk ring step start last := by
  induction order with
  | refl => exact Nat.le_refl _
  | step _ ih => exact Nat.le_trans ih (Nat.le_add_right _ _)

/-- Two steps at the same place of the ring make a round. -/
theorem round_of_mod_eq {first last : Nat} (order : first ≤ last)
    (same : walk ring step start first % ring = walk ring step start last % ring) :
    Round ring step start first (last - first)
      (walk ring step start last - walk ring step start first) := by
  constructor
  · rw [Nat.add_sub_of_le order, Nat.add_sub_of_le (walk_mono order)]
  · exact (Nat.modEq_iff_dvd' (walk_mono order)).mp same

/-- A walk longer than the ring has gone round. -/
theorem exists_repetition (step : Nat → Nat) (start : Nat) (positive : 0 < ring) (begin : Nat) :
    ∃ first last, begin ≤ first ∧ first < last ∧ last ≤ begin + ring ∧
      walk ring step start first % ring = walk ring step start last % ring := by
  have pigeons : (Finset.range ring).card < (Finset.Icc begin (begin + ring)).card := by
    rw [Finset.card_range, Nat.card_Icc]
    omega
  rcases Finset.exists_ne_map_eq_of_card_lt_of_maps_to pigeons
      (fun count _ => Finset.mem_coe.mpr (Finset.mem_range.mpr
        (Nat.mod_lt (walk ring step start count) positive))) with
    ⟨first, firstIn, last, lastIn, different, same⟩
  rw [Finset.mem_Icc] at firstIn lastIn
  rcases Nat.lt_or_gt_of_ne different with order | order
  · exact ⟨first, last, firstIn.1, order, lastIn.2, same⟩
  · exact ⟨last, first, lastIn.1, order, firstIn.2, same.symm⟩

/-- What the walk reaches modulo a range, as far as its first steps show: it is there, or it
will be once it has gone round often enough. -/
def Reaches (ring : Nat) (step : Nat → Nat) (start range target : Nat) : Prop :=
  (∃ count, count < ring ∧ walk ring step start count % range = target) ∨
    ∃ count steps length, count < ring ∧ steps ≤ ring ∧
      Round ring step start count steps length ∧
      walk ring step start count ≡ target [MOD length.gcd range]

/-- Any place that the greatest common divisor allows is hit after some rounds. -/
theorem exists_rounds {position length range target : Nat} (positive : 0 < range)
    (small : target < range) (allowed : position ≡ target [MOD length.gcd range]) :
    ∃ rounds, (position + rounds * length) % range = target := by
  have before : position ≤ target + range * (position + length) :=
    calc position
      _ ≤ position + length := Nat.le_add_right _ _
      _ ≤ range * (position + length) := Nat.le_mul_of_pos_left _ positive
      _ ≤ target + range * (position + length) := Nat.le_add_left _ _
  have divides : length.gcd range ∣ target + range * (position + length) - position := by
    apply (Nat.modEq_iff_dvd' before).mp
    have whole : range * (position + length) ≡ 0 [MOD length.gcd range] :=
      (Nat.modEq_zero_iff_dvd).mpr ((Nat.gcd_dvd_right _ _).mul_right _)
    calc position
      _ ≡ target [MOD length.gcd range] := allowed
      _ ≡ target + range * (position + length) [MOD length.gcd range] := whole.symm.add_left target
  have enough : length.pred * range.pred ≤
      target + range * (position + length) - position := by
    apply Nat.le_sub_of_add_le
    calc length.pred * range.pred + position
      _ ≤ length * range + range * position :=
          Nat.add_le_add (Nat.mul_le_mul (Nat.pred_le _) (Nat.pred_le _))
            (Nat.le_mul_of_pos_left _ positive)
      _ = range * (position + length) := by ring
      _ ≤ target + range * (position + length) := Nat.le_add_left _ _
  rcases Nat.exists_add_mul_eq_of_gcd_dvd_of_mul_pred_le length range _ divides enough with
    ⟨rounds, wraps, total⟩
  refine ⟨rounds, ?_⟩
  have summed : position + rounds * length + range * wraps =
      target + range * (position + length) := by
    rw [Nat.mul_comm range wraps, Nat.add_assoc, total, Nat.add_sub_of_le before]
  have modulo := congrArg (· % range) summed
  simpa only [Nat.add_mul_mod_self_left, Nat.mod_eq_of_lt small] using modulo

/-- The first steps and the length of a round decide what is reached. -/
theorem reaches_iff {range target : Nat} (positive : 0 < ring) (small : target < range) :
    (∃ count, walk ring step start count % range = target) ↔
      Reaches ring step start range target := by
  have nonzero : 0 < range := Nat.zero_lt_of_lt small
  constructor
  · rintro ⟨count, reached⟩
    by_cases early : count < ring
    · exact .inl ⟨count, early, reached⟩
    rcases exists_repetition step start positive 0 with ⟨first, last, _, order, bound, same⟩
    rw [Nat.zero_add] at bound
    have round := round_of_mod_eq (Nat.le_of_lt order) same
    -- the step of the first round that stands for this one
    have inRound := Nat.mod_lt (count - first) (Nat.sub_pos_of_lt order)
    have rounds := Nat.mod_add_div' (count - first) (last - first)
    have counted : first + (count - first) % (last - first) +
        (count - first) / (last - first) * (last - first) = count := by omega
    have begun := round.later ((count - first) % (last - first))
    have later := begun.repeated ((count - first) / (last - first))
    rw [counted] at later
    refine .inr ⟨_, _, _, ?_, Nat.le_trans (Nat.sub_le _ _) bound, begun, ?_⟩
    · omega
    · have reachedMod : walk ring step start count ≡ target [MOD range] := by
        rw [← reached]
        exact (Nat.mod_modEq _ _).symm
      have whole := (Nat.modEq_zero_iff_dvd.mpr (Nat.gcd_dvd_left
        (walk ring step start last - walk ring step start first) range)).mul_left
          ((count - first) / (last - first))
      have back := (whole.add_left
        (walk ring step start (first + (count - first) % (last - first)))).symm
      rw [← later] at back
      exact back.trans (reachedMod.of_dvd (Nat.gcd_dvd_right _ _))
  · rintro (⟨count, _, reached⟩ | ⟨count, steps, length, _, _, round, allowed⟩)
    · exact ⟨count, reached⟩
    · rcases exists_rounds nonzero small allowed with ⟨rounds, hit⟩
      refine ⟨count + rounds * steps, ?_⟩
      rw [round.repeated]
      exact hit

/-- The number of steps after which a walk is at the start of the ring for the next time. -/
def returns (ring : Nat) (step : Nat → Nat) (start : Nat) : Option Nat :=
  (List.range' 1 ring).find? fun count => walk ring step start count % ring = 0

theorem returns_some {count : Nat} (found : returns ring step start = some count) :
    0 < count ∧ walk ring step start count % ring = 0 ∧
      ∀ earlier, 0 < earlier → earlier < count → walk ring step start earlier % ring ≠ 0 := by
  rw [returns, List.find?_range'_eq_some] at found
  rcases found with ⟨back, range, first⟩
  rw [List.mem_range'_1] at range
  refine ⟨range.1, by simpa using back, ?_⟩
  intro earlier positive order
  simpa using first earlier positive order

/-- A walk that does not return on its first way round the ring never does. -/
theorem returns_none (positive : 0 < ring) (never : returns ring step start = none) (count : Nat)
    (moved : 0 < count) : walk ring step start count % ring ≠ 0 := by
  rw [returns, List.find?_range'_eq_none] at never
  induction count using Nat.strong_induction_on with
  | _ count ih =>
      by_cases early : count ≤ ring
      · simpa using never count moved (by omega)
      rcases exists_repetition step start positive 1 with
        ⟨first, last, begun, order, bound, same⟩
      -- what happens behind `last` has happened behind `first`
      have shorter := ih (first + (count - last)) (by omega) (by omega)
      have round := (round_of_mod_eq (Nat.le_of_lt order) same).later (count - last)
      have arrived : first + (count - last) + (last - first) = count := by omega
      have back := round.back
      rw [arrived] at back
      rw [back]
      rcases round.whole with ⟨rings, length⟩
      rw [length, Nat.add_mul_mod_self_left]
      exact shorter

section Relay

variable {Ring : Type} (size : Nat) (steps : Ring → Nat → Nat) (first second : Ring)
  (start : Nat)

/-- The ring and the place of a walk that goes on in a second ring once it has come to the
start of the first one. -/
def relay (count : Nat) : Ring × Nat :=
  match returns size (steps first) start with
  | none => (first, walk size (steps first) start count)
  | some left =>
      if count < left then (first, walk size (steps first) start count)
      else
        (second,
          walk size (steps second) (walk size (steps first) start left) (count - left))

/-- What a relay reaches modulo a range. -/
def RelayReaches (range target : Nat) : Prop :=
  match returns size (steps first) start with
  | none => Reaches size (steps first) start range target
  | some left =>
      (∃ count, count < left ∧ walk size (steps first) start count % range = target) ∨
        Reaches size (steps second) (walk size (steps first) start left) range target

variable {size steps first second start}

theorem relay_zero : relay size steps first second start 0 = (first, start) := by
  unfold relay
  cases found : returns size (steps first) start with
  | none => rfl
  | some left =>
      have positive := (returns_some found).1
      simp only [if_pos positive, walk_zero]

theorem relay_succ (positive : 0 < size) (count : Nat) :
    relay size steps first second start (count + 1) =
      let here := relay size steps first second start count
      let place := here.2 + steps here.1 (here.2 % size)
      (if place % size = 0 then second else here.1, place) := by
  unfold relay
  cases found : returns size (steps first) start with
  | none =>
      have stays := returns_none positive found (count + 1) (Nat.succ_pos count)
      rw [walk_succ] at stays
      simp only [walk_succ, if_neg stays]
  | some left =>
      rcases returns_some found with ⟨_, back, first⟩
      rcases Nat.lt_trichotomy (count + 1) left with before | now | behind
      · have stays := first (count + 1) (Nat.succ_pos count) before
        rw [walk_succ] at stays
        simp only [if_pos before, if_pos (Nat.lt_of_succ_lt before), walk_succ, if_neg stays]
      · subst now
        have arrives := back
        rw [walk_succ] at arrives
        simp only [Nat.lt_irrefl, if_false, Nat.lt_succ_self, if_true, Nat.sub_self, walk_zero,
          arrives]
        rw [walk_succ]
      · have later : ¬count < left := by omega
        have more : count + 1 - left = (count - left) + 1 := by omega
        simp only [if_neg (Nat.lt_asymm behind), if_neg later, more, walk_succ, ite_self]

theorem relay_reaches_iff {range target : Nat} (positive : 0 < size) (small : target < range) :
    (∃ count, (relay size steps first second start count).2 % range = target) ↔
      RelayReaches size steps first second start range target := by
  unfold relay RelayReaches
  cases found : returns size (steps first) start with
  | none => exact reaches_iff positive small
  | some left =>
      simp only
      rw [← reaches_iff positive small]
      constructor
      · rintro ⟨count, reached⟩
        split_ifs at reached with before
        · exact .inl ⟨count, before, reached⟩
        · exact .inr ⟨_, reached⟩
      · rintro (⟨count, before, reached⟩ | ⟨count, reached⟩)
        · refine ⟨count, ?_⟩
          rw [if_pos before]
          exact reached
        · refine ⟨left + count, ?_⟩
          rw [if_neg (by omega), Nat.add_sub_cancel_left]
          exact reached

end Relay

end RuspiroVchiq.Lib.CyclicWalk
