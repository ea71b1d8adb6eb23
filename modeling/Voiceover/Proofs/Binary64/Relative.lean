import Mathlib.Algebra.Order.Ring.Pow
import Voiceover.Proofs.Binary64.Nearest

/-! How far a number is from the exact one after a few roundings. One rounding moves a number by a
fixed part of it at most, as long as the number has a full significand. So a chain of roundings stays
between two powers of the exact number's neighbourhood, and sums and multiples of such numbers do too. -/

namespace Voiceover.Binary64

def unitRoundoff : Rat := 1 / 2 ^ 53

theorem unitRoundoff_pos : 0 < unitRoundoff := by norm_num [unitRoundoff]

theorem unitRoundoff_lt_one : unitRoundoff < 1 := by norm_num [unitRoundoff]

theorem abs_nearest_sub_le_mul {value : Rat} (normal : (2 : Rat) ^ (-1022 : Int) ≤ |value|) :
    |nearest value - value| ≤ |value| * unitRoundoff := by
  have nonzero : value ≠ 0 := abs_pos.mp (lt_of_lt_of_le (by positivity) normal)
  have leading : -1022 ≤ binade value := by
    rw [← not_lt, binade_lt_iff nonzero]
    exact not_lt.mpr normal
  have full : scale value = binade value - 52 := by
    unfold scale
    omega
  calc |nearest value - value| ≤ spacing value / 2 := abs_nearest_sub_le value
    _ = 2 ^ binade value * unitRoundoff := by
        rw [spacing_eq, full, zpow_sub₀ two_ne_zero, unitRoundoff]
        norm_num
        ring
    _ ≤ |value| * unitRoundoff :=
        mul_le_mul_of_nonneg_right (binade_bounds nonzero).1 unitRoundoff_pos.le

/-- The value is what the exact number has become in so many roundings at most. -/
structure Rounded (steps : Nat) (exact value : Rat) : Prop where
  lower : exact * (1 - unitRoundoff) ^ steps ≤ value
  upper : value ≤ exact * (1 + unitRoundoff) ^ steps

/-- Zero, or a number so far from the smallest doubles that a few roundings leave it a full
significand. -/
def Sized (exact : Rat) : Prop := exact = 0 ∨ (2 : Rat) ^ (-64 : Int) ≤ exact

theorem Sized.nonneg {exact : Rat} (sized : Sized exact) : 0 ≤ exact := by
  rcases sized with rfl | large
  · exact le_rfl
  · exact le_trans (by positivity) large

theorem sized_natCast_mul (count : Nat) {unit : Rat} (large : (2 : Rat) ^ (-64 : Int) ≤ unit) :
    Sized (count * unit) := by
  have positive : 0 ≤ unit := le_trans (by positivity) large
  rcases Nat.eq_zero_or_pos count with rfl | many
  · left
    rw [Nat.cast_zero, zero_mul]
  · right
    have many : (1 : Rat) ≤ count := by exact_mod_cast many
    exact large.trans (le_mul_of_one_le_left positive many)

namespace Rounded

variable {steps : Nat} {exact value : Rat}

theorem refl (exact : Rat) : Rounded 0 exact exact := by
  constructor <;> simp

theorem mono (rounded : Rounded steps exact value) (nonneg : 0 ≤ exact) {more : Nat}
    (le : steps ≤ more) : Rounded more exact value where
  lower := by
    have factor : (1 - unitRoundoff) ^ more ≤ (1 - unitRoundoff) ^ steps := by
      apply pow_le_pow_of_le_one _ _ le
      · exact sub_nonneg.mpr unitRoundoff_lt_one.le
      · exact sub_le_self 1 unitRoundoff_pos.le
    exact (mul_le_mul_of_nonneg_left factor nonneg).trans rounded.lower
  upper := by
    have factor : (1 + unitRoundoff) ^ steps ≤ (1 + unitRoundoff) ^ more :=
      pow_le_pow_right₀ (le_add_of_nonneg_right unitRoundoff_pos.le) le
    exact rounded.upper.trans (mul_le_mul_of_nonneg_left factor nonneg)

theorem add (rounded : Rounded steps exact value) {other more : Rat}
    (alike : Rounded steps other more) : Rounded steps (exact + other) (value + more) where
  lower := by
    rw [add_mul]
    exact add_le_add rounded.lower alike.lower
  upper := by
    rw [add_mul]
    exact add_le_add rounded.upper alike.upper

theorem mul (rounded : Rounded steps exact value) {factor : Rat} (nonneg : 0 ≤ factor) :
    Rounded steps (exact * factor) (value * factor) where
  lower := by
    rw [mul_right_comm]
    exact mul_le_mul_of_nonneg_right rounded.lower nonneg
  upper := by
    rw [mul_right_comm]
    exact mul_le_mul_of_nonneg_right rounded.upper nonneg

theorem nonneg (rounded : Rounded steps exact value) (other : 0 ≤ exact) : 0 ≤ value := by
  have factor : 0 ≤ 1 - unitRoundoff := sub_nonneg.mpr unitRoundoff_lt_one.le
  exact (mul_nonneg other (pow_nonneg factor steps)).trans rounded.lower

/-- Six roundings move a number by less than its 2^50th part. -/
theorem abs_sub_le (rounded : Rounded 6 exact value) (nonneg : 0 ≤ exact) :
    |value - exact| ≤ exact / 2 ^ 50 := by
  have most : (1 + unitRoundoff) ^ 6 ≤ 1 + 1 / 2 ^ 50 := by norm_num [unitRoundoff]
  have least : 1 - 1 / 2 ^ 50 ≤ (1 - unitRoundoff) ^ 6 := by norm_num [unitRoundoff]
  have upper := rounded.upper.trans (mul_le_mul_of_nonneg_left most nonneg)
  have lower := (mul_le_mul_of_nonneg_left least nonneg).trans rounded.lower
  rw [abs_le]
  constructor <;> linarith

theorem half_le_pow (few : steps ≤ 2 ^ 52) : 1 / 2 ≤ (1 - unitRoundoff) ^ steps := by
  have few : (steps : Rat) ≤ 2 ^ 52 := by exact_mod_cast few
  have bernoulli := one_add_mul_le_pow (a := -unitRoundoff) (by norm_num [unitRoundoff]) steps
  rw [← sub_eq_add_neg] at bernoulli
  have lost : steps * unitRoundoff ≤ 1 / 2 :=
    calc steps * unitRoundoff ≤ 2 ^ 52 * unitRoundoff :=
          mul_le_mul_of_nonneg_right few unitRoundoff_pos.le
      _ = 1 / 2 := by norm_num [unitRoundoff]
  linarith

/-- One more rounding. -/
theorem nearest (rounded : Rounded steps exact value) (sized : Sized exact) (few : steps ≤ 2 ^ 52) :
    Rounded (steps + 1) exact (nearest value) := by
  rcases sized with rfl | large
  · have zero : value = 0 := by
      apply le_antisymm
      · simpa using rounded.upper
      · simpa using rounded.lower
    have fixed : Binary64.nearest 0 = 0 := rfl
    rw [zero, fixed]
    constructor <;> simp
  · have positive : 0 < exact := lt_of_lt_of_le (by positivity) large
    have kept : (2 : Rat) ^ (-64 : Int) * (1 / 2) ≤ value :=
      calc (2 : Rat) ^ (-64 : Int) * (1 / 2) ≤ exact * (1 - unitRoundoff) ^ steps :=
            mul_le_mul large (half_le_pow few) (by norm_num) positive.le
        _ ≤ value := rounded.lower
    have above : 0 < value := lt_of_lt_of_le (by positivity) kept
    have normal : (2 : Rat) ^ (-1022 : Int) ≤ |value| := by
      rw [abs_of_pos above]
      calc (2 : Rat) ^ (-1022 : Int) ≤ 2 ^ (-65 : Int) :=
            zpow_le_zpow_right₀ one_le_two (by norm_num)
        _ = (2 : Rat) ^ (-64 : Int) * (1 / 2) := by norm_num
        _ ≤ value := kept
    have error := abs_le.mp (abs_nearest_sub_le_mul normal)
    rw [abs_of_pos above] at error
    constructor
    · calc exact * (1 - unitRoundoff) ^ (steps + 1)
          = exact * (1 - unitRoundoff) ^ steps * (1 - unitRoundoff) := by ring
        _ ≤ value * (1 - unitRoundoff) :=
            mul_le_mul_of_nonneg_right rounded.lower (sub_nonneg.mpr unitRoundoff_lt_one.le)
        _ ≤ Binary64.nearest value := by linarith [error.1]
    · calc Binary64.nearest value ≤ value * (1 + unitRoundoff) := by linarith [error.2]
        _ ≤ exact * (1 + unitRoundoff) ^ steps * (1 + unitRoundoff) :=
            mul_le_mul_of_nonneg_right rounded.upper (by linarith [unitRoundoff_pos])
        _ = exact * (1 + unitRoundoff) ^ (steps + 1) := by ring

end Rounded

end Voiceover.Binary64
