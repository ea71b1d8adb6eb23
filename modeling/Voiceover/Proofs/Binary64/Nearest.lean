import Mathlib.Algebra.Order.Field.Power
import Mathlib.Data.Rat.Floor
import Mathlib.Tactic.FieldSimp
import Mathlib.Tactic.Linarith
import Mathlib.Tactic.NormNum
import Mathlib.Tactic.Ring
import Voiceover.Binary64

/-! Rounding to a double keeps order, leaves doubles alone, and moves no number further than half the
distance between the doubles around it. Those doubles are the whole multiples of a power of two, and
so is the next power of two above them: two numbers with different distances between their doubles
have a double between them, and two with the same one are rounded like integers. -/

namespace Voiceover.Binary64

section Integers

theorem roundHalfEven_eq (value : Rat) :
    roundHalfEven value =
      if value - ⌊value⌋ < 1 / 2 then ⌊value⌋
      else if 1 / 2 < value - ⌊value⌋ then ⌊value⌋ + 1
      else if ⌊value⌋ % 2 = 0 then ⌊value⌋ else ⌊value⌋ + 1 := rfl

theorem roundHalfEven_bounds (value : Rat) :
    ⌊value⌋ ≤ roundHalfEven value ∧ roundHalfEven value ≤ ⌊value⌋ + 1 := by
  rw [roundHalfEven_eq]
  split_ifs <;> omega

theorem roundHalfEven_intCast (whole : Int) : roundHalfEven whole = whole := by
  simp [roundHalfEven_eq]

theorem roundHalfEven_eq_of_lt {value : Rat} {whole : Int} (le : (whole : Rat) ≤ value)
    (close : value - whole < 1 / 2) : roundHalfEven value = whole := by
  have floor : ⌊value⌋ = whole := by
    rw [Int.floor_eq_iff]
    constructor <;> linarith
  rw [roundHalfEven_eq, floor, if_pos close]

theorem abs_roundHalfEven_sub_le (value : Rat) : |(roundHalfEven value : Rat) - value| ≤ 1 / 2 := by
  have below := Int.floor_le value
  have above := Int.lt_floor_add_one value
  rw [roundHalfEven_eq]
  split_ifs <;> push_cast <;> rw [abs_le] <;> constructor <;> linarith

theorem roundHalfEven_mono {first second : Rat} (le : first ≤ second) :
    roundHalfEven first ≤ roundHalfEven second := by
  rcases (Int.floor_le_floor le).lt_or_eq with apart | same
  · have upper := (roundHalfEven_bounds first).2
    have lower := (roundHalfEven_bounds second).1
    omega
  · have excess : first - ⌊second⌋ ≤ second - ⌊second⌋ := by linarith
    rw [roundHalfEven_eq, roundHalfEven_eq, same]
    split_ifs <;> first | omega | linarith

theorem roundHalfEven_neg (value : Rat) : roundHalfEven (-value) = -roundHalfEven value := by
  by_cases whole : ∃ n : Int, value = n
  · obtain ⟨n, rfl⟩ := whole
    rw [← Int.cast_neg, roundHalfEven_intCast, roundHalfEven_intCast]
  · have floorNeg : ⌊-value⌋ = -⌊value⌋ - 1 := by
      rw [Int.floor_eq_iff]
      have below := Int.floor_le value
      have strict : (⌊value⌋ : Rat) ≠ value := fun same => whole ⟨_, same.symm⟩
      have strict := lt_of_le_of_ne below strict
      have above := Int.lt_floor_add_one value
      push_cast
      constructor <;> linarith
    rw [roundHalfEven_eq, roundHalfEven_eq, floorNeg]
    push_cast
    split_ifs <;> first | omega | linarith

end Integers

section Spacing

theorem two_zpow_add_natCast (exponent : Int) (bits : Nat) :
    (2 : Rat) ^ (exponent + bits) = 2 ^ bits * 2 ^ exponent := by
  rw [zpow_add₀ two_ne_zero, zpow_natCast, mul_comm]

theorem abs_eq_num_div_den (value : Rat) : |value| = (value.num.natAbs : Rat) / value.den := by
  rw [Rat.abs_def, Rat.divInt_eq_div, Int.cast_natCast, Int.cast_natCast]

theorem two_pow_log2_bounds {count : Nat} (positive : count ≠ 0) :
    (2 : Rat) ^ (count.log2 : Int) ≤ count ∧ (count : Rat) < 2 ^ ((count.log2 : Int) + 1) := by
  have lower := Nat.log2_self_le positive
  have upper := Nat.lt_log2_self (n := count)
  constructor
  · exact_mod_cast lower
  · exact_mod_cast upper

theorem binade_bounds {value : Rat} (nonzero : value ≠ 0) :
    (2 : Rat) ^ binade value ≤ |value| ∧ |value| < (2 : Rat) ^ (binade value + 1) := by
  have absolute : (if value < 0 then -value else value) = |value| := by
    split_ifs with negative
    · exact (abs_of_neg negative).symm
    · exact (abs_of_nonneg (not_lt.mp negative)).symm
  have numerator := two_pow_log2_bounds (Int.natAbs_ne_zero.mpr (Rat.num_ne_zero.mpr nonzero))
  have denominator := two_pow_log2_bounds value.den_ne_zero
  have positive : (0 : Rat) < value.den := by exact_mod_cast value.den_pos
  generalize num : (value.num.natAbs.log2 : Int) = top at numerator
  generalize den : (value.den.log2 : Int) = bottom at denominator
  -- The quotient of two numbers is within one binade of the quotient of their leading powers.
  have lower : (2 : Rat) ^ (top - bottom - 1) ≤ |value| := by
    rw [abs_eq_num_div_den, le_div_iff₀ positive]
    calc (2 : Rat) ^ (top - bottom - 1) * value.den
        ≤ 2 ^ (top - bottom - 1) * 2 ^ (bottom + 1) := by
          exact mul_le_mul_of_nonneg_left denominator.2.le (by positivity)
      _ = 2 ^ top := by
          rw [← zpow_add₀ two_ne_zero]
          congr 1
          omega
      _ ≤ value.num.natAbs := numerator.1
  have upper : |value| < (2 : Rat) ^ (top - bottom + 1) := by
    rw [abs_eq_num_div_den, div_lt_iff₀ positive]
    calc (value.num.natAbs : Rat) < 2 ^ (top + 1) := numerator.2
      _ = 2 ^ (top - bottom + 1) * 2 ^ bottom := by
          rw [← zpow_add₀ two_ne_zero]
          congr 1
          omega
      _ ≤ 2 ^ (top - bottom + 1) * value.den := by
          exact mul_le_mul_of_nonneg_left denominator.1 (by positivity)
  unfold binade
  simp only [absolute, num, den]
  split_ifs with reached
  · exact ⟨reached, upper⟩
  · rw [sub_add_cancel]
    exact ⟨lower, not_le.mp reached⟩

def scale (value : Rat) : Int := max (binade value - 52) (-1074)

theorem spacing_eq (value : Rat) : spacing value = (2 : Rat) ^ scale value := rfl

theorem spacing_pos (value : Rat) : 0 < spacing value := by
  rw [spacing_eq]
  positivity

theorem binade_lt_iff {value : Rat} (nonzero : value ≠ 0) (exponent : Int) :
    binade value < exponent ↔ |value| < (2 : Rat) ^ exponent := by
  have bounds := binade_bounds nonzero
  constructor
  · intro below
    exact bounds.2.trans_le (zpow_le_zpow_right₀ one_le_two below)
  · intro below
    exact (zpow_lt_zpow_iff_right₀ one_lt_two).mp (bounds.1.trans_lt below)

theorem scale_le_iff {value : Rat} (nonzero : value ≠ 0) {exponent : Int}
    (least : -1074 ≤ exponent) :
    scale value ≤ exponent ↔ |value| < (2 : Rat) ^ (exponent + 53) := by
  rw [← binade_lt_iff nonzero, scale]
  omega

theorem scale_mono {first second : Rat} (nonzero : first ≠ 0) (le : |first| ≤ |second|) :
    scale first ≤ scale second := by
  have other : second ≠ 0 := by
    intro zero
    rw [zero, abs_zero] at le
    exact nonzero (abs_nonpos_iff.mp le)
  have least : -1074 ≤ scale second := le_max_right _ _
  rw [scale_le_iff nonzero least]
  exact le.trans_lt ((scale_le_iff other least).mp le_rfl)

theorem binade_neg (value : Rat) : binade (-value) = binade value := by
  rcases eq_or_ne value 0 with rfl | nonzero
  · rw [neg_zero]
  · apply le_antisymm
    · rw [← Int.lt_add_one_iff, binade_lt_iff (neg_ne_zero.mpr nonzero), abs_neg]
      exact (binade_bounds nonzero).2
    · rw [← Int.lt_add_one_iff, binade_lt_iff nonzero, ← abs_neg]
      exact (binade_bounds (neg_ne_zero.mpr nonzero)).2

theorem scale_neg (value : Rat) : scale (-value) = scale value := by
  rw [scale, scale, binade_neg]

theorem spacing_neg (value : Rat) : spacing (-value) = spacing value := by
  rw [spacing_eq, spacing_eq, scale_neg]

end Spacing

theorem nearest_eq (value : Rat) :
    nearest value = roundHalfEven (value / spacing value) * spacing value := by
  unfold nearest
  split_ifs with zero
  · rw [zero, zero_div, ← Int.cast_zero, roundHalfEven_intCast, Int.cast_zero, zero_mul]
  · rfl

theorem nearest_neg (value : Rat) : nearest (-value) = -nearest value := by
  rw [nearest_eq, nearest_eq, spacing_neg, neg_div, roundHalfEven_neg, Int.cast_neg, neg_mul]

theorem abs_nearest_sub_le (value : Rat) : |nearest value - value| ≤ spacing value / 2 := by
  have positive := spacing_pos value
  have error := abs_roundHalfEven_sub_le (value / spacing value)
  have scaled : nearest value - value =
      (roundHalfEven (value / spacing value) - value / spacing value) * spacing value := by
    rw [nearest_eq]
    field_simp
  rw [scaled, abs_mul, abs_of_pos positive]
  linarith [mul_le_mul_of_nonneg_right error positive.le]

/-- The error of a rounding, for numbers up to a power of two. -/
theorem abs_nearest_sub_le_of_abs_lt {value : Rat} {exponent : Int} (least : -1021 ≤ exponent)
    (below : |value| < (2 : Rat) ^ exponent) :
    |nearest value - value| ≤ (2 : Rat) ^ (exponent - 54) := by
  rcases eq_or_ne value 0 with rfl | nonzero
  · have fixed : nearest 0 = 0 := rfl
    rw [fixed, sub_zero, abs_zero]
    positivity
  · have small : scale value ≤ exponent - 53 := by
      rw [scale_le_iff nonzero (by omega), sub_add_cancel]
      exact below
    calc |nearest value - value| ≤ spacing value / 2 := abs_nearest_sub_le value
      _ ≤ (2 : Rat) ^ (exponent - 53) / 2 := by
          rw [spacing_eq]
          gcongr
          exact one_le_two
      _ = (2 : Rat) ^ (exponent - 54) := by
          have split : exponent - 53 = exponent - 54 + 1 := by omega
          rw [split, zpow_add_one₀ two_ne_zero]
          ring

def IsDouble (value : Rat) : Prop := ∃ significand : Int, value = significand * spacing value

theorem IsDouble.nearest_eq_self {value : Rat} (double : IsDouble value) : nearest value = value := by
  obtain ⟨significand, shape⟩ := double
  have scaled : value / spacing value = significand := by
    rw [div_eq_iff (spacing_pos value).ne']
    exact shape
  rw [nearest_eq, scaled, roundHalfEven_intCast]
  exact shape.symm

theorem isDouble_of_scale_le (significand : Int) {exponent : Int}
    (coarse : scale (significand * 2 ^ exponent) ≤ exponent) :
    IsDouble (significand * 2 ^ exponent) := by
  generalize same : (significand * 2 ^ exponent : Rat) = value at coarse ⊢
  have gap : exponent = (exponent - scale value).toNat + scale value := by omega
  refine ⟨significand * 2 ^ (exponent - scale value).toNat, ?_⟩
  calc value = significand * 2 ^ exponent := same.symm
    _ = significand * 2 ^ ((exponent - scale value).toNat + scale value) := by rw [← gap]
    _ = ((significand * 2 ^ (exponent - scale value).toNat : Int) : Rat) * spacing value := by
        rw [zpow_add₀ two_ne_zero, zpow_natCast, spacing_eq]
        push_cast
        ring

/-- A significand of 53 bits, or the power of two behind the last of them. -/
theorem isDouble_of_abs_le {significand exponent : Int} (fits : |significand| ≤ 2 ^ 53)
    (least : -1074 ≤ exponent) : IsDouble (significand * 2 ^ exponent) := by
  have size : |(significand * 2 ^ exponent : Rat)| = |significand| * 2 ^ exponent := by
    rw [abs_mul, abs_of_pos (by positivity : (0 : Rat) < 2 ^ exponent), Int.cast_abs]
  rcases eq_or_ne significand 0 with rfl | nonzero
  · exact ⟨0, by simp⟩
  have nonzero : (significand * 2 ^ exponent : Rat) ≠ 0 :=
    mul_ne_zero (Int.cast_ne_zero.mpr nonzero) (by positivity)
  rcases fits.lt_or_eq with short | full
  · apply isDouble_of_scale_le
    rw [scale_le_iff nonzero least, size]
    have short : ((|significand| : Int) : Rat) < 2 ^ 53 := by exact_mod_cast short
    calc (|significand| : Int) * (2 : Rat) ^ exponent < 2 ^ 53 * 2 ^ exponent :=
          mul_lt_mul_of_pos_right short (by positivity)
      _ = 2 ^ (exponent + 53) := (two_zpow_add_natCast exponent 53).symm
  · -- The last bit of the significand is free, so the exponent can be one more.
    obtain ⟨half, even⟩ : ∃ half : Int, significand = half * 2 := by
      rcases abs_choice significand with same | same
      · exact ⟨2 ^ 52, by omega⟩
      · exact ⟨-2 ^ 52, by omega⟩
    have shape : (significand * 2 ^ exponent : Rat) = half * 2 ^ (exponent + 1) := by
      rw [even, zpow_add_one₀ two_ne_zero]
      push_cast
      ring
    rw [shape]
    apply isDouble_of_scale_le
    rw [← shape, scale_le_iff nonzero (by omega), size, full]
    calc ((2 ^ 53 : Int) : Rat) * 2 ^ exponent = 2 ^ (exponent + 53) := by
          push_cast
          exact (two_zpow_add_natCast exponent 53).symm
      _ < 2 ^ (exponent + 1 + 53) := zpow_lt_zpow_right₀ one_lt_two (by omega)

theorem isDouble_natCast {count : Nat} (fits : count ≤ 2 ^ 53) : IsDouble count := by
  have whole : |(count : Int)| ≤ 2 ^ 53 := by
    rw [abs_of_nonneg (by omega)]
    exact_mod_cast fits
  simpa using isDouble_of_abs_le whole (by norm_num : (-1074 : Int) ≤ 0)

theorem abs_div_spacing_lt {value : Rat} (nonzero : value ≠ 0) :
    |value / spacing value| < 2 ^ 53 := by
  have least : -1074 ≤ scale value := le_max_right _ _
  rw [abs_div, abs_of_pos (spacing_pos value), div_lt_iff₀ (spacing_pos value), spacing_eq]
  calc |value| < 2 ^ (scale value + 53) := (scale_le_iff nonzero least).mp le_rfl
    _ = 2 ^ 53 * 2 ^ scale value := two_zpow_add_natCast _ 53

theorem abs_significand_le (value : Rat) : |roundHalfEven (value / spacing value)| ≤ 2 ^ 53 := by
  rcases eq_or_ne value 0 with rfl | nonzero
  · rw [zero_div, ← Int.cast_zero, roundHalfEven_intCast, abs_zero]
    norm_num
  · have inside := abs_lt.mp (abs_div_spacing_lt nonzero)
    rw [abs_le]
    constructor
    · have lower : ((-2 ^ 53 : Int) : Rat) ≤ value / spacing value := by
        push_cast
        exact inside.1.le
      have rounded := roundHalfEven_mono lower
      rwa [roundHalfEven_intCast] at rounded
    · have upper : value / spacing value ≤ ((2 ^ 53 : Int) : Rat) := by
        push_cast
        exact inside.2.le
      have rounded := roundHalfEven_mono upper
      rwa [roundHalfEven_intCast] at rounded

theorem isDouble_nearest (value : Rat) : IsDouble (nearest value) := by
  rw [nearest_eq, spacing_eq]
  exact isDouble_of_abs_le (abs_significand_le value) (le_max_right _ _)

theorem nearest_nonneg {value : Rat} (nonneg : 0 ≤ value) : 0 ≤ nearest value := by
  have rounded := roundHalfEven_mono (div_nonneg nonneg (spacing_pos value).le)
  rw [← Int.cast_zero, roundHalfEven_intCast] at rounded
  rw [nearest_eq]
  exact mul_nonneg (by exact_mod_cast rounded) (spacing_pos value).le

theorem nearest_le_two_zpow (value : Rat) : nearest value ≤ 2 ^ (scale value + 53) := by
  have significand := (abs_le.mp (abs_significand_le value)).2
  calc nearest value = roundHalfEven (value / spacing value) * 2 ^ scale value := nearest_eq value
    _ ≤ 2 ^ 53 * 2 ^ scale value := by
        have significand : (roundHalfEven (value / spacing value) : Rat) ≤ 2 ^ 53 := by
          exact_mod_cast significand
        exact mul_le_mul_of_nonneg_right significand (by positivity)
    _ = 2 ^ (scale value + 53) := (two_zpow_add_natCast _ 53).symm

/-- A positive number that is not too small for a full significand is not rounded below its leading
power of two. -/
theorem two_zpow_le_nearest {value : Rat} (positive : 0 < value) (normal : -1074 < scale value) :
    (2 : Rat) ^ (scale value + 52) ≤ nearest value := by
  have leading : binade value = scale value + 52 := by
    unfold scale at normal ⊢
    omega
  have least := (binade_bounds positive.ne').1
  rw [abs_of_pos positive, leading] at least
  have power : (2 : Rat) ^ (scale value + 52) = ((2 ^ 52 : Int) : Rat) * spacing value := by
    push_cast
    exact two_zpow_add_natCast _ 52
  rw [power] at least ⊢
  have scaled : ((2 ^ 52 : Int) : Rat) ≤ value / spacing value := by
    rw [le_div_iff₀ (spacing_pos value)]
    exact least
  have rounded := roundHalfEven_mono scaled
  rw [roundHalfEven_intCast] at rounded
  have rounded : ((2 ^ 52 : Int) : Rat) ≤ roundHalfEven (value / spacing value) := by
    exact_mod_cast rounded
  rw [nearest_eq]
  exact mul_le_mul_of_nonneg_right rounded (spacing_pos value).le

theorem nearest_mono_of_pos {first second : Rat} (positive : 0 < first) (le : first ≤ second) :
    nearest first ≤ nearest second := by
  have above : 0 < second := positive.trans_le le
  have coarser : scale first ≤ scale second := by
    apply scale_mono positive.ne'
    rwa [abs_of_pos positive, abs_of_pos above]
  rcases coarser.lt_or_eq with apart | same
  · have least : -1074 ≤ scale first := le_max_right _ _
    calc nearest first ≤ 2 ^ (scale first + 53) := nearest_le_two_zpow first
      _ ≤ 2 ^ (scale second + 52) := zpow_le_zpow_right₀ one_le_two (by omega)
      _ ≤ nearest second := two_zpow_le_nearest above (by omega)
  · rw [nearest_eq, nearest_eq, spacing_eq, spacing_eq, same]
    have positive : (0 : Rat) < 2 ^ scale second := by positivity
    have rounded := roundHalfEven_mono (div_le_div_of_nonneg_right le positive.le)
    exact mul_le_mul_of_nonneg_right (by exact_mod_cast rounded) positive.le

/-- Rounding keeps order. -/
theorem nearest_mono {first second : Rat} (le : first ≤ second) :
    nearest first ≤ nearest second := by
  rcases lt_trichotomy first 0 with negative | rfl | positive
  · rcases le_or_gt 0 second with other | below
    · have left := nearest_nonneg (neg_nonneg.mpr negative.le)
      rw [nearest_neg] at left
      exact (neg_nonneg.mp left).trans (nearest_nonneg other)
    · have mirrored := nearest_mono_of_pos (neg_pos.mpr below) (neg_le_neg le)
      rw [nearest_neg, nearest_neg] at mirrored
      exact neg_le_neg_iff.mp mirrored
  · exact nearest_nonneg le
  · exact nearest_mono_of_pos positive le

theorem IsDouble.le_nearest {double value : Rat} (isDouble : IsDouble double) (le : double ≤ value) :
    double ≤ nearest value := by
  rw [← isDouble.nearest_eq_self]
  exact nearest_mono le

/-- A double takes up what is less than half the distance to the next one. -/
theorem IsDouble.nearest_eq_of_lt {double value : Rat} (isDouble : IsDouble double)
    (positive : 0 < double) (le : double ≤ value) (close : value - double < spacing double / 2) :
    nearest value = double := by
  have step := spacing_pos double
  have above : 0 < value := positive.trans_le le
  have least : -1074 ≤ scale double := le_max_right _ _
  have inside := (abs_lt.mp (abs_div_spacing_lt positive.ne')).2
  obtain ⟨significand, shape⟩ := isDouble
  have scaled : double / spacing double = significand := by
    rw [div_eq_iff step.ne']
    exact shape
  -- The next double is not above the end of the binade, so the value is in the same one.
  have last : (significand : Rat) + 1 ≤ 2 ^ 53 := by
    rw [scaled] at inside
    have whole : significand < 2 ^ 53 := by exact_mod_cast inside
    exact_mod_cast whole
  have same : scale value = scale double := by
    apply le_antisymm
    · rw [scale_le_iff above.ne' least, abs_of_pos above]
      calc value < double + spacing double := by linarith
        _ = (significand + 1) * spacing double := by rw [add_mul, one_mul, ← shape]
        _ ≤ 2 ^ 53 * spacing double := mul_le_mul_of_nonneg_right last step.le
        _ = 2 ^ (scale double + 53) := (two_zpow_add_natCast _ 53).symm
    · apply scale_mono positive.ne'
      rwa [abs_of_pos positive, abs_of_pos above]
  have rounded : roundHalfEven (value / spacing double) = significand := by
    apply roundHalfEven_eq_of_lt
    · rw [← scaled]
      exact div_le_div_of_nonneg_right le step.le
    · rw [← scaled, ← sub_div, div_lt_iff₀ step]
      linarith
  rw [nearest_eq, spacing_eq, same, ← spacing_eq, rounded]
  exact shape.symm

section HalfUp

theorem roundHalfUp_eq {value : Rat} {whole : Nat} (lower : (whole : Rat) ≤ value + 1 / 2)
    (upper : value + 1 / 2 < whole + 1) : roundHalfUp value = whole := by
  have floor : ⌊value + 1 / 2⌋ = (whole : Int) := by
    rw [Int.floor_eq_iff]
    push_cast
    exact ⟨lower, upper⟩
  show ⌊value + 1 / 2⌋.toNat = whole
  rw [floor, Int.toNat_natCast]

theorem abs_roundHalfUp_sub_le {value : Rat} (nonneg : 0 ≤ value) :
    |(roundHalfUp value : Rat) - value| ≤ 1 / 2 := by
  have below := Int.floor_le (value + 1 / 2)
  have above := Int.lt_floor_add_one (value + 1 / 2)
  have whole : 0 ≤ ⌊value + 1 / 2⌋ := Int.floor_nonneg.mpr (by linarith)
  have floor : (roundHalfUp value : Rat) = ⌊value + 1 / 2⌋ := by
    exact_mod_cast Int.toNat_of_nonneg whole
  rw [floor, abs_le]
  constructor <;> linarith

theorem roundHalfUp_le {value : Rat} {whole : Nat} (le : value ≤ whole) :
    roundHalfUp value ≤ whole := by
  have floor : ⌊value + 1 / 2⌋ < (whole : Int) + 1 := by
    rw [Int.floor_lt]
    push_cast
    linarith
  show ⌊value + 1 / 2⌋.toNat ≤ whole
  omega

theorem le_roundHalfUp {value : Rat} {whole : Nat} (le : (whole : Rat) ≤ value) :
    whole ≤ roundHalfUp value := by
  have floor : (whole : Int) ≤ ⌊value + 1 / 2⌋ := by
    rw [Int.le_floor, Int.cast_natCast]
    linarith
  show whole ≤ ⌊value + 1 / 2⌋.toNat
  omega

end HalfUp

end Voiceover.Binary64
