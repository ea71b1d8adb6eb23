import Mathlib.Analysis.Complex.ExponentialBounds
import Voiceover.Proofs.Binary64.Nearest
import Voiceover.Speech.Preview

/-! How exact the power of three is that makes the tempo of speech. Each term of its series is cut to a
whole number of last places, and what is cut is multiplied with the term on the way to the next one.
So the power is not far from what it should be, and speech does not get slow without a limit. -/

namespace Voiceover.Tempo

def term (argument : Int) : (index : Nat) → Int
  | 0 => unit
  | index + 1 => multiply (term argument index) argument / (index + 1 : Nat)

theorem foldl_terms (argument : Int) {step : Int × Int → Nat → Int × Int}
    (adds : ∀ sum index, step (sum, term argument index) index =
      (sum + term argument index, term argument (index + 1))) (count : Nat) :
    (List.range count).foldl step (0, unit) =
      (∑ index ∈ Finset.range count, term argument index, term argument count) := by
  induction count with
  | zero => rfl
  | succ count ih => rw [List.range_succ, List.foldl_concat, ih, adds, Finset.sum_range_succ]

theorem exponential_eq (argument : Int) :
    exponential argument = ∑ index ∈ Finset.range places, term argument index :=
  congrArg Prod.fst (foldl_terms argument (fun _ _ => rfl) places)

theorem unit_eq : unit = 2 ^ 256 := by decide

theorem unit_pos : 0 < unit := by decide

theorem abs_ediv_sub_le (value : Int) {divisor : Int} (positive : 0 < divisor) :
    |((value / divisor : Int) : ℝ) - value / divisor| ≤ 1 := by
  have scale : (0 : ℝ) < divisor := by exact_mod_cast positive
  have lower : (value / divisor : Int) * (divisor : ℝ) ≤ value := by
    exact_mod_cast Int.ediv_mul_le value positive.ne'
  have upper : (value : ℝ) < ((value / divisor : Int) + 1) * divisor := by
    exact_mod_cast Int.lt_ediv_add_one_mul_self value positive
  rw [abs_le]
  have below := (le_div_iff₀ scale).mpr lower
  have above := (div_lt_iff₀ scale).mpr upper
  constructor <;> linarith

noncomputable def exactTerm (argument : Int) (index : Nat) : ℝ :=
  (argument / unit : ℝ) ^ index / index.factorial * unit

noncomputable def series (value : ℝ) : ℝ :=
  ∑ index ∈ Finset.range places, value ^ index / index.factorial

section Terms

variable (argument : Int)

theorem exactTerm_succ (index : Nat) :
    exactTerm argument (index + 1) =
      exactTerm argument index * (argument / unit : ℝ) / (index + 1) := by
  rw [exactTerm, exactTerm, Nat.factorial_succ, pow_succ]
  push_cast
  field_simp

theorem sum_exactTerm :
    ∑ index ∈ Finset.range places, exactTerm argument index = series (argument / unit) * unit := by
  rw [series, Finset.sum_mul]
  rfl

theorem abs_term_succ_sub_le (index : Nat) :
    |(term argument (index + 1) : ℝ) - term argument index * (argument / unit : ℝ) / (index + 1)| ≤
      1 := by
  have next : (0 : Int) < (index + 1 : Nat) := by omega
  have cut := abs_ediv_sub_le (term argument index * argument) (Int.mul_pos unit_pos next)
  rw [← Int.ediv_ediv_of_nonneg unit_pos.le] at cut
  push_cast at cut
  have same : (term argument index : ℝ) * (argument / unit : ℝ) / (index + 1) =
      term argument index * argument / (unit * (index + 1)) := by
    rw [mul_div_assoc', div_div]
  rw [same]
  exact cut

/-- Up to the fifteenth term an error may grow with the argument, and from there on it shrinks. -/
theorem carried_le (index : Nat) :
    1 + (16 : ℝ) ^ min index 15 * 15 / (index + 1) ≤ 16 ^ min (index + 1) 15 := by
  rcases Nat.lt_or_ge index 15 with early | late
  · rw [min_eq_left early.le, min_eq_left (Nat.succ_le_of_lt early), pow_succ]
    have large : (1 : ℝ) ≤ 16 ^ index := one_le_pow₀ (by norm_num)
    have fewer : (16 : ℝ) ^ index * 15 / (index + 1) ≤ 16 ^ index * 15 :=
      div_le_self (by positivity) (by linarith)
    linarith
  · rw [min_eq_right late, min_eq_right (late.trans (Nat.le_succ index))]
    have many : (16 : ℝ) ≤ index + 1 := by exact_mod_cast Nat.succ_le_succ late
    have fewer : (16 : ℝ) ^ 15 * 15 / (index + 1) ≤ 16 ^ 15 * 15 / 16 := by gcongr
    linarith

variable {argument} (small : |(argument / unit : ℝ)| ≤ 15)
include small

theorem abs_term_sub_le (index : Nat) :
    |(term argument index : ℝ) - exactTerm argument index| ≤ 16 ^ min index 15 := by
  induction index with
  | zero => simp [term, exactTerm]
  | succ index ih =>
    have count : (0 : ℝ) < index + 1 := by positivity
    have carried : |term argument index * (argument / unit : ℝ) / (index + 1) -
        exactTerm argument (index + 1)| ≤ 16 ^ min index 15 * 15 / (index + 1) := by
      rw [exactTerm_succ, ← sub_div, ← sub_mul, abs_div, abs_mul, abs_of_pos count]
      gcongr
    calc |(term argument (index + 1) : ℝ) - exactTerm argument (index + 1)|
        ≤ |(term argument (index + 1) : ℝ) -
              term argument index * (argument / unit : ℝ) / (index + 1)| +
            |term argument index * (argument / unit : ℝ) / (index + 1) -
              exactTerm argument (index + 1)| := abs_sub_le _ _ _
      _ ≤ 1 + 16 ^ min index 15 * 15 / (index + 1) :=
          add_le_add (abs_term_succ_sub_le argument index) carried
      _ ≤ 16 ^ min (index + 1) 15 := carried_le index

theorem abs_exponential_sub_series_le :
    |(exponential argument : ℝ) / unit - series (argument / unit)| ≤ 1 / 2 ^ 188 := by
  have unitCast : (unit : ℝ) = 2 ^ 256 := by rw [unit_eq, Int.cast_pow, Int.cast_ofNat]
  have positive : (0 : ℝ) < unit := by exact_mod_cast unit_pos
  have each (index : Nat) : |(term argument index : ℝ) - exactTerm argument index| ≤ 16 ^ 15 :=
    (abs_term_sub_le small index).trans (pow_le_pow_right₀ (by norm_num) (min_le_right _ _))
  have cut : |(exponential argument : ℝ) - series (argument / unit) * unit| ≤ places * 16 ^ 15 := by
    rw [exponential_eq, Int.cast_sum, ← sum_exactTerm, ← Finset.sum_sub_distrib]
    calc |∑ index ∈ Finset.range places, ((term argument index : ℝ) - exactTerm argument index)|
        ≤ ∑ index ∈ Finset.range places, |(term argument index : ℝ) - exactTerm argument index| :=
          Finset.abs_sum_le_sum_abs _ _
      _ ≤ ∑ _index ∈ Finset.range places, (16 : ℝ) ^ 15 :=
          Finset.sum_le_sum fun index _ => each index
      _ = places * 16 ^ 15 := by rw [Finset.sum_const, Finset.card_range, nsmul_eq_mul]
  rw [← mul_div_cancel_right₀ (series _) positive.ne', ← sub_div, abs_div, abs_of_pos positive]
  calc |(exponential argument : ℝ) - series (argument / unit) * unit| / unit
      ≤ places * 16 ^ 15 / unit := by gcongr
    _ ≤ 1 / 2 ^ 188 := by
        rw [unitCast, places]
        norm_num

end Terms

theorem abs_series_sub_exp_le {value : ℝ} (small : |value| ≤ 15) :
    |series value - Real.exp value| ≤ 1 / 2 ^ 188 := by
  have early : ‖(value : ℂ)‖ / (places.succ : ℝ) ≤ 1 / 2 := by
    rw [Complex.norm_real, Real.norm_eq_abs, places]
    push_cast
    linarith
  have rest := Complex.exp_bound' early
  have real : Complex.exp value - ∑ index ∈ Finset.range places, (value : ℂ) ^ index / index.factorial =
      ((Real.exp value - series value : ℝ) : ℂ) := by
    rw [series]
    push_cast
    rfl
  rw [real, Complex.norm_real, Complex.norm_real, Real.norm_eq_abs, Real.norm_eq_abs,
    abs_sub_comm] at rest
  have tiny : 15 ^ places * 2 * 2 ^ 188 ≤ places.factorial := by decide +kernel
  have positive : (0 : ℝ) < places.factorial := by exact_mod_cast Nat.factorial_pos places
  calc |series value - Real.exp value|
      ≤ |value| ^ places / places.factorial * 2 := rest
    _ ≤ 15 ^ places / places.factorial * 2 := by gcongr
    _ = 15 ^ places * 2 / places.factorial := by ring
    _ ≤ 1 / 2 ^ 188 := by
        rw [div_le_div_iff₀ positive (by positivity), one_mul]
        exact_mod_cast tiny

/-- What is summed up is the exponential but for its last places. -/
theorem abs_exponential_sub_le {argument : Int} (small : |(argument / unit : ℝ)| ≤ 15) :
    |(exponential argument : ℝ) / unit - Real.exp (argument / unit)| ≤ 1 / 2 ^ 187 := by
  calc |(exponential argument : ℝ) / unit - Real.exp (argument / unit)|
      ≤ |(exponential argument : ℝ) / unit - series (argument / unit)| +
          |series (argument / unit) - Real.exp (argument / unit)| := abs_sub_le _ _ _
    _ ≤ 1 / 2 ^ 188 + 1 / 2 ^ 188 :=
        add_le_add (abs_exponential_sub_series_le small) (abs_series_sub_exp_le small)
    _ = 1 / 2 ^ 187 := by norm_num

theorem exp_neg_fifteen_ge : 1 / 2 ^ 22 + 1 / 2 ^ 187 ≤ Real.exp (-15) := by
  have power : Real.exp 15 = Real.exp 1 ^ 15 := by
    rw [← Real.exp_nat_mul]
    norm_num
  have small : Real.exp 15 ≤ 2.7182818286 ^ 15 := by
    rw [power]
    exact pow_le_pow_left₀ (Real.exp_pos 1).le Real.exp_one_lt_d9.le 15
  rw [Real.exp_neg]
  calc (1 / 2 ^ 22 + 1 / 2 ^ 187 : ℝ) ≤ (2.7182818286 ^ 15)⁻¹ := by norm_num
    _ ≤ (Real.exp 15)⁻¹ := inv_anti₀ (Real.exp_pos 15) small

open Binary64

theorem abs_tenth_le {rate : Int} (lower : -128 ≤ rate) (upper : rate ≤ 127) :
    |nearest (rate / 10)| ≤ 13 := by
  have thirteen : IsDouble (13 : Nat) := isDouble_natCast (by decide)
  have above : nearest (13 : Rat) = 13 := thirteen.nearest_eq_self
  have below : nearest (-13 : Rat) = -13 := by rw [nearest_neg, above]
  have least : (-128 : Rat) ≤ rate := by exact_mod_cast lower
  have most : (rate : Rat) ≤ 127 := by exact_mod_cast upper
  rw [abs_le]
  constructor
  · rw [← below]
    apply nearest_mono
    linarith
  · rw [← above]
    apply nearest_mono
    linarith

/-- The logarithm of three is less than fifteen thirteenths. -/
theorem abs_argument_le {tenth : Rat} (short : |tenth| ≤ 13) :
    |(⌊tenth * logThree⌋ / unit : ℝ)| ≤ 15 := by
  have logPositive : (0 : Rat) < logThree := by exact_mod_cast (by decide +kernel : 0 < logThree)
  have logSmall : 13 * (logThree : Rat) ≤ 15 * unit := by
    exact_mod_cast (by decide +kernel : 13 * logThree ≤ 15 * unit)
  have product : |tenth * logThree| ≤ 15 * unit := by
    rw [abs_mul, abs_of_pos logPositive]
    exact (mul_le_mul_of_nonneg_right short logPositive.le).trans logSmall
  obtain ⟨lower, upper⟩ := abs_le.mp product
  have least : -(15 * unit) ≤ ⌊tenth * logThree⌋ := by
    rw [Int.le_floor]
    push_cast
    exact lower
  have most : ⌊tenth * logThree⌋ ≤ 15 * unit := by
    have rounded := (Int.floor_le (tenth * logThree)).trans upper
    exact_mod_cast rounded
  have positive : (0 : ℝ) < unit := by exact_mod_cast unit_pos
  rw [abs_div, abs_of_pos positive, div_le_iff₀ positive]
  exact_mod_cast abs_le.mpr ⟨least, most⟩

/-- At a rate of one byte speech is not four million times slower than at rate zero. -/
theorem le_factor {rate : Int} (lower : -128 ≤ rate) (upper : rate ≤ 127) :
    1 / 2 ^ 22 ≤ factor rate := by
  have small := abs_argument_le (abs_tenth_le lower upper)
  have close := abs_le.mp (abs_exponential_sub_le small)
  have least : Real.exp (-15) ≤ Real.exp (⌊nearest (rate / 10) * logThree⌋ / unit) :=
    Real.exp_le_exp.mpr (abs_le.mp small).1
  have above : (1 / 2 ^ 22 : ℝ) ≤ (exponential ⌊nearest (rate / 10) * logThree⌋ : ℝ) / unit := by
    linarith [exp_neg_fifteen_ge]
  have power : IsDouble ((1 : Int) * 2 ^ (-22 : Int)) := isDouble_of_abs_le (by decide) (by decide)
  have double : IsDouble (1 / 2 ^ 22) := by simpa using power
  apply double.le_nearest
  rw [← Rat.cast_le (K := ℝ)]
  push_cast
  exact above

end Voiceover.Tempo
