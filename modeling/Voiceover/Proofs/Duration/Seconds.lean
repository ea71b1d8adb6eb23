import Voiceover.Duration
import Voiceover.Proofs.Binary64.Relative

/-! Spans of time in seconds and in milliseconds, as doubles: how far they are from the spans that they
stand for. A span of a whole number of eighths of a second is met exactly. -/

namespace Voiceover.Duration

open Binary64

theorem inSeconds_nonneg (span : Duration) : 0 ≤ span.inSeconds := by
  apply nearest_nonneg
  have whole : 0 ≤ nearest (span.seconds : Rat) := nearest_nonneg (by positivity)
  have fraction : 0 ≤ nearest ((span.subsecond : Rat) / nanosPerSecond) :=
    nearest_nonneg (by positivity)
  exact add_nonneg whole fraction

theorem inMillis_nonneg (span : Duration) : 0 ≤ span.inMillis := by
  apply nearest_nonneg
  exact mul_nonneg span.inSeconds_nonneg (by norm_num)

theorem seconds_add_subsecond (span : Duration) :
    (span.nanos : Rat) / nanosPerSecond = span.seconds + (span.subsecond : Rat) / nanosPerSecond := by
  have split : span.nanos = nanosPerSecond * span.seconds + span.subsecond :=
    (Nat.div_add_mod span.nanos nanosPerSecond).symm
  have positive : (nanosPerSecond : Rat) ≠ 0 := by norm_num [nanosPerSecond]
  rw [split]
  push_cast
  field_simp

theorem subsecond_lt (span : Duration) : (span.subsecond : Rat) / nanosPerSecond < 1 := by
  have below : span.subsecond < nanosPerSecond := Nat.mod_lt _ (by decide)
  rw [div_lt_one (by norm_num [nanosPerSecond])]
  exact_mod_cast below

section Order

theorem two_pow_le_nearest {count : Nat} (large : 2 ^ 53 ≤ count) : (2 : Rat) ^ 53 ≤ nearest count := by
  have double : IsDouble ((2 ^ 53 : Nat) : Rat) := isDouble_natCast le_rfl
  have kept : ((2 ^ 53 : Nat) : Rat) ≤ nearest count := double.le_nearest (by exact_mod_cast large)
  exact_mod_cast kept

/-- A whole number from 2^53 on is rounded to a double that is two or more from the next one. -/
theorem two_le_spacing_nearest {count : Nat} (large : 2 ^ 53 ≤ count) :
    2 ≤ spacing (nearest (count : Rat)) := by
  have kept := two_pow_le_nearest large
  have positive : (0 : Rat) < nearest count := lt_of_lt_of_le (by norm_num) kept
  have coarse : 1 ≤ scale (nearest (count : Rat)) := by
    rw [← not_lt, ← Int.le_sub_one_iff, scale_le_iff positive.ne' (by norm_num), abs_of_pos positive,
      not_lt]
    exact le_trans (by norm_num) kept
  calc (2 : Rat) = 2 ^ (1 : Int) := by norm_num
    _ ≤ 2 ^ scale (nearest (count : Rat)) := zpow_le_zpow_right₀ one_le_two coarse

/-- A fraction of a second does not take a whole number of seconds past the next one. Where whole
numbers are doubles the next one is in the way, and where they are not the fraction is lost. -/
theorem nearest_add_fraction_le (count : Nat) {fraction : Rat} (nonneg : 0 ≤ fraction)
    (less : fraction < 1) : nearest (nearest count + fraction) ≤ nearest (count + 1 : Nat) := by
  rcases Nat.lt_or_ge count (2 ^ 53) with small | large
  · apply nearest_mono
    rw [(isDouble_natCast small.le).nearest_eq_self]
    push_cast
    linarith
  · have positive : (0 : Rat) < nearest count :=
      lt_of_lt_of_le (by norm_num) (two_pow_le_nearest large)
    have step := two_le_spacing_nearest large
    have lost : nearest (nearest count + fraction) = nearest (count : Rat) := by
      apply (isDouble_nearest count).nearest_eq_of_lt positive
      · exact le_add_of_nonneg_right nonneg
      · linarith
    rw [lost]
    apply nearest_mono
    exact_mod_cast Nat.le_succ count

theorem nearest_subsecond_lt (span : Duration) :
    nearest ((span.subsecond : Rat) / nanosPerSecond) < 1 := by
  have below : span.subsecond ≤ 999999999 := Nat.le_of_lt_succ (Nat.mod_lt _ (by decide))
  have below : (span.subsecond : Rat) ≤ 999999999 := by exact_mod_cast below
  have part : (span.subsecond : Rat) / nanosPerSecond ≤ 999999999 / 1000000000 := by
    rw [nanosPerSecond]
    push_cast
    linarith
  have nonneg : (0 : Rat) ≤ (span.subsecond : Rat) / nanosPerSecond := by positivity
  have error : |nearest ((span.subsecond : Rat) / nanosPerSecond) - span.subsecond / nanosPerSecond| ≤
      2 ^ ((0 : Int) - 54) := by
    apply abs_nearest_sub_le_of_abs_lt (by norm_num)
    rw [abs_of_nonneg nonneg, zpow_zero]
    exact span.subsecond_lt
  rw [abs_le] at error
  norm_num at error
  linarith

variable {first second : Duration}

/-- The double for a longer span is not smaller. The seconds and the fraction are rounded apart, so a
fraction that is dropped for the next second could undo what the seconds gain. -/
theorem inSeconds_mono (le : first.nanos ≤ second.nanos) : first.inSeconds ≤ second.inSeconds := by
  have ordered : first.seconds ≤ second.seconds := Nat.div_le_div_right le
  have fraction (span : Duration) : 0 ≤ nearest ((span.subsecond : Rat) / nanosPerSecond) :=
    nearest_nonneg (by positivity)
  rcases ordered.lt_or_eq with later | same
  · calc first.inSeconds ≤ nearest (first.seconds + 1 : Nat) :=
          nearest_add_fraction_le first.seconds (fraction first) first.nearest_subsecond_lt
      _ ≤ nearest second.seconds := nearest_mono (by exact_mod_cast later)
      _ ≤ second.inSeconds := by
          apply (isDouble_nearest _).le_nearest
          exact le_add_of_nonneg_right (fraction second)
  · have split (span : Duration) : nanosPerSecond * span.seconds + span.subsecond = span.nanos :=
      Nat.div_add_mod span.nanos nanosPerSecond
    have parts : first.subsecond ≤ second.subsecond := by
      have firstSplit := split first
      have secondSplit := split second
      rw [same] at firstSplit
      omega
    apply nearest_mono
    rw [same]
    apply add_le_add_right
    apply nearest_mono
    apply div_le_div_of_nonneg_right _ (by positivity)
    exact_mod_cast parts

theorem inMillis_mono (le : first.nanos ≤ second.nanos) : first.inMillis ≤ second.inMillis := by
  apply nearest_mono
  exact mul_le_mul_of_nonneg_right (inSeconds_mono le) (by norm_num)

end Order

/-- The whole seconds of a span are doubles, and are not lost in the sum. -/
theorem seconds_le_inSeconds {span : Duration} {count : Nat} (fits : count ≤ 2 ^ 53)
    (long : count ≤ span.seconds) : (count : Rat) ≤ span.inSeconds := by
  have double : IsDouble count := isDouble_natCast fits
  have whole : (count : Rat) ≤ nearest span.seconds :=
    double.le_nearest (by exact_mod_cast long)
  have fraction : 0 ≤ nearest ((span.subsecond : Rat) / nanosPerSecond) :=
    nearest_nonneg (by positivity)
  apply double.le_nearest
  exact whole.trans (le_add_of_nonneg_right fraction)

/-- The double for a span of less than three days is right to 34 binary places. -/
theorem abs_inSeconds_sub_le {span : Duration} (short : span.seconds < 2 ^ 18) :
    |span.inSeconds - span.nanos / nanosPerSecond| ≤ 1 / 2 ^ 34 := by
  have seconds : (span.seconds : Rat) ≤ 2 ^ 18 := by exact_mod_cast short.le
  have part : (0 : Rat) ≤ (span.subsecond : Rat) / nanosPerSecond := by positivity
  have less := span.subsecond_lt
  have whole : nearest span.seconds = span.seconds :=
    (isDouble_natCast (by omega)).nearest_eq_self
  rw [span.seconds_add_subsecond, inSeconds, whole]
  generalize (span.subsecond : Rat) / nanosPerSecond = fraction at part less ⊢
  have fractionError : |nearest fraction - fraction| ≤ 2 ^ ((0 : Int) - 54) := by
    apply abs_nearest_sub_le_of_abs_lt (by norm_num)
    rwa [abs_of_nonneg part, zpow_zero]
  have rounded : 0 ≤ nearest fraction := nearest_nonneg part
  rw [abs_le] at fractionError
  norm_num at fractionError
  have sumError : |nearest (span.seconds + nearest fraction) - (span.seconds + nearest fraction)| ≤
      2 ^ ((19 : Int) - 54) := by
    apply abs_nearest_sub_le_of_abs_lt (by norm_num)
    rw [abs_of_nonneg (by positivity)]
    norm_num
    linarith
  rw [abs_le] at sumError ⊢
  norm_num at sumError ⊢
  constructor <;> linarith

def parts (span : Duration) : Rat :=
  nearest span.seconds + nearest (span.subsecond / nanosPerSecond)

theorem inSeconds_eq (span : Duration) : span.inSeconds = nearest span.parts := rfl

theorem sized_seconds (count : Nat) : Sized ((count : Rat) / nanosPerSecond) := by
  rw [div_eq_mul_inv]
  exact sized_natCast_mul count (by norm_num [nanosPerSecond])

theorem rounded_parts (span : Duration) : Rounded 1 (span.nanos / nanosPerSecond) span.parts := by
  have whole : Sized (span.seconds : Rat) := by
    simpa using sized_natCast_mul span.seconds (by norm_num : (2 : Rat) ^ (-64 : Int) ≤ 1)
  have sum := ((Rounded.refl _).nearest whole (by norm_num)).add
    ((Rounded.refl _).nearest (sized_seconds span.subsecond) (by norm_num))
  rwa [← span.seconds_add_subsecond] at sum

/-- Whole seconds and the fraction are rounded once, and their sum once more. -/
theorem rounded_inSeconds (span : Duration) :
    Rounded 2 (span.nanos / nanosPerSecond) span.inSeconds :=
  span.rounded_parts.nearest (sized_seconds span.nanos) (by norm_num)

theorem sized_millis (span : Duration) : Sized ((span.nanos : Rat) / nanosPerSecond * 1000) := by
  rw [div_mul_eq_mul_div, mul_div_assoc]
  exact sized_natCast_mul span.nanos (by norm_num [nanosPerSecond])

theorem rounded_inMillis (span : Duration) :
    Rounded 3 (span.nanos / nanosPerSecond * 1000) span.inMillis :=
  (span.rounded_inSeconds.mul (by norm_num)).nearest span.sized_millis (by norm_num)

section Eighths

variable {span : Duration} (short : span.seconds < 2 ^ 18) {count : Nat}
  (eighths : span.nanos = 125000000 * count)

include short eighths

theorem eighths_le : count ≤ 2 ^ 21 := by
  have long : span.nanos < 2 ^ 18 * nanosPerSecond := (Nat.div_lt_iff_lt_mul (by decide)).mp short
  have seconds : nanosPerSecond = 1000000000 := rfl
  omega

/-- Eighths of a second are exact, and so is every sum of them. -/
theorem parts_of_eighths : span.parts = (count : Rat) / 8 ∧ IsDouble ((count : Rat) / 8) := by
  have split : span.nanos = 1000000000 * span.seconds + span.subsecond :=
    (Nat.div_add_mod span.nanos nanosPerSecond).symm
  have less : span.subsecond < 1000000000 := Nat.mod_lt _ (by decide)
  have few := eighths_le short eighths
  obtain ⟨part, fraction⟩ : ∃ part, span.subsecond = 125000000 * part :=
    ⟨count - 8 * span.seconds, by omega⟩
  have together : 8 * span.seconds + part = count := by omega
  have eighth (count : Nat) (few : count ≤ 2 ^ 53) : IsDouble ((count : Rat) / 8) := by
    have shape : (count : Rat) / 8 = (count : Int) * 2 ^ (-3 : Int) := by
      norm_num
      ring
    rw [shape]
    exact isDouble_of_abs_le (by rw [abs_of_nonneg] <;> omega) (by norm_num)
  have whole : nearest (span.seconds : Rat) = span.seconds :=
    (isDouble_natCast (by omega)).nearest_eq_self
  have rest : nearest ((span.subsecond : Rat) / nanosPerSecond) = part / 8 := by
    have shape : (span.subsecond : Rat) / nanosPerSecond = part / 8 := by
      rw [fraction, nanosPerSecond]
      push_cast
      ring
    rw [shape]
    exact (eighth part (by omega)).nearest_eq_self
  constructor
  · rw [parts, whole, rest, ← together]
    push_cast
    ring
  · exact eighth count (by omega)

theorem inSeconds_of_eighths : span.inSeconds = (count : Rat) / 8 := by
  obtain ⟨sum, double⟩ := parts_of_eighths short eighths
  rw [inSeconds_eq, sum]
  exact double.nearest_eq_self

theorem inMillis_of_eighths : span.inMillis = (125 * count : Nat) := by
  have few := eighths_le short eighths
  have product : (count : Rat) / 8 * 1000 = (125 * count : Nat) := by
    push_cast
    ring
  rw [inMillis, inSeconds_of_eighths short eighths, product]
  exact (isDouble_natCast (by omega)).nearest_eq_self

end Eighths

end Voiceover.Duration
