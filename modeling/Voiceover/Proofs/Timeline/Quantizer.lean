import Voiceover.Proofs.Duration.Seconds
import Voiceover.Timeline

/-! Counting frames keeps order, from doubles as well as from spans of time, so no phoneme closes the
mouth before the frame in which it has opened it: the start is already a double, and rounding what is
longer than a double does not go below it. -/

namespace Voiceover

open Binary64

theorem framePeriod_pos : 0 < framePeriod := by
  have double : IsDouble ((32 : Nat) : Rat) := isDouble_natCast (by norm_num)
  have whole : ((32 : Nat) : Rat) ≤ framePeriod := by
    apply double.le_nearest
    norm_num
  have positive : (0 : Rat) < (32 : Nat) := by norm_num
  exact positive.trans_le whole

/-- The double for the length of a frame is below it, by less than one rounding. -/
theorem framePeriod_bounds :
    framePeriod ≤ 1000 / 24 ∧ 1000 / 24 ≤ framePeriod * (1 + unitRoundoff) := by
  have value : framePeriod = 5864062014805333 / 2 ^ 47 := by decide +kernel
  rw [value, unitRoundoff]
  norm_num

theorem toNat_saturated (frame : Int) :
    (saturated frame).toNat = min frame.toNat (word32 - 1) := by
  have inRange : min frame.toNat (word32 - 1) < word32 := by
    have positive : 0 < word32 := by decide
    omega
  exact UInt32.toNat_ofNat_of_lt' inRange

/-- A frame past the last one there is, and every frame below zero, is moved to the end of the range
that it is beyond. -/
theorem saturated_mono {first second : Int} (le : first ≤ second) :
    saturated first ≤ saturated second := by
  rw [UInt32.le_iff_toNat_le, toNat_saturated, toNat_saturated]
  omega

theorem frameAtMillis_mono {first second : Rat} (le : first ≤ second) :
    frameAtMillis first ≤ frameAtMillis second := by
  apply saturated_mono
  show ⌊nearest (first / framePeriod)⌋ ≤ ⌊nearest (second / framePeriod)⌋
  apply Int.floor_le_floor
  apply nearest_mono
  exact div_le_div_of_nonneg_right le framePeriod_pos.le

theorem Phoneme.openingFrame_le_closingFrame (phoneme : Phoneme) :
    phoneme.openingFrame ≤ phoneme.closingFrame := by
  apply frameAtMillis_mono
  apply (isDouble_nearest (phoneme.start.inSeconds * 1000)).le_nearest
  show phoneme.start.inMillis ≤ phoneme.start.inMillis + phoneme.length.inMillis
  exact le_add_of_nonneg_right phoneme.length.inMillis_nonneg

section Order

/-- The order of doubles. The infinities are at its ends, and nothing is below or above what is no
number. -/
def Binary64.AtMost : Binary64 → Binary64 → Prop
  | .nan, _ | _, .nan => False
  | .infinity true, _ | _, .infinity false => True
  | .finite first, .finite second => first ≤ second
  | _, _ => False

instance : LE Binary64 := ⟨Binary64.AtMost⟩

theorem saturated_word32 (frame : UInt32) : frame ≤ saturated word32 := by
  have below := frame.toNat_lt
  have width : word32 = 2 ^ 32 := by decide
  rw [UInt32.le_iff_toNat_le, toNat_saturated]
  omega

theorem frameAtBinary64_mono {first second : Binary64} (le : first ≤ second) :
    frameAtBinary64 first ≤ frameAtBinary64 second := by
  match first, second, le with
  | .infinity true, .infinity _, _ => exact UInt32.zero_le
  | .infinity true, .finite _, _ => exact UInt32.zero_le
  | .infinity false, .infinity false, _ => exact UInt32.le_refl _
  | .finite _, .infinity false, _ => exact saturated_word32 _
  | .finite _, .finite _, le => exact frameAtMillis_mono le

theorem Duration.frame_mono {first second : Duration} (le : first.nanos ≤ second.nanos) :
    first.frame ≤ second.frame :=
  frameAtMillis_mono (inMillis_mono le)

/-- Frames are counted in order, whether of doubles or of spans of time, and a phoneme that is added
opens the mouth in a frame that is not behind the one in which it closes it. -/
theorem frames_ordered :
    (∀ first second : Binary64, first ≤ second → frameAtBinary64 first ≤ frameAtBinary64 second) ∧
      (∀ first second : Duration, first.nanos ≤ second.nanos → first.frame ≤ second.frame) ∧
      ∀ phoneme : Phoneme, phoneme.openingFrame ≤ phoneme.closingFrame ∧
        ∀ (timeline : Timeline) (shape : MouthShape),
          MouthShape.ofSymbol? phoneme.symbol = some shape →
          timeline.add phoneme =
            (timeline.put phoneme.openingFrame shape).put phoneme.closingFrame .rest := by
  refine ⟨fun _ _ => frameAtBinary64_mono, fun _ _ => Duration.frame_mono, fun phoneme => ?_⟩
  exact ⟨phoneme.openingFrame_le_closingFrame, fun timeline _ shown => timeline.add_of_shown shown⟩

/-- Spans of 2^53 seconds and a bit less than one more, and of exactly one more: the seconds of both are
the same double. -/
theorem frames_ordered_past_doubles :
    (Duration.clamped 9007199254740992999999999).nanos ≤
        (Duration.clamped 9007199254740993000000000).nanos ∧
      (Duration.clamped 9007199254740992999999999).frame ≤
        (Duration.clamped 9007199254740993000000000).frame := by
  have le : (Duration.clamped 9007199254740992999999999).nanos ≤
      (Duration.clamped 9007199254740993000000000).nanos := by decide
  exact ⟨le, frames_ordered.2.1 _ _ le⟩

end Order

end Voiceover
