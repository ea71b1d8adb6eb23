import Mathlib.Algebra.Order.Floor.Ring
import Mathlib.Data.Rat.Floor
import Voiceover.Proofs.Wave.Lasting

/-! Files of silence at the sampling rate of speech. A span is counted in doubles, and is turned into
a whole number of frames. For spans of whole microseconds the doubles are always close enough for that
number to be the nearest one, so the silence is longer or shorter than asked for by half a frame at
most, and it may well be shorter. -/

namespace Voiceover

open Binary64

namespace Wave

/-- The number of frames before it is made whole. The seconds are off by little, and the product is
rounded once more. -/
theorem abs_frames_sub_le {span : Duration} (short : span.seconds < 2 ^ 18) :
    |nearest (span.inSeconds * (16000 : Nat)) - span.nanos / 62500| < 1 / 250 := by
  have error := Duration.abs_inSeconds_sub_le short
  have below : (span.nanos : Rat) / nanosPerSecond < 2 ^ 18 + 1 := by
    have seconds : (span.seconds : Rat) < 2 ^ 18 := by exact_mod_cast short
    rw [span.seconds_add_subsecond]
    linarith [span.subsecond_lt]
  have scaled : (span.nanos : Rat) / nanosPerSecond * (16000 : Nat) = span.nanos / 62500 := by
    norm_num [nanosPerSecond]
    ring
  have rounding : |nearest (span.inSeconds * (16000 : Nat)) - span.inSeconds * (16000 : Nat)| ≤
      2 ^ ((33 : Int) - 54) := by
    apply abs_nearest_sub_le_of_abs_lt (by norm_num)
    have seconds := span.inSeconds_nonneg
    rw [abs_of_nonneg (by positivity)]
    rw [abs_le] at error
    norm_num at error below ⊢
    linarith
  calc |nearest (span.inSeconds * (16000 : Nat)) - span.nanos / 62500|
      ≤ |nearest (span.inSeconds * (16000 : Nat)) - span.inSeconds * (16000 : Nat)| +
          |span.inSeconds * (16000 : Nat) - span.nanos / 62500| := abs_sub_le _ _ _
    _ = |nearest (span.inSeconds * (16000 : Nat)) - span.inSeconds * (16000 : Nat)| +
          |span.inSeconds - span.nanos / nanosPerSecond| * 16000 := by
        rw [← scaled, ← sub_mul, abs_mul]
        norm_num
    _ ≤ 2 ^ ((33 : Int) - 54) + 1 / 2 ^ 34 * 16000 :=
        add_le_add rounding (mul_le_mul_of_nonneg_right error (by norm_num))
    _ < 1 / 250 := by norm_num

/-- For the nanoseconds of whole microseconds, half a frame is never nearer than the 250th part of
one, and doubles do not miss by so much. -/
theorem frameCount_eq {span : Duration} (short : span.seconds < 2 ^ 18)
    (whole : span.nanos % 1000 = 0) :
    frameCount span 16000 = (span.nanos + 31250) / 62500 := by
  have error := abs_lt.mp (abs_frames_sub_le short)
  generalize frames : (span.nanos + 31250) / 62500 = count
  have lower : 62500 * count + 250 ≤ span.nanos + 31250 := by omega
  have upper : span.nanos + 31250 + 250 ≤ 62500 * count + 62500 := by omega
  have lower : (62500 * count + 250 : Rat) ≤ span.nanos + 31250 := by exact_mod_cast lower
  have upper : (span.nanos + 31250 + 250 : Rat) ≤ 62500 * count + 62500 := by exact_mod_cast upper
  have rounded : roundHalfUp (nearest (span.inSeconds * (16000 : Nat))) = count :=
    roundHalfUp_eq (by linarith) (by linarith)
  have small : count < word64 := by
    have long : span.nanos < 2 ^ 18 * nanosPerSecond := (Nat.div_lt_iff_lt_mul (by decide)).mp short
    have room : 2 ^ 18 * nanosPerSecond + 31250 < word64 := by decide
    omega
  rw [frameCount, rounded]
  omega

theorem le_frameCount {span : Duration} (long : 2 ^ 18 ≤ span.seconds) :
    2 ^ 31 ≤ frameCount span 16000 := by
  have double : IsDouble ((2 ^ 31 : Nat) : Rat) := isDouble_natCast (by norm_num)
  have seconds : ((2 ^ 18 : Nat) : Rat) ≤ span.inSeconds :=
    Duration.seconds_le_inSeconds (by norm_num) long
  have rounded : 2 ^ 31 ≤ roundHalfUp (nearest (span.inSeconds * (16000 : Nat))) := by
    apply le_roundHalfUp
    apply double.le_nearest
    push_cast at seconds ⊢
    linarith
  have room : 2 ^ 31 ≤ word64 - 1 := by decide
  exact Nat.le_min.mpr ⟨rounded, room⟩

/-- A scan of the silence finds the frames that were counted, and they last as long as they do at
the sampling rate of speech. -/
theorem scan_silence {span : Duration} {file : ByteArray}
    (made : silence .speech span = .ok file) :
    ∃ info heard, scan file = .ok info ∧ info.duration = .ok heard ∧
      heard.nanos = frameCount span 16000 * 62500 := by
  obtain ⟨info, heard, scanned, -, -, -, measured, nanos⟩ :=
    exists_heard made (by decide) (by decide)
  have rate : AudioFormat.speech.sampleRate.toNat = 16000 := rfl
  rw [rate, nanosPerSecond] at nanos
  exact ⟨info, heard, scanned, measured, by omega⟩

/-- A WAVE file has no room for three days of speech. -/
theorem short_of_silence {span : Duration} {file : ByteArray}
    (made : silence .speech span = .ok file) : span.seconds < 2 ^ 18 := by
  by_contra long
  have many := le_frameCount (Nat.le_of_not_lt long)
  have fits : 36 + frameCount span 16000 * 2 < word32 :=
    (of_silence_eq_ok span countable_speech made).1
  have width : word32 = 2 ^ 32 := by decide
  omega

end Wave

end Voiceover
