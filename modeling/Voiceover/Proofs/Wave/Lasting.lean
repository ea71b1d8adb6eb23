import Voiceover.Proofs.Duration.Seconds
import Voiceover.Proofs.Wave.Limits

/-! How long a file of silence lasts, in any format. The frames of a span are counted in doubles and
made whole, and a scan of the file counts back from them in whole nanoseconds. A file has no room for
2^32 frames, and below that the doubles miss by a small part of a frame: so the silence is as long as
it is asked to be, but for less than one frame and for the nanosecond that counting back can lose. -/

namespace Voiceover

open Binary64

def Duration.framesAt (span : Duration) (sampleRate : Nat) : Rat :=
  span.nanos / nanosPerSecond * sampleRate

namespace Wave

section Frames

variable {span : Duration} {sampleRate : Nat}

/-- Two roundings make the seconds, and one more their product with the rate. -/
theorem rounded_framesAt (span : Duration) (positive : 0 < sampleRate) :
    Rounded 3 (span.framesAt sampleRate) (nearest (span.inSeconds * sampleRate)) := by
  have sized : Sized (span.framesAt sampleRate) := by
    have rate : (1 : Rat) ≤ sampleRate := by exact_mod_cast positive
    have unit : (2 : Rat) ^ (-64 : Int) ≤ sampleRate / nanosPerSecond := by
      rw [nanosPerSecond, le_div_iff₀ (by norm_num)]
      norm_num
      linarith
    rw [Duration.framesAt, div_mul_eq_mul_div, mul_div_assoc]
    exact sized_natCast_mul span.nanos unit
  exact (span.rounded_inSeconds.mul (Nat.cast_nonneg _)).nearest sized (by norm_num)

/-- A count of frames that fits 32 bits is less than one off. -/
theorem abs_frameCount_sub_lt (positive : 0 < sampleRate) (few : frameCount span sampleRate < word32) :
    |(frameCount span sampleRate : Rat) - span.framesAt sampleRate| < 1 := by
  have rounded := rounded_framesAt span positive
  have counted : 0 ≤ nearest (span.inSeconds * sampleRate) :=
    nearest_nonneg (mul_nonneg span.inSeconds_nonneg (Nat.cast_nonneg _))
  have exact : 0 ≤ span.framesAt sampleRate := by
    unfold Duration.framesAt
    positivity
  have width : word32 = 2 ^ 32 := by decide
  have uncut : frameCount span sampleRate = roundHalfUp (nearest (span.inSeconds * sampleRate)) := by
    have room : word32 ≤ word64 - 1 := by decide
    unfold frameCount at few ⊢
    omega
  rw [uncut] at few ⊢
  generalize nearest (span.inSeconds * sampleRate) = value at rounded counted few
  generalize span.framesAt sampleRate = frames at rounded exact
  have whole := abs_le.mp (abs_roundHalfUp_sub_le counted)
  -- The exact count is below twice the rounded one, and that is enough to bound the error.
  have size : frames ≤ 2 ^ 34 := by
    have small : (roundHalfUp value : Rat) ≤ 2 ^ 32 := by exact_mod_cast (by omega)
    have half := mul_le_mul_of_nonneg_left (Rounded.half_le_pow (by norm_num : 3 ≤ 2 ^ 52)) exact
    have lower := rounded.lower
    linarith
  have error := abs_le.mp ((rounded.mono exact (by norm_num)).abs_sub_le exact)
  rw [abs_lt]
  constructor <;> linarith

/-- Counting back loses less than a nanosecond. -/
theorem abs_heard_sub_lt {heard : Duration} {count : Nat} (positive : 0 < sampleRate)
    (nanos : heard.nanos = count * nanosPerSecond / sampleRate)
    (close : |(count : Rat) - span.framesAt sampleRate| < 1) :
    |(heard.nanos : Rat) - span.nanos| < nanosPerSecond / sampleRate + 1 := by
  have rate : (0 : Rat) < sampleRate := by exact_mod_cast positive
  have lower : (heard.nanos * sampleRate : Rat) ≤ count * nanosPerSecond := by
    rw [nanos]
    exact_mod_cast Nat.div_mul_le_self _ _
  have upper : (count * nanosPerSecond : Rat) < sampleRate * (heard.nanos + 1) := by
    rw [nanos]
    exact_mod_cast Nat.lt_mul_div_succ _ positive
  have second : (nanosPerSecond : Rat) = 1000000000 := by norm_num [nanosPerSecond]
  rw [Duration.framesAt, div_mul_eq_mul_div, abs_lt, second] at close
  rw [second] at lower upper ⊢
  have scaled : (1000000000 / sampleRate + 1 : Rat) = (1000000000 + sampleRate) / sampleRate := by
    field_simp
  rw [scaled, lt_div_iff₀ rate, ← abs_of_pos rate, ← abs_mul, abs_of_pos rate, abs_lt]
  constructor <;> linarith

end Frames

section Silence

variable {format : AudioFormat} {span : Duration} {file : ByteArray}

/-- A scan of a silence finds the zeros that it is made of. -/
theorem finds_silence (made : silence format span = .ok file) :
    Finds file format 44 (List.replicate (silentBytes format span) 0) ∧
      file.data.toList.drop 44 = List.replicate (silentBytes format span) 0 := by
  obtain ⟨fits, rfl⟩ := of_silence_eq_ok span (countable_of_silence made) made
  generalize silentBytes format span = size at fits
  have short : (List.replicate size (0 : UInt8)).length < word32 := by
    rw [List.length_replicate]
    omega
  have found := finds_written format short []
  have bytes := bytes_written format short []
  rw [List.append_nil, List.length_replicate] at bytes
  rw [Parts.file, bytes] at found
  refine ⟨found, ?_⟩
  rw [List.toList_data_toByteArray, ← length_front format size, List.drop_left]

/-- Its frames last as long as they do at the sampling rate of the format. -/
theorem exists_heard (made : silence format span = .ok file) (framed : 8 ≤ format.frameBits)
    (rate : 0 < format.sampleRate.toNat) :
    ∃ info heard, scan file = .ok info ∧ info.format = format ∧ info.dataOffset = 44 ∧
      info.dataSize.toNat = silentBytes format span ∧ info.duration = .ok heard ∧
      heard.nanos = frameCount span format.sampleRate.toNat * nanosPerSecond /
        format.sampleRate.toNat := by
  obtain ⟨info, scanned, same, offset, size, -⟩ := (finds_silence made).1
  have countable := countable_of_silence made
  rw [List.length_replicate] at size
  have fits : info.format.frameBits < word16 := same ▸ countable.frame
  obtain ⟨heard, measured, nanos⟩ := WaveInfo.exists_duration fits
  have align : 0 < format.frameBits / 8 := Nat.div_pos framed (by norm_num)
  rw [same, size, Nat.max_eq_left align, Nat.max_eq_left rate, silentBytes,
    Nat.mul_div_cancel _ align] at nanos
  exact ⟨info, heard, scanned, same, offset, size, measured, nanos⟩

/-- Whatever the format, a silence that is written is found again as whole frames of zeros, and it lasts
as long as it was asked to, up to the length of a frame and a nanosecond. -/
theorem silence_lasts {blockAlign : Nat} (aligned : format.blockAlign = .ok blockAlign)
    (filled : 1 ≤ blockAlign) (rate : 1 ≤ format.sampleRate.toNat)
    (made : silence format span = .ok file) :
    ∃ info count heard, scan file = .ok info ∧ info.format = format ∧
      info.dataSize.toNat = count * blockAlign ∧
      file.data.toList.drop info.dataOffset = List.replicate (count * blockAlign) 0 ∧
      info.duration = .ok heard ∧
      |(heard.nanos : Rat) - span.nanos| < nanosPerSecond / format.sampleRate.toNat + 1 := by
  have countable := countable_of_silence made
  obtain rfl : format.frameBits / 8 = blockAlign :=
    Except.ok.inj (countable.blockAlign_eq_ok.symm.trans aligned)
  obtain ⟨info, heard, scanned, same, offset, size, measured, nanos⟩ :=
    exists_heard made (by omega) rate
  have few : frameCount span format.sampleRate.toNat < word32 := by
    have fits := (of_silence_eq_ok span countable made).1
    have least := Nat.le_mul_of_pos_right (frameCount span format.sampleRate.toNat) filled
    unfold silentBytes at fits
    omega
  refine ⟨info, frameCount span format.sampleRate.toNat, heard, scanned, same, size, ?_, measured, ?_⟩
  · rw [offset]
    exact (finds_silence made).2
  · exact abs_heard_sub_lt rate nanos (abs_frameCount_sub_lt rate few)

/-- A microsecond and a nanosecond at the highest sampling rate there is, where a frame is shorter than
a nanosecond. -/
theorem silence_lasts_fastest :
    ∃ file info count heard, silence ⟨4294967295, 8, 1⟩ (.clamped 1001) = .ok file ∧
      scan file = .ok info ∧ info.format = ⟨4294967295, 8, 1⟩ ∧ info.dataSize.toNat = count * 1 ∧
      file.data.toList.drop info.dataOffset = List.replicate (count * 1) 0 ∧
      info.duration = .ok heard ∧ |(heard.nanos : Rat) - 1001| < nanosPerSecond / 4294967295 + 1 := by
  have countable : AudioFormat.Countable ⟨4294967295, 8, 1⟩ := ⟨by decide, by decide⟩
  have outcomes := outcomes_silence (.clamped 1001) countable
  obtain ⟨file, made, -⟩ := outcomes.written (by decide +kernel) (by decide +kernel)
  obtain ⟨info, count, heard, found⟩ :=
    silence_lasts countable.blockAlign_eq_ok (by decide) (by decide) made
  exact ⟨file, info, count, heard, made, found⟩

end Silence

end Wave

end Voiceover
