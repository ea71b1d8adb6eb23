import Mathlib.Tactic.SplitIfs
import Voiceover.Proofs.Steps
import Voiceover.Wave.Scan

/-! The frames of a WAVE file: the bits of one, the bytes of a second of them, and how long those of a
file last. -/

namespace Voiceover

namespace AudioFormat

def frameBits (format : AudioFormat) : Nat :=
  format.channels.toNat * format.bitsPerSample.toNat

theorem blockAlign_eq (format : AudioFormat) :
    format.blockAlign =
      if format.frameBits < word16 then .ok (format.frameBits / 8) else .error .product := rfl

structure Countable (format : AudioFormat) : Prop where
  frame : format.frameBits < word16
  second : format.sampleRate.toNat * (format.frameBits / 8) < word32

namespace Countable

variable {format : AudioFormat}

theorem blockAlign_eq_ok (countable : format.Countable) :
    format.blockAlign = .ok (format.frameBits / 8) := by
  rw [blockAlign_eq, if_pos countable.frame]

theorem byteRate_eq_ok (countable : format.Countable) :
    format.byteRate = .ok (format.sampleRate.toNat * (format.frameBits / 8)) := by
  rw [byteRate, countable.blockAlign_eq_ok]
  exact if_pos countable.second

end Countable

/-- Who can count the bytes of a second has counted the bits of a frame. -/
theorem countable_of_byteRate {format : AudioFormat} {bytes : Nat} (counted : format.byteRate = .ok bytes) :
    format.Countable := by
  obtain ⟨blockAlign, aligned, counted⟩ := bind_eq_ok.mp counted
  rw [blockAlign_eq] at aligned
  split_ifs at aligned with frame
  obtain rfl := Except.ok.inj aligned
  dsimp only at counted
  split_ifs at counted with second
  exact ⟨frame, second⟩

end AudioFormat

namespace WaveInfo

/-- The frames of a file in nanoseconds fit their word, whatever the header says. -/
theorem frameNanos_lt (info : WaveInfo) (blockAlign : Nat) :
    info.dataSize.toNat / max blockAlign 1 * nanosPerSecond < word64 := by
  have size : info.dataSize.toNat < 4294967296 := info.dataSize.toNat_lt
  have frames : info.dataSize.toNat / max blockAlign 1 ≤ info.dataSize.toNat := Nat.div_le_self _ _
  have nanos : info.dataSize.toNat / max blockAlign 1 * nanosPerSecond ≤
      4294967295 * nanosPerSecond := Nat.mul_le_mul_right _ (by omega)
  exact Nat.lt_of_le_of_lt nanos (by decide)

theorem fileNanos_lt (info : WaveInfo) (blockAlign : Nat) :
    info.dataSize.toNat / max blockAlign 1 * nanosPerSecond / max info.format.sampleRate.toNat 1 <
      durationLimit := by
  apply Nat.lt_of_le_of_lt (Nat.div_le_self _ _)
  apply Nat.lt_of_lt_of_le (info.frameNanos_lt blockAlign)
  decide

theorem duration_eq (info : WaveInfo) :
    info.duration =
      if info.format.frameBits < word16 then
        .ok ⟨_, info.fileNanos_lt (info.format.frameBits / 8)⟩
      else .error .product := by
  unfold duration
  rw [AudioFormat.blockAlign_eq]
  by_cases fits : info.format.frameBits < word16
  · rw [if_pos fits, if_pos fits]
    have inRange := info.fileNanos_lt (info.format.frameBits / 8)
    simp only [bind, Except.bind, pure, Except.pure, Duration.clamped]
    congr 2
    omega
  · rw [if_neg fits, if_neg fits]
    rfl

theorem exists_duration {info : WaveInfo} (fits : info.format.frameBits < word16) :
    ∃ heard, info.duration = .ok heard ∧
      heard.nanos = info.dataSize.toNat / max (info.format.frameBits / 8) 1 * nanosPerSecond /
        max info.format.sampleRate.toNat 1 := by
  rw [duration_eq, if_pos fits]
  exact ⟨_, rfl, rfl⟩

end WaveInfo

end Voiceover
