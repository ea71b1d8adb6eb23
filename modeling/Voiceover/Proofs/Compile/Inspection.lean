import Voiceover.Compile
import Voiceover.Proofs.Wave.Frames

/-! What can go wrong while an engine's answer is looked at. The inspection only finds things to
report, yet it counts with numbers that the engine chose: the bits of a frame, and the time at which
the phoneme reported last is over. -/

namespace Voiceover

def lastEnd (phonemes : List Phoneme) : Nat :=
  match phonemes.getLast? with
  | some phoneme => phoneme.start.nanos + phoneme.length.nanos
  | none => 0

theorem lastFinish_eq (phonemes : List Phoneme) :
    lastFinish phonemes =
      if inRange : lastEnd phonemes < durationLimit then .ok ⟨lastEnd phonemes, inRange⟩
      else .error .durationSum := by
  unfold lastFinish lastEnd
  cases phonemes.getLast? with
  | none => rfl
  | some phoneme => rfl

/-- The fault that an answer holds for whoever looks at it. Only a file whose samples are found is
looked at, and the end of the last phoneme is counted before the bits of a frame. -/
inductive Synthesis.Overflows : Synthesis → Fault → Prop
  | lateEnd {synthesis : Synthesis} {info : WaveInfo}
      (scanned : Wave.scan synthesis.audio = .ok info)
      (late : durationLimit ≤ lastEnd synthesis.phonemes) : Overflows synthesis .durationSum
  | wideFrame {synthesis : Synthesis} {info : WaveInfo}
      (scanned : Wave.scan synthesis.audio = .ok info)
      (inTime : lastEnd synthesis.phonemes < durationLimit)
      (wide : word16 ≤ info.format.frameBits) : Overflows synthesis .product

namespace Synthesis

def overflow? (synthesis : Synthesis) : Option Fault :=
  match Wave.scan synthesis.audio with
  | .error _ => none
  | .ok info =>
      if durationLimit ≤ lastEnd synthesis.phonemes then some .durationSum
      else if word16 ≤ info.format.frameBits then some .product
      else none

theorem overflow?_eq_some_iff {synthesis : Synthesis} {fault : Fault} :
    synthesis.overflow? = some fault ↔ synthesis.Overflows fault := by
  constructor
  · intro found
    unfold overflow? at found
    cases scanned : Wave.scan synthesis.audio with
    | error reason => simp [scanned] at found
    | ok info =>
      rw [scanned] at found
      by_cases late : durationLimit ≤ lastEnd synthesis.phonemes
      · obtain rfl : Fault.durationSum = fault := by simpa [late] using found
        exact .lateEnd scanned late
      · by_cases wide : word16 ≤ info.format.frameBits
        · obtain rfl : Fault.product = fault := by simpa [late, wide] using found
          exact .wideFrame scanned (Nat.lt_of_not_le late) wide
        · simp [late, wide] at found
  · intro overflows
    unfold overflow?
    cases overflows with
    | lateEnd scanned late => simp [scanned, late]
    | wideFrame scanned inTime wide => simp [scanned, Nat.not_le.mpr inTime, wide]

end Synthesis

/-- Looking at an answer has no other end than its overflow. -/
theorem inspect_eq_error_iff (path : Output) {synthesis : Synthesis} {fault : Fault} :
    inspect path synthesis = .error fault ↔ synthesis.overflow? = some fault := by
  unfold inspect Synthesis.overflow?
  cases Wave.scan synthesis.audio with
  | error reason => simp
  | ok info =>
    simp only [lastFinish_eq, WaveInfo.duration_eq]
    by_cases late : durationLimit ≤ lastEnd synthesis.phonemes
    · simp [late, Nat.not_lt.mpr late, bind, Except.bind]
    · by_cases wide : word16 ≤ info.format.frameBits
      · simp [late, wide, Nat.lt_of_not_le late, Nat.not_lt.mpr wide, bind, Except.bind]
      · simp [late, wide, Nat.lt_of_not_le late, Nat.lt_of_not_le wide, bind, Except.bind, pure,
          Except.pure]

theorem inspect_eq_ok_of_overflow? {synthesis : Synthesis} (path : Output)
    (calm : synthesis.overflow? = none) :
    ∃ finding, inspect path synthesis = .ok finding := by
  cases inspected : inspect path synthesis with
  | ok finding => exact ⟨finding, rfl⟩
  | error fault =>
    have stopped : synthesis.overflow? = some fault := (inspect_eq_error_iff path).mp inspected
    rw [calm] at stopped
    exact absurd stopped (by simp)

end Voiceover
