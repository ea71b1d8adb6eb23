import Voiceover.Proofs.Timeline.Boundary

/-! The frames of a day. The frame of a span is found by one rounding after the other, and each of these
could move the span over the boundary between two frames. In the first day none of them does. Off a
boundary a span is eight parts in a thousand million of a frame away from it, which is more than all of
the roundings together, and on a boundary it is a whole number of eighths of a second: no rounding but
that of the length of a frame moves it then, and that one moves it up. -/

namespace Voiceover

open Binary64

def dayNanos : Nat := 24 * 60 * 60 * nanosPerSecond

/-- Where a span is, in frames, behind each rounding on the way to its frame: behind those of its whole
seconds and of its fraction, of their sum, of the milliseconds, of the length of a frame and of the
quotient by it. -/
structure StaysIn (span : Duration) (frame : Nat) : Prop where
  parts : ⌊span.parts * 24⌋ = frame
  seconds : ⌊span.inSeconds * 24⌋ = frame
  millis : ⌊span.inMillis * (24 / 1000)⌋ = frame
  period : ⌊span.inMillis / framePeriod⌋ = frame
  quotient : ⌊nearest (span.inMillis / framePeriod)⌋ = frame

namespace Duration

variable {span : Duration}

/-- What a few roundings make of the frames of a span has as many whole ones, unless they have gone below
a boundary that the span is on. -/
theorem floor_eq_of_rounded (short : span.seconds < 2 ^ 18) {value : Rat}
    (rounded : Rounded 6 span.frames value)
    (above : span.nanos % 125000000 = 0 → span.frames ≤ value) :
    ⌊value⌋ = (24 * span.nanos / nanosPerSecond : Nat) := by
  have nonneg : 0 ≤ value := rounded.nonneg span.frames_nonneg
  have floor := toNat_floor_eq ⟨3 * span.nanos, by omega⟩ nonneg (abs_sub_frames_lt short rounded)
  rw [if_neg] at floor
  · rw [← floor, Int.toNat_of_nonneg (Int.floor_nonneg.mpr nonneg)]
  · intro crossed
    obtain ⟨boundary, below⟩ := crossed
    rw [span.natCast_div_eq_frames] at below
    exact absurd below (not_lt.mpr (above ((onBoundary_iff _).mp boundary)))

theorem frames_eq_seconds (span : Duration) : span.frames = span.nanos / nanosPerSecond * 24 := by
  rw [frames]
  ring

theorem staysIn (short : span.seconds < 2 ^ 18) :
    StaysIn span (24 * span.nanos / nanosPerSecond) := by
  have whole {value : Rat} {steps : Nat} (few : steps ≤ 6) (rounded : Rounded steps span.frames value)
      (above : ∀ count, span.nanos = 125000000 * count → span.frames ≤ value) :
      ⌊value⌋ = (24 * span.nanos / nanosPerSecond : Nat) := by
    apply floor_eq_of_rounded short (rounded.mono span.frames_nonneg few)
    intro eighths
    obtain ⟨count, eighths⟩ := Nat.dvd_of_mod_eq_zero eighths
    exact above count eighths
  have counted : MillisOf span span.inMillis := span.millisOf_inMillis
  constructor
  · apply whole (by norm_num : 1 ≤ 6)
    · rw [frames_eq_seconds]
      exact span.rounded_parts.mul (by norm_num)
    · intro count eighths
      rw [frames_of_eighths eighths, (parts_of_eighths short eighths).1]
      push_cast
      linarith
  · apply whole (by norm_num : 2 ≤ 6)
    · rw [frames_eq_seconds]
      exact span.rounded_inSeconds.mul (by norm_num)
    · intro count eighths
      rw [frames_of_eighths eighths, inSeconds_of_eighths short eighths]
      push_cast
      linarith
  · apply whole (by norm_num : 3 ≤ 6)
    · have scaled := span.rounded_inMillis.mul (by norm_num : (0 : Rat) ≤ 24 / 1000)
      rwa [mul_assoc, mul_div_cancel₀ _ (by norm_num), ← frames_eq_seconds] at scaled
    · intro count eighths
      rw [frames_of_eighths eighths, inMillis_of_eighths short eighths]
      push_cast
      linarith
  · apply whole (by norm_num : 5 ≤ 6) counted.rounded_quotient
    intro count eighths
    exact frames_le_quotient short (by omega)
  · apply whole le_rfl counted.rounded_frames
    intro count eighths
    exact frames_le short (by omega)

/-- The frame of a span of less than a day is the one that exact arithmetic puts it in, and so is every
number on the way to it. -/
theorem frame_exact (short : span.nanos < dayNanos) :
    span.frame.toNat = 24 * span.nanos / nanosPerSecond ∧
      StaysIn span (24 * span.nanos / nanosPerSecond) := by
  have day : dayNanos < 2 ^ 18 * nanosPerSecond := by decide
  have seconds : span.seconds < 2 ^ 18 :=
    (Nat.div_lt_iff_lt_mul (by decide)).mpr (short.trans day)
  exact ⟨toNat_frame seconds, staysIn seconds⟩

/-- The last nanosecond of the day is in its last frame. -/
theorem frame_exact_midnight :
    (clamped (dayNanos - 1)).frame = 2073599 ∧ StaysIn (clamped (dayNanos - 1)) 2073599 := by
  have short : (clamped (dayNanos - 1)).nanos < dayNanos := by decide
  have last : 24 * (clamped (dayNanos - 1)).nanos / nanosPerSecond = 2073599 := by decide
  obtain ⟨frame, stays⟩ := frame_exact short
  rw [last] at frame stays
  exact ⟨UInt32.toNat_inj.mp frame, stays⟩

end Duration

end Voiceover
