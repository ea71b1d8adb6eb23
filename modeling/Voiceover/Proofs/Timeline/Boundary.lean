import Mathlib.Data.Nat.GCD.Basic
import Voiceover.Proofs.Timeline.Quantizer

/-! The frame of a span, counted in doubles, and its frame by exact arithmetic. A double in
milliseconds that is a few roundings away from its span gives a number of frames that is off by a
small part of itself. So two such doubles for one span are put into one frame, or the span lies next
to a boundary between two frames. For spans of less than three days next to a boundary means on it,
and there it is a question of the side to which the last rounding has gone. -/

namespace Voiceover

open Binary64

def framesAtMillis (millis : Rat) : Rat := nearest (millis / framePeriod)

theorem toNat_frameAtMillis (millis : Rat) :
    (frameAtMillis millis).toNat = min ⌊framesAtMillis millis⌋.toNat (word32 - 1) :=
  toNat_saturated _

def Duration.frames (span : Duration) : Rat := span.nanos * 24 / nanosPerSecond

theorem Duration.frames_nonneg (span : Duration) : 0 ≤ span.frames := by
  unfold frames
  positivity

theorem Duration.natCast_div_eq_frames (span : Duration) :
    ((24 * span.nanos : Nat) : Rat) / nanosPerSecond = span.frames := by
  rw [frames]
  push_cast
  ring

/-- An eighth of a second is three frames. -/
theorem Duration.frames_of_eighths {span : Duration} {count : Nat}
    (eighths : span.nanos = 125000000 * count) :
    span.frames = (3 * count : Nat) := by
  rw [frames, eighths, nanosPerSecond]
  push_cast
  ring

/-- A double for a span in milliseconds: two for its parts, one for their sum and one for the product
by a thousand, or for the sum of two such doubles. -/
abbrev MillisOf (span : Duration) (millis : Rat) : Prop :=
  Rounded 4 (span.nanos / nanosPerSecond * 1000) millis

theorem Duration.millisOf_inMillis (span : Duration) : MillisOf span span.inMillis :=
  span.rounded_inMillis.mono (by positivity) (by norm_num)

namespace MillisOf

variable {span : Duration} {millis : Rat}

theorem nonneg (counted : MillisOf span millis) : 0 ≤ millis :=
  Rounded.nonneg counted span.sized_millis.nonneg

theorem frames_nonneg (counted : MillisOf span millis) : 0 ≤ framesAtMillis millis :=
  nearest_nonneg (div_nonneg counted.nonneg framePeriod_pos.le)

/-- The length of a frame is a step behind the exact one. -/
theorem rounded_quotient (counted : MillisOf span millis) :
    Rounded 5 span.frames (millis / framePeriod) := by
  have exact : (span.nanos : Rat) / nanosPerSecond * 1000 * (24 / 1000) = span.frames := by
    rw [Duration.frames]
    ring
  have scaled := Rounded.mul counted (by norm_num : (0 : Rat) ≤ 24 / 1000)
  rw [exact] at scaled
  have periods := framePeriod_bounds
  constructor
  · calc span.frames * (1 - unitRoundoff) ^ 5 ≤ millis * (24 / 1000) :=
          (scaled.mono span.frames_nonneg (by norm_num)).lower
      _ ≤ millis / framePeriod := by
          rw [le_div_iff₀ framePeriod_pos, mul_assoc]
          exact mul_le_of_le_one_right counted.nonneg (by linarith)
  · have factor : 0 ≤ 1 + unitRoundoff := by linarith [unitRoundoff_pos]
    calc millis / framePeriod ≤ millis * (24 / 1000) * (1 + unitRoundoff) := by
          rw [div_le_iff₀ framePeriod_pos, mul_assoc, mul_assoc]
          exact le_mul_of_one_le_right counted.nonneg (by linarith)
      _ ≤ span.frames * (1 + unitRoundoff) ^ 4 * (1 + unitRoundoff) :=
          mul_le_mul_of_nonneg_right scaled.upper factor
      _ = span.frames * (1 + unitRoundoff) ^ 5 := by ring

theorem rounded_frames (counted : MillisOf span millis) :
    Rounded 6 span.frames (framesAtMillis millis) := by
  have sized : Sized span.frames := by
    rw [Duration.frames, mul_div_assoc]
    exact sized_natCast_mul span.nanos (by norm_num [nanosPerSecond])
  exact counted.rounded_quotient.nearest sized (by norm_num)

theorem abs_frames_sub_le (counted : MillisOf span millis) :
    |framesAtMillis millis - span.frames| ≤ span.frames / 2 ^ 50 :=
  counted.rounded_frames.abs_sub_le span.frames_nonneg

end MillisOf

structure BesideBoundary (span : Duration) (before after : UInt32) : Prop where
  adjacent : after.toNat = before.toNat + 1
  near : 2 ^ 50 * |(24 * span.nanos : Int) - after.toNat * nanosPerSecond| ≤ 24 * span.nanos

theorem Duration.frames_sub (span : Duration) (frame : Nat) :
    (span.frames - frame) * nanosPerSecond = 24 * span.nanos - frame * nanosPerSecond := by
  have nonzero : (nanosPerSecond : Rat) ≠ 0 := by norm_num [nanosPerSecond]
  rw [Duration.frames]
  field_simp

namespace MillisOf

variable {span : Duration} {millis : Rat}

/-- Two doubles for one span are in one frame, or in two that meet where the span is. -/
theorem besideBoundary (counted : MillisOf span millis) {more : Rat} (other : MillisOf span more)
    (apart : frameAtMillis millis < frameAtMillis more) :
    BesideBoundary span (frameAtMillis millis) (frameAtMillis more) := by
  have apart := UInt32.lt_iff_toNat_lt.mp apart
  have first := toNat_frameAtMillis millis
  have second := toNat_frameAtMillis more
  have error := abs_le.mp counted.abs_frames_sub_le
  have otherError := abs_le.mp other.abs_frames_sub_le
  have last := (frameAtMillis more).toNat_lt
  obtain ⟨after, same⟩ : ∃ after, (frameAtMillis more).toNat = after := ⟨_, rfl⟩
  rw [same] at apart second last
  have below : framesAtMillis millis < after := by
    have floor : ⌊framesAtMillis millis⌋ < (after : Int) := by omega
    exact_mod_cast Int.floor_lt.mp floor
  have above : (after : Rat) ≤ framesAtMillis more := by
    have floor : (after : Int) ≤ ⌊framesAtMillis more⌋ := by omega
    exact_mod_cast Int.le_floor.mp floor
  have near : |span.frames - after| ≤ span.frames / 2 ^ 50 := by
    rw [abs_le]
    constructor <;> linarith
  constructor
  · rw [same]
    have inRange : after ≤ 4294967296 := by omega
    have inRange : (after : Rat) ≤ 4294967296 := by exact_mod_cast inRange
    have close : (after : Rat) - 1 ≤ framesAtMillis millis := by
      rw [abs_le] at near
      norm_num at near error
      linarith
    have floor : (after : Int) - 1 ≤ ⌊framesAtMillis millis⌋ := by
      rw [Int.le_floor]
      exact_mod_cast close
    omega
  · rw [same]
    have positive : (0 : Rat) < nanosPerSecond := by norm_num [nanosPerSecond]
    have exact : span.frames * nanosPerSecond = 24 * span.nanos := by simpa using span.frames_sub 0
    have scaled :
        2 ^ 50 * |(24 * span.nanos - after * nanosPerSecond : Rat)| ≤ 24 * span.nanos := by
      rw [← span.frames_sub, abs_mul, abs_of_pos positive, ← exact]
      calc (2 : Rat) ^ 50 * (|span.frames - after| * nanosPerSecond)
          ≤ 2 ^ 50 * (span.frames / 2 ^ 50 * nanosPerSecond) :=
            mul_le_mul_of_nonneg_left (mul_le_mul_of_nonneg_right near positive.le) (by norm_num)
        _ = span.frames * nanosPerSecond := by ring
    rw [← Int.cast_le (R := Rat)]
    push_cast
    exact scaled

end MillisOf

/-- Seconds and frames have their boundaries in common at the eighths of a second. -/
theorem onBoundary_iff (nanos : Nat) :
    24 * nanos % nanosPerSecond = 0 ↔ nanos % 125000000 = 0 := by
  have seconds : nanosPerSecond = 8 * 125000000 := rfl
  have frames : 24 * nanos = 8 * (3 * nanos) := by omega
  rw [← Nat.dvd_iff_mod_eq_zero, ← Nat.dvd_iff_mod_eq_zero, seconds, frames,
    Nat.mul_dvd_mul_iff_left (by decide)]
  exact Nat.Coprime.dvd_mul_left (by decide)

section Short

/-- A number that is nearer to a count of units than the units are to each other: it has the whole
part of the count, unless it is below the count and that is whole. -/
theorem toNat_floor_eq {count : Nat} {value : Rat} (units : 8 ∣ count) (nonneg : 0 ≤ value)
    (near : |value - count / nanosPerSecond| < 8 / nanosPerSecond) :
    ⌊value⌋.toNat =
      if count % nanosPerSecond = 0 ∧ value < count / nanosPerSecond then count / nanosPerSecond - 1
      else count / nanosPerSecond := by
  have floor (whole : Nat) (lower : (whole : Rat) ≤ value) (upper : value < whole + 1) :
      ⌊value⌋.toNat = whole := by
    have floor : ⌊value⌋ = (whole : Int) :=
      Int.floor_eq_iff.mpr ⟨by exact_mod_cast lower, by exact_mod_cast upper⟩
    rw [floor, Int.toNat_natCast]
  unfold nanosPerSecond at near ⊢
  have split := Nat.div_add_mod count 1000000000
  have exact : (count : Rat) / (1000000000 : Nat) =
      (count / 1000000000 : Nat) + (count % 1000000000 : Nat) / 1000000000 := by
    nth_rewrite 1 [← split]
    push_cast
    ring
  rw [exact] at near ⊢
  have rest : count % 1000000000 = 0 ∨
      8 ≤ count % 1000000000 ∧ count % 1000000000 + 8 ≤ 1000000000 := by omega
  generalize count / 1000000000 = whole at *
  generalize count % 1000000000 = part at *
  obtain ⟨lower, upper⟩ := abs_lt.mp near
  norm_num at lower upper
  rcases rest with rfl | ⟨least, most⟩
  · norm_num at lower upper ⊢
    split_ifs with below
    · have later : 0 < whole := by exact_mod_cast nonneg.trans_lt below
      have before : ((whole - 1 : Nat) : Rat) = whole - 1 := by
        rw [Nat.cast_sub later, Nat.cast_one]
      apply floor <;> rw [before] <;> linarith
    · apply floor <;> linarith
  · have least : (8 : Rat) ≤ part := by exact_mod_cast least
    have most : (part : Rat) + 8 ≤ 1000000000 := by exact_mod_cast most
    rw [if_neg (by omega)]
    apply floor <;> linarith

variable {span : Duration} (short : span.seconds < 2 ^ 18)

include short

theorem Duration.nanos_lt : span.nanos < 262144 * 1000000000 :=
  (Nat.div_lt_iff_lt_mul (by decide)).mp short

/-- In less than three days a few roundings are off by less than any nanosecond that is not on a
boundary. -/
theorem Duration.abs_sub_frames_lt {value : Rat} (rounded : Rounded 6 span.frames value) :
    |value - (24 * span.nanos : Nat) / nanosPerSecond| < 8 / nanosPerSecond := by
  have long : (span.nanos : Rat) < 262144 * 1000000000 := by
    exact_mod_cast nanos_lt short
  rw [span.natCast_div_eq_frames]
  apply (rounded.abs_sub_le span.frames_nonneg).trans_lt
  rw [frames, div_div, div_lt_iff₀ (by norm_num [nanosPerSecond])]
  norm_num [nanosPerSecond]
  linarith

/-- A double is in the frame of its span, unless the span ends on a boundary and the double stays
below that. -/
theorem MillisOf.toNat_frame_eq {millis : Rat} (counted : MillisOf span millis) :
    (frameAtMillis millis).toNat =
      if span.nanos % 125000000 = 0 ∧ framesAtMillis millis < span.frames then
        24 * span.nanos / nanosPerSecond - 1
      else 24 * span.nanos / nanosPerSecond := by
  have floor := toNat_floor_eq ⟨3 * span.nanos, by omega⟩ counted.frames_nonneg
    (Duration.abs_sub_frames_lt short counted.rounded_frames)
  have few : 24 * span.nanos / nanosPerSecond < word32 - 1 := by
    have long := Duration.nanos_lt short
    unfold nanosPerSecond word32
    omega
  rw [toNat_frameAtMillis, floor, span.natCast_div_eq_frames]
  simp only [onBoundary_iff]
  split_ifs <;> omega

/-- The length of a frame is rounded down, so whole eighths of a second are not below their boundary. -/
theorem Duration.frames_le_quotient (eighths : span.nanos % 125000000 = 0) :
    span.frames ≤ span.inMillis / framePeriod := by
  obtain ⟨count, eighths⟩ := Nat.dvd_of_mod_eq_zero eighths
  rw [frames_of_eighths eighths, le_div_iff₀ framePeriod_pos, inMillis_of_eighths short eighths]
  calc ((3 * count : Nat) : Rat) * framePeriod ≤ (3 * count : Nat) * (1000 / 24) :=
        mul_le_mul_of_nonneg_left framePeriod_bounds.1 (by positivity)
    _ = (125 * count : Nat) := by
        push_cast
        ring

theorem Duration.frames_le (eighths : span.nanos % 125000000 = 0) :
    span.frames ≤ framesAtMillis span.inMillis := by
  have quotient := frames_le_quotient short eighths
  obtain ⟨count, eighths⟩ := Nat.dvd_of_mod_eq_zero eighths
  have few := eighths_le short eighths
  rw [frames_of_eighths eighths] at quotient ⊢
  exact (isDouble_natCast (by omega)).le_nearest quotient

/-- A span of less than three days is in its frame. -/
theorem Duration.toNat_frame : span.frame.toNat = 24 * span.nanos / nanosPerSecond := by
  rw [frame, span.millisOf_inMillis.toNat_frame_eq short, if_neg]
  rintro ⟨eighths, below⟩
  exact absurd below (not_lt.mpr (frames_le short eighths))

/-- A double below a boundary is not below the first one. -/
theorem MillisOf.toNat_frame_pos {millis : Rat} (counted : MillisOf span millis)
    (eighths : span.nanos % 125000000 = 0) (below : framesAtMillis millis < span.frames) :
    0 < span.frame.toNat := by
  have positive : 0 < span.nanos := by
    by_contra none
    have zero : span.frames = 0 := by
      rw [Duration.frames, Nat.eq_zero_of_not_pos none, Nat.cast_zero, zero_mul, zero_div]
    exact absurd (below.trans_eq zero) (not_lt.mpr counted.frames_nonneg)
  rw [Duration.toNat_frame short]
  apply Nat.div_pos _ (by decide)
  unfold nanosPerSecond
  omega

end Short

def Phoneme.closingMillis (phoneme : Phoneme) : Rat :=
  nearest (phoneme.start.inMillis + phoneme.length.inMillis)

theorem Phoneme.nanos_finish {phoneme : Phoneme} {finish : Duration}
    (ended : phoneme.finish = .ok finish) :
    finish.nanos = phoneme.start.nanos + phoneme.length.nanos :=
  Duration.add_eq_ok_iff.mp ended

theorem Phoneme.millisOf_closingMillis {phoneme : Phoneme} {finish : Duration}
    (ended : phoneme.finish = .ok finish) : MillisOf finish phoneme.closingMillis := by
  have sum := phoneme.start.rounded_inMillis.add phoneme.length.rounded_inMillis
  have exact : (phoneme.start.nanos : Rat) / nanosPerSecond * 1000 +
      phoneme.length.nanos / nanosPerSecond * 1000 = finish.nanos / nanosPerSecond * 1000 := by
    rw [nanos_finish ended]
    push_cast
    ring
  rw [exact] at sum
  exact sum.nearest finish.sized_millis (by norm_num)

/-- How the frame in which a mouth is closed stands to the frame in which its phoneme is over. They
are one, or two next to each other that meet where the phoneme ends. In the first three days the mouth
is never closed late, and it is closed early, by one frame, after a whole number of eighths of a second
for which the double stays below the boundary. -/
structure ClosesNear (phoneme : Phoneme) (finish : Duration) (closing : UInt32) : Prop where
  near : closing = finish.frame ∨ BesideBoundary finish closing finish.frame ∨
    BesideBoundary finish finish.frame closing
  early : finish.seconds < 2 ^ 18 → closing ≠ finish.frame → closing.toNat + 1 = finish.frame.toNat
  missed_iff : finish.seconds < 2 ^ 18 →
    (closing ≠ finish.frame ↔
      finish.nanos % 125000000 = 0 ∧ framesAtMillis phoneme.closingMillis < finish.frames)

theorem Phoneme.closesNear {phoneme : Phoneme} {finish : Duration}
    (ended : phoneme.finish = .ok finish) : ClosesNear phoneme finish phoneme.closingFrame := by
  have closing : MillisOf finish phoneme.closingMillis := millisOf_closingMillis ended
  have frame : phoneme.closingFrame = frameAtMillis phoneme.closingMillis := rfl
  rw [frame]
  -- A mouth that is closed in another frame than the last one: on a boundary, and in the frame before.
  have missed (short : finish.seconds < 2 ^ 18) :
      (frameAtMillis phoneme.closingMillis).toNat =
        if finish.nanos % 125000000 = 0 ∧ framesAtMillis phoneme.closingMillis < finish.frames then
          finish.frame.toNat - 1
        else finish.frame.toNat := by
    rw [closing.toNat_frame_eq short, finish.toNat_frame short]
  constructor
  · by_cases early : frameAtMillis phoneme.closingMillis < finish.frame
    · exact .inr (.inl (closing.besideBoundary finish.millisOf_inMillis early))
    · rcases UInt32.lt_or_eq_of_le (UInt32.not_lt.mp early) with late | same
      · exact .inr (.inr (finish.millisOf_inMillis.besideBoundary closing late))
      · exact .inl same.symm
  · intro short apart
    rw [Ne, ← UInt32.toNat_inj, missed short] at apart
    rw [missed short]
    split_ifs at apart ⊢ with below
    · have later := closing.toNat_frame_pos short below.1 below.2
      omega
    · exact absurd rfl apart
  · intro short
    rw [Ne, ← UInt32.toNat_inj, missed short]
    split_ifs with below
    · have later := closing.toNat_frame_pos short below.1 below.2
      exact iff_of_true (by omega) below
    · exact iff_of_false (not_not_intro rfl) below

namespace Timeline

/-- The phonemes of a track that have a shape close the mouth near the frames in which they are over.
Where each phoneme starts when the one in front of it ends, that is near the frame in which the next one
opens the mouth. -/
theorem add_closes_near (timeline : Timeline) (phonemes : List Phoneme) :
    (∀ phoneme ∈ phonemes, ∀ shape finish,
      MouthShape.ofSymbol? phoneme.symbol = some shape → phoneme.finish = .ok finish →
        timeline.add phoneme =
            (timeline.put phoneme.start.frame shape).put phoneme.closingFrame .rest ∧
          ClosesNear phoneme finish phoneme.closingFrame) ∧
    (phonemes.IsChain (fun first second => first.finish = .ok second.start) →
      phonemes.IsChain fun first second => ClosesNear first second.start first.closingFrame) := by
  constructor
  · intro phoneme _ shape finish shown ended
    exact ⟨add_of_shown shown timeline, Phoneme.closesNear ended⟩
  · intro contiguous
    exact contiguous.imp fun first second ended => Phoneme.closesNear ended

/-- A phoneme from 7 ms to 1125 ms, which is 27 frames, closes the mouth in frame 26, and the one that
follows at once opens it in frame 27. -/
theorem add_closes_near_missed :
    let a : Phoneme := ⟨"a", .clamped 7000000, .clamped 1118000000⟩
    let o : Phoneme := ⟨"o", .clamped 1125000000, .clamped 100000000⟩
    resting.add a = (resting.put 0 .ai).put 26 .rest ∧ ClosesNear a o.start 26 ∧
      o.openingFrame = 27 ∧ (build [a, o]).text = "0 ai\n26 rest\n27 o\n29 rest\n" := by
  intro a o
  have ended : a.finish = .ok o.start := by decide +kernel
  have opened : a.start.frame = 0 := by decide +kernel
  have closed : a.closingFrame = 26 := by decide +kernel
  obtain ⟨added, chained⟩ := add_closes_near resting [a, o]
  have added := (added a (by simp) .ai o.start (by decide +kernel) ended).1
  have chained := chained (List.isChain_cons_cons.mpr ⟨ended, .singleton o⟩)
  rw [opened, closed] at added
  rw [List.isChain_cons_cons, closed] at chained
  exact ⟨added, chained.1, by decide +kernel, by decide +kernel⟩

end Timeline

end Voiceover
