import Voiceover.Proofs.Timeline.LastWrite
import Voiceover.Proofs.Timeline.Quantizer

/-! A track ends with a closed mouth. Whatever is added to it, its latest frame holds rest: either
that frame stays, and then it was neither opened nor closed again, or the phoneme closes the mouth in
the new latest frame, after it has opened it. -/

namespace Voiceover

namespace Timeline

structure Closes (timeline : Timeline) : Prop where
  opening : ∃ shape, (0, shape) ∈ timeline.frames
  closing : ∃ latest, (latest, .rest) ∈ timeline.frames ∧
    ∀ entry ∈ timeline.frames, entry.1 ≤ latest

theorem closes_resting : resting.Closes where
  opening := ⟨.rest, List.mem_singleton_self _⟩
  closing := by
    refine ⟨0, List.mem_singleton_self _, ?_⟩
    intro entry member
    rw [List.mem_singleton.mp member]
    exact UInt32.le_refl 0

theorem mem_frames_put_iff (timeline : Timeline) (frame : UInt32) (shape : MouthShape)
    (entry : UInt32 × MouthShape) :
    entry ∈ (timeline.put frame shape).frames ↔
      entry = (frame, shape) ∨ entry.1 ≠ frame ∧ entry ∈ timeline.frames :=
  mem_putFrame_iff timeline.latestFirst entry

theorem isSet_put {timeline : Timeline} {frame : UInt32}
    (isSet : ∃ shape, (frame, shape) ∈ timeline.frames) (other : UInt32) (shape : MouthShape) :
    ∃ now, (frame, now) ∈ (timeline.put other shape).frames := by
  obtain ⟨before, member⟩ := isSet
  by_cases same : frame = other
  · exact ⟨shape, (mem_frames_put_iff ..).mpr (.inl (by rw [same]))⟩
  · exact ⟨before, (mem_frames_put_iff ..).mpr (.inr ⟨same, member⟩)⟩

/-- A frame is opened, and one that is not before it is closed. -/
theorem Closes.put_put {timeline : Timeline} (closes : timeline.Closes) {opening closing : UInt32}
    (inOrder : opening ≤ closing) (shape : MouthShape) :
    ((timeline.put opening shape).put closing .rest).Closes where
  opening := isSet_put (isSet_put closes.opening opening shape) closing .rest
  closing := by
    obtain ⟨latest, resting, upper⟩ := closes.closing
    by_cases beyond : closing < latest
    · refine ⟨latest, ?_, ?_⟩
      · have afterOpening := UInt32.lt_of_le_of_lt inOrder beyond
        rw [mem_frames_put_iff, mem_frames_put_iff]
        refine .inr ⟨(UInt32.ne_of_lt beyond).symm, .inr ⟨?_, resting⟩⟩
        exact (UInt32.ne_of_lt afterOpening).symm
      · intro entry member
        rw [mem_frames_put_iff, mem_frames_put_iff] at member
        rcases member with rfl | ⟨-, rfl | ⟨-, earlier⟩⟩
        · exact UInt32.le_of_lt beyond
        · exact UInt32.le_of_lt (UInt32.lt_of_le_of_lt inOrder beyond)
        · exact upper entry earlier
    · have reached : latest ≤ closing := UInt32.not_lt.mp beyond
      refine ⟨closing, (mem_frames_put_iff ..).mpr (.inl rfl), ?_⟩
      intro entry member
      rw [mem_frames_put_iff, mem_frames_put_iff] at member
      rcases member with rfl | ⟨-, rfl | ⟨-, earlier⟩⟩
      · exact UInt32.le_refl closing
      · exact inOrder
      · exact UInt32.le_trans (upper entry earlier) reached

theorem Closes.add {timeline : Timeline} (closes : timeline.Closes) (phoneme : Phoneme) :
    (timeline.add phoneme).Closes := by
  unfold Timeline.add
  cases MouthShape.ofSymbol? phoneme.symbol with
  | none => exact closes
  | some shape => exact closes.put_put phoneme.openingFrame_le_closingFrame shape

theorem closes_foldl_add {timeline : Timeline} (closes : timeline.Closes) (phonemes : List Phoneme) :
    (phonemes.foldl add timeline).Closes := by
  induction phonemes generalizing timeline with
  | nil => exact closes
  | cons phoneme later ih => exact ih (closes.add phoneme)

section Text

variable {timeline : Timeline}

/-- The latest frame stands at the head of the frames, which are held latest first. -/
theorem Closes.exists_cons (closes : timeline.Closes) :
    ∃ latest earlier, timeline.frames = (latest, .rest) :: earlier := by
  obtain ⟨latest, resting, upper⟩ := closes.closing
  cases shape : timeline.frames with
  | nil => simp [shape] at resting
  | cons head earlier =>
    have ordered := timeline.latestFirst
    rw [shape] at resting upper ordered
    rcases List.mem_cons.mp resting with same | inside
    · exact ⟨latest, earlier, by rw [same]⟩
    · have before := (List.pairwise_cons.mp ordered).1 _ inside
      exact absurd (upper head List.mem_cons_self) (UInt32.not_le.mpr before)

theorem Closes.exists_concat (closes : timeline.Closes) :
    ∃ later shape, timeline.frames = later ++ [(0, shape)] := by
  obtain ⟨shape, first⟩ := closes.opening
  rcases List.eq_nil_or_concat timeline.frames with none | ⟨later, last, split⟩
  · simp [none] at first
  · have ordered := timeline.latestFirst
    rw [List.concat_eq_append] at split
    rw [split] at first ordered
    rcases List.mem_append.mp first with inside | same
    · have before := (List.pairwise_append.mp ordered).2.2 _ inside last (by simp)
      exact absurd before (UInt32.not_lt.mpr (UInt32.zero_le (a := last.1)))
    · exact ⟨later, shape, by rw [split, List.mem_singleton.mp same]⟩

theorem text_of_frames {latest : UInt32} {shape : MouthShape} {earlier : List (UInt32 × MouthShape)}
    (frames : timeline.frames = (latest, shape) :: earlier) :
    timeline.text = String.join (earlier.reverse.map line) ++ line (latest, shape) := by
  rw [text, toList, frames, List.reverse_cons, List.map_append, String.join_append,
    List.map_singleton, String.join_cons, String.join_nil, String.append_empty]

theorem join_lines_ends (entries : List (UInt32 × MouthShape)) :
    String.join (entries.map line) = "" ∨
      ∃ front, String.join (entries.map line) = front ++ "\n" := by
  rcases List.eq_nil_or_concat entries with rfl | ⟨front, last, rfl⟩
  · exact .inl rfl
  · refine .inr ⟨String.join (front.map line) ++ (toString last.1.toNat ++ " " ++ last.2.name), ?_⟩
    rw [List.concat_eq_append, List.map_append, String.join_append, List.map_singleton,
      String.join_cons, String.join_nil, String.append_empty, line]
    exact (String.append_assoc ..).symm

theorem line_zero (shape : MouthShape) : line (0, shape) = "0 " ++ shape.name ++ "\n" := by
  have zero : toString (0 : UInt32).toNat ++ " " = "0 " := by decide +kernel
  rw [line, zero]

theorem line_rest (frame : UInt32) : line (frame, .rest) = toString frame.toNat ++ " rest\n" := by
  have rest : " " ++ (MouthShape.rest.name ++ "\n") = " rest\n" := by decide +kernel
  rw [line, String.append_assoc, String.append_assoc, rest]

end Text

/-- How a track ends: with a closed mouth in its latest frame, so that every open mouth is closed in
some frame behind it. Its text has frame zero in its first line and rest in its last one. -/
structure EndsClosed (timeline : Timeline) : Prop where
  first : ∃ shape, timeline.get? 0 = some shape
  latest : ∃ latest, timeline.get? latest = some .rest ∧
    ∀ frame shape, timeline.get? frame = some shape → frame ≤ latest
  reclosed : ∀ frame shape, timeline.get? frame = some shape → shape ≠ .rest →
    ∃ later, frame < later ∧ timeline.get? later = some .rest
  firstLine : ∃ shape rest, timeline.text = "0 " ++ MouthShape.name shape ++ "\n" ++ rest
  lastLine : ∃ front latest, timeline.text = front ++ (toString (UInt32.toNat latest) ++ " rest\n") ∧
    timeline.get? latest = some .rest ∧ (front = "" ∨ ∃ lines, front = lines ++ "\n")

theorem Closes.endsClosed {timeline : Timeline} (closes : timeline.Closes) : timeline.EndsClosed where
  first := by
    obtain ⟨shape, member⟩ := closes.opening
    exact ⟨shape, (timeline.get?_eq_some_iff 0 shape).mpr member⟩
  latest := by
    obtain ⟨latest, resting, upper⟩ := closes.closing
    refine ⟨latest, (timeline.get?_eq_some_iff latest .rest).mpr resting, ?_⟩
    intro frame shape found
    exact upper _ ((timeline.get?_eq_some_iff frame shape).mp found)
  reclosed := by
    intro frame shape found opened
    obtain ⟨latest, resting, upper⟩ := closes.closing
    have resting := (timeline.get?_eq_some_iff latest .rest).mpr resting
    refine ⟨latest, UInt32.lt_of_le_of_ne ?_ ?_, resting⟩
    · exact upper _ ((timeline.get?_eq_some_iff frame shape).mp found)
    · rintro rfl
      rw [found] at resting
      exact opened (Option.some.inj resting)
  firstLine := by
    obtain ⟨later, shape, frames⟩ := closes.exists_concat
    refine ⟨shape, String.join (later.reverse.map line), ?_⟩
    rw [text, toList, frames, List.reverse_append, List.reverse_singleton, List.singleton_append,
      List.map_cons, String.join_cons, line_zero]
  lastLine := by
    obtain ⟨latest, earlier, frames⟩ := closes.exists_cons
    refine ⟨_, latest, line_rest latest ▸ text_of_frames frames, ?_, join_lines_ends _⟩
    rw [Timeline.get?_eq_some_iff, frames]
    exact List.mem_cons_self

/-- Whatever is added to a mouth at rest, in whatever order and however often: the track ends with a
closed mouth. -/
theorem endsClosed_foldl_add (phonemes : List Phoneme) :
    (phonemes.foldl add resting).EndsClosed :=
  (closes_foldl_add closes_resting phonemes).endsClosed

/-- A vowel that is over in the frame in which it starts is not seen. -/
example : (resting.add ⟨"e", .clamped 50000000, .clamped 10000000⟩).text = "0 rest\n1 rest\n" := by
  decide +kernel

end Timeline

end Voiceover
