import Voiceover.Proofs.Timeline.Closing

/-! What a viewer sees of a track. A shape stays until another frame is set, so a frame shows what has
been set last at or before it. When phonemes come in the order of their frames, every one of them is
seen from the frame in which it opens the mouth to the one in which it closes it, and the mouth is at
rest between them: where one phoneme closes the mouth in the frame in which the next one opens it, the
opening is written later and stays. -/

namespace Voiceover

/-- Of frames held latest first, the first one up to a frame is the latest one up to it. -/
theorem find?_reached_iff {frames : List (UInt32 × MouthShape)} (ordered : LatestFirst frames)
    (frame : UInt32) (entry : UInt32 × MouthShape) :
    frames.find? (·.1 ≤ frame) = some entry ↔
      entry ∈ frames ∧ entry.1 ≤ frame ∧
        ∀ other ∈ frames, other.1 ≤ frame → other.1 ≤ entry.1 := by
  induction frames with
  | nil => simp
  | cons head earlier ih =>
    obtain ⟨above, rest⟩ := List.pairwise_cons.mp ordered
    by_cases reached : head.1 ≤ frame
    · rw [List.find?_cons_of_pos (by simpa using reached), Option.some_inj]
      constructor
      · rintro rfl
        refine ⟨List.mem_cons_self, reached, List.forall_mem_cons.mpr ⟨fun _ => UInt32.le_refl _, ?_⟩⟩
        intro other inside _
        exact UInt32.le_of_lt (above other inside)
      · rintro ⟨member, -, latest⟩
        rcases List.mem_cons.mp member with same | inside
        · exact same.symm
        · have below := latest head List.mem_cons_self reached
          exact absurd (above entry inside) (UInt32.not_lt.mpr below)
    · rw [List.find?_cons_of_neg (by simpa using reached), ih rest, List.forall_mem_cons,
        List.mem_cons]
      constructor
      · rintro ⟨inside, early, latest⟩
        exact ⟨.inr inside, early, fun past => absurd past reached, latest⟩
      · rintro ⟨rfl | inside, early, -, latest⟩
        · exact absurd early reached
        · exact ⟨inside, early, latest⟩

theorem find?_putFrame_latest {frames : List (UInt32 × MouthShape)} {latest : UInt32}
    (upper : ∀ entry ∈ frames, entry.1 ≤ latest) (shape : MouthShape) (frame : UInt32) :
    (putFrame latest shape frames).find? (·.1 ≤ frame) =
      if latest ≤ frame then some (latest, shape) else frames.find? (·.1 ≤ frame) := by
  cases frames with
  | nil =>
    rw [putFrame, List.find?_singleton]
    simp
  | cons head earlier =>
    obtain ⟨other, kept⟩ := head
    have reached := UInt32.lt_or_eq_of_le (upper (other, kept) List.mem_cons_self)
    rcases reached with below | rfl
    · rw [putFrame, if_pos below, List.find?_cons]
      split_ifs with seen <;> simp [seen]
    · rw [putFrame, if_neg (UInt32.lt_irrefl _), if_pos rfl, List.find?_cons, List.find?_cons]
      split_ifs with seen <;> simp [seen]

namespace Timeline

def pose? (timeline : Timeline) (frame : UInt32) : Option MouthShape :=
  (timeline.frames.find? (·.1 ≤ frame)).map (·.2)

/-- It is the shape of the latest of the frames that are set up to this one. -/
theorem pose?_eq_some_iff (timeline : Timeline) (frame : UInt32) (shape : MouthShape) :
    timeline.pose? frame = some shape ↔
      ∃ origin, origin ≤ frame ∧ timeline.get? origin = some shape ∧
        ∀ other kept, timeline.get? other = some kept → other ≤ frame → other ≤ origin := by
  simp only [get?_eq_some_iff, pose?, Option.map_eq_some_iff,
    find?_reached_iff timeline.latestFirst]
  constructor
  · rintro ⟨⟨origin, _⟩, ⟨member, reached, latest⟩, rfl⟩
    exact ⟨origin, reached, member, fun other kept inside => latest (other, kept) inside⟩
  · rintro ⟨origin, reached, member, latest⟩
    exact ⟨(origin, shape), ⟨member, reached, fun other => latest other.1 other.2⟩, rfl⟩

/-- A frame behind all the others is seen from itself on, and changes nothing in front of it. -/
theorem pose?_put_latest {timeline : Timeline} {latest : UInt32}
    (upper : ∀ entry ∈ timeline.frames, entry.1 ≤ latest) (shape : MouthShape) (frame : UInt32) :
    (timeline.put latest shape).pose? frame =
      if latest ≤ frame then some shape else timeline.pose? frame := by
  have found := find?_putFrame_latest upper shape frame
  simp only [pose?, put, found]
  split_ifs <;> rfl

end Timeline

/-- Phonemes in the order of their frames: each is open for a frame at least, and none opens the mouth
before the one in front of it has closed it. -/
structure InFrameOrder (shown : List Phoneme) : Prop where
  opens : ∀ phoneme ∈ shown, phoneme.openingFrame < phoneme.closingFrame
  follows : shown.IsChain fun first second => first.closingFrame ≤ second.openingFrame

/-- None of them opens the mouth before any one in front of it has closed it. -/
theorem InFrameOrder.pairwise {shown : List Phoneme} (ordered : InFrameOrder shown) :
    shown.Pairwise fun first second => first.closingFrame ≤ second.openingFrame := by
  obtain ⟨opens, follows⟩ := ordered
  induction shown with
  | nil => exact .nil
  | cons first later ih =>
    have opens := (List.forall_mem_cons.mp opens).2
    cases later with
    | nil => exact List.pairwise_singleton _ _
    | cons second rest =>
      obtain ⟨next, follows⟩ := List.isChain_cons_cons.mp follows
      have apart := ih opens follows
      refine List.pairwise_cons.mpr ⟨List.forall_mem_cons.mpr ⟨next, ?_⟩, apart⟩
      intro other inside
      have open_ := UInt32.le_of_lt (opens second List.mem_cons_self)
      have behind := (List.pairwise_cons.mp apart).1 other inside
      exact UInt32.le_trans next (UInt32.le_trans open_ behind)

/-- A last phoneme comes behind each of the others. -/
theorem pairwise_concat_iff {relation : Phoneme → Phoneme → Prop} {front : List Phoneme}
    {last : Phoneme} :
    (front ++ [last]).Pairwise relation ↔
      front.Pairwise relation ∧ ∀ phoneme ∈ front, relation phoneme last := by
  simp only [List.pairwise_append, List.pairwise_singleton, List.mem_singleton, forall_eq, true_and]

namespace Timeline

theorem build_concat (front : List Phoneme) (last : Phoneme) :
    build (front ++ [last]) = (build front).add last :=
  List.foldl_append

theorem build_filter (phonemes : List Phoneme) :
    build (phonemes.filter Phoneme.isShown) = build phonemes := by
  rw [build_eq_replay, build_eq_replay, trackWrites_filter]

def Stands (shown : List Phoneme) (frame : UInt32) (shape : MouthShape) : Prop :=
  (∃ phoneme ∈ shown, frame = phoneme.openingFrame ∧
    MouthShape.ofSymbol? phoneme.symbol = some shape) ∨
  shape = .rest ∧ (frame = 0 ∨ ∃ phoneme ∈ shown, frame = phoneme.closingFrame) ∧
    ∀ phoneme ∈ shown, phoneme.openingFrame ≠ frame

theorem stands_nil (frame : UInt32) (shape : MouthShape) :
    Stands [] frame shape ↔ (frame, shape) = (0, .rest) := by
  simp [Stands, and_comm]

/-- The last phoneme decides on the frame in which it closes the mouth, then on the one in which it opens
it, and leaves the others as they were. -/
theorem stands_concat {front : List Phoneme} {last : Phoneme} {pose : MouthShape}
    (shown : MouthShape.ofSymbol? last.symbol = some pose)
    (open_ : last.openingFrame < last.closingFrame)
    (opens : ∀ phoneme ∈ front, phoneme.openingFrame < phoneme.closingFrame)
    (before : ∀ phoneme ∈ front, phoneme.closingFrame ≤ last.openingFrame)
    (frame : UInt32) (shape : MouthShape) :
    Stands (front ++ [last]) frame shape ↔
      (frame, shape) = (last.closingFrame, .rest) ∨ frame ≠ last.closingFrame ∧
        ((frame, shape) = (last.openingFrame, pose) ∨
          frame ≠ last.openingFrame ∧ Stands front frame shape) := by
  have early (phoneme : Phoneme) (inside : phoneme ∈ front) :
      phoneme.openingFrame < last.openingFrame :=
    UInt32.lt_of_lt_of_le (opens phoneme inside) (before phoneme inside)
  have earlier (phoneme : Phoneme) (inside : phoneme ∈ front) :
      phoneme.openingFrame < last.closingFrame :=
    UInt32.lt_trans (early phoneme inside) open_
  unfold Stands
  rw [List.forall_mem_append, List.forall_mem_singleton]
  constructor
  · rintro (⟨phoneme, member, rfl, posed⟩ | ⟨rfl, set, unopened, other⟩)
    · rcases List.mem_append.mp member with inside | same
      · exact .inr ⟨UInt32.ne_of_lt (earlier phoneme inside), .inr
          ⟨UInt32.ne_of_lt (early phoneme inside), .inl ⟨phoneme, inside, rfl, posed⟩⟩⟩
      · obtain rfl := List.mem_singleton.mp same
        obtain rfl : pose = shape := Option.some.inj (shown.symm.trans posed)
        exact .inr ⟨UInt32.ne_of_lt open_, .inl rfl⟩
    · by_cases closed : frame = last.closingFrame
      · exact .inl (by rw [closed])
      · refine .inr ⟨closed, .inr ⟨other.symm, .inr ⟨rfl, ?_, unopened⟩⟩⟩
        rcases set with start | ⟨phoneme, member, ends⟩
        · exact .inl start
        · rcases List.mem_append.mp member with inside | same
          · exact .inr ⟨phoneme, inside, ends⟩
          · rw [List.mem_singleton.mp same] at ends
            exact absurd ends closed
  · rintro (same | ⟨unclosed, same | ⟨unopened, ⟨phoneme, inside, opened⟩ | ⟨rfl, set, others⟩⟩⟩)
    · obtain ⟨rfl, rfl⟩ := Prod.mk.inj same
      refine .inr ⟨rfl, .inr ⟨last, by simp, rfl⟩, ?_, UInt32.ne_of_lt open_⟩
      exact fun phoneme inside => UInt32.ne_of_lt (earlier phoneme inside)
    · obtain ⟨rfl, rfl⟩ := Prod.mk.inj same
      exact .inl ⟨last, by simp, rfl, shown⟩
    · exact .inl ⟨phoneme, List.mem_append_left _ inside, opened⟩
    · refine .inr ⟨rfl, ?_, others, unopened.symm⟩
      rcases set with start | ⟨phoneme, inside, ends⟩
      · exact .inl start
      · exact .inr ⟨phoneme, List.mem_append_left _ inside, ends⟩

section Ordered

variable {shown : List Phoneme} (visible : ∀ phoneme ∈ shown, phoneme.isShown)
  (opens : ∀ phoneme ∈ shown, phoneme.openingFrame < phoneme.closingFrame)
  (apart : shown.Pairwise fun first second => first.closingFrame ≤ second.openingFrame)

include visible opens apart

theorem mem_build_iff (frame : UInt32) (shape : MouthShape) :
    (frame, shape) ∈ (build shown).frames ↔ Stands shown frame shape := by
  induction shown using List.reverseRecOn generalizing frame shape with
  | nil =>
    rw [stands_nil]
    exact List.mem_singleton
  | append_singleton front last ih =>
    rw [List.forall_mem_append, List.forall_mem_singleton] at visible opens
    obtain ⟨inFront, before⟩ := pairwise_concat_iff.mp apart
    obtain ⟨pose, shown⟩ := Option.isSome_iff_exists.mp visible.2
    rw [build_concat, add_of_shown shown, mem_frames_put_iff, mem_frames_put_iff,
      ih visible.1 opens.1 inFront, stands_concat shown opens.2 opens.1 before]

/-- No frame of the phonemes is behind the one in which a later phoneme opens the mouth. -/
theorem frames_le {frame : UInt32} (before : ∀ phoneme ∈ shown, phoneme.closingFrame ≤ frame) :
    ∀ entry ∈ (build shown).frames, entry.1 ≤ frame := by
  intro entry member
  rcases (mem_build_iff visible opens apart entry.1 entry.2).mp member with
    ⟨phoneme, inside, opened, -⟩ | ⟨-, start | ⟨phoneme, inside, closed⟩, -⟩
  · rw [opened]
    exact UInt32.le_trans (UInt32.le_of_lt (opens phoneme inside)) (before phoneme inside)
  · rw [start]
    exact UInt32.zero_le
  · rw [closed]
    exact before phoneme inside

theorem pose?_build (frame : UInt32) :
    (∀ phoneme ∈ shown, phoneme.openingFrame ≤ frame → frame < phoneme.closingFrame →
      (build shown).pose? frame = MouthShape.ofSymbol? phoneme.symbol) ∧
    ((∀ phoneme ∈ shown, frame < phoneme.openingFrame ∨ phoneme.closingFrame ≤ frame) →
      (build shown).pose? frame = some .rest) := by
  induction shown using List.reverseRecOn with
  | nil =>
    refine ⟨List.forall_mem_nil _, fun _ => ?_⟩
    simp [build, resting, pose?]
  | append_singleton front last ih =>
    rw [List.forall_mem_append, List.forall_mem_singleton] at visible opens
    obtain ⟨inFront, before⟩ := pairwise_concat_iff.mp apart
    obtain ⟨pose, shown⟩ := Option.isSome_iff_exists.mp visible.2
    have upper := frames_le visible.1 opens.1 inFront before
    have openUpper : ∀ entry ∈ ((build front).put last.openingFrame pose).frames,
        entry.1 ≤ last.closingFrame := by
      intro entry member
      rcases (mem_frames_put_iff ..).mp member with rfl | ⟨-, inside⟩
      · exact UInt32.le_of_lt opens.2
      · exact UInt32.le_trans (upper entry inside) (UInt32.le_of_lt opens.2)
    obtain ⟨seen, unseen⟩ := ih visible.1 opens.1 inFront
    rw [build_concat, add_of_shown shown, pose?_put_latest openUpper, pose?_put_latest upper,
      List.forall_mem_append, List.forall_mem_singleton]
    refine ⟨⟨?_, ?_⟩, ?_⟩
    · intro phoneme inside opened unclosed
      have unopened := UInt32.lt_of_lt_of_le unclosed (before phoneme inside)
      rw [if_neg (UInt32.not_le.mpr (UInt32.lt_trans unopened opens.2)),
        if_neg (UInt32.not_le.mpr unopened)]
      exact seen phoneme inside opened unclosed
    · intro opened unclosed
      rw [if_neg (UInt32.not_le.mpr unclosed), if_pos opened, shown]
    · intro outside
      rw [List.forall_mem_append, List.forall_mem_singleton] at outside
      obtain ⟨others, unopened | closed⟩ := outside
      · rw [if_neg (UInt32.not_le.mpr (UInt32.lt_trans unopened opens.2)),
          if_neg (UInt32.not_le.mpr unopened)]
        exact unseen others
      · rw [if_pos closed]

end Ordered

/-- A phoneme closes the mouth in a frame in which only the one right behind it can open it again. -/
theorem openingFrame_ne_closingFrame {before after : List Phoneme} {phoneme : Phoneme}
    (ordered : InFrameOrder (before ++ phoneme :: after))
    (next : ∀ second, after.head? = some second → second.openingFrame ≠ phoneme.closingFrame) :
    ∀ other ∈ before ++ phoneme :: after, other.openingFrame ≠ phoneme.closingFrame := by
  have opens := ordered.opens
  obtain ⟨-, behind, across⟩ := List.pairwise_append.mp ordered.pairwise
  obtain ⟨follows, apart⟩ := List.pairwise_cons.mp behind
  rw [List.forall_mem_append, List.forall_mem_cons] at opens ⊢
  obtain ⟨early, here, late⟩ := opens
  refine ⟨?_, UInt32.ne_of_lt here, ?_⟩
  · intro other inside
    have closed := across other inside phoneme List.mem_cons_self
    exact UInt32.ne_of_lt (UInt32.lt_trans (UInt32.lt_of_lt_of_le (early other inside) closed) here)
  · cases after with
    | nil => exact List.forall_mem_nil _
    | cons second rest =>
      refine List.forall_mem_cons.mpr ⟨next second rfl, ?_⟩
      intro other inside
      have first := follows second List.mem_cons_self
      have later := (List.pairwise_cons.mp apart).1 other inside
      have between := UInt32.lt_of_lt_of_le (late second List.mem_cons_self) later
      exact (UInt32.ne_of_lt (UInt32.lt_of_le_of_lt first between)).symm

theorem openingFrame_ne_zero {shown : List Phoneme} (ordered : InFrameOrder shown)
    (start : ∀ first, shown.head? = some first → first.openingFrame ≠ 0) :
    ∀ phoneme ∈ shown, phoneme.openingFrame ≠ 0 := by
  cases shown with
  | nil => exact List.forall_mem_nil _
  | cons first later =>
    refine List.forall_mem_cons.mpr ⟨start first rfl, ?_⟩
    intro phoneme inside zero
    have follows := (List.pairwise_cons.mp ordered.pairwise).1 phoneme inside
    have positive := UInt32.lt_of_lt_of_le (ordered.opens first List.mem_cons_self) follows
    rw [zero] at positive
    exact UInt32.not_lt_zero positive

/-- Every phoneme is in the track with its shape, and is seen as long as it keeps the mouth open. Rest
is at the start unless the first phoneme opens the mouth there, and where a phoneme closes the mouth
unless the next one opens it there. There is no other frame, and rest is seen wherever no phoneme is. -/
structure ShowsEach (timeline : Timeline) (shown : List Phoneme) : Prop where
  opened : ∀ phoneme ∈ shown, ∃ shape, MouthShape.ofSymbol? phoneme.symbol = some shape ∧
    timeline.get? phoneme.openingFrame = some shape ∧
    ∀ frame, phoneme.openingFrame ≤ frame → frame < phoneme.closingFrame →
      timeline.pose? frame = some shape
  closed : ∀ before phoneme after, shown = before ++ phoneme :: after →
    (∀ second, after.head? = some second → second.openingFrame ≠ phoneme.closingFrame) →
      timeline.get? phoneme.closingFrame = some .rest
  started : (∀ first, shown.head? = some first → first.openingFrame ≠ 0) →
    timeline.get? 0 = some .rest
  only : ∀ frame shape, timeline.get? frame = some shape →
    frame = 0 ∨ ∃ phoneme ∈ shown, frame = phoneme.openingFrame ∨ frame = phoneme.closingFrame
  between : ∀ frame,
    (∀ phoneme ∈ shown, frame < phoneme.openingFrame ∨ phoneme.closingFrame ≤ frame) →
      timeline.pose? frame = some .rest

/-- Phonemes in the order of their frames are all seen, whatever has no shape and stands among them. -/
theorem build_shows_each (phonemes : List Phoneme)
    (ordered : InFrameOrder (phonemes.filter Phoneme.isShown)) :
    (build phonemes).ShowsEach (phonemes.filter Phoneme.isShown) := by
  have visible : ∀ phoneme ∈ phonemes.filter Phoneme.isShown, phoneme.isShown :=
    fun phoneme inside => (List.mem_filter.mp inside).2
  rw [← build_filter]
  generalize phonemes.filter Phoneme.isShown = shown at *
  have stands := mem_build_iff visible ordered.opens ordered.pairwise
  have poses := pose?_build visible ordered.opens ordered.pairwise
  constructor
  · intro phoneme inside
    obtain ⟨shape, posed⟩ := Option.isSome_iff_exists.mp (visible phoneme inside)
    refine ⟨shape, posed, ?_, ?_⟩
    · rw [get?_eq_some_iff, stands]
      exact .inl ⟨phoneme, inside, rfl, posed⟩
    · intro frame opened unclosed
      rw [(poses frame).1 phoneme inside opened unclosed, posed]
  · rintro before phoneme after rfl next
    rw [get?_eq_some_iff, stands]
    have unopened := openingFrame_ne_closingFrame ordered next
    exact .inr ⟨rfl, .inr ⟨phoneme, by simp, rfl⟩, unopened⟩
  · intro start
    rw [get?_eq_some_iff, stands]
    exact .inr ⟨rfl, .inl rfl, openingFrame_ne_zero ordered start⟩
  · intro frame shape found
    rw [get?_eq_some_iff, stands] at found
    rcases found with ⟨phoneme, inside, opened, -⟩ | ⟨-, start | ⟨phoneme, inside, closed⟩, -⟩
    · exact .inr ⟨phoneme, inside, .inl opened⟩
    · exact .inl start
    · exact .inr ⟨phoneme, inside, .inr closed⟩
  · exact fun frame => (poses frame).2

/-- Two phonemes that meet in frame 4 and one without a shape: the second shape is seen from there on. -/
theorem build_shows_each_meeting :
    let o : Phoneme := ⟨"o", .clamped 100000000, .clamped 90000000⟩
    let t : Phoneme := ⟨"t", .clamped 120000000, .clamped 40000000⟩
    let m : Phoneme := ⟨"m", .clamped 170000000, .clamped 50000000⟩
    (build [o, t, m]).ShowsEach [o, m] ∧ (build [o, t, m]).get? 4 = some .mbp ∧
      (build [o, t, m]).pose? 3 = some .o ∧ (build [o, t, m]).pose? 7 = some .rest := by
  intro o t m
  have shown : [o, t, m].filter Phoneme.isShown = [o, m] := by decide +kernel
  have opens : o.openingFrame = 2 ∧ o.closingFrame = 4 ∧ m.openingFrame = 4 ∧ m.closingFrame = 5 := by
    decide +kernel
  obtain ⟨first, second, third, fourth⟩ := opens
  have ordered : InFrameOrder [o, m] := by
    constructor
    · simp [first, second, third, fourth]
    · simp [second, third]
  have each := build_shows_each [o, t, m] (by rwa [shown])
  rw [shown] at each
  obtain ⟨pose, posed, -, seen⟩ := each.opened o (by simp)
  obtain ⟨other, otherPosed, found, -⟩ := each.opened m (by simp)
  obtain rfl : MouthShape.o = pose := Option.some.inj posed
  obtain rfl : MouthShape.mbp = other := Option.some.inj otherPosed
  rw [third] at found
  refine ⟨each, found, seen 3 ?_ ?_, each.between 7 ?_⟩
  · rw [first]
    decide
  · rw [second]
    decide
  · simp [second, fourth]

end Timeline

end Voiceover
