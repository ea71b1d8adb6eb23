import Mathlib.Data.Finset.Card
import Mathlib.Data.Finset.Dedup
import Voiceover.Timeline

/-! A timeline as the writes that made it. Every phoneme with a shape writes twice, a write takes the
place of the one before it in the same frame, and nothing else of the past is left: a timeline shows
the last write to each frame that has been written. -/

namespace Voiceover

def LastWrite (writes : List (UInt32 × MouthShape)) (frame : UInt32) (shape : MouthShape) : Prop :=
  ∃ before after, writes = before ++ (frame, shape) :: after ∧ ∀ write ∈ after, write.1 ≠ frame

namespace LastWrite

variable {writes : List (UInt32 × MouthShape)} {frame : UInt32} {shape : MouthShape}

theorem concat_iff (write : UInt32 × MouthShape) :
    LastWrite (writes ++ [write]) frame shape ↔
      (frame, shape) = write ∨ write.1 ≠ frame ∧ LastWrite writes frame shape := by
  constructor
  · rintro ⟨before, after, split, untouched⟩
    -- The new write is the one to the frame when nothing stands behind that, and the last one there
    -- otherwise.
    rcases List.eq_nil_or_concat after with rfl | ⟨others, last, rfl⟩
    · have same := (List.append_inj' split rfl).2
      exact .inl (List.singleton_inj.mp same).symm
    · rw [List.concat_eq_append, ← List.cons_append, ← List.append_assoc] at split
      obtain ⟨front, same⟩ := List.append_inj' split rfl
      obtain rfl := List.singleton_inj.mp same
      refine .inr ⟨untouched write (by simp), before, others, front, ?_⟩
      intro other member
      exact untouched other (by simp [member])
  · rintro (rfl | ⟨elsewhere, before, after, rfl, untouched⟩)
    · exact ⟨writes, [], rfl, by simp⟩
    · refine ⟨before, after ++ [write], by simp, ?_⟩
      intro other member
      rcases List.mem_append.mp member with earlier | last
      · exact untouched other earlier
      · exact List.mem_singleton.mp last ▸ elsewhere

theorem exists_iff : (∃ shape, LastWrite writes frame shape) ↔ ∃ write ∈ writes, write.1 = frame := by
  induction writes using List.reverseRecOn with
  | nil => simp [LastWrite]
  | append_singleton front write ih =>
    simp only [concat_iff]
    by_cases here : write.1 = frame
    · have found : ∃ shape, (frame, shape) = write := ⟨write.2, by rw [← here]⟩
      simp [here, found]
    · have missed : ∀ shape, (frame, shape) ≠ write := fun shape same => here (by rw [← same])
      simp [here, missed, ih]

end LastWrite

theorem mem_putFrame_iff {frame : UInt32} {shape : MouthShape}
    {frames : List (UInt32 × MouthShape)} (ordered : LatestFirst frames)
    (entry : UInt32 × MouthShape) :
    entry ∈ putFrame frame shape frames ↔
      entry = (frame, shape) ∨ entry.1 ≠ frame ∧ entry ∈ frames := by
  induction frames with
  | nil => simp [putFrame]
  | cons head earlier ih =>
    obtain ⟨other, kept⟩ := head
    obtain ⟨above, rest⟩ := List.pairwise_cons.1 ordered
    simp only [putFrame]
    -- A new latest frame, the latest one again, or one of the earlier ones.
    split
    · rename_i below
      have elsewhere : entry ∈ (other, kept) :: earlier → entry.1 ≠ frame := by
        intro member
        rcases List.mem_cons.1 member with rfl | inside
        · exact UInt32.ne_of_lt below
        · exact UInt32.ne_of_lt (UInt32.lt_trans (above entry inside) below)
      rw [List.mem_cons, and_iff_right_of_imp elsewhere]
    · split
      · rename_i same
        subst same
        have elsewhere : entry ∈ earlier → entry.1 ≠ other :=
          fun inside => UInt32.ne_of_lt (above entry inside)
        have replaced : ¬(entry.1 ≠ other ∧ entry = (other, kept)) :=
          fun both => both.1 (congrArg Prod.fst both.2)
        rw [List.mem_cons, List.mem_cons, and_or_left, or_iff_right replaced,
          and_iff_right_of_imp elsewhere]
      · rename_i notSame
        have elsewhere : entry = (other, kept) → entry.1 ≠ frame :=
          fun same moved => notSame ((congrArg Prod.fst same).symm.trans moved)
        rw [List.mem_cons, List.mem_cons, ih rest, and_or_left, and_iff_right_of_imp elsewhere]
        exact or_left_comm

namespace Timeline

theorem nodup_frames (timeline : Timeline) : (timeline.frames.map Prod.fst).Nodup := by
  apply List.pairwise_map.2
  apply timeline.latestFirst.imp
  intro later earlier before
  exact (UInt32.ne_of_lt before).symm

theorem get?_eq_some_iff (timeline : Timeline) (frame : UInt32) (shape : MouthShape) :
    timeline.get? frame = some shape ↔ (frame, shape) ∈ timeline.frames := by
  unfold get?
  constructor
  · intro found
    obtain ⟨entry, first, rfl⟩ := Option.map_eq_some_iff.1 found
    have here : entry.1 = frame := by simpa using List.find?_some first
    exact here ▸ List.mem_of_find?_eq_some first
  · intro member
    cases found : timeline.frames.find? (·.1 = frame) with
    | none => simpa using List.find?_eq_none.1 found _ member
    | some entry =>
      have here : entry.1 = frame := by simpa using List.find?_some found
      have same : entry = (frame, shape) :=
        List.inj_on_of_nodup_map timeline.nodup_frames (List.mem_of_find?_eq_some found) member here
      rw [same]
      rfl

def blank : Timeline := ⟨[], .nil⟩

def replay (timeline : Timeline) (writes : List (UInt32 × MouthShape)) : Timeline :=
  writes.foldl (fun reached write => reached.put write.1 write.2) timeline

theorem replay_append (timeline : Timeline) (writes more : List (UInt32 × MouthShape)) :
    timeline.replay (writes ++ more) = (timeline.replay writes).replay more :=
  List.foldl_append

structure Shows (timeline : Timeline) (writes : List (UInt32 × MouthShape)) : Prop where
  get?_eq_some_iff : ∀ frame shape,
    timeline.get? frame = some shape ↔ LastWrite writes frame shape
  get?_eq_none_iff : ∀ frame, timeline.get? frame = none ↔ ∀ write ∈ writes, write.1 ≠ frame
  ascending : timeline.toList.Pairwise fun earlier later => earlier.1 < later.1
  mem_toList_iff : ∀ frame shape, (frame, shape) ∈ timeline.toList ↔ LastWrite writes frame shape
  mem_frames_iff : ∀ frame, frame ∈ timeline.toList.map Prod.fst ↔ ∃ write ∈ writes, write.1 = frame
  size_eq : timeline.size = (writes.map Prod.fst).toFinset.card

theorem mem_replay_iff (writes : List (UInt32 × MouthShape)) (frame : UInt32) (shape : MouthShape) :
    (frame, shape) ∈ (blank.replay writes).frames ↔ LastWrite writes frame shape := by
  induction writes using List.reverseRecOn with
  | nil => simp [replay, blank, LastWrite]
  | append_singleton front write ih =>
    rw [replay_append, LastWrite.concat_iff, ← ih]
    have step : (frame, shape) ∈ putFrame write.1 write.2 (blank.replay front).frames ↔
        (frame, shape) = write ∨ frame ≠ write.1 ∧ (frame, shape) ∈ (blank.replay front).frames :=
      mem_putFrame_iff (blank.replay front).latestFirst (frame, shape)
    rw [ne_comm] at step
    exact step

theorem shows_replay (writes : List (UInt32 × MouthShape)) : (blank.replay writes).Shows writes := by
  have listed := mem_replay_iff writes
  have written (frame : UInt32) : frame ∈ (blank.replay writes).frames.map Prod.fst ↔
      ∃ write ∈ writes, write.1 = frame := by
    rw [← LastWrite.exists_iff]
    simp [listed]
  have found (frame : UInt32) (shape : MouthShape) :
      (blank.replay writes).get? frame = some shape ↔ LastWrite writes frame shape :=
    (Timeline.get?_eq_some_iff _ frame shape).trans (listed frame shape)
  refine ⟨found, ?_, List.pairwise_reverse.2 (blank.replay writes).latestFirst, ?_, ?_, ?_⟩
  · intro frame
    rw [Option.eq_none_iff_forall_ne_some]
    simp only [ne_eq, found, ← not_exists, LastWrite.exists_iff]
    simp
  · intro frame shape
    rw [toList, List.mem_reverse]
    exact listed frame shape
  · intro frame
    rw [toList, List.map_reverse, List.mem_reverse]
    exact written frame
  · have sameFrames : (writes.map Prod.fst).toFinset =
        ((blank.replay writes).frames.map Prod.fst).toFinset := by
      ext frame
      rw [List.mem_toFinset, List.mem_toFinset, written, List.mem_map]
    rw [sameFrames, List.toFinset_card_of_nodup (blank.replay writes).nodup_frames, List.length_map]
    rfl

end Timeline

def Phoneme.writes (phoneme : Phoneme) : List (UInt32 × MouthShape) :=
  match MouthShape.ofSymbol? phoneme.symbol with
  | none => []
  | some shape =>
      [(frameAtMillis phoneme.start.inMillis, shape),
        (frameAtMillis (Binary64.nearest (phoneme.start.inMillis + phoneme.length.inMillis)), .rest)]

def Phoneme.isShown (phoneme : Phoneme) : Bool :=
  (MouthShape.ofSymbol? phoneme.symbol).isSome

def trackWrites (phonemes : List Phoneme) : List (UInt32 × MouthShape) :=
  (0, .rest) :: phonemes.flatMap Phoneme.writes

theorem trackWrites_filter (phonemes : List Phoneme) :
    trackWrites (phonemes.filter Phoneme.isShown) = trackWrites phonemes := by
  unfold trackWrites
  induction phonemes with
  | nil => rfl
  | cons phoneme later ih =>
    have tails := (List.cons.inj ih).2
    cases shape : MouthShape.ofSymbol? phoneme.symbol with
    | none =>
      have hidden : ¬phoneme.isShown = true := by simp [Phoneme.isShown, shape]
      have silent : phoneme.writes = [] := by simp [Phoneme.writes, shape]
      rw [List.filter_cons_of_neg hidden, List.flatMap_cons, silent, tails, List.nil_append]
    | some shape =>
      have shown : phoneme.isShown = true := by simp [Phoneme.isShown, *]
      rw [List.filter_cons_of_pos shown, List.flatMap_cons, List.flatMap_cons, tails]

namespace Timeline

theorem add_eq_replay (timeline : Timeline) (phoneme : Phoneme) :
    timeline.add phoneme = timeline.replay phoneme.writes := by
  cases shape : MouthShape.ofSymbol? phoneme.symbol with
  | none =>
    simp only [add, Phoneme.writes, shape]
    rfl
  | some shape =>
    simp only [add, Phoneme.writes, shape]
    rfl

theorem build_eq_replay (phonemes : List Phoneme) :
    build phonemes = blank.replay (trackWrites phonemes) := by
  have opened : blank.replay [(0, .rest)] = resting := rfl
  have spoken (timeline : Timeline) :
      phonemes.foldl add timeline = timeline.replay (phonemes.flatMap Phoneme.writes) := by
    induction phonemes generalizing timeline with
    | nil => rfl
    | cons phoneme later ih =>
      rw [List.foldl_cons, List.flatMap_cons, replay_append, ih, add_eq_replay]
  calc
    build phonemes = resting.replay (phonemes.flatMap Phoneme.writes) := spoken resting
    _ = (blank.replay [(0, .rest)]).replay (phonemes.flatMap Phoneme.writes) := by rw [opened]
    _ = blank.replay (trackWrites phonemes) := (replay_append _ _ _).symm

/-- A track shows the last write to each frame. It may be made in parts, and phonemes without a shape
may stand anywhere in it. -/
theorem build_shows_last_writes (phonemes : List Phoneme) :
    (build phonemes).Shows (trackWrites phonemes) ∧
    (∀ more, build (phonemes ++ more) = more.foldl add (build phonemes)) ∧
    ∀ others, others.filter Phoneme.isShown = phonemes.filter Phoneme.isShown →
      build others = build phonemes := by
  refine ⟨?_, ?_, ?_⟩
  · rw [build_eq_replay]
    exact shows_replay _
  · intro more
    exact List.foldl_append
  · intro others alike
    rw [build_eq_replay, build_eq_replay, ← trackWrites_filter others, alike, trackWrites_filter]

/-- Two shapes meet in frame 4, and a consonant without a shape stands between them. -/
theorem build_shows_last_writes_meeting :
    let o : Phoneme := ⟨"o", .clamped 100000000, .clamped 90000000⟩
    let t : Phoneme := ⟨"t", .clamped 120000000, .clamped 40000000⟩
    let m : Phoneme := ⟨"m", .clamped 170000000, .clamped 50000000⟩
    (build [o, m]).get? 4 = some .mbp ∧ (build [m, o]).get? 4 = some .rest ∧
      build [o, t, m] = build [o, m] := by
  intro o t m
  have openWins : LastWrite (trackWrites [o, m]) 4 .mbp :=
    ⟨[(0, .rest), (2, .o), (4, .rest)], [(5, .rest)], by decide +kernel, by decide⟩
  have restWins : LastWrite (trackWrites [m, o]) 4 .rest :=
    ⟨[(0, .rest), (4, .mbp), (5, .rest), (2, .o)], [], by decide +kernel, by decide⟩
  have alike : [o, t, m].filter Phoneme.isShown = [o, m].filter Phoneme.isShown := by
    decide +kernel
  refine ⟨?_, ?_, ?_⟩
  · exact ((build_shows_last_writes [o, m]).1.get?_eq_some_iff 4 .mbp).mpr openWins
  · exact ((build_shows_last_writes [m, o]).1.get?_eq_some_iff 4 .rest).mpr restWins
  · exact (build_shows_last_writes [o, m]).2.2 [o, t, m] alike

end Timeline

end Voiceover
