import Voiceover.Proofs.Compile.Warnings
import Voiceover.Proofs.Wave.Silence
import Voiceover.Speech.Preview

/-! The preview engine and the end of its audio. Its phonemes start and end at whole microseconds, and
its silence is the nearest whole number of frames. So the silence is over before the phonemes when
they end in the first half of a frame, and a compilation then warns of it. -/

namespace Voiceover

/-- Whole microseconds, or the longest span there is. -/
def Duration.Even (span : Duration) : Prop :=
  span.nanos % 1000 = 0 ∨ span.nanos = durationLimit - 1

namespace Duration

theorem even_zero : zero.Even := .inl rfl

theorem even_clamped {nanos : Nat} (whole : nanos % 1000 = 0 ∨ durationLimit - 1 ≤ nanos) :
    (clamped nanos).Even := by
  unfold Even
  rw [nanos_clamped]
  omega

namespace Even

variable {first second : Duration}

theorem addClamped (even : first.Even) (other : second.Even) : (first.addClamped second).Even := by
  apply even_clamped
  unfold Even at even other
  omega

theorem doubleClamped (even : first.Even) : first.doubleClamped.Even := by
  apply even_clamped
  unfold Even at even
  omega

theorem of_add (even : first.Even) (other : second.Even) {sum : Duration}
    (added : first.add second = .ok sum) : sum.Even := by
  have nanos := add_eq_ok_iff.mp added
  have bound := sum.inRange
  unfold Even at even other ⊢
  omega

end Even

end Duration

namespace Phoneme

structure Even (phoneme : Phoneme) : Prop where
  start : phoneme.start.Even
  length : phoneme.length.Even

end Phoneme

namespace Preview

theorem even_scaled (millis : UInt64) (rate : Int) : (scaled millis rate).Even :=
  Duration.even_clamped (.inl (Nat.mul_mod_left _ _))

theorem even_segment {phoneme pause : Duration} (even : phoneme.Even) (pausing : pause.Even)
    {c : Char} {heard : String × Duration} (sounds : segment phoneme pause c = some heard) :
    heard.2.Even := by
  unfold segment at sounds
  split_ifs at sounds <;> cases sounds
  · exact even
  · exact pausing
  · exact pausing.doubleClamped

/-- Even lengths that follow one another start at even positions. -/
theorem even_sequence {position : Duration} (even : position.Even)
    {lengths : List (String × Duration)} (others : ∀ entry ∈ lengths, entry.2.Even) :
    ∀ phoneme ∈ sequence position lengths, phoneme.Even := by
  induction lengths generalizing position with
  | nil => exact List.forall_mem_nil _
  | cons first rest ih =>
    rw [List.forall_mem_cons] at others
    rw [sequence, List.forall_mem_cons]
    exact ⟨⟨even, others.1⟩, ih (even.addClamped others.1) others.2⟩

theorem even_phonemes (settings : PreviewSettings) (text : String) (rate : Int) :
    ∀ phoneme ∈ phonemes settings text rate, phoneme.Even := by
  apply even_sequence Duration.even_zero
  intro entry member
  obtain ⟨c, -, sounds⟩ := List.mem_filterMap.mp member
  exact even_segment (even_scaled _ _) (even_scaled _ _) sounds

end Preview

theorem even_lastFinish {phonemes : List Phoneme} (even : ∀ phoneme ∈ phonemes, phoneme.Even)
    {spoken : Duration} (last : lastFinish phonemes = .ok spoken) : spoken.Even := by
  unfold lastFinish at last
  cases found : phonemes.getLast? with
  | none =>
    rw [found] at last
    cases last
    exact Duration.even_zero
  | some phoneme =>
    rw [found] at last
    have phonemeEven := even phoneme (List.mem_of_getLast? found)
    exact phonemeEven.start.of_add phonemeEven.length last

/-- The audio is over before the phonemes are, by less than half a frame: the silence is the nearest
whole number of frames, and that is the one below. -/
structure FallsShort (spoken heard : Duration) : Prop where
  past : 0 < spoken.nanos % 62500
  nearer : spoken.nanos % 62500 < 31250
  heard : heard.nanos + spoken.nanos % 62500 = spoken.nanos

theorem fallsShort_iff {spoken heard : Duration} :
    FallsShort spoken heard ↔
      heard.nanos = (spoken.nanos + 31250) / 62500 * 62500 ∧ heard.nanos < spoken.nanos := by
  constructor
  · rintro ⟨past, nearer, heard⟩
    omega
  · rintro ⟨nearest, late⟩
    constructor <;> omega

namespace Preview

/-- What is heard of an answer is as long as the whole number of frames nearest to its phonemes. -/
theorem heard_synthesize {settings : PreviewSettings} {request : SpeechRequest}
    {synthesis : Synthesis} (format : request.format = .speech)
    (answered : synthesize settings request = .ok synthesis) :
    ∃ info spoken heard, Wave.scan synthesis.audio = .ok info ∧
      lastFinish synthesis.phonemes = .ok spoken ∧ info.duration = .ok heard ∧
      heard.nanos = (spoken.nanos + 31250) / 62500 * 62500 := by
  unfold synthesize at answered
  cases last : lastFinish (phonemes settings request.text request.rate) with
  | error fault => simp [last] at answered
  | ok spoken =>
    simp only [last, format] at answered
    cases made : Wave.silence .speech spoken with
    | error reason => cases reason <;> simp [made] at answered
    | ok audio =>
      rw [made] at answered
      cases answered
      have short := Wave.short_of_silence made
      have even := even_lastFinish (even_phonemes _ _ _) last
      have whole : spoken.nanos % 1000 = 0 := by
        rcases even with whole | longest
        · exact whole
        · -- Audio of the longest span has not been made.
          rw [Duration.seconds, longest] at short
          exact absurd short (by decide)
      obtain ⟨info, heard, scanned, measured, nanos⟩ := Wave.scan_silence made
      rw [Wave.frameCount_eq short whole] at nanos
      exact ⟨info, spoken, heard, scanned, last, measured, nanos⟩

theorem mem_overruns_iff {settings : PreviewSettings} {request : SpeechRequest}
    {synthesis : Synthesis} (format : request.format = .speech)
    (answered : synthesize settings request = .ok synthesis) (path : Output) (report : Report) :
    report ∈ synthesis.overruns path ↔
      ∃ spoken heard, lastFinish synthesis.phonemes = .ok spoken ∧ FallsShort spoken heard ∧
        report = .overrun path spoken heard := by
  obtain ⟨info, spoken, heard, scanned, last, measured, nearest⟩ :=
    heard_synthesize format answered
  rw [Synthesis.overruns_eq_warning path scanned last measured]
  constructor
  · intro member
    unfold warning at member
    split_ifs at member with late
    · exact ⟨spoken, heard, last, fallsShort_iff.mpr ⟨nearest, late⟩, List.mem_singleton.mp member⟩
    · cases member
  · rintro ⟨found, other, same, falls, rfl⟩
    obtain rfl : spoken = found := Except.ok.inj (last.symm.trans same)
    obtain ⟨alike, late⟩ := fallsShort_iff.mp falls
    obtain rfl : heard = other := Duration.ext (nearest.trans alike.symm)
    rw [warning, if_pos late]
    exact List.mem_singleton_self _

-- One letter at rate five is over half a microsecond after the frame in which its audio ends.
example : lastFinish (phonemes .standard "h" 5) = .ok (.clamped 46188000) ∧
    FallsShort (.clamped 46188000) (.clamped 46187500) := by
  refine ⟨by decide +kernel, ?_⟩
  constructor <;> decide

end Preview

namespace Rehearsal

theorem getElem?_takes (rehearsal : Rehearsal σ) (earlier utterances : List Utterance) (index : Nat) :
    (rehearsal.takes earlier utterances)[index]? = utterances[index]?.map fun utterance =>
      ⟨earlier.length + index, utterance, rehearsal.answer
        ((earlier ++ utterances.take index).map Utterance.request) utterance.request⟩ := by
  induction utterances generalizing earlier index with
  | nil => rfl
  | cons utterance later ih =>
    cases index with
    | zero => simp [takes]
    | succ index =>
      have place : (earlier ++ [utterance]).length + index = earlier.length + (index + 1) := by
        rw [List.length_append, List.length_singleton]
        omega
      rw [takes, List.getElem?_cons_succ, ih, List.getElem?_cons_succ, List.take_succ_cons, place,
        List.append_assoc, List.singleton_append]

theorem mem_take_takes_iff (rehearsal : Rehearsal σ) (utterances : List Utterance) (count : Nat)
    (take : Take) :
    take ∈ (rehearsal.takes [] utterances).take count ↔
      ∃ index utterance, index < count ∧ utterances[index]? = some utterance ∧
        take = ⟨index, utterance, rehearsal.answer
          ((utterances.take index).map Utterance.request) utterance.request⟩ := by
  rw [List.mem_iff_getElem?]
  refine exists_congr fun index => ?_
  rw [List.getElem?_take, getElem?_takes, List.length_nil, Nat.zero_add, List.nil_append]
  by_cases asked : index < count
  · rw [if_pos asked, Option.map_eq_some_iff]
    simp only [asked, true_and]
    exact exists_congr fun utterance => and_congr_right fun _ => eq_comm
  · simp [asked]

def preview (settings : PreviewSettings)
    (store : σ → (path : String) → (content : ByteArray) → σ × Except String Unit) : Rehearsal σ where
  provider := "preview"
  answer _ request := Preview.synthesize settings request
  store := store

/-- A compilation with the preview engine warns of every speech that it came to and whose phonemes
end in the first half of a frame, and of no other one. -/
theorem preview_warns_iff (settings : PreviewSettings)
    (store : σ → (path : String) → (content : ByteArray) → σ × Except String Unit) (start : σ)
    (source : String) (folder : Folder) (report : Report) :
    report ∈ ((preview settings store).compile start source folder).2.overruns ↔
      ∃ script index utterance synthesis spoken heard, Script.parse source = .ok script ∧
        index < ((preview settings store).compile start source folder).2.calls.length ∧
        script.utterances[index]? = some utterance ∧
        Preview.synthesize settings utterance.request = .ok synthesis ∧
        lastFinish synthesis.phonemes = .ok spoken ∧ FallsShort spoken heard ∧
        report =
          .overrun ⟨folder, Path.audioFile folder.text index utterance.speaker⟩ spoken heard := by
  cases parsed : Script.parse source with
  | error reason =>
    rw [compile_unread _ parsed]
    simp [Rehearsed.overruns, Rehearsed.reports, Rehearsed.start]
  | ok script =>
    rw [overruns_compile _ start parsed folder, List.mem_flatMap]
    generalize ((preview settings store).compile start source folder).2.calls.length = count
    constructor
    · rintro ⟨take, member, found⟩
      obtain ⟨index, utterance, asked, placed, rfl⟩ := (mem_take_takes_iff _ _ _ _).mp member
      cases answered : Preview.synthesize settings utterance.request with
      | error failure => simp [Take.overruns, preview, answered] at found
      | ok synthesis =>
        simp only [Take.overruns, preview, answered] at found
        obtain ⟨spoken, heard, last, falls, rfl⟩ :=
          (Preview.mem_overruns_iff rfl answered _ report).mp found
        exact ⟨script, index, utterance, synthesis, spoken, heard, rfl, asked, placed, answered, last,
          falls, rfl⟩
    · rintro ⟨_, index, utterance, synthesis, spoken, heard, ⟨⟩, asked, placed, answered, last, falls,
        rfl⟩
      refine ⟨_, (mem_take_takes_iff _ _ _ _).mpr ⟨index, utterance, asked, placed, rfl⟩, ?_⟩
      simp only [Take.overruns, preview, answered]
      exact (Preview.mem_overruns_iff rfl answered _ _).mpr ⟨spoken, heard, last, falls, rfl⟩

end Rehearsal

end Voiceover
