import Voiceover.Proofs.Compile.Enactment

/-! What can be seen of a compilation from outside: its calls, its writes and its end. Two runs of
which one fails less than the other are the same up to the first failure. -/

namespace Voiceover

namespace Rehearsal

variable {rehearsal mended : Rehearsal σ} {start : σ}

/-- Wherever a step of `rehearsal` does not fail, `mended` does the same. Wherever one fails,
`mended` may do anything. -/
structure MendedBy (rehearsal mended : Rehearsal σ) : Prop where
  answer : ∀ earlier request synthesis, rehearsal.answer earlier request = .ok synthesis →
    synthesis.overflow? = none → mended.answer earlier request = .ok synthesis
  store : ∀ state path content, (rehearsal.store state path content).2 = .ok () →
    mended.store state path content = rehearsal.store state path content

namespace MendedBy

theorem succeeds (mends : rehearsal.MendedBy mended) {cues : List Cue}
    (sound : rehearsal.Succeeds start cues) :
    mended.Succeeds start cues ∧ mended.stored start cues = rehearsal.stored start cues := by
  induction sound with
  | nil => exact ⟨.nil, rfl⟩
  | @snoc before cue _ last inner =>
    obtain ⟨succeeds, same⟩ := inner
    cases asked : cue.act with
    | call request =>
      obtain ⟨synthesis, answered, calm⟩ := (failure?_call_eq_none_iff asked).mp last
      refine ⟨.snoc succeeds ?_, ?_⟩
      · rw [failure?_call_eq_none_iff asked]
        exact ⟨synthesis, mends.answer _ _ _ answered calm, calm⟩
      · rw [stored_append, stored_append, same, stored_call _ asked, stored_call _ asked]
    | write path content =>
      have written := (failure?_write_eq_none_iff asked).mp last
      have alike := mends.store _ _ _ written
      refine ⟨.snoc succeeds ?_, ?_⟩
      · rw [failure?_write_eq_none_iff asked, same, alike]
        exact written
      · rw [stored_append, stored_append, same, stored_write _ asked, stored_write _ asked, alike]

/-- The agenda is the same up to the first cue that fails. -/
theorem agenda_prefix (mends : rehearsal.MendedBy mended) {folder : Folder}
    {earlier utterances : List Utterance} {before done rest : List Cue}
    (asked : callsOf before = earlier.map Utterance.request)
    (planned : rehearsal.agenda folder earlier utterances = done ++ rest)
    (sound : rehearsal.Succeeds start (before ++ done)) :
    done ++ rest.take 1 <+: mended.agenda folder earlier utterances := by
  induction utterances generalizing before earlier done with
  | nil =>
    obtain ⟨rfl, rfl⟩ := List.append_eq_nil_iff.mp planned.symm
    exact List.nil_prefix
  | cons utterance later inner =>
    rw [agenda_cons] at planned ⊢
    cases done with
    | nil =>
      rw [List.nil_append] at planned
      rw [← planned]
      exact ⟨_, rfl⟩
    | cons cue done =>
      -- The call succeeds, so both take the same answer from it.
      have asking : cue.act = .call utterance.request := by
        rw [List.cons_append] at planned
        exact congrArg Cue.act (List.cons_eq_cons.mp planned).1.symm
      obtain ⟨synthesis, answered, calm⟩ :=
        (failure?_call_eq_none_iff asking).mp sound.failure?_eq_none
      rw [asked] at answered
      rw [answered] at planned
      rw [mends.answer _ _ _ answered calm]
      generalize took : Take.mk earlier.length utterance (.ok synthesis) = take at planned ⊢
      have called : callsOf (before ++ take.cues folder) =
          (earlier ++ [utterance]).map Utterance.request := by
        rw [callsOf_append, asked, Take.callsOf_cues, ← took, List.map_append]
        rfl
      rcases List.append_eq_append_iff.mp planned with
        ⟨further, beyond, ahead⟩ | ⟨others, within, ahead⟩
      · rw [beyond, List.append_assoc, List.prefix_append_right_inj]
        apply inner called ahead
        rw [List.append_assoc, ← beyond]
        exact sound
      · cases others with
        | nil =>
          rw [List.append_nil] at within
          rw [← within, List.prefix_append_right_inj]
          have upTo : rehearsal.Succeeds start (before ++ take.cues folder ++ []) := by
            rw [List.append_nil, within]
            exact sound
          have onward : rehearsal.agenda folder (earlier ++ [utterance]) later = [] ++ rest :=
            ahead.symm
          exact inner called onward upTo
        | cons other others =>
          rw [ahead, within]
          simp [List.prefix_append_right_inj]

end MendedBy

theorem compile_prefix (mends : rehearsal.MendedBy mended) (start : σ) (source : String) (folder : Folder) :
    (rehearsal.compile start source folder).2.acts <+:
        (mended.compile start source folder).2.acts ∧
      (rehearsal.compile start source folder).2.writes <+:
        (mended.compile start source folder).2.writes := by
  cases parsed : Script.parse source with
  | error reason =>
    rw [compile_unread rehearsal parsed, compile_unread mended parsed]
    simp
  | ok script =>
    obtain ⟨done, rest, planned, reached, ends⟩ := compile_stands rehearsal start parsed folder
    obtain ⟨further, left, mendedPlan, mendedReached, mendedEnds⟩ :=
      compile_stands mended start parsed folder
    have planned : done ++ rest.take 1 <+: further ++ left := by
      rw [← mendedPlan]
      have asked : callsOf [] = List.map Utterance.request [] := rfl
      exact mends.agenda_prefix asked planned reached.succeeds
    rw [List.nil_append] at reached mendedReached mendedEnds
    have within : done <+: further := by
      apply (mends.succeeds reached.succeeds).1.prefix_of_failure _ mendedEnds.stops
      exact (List.prefix_append _ _).trans planned
    have goneOn : done ++ rest.take 1 <+: further ++ left.take 1 := by
      cases left with
      | nil => exact planned
      | cons cue left =>
        apply List.prefix_of_prefix_length_le planned ⟨left, by simp⟩
        have shorter := within.length_le
        simp
        omega
    constructor
    · rw [reached.acts, mendedReached.acts]
      exact goneOn.map _
    · rw [reached.writes, mendedReached.writes]
      exact within.filterMap _

/-- How a compilation looks from outside. A script that cannot be read leads to nothing else. For
every other script the agenda is done in order up to the first cue that fails, and each cue once. A
cue fails when the engine declines, when its file cannot be written, or when the answer of the engine
overflows as it is looked at. When none fails, every speech is rendered. A run that fails less often
does the same and then more. -/
theorem compile_observed (rehearsal : Rehearsal σ) (start : σ) (source : String) (folder : Folder) :
    (∀ reason, Script.parse source = .error reason →
      rehearsal.compile start source folder = (.error (.script reason), .start start)) ∧
    (∀ script, Script.parse source = .ok script →
      ∃ done rest, rehearsal.agenda folder [] script.utterances = done ++ rest ∧
        rehearsal.Reached start done rest (rehearsal.compile start source folder).2 ∧
        rehearsal.Ends start done rest (rehearsal.compile start source folder).1
          fun compilation => compilation.voices = script.voices ∧
            (rehearsal.takes [] script.utterances).map (Take.rendering? folder) =
              compilation.renderings.map some) ∧
    ∀ mended, rehearsal.MendedBy mended →
      (rehearsal.compile start source folder).2.acts <+:
          (mended.compile start source folder).2.acts ∧
        (rehearsal.compile start source folder).2.writes <+:
          (mended.compile start source folder).2.writes := by
  refine ⟨?_, ?_, ?_⟩
  · intro reason unread
    exact compile_unread rehearsal unread
  · intro script parsed
    exact compile_stands rehearsal start parsed folder
  · intro mended mends
    exact compile_prefix mends start source folder

/-- A disk that is full after one file, beside one that is not. -/
theorem compile_observed_fullDisk :
    let answer : List SpeechRequest → SpeechRequest → Except EngineFailure Synthesis :=
      fun _ _ => .ok ⟨.empty, []⟩
    let full : Rehearsal Nat := ⟨"mock", answer, fun files _ _ =>
      if files = 1 then (files, .error "disk full") else (files + 1, .ok ())⟩
    let roomy : Rehearsal Nat := ⟨"mock", answer, fun files _ _ => (files + 1, .ok ())⟩
    full.MendedBy roomy ∧
      (full.compile 0 "amy: hi" "out").2.writes <+: (roomy.compile 0 "amy: hi" "out").2.writes := by
  intro answer full roomy
  have mends : full.MendedBy roomy := by
    refine ⟨fun _ _ _ answered _ => answered, ?_⟩
    intro files path content written
    by_cases last : files = 1
    · simp [full, last] at written
    · simp [full, roomy, last]
  exact ⟨mends, ((compile_observed full 0 "amy: hi" "out").2.2 roomy mends).2⟩

end Rehearsal

end Voiceover
