import Voiceover.Proofs.Compile.Enactment

/-! The warnings of a compilation that audio is over before its speech. They are told by the answers
of the engine alone, for each speech that it was asked for, and whatever becomes of the files. What
is compared with the audio is the end of the phoneme reported last, which need not be the latest. -/

namespace Voiceover

def Report.isOverrun : Report → Bool
  | .overrun .. => true
  | _ => false

def Rehearsed.overruns (rehearsed : Rehearsed σ) : List Report :=
  rehearsed.reports.filter Report.isOverrun

def warning (path : Output) (spoken heard : Duration) : List Report :=
  if heard.nanos < spoken.nanos then [.overrun path spoken heard] else []

namespace Synthesis

def overruns (path : Output) (synthesis : Synthesis) : List Report :=
  match inspect path synthesis with
  | .ok finding => finding.toList.filter Report.isOverrun
  | .error _ => []

theorem overruns_eq_warning (path : Output) {synthesis : Synthesis} {info : WaveInfo}
    {spoken heard : Duration} (scanned : Wave.scan synthesis.audio = .ok info)
    (last : lastFinish synthesis.phonemes = .ok spoken) (measured : info.duration = .ok heard) :
    synthesis.overruns path = warning path spoken heard := by
  unfold overruns inspect warning
  rw [scanned]
  simp only [last, measured, bind, Except.bind, pure, Except.pure]
  split_ifs <;> rfl

end Synthesis

def Take.overruns (folder : Folder) (take : Take) : List Report :=
  match take.answer with
  | .ok synthesis => synthesis.overruns (take.audio folder)
  | .error _ => []

namespace Rehearsal

variable {rehearsal : Rehearsal σ} {rehearsed : Rehearsed σ} {requests : List SpeechRequest}
  {found : List Report}

structure Adds (program : Playing σ α) (rehearsed : Rehearsed σ) (requests : List SpeechRequest)
    (found : List Report) : Prop where
  calls : (program.run rehearsed).2.calls = rehearsed.calls ++ requests
  overruns : (program.run rehearsed).2.overruns = rehearsed.overruns ++ found

def Quiet (program : Playing σ α) : Prop :=
  ∀ rehearsed, Adds program rehearsed [] []

section Steps

variable (rehearsed)

theorem calls_cons (step : Step) (state : σ) :
    (Rehearsed.mk (step :: rehearsed.steps) state).calls =
      rehearsed.calls ++ (step.act?.bind Act.request?).toList := by
  rw [Rehearsed.calls_eq, Rehearsed.acts_cons, List.filterMap_append, ← Rehearsed.calls_eq]
  cases step <;> rfl

theorem overruns_report (report : Report) (state : σ) :
    (Rehearsed.mk (.report report :: rehearsed.steps) state).overruns =
      rehearsed.overruns ++ [report].filter Report.isOverrun := by
  simp [Rehearsed.overruns, Rehearsed.reports]

theorem overruns_call (request : SpeechRequest) (state : σ) :
    (Rehearsed.mk (.call request :: rehearsed.steps) state).overruns = rehearsed.overruns := by
  simp [Rehearsed.overruns, Rehearsed.reports]

theorem overruns_write (path : String) (content : ByteArray) (done : Bool) (state : σ) :
    (Rehearsed.mk (.write path content done :: rehearsed.steps) state).overruns =
      rehearsed.overruns := by
  simp [Rehearsed.overruns, Rehearsed.reports]

end Steps

section Rules

variable {program : Playing σ α} {next : α → Playing σ β} {after : Rehearsed σ}

theorem Adds.bind {value : α} {more : List SpeechRequest} {others : List Report}
    (first : Adds program rehearsed requests found)
    (ran : program.run rehearsed = (.ok value, after)) (rest : Adds (next value) after more others) :
    Adds (program >>= next) rehearsed (requests ++ more) (found ++ others) := by
  obtain ⟨calls, overruns⟩ := first
  have onward : (program >>= next).run rehearsed = (next value).run after := by
    rw [run_bind_state, ran]
  rw [ran] at calls overruns
  constructor
  · rw [onward, rest.calls, calls, List.append_assoc]
  · rw [onward, rest.overruns, overruns, List.append_assoc]

theorem Adds.stopped {error : CompileError} (first : Adds program rehearsed requests found)
    (ran : program.run rehearsed = (.error error, after)) :
    Adds (program >>= next) rehearsed requests found := by
  obtain ⟨calls, overruns⟩ := first
  have only : (program >>= next).run rehearsed = (.error error, after) := by rw [run_bind_state, ran]
  rw [ran] at calls overruns
  constructor
  · rw [only, calls]
  · rw [only, overruns]

/-- Behind a program that may stop, quiet ones change nothing about what it has added. -/
theorem Adds.followed (first : Adds program rehearsed requests found)
    (rest : ∀ value, Quiet (next value)) : Adds (program >>= next) rehearsed requests found := by
  cases ran : program.run rehearsed with
  | mk outcome after =>
    cases outcome with
    | error error => exact first.stopped ran
    | ok value => simpa using first.bind ran (rest value after)

theorem Quiet.bind (first : Quiet program) (rest : ∀ value, Quiet (next value)) :
    Quiet (program >>= next) :=
  fun rehearsed => (first rehearsed).followed rest

theorem Quiet.pure (value : α) : Quiet (pure value : Playing σ α) :=
  fun _ => ⟨(List.append_nil _).symm, (List.append_nil _).symm⟩

theorem Quiet.throw (error : CompileError) : Quiet (throw error : Playing σ α) :=
  fun _ => ⟨(List.append_nil _).symm, (List.append_nil _).symm⟩

end Rules

section Speech

variable (rehearsal : Rehearsal σ) (rehearsed : Rehearsed σ)

theorem adds_report (report : Report) :
    Adds (liftM (rehearsal.studio.report report)) rehearsed []
      ([report].filter Report.isOverrun) where
  calls := calls_cons rehearsed (.report report) rehearsed.state
  overruns := overruns_report rehearsed report rehearsed.state

theorem adds_speak (index : Nat) (utterance : Utterance) :
    Adds (rehearsal.studio.speak index utterance) rehearsed [utterance.request] [] := by
  constructor
  · rw [run_speak, calls_cons]
    rfl
  · rw [run_speak, overruns_call, List.append_nil]

theorem adds_heed (audio : Output) (synthesis : Synthesis) :
    Adds (rehearsal.studio.heed audio synthesis) rehearsed [] (synthesis.overruns audio) := by
  unfold Studio.heed Synthesis.overruns
  cases inspect audio synthesis with
  | error fault => exact Quiet.throw _ _
  | ok finding =>
    cases finding with
    | none => exact Quiet.pure () _
    | some report => exact adds_report rehearsal rehearsed report

theorem adds_consult (audio : Output) (utterance : Utterance) (index : Nat) :
    Adds (rehearsal.studio.consult audio utterance index) rehearsed [utterance.request]
      (match rehearsal.answer rehearsed.calls utterance.request with
        | .ok synthesis => synthesis.overruns audio
        | .error _ => []) := by
  have spoken := adds_speak rehearsal rehearsed index utterance
  have ran : (rehearsal.studio.speak index utterance).run rehearsed = _ :=
    run_speak index utterance rehearsed
  unfold Studio.consult
  cases answered : rehearsal.answer rehearsed.calls utterance.request with
  | error failure =>
    rw [answered] at ran
    cases failure <;> exact spoken.stopped ran
  | ok synthesis =>
    rw [answered] at ran
    exact spoken.bind ran ((adds_heed _ _ audio synthesis).followed fun _ => .pure synthesis)

end Speech

/-- In front of a program, a report of another kind changes nothing about what it adds. -/
theorem Adds.behind_report {report : Report} (aside : report.isOverrun = false)
    {next : Unit → Playing σ α}
    (rest : ∀ after : Rehearsed σ, after.calls = rehearsed.calls →
      Adds (next ()) after requests found) :
    Adds (liftM (rehearsal.studio.report report) >>= next) rehearsed requests found := by
  have calls := (adds_report rehearsal rehearsed report).calls
  rw [List.append_nil] at calls
  have onward := (adds_report rehearsal rehearsed report).bind rfl (rest _ calls)
  simpa [aside] using onward

theorem Quiet.report {report : Report} (aside : report.isOverrun = false) :
    Quiet (liftM (rehearsal.studio.report report) : Playing σ Unit) := by
  intro rehearsed
  rw [← bind_pure (liftM (rehearsal.studio.report report) : Playing σ Unit)]
  exact .behind_report aside fun _ _ => Quiet.pure () _

theorem Quiet.save (path : Output) (content : ByteArray) :
    Quiet (rehearsal.studio.save path content) := by
  unfold Studio.save
  apply Quiet.bind
  · intro rehearsed
    constructor
    · rw [run_write, calls_cons]
      rfl
    · rw [run_write, overruns_write, List.append_nil]
  · intro written
    cases written with
    | ok done => exact .pure ()
    | error reason => exact .throw _

theorem Adds.behind_announce (audio : Output) (utterance : Utterance) (index : Nat)
    {next : Unit → Playing σ α}
    (rest : ∀ after : Rehearsed σ, after.calls = rehearsed.calls →
      Adds (next ()) after requests found) :
    Adds (rehearsal.studio.announce audio utterance index >>= next) rehearsed requests found := by
  unfold Studio.announce
  by_cases silent : utterance.text = ""
  · rw [if_pos silent, bind_assoc]
    apply Adds.behind_report rfl
    intro noted same
    apply Adds.behind_report rfl
    intro after calls
    exact rest after (calls.trans same)
  · rw [if_neg silent]
    exact .behind_report rfl rest

/-- One speech is one call, and what is found is about the answer to it. -/
theorem adds_render (folder : Folder) (take : Take)
    (answer : take.answer = rehearsal.answer rehearsed.calls take.utterance.request) :
    Adds (rehearsal.studio.render folder take.utterance take.index) rehearsed
      [take.utterance.request] (take.overruns folder) := by
  rw [Studio.render_eq]
  apply Adds.behind_announce
  intro after calls
  unfold Take.overruns
  rw [answer, ← calls]
  apply (adds_consult _ _ _ _ _).followed
  intro synthesis
  apply (Quiet.save _ _).bind
  intro _
  apply (Quiet.report rfl).bind
  intro _
  apply (Quiet.save _ _).bind
  intro _
  exact .pure _

/-- As many speeches as the engine is asked for are looked at, in order, and nothing else is. -/
theorem exists_adds_renderAll (rehearsal : Rehearsal σ) (folder : Folder)
    (earlier utterances : List Utterance) (asked : rehearsed.calls = earlier.map Utterance.request) :
    ∃ count ≤ utterances.length,
      Adds ((utterances.zipIdx earlier.length).mapM fun (utterance, index) =>
        rehearsal.studio.render folder utterance index) rehearsed
      ((utterances.take count).map Utterance.request)
      (((rehearsal.takes earlier utterances).take count).flatMap (Take.overruns folder)) := by
  induction utterances generalizing rehearsed earlier with
  | nil =>
    rw [List.zipIdx_nil, List.mapM_nil]
    exact ⟨0, Nat.le_refl 0, Quiet.pure _ _⟩
  | cons utterance later inner =>
    rw [takes, ← asked, List.zipIdx_cons, List.mapM_cons]
    generalize taken : Take.mk earlier.length utterance
      (rehearsal.answer rehearsed.calls utterance.request) = take
    have first : Adds (rehearsal.studio.render folder utterance earlier.length) rehearsed
        [utterance.request] (take.overruns folder) := by
      subst taken
      exact adds_render folder ⟨earlier.length, utterance, _⟩ rfl
    cases ran : (rehearsal.studio.render folder utterance earlier.length).run rehearsed with
    | mk outcome after =>
      cases outcome with
      | error error =>
        -- The engine has been asked for this speech, so what its answer shows is still counted.
        exact ⟨1, by simp, by simpa using first.stopped ran⟩
      | ok rendering =>
        have calls := first.calls
        rw [ran] at calls
        have onward : after.calls = (earlier ++ [utterance]).map Utterance.request := by
          rw [calls, asked, List.map_append, List.map_singleton]
        have place : earlier.length + 1 = (earlier ++ [utterance]).length := by simp
        obtain ⟨count, within, rest⟩ := inner (earlier ++ [utterance]) onward
        rw [place]
        refine ⟨count + 1, Nat.succ_le_succ within, first.bind ran ?_⟩
        exact rest.followed fun renderings => .pure _

/-- What a whole run warns of is found in the answers to the speeches that the engine was asked
for. -/
theorem overruns_compile (rehearsal : Rehearsal σ) (start : σ) {source : String} {script : Script}
    (parsed : Script.parse source = .ok script) (folder : Folder) :
    (rehearsal.compile start source folder).2.overruns =
      ((rehearsal.takes [] script.utterances).take
        (rehearsal.compile start source folder).2.calls.length).flatMap (Take.overruns folder) := by
  let lines := script.utterances.length
  let parsing : Report := .parsed script.voices.size lines
  let compiling : Report := .compiling lines script.voices.size rehearsal.provider
  let opened : Rehearsed σ := ⟨[.report compiling, .report parsing], start⟩
  have silent : opened.calls = [].map Utterance.request := rfl
  obtain ⟨count, within, rendered⟩ :=
    exists_adds_renderAll rehearsal folder [] script.utterances silent
  have compiled : Adds (rehearsal.studio.compile source folder) (.start start)
      ((script.utterances.take count).map Utterance.request)
      (((rehearsal.takes [] script.utterances).take count).flatMap (Take.overruns folder)) := by
    unfold Studio.compile
    rw [parsed]
    apply (adds_report rehearsal (.start start) parsing).bind rfl
    apply (adds_report rehearsal _ compiling).bind rfl
    apply rendered.followed
    intro renderings
    exact (Quiet.report rfl).bind fun _ => .pure _
  have calls : (rehearsal.compile start source folder).2.calls =
      (script.utterances.take count).map Utterance.request := compiled.calls
  rw [calls, List.length_map, List.length_take, Nat.min_eq_left within]
  exact compiled.overruns

end Rehearsal

structure LatestFinish (phonemes : List Phoneme) (latest : Duration) : Prop where
  bounds : ∀ phoneme ∈ phonemes, ∃ finish, phoneme.finish = .ok finish ∧ finish.nanos ≤ latest.nanos
  attained : phonemes = [] ∧ latest = .zero ∨ ∃ phoneme ∈ phonemes, phoneme.finish = .ok latest

namespace LatestFinish

theorem exists_of_countable {phonemes : List Phoneme}
    (countable : ∀ phoneme ∈ phonemes, ∃ finish, phoneme.finish = .ok finish) :
    ∃ latest, LatestFinish phonemes latest := by
  induction phonemes with
  | nil => exact ⟨.zero, by simp, .inl ⟨rfl, rfl⟩⟩
  | cons first later ih =>
    rw [List.forall_mem_cons] at countable
    obtain ⟨⟨finish, ends⟩, others⟩ := countable
    obtain ⟨latest, bounds, attained⟩ := ih others
    obtain ⟨rfl, -⟩ | ⟨phoneme, member, attains⟩ := attained
    · refine ⟨finish, ?_, .inr ⟨first, List.mem_cons_self, ends⟩⟩
      exact List.forall_mem_singleton.mpr ⟨finish, ends, Nat.le_refl _⟩
    · rcases Nat.le_total finish.nanos latest.nanos with earlier | earlier
      · refine ⟨latest, List.forall_mem_cons.mpr ⟨⟨finish, ends, earlier⟩, bounds⟩, ?_⟩
        exact .inr ⟨phoneme, List.mem_cons_of_mem first member, attains⟩
      · refine ⟨finish, List.forall_mem_cons.mpr ⟨⟨finish, ends, Nat.le_refl _⟩, ?_⟩, ?_⟩
        · intro phoneme member
          obtain ⟨found, same, bound⟩ := bounds phoneme member
          exact ⟨found, same, Nat.le_trans bound earlier⟩
        · exact .inr ⟨first, List.mem_cons_self, ends⟩

theorem nanos_le {phonemes : List Phoneme} {latest other : Duration}
    (finishes : LatestFinish phonemes latest) (others : LatestFinish phonemes other) :
    latest.nanos ≤ other.nanos := by
  obtain ⟨-, rfl⟩ | ⟨phoneme, member, ends⟩ := finishes.attained
  · exact Nat.zero_le _
  · obtain ⟨finish, same, bound⟩ := others.bounds phoneme member
    rw [ends, Except.ok.injEq] at same
    subst same
    exact bound

theorem unique {phonemes : List Phoneme} {latest other : Duration}
    (finishes : LatestFinish phonemes latest) (others : LatestFinish phonemes other) :
    latest = other := by
  ext
  exact Nat.le_antisymm (finishes.nanos_le others) (others.nanos_le finishes)

/-- The phoneme reported last is over no later than the latest one. -/
theorem exists_lastFinish {phonemes : List Phoneme} {latest : Duration}
    (finishes : LatestFinish phonemes latest) :
    ∃ spoken, lastFinish phonemes = .ok spoken ∧ spoken.nanos ≤ latest.nanos := by
  unfold lastFinish
  cases last : phonemes.getLast? with
  | none => exact ⟨.zero, rfl, Nat.zero_le _⟩
  | some phoneme => exact finishes.bounds phoneme (List.mem_of_getLast? last)

theorem lt_iff {phonemes : List Phoneme} {latest : Duration} (finishes : LatestFinish phonemes latest)
    (heard : Duration) :
    heard.nanos < latest.nanos ↔
      ∃ phoneme ∈ phonemes, ∃ finish, phoneme.finish = .ok finish ∧ heard.nanos < finish.nanos := by
  constructor
  · intro late
    obtain ⟨-, rfl⟩ | ⟨phoneme, member, ends⟩ := finishes.attained
    · exact absurd late (Nat.not_lt_zero _)
    · exact ⟨phoneme, member, latest, ends, late⟩
  · rintro ⟨phoneme, member, finish, ends, late⟩
    obtain ⟨found, same, bound⟩ := finishes.bounds phoneme member
    rw [ends, Except.ok.injEq] at same
    subst same
    exact Nat.lt_of_lt_of_le late bound

end LatestFinish

/-- What the warnings about one file should be: there is one when some phoneme is over after the
audio, and it tells the end of the whole track. -/
structure RightlyWarned (path : Output) (phonemes : List Phoneme) (heard : Duration)
    (warnings : List Report) : Prop where
  warned : warnings ≠ [] ↔
    ∃ phoneme ∈ phonemes, ∃ finish, phoneme.finish = .ok finish ∧ heard.nanos < finish.nanos
  told : ∀ report ∈ warnings,
    ∃ latest, LatestFinish phonemes latest ∧ report = .overrun path latest heard

theorem rightlyWarned_warning_iff (path : Output) {phonemes : List Phoneme}
    {spoken latest heard : Duration} (finishes : LatestFinish phonemes latest)
    (earlier : spoken.nanos ≤ latest.nanos) :
    RightlyWarned path phonemes heard (warning path spoken heard) ↔
      latest.nanos ≤ heard.nanos ∨ spoken = latest := by
  constructor
  · rintro ⟨warned, told⟩
    rw [← finishes.lt_iff] at warned
    by_cases late : heard.nanos < latest.nanos
    · right
      obtain ⟨report, member⟩ := List.exists_mem_of_ne_nil _ (warned.mpr late)
      obtain ⟨found, alike, rfl⟩ := told report member
      unfold warning at member
      split_ifs at member
      · rw [List.mem_singleton, Report.overrun.injEq] at member
        rw [← member.2.1, alike.unique finishes]
      · cases member
    · exact .inl (Nat.le_of_not_lt late)
  · intro right
    have agree : warning path spoken heard = warning path latest heard := by
      rcases right with inTime | rfl
      · rw [warning, warning, if_neg (by omega), if_neg (by omega)]
      · rfl
    rw [agree]
    constructor
    · rw [← finishes.lt_iff, warning]
      split_ifs with late <;> simp [late]
    · intro report member
      unfold warning at member
      split_ifs at member
      · exact ⟨latest, finishes, List.mem_singleton.mp member⟩
      · cases member

namespace Rehearsal

/-- The warnings of a run are found in the answers to the speeches that the engine was asked for, and
where times can be counted they tell the end of the phoneme reported last. That is right exactly when
no phoneme is late or the one reported last is the latest. Otherwise a warning is missing or tells too
early a time, and none is ever unfounded. -/
theorem compile_overruns (rehearsal : Rehearsal σ) (start : σ) {source : String} {script : Script}
    (parsed : Script.parse source = .ok script) (folder : Folder) :
    (rehearsal.compile start source folder).2.overruns =
        ((rehearsal.takes [] script.utterances).take
          (rehearsal.compile start source folder).2.calls.length).flatMap (Take.overruns folder) ∧
      ∀ take ∈ rehearsal.takes [] script.utterances, ∀ synthesis info heard,
        take.answer = .ok synthesis → Wave.scan synthesis.audio = .ok info →
        info.duration = .ok heard →
        (∀ phoneme ∈ synthesis.phonemes, ∃ finish, phoneme.finish = .ok finish) →
        ∃ spoken latest, lastFinish synthesis.phonemes = .ok spoken ∧
          LatestFinish synthesis.phonemes latest ∧ spoken.nanos ≤ latest.nanos ∧
          take.overruns folder = warning (take.audio folder) spoken heard ∧
          (RightlyWarned (take.audio folder) synthesis.phonemes heard (take.overruns folder) ↔
            latest.nanos ≤ heard.nanos ∨ spoken = latest) := by
  refine ⟨overruns_compile rehearsal start parsed folder, ?_⟩
  intro take _ synthesis info heard answered scanned measured countable
  obtain ⟨latest, finishes⟩ := LatestFinish.exists_of_countable countable
  obtain ⟨spoken, last, earlier⟩ := finishes.exists_lastFinish
  have found : take.overruns folder = warning (take.audio folder) spoken heard := by
    rw [Take.overruns, answered]
    exact Synthesis.overruns_eq_warning _ scanned last measured
  refine ⟨spoken, latest, last, finishes, earlier, found, ?_⟩
  rw [found]
  exact rightlyWarned_warning_iff _ finishes earlier

/-- A second of audio, eight frames of one byte. -/
def silentSecond : ByteArray :=
  ⟨#[82, 73, 70, 70, 44, 0, 0, 0, 87, 65, 86, 69, 102, 109, 116, 32, 16, 0, 0, 0, 1, 0, 1, 0, 8, 0, 0,
    0, 8, 0, 0, 0, 1, 0, 8, 0, 100, 97, 116, 97, 8, 0, 0, 0, 0, 0, 0, 0, 0, 0, 0, 0]⟩

/-- The first phoneme is over a second after the audio, and the one reported behind it is over early,
so nothing is said. -/
theorem compile_overruns_unsorted :
    let phonemes : List Phoneme :=
      [⟨"a", .clamped 500000000, .clamped 1500000000⟩, ⟨"m", .zero, .clamped 250000000⟩]
    let rehearsal : Rehearsal Unit :=
      ⟨"mock", fun _ _ => .ok ⟨silentSecond, phonemes⟩, fun state _ _ => (state, .ok ())⟩
    (rehearsal.compile () "amy: hi" "out").2.overruns = [] ∧
      LatestFinish phonemes (.clamped 2000000000) ∧
      ¬RightlyWarned ⟨"out", "out/speak_000_amy.wav"⟩ phonemes (.clamped 1000000000) [] := by
  intro phonemes rehearsal
  have parsed : Script.parse "amy: hi" = .ok ⟨⟨[]⟩, [⟨"amy", "hi", .builtIn⟩]⟩ := by decide +kernel
  have scanned : Wave.scan silentSecond = .ok ⟨⟨8, 8, 1⟩, 44, 8⟩ := by decide +kernel
  have named : Path.audioFile "out" 0 "amy" = "out/speak_000_amy.wav" := by decide +kernel
  have first : Phoneme.finish ⟨"a", .clamped 500000000, .clamped 1500000000⟩ =
      .ok (.clamped 2000000000) := by decide +kernel
  have last : Phoneme.finish ⟨"m", .zero, .clamped 250000000⟩ = .ok (.clamped 250000000) := by
    decide +kernel
  have track : LatestFinish phonemes (.clamped 2000000000) := by
    constructor
    · exact List.forall_mem_cons.mpr ⟨⟨_, first, Nat.le_refl _⟩,
        List.forall_mem_singleton.mpr ⟨_, last, by decide⟩⟩
    · exact .inr ⟨_, List.mem_cons_self, first⟩
  have countable : ∀ phoneme ∈ phonemes, ∃ finish, phoneme.finish = .ok finish := by
    intro phoneme member
    obtain ⟨finish, ends, -⟩ := track.bounds phoneme member
    exact ⟨finish, ends⟩
  obtain ⟨overruns, each⟩ := compile_overruns rehearsal () parsed "out"
  obtain ⟨spoken, latest, reported, finishes, -, found, right⟩ :=
    each ⟨0, ⟨"amy", "hi", .builtIn⟩, .ok ⟨silentSecond, phonemes⟩⟩ (List.mem_singleton_self _)
      ⟨silentSecond, phonemes⟩ ⟨⟨8, 8, 1⟩, 44, 8⟩ (.clamped 1000000000) rfl scanned
      (by decide +kernel) countable
  obtain rfl : Duration.clamped 2000000000 = latest := track.unique finishes
  obtain rfl : Duration.clamped 250000000 = spoken := Except.ok.inj (last.symm.trans reported)
  have silent :
      Take.overruns "out" ⟨0, ⟨"amy", "hi", .builtIn⟩, .ok ⟨silentSecond, phonemes⟩⟩ = [] := found
  rw [silent, Take.audio, Folder.text_ofText, named] at right
  refine ⟨?_, track, ?_⟩
  · rw [overruns, List.flatMap_eq_nil_iff]
    intro take member
    rw [List.mem_singleton.mp (List.mem_of_mem_take member)]
    exact silent
  · rw [right]
    decide

end Rehearsal

end Voiceover
