import Voiceover.Proofs.Compile.Agenda

/-! A compilation enacts its agenda: it does the cues in order and stops at the first that fails.
What a piece of a compilation enacts is told after any cues that were done before it, so pieces can
be put one behind the other, and the loop over the speeches is one of the pieces. -/

namespace Voiceover

namespace Studio

variable {m : Type → Type} [Monad m] (studio : Studio m)

def heed (audio : Output) (synthesis : Synthesis) : ExceptT CompileError m Unit :=
  match inspect audio synthesis with
  | .error fault => throw (.fault fault)
  | .ok none => pure ()
  | .ok (some finding) => studio.report finding

theorem heed_bind [LawfulMonad m] (audio : Output) (synthesis : Synthesis)
    (next : Unit → ExceptT CompileError m α) :
    studio.heed audio synthesis >>= next =
      match inspect audio synthesis with
      | .error fault => throw (.fault fault) >>= next
      | .ok none => next ()
      | .ok (some finding) => liftM (studio.report finding) >>= next := by
  unfold heed
  cases inspect audio synthesis with
  | error fault => rfl
  | ok finding => cases finding <;> simp

def consult (audio : Output) (utterance : Utterance) (index : Nat) :
    ExceptT CompileError m Synthesis := do
  let synthesis ← studio.speak index utterance
  studio.heed audio synthesis
  return synthesis

def announce (audio : Output) (utterance : Utterance) (index : Nat) :
    ExceptT CompileError m Unit := do
  if utterance.text = "" then studio.report (.noText index utterance.speaker)
  studio.report (.synthesizing audio utterance.request.voiceName utterance.request.rate)

theorem render_eq [LawfulMonad m] (folder : Folder) (utterance : Utterance) (index : Nat) :
    studio.render folder utterance index =
      (let audio : Output := ⟨folder, Path.audioFile folder.text index utterance.speaker⟩
      let sidecar : Output := ⟨folder, Path.sidecar audio.text⟩
      do
        studio.announce audio utterance index
        let synthesis ← studio.consult audio utterance index
        studio.save audio synthesis.audio
        studio.report (.framed synthesis.phonemes.length (Timeline.build synthesis.phonemes).size)
        studio.save sidecar (Timeline.build synthesis.phonemes).text.toUTF8
        return ⟨utterance, audio, sidecar, synthesis.phonemes⟩) := by
  unfold render consult announce
  rw [ofVoice_eq_request]
  by_cases silent : utterance.text = ""
  · simp only [silent, if_true, bind_assoc, pure_bind]
    refine bind_congr fun _ => bind_congr fun _ => bind_congr fun synthesis => ?_
    symm
    exact studio.heed_bind _ synthesis _
  · simp only [silent, if_false, bind_assoc, pure_bind]
    refine bind_congr fun _ => bind_congr fun synthesis => ?_
    symm
    exact studio.heed_bind _ synthesis _

end Studio

namespace Rehearsal

variable {rehearsal : Rehearsal σ} {start : σ}

abbrev Playing (σ : Type) := ExceptT CompileError (StateM (Rehearsed σ))

/-- How a run stands that went on after the cues `before` and was to do the cues `cues`: it has
done as many as succeed, and comes to a value with `result` when they all do. -/
def Stands (rehearsal : Rehearsal σ) (start : σ) (before cues : List Cue) (result : α → Prop)
    (run : Except CompileError α × Rehearsed σ) : Prop :=
  ∃ done rest, cues = done ++ rest ∧
    rehearsal.Reached start (before ++ done) rest run.2 ∧
    rehearsal.Ends start (before ++ done) rest run.1 result

def Enacts (rehearsal : Rehearsal σ) (start : σ) (before cues : List Cue)
    (program : Playing σ α) (result : α → Prop) : Prop :=
  ∀ rehearsed, rehearsal.Reached start before [] rehearsed →
    rehearsal.Stands start before cues result (program.run rehearsed)

namespace Stands

theorem of_reached {before : List Cue} {value : α} {after : Rehearsed σ} {result : α → Prop}
    (reached : rehearsal.Reached start before [] after) (holds : result value) :
    rehearsal.Stands start before [] result (.ok value, after) := by
  refine ⟨[], [], rfl, ?_, value, rfl, holds⟩
  rw [List.append_nil]
  exact reached

theorem cons {before cues : List Cue} {cue : Cue} {result : α → Prop}
    {run : Except CompileError α × Rehearsed σ}
    (stands : rehearsal.Stands start (before ++ [cue]) cues result run) :
    rehearsal.Stands start before (cue :: cues) result run := by
  obtain ⟨done, rest, rfl, reached, ends⟩ := stands
  rw [List.append_assoc, List.singleton_append] at reached ends
  exact ⟨cue :: done, rest, rfl, reached, ends⟩

theorem of_failure {before : List Cue} {cue : Cue} {error : CompileError}
    {rehearsed after : Rehearsed σ} {result : α → Prop}
    (reached : rehearsal.Reached start before [] rehearsed)
    (failed : rehearsal.failure? start before cue = some error)
    (acts : after.acts = rehearsed.acts ++ [cue.act])
    (writes : after.writes = rehearsed.writes)
    (state : after.state = rehearsal.stored rehearsed.state [cue]) :
    rehearsal.Stands start before [cue] result (.error error, after) := by
  refine ⟨[], [cue], rfl, ?_, error, ?_, rfl⟩
  · rw [List.append_nil]
    exact reached.stuck acts writes state
  · rw [List.append_nil]
    exact failed

end Stands

theorem run_write (path : String) (content : ByteArray) (rehearsed : Rehearsed σ) :
    (liftM (rehearsal.studio.write path content) : Playing σ _).run rehearsed =
      (.ok (rehearsal.store rehearsed.state path content).2,
        ⟨.write path content (rehearsal.store rehearsed.state path content).2.toBool ::
          rehearsed.steps, (rehearsal.store rehearsed.state path content).1⟩) := rfl

theorem run_synthesize (request : SpeechRequest) (rehearsed : Rehearsed σ) :
    (liftM (rehearsal.studio.synthesize request) : Playing σ _).run rehearsed =
      (.ok (rehearsal.answer rehearsed.calls request),
        ⟨.call request :: rehearsed.steps, rehearsed.state⟩) := rfl

theorem run_speak (index : Nat) (utterance : Utterance) (rehearsed : Rehearsed σ) :
    (rehearsal.studio.speak index utterance).run rehearsed =
      (match rehearsal.answer rehearsed.calls utterance.request with
        | .ok synthesis => .ok synthesis
        | .error (.declined reason) => .error (.synthesis index utterance.speaker reason)
        | .error (.fault fault) => .error (.fault fault),
      ⟨.call utterance.request :: rehearsed.steps, rehearsed.state⟩) := by
  unfold Studio.speak
  rw [run_bind_state, ofVoice_eq_request, run_synthesize]
  cases rehearsal.answer rehearsed.calls utterance.request with
  | error failure => cases failure <;> rfl
  | ok synthesis => rfl

namespace Enacts

theorem pure {before : List Cue} {value : α} {result : α → Prop} (holds : result value) :
    rehearsal.Enacts start before [] (pure value) result :=
  fun _ reached => .of_reached reached holds

/-- Where the first program stops, the second one is not begun. -/
theorem bind {before cues more : List Cue} {program : Playing σ α} {next : α → Playing σ β}
    {middle : α → Prop} {result : β → Prop}
    (first : rehearsal.Enacts start before cues program middle)
    (second : ∀ value, middle value →
      rehearsal.Enacts start (before ++ cues) more (next value) result) :
    rehearsal.Enacts start before (cues ++ more) (program >>= next) result := by
  intro rehearsed reached
  obtain ⟨done, rest, rfl, reached, ends⟩ := first rehearsed reached
  rw [run_bind_state]
  cases ran : program.run rehearsed with
  | mk outcome after =>
    rw [ran] at reached ends
    cases rest with
    | nil =>
      obtain ⟨value, rfl, holds⟩ := ends
      rw [List.append_nil] at second
      obtain ⟨further, rest, rfl, reached, ends⟩ := second value holds after reached
      refine ⟨done ++ further, rest, by simp, ?_, ?_⟩
      · simpa using reached
      · simpa using ends
    | cons cue rest =>
      obtain ⟨error, failed, rfl⟩ := ends
      refine ⟨done, cue :: rest ++ more, by simp, ?_, error, failed, rfl⟩
      exact ⟨reached.succeeds, reached.acts, reached.writes, reached.state⟩

theorem advancing {before cues : List Cue} {cue : Cue} {program : Playing σ α}
    {next : α → Playing σ β} {middle : α → Prop} {result : β → Prop}
    (first : rehearsal.Enacts start before [cue] program middle)
    (second : ∀ value, middle value →
      rehearsal.Enacts start (before ++ [cue]) cues (next value) result) :
    rehearsal.Enacts start before (cue :: cues) (program >>= next) result :=
  bind first second

theorem opening {before cues : List Cue} {program : Playing σ α} {next : α → Playing σ β}
    {middle : α → Prop} {result : β → Prop}
    (first : rehearsal.Enacts start before [] program middle)
    (second : ∀ value, middle value → rehearsal.Enacts start before cues (next value) result) :
    rehearsal.Enacts start before cues (program >>= next) result := by
  rw [← List.nil_append cues]
  apply bind first
  rw [List.append_nil]
  exact second

theorem closing {before cues : List Cue} {program : Playing σ α} {next : α → Playing σ β}
    {middle : α → Prop} {result : β → Prop}
    (first : rehearsal.Enacts start before cues program middle)
    (second : ∀ value, middle value →
      rehearsal.Enacts start (before ++ cues) [] (next value) result) :
    rehearsal.Enacts start before cues (program >>= next) result := by
  rw [← List.append_nil cues]
  exact bind first second

theorem report (before : List Cue) (report : Report) :
    rehearsal.Enacts start before [] (liftM (rehearsal.studio.report report)) fun _ => True :=
  fun _ reached => .of_reached (reached.reported report) trivial

theorem announce (before : List Cue) (audio : Output) (utterance : Utterance) (index : Nat) :
    rehearsal.Enacts start before [] (rehearsal.studio.announce audio utterance index)
      fun _ => True := by
  unfold Studio.announce
  by_cases silent : utterance.text = ""
  · rw [if_pos silent]
    exact opening (report before _) fun _ _ => report _ _
  · rw [if_neg silent]
    exact report _ _

theorem save {before : List Cue} (cue : Cue) {content : ByteArray}
    (asked : cue.act = .write cue.output.text content) :
    rehearsal.Enacts start before [cue] (rehearsal.studio.save cue.output content)
      fun _ => True := by
  intro rehearsed reached
  have failure := failure?_write rehearsal start before asked
  rw [← reached.settled] at failure
  unfold Studio.save
  rw [run_bind_state]
  cases stored : rehearsal.store rehearsed.state cue.output.text content with
  | mk state written =>
    have kept : state = rehearsal.stored rehearsed.state [cue] := by
      rw [stored_write _ asked, stored]
    rw [stored] at failure
    rw [run_write, stored]
    cases written with
    | error reason =>
      refine .of_failure reached failure ?_ ?_ kept
      · simp [Rehearsed.acts_cons, Step.act?, asked]
      · simp [Rehearsed.writes_cons, Step.file?, Except.toBool]
    | ok written =>
      refine .cons (.of_reached (reached.advance failure ?_ ?_ kept) trivial)
      · simp [Rehearsed.acts_cons, Step.act?, asked]
      · simp [Rehearsed.writes_cons, Step.file?, Except.toBool, filesOf_write asked]

theorem heed (before : List Cue) (audio : Output) {synthesis : Synthesis}
    (calm : synthesis.overflow? = none) :
    rehearsal.Enacts start before [] (rehearsal.studio.heed audio synthesis) fun _ => True := by
  unfold Studio.heed
  obtain ⟨finding, inspected⟩ := inspect_eq_ok_of_overflow? audio calm
  rw [inspected]
  cases finding with
  | none => exact pure trivial
  | some finding => exact report before finding

theorem consult {before : List Cue} (cue : Cue) (audio : Output) {utterance : Utterance}
    (asked : cue.act = .call utterance.request) (speaker : cue.speaker = utterance.speaker) :
    rehearsal.Enacts start before [cue] (rehearsal.studio.consult audio utterance cue.index)
      fun synthesis =>
        rehearsal.answer (callsOf before) utterance.request = .ok synthesis := by
  intro rehearsed reached
  have failure := failure?_call rehearsal start before asked
  have acts : (Rehearsed.mk (.call utterance.request :: rehearsed.steps) rehearsed.state).acts =
      rehearsed.acts ++ [cue.act] := by
    rw [Rehearsed.acts_cons, asked]
    rfl
  have writes :
      (Rehearsed.mk (.call utterance.request :: rehearsed.steps) rehearsed.state).writes =
        rehearsed.writes := by
    simp [Rehearsed.writes_cons, Step.file?]
  have state : rehearsed.state = rehearsal.stored rehearsed.state [cue] :=
    (stored_call _ asked).symm
  unfold Studio.consult
  rw [run_bind_state, run_speak, reached.calls]
  cases answered : rehearsal.answer (callsOf before) utterance.request with
  | error failed =>
    rw [answered] at failure
    cases failed with
    | declined reason =>
      rw [speaker] at failure
      exact .of_failure reached failure acts writes state
    | fault fault => exact .of_failure reached failure acts writes state
  | ok synthesis =>
    rw [answered] at failure
    cases overflowed : synthesis.overflow? with
    | some fault =>
      simp only [overflowed, Option.map_some] at failure
      have stopped := (inspect_eq_error_iff audio).mpr overflowed
      simp only [run_bind_state, Studio.heed, stopped]
      exact .of_failure reached failure acts writes state
    | none =>
      simp only [overflowed, Option.map_none] at failure
      apply Stands.cons
      have called := reached.advance failure acts (by simp [writes, filesOf_call asked]) state
      have heeded : rehearsal.Enacts start (before ++ [cue]) []
          (rehearsal.studio.heed audio synthesis >>= fun _ => return synthesis)
          fun found => Except.ok synthesis = (.ok found : Except EngineFailure Synthesis) :=
        opening (heed _ audio overflowed) fun _ _ => pure rfl
      exact heeded _ called

theorem render {before : List Cue} (folder : Folder) (take : Take)
    (answer : take.answer = rehearsal.answer (callsOf before) take.utterance.request) :
    rehearsal.Enacts start before (take.cues folder)
      (rehearsal.studio.render folder take.utterance take.index)
      fun rendering => take.rendering? folder = some rendering := by
  rw [Studio.render_eq]
  apply opening (announce _ _ _ _)
  intro _ _
  unfold Take.cues Take.rendering?
  cases answered : take.answer with
  | error failure =>
    apply closing (consult (take.cue _ _) _ rfl rfl)
    intro synthesis found
    rw [← answer, answered] at found
    exact absurd found (by simp)
  | ok synthesis =>
    apply advancing (consult (take.cue _ _) _ rfl rfl)
    intro heard found
    rw [← answer, answered, Except.ok.injEq] at found
    subst heard
    apply advancing (save (take.cue (take.audio folder) _) rfl)
    intro _ _
    apply opening (report _ _)
    intro _ _
    apply closing (save (take.cue (take.sidecar folder) _) rfl)
    intro _ _
    exact pure rfl

/-- The loop over the speeches, at any place of it: what was asked before are the requests of the
`earlier` speeches, so the answers are those of the agenda. -/
theorem renderAll {before : List Cue} (folder : Folder) (earlier utterances : List Utterance)
    (asked : callsOf before = earlier.map Utterance.request) :
    rehearsal.Enacts start before (rehearsal.agenda folder earlier utterances)
      ((utterances.zipIdx earlier.length).mapM fun (utterance, index) =>
        rehearsal.studio.render folder utterance index)
      fun renderings => (rehearsal.takes earlier utterances).map (Take.rendering? folder) =
        renderings.map some := by
  induction utterances generalizing before earlier with
  | nil =>
    rw [List.zipIdx_nil, List.mapM_nil]
    exact pure rfl
  | cons utterance later inner =>
    rw [agenda_cons, takes, List.zipIdx_cons, List.mapM_cons]
    apply bind (render folder ⟨earlier.length, utterance, _⟩ (by rw [asked]))
    intro rendering made
    have place : earlier.length + 1 = (earlier ++ [utterance]).length := by simp
    rw [place]
    apply closing (inner _ (by simp [asked, Take.callsOf_cues]))
    intro renderings others
    apply pure
    rw [List.map_cons, List.map_cons, made, others]

end Enacts

theorem compile_unread (rehearsal : Rehearsal σ) {source : String} {reason : ScriptError}
    (unread : Script.parse source = .error reason) {folder : Folder} :
    rehearsal.compile start source folder = (.error (.script reason), .start start) := by
  unfold compile Studio.compile
  rw [unread]
  rfl

theorem compile_stands (rehearsal : Rehearsal σ) (start : σ) {source : String} {script : Script}
    (parsed : Script.parse source = .ok script) (folder : Folder) :
    rehearsal.Stands start [] (rehearsal.agenda folder [] script.utterances)
      (fun compilation => compilation.voices = script.voices ∧
        (rehearsal.takes [] script.utterances).map (Take.rendering? folder) =
          compilation.renderings.map some)
      (rehearsal.compile start source folder) := by
  have enacts : rehearsal.Enacts start [] (rehearsal.agenda folder [] script.utterances)
      (rehearsal.studio.compile source folder)
      (fun compilation => compilation.voices = script.voices ∧
        (rehearsal.takes [] script.utterances).map (Take.rendering? folder) =
          compilation.renderings.map some) := by
    unfold Studio.compile
    rw [parsed]
    apply Enacts.opening (Enacts.report _ _)
    intro _ _
    apply Enacts.opening (Enacts.report _ _)
    intro _ _
    apply Enacts.closing (Enacts.renderAll folder [] _ rfl)
    intro renderings made
    apply Enacts.opening (Enacts.report _ _)
    intro _ _
    exact Enacts.pure ⟨rfl, made⟩
  exact enacts _ ⟨.nil, rfl, rfl, rfl⟩

end Rehearsal

end Voiceover
