import Mathlib.Data.List.Induction
import Voiceover.Compile.Rehearsal
import Voiceover.Proofs.Compile.Inspection

/-! What a compilation is to do, told before it runs. A script has an agenda: for every speech a
call, and when the engine answers it, a write of the audio and a write of the mouth track. Each cue
of the agenda fails or not by what was done before it, and a run reaches some place of the agenda. -/

namespace Voiceover

inductive Act
  | call (request : SpeechRequest)
  | write (path : String) (content : ByteArray)

structure Cue where
  index : Nat
  speaker : String
  output : Output
  act : Act

def Act.request? : Act → Option SpeechRequest
  | .call request => some request
  | .write .. => none

def Act.file? : Act → Option (String × ByteArray)
  | .call _ => none
  | .write path content => some (path, content)

def Step.act? : Step → Option Act
  | .call request => some (.call request)
  | .write path content _ => some (.write path content)
  | .report _ => none

def Rehearsed.acts (rehearsed : Rehearsed σ) : List Act :=
  rehearsed.steps.reverse.filterMap Step.act?

def Step.file? : Step → Option (String × ByteArray)
  | .write path content true => some (path, content)
  | _ => none

theorem Rehearsed.acts_cons (step : Step) (rehearsed : Rehearsed σ) (state : σ) :
    (Rehearsed.mk (step :: rehearsed.steps) state).acts =
      rehearsed.acts ++ step.act?.toList := by
  unfold acts
  rw [List.reverse_cons, List.filterMap_append]
  cases step <;> rfl

theorem Rehearsed.writes_cons (step : Step) (rehearsed : Rehearsed σ) (state : σ) :
    (Rehearsed.mk (step :: rehearsed.steps) state).writes =
      rehearsed.writes ++ step.file?.toList := by
  unfold writes
  rw [List.reverse_cons, List.filterMap_append]
  cases step with
  | call request => rfl
  | write path content done => cases done <;> rfl
  | report report => rfl

def callsOf (cues : List Cue) : List SpeechRequest :=
  cues.filterMap fun cue => cue.act.request?

def filesOf (cues : List Cue) : List (String × ByteArray) :=
  cues.filterMap fun cue => cue.act.file?

@[simp] theorem callsOf_append (cues more : List Cue) :
    callsOf (cues ++ more) = callsOf cues ++ callsOf more :=
  List.filterMap_append

@[simp] theorem filesOf_append (cues more : List Cue) :
    filesOf (cues ++ more) = filesOf cues ++ filesOf more :=
  List.filterMap_append

theorem filesOf_call {cue : Cue} {request : SpeechRequest} (asked : cue.act = .call request) :
    filesOf [cue] = [] := by
  simp [filesOf, asked, Act.file?]

theorem filesOf_write {cue : Cue} {path : String} {content : ByteArray}
    (asked : cue.act = .write path content) : filesOf [cue] = [(path, content)] := by
  simp [filesOf, asked, Act.file?]

theorem Rehearsed.calls_eq (rehearsed : Rehearsed σ) :
    rehearsed.calls = rehearsed.acts.filterMap Act.request? := by
  unfold calls acts
  rw [List.filterMap_filterMap]
  congr
  funext step
  cases step <;> rfl

def Utterance.request (utterance : Utterance) : SpeechRequest :=
  ⟨utterance.text, utterance.voice.engineVoice, utterance.voice.rate, ⟨16000, 16, 1⟩⟩

theorem ofVoice_eq_request (utterance : Utterance) :
    SpeechRequest.ofVoice utterance.text utterance.voice = utterance.request := rfl

structure Take where
  index : Nat
  utterance : Utterance
  answer : Except EngineFailure Synthesis

namespace Take

def audio (folder : Folder) (take : Take) : Output :=
  ⟨folder, Path.audioFile folder.text take.index take.utterance.speaker⟩

def sidecar (folder : Folder) (take : Take) : Output :=
  ⟨folder, Path.sidecar (take.audio folder).text⟩

def cue (take : Take) (output : Output) (act : Act) : Cue :=
  ⟨take.index, take.utterance.speaker, output, act⟩

def cues (folder : Folder) (take : Take) : List Cue :=
  take.cue (take.audio folder) (.call take.utterance.request) ::
    match take.answer with
    | .error _ => []
    | .ok synthesis =>
        [take.cue (take.audio folder) (.write (take.audio folder).text synthesis.audio),
          take.cue (take.sidecar folder) (.write (take.sidecar folder).text
            (Timeline.build synthesis.phonemes).text.toUTF8)]

def rendering? (folder : Folder) (take : Take) : Option Rendering :=
  match take.answer with
  | .error _ => none
  | .ok synthesis =>
      some ⟨take.utterance, take.audio folder, take.sidecar folder, synthesis.phonemes⟩

theorem callsOf_cues (folder : Folder) (take : Take) :
    callsOf (take.cues folder) = [take.utterance.request] := by
  unfold cues
  cases take.answer with
  | error failure => rfl
  | ok synthesis => rfl

end Take

namespace Rehearsal

variable (rehearsal : Rehearsal σ)

/-- The takes of the speeches that follow `earlier` ones. An answer may depend on every request
before it. -/
def takes (earlier : List Utterance) : List Utterance → List Take
  | [] => []
  | utterance :: later =>
      ⟨earlier.length, utterance,
        rehearsal.answer (earlier.map Utterance.request) utterance.request⟩ ::
          takes (earlier ++ [utterance]) later

def agenda (folder : Folder) (earlier utterances : List Utterance) : List Cue :=
  (rehearsal.takes earlier utterances).flatMap (Take.cues folder)

def stored (start : σ) (cues : List Cue) : σ :=
  (filesOf cues).foldl (fun state file => (rehearsal.store state file.1 file.2).1) start

/-- How a cue fails after the cues `before` it. A call that is answered still fails when its answer
cannot be looked at. -/
def failure? (start : σ) (before : List Cue) (cue : Cue) : Option CompileError :=
  match cue.act with
  | .call request =>
      match rehearsal.answer (callsOf before) request with
      | .error (.declined reason) => some (.synthesis cue.index cue.speaker reason)
      | .error (.fault fault) => some (.fault fault)
      | .ok synthesis => synthesis.overflow?.map .fault
  | .write path content =>
      match (rehearsal.store (rehearsal.stored start before) path content).2 with
      | .error reason => some (.write cue.output reason)
      | .ok () => none

inductive Succeeds (start : σ) : List Cue → Prop
  | nil : Succeeds start []
  | snoc {before : List Cue} {cue : Cue} (earlier : Succeeds start before)
      (sound : rehearsal.failure? start before cue = none) : Succeeds start (before ++ [cue])

/-- Where a run is when the cues `done` are done and it has gone on to the first of the cues
`rest`, if there is one, and no further. -/
structure Reached (start : σ) (done rest : List Cue) (rehearsed : Rehearsed σ) : Prop where
  succeeds : rehearsal.Succeeds start done
  acts : rehearsed.acts = (done ++ rest.take 1).map Cue.act
  writes : rehearsed.writes = filesOf done
  state : rehearsed.state = rehearsal.stored start (done ++ rest.take 1)

/-- How a run ends that has done the cues `done` and is to do the cues `rest`: with the error of
the first of them, or with a value when none is left. -/
def Ends (start : σ) (done rest : List Cue) (outcome : Except CompileError α)
    (result : α → Prop) : Prop :=
  match rest with
  | [] => ∃ value, outcome = .ok value ∧ result value
  | cue :: _ => ∃ error, rehearsal.failure? start done cue = some error ∧ outcome = .error error

variable {rehearsal} {start : σ}

theorem agenda_cons (folder : Folder) (earlier later : List Utterance) (utterance : Utterance) :
    rehearsal.agenda folder earlier (utterance :: later) =
      Take.cues folder ⟨earlier.length, utterance,
        rehearsal.answer (earlier.map Utterance.request) utterance.request⟩ ++
          rehearsal.agenda folder (earlier ++ [utterance]) later := by
  unfold agenda
  rw [takes, List.flatMap_cons]

theorem stored_append (done cues : List Cue) :
    rehearsal.stored start (done ++ cues) =
      rehearsal.stored (rehearsal.stored start done) cues := by
  unfold stored
  rw [filesOf_append, List.foldl_append]

theorem stored_call (state : σ) {cue : Cue} {request : SpeechRequest}
    (asked : cue.act = .call request) : rehearsal.stored state [cue] = state := by
  unfold stored
  rw [filesOf_call asked, List.foldl_nil]

theorem stored_write (state : σ) {cue : Cue} {path : String} {content : ByteArray}
    (asked : cue.act = .write path content) :
    rehearsal.stored state [cue] = (rehearsal.store state path content).1 := by
  unfold stored
  rw [filesOf_write asked, List.foldl_cons, List.foldl_nil]

theorem failure?_call (rehearsal : Rehearsal σ) (start : σ) (before : List Cue) {cue : Cue}
    {request : SpeechRequest} (asked : cue.act = .call request) :
    rehearsal.failure? start before cue =
      match rehearsal.answer (callsOf before) request with
      | .error (.declined reason) => some (.synthesis cue.index cue.speaker reason)
      | .error (.fault fault) => some (.fault fault)
      | .ok synthesis => synthesis.overflow?.map .fault := by
  unfold failure?
  rw [asked]

theorem failure?_write (rehearsal : Rehearsal σ) (start : σ) (before : List Cue) {cue : Cue}
    {path : String} {content : ByteArray} (asked : cue.act = .write path content) :
    rehearsal.failure? start before cue =
      match (rehearsal.store (rehearsal.stored start before) path content).2 with
      | .error reason => some (.write cue.output reason)
      | .ok () => none := by
  unfold failure?
  rw [asked]

theorem failure?_call_eq_none_iff {before : List Cue} {cue : Cue} {request : SpeechRequest}
    (asked : cue.act = .call request) :
    rehearsal.failure? start before cue = none ↔
      ∃ synthesis, rehearsal.answer (callsOf before) request = .ok synthesis ∧
        synthesis.overflow? = none := by
  rw [failure?_call _ _ _ asked]
  cases rehearsal.answer (callsOf before) request with
  | error failure => cases failure <;> simp
  | ok synthesis => simp

theorem failure?_write_eq_none_iff {before : List Cue} {cue : Cue} {path : String}
    {content : ByteArray} (asked : cue.act = .write path content) :
    rehearsal.failure? start before cue = none ↔
      (rehearsal.store (rehearsal.stored start before) path content).2 = .ok () := by
  rw [failure?_write _ _ _ asked]
  cases (rehearsal.store (rehearsal.stored start before) path content).2 with
  | error reason => simp
  | ok done => simp

theorem Ends.stops {done rest : List Cue} {outcome : Except CompileError α} {result : α → Prop}
    (ends : rehearsal.Ends start done rest outcome result) :
    ∀ cue ∈ rest.head?, rehearsal.failure? start done cue ≠ none := by
  intro cue first
  cases rest with
  | nil => exact absurd first (by simp)
  | cons head rest =>
    obtain rfl : head = cue := by simpa using first
    obtain ⟨error, failed, _⟩ := ends
    rw [failed]
    simp

namespace Reached

theorem settled {done : List Cue} {rehearsed : Rehearsed σ}
    (reached : rehearsal.Reached start done [] rehearsed) :
    rehearsed.state = rehearsal.stored start done := by
  rw [reached.state, List.take_nil, List.append_nil]

theorem reported {done : List Cue} {rehearsed : Rehearsed σ}
    (reached : rehearsal.Reached start done [] rehearsed) (report : Report) :
    rehearsal.Reached start done [] ⟨.report report :: rehearsed.steps, rehearsed.state⟩ where
  succeeds := reached.succeeds
  acts := by simpa [Rehearsed.acts_cons, Step.act?] using reached.acts
  writes := by simpa [Rehearsed.writes_cons, Step.file?] using reached.writes
  state := reached.state

theorem stuck {done : List Cue} {cue : Cue} {rehearsed after : Rehearsed σ}
    (reached : rehearsal.Reached start done [] rehearsed)
    (acts : after.acts = rehearsed.acts ++ [cue.act])
    (writes : after.writes = rehearsed.writes)
    (state : after.state = rehearsal.stored rehearsed.state [cue]) :
    rehearsal.Reached start done [cue] after where
  succeeds := reached.succeeds
  acts := by simpa [reached.acts] using acts
  writes := writes.trans reached.writes
  state := by
    rw [state, reached.settled, ← stored_append]
    rfl

theorem advance {done : List Cue} {cue : Cue} {rehearsed after : Rehearsed σ}
    (reached : rehearsal.Reached start done [] rehearsed)
    (sound : rehearsal.failure? start done cue = none)
    (acts : after.acts = rehearsed.acts ++ [cue.act])
    (writes : after.writes = rehearsed.writes ++ filesOf [cue])
    (state : after.state = rehearsal.stored rehearsed.state [cue]) :
    rehearsal.Reached start (done ++ [cue]) [] after where
  succeeds := .snoc reached.succeeds sound
  acts := by simpa [reached.acts] using acts
  writes := by rw [writes, reached.writes, filesOf_append]
  state := by rw [state, reached.settled, ← stored_append, List.take_nil, List.append_nil]

theorem calls {done : List Cue} {rehearsed : Rehearsed σ}
    (reached : rehearsal.Reached start done [] rehearsed) :
    rehearsed.calls = callsOf done := by
  rw [Rehearsed.calls_eq, reached.acts, List.take_nil, List.append_nil, List.filterMap_map]
  rfl

end Reached

namespace Succeeds

theorem snoc_iff {before : List Cue} {cue : Cue} :
    rehearsal.Succeeds start (before ++ [cue]) ↔
      rehearsal.Succeeds start before ∧ rehearsal.failure? start before cue = none := by
  constructor
  · intro sound
    generalize whole : before ++ [cue] = cues at sound
    cases sound with
    | nil => simp at whole
    | snoc earlier last =>
      obtain ⟨rfl, same⟩ := List.append_inj' whole rfl
      obtain rfl := List.singleton_inj.mp same
      exact ⟨earlier, last⟩
  · intro both
    exact .snoc both.1 both.2

theorem of_append {cues more : List Cue} (sound : rehearsal.Succeeds start (cues ++ more)) :
    rehearsal.Succeeds start cues := by
  induction more using List.reverseRecOn with
  | nil => simpa using sound
  | append_singleton more cue inner =>
    rw [← List.append_assoc] at sound
    exact inner (snoc_iff.mp sound).1

theorem failure?_eq_none {before after : List Cue} {cue : Cue}
    (sound : rehearsal.Succeeds start (before ++ cue :: after)) :
    rehearsal.failure? start before cue = none := by
  rw [← List.singleton_append, ← List.append_assoc] at sound
  exact (snoc_iff.mp sound.of_append).2

/-- Cues that all succeed do not go past a cue that fails. -/
theorem prefix_of_failure {done reached rest : List Cue}
    (sound : rehearsal.Succeeds start done)
    (planned : done <+: reached ++ rest)
    (stops : ∀ cue ∈ rest.head?, rehearsal.failure? start reached cue ≠ none) :
    done <+: reached := by
  rcases List.prefix_or_prefix_of_prefix planned (List.prefix_append reached rest) with
    within | ⟨beyond, rfl⟩
  · exact within
  · cases beyond with
    | nil => simp
    | cons cue beyond =>
      exfalso
      rw [List.prefix_append_right_inj] at planned
      obtain ⟨others, rfl⟩ := planned
      exact stops cue (by simp) sound.failure?_eq_none

end Succeeds

end Rehearsal

end Voiceover
