import Voiceover.Compile

/-! Compilations without an engine and without a file system. What the engine answers is a function
of the requests before, and what becomes of a write is a function of a state that writes alone can
change, so every engine and every place for files has its rehearsal. The steps of a compilation are
kept as they happen. -/

namespace Voiceover

/-- What a compilation asks of its studio. A write is a step whether or not it is done. -/
inductive Step
  | call (request : SpeechRequest)
  | write (path : String) (content : ByteArray) (done : Bool)
  | report (report : Report)

/-- The steps so far, the last one first, and the state that the writes have led to. -/
structure Rehearsed (σ : Type) where
  steps : List Step
  state : σ

namespace Rehearsed

def start (state : σ) : Rehearsed σ := ⟨[], state⟩

def calls (rehearsed : Rehearsed σ) : List SpeechRequest :=
  rehearsed.steps.reverse.filterMap fun
    | .call request => some request
    | _ => none

def writes (rehearsed : Rehearsed σ) : List (String × ByteArray) :=
  rehearsed.steps.reverse.filterMap fun
    | .write path content true => some (path, content)
    | _ => none

def reports (rehearsed : Rehearsed σ) : List Report :=
  rehearsed.steps.reverse.filterMap fun
    | .report report => some report
    | _ => none

end Rehearsed

structure Rehearsal (σ : Type) where
  provider : String
  answer : (earlier : List SpeechRequest) → SpeechRequest → Except EngineFailure Synthesis
  store : σ → (path : String) → (content : ByteArray) → σ × Except String Unit

namespace Rehearsal

def studio (rehearsal : Rehearsal σ) : Studio (StateM (Rehearsed σ)) where
  provider := rehearsal.provider
  synthesize request := fun rehearsed =>
    (rehearsal.answer rehearsed.calls request,
      { rehearsed with steps := .call request :: rehearsed.steps })
  write path content := fun rehearsed =>
    let (state, result) := rehearsal.store rehearsed.state path content
    (result, ⟨.write path content result.toBool :: rehearsed.steps, state⟩)
  report report := fun rehearsed =>
    ((), { rehearsed with steps := .report report :: rehearsed.steps })

def compile (rehearsal : Rehearsal σ) (state : σ) (source : String) (folder : Folder) :
    Except CompileError Compilation × Rehearsed σ :=
  (rehearsal.studio.compile source folder).run (.start state)

end Rehearsal

end Voiceover
