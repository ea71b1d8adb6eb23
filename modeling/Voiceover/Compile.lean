import Voiceover.Path
import Voiceover.Script
import Voiceover.Speech
import Voiceover.Timeline
import Voiceover.Wave.Scan

/-! Compiling a script: an audio file and a mouth track for every speech, in the order of the
script. The engine, the place the files go to and the reports belong to a studio, and a compilation
does nothing but ask the studio, so any monad that a studio lives in can run it. -/

namespace Voiceover

open Text

inductive Report
  | parsed (voices utterances : Nat)
  | compiling (lines voices : Nat) (provider : String)
  | noText (index : Nat) (speaker : String)
  | synthesizing (path : Output) (voiceName : String) (rate : Int)
  | overrun (path : Output) (spoken heard : Duration)
  | notWave (path : Output) (reason : WaveError)
  | framed (phonemes frames : Nat)
  | compiled (lines : Nat) (folder : Folder)
  | stopped (script : String) (line : Nat)
deriving DecidableEq

inductive Level
  | error | warn | info | debug
deriving DecidableEq

namespace Level

def name : Level → String
  | error => "ERROR"
  | warn => "WARN"
  | info => "INFO"
  | debug => "DEBUG"

def isShownAt : Level → (limit : Level) → Bool
  | error, _ => true
  | warn, limit => limit ≠ error
  | info, limit => limit = info || limit = debug
  | debug, limit => limit = debug

end Level

namespace Report

def level : Report → Level
  | stopped .. => .error
  | noText .. | overrun .. => .warn
  | compiling .. | synthesizing .. | compiled .. => .info
  | parsed .. | notWave .. | framed .. => .debug

def message : Report → String
  | parsed voices utterances => s!"Parsed script: {voices} voices, {utterances} utterances"
  | compiling lines voices provider =>
      s!"Compiling {lines} lines with {voices} voices using {provider}"
  | noText index speaker => s!"Line {index} ({speaker}) has no text"
  | synthesizing path voiceName rate =>
      s!"Synthesizing {quoted path.runes} with {voiceName} (rate {rate})"
  | overrun path spoken heard =>
      s!"Phonemes for {quoted path.runes} run to {spoken.text} but the audio is {heard.text}"
  | notWave path reason => s!"Audio for {quoted path.runes} is not a WAVE file: {reason.message}"
  | framed phonemes frames => s!"{phonemes} phonemes -> {frames} timeline frames"
  | compiled lines folder => s!"Compiled {lines} lines into {quoted (runes folder.bytes)}"
  | stopped script line => s!"Stopped at {script} line {line}"

end Report

inductive CompileError
  | script (reason : ScriptError)
  | synthesis (index : Nat) (speaker reason : String)
  | write (path : Output) (reason : String)
  | fault (fault : Fault)
deriving DecidableEq

namespace CompileError

def line? : CompileError → Option Nat
  | script reason => reason.line?
  | _ => none

def message : CompileError → String
  | script reason => reason.message
  | synthesis index speaker reason => s!"Synthesis failed for line {index} ({speaker}): {reason}"
  | write path reason => s!"Failed to write {path.text}: {reason}"
  | fault cause => cause.message

end CompileError

structure Studio (m : Type → Type) where
  provider : String
  synthesize : SpeechRequest → m (Except EngineFailure Synthesis)
  write : (path : String) → (content : ByteArray) → m (Except String Unit)
  report : Report → m Unit

structure Rendering where
  utterance : Utterance
  audio : Output
  sidecar : Output
  phonemes : List Phoneme
deriving DecidableEq

structure Compilation where
  voices : VoiceRegistry
  renderings : List Rendering
deriving DecidableEq

/-- What there is to report on an engine's answer: audio that is over before the phoneme reported
last, or audio that is not a WAVE file. -/
def inspect (path : Output) (synthesis : Synthesis) : Except Fault (Option Report) :=
  match Wave.scan synthesis.audio with
  | .error reason => .ok (some (.notWave path reason))
  | .ok info => do
      let spoken ← lastFinish synthesis.phonemes
      let heard ← info.duration
      return if heard.nanos < spoken.nanos then some (.overrun path spoken heard) else none

namespace Studio

variable {m : Type → Type} [Monad m] (studio : Studio m)

def save (path : Output) (content : ByteArray) : ExceptT CompileError m Unit := do
  match ← studio.write path content with
  | .ok () => return ()
  | .error reason => throw (.write path reason)

def speak (index : Nat) (utterance : Utterance) : ExceptT CompileError m Synthesis := do
  match ← studio.synthesize (.ofVoice utterance.text utterance.voice) with
  | .ok synthesis => return synthesis
  | .error (.declined reason) => throw (.synthesis index utterance.speaker reason)
  | .error (.fault fault) => throw (.fault fault)

def render (folder : Folder) (utterance : Utterance) (index : Nat) :
    ExceptT CompileError m Rendering := do
  let audio : Output := ⟨folder, Path.audioFile folder.text index utterance.speaker⟩
  if utterance.text = "" then studio.report (.noText index utterance.speaker)
  let request := SpeechRequest.ofVoice utterance.text utterance.voice
  studio.report (.synthesizing audio request.voiceName request.rate)
  let synthesis ← studio.speak index utterance
  match inspect audio synthesis with
  | .error fault => throw (.fault fault)
  | .ok none => pure ()
  | .ok (some finding) => studio.report finding
  studio.save audio synthesis.audio
  let timeline := Timeline.build synthesis.phonemes
  studio.report (.framed synthesis.phonemes.length timeline.size)
  let sidecar : Output := ⟨folder, Path.sidecar audio.text⟩
  studio.save sidecar timeline.text.toUTF8
  return ⟨utterance, audio, sidecar, synthesis.phonemes⟩

def compile (source : String) (folder : Folder) : ExceptT CompileError m Compilation := do
  match Script.parse source with
  | .error reason => throw (.script reason)
  | .ok script =>
      let lines := script.utterances.length
      studio.report (.parsed script.voices.size lines)
      studio.report (.compiling lines script.voices.size studio.provider)
      let renderings ← script.utterances.zipIdx.mapM fun (utterance, index) =>
        studio.render folder utterance index
      studio.report (.compiled lines folder)
      return ⟨script.voices, renderings⟩

end Studio

end Voiceover
