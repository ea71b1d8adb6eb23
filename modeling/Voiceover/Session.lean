import Voiceover.Compile
import Voiceover.Config

/-! A run of the program in a folder: read the configuration there, or write the standard one first,
and compile the script that it names. -/

namespace Voiceover

inductive SessionError
  | config (reason : ConfigError)
  | outputFolder (reason : FileError)
  | scriptNotFound (path : String)
  | scriptOutOfReach (reason : FileError)
  | scriptUnreadable (path : String)
  | scriptNotText
  | provider (reason : String)
  | compile (reason : CompileError)
deriving DecidableEq

namespace SessionError

def message : SessionError → String
  | config reason => reason.message
  | outputFolder reason | scriptOutOfReach reason => reason.message
  | scriptNotFound path => s!"Script file {path} not found."
  | scriptUnreadable path => s!"Failed to read script {path}"
  | scriptNotText => "Script is not valid UTF-8"
  | provider reason => reason
  | compile reason => reason.message

end SessionError

structure Outcome where
  exitCode : Nat
  output : String
  error : Option String
deriving DecidableEq

namespace Outcome

/-- A fault is not an error that the program reports: it is cut short by it. -/
def ofResult : Except SessionError (Nat × String) → Outcome
  | .ok (lines, folder) => ⟨0, s!"Wrote {lines} lines to {folder}\n", none⟩
  | .error (.compile (.fault _)) => ⟨101, "", none⟩
  | .error reason => ⟨1, "", some reason.message⟩

end Outcome

namespace Studio

def preview {m : Type → Type} [Monad m] (storage : Storage m) (settings : PreviewSettings)
    (report : Report → m Unit) : Studio m where
  provider := "preview"
  synthesize request := pure (Preview.synthesize settings request)
  write path content := return (← storage.write path content).mapError FileError.message
  report := report

end Studio

namespace Session

def configFile : String := "config.yml"

variable {m : Type → Type} [Monad m] (storage : Storage m)

/-- The configuration of the folder. Where nothing of its name can be reached the standard one is
written first. -/
def configure : ExceptT ConfigError m Config := do
  match ← storage.exists? configFile with
  | .ok true => pure ()
  | _ => Config.standard.save storage configFile
  Config.load storage configFile

def readScript (path : String) : ExceptT SessionError m String := do
  match ← storage.exists? path with
  | .error reason => throw (.scriptOutOfReach reason)
  | .ok false => throw (.scriptNotFound path)
  | .ok true =>
      match ← storage.read path with
      | .error _ => throw (.scriptUnreadable path)
      | .ok content =>
          match String.fromUTF8? content with
          | some script => return script
          | none => throw .scriptNotText

def compile (studio : Studio m) (config : Config) (script : String) :
    ExceptT SessionError m (Nat × String) := do
  match ← (studio.compile script config.outputFolder).run with
  | .ok compilation => return (compilation.renderings.length, config.outputFolder)
  | .error reason =>
      if let some line := reason.line? then studio.report (.stopped config.scriptFile line)
      throw (.compile reason)

def run (report : Report → m Unit) : ExceptT SessionError m (Nat × String) := do
  let config ← (configure storage).adapt .config
  match ← storage.makeFolders config.outputFolder with
  | .error reason => throw (.outputFolder reason)
  | .ok () => pure ()
  let script ← readScript storage config.scriptFile
  match config.audio.engine with
  | .error reason => throw (.provider reason)
  | .ok settings => compile (Studio.preview storage settings report) config script

end Session

end Voiceover
