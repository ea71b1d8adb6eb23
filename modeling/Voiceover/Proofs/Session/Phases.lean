import Voiceover.Proofs.Compile.Files
import Voiceover.Proofs.Config.Survival

/-! The phases of a run on a disk. First the configuration and the folder for the files are there or
are made, then everything that is needed is read, and only then something is compiled. -/

namespace Voiceover.Session

open Disk

section Phases

variable {m : Type → Type} [Monad m] (storage : Storage m)

def furnish : ExceptT SessionError m Config := do
  let config ← (configure storage).adapt .config
  match ← storage.makeFolders config.outputFolder with
  | .error reason => throw (.outputFolder reason)
  | .ok () => return config

def prepare : ExceptT SessionError m (Config × PreviewSettings × String) := do
  let config ← furnish storage
  let script ← readScript storage config.scriptFile
  match config.audio.engine with
  | .error reason => throw (.provider reason)
  | .ok settings => return (config, settings, script)

theorem throw_bind [LawfulMonad m] {ε α β : Type} (error : ε) (next : α → ExceptT ε m β) :
    (throw error : ExceptT ε m α) >>= next = throw error := by
  apply ExceptT.ext
  simp

/-- A run prepares, and then it compiles. -/
theorem run_eq [LawfulMonad m] (report : Report → m Unit) :
    run storage report = (do
      let (config, settings, script) ← prepare storage
      compile (Studio.preview storage settings report) config script) := by
  unfold run prepare furnish
  simp only [bind_assoc]
  refine bind_congr fun config => bind_congr fun made => ?_
  cases made with
  | error reason =>
    dsimp only
    rw [throw_bind, throw_bind]
  | ok done =>
    rw [pure_bind]
    refine bind_congr fun script => ?_
    cases config.audio.engine with
    | error reason => rw [throw_bind]
    | ok settings => rw [pure_bind]

end Phases

section Disks

variable {disk after : Disk}

theorem isName_configFile : IsName configFile := ⟨by decide, by decide, by decide, by decide⟩

/-- The configuration file is in the folder itself, so nothing can be in its way. -/
theorem entryAt_configFile (disk : Disk) :
    disk.entryAt configFile =
      match disk.find [configFile] with
      | some entry => .ok entry
      | none => .error .missing :=
  isName_configFile.entryAt rfl (by decide) disk

theorem loaded_of_find (same : disk.find [configFile] = after.find [configFile]) :
    Config.loaded disk configFile = Config.loaded after configFile := by
  rw [Config.loaded, Config.loaded, entryAt_configFile, entryAt_configFile, same]

def configured (disk : Disk) : Disk :=
  match disk.find [configFile] with
  | some _ => disk
  | none => disk.put [configFile] (.file Config.standard.text.toUTF8)

theorem run_configure (disk : Disk) :
    (configure Disk.storage).run disk = (Config.loaded (configured disk) configFile, configured disk) := by
  rw [configure, run_bind_state, run_lift_state, Disk.storage_exists, exists?, entryAt_configFile, configured]
  cases found : disk.find [configFile] with
  | some entry =>
    exact Config.run_load configFile disk
  | none =>
    have home : Home disk "" [] := ⟨.inl rfl, rfl, rfl⟩
    have free : disk.find [configFile] ≠ some .folder := by simp [found]
    have replaced : disk.replace configFile Config.standard.text.toUTF8 =
        .ok (disk.put [configFile] (.file Config.standard.text.toUTF8)) := by
      have joined := home.replace (.inl ⟨rfl, .inl rfl⟩) isName_configFile Config.standard.text.toUTF8
      rw [← overwrite_free free]
      exact joined
    dsimp only
    rw [run_bind_state, Config.run_save, replaced]
    exact Config.run_load configFile _

def scripted (disk : Disk) (path : String) : Except SessionError String :=
  match disk.entryAt path with
  | .error .missing => .error (.scriptNotFound path)
  | .error reason => .error (.scriptOutOfReach reason)
  | .ok .folder => .error (.scriptUnreadable path)
  | .ok (.file content) =>
      match String.fromUTF8? content with
      | some script => .ok script
      | none => .error .scriptNotText

theorem run_readScript (path : String) (disk : Disk) :
    (readScript Disk.storage path).run disk = (scripted disk path, disk) := by
  rw [readScript, run_bind_state, run_lift_state, Disk.storage_exists, exists?, scripted]
  cases found : disk.entryAt path with
  | error reason => cases reason <;> rfl
  | ok entry =>
    dsimp only
    rw [run_bind_state, run_lift_state, Disk.storage_read, Disk.read, found]
    cases entry with
    | folder => rfl
    | file content =>
      simp only [bind, Except.bind, pure, Except.pure]
      cases String.fromUTF8? content <;> rfl

def gathered (disk : Disk) (config : Config) : Except SessionError (Config × PreviewSettings × String) :=
  match scripted disk config.scriptFile with
  | .error reason => .error reason
  | .ok script =>
      match config.audio.engine with
      | .error reason => .error (.provider reason)
      | .ok settings => .ok (config, settings, script)

theorem run_furnish (disk : Disk) :
    (furnish Disk.storage).run disk =
      match Config.loaded (configured disk) configFile with
      | .error reason => (.error (.config reason), configured disk)
      | .ok config =>
          match (configured disk).makeFolders config.outputFolder with
          | (grown, .error reason) => (.error (.outputFolder reason), grown)
          | (grown, .ok ()) => (.ok config, grown) := by
  rw [furnish, run_bind_state, run_adapt, run_configure]
  cases Config.loaded (configured disk) configFile with
  | error reason => rfl
  | ok config =>
    dsimp only [Except.mapError]
    rw [run_bind_state, run_lift_state, Disk.storage_makeFolders]
    obtain ⟨grown, result⟩ := (configured disk).makeFolders config.outputFolder
    cases result <;> rfl

/-- A furnishing is stopped by the configuration, or it tries to make the folder for the files. -/
theorem furnish_cases {result : Except SessionError Config}
    (furnished : (furnish Disk.storage).run disk = (result, after)) :
    (∃ reason, Config.loaded (configured disk) configFile = .error reason ∧
        result = .error (.config reason) ∧ after = configured disk) ∨
      ∃ config made, Config.loaded (configured disk) configFile = .ok config ∧
        (configured disk).makeFolders config.outputFolder = (after, made) ∧
        result = (made.mapError .outputFolder).map fun _ => config := by
  rw [run_furnish] at furnished
  cases loads : Config.loaded (configured disk) configFile with
  | error reason =>
    rw [loads] at furnished
    obtain ⟨rfl, rfl⟩ := Prod.mk.inj furnished
    exact .inl ⟨reason, rfl, rfl, rfl⟩
  | ok config =>
    rw [loads] at furnished
    dsimp only at furnished
    cases made : (configured disk).makeFolders config.outputFolder with
    | mk grown making =>
      rw [made] at furnished
      cases making with
      | error reason =>
        obtain ⟨rfl, rfl⟩ := Prod.mk.inj furnished
        exact .inr ⟨config, _, rfl, made, rfl⟩
      | ok done =>
        obtain ⟨rfl, rfl⟩ := Prod.mk.inj furnished
        exact .inr ⟨config, _, rfl, made, rfl⟩

theorem run_prepare (disk : Disk) :
    (prepare Disk.storage).run disk =
      match (furnish Disk.storage).run disk with
      | (.error reason, after) => (.error reason, after)
      | (.ok config, after) => (gathered after config, after) := by
  rw [prepare, run_bind_state]
  cases (furnish Disk.storage).run disk with
  | mk result grown =>
    cases result with
    | error reason => rfl
    | ok config =>
      dsimp only
      rw [run_bind_state, run_readScript, gathered]
      cases scripted grown config.scriptFile with
      | error reason => rfl
      | ok script =>
        dsimp only
        cases config.audio.engine <;> rfl

/-- With nobody to report to, only the outcome is different from that of the compilation itself. -/
theorem run_compile (settings : PreviewSettings) (config : Config) (script : String) (disk : Disk) :
    (compile (quiet settings) config script).run disk =
      match ((quiet settings).compile script config.outputFolder).run disk with
      | (.error reason, after) => (.error (.compile reason), after)
      | (.ok compilation, after) =>
          (.ok (compilation.renderings.length, config.outputFolder), after) := by
  rw [compile, run_bind_state, run_lift_state]
  generalize ((quiet settings).compile script config.outputFolder).run = ran
  dsimp only
  obtain ⟨result, after⟩ := ran disk
  cases result with
  | ok compilation => rfl
  | error reason =>
    dsimp only
    cases reason.line? <;> rfl

/-- A run on a disk, with nobody to report to. -/
def on (disk : Disk) : Except SessionError (Nat × String) × Disk :=
  (run Disk.storage fun _ => pure ()).run disk

theorem on_eq (disk : Disk) :
    on disk =
      match (prepare Disk.storage).run disk with
      | (.error reason, after) => (.error reason, after)
      | (.ok (config, settings, script), ready) =>
          match ((quiet settings).compile script config.outputFolder).run ready with
          | (.error reason, after) => (.error (.compile reason), after)
          | (.ok compilation, after) =>
              (.ok (compilation.renderings.length, config.outputFolder), after) := by
  rw [on, run_eq, run_bind_state]
  cases (prepare Disk.storage).run disk with
  | mk result ready =>
    cases result with
    | error reason => rfl
    | ok prepared =>
      obtain ⟨config, settings, script⟩ := prepared
      exact run_compile settings config script ready

end Disks

section Fresh

def fresh (text : String) : Disk := ⟨[([Config.standard.scriptFile], .file text.toUTF8)]⟩

def furnished (text : String) : Disk :=
  ((fresh text).put [configFile] (.file Config.standard.text.toUTF8)).put [Config.standard.outputFolder] .folder

theorem furnish_fresh (text : String) :
    (furnish Disk.storage).run (fresh text) = (.ok .standard, furnished text) := by
  have first : configured (fresh text) =
      (fresh text).put [configFile] (.file Config.standard.text.toUTF8) := rfl
  have there : (configured (fresh text)).entryAt configFile = .ok (.file Config.standard.text.toUTF8) := by
    rw [entryAt_configFile, first, find_put_self (List.cons_ne_nil _ _)]
  have loads : Config.loaded (configured (fresh text)) configFile = .ok .standard := by
    rw [Config.loaded, there]
    simp only [Config.fromUTF8?_toUTF8, Config.parse_text]
    rfl
  have reached : (configured (fresh text)).reach (names Config.standard.outputFolder) =
      .ok ([Config.standard.outputFolder], none) := rfl
  have settled : (configured (fresh text)).settleFolder Config.standard.outputFolder = (furnished text, .ok ()) := by
    rw [settleFolder_eq rfl, reached]
    rfl
  have made := makeFolders_settled (by decide) settled (by simp)
  rw [run_furnish, loads]
  dsimp only
  rw [made]

theorem gathered_furnished (text : String) :
    gathered (furnished text) .standard = .ok (.standard, .standard, text) := by
  have script : (furnished text).entryAt Config.standard.scriptFile = .ok (.file text.toUTF8) := rfl
  rw [gathered, scripted, script]
  simp only [Config.fromUTF8?_toUTF8]
  rfl

theorem prepare_fresh (text : String) :
    (prepare Disk.storage).run (fresh text) = (.ok (.standard, .standard, text), furnished text) := by
  rw [run_prepare, furnish_fresh]
  dsimp only
  rw [gathered_furnished]

end Fresh

end Voiceover.Session
