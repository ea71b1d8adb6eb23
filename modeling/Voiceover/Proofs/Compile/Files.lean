import Voiceover.Proofs.Compile.Outputs
import Voiceover.Proofs.Disk.Filling
import Voiceover.Session

/-! A compilation on a disk. Its folder is there before it starts, so it does the same on all disks
with the same folders: it comes to one result and puts one list of files into the folder, each of
them under the name of an output. -/

namespace Voiceover

open Disk

variable {ε α β : Type}

/-- On every disk with the folders of `ground` the program comes to `result`, and puts `files` into
the folder without taking the place of a folder. -/
structure Fills (ground : Disk) (folder : Place) (program : ExceptT ε (StateM Disk) α)
    (result : Except ε α) (files : List (String × ByteArray)) : Prop where
  free : ∀ file ∈ files, ground.find (file.1 :: folder) ≠ some .folder
  run : ∀ disk, SameFolders ground disk → program.run disk = (result, disk.fill folder files)

namespace Fills

variable {ground : Disk} {folder : Place} {program : ExceptT ε (StateM Disk) α}
  {next : α → ExceptT ε (StateM Disk) β} {files more : List (String × ByteArray)}

theorem of_still {result : Except ε α} (still : ∀ disk, program.run disk = (result, disk)) :
    Fills ground folder program result [] :=
  ⟨fun _ member => absurd member List.not_mem_nil, fun disk _ => still disk⟩

theorem bind {value : α} {result : Except ε β} (first : Fills ground folder program (.ok value) files)
    (second : Fills ground folder (next value) result more) :
    Fills ground folder (program >>= next) result (files ++ more) := by
  constructor
  · intro file member
    exact (List.mem_append.mp member).elim (first.free file) (second.free file)
  · intro disk same
    rw [run_bind_state, first.run disk same, fill_append]
    exact second.run _ (same.fill first.free)

theorem bind_error {reason : ε} (failed : Fills ground folder program (.error reason) files) :
    Fills ground folder (program >>= next) (.error reason) files := by
  refine ⟨failed.free, fun disk same => ?_⟩
  rw [run_bind_state, failed.run disk same]

end Fills

/-- The program does the same on all disks with the folders of `ground`. Its files are some of the
paths, in their order, and no script is to blame for an error of it. -/
def Writes (ground : Disk) (folder : Place) (front : String) (paths : List String)
    (program : ExceptT CompileError (StateM Disk) α) : Prop :=
  ∃ result files, Fills ground folder program result files ∧
    (files.map fun file => front ++ file.1).Sublist paths ∧ ∀ reason, result ≠ .error (.script reason)

section Writes

variable {ground : Disk} {folder : Place} {front : String} {paths more : List String}
  {program : ExceptT CompileError (StateM Disk) α}

theorem writes_pure (value : α) : Writes ground folder front [] (pure value) :=
  ⟨.ok value, [], .of_still fun _ => rfl, .slnil, fun _ => nofun⟩

theorem writes_throw {error : CompileError} (blameless : ∀ reason, error ≠ .script reason) :
    Writes ground folder front [] (throw error : ExceptT CompileError (StateM Disk) α) :=
  ⟨.error error, [], .of_still fun _ => rfl, .slnil, fun reason same => blameless reason (Except.error.inj same)⟩

theorem Writes.bind {next : α → ExceptT CompileError (StateM Disk) β}
    (first : Writes ground folder front paths program)
    (second : ∀ value, Writes ground folder front more (next value)) :
    Writes ground folder front (paths ++ more) (program >>= next) := by
  obtain ⟨result, files, fills, within, blameless⟩ := first
  cases result with
  | error error =>
    refine ⟨.error error, files, fills.bind_error, within.trans (List.sublist_append_left ..), ?_⟩
    intro reason same
    exact blameless reason (congrArg _ (Except.error.inj same))
  | ok value =>
    obtain ⟨result, later, rest, withinMore, blameless⟩ := second value
    refine ⟨result, files ++ later, fills.bind rest, ?_, blameless⟩
    rw [List.map_append]
    exact within.append withinMore

theorem writes_mapM {action : α → ExceptT CompileError (StateM Disk) β} {pathsOf : α → List String}
    {inputs : List α} (each : ∀ input ∈ inputs, Writes ground folder front (pathsOf input) (action input)) :
    Writes ground folder front (inputs.flatMap pathsOf) (inputs.mapM action) := by
  induction inputs with
  | nil => exact writes_pure []
  | cons input later ih =>
    rw [List.mapM_cons, List.flatMap_cons]
    apply (each input List.mem_cons_self).bind
    intro value
    rw [← List.append_nil (later.flatMap pathsOf)]
    exact (ih fun other member => each other (List.mem_cons_of_mem _ member)).bind fun _ => writes_pure _

end Writes

section Compilation

variable {ground : Disk} {folder : Place} {front path joint : String} (settings : PreviewSettings)

abbrev quiet : Studio (StateM Disk) := Studio.preview Disk.storage settings fun _ => pure ()

theorem writes_report (report : Report) :
    Writes ground folder front [] (liftM ((quiet settings).report report) : ExceptT CompileError (StateM Disk) Unit) :=
  writes_pure ()

theorem writes_announce (audio : Output) (utterance : Utterance) (index : Nat) :
    Writes ground folder front [] ((quiet settings).announce audio utterance index) := by
  unfold Studio.announce
  split
  · exact (writes_report settings _).bind fun _ => writes_report settings _
  · exact writes_report settings _

theorem writes_consult (audio : Output) (utterance : Utterance) (index : Nat) :
    Writes ground folder front [] ((quiet settings).consult audio utterance index) := by
  have spoken : Writes ground folder front [] ((quiet settings).speak index utterance) := by
    refine (writes_pure (Preview.synthesize settings utterance.request)).bind fun answer => ?_
    match answer with
    | .ok synthesis => exact writes_pure synthesis
    | .error (.declined reason) => exact writes_throw fun _ => nofun
    | .error (.fault fault) => exact writes_throw fun _ => nofun
  have heeded (synthesis : Synthesis) :
      Writes ground folder front [] ((quiet settings).heed audio synthesis) := by
    unfold Studio.heed
    split
    · exact writes_throw fun _ => nofun
    · exact writes_pure ()
    · exact writes_report settings _
  exact spoken.bind fun synthesis => (heeded synthesis).bind fun _ => writes_pure _

theorem writes_save (home : Home ground path folder) (joins : Path.Joint path joint) {name : String}
    (isName : IsName name) (content : ByteArray) (place : Folder) :
    Writes ground folder (path ++ joint) [path ++ joint ++ name]
      ((quiet settings).save ⟨place, path ++ joint ++ name⟩ content) := by
  obtain ⟨result, files, shape, free, written⟩ := home.write joins isName content
  have within : (files.map fun file => path ++ joint ++ file.1).Sublist [path ++ joint ++ name] := by
    rcases shape with rfl | rfl
    · exact List.nil_sublist _
    · exact List.Sublist.refl _
  have answers {disk : Disk} (same : SameFolders ground disk) :
      (quiet settings).write (path ++ joint ++ name) content disk =
        (result.mapError FileError.message, disk.fill folder files) := by
    change (((Disk.storage.write (path ++ joint ++ name) content disk).1.mapError FileError.message,
      (Disk.storage.write (path ++ joint ++ name) content disk).2) : Except String Unit × Disk) = _
    rw [storage_write, written disk same]
  cases result with
  | ok done =>
    refine ⟨.ok (), files, ⟨free, fun disk same => ?_⟩, within, fun _ => nofun⟩
    rw [Studio.save, run_bind_state, run_lift_state, answers same]
    rfl
  | error reason =>
    refine ⟨.error (.write ⟨place, path ++ joint ++ name⟩ reason.message), files,
      ⟨free, fun disk same => ?_⟩, within, fun _ => nofun⟩
    rw [Studio.save, run_bind_state, run_lift_state, answers same]
    rfl

theorem baseName_append_ne (index : Nat) (speaker ending : String) {other : String}
    (opens : other.toList.head? ≠ some 's') : Path.baseName index speaker ++ ending ≠ other := by
  rintro rfl
  rw [String.toList_append, Path.toList_baseName] at opens
  exact opens rfl

/-- What the files of a speech are called makes a name of a path. -/
theorem isName_baseName (index : Nat) {speaker ending : String} (plain : '/' ∉ speaker.toList)
    (endingPlain : '/' ∉ ending.toList) : IsName (Path.baseName index speaker ++ ending) := by
  have differs {other : String} := @baseName_append_ne index speaker ending other
  refine ⟨?_, differs (by decide), differs (by decide), differs (by decide)⟩
  rw [String.toList_append, List.mem_append, not_or]
  exact ⟨Path.slash_notMem_baseName index plain, endingPlain⟩

theorem writes_render (home : Home ground path folder) (joins : Path.Joint path joint)
    (utterance : Utterance) (index : Nat) (plain : '/' ∉ utterance.speaker.toList) :
    Writes ground folder (path ++ joint)
      [Path.audioFile path index utterance.speaker,
        Path.sidecar (Path.audioFile path index utterance.speaker)]
      ((quiet settings).render path utterance index) := by
  have audio (content : ByteArray) := writes_save settings home joins
    (@isName_baseName index _ ".wav" plain (by decide)) content path
  have sidecar (content : ByteArray) := writes_save settings home joins
    (@isName_baseName index _ ".dat" plain (by decide)) content path
  rw [Studio.render_eq]
  dsimp only
  rw [Folder.text_ofText, joins.sidecar_audioFile index plain, joins.audioFile_eq]
  refine (writes_announce settings _ utterance index).bind fun _ => ?_
  refine (writes_consult settings _ utterance index).bind fun synthesis => ?_
  refine (audio synthesis.audio).bind fun _ => ?_
  refine (writes_report settings _).bind fun _ => ?_
  exact (sidecar _).bind fun _ => writes_pure _

/-- The files of a compilation are some of the script's outputs, whatever stops it. -/
theorem writes_compile (home : Home ground path folder) (joins : Path.Joint path joint) {source : String}
    {script : Script} (parsed : Script.parse source = .ok script) :
    Writes ground folder (path ++ joint) (outputs path script.utterances)
      ((quiet settings).compile source path) := by
  have loop : Writes ground folder (path ++ joint) (outputs path script.utterances)
      (script.utterances.zipIdx.mapM fun entry => (quiet settings).render path entry.1 entry.2) := by
    refine writes_mapM fun entry member => ?_
    exact writes_render settings home joins entry.1 entry.2
      (slash_notMem_speaker parsed (List.fst_mem_of_mem_zipIdx member))
  have whole := (writes_report settings (.parsed script.voices.size script.utterances.length)).bind fun _ =>
    (writes_report settings (.compiling script.utterances.length script.voices.size "preview")).bind fun _ =>
      loop.bind fun renderings =>
        (writes_report settings (.compiled script.utterances.length path)).bind fun _ =>
          writes_pure (Compilation.mk script.voices renderings)
  rw [List.nil_append, List.nil_append, List.append_nil, List.append_nil] at whole
  rw [Studio.compile, parsed]
  exact whole

theorem mem_outputs (joins : Path.Joint path joint) {utterances : List Utterance}
    (plain : ∀ utterance ∈ utterances, '/' ∉ utterance.speaker.toList) {output : String}
    (member : output ∈ outputs path utterances) :
    ∃ index speaker ending, output = path ++ joint ++ (Path.baseName index speaker ++ ending) := by
  obtain ⟨⟨utterance, index⟩, inside, found⟩ := List.mem_flatMap.mp member
  have named := plain utterance (List.fst_mem_of_mem_zipIdx inside)
  dsimp only at found
  rw [joins.sidecar_audioFile index named, joins.audioFile_eq] at found
  rcases List.mem_pair.mp found with same | same
  · exact ⟨index, _, _, same⟩
  · exact ⟨index, _, _, same⟩

/-- Compiling a script puts files of different names into the folder, and all of the names are names
of speeches. -/
theorem exists_fills (home : Home ground path folder) (source : String) :
    ∃ result files, Fills ground folder ((quiet settings).compile source path) result files ∧
      (files.map Prod.fst).Nodup ∧
      ∀ file ∈ files, ∃ index speaker ending, file.1 = Path.baseName index speaker ++ ending := by
  cases parsed : Script.parse source with
  | error reason =>
    refine ⟨.error (.script reason), [], .of_still fun disk => ?_, List.nodup_nil,
      fun _ member => absurd member List.not_mem_nil⟩
    rw [Studio.compile, parsed]
    rfl
  | ok script =>
    obtain ⟨joint, joins⟩ := Path.exists_joint path
    obtain ⟨result, files, fills, within, -⟩ := writes_compile settings home joins parsed
    have plain : ∀ utterance ∈ script.utterances, '/' ∉ utterance.speaker.toList :=
      fun utterance member => slash_notMem_speaker parsed member
    refine ⟨result, files, fills, ?_, ?_⟩
    · have distinct := (nodup_outputs joins plain).sublist within
      have names : files.map (fun file => path ++ joint ++ file.1) =
          (files.map Prod.fst).map (path ++ joint ++ ·) := by rw [List.map_map]; rfl
      rw [names] at distinct
      exact distinct.of_map
    · intro file member
      have output := within.mem (List.mem_map_of_mem member)
      obtain ⟨index, speaker, ending, same⟩ := mem_outputs joins plain output
      exact ⟨index, speaker, ending, (String.append_right_inj _).mp same⟩

theorem compile_silent (path : String) {source : String} {script : Script}
    (parsed : Script.parse source = .ok script) (silent : script.utterances = []) (disk : Disk) :
    ((quiet settings).compile source path).run disk = (.ok ⟨script.voices, []⟩, disk) := by
  obtain ⟨voices, utterances⟩ := script
  subst silent
  rw [Studio.compile, parsed]
  rfl

/-- A script that cannot be read is the only one to blame, and no file is made of it. -/
theorem state_of_script_error (home : ∃ folder, Home ground path folder) {source : String}
    {reason : ScriptError} {after : Disk}
    (compiled : ((quiet settings).compile source path).run ground = (.error (.script reason), after)) :
    after = ground := by
  cases parsed : Script.parse source with
  | error cause =>
    rw [Studio.compile, parsed] at compiled
    exact (Prod.mk.inj compiled).2.symm
  | ok script =>
    obtain ⟨folder, home⟩ := home
    obtain ⟨joint, joins⟩ := Path.exists_joint path
    obtain ⟨result, files, fills, -, blameless⟩ := writes_compile settings home joins parsed
    rw [fills.run ground (.refl ground)] at compiled
    exact absurd (Prod.mk.inj compiled).1 (blameless reason)

end Compilation

end Voiceover
