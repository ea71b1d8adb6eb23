import Mathlib.Tactic.ByContra
import Voiceover.Proofs.Session.Preparation

/-! Running twice. A run that has not written over its script finds, when it is run again, what it has
made: the configuration is read back, the folders are there, and every file is put again as it is.
There is one exception, in what a run says that was stopped at a file behind folders of its own
making. -/

namespace Voiceover.Session

open Disk

variable {disk ground after : Disk}

section Furnishing

theorem configured_of_find (there : (disk.find [configFile]).isSome) : configured disk = disk := by
  obtain ⟨entry, found⟩ := Option.isSome_iff_exists.mp there
  rw [configured, found]

/-- A folder that has all that a run furnishes is left as it is. -/
theorem furnish_of_home {config : Config} {folder : Place} (there : (disk.find [configFile]).isSome)
    (loads : Config.loaded disk configFile = .ok config) (home : Home disk config.outputFolder folder) :
    (furnish Disk.storage).run disk = (.ok config, disk) := by
  rw [run_furnish, configured_of_find there, loads]
  dsimp only
  rw [makeFolders_of_isFolder home.isFolder]

theorem rooted_configured (rooted : disk.Rooted) : (configured disk).Rooted := by
  unfold configured
  cases found : disk.find [configFile] with
  | some entry => exact rooted
  | none => exact rooted_put rooted found rfl

theorem grows_configured (disk : Disk) : Grows disk (configured disk) := by
  unfold configured
  cases found : disk.find [configFile] with
  | some entry => exact .refl disk
  | none => exact grows_put (List.cons_ne_nil _ _) fun folder => nomatch found.symm.trans folder

/-- What stops a furnishing stops the next one, unless it is a file that is then on the way. -/
theorem furnish_error {reason : SessionError}
    (failed : (furnish Disk.storage).run disk = (.error reason, ground)) :
    (furnish Disk.storage).run ground = (.error reason, ground) ∨
      reason = .outputFolder .alreadyThere ∧ ∃ config front, Config.loaded ground configFile = .ok config ∧
        FileOnWay ground (names config.outputFolder) front := by
  rcases furnish_cases failed with ⟨cause, loads, same, rfl⟩ | ⟨config, making, loads, made, same⟩
  · left
    rw [run_furnish, configured_of_find (find_configured disk), loads, same]
  · cases making with
    | ok done => exact nomatch same
    | error cause =>
      obtain rfl : reason = .outputFolder cause := Except.error.inj same
      obtain ⟨there, reloads⟩ := reloads_of_makeFolders loads made
      rcases makeFolders_again made with again | ⟨stopped, front, stands⟩
      · left
        rw [run_furnish, configured_of_find there, reloads]
        dsimp only
        rw [again]
      · exact .inr ⟨congrArg _ (Except.error.inj stopped), config, front, reloads, stands⟩

/-- A furnishing that has been stopped at a file, which is on the way to the folder that the
configuration names, has made that way itself, and is stopped in another way from then on. -/
theorem furnish_fileOnWay {config : Config} {front : List String}
    (failed : (furnish Disk.storage).run disk = (.error (.outputFolder .alreadyThere), ground))
    (loads : Config.loaded ground configFile = .ok config)
    (stands : FileOnWay ground (names config.outputFolder) front) :
    (furnish Disk.storage).run ground = (.error (.outputFolder .notFolder), ground) ∧
      (∀ there, disk.walk front ≠ .ok there) ∧ (disk.Rooted → ".." ∈ front) := by
  rcases furnish_cases failed with ⟨cause, -, same, -⟩ | ⟨loaded, making, first, made, same⟩
  · exact nomatch Except.error.inj same
  · obtain rfl : making = .error .alreadyThere := by
      cases making with
      | ok done => exact nomatch same
      | error cause => exact congrArg _ (SessionError.outputFolder.inj (Except.error.inj same)).symm
    obtain ⟨there, reloads⟩ := reloads_of_makeFolders first made
    obtain rfl : config = loaded := Except.ok.inj (loads.symm.trans reloads)
    obtain ⟨unreached, back⟩ := fileOnWay_made made stands
    refine ⟨?_, ?_, fun rooted => back (rooted_configured rooted)⟩
    · rw [run_furnish, configured_of_find there, loads]
      dsimp only
      rw [stands.makeFolders_eq (checkPath_of_makeFolders_error made)]
    · intro place walked
      exact unreached place (walk_of_grows (grows_configured disk) walked)

end Furnishing

theorem scripted_of_read {path : String} (same : disk.read path = after.read path) :
    scripted disk path = scripted after path := by
  rw [scripted, scripted, entryAt_of_read same]

theorem gathered_of_read {config : Config} (same : disk.read config.scriptFile = after.read config.scriptFile) :
    gathered disk config = gathered after config := by
  rw [gathered, gathered, scripted_of_read same]

theorem scripted_ne (disk : Disk) (path : String) (cause : FileError) :
    scripted disk path ≠ .error (.outputFolder cause) := by
  intro failed
  unfold scripted at failed
  split at failed
  · cases failed
  · cases failed
  · cases failed
  · split at failed <;> cases failed

theorem gathered_ne (disk : Disk) (config : Config) (cause : FileError) :
    gathered disk config ≠ .error (.outputFolder cause) := by
  intro failed
  unfold gathered at failed
  split at failed
  · rename_i reason unread
    cases failed
    exact scripted_ne disk config.scriptFile cause unread
  · split at failed <;> cases failed

theorem on_of_furnish_error {reason : SessionError}
    (failed : (furnish Disk.storage).run disk = (.error reason, ground)) : on disk = (.error reason, ground) := by
  rw [on_eq, run_prepare, failed]

theorem on_of_furnish_ok {config : Config}
    (furnished : (furnish Disk.storage).run disk = (.ok config, ground)) :
    on disk =
      match gathered ground config with
      | .error reason => (.error reason, ground)
      | .ok (config, settings, script) =>
          match ((quiet settings).compile script config.outputFolder).run ground with
          | (.error reason, after) => (.error (.compile reason), after)
          | (.ok compilation, after) =>
              (.ok (compilation.renderings.length, config.outputFolder), after) := by
  rw [on_eq, run_prepare, furnished]
  dsimp only
  cases gathered ground config <;> rfl

/-- A run that has its folder comes to the same when it is run again, whatever stops it. -/
theorem on_again_of_furnish_ok {config : Config}
    (furnished : (furnish Disk.storage).run disk = (.ok config, ground))
    (kept : (on disk).2.read config.scriptFile = ground.read config.scriptFile) :
    on (on disk).2 = on disk := by
  obtain ⟨there, loads, folder, home⟩ := furnish_ok furnished
  have ran := on_of_furnish_ok furnished
  cases gathers : gathered ground config with
  | error reason =>
    rw [gathers] at ran
    rw [ran, on_of_furnish_ok (furnish_of_home there loads home), gathers]
  | ok needed =>
    obtain ⟨same, settings, script⟩ := needed
    obtain rfl := config_of_gathered gathers
    obtain ⟨result, files, fills, distinct, named⟩ := exists_fills settings home script
    have elsewhere : ∀ file ∈ files, [configFile] ≠ file.1 :: folder := by
      intro file member same
      obtain ⟨index, speaker, ending, shape⟩ := named file member
      exact baseName_append_ne index speaker ending (by decide) (shape.symm.trans (List.cons.inj same).1.symm)
    have untouched : (ground.fill folder files).find [configFile] = ground.find [configFile] :=
      find_fill_of_notMem elsewhere
    have sameFolders := (SameFolders.refl ground).fill fills.free
    have furnishedAgain : (furnish Disk.storage).run (ground.fill folder files) =
        (.ok config, ground.fill folder files) :=
      furnish_of_home (untouched ▸ there) ((loaded_of_find untouched).trans loads)
        (home.of_sameFolders sameFolders)
    have again := fills.run _ sameFolders
    rw [fill_fill _ _ distinct] at again
    rw [gathers] at ran
    dsimp only at ran
    rw [fills.run ground (.refl ground)] at ran
    have left : (on disk).2 = ground.fill folder files := by
      rw [ran]
      cases result <;> rfl
    have gathersAgain := gathered_of_read kept
    rw [left, gathers] at gathersAgain
    rw [left, ran, on_of_furnish_ok furnishedAgain, gathersAgain]
    dsimp only
    rw [again]

/-- Only the furnishing makes the folder. -/
theorem furnish_of_on_error {cause : FileError} (stopped : (on disk).1 = .error (.outputFolder cause)) :
    ∃ ground, (furnish Disk.storage).run disk = (.error (.outputFolder cause), ground) := by
  cases furnished : (furnish Disk.storage).run disk with
  | mk result ground =>
    cases result with
    | error reason =>
      rw [on_of_furnish_error furnished] at stopped
      exact ⟨ground, by rw [Except.error.inj stopped]⟩
    | ok config =>
      rw [on_of_furnish_ok furnished] at stopped
      cases gathers : gathered ground config with
      | error reason =>
        rw [gathers] at stopped
        obtain rfl := Except.error.inj stopped
        exact absurd gathers (gathered_ne ground config cause)
      | ok needed =>
        obtain ⟨config, settings, script⟩ := needed
        rw [gathers] at stopped
        dsimp only at stopped
        split at stopped <;> cases stopped

/-- A run that was stopped at a file in the place of a folder, where names of the way to the folder for
its files lead to the file and more names come behind them. -/
structure Blocked (disk : Disk) (config : Config) (front : List String) : Prop where
  stopped : (on disk).1 = .error (.outputFolder .alreadyThere)
  loads : (Config.load Disk.storage configFile).run (on disk).2 = (.ok config, (on disk).2)
  stands : FileOnWay (on disk).2 (names config.outputFolder) front

theorem Blocked.again {config : Config} {front : List String} (blocked : Blocked disk config front) :
    on (on disk).2 = (.error (.outputFolder .notFolder), (on disk).2) ∧
      (∀ there, disk.walk front ≠ .ok there) ∧ (disk.Rooted → ".." ∈ front) := by
  obtain ⟨stopped, loads, stands⟩ := blocked
  obtain ⟨ground, failed⟩ := furnish_of_on_error stopped
  rw [on_of_furnish_error failed] at loads stands
  rw [Config.run_load] at loads
  obtain ⟨again, made⟩ := furnish_fileOnWay failed (Prod.mk.inj loads).1 stands
  rw [on_of_furnish_error failed]
  exact ⟨on_of_furnish_error again, made⟩

theorem on_again_or_blocked
    (kept : ∀ config ground, (furnish Disk.storage).run disk = (.ok config, ground) →
      (on disk).2.read config.scriptFile = ground.read config.scriptFile) :
    on (on disk).2 = on disk ∨ ∃ config front, Blocked disk config front := by
  cases furnished : (furnish Disk.storage).run disk with
  | mk result ground =>
    cases result with
    | ok config => exact .inl (on_again_of_furnish_ok furnished (kept config ground furnished))
    | error reason =>
      have ran := on_of_furnish_error furnished
      rcases furnish_error furnished with again | ⟨rfl, config, front, loads, stands⟩
      · rw [ran]
        exact .inl (on_of_furnish_error again)
      · refine .inr ⟨config, front, ?_, ?_, ?_⟩ <;> rw [ran]
        · rw [Config.run_load, loads]
        · exact stands

/-- When the script is read after a run as it was when the folder was furnished, which changes no file,
then a second run leaves everything as it is and comes to the same. Only, what a run says that was
blocked is not what the next one says. The names that lead to the file led nowhere before that run, and
where everything is in a folder they turn back. -/
theorem on_again (disk : Disk)
    (kept : ∀ config ground, (furnish Disk.storage).run disk = (.ok config, ground) →
      (on disk).2.read config.scriptFile = ground.read config.scriptFile) :
    (on (on disk).2).2 = (on disk).2 ∧
      (Outcome.ofResult (on (on disk).2).1).exitCode = (Outcome.ofResult (on disk).1).exitCode ∧
      (Outcome.ofResult (on (on disk).2).1).output = (Outcome.ofResult (on disk).1).output ∧
      ((Outcome.ofResult (on (on disk).2).1).error ≠ (Outcome.ofResult (on disk).1).error ↔
        ∃ config front, Blocked disk config front) ∧
      ∀ config front, Blocked disk config front →
        (Outcome.ofResult (on disk).1).error = some "File exists (os error 17)" ∧
          (Outcome.ofResult (on (on disk).2).1).error = some "Not a directory (os error 20)" ∧
          (∀ there, disk.walk front ≠ .ok there) ∧ (disk.Rooted → ".." ∈ front) := by
  have blocks : ∀ config front, Blocked disk config front →
      (Outcome.ofResult (on disk).1).error = some "File exists (os error 17)" ∧
        (Outcome.ofResult (on (on disk).2).1).error = some "Not a directory (os error 20)" ∧
        (∀ there, disk.walk front ≠ .ok there) ∧ (disk.Rooted → ".." ∈ front) := by
    intro config front blocked
    obtain ⟨again, made⟩ := blocked.again
    rw [again, blocked.stopped]
    exact ⟨rfl, rfl, made⟩
  have differ : (∃ config front, Blocked disk config front) →
      (Outcome.ofResult (on (on disk).2).1).error ≠ (Outcome.ofResult (on disk).1).error := by
    rintro ⟨config, front, blocked⟩
    obtain ⟨first, second, -⟩ := blocks config front blocked
    rw [first, second]
    decide
  rcases on_again_or_blocked kept with same | ⟨config, front, blocked⟩
  · refine ⟨by rw [same], by rw [same], by rw [same], ⟨fun differs => ?_, differ⟩, blocks⟩
    rw [same] at differs
    exact absurd rfl differs
  · obtain ⟨again, -⟩ := blocked.again
    refine ⟨by rw [again], ?_, ?_, ⟨fun _ => ⟨config, front, blocked⟩, differ⟩, blocks⟩
    · rw [again, blocked.stopped]
      rfl
    · rw [again, blocked.stopped]
      rfl

attribute [ext] Outcome

/-- A first run in a folder with a script makes files in its folder and compiles, whatever comes of it. -/
theorem on_fresh (text : String) :
    ∃ (result : Except CompileError Compilation) (files : List (String × ByteArray)),
      on (fresh text) =
        ((result.map fun compilation => (compilation.renderings.length, Config.standard.outputFolder)).mapError
          .compile, (furnished text).fill [Config.standard.outputFolder] files) := by
  have home : Home (furnished text) Config.standard.outputFolder [Config.standard.outputFolder] :=
    ⟨.inr rfl, rfl, rfl⟩
  obtain ⟨result, files, fills, -⟩ := exists_fills .standard home text
  refine ⟨result, files, ?_⟩
  rw [on_of_furnish_ok (furnish_fresh text), gathered_furnished]
  dsimp only
  rw [fills.run _ (.refl _)]
  cases result <;> rfl

/-- What is read of a script under its standard name is what has that name. -/
theorem read_scriptFile (same : disk.find [Config.standard.scriptFile] = after.find [Config.standard.scriptFile]) :
    disk.read Config.standard.scriptFile = after.read Config.standard.scriptFile := by
  have isName : IsName Config.standard.scriptFile := ⟨by decide, by decide, by decide, by decide⟩
  rw [Disk.read, Disk.read, isName.entryAt rfl (by decide), isName.entryAt rfl (by decide), same]

theorem read_script_fresh (text : String) :
    (on (fresh text)).2.read Config.standard.scriptFile = (furnished text).read Config.standard.scriptFile := by
  obtain ⟨result, files, ran⟩ := on_fresh text
  have untouched : ((furnished text).fill [Config.standard.outputFolder] files).find
      [Config.standard.scriptFile] = (furnished text).find [Config.standard.scriptFile] :=
    find_fill_of_notMem fun _ _ same => nomatch (List.cons.inj same).2
  rw [ran, read_scriptFile untouched]

/-- A first run makes its configuration, its folder and its files, and a second one comes to the same. -/
theorem on_again_fresh :
    let first := on (fresh "amy: hi")
    let second := on first.2
    (∀ config ground, (furnish Disk.storage).run (fresh "amy: hi") = (.ok config, ground) →
        first.2.read config.scriptFile = ground.read config.scriptFile) ∧
      second.2 = first.2 ∧ Outcome.ofResult second.1 = Outcome.ofResult first.1 := by
  have kept : ∀ config ground, (furnish Disk.storage).run (fresh "amy: hi") = (.ok config, ground) →
      (on (fresh "amy: hi")).2.read config.scriptFile = ground.read config.scriptFile := by
    intro config ground furnished
    rw [furnish_fresh] at furnished
    obtain ⟨same, rfl⟩ := Prod.mk.inj furnished
    rw [← Except.ok.inj same]
    exact read_script_fresh "amy: hi"
  obtain ⟨left, exitCode, output, differ, -⟩ := on_again (fresh "amy: hi") kept
  refine ⟨kept, left, Outcome.ext exitCode output ?_⟩
  by_contra differs
  obtain ⟨config, front, blocked⟩ := differ.mp differs
  obtain ⟨result, files, ran⟩ := on_fresh "amy: hi"
  have stopped := blocked.stopped
  rw [ran] at stopped
  cases result <;> cases stopped

def crossing : Config := { Config.standard with outputFolder := "a/../f/c" }

def crossed : Disk :=
  ⟨[(["f"], .file "x".toUTF8), ([Config.standard.scriptFile], .file "amy: hi".toUTF8),
    ([configFile], .file crossing.text.toUTF8)]⟩

theorem loaded_crossing (found : disk.find [configFile] = some (.file crossing.text.toUTF8)) :
    Config.loaded disk configFile = .ok crossing := by
  rw [Config.loaded, entryAt_configFile, found]
  simp only [Config.fromUTF8?_toUTF8, Config.parse_text]
  rfl

theorem makeFolders_crossed :
    crossed.makeFolders crossing.outputFolder = (crossed.put ["a"] .folder, .error .alreadyThere) := by
  have missing (path : String) (checked : checkPath path = .ok ())
      (reached : crossed.reach (names path) = .error .missing) :
      crossed.settleFolder path = (crossed, .error .missing) := by
    rw [settleFolder_eq checked, reached]
  have parents : Path.parent "a/../f/c" = some "a/../f" ∧ Path.parent "a/../f" = some "a/.." ∧
      Path.parent "a/.." = some "a" := by decide +kernel
  have there : crossed.makeFolders "a" = (crossed.put ["a"] .folder, .ok ()) :=
    makeFolders_settled (by decide) (settleFolder_eq rfl) nofun
  have back : crossed.makeFolders "a/.." = (crossed.put ["a"] .folder, .ok ()) := by
    rw [makeFolders_missing (by decide) (missing "a/.." rfl rfl) parents.2.2, there]
    exact settleFolder_eq rfl
  have stopped : crossed.makeFolders "a/../f" = (crossed.put ["a"] .folder, .error .alreadyThere) := by
    rw [makeFolders_missing (by decide) (missing "a/../f" rfl rfl) parents.2.1, back]
    exact settleFolder_eq rfl
  rw [crossing, makeFolders_missing (by decide) (missing "a/../f/c" rfl rfl) parents.1, stopped]

theorem makeFolders_crossed_again :
    (crossed.put ["a"] .folder).makeFolders crossing.outputFolder =
      (crossed.put ["a"] .folder, .error .notFolder) :=
  makeFolders_settled (by decide) (settleFolder_eq rfl) nofun

/-- A second run may say something else about the same file in its way. -/
theorem on_crossed :
    (on crossed).2.read Config.standard.scriptFile = crossed.read Config.standard.scriptFile ∧
      Outcome.ofResult (on crossed).1 = ⟨1, "", some "File exists (os error 17)"⟩ ∧
      Outcome.ofResult (on (on crossed).2).1 = ⟨1, "", some "Not a directory (os error 20)"⟩ := by
  have first : on crossed = (.error (.outputFolder .alreadyThere), crossed.put ["a"] .folder) := by
    apply on_of_furnish_error
    rw [run_furnish, configured_of_find rfl, loaded_crossing rfl]
    dsimp only
    rw [makeFolders_crossed]
  have second : on (crossed.put ["a"] .folder) =
      (.error (.outputFolder .notFolder), crossed.put ["a"] .folder) := by
    apply on_of_furnish_error
    rw [run_furnish, configured_of_find rfl, loaded_crossing rfl]
    dsimp only
    rw [makeFolders_crossed_again]
  have untouched : (crossed.put ["a"] .folder).find [Config.standard.scriptFile] =
      crossed.find [Config.standard.scriptFile] := by
    rw [find_put (List.cons_ne_nil _ _), if_neg (by decide)]
  rw [first, second]
  exact ⟨read_scriptFile untouched, rfl, rfl⟩

end Voiceover.Session
