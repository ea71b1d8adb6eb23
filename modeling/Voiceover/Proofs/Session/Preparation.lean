import Voiceover.Proofs.Session.Phases

/-! What a run leaves behind that synthesizes nothing. Until the script has been parsed nothing but a
configuration and folders can have been made, and a script without speeches makes nothing more. -/

namespace Voiceover

def SessionError.IsEarly : SessionError → Prop
  | .compile (.script _) => True
  | .compile _ => False
  | _ => True

namespace Session

open Disk

variable {disk before middle after : Disk}

/-- Everything is there that was there before, file by file with the same content. The only file that
has come is the standard configuration, where there was none, and the only folders that have come are
on the way to the folder that the configuration names. -/
structure Spares (before after : Disk) : Prop where
  kept : ∀ place entry, before.find place = some entry → after.find place = some entry
  addedFile : ∀ place content, before.find place = none → after.find place = some (.file content) →
    place = [configFile] ∧ content = Config.standard.text.toUTF8
  addedFolder : ∀ place, before.find place = none → after.find place = some .folder →
    ∃ config front, (Config.load Disk.storage configFile).run after = (.ok config, after) ∧
      front <+: names config.outputFolder ∧ after.walk front = .ok place

section Furnishing

theorem find_configured (disk : Disk) : ((configured disk).find [configFile]).isSome := by
  unfold configured
  cases found : disk.find [configFile] with
  | some entry => simp only [found, Option.isSome_some]
  | none => simp only [find_put_self (List.cons_ne_nil _ _), Option.isSome_some]

theorem configured_cases (disk : Disk) (place : Place) :
    (configured disk).find place = disk.find place ∨
      place = [configFile] ∧ disk.find place = none ∧
        (configured disk).find place = some (.file Config.standard.text.toUTF8) := by
  unfold configured
  cases found : disk.find [configFile] with
  | some entry => exact .inl rfl
  | none =>
    dsimp only
    rw [find_put (List.cons_ne_nil _ _)]
    split_ifs with same
    · exact .inr ⟨same, same ▸ found, rfl⟩
    · exact .inl rfl

theorem spares_configured (disk : Disk) : Spares disk (configured disk) := by
  refine ⟨?_, ?_, ?_⟩
  · intro place entry found
    rcases configured_cases disk place with same | ⟨-, missing, -⟩
    · rw [same, found]
    · exact nomatch missing.symm.trans found
  · intro place content missing found
    rcases configured_cases disk place with same | ⟨here, -, put⟩
    · exact nomatch missing.symm.trans (same.symm.trans found)
    · exact ⟨here, (Entry.file.inj (Option.some.inj (put.symm.trans found))).symm⟩
  · intro place missing found
    rcases configured_cases disk place with same | ⟨-, -, put⟩
    · exact nomatch missing.symm.trans (same.symm.trans found)
    · exact nomatch put.symm.trans found

/-- No folder that is made is in the place of a configuration. -/
theorem paves_configuration {way : List String} (paves : Paves way middle after)
    (there : (middle.find [configFile]).isSome) :
    (after.find [configFile]).isSome ∧ Config.loaded after configFile = Config.loaded middle configFile := by
  obtain ⟨entry, found⟩ := Option.isSome_iff_exists.mp there
  have still := paves.kept _ entry found
  exact ⟨by rw [still]; rfl, loaded_of_find (still.trans found.symm)⟩

/-- Whatever comes of making the folder, the configuration that names it is read back. -/
theorem reloads_of_makeFolders {config : Config} {made : Except FileError Unit}
    (loads : Config.loaded (configured disk) configFile = .ok config)
    (making : (configured disk).makeFolders config.outputFolder = (after, made)) :
    (after.find [configFile]).isSome ∧ Config.loaded after configFile = .ok config := by
  have paves := makeFolders_paves (configured disk) config.outputFolder
  rw [making] at paves
  rw [← loads]
  exact paves_configuration paves (find_configured disk)

theorem Spares.paves {config : Config} (spares : Spares before middle)
    (paves : Paves (names config.outputFolder) middle after) (there : (middle.find [configFile]).isSome)
    (loads : Config.loaded middle configFile = .ok config) : Spares before after := by
  have reloads : (Config.load Disk.storage configFile).run after = (.ok config, after) := by
    rw [Config.run_load, (paves_configuration paves there).2, loads]
  refine ⟨fun place entry found => paves.kept place entry (spares.kept place entry found), ?_, ?_⟩
  · intro place content missing found
    cases between : middle.find place with
    | none => exact nomatch (paves.added place _ between found).1
    | some entry =>
      obtain rfl := Option.some.inj ((paves.kept place entry between).symm.trans found)
      exact spares.addedFile place content missing between
  · intro place missing found
    cases between : middle.find place with
    | none =>
      obtain ⟨-, front, onWay, walked⟩ := paves.added place _ between found
      exact ⟨config, front, reloads, onWay, walked⟩
    | some entry =>
      obtain rfl := Option.some.inj ((paves.kept place entry between).symm.trans found)
      obtain ⟨other, front, load, onWay, walked⟩ := spares.addedFolder place missing between
      rw [Config.run_load, loads] at load
      obtain rfl := Except.ok.inj (Prod.mk.inj load).1
      exact ⟨config, front, reloads, onWay, walk_of_grows paves.grows walked⟩

theorem spares_furnish {result : Except SessionError Config}
    (furnished : (furnish Disk.storage).run disk = (result, after)) : Spares disk after := by
  rcases furnish_cases furnished with ⟨reason, -, -, rfl⟩ | ⟨config, making, loads, made, -⟩
  · exact spares_configured disk
  · have paves := makeFolders_paves (configured disk) config.outputFolder
    rw [made] at paves
    exact (spares_configured disk).paves paves (find_configured disk) loads

theorem spares_prepare (disk : Disk) : Spares disk ((prepare Disk.storage).run disk).2 := by
  rw [run_prepare]
  cases furnished : (furnish Disk.storage).run disk with
  | mk result grown => cases result <;> exact spares_furnish furnished

theorem config_of_gathered {loaded config : Config} {settings : PreviewSettings} {source : String}
    (gathers : gathered disk loaded = .ok (config, settings, source)) : loaded = config := by
  unfold gathered at gathers
  split at gathers
  · exact nomatch gathers
  · split at gathers
    · exact nomatch gathers
    · exact (Prod.mk.inj (Except.ok.inj gathers)).1

/-- When the furnishing is done the configuration is read back, and where the files go is there. -/
theorem furnish_ok {config : Config} (furnished : (furnish Disk.storage).run disk = (.ok config, after)) :
    (after.find [configFile]).isSome ∧ Config.loaded after configFile = .ok config ∧
      ∃ folder, Home after config.outputFolder folder := by
  rcases furnish_cases furnished with ⟨reason, -, failed, -⟩ | ⟨loaded, making, loads, made, same⟩
  · exact nomatch failed
  · cases making with
    | error reason => exact nomatch same
    | ok done =>
      obtain rfl : config = loaded := Except.ok.inj same
      obtain ⟨there, reloads⟩ := reloads_of_makeFolders loads made
      exact ⟨there, reloads, exists_home made⟩

theorem home_of_prepare {config : Config} {settings : PreviewSettings} {source : String}
    (prepared : (prepare Disk.storage).run disk = (.ok (config, settings, source), after)) :
    ∃ folder, Home after config.outputFolder folder := by
  rw [run_prepare] at prepared
  cases furnished : (furnish Disk.storage).run disk with
  | mk result grown =>
    rw [furnished] at prepared
    cases result with
    | error reason => exact nomatch (Prod.mk.inj prepared).1
    | ok loaded =>
      obtain ⟨gathers, rfl⟩ := Prod.mk.inj prepared
      rw [← config_of_gathered gathers]
      exact (furnish_ok furnished).2.2

end Furnishing

/-- A run that fails before it synthesizes a speech spares the disk, and so does a run of a script that
only declares voices, which succeeds with no lines. -/
theorem on_before_synthesis (disk : Disk) :
    (∀ reason after, on disk = (.error reason, after) → reason.IsEarly → Spares disk after) ∧
      ∀ config settings source ready script,
        (prepare Disk.storage).run disk = (.ok (config, settings, source), ready) →
        Script.parse source = .ok script → script.utterances = [] →
        ∃ result, on disk = (result, ready) ∧
          Outcome.ofResult result = ⟨0, s!"Wrote 0 lines to {config.outputFolder}\n", none⟩ ∧
          Spares disk ready := by
  have spares := spares_prepare disk
  refine ⟨?_, ?_⟩
  · intro reason after ran early
    rw [on_eq] at ran
    cases prepared : (prepare Disk.storage).run disk with
    | mk result ready =>
      rw [prepared] at ran spares
      cases result with
      | error cause =>
        obtain rfl : ready = after := (Prod.mk.inj ran).2
        exact spares
      | ok needed =>
        obtain ⟨config, settings, source⟩ := needed
        dsimp only at ran
        cases compiled : ((quiet settings).compile source config.outputFolder).run ready with
        | mk result done =>
          rw [compiled] at ran
          cases result with
          | ok compilation => exact nomatch (Prod.mk.inj ran).1
          | error cause =>
            obtain ⟨same, rfl⟩ := Prod.mk.inj ran
            obtain rfl := Except.error.inj same
            cases cause with
            | script fault =>
              rw [state_of_script_error settings (home_of_prepare prepared) compiled]
              exact spares
            | _ => exact early.elim
  · intro config settings source ready script prepared parsed silent
    rw [prepared] at spares
    refine ⟨.ok (0, config.outputFolder), ?_, rfl, spares⟩
    rw [on_eq, prepared]
    dsimp only
    rw [compile_silent settings config.outputFolder parsed silent]
    rfl

/-- A speech without a colon and a voice without a speech, each of them on its own. -/
theorem on_before_synthesis_fresh :
    on (fresh "amy hi") =
        (.error (.compile (.script (.invalidSpeakLine 1 "amy hi"))), furnished "amy hi") ∧
      Spares (fresh "amy hi") (furnished "amy hi") ∧
      ∃ result, on (fresh "voice: amy, maria, 5") = (result, furnished "voice: amy, maria, 5") ∧
        Outcome.ofResult result = ⟨0, "Wrote 0 lines to output\n", none⟩ ∧
        Spares (fresh "voice: amy, maria, 5") (furnished "voice: amy, maria, 5") := by
  have rejected : Script.parse "amy hi" = .error (.invalidSpeakLine 1 "amy hi") := by decide +kernel
  have parsed : Script.parse "voice: amy, maria, 5" = .ok ⟨⟨[⟨"amy", "maria", 5⟩]⟩, []⟩ := by decide +kernel
  have ran : on (fresh "amy hi") =
      (.error (.compile (.script (.invalidSpeakLine 1 "amy hi"))), furnished "amy hi") := by
    rw [on_eq, prepare_fresh]
    dsimp only
    rw [Studio.compile, rejected]
    rfl
  exact ⟨ran, (on_before_synthesis _).1 _ _ ran trivial,
    (on_before_synthesis _).2 _ _ _ _ _ (prepare_fresh _) parsed rfl⟩

end Session

end Voiceover
