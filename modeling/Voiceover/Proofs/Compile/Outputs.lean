import Mathlib.Data.List.Nodup
import Voiceover.Proofs.Compile.Enactment
import Voiceover.Proofs.Path.Naming
import Voiceover.Proofs.Script.Grammar

/-! The files of a script: two for every speech, all in the one folder and no two of them the same. A
run writes some of them, and none twice. -/

namespace Voiceover

open Text

theorem mem_of_mem_trim {text : List Char} {c : Char} (member : c ∈ trim text) : c ∈ text := by
  rw [trim, trimEnd_eq_rdropWhile] at member
  have kept := (List.rdropWhile_prefix isWhite (trimStart text)).mem member
  exact (List.dropWhile_sublist isWhite).mem kept

theorem exists_of_forall₂ {α β : Type} {related : α → β → Prop} {entries : List α} {values : List β}
    (all : List.Forall₂ related entries values) {value : β} (member : value ∈ values) :
    ∃ entry ∈ entries, related entry value := by
  induction all with
  | nil => simp at member
  | cons first _ ih =>
    rcases List.mem_cons.mp member with rfl | later
    · exact ⟨_, List.mem_cons_self, first⟩
    · obtain ⟨entry, inside, found⟩ := ih later
      exact ⟨entry, List.mem_cons_of_mem _ inside, found⟩

/-- A speech that has been read has no slash in its speaker, wherever white space was cut off. -/
theorem slash_notMem_speaker {source : String} {script : Script}
    (parsed : Script.parse source = .ok script) {utterance : Utterance}
    (member : utterance ∈ script.utterances) : '/' ∉ utterance.speaker.toList := by
  have means := ((Script.parse_eq_ok_iff source script).mp parsed).2
  obtain ⟨line, -, speaker, text, parts, named, -⟩ := exists_of_forall₂ means.utterances member
  obtain ⟨-, -, -, noSlash, -⟩ := parts
  rw [named, String.toList_ofList]
  exact fun slash => noSlash (mem_of_mem_trim slash)

def outputsFrom (folder : String) (first : Nat) (utterances : List Utterance) : List String :=
  (utterances.zipIdx first).flatMap fun (utterance, index) =>
    [Path.audioFile folder index utterance.speaker,
      Path.sidecar (Path.audioFile folder index utterance.speaker)]

def outputs (folder : String) (utterances : List Utterance) : List String :=
  outputsFrom folder 0 utterances

theorem outputsFrom_cons (folder : String) (first : Nat) (utterance : Utterance)
    (later : List Utterance) :
    outputsFrom folder first (utterance :: later) =
      [Path.audioFile folder first utterance.speaker,
        Path.sidecar (Path.audioFile folder first utterance.speaker)] ++
        outputsFrom folder (first + 1) later := rfl

theorem length_outputsFrom (folder : String) (first : Nat) (utterances : List Utterance) :
    (outputsFrom folder first utterances).length = 2 * utterances.length := by
  induction utterances generalizing first with
  | nil => rfl
  | cons utterance later ih =>
    rw [outputsFrom_cons, List.length_append, ih, List.length_cons]
    simp only [List.length_cons, List.length_nil]
    omega

section Names

variable {folder joint : String} (joins : Path.Joint folder joint)

include joins

theorem nodup_files (index : Nat) {speaker : String} (plain : '/' ∉ speaker.toList) :
    [Path.audioFile folder index speaker, Path.sidecar (Path.audioFile folder index speaker)].Nodup := by
  rw [joins.sidecar_audioFile index plain, joins.audioFile_eq]
  simp

theorem index_eq_of_mem_files {index other : Nat} {speaker voice path : String}
    (plain : '/' ∉ speaker.toList) (voicePlain : '/' ∉ voice.toList)
    (member : path ∈ [Path.audioFile folder index speaker,
      Path.sidecar (Path.audioFile folder index speaker)])
    (again : path ∈ [Path.audioFile folder other voice,
      Path.sidecar (Path.audioFile folder other voice)]) : index = other := by
  have ends {number : Nat} {name : String} (named : '/' ∉ name.toList)
      (found : path ∈ [Path.audioFile folder number name,
        Path.sidecar (Path.audioFile folder number name)]) :
      ∃ ending, path = folder ++ joint ++ (Path.baseName number name ++ ending) := by
    rw [joins.sidecar_audioFile number named, joins.audioFile_eq] at found
    rcases List.mem_pair.mp found with audio | sidecar
    · exact ⟨_, audio⟩
    · exact ⟨_, sidecar⟩
  obtain ⟨ending, first⟩ := ends plain member
  obtain ⟨close, second⟩ := ends voicePlain again
  have same := (String.append_right_inj _).mp (first.symm.trans second)
  exact Path.index_eq_of_baseName same

theorem nodup_outputs {utterances : List Utterance}
    (plain : ∀ utterance ∈ utterances, '/' ∉ utterance.speaker.toList) :
    (outputs folder utterances).Nodup := by
  have named : ∀ entry ∈ utterances.zipIdx, '/' ∉ entry.1.speaker.toList := by
    intro entry member
    exact plain _ (List.fst_mem_of_mem_zipIdx member)
  apply List.nodup_flatMap.mpr
  constructor
  · intro entry member
    exact nodup_files joins entry.2 (named entry member)
  · -- Two speeches never share an index, whoever speaks.
    have indices : utterances.zipIdx.Pairwise fun entry other => entry.2 ≠ other.2 := by
      apply List.pairwise_map.mp
      change (utterances.zipIdx.map Prod.snd).Nodup
      rw [List.zipIdx_map_snd]
      exact List.nodup_range'
    apply indices.imp_of_mem
    intro entry other member otherMember different path inside otherInside
    exact different (index_eq_of_mem_files joins (named entry member) (named other otherMember)
      inside otherInside)

end Names

def Rehearsed.targets (rehearsed : Rehearsed σ) : List String :=
  rehearsed.acts.filterMap fun act => act.file?.map Prod.fst

theorem paths_cues_sublist (folder : Folder) (take : Take) :
    ((filesOf (take.cues folder)).map Prod.fst).Sublist
      [(take.audio folder).text, (take.sidecar folder).text] := by
  unfold Take.cues
  cases take.answer with
  | error failure => exact List.nil_sublist _
  | ok synthesis => exact List.Sublist.refl _

namespace Rehearsal

variable (rehearsal : Rehearsal σ)

theorem paths_agenda_sublist (folder : Folder) (earlier utterances : List Utterance) :
    ((filesOf (rehearsal.agenda folder earlier utterances)).map Prod.fst).Sublist
      (outputsFrom folder.text earlier.length utterances) := by
  induction utterances generalizing earlier with
  | nil => exact List.nil_sublist _
  | cons utterance later ih =>
    have rest := ih (earlier ++ [utterance])
    rw [List.length_append, List.length_singleton] at rest
    rw [agenda_cons, filesOf_append, List.map_append, outputsFrom_cons]
    exact (paths_cues_sublist folder _).append rest

theorem targets_sublist_outputs (start : σ) {source : String} {script : Script}
    (parsed : Script.parse source = .ok script) (folder : Folder) :
    (rehearsal.compile start source folder).2.targets.Sublist
      (outputs folder.text script.utterances) := by
  obtain ⟨done, rest, planned, reached, -⟩ := compile_stands rehearsal start parsed folder
  have asked : (rehearsal.compile start source folder).2.targets =
      (filesOf (done ++ rest.take 1)).map Prod.fst := by
    rw [Rehearsed.targets, reached.acts, List.nil_append, filesOf, List.filterMap_map,
      List.map_filterMap]
    rfl
  have reachedPlan : (done ++ rest.take 1).Sublist (rehearsal.agenda folder [] script.utterances) := by
    rw [planned]
    exact (List.take_sublist 1 rest).append_left done
  -- A run asks for the files of a part of its agenda, and an answer that failed has none.
  rw [asked]
  exact ((reachedPlan.filterMap _).map _).trans
    (rehearsal.paths_agenda_sublist folder [] script.utterances)

end Rehearsal

/-- Every file of a script has a name of its own in the folder, and a sidecar differs from its audio
file in nothing but the extension. So no run writes to a file that it has written before. -/
theorem outputs_distinct {source : String} {script : Script}
    (parsed : Script.parse source = .ok script) (folder : String) :
    (∀ index utterance, script.utterances[index]? = some utterance →
      ∃ joint, Path.Joint folder joint ∧
        '/' ∉ (Path.baseName index utterance.speaker ++ ".wav").toList ∧
        Path.audioFile folder index utterance.speaker =
          folder ++ joint ++ (Path.baseName index utterance.speaker ++ ".wav") ∧
        Path.sidecar (Path.audioFile folder index utterance.speaker) =
          folder ++ joint ++ (Path.baseName index utterance.speaker ++ ".dat")) ∧
    (outputs folder script.utterances).length = 2 * script.utterances.length ∧
    (outputs folder script.utterances).Nodup ∧
    ∀ (σ : Type) (rehearsal : Rehearsal σ) (start : σ) (place : Folder), place.text = folder →
      (rehearsal.compile start source place).2.targets.Sublist
          (outputs folder script.utterances) ∧
        (rehearsal.compile start source place).2.targets.Nodup := by
  obtain ⟨joint, joins⟩ := Path.exists_joint folder
  have plain : ∀ utterance ∈ script.utterances, '/' ∉ utterance.speaker.toList :=
    fun utterance member => slash_notMem_speaker parsed member
  have distinct := nodup_outputs joins plain
  refine ⟨?_, length_outputsFrom folder 0 _, distinct, ?_⟩
  · intro index utterance spoken
    have named := plain utterance (List.mem_of_getElem? spoken)
    refine ⟨joint, joins, ?_, joins.audioFile_eq index _, joins.sidecar_audioFile index named⟩
    rw [String.toList_append]
    intro slash
    rcases List.mem_append.mp slash with base | extension
    · exact Path.slash_notMem_baseName index named base
    · exact absurd extension (by decide)
  · rintro σ rehearsal start place rfl
    have written := rehearsal.targets_sublist_outputs start parsed place
    exact ⟨written, distinct.sublist written⟩

/-- A speaker of dots only, between two speeches of one speaker. -/
theorem outputs_distinct_dots :
    ∃ script, Script.parse "amy: hi\n..: ho\namy: ha" = .ok script ∧
      (outputs "out/" script.utterances).Nodup ∧
      Path.sidecar (Path.audioFile "out/" 1 "..") = "out/speak_001_...dat" := by
  let amy (text : String) : Utterance := ⟨"amy", text, .builtIn⟩
  let dots : Utterance := ⟨"..", "ho", .builtIn⟩
  have parsed : Script.parse "amy: hi\n..: ho\namy: ha" =
      .ok ⟨⟨[]⟩, [amy "hi", dots, amy "ha"]⟩ := by decide +kernel
  obtain ⟨named, -, distinct, -⟩ := outputs_distinct parsed "out/"
  obtain ⟨joint, joins, -, -, sidecar⟩ := named 1 dots rfl
  refine ⟨_, parsed, distinct, ?_⟩
  rcases joins with ⟨rfl, -⟩ | ⟨-, closed⟩
  · rw [sidecar]
    decide +kernel
  · exact absurd (.inr rfl) closed

end Voiceover
