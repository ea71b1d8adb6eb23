import Mathlib.Tactic.SplitIfs
import Voiceover.Config
import Voiceover.Proofs.Disk.Walking
import Voiceover.Proofs.Yaml.Decimal
import Voiceover.Proofs.Yaml.Lines

/-! A configuration survives its text. The lines of the text give one list of tokens, whatever styles
the texts in it are written in, and the tree of these tokens holds every field under its key. -/

namespace Voiceover.Config

open Yaml

section Keys

theorem keyName_of_plain {key : String} (plain : plainAllowed key.toList = true)
    (short : (key.toList.map Char.utf8Size).sum ≤ Lexing.keyLimit)
    (opening : key.toList.head?.all (fun c => c ≠ '-' && c ≠ '.') = true) (filled : key.toList ≠ []) :
    Lexing.KeyName key.toList := by
  refine ⟨bare_of_plainAllowed plain, short, ?_⟩
  cases shape : key.toList with
  | nil => exact absurd shape filled
  | cons c others =>
    rw [shape] at opening
    exact ⟨c, others, rfl, by simpa using opening⟩

def keys : List String :=
  ["script_file", "output_folder", "audio", "provider", "preview", "phoneme_ms", "pause_ms"]

theorem keyName_of_mem {key : String} (member : key ∈ keys) : Lexing.KeyName key.toList := by
  have all : ∀ key ∈ keys, plainAllowed key.toList = true ∧
      (key.toList.map Char.utf8Size).sum ≤ Lexing.keyLimit ∧
      key.toList.head?.all (fun c => c ≠ '-' && c ≠ '.') = true ∧ key.toList ≠ [] := by
    decide
  obtain ⟨plain, short, opening, filled⟩ := all key member
  exact keyName_of_plain plain short opening filled

end Keys

section Tokens

variable {s₁ s₂ s₃ : ScalarStyle}

def pair (key : String) (value : List Token) : List Token :=
  .key :: .scalar .plain key :: .value :: value

def previewTokens : Option PreviewSettings → List Token
  | none => [.scalar .plain "null"]
  | some settings =>
      .blockMappingStart :: (pair "phoneme_ms" [.scalar .plain (toString settings.phonemeMillis.toNat)] ++
        pair "pause_ms" [.scalar .plain (toString settings.pauseMillis.toNat)] ++ [.blockEnd])

def tokens (script folder provider : ScalarStyle) (config : Config) : List Token :=
  .blockMappingStart :: (pair "script_file" [.scalar script config.scriptFile] ++
    pair "output_folder" [.scalar folder config.outputFolder] ++
    pair "audio" (.blockMappingStart :: (pair "provider" [.scalar provider config.audio.provider] ++
      pair "preview" (previewTokens config.audio.preview) ++ [.blockEnd])) ++ [.blockEnd])

theorem textLine_append (margin : Nat) (key text : String) (rest : List Char) :
    textLine margin key text ++ rest = spaces margin ++ (key.toList ++ ':' :: ' ' ::
      (scalar (margin + 2) text ++ closing (scalar (margin + 2) text) ++ rest)) := by
  simp [textLine, closing]

theorem numberLine_append (margin : Nat) (key : String) (number : UInt64) (rest : List Char) :
    numberLine margin key number ++ rest = spaces margin ++ (key.toList ++ ':' :: ' ' ::
      ((toString number.toNat).toList ++ '\n' :: rest)) := by
  simp [numberLine]

theorem previewLines_some (settings : PreviewSettings) :
    previewLines (some settings) = spaces 2 ++ ("preview".toList ++ ':' :: '\n' :: (spaces 4 ++
      ("phoneme_ms".toList ++ ':' :: ' ' :: ((toString settings.phonemeMillis.toNat).toList ++ '\n' ::
        (spaces 4 ++ ("pause_ms".toList ++ ':' :: ' ' :: ((toString settings.pauseMillis.toNat).toList ++
          '\n' :: (spaces 0 ++ [])))))))) := by
  have head : "  preview:\n".toList = spaces 2 ++ ("preview".toList ++ [':', '\n']) := by decide
  have lines : previewLines (some settings) = "  preview:\n".toList ++
      (numberLine 4 "phoneme_ms" settings.phonemeMillis ++
        (numberLine 4 "pause_ms" settings.pauseMillis ++ [])) := by
    rw [List.append_nil]
    exact List.append_assoc _ _ _
  rw [lines, numberLine_append, numberLine_append, head]
  simp only [List.append_assoc, List.cons_append, List.nil_append]
  rfl

theorem bare_number (number : Nat) : Bare (toString number).toList ∧ (toString number).toList ≠ [] := by
  rw [Nat.toString_eq_ofList_toDigits, String.toList_ofList]
  exact ⟨bare_of_digits fun c member => Nat.isDigit_of_mem_toDigits (by decide) (by decide) member,
    Nat.toDigits_ne_nil⟩

theorem startsLine_key {key : String} (member : key ∈ keys) (rest : List Char) :
    StartsLine (key.toList ++ rest) :=
  (keyName_of_mem member).startsLine rest

variable {lexing : Lexing} {before : List Token}

/-- The last lines are read, and the blocks around them end. -/
theorem run_previewLines (preview : Option PreviewSettings) {rest : List Char}
    (shape : previewLines preview = spaces 2 ++ rest)
    (awaits : lexing.Awaits before 2 [0, -1] 2 rest) :
    ∃ count ≤ 9, ∀ fuel, Lexing.run (fuel + count) lexing =
      .ok (before.reverse ++ pair "preview" (previewTokens preview) ++ [.blockEnd, .blockEnd]) := by
  cases preview with
  | none =>
    have split : spaces 2 ++ rest = spaces 2 ++ ("preview".toList ++ ':' :: ' ' ::
        ("null".toList ++ '\n' :: (spaces 0 ++ []))) := shape.symm.trans (by decide)
    rw [List.append_cancel_left split] at awaits
    obtain ⟨later, reaches, awaits⟩ := Lexing.run_plainLine awaits (keyName_of_mem (by decide))
      (by decide) (bare_of_plainAllowed (by decide)) (.same _ _) (by decide) (fun _ head => nomatch head)
    refine ⟨1 + 3, by decide, fun fuel => ?_⟩
    rw [← Nat.add_assoc, reaches, Lexing.run_end awaits (by decide)]
    simp [pair, previewTokens]
  | some settings =>
    rw [previewLines_some] at shape
    rw [← List.append_cancel_left shape] at awaits
    obtain ⟨_, head, awaits⟩ := Lexing.run_headLine awaits (keyName_of_mem (by decide)) (.same _ _)
      (startsLine_key (by decide) _)
    obtain ⟨bare, filled⟩ := bare_number settings.phonemeMillis.toNat
    obtain ⟨_, phoneme, awaits⟩ := Lexing.run_plainLine awaits (keyName_of_mem (by decide)) filled bare
      (.deeper (by decide) _ _) (by decide) (startsLine_key (by decide) _)
    obtain ⟨bare, filled⟩ := bare_number settings.pauseMillis.toNat
    obtain ⟨_, pause, awaits⟩ := Lexing.run_plainLine awaits (keyName_of_mem (by decide)) filled bare
      (.same _ _) (by decide) (fun _ head => nomatch head)
    refine ⟨1 + (3 + (3 + 2)), by decide, fun fuel => ?_⟩
    rw [← Nat.add_assoc, (head.trans phoneme).trans pause, Lexing.run_end awaits (by decide)]
    simp [pair, previewTokens]

theorem previewLines_shape (preview : Option PreviewSettings) :
    ∃ rest, previewLines preview = spaces 2 ++ ("preview".toList ++ rest) := by
  cases preview with
  | none => exact ⟨": null\n".toList, by decide⟩
  | some settings => exact ⟨_, previewLines_some settings⟩

theorem toList_text (config : Config) :
    config.text.toList = "script_file".toList ++ ':' :: ' ' ::
      (scalar 2 config.scriptFile ++ closing (scalar 2 config.scriptFile) ++
        (spaces 0 ++ ("output_folder".toList ++ ':' :: ' ' ::
          (scalar 2 config.outputFolder ++ closing (scalar 2 config.outputFolder) ++
            (spaces 0 ++ ("audio".toList ++ ':' :: '\n' ::
              (spaces 2 ++ ("provider".toList ++ ':' :: ' ' ::
                (scalar 4 config.audio.provider ++ closing (scalar 4 config.audio.provider) ++
                  previewLines config.audio.preview))))))))) := by
  have head : "audio:\n".toList = spaces 0 ++ ("audio".toList ++ [':', '\n']) := by decide
  rw [text, String.toList_ofList]
  simp only [List.append_assoc, textLine_append, head, List.cons_append, List.nil_append]
  rfl

theorem printable_key {key : String} (member : key ∈ keys) : ∀ c ∈ key.toList, isPrintable c = true :=
  fun c here => ((keyName_of_mem member).bare.ordinary c here).1

theorem printable_textLine {key : String} (member : key ∈ keys) (margin : Nat) (text : String) :
    ∀ c ∈ textLine margin key text, isPrintable c = true := by
  intro c here
  simp only [textLine, List.mem_append, List.mem_cons, List.not_mem_nil, or_false] at here
  rcases here with (((space | name) | rfl | rfl) | value) | line
  · exact printable_spaces space
  · exact printable_key member c name
  · rfl
  · rfl
  · exact printable_scalar _ text c value
  · split_ifs at line
    · exact nomatch line
    · rw [List.mem_singleton.mp line]
      rfl

theorem printable_numberLine {key : String} (member : key ∈ keys) (margin : Nat) (number : UInt64) :
    ∀ c ∈ numberLine margin key number, isPrintable c = true := by
  intro c here
  simp only [numberLine, List.mem_append, List.mem_cons, List.not_mem_nil, or_false] at here
  rcases here with (((space | name) | rfl | rfl) | digit) | rfl
  · exact printable_spaces space
  · exact printable_key member c name
  · rfl
  · rfl
  · exact ((bare_number number.toNat).1.ordinary c digit).1
  · rfl

theorem printable_previewLines (preview : Option PreviewSettings) :
    ∀ c ∈ previewLines preview, isPrintable c = true := by
  cases preview with
  | none => exact List.all_eq_true.mp (by decide : "  preview: null\n".toList.all isPrintable = true)
  | some settings =>
    intro c here
    rcases List.mem_append.mp here with earlier | pause
    · rcases List.mem_append.mp earlier with head | phoneme
      · exact List.all_eq_true.mp (by decide : "  preview:\n".toList.all isPrintable = true) c head
      · exact printable_numberLine (by decide) 4 _ c phoneme
    · exact printable_numberLine (by decide) 4 _ c pause

theorem printable_text (config : Config) : ∀ c ∈ config.text.toList, isPrintable c = true := by
  intro c here
  rw [text, String.toList_ofList] at here
  simp only [List.mem_append] at here
  rcases here with (((script | folder) | audio) | provider) | preview
  · exact printable_textLine (by decide) 0 _ c script
  · exact printable_textLine (by decide) 0 _ c folder
  · exact List.all_eq_true.mp (by decide : "audio:\n".toList.all isPrintable = true) c audio
  · exact printable_textLine (by decide) 2 _ c provider
  · exact printable_previewLines _ c preview

/-- The lines of a configuration are read one after the other. -/
theorem run_text (config : Config) (awaits : lexing.Awaits [] (-1) [] 0 config.text.toList) :
    ∃ script folder provider, ∃ count ≤ 20, ∀ fuel, Lexing.run (fuel + count) lexing =
      .ok (tokens script folder provider config) := by
  obtain ⟨rest, shape⟩ := previewLines_shape config.audio.preview
  rw [toList_text, shape] at awaits
  obtain ⟨script, _, scriptLine, awaits⟩ := Lexing.run_textLine awaits (keyName_of_mem (by decide))
    (.deeper (by decide) _ _) (by decide) (startsLine_key (by decide) _)
  obtain ⟨folder, _, folderLine, awaits⟩ := Lexing.run_textLine awaits (keyName_of_mem (by decide))
    (.same _ _) (by decide) (startsLine_key (by decide) _)
  obtain ⟨_, audioLine, awaits⟩ := Lexing.run_headLine awaits (keyName_of_mem (by decide))
    (.same _ _) (startsLine_key (by decide) _)
  obtain ⟨provider, _, providerLine, awaits⟩ := Lexing.run_textLine awaits (keyName_of_mem (by decide))
    (.deeper (by decide) _ _) (by decide) (startsLine_key (by decide) _)
  obtain ⟨last, few, lastLines⟩ := run_previewLines config.audio.preview shape awaits
  refine ⟨script, folder, provider, last + (3 + (2 + (3 + 3))), by omega, fun fuel => ?_⟩
  rw [← Nat.add_assoc, ((scriptLine.trans folderLine).trans audioLine).trans providerLine, lastLines]
  simp [tokens, pair]

/-- The tokens of a text, whatever it holds. -/
theorem tokens_text (config : Config) :
    ∃ script folder provider, Yaml.tokens config.text = .ok (tokens script folder provider config) := by
  have starts : StartsLine config.text.toList := by
    rw [toList_text]
    exact startsLine_key (by decide) _
  obtain ⟨script, folder, provider, count, few, run⟩ := run_text config (Lexing.awaits_start starts)
  have long : 20 ≤ config.text.toList.length := by
    rw [toList_text]
    simp only [List.length_append, List.length_cons]
    have : 11 ≤ "script_file".toList.length ∧ 13 ≤ "output_folder".toList.length := by decide
    omega
  have fuel : config.text.toList.length + 1 = config.text.toList.length + 1 - count + count := by omega
  refine ⟨script, folder, provider, ?_⟩
  simp only [Yaml.tokens, characters_of_printable (printable_text config), bind, Except.bind]
  rw [fuel, run]

end Tokens

section Tree

def word (text : String) : Node := .scalar none .plain text

def previewNode : Option PreviewSettings → Node
  | none => word "null"
  | some settings => .mapping
      [(word "phoneme_ms", word (toString settings.phonemeMillis.toNat)),
        (word "pause_ms", word (toString settings.pauseMillis.toNat))]

def audioNode (provider : ScalarStyle) (audio : AudioSettings) : Node :=
  .mapping [(word "provider", .scalar none provider audio.provider),
    (word "preview", previewNode audio.preview)]

def node (script folder provider : ScalarStyle) (config : Config) : Node :=
  .mapping [(word "script_file", .scalar none script config.scriptFile),
    (word "output_folder", .scalar none folder config.outputFolder),
    (word "audio", audioNode provider config.audio)]

theorem document_tokens (script folder provider : ScalarStyle) (config : Config) :
    Parser.document.run ⟨tokens script folder provider config, standardHandles, [], [], []⟩ =
      .ok (⟨node script folder provider config, [], []⟩, ⟨[], standardHandles, [], [], []⟩) := by
  obtain ⟨scriptFile, outputFolder, providerName, preview⟩ := config
  cases preview <;> rfl

theorem numberOf_word (document : Document) (number : UInt64) :
    numberOf document (word (toString number.toNat)) = .ok number := by
  have read : unsigned word64 (toString number.toNat) = some number.toNat :=
    unsigned_toString number.toNat_lt
  simp only [numberOf, word, Document.resolve, decide_true, Bool.true_or, if_true]
  rw [read]
  exact congrArg Except.ok UInt64.ofNat_toNat

theorem previewOf_node (document : Document) (settings : PreviewSettings) :
    previewOf document (previewNode (some settings)) = .ok settings := by
  have steps : previewOf document (previewNode (some settings)) = (do
      let phoneme ← numberOf document (word (toString settings.phonemeMillis.toNat))
      let pause ← numberOf document (word (toString settings.pauseMillis.toNat))
      return ⟨phoneme, pause⟩) := rfl
  rw [steps, numberOf_word, numberOf_word]
  rfl

theorem previewOrNone_node (document : Document) (preview : Option PreviewSettings) :
    previewOrNone document (previewNode preview) = .ok preview := by
  cases preview with
  | none => rfl
  | some settings =>
    change some <$> previewOf document (previewNode (some settings)) = _
    rw [previewOf_node]
    rfl

theorem audioOf_node (document : Document) (provider : ScalarStyle) (audio : AudioSettings) :
    audioOf document (audioNode provider audio) = .ok audio := by
  have steps : audioOf document (audioNode provider audio) = (do
      let preview ← previewOrNone document (previewNode audio.preview)
      return ⟨audio.provider, preview⟩) := rfl
  rw [steps, previewOrNone_node]
  rfl

theorem ofDocument_node (script folder provider : ScalarStyle) (config : Config) :
    ofDocument ⟨node script folder provider config, [], []⟩ = .ok config := by
  have steps : ofDocument ⟨node script folder provider config, [], []⟩ = (do
      let audio ← audioOf ⟨node script folder provider config, [], []⟩ (audioNode provider config.audio)
      return ⟨config.scriptFile, config.outputFolder, audio⟩) := rfl
  rw [steps, audioOf_node]
  rfl

end Tree

/-- A configuration is read from its own text. -/
theorem parse_text (config : Config) : parse config.text = .ok config := by
  obtain ⟨script, folder, provider, tokenized⟩ := tokens_text config
  rw [parse, Document.read, tokenized]
  simp only [bind, Except.bind, document_tokens]
  exact ofDocument_node script folder provider config

section Files

theorem fromUTF8?_toUTF8 (text : String) : String.fromUTF8? text.toUTF8 = some text :=
  dif_pos text.isValidUTF8

theorem run_save (config : Config) (path : String) (disk : Disk) :
    (config.save Disk.storage path).run disk =
      match disk.replace path config.text.toUTF8 with
      | .ok after => (.ok (), after)
      | .error _ => (.error (.unwritable path), disk) := by
  rw [save, run_bind_state, run_lift_state, Disk.storage_replace]
  cases disk.replace path config.text.toUTF8 <;> rfl

def loaded (disk : Disk) (path : String) : Except ConfigError Config :=
  match disk.entryAt path with
  | .ok (.file content) =>
      match String.fromUTF8? content with
      | some text => (parse text).mapError fun _ => .unparsable path
      | none => .error (.unreadable path)
  | .ok .folder => .error (.unreadable path)
  | .error _ => .error (.missing path)

theorem run_load (path : String) (disk : Disk) :
    (load Disk.storage path).run disk = (loaded disk path, disk) := by
  rw [load, run_bind_state, run_lift_state, Disk.storage_exists, Disk.exists?, loaded]
  cases found : disk.entryAt path with
  | error reason => cases reason <;> rfl
  | ok entry =>
    dsimp only
    rw [run_bind_state, run_lift_state, Disk.storage_read, Disk.read, found]
    cases entry with
    | folder => rfl
    | file content =>
      simp only [bind, Except.bind, pure, Except.pure]
      cases String.fromUTF8? content with
      | none => rfl
      | some text => dsimp only; cases parse text <;> rfl

/-- A configuration that has been written to a file is read from it, whatever its texts are. -/
theorem load_save (config : Config) (path : String) {disk after : Disk}
    (saved : (config.save Disk.storage path).run disk = (.ok (), after)) :
    (load Disk.storage path).run after = (.ok config, after) := by
  rw [run_save] at saved
  split at saved
  · rename_i written replaced
    obtain rfl : written = after := (Prod.mk.inj saved).2
    rw [run_load, loaded, Disk.entryAt_replace replaced]
    simp only [fromUTF8?_toUTF8, parse_text]
    rfl
  · exact nomatch (Prod.mk.inj saved).1

/-- Texts that look like a list with a comment, a number and nothing at all. -/
def odd : Config :=
  ⟨"- a: b # c\n\n", " 0x12\t", ⟨"null", some ⟨0, 18446744073709551615⟩⟩⟩

/-- Neither the form of a text nor the size of a number is lost in a file. -/
theorem load_save_odd :
    (odd.save Disk.storage "config.yml").run .empty =
        (.ok (), Disk.empty.put ["config.yml"] (.file odd.text.toUTF8)) ∧
      (load Disk.storage "config.yml").run (Disk.empty.put ["config.yml"] (.file odd.text.toUTF8)) =
        (.ok odd, Disk.empty.put ["config.yml"] (.file odd.text.toUTF8)) := by
  have saved : (odd.save Disk.storage "config.yml").run .empty =
      (.ok (), Disk.empty.put ["config.yml"] (.file odd.text.toUTF8)) := by
    rw [run_save]
    rfl
  exact ⟨saved, load_save odd "config.yml" saved⟩

end Files

end Voiceover.Config
