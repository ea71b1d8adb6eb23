import Voiceover.Proofs.Script.Grammar
import Voiceover.Proofs.Text.Sigma

/-! Whether a speaker gets the voice that is declared under the same spelling. A script is folded before
it is cut, so the same name is folded in two places: behind `voice:` and in front of a comma, and at
the start of a line in front of a colon. Colons are case-ignorable. The folds agree unless the name
opens with a sigma that touches the mark, or closes with one and its colon touches a cased text. -/

namespace Voiceover

open Text

def declarations (source : String) : List (List Char) :=
  (textLines source.toList).filter fun line => isVoiceText (lowercase line)

def speeches (source : String) : List (List Char) :=
  (textLines source.toList).filter fun line => !isVoiceText (lowercase line)

def characterField (line : List Char) : List Char :=
  (line.drop voiceMark.length).takeWhile (· ≠ ',')

def speakerField (line : List Char) : List Char := line.takeWhile (· ≠ ':')

def touchesMark (line : List Char) : Bool := ((characterField line).takeWhile isWhite).isEmpty

/-- No white space stands around the first colon of a speech, and the text begins with a cased
character, case-ignorable ones aside. -/
def touchesText (line : List Char) : Bool :=
  ((speakerField line).rtakeWhile isWhite).isEmpty &&
    meetsCased ((line.dropWhile (· ≠ ':')).drop 1)

section Lines

theorem lineEnd_layout (c : Char) (ends : isLineEnd c = true) : isLayout c = true := by
  simp only [isLineEnd, Bool.or_eq_true, decide_eq_true_eq] at ends
  obtain rfl | rfl := ends <;> decide

theorem lineEnd_blind (c : Char) (ends : isLineEnd c = true) : isBlind c = true := by
  simp only [isLineEnd, Bool.or_eq_true, decide_eq_true_eq] at ends
  obtain rfl | rfl := ends <;> exact isBlind_white (by decide)

theorem lowercase_eq_nil_iff (text : List Char) : lowercase text = [] ↔ text = [] := by
  rw [lowercase_eq_foldBetween]
  cases text with
  | nil => simp
  | cons c rest => simp [foldBetween_cons, foldChar_ne_nil]

theorem textLines_lowercase (content : List Char) :
    textLines (lowercase content) = (textLines content).map lowercase := by
  rw [textLines, textLines, splitOnP_lowercase lineEnd_layout lineEnd_blind, List.map_map,
    List.filter_map, List.filter_map, List.map_map]
  have trimmed : trim ∘ lowercase = lowercase ∘ trim := funext trim_lowercase
  rw [trimmed]
  have blank (line : List Char) : (lowercase line).isEmpty = line.isEmpty := by
    rw [Bool.eq_iff_iff, List.isEmpty_iff, List.isEmpty_iff, lowercase_eq_nil_iff]
  simp only [Function.comp_def, blank]

end Lines

section Marks

theorem lookPast_of_foldChar_e {behind ahead : Bool} {c : Char}
    (folded : foldChar behind ahead c = ['e']) (beyond : Bool) : lookPast c beyond = true := by
  have codes : c.toNat = 0x65 ∨ c.toNat = 0x45 := by
    unfold foldChar lowerChar at folded
    split at folded
    · split at folded <;> exact absurd folded (by decide)
    · split at folded
      · exact absurd folded (by decide)
      · have sent := (ofNat_eq_iff (by decide) _).1 (List.singleton_inj.1 folded)
        have table : origins caseRuns 0x65 = [0x45] := by decide +kernel
        have found := eq_or_mem_origins sent
        rwa [show 'e'.toNat = 0x65 from rfl, table, List.mem_singleton] at found
  obtain same | same := codes
  all_goals
    have firm : ¬isCaseIgnorable c = true := by
      rw [isCaseIgnorable, same]
      decide +kernel
    have cased : isCased c = true := by
      rw [isCased, same]
      decide +kernel
    rw [lookPast_firm firm, cased]

theorem lookPast_colon (beyond : Bool) : lookPast ':' beyond = beyond := by
  have ignorable : isCaseIgnorable ':' = true := by decide +kernel
  exact lookPast_ignorable ignorable beyond

theorem voiceMark_eq : voiceMark = ['v', 'o', 'i', 'c', 'e', ':'] := by decide

/-- Behind the mark of a declaration a cased character is next, looking back. -/
theorem body_of_voiceMark {line body : List Char} (folded : lowercase line = voiceMark ++ body) :
    body = foldBetween true false (line.drop voiceMark.length) := by
  rw [lowercase_eq_foldBetween, voiceMark_eq] at folded
  obtain ⟨v, line, rfl, -, folded⟩ := exists_of_foldBetween_eq_cons folded (.inl (by decide))
  obtain ⟨o, line, rfl, -, folded⟩ := exists_of_foldBetween_eq_cons folded (.inl (by decide))
  obtain ⟨i, line, rfl, -, folded⟩ :=
    exists_of_foldBetween_eq_cons folded (.inr (by simp))
  obtain ⟨c, line, rfl, -, folded⟩ := exists_of_foldBetween_eq_cons folded (.inl (by decide))
  obtain ⟨e, line, rfl, cased, folded⟩ := exists_of_foldBetween_eq_cons folded (.inl (by decide))
  obtain ⟨colon, line, rfl, mark, folded⟩ := exists_of_foldBetween_eq_cons folded (.inl (by decide))
  obtain rfl : colon = ':' :=
    (mem_foldChar_layout (by decide) _ _).1 (mark ▸ List.mem_cons_self)
  rw [lookPast_colon, lookPast_of_foldChar_e cased] at folded
  exact folded.symm

end Marks

section Names

/-- The comma behind a character is blind, so only the mark in front of it can be seen. -/
theorem character_of_declares {line : List Char} {profile : VoiceProfile}
    (declares : Declares (lowercase line) profile) :
    profile.character =
      String.ofList (foldBetween (touchesMark line) false (trim (characterField line))) := by
  obtain ⟨body, character, voiceId, rate, others, shape, fields, named, -⟩ := declares
  have folded := body_of_voiceMark shape
  have comma : ',' ∈ line.drop voiceMark.length := by
    by_contra free
    rw [folded, List.splitOn_eq_singleton (not_mem_foldBetween (by decide) _ _ free)] at fields
    cases fields
  obtain ⟨field, back, split, free⟩ := List.eq_append_cons_of_mem comma
  have whole : characterField line = field := by
    rw [characterField, split, takeWhile_ne_append free]
  rw [split, foldBetween_cut _ _ _ _ (by decide), lookPast_blind isBlind_comma] at folded
  have first : character = foldBetween true false field := by
    rw [folded, List.splitOn_append_cons_self_of_not_mem
      (not_mem_foldBetween (by decide) _ _ free)] at fields
    exact (List.cons.inj fields).1.symm
  rw [named, first, trim_foldBetween, touchesMark, whole, Bool.and_true, Bool.and_false]

/-- A colon is seen through, so the text behind it is what a speaker is folded in front of. -/
theorem speaker_of_speechParts {line speaker text : List Char}
    (parts : SpeechParts (lowercase line) speaker text) :
    trim speaker = foldBetween false (touchesText line) (trim (speakerField line)) := by
  obtain ⟨shape, alone, -⟩ := parts
  rw [lowercase_eq_foldBetween] at shape
  have colon : ':' ∈ line := (mem_foldBetween_layout (by decide) false false line).1 (by simp [shape])
  obtain ⟨field, said, rfl, free⟩ := List.eq_append_cons_of_mem colon
  have whole : speakerField (field ++ ':' :: said) = field := takeWhile_ne_append free said
  have ahead : touchesText (field ++ ':' :: said) =
      ((field.rtakeWhile isWhite).isEmpty && casedAhead said false) := by
    rw [touchesText, whole, dropWhile_ne_append free, List.drop_one, List.tail_cons,
      meetsCased_eq_casedAhead]
  rw [foldBetween_cut _ _ _ _ (by decide), lookPast_colon] at shape
  have first : foldBetween false (casedAhead said false) field = speaker := by
    have folded : ':' ∉ foldBetween false (casedAhead said false) field :=
      not_mem_foldBetween (by decide) _ _ free
    rw [← takeWhile_ne_append folded, shape, takeWhile_ne_append alone]
  rw [← first, trim_foldBetween, whole, ahead, Bool.and_false]

end Names

section Lookup

variable {profiles declared : List VoiceProfile} {name : String} {voice profile : VoiceProfile}

theorem FirstNamed.character_of_known (first : FirstNamed profiles name voice)
    (known : profile ∈ profiles) (named : profile.character = name) : voice.character = name := by
  obtain ⟨-, -, -, found, -⟩ | ⟨unknown, -⟩ := first
  · exact found
  · exact absurd named (unknown profile known)

theorem FirstNamed.builtIn_of_unknown (first : FirstNamed profiles name voice)
    (unknown : ∀ other ∈ profiles, other.character ≠ name) : voice = .builtIn := by
  obtain ⟨earlier, later, shape, found, -⟩ | ⟨-, same⟩ := first
  · exact absurd found (unknown voice (shape ▸ by simp))
  · exact same

/-- No declaration stands before the built-in profile, so only its own name can find it. -/
theorem FirstNamed.first_declared (first : FirstNamed (.builtIn :: declared) name voice)
    (known : profile ∈ VoiceProfile.builtIn :: declared) (named : profile.character = name)
    (ordinary : name ≠ VoiceProfile.builtIn.character) :
    ∃ earlier later, declared = earlier ++ voice :: later ∧
      ∀ other ∈ earlier, other.character ≠ name := by
  obtain ⟨earlier, later, shape, found, before⟩ | ⟨unknown, -⟩ := first
  · cases earlier with
    | nil =>
      obtain ⟨rfl, -⟩ := List.cons.inj shape
      exact absurd found.symm ordinary
    | cons first earlier =>
      exact ⟨earlier, later, (List.cons.inj shape).2,
        fun other member => before other (List.mem_cons_of_mem _ member)⟩
  · exact absurd named (unknown profile known)

end Lookup

namespace Script

variable {source : String} {script : Script}

theorem forall₂_declarations (read : parse source = .ok script) :
    List.Forall₂ (fun line profile => Declares (lowercase line) profile)
      (declarations source) script.voices.declared := by
  obtain ⟨-, ⟨profiles, registry, declared⟩, -⟩ := (parse_eq_ok_iff source script).1 read
  obtain rfl : script.voices.declared = profiles := (List.cons.inj registry).2
  rwa [textLines_lowercase, List.filter_map, List.forall₂_map_left_iff] at declared

theorem forall₂_speeches (read : parse source = .ok script) :
    List.Forall₂ (fun line utterance => Speaks script.voices.toList (lowercase line) utterance)
      (speeches source) script.utterances := by
  obtain ⟨-, -, spoken⟩ := (parse_eq_ok_iff source script).1 read
  rwa [textLines_lowercase, List.filter_map, List.forall₂_map_left_iff] at spoken

/-- A declaration and a speech under one spelling are about one name unless a sigma at a side of it is
folded two ways. A speaker with a profile has the first one of its name, and one without has the
built-in voice. -/
theorem same_spelling (read : parse source = .ok script)
    {declaration speech name : List Char} {profile : VoiceProfile} {utterance : Utterance}
    (declared : (declaration, profile) ∈ (declarations source).zip script.voices.declared)
    (spoken : (speech, utterance) ∈ (speeches source).zip script.utterances)
    (declaredAs : trim (characterField declaration) = name)
    (spokenAs : trim (speakerField speech) = name) :
    (utterance.speaker = profile.character ↔
      ¬(touchesMark declaration = true ∧ OpensWithSigma name) ∧
        ¬(touchesText speech = true ∧ ClosesWithSigma name)) ∧
    (utterance.speaker = profile.character → utterance.voice.character = utterance.speaker ∧
      (utterance.speaker ≠ VoiceProfile.builtIn.character →
        ∃ earlier later, script.voices.declared = earlier ++ utterance.voice :: later ∧
          ∀ other ∈ earlier, other.character ≠ utterance.speaker)) ∧
    ((∀ other ∈ script.voices.toList, other.character ≠ utterance.speaker) →
      utterance.voice = .builtIn) := by
  have character := character_of_declares (List.forall₂_zip (forall₂_declarations read) declared)
  obtain ⟨speaker, text, parts, named, -, voiced⟩ :=
    List.forall₂_zip (forall₂_speeches read) spoken
  rw [declaredAs] at character
  rw [speaker_of_speechParts parts, spokenAs] at named
  refine ⟨?_, fun same => ?_, voiced.builtIn_of_unknown⟩
  · rw [named, character, String.ofList_inj, eq_comm, foldBetween_sides_iff]
  · have known : profile ∈ script.voices.toList :=
      List.mem_cons_of_mem _ (List.of_mem_zip declared).2
    exact ⟨voiced.character_of_known known same.symm, voiced.first_declared known same.symm⟩

/-- The same name in front of a comma and in front of a colon and a letter: the speaker is not found. -/
theorem same_spelling_sigma :
    ∃ script declaration speech profile utterance,
      parse "voice:ΑΣ,maria,0\nΑΣ:hello" = .ok script ∧
      (declaration, profile) ∈
        (declarations "voice:ΑΣ,maria,0\nΑΣ:hello").zip script.voices.declared ∧
      (speech, utterance) ∈ (speeches "voice:ΑΣ,maria,0\nΑΣ:hello").zip script.utterances ∧
      trim (characterField declaration) = "ΑΣ".toList ∧
      trim (speakerField speech) = "ΑΣ".toList ∧
      utterance.speaker ≠ profile.character ∧ utterance.voice = .builtIn := by
  let profile : VoiceProfile := ⟨"ας", "maria", 0⟩
  let utterance : Utterance := ⟨"ασ", "hello", .builtIn⟩
  have read : parse "voice:ΑΣ,maria,0\nΑΣ:hello" = .ok ⟨⟨[profile]⟩, [utterance]⟩ := by
    decide +kernel
  have declared : ("voice:ΑΣ,maria,0".toList, profile) ∈
      (declarations "voice:ΑΣ,maria,0\nΑΣ:hello").zip [profile] := by decide +kernel
  have spoken : ("ΑΣ:hello".toList, utterance) ∈
      (speeches "voice:ΑΣ,maria,0\nΑΣ:hello").zip [utterance] := by decide +kernel
  have declaredAs : trim (characterField "voice:ΑΣ,maria,0".toList) = "ΑΣ".toList := by decide
  have spokenAs : trim (speakerField "ΑΣ:hello".toList) = "ΑΣ".toList := by decide
  have law := same_spelling read declared spoken declaredAs spokenAs
  refine ⟨_, _, _, profile, utterance, read, declared, spoken, declaredAs, spokenAs, ?_, ?_⟩
  · intro same
    have touches : touchesText "ΑΣ:hello".toList = true := by decide +kernel
    have closes : ClosesWithSigma "ΑΣ".toList := ⟨"Α".toList, [], by decide, by simp, by decide +kernel⟩
    exact (law.1.1 same).2 ⟨touches, closes⟩
  · exact law.2.2 (by decide)

end Script

end Voiceover
