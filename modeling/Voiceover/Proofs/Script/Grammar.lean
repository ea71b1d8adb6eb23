import Mathlib.Data.List.Forall2
import Mathlib.Data.Nat.Digits.Defs
import Voiceover.Proofs.Steps
import Voiceover.Proofs.Text.Cutting
import Voiceover.Script

/-! The grammar of scripts, and what a script means, said without the reader. A script is accepted
exactly when every line of it is a declaration or a speech, and then each line has given one profile
or one utterance, in order. -/

namespace Voiceover

open Text

def isLineEnd (c : Char) : Bool := c = '\n' || c = '\r'

def textLines (content : List Char) : List (List Char) :=
  ((content.splitOnP isLineEnd).map trim).filter fun line => !line.isEmpty

def isVoiceText (line : List Char) : Bool := voiceMark.isPrefixOf line

def Digits (text : List Char) (value : Nat) : Prop :=
  text ≠ [] ∧ (∀ digit ∈ text, digit.isDigit = true) ∧
    value = Nat.ofDigits 10 (text.reverse.map fun digit => digit.toNat - '0'.toNat)

def Numeral (text : List Char) (value : Int) : Prop :=
  ∃ digits magnitude, Digits digits magnitude ∧
    ((text = digits ∨ text = '+' :: digits) ∧ value = magnitude ∨
      text = '-' :: digits ∧ value = -(magnitude : Int))

/-- The line `voice:<character>,<voice id>,<rate>`, fields behind the third one allowed. -/
def Declares (line : List Char) (profile : VoiceProfile) : Prop :=
  ∃ body character voiceId rate others, line = voiceMark ++ body ∧
    body.splitOn ',' = character :: voiceId :: rate :: others ∧
    profile.character = String.ofList (trim character) ∧
    profile.voiceId = String.ofList (trim voiceId) ∧
    Numeral (trim rate) profile.rate ∧ -10 ≤ profile.rate ∧ profile.rate ≤ 10

/-- The line `<speaker>:<text>`, with no other colon and no path separator in the speaker. -/
def SpeechParts (line speaker text : List Char) : Prop :=
  line = speaker ++ ':' :: text ∧ ':' ∉ speaker ∧ ':' ∉ text ∧ '/' ∉ speaker ∧ '\\' ∉ speaker

def FirstNamed (profiles : List VoiceProfile) (name : String) (voice : VoiceProfile) : Prop :=
  (∃ earlier later, profiles = earlier ++ voice :: later ∧ voice.character = name ∧
    ∀ other ∈ earlier, other.character ≠ name) ∨
  (∀ profile ∈ profiles, profile.character ≠ name) ∧ voice = .builtIn

def Speaks (profiles : List VoiceProfile) (line : List Char) (utterance : Utterance) : Prop :=
  ∃ speaker text, SpeechParts line speaker text ∧
    utterance.speaker = String.ofList (trim speaker) ∧
    utterance.text = String.ofList (trim text) ∧
    FirstNamed profiles utterance.speaker utterance.voice

theorem mapM_eq_ok_iff {ε α β : Type} (read : α → Except ε β) (entries : List α)
    (values : List β) :
    entries.mapM read = .ok values ↔
      List.Forall₂ (fun entry value => read entry = .ok value) entries values := by
  induction entries generalizing values with
  | nil => cases values <;> simp [pure, Except.pure]
  | cons entry entries ih =>
    rw [List.mapM_cons, List.forall₂_cons_left_iff]
    simp only [bind_eq_ok, ← ih]
    constructor
    · intro ⟨value, first, others, rest, whole⟩
      exact ⟨value, others, first, rest, (Except.ok.inj whole).symm⟩
    · intro ⟨value, others, first, rest, whole⟩
      exact ⟨value, first, others, rest, congrArg Except.ok whole.symm⟩

section Lines

theorem map_text_scriptLines (content : List Char) :
    (scriptLines content).map Line.text = textLines content := by
  have numbers (lines : List (List Char)) (first : Nat) :
      ((lines.zipIdx first).flatMap fun entry =>
        (pieces '\r' entry.1).map fun part => Line.mk entry.2 (trim part)).map Line.text =
        (lines.flatMap (pieces '\r')).map trim := by
    induction lines generalizing first with
    | nil => rfl
    | cons line later ih =>
      simp only [List.zipIdx_cons, List.flatMap_cons, List.map_append, List.map_map]
      rw [ih (first + 1)]
      rfl
  have cut : (pieces '\n' content).flatMap (pieces '\r') = content.splitOnP isLineEnd := by
    rw [pieces_eq_splitOn, funext (pieces_eq_splitOn '\r')]
    exact flatMap_splitOn '\n' '\r' content
  rw [textLines, ← cut, ← numbers _ 1, List.filter_map]
  rfl

theorem forall₂_filter_scriptLines {β : Type} {related : List Char → β → Prop} (content : List Char)
    (kind : List Char → Bool) (values : List β) :
    List.Forall₂ (fun line value => related line.text value)
        ((scriptLines content).filter fun line => kind line.text) values ↔
      List.Forall₂ related ((textLines content).filter kind) values := by
  rw [← map_text_scriptLines, List.filter_map, List.forall₂_map_left_iff]
  rfl

end Lines

section Numerals

theorem foldl_digits (text : List Char) :
    text.foldl (fun value digit => 10 * value + (digit.toNat - '0'.toNat)) 0 =
      Nat.ofDigits 10 (text.reverse.map fun digit => digit.toNat - '0'.toNat) := by
  induction text using List.reverseRecOn with
  | nil => rfl
  | append_singleton front digit ih =>
    rw [List.foldl_append, ih, List.reverse_append, List.reverse_singleton,
      List.singleton_append, List.map_cons, Nat.ofDigits_cons]
    simp only [List.foldl_cons, List.foldl_nil]
    omega

theorem readDigits_eq_some_iff (text : List Char) (value : Nat) :
    readDigits text = some value ↔ Digits text value := by
  unfold readDigits Digits
  rw [foldl_digits]
  by_cases fine : text ≠ [] ∧ ∀ digit ∈ text, digit.isDigit = true
  · rw [if_neg (by simpa [List.all_eq_true] using fine)]
    simp only [Option.some.injEq, fine.1, ne_eq, not_false_eq_true, true_and]
    exact ⟨fun same => ⟨fine.2, same.symm⟩, fun right => right.2.symm⟩
  · rw [if_pos (by simpa [or_iff_not_imp_left] using fine)]
    simp only [reduceCtorEq, false_iff]
    exact fun right => fine ⟨right.1, right.2.1⟩

theorem Digits.ne_sign {text : List Char} {value : Nat} (digits : Digits text value) {sign : Char}
    (other : sign.isDigit = false) (rest : List Char) : text ≠ sign :: rest := by
  intro shape
  subst shape
  exact absurd (digits.2.1 sign List.mem_cons_self) (by rw [other]; decide)

theorem readInteger_minus (digits : List Char) :
    readInteger ('-' :: digits) = (readDigits digits).map fun value : Nat => -(value : Int) := by
  rw [readInteger]
  cases readDigits digits <;> rfl

theorem readInteger_plus (digits : List Char) :
    readInteger ('+' :: digits) = (readDigits digits).map fun value : Nat => (value : Int) := by
  rw [readInteger]
  cases readDigits digits <;> rfl

theorem readInteger_bare {text : List Char} (notMinus : ∀ rest, text ≠ '-' :: rest)
    (notPlus : ∀ rest, text ≠ '+' :: rest) :
    readInteger text = (readDigits text).map fun value : Nat => (value : Int) := by
  rw [readInteger]
  · cases readDigits text <;> rfl
  · exact notMinus
  · exact notPlus

theorem readInteger_of_numeral {text : List Char} {value : Int} (numeral : Numeral text value) :
    readInteger text = some value := by
  obtain ⟨digits, magnitude, written, ⟨rfl | rfl, rfl⟩ | ⟨rfl, rfl⟩⟩ := numeral
  · rw [readInteger_bare (written.ne_sign rfl) (written.ne_sign rfl),
      (readDigits_eq_some_iff _ _).2 written]
    rfl
  · rw [readInteger_plus, (readDigits_eq_some_iff _ _).2 written]
    rfl
  · rw [readInteger_minus, (readDigits_eq_some_iff _ _).2 written]
    rfl

theorem numeral_of_readInteger {text : List Char} {value : Int}
    (found : readInteger text = some value) : Numeral text value := by
  by_cases minus : ∃ digits, text = '-' :: digits
  · obtain ⟨digits, rfl⟩ := minus
    rw [readInteger_minus] at found
    obtain ⟨magnitude, read, rfl⟩ := Option.map_eq_some_iff.1 found
    exact ⟨digits, magnitude, (readDigits_eq_some_iff _ _).1 read, .inr ⟨rfl, rfl⟩⟩
  by_cases plus : ∃ digits, text = '+' :: digits
  · obtain ⟨digits, rfl⟩ := plus
    rw [readInteger_plus] at found
    obtain ⟨magnitude, read, rfl⟩ := Option.map_eq_some_iff.1 found
    exact ⟨digits, magnitude, (readDigits_eq_some_iff _ _).1 read, .inl ⟨.inr rfl, rfl⟩⟩
  · rw [readInteger_bare (not_exists.1 minus) (not_exists.1 plus)] at found
    obtain ⟨magnitude, read, rfl⟩ := Option.map_eq_some_iff.1 found
    exact ⟨text, magnitude, (readDigits_eq_some_iff _ _).1 read, .inl ⟨.inl rfl, rfl⟩⟩

theorem readInteger_eq_some_iff (text : List Char) (value : Int) :
    readInteger text = some value ↔ Numeral text value :=
  ⟨numeral_of_readInteger, readInteger_of_numeral⟩

end Numerals

section Readers

theorem isScriptRate_iff (rate : Int) : isScriptRate rate = true ↔ -10 ≤ rate ∧ rate ≤ 10 := by
  simp only [isScriptRate, Bool.and_eq_true, decide_eq_true_eq]

theorem filter_readInteger_eq_some_iff (text : List Char) (rate : Int) :
    (readInteger text).filter isScriptRate = some rate ↔
      Numeral text rate ∧ -10 ≤ rate ∧ rate ≤ 10 := by
  rw [Option.filter_eq_some_iff, readInteger_eq_some_iff, isScriptRate_iff]

theorem exists_body_of_isVoice {line : Line} (voice : line.isVoice = true) :
    line.text = voiceMark ++ line.text.drop voiceMark.length := by
  obtain ⟨body, shape⟩ := List.isPrefixOf_iff_prefix.1 voice
  rw [← shape, List.drop_left]

theorem readVoice_eq_ok_iff {line : Line} (voice : line.isVoice = true) (profile : VoiceProfile) :
    readVoice line = .ok profile ↔ Declares line.text profile := by
  have shape := exists_body_of_isVoice voice
  unfold readVoice
  simp only [voice, if_true, pieces_eq_splitOn]
  generalize line.text.drop voiceMark.length = body at shape
  constructor
  · intro read
    cases fields : body.splitOn ',' with
    | nil => exact absurd fields (List.splitOn_ne_nil _ _)
    | cons character later =>
      match later with
      | [] => simp [fields] at read
      | [voiceId] => simp [fields] at read
      | voiceId :: rate :: others =>
        simp only [fields, List.map_cons] at read
        split at read
        · rename_i value valid
          obtain ⟨numeral, bounds⟩ := (filter_readInteger_eq_some_iff _ _).1 valid
          cases read
          exact ⟨body, character, voiceId, rate, others, shape, fields, rfl, rfl, numeral, bounds⟩
        · cases read
  · intro declares
    obtain ⟨written, character, voiceId, rate, others, same, fields, named, voiced, rated⟩ := declares
    obtain rfl := List.append_cancel_left (shape.symm.trans same)
    simp only [fields, List.map_cons, (filter_readInteger_eq_some_iff _ _).2 rated, ← named,
      ← voiced]

theorem firstNamed_iff (voices : VoiceRegistry) (name : String) (voice : VoiceProfile) :
    FirstNamed voices.toList name voice ↔ voice = voices.resolve name := by
  unfold FirstNamed VoiceRegistry.resolve
  cases found : voices.toList.find? (·.character = name) with
  | none =>
    have others : ∀ profile ∈ voices.toList, profile.character ≠ name := by
      simpa using List.find?_eq_none.1 found
    rw [Option.getD_none]
    constructor
    · intro first
      obtain ⟨earlier, later, shape, named, -⟩ | ⟨-, same⟩ := first
      · exact absurd named (others voice (shape ▸ by simp))
      · exact same
    · exact fun same => .inr ⟨others, same⟩
  | some first =>
    obtain ⟨named, earlier, later, shape, before⟩ := List.find?_eq_some_iff_append.1 found
    have named : first.character = name := by simpa using named
    simp only [Option.getD_some]
    constructor
    · intro chosen
      obtain ⟨front, back, same, hasName, frontOther⟩ | ⟨others, -⟩ := chosen
      · have again : voices.toList.find? (·.character = name) = some voice := by
          rw [List.find?_eq_some_iff_append]
          exact ⟨by simpa using hasName, front, back, same,
            fun other member => by simpa using frontOther other member⟩
        exact Option.some.inj (again.symm.trans found)
      · exact absurd named (others first (shape ▸ by simp))
    · intro same
      subst same
      exact .inl ⟨earlier, later, shape, named, fun other member => by simpa using before other member⟩

theorem readSpeech_eq_ok_iff (voices : VoiceRegistry) (line : Line) (utterance : Utterance) :
    readSpeech voices line = .ok utterance ↔ Speaks voices.toList line.text utterance := by
  unfold readSpeech
  rw [pieces_eq_splitOn]
  constructor
  · intro read
    split at read
    · rename_i speaker text cut
      obtain ⟨shape, frontFree, backFree⟩ := splitOn_eq_pair_iff.1 cut
      split at read
      · cases read
      · rename_i plain
        have plain : (∀ c ∈ speaker, ¬c = '/') ∧ ∀ c ∈ speaker, ¬c = '\\' := by
          simpa [isPathSeparator, List.any_eq_true, not_or, forall_and] using plain
        cases read
        exact ⟨speaker, text, ⟨shape, frontFree, backFree, fun slash => plain.1 _ slash rfl,
          fun backslash => plain.2 _ backslash rfl⟩, rfl, rfl, (firstNamed_iff _ _ _).2 rfl⟩
    · cases read
  · intro speaks
    obtain ⟨speaker, text, parts, named, said, voiced⟩ := speaks
    obtain ⟨shape, frontFree, backFree, noSlash, noBackslash⟩ := parts
    have plain : ¬speaker.any isPathSeparator = true := by
      simp only [isPathSeparator, List.any_eq_true, Bool.or_eq_true, decide_eq_true_eq, not_exists,
        not_and, not_or]
      intro c member
      exact ⟨fun same => noSlash (same ▸ member), fun same => noBackslash (same ▸ member)⟩
    have resolved := (firstNamed_iff _ _ _).1 voiced
    rw [splitOn_eq_pair_iff.2 ⟨shape, frontFree, backFree⟩]
    simp only [if_neg plain, ← named, ← said, ← resolved]

end Readers

/-- A line is a declaration if it starts with the mark of one, and else it has to be a speech. -/
def WellFormed (line : List Char) : Prop :=
  (isVoiceText line = true ∧ ∃ profile, Declares line profile) ∨
    (isVoiceText line = false ∧ ∃ speaker text, SpeechParts line speaker text)

/-- What the lines of a script say: each declaration is one profile and each speech is one utterance,
in the order of the lines, and a speaker is looked up among all profiles. -/
structure Means (lines : List (List Char)) (script : Script) : Prop where
  voices : ∃ profiles, script.voices.toList = .builtIn :: profiles ∧
    List.Forall₂ Declares (lines.filter isVoiceText) profiles
  utterances : List.Forall₂ (Speaks script.voices.toList)
    (lines.filter fun line => !isVoiceText line) script.utterances

theorem exists_forall₂_iff {α β : Type} (related : α → β → Prop) (entries : List α) :
    (∃ values, List.Forall₂ related entries values) ↔
      ∀ entry ∈ entries, ∃ value, related entry value := by
  induction entries with
  | nil => simp
  | cons entry entries ih =>
    simp only [List.forall₂_cons_left_iff, List.mem_cons, forall_eq_or_imp, ← ih]
    constructor
    · intro related
      obtain ⟨-, value, values, first, rest, -⟩ := related
      exact ⟨⟨value, first⟩, values, rest⟩
    · intro related
      obtain ⟨⟨value, first⟩, values, rest⟩ := related
      exact ⟨value :: values, value, values, first, rest, rfl⟩

theorem forall₂_filter_congr {α β : Type} {related other : α → β → Prop} {kind : α → Bool}
    (same : ∀ entry value, kind entry = true → (related entry value ↔ other entry value))
    (entries : List α) (values : List β) :
    List.Forall₂ related (entries.filter kind) values ↔
      List.Forall₂ other (entries.filter kind) values := by
  constructor
  all_goals
    intro all
    refine (List.forall₂_iff_zip.2 ⟨all.length_eq, fun pair => ?_⟩)
    have kept := (List.mem_filter.1 (List.of_mem_zip pair).1).2
  · exact (same _ _ kept).1 (List.forall₂_zip all pair)
  · exact (same _ _ kept).2 (List.forall₂_zip all pair)

namespace Script

theorem parse_eq_ok_iff (source : String) (script : Script) :
    parse source = .ok script ↔
      (∃ c ∈ source.toList, isWhite c = false) ∧
        Means (textLines (lowercase source.toList)) script := by
  unfold parse
  by_cases blank : source.toList.all isWhite = true
  · have noText : ¬∃ c ∈ source.toList, isWhite c = false := by
      simpa [List.all_eq_true] using blank
    simp [blank, noText]
  · have hasText : ∃ c ∈ source.toList, isWhite c = false := by
      simpa [List.all_eq_true] using blank
    rw [if_neg blank]
    generalize lowercase source.toList = content
    have declarations (profiles : List VoiceProfile) :
        ((scriptLines content).filter Line.isVoice).mapM readVoice = .ok profiles ↔
          List.Forall₂ Declares ((textLines content).filter isVoiceText) profiles := by
      rw [mapM_eq_ok_iff, ← forall₂_filter_scriptLines]
      exact forall₂_filter_congr (fun line profile voice => readVoice_eq_ok_iff voice profile) _ _
    have speeches (voices : VoiceRegistry) (utterances : List Utterance) :
        ((scriptLines content).filter fun line => !line.isVoice).mapM (readSpeech voices) =
          .ok utterances ↔ List.Forall₂ (Speaks voices.toList)
            ((textLines content).filter fun line => !isVoiceText line) utterances := by
      rw [mapM_eq_ok_iff, ← forall₂_filter_scriptLines content (fun line => !isVoiceText line)]
      exact forall₂_filter_congr (fun line utterance _ => readSpeech_eq_ok_iff _ _ _) _ _
    constructor
    · intro read
      obtain ⟨profiles, declared, read⟩ := bind_eq_ok.mp read
      obtain ⟨utterances, spoken, read⟩ := bind_eq_ok.mp read
      cases read
      exact ⟨hasText, ⟨profiles, rfl, (declarations _).1 declared⟩, (speeches _ _).1 spoken⟩
    · intro means
      obtain ⟨-, ⟨profiles, registry, declared⟩, spoken⟩ := means
      obtain ⟨⟨found⟩, utterances⟩ := script
      obtain rfl : found = profiles := (List.cons.inj registry).2
      simp only [(declarations _).2 declared, (speeches _ _).2 spoken, bind, Except.bind, pure,
        Except.pure]

/-- The grammar decides which scripts are accepted, and nothing but the lines decides what an accepted
script means. -/
theorem parse_iff_grammar (source : String) :
    ((∃ script, parse source = .ok script) ↔
      (∃ c ∈ source.toList, isWhite c = false) ∧
        ∀ line ∈ textLines (lowercase source.toList), WellFormed line) ∧
    ∀ script, parse source = .ok script ↔
      (∃ c ∈ source.toList, isWhite c = false) ∧
        Means (textLines (lowercase source.toList)) script := by
  refine ⟨?_, parse_eq_ok_iff source⟩
  simp only [parse_eq_ok_iff, exists_and_left]
  refine and_congr_right fun _ => ?_
  generalize textLines (lowercase source.toList) = lines
  constructor
  · intro accepted line member
    obtain ⟨script, ⟨profiles, -, declared⟩, spoken⟩ := accepted
    cases voice : isVoiceText line with
    | true =>
      have kept := List.mem_filter.2 ⟨member, voice⟩
      exact .inl ⟨voice, (exists_forall₂_iff _ _).1 ⟨_, declared⟩ line kept⟩
    | false =>
      have kept : line ∈ lines.filter fun line => !isVoiceText line :=
        List.mem_filter.2 ⟨member, by simp [voice]⟩
      obtain ⟨-, speaker, text, parts, -⟩ := (exists_forall₂_iff _ _).1 ⟨_, spoken⟩ line kept
      exact .inr ⟨voice, speaker, text, parts⟩
  · intro wellFormed
    obtain ⟨profiles, declared⟩ := (exists_forall₂_iff Declares
      (lines.filter isVoiceText)).2 fun line kept => by
        obtain ⟨member, voice⟩ := List.mem_filter.1 kept
        obtain ⟨-, declares⟩ | ⟨other, -⟩ := wellFormed line member
        · exact declares
        · exact absurd voice (by simp [other])
    let voices : VoiceRegistry := ⟨profiles⟩
    obtain ⟨utterances, spoken⟩ := (exists_forall₂_iff (Speaks voices.toList)
      (lines.filter fun line => !isVoiceText line)).2 fun line kept => by
        obtain ⟨member, other⟩ := List.mem_filter.1 kept
        obtain ⟨voice, -⟩ | ⟨-, speaker, text, parts⟩ := wellFormed line member
        · exact absurd other (by simp [voice])
        · let name := String.ofList (trim speaker)
          exact ⟨⟨name, String.ofList (trim text), voices.resolve name⟩, speaker, text, parts, rfl,
            rfl, (firstNamed_iff _ _ _).2 rfl⟩
    exact ⟨⟨voices, utterances⟩, ⟨profiles, rfl, declared⟩, spoken⟩

end Script

end Voiceover
