import Voiceover.Proofs.Script.Numbering

/-! Why a script is not read, and which line is named. Declarations are looked at before speeches, and
in each of the two the lines are looked at in order: the error is about the first flawed line that
this comes to, and tells where that line stands in the script as it was written. -/

namespace Voiceover

open Text

inductive Flaw (number : Nat) (line : List Char) : ScriptError → Prop
  | fields {body : List Char} (marked : line = voiceMark ++ body)
      (few : (body.splitOn ',').length < 3) :
      Flaw number line (.invalidVoiceLine number (String.ofList line))
  | rate {body character voiceId rate : List Char} {others : List (List Char)}
      (marked : line = voiceMark ++ body)
      (fields : body.splitOn ',' = character :: voiceId :: rate :: others)
      (unfit : ∀ value, Numeral (trim rate) value → value < -10 ∨ 10 < value) :
      Flaw number line (.invalidVoiceRate number (String.ofList line))
  | speech (unmarked : isVoiceText line = false)
      (unfit : ∀ speaker text, ¬SpeechParts line speaker text) :
      Flaw number line (.invalidSpeakLine number (String.ofList line))

/-- The error of a script that is not read. A line is taken as it was written, and then trimmed and
folded; in front of the first flawed one stand only lines that are well formed. -/
inductive Rejects (source : List Char) : ScriptError → Prop
  | blank (white : ∀ c ∈ source, isWhite c = true) : Rejects source .empty
  | declaration {before raw after : List Char} {reason : ScriptError}
      (stretch : Stretch source before raw after)
      (voice : isVoiceText (lowercase (trim raw)) = true)
      (flaw : Flaw (1 + before.count '\n') (lowercase (trim raw)) reason)
      (earlier : ∀ line ∈ textLines before, isVoiceText (lowercase line) = true →
        WellFormed (lowercase line)) : Rejects source reason
  | speech {before raw after : List Char} {reason : ScriptError}
      (stretch : Stretch source before raw after) (filled : trim raw ≠ [])
      (spoken : isVoiceText (lowercase (trim raw)) = false)
      (flaw : Flaw (1 + before.count '\n') (lowercase (trim raw)) reason)
      (declarations : ∀ line ∈ textLines source, isVoiceText (lowercase line) = true →
        WellFormed (lowercase line))
      (earlier : ∀ line ∈ textLines before, WellFormed (lowercase line)) : Rejects source reason

section Readers

theorem exists_split_cons {α : Type} {holds : List α → α → Prop} {head : α} {tail : List α} :
    (∃ earlier entry later, head :: tail = earlier ++ entry :: later ∧ holds earlier entry) ↔
      holds [] head ∨
        ∃ earlier entry later, tail = earlier ++ entry :: later ∧ holds (head :: earlier) entry := by
  constructor
  · rintro ⟨earlier, entry, later, split, found⟩
    cases earlier with
    | nil =>
      obtain ⟨rfl, -⟩ := List.cons.inj split
      exact .inl found
    | cons first earlier =>
      obtain ⟨rfl, rest⟩ := List.cons.inj split
      exact .inr ⟨earlier, entry, later, rest, found⟩
  · rintro (found | ⟨earlier, entry, later, rfl, found⟩)
    · exact ⟨[], head, tail, rfl, found⟩
    · exact ⟨head :: earlier, entry, later, rfl, found⟩

/-- A pass over the entries of one kind stops at the first one that cannot be read. -/
theorem mapM_filter_eq_error_iff {ε α β : Type} (read : α → Except ε β) (kind : α → Bool)
    (entries : List α) (reason : ε) :
    (entries.filter kind).mapM read = .error reason ↔
      ∃ earlier entry later, entries = earlier ++ entry :: later ∧ kind entry = true ∧
        (∀ other ∈ earlier, kind other = true → ∃ value, read other = .ok value) ∧
        read entry = .error reason := by
  induction entries with
  | nil => simp [pure, Except.pure]
  | cons head tail ih =>
    rw [exists_split_cons]
    by_cases kept : kind head = true
    · rw [List.filter_cons_of_pos kept, List.mapM_cons]
      simp only [bind_eq_error, pure, Except.pure, reduceCtorEq, and_false, exists_false, or_false, ih]
      cases first : read head <;> simp [kept, first]
    · rw [List.filter_cons_of_neg kept, ih]
      simp [kept]

theorem readVoice_eq_error_iff {line : Line} (voice : line.isVoice = true) (reason : ScriptError) :
    readVoice line = .error reason ↔ Flaw line.number line.text reason := by
  have shape := exists_body_of_isVoice voice
  unfold readVoice
  simp only [voice, if_true, pieces_eq_splitOn]
  generalize line.text.drop voiceMark.length = body at shape
  constructor
  · intro failed
    match fields : body.splitOn ',' with
    | [] | [_] | [_, _] =>
      simp only [fields, List.map_cons, List.map_nil] at failed
      cases failed
      exact .fields shape (by simp [fields])
    | character :: voiceId :: rate :: others =>
      simp only [fields, List.map_cons] at failed
      split at failed
      · cases failed
      · rename_i unfit
        cases failed
        refine .rate shape fields ?_
        intro value numeral
        by_contra inside
        rw [not_or, not_lt, not_lt] at inside
        have read := (filter_readInteger_eq_some_iff (trim rate) value).mpr ⟨numeral, inside⟩
        rw [unfit] at read
        cases read
  · intro flaw
    cases flaw with
    | fields marked few =>
      obtain rfl := List.append_cancel_left (shape.symm.trans marked)
      match fields : body.splitOn ',' with
      | [] | [_] | [_, _] => rfl
      | _ :: _ :: _ :: _ =>
        simp only [fields, List.length_cons] at few
        omega
    | rate marked fields unfit =>
      obtain rfl := List.append_cancel_left (shape.symm.trans marked)
      simp only [fields, List.map_cons]
      split
      · rename_i value read
        have inside := (filter_readInteger_eq_some_iff _ _).mp read
        rcases unfit value inside.1 with low | high
        · exact absurd inside.2.1 (not_le.mpr low)
        · exact absurd inside.2.2 (not_le.mpr high)
      · rfl
    | speech unmarked unfit =>
      rw [show isVoiceText line.text = true from voice] at unmarked
      cases unmarked

theorem readSpeech_eq_error_iff (voices : VoiceRegistry) {line : Line} (spoken : line.isVoice = false)
    (reason : ScriptError) :
    readSpeech voices line = .error reason ↔ Flaw line.number line.text reason := by
  have unmarked : isVoiceText line.text = false := spoken
  have unread : ∀ found, readSpeech voices line = .error found →
      found = .invalidSpeakLine line.number line.content := by
    intro found failed
    unfold readSpeech at failed
    split at failed
    · split at failed
      · cases failed
        rfl
      · cases failed
    · cases failed
      rfl
  constructor
  · intro failed
    rw [unread reason failed]
    refine .speech unmarked ?_
    intro speaker text parts
    have read := (readSpeech_eq_ok_iff voices line ⟨String.ofList (trim speaker),
      String.ofList (trim text), voices.resolve (String.ofList (trim speaker))⟩).mpr
        ⟨speaker, text, parts, rfl, rfl, (firstNamed_iff _ _ _).mpr rfl⟩
    rw [failed] at read
    cases read
  · intro flaw
    cases flaw with
    | fields marked | rate marked =>
      have voice : isVoiceText line.text = true := by
        rw [marked]
        exact List.isPrefixOf_iff_prefix.mpr (List.prefix_append _ _)
      rw [unmarked] at voice
      cases voice
    | speech _ unfit =>
      cases read : readSpeech voices line with
      | error found => rw [unread found read]; rfl
      | ok utterance =>
        obtain ⟨speaker, text, parts, -⟩ := (readSpeech_eq_ok_iff voices line utterance).mp read
        exact absurd parts (unfit speaker text)

end Readers

section Places

/-- A line of the folded text is a line of the text as it was written, folded. -/
theorem exists_folded_line_iff {source : List Char} (holds : List Line → Line → Prop) :
    (∃ earlier line later, scriptLines (lowercase source) = earlier ++ line :: later ∧
        holds earlier line) ↔
      ∃ before raw after, Stretch source before raw after ∧ trim raw ≠ [] ∧
        holds (scriptLines (lowercase before)) ⟨1 + before.count '\n', lowercase (trim raw)⟩ := by
  simp only [scriptLines_eq_linesFrom, linesFrom_lowercase]
  constructor
  · rintro ⟨earlier, line, later, split, found⟩
    obtain ⟨front, back, cut, rfl, shown⟩ := List.map_eq_append_iff.mp split
    obtain ⟨written, rest, rfl, rfl, -⟩ := List.map_eq_cons_iff.mp shown
    obtain ⟨before, raw, after, stretch, filled, rfl, rfl⟩ := exists_stretch cut
    exact ⟨before, raw, after, stretch, filled, found⟩
  · rintro ⟨before, raw, after, stretch, filled, found⟩
    obtain ⟨later, cut⟩ := stretch.linesFrom_eq filled 1
    refine ⟨_, _, later.map fun line => ⟨line.number, lowercase line.text⟩, ?_, found⟩
    rw [cut, List.map_append, List.map_cons]

theorem forall_scriptLines_iff (source : List Char) (holds : List Char → Prop) :
    (∀ line ∈ scriptLines (lowercase source), holds line.text) ↔
      ∀ line ∈ textLines source, holds (lowercase line) := by
  have folded : (scriptLines (lowercase source)).map Line.text =
      (textLines source).map lowercase := by
    rw [map_text_scriptLines, textLines_lowercase]
  rw [← List.forall_mem_map (f := Line.text), folded, List.forall_mem_map]

theorem exists_dark_of_stretch {source before raw after : List Char}
    (stretch : Stretch source before raw after) (filled : trim raw ≠ []) :
    ∃ c ∈ source, isWhite c = false := by
  by_contra! white
  refine filled ?_
  have blank : ∀ c ∈ raw, isWhite c = true := by
    intro c member
    rw [stretch.split] at white
    simpa using white c (by simp [member])
  rw [trim, trimStart, List.dropWhile_eq_nil_iff.mpr blank]
  rfl

theorem filled_of_isVoiceText {raw : List Char} (voice : isVoiceText (lowercase (trim raw)) = true) :
    trim raw ≠ [] := by
  intro blank
  rw [(lowercase_eq_nil_iff _).mpr blank] at voice
  exact absurd voice (by decide)

end Places

section Passes

structure Reads {α : Type} (kind : List Char → Bool) (read : Line → Except ScriptError α) : Prop where
  accepts (line : Line) : kind line.text = true →
    ((∃ value, read line = .ok value) ↔ WellFormed line.text)
  rejects (line : Line) (reason : ScriptError) : kind line.text = true →
    (read line = .error reason ↔ Flaw line.number line.text reason)

theorem reads_readVoice : Reads isVoiceText readVoice where
  accepts line marked := by
    have voice : line.isVoice = true := marked
    simp only [readVoice_eq_ok_iff voice, WellFormed, marked, true_and, Bool.true_eq_false, false_and,
      or_false]
  rejects _ reason voice := readVoice_eq_error_iff voice reason

theorem reads_readSpeech (voices : VoiceRegistry) :
    Reads (fun line => !isVoiceText line) (readSpeech voices) where
  accepts line spoken := by
    have unmarked : isVoiceText line.text = false := by simpa using spoken
    simp only [readSpeech_eq_ok_iff, WellFormed, unmarked, true_and, Bool.false_eq_true, false_and,
      false_or]
    constructor
    · rintro ⟨utterance, speaker, text, parts, -⟩
      exact ⟨speaker, text, parts⟩
    · rintro ⟨speaker, text, parts⟩
      let name := String.ofList (trim speaker)
      exact ⟨⟨name, String.ofList (trim text), voices.resolve name⟩, speaker, text, parts, rfl, rfl,
        (firstNamed_iff _ _ _).mpr rfl⟩
  rejects line reason spoken := by
    apply readSpeech_eq_error_iff
    show isVoiceText line.text = false
    simpa using spoken

namespace Reads

variable {α : Type} {kind : List Char → Bool} {read : Line → Except ScriptError α}

theorem all_iff (reads : Reads kind read) (source : List Char) :
    (∀ line ∈ scriptLines (lowercase source), kind line.text = true →
        ∃ value, read line = .ok value) ↔
      ∀ line ∈ textLines source, kind (lowercase line) = true → WellFormed (lowercase line) := by
  rw [← forall_scriptLines_iff source fun line => kind line = true → WellFormed line]
  exact forall₂_congr fun line _ => imp_congr_right fun known => reads.accepts line known

theorem passes_iff (reads : Reads kind read) (source : List Char) :
    (∃ values, ((scriptLines (lowercase source)).filter fun line => kind line.text).mapM read =
        .ok values) ↔
      ∀ line ∈ textLines source, kind (lowercase line) = true → WellFormed (lowercase line) := by
  simp only [mapM_eq_ok_iff]
  rw [exists_forall₂_iff, ← reads.all_iff]
  simp only [List.mem_filter, and_imp]

theorem fails_iff (reads : Reads kind read) (source : List Char) (reason : ScriptError) :
    ((scriptLines (lowercase source)).filter fun line => kind line.text).mapM read =
        .error reason ↔
      ∃ before raw after, Stretch source before raw after ∧ trim raw ≠ [] ∧
        kind (lowercase (trim raw)) = true ∧
        Flaw (1 + before.count '\n') (lowercase (trim raw)) reason ∧
        ∀ line ∈ textLines before, kind (lowercase line) = true → WellFormed (lowercase line) := by
  rw [mapM_filter_eq_error_iff, exists_folded_line_iff fun earlier line => kind line.text = true ∧
    (∀ other ∈ earlier, kind other.text = true → ∃ value, read other = .ok value) ∧
    read line = .error reason]
  simp only [reads.all_iff]
  constructor
  · rintro ⟨before, raw, after, stretch, filled, known, earlier, failed⟩
    exact ⟨before, raw, after, stretch, filled, known, (reads.rejects _ reason known).mp failed,
      earlier⟩
  · rintro ⟨before, raw, after, stretch, filled, known, flaw, earlier⟩
    let line : Line := ⟨1 + before.count '\n', lowercase (trim raw)⟩
    exact ⟨before, raw, after, stretch, filled, known, earlier,
      (reads.rejects line reason known).mpr flaw⟩

end Reads

theorem textLines_subset_of_stretch {source before raw after : List Char}
    (stretch : Stretch source before raw after) (filled : trim raw ≠ []) :
    ∀ line ∈ textLines before, line ∈ textLines source := by
  obtain ⟨later, cut⟩ := stretch.linesFrom_eq filled 1
  intro line member
  rw [← map_text_linesFrom 1] at member ⊢
  rw [cut, List.map_append]
  exact List.mem_append_left _ member

end Passes

namespace Script

/-- The second pass is only taken after the first, so its errors come last. -/
theorem passes_eq_error_iff {written : List Char} (dark : ∃ c ∈ written, isWhite c = false)
    (reason : ScriptError) :
    parse (String.ofList written) = .error reason ↔
      ((scriptLines (lowercase written)).filter Line.isVoice).mapM readVoice = .error reason ∨
        ∃ profiles,
          ((scriptLines (lowercase written)).filter Line.isVoice).mapM readVoice = .ok profiles ∧
          ((scriptLines (lowercase written)).filter fun line => !line.isVoice).mapM
            (readSpeech ⟨profiles⟩) = .error reason := by
  have filled : ¬written.all isWhite = true := by simpa [List.all_eq_true] using dark
  unfold parse
  rw [String.toList_ofList, if_neg filled]
  simp only [bind_eq_error, pure, Except.pure, reduceCtorEq, and_false, exists_false, or_false]

theorem parse_eq_error_iff (source : String) (reason : ScriptError) :
    parse source = .error reason ↔ Rejects source.toList reason := by
  rw [← String.ofList_toList (s := source), String.toList_ofList]
  generalize source.toList = written
  by_cases dark : ∃ c ∈ written, isWhite c = false
  · rw [passes_eq_error_iff dark]
    constructor
    · rintro (failed | ⟨profiles, declared, failed⟩)
      · obtain ⟨before, raw, after, stretch, -, voice, flaw, earlier⟩ :=
          (reads_readVoice.fails_iff written reason).mp failed
        exact .declaration stretch voice flaw earlier
      · have sound := (reads_readVoice.passes_iff written).mp ⟨profiles, declared⟩
        obtain ⟨before, raw, after, stretch, filled, spoken, flaw, earlier⟩ :=
          ((reads_readSpeech ⟨profiles⟩).fails_iff written reason).mp failed
        simp only [Bool.not_eq_true'] at spoken earlier
        refine .speech stretch filled spoken flaw sound fun line member => ?_
        cases voice : isVoiceText (lowercase line) with
        | true => exact sound line (textLines_subset_of_stretch stretch filled line member) voice
        | false => exact earlier line member voice
    · intro rejects
      cases rejects with
      | blank white =>
        obtain ⟨c, member, filled⟩ := dark
        exact absurd (white c member) (by simp [filled])
      | declaration stretch voice flaw earlier =>
        apply Or.inl
        apply (reads_readVoice.fails_iff written reason).mpr
        exact ⟨_, _, _, stretch, filled_of_isVoiceText voice, voice, flaw, earlier⟩
      | speech stretch filled spoken flaw sound earlier =>
        obtain ⟨profiles, declared⟩ := (reads_readVoice.passes_iff written).mpr sound
        refine .inr ⟨profiles, declared, ?_⟩
        apply ((reads_readSpeech ⟨profiles⟩).fails_iff written reason).mpr
        exact ⟨_, _, _, stretch, filled, by simp [spoken], flaw,
          fun line member _ => earlier line member⟩
  · have white : ∀ c ∈ written, isWhite c = true := by simpa using dark
    have blank : parse (String.ofList written) = .error .empty := by
      rw [parse, String.toList_ofList, if_pos (List.all_eq_true.mpr white)]
    rw [blank]
    constructor
    · rintro ⟨⟩
      exact .blank white
    · intro rejects
      cases rejects with
      | blank => rfl
      | declaration stretch voice =>
        exact absurd (exists_dark_of_stretch stretch (filled_of_isVoiceText voice)) dark
      | speech stretch filled => exact absurd (exists_dark_of_stretch stretch filled) dark

/-- Nothing but white space is called empty. Of everything else that is not read the error is about
the first declaration that is not well formed, wherever it stands, and when there is none about the
first speech that is not. -/
theorem parse_rejects_iff (source : String) :
    (parse source = .error .empty ↔ ∀ c ∈ source.toList, isWhite c = true) ∧
      ∀ reason, parse source = .error reason ↔ Rejects source.toList reason := by
  refine ⟨?_, parse_eq_error_iff source⟩
  rw [parse_eq_error_iff]
  constructor
  · intro rejects
    cases rejects with
    | blank white => exact white
    | declaration _ _ flaw | speech _ _ _ flaw => cases flaw
  · exact .blank

-- The declaration is the one that counts, and the carriage return alone begins no number.
example : parse "amy hi\r\n\rVOICE:amy,maria" =
    .error (.invalidVoiceLine 2 "voice:amy,maria") := by
  decide +kernel

end Script

end Voiceover
