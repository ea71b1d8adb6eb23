import Voiceover.Proofs.Speech.Tempo
import Voiceover.Speech.Preview

/-! The preview engine's phonemes and the text that they are of. Each character that is heard has one
of them, and each of them starts where the one before it is over. The position would stop at the
longest span there is, where only a text of many thousand million characters gets. Short of that no
time is lost, and a text in two parts sounds like the one part and then, as much later, the other. -/

namespace Voiceover

open Text

def totalLength (phonemes : List Phoneme) : Nat :=
  (phonemes.map fun phoneme => phoneme.length.nanos).sum

structure ShiftedBy (delay : Duration) (phoneme moved : Phoneme) : Prop where
  symbol : moved.symbol = phoneme.symbol
  length : moved.length = phoneme.length
  start : phoneme.start.add delay = .ok moved.start

/-- The first phoneme starts at zero and each later one where the one before it is over, as far as the
longest span. Where that is not reached, the times are exact and the lengths add up. -/
structure Tiles (phonemes : List Phoneme) : Prop where
  first : ∀ phoneme ∈ phonemes.head?, phoneme.start = .zero
  next : phonemes.IsChain fun earlier later =>
    later.start = earlier.start.addClamped earlier.length
  adjacent : totalLength phonemes < durationLimit →
    phonemes.IsChain fun earlier later => earlier.finish = .ok later.start
  finish : totalLength phonemes < durationLimit →
    ∃ finish, lastFinish phonemes = .ok finish ∧ finish.nanos = totalLength phonemes

namespace Preview

section Classes

variable {c : Char}

def isHeard (c : Char) : Bool := c.isAlpha || isWhite c || c ∈ [',', '.', ';', '!', '?']

theorem isPausingMark_iff : isPausingMark c = true ↔ c ∈ [',', '.', ';', '!', '?'] := by
  simp only [isPausingMark, Bool.or_eq_true, decide_eq_true_eq, or_assoc, List.mem_cons,
    List.not_mem_nil, or_false]

theorem codes_of_isAlpha (alpha : c.isAlpha = true) :
    (65 ≤ c.toNat ∧ c.toNat ≤ 90) ∨ (97 ≤ c.toNat ∧ c.toNat ≤ 122) := by
  rcases (Bool.or_eq_true _ _).mp alpha with upper | lower
  · obtain ⟨least, most⟩ := of_decide_eq_true upper
    exact .inl ⟨UInt32.le_iff_toNat_le.mp least, UInt32.le_iff_toNat_le.mp most⟩
  · obtain ⟨least, most⟩ := (Bool.and_eq_true _ _).mp lower
    exact .inr ⟨UInt32.le_iff_toNat_le.mp (of_decide_eq_true least),
      UInt32.le_iff_toNat_le.mp (of_decide_eq_true most)⟩

theorem not_isWhite_of_isAlpha (alpha : c.isAlpha = true) : ¬isWhite c = true := by
  have codes := codes_of_isAlpha alpha
  simp [isWhite]
  omega

theorem not_class_of_mark (mark : c ∈ [',', '.', ';', '!', '?']) :
    ¬c.isAlpha = true ∧ ¬isWhite c = true := by
  simp only [List.mem_cons, List.not_mem_nil, or_false] at mark
  rcases mark with rfl | rfl | rfl | rfl | rfl <;> decide

end Classes

section Sounds

variable (letter pause : Duration)

structure Sounds (c : Char) (phoneme : Phoneme) : Prop where
  alpha : c.isAlpha = true → phoneme.symbol = c.toLower.toString ∧ phoneme.length = letter
  white : isWhite c = true → phoneme.symbol = "_" ∧ phoneme.length = pause
  mark : c ∈ [',', '.', ';', '!', '?'] →
    phoneme.symbol = "_" ∧ phoneme.length.nanos = 2 * pause.nanos

variable {letter pause} {c : Char}

theorem segment_eq_none (silent : isHeard c = false) : segment letter pause c = none := by
  simp only [isHeard, Bool.or_eq_false_iff] at silent
  obtain ⟨⟨noLetter, noWhite⟩, noMark⟩ := silent
  have noPause : ¬isPausingMark c = true := fun mark => of_decide_eq_false noMark (isPausingMark_iff.mp mark)
  simp [segment, noLetter, noWhite, noPause]

variable (letter) in
/-- The classes of characters have nothing in common, so the order in which they are tried is of no
effect. -/
theorem exists_segment (double : 2 * pause.nanos < durationLimit) (heard : isHeard c = true) :
    ∃ symbol length, segment letter pause c = some (symbol, length) ∧
      ∀ start, Sounds letter pause c ⟨symbol, start, length⟩ := by
  by_cases alpha : c.isAlpha = true
  · refine ⟨c.toLower.toString, letter, if_pos alpha, fun start => ⟨fun _ => ⟨rfl, rfl⟩, ?_, ?_⟩⟩
    · exact fun white => absurd white (not_isWhite_of_isAlpha alpha)
    · exact fun mark => absurd alpha (not_class_of_mark mark).1
  · by_cases white : isWhite c = true
    · refine ⟨"_", pause, ?_, fun start => ⟨fun other => absurd other alpha, fun _ => ⟨rfl, rfl⟩, ?_⟩⟩
      · rw [segment, if_neg alpha, if_pos white]
        rfl
      · exact fun mark => absurd white (not_class_of_mark mark).2
    · have mark : isPausingMark c = true := by
        rw [isPausingMark_iff]
        simpa [isHeard, alpha, white] using heard
      have length : pause.doubleClamped.nanos = 2 * pause.nanos := by
        rw [Duration.doubleClamped, Duration.nanos_clamped]
        omega
      refine ⟨"_", pause.doubleClamped, ?_, fun start => ⟨fun other => absurd other alpha,
        fun other => absurd other white, fun _ => ⟨rfl, length⟩⟩⟩
      rw [segment, if_neg alpha, if_neg white, if_pos mark]
      rfl

theorem sounds_sequence (double : 2 * pause.nanos < durationLimit) (position : Duration)
    (text : List Char) :
    List.Forall₂ (Sounds letter pause) (text.filter isHeard)
      (sequence position (text.filterMap (segment letter pause))) := by
  induction text generalizing position with
  | nil => exact .nil
  | cons c rest ih =>
    cases heard : isHeard c with
    | false =>
      rw [List.filter_cons_of_neg (by simp [heard]), List.filterMap_cons_none (segment_eq_none heard)]
      exact ih position
    | true =>
      obtain ⟨symbol, length, told, sounds⟩ := exists_segment letter double heard
      rw [List.filter_cons_of_pos heard, List.filterMap_cons_some told, sequence]
      exact .cons (sounds position) (ih _)

end Sounds

section Positions

variable {position : Duration}

def span (segments : List (String × Duration)) : Nat :=
  (segments.map fun heard => heard.2.nanos).sum

def reach (position : Duration) (segments : List (String × Duration)) : Duration :=
  segments.foldl (fun here heard => here.addClamped heard.2) position

theorem span_cons (heard : String × Duration) (segments : List (String × Duration)) :
    span (heard :: segments) = heard.2.nanos + span segments := by
  rw [span, List.map_cons, List.sum_cons, span]

theorem span_append (front back : List (String × Duration)) :
    span (front ++ back) = span front + span back := by
  rw [span, List.map_append, List.sum_append, span, span]

theorem totalLength_sequence (position : Duration) (segments : List (String × Duration)) :
    totalLength (sequence position segments) = span segments := by
  induction segments generalizing position with
  | nil => rfl
  | cons heard rest ih =>
    rw [sequence, totalLength, List.map_cons, List.sum_cons, span_cons]
    exact congrArg _ (ih _)

theorem sequence_append (position : Duration) (front back : List (String × Duration)) :
    sequence position (front ++ back) =
      sequence position front ++ sequence (reach position front) back := by
  induction front generalizing position with
  | nil => rfl
  | cons heard rest ih =>
    rw [List.cons_append, sequence, sequence, ih, List.cons_append]
    rfl

theorem nanos_reach {segments : List (String × Duration)}
    (fits : position.nanos + span segments < durationLimit) :
    (reach position segments).nanos = position.nanos + span segments := by
  induction segments generalizing position with
  | nil => rfl
  | cons heard rest ih =>
    rw [span_cons] at fits
    have next : (position.addClamped heard.2).nanos = position.nanos + heard.2.nanos :=
      Duration.nanos_addClamped (by omega)
    have later : (reach (position.addClamped heard.2) rest).nanos =
        (position.addClamped heard.2).nanos + span rest := ih (by omega)
    rw [next] at later
    rw [span_cons, ← Nat.add_assoc]
    exact later

theorem nanos_reach_zero {segments : List (String × Duration)} (fits : span segments < durationLimit) :
    (reach .zero segments).nanos = span segments := by
  have start : Duration.zero.nanos + span segments = span segments := Nat.zero_add _
  rw [nanos_reach (by omega), start]

theorem reach_concat (segments : List (String × Duration)) (last : String × Duration) :
    reach position (segments ++ [last]) = (reach position segments).addClamped last.2 := by
  rw [reach, List.foldl_concat, reach]

theorem isChain_sequence (position : Duration) (segments : List (String × Duration)) :
    (sequence position segments).IsChain fun earlier later =>
      later.start = earlier.start.addClamped earlier.length := by
  induction segments generalizing position with
  | nil => exact .nil
  | cons heard rest ih =>
    cases rest with
    | nil => exact .singleton _
    | cons next others => exact .cons_cons rfl (ih _)

theorem isChain_finish {segments : List (String × Duration)}
    (fits : position.nanos + span segments < durationLimit) :
    (sequence position segments).IsChain fun earlier later => earlier.finish = .ok later.start := by
  induction segments generalizing position with
  | nil => exact .nil
  | cons heard rest ih =>
    rw [span_cons] at fits
    have inRange : position.nanos + heard.2.nanos < durationLimit := by omega
    have next := Duration.nanos_addClamped inRange
    cases rest with
    | nil => exact .singleton _
    | cons following others =>
      exact .cons_cons (Duration.add_eq_addClamped inRange) (ih (by omega))

theorem lastFinish_sequence {segments : List (String × Duration)}
    (fits : span segments < durationLimit) :
    lastFinish (sequence .zero segments) = .ok (reach .zero segments) := by
  rcases List.eq_nil_or_concat' segments with rfl | ⟨front, last, rfl⟩
  · rfl
  · rw [span_append, span_cons] at fits
    have start : (reach .zero front).nanos = span front := nanos_reach_zero (by omega)
    have inRange : (reach .zero front).nanos + last.2.nanos < durationLimit := by omega
    rw [reach_concat, sequence_append, sequence, sequence, lastFinish, List.getLast?_concat]
    exact Duration.add_eq_addClamped inRange

/-- What starts later goes on later by as much. -/
theorem shiftedBy_sequence {delay moved : Duration} {segments : List (String × Duration)}
    (shift : position.add delay = .ok moved) (fits : moved.nanos + span segments < durationLimit) :
    List.Forall₂ (ShiftedBy delay) (sequence position segments) (sequence moved segments) := by
  induction segments generalizing position moved with
  | nil => exact .nil
  | cons heard rest ih =>
    rw [span_cons] at fits
    have place := Duration.add_eq_ok_iff.mp shift
    have before : (position.addClamped heard.2).nanos = position.nanos + heard.2.nanos :=
      Duration.nanos_addClamped (by omega)
    have after : (moved.addClamped heard.2).nanos = moved.nanos + heard.2.nanos :=
      Duration.nanos_addClamped (by omega)
    apply List.Forall₂.cons ⟨rfl, rfl, shift⟩
    apply ih
    · rw [Duration.add_eq_ok_iff]
      omega
    · omega

theorem exists_shiftedBy {front back : List (String × Duration)}
    (fits : span (front ++ back) < durationLimit) :
    ∃ finish moved, lastFinish (sequence .zero front) = .ok finish ∧
      sequence .zero (front ++ back) = sequence .zero front ++ moved ∧
      List.Forall₂ (ShiftedBy finish) (sequence .zero back) moved := by
  rw [span_append] at fits
  have reached : (reach .zero front).nanos = span front := nanos_reach_zero (by omega)
  refine ⟨reach .zero front, sequence (reach .zero front) back, lastFinish_sequence (by omega),
    sequence_append _ _ _, shiftedBy_sequence ?_ (by omega)⟩
  rw [Duration.add_eq_ok_iff]
  exact (Nat.zero_add _).symm

theorem tiles_sequence (segments : List (String × Duration)) : Tiles (sequence .zero segments) where
  first := by
    intro phoneme member
    cases segments with
    | nil => cases member
    | cons heard rest =>
      cases member
      rfl
  next := isChain_sequence .zero segments
  adjacent fits := by
    rw [totalLength_sequence] at fits
    exact isChain_finish ((Nat.zero_add _).trans_lt fits)
  finish fits := by
    rw [totalLength_sequence] at fits ⊢
    exact ⟨_, lastFinish_sequence fits, nanos_reach_zero fits⟩

end Positions

section Text

variable (settings : PreviewSettings) (rate : Int)

def heardOf (text : String) : List (String × Duration) :=
  text.toList.filterMap
    (segment (scaled settings.phonemeMillis rate) (scaled settings.pauseMillis rate))

theorem phonemes_eq (text : String) :
    phonemes settings text rate = sequence .zero (heardOf settings rate text) := rfl

theorem heardOf_append (text more : String) :
    heardOf settings rate (text ++ more) =
      heardOf settings rate text ++ heardOf settings rate more := by
  rw [heardOf, String.toList_append, List.filterMap_append]
  rfl

variable {rate}

open Binary64 in
/-- At a rate of one byte nothing lasts much more than two years. -/
theorem nanos_scaled_le (millis : UInt64) (lower : -128 ≤ rate) (upper : rate ≤ 127) :
    (scaled millis rate).nanos ≤ 2 ^ 46 * 1000 := by
  have slow := Tempo.le_factor lower upper
  have positive : 0 < Tempo.factor rate := lt_of_lt_of_le (by norm_num) slow
  have most : min millis.toNat longestMillis * 1000 ≤ 10000000 :=
    Nat.mul_le_mul_right 1000 (min_le_right _ _)
  have atRest : ((min millis.toNat longestMillis * 1000 : Nat) : Rat) ≤ 10000000 := by
    exact_mod_cast most
  have quotient : ((min millis.toNat longestMillis * 1000 : Nat) : Rat) / Tempo.factor rate ≤
      (2 ^ 46 : Nat) := by
    rw [div_le_iff₀ positive]
    apply atRest.trans
    push_cast
    linarith
  have double : nearest ((2 ^ 46 : Nat) : Rat) = (2 ^ 46 : Nat) :=
    (isDouble_natCast (by decide)).nearest_eq_self
  have rounded := nearest_mono quotient
  rw [double] at rounded
  rw [scaled, Duration.nanos_clamped]
  apply (min_le_left _ _).trans
  exact Nat.mul_le_mul_right 1000 (roundHalfUp_le rounded)

/-- Only a text of more than two to the 36 characters gets to the longest span. -/
theorem totalLength_lt_of_short (lower : -128 ≤ rate) (upper : rate ≤ 127) {text : String}
    (short : text.toList.length ≤ 2 ^ 36) :
    totalLength (phonemes settings text rate) < durationLimit := by
  have letter := nanos_scaled_le settings.phonemeMillis lower upper
  have pause := nanos_scaled_le settings.pauseMillis lower upper
  have each : ∀ nanos ∈ (heardOf settings rate text).map fun heard => heard.2.nanos,
      nanos ≤ 2 * (2 ^ 46 * 1000) := by
    intro nanos member
    obtain ⟨heard, within, rfl⟩ := List.mem_map.mp member
    obtain ⟨c, -, told⟩ := List.mem_filterMap.mp within
    have double : (scaled settings.pauseMillis rate).doubleClamped.nanos ≤
        2 * (scaled settings.pauseMillis rate).nanos := min_le_left _ _
    unfold segment at told
    split_ifs at told <;> cases told <;> dsimp only <;> omega
  have sum := List.sum_le_card_nsmul _ _ each
  have fewer : (heardOf settings rate text).length ≤ text.toList.length :=
    List.length_filterMap_le _ _
  have limit : 2 ^ 36 * (2 * (2 ^ 46 * 1000)) < durationLimit := by decide
  rw [List.length_map, smul_eq_mul] at sum
  rw [phonemes_eq, totalLength_sequence]
  calc span (heardOf settings rate text)
      ≤ (heardOf settings rate text).length * (2 * (2 ^ 46 * 1000)) := sum
    _ ≤ 2 ^ 36 * (2 * (2 ^ 46 * 1000)) := Nat.mul_le_mul_right _ (fewer.trans short)
    _ < durationLimit := limit

end Text

/-- The phonemes of a text are those of its characters, in their order, and they tile the time from zero
to the sum of their lengths. When more text follows, its phonemes follow, as much later as the first
text takes. -/
theorem phonemes_tile (settings : PreviewSettings) {rate : Int} (lower : -128 ≤ rate)
    (upper : rate ≤ 127) (text more : String) :
    List.Forall₂ (Sounds (scaled settings.phonemeMillis rate) (scaled settings.pauseMillis rate))
      (text.toList.filter isHeard) (phonemes settings text rate) ∧
    Tiles (phonemes settings text rate) ∧
    (text.toList.length ≤ 2 ^ 36 → totalLength (phonemes settings text rate) < durationLimit) ∧
    (totalLength (phonemes settings (text ++ more) rate) < durationLimit →
      ∃ finish moved, lastFinish (phonemes settings text rate) = .ok finish ∧
        phonemes settings (text ++ more) rate = phonemes settings text rate ++ moved ∧
        List.Forall₂ (ShiftedBy finish) (phonemes settings more rate) moved) := by
  have bound := nanos_scaled_le settings.pauseMillis lower upper
  have limit : 2 * (2 ^ 46 * 1000) < durationLimit := by decide
  refine ⟨sounds_sequence (by omega) _ _, tiles_sequence _,
    totalLength_lt_of_short settings lower upper, ?_⟩
  intro fits
  rw [phonemes_eq, heardOf_append, totalLength_sequence] at fits
  rw [phonemes_eq, phonemes_eq, phonemes_eq, heardOf_append]
  exact exists_shiftedBy fits

/-- An accent is not heard, a mark is two pauses, and what is said next starts behind it. -/
theorem phonemes_tile_greeting :
    phonemes .standard "Hé," 10 =
      [⟨"h", .zero, .clamped 26667000⟩, ⟨"_", .clamped 26667000, .clamped 80000000⟩] ∧
    ∃ moved, phonemes .standard ("Hé," ++ " you!") 10 = phonemes .standard "Hé," 10 ++ moved ∧
      List.Forall₂ (ShiftedBy (.clamped 106667000)) (phonemes .standard " you!" 10) moved := by
  have least : -128 ≤ (10 : Int) := by decide
  obtain ⟨-, -, -, appended⟩ := phonemes_tile .standard least (by decide) "Hé," " you!"
  obtain ⟨finish, moved, last, whole, shifted⟩ := appended (by decide +kernel)
  have greeting : phonemes .standard "Hé," 10 =
      [⟨"h", .zero, .clamped 26667000⟩, ⟨"_", .clamped 26667000, .clamped 80000000⟩] := by
    decide +kernel
  rw [greeting] at last
  cases last
  exact ⟨greeting, moved, whole, shifted⟩

end Preview

end Voiceover
