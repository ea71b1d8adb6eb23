import Voiceover.Proofs.Text.Cutting
import Voiceover.Proofs.Timeline.Closing
import Voiceover.Script

/-! The text kept beside an audio file says all that the track says. It is read back by cutting it into
lines and each line at its space: digits are neither a space nor a line feed, no name of a shape holds
one, and no two shapes share a name. The frames come in order because the track holds them in order. -/

namespace Voiceover

open Text

def readFrame (digits : List Char) : Option UInt32 :=
  (readDigits digits).bind fun value => if value < word32 then some (UInt32.ofNat value) else none

def MouthShape.ofName? (word : List Char) : Option MouthShape :=
  MouthShape.all.find? fun shape => shape.name.toList = word

namespace Timeline

def readLine (line : List Char) : Option (UInt32 × MouthShape) :=
  match pieces ' ' line with
  | [digits, word] =>
      (readFrame digits).bind fun frame => (MouthShape.ofName? word).map fun shape => (frame, shape)
  | _ => none

def readText (text : List Char) : Option (List (UInt32 × MouthShape)) :=
  ((pieces '\n' text).filter fun line => !line.isEmpty).mapM readLine

end Timeline

section Words

theorem readDigits_toDigits (value : Nat) : readDigits (Nat.toDigits 10 value) = some value := by
  have digits : (Nat.toDigits 10 value).all Char.isDigit = true :=
    List.all_eq_true.mpr fun c member => Nat.isDigit_of_mem_toDigits (by decide) (by decide) member
  have filled : (Nat.toDigits 10 value).isEmpty = false :=
    List.isEmpty_eq_false_iff.mpr Nat.toDigits_ne_nil
  rw [readDigits, digits, filled]
  have value := Nat.ofDigitChars_ten_toDigits (n := value)
  rw [Nat.ofDigitChars_eq_foldl] at value
  exact congrArg some value

theorem readFrame_toDigits (frame : UInt32) : readFrame (Nat.toDigits 10 frame.toNat) = some frame := by
  have fits : frame.toNat < word32 := frame.toNat_lt
  rw [readFrame, readDigits_toDigits, Option.bind_some, if_pos fits, UInt32.ofNat_toNat]

/-- The nine names are different. -/
theorem MouthShape.ofName?_name (shape : MouthShape) :
    MouthShape.ofName? shape.name.toList = some shape := by
  cases shape <;> decide +kernel

/-- No name of a shape can be taken for two words or for two lines. -/
theorem MouthShape.name_unbroken (shape : MouthShape) :
    ' ' ∉ shape.name.toList ∧ '\n' ∉ shape.name.toList := by
  cases shape <;> decide +kernel

theorem toDigits_unbroken (value : Nat) :
    ' ' ∉ Nat.toDigits 10 value ∧ '\n' ∉ Nat.toDigits 10 value := by
  constructor
  all_goals
    intro member
    have digit := Nat.isDigit_of_mem_toDigits (by decide) (by decide) member
    exact absurd digit (by decide)

end Words

namespace Timeline

def spelled (entry : UInt32 × MouthShape) : List Char :=
  Nat.toDigits 10 entry.1.toNat ++ ' ' :: entry.2.name.toList

theorem toList_line (entry : UInt32 × MouthShape) : (line entry).toList = spelled entry ++ ['\n'] := by
  rw [line, String.toList_append, String.toList_append, String.toList_append,
    Nat.toString_eq_ofList_toDigits, String.toList_ofList, spelled]
  simp

theorem toList_text (timeline : Timeline) :
    timeline.text.toList = timeline.toList.flatMap fun entry => spelled entry ++ ['\n'] := by
  rw [text]
  induction timeline.toList with
  | nil => rfl
  | cons entry later ih =>
    rw [List.map_cons, String.join_cons, String.toList_append, ih, toList_line, List.flatMap_cons]

theorem spelled_unbroken (entry : UInt32 × MouthShape) : '\n' ∉ spelled entry := by
  intro member
  rcases List.mem_append.mp member with digit | rest
  · exact (toDigits_unbroken _).2 digit
  · rcases List.mem_cons.mp rest with space | letter
    · exact absurd space (by decide)
    · exact entry.2.name_unbroken.2 letter

/-- A line gives its entry back. -/
theorem readLine_spelled (entry : UInt32 × MouthShape) : readLine (spelled entry) = some entry := by
  have words : pieces ' ' (spelled entry) = [Nat.toDigits 10 entry.1.toNat, entry.2.name.toList] := by
    rw [pieces_eq_splitOn]
    exact splitOn_eq_pair_iff.mpr ⟨rfl, (toDigits_unbroken _).1, entry.2.name_unbroken.1⟩
  rw [readLine, words]
  simp only [readFrame_toDigits, MouthShape.ofName?_name, Option.bind_some, Option.map_some]

/-- Behind the last line feed there is an empty line and nothing else. -/
theorem pieces_lines (entries : List (UInt32 × MouthShape)) :
    pieces '\n' (entries.flatMap fun entry => spelled entry ++ ['\n']) =
      entries.map spelled ++ [[]] := by
  rw [pieces_eq_splitOn]
  induction entries with
  | nil => rfl
  | cons entry later ih =>
    rw [List.flatMap_cons, List.append_assoc, List.singleton_append,
      List.splitOn_append_cons_self_of_not_mem (spelled_unbroken entry), ih, List.map_cons,
      List.cons_append]

theorem filter_spelled (entries : List (UInt32 × MouthShape)) :
    (entries.map spelled ++ [[]]).filter (fun line => !line.isEmpty) = entries.map spelled := by
  have filled : ∀ line ∈ entries.map spelled, (!line.isEmpty) = true := by
    intro line member
    obtain ⟨entry, -, rfl⟩ := List.mem_map.mp member
    simp [spelled]
  rw [List.filter_append, List.filter_eq_self.mpr filled]
  simp

/-- Whatever track it is, its text gives its entries back in order. -/
theorem readText_text (timeline : Timeline) :
    readText timeline.text.toList = some timeline.toList := by
  rw [readText, toList_text, pieces_lines, filter_spelled]
  induction timeline.toList with
  | nil => rfl
  | cons entry later ih => rw [List.map_cons, List.mapM_cons, readLine_spelled, ih]; rfl

theorem toList_injective : Function.Injective toList := by
  rintro ⟨frames, ordered⟩ ⟨others, alsoOrdered⟩ same
  obtain rfl : frames = others := List.reverse_injective same
  rfl

theorem text_injective : Function.Injective text := by
  intro timeline other same
  apply toList_injective
  have read := readText_text timeline
  rw [same, readText_text other] at read
  exact (Option.some.inj read).symm

theorem toList_ascending (timeline : Timeline) :
    timeline.toList.Pairwise fun earlier later => earlier.1 < later.1 :=
  List.pairwise_reverse.mpr timeline.latestFirst

structure ToldByText (timeline : Timeline) : Prop where
  readBack : readText timeline.text.toList = some timeline.toList
  ascending : timeline.toList.Pairwise fun earlier later => earlier.1 < later.1
  first : ∃ shape, timeline.toList.head? = some (0, shape)
  ended : ∃ lines, timeline.text = lines ++ "\n"
  unique : ∀ other : Timeline, other.text = timeline.text → other = timeline

theorem Closes.toldByText {timeline : Timeline} (closes : timeline.Closes) : timeline.ToldByText where
  readBack := readText_text timeline
  ascending := timeline.toList_ascending
  first := by
    obtain ⟨later, shape, frames⟩ := closes.exists_concat
    exact ⟨shape, by rw [toList, frames, List.reverse_append]; rfl⟩
  ended := by
    obtain ⟨latest, earlier, frames⟩ := closes.exists_cons
    rw [text_of_frames frames, line, ← String.append_assoc]
    exact ⟨_, rfl⟩
  unique := fun _ same => text_injective same

/-- The text kept beside an audio file determines the track: whatever was added to a mouth at rest, its
entries are read back from the text, and no other track has that text. -/
theorem toldByText_foldl_add (phonemes : List Phoneme) :
    (phonemes.foldl add resting).ToldByText :=
  (closes_foldl_add closes_resting phonemes).toldByText

/-- A second space, a sign and a number past the last frame are not read. -/
example : readText "0 rest\n26  o\n".toList = none ∧ readText "-1 rest\n".toList = none ∧
    readText "4294967296 rest\n".toList = none := by
  decide +kernel

end Timeline

end Voiceover
