import Voiceover.Path
import Voiceover.Proofs.Text.Cutting

/-! The names of a speech's files. Both files of a speech share a base name that starts with the
speech's index, and only what is behind the last dot of it tells them apart: neither the folder nor
what a speaker is called has a say in where that dot is. -/

namespace Voiceover.Path

open Text

theorem dropEnd_reverse {front : List Char} {last : Char} (notSlash : last ≠ '/')
    (notDot : last = '.' → front.getLast? ≠ some '/') :
    dropEnd (front ++ [last]).reverse = (front ++ [last]).reverse := by
  rw [List.reverse_concat, dropEnd]
  · intro earlier same
    exact notSlash (List.cons.inj same).1
  · intro earlier same
    obtain ⟨dot, slash⟩ := List.cons.inj same
    apply notDot dot
    rw [← List.head?_reverse, slash, List.head?_cons]

section Last

def Opens (folder : List Char) : Prop := folder = [] ∨ folder.getLast? = some '/'

variable {folder base : List Char}

theorem splitLast_append (opens : Opens folder) {name : List Char} (plain : '/' ∉ name)
    (whole : dropEnd (folder ++ name).reverse = (folder ++ name).reverse) :
    splitLast (folder ++ name) = (folder, name) := by
  have plain : '/' ∉ name.reverse := fun slash => plain (List.mem_reverse.mp slash)
  rw [splitLast, whole, List.reverse_append]
  -- With no folder all of the text is the name, and in a folder the name ends at its slash.
  rcases opens with rfl | slash
  · have kept : ∀ c ∈ name.reverse, decide (c ≠ '/') = true := by
      intro c member
      exact decide_eq_true fun same => plain (same ▸ member)
    rw [List.reverse_nil, List.append_nil, List.takeWhile_eq_self_iff.mpr kept,
      List.dropWhile_eq_nil_iff.mpr kept, List.reverse_reverse, List.reverse_nil]
  · obtain ⟨front, rfl⟩ := List.getLast?_eq_some_iff.mp slash
    rw [List.reverse_append, List.reverse_singleton, List.singleton_append,
      takeWhile_ne_append plain, dropWhile_ne_append plain, List.reverse_cons,
      List.reverse_reverse, List.reverse_reverse]

theorem stem_append (named : base ≠ []) {extension : List Char} (dotless : '.' ∉ extension) :
    stem (base ++ '.' :: extension) = base := by
  have dotless : '.' ∉ extension.reverse := fun dot => dotless (List.mem_reverse.mp dot)
  have named : base.reverse ≠ [] := List.reverse_ne_nil_iff.mpr named
  rw [stem, List.reverse_append, List.reverse_cons, List.append_assoc, List.singleton_append,
    dropWhile_ne_append dotless, List.drop_one, List.tail_cons]
  cases kept : base.reverse with
  | nil => exact absurd kept named
  | cons c rest =>
    have back : (c :: rest).reverse = base := by rw [← kept, List.reverse_reverse]
    exact back

theorem isFileName_of_length {name : List Char} (long : 2 < name.length) : isFileName name = true := by
  have notEmpty : name ≠ [] := by rintro rfl; simp at long
  have notDot : name ≠ ['.'] := by rintro rfl; simp at long
  have notDots : name ≠ ['.', '.'] := by rintro rfl; simp at long
  simp [isFileName, notEmpty, notDot, notDots]

theorem extensionOf_append (named : base ≠ []) {extension : List Char} (dotless : '.' ∉ extension) :
    extensionOf (base ++ '.' :: extension) = extension := by
  rw [extensionOf, stem_append named dotless, ← List.drop_drop, List.drop_left, List.drop_one,
    List.tail_cons]

/-- Where only the dot of an extension is left, an extension may follow it. -/
theorem setExtension_append (opens : Opens folder) (plain : '/' ∉ base) (long : 2 ≤ base.length)
    (extension : List Char) :
    setExtension (folder ++ (base ++ ['.'])) extension = folder ++ (base ++ '.' :: extension) := by
  have named : base ≠ [] := List.ne_nil_of_length_pos (by omega)
  have whole : dropEnd (folder ++ (base ++ ['.'])).reverse = (folder ++ (base ++ ['.'])).reverse := by
    rw [← List.append_assoc]
    apply dropEnd_reverse (by decide)
    rintro - slash
    rw [List.getLast?_append_of_ne_nil _ named] at slash
    exact plain (List.mem_of_getLast? slash)
  have cut : splitLast (folder ++ (base ++ ['.'])) = (folder, base ++ ['.']) :=
    splitLast_append opens (by simp [plain]) whole
  have valid : isFileName (base ++ ['.']) = true :=
    isFileName_of_length (by rw [List.length_append, List.length_singleton]; omega)
  have found : stem (base ++ ['.']) = base := stem_append named (by simp)
  rw [setExtension, cut]
  simp only [valid, if_true, found, List.append_assoc]

theorem dropExtension_append (opens : Opens folder) (plain : '/' ∉ base) (long : 2 ≤ base.length)
    {extension : List Char} (written : extension ≠ []) (extensionPlain : '/' ∉ extension)
    (dotless : '.' ∉ extension) :
    dropExtension (folder ++ (base ++ '.' :: extension)) = folder ++ (base ++ ['.']) := by
  have named : base ≠ [] := List.ne_nil_of_length_pos (by omega)
  have positive : 0 < extension.length := List.length_pos_iff.mpr written
  have whole : dropEnd (folder ++ (base ++ '.' :: extension)).reverse =
      (folder ++ (base ++ '.' :: extension)).reverse := by
    obtain ⟨front, last, rfl⟩ := (List.eq_nil_or_concat' extension).resolve_left written
    have lastNotSlash : last ≠ '/' := by
      rintro rfl
      exact extensionPlain (by simp)
    have lastNotDot : last ≠ '.' := by
      rintro rfl
      exact dotless (by simp)
    rw [← List.cons_append, ← List.append_assoc, ← List.append_assoc]
    exact dropEnd_reverse lastNotSlash fun dot => absurd dot lastNotDot
  have cut : splitLast (folder ++ (base ++ '.' :: extension)) = (folder, base ++ '.' :: extension) :=
    splitLast_append opens (by simp [plain, extensionPlain]) whole
  have valid : isFileName (base ++ '.' :: extension) = true :=
    isFileName_of_length (by rw [List.length_append, List.length_cons]; omega)
  have bytes : folder ++ (base ++ '.' :: extension) = folder ++ (base ++ ['.']) ++ extension := by
    simp only [List.append_assoc, List.singleton_append]
  rw [dropExtension, cut]
  simp only [valid, if_true, extensionOf_append named dotless]
  rw [bytes, List.length_append, Nat.add_sub_cancel, List.take_left]

end Last

def indexDigits (index : Nat) : List Char := (Nat.toDigits 10 index).leftpad 3 '0'

theorem ofDigitChars_indexDigits (index : Nat) : Nat.ofDigitChars 10 (indexDigits index) 0 = index := by
  rw [indexDigits, List.leftpad, Nat.ofDigitChars_append, Nat.ofDigitChars_replicate_zero,
    Nat.mul_zero, Nat.ofDigitChars_ten_toDigits]

theorem underscore_notMem_indexDigits (index : Nat) : '_' ∉ indexDigits index := by
  intro member
  rcases List.mem_append.mp member with padding | digit
  · exact absurd (List.eq_of_mem_replicate padding) (by decide)
  · exact Nat.underscore_not_in_toDigits digit

def baseName (index : Nat) (speaker : String) : String :=
  "speak_" ++ String.ofList (indexDigits index) ++ "_" ++ speaker

theorem toList_baseName (index : Nat) (speaker : String) :
    (baseName index speaker).toList =
      "speak_".toList ++ (indexDigits index ++ '_' :: speaker.toList) := by
  have mark : "_".toList = ['_'] := rfl
  simp only [baseName, String.toList_append, String.toList_ofList, mark, List.append_assoc,
    List.singleton_append]

theorem slash_notMem_baseName (index : Nat) {speaker : String} (plain : '/' ∉ speaker.toList) :
    '/' ∉ (baseName index speaker).toList := by
  rw [toList_baseName]
  intro member
  rcases List.mem_append.mp member with mark | member
  · exact absurd mark (by decide)
  · rcases List.mem_append.mp member with digits | member
    · rcases List.mem_append.mp digits with padding | digit
      · exact absurd (List.eq_of_mem_replicate padding) (by decide)
      · exact absurd (Nat.isDigit_of_mem_toDigits (by decide) (by decide) digit) (by decide)
    · rcases List.mem_cons.mp member with underscore | inside
      · exact absurd underscore (by decide)
      · exact plain inside

/-- The index can be read off every name that starts with it, whatever follows. -/
theorem index_eq_of_baseName {index other : Nat} {speaker voice ending close : String}
    (same : baseName index speaker ++ ending = baseName other voice ++ close) : index = other := by
  have digits (number : Nat) (name rest : String) :
      ((baseName number name ++ rest).toList.drop 6).takeWhile (· ≠ '_') = indexDigits number := by
    rw [String.toList_append, toList_baseName, List.append_assoc, List.append_assoc,
      List.cons_append]
    exact takeWhile_ne_append (underscore_notMem_indexDigits number) _
  rw [← ofDigitChars_indexDigits index, ← digits index speaker ending, same, digits,
    ofDigitChars_indexDigits]

/-- What stands between a folder and a name in it: a slash, unless one is there or no folder is
named. -/
def Joint (folder joint : String) : Prop :=
  joint = "" ∧ Opens folder.toList ∨ joint = "/" ∧ ¬Opens folder.toList

theorem exists_joint (folder : String) : ∃ joint, Joint folder joint := by
  by_cases opens : Opens folder.toList
  · exact ⟨"", .inl ⟨rfl, opens⟩⟩
  · exact ⟨"/", .inr ⟨rfl, opens⟩⟩

namespace Joint

variable {folder joint : String}

theorem opens (joins : Joint folder joint) : Opens (folder ++ joint).toList := by
  rcases joins with ⟨rfl, opens⟩ | ⟨rfl, -⟩
  · rwa [String.append_empty]
  · refine .inr ?_
    rw [String.toList_append]
    exact List.getLast?_concat

theorem join_eq (joins : Joint folder joint) (name : String) :
    join folder name = folder ++ joint ++ name := by
  have condition : (folder = "" || folder.toList.getLast? = some '/') = true ↔ Opens folder.toList := by
    rw [Bool.or_eq_true, decide_eq_true_iff, decide_eq_true_iff, Opens, String.toList_eq_nil_iff]
  unfold join
  rcases joins with ⟨rfl, opens⟩ | ⟨rfl, closed⟩
  · rw [if_pos (condition.mpr opens), String.append_empty]
  · rw [if_neg (fun opens => closed (condition.mp opens))]

theorem audioFile_eq (joins : Joint folder joint) (index : Nat) (speaker : String) :
    audioFile folder index speaker = folder ++ joint ++ (baseName index speaker ++ ".wav") := by
  have padded : String.ofList (List.replicate (3 - (toString index).length) '0') ++ toString index =
      String.ofList (indexDigits index) := by
    rw [Nat.toString_eq_ofList_toDigits, String.length_ofList, ← String.ofList_append]
    rfl
  rw [audioFile, joins.join_eq, baseName, ← padded]
  simp only [String.append_assoc]

theorem sidecar_audioFile (joins : Joint folder joint) (index : Nat) {speaker : String}
    (plain : '/' ∉ speaker.toList) :
    sidecar (audioFile folder index speaker) =
      folder ++ joint ++ (baseName index speaker ++ ".dat") := by
  have basePlain := slash_notMem_baseName index plain
  have long : 2 ≤ (baseName index speaker).toList.length := by
    have marked : "speak_".toList.length = 6 := rfl
    rw [toList_baseName, List.length_append, marked]
    omega
  have bytes (ending : String) (extension : List Char) (dotted : ending.toList = '.' :: extension) :
      (folder ++ joint ++ (baseName index speaker ++ ending)).toList =
        (folder ++ joint).toList ++ ((baseName index speaker).toList ++ '.' :: extension) := by
    simp only [String.toList_append, dotted]
  rw [joins.audioFile_eq, sidecar, withExtension, bytes ".wav" "wav".toList rfl,
    dropExtension_append joins.opens basePlain long (by decide) (by decide) (by decide),
    setExtension_append joins.opens basePlain long, ← bytes ".dat" "dat".toList rfl,
    String.ofList_toList]

end Joint

end Voiceover.Path
