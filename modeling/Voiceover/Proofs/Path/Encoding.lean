import Mathlib.Tactic.SplitIfs
import Voiceover.Proofs.Path.Naming

/-! Paths as bytes. The bytes of a folder's path need not be text, but reading loses none of them and no
broken piece reaches over a slash. So the text of a file in the folder is the text of the folder with the
name of the file behind it. -/

namespace Voiceover

namespace Text

def Rune.bytes : Rune → List UInt8
  | char c => String.utf8EncodeChar c
  | broken bytes => bytes

variable {bytes front : List UInt8}

theorem exists_of_decoded {c : Char} (decoded : bytes.toByteArray.utf8DecodeChar? 0 = some c) :
    ∃ rest, bytes = String.utf8EncodeChar c ++ rest := by
  obtain ⟨rest, whole⟩ := ByteArray.exists_of_utf8DecodeChar?_eq_some decoded
  refine ⟨rest.data.toList, ?_⟩
  have data := congrArg (fun bytes => bytes.data.toList) whole
  simpa using data

theorem decoded_utf8EncodeChar_append (c : Char) (rest : List UInt8) :
    (String.utf8EncodeChar c ++ rest).toByteArray.utf8DecodeChar? 0 = some c := by
  rw [List.toByteArray_append]
  exact ByteArray.utf8DecodeChar?_utf8EncodeChar_append

theorem runes_of_undecoded (some : bytes ≠ []) (undecoded : bytes.toByteArray.utf8DecodeChar? 0 = none) :
    runes bytes = .broken (bytes.take (brokenLength bytes)) :: runes (bytes.drop (brokenLength bytes)) := by
  cases bytes with
  | nil => exact absurd rfl some
  | cons lead rest => rw [runes, undecoded]

/-- Reading loses nothing. -/
theorem flatMap_bytes_runes (bytes : List UInt8) : (runes bytes).flatMap Rune.bytes = bytes := by
  fun_induction runes bytes with
  | case1 => rfl
  | case2 lead rest c decoded ih =>
    obtain ⟨more, whole⟩ := exists_of_decoded decoded
    rw [whole, ← String.length_utf8EncodeChar, List.drop_left] at ih
    rw [List.flatMap_cons, whole, ← String.length_utf8EncodeChar, List.drop_left, ih]
    rfl
  | case3 lead rest undecoded length ih =>
    rw [List.flatMap_cons, ih]
    exact List.take_append_drop length (lead :: rest)

section Slash

theorem goesOn_slash (lead : UInt8) : goesOn lead 0x2f = false := by
  unfold goesOn isTail
  split_ifs <;> simp

theorem brokenLength_append_slash (some : front ≠ []) (behind : List UInt8) :
    brokenLength (front ++ 0x2f :: behind) = brokenLength front ∧ brokenLength front ≤ front.length := by
  match front with
  | [lead] => simp [brokenLength, goesOn_slash]
  | [lead, second] =>
    have next : isTail 0x2f = false := by decide
    simp only [brokenLength, List.cons_append, List.nil_append, List.head?_cons, List.head?_nil,
      Option.any_some, Option.any_none, next, Bool.and_false]
    refine ⟨trivial, ?_⟩
    split <;> simp
  | lead :: second :: third :: rest =>
    refine ⟨rfl, ?_⟩
    simp only [brokenLength, List.length_cons]
    split
    · omega
    · split <;> omega

/-- No character has a slash among the bytes behind its first one. -/
theorem undecoded_append_slash (some : front ≠ [])
    (undecoded : front.toByteArray.utf8DecodeChar? 0 = none) (behind : List UInt8) :
    (front ++ 0x2f :: behind).toByteArray.utf8DecodeChar? 0 = none := by
  have differs {c : Char} {rest : List UInt8} : front ≠ String.utf8EncodeChar c ++ rest := by
    rintro rfl
    exact nomatch undecoded.symm.trans (decoded_utf8EncodeChar_append c rest)
  cases decoded : (front ++ 0x2f :: behind).toByteArray.utf8DecodeChar? 0 with
  | none => rfl
  | some c =>
    obtain ⟨rest, whole⟩ := exists_of_decoded decoded
    rcases List.append_eq_append_iff.mp whole with ⟨more, encoded, ahead⟩ | ⟨more, longer, -⟩
    · cases more with
      | nil =>
        rw [List.append_nil] at encoded
        exact absurd (encoded.symm.trans (List.append_nil _).symm) differs
      | cons byte more =>
        obtain ⟨rfl, -⟩ := List.cons.inj ahead
        have inside : front.length < (String.utf8EncodeChar c).length := by
          rw [encoded, List.length_append, List.length_cons]
          omega
        have slash : (String.utf8EncodeChar c)[front.length] = 0x2f := by
          simp only [encoded, List.getElem_append_right (Nat.le_refl _), Nat.sub_self, List.getElem_cons_zero]
        have first : (String.utf8EncodeChar c)[front.length].IsUTF8FirstByte := by
          rw [slash]
          decide
        rw [UInt8.isUTF8FirstByte_getElem_utf8EncodeChar, List.length_eq_zero_iff] at first
        exact absurd first some
    · exact absurd longer differs

theorem runes_append_slash (front behind : List UInt8) :
    runes (front ++ 0x2f :: behind) = runes front ++ .char '/' :: runes behind := by
  fun_induction runes front with
  | case1 => exact runes_utf8EncodeChar_append '/' behind
  | case2 lead rest c decoded ih =>
    obtain ⟨more, whole⟩ := exists_of_decoded decoded
    rw [whole, ← String.length_utf8EncodeChar, List.drop_left] at ih ⊢
    rw [List.append_assoc, runes_utf8EncodeChar_append, ih, List.cons_append]
  | case3 lead rest undecoded length ih =>
    have some : lead :: rest ≠ [] := List.cons_ne_nil _ _
    obtain ⟨same, within⟩ := brokenLength_append_slash some behind
    rw [runes_of_undecoded (by simp) (undecoded_append_slash some undecoded behind), same,
      List.take_append_of_le_length within, List.drop_append_of_le_length within, ih, List.cons_append]

end Slash

end Text

namespace Folder

open Text

/-- The path of a file in the folder, byte by byte. -/
def join (folder : Folder) (name : String) : Folder :=
  if folder.bytes = [] || folder.bytes.getLast? = some 0x2f then
    ⟨folder.bytes ++ encoded name.toList⟩
  else ⟨folder.bytes ++ 0x2f :: encoded name.toList⟩

theorem toList_text (folder : Folder) : folder.text.toList = (runes folder.bytes).map Rune.shown :=
  String.toList_ofList

theorem opens_text (folder : Folder) :
    Path.Opens folder.text.toList ↔ folder.bytes = [] ∨ folder.bytes.getLast? = some 0x2f := by
  have lost := flatMap_bytes_runes folder.bytes
  rw [toList_text, Path.Opens, List.map_eq_nil_iff, List.getLast?_map, Option.map_eq_some_iff]
  constructor
  · rintro (nothing | ⟨rune, last, shown⟩)
    · rw [nothing] at lost
      exact .inl lost.symm
    · obtain rfl : rune = .char '/' := by
        cases rune with
        | char c => exact congrArg _ shown
        | broken bytes =>
          have differs : '\ufffd' ≠ '/' := by decide
          exact absurd shown differs
      obtain ⟨earlier, shape⟩ := List.getLast?_eq_some_iff.mp last
      rw [shape, List.flatMap_append] at lost
      right
      rw [← lost]
      exact List.getLast?_concat
  · rintro (nothing | slash)
    · rw [nothing, runes]
      exact .inl rfl
    · obtain ⟨front, shape⟩ := List.getLast?_eq_some_iff.mp slash
      rw [shape, runes_append_slash, runes]
      exact .inr ⟨.char '/', List.getLast?_concat, rfl⟩

theorem runes_join (folder : Folder) {joint : String} (joins : Path.Joint folder.text joint) (name : String) :
    runes (folder.join name).bytes =
      runes folder.bytes ++ (joint.toList ++ name.toList).map Rune.char := by
  have condition : (folder.bytes = [] || folder.bytes.getLast? = some 0x2f) = true ↔
      Path.Opens folder.text.toList := by
    rw [opens_text, Bool.or_eq_true, decide_eq_true_iff, decide_eq_true_iff]
  unfold join
  rcases joins with ⟨rfl, opens⟩ | ⟨rfl, closed⟩
  · rw [if_pos (condition.mpr opens)]
    rcases folder.opens_text.mp opens with nothing | slash
    · rw [nothing, List.nil_append, runes_encoded, runes]
      rfl
    · obtain ⟨front, shape⟩ := List.getLast?_eq_some_iff.mp slash
      dsimp only
      rw [shape, List.append_assoc, List.singleton_append, runes_append_slash, runes_append_slash,
        runes_encoded, runes, List.append_assoc]
      rfl
  · rw [if_neg fun opens => closed (condition.mp opens), runes_append_slash, runes_encoded]
    rfl

/-- The text of a file's bytes is the name of the file in the folder, as the text of the folder has it. -/
theorem text_join (folder : Folder) (name : String) : (folder.join name).text = Path.join folder.text name := by
  obtain ⟨joint, joins⟩ := Path.exists_joint folder.text
  have shown (text : List Char) : (text.map Rune.char).map Rune.shown = text := by
    rw [List.map_map]
    exact List.map_id text
  rw [joins.join_eq, ← String.toList_inj, toList_text, folder.runes_join joins, List.map_append, shown,
    ← toList_text, String.toList_append, String.toList_append, List.append_assoc]

/-- And an output shows the broken pieces of its bytes. -/
theorem runes_output (folder : Folder) (name : String) :
    Output.runes ⟨folder, Path.join folder.text name⟩ = runes (folder.join name).bytes := by
  obtain ⟨joint, joins⟩ := Path.exists_joint folder.text
  rw [folder.runes_join joins, Output.runes]
  dsimp only
  rw [joins.join_eq, String.append_assoc, String.toList_append, List.drop_left, String.toList_append]

theorem text_join_audio (folder : Folder) (index : Nat) (speaker : String) :
    (folder.join (Path.baseName index speaker ++ ".wav")).text =
      Path.audioFile folder.text index speaker := by
  obtain ⟨joint, joins⟩ := Path.exists_joint folder.text
  rw [text_join, joins.join_eq, joins.audioFile_eq]

theorem text_join_sidecar (folder : Folder) (index : Nat) {speaker : String} (plain : '/' ∉ speaker.toList) :
    (folder.join (Path.baseName index speaker ++ ".dat")).text =
      Path.sidecar (Path.audioFile folder.text index speaker) := by
  obtain ⟨joint, joins⟩ := Path.exists_joint folder.text
  rw [text_join, joins.join_eq, joins.sidecar_audioFile index plain]

end Folder

end Voiceover
