import Voiceover.Proofs.Script.Numbering

/-! Where the declarations of a script stand does not matter. A line is folded as if it stood alone, and
the reader makes one pass for the declarations and one for the speeches. So the lines may be put in any
other order, as long as the declarations stay in order among themselves and so do the speeches. -/

namespace Voiceover

open Text

def rawLines (source : String) : List (List Char) := source.toList.splitOnP isLineEnd

def isOfKind (kind : List Char → Bool) (raw : List Char) : Bool :=
  !(trim raw).isEmpty && kind (lowercase (trim raw))

/-- The same declarations in the same order, and the same speeches in the same order. Blank lines come
and go. -/
structure Reorders (lines others : List (List Char)) : Prop where
  declarations : others.filter (isOfKind isVoiceText) = lines.filter (isOfKind isVoiceText)
  speeches : others.filter (isOfKind fun line => !isVoiceText line) =
    lines.filter (isOfKind fun line => !isVoiceText line)

theorem Reorders.mem_of_filled {lines others : List (List Char)} (reorders : Reorders lines others)
    {raw : List Char} (member : raw ∈ others) (filled : trim raw ≠ []) : raw ∈ lines := by
  cases kind : isVoiceText (lowercase (trim raw)) with
  | true =>
    have kept : raw ∈ others.filter (isOfKind isVoiceText) := by
      simp [isOfKind, member, filled, kind]
    exact List.mem_of_mem_filter (reorders.declarations ▸ kept)
  | false =>
    have kept : raw ∈ others.filter (isOfKind fun line => !isVoiceText line) := by
      simp [isOfKind, member, filled, kind]
    exact List.mem_of_mem_filter (reorders.speeches ▸ kept)

section Lines

theorem unbroken_of_mem_splitOnP (content : List Char) :
    ∀ raw ∈ content.splitOnP isLineEnd, ∀ c ∈ raw, isLineEnd c = false := by
  induction content using cut_induction isLineEnd with
  | whole raw unbroken =>
    rw [List.splitOnP_eq_singleton unbroken]
    simpa using unbroken
  | cut front ending back unbroken ends ih =>
    rw [List.splitOnP_append_cons_of_forall_mem unbroken _ ends]
    exact List.forall_mem_cons.mpr ⟨unbroken, ih⟩

theorem textLines_intercalate (lines : List (List Char)) :
    textLines (['\n'].intercalate lines) = lines.flatMap textLines := by
  induction lines with
  | nil => rfl
  | cons line later ih =>
    cases later with
    | nil => simp
    | cons next others =>
      rw [List.intercalate_cons_cons, List.append_assoc, List.singleton_append,
        textLines_append_cons line rfl, ih]
      rfl

/-- The lines of one kind are those of the raw lines of that kind, trimmed and folded. -/
theorem filter_textLines (kind : List Char → Bool) {lines : List (List Char)}
    (whole : ∀ raw ∈ lines, trim raw ≠ [] → ∀ c ∈ raw, isLineEnd c = false) :
    ((lines.flatMap textLines).map lowercase).filter kind =
      (lines.filter (isOfKind kind)).map fun raw => lowercase (trim raw) := by
  induction lines with
  | nil => rfl
  | cons raw later ih =>
    obtain ⟨first, others⟩ := List.forall_mem_cons.mp whole
    rw [List.flatMap_cons, List.map_append, List.filter_append, ih others, List.filter_cons]
    by_cases blank : trim raw = []
    · rw [(textLines_eq_nil_iff raw).mpr ((trim_eq_nil_iff raw).mp blank)]
      simp [isOfKind, blank]
    · rw [textLines_of_unbroken (first blank)]
      cases known : kind (lowercase (trim raw)) <;> simp [isOfKind, blank, known]

theorem textLines_eq_flatMap (source : String) :
    textLines source.toList = (rawLines source).flatMap textLines := by
  have alone : ∀ raw ∈ rawLines source,
      textLines raw = [trim raw].filter fun line => !line.isEmpty :=
    fun raw member => textLines_of_unbroken (unbroken_of_mem_splitOnP _ raw member)
  rw [List.flatMap_congr alone, ← List.filter_flatMap, ← List.map_eq_flatMap]
  rfl

end Lines

namespace Script

/-- Of a script that is read, the lines may stand in any other order that keeps the declarations and the
speeches in order: what is read is the same. -/
theorem parse_reordered {source : String} {script : Script} {lines : List (List Char)}
    (parsed : parse source = .ok script) (reorders : Reorders (rawLines source) lines) :
    parse ("\n".intercalate (lines.map String.ofList)) = .ok script := by
  obtain ⟨dark, ⟨profiles, registry, declared⟩, spoken⟩ := (parse_eq_ok_iff source script).mp parsed
  have joined : ("\n".intercalate (lines.map String.ofList)).toList = ['\n'].intercalate lines := by
    rw [String.toList_intercalate, List.map_map]
    simp
  have ofSource (kind : List Char → Bool) :
      (textLines (lowercase source.toList)).filter kind =
        ((rawLines source).filter (isOfKind kind)).map fun raw => lowercase (trim raw) := by
    rw [textLines_lowercase, textLines_eq_flatMap]
    exact filter_textLines kind fun raw member _ => unbroken_of_mem_splitOnP _ raw member
  have ofLines (kind : List Char → Bool) :
      (textLines (lowercase (['\n'].intercalate lines))).filter kind =
        (lines.filter (isOfKind kind)).map fun raw => lowercase (trim raw) := by
    rw [textLines_lowercase, textLines_intercalate]
    exact filter_textLines kind fun raw member filled =>
      unbroken_of_mem_splitOnP _ raw (reorders.mem_of_filled member filled)
  have voices := ofLines isVoiceText
  have speeches := ofLines fun line => !isVoiceText line
  rw [reorders.declarations, ← ofSource] at voices
  rw [reorders.speeches, ← ofSource] at speeches
  rw [parse_eq_ok_iff, joined]
  refine ⟨?_, ⟨profiles, registry, voices ▸ declared⟩, speeches ▸ spoken⟩
  -- A text without lines has neither declarations nor speeches, but the script has one or the other.
  by_contra! white
  have white : ∀ c ∈ ['\n'].intercalate lines, isWhite c = true := by simpa using white
  rw [textLines_lowercase, (textLines_eq_nil_iff _).mpr white] at voices speeches
  have empty : textLines (lowercase source.toList) = [] := by
    apply List.eq_nil_iff_forall_not_mem.mpr
    intro line member
    cases kind : isVoiceText line with
    | true => exact List.filter_eq_nil_iff.mp voices.symm line member kind
    | false => exact List.filter_eq_nil_iff.mp speeches.symm line member (by simp [kind])
  rw [textLines_lowercase, List.map_eq_nil_iff, textLines_eq_nil_iff] at empty
  obtain ⟨c, member, filled⟩ := dark
  exact absurd (empty c member) (by simp [filled])

/-- A declaration moves in front of the speeches, and blank lines come and go. The sigmas of one speech
end words, whatever the line behind it is. -/
theorem parse_reordered_sigma :
    ∃ script, parse "ΟΔΟΣ:ΣΑΣ\n\r\nvoice:οδος,maria,+2\ramy: hi\nΟΔΟΣ: Σ" = .ok script ∧
      parse "voice:οδος,maria,+2\nΟΔΟΣ:ΣΑΣ\namy: hi\n \nΟΔΟΣ: Σ" = .ok script := by
  have parsed : parse "ΟΔΟΣ:ΣΑΣ\n\r\nvoice:οδος,maria,+2\ramy: hi\nΟΔΟΣ: Σ" = .ok
      ⟨⟨[⟨"οδος", "maria", 2⟩]⟩, [⟨"οδοσ", "σας", .builtIn⟩, ⟨"amy", "hi", .builtIn⟩,
        ⟨"οδος", "σ", ⟨"οδος", "maria", 2⟩⟩]⟩ := by decide +kernel
  have reorders : Reorders (rawLines "ΟΔΟΣ:ΣΑΣ\n\r\nvoice:οδος,maria,+2\ramy: hi\nΟΔΟΣ: Σ")
      (["voice:οδος,maria,+2", "ΟΔΟΣ:ΣΑΣ", "amy: hi", " ", "ΟΔΟΣ: Σ"].map String.toList) := by
    constructor
    · decide +kernel
    · decide +kernel
  exact ⟨_, parsed, parse_reordered parsed reorders⟩

end Script

end Voiceover
