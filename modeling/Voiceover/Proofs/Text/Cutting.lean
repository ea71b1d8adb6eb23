import Mathlib.Data.List.DropRight
import Voiceover.Proofs.Text.Layout
import Voiceover.Text

/-! Cutting and trimming a text commute with folding it, as long as the cuts are made at layout
characters. A cut at a blind character leaves two folds that know nothing of each other. -/

namespace Voiceover.Text

theorem pieces_eq_splitOn (separator : Char) (text : List Char) :
    pieces separator text = text.splitOn separator := by
  induction text with
  | nil => rfl
  | cons c text ih =>
    rw [pieces_cons, List.splitOn_cons_eq_if_modifyHead, ih]
    simp only [beq_iff_eq]
    split
    · rfl
    · cases found : text.splitOn separator with
      | nil => exact absurd found (List.splitOn_ne_nil _ _)
      | cons piece later => rfl

theorem flatMap_splitOn (first second : Char) (text : List Char) :
    (text.splitOn first).flatMap (·.splitOn second) =
      text.splitOnP fun c => c = first || c = second := by
  induction text with
  | nil => rfl
  | cons c text ih =>
    rw [List.splitOn_cons_eq_if_modifyHead, List.splitOnP_cons_eq_if_modifyHead, ← ih]
    cases found : text.splitOn first with
    | nil => exact absurd found (List.splitOn_ne_nil _ _)
    | cons piece later =>
      by_cases atFirst : c = first
      · simp [atFirst]
      · have opened : (c == first) = false := beq_false_of_ne atFirst
        simp only [opened, atFirst, Bool.false_eq_true, if_false, List.modifyHead_cons,
          List.flatMap_cons, List.splitOn_cons_eq_if_modifyHead, beq_iff_eq, decide_false,
          Bool.false_or, decide_eq_true_eq]
        split
        · rfl
        · cases inner : piece.splitOn second with
          | nil => exact absurd inner (List.splitOn_ne_nil _ _)
          | cons start others => rfl

/-- A text is cut at its first separator, or has none. -/
theorem cut_induction (isCut : Char → Bool) {motive : List Char → Prop}
    (whole : ∀ text, (∀ c ∈ text, isCut c = false) → motive text)
    (cut : ∀ front separator back, (∀ c ∈ front, isCut c = false) → isCut separator = true →
      motive back → motive (front ++ separator :: back))
    (text : List Char) : motive text := by
  induction length : text.length using Nat.strong_induction_on generalizing text with
  | _ size ih =>
    have split := List.takeWhile_append_dropWhile (p := fun c => !isCut c) (l := text)
    have front : ∀ c ∈ text.takeWhile (fun c => !isCut c), isCut c = false := by
      intro c member
      simpa using List.mem_takeWhile_imp member
    cases found : text.dropWhile (fun c => !isCut c) with
    | nil =>
      rw [found, List.append_nil] at split
      exact whole text (split ▸ front)
    | cons separator back =>
      have stops : isCut separator = true := by
        have head := List.head_dropWhile_not (fun c => !isCut c) (l := text) (by simp [found])
        simpa [found] using head
      rw [found] at split
      have shorter : back.length < size := by
        rw [← length, ← split, List.length_append, List.length_cons]
        omega
      rw [← split]
      exact cut _ separator back front stops (ih back.length shorter back rfl)

theorem splitOn_eq_singleton_iff {separator : Char} {text piece : List Char} :
    text.splitOn separator = [piece] ↔ text = piece ∧ separator ∉ text := by
  constructor
  · intro whole
    constructor
    · have joined : [separator].intercalate (text.splitOn separator) = text :=
        List.intercalate_splitOn separator
      rw [whole] at joined
      simpa using joined.symm
    · intro inside
      obtain ⟨front, back, rfl⟩ := List.append_of_mem inside
      rw [List.splitOn_append_cons_self] at whole
      have pieceCount := congrArg List.length whole
      have frontCount := List.length_pos_iff.2 (List.splitOn_ne_nil separator front)
      have backCount := List.length_pos_iff.2 (List.splitOn_ne_nil separator back)
      simp only [List.length_append, List.length_singleton] at pieceCount
      omega
  · intro uncut
    rw [← uncut.1]
    exact List.splitOn_eq_singleton uncut.2

theorem splitOn_eq_pair_iff {separator : Char} {text front back : List Char} :
    text.splitOn separator = [front, back] ↔
      text = front ++ separator :: back ∧ separator ∉ front ∧ separator ∉ back := by
  constructor
  · intro cut
    have inside : separator ∈ text := by
      by_contra free
      rw [List.splitOn_eq_singleton free] at cut
      cases cut
    obtain ⟨before, after, rfl, first⟩ := List.eq_append_cons_of_mem inside
    rw [List.splitOn_append_cons_self_of_not_mem first] at cut
    obtain ⟨rfl, rest⟩ := List.cons.inj cut
    obtain ⟨rfl, last⟩ := splitOn_eq_singleton_iff.1 rest
    exact ⟨rfl, first, last⟩
  · intro cut
    obtain ⟨rfl, frontFree, backFree⟩ := cut
    rw [List.splitOn_append_cons_self_of_not_mem frontFree, List.splitOn_eq_singleton backFree]

theorem takeWhile_ne_append {separator : Char} {front : List Char} (free : separator ∉ front)
    (back : List Char) : (front ++ separator :: back).takeWhile (· ≠ separator) = front := by
  have before : ∀ c ∈ front, decide (c ≠ separator) = true := by
    intro c member
    exact decide_eq_true fun same => free (same ▸ member)
  rw [List.takeWhile_append_of_pos before, List.takeWhile_cons_of_neg (by simp), List.append_nil]

theorem dropWhile_ne_append {separator : Char} {front : List Char} (free : separator ∉ front)
    (back : List Char) :
    (front ++ separator :: back).dropWhile (· ≠ separator) = separator :: back := by
  have before : ∀ c ∈ front, decide (c ≠ separator) = true := by
    intro c member
    exact decide_eq_true fun same => free (same ▸ member)
  rw [List.dropWhile_append_of_pos before, List.dropWhile_cons_of_neg (by simp)]

section Fold

variable {isCut : Char → Bool}

theorem foldBetween_cut (behind ahead : Bool) (front back : List Char) {separator : Char}
    (layout : isLayout separator = true) :
    foldBetween behind ahead (front ++ separator :: back) =
      foldBetween behind (lookPast separator (casedAhead back ahead)) front ++
        separator :: foldBetween (lookPast separator (casedBehind behind front)) ahead back := by
  rw [foldBetween_append, casedAhead_cons, foldBetween_cons, foldChar_layout layout]
  rfl

theorem lowercase_cut (front back : List Char) {separator : Char}
    (layout : isLayout separator = true) (blind : isBlind separator = true) :
    lowercase (front ++ separator :: back) = lowercase front ++ separator :: lowercase back := by
  simp only [lowercase_eq_foldBetween, foldBetween_cut _ _ front back layout, lookPast_blind blind]

theorem not_cut_foldBetween (layout : ∀ c, isCut c = true → isLayout c = true)
    (behind ahead : Bool) {text : List Char} (uncut : ∀ c ∈ text, isCut c = false) :
    ∀ c ∈ foldBetween behind ahead text, isCut c = false := by
  intro c member
  by_contra cut
  rw [Bool.not_eq_false] at cut
  have inside := (mem_foldBetween_layout (layout c cut) behind ahead text).1 member
  exact absurd cut (by rw [uncut c inside]; decide)

/-- Folding a text and cutting it at blind layout characters is cutting it and folding the pieces. -/
theorem splitOnP_lowercase (layout : ∀ c, isCut c = true → isLayout c = true)
    (blind : ∀ c, isCut c = true → isBlind c = true) (text : List Char) :
    (lowercase text).splitOnP isCut = (text.splitOnP isCut).map lowercase := by
  induction text using cut_induction isCut with
  | whole text uncut =>
    have folded := not_cut_foldBetween layout false false uncut
    rw [← lowercase_eq_foldBetween] at folded
    rw [List.splitOnP_eq_singleton uncut, List.splitOnP_eq_singleton folded]
    rfl
  | cut front separator back uncut cut ih =>
    have folded := not_cut_foldBetween layout false false uncut
    rw [← lowercase_eq_foldBetween] at folded
    rw [lowercase_cut front back (layout _ cut) (blind _ cut),
      List.splitOnP_append_cons_of_forall_mem uncut _ cut,
      List.splitOnP_append_cons_of_forall_mem folded _ cut, ih]
    rfl

/-- The first character of a fold is the fold of the first character, unless that was an I with a dot. -/
theorem exists_of_foldBetween_eq_cons {behind ahead : Bool} {text : List Char} {x : Char}
    {later : List Char} (folded : foldBetween behind ahead text = x :: later)
    (undotted : x ≠ 'i' ∨ later.head? ≠ some '\u0307') :
    ∃ c rest, text = c :: rest ∧ foldChar behind (casedAhead rest ahead) c = [x] ∧
      foldBetween (lookPast c behind) ahead rest = later := by
  cases text with
  | nil => cases folded
  | cons c rest =>
    rw [foldBetween_cons] at folded
    obtain ⟨y, single⟩ | dotted := foldChar_shape behind (casedAhead rest ahead) c
    · rw [single, List.singleton_append] at folded
      obtain ⟨rfl, rfl⟩ := List.cons.inj folded
      exact ⟨c, rest, rfl, single, rfl⟩
    · rw [dotted] at folded
      obtain ⟨rfl, rfl⟩ := List.cons.inj folded
      obtain notI | notDot := undotted
      · exact absurd rfl notI
      · exact absurd rfl notDot

end Fold

section Trim

theorem white_layout {c : Char} (white : isWhite c = true) : isLayout c = true := by
  simp only [isLayout, white, Bool.true_or]

theorem trimEnd_eq_rdropWhile (text : List Char) : trimEnd text = text.rdropWhile isWhite := rfl

theorem trim_eq_nil_iff (text : List Char) : trim text = [] ↔ ∀ c ∈ text, isWhite c = true := by
  rw [← List.dropWhile_eq_nil_iff]
  constructor
  · intro blank
    by_contra dark
    have head := List.head_dropWhile_not isWhite dark
    rw [trim, trimEnd_eq_rdropWhile, List.rdropWhile_eq_nil_iff] at blank
    rw [blank _ (List.head_mem dark)] at head
    exact absurd head (by decide)
  · intro blank
    rw [trim, trimStart, blank]
    rfl

theorem isWhite_of_mem_foldChar {behind ahead : Bool} {c d : Char}
    (member : d ∈ foldChar behind ahead c) (white : isWhite d = true) : isWhite c = true := by
  rw [mem_foldChar_layout (white_layout white)] at member
  exact member ▸ white

theorem trimStart_foldBetween (behind ahead : Bool) (text : List Char) :
    trimStart (foldBetween behind ahead text) =
      foldBetween (casedBehind behind (text.takeWhile isWhite)) ahead (trimStart text) := by
  induction text generalizing behind with
  | nil => rfl
  | cons c rest ih =>
    rw [foldBetween_cons]
    by_cases white : isWhite c = true
    · rw [foldChar_layout (white_layout white)]
      simp only [trimStart, List.singleton_append, List.dropWhile_cons_of_pos white,
        List.takeWhile_cons_of_pos white, casedBehind_cons]
      exact ih (lookPast c behind)
    · obtain ⟨d, others, shape⟩ := List.exists_cons_of_ne_nil
        (foldChar_ne_nil behind (casedAhead rest ahead) c)
      have dark : ¬isWhite d = true := fun bright =>
        white (isWhite_of_mem_foldChar (shape ▸ List.mem_cons_self) bright)
      simp only [trimStart, List.dropWhile_cons_of_neg white, List.takeWhile_cons_of_neg white,
        casedBehind_nil, foldBetween_cons, shape, List.cons_append,
        List.dropWhile_cons_of_neg dark]

theorem trimEnd_foldBetween (behind ahead : Bool) (text : List Char) :
    trimEnd (foldBetween behind ahead text) =
      foldBetween behind (casedAhead (text.rtakeWhile isWhite) ahead) (trimEnd text) := by
  simp only [trimEnd_eq_rdropWhile]
  induction text using List.reverseRecOn generalizing ahead with
  | nil => rfl
  | append_singleton front c ih =>
    rw [foldBetween_append, casedAhead_cons, casedAhead_nil, foldBetween_cons, foldBetween_nil,
      List.append_nil, casedAhead_nil]
    by_cases white : isWhite c = true
    · rw [foldChar_layout (white_layout white), List.rdropWhile_concat_pos _ _ _ white, ih,
        List.rdropWhile_concat_pos _ _ _ white, List.rtakeWhile_concat_pos _ _ _ white,
        casedAhead_append]
      rfl
    · rw [List.rdropWhile_concat_neg _ _ _ white, List.rtakeWhile_concat_neg _ _ _ white,
        casedAhead_nil, foldBetween_append, casedAhead_cons, casedAhead_nil, foldBetween_cons,
        foldBetween_nil, List.append_nil, casedAhead_nil, List.rdropWhile_eq_self_iff]
      intro nonempty bright
      have last := foldChar_ne_nil (casedBehind behind front) ahead c
      rw [List.getLast_append_of_ne_nil _ last] at bright
      exact white (isWhite_of_mem_foldChar (List.getLast_mem last) bright)

theorem casedBehind_white {text : List Char} (white : ∀ c ∈ text, isWhite c = true)
    (behind : Bool) : casedBehind behind text = (text.isEmpty && behind) := by
  induction text using List.reverseRecOn with
  | nil => rfl
  | append_singleton front c _ =>
    rw [casedBehind_append, casedBehind_cons, lookPast_blind (isBlind_white (white c (by simp)))]
    simp

theorem casedAhead_white {text : List Char} (white : ∀ c ∈ text, isWhite c = true)
    (ahead : Bool) : casedAhead text ahead = (text.isEmpty && ahead) := by
  cases text with
  | nil => rfl
  | cons c rest =>
    rw [casedAhead_cons, lookPast_blind (isBlind_white (white c List.mem_cons_self))]
    rfl

/-- The white space at the end of a text that is not all white stays when that at its start goes. -/
theorem rtakeWhile_trimStart {text : List Char} (dark : trimStart text ≠ []) :
    (trimStart text).rtakeWhile isWhite = text.rtakeWhile isWhite := by
  have split := List.takeWhile_append_dropWhile (p := isWhite) (l := text)
  have head := List.head_dropWhile_not isWhite dark
  conv_rhs => rw [← split]
  simp only [List.rtakeWhile, List.reverse_append, List.takeWhile_append]
  rw [if_neg]
  · rfl
  · intro full
    have all := List.takeWhile_eq_self_iff.1 (List.IsPrefix.eq_of_length
      (List.takeWhile_prefix isWhite) full)
    have white := all _ (List.mem_reverse.2 (List.head_mem dark))
    exact absurd (white.symm.trans head) (by decide)

theorem trim_foldBetween (behind ahead : Bool) (text : List Char) :
    trim (foldBetween behind ahead text) =
      foldBetween ((text.takeWhile isWhite).isEmpty && behind)
        ((text.rtakeWhile isWhite).isEmpty && ahead) (trim text) := by
  rw [trim, trim, trimStart_foldBetween, trimEnd_foldBetween,
    casedBehind_white fun _ member => List.mem_takeWhile_imp member,
    casedAhead_white fun _ member => List.mem_rtakeWhile_imp member]
  by_cases dark : trimStart text = []
  · rw [dark]
    rfl
  · rw [rtakeWhile_trimStart dark]

/-- White space is blind, so a text may be trimmed before it is folded. -/
theorem trim_lowercase (text : List Char) : trim (lowercase text) = lowercase (trim text) := by
  simp only [lowercase_eq_foldBetween, trim_foldBetween, Bool.and_false]

end Trim

end Voiceover.Text
