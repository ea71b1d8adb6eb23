import Voiceover.Proofs.Text.Folding

/-! The characters that shape a script: white space, the comma, the colon and the two slashes. Folding
leaves each of them alone and makes none of them out of anything else, so a fold has its marks and
its white space where the text has them. White space and the comma are also blind: no sigma looks
past them. -/

namespace Voiceover.Text

/-- The runs neither move the code point nor move another one onto it. -/
def leaves (runs : List CaseRun) (code : Nat) : Bool :=
  runs.all fun run =>
    (code < run.first || run.last < code) &&
      (code < run.image || run.image + (run.last - run.first) < code)

theorem mapped_eq_iff_of_leaves {runs : List CaseRun} {target : Nat}
    (kept : leaves runs target = true) (code : Nat) :
    mapped runs code = target ↔ code = target := by
  induction runs with
  | nil => rfl
  | cons run later ih =>
    simp only [leaves, List.all_cons, Bool.and_eq_true, Bool.or_eq_true, decide_eq_true_eq] at kept
    obtain ⟨⟨outside, unreached⟩, others⟩ := kept
    have rest := ih others
    simp only [mapped]
    split
    · rfl
    · split
      · split
        · omega
        · omega
      · exact rest

def origins (runs : List CaseRun) (target : Nat) : List Nat :=
  runs.filterMap fun run =>
    if run.image ≤ target ∧ target ≤ run.image + (run.last - run.first) then
      some (run.first + (target - run.image))
    else none

theorem eq_or_mem_origins {runs : List CaseRun} {code target : Nat}
    (sent : mapped runs code = target) : code = target ∨ code ∈ origins runs target := by
  induction runs with
  | nil => exact .inl sent
  | cons run later ih =>
    simp only [mapped] at sent
    have deeper (found : code ∈ origins later target) : code ∈ origins (run :: later) target := by
      obtain ⟨other, member, hits⟩ := List.mem_filterMap.1 found
      exact List.mem_filterMap.2 ⟨other, List.mem_cons_of_mem _ member, hits⟩
    split at sent
    · exact .inl sent
    · split at sent
      · split at sent
        · refine .inr (List.mem_filterMap.2 ⟨run, List.mem_cons_self, ?_⟩)
          rw [if_pos (by omega), Option.some.injEq]
          omega
        · exact .inl sent
      · exact (ih sent).imp_right deeper

def whiteCodes : List Nat :=
  [9, 10, 11, 12, 13, 0x20, 0x85, 0xa0, 0x1680, 0x2000, 0x2001, 0x2002, 0x2003, 0x2004, 0x2005,
    0x2006, 0x2007, 0x2008, 0x2009, 0x200a, 0x2028, 0x2029, 0x202f, 0x205f, 0x3000]

theorem mem_whiteCodes_of_isWhite {c : Char} (white : isWhite c = true) : c.toNat ∈ whiteCodes := by
  simp only [isWhite, Bool.or_eq_true, Bool.and_eq_true, decide_eq_true_eq, beq_iff_eq] at white
  simp only [whiteCodes, List.mem_cons, List.not_mem_nil, or_false]
  omega

def isLayout (c : Char) : Bool :=
  isWhite c || c = ',' || c = ':' || c = '/' || c = '\\'

/-- Neither cased nor case-ignorable: whatever lies behind is out of sight. -/
def isBlind (c : Char) : Bool :=
  !isCaseIgnorable c && !isCased c

theorem leaves_layout {c : Char} (layout : isLayout c = true) :
    leaves caseRuns c.toNat = true := by
  have table : (whiteCodes ++ [0x2c, 0x3a, 0x2f, 0x5c]).all (leaves caseRuns) = true := by
    decide +kernel
  refine List.all_eq_true.1 table _ (List.mem_append.2 ?_)
  simp only [isLayout, Bool.or_eq_true, decide_eq_true_eq] at layout
  obtain (((white | rfl) | rfl) | rfl) | rfl := layout
  · exact .inl (mem_whiteCodes_of_isWhite white)
  all_goals exact .inr (by decide)

theorem isBlind_white {c : Char} (white : isWhite c = true) : isBlind c = true := by
  have table : whiteCodes.all (fun code =>
      !covers caseIgnorableRuns code && !covers casedRuns code) = true := by decide +kernel
  exact List.all_eq_true.1 table _ (mem_whiteCodes_of_isWhite white)

theorem isBlind_comma : isBlind ',' = true := by decide +kernel

theorem ofNat_eq_iff {c : Char} (named : c ≠ '\x00') (code : Nat) :
    Char.ofNat code = c ↔ code = c.toNat := by
  constructor
  · intro same
    by_cases valid : code.isValidChar
    · rw [← same, Char.ofNat, dif_pos valid]
      rfl
    · exact absurd (same.symm.trans (by rw [Char.ofNat, dif_neg valid]; rfl)) named
  · intro same
    rw [same]
    exact Char.ofNat_toNat c

theorem ne_of_layout {c d : Char} (layout : isLayout c = true) (plain : isLayout d = false) :
    c ≠ d := by
  intro same
  rw [same, plain] at layout
  exact absurd layout (by decide)

/-- A layout character is in the fold of a character only where it is that character. -/
theorem mem_lowerChar_layout {c d : Char} (layout : isLayout d = true) :
    d ∈ lowerChar c ↔ c = d := by
  unfold lowerChar
  by_cases dotted : c = '\u0130'
  · rw [if_pos dotted, dotted]
    have notI : d ≠ 'i' := ne_of_layout layout (by decide)
    have notDot : d ≠ '\u0307' := ne_of_layout layout (by decide)
    have notBoth : '\u0130' ≠ d := (ne_of_layout layout (by decide)).symm
    simp [notI, notDot, notBoth]
  · rw [if_neg dotted, List.mem_singleton, eq_comm,
      ofNat_eq_iff (ne_of_layout layout (by decide)),
      mapped_eq_iff_of_leaves (leaves_layout layout), Char.toNat_inj]

theorem lowerChar_layout {c : Char} (layout : isLayout c = true) : lowerChar c = [c] := by
  have member : c ∈ lowerChar c := (mem_lowerChar_layout layout).2 rfl
  have plain : c ≠ '\u0130' := ne_of_layout layout (by decide)
  rw [lowerChar, if_neg plain] at member ⊢
  rw [← List.mem_singleton.1 member]

theorem foldChar_layout {c : Char} (layout : isLayout c = true) (behind ahead : Bool) :
    foldChar behind ahead c = [c] := by
  rw [foldChar, if_neg (ne_of_layout layout (by decide)), lowerChar_layout layout]

theorem mem_foldChar_layout {c d : Char} (layout : isLayout d = true) (behind ahead : Bool) :
    d ∈ foldChar behind ahead c ↔ c = d := by
  unfold foldChar
  by_cases sigma : c = 'Σ'
  · rw [if_pos sigma, sigma]
    have notFinal : d ≠ 'ς' := ne_of_layout layout (by decide)
    have notInner : d ≠ 'σ' := ne_of_layout layout (by decide)
    have notSigma : 'Σ' ≠ d := (ne_of_layout layout (by decide)).symm
    split <;> simp [notFinal, notInner, notSigma]
  · rw [if_neg sigma, mem_lowerChar_layout layout]

theorem mem_foldBetween_layout {d : Char} (layout : isLayout d = true) (behind ahead : Bool)
    (text : List Char) : d ∈ foldBetween behind ahead text ↔ d ∈ text := by
  induction text generalizing behind with
  | nil => rfl
  | cons c rest ih =>
    rw [foldBetween_cons, List.mem_append, ih, mem_foldChar_layout layout, List.mem_cons, eq_comm]

theorem not_mem_foldBetween {d : Char} (layout : isLayout d = true) (behind ahead : Bool)
    {text : List Char} (free : d ∉ text) : d ∉ foldBetween behind ahead text := by
  rw [mem_foldBetween_layout layout]
  exact free

theorem lookPast_blind {c : Char} (blind : isBlind c = true) (beyond : Bool) :
    lookPast c beyond = false := by
  simp only [isBlind, Bool.and_eq_true, Bool.not_eq_true'] at blind
  have firm : ¬isCaseIgnorable c = true := by
    rw [blind.1]
    decide
  rw [lookPast_firm firm, blind.2]

/-- Only one character has a fold of more than one. -/
theorem foldChar_shape (behind ahead : Bool) (c : Char) :
    (∃ x, foldChar behind ahead c = [x]) ∨ foldChar behind ahead c = ['i', '\u0307'] := by
  unfold foldChar lowerChar
  split
  · split
    · exact .inl ⟨_, rfl⟩
    · exact .inl ⟨_, rfl⟩
  · split
    · exact .inr rfl
    · exact .inl ⟨_, rfl⟩

theorem foldChar_ne_nil (behind ahead : Bool) (c : Char) : foldChar behind ahead c ≠ [] := by
  obtain ⟨x, single⟩ | dotted := foldChar_shape behind ahead c
  · rw [single]
    exact List.cons_ne_nil _ _
  · rw [dotted]
    exact List.cons_ne_nil _ _

end Voiceover.Text
