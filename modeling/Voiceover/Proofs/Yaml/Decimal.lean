import Mathlib.Data.Bool.AllAny
import Voiceover.Proofs.Yaml.Inline
import Voiceover.Yaml.Schema

/-! Numbers in decimal digits. They are plain scalars, and they mean what they were written for. -/

namespace Voiceover.Yaml

theorem isDigit_cases {c : Char} (digit : c.isDigit = true) : c ∈ "0123456789".toList := by
  have range : 48 ≤ c.toNat ∧ c.toNat ≤ 57 := by
    simpa [Char.isDigit, Char.le_def, UInt32.le_iff_toNat_le] using digit
  have codes : ∀ code ≤ 57, 48 ≤ code → Char.ofNat code ∈ "0123456789".toList := by decide
  rw [eq_ofNat_of_toNat (rfl : c.toNat = c.toNat)]
  exact codes _ range.2 range.1

theorem digits_ordinary : ∀ c ∈ "0123456789".toList,
    isPrintable c = true ∧ isBreak c = false ∧ isBlank c = false ∧ isSpace c = false ∧
      isLeadingIndicator c = false ∧ c ∉ [':', '#', '?', '-', '+'] :=
  List.all_iff_forall_prop.mp (by decide)

theorem holdsIndicator_eq_false {text : List Char} (free : ∀ c ∈ text, c ≠ ':' ∧ c ≠ '#') (spaced : Bool) :
    holdsIndicator spaced text = false := by
  induction text generalizing spaced with
  | nil => rfl
  | cons c text ih =>
    obtain ⟨⟨noColon, noComment⟩, others⟩ := List.forall_mem_cons.mp free
    simp [holdsIndicator, noColon, noComment, ih others]

theorem bare_of_digits {text : List Char} (digits : ∀ c ∈ text, c.isDigit = true) : Bare text := by
  have ordinary (c : Char) (member : c ∈ text) := digits_ordinary c (isDigit_cases (digits c member))
  refine ⟨fun c member => ⟨(ordinary c member).1, (ordinary c member).2.1⟩, ?_, ?_, ?_⟩
  · rw [endsWith]
    cases last : text.getLast? with
    | none => rfl
    | some c => exact (ordinary c (List.mem_of_getLast? last)).2.2.2.1
  · refine holdsIndicator_eq_false (fun c member => ?_) false
    have other := (ordinary c member).2.2.2.2.2
    simp only [List.mem_cons, not_or] at other
    exact ⟨other.1, other.2.1⟩
  · rintro c rest rfl
    obtain ⟨-, -, solid, -, leading, other⟩ := ordinary c List.mem_cons_self
    simp only [List.mem_cons, not_or] at other
    exact ⟨solid, leading, by simp [other]⟩

theorem digitValue_of_isDigit {c : Char} (digit : c.isDigit = true) :
    digitValue c = some (c.toNat - '0'.toNat) ∧ c.toNat - '0'.toNat < 10 := by
  have all : ∀ c ∈ "0123456789".toList, c.toNat - '0'.toNat < 10 :=
    List.all_iff_forall_prop.mp (by decide)
  exact ⟨if_pos digit, all c (isDigit_cases digit)⟩

theorem digitsValue_of_digits {text : List Char} (digits : ∀ c ∈ text, c.isDigit = true)
    (filled : text ≠ []) : digitsValue 10 text = some (Nat.ofDigitChars 10 text 0) := by
  rw [digitsValue, if_neg (by simpa using filled), Nat.ofDigitChars_eq_foldl]
  generalize 0 = value
  clear filled
  induction text generalizing value with
  | nil => rfl
  | cons c text ih =>
    obtain ⟨digit, others⟩ := List.forall_mem_cons.mp digits
    obtain ⟨read, small⟩ := digitValue_of_isDigit digit
    rw [List.foldlM_cons, List.foldl_cons, ← ih others]
    simp only [read, small, if_true]
    rfl

/-- No number but zero starts with a zero. -/
theorem head_toDigits {n : Nat} (positive : 0 < n) : (Nat.toDigits 10 n).head? ≠ some '0' := by
  induction n using Nat.strongRecOn with
  | _ n ih =>
    by_cases small : n < 10
    · have all : ∀ n < 10, 0 < n → (Nat.toDigits 10 n).head? ≠ some '0' := by decide
      exact all n small positive
    · have high := ih (n / 10) (Nat.div_lt_self positive (by decide)) (by omega)
      rw [Nat.toDigits_of_base_le (by decide) (by omega)]
      cases shape : Nat.toDigits 10 (n / 10) with
      | nil => exact absurd shape Nat.toDigits_ne_nil
      | cons c rest => rwa [shape] at high

theorem magnitude_toDigits (n : Nat) : magnitude (Nat.toDigits 10 n) = some n := by
  have digits (c : Char) (member : c ∈ Nat.toDigits 10 n) : c.isDigit = true :=
    Nat.isDigit_of_mem_toDigits (by decide) (by decide) member
  have value : digitsValue 10 (Nat.toDigits 10 n) = some n := by
    rw [digitsValue_of_digits digits Nat.toDigits_ne_nil, Nat.ofDigitChars_ten_toDigits]
  rcases Nat.eq_zero_or_pos n with rfl | positive
  · rfl
  · have unled (rest : List Char) : Nat.toDigits 10 n ≠ '0' :: rest := fun shape =>
      head_toDigits positive (by rw [shape]; rfl)
    have unpadded : hasLeadingZero (Nat.toDigits 10 n) = false := by
      have unsigned : dropSign (Nat.toDigits 10 n) = Nat.toDigits 10 n := by
        unfold dropSign
        split <;> rename_i shape
        · exact absurd (digits '+' (shape ▸ List.mem_cons_self)) (by decide)
        · exact absurd (digits '-' (shape ▸ List.mem_cons_self)) (by decide)
        · rfl
      rw [hasLeadingZero, unsigned]
      split
      · rename_i shape
        exact absurd shape (unled _)
      · rfl
    unfold magnitude
    split
    iterate 3
      · rename_i shape
        exact absurd shape (unled _)
    · rw [if_neg (by simp [unpadded]), value]

/-- A number is read from its decimal digits. -/
theorem unsigned_toString {n limit : Nat} (fits : n < limit) : unsigned limit (toString n) = some n := by
  have noPlus : dropPlus (Nat.toDigits 10 n) = Nat.toDigits 10 n := by
    unfold dropPlus
    split
    · rename_i rest shape
      have digit : ('+').isDigit = true :=
        Nat.isDigit_of_mem_toDigits (by decide) (by decide) (shape ▸ List.mem_cons_self)
      exact absurd digit (by decide)
    · rfl
  rw [unsigned, Nat.toString_eq_ofList_toDigits, String.toList_ofList, noPlus, magnitude_toDigits]
  simp [fits]

end Voiceover.Yaml
