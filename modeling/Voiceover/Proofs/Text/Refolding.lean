import Voiceover.Proofs.Text.Layout

/-! Folding a text again changes nothing. No character of a fold is a sigma or an I with a dot, and the
table sends no code point to one that it sends somewhere else. So the characters of a fold are folded
alone to themselves, and what stands around them does not count any more. -/

namespace Voiceover.Text

/-- The runs move none of the code points from `low` to `high` that are `step` apart: they pass them by, or
they go over them at the same pace and between them. -/
def passesBy (low high step : Nat) : List CaseRun → Bool
  | [] => true
  | run :: later =>
      if high < run.first then true
      else if run.last < low then passesBy low high step later
      else run.first ≤ low && (low - run.first) % run.step ≠ 0 && (high = low || step % run.step = 0) &&
        passesBy low high step later

theorem mapped_of_passesBy {runs : List CaseRun} {low high step : Nat}
    (passes : passesBy low high step runs = true) {count : Nat} (inside : low + step * count ≤ high) :
    mapped runs (low + step * count) = low + step * count := by
  induction runs with
  | nil => rfl
  | cons run later ih =>
    simp only [passesBy] at passes
    simp only [mapped]
    split
    · rfl
    · split at passes
      · omega
      · split at passes
        · rw [if_neg (by omega)]
          exact ih passes
        · simp only [Bool.and_eq_true, Bool.or_eq_true, decide_eq_true_eq] at passes
          obtain ⟨⟨⟨reached, between⟩, pace⟩, others⟩ := passes
          have beside : (low + step * count - run.first) % run.step ≠ 0 := by
            obtain single | same := pace
            · rw [show low + step * count = low by omega]
              exact between
            · have multiple : step * count % run.step = 0 := by
                rw [Nat.mul_mod, same, Nat.zero_mul, Nat.zero_mod]
              rw [Nat.sub_add_comm reached, Nat.add_mod, multiple, Nat.add_zero, Nat.mod_mod]
              exact between
          rw [if_neg beside, ih others]
          exact ite_self _

theorem exists_run_of_mapped_ne {runs : List CaseRun} {code : Nat} (moved : mapped runs code ≠ code) :
    ∃ run ∈ runs, ∃ count, run.image + run.step * count ≤ run.image + (run.last - run.first) ∧
      mapped runs code = run.image + run.step * count := by
  induction runs with
  | nil => exact absurd rfl moved
  | cons run later ih =>
    simp only [mapped] at moved ⊢
    by_cases before : code < run.first
    · rw [if_pos before] at moved
      exact absurd rfl moved
    by_cases inside : code ≤ run.last
    · rw [if_neg before, if_pos inside] at moved ⊢
      by_cases onStep : (code - run.first) % run.step = 0
      · rw [if_pos onStep]
        have multiple := Nat.mul_div_cancel' (Nat.dvd_of_mod_eq_zero onStep)
        refine ⟨run, List.mem_cons_self, (code - run.first) / run.step, ?_, ?_⟩
        · omega
        · rw [multiple]
      · rw [if_neg onStep] at moved
        exact absurd rfl moved
    · rw [if_neg before, if_neg inside] at moved ⊢
      obtain ⟨other, member, found⟩ := ih moved
      exact ⟨other, List.mem_cons_of_mem _ member, found⟩

theorem mapped_mapped (code : Nat) :
    mapped caseRuns (mapped caseRuns code) = mapped caseRuns code := by
  have table : caseRuns.all (fun run =>
      passesBy run.image (run.image + (run.last - run.first)) run.step caseRuns) = true := by
    decide +kernel
  by_cases moved : mapped caseRuns code = code
  · rw [moved, moved]
  · obtain ⟨run, member, count, inside, image⟩ := exists_run_of_mapped_ne moved
    rw [image]
    exact mapped_of_passesBy (List.all_eq_true.1 table run member) inside

def IsFolded (c : Char) : Prop := ∀ behind ahead, foldChar behind ahead c = [c]

theorem isFolded_of_lowerChar {c : Char} (plain : c ≠ 'Σ') (low : lowerChar c = [c]) : IsFolded c := by
  intro behind ahead
  rw [foldChar, if_neg plain, low]

theorem isFolded_of_mem_lowerChar {c d : Char} (member : d ∈ lowerChar c) : IsFolded d := by
  unfold lowerChar at member
  by_cases dotted : c = '\u0130'
  · rw [if_pos dotted, List.mem_cons, List.mem_singleton] at member
    obtain rfl | rfl := member
    · exact isFolded_of_lowerChar (by decide) (by decide +kernel)
    · exact isFolded_of_lowerChar (by decide) (by decide +kernel)
  · rw [if_neg dotted, List.mem_singleton] at member
    by_cases valid : (mapped caseRuns c.toNat).isValidChar
    · have code : d.toNat = mapped caseRuns c.toNat := by
        rw [member, Char.ofNat, dif_pos valid]
        rfl
      have fixed : mapped caseRuns d.toNat = d.toNat := by
        rw [code, mapped_mapped]
      have plain : d ≠ 'Σ' := by
        intro sigma
        rw [sigma] at fixed
        exact absurd fixed (by decide +kernel)
      have undotted : d ≠ '\u0130' := by
        intro again
        have kept : leaves caseRuns '\u0130'.toNat = true := by decide +kernel
        rw [again, eq_comm, mapped_eq_iff_of_leaves kept, Char.toNat_inj] at code
        exact dotted code
      apply isFolded_of_lowerChar plain
      rw [lowerChar, if_neg undotted, fixed, Char.ofNat_toNat]
    · -- No image is out of range, and an image out of range would be the null character.
      rw [Char.ofNat, dif_neg valid] at member
      rw [member]
      exact isFolded_of_lowerChar (by decide) (by decide +kernel)

theorem isFolded_of_mem_foldChar {behind ahead : Bool} {c d : Char}
    (member : d ∈ foldChar behind ahead c) : IsFolded d := by
  unfold foldChar at member
  split at member
  · split at member
    · rw [List.mem_singleton.1 member]
      exact isFolded_of_lowerChar (by decide) (by decide +kernel)
    · rw [List.mem_singleton.1 member]
      exact isFolded_of_lowerChar (by decide) (by decide +kernel)
  · exact isFolded_of_mem_lowerChar member

theorem isFolded_of_mem_foldBetween {behind ahead : Bool} {text : List Char} :
    ∀ c ∈ foldBetween behind ahead text, IsFolded c := by
  induction text generalizing behind with
  | nil => exact List.forall_mem_nil _
  | cons c rest ih =>
    intro d member
    rw [foldBetween_cons, List.mem_append] at member
    obtain first | later := member
    · exact isFolded_of_mem_foldChar first
    · exact ih d later

theorem foldBetween_of_isFolded {text : List Char} (folded : ∀ c ∈ text, IsFolded c)
    (behind ahead : Bool) : foldBetween behind ahead text = text := by
  induction text generalizing behind with
  | nil => rfl
  | cons c rest ih =>
    rw [List.forall_mem_cons] at folded
    rw [foldBetween_cons, folded.1, ih folded.2]
    rfl

theorem lowercase_lowercase (text : List Char) : lowercase (lowercase text) = lowercase text := by
  simp only [lowercase_eq_foldBetween]
  exact foldBetween_of_isFolded isFolded_of_mem_foldBetween _ _

end Voiceover.Text
