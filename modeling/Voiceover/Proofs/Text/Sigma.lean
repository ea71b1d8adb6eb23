import Voiceover.Proofs.Text.Cutting

/-! What the surroundings of a name can do to its fold. Only a capital sigma is folded by its
surroundings: one that no cased character of the name precedes, when the name follows a cased
character, and one that no cased character of the name follows, when the name is followed by one. -/

namespace Voiceover.Text

/-- The first character that is not case-ignorable is a sigma, and no cased character follows it. -/
def OpensWithSigma (name : List Char) : Prop :=
  ∃ marks back, name = marks ++ 'Σ' :: back ∧ (∀ c ∈ marks, isCaseIgnorable c = true) ∧
    meetsCased back = false

/-- The last character that is not case-ignorable is a sigma, and a cased character precedes it. -/
def ClosesWithSigma (name : List Char) : Prop :=
  ∃ front marks, name = front ++ 'Σ' :: marks ∧ (∀ c ∈ marks, isCaseIgnorable c = true) ∧
    meetsCased front.reverse = true

/-- The last character that is not case-ignorable is a sigma, and behind it a cased character is next. -/
def ClosesBehind (behind : Bool) (name : List Char) : Prop :=
  ∃ front marks, name = front ++ 'Σ' :: marks ∧ (∀ c ∈ marks, isCaseIgnorable c = true) ∧
    casedBehind behind front = true

theorem sigma_not_ignorable : isCaseIgnorable 'Σ' = false := by decide +kernel

theorem meetsCased_reverse (text : List Char) :
    meetsCased text.reverse = casedBehind false text := by
  rw [meetsCased_eq_casedAhead, casedAhead, casedBehind, List.foldr_reverse]

theorem closesWithSigma_iff (name : List Char) : ClosesWithSigma name ↔ ClosesBehind false name := by
  simp only [ClosesWithSigma, ClosesBehind, meetsCased_reverse]

theorem not_opensWithSigma_nil : ¬OpensWithSigma [] := by
  intro opens
  obtain ⟨marks, back, shape, -⟩ := opens
  simp at shape

theorem opensWithSigma_cons (c : Char) (rest : List Char) :
    OpensWithSigma (c :: rest) ↔
      (c = 'Σ' ∧ casedAhead rest false = false) ∨ (isCaseIgnorable c = true ∧ OpensWithSigma rest) := by
  constructor
  · intro opens
    obtain ⟨marks, back, shape, ignorable, uncased⟩ := opens
    cases marks with
    | nil =>
      obtain ⟨rfl, rfl⟩ := List.cons.inj shape
      exact .inl ⟨rfl, meetsCased_eq_casedAhead rest ▸ uncased⟩
    | cons mark marks =>
      obtain ⟨rfl, rfl⟩ := List.cons.inj shape
      exact .inr ⟨ignorable c List.mem_cons_self, marks, back, rfl,
        fun other member => ignorable other (List.mem_cons_of_mem _ member), uncased⟩
  · intro opens
    obtain ⟨rfl, uncased⟩ | ⟨ignorable, marks, back, rfl, others, uncased⟩ := opens
    · exact ⟨[], rest, rfl, by simp, (meetsCased_eq_casedAhead rest).trans uncased⟩
    · exact ⟨c :: marks, back, rfl, List.forall_mem_cons.2 ⟨ignorable, others⟩, uncased⟩

theorem not_closesBehind_nil (behind : Bool) : ¬ClosesBehind behind [] := by
  intro closes
  obtain ⟨front, marks, shape, -⟩ := closes
  simp at shape

theorem closesBehind_cons (behind : Bool) (c : Char) (rest : List Char) :
    ClosesBehind behind (c :: rest) ↔
      (c = 'Σ' ∧ behind = true ∧ ∀ mark ∈ rest, isCaseIgnorable mark = true) ∨
        ClosesBehind (lookPast c behind) rest := by
  constructor
  · intro closes
    obtain ⟨front, marks, shape, ignorable, cased⟩ := closes
    cases front with
    | nil =>
      obtain ⟨rfl, rfl⟩ := List.cons.inj shape
      exact .inl ⟨rfl, cased, ignorable⟩
    | cons other front =>
      obtain ⟨rfl, rfl⟩ := List.cons.inj shape
      exact .inr ⟨front, marks, rfl, ignorable, cased⟩
  · intro closes
    obtain ⟨rfl, cased, ignorable⟩ | ⟨front, marks, rfl, ignorable, cased⟩ := closes
    · exact ⟨[], rest, rfl, ignorable, cased⟩
    · exact ⟨c :: front, marks, rfl, ignorable, cased⟩

/-- What stands ahead is seen through ignorable characters only. -/
theorem casedAhead_eq_iff (text : List Char) :
    casedAhead text false = casedAhead text true ↔
      ¬∀ mark ∈ text, isCaseIgnorable mark = true := by
  induction text with
  | nil => simp
  | cons c rest ih =>
    rw [casedAhead_cons, casedAhead_cons, List.forall_mem_cons]
    by_cases ignorable : isCaseIgnorable c = true
    · rw [lookPast_ignorable ignorable, lookPast_ignorable ignorable, ih]
      simp only [ignorable, true_and]
    · rw [lookPast_firm ignorable, lookPast_firm ignorable]
      simp [ignorable]

/-- The surroundings of a character matter to its fold only if it is a sigma. -/
theorem foldChar_eq_iff (behind other ahead beyond : Bool) (c : Char) :
    foldChar behind ahead c = foldChar other beyond c ↔
      (c = 'Σ' → (behind && !ahead) = (other && !beyond)) := by
  by_cases sigma : c = 'Σ'
  · subst sigma
    revert behind other ahead beyond
    decide
  · simp only [foldChar, sigma, if_false, false_implies]

theorem length_foldChar (behind other ahead beyond : Bool) (c : Char) :
    (foldChar behind ahead c).length = (foldChar other beyond c).length := by
  by_cases sigma : c = 'Σ'
  · subst sigma
    revert behind other ahead beyond
    decide
  · rw [(foldChar_eq_iff behind other ahead beyond c).2 fun same => absurd same sigma]

theorem foldBetween_cons_eq_iff (behind other ahead beyond : Bool) (c : Char) (rest : List Char) :
    foldBetween behind ahead (c :: rest) = foldBetween other beyond (c :: rest) ↔
      foldChar behind (casedAhead rest ahead) c = foldChar other (casedAhead rest beyond) c ∧
        foldBetween (lookPast c behind) ahead rest = foldBetween (lookPast c other) beyond rest := by
  rw [foldBetween_cons, foldBetween_cons]
  constructor
  · intro same
    exact List.append_inj same (length_foldChar _ _ _ _ c)
  · intro same
    rw [same.1, same.2]

/-- A cased character ahead changes the fold of exactly the texts that close with a sigma. -/
theorem foldBetween_ahead_eq_iff (behind followed : Bool) (name : List Char) :
    foldBetween behind false name = foldBetween behind followed name ↔
      ¬(followed = true ∧ ClosesBehind behind name) := by
  cases followed with
  | false => simp
  | true =>
    simp only [true_and]
    induction name generalizing behind with
    | nil => simp [not_closesBehind_nil]
    | cons c rest ih =>
      rw [foldBetween_cons_eq_iff, ih, closesBehind_cons, not_or, foldChar_eq_iff]
      refine and_congr_left fun _ => ?_
      rw [not_and, not_and, ← casedAhead_eq_iff]
      cases behind with
      | false => simp
      | true => simp

/-- The folds of a name behind a cased character and before one differ in nothing but the two sigmas. -/
theorem foldBetween_swap_iff (followed : Bool) (name : List Char) :
    foldBetween true false name = foldBetween false followed name ↔
      ¬OpensWithSigma name ∧ ¬(followed = true ∧ ClosesBehind false name) := by
  induction name with
  | nil => simp [not_opensWithSigma_nil, not_closesBehind_nil]
  | cons c rest ih =>
    rw [foldBetween_cons_eq_iff, opensWithSigma_cons, closesBehind_cons, foldChar_eq_iff]
    by_cases ignorable : isCaseIgnorable c = true
    · have plain : c ≠ 'Σ' := by
        intro sigma
        rw [sigma, sigma_not_ignorable] at ignorable
        exact absurd ignorable (by decide)
      simp only [lookPast_ignorable ignorable, ih, plain, ignorable, false_implies, true_and,
        false_and, false_or]
    · simp only [lookPast_firm ignorable, foldBetween_ahead_eq_iff, ignorable, false_and, or_false,
        false_or, Bool.true_and, Bool.false_and, Bool.false_eq_true, and_false]
      refine and_congr_left fun _ => ?_
      rw [not_and]
      simp

/-- The two folds of a name, behind its surroundings in one place and before those in another: they are
the same but for a sigma at the side where a cased character is. -/
theorem foldBetween_sides_iff (touched followed : Bool) (name : List Char) :
    foldBetween touched false name = foldBetween false followed name ↔
      ¬(touched = true ∧ OpensWithSigma name) ∧ ¬(followed = true ∧ ClosesWithSigma name) := by
  rw [closesWithSigma_iff]
  cases touched with
  | false => simp [foldBetween_ahead_eq_iff]
  | true => simp only [foldBetween_swap_iff, true_and]

end Voiceover.Text
