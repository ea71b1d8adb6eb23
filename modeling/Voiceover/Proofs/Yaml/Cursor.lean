import Mathlib.Algebra.GroupWithZero.Nat
import Voiceover.Yaml.Emit

/-! Where a cursor stands behind what it has passed: in a line its column counts the characters, and
a line break sets it to zero. -/

namespace Voiceover.Yaml

theorem isAllowed_of_isPrintable {c : Char} (printable : isPrintable c = true) :
    isAllowed c = true ∧ c ≠ '\r' ∧ c ≠ '\u0085' := by
  refine ⟨?_, ?_, ?_⟩
  · by_cases feed : c = '\n'
    · rw [feed]
      rfl
    · simp [isPrintable, isAllowed, feed] at printable ⊢
      omega
  · rintro rfl
    exact absurd printable (by decide)
  · rintro rfl
    exact absurd printable (by decide)

theorem joinBreaks_of_printable {text : List Char} (printable : ∀ c ∈ text, isPrintable c = true) :
    joinBreaks text = text := by
  induction text with
  | nil => rfl
  | cons c text ih =>
    obtain ⟨here, others⟩ := List.forall_mem_cons.mp printable
    obtain ⟨-, noReturn, noNext⟩ := isAllowed_of_isPrintable here
    rw [joinBreaks, if_neg (by simp [noReturn, noNext]), ih others]
    exact fun _ carriage => absurd carriage noReturn

/-- Printable text is a stream of the same characters. -/
theorem characters_of_printable {text : List Char} (printable : ∀ c ∈ text, isPrintable c = true) :
    characters text = .ok text := by
  have allowed : text.all isAllowed = true :=
    List.all_eq_true.mpr fun c member => (isAllowed_of_isPrintable (printable c member)).1
  rw [characters, if_pos allowed, joinBreaks_of_printable printable]

namespace Cursor

variable {cursor : Cursor} {text rest next : List Char}

theorem rest_next (cursor : Cursor) : cursor.next.rest = cursor.rest.tail := by
  unfold Cursor.next
  split
  · rename_i nothing
    rw [nothing]
    rfl
  · rename_i c rest reads
    rw [reads]
    split <;> rfl

theorem rest_skip (cursor : Cursor) (count : Nat) : (cursor.skip count).rest = cursor.rest.drop count := by
  induction count generalizing cursor with
  | zero => rfl
  | succ count ih => rw [skip, ih, rest_next, List.drop_tail]

theorem skip_add (cursor : Cursor) (first second : Nat) :
    cursor.skip (first + second) = (cursor.skip first).skip second := by
  induction first generalizing cursor with
  | zero => rw [Nat.zero_add, skip]
  | succ first ih => rw [Nat.add_right_comm, skip, skip, ih]

theorem next_break {b : Char} (reads : cursor.rest = b :: rest) (breaks : isBreak b = true) :
    cursor.next = ⟨rest, cursor.index + 1, cursor.line + 1, 0⟩ := by
  rw [Cursor.next, reads]
  exact if_pos breaks

theorem skip_words (reads : cursor.rest = text ++ rest) (whole : ∀ c ∈ text, isBreak c = false) :
    cursor.skip text.length =
      ⟨rest, cursor.index + (text.map Char.utf8Size).sum, cursor.line, cursor.column + text.length⟩ := by
  induction text generalizing cursor with
  | nil =>
    obtain rfl : cursor.rest = rest := reads
    rfl
  | cons c text ih =>
    obtain ⟨here, others⟩ := List.forall_mem_cons.mp whole
    have step : cursor.next = ⟨text ++ rest, cursor.index + c.utf8Size, cursor.line, cursor.column + 1⟩ := by
      rw [Cursor.next, reads]
      exact if_neg (by simp [here])
    rw [List.length_cons, skip, ih (by rw [step]) others, step]
    simp only [List.map_cons, List.sum_cons, mk.injEq, true_and]
    omega

theorem skip_spaces {room : Nat} (reads : cursor.rest = spaces room ++ rest) :
    (cursor.skip room).rest = rest ∧ (cursor.skip room).column = cursor.column + room := by
  have length : (spaces room).length = room := List.length_replicate
  have passed := skip_words reads fun c member => by rw [List.eq_of_mem_replicate member]; rfl
  rw [length] at passed
  rw [passed]
  exact ⟨rfl, rfl⟩

theorem goTo_eq_skip (reads : cursor.rest = text ++ rest) : cursor.goTo rest = cursor.skip text.length := by
  rw [goTo, reads, List.length_append, Nat.add_sub_cancel]

theorem skipWhile_eq_skip {test : Char → Bool} (reads : cursor.rest = text ++ rest)
    (passes : ∀ c ∈ text, test c = true) (stops : ∀ c ∈ rest.head?, test c = false) :
    cursor.skipWhile test = cursor.skip text.length := by
  have none : rest.takeWhile test = [] := by
    cases rest with
    | nil => rfl
    | cons c rest => rw [List.takeWhile_cons, stops c rfl, if_neg (by decide)]
  rw [skipWhile, reads, List.takeWhile_append_of_pos passes, none, List.append_nil]

theorem skipWhile_stay {test : Char → Bool} (stops : ∀ c ∈ cursor.rest.head?, test c = false) :
    cursor.skipWhile test = cursor :=
  skipWhile_eq_skip (List.nil_append cursor.rest).symm (fun _ member => nomatch member) stops

/-- Behind the end of a line and the margin of the next one. -/
theorem skip_line {margin : Nat} {b : Char} (breaks : isBreak b = true)
    (reads : cursor.rest = text ++ b :: (spaces margin ++ next)) :
    (cursor.skip (text.length + (1 + margin))).rest = next ∧
      (cursor.skip (text.length + (1 + margin))).column = margin := by
  have here : (cursor.skip text.length).rest = b :: (spaces margin ++ next) := by
    rw [rest_skip, reads, List.drop_left]
  have start := next_break here breaks
  rw [skip_add, skip_add, skip, skip]
  have read : (cursor.skip text.length).next.rest = spaces margin ++ next := by rw [start]
  obtain ⟨left, place⟩ := skip_spaces read
  refine ⟨left, place.trans ?_⟩
  rw [start]
  exact Nat.zero_add _

end Cursor

end Voiceover.Yaml
