import Mathlib.Data.List.Basic
import Mathlib.Tactic.SplitIfs
import Voiceover.Proofs.Yaml.Cursor
import Voiceover.Proofs.Yaml.Inline

/-! A literal block is read as it was written. Its text is taken line by line: the line breaks behind
a line are kept apart until another line follows, and at the end of the block the header tells what
becomes of them. -/

namespace Voiceover.Yaml

section Layout

inductive WholeLines : List Char → Prop
  | nil : WholeLines []
  | line {words text : List Char} {b : Char} (whole : ∀ c ∈ words, isBreak c = false)
      (breaks : isBreak b = true) (others : WholeLines text) : WholeLines (words ++ b :: text)

theorem WholeLines.cons {c : Char} {text : List Char} (whole : isBreak c = false)
    (lines : WholeLines text) (filled : text ≠ []) : WholeLines (c :: text) := by
  cases lines with
  | nil => exact absurd rfl filled
  | line others breaks rest =>
    rw [← List.cons_append]
    exact .line (List.forall_mem_cons.mpr ⟨whole, others⟩) breaks rest

def closing (text : List Char) : List Char := if endsWith isBreak text then [] else ['\n']

theorem closing_cons {c : Char} {text : List Char} (goesOn : isBreak c = false ∨ text ≠ []) :
    closing (c :: text) = closing text := by
  rw [closing, endsWith_cons, closing]
  by_cases last : text = []
  · rw [if_pos last, goesOn.resolve_right (not_not_intro last), last]
    rfl
  · rw [if_neg last]

theorem wholeLines_closed (text : List Char) : WholeLines (text ++ closing text) := by
  induction text with
  | nil => exact @WholeLines.line [] _ _ (fun _ member => nomatch member) rfl .nil
  | cons c text ih =>
    by_cases breaks : isBreak c = true
    · refine @WholeLines.line [] _ _ (fun _ member => nomatch member) breaks ?_
      by_cases last : text = []
      · have closed : closing [c] = [] := if_pos breaks
        rw [last, closed]
        exact .nil
      · rwa [closing_cons (.inr last)]
    · have whole : isBreak c = false := by simpa using breaks
      rw [closing_cons (.inl whole), List.cons_append]
      refine ih.cons whole ?_
      cases text <;> simp [closing, endsWith]

variable {indent margin : Nat} {text rest next : List Char}

def blockText (indent : Nat) (text : List Char) : List Char := indented indent (fun c => [c]) true text

theorem blockText_line {words : List Char} (whole : ∀ c ∈ words, isBreak c = false) {b : Char}
    (breaks : isBreak b = true) (text : List Char) :
    blockText indent (words ++ b :: text) =
      (if words = [] then [] else spaces indent) ++ (words ++ b :: blockText indent text) := by
  have behind (words : List Char) (whole : ∀ c ∈ words, isBreak c = false) :
      indented indent (fun c => [c]) false (words ++ b :: text) = words ++ b :: blockText indent text := by
    induction words with
    | nil => exact if_pos breaks
    | cons c words ih =>
      obtain ⟨here, others⟩ := List.forall_mem_cons.mp whole
      rw [List.cons_append, indented, if_neg (by simp [here]), ih others]
      rfl
  cases words with
  | nil => exact if_pos breaks
  | cons c words =>
    obtain ⟨here, others⟩ := List.forall_mem_cons.mp whole
    rw [blockText, List.cons_append, indented, if_neg (by simp [here]), behind words others,
      if_neg (List.cons_ne_nil c words), List.append_assoc]
    rfl

theorem indented_concat (fresh : Bool) (text : List Char) :
    indented indent (fun c => [c]) fresh (text ++ ['\n']) =
      indented indent (fun c => [c]) fresh text ++ ['\n'] := by
  induction text generalizing fresh with
  | nil => rfl
  | cons c text ih =>
    rw [List.cons_append, indented, indented, ih, ih]
    split_ifs <;> simp

theorem getLast?_indented (fresh : Bool) (text : List Char) :
    (indented indent (fun c => [c]) fresh text).getLast? = text.getLast? := by
  induction text generalizing fresh with
  | nil => rfl
  | cons c text ih =>
    rw [indented, List.getLast?_cons]
    split_ifs <;> simp [List.getLast?_append, List.getLast?_cons, ih]

theorem length_le_blockText (indent : Nat) (text : List Char) :
    text.length ≤ (blockText indent text).length := by
  have grows (fresh : Bool) (text : List Char) :
      text.length ≤ (indented indent (fun c => [c]) fresh text).length := by
    induction text generalizing fresh with
    | nil => exact Nat.le_refl _
    | cons c text ih =>
      rw [indented]
      split_ifs <;> simp only [List.length_cons, List.length_append]
      · exact Nat.succ_le_succ (ih true)
      all_goals
        have := ih false
        omega
  exact grows true text

theorem endsWith_concat (test : Char → Bool) (text : List Char) (last : Char) :
    endsWith test (text ++ [last]) = test last := by
  rw [endsWith, List.getLast?_concat]
  rfl

theorem closing_concat {last : Char} (whole : isBreak last = false) (text : List Char) :
    closing (text ++ [last]) = ['\n'] :=
  if_neg (by rw [endsWith_concat, whole]; decide)

theorem endsWith_append (test : Char → Bool) (text : List Char) {more : List Char} (filled : more ≠ []) :
    endsWith test (text ++ more) = endsWith test more := by
  rw [endsWith, List.getLast?_append_of_ne_nil text filled, endsWith]

/-- The lines of a block end where its text does, so the block lacks a line break if the text does. -/
theorem literalBlock_closed {text : List Char} (filled : text ≠ []) :
    literalBlock indent text ++ closing (literalBlock indent text) =
      '|' :: (literalHeader text ++ '\n' :: blockText indent (text ++ closing text)) := by
  have grows := length_le_blockText indent text
  have lines : blockText indent text ≠ [] := fun none => by
    rw [none] at grows
    exact filled (List.length_eq_zero_iff.mp (Nat.le_zero.mp grows))
  have split : literalBlock indent text = ('|' :: literalHeader text ++ ['\n']) ++ blockText indent text := by
    simp [literalBlock, blockText]
  have same : closing (literalBlock indent text) = closing text := by
    rw [closing, split, endsWith_append isBreak _ lines, endsWith, blockText, getLast?_indented]
    rfl
  have closed : blockText indent text ++ closing text = blockText indent (text ++ closing text) := by
    rw [closing]
    split_ifs
    · rw [List.append_nil, List.append_nil]
    · exact (indented_concat true text).symm
  rw [same, split, List.append_assoc, closed]
  simp

end Layout

section Reading

variable {indent margin : Nat} {text rest next : List Char} {cursor : Cursor}

theorem takeWhile_spaces (room : Nat) (rest : List Char) :
    ((spaces room ++ rest).takeWhile (· = ' ')).length = room + (rest.takeWhile (· = ' ')).length := by
  rw [List.takeWhile_append_of_pos fun c member => by simp [List.eq_of_mem_replicate member],
    List.length_append, spaces, List.length_replicate]

theorem blockBreaks_break {b : Char} (breaks : isBreak b = true) (reads : cursor.rest = b :: rest)
    (fuel widest : Nat) (seen : List Char) :
    blockBreaks indent (fuel + 1) widest seen cursor =
      blockBreaks indent fuel (max widest cursor.column) (seen ++ [b]) cursor.next := by
  have noSpace : b ≠ ' ' := fun same => absurd (same ▸ breaks) (by decide)
  have noTab : b ≠ '\t' := fun same => absurd (same ▸ breaks) (by decide)
  have none : (cursor.rest.takeWhile (· = ' ')).length = 0 := by simp [reads, noSpace]
  rw [blockBreaks, none]
  simp only [Nat.zero_min, ite_self, Cursor.skip, reads, noTab, breaks, if_true, decide_false,
    Bool.and_false, Bool.false_eq_true, if_false]

theorem blockBreaks_stop (indent : Nat) {room : Nat} (reads : cursor.rest = spaces room ++ rest)
    (reach : (if indent = 0 then room + (rest.takeWhile (· = ' ')).length
      else min (room + (rest.takeWhile (· = ' ')).length) (indent - cursor.column)) = room)
    (stops : ∀ c ∈ rest.head?, isBreak c = false ∧ c ≠ '\t') (fuel widest : Nat) (seen : List Char) :
    blockBreaks indent (fuel + 1) widest seen cursor =
      .ok (max widest (cursor.column + room), seen, cursor.skip room) := by
  obtain ⟨left, column⟩ := Cursor.skip_spaces reads
  rw [blockBreaks]
  simp only [reads, takeWhile_spaces, reach, left, column]
  cases rest with
  | nil => rfl
  | cons c rest =>
    obtain ⟨whole, noTab⟩ := stops c rfl
    simp [whole, noTab]

structure BlockEnd (done lineEnd empty : List Char) : Prop where
  settled : done = [] ∧ lineEnd = [] ∨
    done ≠ [] ∧ endsWith isBreak done = false ∧ ∃ b, isBreak b = true ∧ lineEnd = [b]
  blank : ∀ c ∈ empty, isBreak c = true

theorem blockLines_line {first b : Char} {words : List Char}
    (whole : ∀ c ∈ first :: words, isBreak c = false) (breaks : isBreak b = true)
    (reads : cursor.rest = first :: words ++ b :: rest) (column : cursor.column = indent)
    (chomping : Chomping) (fuel : Nat) (done lineEnd empty : List Char) (startsBlank : Bool) :
    blockLines true chomping indent (fuel + 1) done lineEnd empty startsBlank cursor =
      (do
        let (_, empty', after) ← blockBreaks indent (rest.length + 2) 0 []
          (cursor.skip (first :: words).length).next
        blockLines true chomping indent fuel (done ++ lineEnd ++ empty ++ first :: words) [b] empty'
          (isBlank first) after) := by
  have line : cursor.rest.takeWhile (fun c => !isBreak c) = first :: words := by
    rw [reads, List.takeWhile_append_of_pos fun c member => by simp [whole c member]]
    simp [breaks]
  have atEnd : cursor.skipLineRest = cursor.skip (first :: words).length :=
    Cursor.skipWhile_eq_skip reads (fun c member => by simp [whole c member]) (by simp [breaks])
  have left : (cursor.skip (first :: words).length).rest = b :: rest := by
    rw [Cursor.rest_skip, reads, List.drop_left]
  rw [blockLines]
  simp only [reads, List.cons_append] at line ⊢
  simp only [column, if_true, line, atEnd, left]
  rfl

/-- Lines are read to the last of them. What has been read and what is still to come stay the same
text together. -/
theorem blockLines_lines (cursor : Cursor) (lines : WholeLines text) (noTab : '\t' ∉ text) (indented : 0 < indent)
    (shallow : margin < indent)
    (opens : ∀ c ∈ next.head?, isBlank c = false ∧ isBreak c = false)
    (reads : cursor.rest = blockText indent text ++ (spaces margin ++ next)) (column : cursor.column = 0)
    (chomping : Chomping) (fuel breakFuel : Nat) (room : text.length < fuel)
    (breakRoom : text.length < breakFuel) (done lineEnd seen : List Char) (startsBlank : Bool)
    (widest : Nat) (shape : BlockEnd done lineEnd seen) :
    ∃ done' lineEnd' empty after,
      (do
        let (_, empty, after) ← blockBreaks indent breakFuel widest seen cursor
        blockLines true chomping indent fuel done lineEnd empty startsBlank after) =
          blockLines.finish chomping done' lineEnd' empty after ∧
      BlockEnd done' lineEnd' empty ∧
      done' ++ lineEnd' ++ empty = done ++ lineEnd ++ seen ++ text ∧
      after.rest = next ∧ after.column = margin := by
  induction lines generalizing cursor fuel breakFuel done lineEnd seen startsBlank widest with
  | nil =>
    obtain ⟨breakFuel, rfl⟩ := Nat.exists_eq_add_one_of_ne_zero (Nat.ne_zero_of_lt breakRoom)
    obtain ⟨fuel, rfl⟩ := Nat.exists_eq_add_one_of_ne_zero (Nat.ne_zero_of_lt room)
    have reads : cursor.rest = spaces margin ++ next := reads
    have none : (next.takeWhile (· = ' ')).length = 0 := by
      cases next with
      | nil => rfl
      | cons c next =>
        have noSpace : c ≠ ' ' := fun same => absurd (same ▸ (opens c rfl).1) (by decide)
        simp [noSpace]
    have stop := blockBreaks_stop indent reads (by rw [none, if_neg (by omega), column]; omega)
      (fun c head => ⟨(opens c head).2, fun same => absurd (same ▸ (opens c head).1) (by decide)⟩)
      breakFuel widest seen
    obtain ⟨left, place⟩ := Cursor.skip_spaces reads
    rw [column, Nat.zero_add] at place
    refine ⟨done, lineEnd, seen, cursor.skip margin, ?_, shape, (List.append_nil _).symm, left, place⟩
    rw [stop]
    change blockLines true chomping indent (fuel + 1) done lineEnd seen startsBlank (cursor.skip margin) = _
    rw [blockLines, left, place]
    cases next with
    | nil => rfl
    | cons c next => exact if_neg (Nat.ne_of_lt shallow)
  | @line words text b whole breaks others ih =>
    obtain ⟨breakFuel, rfl⟩ := Nat.exists_eq_add_one_of_ne_zero (Nat.ne_zero_of_lt breakRoom)
    obtain ⟨fuel, rfl⟩ := Nat.exists_eq_add_one_of_ne_zero (Nat.ne_zero_of_lt room)
    rw [List.length_append, List.length_cons] at room breakRoom
    rw [blockText_line whole breaks] at reads
    have noTabs : '\t' ∉ words ∧ '\t' ∉ text := by
      simp only [List.mem_append, List.mem_cons, not_or] at noTab
      exact ⟨noTab.1, noTab.2.2⟩
    cases words with
    | nil =>
      have reads : cursor.rest = b :: (blockText indent text ++ (spaces margin ++ next)) := reads
      have start := Cursor.next_break reads breaks
      rw [blockBreaks_break breaks reads]
      have blank : ∀ c ∈ seen ++ [b], isBreak c = true := by
        intro c member
        rcases List.mem_append.mp member with earlier | last
        · exact shape.blank c earlier
        · rwa [List.mem_singleton.mp last]
      rw [List.length_nil] at room breakRoom
      have onward := ih cursor.next noTabs.2 (by rw [start]) (by rw [start]) (fuel + 1) breakFuel
        (by omega) (by omega) done lineEnd (seen ++ [b]) startsBlank (max widest cursor.column)
        ⟨shape.settled, blank⟩
      simpa using onward
    | cons first words =>
      have reads : cursor.rest = spaces indent ++
          (first :: words ++ b :: (blockText indent text ++ (spaces margin ++ next))) := by
        simpa using reads
      obtain ⟨left, place⟩ := Cursor.skip_spaces reads
      rw [column, Nat.zero_add] at place
      have stop := blockBreaks_stop indent reads (by rw [if_neg (by omega), column]; omega)
        (fun c head => by
          obtain rfl : first = c := by simpa using head
          exact ⟨whole _ List.mem_cons_self, fun same => noTabs.1 (same ▸ List.mem_cons_self)⟩)
        breakFuel widest seen
      rw [stop]
      change ∃ done' lineEnd' empty after, blockLines true chomping indent (fuel + 1) done lineEnd seen
        startsBlank (cursor.skip indent) = _ ∧ _
      rw [blockLines_line whole breaks left place]
      have behind : ((cursor.skip indent).skip (first :: words).length).rest =
          b :: (blockText indent text ++ (spaces margin ++ next)) := by
        rw [Cursor.rest_skip, left, List.drop_left]
      have start := Cursor.next_break behind breaks
      have grows := length_le_blockText indent text
      have wordy : BlockEnd (done ++ lineEnd ++ seen ++ first :: words) [b] [] := by
        refine ⟨.inr ⟨by simp, ?_, b, breaks, rfl⟩, fun _ member => nomatch member⟩
        have last := whole _ (List.getLast_mem (List.cons_ne_nil first words))
        rw [endsWith, List.getLast?_append, List.getLast?_eq_some_getLast (List.cons_ne_nil first words)]
        exact last
      have onward := ih ((cursor.skip indent).skip (first :: words).length).next noTabs.2 (by rw [start])
        (by rw [start]) fuel ((blockText indent text ++ (spaces margin ++ next)).length + 2)
        (by omega) (by rw [List.length_append]; omega) _ [b] [] (isBlank first) 0 wordy
      simpa using onward

end Reading

section Header

variable {margin : Nat} {text next : List Char}

def chompingOf (text : List Char) : Chomping :=
  match text.reverse with
  | last :: earlier =>
      if !isBreak last then .strip
      else if earlier.isEmpty || startsWith isBreak earlier then .keep
      else .clip
  | [] => .strip

theorem blockHeader_literalHeader (text rest : List Char) :
    blockHeader (literalHeader text ++ '\n' :: rest) =
      .ok (chompingOf text, if startsWith isSpace text || startsWith isBreak text then 2 else 0,
        '\n' :: rest) := by
  unfold literalHeader chompingOf
  cases text.reverse with
  | nil => dsimp only; split_ifs <;> rfl
  | cons last earlier => dsimp only; split_ifs <;> rfl

theorem chompingOf_open (unbroken : endsWith isBreak text = false) : chompingOf text = .strip := by
  rw [endsWith, ← List.head?_reverse] at unbroken
  unfold chompingOf
  cases reversed : text.reverse with
  | nil => rfl
  | cons last earlier =>
    rw [reversed, List.head?_cons, Option.any_some] at unbroken
    exact if_pos (by simp [unbroken])

theorem chompingOf_concat {last : Char} (breaks : isBreak last = true) (earlier : List Char) :
    chompingOf (earlier ++ [last]) =
      if earlier = [] ∨ endsWith isBreak earlier = true then .keep else .clip := by
  have ends : startsWith isBreak earlier.reverse = endsWith isBreak earlier := by
    rw [startsWith, List.head?_reverse, endsWith]
  unfold chompingOf
  rw [List.reverse_concat]
  simp [breaks, ends]

theorem endsWith_breaks {more : List Char} (blank : ∀ c ∈ more, isBreak c = true)
    (ends : more = [] → endsWith isBreak text = true) : endsWith isBreak (text ++ more) = true := by
  rcases List.eq_nil_or_concat' more with rfl | ⟨start, last, rfl⟩
  · rw [List.append_nil, ends rfl]
  · rw [← List.append_assoc, endsWith_concat, blank last (by simp)]

/-- The header asks for just as many line breaks as the text ends in. -/
theorem finish_chompingOf {done lineEnd empty : List Char} (shape : BlockEnd done lineEnd empty)
    (same : done ++ lineEnd ++ empty = text ++ closing text) (filled : text ≠ []) (cursor : Cursor) :
    blockLines.finish (chompingOf text) done lineEnd empty cursor = .ok (text, cursor) := by
  have kept (closed : endsWith isBreak text = true) (keeps : chompingOf text = .keep) :
      blockLines.finish (chompingOf text) done lineEnd empty cursor = .ok (text, cursor) := by
    rw [closing, if_pos closed, List.append_nil] at same
    rw [keeps, ← same]
    rfl
  obtain ⟨settled, blank⟩ := shape
  rcases settled with ⟨rfl, rfl⟩ | ⟨wordy, unbroken, b, breaks, rfl⟩
  · -- All of the text is line breaks.
    have all : ∀ c ∈ text, isBreak c = true := fun c member => blank c <| by
      rw [← List.nil_append empty, ← List.nil_append ([] ++ empty), ← List.append_assoc, same]
      exact List.mem_append_left _ member
    obtain ⟨earlier, last, rfl⟩ := (List.eq_nil_or_concat' text).resolve_left filled
    have breaks := all last (by simp)
    refine kept (by rw [endsWith_concat, breaks]) ?_
    rw [chompingOf_concat breaks, if_pos]
    exact or_iff_not_imp_left.mpr fun some =>
      @endsWith_breaks [] _ (fun c member => all c (by simp [member])) fun none => absurd none some
  · cases closed : endsWith isBreak text with
    | true =>
      rcases List.eq_nil_or_concat' empty with rfl | ⟨more, last, rfl⟩
      · rw [closing, if_pos closed, List.append_nil, List.append_nil] at same
        rw [← same, chompingOf_concat breaks, if_neg (by simp [wordy, unbroken])]
        rfl
      · refine kept closed ?_
        have lastBreaks := blank last (by simp)
        have earlier : endsWith isBreak (done ++ [b] ++ more) = true :=
          endsWith_breaks (fun c member => blank c (by simp [member])) fun _ => by
            rw [endsWith_concat, breaks]
        rw [closing, if_pos closed, List.append_nil, ← List.append_assoc] at same
        rw [← same, chompingOf_concat lastBreaks, if_pos (.inr earlier)]
    | false =>
      rw [closing, if_neg (by simp [closed])] at same
      rcases List.eq_nil_or_concat' empty with rfl | ⟨more, last, rfl⟩
      · rw [List.append_nil] at same
        rw [chompingOf_open closed, (List.append_inj_left' same rfl : done = text)]
        rfl
      · rw [← List.append_assoc] at same
        have text_eq := List.append_inj_left' same rfl
        rw [← text_eq, endsWith_breaks (fun c member => blank c (by simp [member])) fun _ => by
          rw [endsWith_concat, breaks]] at closed
        exact absurd closed (by decide)

/-- Where the first line of a block tells its indentation, it tells the one that the header would
have given. -/
theorem blockBreaks_unasked {key : Nat} {cursor : Cursor} {first : Char} {others : List Char}
    (solid : isBlank first = false) (whole : isBreak first = false)
    (reads : cursor.rest = spaces (key + 2) ++ first :: others) (column : cursor.column = 0)
    (fuel : Nat) :
    blockBreaks 0 (fuel + 1) 0 [] cursor = .ok (key + 2, [], cursor.skip (key + 2)) ∧
      blockBreaks (key + 2) (fuel + 1) 0 [] cursor = .ok (key + 2, [], cursor.skip (key + 2)) := by
  have noSpace : first ≠ ' ' := fun same => absurd (same ▸ solid) (by decide)
  have none : ((first :: others).takeWhile (· = ' ')).length = 0 := by simp [noSpace]
  have stops : ∀ c ∈ (first :: others).head?, isBreak c = false ∧ c ≠ '\t' := by
    intro c head
    obtain rfl : first = c := by simpa using head
    exact ⟨whole, fun same => absurd (same ▸ solid) (by decide)⟩
  have reach : max 0 (cursor.column + (key + 2)) = key + 2 := by omega
  constructor
  · rw [blockBreaks_stop 0 reads (by rw [none, if_pos rfl]) stops, reach]
  · rw [blockBreaks_stop (key + 2) reads (by rw [none, if_neg (by omega), column]; omega) stops, reach]

theorem scanBlock_header {cursor line : Cursor} {chomping : Chomping} {given : Nat} {body : List Char}
    (header : blockHeader cursor.rest = .ok (chomping, given, '\n' :: body))
    (goes : cursor.goTo ('\n' :: body) = line) (left : line.rest = '\n' :: body) (parent : Int) :
    scanBlock true parent cursor = (do
      let start := if given = 0 then 0 else (max parent 0).toNat + given
      let (widest, empty, after) ← blockBreaks start (body.length + 2) 0 [] line.next
      let indent := if start = 0 then max widest (max (parent + 1).toNat 1) else start
      blockLines true chomping indent (body.length + 2) [] [] empty false after) := by
  have noBlank : line.skipWhile isBlank = line :=
    Cursor.skipWhile_stay (by simp [left, isBlank])
  rw [scanBlock, header]
  simp only [bind, Except.bind, goes, noBlank, left, List.head?_cons, Option.some.injEq, Char.reduceEq,
    if_false]
  rfl

/-- A literal block is read up to the next line that is not blank, if that line does not stand deeper
than the key of the block. -/
theorem scanBlock_literal {key : Nat} {cursor : Cursor}
    (printable : ∀ c ∈ text, isPrintable c = true) (filled : text ≠ [])
    (shallow : margin ≤ key) (opens : ∀ c ∈ next.head?, isBlank c = false ∧ isBreak c = false)
    (reads : cursor.rest = literalHeader text ++ '\n' :: (blockText (key + 2) (text ++ closing text) ++
      (spaces margin ++ next))) :
    ∃ after, scanBlock true key cursor = .ok (text, after) ∧ after.rest = next ∧
      after.column = margin := by
  generalize same : blockText (key + 2) (text ++ closing text) ++ (spaces margin ++ next) = body at reads
  have behind : (cursor.goTo ('\n' :: body)).rest = '\n' :: body := by
    rw [Cursor.goTo_eq_skip reads, Cursor.rest_skip, reads, List.drop_left]
  generalize goes : cursor.goTo ('\n' :: body) = line at behind
  have start := Cursor.next_break behind rfl
  have room : (text ++ closing text).length < body.length + 2 := by
    have grows := length_le_blockText (key + 2) (text ++ closing text)
    simp only [← same, List.length_append] at grows ⊢
    omega
  have tabless : '\t' ∉ text ++ closing text := by
    have noTab : '\t' ∉ text := fun member => absurd (printable _ member) (by decide)
    rw [closing]
    split_ifs <;> simp [noTab]
  obtain ⟨done, lineEnd, empty, after, read, shape, total, left, place⟩ :=
    blockLines_lines line.next (wholeLines_closed text) tabless (Nat.succ_pos (key + 1))
      (by omega : margin < key + 2) opens (by rw [start, same]) (by rw [start])
      (chompingOf text) (body.length + 2) (body.length + 2) room room [] [] [] false 0
      ⟨.inl ⟨rfl, rfl⟩, fun _ member => nomatch member⟩
  rw [finish_chompingOf shape total filled] at read
  refine ⟨after, ?_, left, place⟩
  rw [scanBlock_header (reads ▸ blockHeader_literalHeader text body) goes behind]
  by_cases asked : (startsWith isSpace text || startsWith isBreak text) = true
  · have given : (max (key : Int) 0).toNat + 2 = key + 1 + 1 := by omega
    simp only [asked, given, if_true, Nat.succ_ne_zero, if_false]
    exact read
  · cases text with
    | nil => exact absurd rfl filled
    | cons first others =>
      obtain ⟨spaceless, whole⟩ : isSpace first = false ∧ isBreak first = false := by
        simpa [startsWith] using asked
      have solid : isBlank first = false := by
        rw [← isSpace_eq_isBlank (printable first List.mem_cons_self), spaceless]
      have shown : line.next.rest = spaces (key + 2) ++ first :: (indented (key + 2) (fun c => [c]) false
          (others ++ closing (first :: others)) ++ (spaces margin ++ next)) := by
        rw [start, ← same, blockText, List.cons_append, indented, if_neg (by simp [whole])]
        simp
      obtain ⟨unasked, given⟩ := blockBreaks_unasked solid whole shown (by rw [start])
        (body.length + 1)
      have widest : max (key + 2) (max ((key : Int) + 1).toNat 1) = key + 2 := by omega
      simp only [asked, if_false, if_true, Bool.false_eq_true, unasked, widest, bind, Except.bind]
      simp only [given, bind, Except.bind] at read
      exact read

end Header

end Voiceover.Yaml
