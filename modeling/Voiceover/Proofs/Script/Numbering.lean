import Voiceover.Proofs.Script.Spelling

/-! The lines of a script and where they stand. The number of a line is one more than the line feeds
in front of it in the script as it was written: folding neither adds a line end nor takes one away,
and a carriage return ends a line without beginning a number. -/

namespace Voiceover

open Text

structure Stretch (source before raw after : List Char) : Prop where
  split : source = before ++ raw ++ after
  unbroken : ∀ c ∈ raw, isLineEnd c = false
  opened : before = [] ∨ ∃ front ending, before = front ++ [ending] ∧ isLineEnd ending = true
  closed : after = [] ∨ ∃ ending back, after = ending :: back ∧ isLineEnd ending = true

def lineAt (number : Nat) (raw : List Char) : List Line :=
  if trim raw = [] then [] else [⟨number, trim raw⟩]

def rowLines (number : Nat) (row : List Char) : List Line :=
  (pieces '\r' row).flatMap (lineAt number)

def rowsFrom (first : Nat) : List (List Char) → List Line
  | [] => []
  | row :: later => rowLines first row ++ rowsFrom (first + 1) later

def linesFrom (first : Nat) (content : List Char) : List Line :=
  rowsFrom first (pieces '\n' content)

theorem scriptLines_eq_linesFrom (content : List Char) :
    scriptLines content = linesFrom 1 content := by
  have numbered (rows : List (List Char)) (first : Nat) :
      ((rows.zipIdx first).flatMap fun entry =>
        (pieces '\r' entry.1).map fun part => Line.mk entry.2 (trim part)).filter
          (fun line => !line.text.isEmpty) = rowsFrom first rows := by
    induction rows generalizing first with
    | nil => rfl
    | cons row later ih =>
      rw [List.zipIdx_cons, List.flatMap_cons, List.filter_append, ih, rowsFrom, rowLines]
      congr 1
      induction pieces '\r' row with
      | nil => rfl
      | cons part others inner =>
        rw [List.map_cons, List.flatMap_cons, ← inner, List.filter_cons, lineAt]
        cases trim part <;> rfl
  exact numbered (pieces '\n' content) 1

section Cuts

theorem notMem_of_unbroken {raw : List Char} (unbroken : ∀ c ∈ raw, isLineEnd c = false) {c : Char}
    (ends : isLineEnd c = true) : c ∉ raw := by
  intro member
  rw [unbroken c member] at ends
  exact absurd ends (by decide)

theorem count_of_unbroken {raw : List Char} (unbroken : ∀ c ∈ raw, isLineEnd c = false) :
    raw.count '\n' = 0 :=
  List.count_eq_zero.mpr (notMem_of_unbroken unbroken rfl)

theorem pieces_of_notMem {separator : Char} {text : List Char} (free : separator ∉ text) :
    pieces separator text = [text] := by
  rw [pieces_eq_splitOn, List.splitOn_eq_singleton free]

theorem pieces_cut {separator : Char} {front : List Char} (free : separator ∉ front)
    (back : List Char) :
    pieces separator (front ++ separator :: back) = front :: pieces separator back := by
  rw [pieces_eq_splitOn, List.splitOn_append_cons_self_of_not_mem free, pieces_eq_splitOn]

theorem pieces_append_of_notMem {separator : Char} {front back piece : List Char}
    {later : List (List Char)} (free : separator ∉ front)
    (found : pieces separator back = piece :: later) :
    pieces separator (front ++ back) = (front ++ piece) :: later := by
  induction front with
  | nil => exact found
  | cons c front ih =>
    rw [List.mem_cons, not_or] at free
    rw [List.cons_append, pieces_cons, if_neg (Ne.symm free.1), ih free.2]
    rfl

theorem linesFrom_whole (first : Nat) {raw : List Char}
    (unbroken : ∀ c ∈ raw, isLineEnd c = false) : linesFrom first raw = lineAt first raw := by
  rw [linesFrom, pieces_of_notMem (notMem_of_unbroken unbroken rfl), rowsFrom, rowLines,
    pieces_of_notMem (notMem_of_unbroken unbroken rfl), List.flatMap_singleton, rowsFrom,
    List.append_nil]

/-- A line is over at the first line end, and only a line feed begins a new number. -/
theorem linesFrom_cut (first : Nat) {front : List Char} (unbroken : ∀ c ∈ front, isLineEnd c = false)
    {ending : Char} (ends : isLineEnd ending = true) (back : List Char) :
    linesFrom first (front ++ ending :: back) =
      lineAt first front ++ linesFrom (first + [ending].count '\n') back := by
  have noFeed : '\n' ∉ front := notMem_of_unbroken unbroken rfl
  have noReturn : '\r' ∉ front := notMem_of_unbroken unbroken rfl
  have kinds : ending = '\n' ∨ ending = '\r' := by simpa [isLineEnd] using ends
  rcases kinds with rfl | rfl
  · rw [linesFrom, pieces_cut noFeed, rowsFrom, rowLines, pieces_of_notMem noReturn,
      List.flatMap_singleton]
    rfl
  · obtain ⟨row, later, found⟩ := List.exists_cons_of_ne_nil (pieces_ne_nil '\n' back)
    have opened : '\n' ∉ front ++ ['\r'] := by simp [noFeed]
    have joined := pieces_append_of_notMem opened found
    rw [List.append_assoc, List.append_assoc, List.singleton_append, List.singleton_append] at joined
    rw [linesFrom, joined, rowsFrom, rowLines, pieces_cut noReturn, List.flatMap_cons, linesFrom,
      found, List.append_assoc]
    rfl

theorem linesFrom_append (first : Nat) (front : List Char) {ending : Char}
    (ends : isLineEnd ending = true) (back : List Char) :
    linesFrom first (front ++ ending :: back) =
      linesFrom first front ++ linesFrom (first + (front ++ [ending]).count '\n') back := by
  induction front using cut_induction isLineEnd generalizing first with
  | whole front unbroken =>
    rw [linesFrom_cut first unbroken ends, linesFrom_whole first unbroken, List.count_append,
      count_of_unbroken unbroken, Nat.zero_add]
  | cut line separator front unbroken cut ih =>
    have counted : first + (line ++ separator :: front ++ [ending]).count '\n' =
        first + [separator].count '\n' + (front ++ [ending]).count '\n' := by
      simp only [List.count_append, List.count_cons, List.count_nil, count_of_unbroken unbroken]
      omega
    rw [List.append_assoc, List.cons_append, linesFrom_cut first unbroken cut, ih,
      linesFrom_cut first unbroken cut, List.append_assoc, counted]

theorem textLines_append_cons (front : List Char) {ending : Char} (ends : isLineEnd ending = true)
    (back : List Char) : textLines (front ++ ending :: back) = textLines front ++ textLines back := by
  rw [textLines, List.splitOnP_append_cons front back ends, List.map_append, List.filter_append]
  rfl

theorem textLines_of_unbroken {raw : List Char} (unbroken : ∀ c ∈ raw, isLineEnd c = false) :
    textLines raw = [trim raw].filter fun line => !line.isEmpty := by
  rw [textLines, List.splitOnP_eq_singleton unbroken, List.map_singleton]

/-- A text has a line exactly if it is not all white space. -/
theorem textLines_eq_nil_iff (content : List Char) :
    textLines content = [] ↔ ∀ c ∈ content, isWhite c = true := by
  induction content using cut_induction isLineEnd with
  | whole raw unbroken =>
    rw [textLines_of_unbroken unbroken, ← trim_eq_nil_iff, List.filter_singleton]
    cases trim raw <;> simp
  | cut front ending back unbroken ends ih =>
    have white : isWhite ending = true := by
      rcases (by simpa [isLineEnd] using ends : ending = '\n' ∨ ending = '\r') with rfl | rfl <;> decide
    rw [textLines_append_cons front ends, List.append_eq_nil_iff, ih, textLines_of_unbroken unbroken,
      List.forall_mem_append, List.forall_mem_cons, ← trim_eq_nil_iff front, List.filter_singleton]
    cases trim front <;> simp [white]

theorem map_text_lineAt (number : Nat) {raw : List Char}
    (unbroken : ∀ c ∈ raw, isLineEnd c = false) :
    (lineAt number raw).map Line.text = textLines raw := by
  rw [textLines, List.splitOnP_eq_singleton unbroken, List.map_singleton, lineAt]
  cases trim raw <;> rfl

theorem map_text_linesFrom (first : Nat) (content : List Char) :
    (linesFrom first content).map Line.text = textLines content := by
  induction content using cut_induction isLineEnd generalizing first with
  | whole raw unbroken => rw [linesFrom_whole first unbroken, map_text_lineAt first unbroken]
  | cut front ending back unbroken ends ih =>
    rw [linesFrom_cut first unbroken ends, List.map_append, ih, map_text_lineAt first unbroken,
      textLines_append_cons front ends]

end Cuts

section Places

variable {source before raw after : List Char}

/-- The lines of a text up to one of them are the lines of what stands in front of it. -/
theorem Stretch.linesFrom_eq (stretch : Stretch source before raw after) (filled : trim raw ≠ [])
    (first : Nat) :
    ∃ later, linesFrom first source =
      linesFrom first before ++ ⟨first + before.count '\n', trim raw⟩ :: later := by
  have here (number : Nat) :
      ∃ later, linesFrom number (raw ++ after) = ⟨number, trim raw⟩ :: later := by
    have shown : lineAt number raw = [⟨number, trim raw⟩] := if_neg filled
    rcases stretch.closed with rfl | ⟨ending, back, rfl, ends⟩
    · rw [List.append_nil, linesFrom_whole number stretch.unbroken, shown]
      exact ⟨[], rfl⟩
    · rw [linesFrom_cut number stretch.unbroken ends, shown]
      exact ⟨_, rfl⟩
  rw [stretch.split]
  rcases stretch.opened with rfl | ⟨front, ending, rfl, ends⟩
  · obtain ⟨later, split⟩ := here first
    exact ⟨later, split⟩
  · obtain ⟨later, split⟩ := here (first + (front ++ [ending]).count '\n')
    have whole : linesFrom first (front ++ [ending]) = linesFrom first front := by
      rw [linesFrom_append first front ends]
      exact List.append_nil _
    refine ⟨later, ?_⟩
    rw [whole, List.append_assoc, List.append_assoc, List.singleton_append,
      linesFrom_append first front ends, split]

theorem Stretch.behind {back : List Char} (stretch : Stretch back before raw after)
    (front : List Char) {ending : Char} (ends : isLineEnd ending = true) :
    Stretch (front ++ ending :: back) (front ++ ending :: before) raw after where
  split := by simp [stretch.split]
  unbroken := stretch.unbroken
  opened := by
    rcases stretch.opened with rfl | ⟨others, last, rfl, closes⟩
    · exact .inr ⟨front, ending, rfl, ends⟩
    · exact .inr ⟨front ++ ending :: others, last, by simp, closes⟩
  closed := stretch.closed

theorem lineAt_append_eq {number : Nat} {lines earlier later : List Line} {line : Line}
    (split : lineAt number raw ++ lines = earlier ++ line :: later) :
    (trim raw ≠ [] ∧ earlier = [] ∧ line = ⟨number, trim raw⟩) ∨
      ∃ others, earlier = lineAt number raw ++ others ∧ lines = others ++ line :: later := by
  unfold lineAt at split ⊢
  split_ifs at split ⊢ with blank
  · exact .inr ⟨earlier, rfl, split⟩
  · cases earlier with
    | nil => exact .inl ⟨blank, rfl, (List.cons.inj split).1.symm⟩
    | cons head others =>
      obtain ⟨rfl, rest⟩ := List.cons.inj split
      exact .inr ⟨others, rfl, rest⟩

theorem exists_stretch {content : List Char} {first : Nat} {earlier later : List Line} {line : Line}
    (split : linesFrom first content = earlier ++ line :: later) :
    ∃ before raw after, Stretch content before raw after ∧ trim raw ≠ [] ∧
      earlier = linesFrom first before ∧ line = ⟨first + before.count '\n', trim raw⟩ := by
  induction content using cut_induction isLineEnd generalizing first earlier with
  | whole raw unbroken =>
    rw [linesFrom_whole first unbroken, ← List.append_nil (lineAt first raw)] at split
    rcases lineAt_append_eq split with ⟨filled, rfl, rfl⟩ | ⟨others, -, none⟩
    · exact ⟨[], raw, [], ⟨by simp, unbroken, .inl rfl, .inl rfl⟩, filled, rfl, rfl⟩
    · simp at none
  | cut front ending back unbroken ends ih =>
    rw [linesFrom_cut first unbroken ends] at split
    -- The line is the one in front of the first line end, or one of those behind it.
    rcases lineAt_append_eq split with ⟨filled, rfl, rfl⟩ | ⟨others, rfl, rest⟩
    · refine ⟨[], front, ending :: back, ?_, filled, rfl, rfl⟩
      exact ⟨rfl, unbroken, .inl rfl, .inr ⟨ending, back, rfl, ends⟩⟩
    · obtain ⟨before, raw, after, stretch, filled, rfl, rfl⟩ := ih rest
      have counted : first + [ending].count '\n' + before.count '\n' =
          first + (front ++ ending :: before).count '\n' := by
        simp only [List.count_append, List.count_cons, List.count_nil, count_of_unbroken unbroken]
        omega
      refine ⟨front ++ ending :: before, raw, after, stretch.behind front ends, filled, ?_, ?_⟩
      · rw [linesFrom_cut first unbroken ends]
      · rw [counted]

end Places

section Folded

theorem linesFrom_lowercase (first : Nat) (content : List Char) :
    linesFrom first (lowercase content) =
      (linesFrom first content).map fun line => ⟨line.number, lowercase line.text⟩ := by
  have folded (raw : List Char) (number : Nat) :
      lineAt number (lowercase raw) =
        (lineAt number raw).map fun line => ⟨line.number, lowercase line.text⟩ := by
    unfold lineAt
    rw [trim_lowercase]
    simp only [lowercase_eq_nil_iff]
    split_ifs <;> rfl
  have unbroken_lowercase {raw : List Char} (unbroken : ∀ c ∈ raw, isLineEnd c = false) :
      ∀ c ∈ lowercase raw, isLineEnd c = false := by
    rw [lowercase_eq_foldBetween]
    exact not_cut_foldBetween lineEnd_layout false false unbroken
  induction content using cut_induction isLineEnd generalizing first with
  | whole raw unbroken =>
    rw [linesFrom_whole first (unbroken_lowercase unbroken), linesFrom_whole first unbroken, folded]
  | cut front ending back unbroken ends ih =>
    rw [lowercase_cut front back (lineEnd_layout _ ends) (lineEnd_blind _ ends),
      linesFrom_cut first (unbroken_lowercase unbroken) ends, linesFrom_cut first unbroken ends,
      List.map_append, folded, ih]

end Folded

end Voiceover
