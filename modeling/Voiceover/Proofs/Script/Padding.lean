import Voiceover.Proofs.Script.Numbering
import Voiceover.Proofs.Text.Refolding

/-! The layout of a script and the case of its letters. Nothing but the numbered lines of a script decides
what becomes of it, and they are trimmed and folded. White space at the ends of a line is trimmed off,
and a carriage return in it ends a line that is blank, without beginning a number. White space is blind,
so none of it changes how a sigma next to it is folded. -/

namespace Voiceover

open Text

def IsPadding (text : List Char) : Prop := ∀ c ∈ text, isWhite c = true ∧ c ≠ '\n'

instance (text : List Char) : Decidable (IsPadding text) :=
  List.decidableBAll (fun c => isWhite c = true ∧ c ≠ '\n') text

/-- A text that is the other one with padding at the start and at the end of any of its lines. -/
inductive Pads : (source padded : List Char) → Prop
  | last {front back : List Char} (line : List Char) (opening : IsPadding front)
      (closing : IsPadding back) : Pads line (front ++ line ++ back)
  | line {front back source padded : List Char} {ending : Char} (line : List Char)
      (opening : IsPadding front) (closing : IsPadding back) (ends : isLineEnd ending = true)
      (others : Pads source padded) :
      Pads (line ++ ending :: source) (front ++ line ++ back ++ ending :: padded)

def withReturns (text : List Char) : List Char :=
  text.flatMap fun c => if c = '\n' then ['\r', '\n'] else [c]

theorem isPadding_nil : IsPadding [] := List.forall_mem_nil _

theorem isPadding_return : IsPadding ['\r'] := by decide

theorem IsPadding.count_feed {text : List Char} (padding : IsPadding text) : text.count '\n' = 0 :=
  List.count_eq_zero.mpr fun member => (padding _ member).2 rfl

theorem withReturns_of_notMem {text : List Char} (free : ∀ c ∈ text, decide (c = '\n') = false) :
    withReturns text = text := by
  have alone : ∀ c ∈ text, (if c = '\n' then ['\r', '\n'] else [c]) = [c] := by
    intro c member
    exact if_neg (of_decide_eq_false (free c member))
  rw [withReturns, List.flatMap_congr alone, List.flatMap_singleton']

theorem pads_withReturns (text : List Char) : Pads text (withReturns text) := by
  induction text using cut_induction (fun c => decide (c = '\n')) with
  | whole line free =>
    have last := Pads.last line isPadding_nil isPadding_nil
    rw [List.nil_append, List.append_nil] at last
    rwa [withReturns_of_notMem free]
  | cut line ending back free feed ih =>
    obtain rfl := of_decide_eq_true feed
    have shape : withReturns (line ++ '\n' :: back) =
        [] ++ line ++ ['\r'] ++ '\n' :: withReturns back := by
      rw [withReturns, List.flatMap_append, List.flatMap_cons, if_pos rfl]
      rw [← withReturns, withReturns_of_notMem free]
      simp [withReturns]
    rw [shape]
    exact .line line isPadding_nil isPadding_return rfl ih

section Lines

theorem trim_cons_white {c : Char} (white : isWhite c = true) (text : List Char) :
    trim (c :: text) = trim text := by
  rw [trim, trimStart, List.dropWhile_cons_of_pos white]
  rfl

theorem trim_concat_white {c : Char} (white : isWhite c = true) (text : List Char) :
    trim (text ++ [c]) = trim text := by
  by_cases blank : ∀ d ∈ text, isWhite d = true
  · rw [(trim_eq_nil_iff text).mpr blank, trim_eq_nil_iff, List.forall_mem_append]
    exact ⟨blank, List.forall_mem_singleton.mpr white⟩
  · have dark : text.dropWhile isWhite ≠ [] := fun none => blank (List.dropWhile_eq_nil_iff.mp none)
    rw [trim, trimStart, List.dropWhile_append, if_neg (by simpa using dark), trimEnd_eq_rdropWhile,
      List.rdropWhile_concat_pos _ _ _ white]
    rfl

theorem lineAt_of_trim_eq {raw other : List Char} (same : trim other = trim raw) (number : Nat) :
    lineAt number other = lineAt number raw := by
  rw [lineAt, lineAt, same]

theorem linesFrom_nil (first : Nat) : linesFrom first [] = [] := rfl

theorem linesFrom_cons_white {c : Char} (white : isWhite c = true) (noFeed : c ≠ '\n') (first : Nat)
    (text : List Char) : linesFrom first (c :: text) = linesFrom first text := by
  by_cases ends : isLineEnd c = true
  · have kinds : c = '\n' ∨ c = '\r' := by simpa [isLineEnd] using ends
    obtain rfl := kinds.resolve_left noFeed
    exact linesFrom_cut first (List.forall_mem_nil _) ends text
  · have inside : isLineEnd c = false := by simpa using ends
    induction text using cut_induction isLineEnd with
    | whole raw unbroken =>
      have wider : ∀ d ∈ c :: raw, isLineEnd d = false := List.forall_mem_cons.mpr ⟨inside, unbroken⟩
      rw [linesFrom_whole first wider, linesFrom_whole first unbroken]
      exact lineAt_of_trim_eq (trim_cons_white white raw) first
    | cut front ending back unbroken cut =>
      have wider : ∀ d ∈ c :: front, isLineEnd d = false :=
        List.forall_mem_cons.mpr ⟨inside, unbroken⟩
      rw [← List.cons_append, linesFrom_cut first wider cut, linesFrom_cut first unbroken cut,
        lineAt_of_trim_eq (trim_cons_white white front)]

theorem linesFrom_concat_white {c : Char} (white : isWhite c = true) (first : Nat) (text : List Char) :
    linesFrom first (text ++ [c]) = linesFrom first text := by
  by_cases ends : isLineEnd c = true
  · rw [linesFrom_append first text ends, linesFrom_nil, List.append_nil]
  · have inside : isLineEnd c = false := by simpa using ends
    induction text using cut_induction isLineEnd generalizing first with
    | whole raw unbroken =>
      have wider : ∀ d ∈ raw ++ [c], isLineEnd d = false :=
        List.forall_mem_append.mpr ⟨unbroken, List.forall_mem_singleton.mpr inside⟩
      rw [linesFrom_whole first wider, linesFrom_whole first unbroken]
      exact lineAt_of_trim_eq (trim_concat_white white raw) first
    | cut front ending back unbroken cut ih =>
      rw [List.append_assoc, List.cons_append, linesFrom_cut first unbroken cut, ih,
        linesFrom_cut first unbroken cut]

end Lines

namespace IsPadding

variable {padding : List Char} (blank : IsPadding padding)

include blank

theorem linesFrom_append (first : Nat) (text : List Char) :
    linesFrom first (padding ++ text) = linesFrom first text := by
  induction padding with
  | nil => rfl
  | cons c rest ih =>
    obtain ⟨⟨white, noFeed⟩, others⟩ := List.forall_mem_cons.mp blank
    rw [List.cons_append, linesFrom_cons_white white noFeed, ih others]

theorem linesFrom_append_right (first : Nat) (text : List Char) :
    linesFrom first (text ++ padding) = linesFrom first text := by
  induction padding using List.reverseRecOn with
  | nil => rw [List.append_nil]
  | append_singleton front c ih =>
    obtain ⟨others, only⟩ := List.forall_mem_append.mp blank
    rw [← List.append_assoc, linesFrom_concat_white (only c (List.mem_singleton_self c)).1, ih others]

end IsPadding

theorem linesFrom_of_pads {source padded : List Char} (pads : Pads source padded) (first : Nat) :
    linesFrom first padded = linesFrom first source := by
  -- Padding holds no line feed, so the lines behind it keep their numbers.
  induction pads generalizing first with
  | last line opening closing =>
    rw [closing.linesFrom_append_right, opening.linesFrom_append]
  | line line opening closing ends others ih =>
    rw [linesFrom_append first _ ends, linesFrom_append first _ ends, ih,
      closing.linesFrom_append_right, opening.linesFrom_append]
    simp only [List.count_append, opening.count_feed, closing.count_feed, Nat.zero_add, Nat.add_zero]

namespace Script

/-- Scripts with the same folded lines are read alike, and fail alike. -/
theorem parse_congr {source other : String}
    (same : scriptLines (lowercase other.toList) = scriptLines (lowercase source.toList)) :
    parse other = parse source := by
  have blank (text : String) :
      text.toList.all isWhite = (scriptLines (lowercase text.toList)).isEmpty := by
    rw [Bool.eq_iff_iff, List.all_eq_true, ← textLines_eq_nil_iff, List.isEmpty_iff,
      ← List.map_eq_nil_iff (f := Line.text), map_text_scriptLines, textLines_lowercase,
      List.map_eq_nil_iff]
  rw [parse, parse, blank, blank, same]

/-- A script is read alike, and fails alike, when it is folded before, when carriage returns are put in
front of its line feeds, and when white space is put around any of its lines. -/
theorem parse_laid_out (source : String) :
    parse (String.ofList (lowercase source.toList)) = parse source ∧
    parse (String.ofList (withReturns source.toList)) = parse source ∧
    ∀ padded, Pads source.toList padded → parse (String.ofList padded) = parse source := by
  have padding (padded : List Char) (pads : Pads source.toList padded) :
      parse (String.ofList padded) = parse source := by
    apply parse_congr
    rw [String.toList_ofList, scriptLines_eq_linesFrom, scriptLines_eq_linesFrom, linesFrom_lowercase,
      linesFrom_lowercase, linesFrom_of_pads pads]
  refine ⟨?_, padding _ (pads_withReturns _), padding⟩
  apply parse_congr
  rw [String.toList_ofList, lowercase_lowercase]

/-- A sigma that ends a line is final in front of a space as well, and the error about the line tells its
number in spite of the carriage returns in front of it. -/
theorem parse_laid_out_sigma :
    Pads "voice:ΑΣ,maria,0\nΙΣ".toList "\u2003voice:ΑΣ,maria,0\r\n\r\t ΙΣ\u2028\r".toList ∧
    parse "\u2003voice:ΑΣ,maria,0\r\n\r\t ΙΣ\u2028\r" = .error (.invalidSpeakLine 2 "ις") := by
  have opening : IsPadding "\u2003".toList := by decide
  have indent : IsPadding "\r\t ".toList := by decide
  have closing : IsPadding "\u2028\r".toList := by decide
  have pads : Pads "voice:ΑΣ,maria,0\nΙΣ".toList
      "\u2003voice:ΑΣ,maria,0\r\n\r\t ΙΣ\u2028\r".toList :=
    .line "voice:ΑΣ,maria,0".toList opening isPadding_return rfl (.last "ΙΣ".toList indent closing)
  have alike := (parse_laid_out "voice:ΑΣ,maria,0\nΙΣ").2.2 _ pads
  rw [String.ofList_toList] at alike
  refine ⟨pads, ?_⟩
  rw [alike]
  decide +kernel

end Script

end Voiceover
