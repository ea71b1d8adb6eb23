import Mathlib.Algebra.Group.Nat.Defs
import Mathlib.Tactic.ByContra
import Mathlib.Tactic.SplitIfs
import Voiceover.Yaml.Emit
import Voiceover.Yaml.Scalar

/-! Plain and quoted scalars are read as they were written. What has been read so far is a text and a
gap behind it, and a gap that holds no line feed stands for itself: so each character that is read adds
itself to the text, or to the gap. -/

namespace Voiceover.Yaml

section Characters

theorem eq_space_of_isBlank {c : Char} (printable : isPrintable c = true) (blank : isBlank c = true) :
    c = ' ' := by
  simp only [isBlank, Bool.or_eq_true, decide_eq_true_eq] at blank
  rcases blank with space | rfl
  · exact space
  · exact absurd printable (by decide)

theorem isSpace_eq_isBlank {c : Char} (printable : isPrintable c = true) : isSpace c = isBlank c := by
  cases blank : isBlank c with
  | true =>
    rw [eq_space_of_isBlank printable blank]
    rfl
  | false =>
    simp only [isBlank, Bool.or_eq_false_iff, decide_eq_false_iff_not] at blank
    exact decide_eq_false blank.1

theorem endsWith_cons (test : Char → Bool) (c : Char) (rest : List Char) :
    endsWith test (c :: rest) = if rest = [] then test c else endsWith test rest := by
  cases rest with
  | nil => rfl
  | cons d rest => rw [endsWith, List.getLast?_cons_cons, if_neg (List.cons_ne_nil _ _), endsWith]

theorem endsWord_append {text : List Char} (filled : text ≠ []) (rest : List Char) :
    endsWord (text ++ rest) = endsWord text := by
  cases text with
  | nil => exact absurd rfl filled
  | cons c text => rfl

theorem isColonInFlow_block (text : List Char) : isColonInFlow false text = false := by
  unfold isColonInFlow
  split <;> rfl

end Characters

section Plain

/-- A text that is taken for nothing else than a plain scalar behind a key. -/
structure Bare (text : List Char) : Prop where
  ordinary : ∀ c ∈ text, isPrintable c = true ∧ isBreak c = false
  closed : endsWith isSpace text = false
  quiet : holdsIndicator false text = false
  opening : ∀ c rest, text = c :: rest → isBlank c = false ∧ isLeadingIndicator c = false ∧
    ((c = '?' || c = ':' || c = '-') && endsWord rest) = false

theorem bare_of_plainAllowed {text : List Char} (plain : plainAllowed text = true) : Bare text := by
  simp only [plainAllowed, Bool.and_eq_true, Bool.not_eq_true', List.all_eq_true, List.any_eq_false,
    Bool.not_eq_true] at plain
  obtain ⟨⟨⟨⟨printable, whole⟩, starts⟩, ends⟩, free⟩ := plain
  have opening (c : Char) (rest : List Char) (shape : text = c :: rest) :
      isBlank c = false ∧ isLeadingIndicator c = false ∧
        ((c = '?' || c = ':' || c = '-') && endsWord rest) = false ∧
        holdsIndicator (endsWord [c]) rest = false := by
    subst shape
    simp only [needsQuotes, Bool.or_eq_false_iff] at free
    obtain ⟨⟨⟨⟨leading, marked⟩, -⟩, -⟩, bare⟩ := free
    rw [← isSpace_eq_isBlank (printable c List.mem_cons_self)]
    exact ⟨starts, leading, by simpa using marked, bare⟩
  refine ⟨fun c member => ⟨printable c member, whole c member⟩, ends, ?_, ?_⟩
  · cases text with
    | nil => rfl
    | cons c rest =>
      obtain ⟨-, -, marked, bare⟩ := opening c rest rfl
      simp only [holdsIndicator, bare, Bool.and_false, Bool.or_false]
      cases colon : decide (c = ':') with
      | true => simpa [of_decide_eq_true colon] using marked
      | false => rfl
  · intro c rest shape
    obtain ⟨unspaced, leading, marked, -⟩ := opening c rest shape
    exact ⟨unspaced, leading, marked⟩

theorem Bare.unmarked {c : Char} {text : List Char} (bare : Bare (c :: text)) (rest : List Char) :
    ((c = '?' || c = ':' || c = '-') && endsWord (text ++ rest)) = false := by
  obtain ⟨-, -, unmarked⟩ := bare.opening c text rfl
  by_cases filled : text = []
  · rw [filled, endsWord, Bool.and_true] at unmarked
    rw [unmarked, Bool.false_and]
  · rwa [endsWord_append filled]

variable {indent column : Nat} {text rest : List Char}

/-- Words are read to the last of them, and no further. -/
theorem scanPlain_words (done seen : List Char)
    (inLine : column ≠ 0 ∨ startsWithMark (text ++ rest) = false)
    (ordinary : ∀ c ∈ text, isPrintable c = true ∧ isBreak c = false)
    (bare : holdsIndicator (!seen.isEmpty) text = false) (closed : text = [] → seen = [])
    (ends : endsWith isSpace text = false) :
    scanPlain false indent column done (.blanks seen) (text ++ rest) =
      scanPlain false indent (column + text.length) (text.reverse ++ (seen.reverse ++ done)) .none
        rest := by
  induction text generalizing column done seen with
  | nil =>
    rw [closed rfl]
    rfl
  | cons c text ih =>
    obtain ⟨⟨printable, whole⟩, ordinary⟩ := List.forall_mem_cons.mp ordinary
    simp only [holdsIndicator, Bool.or_eq_false_iff] at bare
    obtain ⟨⟨noColon, noComment⟩, bare⟩ := bare
    rw [endsWith_cons] at ends
    have endsText : endsWith isSpace text = false := by
      by_cases last : text = []
      · rw [last]
        rfl
      · rwa [if_neg last] at ends
    rw [List.cons_append] at inLine ⊢
    rw [scanPlain]
    by_cases blank : isBlank c = true
    · have filled : text ≠ [] := by
        rintro rfl
        rw [if_pos rfl, isSpace_eq_isBlank printable, blank] at ends
        exact absurd ends (by decide)
      rw [if_neg (by simp [whole]), if_pos blank, if_neg (by simp [Gap.isBroken])]
      refine (ih _ _ (.inl (Nat.succ_ne_zero _)) ordinary ?_ (fun none => absurd none filled) endsText).trans ?_
      · have gap : (!(seen ++ [c]).isEmpty) = endsWord [c] := by
          rw [endsWord, blank]
          cases seen <;> rfl
        rw [gap]
        exact bare
      · simp [Nat.add_assoc, Nat.add_comm 1]
    · have colon : (c = ':' && endsWord (text ++ rest)) = false := by
        by_cases filled : text = []
        · subst filled
          simp [endsWord] at noColon
          simp [noColon]
        · rw [endsWord_append filled]
          exact noColon
      have noMark : (decide (column = 0) && startsWithMark (c :: (text ++ rest))) = false := by
        rcases inLine with inside | unmarked
        · rw [decide_eq_false inside, Bool.false_and]
        · rw [unmarked, Bool.and_false]
      have goesOn : plainEnds false indent column (.blanks seen) (c :: (text ++ rest)) = false := by
        rw [Bool.and_comm] at noComment
        simp only [plainEnds, Gap.isBroken, Gap.isEmpty, colon, noComment, noMark]
        rfl
      rw [if_neg (by simp [whole]), if_neg blank, if_neg (by simp [goesOn]),
        if_neg (by simp [isColonInFlow_block])]
      refine (ih _ [] (.inl (Nat.succ_ne_zero _)) ordinary ?_ (fun _ => rfl) endsText).trans ?_
      · simpa [endsWord, blank, whole] using bare
      · simp [Gap.text, Nat.add_assoc, Nat.add_comm 1]

/-- A plain scalar is read up to the next line that is not blank, if that line does not stand deeper
than the block that the scalar is in. -/
theorem scanPlain_line {margin : Nat} {next : List Char} (inLine : column ≠ 0)
    (bare : Bare text) (shallow : margin < indent)
    (opens : ∀ c ∈ next.head?, isBlank c = false ∧ isBreak c = false) :
    scanPlain false indent column [] .none (text ++ '\n' :: (spaces margin ++ next)) =
      .ok (text, true, next) := by
  have margins (room column : Nat) (fits : column + room = margin) (done : List Char) :
      scanPlain false indent column done (.breaks ['\n']) (spaces room ++ next) =
        .ok (done.reverse, true, next) := by
    induction room generalizing column with
    | zero =>
      cases next with
      | nil => rfl
      | cons c next =>
        obtain ⟨blank, whole⟩ := opens c rfl
        have outside : column < indent := by omega
        rw [spaces, List.replicate_zero, List.nil_append, scanPlain, if_neg (by simp [whole]),
          if_neg (by simp [blank]), if_pos (by simp [plainEnds, Gap.isBroken, outside])]
        rfl
    | succ room ih =>
      rw [spaces, List.replicate_succ, List.cons_append, scanPlain, if_neg (by decide),
        if_pos (by decide), if_neg (by simp)]
      exact ih (column + 1) (by omega)
  refine (scanPlain_words [] [] (.inl inLine) bare.ordinary bare.quiet (fun _ => rfl) bare.closed).trans ?_
  rw [scanPlain, if_pos (by decide)]
  refine (margins margin 0 (Nat.zero_add _) _).trans ?_
  simp

/-- A key is read up to its colon. -/
theorem scanPlain_key (inLine : column ≠ 0 ∨ startsWithMark (text ++ ':' :: rest) = false)
    (bare : Bare text) (ends : endsWord rest = true) :
    scanPlain false indent column [] .none (text ++ ':' :: rest) = .ok (text, false, ':' :: rest) := by
  refine (scanPlain_words [] [] inLine bare.ordinary bare.quiet (fun _ => rfl) bare.closed).trans ?_
  rw [scanPlain, if_neg (by decide), if_neg (by decide), if_pos (by simp [plainEnds, ends])]
  simp [Gap.none, Gap.isBroken]

end Plain

section Single

def Gap.pending (fresh : Bool) (seen : List Char) : Gap := if fresh then .breaks seen else .blanks seen

theorem Gap.text_pending {seen : List Char} (noFeed : '\n' ∉ seen) (fresh : Bool) :
    (Gap.pending fresh seen).text = seen := by
  cases fresh with
  | false => rfl
  | true =>
    cases seen with
    | nil => rfl
    | cons first more =>
      have other : first ≠ '\n' := fun same => noFeed (same ▸ List.mem_cons_self)
      rw [pending, if_pos rfl]
      unfold Gap.text
      split <;> simp_all

theorem adjoin_cons (first second : Char → Bool) (c : Char) (rest : List Char) :
    adjoin first second (c :: rest) = (first c && startsWith second rest || adjoin first second rest) := by
  cases rest with
  | nil => simp [adjoin, startsWith]
  | cons d rest => rfl

theorem scanSingle_blank {c : Char} (blank : isBlank c = true) (whole : isBreak c = false)
    (column : Nat) (done : List Char) (gap : Gap) (rest : List Char) :
    scanSingle column done gap (c :: rest) = scanSingle (column + 1) done (gap.addBlank c) rest := by
  rw [scanSingle.eq_def]
  simp only [whole, blank, if_true, Bool.false_eq_true, if_false]

theorem scanSingle_break {c : Char} (breaks : isBreak c = true) (column : Nat) (done : List Char)
    (gap : Gap) (rest : List Char) :
    scanSingle column done gap (c :: rest) = scanSingle 0 done (gap.addBreak c) rest := by
  rw [scanSingle.eq_def]
  simp only [breaks, if_true]

theorem scanSingle_quote (column : Nat) (done : List Char) (gap : Gap) (rest : List Char) :
    scanSingle column done gap ('\'' :: '\'' :: rest) =
      scanSingle (column + 2) ('\'' :: (gap.text.reverse ++ done)) .none rest := by
  rw [scanSingle.eq_def]
  simp [isBreak, isBlank, startsWithMark, startMark, endMark]

theorem scanSingle_close (column : Nat) (done : List Char) (gap : Gap) (rest : List Char) :
    scanSingle column done gap ('\'' :: '\n' :: rest) =
      .ok (done.reverse ++ gap.text, '\n' :: rest) := by
  rw [scanSingle.eq_def]
  simp [isBreak, isBlank, startsWithMark, startMark, endMark]

theorem scanSingle_word {c : Char} {column : Nat} (blank : isBlank c = false)
    (whole : isBreak c = false) (quote : c ≠ '\'') (inLine : column ≠ 0) (done : List Char)
    (gap : Gap) (rest : List Char) :
    scanSingle column done gap (c :: rest) =
      scanSingle (column + 1) (c :: (gap.text.reverse ++ done)) .none rest := by
  rw [scanSingle.eq_def]
  simp [whole, blank, quote, inLine]

theorem scanSingle_margin (room column : Nat) (done seen rest : List Char) :
    scanSingle column done (.breaks seen) (spaces room ++ rest) =
      scanSingle (column + room) done (.breaks seen) rest := by
  induction room generalizing column with
  | zero => rfl
  | succ room ih =>
    rw [spaces, List.replicate_succ, List.cons_append, scanSingle_blank rfl rfl, Nat.add_comm room,
      ← Nat.add_assoc]
    exact ih (column + 1)

def endsFresh (fresh : Bool) (text : List Char) : Bool := (text.getLast?.map isBreak).getD fresh

theorem endsFresh_cons (fresh : Bool) (c : Char) (text : List Char) :
    endsFresh fresh (c :: text) = endsFresh (isBreak c) text := by
  rw [endsFresh, endsFresh, List.getLast?_cons]
  cases text.getLast? <;> rfl

theorem endsWith_isBreak (text : List Char) : endsWith isBreak text = endsFresh false text := by
  rw [endsWith, endsFresh]
  cases text.getLast? <;> rfl

/-- What stands between two quotes is read to the last of it. A gap goes on with a blank only on the
line of a word and with a break only behind one, so none of it is folded. -/
theorem scanSingle_written {indent column : Nat} {text rest : List Char} (fresh : Bool)
    (done seen : List Char) (indented : 0 < indent) (inLine : fresh = false → column ≠ 0) (noFeed : '\n' ∉ seen ++ text)
    (printable : ∀ c ∈ text, isPrintable c = true) (unspaced : adjoin isSpace isBreak text = false)
    (flush : adjoin isBreak isSpace text = false)
    (afterWord : fresh = false → seen ≠ [] → startsWith isBreak text = false)
    (afterBreak : fresh = true → startsWith isSpace text = false) :
    scanSingle column done (.pending fresh seen) (Yaml.indented indent doubleQuote fresh text ++
        ((if endsFresh fresh text then spaces indent else []) ++ '\'' :: '\n' :: rest)) =
      .ok (done.reverse ++ (seen ++ text), '\n' :: rest) := by
  induction text generalizing column fresh done seen with
  | nil =>
    rw [List.append_nil] at noFeed ⊢
    cases fresh with
    | false => exact scanSingle_close _ _ _ _
    | true =>
      refine (scanSingle_margin indent column done seen _).trans ?_
      rw [scanSingle_close]
      exact congrArg (fun gap => Except.ok (done.reverse ++ gap, _)) (Gap.text_pending noFeed true)
  | cons c text ih =>
    obtain ⟨printable, others⟩ := List.forall_mem_cons.mp printable
    rw [adjoin_cons, Bool.or_eq_false_iff] at unspaced flush
    rw [endsFresh_cons, Yaml.indented]
    by_cases breaks : isBreak c = true
    · have alone : fresh = false → seen = [] := by
        intro word
        by_contra filled
        have whole := afterWord word filled
        rw [startsWith, List.head?_cons, Option.any_some, breaks] at whole
        exact absurd whole (by decide)
      have grown : (Gap.pending fresh seen).addBreak c = .pending true (seen ++ [c]) := by
        cases fresh with
        | false => rw [alone rfl]; rfl
        | true => rfl
      rw [if_pos breaks, List.cons_append, scanSingle_break breaks, grown, breaks]
      refine (ih true _ _ (fun word => absurd word (by decide)) (by simpa using noFeed) others unspaced.2 flush.2
        (fun word => absurd word (by decide)) fun _ => ?_).trans (by simp)
      simpa [breaks] using flush.1
    · have whole : isBreak c = false := by simpa using breaks
      -- The margin in front of the character is not part of the text.
      obtain ⟨place, inside, led⟩ : ∃ place, place ≠ 0 ∧ ∀ text,
          scanSingle column done (.pending fresh seen) ((if fresh then spaces indent else []) ++ text) =
            scanSingle place done (.pending fresh seen) text := by
        cases fresh with
        | false => exact ⟨column, inLine rfl, fun _ => rfl⟩
        | true => exact ⟨column + indent, by omega, scanSingle_margin indent column done seen⟩
      rw [if_neg breaks, List.append_assoc, List.append_assoc, led, whole]
      by_cases blank : isBlank c = true
      · obtain rfl := eq_space_of_isBlank printable blank
        have word : fresh = false := by
          by_contra start
          have := afterBreak (by simpa using start)
          exact absurd this (by simp [startsWith, isSpace])
        subst word
        have plain : doubleQuote ' ' = [' '] := rfl
        rw [plain, List.singleton_append, scanSingle_blank blank whole]
        refine (ih false _ (seen ++ [' ']) (fun _ => Nat.succ_ne_zero _) (by simpa using noFeed) others
          unspaced.2 flush.2 (fun _ _ => ?_) fun start => absurd start (by decide)).trans (by simp)
        simpa [isSpace] using unspaced.1
      · have here : '\n' ∉ seen ∧ '\n' ∉ text := by simp_all
        have onward (place : Nat) (inside : place ≠ 0) :
            scanSingle place (c :: (seen.reverse ++ done)) .none (Yaml.indented indent doubleQuote false text ++
                ((if endsFresh false text then spaces indent else []) ++ '\'' :: '\n' :: rest)) =
              .ok (done.reverse ++ (seen ++ c :: text), '\n' :: rest) := by
          refine (ih false _ [] (fun _ => inside) (by simpa using here.2) others unspaced.2
            flush.2 (fun _ filled => absurd rfl filled) fun start => absurd start (by decide)).trans ?_
          simp
        by_cases quote : c = '\''
        · subst quote
          have doubled : doubleQuote '\'' = ['\'', '\''] := rfl
          rw [doubled, List.cons_append, List.singleton_append, scanSingle_quote,
            Gap.text_pending here.1]
          exact onward _ (Nat.succ_ne_zero _)
        · have plain : doubleQuote c = [c] := if_neg quote
          rw [plain, List.singleton_append,
            scanSingle_word (by simpa using blank) whole quote inside, Gap.text_pending here.1]
          exact onward _ (Nat.succ_ne_zero _)

theorem exists_singleQuoted {indent : Nat} {text : List Char} (single : singleAllowed text = true)
    (noFeed : '\n' ∉ text) (indented : 0 < indent) :
    ∃ body, singleQuoted indent text = '\'' :: (body ++ ['\'']) ∧ ∀ column rest, column ≠ 0 →
      scanSingle column [] .none (body ++ '\'' :: '\n' :: rest) = .ok (text, '\n' :: rest) := by
  simp only [singleAllowed, hidesSpace, Bool.and_eq_true, Bool.not_eq_true', List.all_eq_true] at single
  obtain ⟨⟨printable, unspaced⟩, flush⟩ := single
  refine ⟨Yaml.indented indent doubleQuote false text ++
    (if endsWith isBreak text then spaces indent else []), rfl, fun column rest inLine => ?_⟩
  rw [endsWith_isBreak, List.append_assoc]
  exact scanSingle_written false [] [] indented (fun _ => inLine) noFeed printable unspaced flush
    (fun _ filled => absurd rfl filled) fun start => absurd start (by decide)

end Single

section Double

theorem hexValue_upperHex {digit : Nat} (small : digit < 16) : hexValue (upperHex digit) = some digit := by
  have all : ∀ digit < 16, hexValue (upperHex digit) = some digit := by decide
  exact all digit small

/-- Some of the digits behind an escape are read, and the others are still to come. -/
theorem scanDouble_digits (width more value column : Nat) {number : Nat} (fits : number < 16 ^ width)
    (done : List Char) (gap : Gap) (rest : List Char) :
    ∃ place, column ≤ place ∧
      scanDouble (.code (width + (more + 1)) value) column done gap (upperHexDigits width number ++ rest) =
        scanDouble (.code (more + 1) (value * 16 ^ width + number)) place done
          (if width = 0 then gap else .none) rest := by
  induction width generalizing more number rest with
  | zero =>
    obtain rfl : number = 0 := by simpa using fits
    exact ⟨column, Nat.le_refl _, by simp [upperHexDigits]⟩
  | succ width ih =>
    have high : number / 16 < 16 ^ width := by
      rw [Nat.div_lt_iff_lt_mul (by decide), ← Nat.pow_succ]
      exact fits
    obtain ⟨place, onward, read⟩ := ih (more + 1) high (upperHex (number % 16) :: rest)
    refine ⟨place + 1, by omega, ?_⟩
    have left : width + 1 + (more + 1) = width + (more + 1 + 1) := by omega
    have whole : 16 * (value * 16 ^ width + number / 16) + number % 16 =
        value * 16 ^ (width + 1) + number := by
      rw [Nat.pow_succ, Nat.mul_add, Nat.add_assoc, Nat.div_add_mod, Nat.mul_left_comm, Nat.mul_comm 16]
    rw [upperHexDigits, List.append_assoc, List.singleton_append, left, read]
    simp only [scanDouble]
    rw [hexValue_upperHex (Nat.mod_lt _ (by decide))]
    simp [whole]

theorem toNat_lt (c : Char) : c.toNat < 0x110000 := by
  rcases c.valid with low | ⟨-, high⟩
  · exact Nat.lt_trans low (by decide)
  · exact high

theorem eq_ofNat_of_toNat {c : Char} {code : Nat} (same : c.toNat = code) : c = Char.ofNat code := by
  rw [← same, Char.ofNat_toNat]

/-- Behind the backslash stands the name of the character, or its code point in digits. -/
theorem escapeOf_cases (c : Char) :
    (∃ name, escapeOf c = [name] ∧ namedEscape name = some c ∧ isPrintable name = true ∧
        isBreak name = false) ∨
      ∃ mark width, escapeOf c = mark :: upperHexDigits (width + 1) c.toNat ∧
        namedEscape mark = none ∧ escapeWidth mark = some (width + 1) ∧ isPrintable mark = true ∧
        isBreak mark = false ∧ c.toNat < 16 ^ (width + 1) := by
  by_cases known : c ∈ ['\x00', '\x07', '\x08', '\t', '\n', '\x0b', '\x0c', '\r', '\x1b', '"', '\\',
      '\u0085', '\u00a0', '\u2028', '\u2029']
  · simp only [List.mem_cons, List.not_mem_nil, or_false] at known
    refine .inl ?_
    rcases known with rfl | rfl | rfl | rfl | rfl | rfl | rfl | rfl | rfl | rfl | rfl | rfl | rfl | rfl |
      rfl <;> exact ⟨_, rfl, rfl, rfl, rfl⟩
  · simp only [List.mem_cons, List.not_mem_nil, or_false, not_or] at known
    obtain ⟨nul, bell, back, tab, feed, vertical, form, carriage, escape, quote, backslash, next, hard,
      line, paragraph⟩ := known
    have digits : escapeOf c =
        if c.toNat ≤ 0xff then 'x' :: upperHexDigits 2 c.toNat
        else if c.toNat ≤ 0xffff then 'u' :: upperHexDigits 4 c.toNat
        else 'U' :: upperHexDigits 8 c.toNat := by
      unfold escapeOf
      dsimp only
      rw [if_neg nul, if_neg bell, if_neg back, if_neg tab, if_neg feed, if_neg vertical, if_neg form,
        if_neg carriage, if_neg escape, if_neg (by simp [quote, backslash]),
        if_neg (mt eq_ofNat_of_toNat next), if_neg (mt eq_ofNat_of_toNat hard),
        if_neg (mt eq_ofNat_of_toNat line), if_neg (mt eq_ofNat_of_toNat paragraph)]
    rw [digits]
    by_cases byte : c.toNat ≤ 0xff
    · rw [if_pos byte]
      exact .inr ⟨'x', 1, rfl, rfl, rfl, rfl, rfl, by omega⟩
    · rw [if_neg byte]
      by_cases plane : c.toNat ≤ 0xffff
      · rw [if_pos plane]
        exact .inr ⟨'u', 3, rfl, rfl, rfl, rfl, rfl, by omega⟩
      · rw [if_neg plane]
        exact .inr ⟨'U', 7, rfl, rfl, rfl, rfl, rfl, Nat.lt_trans (toNat_lt c) (by decide)⟩

/-- An escape is read as the character that it stands for. -/
theorem scanDouble_escape (c : Char) (column : Nat) (done rest : List Char) :
    ∃ place, column < place ∧
      scanDouble .escape column done .none (escapeOf c ++ rest) =
        scanDouble .text place (c :: done) .none rest := by
  rcases escapeOf_cases c with ⟨name, shape, named, -, whole⟩ |
    ⟨mark, width, shape, unnamed, wide, -, whole, fits⟩
  · refine ⟨column + 1, Nat.lt_succ_self _, ?_⟩
    rw [shape, List.singleton_append, scanDouble]
    simp [whole, named]
  · -- All digits but the last are read as part of a number, and the last one makes the character.
    have high : c.toNat / 16 < 16 ^ width := by
      rw [Nat.div_lt_iff_lt_mul (by decide), ← Nat.pow_succ]
      exact fits
    obtain ⟨place, onward, read⟩ := scanDouble_digits width 0 0 (column + 1) high done .none
      (upperHex (c.toNat % 16) :: rest)
    refine ⟨place + 1, by omega, ?_⟩
    rw [shape, List.cons_append, scanDouble]
    simp only [whole, unnamed, wide, Bool.false_eq_true, if_false]
    rw [upperHexDigits, List.append_assoc, List.singleton_append, read]
    have code : 16 * (0 * 16 ^ width + c.toNat / 16) + c.toNat % 16 = c.toNat := by
      rw [Nat.zero_mul, Nat.zero_add, Nat.div_add_mod]
    have valid : c.toNat.isValidChar := c.valid
    simp only [scanDouble]
    rw [hexValue_upperHex (Nat.mod_lt _ (by decide))]
    simp only [code, Char.ofNat_toNat]
    simp [valid]

/-- What stands between two double quotes is read to the last of it. No line break is written as it is. -/
theorem scanDouble_written {column : Nat} {text rest : List Char} (done seen : List Char)
    (inLine : column ≠ 0) :
    scanDouble .text column done (.blanks seen) (text.flatMap doubleQuotedChar ++ '"' :: rest) =
      .ok (done.reverse ++ (seen ++ text), rest) := by
  induction text generalizing column done seen with
  | nil =>
    rw [List.append_nil]
    simp [scanDouble, isBreak, isBlank, startsWithMark, startMark, endMark, Gap.text]
  | cons c text ih =>
    rw [List.flatMap_cons, List.append_assoc, doubleQuotedChar]
    by_cases coded : (!isPrintable c || isBreak c || c = '"' || c = '\\') = true
    · obtain ⟨place, inside, read⟩ := scanDouble_escape c (column + 1) (seen.reverse ++ done)
        (text.flatMap doubleQuotedChar ++ '"' :: rest)
      have opened : scanDouble .text column done (.blanks seen)
          ('\\' :: (escapeOf c ++ (text.flatMap doubleQuotedChar ++ '"' :: rest))) =
          scanDouble .escape (column + 1) (seen.reverse ++ done) .none
            (escapeOf c ++ (text.flatMap doubleQuotedChar ++ '"' :: rest)) := by
        rw [scanDouble]
        simp [isBreak, isBlank, inLine, Gap.text]
      rw [if_pos coded, List.cons_append, opened, read]
      refine (ih _ [] (by omega)).trans ?_
      simp
    · simp only [Bool.or_eq_true, Bool.not_eq_true', decide_eq_true_eq, not_or, Bool.not_eq_true,
        Bool.not_eq_false] at coded
      obtain ⟨⟨⟨printable, whole⟩, notQuote⟩, notBackslash⟩ := coded
      rw [if_neg (by simp [printable, whole, notQuote, notBackslash]), List.singleton_append, scanDouble]
      by_cases blank : isBlank c = true
      · simp only [whole, blank, Bool.false_eq_true, if_false, if_true]
        refine (ih done (seen ++ [c]) (Nat.succ_ne_zero _)).trans ?_
        simp
      · simp only [whole, blank, inLine, notQuote, notBackslash, Bool.false_eq_true, if_false,
          decide_false, Bool.false_and, Gap.text]
        refine (ih _ [] (Nat.succ_ne_zero _)).trans ?_
        simp

end Double

section Printable

theorem printable_spaces {room : Nat} {c : Char} (member : c ∈ spaces room) : isPrintable c = true := by
  rw [List.eq_of_mem_replicate member]
  rfl

theorem printable_indented {indent : Nat} {encode : Char → List Char} {text : List Char}
    (encoded : ∀ c, isPrintable c = true → ∀ d ∈ encode c, isPrintable d = true)
    (printable : ∀ c ∈ text, isPrintable c = true) (fresh : Bool) :
    ∀ d ∈ indented indent encode fresh text, isPrintable d = true := by
  induction text generalizing fresh with
  | nil => exact fun _ member => nomatch member
  | cons c text ih =>
    obtain ⟨here, others⟩ := List.forall_mem_cons.mp printable
    intro d member
    rw [indented] at member
    split_ifs at member
    · rcases List.mem_cons.mp member with rfl | later
      · exact here
      · exact ih others true d later
    all_goals
      simp only [List.mem_append, List.not_mem_nil, false_or] at member
    · rcases member with (margin | now) | later
      · exact printable_spaces margin
      · exact encoded c here d now
      · exact ih others false d later
    · rcases member with now | later
      · exact encoded c here d now
      · exact ih others false d later

theorem printable_literalHeader (text : List Char) : ∀ d ∈ literalHeader text, isPrintable d = true := by
  have some : ∀ d ∈ literalHeader text, d ∈ ['2', '-', '+'] := by
    intro d member
    rcases List.mem_append.mp member with digit | sign
    · split_ifs at digit
      · rw [List.mem_singleton.mp digit]
        decide
      · exact nomatch digit
    · split at sign
      · split_ifs at sign
        · rw [List.mem_singleton.mp sign]
          decide
        · rw [List.mem_singleton.mp sign]
          decide
        · exact nomatch sign
      · rw [List.mem_singleton.mp sign]
        decide
  have all : ∀ d ∈ ['2', '-', '+'], isPrintable d = true := List.all_eq_true.mp (by decide)
  exact fun d member => all d (some d member)

theorem printable_doubleQuote (c : Char) (printable : isPrintable c = true) :
    ∀ d ∈ doubleQuote c, isPrintable d = true := by
  rw [doubleQuote]
  split_ifs
  · exact List.all_eq_true.mp (by decide)
  · simpa using printable

theorem printable_upperHexDigits (width number : Nat) :
    ∀ d ∈ upperHexDigits width number, isPrintable d = true := by
  have all : ∀ digit < 16, isPrintable (upperHex digit) = true := by decide
  induction width generalizing number with
  | zero => exact fun _ member => nomatch member
  | succ width ih =>
    intro d member
    rcases List.mem_append.mp member with high | low
    · exact ih _ d high
    · rw [List.mem_singleton.mp low]
      exact all _ (Nat.mod_lt _ (by decide))

theorem printable_doubleQuotedChar (c : Char) : ∀ d ∈ doubleQuotedChar c, isPrintable d = true := by
  intro d member
  rw [doubleQuotedChar] at member
  split_ifs at member with coded
  · rcases List.mem_cons.mp member with rfl | behind
    · rfl
    · rcases escapeOf_cases c with ⟨name, shape, -, printable, -⟩ | ⟨mark, width, shape, -, -, printable, -⟩
      · rw [shape, List.mem_singleton] at behind
        rwa [behind]
      · rw [shape, List.mem_cons] at behind
        rcases behind with rfl | digit
        · exact printable
        · exact printable_upperHexDigits _ _ d digit
  · rw [List.mem_singleton.mp member]
    simp only [Bool.or_eq_true, Bool.not_eq_true', not_or, Bool.not_eq_false] at coded
    exact coded.1.1.1

/-- Whatever the text is, what is written for it can be read. -/
theorem printable_scalar (indent : Nat) (text : String) :
    ∀ d ∈ scalar indent text, isPrintable d = true := by
  have double : ∀ d ∈ doubleQuoted text.toList, isPrintable d = true := by
    intro d member
    simp only [doubleQuoted, List.cons_append, List.mem_cons, List.mem_append, List.mem_flatMap,
      List.not_mem_nil, or_false] at member
    rcases member with rfl | ⟨c, -, coded⟩ | rfl
    · rfl
    · exact printable_doubleQuotedChar c d coded
    · rfl
  unfold scalar
  dsimp only
  split_ifs with feeds literal plain single
  · simp only [literalAllowed, Bool.and_eq_true, List.all_eq_true] at literal
    intro d member
    simp only [literalBlock, List.mem_cons, List.mem_append, List.cons_append] at member
    rcases member with rfl | header | rfl | line
    · rfl
    · exact printable_literalHeader _ d header
    · rfl
    · exact printable_indented (fun c printable => by simpa using printable) literal.1.1 true d line
  · exact double
  · rw [Bool.and_eq_true] at plain
    exact fun d member => ((bare_of_plainAllowed plain.2).ordinary d member).1
  · simp only [singleAllowed, Bool.and_eq_true, List.all_eq_true] at single
    intro d member
    simp only [singleQuoted, List.mem_cons, List.mem_append, List.cons_append, List.not_mem_nil,
      or_false] at member
    rcases member with rfl | (inner | margin) | rfl
    · rfl
    · exact printable_indented printable_doubleQuote single.1.1 false d inner
    · split_ifs at margin
      · exact printable_spaces margin
      · exact nomatch margin
    · rfl
  · exact double

end Printable

end Voiceover.Yaml
