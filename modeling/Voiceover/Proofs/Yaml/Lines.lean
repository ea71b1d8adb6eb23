import Mathlib.Tactic.SplitIfs
import Voiceover.Proofs.Yaml.Block
import Voiceover.Yaml.Token.Stream

/-! From lines to tokens. Every line of a block mapping is a key, and a scalar behind it or a deeper
block on the lines below. Between two lines the stream waits at the margin of the next one, and no
key is pending. -/

namespace Voiceover.Yaml

def StartsLine (text : List Char) : Prop :=
  ∀ c ∈ text.head?, isBlank c = false ∧ isBreak c = false ∧ c ≠ '#' ∧ c ≠ byteOrderMark

theorem startsLine_of_bare {text : List Char} (filled : text ≠ []) (bare : Bare text) (rest : List Char) :
    StartsLine (text ++ rest) := by
  obtain ⟨c, others, rfl⟩ := List.exists_cons_of_ne_nil filled
  intro d head
  obtain rfl : c = d := by simpa using head
  obtain ⟨solid, leading, -⟩ := bare.opening c others rfl
  obtain ⟨printable, whole⟩ := bare.ordinary c List.mem_cons_self
  exact ⟨solid, whole, fun same => absurd (same ▸ leading) (by decide),
    fun same => absurd (same ▸ printable) (by decide)⟩

namespace Lexing

variable {lexing : Lexing} {cursor : Cursor} {tokens : List Token} {indent : Int} {outer : List Int}
  {column margin : Nat} {key text rest next after : List Char}

section Passing

theorem skipToToken_spaces {room : Nat} (reads : lexing.cursor.rest = spaces room ++ next)
    (starts : StartsLine next) (fuel : Nat) :
    lexing.skipToToken (fuel + 1) = { lexing with cursor := lexing.cursor.skip room } := by
  have unmarked : (lexing.cursor.rest.head? = some byteOrderMark) = False := by
    refine eq_false fun marked => ?_
    rw [reads] at marked
    cases room with
    | zero => exact (starts byteOrderMark marked).2.2.2 rfl
    | succ room => exact absurd (Option.some.inj marked) (by decide)
  have passed : lexing.cursor.skipWhile (fun c => c = ' ' ||
      ((lexing.inFlow || !lexing.keyAllowed) && c = '\t')) = lexing.cursor.skip room := by
    have length : (spaces room).length = room := List.length_replicate
    refine (Cursor.skipWhile_eq_skip reads (fun c member => ?_) fun c head => ?_).trans (by rw [length])
    · simp [List.eq_of_mem_replicate member]
    · have solid := (starts c head).1
      simp only [isBlank, Bool.or_eq_false_iff] at solid
      simp [solid]
  have left : (lexing.cursor.skip room).rest = next := (Cursor.skip_spaces reads).1
  have uncommented : (next.head? = some '#') = False :=
    eq_false fun comment => (starts '#' comment).2.2.1 rfl
  rw [skipToToken]
  simp only [unmarked, decide_false, Bool.and_false, Bool.false_eq_true, if_false, passed, left,
    uncommented]
  cases next with
  | nil => rfl
  | cons c next => exact if_neg (by simp [(starts c rfl).2.1])

theorem skipToToken_break (reads : lexing.cursor.rest = '\n' :: rest) (fuel : Nat) :
    lexing.skipToToken (fuel + 1) = skipToToken fuel { lexing with
      cursor := lexing.cursor.next, keyAllowed := lexing.keyAllowed || !lexing.inFlow } := by
  have stays : lexing.cursor.skipWhile (fun c => c = ' ' ||
      ((lexing.inFlow || !lexing.keyAllowed) && c = '\t')) = lexing.cursor :=
    Cursor.skipWhile_stay (by simp [reads])
  have unmarked : (lexing.cursor.rest.head? = some byteOrderMark) = False := by
    simp [reads, byteOrderMark]
  have uncommented : (lexing.cursor.rest.head? = some '#') = False := by simp [reads]
  rw [skipToToken]
  simp only [unmarked, decide_false, Bool.and_false, Bool.false_eq_true, if_false, stays, uncommented]
  rw [reads]
  rfl

def Awaits (lexing : Lexing) (tokens : List Token) (indent : Int) (outer : List Int) (column : Nat)
    (rest : List Char) : Prop :=
  ∃ cursor, lexing.skipToToken (lexing.cursor.rest.length + 1) =
      ⟨cursor, tokens, indent, outer, true, none, []⟩ ∧ cursor.rest = rest ∧ cursor.column = column

theorem awaits_line (starts : StartsLine next) (reads : cursor.rest = next)
    (place : cursor.column = margin) :
    Awaits ⟨cursor, tokens, indent, outer, true, none, []⟩ tokens indent outer margin next :=
  ⟨cursor, @skipToToken_spaces ⟨cursor, tokens, indent, outer, true, none, []⟩ _ 0 reads starts _, reads,
    place⟩

theorem awaits_start (starts : StartsLine text) : (start text).Awaits [] (-1) [] 0 text :=
  awaits_line starts rfl rfl

theorem awaits_break (keyAllowed : Bool) (starts : StartsLine next)
    (reads : cursor.rest = '\n' :: (spaces margin ++ next)) :
    Awaits ⟨cursor, tokens, indent, outer, keyAllowed, none, []⟩ tokens indent outer margin next := by
  have start := Cursor.next_break reads rfl
  have read : cursor.next.rest = spaces margin ++ next := by rw [start]
  obtain ⟨left, place⟩ := Cursor.skip_spaces read
  refine ⟨cursor.next.skip margin, ?_, left, place.trans (by rw [start]; exact Nat.zero_add _)⟩
  change skipToToken (cursor.rest.length + 1) _ = _
  rw [skipToToken_break reads, reads, List.length_cons, skipToToken_spaces read starts]
  simp [inFlow]

end Passing

def Reaches (count : Nat) (lexing later : Lexing) : Prop :=
  ∀ fuel, run (fuel + count) lexing = run fuel later

theorem Reaches.trans {first second : Nat} {middle later : Lexing} (before : Reaches first lexing middle)
    (behind : Reaches second middle later) : Reaches (second + first) lexing later := fun fuel => by
  rw [← Nat.add_assoc, before, behind]

section Steps

theorem closeBlocksTo_deep (flat : lexing.around = []) {column : Int} (deep : lexing.indent ≤ column) :
    lexing.closeBlocksTo column = lexing := by
  rw [closeBlocksTo, if_neg (by simp [inFlow, flat])]
  cases lexing.outer with
  | nil => rfl
  | cons indent outer => exact if_neg (Int.not_lt.mpr deep)

/-- One token is fetched, when no block ends before it. -/
theorem run_fetch {skipped : Lexing} {c : Char}
    (skips : lexing.skipToToken (lexing.cursor.rest.length + 1) = skipped)
    (fresh : skipped.dropStaleKeys = .ok skipped) (reads : skipped.cursor.rest = c :: rest)
    (flat : skipped.around = []) (deep : skipped.indent ≤ skipped.cursor.column) (fuel : Nat) :
    run (fuel + 1) lexing = skipped.fetch c rest >>= run fuel := by
  rw [run, skips]
  simp only [fresh, bind, Except.bind]
  rw [reads, closeBlocksTo_deep flat deep]

theorem noMark_of_inLine {mark : List Char} (isMark : mark = startMark ∨ mark = endMark)
    (inLine : cursor.column ≠ 0 ∨ startsWithMark cursor.rest = false) :
    (decide (cursor.column = 0) && mark.isPrefixOf cursor.rest && endsWord (cursor.rest.drop 3)) = false := by
  rcases inLine with inside | unmarked
  · simp [inside]
  · simp only [startsWithMark, Bool.and_eq_false_iff, Bool.or_eq_false_iff] at unmarked
    simp only [Bool.and_eq_false_iff]
    rcases unmarked with ⟨noStart, noEnd⟩ | longer
    · rcases isMark with rfl | rfl
      · exact .inl (.inr noStart)
      · exact .inl (.inr noEnd)
    · exact .inr longer

theorem fetch_plain {c : Char} (reads : lexing.cursor.rest = c :: rest) (flat : lexing.around = [])
    (inLine : lexing.cursor.column ≠ 0 ∨ startsWithMark lexing.cursor.rest = false)
    (solid : isBlank c = false ∧ isBreak c = false) (leading : isLeadingIndicator c = false)
    (marked : ((c = '?' || c = ':' || c = '-') && endsWord rest) = false) :
    lexing.fetch c rest = lexing.fetchPlain := by
  have noStart := noMark_of_inLine (.inl rfl) inLine
  have noEnd := noMark_of_inLine (.inr rfl) inLine
  have word : c = '?' ∨ c = ':' ∨ c = '-' → endsWord rest = false := fun mark => by
    simpa [or_assoc.mpr mark] using marked
  simp only [isLeadingIndicator, String.reduceToList, List.contains_cons, Bool.or_eq_false_iff,
    beq_eq_false_iff_ne] at leading
  have starts : startsPlain false (c :: rest) = true := by
    rw [startsPlain]
    by_cases dash : c = '-'
    · rw [if_pos dash]
      have solid := word (.inr (.inr dash))
      cases rest with
      | nil => rfl
      | cons d rest =>
        rw [endsWord, Bool.or_eq_false_iff] at solid
        simp [solid.1]
    · rw [if_neg dash]
      by_cases mark : c = '?' ∨ c = ':'
      · have solid := word (mark.imp_right .inl)
        simp [mark, solid]
      · simp [mark, endsWord, solid, leading]
  have chain : lexing.fetch c rest =
      if c = '-' ∧ endsWord rest = true then lexing.fetchBlockEntry
      else if c = '?' ∧ endsWord rest = true then lexing.fetchKey
      else if c = ':' ∧ endsWord rest = true then lexing.fetchValue
      else if startsPlain false lexing.cursor.rest = true then lexing.fetchPlain
      else throw .unexpectedCharacter := by
    simp [fetch, noStart, noEnd, inFlow, flat, leading]
  rw [chain, if_neg fun both => by simp [word (.inr (.inr both.1))] at both,
    if_neg fun both => by simp [word (.inl both.1)] at both,
    if_neg fun both => by simp [word (.inr (.inl both.1))] at both, reads, if_pos starts]

theorem run_plain {skipped : Lexing}
    (skips : lexing.skipToToken (lexing.cursor.rest.length + 1) = skipped)
    (fresh : skipped.dropStaleKeys = .ok skipped) (reads : skipped.cursor.rest = text ++ rest)
    (flat : skipped.around = []) (deep : skipped.indent ≤ skipped.cursor.column) (filled : text ≠ [])
    (bare : Bare text) (inLine : skipped.cursor.column ≠ 0 ∨ startsWithMark skipped.cursor.rest = false)
    (fuel : Nat) :
    run (fuel + 1) lexing = skipped.fetchPlain >>= run fuel := by
  obtain ⟨c, others, rfl⟩ := List.exists_cons_of_ne_nil filled
  obtain ⟨solid, leading, -⟩ := bare.opening c others rfl
  have whole := (bare.ordinary c List.mem_cons_self).2
  rw [List.cons_append] at reads
  rw [run_fetch skips fresh reads flat deep,
    fetch_plain reads flat inLine ⟨solid, whole⟩ leading (bare.unmarked rest)]

theorem fetch_colon (inLine : lexing.cursor.column ≠ 0) (ends : endsWord rest = true) :
    lexing.fetch ':' rest = lexing.fetchValue := by
  have noStart := noMark_of_inLine (.inl rfl) (.inl inLine)
  have noEnd := noMark_of_inLine (.inr rfl) (.inl inLine)
  simp [fetch, noStart, noEnd, ends]

structure KeyName (key : List Char) : Prop where
  bare : Bare key
  short : (key.map Char.utf8Size).sum ≤ keyLimit
  /-- No document mark starts like it. -/
  opening : ∃ c others, key = c :: others ∧ c ≠ '-' ∧ c ≠ '.'

theorem KeyName.filled (name : KeyName key) : key ≠ [] := by
  obtain ⟨c, others, rfl, -⟩ := name.opening
  exact List.cons_ne_nil c others

theorem KeyName.unmarked (name : KeyName key) (rest : List Char) : startsWithMark (key ++ rest) = false := by
  obtain ⟨c, others, rfl, noDash, noDot⟩ := name.opening
  simp [startsWithMark, startMark, endMark, Ne.symm noDash, Ne.symm noDot]

theorem KeyName.startsLine (name : KeyName key) (rest : List Char) : StartsLine (key ++ rest) :=
  startsLine_of_bare name.filled name.bare rest

inductive Opens (level : Nat) : Int → List Int → List Token → List Int → List Token → Prop
  | same (outer : List Int) (tokens : List Token) : Opens level level outer tokens outer tokens
  | deeper {indent : Int} (deep : indent < level) (outer : List Int) (tokens : List Token) :
      Opens level indent outer tokens (indent :: outer) (.blockMappingStart :: tokens)

/-- A key and its colon are read where a line is awaited, and a block opens if the line is deeper. -/
theorem run_key {key : String} {outer' : List Int} {tokens' : List Token}
    (awaits : Awaits lexing tokens indent outer column (key.toList ++ ':' :: after))
    (name : KeyName key.toList)
    (opens : Opens column indent outer tokens outer' tokens') (ends : endsWord after = true) :
    ∃ cursor, cursor.rest = after ∧ column < cursor.column ∧ Reaches 2 lexing
      ⟨cursor, .value :: .scalar .plain key :: .key :: tokens', column, outer', false, none, []⟩ := by
  rw [← @String.ofList_toList key]
  generalize key.toList = key at awaits name
  obtain ⟨cursor, skips, reads, rfl⟩ := awaits
  have deep : indent ≤ cursor.column := by
    cases opens with
    | same => exact Int.le_refl _
    | deeper deep => exact Int.le_of_lt deep
  have filled := name.filled
  have unmarked := name.unmarked (':' :: after)
  obtain ⟨bare, short, -⟩ := name
  have passed := Cursor.skip_words reads fun c member => (bare.ordinary c member).2
  generalize colonAt : cursor.skip key.length = colon at passed
  have colonRest : colon.rest = ':' :: after := by rw [passed]
  have inside : colon.column ≠ 0 := by
    have := List.length_pos_iff.mpr filled
    rw [passed]
    dsimp only
    omega
  have deeper : indent ≤ colon.column := by
    rw [passed]
    dsimp only
    omega
  -- The key is a plain scalar that may be a key, and the colon makes it one.
  let pending : PossibleKey := ⟨tokens, cursor.index, cursor.line, cursor.column, indent = cursor.column⟩
  let word : Lexing := ⟨colon, .scalar .plain (String.ofList key) :: tokens, indent, outer,
    false, some pending, []⟩
  have wordRead : fetchPlain ⟨cursor, tokens, indent, outer, true, none, []⟩ = .ok word := by
    have scanned : scanPlain false (indent + 1).toNat cursor.column [] .none (key ++ ':' :: after) =
        .ok (key, false, ':' :: after) := scanPlain_key (.inr unmarked) bare ends
    have goes := Cursor.goTo_eq_skip reads
    simp only [fetchPlain, rememberKey, forgetKey, dropKey, inFlow, bind, Except.bind]
    simp [reads, scanned, goes, colonAt, emit, word, pending, pure, Except.pure]
  have skipped : word.skipToToken (word.cursor.rest.length + 1) = word := by
    refine @skipToToken_spaces word _ 0 colonRest (fun c head => ?_) _
    obtain rfl : ':' = c := by simpa using head
    decide
  have kept : word.dropStaleKeys = .ok word := by
    have sameLine : ¬ cursor.line < colon.line := by simp [passed]
    have near : ¬ cursor.index + keyLimit < colon.index := by
      rw [passed]
      dsimp only
      omega
    simp [dropStaleKeys, dropStale, word, pending, sameLine, near, bind, Except.bind, pure, Except.pure]
  have step : colon.next = ⟨after, colon.index + 1, colon.line, colon.column + 1⟩ := by
    rw [Cursor.next, colonRest]
    rfl
  have valued : word.fetchValue = .ok ⟨colon.next,
      .value :: .scalar .plain (String.ofList key) :: .key :: tokens', cursor.column, outer', false, none,
      []⟩ := by
    cases opens with
    | same => simp [fetchValue, word, pending, openBlock, opensBlock, inFlow, pure, Except.pure]
    | deeper deep => simp [fetchValue, word, pending, openBlock, opensBlock, inFlow, emit, deep, pure, Except.pure]
  have onward : cursor.column < colon.next.column := by
    rw [step, passed]
    dsimp only
    omega
  refine ⟨colon.next, by rw [step], onward, fun fuel => ?_⟩
  rw [run_plain skips rfl reads rfl deep filled bare (.inr (reads ▸ unmarked)), wordRead]
  change run (fuel + 1) word = _
  rw [run_fetch skipped kept colonRest rfl deeper, fetch_colon inside ends, valued]
  rfl

end Steps

section Values

variable {level : Nat}

/-- A value stands behind its key and a space. -/
theorem skipToToken_value (reads : cursor.rest = ' ' :: rest) (starts : StartsLine rest)
    (inside : level < cursor.column) :
    ∃ place, place.rest = rest ∧ level < place.column ∧ ∀ fuel,
      skipToToken (fuel + 1) ⟨cursor, tokens, level, outer, false, none, []⟩ =
        ⟨place, tokens, level, outer, false, none, []⟩ := by
  obtain ⟨left, column⟩ := Cursor.skip_spaces (show cursor.rest = spaces 1 ++ rest from reads)
  refine ⟨cursor.skip 1, left, by omega, fun fuel => ?_⟩
  exact @skipToToken_spaces ⟨cursor, tokens, level, outer, false, none, []⟩ rest 1 reads starts fuel

theorem run_plainValue (filled : text ≠ []) (bare : Bare text) (inside : level < cursor.column)
    (reads : cursor.rest = ' ' :: (text ++ '\n' :: (spaces margin ++ next))) (shallow : margin ≤ level)
    (starts : StartsLine next) :
    ∃ lexing, Awaits lexing (.scalar .plain (String.ofList text) :: tokens) level outer margin next ∧
      Reaches 1 ⟨cursor, tokens, level, outer, false, none, []⟩ lexing := by
  obtain ⟨place, left, inside, skips⟩ :=
    skipToToken_value reads (startsLine_of_bare filled bare _) inside
  have split : text ++ '\n' :: (spaces margin ++ next) = (text ++ '\n' :: spaces margin) ++ next := by simp
  have goes := Cursor.goTo_eq_skip (left.trans split)
  obtain ⟨passed, column⟩ := Cursor.skip_line rfl left
  have length : (text ++ '\n' :: spaces margin).length = text.length + (1 + margin) := by
    simp [spaces, Nat.add_comm]
  rw [length] at goes
  refine ⟨_, awaits_line starts passed column, fun fuel => ?_⟩
  have scanned : scanPlain false (level + 1) place.column [] .none
      (text ++ '\n' :: (spaces margin ++ next)) = .ok (text, true, next) :=
    scanPlain_line (by omega) bare (by omega) fun c head => ⟨(starts c head).1, (starts c head).2.1⟩
  rw [run_plain (skips _) rfl left rfl (Int.ofNat_le.mpr (Nat.le_of_lt inside)) filled bare
    (.inl (Nat.ne_zero_of_lt inside))]
  simp [fetchPlain, rememberKey, inFlow, left, scanned, goes, emit, bind, Except.bind, pure, Except.pure]

/-- A value that stands in quotes. -/
theorem run_quotedValue (scan : Cursor → Except Problem (Token × Cursor)) {quote : Char}
    {style : ScalarStyle} {body : List Char} (inside : level < cursor.column)
    (reads : cursor.rest = ' ' :: (quote :: (body ++ [quote]) ++ '\n' :: (spaces margin ++ next)))
    (starts : StartsLine next) (opens : StartsLine [quote])
    (fetched : ∀ lexing : Lexing, ∀ rest, lexing.cursor.column ≠ 0 →
      lexing.fetch quote rest = lexing.fetchWord scan)
    (scanned : ∀ place : Cursor,
      place.rest = quote :: (body ++ [quote]) ++ '\n' :: (spaces margin ++ next) →
      scan place = .ok (.scalar style (String.ofList text), place.goTo ('\n' :: (spaces margin ++ next)))) :
    ∃ lexing, Awaits lexing (.scalar style (String.ofList text) :: tokens) level outer margin next ∧
      Reaches 1 ⟨cursor, tokens, level, outer, false, none, []⟩ lexing := by
  obtain ⟨place, left, inside, skips⟩ := skipToToken_value reads opens inside
  have behind : (place.goTo ('\n' :: (spaces margin ++ next))).rest = '\n' :: (spaces margin ++ next) := by
    rw [Cursor.goTo_eq_skip left, Cursor.rest_skip, left, List.drop_left]
  refine ⟨_, awaits_break false starts behind, fun fuel => ?_⟩
  rw [run_fetch (skips _) rfl left rfl (Int.ofNat_le.mpr (Nat.le_of_lt inside)),
    fetched _ _ (Nat.ne_zero_of_lt inside)]
  simp [fetchWord, rememberKey, scanned place left, emit, bind, Except.bind, pure, Except.pure]

theorem run_singleQuotedValue (single : singleAllowed text = true) (noFeed : '\n' ∉ text)
    (inside : level < cursor.column)
    (reads : cursor.rest = ' ' :: (Yaml.singleQuoted (level + 2) text ++ '\n' :: (spaces margin ++ next)))
    (starts : StartsLine next) :
    ∃ lexing, Awaits lexing (.scalar .singleQuoted (String.ofList text) :: tokens) level outer margin next ∧
      Reaches 1 ⟨cursor, tokens, level, outer, false, none, []⟩ lexing := by
  obtain ⟨body, shape, scanned⟩ := exists_singleQuoted single noFeed (Nat.succ_pos (level + 1))
  rw [shape] at reads
  refine run_quotedValue singleQuoted inside reads starts ?_ (fun lexing rest inLine => ?_)
    fun place left => ?_
  · intro c head
    obtain rfl : '\'' = c := by simpa using head
    decide
  · have noStart := noMark_of_inLine (.inl rfl) (.inl inLine)
    have noEnd := noMark_of_inLine (.inr rfl) (.inl inLine)
    simp [fetch, noStart, noEnd]
  · have tail : place.next.rest = body ++ '\'' :: '\n' :: (spaces margin ++ next) := by
      rw [Cursor.rest_next, left]
      simp
    simp [singleQuoted, tail, scanned, bind, Except.bind, pure, Except.pure]

theorem run_doubleQuotedValue (inside : level < cursor.column)
    (reads : cursor.rest = ' ' :: (Yaml.doubleQuoted text ++ '\n' :: (spaces margin ++ next)))
    (starts : StartsLine next) :
    ∃ lexing, Awaits lexing (.scalar .doubleQuoted (String.ofList text) :: tokens) level outer margin next ∧
      Reaches 1 ⟨cursor, tokens, level, outer, false, none, []⟩ lexing := by
  refine run_quotedValue doubleQuoted inside reads starts ?_ (fun lexing rest inLine => ?_)
    fun place left => ?_
  · intro c head
    obtain rfl : '"' = c := by simpa using head
    decide
  · have noStart := noMark_of_inLine (.inl rfl) (.inl inLine)
    have noEnd := noMark_of_inLine (.inr rfl) (.inl inLine)
    simp [fetch, noStart, noEnd]
  · have tail : place.next.rest = text.flatMap doubleQuotedChar ++ '"' :: '\n' :: (spaces margin ++ next) := by
      rw [Cursor.rest_next, left]
      simp
    have scanned : scanDouble .text (place.column + 1) [] .none (text.flatMap doubleQuotedChar ++
        '"' :: '\n' :: (spaces margin ++ next)) = .ok (text, '\n' :: (spaces margin ++ next)) :=
      scanDouble_written [] [] (Nat.succ_ne_zero _)
    simp [doubleQuoted, tail, scanned, bind, Except.bind, pure, Except.pure]

theorem run_literalValue (printable : ∀ c ∈ text, isPrintable c = true) (filled : text ≠ [])
    (inside : level < cursor.column) (shallow : margin ≤ level)
    (reads : cursor.rest = ' ' :: '|' :: (literalHeader text ++ '\n' ::
      (blockText (level + 2) (text ++ closing text) ++ (spaces margin ++ next))))
    (starts : StartsLine next) :
    ∃ lexing, Awaits lexing (.scalar .literal (String.ofList text) :: tokens) level outer margin next ∧
      Reaches 1 ⟨cursor, tokens, level, outer, false, none, []⟩ lexing := by
  have opens (rest : List Char) : StartsLine ('|' :: rest) := by
    intro c head
    obtain rfl : '|' = c := by simpa using head
    decide
  obtain ⟨place, left, inside, skips⟩ := skipToToken_value reads (opens _) inside
  have tail := (Cursor.rest_next place).trans (congrArg List.tail left)
  obtain ⟨after, scanned, passed, column⟩ := scanBlock_literal printable filled shallow
    (fun c head => ⟨(starts c head).1, (starts c head).2.1⟩) tail
  refine ⟨_, awaits_line starts passed column, fun fuel => ?_⟩
  have noStart := noMark_of_inLine (.inl rfl) (.inl (Nat.ne_zero_of_lt inside))
  have noEnd := noMark_of_inLine (.inr rfl) (.inl (Nat.ne_zero_of_lt inside))
  rw [run_fetch (skips _) rfl left rfl (Int.ofNat_le.mpr (Nat.le_of_lt inside))]
  simp [fetch, noStart, noEnd, fetchBlockScalar, forgetKey, dropKey, inFlow, scanned, emit, bind,
    Except.bind, pure, Except.pure]

end Values

section Lines

variable {level : Nat} {outer' : List Int} {tokens' : List Token}

theorem run_textValue (text : String) (inside : level < cursor.column) (shallow : margin ≤ level)
    (reads : cursor.rest = ' ' :: (scalar (level + 2) text ++ closing (scalar (level + 2) text) ++
      (spaces margin ++ next)))
    (starts : StartsLine next) :
    ∃ style lexing, Awaits lexing (.scalar style text :: tokens) level outer margin next ∧
      Reaches 1 ⟨cursor, tokens, level, outer, false, none, []⟩ lexing := by
  have same : String.ofList text.toList = text := String.ofList_toList
  rw [← same]
  unfold scalar at reads
  dsimp only at reads
  have double (reads : cursor.rest = ' ' :: (Yaml.doubleQuoted text.toList ++
      closing (Yaml.doubleQuoted text.toList) ++ (spaces margin ++ next))) :
      ∃ style lexing, Awaits lexing (.scalar style (String.ofList text.toList) :: tokens) level outer margin next ∧
        Reaches 1 ⟨cursor, tokens, level, outer, false, none, []⟩ lexing := by
    rw [Yaml.doubleQuoted, closing_concat rfl] at reads
    exact ⟨_, run_doubleQuotedValue inside (by simpa [Yaml.doubleQuoted] using reads) starts⟩
  split_ifs at reads with feeds literal plain single
  · have filled : text.toList ≠ [] := fun none => by simp [none] at feeds
    simp only [literalAllowed, Bool.and_eq_true, List.all_eq_true] at literal
    rw [literalBlock_closed filled] at reads
    exact ⟨_, run_literalValue literal.1.1 filled inside shallow (by simpa using reads) starts⟩
  · exact double reads
  · rw [Bool.and_eq_true] at plain
    have bare := bare_of_plainAllowed plain.2
    have filled : text.toList ≠ [] := fun none => by
      have empty : text = "" := String.toList_eq_nil_iff.mp none
      rw [empty] at plain
      exact absurd plain.1 (by decide)
    obtain ⟨start, last, shape⟩ := (List.eq_nil_or_concat' text.toList).resolve_left filled
    have whole := (bare.ordinary last (by simp [shape])).2
    rw [shape, closing_concat whole, ← shape] at reads
    exact ⟨_, run_plainValue filled bare inside (by simpa using reads) shallow starts⟩
  · rw [Yaml.singleQuoted, closing_concat rfl] at reads
    exact ⟨_, run_singleQuotedValue single (by simpa using feeds) inside
      (by simpa [Yaml.singleQuoted] using reads) starts⟩
  · exact double reads

/-- The line of a key and a text is read where it is awaited, and then the next line is. -/
theorem run_textLine {key text : String}
    (awaits : Awaits lexing tokens indent outer level
      (key.toList ++ ':' :: ' ' :: (scalar (level + 2) text ++ closing (scalar (level + 2) text) ++
        (spaces margin ++ next))))
    (name : KeyName key.toList) (opens : Opens level indent outer tokens outer' tokens')
    (shallow : margin ≤ level) (starts : StartsLine next) :
    ∃ style later, Reaches 3 lexing later ∧
      Awaits later (.scalar style text :: .value :: .scalar .plain key :: .key :: tokens') level outer'
        margin next := by
  obtain ⟨cursor, reads, inside, key⟩ := run_key awaits name opens rfl
  obtain ⟨style, later, awaits, value⟩ := run_textValue text inside shallow reads starts
  exact ⟨style, later, key.trans value, awaits⟩

/-- The line of a key and a word that needs no quotes. -/
theorem run_plainLine {key word : String}
    (awaits : Awaits lexing tokens indent outer level
      (key.toList ++ ':' :: ' ' :: (word.toList ++ '\n' :: (spaces margin ++ next))))
    (name : KeyName key.toList) (filled : word.toList ≠ []) (bare : Bare word.toList)
    (opens : Opens level indent outer tokens outer' tokens') (shallow : margin ≤ level)
    (starts : StartsLine next) :
    ∃ later, Reaches 3 lexing later ∧
      Awaits later (.scalar .plain word :: .value :: .scalar .plain key :: .key :: tokens') level outer'
        margin next := by
  obtain ⟨cursor, reads, inside, key⟩ := run_key awaits name opens rfl
  obtain ⟨later, awaits, value⟩ := run_plainValue filled bare inside reads shallow starts
  rw [String.ofList_toList] at awaits
  exact ⟨later, key.trans value, awaits⟩

/-- A key without a value on its line is read, and then the line below is awaited. -/
theorem run_headLine {key : String}
    (awaits : Awaits lexing tokens indent outer level
      (key.toList ++ ':' :: '\n' :: (spaces margin ++ next)))
    (name : KeyName key.toList) (opens : Opens level indent outer tokens outer' tokens')
    (starts : StartsLine next) :
    ∃ later, Reaches 2 lexing later ∧
      Awaits later (.value :: .scalar .plain key :: .key :: tokens') level outer' margin next := by
  obtain ⟨cursor, reads, -, key⟩ := run_key awaits name opens rfl
  exact ⟨_, key, awaits_break false starts reads⟩

theorem tokens_closeBlocks (nested : ∀ column ∈ (lexing.indent :: outer).take outer.length, 0 ≤ column) :
    (closeBlocks (-1) outer lexing).tokens = List.replicate outer.length .blockEnd ++ lexing.tokens := by
  induction outer generalizing lexing with
  | nil => rfl
  | cons above outer ih =>
    rw [List.length_cons, List.take_succ_cons, List.forall_mem_cons] at nested
    have inside : -1 < lexing.indent := by omega
    rw [closeBlocks, if_pos inside, ih nested.2, List.length_cons, List.replicate_succ', List.append_assoc]
    rfl

theorem possible_closeBlocks (column : Int) (outer : List Int) (lexing : Lexing) :
    (closeBlocks column outer lexing).possible = lexing.possible := by
  induction outer generalizing lexing with
  | nil => rfl
  | cons above outer ih =>
    rw [closeBlocks]
    split_ifs
    · rw [ih]
      rfl
    · rfl

/-- The end of the stream ends the blocks that are open. -/
theorem run_end (awaits : Awaits lexing tokens indent outer 0 [])
    (nested : ∀ column ∈ (indent :: outer).take outer.length, 0 ≤ column) (fuel : Nat) :
    run (fuel + 1) lexing = .ok (tokens.reverse ++ List.replicate outer.length .blockEnd) := by
  obtain ⟨cursor, skips, reads, -⟩ := awaits
  generalize here : (⟨cursor, tokens, indent, outer, true, none, []⟩ : Lexing) = ending at skips
  have fresh : ending.dropStaleKeys = .ok ending := by rw [← here]; rfl
  have left : ending.cursor.rest = [] := by rw [← here]; exact reads
  have closed : ending.closeBlocksTo (-1) = closeBlocks (-1) outer ending := by rw [← here]; rfl
  have noKey : (closeBlocks (-1) outer ending).possible = none := by
    rw [possible_closeBlocks, ← here]
  have ends : (closeBlocks (-1) outer ending).tokens = List.replicate outer.length .blockEnd ++ tokens := by
    rw [tokens_closeBlocks (by rw [← here]; exact nested), ← here]
  rw [run, skips]
  simp only [fresh, bind, Except.bind]
  rw [left]
  simp [endDocument, forgetKey, dropKey, closed, noKey, ends, bind, Except.bind, pure, Except.pure]

end Lines

end Lexing

end Voiceover.Yaml
