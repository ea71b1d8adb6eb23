import Voiceover.Yaml.Cursor

/-! The text of scalars in the five ways of writing them. Plain and quoted scalars fold: a single
line break between words becomes a space, and of several the first is dropped. -/

namespace Voiceover.Yaml

inductive Gap
  /-- Blanks on the line of the word. -/
  | blanks (seen : List Char)
  /-- Line breaks, and blanks that do not count. -/
  | breaks (seen : List Char)
  /-- Line breaks after one that was escaped. -/
  | escaped (seen : List Char)

namespace Gap

def none : Gap := blanks []

def addBlank (c : Char) : Gap → Gap
  | blanks seen => blanks (seen ++ [c])
  | other => other

def addBreak (c : Char) : Gap → Gap
  | blanks _ => breaks [c]
  | breaks seen => breaks (seen ++ [c])
  | escaped seen => escaped (seen ++ [c])

def isEmpty : Gap → Bool
  | blanks seen => seen.isEmpty
  | _ => false

def isBroken : Gap → Bool
  | blanks _ => false
  | _ => true

def text : Gap → List Char
  | blanks seen | escaped seen => seen
  | breaks ['\n'] => [' ']
  | breaks ('\n' :: more) => more
  | breaks seen => seen

end Gap

/-! ### Plain scalars -/

def isFlowIndicator (c : Char) : Bool :=
  c = ',' || c = '[' || c = ']' || c = '{' || c = '}'

/-- Whether a plain scalar ends before this text, which starts with no blank and no break. `indent`
is the least column at which it may go on. -/
def plainEnds (flow : Bool) (indent column : Nat) (gap : Gap) : List Char → Bool
  | [] => true
  | c :: rest =>
      (!flow && gap.isBroken && column < indent) ||
      (column = 0 && startsWithMark (c :: rest)) ||
      (!gap.isEmpty && c = '#') ||
      (c = ':' && endsWord rest) ||
      (flow && isFlowIndicator c)

def isColonInFlow (flow : Bool) : List Char → Bool
  | ':' :: c :: _ => flow && (isFlowIndicator c || c = '?')
  | _ => false

/-- Reads a plain scalar, of which `done` has been read, last character first. Answers its text,
whether a line break follows it, and what is left. -/
def scanPlain (flow : Bool) (indent : Nat) :
    (column : Nat) → (done : List Char) → Gap → List Char →
      Except Problem (List Char × Bool × List Char)
  | _, done, gap, [] => .ok (done.reverse, gap.isBroken, [])
  | column, done, gap, c :: rest =>
      if isBreak c then scanPlain flow indent 0 done (gap.addBreak c) rest
      else if isBlank c then
        if gap.isBroken && column < indent && c = '\t' then .error .tabIndentation
        else scanPlain flow indent (column + 1) done (gap.addBlank c) rest
      else if plainEnds flow indent column gap (c :: rest) then
        .ok (done.reverse, gap.isBroken, c :: rest)
      else if isColonInFlow flow (c :: rest) then .error .colonInFlow
      else scanPlain flow indent (column + 1) (c :: (gap.text.reverse ++ done)) .none rest

/-! ### Quoted scalars -/

def scanSingle : (column : Nat) → (done : List Char) → Gap → List Char →
    Except Problem (List Char × List Char)
  | _, _, _, [] => .error .unclosedQuote
  | column, done, gap, c :: rest =>
      if isBreak c then scanSingle 0 done (gap.addBreak c) rest
      else if isBlank c then scanSingle (column + 1) done (gap.addBlank c) rest
      else if column = 0 && startsWithMark (c :: rest) then .error .markInQuote
      else if c = '\'' then
        match rest with
        | '\'' :: more => scanSingle (column + 2) ('\'' :: (gap.text.reverse ++ done)) .none more
        | _ => .ok ((gap.text.reverse ++ done).reverse, rest)
      else scanSingle (column + 1) (c :: (gap.text.reverse ++ done)) .none rest

def namedEscape : Char → Option Char
  | '0' => some '\x00'
  | 'a' => some '\x07'
  | 'b' => some '\x08'
  | 't' | '\t' => some '\t'
  | 'n' => some '\n'
  | 'v' => some '\x0b'
  | 'f' => some '\x0c'
  | 'r' => some '\r'
  | 'e' => some '\x1b'
  | ' ' => some ' '
  | '"' => some '"'
  | '/' => some '/'
  | '\\' => some '\\'
  | 'N' => some '\u0085'
  | '_' => some '\u00a0'
  | 'L' => some '\u2028'
  | 'P' => some '\u2029'
  | _ => none

def escapeWidth : Char → Option Nat
  | 'x' => some 2
  | 'u' => some 4
  | 'U' => some 8
  | _ => none

def hexValue (c : Char) : Option Nat :=
  if c.isDigit then some (c.toNat - '0'.toNat)
  else if 'a' ≤ c && c ≤ 'f' then some (c.toNat - 'a'.toNat + 10)
  else if 'A' ≤ c && c ≤ 'F' then some (c.toNat - 'A'.toNat + 10)
  else none

inductive QuoteState
  | text
  | escape
  | code (digitsLeft value : Nat)

def scanDouble : QuoteState → (column : Nat) → (done : List Char) → Gap → List Char →
    Except Problem (List Char × List Char)
  | _, _, _, _, [] => .error .unclosedQuote
  | .text, column, done, gap, c :: rest =>
      if isBreak c then scanDouble .text 0 done (gap.addBreak c) rest
      else if isBlank c then scanDouble .text (column + 1) done (gap.addBlank c) rest
      else if column = 0 && startsWithMark (c :: rest) then .error .markInQuote
      else if c = '"' then .ok ((gap.text.reverse ++ done).reverse, rest)
      else if c = '\\' then
        scanDouble .escape (column + 1) (gap.text.reverse ++ done) .none rest
      else scanDouble .text (column + 1) (c :: (gap.text.reverse ++ done)) .none rest
  | .escape, column, done, _, c :: rest =>
      if isBreak c then scanDouble .text 0 done (.escaped []) rest
      else
        match namedEscape c, escapeWidth c with
        | some named, _ => scanDouble .text (column + 1) (named :: done) .none rest
        | none, some width => scanDouble (.code width 0) (column + 1) done .none rest
        | none, none => .error .badEscape
  | .code digitsLeft value, column, done, _, c :: rest =>
      match hexValue c with
      | none => .error .badEscape
      | some digit =>
          let value := 16 * value + digit
          if 1 < digitsLeft then
            scanDouble (.code (digitsLeft - 1) value) (column + 1) done .none rest
          else if value.isValidChar then
            scanDouble .text (column + 1) (Char.ofNat value :: done) .none rest
          else .error .badEscape

/-! ### Block scalars -/

inductive Chomping
  | strip | clip | keep

/-- Reads the indicators behind the one that opens a block scalar: the chomping and the indentation,
in either order and each at most once. An indentation of zero is not given. -/
def blockHeader : List Char → Except Problem (Chomping × Nat × List Char)
  | c :: rest =>
      match chomping? c with
      | some chomping =>
          match rest with
          | digit :: more =>
              if digit.isDigit then (chomping, ·, more) <$> indentation digit
              else .ok (chomping, 0, rest)
          | [] => .ok (chomping, 0, rest)
      | none =>
          if c.isDigit then do
            let indent ← indentation c
            match rest with
            | sign :: more =>
                match chomping? sign with
                | some chomping => return (chomping, indent, more)
                | none => return (.clip, indent, rest)
            | [] => return (.clip, indent, rest)
          else .ok (.clip, 0, c :: rest)
  | [] => .ok (.clip, 0, [])
where
  chomping? : Char → Option Chomping
    | '+' => some .keep
    | '-' => some .strip
    | _ => none
  indentation (digit : Char) : Except Problem Nat :=
    if digit = '0' then .error .badBlockHeader else .ok (digit.toNat - '0'.toNat)

/-- Reads empty lines and the indentation of the line after them. With an indentation of zero any
number of spaces is read, and the answer tells how far they went at most. -/
def blockBreaks (indent : Nat) :
    (fuel : Nat) → (widest : Nat) → (breaks : List Char) → Cursor →
      Except Problem (Nat × List Char × Cursor)
  | 0, widest, breaks, cursor => .ok (widest, breaks, cursor)
  | fuel + 1, widest, breaks, cursor =>
      let spaces := (cursor.rest.takeWhile (· = ' ')).length
      let read := if indent = 0 then spaces else min spaces (indent - cursor.column)
      let cursor := cursor.skip read
      let widest := max widest cursor.column
      match cursor.rest with
      | [] => .ok (widest, breaks, cursor)
      | c :: _ =>
          if (indent = 0 || cursor.column < indent) && c = '\t' then .error .tabIndentation
          else if isBreak c then blockBreaks indent fuel widest (breaks ++ [c]) cursor.next
          else .ok (widest, breaks, cursor)

/-- Reads the lines of a block scalar. `done` is its text so far, `lineEnd` the break behind the
last line, `empty` the empty lines after that, and `startsBlank` whether the last line started with
a blank, which keeps its ends from being folded. -/
def blockLines (literal : Bool) (chomping : Chomping) (indent : Nat) :
    (fuel : Nat) → (done lineEnd empty : List Char) → (startsBlank : Bool) → Cursor →
      Except Problem (List Char × Cursor)
  | 0, done, _, _, _, cursor => .ok (done, cursor)
  | fuel + 1, done, lineEnd, empty, startsBlank, cursor =>
      match cursor.rest with
      | c :: _ =>
          if cursor.column = indent then do
            let folds := !literal && lineEnd = ['\n'] && !startsBlank && !isBlank c
            let joint :=
              if folds then (if empty.isEmpty then [' '] else []) else lineEnd
            let line := cursor.rest.takeWhile fun c => !isBreak c
            let atEnd := cursor.skipLineRest
            let (_, empty', after) ← blockBreaks indent (atEnd.rest.length + 1) 0 [] atEnd.next
            blockLines literal chomping indent fuel (done ++ joint ++ empty ++ line)
              (atEnd.rest.take 1) empty' (isBlank c) after
          else finish done lineEnd empty cursor
      | [] => finish done lineEnd empty cursor
where
  finish (done lineEnd empty : List Char) (cursor : Cursor) :
      Except Problem (List Char × Cursor) :=
    match chomping with
    | .strip => .ok (done, cursor)
    | .clip => .ok (done ++ lineEnd, cursor)
    | .keep => .ok (done ++ lineEnd ++ empty, cursor)

def scanBlock (literal : Bool) (parent : Int) (cursor : Cursor) :
    Except Problem (List Char × Cursor) := do
  let (chomping, given, rest) ← blockHeader cursor.rest
  let cursor := (cursor.goTo rest).skipWhile isBlank
  let cursor := if cursor.rest.head? = some '#' then cursor.skipLineRest else cursor
  if !cursor.rest.isEmpty && !endsWord cursor.rest then throw .badBlockHeader
  let fuel := cursor.rest.length + 1
  let start := if given = 0 then 0 else (max parent 0).toNat + given
  let (widest, empty, cursor) ← blockBreaks start fuel 0 [] cursor.next
  let indent := if start = 0 then max widest (max (parent + 1).toNat 1) else start
  blockLines literal chomping indent fuel [] [] empty false cursor

end Voiceover.Yaml
