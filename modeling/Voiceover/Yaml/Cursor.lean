/-! Reading positions in a YAML stream. A stream is brought to one kind of line feed before it is
read, so a line break is a single character. -/

namespace Voiceover.Yaml

inductive Problem
  | controlCharacter
  | unexpectedCharacter
  | tabIndentation
  | misplacedKey
  | misplacedValue
  | misplacedEntry
  | missingValue
  | unclosedQuote
  | markInQuote
  | badEscape
  | badBlockHeader
  | badDirective
  | badAnchor
  | badTag
  | colonInFlow
  | unexpectedToken
  | unknownAnchor
  | severalDocuments
deriving DecidableEq

def isBreak (c : Char) : Bool := c = '\n' || c = '\u2028' || c = '\u2029'

def isBlank (c : Char) : Bool := c = ' ' || c = '\t'

def isNameChar (c : Char) : Bool := c.isAlphanum || c = '-' || c = '_'

def endsWord : List Char → Bool
  | [] => true
  | c :: _ => isBlank c || isBreak c

def startMark : List Char := ['-', '-', '-']

def endMark : List Char := ['.', '.', '.']

def startsWithMark (text : List Char) : Bool :=
  (startMark.isPrefixOf text || endMark.isPrefixOf text) && endsWord (text.drop 3)

def isAllowed (c : Char) : Bool :=
  let code := c.toNat
  c = '\t' || c = '\n' || c = '\r' || (0x20 ≤ code && code ≤ 0x7e) || code = 0x85 ||
    (0xa0 ≤ code && code ≤ 0xd7ff) || (0xe000 ≤ code && code ≤ 0xfffd) || 0x10000 ≤ code

def joinBreaks : List Char → List Char
  | [] => []
  | '\r' :: '\n' :: rest => '\n' :: joinBreaks rest
  | c :: rest => (if c = '\r' || c = '\u0085' then '\n' else c) :: joinBreaks rest

def byteOrderMark : Char := '\ufeff'

def characters (stream : List Char) : Except Problem (List Char) :=
  if stream.all isAllowed then .ok (joinBreaks stream) else .error .controlCharacter

structure Cursor where
  rest : List Char
  /-- The bytes before it, when a line break is one byte. -/
  index : Nat
  line : Nat
  column : Nat

namespace Cursor

def start (text : List Char) : Cursor := ⟨text, 0, 0, 0⟩

def next (cursor : Cursor) : Cursor :=
  match cursor.rest with
  | [] => cursor
  | c :: rest =>
      if isBreak c then ⟨rest, cursor.index + 1, cursor.line + 1, 0⟩
      else ⟨rest, cursor.index + c.utf8Size, cursor.line, cursor.column + 1⟩

def skip (cursor : Cursor) : Nat → Cursor
  | 0 => cursor
  | count + 1 => cursor.next.skip count

def skipWhile (cursor : Cursor) (test : Char → Bool) : Cursor :=
  cursor.skip (cursor.rest.takeWhile test).length

def goTo (cursor : Cursor) (later : List Char) : Cursor :=
  cursor.skip (cursor.rest.length - later.length)

def skipLineRest (cursor : Cursor) : Cursor :=
  cursor.skipWhile fun c => !isBreak c

end Cursor

end Voiceover.Yaml
