import Voiceover.Yaml.Token

/-! From characters to tokens. That a word is a key is known only at the colon behind it, and so for
each level of nesting the place is remembered where a key may have started; its token is put in
there when the colon comes. -/

namespace Voiceover.Yaml

structure PossibleKey where
  /-- The tokens before it, latest first. -/
  before : List Token
  index : Nat
  line : Nat
  column : Nat
  /-- Nothing else than a key can be there. -/
  required : Bool

structure Lexing where
  cursor : Cursor
  /-- The tokens so far, latest first. -/
  tokens : List Token
  /-- The column of the innermost block, or minus one outside of all blocks. -/
  indent : Int
  /-- The columns of the blocks around it. -/
  outer : List Int
  /-- Whether a key may start here. -/
  keyAllowed : Bool
  /-- The possible key at this level. -/
  possible : Option PossibleKey
  /-- The possible keys around each open flow collection. -/
  around : List (Option PossibleKey)

namespace Lexing

def start (text : List Char) : Lexing :=
  ⟨.start text, [], -1, [], true, none, []⟩

def inFlow (lexing : Lexing) : Bool := !lexing.around.isEmpty

def emit (lexing : Lexing) (token : Token) : Lexing :=
  { lexing with tokens := token :: lexing.tokens }

/-- Goes past spaces, comments and line ends, and past a byte order mark that starts a line. A tab
counts as a space where no block can start. -/
def skipToToken : (fuel : Nat) → Lexing → Lexing
  | 0, lexing => lexing
  | fuel + 1, lexing =>
      let marked := lexing.cursor.column = 0 && lexing.cursor.rest.head? = some byteOrderMark
      let cursor := if marked then lexing.cursor.next else lexing.cursor
      let tabsCount := lexing.inFlow || !lexing.keyAllowed
      let cursor := cursor.skipWhile fun c => c = ' ' || (tabsCount && c = '\t')
      let cursor := if cursor.rest.head? = some '#' then cursor.skipLineRest else cursor
      match cursor.rest with
      | c :: _ =>
          if isBreak c then
            skipToToken fuel { lexing with
              cursor := cursor.next, keyAllowed := lexing.keyAllowed || !lexing.inFlow }
          else { lexing with cursor }
      | [] => { lexing with cursor }

/-! ### Possible keys -/

def dropKey : Option PossibleKey → Except Problem (Option PossibleKey)
  | some key => if key.required then .error .missingValue else .ok none
  | none => .ok none

def keyLimit : Nat := 1024

def dropStale (cursor : Cursor) (possible : Option PossibleKey) :
    Except Problem (Option PossibleKey) :=
  match possible with
  | some key =>
      if key.line < cursor.line || key.index + keyLimit < cursor.index then dropKey possible
      else .ok possible
  | none => .ok none

def dropStaleKeys (lexing : Lexing) : Except Problem Lexing := do
  let possible ← dropStale lexing.cursor lexing.possible
  let around ← lexing.around.mapM (dropStale lexing.cursor)
  return { lexing with possible, around }

def forgetKey (lexing : Lexing) : Except Problem Lexing := do
  return { lexing with possible := ← dropKey lexing.possible }

def rememberKey (lexing : Lexing) : Except Problem Lexing :=
  if lexing.keyAllowed then do
    let required := !lexing.inFlow && lexing.indent = lexing.cursor.column
    let lexing ← lexing.forgetKey
    let key : PossibleKey :=
      ⟨lexing.tokens, lexing.cursor.index, lexing.cursor.line, lexing.cursor.column, required⟩
    return { lexing with possible := some key }
  else .ok lexing

/-! ### Blocks -/

def opensBlock (lexing : Lexing) (column : Nat) : Bool :=
  !lexing.inFlow && lexing.indent < column

def openBlock (lexing : Lexing) (column : Nat) (opening : Token) : Lexing :=
  if lexing.opensBlock column then
    { lexing.emit opening with indent := column, outer := lexing.indent :: lexing.outer }
  else lexing

def closeBlocks (column : Int) : (outer : List Int) → Lexing → Lexing
  | [], lexing => lexing
  | indent :: outer, lexing =>
      if column < lexing.indent then
        closeBlocks column outer { lexing.emit .blockEnd with indent, outer }
      else lexing

def closeBlocksTo (lexing : Lexing) (column : Int) : Lexing :=
  if lexing.inFlow then lexing else closeBlocks column lexing.outer lexing

/-! ### Fetching a token -/

def endDocument (lexing : Lexing) : Except Problem Lexing := do
  let lexing ← (lexing.closeBlocksTo (-1)).forgetKey
  return { lexing with keyAllowed := false }

def openFlow (lexing : Lexing) (opening : Token) : Except Problem Lexing := do
  let lexing ← lexing.rememberKey
  return { lexing.emit opening with
    cursor := lexing.cursor.next, keyAllowed := true
    possible := none, around := lexing.possible :: lexing.around }

def closeFlow (lexing : Lexing) (closing : Token) : Except Problem Lexing := do
  let lexing ← lexing.forgetKey
  let (possible, around) := match lexing.around with
    | [] => (none, [])
    | outer :: more => (outer, more)
  return { lexing.emit closing with
    cursor := lexing.cursor.next, keyAllowed := false, possible, around }

def fetchFlowEntry (lexing : Lexing) : Except Problem Lexing := do
  let lexing ← lexing.forgetKey
  return { lexing.emit .flowEntry with cursor := lexing.cursor.next, keyAllowed := true }

def fetchBlockEntry (lexing : Lexing) : Except Problem Lexing := do
  if !lexing.inFlow && !lexing.keyAllowed then throw .misplacedEntry
  let lexing ← (lexing.openBlock lexing.cursor.column .blockSequenceStart).forgetKey
  return { lexing.emit .blockEntry with cursor := lexing.cursor.next, keyAllowed := true }

def fetchKey (lexing : Lexing) : Except Problem Lexing := do
  if !lexing.inFlow && !lexing.keyAllowed then throw .misplacedKey
  let lexing ← (lexing.openBlock lexing.cursor.column .blockMappingStart).forgetKey
  return { lexing.emit .key with
    cursor := lexing.cursor.next, keyAllowed := !lexing.inFlow }

/-- At a colon. What may have been a key was one, and a mapping may have opened with it; otherwise
the value has an empty key. -/
def fetchValue (lexing : Lexing) : Except Problem Lexing := do
  match lexing.possible with
  | some key =>
      let since := lexing.tokens.take (lexing.tokens.length - key.before.length)
      let opened := { lexing with tokens := key.before }.openBlock key.column .blockMappingStart
      return { opened with
        tokens := .value :: (since ++ .key :: opened.tokens)
        cursor := lexing.cursor.next, keyAllowed := false, possible := none }
  | none =>
      if !lexing.inFlow && !lexing.keyAllowed then throw .misplacedValue
      let opened := lexing.openBlock lexing.cursor.column .blockMappingStart
      return { opened.emit .value with
        cursor := lexing.cursor.next, keyAllowed := !lexing.inFlow }

def fetchWord (lexing : Lexing) (scan : Cursor → Except Problem (Token × Cursor)) :
    Except Problem Lexing := do
  let lexing ← lexing.rememberKey
  let (token, cursor) ← scan lexing.cursor
  return { lexing.emit token with cursor, keyAllowed := false }

def fetchBlockScalar (lexing : Lexing) (style : ScalarStyle) : Except Problem Lexing := do
  let lexing ← lexing.forgetKey
  let (text, cursor) ← scanBlock (style = .literal) lexing.indent lexing.cursor.next
  return { lexing.emit (.scalar style (String.ofList text)) with cursor, keyAllowed := true }

/-- A plain scalar that is over at the end of its line lets a key follow on the next one. -/
def fetchPlain (lexing : Lexing) : Except Problem Lexing := do
  let lexing ← lexing.rememberKey
  let cursor := lexing.cursor
  let (text, broken, rest) ←
    scanPlain lexing.inFlow (lexing.indent + 1).toNat cursor.column [] .none cursor.rest
  return { lexing.emit (.scalar .plain (String.ofList text)) with
    cursor := cursor.goTo rest, keyAllowed := broken }

def singleQuoted (cursor : Cursor) : Except Problem (Token × Cursor) := do
  let (text, rest) ← scanSingle (cursor.column + 1) [] .none cursor.next.rest
  return (.scalar .singleQuoted (String.ofList text), cursor.goTo rest)

def doubleQuoted (cursor : Cursor) : Except Problem (Token × Cursor) := do
  let (text, rest) ← scanDouble .text (cursor.column + 1) [] .none cursor.next.rest
  return (.scalar .doubleQuoted (String.ofList text), cursor.goTo rest)

def startsPlain (flow : Bool) : List Char → Bool
  | [] => false
  | c :: rest =>
      if c = '-' then !rest.head?.any isBlank
      else if c = '?' || c = ':' then !flow && !endsWord rest
      else !endsWord [c] && !",[]\x7b\x7d#&*!|>'\"%@\x60".toList.contains c

def named (token : String → Token) (cursor : Cursor) : Except Problem (Token × Cursor) := do
  let (name, cursor) ← scanName cursor
  return (token name, cursor)

def fetch (lexing : Lexing) (c : Char) (rest : List Char) : Except Problem Lexing := do
  let cursor := lexing.cursor
  let atStart := cursor.column = 0
  let marks := fun (mark : List Char) =>
    atStart && mark.isPrefixOf cursor.rest && endsWord (cursor.rest.drop 3)
  let flow := lexing.inFlow
  if atStart && c = '%' then
    let (token, cursor) ← scanDirective cursor
    return { (← lexing.endDocument).emit token with cursor }
  else if marks startMark then
    return { (← lexing.endDocument).emit .documentStart with cursor := cursor.skip 3 }
  else if marks endMark then
    return { (← lexing.endDocument).emit .documentEnd with cursor := cursor.skip 3 }
  else if c = '[' then lexing.openFlow .flowSequenceStart
  else if c = '{' then lexing.openFlow .flowMappingStart
  else if c = ']' then lexing.closeFlow .flowSequenceEnd
  else if c = '}' then lexing.closeFlow .flowMappingEnd
  else if c = ',' then lexing.fetchFlowEntry
  else if c = '-' && endsWord rest then lexing.fetchBlockEntry
  else if c = '?' && (flow || endsWord rest) then lexing.fetchKey
  else if c = ':' && (flow || endsWord rest) then lexing.fetchValue
  else if c = '*' then lexing.fetchWord (named .alias)
  else if c = '&' then lexing.fetchWord (named .anchor)
  else if c = '!' then
    lexing.fetchWord fun cursor => do
      let (tag, cursor) ← scanTag flow cursor
      return (.tag tag, cursor)
  else if c = '|' && !flow then lexing.fetchBlockScalar .literal
  else if c = '>' && !flow then lexing.fetchBlockScalar .folded
  else if c = '\'' then lexing.fetchWord singleQuoted
  else if c = '"' then lexing.fetchWord doubleQuoted
  else if startsPlain flow cursor.rest then lexing.fetchPlain
  else throw .unexpectedCharacter

/-- Reads tokens to the end of the stream. Every token takes a character, so the length of the
stream is fuel enough. -/
def run : (fuel : Nat) → Lexing → Except Problem (List Token)
  | 0, _ => .error .unexpectedCharacter
  | fuel + 1, lexing => do
      let lexing := lexing.skipToToken (lexing.cursor.rest.length + 1)
      let lexing ← lexing.dropStaleKeys
      match lexing.cursor.rest with
      | [] => return (← lexing.endDocument).tokens.reverse
      | c :: rest =>
          let lexing := lexing.closeBlocksTo lexing.cursor.column
          run fuel (← lexing.fetch c rest)

end Lexing

def tokens (stream : String) : Except Problem (List Token) := do
  let text ← characters stream.toList
  Lexing.run (text.length + 1) (.start text)

end Voiceover.Yaml
