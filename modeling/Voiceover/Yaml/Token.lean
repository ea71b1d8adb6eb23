import Voiceover.Yaml.Scalar

/-! The tokens of a YAML stream, and the words among them that a mark introduces: tags, the names of
anchors and aliases, and the directives in front of a document. Block structure is told by columns, and
tokens of its own stand where a block opens and closes. -/

namespace Voiceover.Yaml

inductive ScalarStyle
  | plain | singleQuoted | doubleQuoted | literal | folded
deriving DecidableEq

/-- A tag as it is written. A tag written in full has no handle. What stands behind the handle is
kept as bytes, because tags may hold bytes that are no text. -/
structure Tag where
  handle : String
  suffix : List UInt8
deriving DecidableEq

inductive Token
  | version (major minor : Nat)
  | tagHandle (handle : String) (meaning : List UInt8)
  | documentStart
  | documentEnd
  | blockSequenceStart
  | blockMappingStart
  | blockEnd
  | flowSequenceStart
  | flowSequenceEnd
  | flowMappingStart
  | flowMappingEnd
  | blockEntry
  | flowEntry
  | key
  | value
  | alias (name : String)
  | anchor (name : String)
  | tag (tag : Tag)
  | scalar (style : ScalarStyle) (text : String)
deriving DecidableEq

def isUriChar (inFull : Bool) (c : Char) : Bool :=
  isNameChar c || ";/?:@&=+$.!~*'()%".toList.contains c || (inFull && ",[]".toList.contains c)

def bytesBehind (first : Nat) : Option Nat :=
  if first < 0x80 then some 0
  else if first < 0xc0 then none
  else if first < 0xe0 then some 1
  else if first < 0xf0 then some 2
  else if first < 0xf8 then some 3
  else none

/-- The bytes of a tag, in which a percent sign stands before the two digits of a byte. The bytes of
one character stand together: `due` of them are still to come. -/
def uriBytes : (due : Nat) → List Char → Except Problem (List UInt8)
  | 0, [] => .ok []
  | due, '%' :: high :: low :: rest =>
      match hexValue high, hexValue low with
      | some high, some low =>
          let byte := 16 * high + low
          let next := match due with
            | 0 => bytesBehind byte
            | due + 1 => if 0x80 ≤ byte && byte < 0xc0 then some due else none
          match next with
          | some due => (UInt8.ofNat byte :: ·) <$> uriBytes due rest
          | none => .error .badTag
      | _, _ => .error .badTag
  | 0, c :: rest =>
      if c = '%' then .error .badTag else (UInt8.ofNat c.toNat :: ·) <$> uriBytes 0 rest
  | _, _ => .error .badTag

def uri (text : List Char) : Except Problem (List UInt8) :=
  List.takeWhile (· ≠ 0) <$> uriBytes 0 text

/-- Reads a tag. It is written in full between angle brackets, or as a handle and a suffix; a
handle other than the exclamation mark alone ends in a second one. -/
def scanTag (flow : Bool) (cursor : Cursor) : Except Problem (Tag × Cursor) := do
  let (tag, cursor) ←
    if (cursor.rest.drop 1).head? = some '<' then do
      let cursor := cursor.skip 2
      let written := cursor.rest.takeWhile (isUriChar true)
      let cursor := cursor.skip written.length
      if written.isEmpty || cursor.rest.head? ≠ some '>' then throw .badTag
      pure (Tag.mk "" (← uri written), cursor.next)
    else do
      let name := (cursor.rest.drop 1).takeWhile isNameChar
      let behind := cursor.skip (1 + name.length)
      if behind.rest.head? = some '!' then
        let handle := String.ofList ('!' :: name ++ ['!'])
        let cursor := behind.next
        let written := cursor.rest.takeWhile (isUriChar false)
        if written.isEmpty then throw .badTag
        pure (Tag.mk handle (← uri written), cursor.skip written.length)
      else
        let written := (cursor.rest.drop 1).takeWhile (isUriChar false)
        let cursor := cursor.skip (1 + written.length)
        let suffix ← uri written
        if suffix.isEmpty then pure (Tag.mk "" ['!'.toUInt8], cursor)
        else pure (Tag.mk "!" suffix, cursor)
  if endsWord cursor.rest || (flow && cursor.rest.head? = some ',') then return (tag, cursor)
  else throw .badTag

def scanName (cursor : Cursor) : Except Problem (String × Cursor) :=
  let name := (cursor.rest.drop 1).takeWhile isNameChar
  let behind := cursor.skip (1 + name.length)
  let ends := endsWord behind.rest ||
    behind.rest.head?.any (fun c => "?:,]\x7d%@\x60".toList.contains c)
  if name.isEmpty || !ends then .error .badAnchor else .ok (String.ofList name, behind)

def scanVersionNumber (cursor : Cursor) : Except Problem (Nat × Cursor) :=
  let digits := cursor.rest.takeWhile Char.isDigit
  if digits.isEmpty || 9 < digits.length then .error .badDirective
  else
    let value := digits.foldl (fun value digit => 10 * value + (digit.toNat - '0'.toNat)) 0
    .ok (value, cursor.skip digits.length)

def scanVersion (cursor : Cursor) : Except Problem (Token × Cursor) := do
  let (major, cursor) ← scanVersionNumber (cursor.skipWhile isBlank)
  if cursor.rest.head? ≠ some '.' then throw .badDirective
  let (minor, cursor) ← scanVersionNumber cursor.next
  return (.version major minor, cursor)

def scanTagHandle (cursor : Cursor) : Except Problem (Token × Cursor) := do
  let cursor := cursor.skipWhile isBlank
  if cursor.rest.head? ≠ some '!' then throw .badDirective
  let name := (cursor.rest.drop 1).takeWhile isNameChar
  let cursor := cursor.skip (1 + name.length)
  let closed := cursor.rest.head? = some '!'
  if !closed && !name.isEmpty then throw .badDirective
  let handle := '!' :: name ++ (if closed then ['!'] else [])
  let cursor := if closed then cursor.next else cursor
  if !cursor.rest.head?.any isBlank then throw .badDirective
  let cursor := cursor.skipWhile isBlank
  let written := cursor.rest.takeWhile (isUriChar true)
  let cursor := cursor.skip written.length
  if written.isEmpty || !endsWord cursor.rest then throw .badDirective
  return (.tagHandle (String.ofList handle) (← uri written), cursor)

def scanDirective (cursor : Cursor) : Except Problem (Token × Cursor) := do
  let cursor := cursor.next
  let name := cursor.rest.takeWhile isNameChar
  let cursor := cursor.skip name.length
  if name.isEmpty || !endsWord cursor.rest then throw .badDirective
  let (token, cursor) ←
    if name = "YAML".toList then scanVersion cursor
    else if name = "TAG".toList then scanTagHandle cursor
    else throw .badDirective
  let cursor := cursor.skipWhile isBlank
  let cursor := if cursor.rest.head? = some '#' then cursor.skipLineRest else cursor
  if endsWord cursor.rest then return (token, cursor.next) else throw .badDirective

end Voiceover.Yaml
