import Voiceover.Yaml.Cursor
import Voiceover.Yaml.Schema

/-! Writing text as a YAML scalar behind the key of a block mapping. Text is written plain where it
reads back as the same text, then in single quotes, then in double quotes with escapes; text of
several lines is a literal block where a block can hold it. -/

namespace Voiceover.Yaml

def isPrintable (c : Char) : Bool :=
  let code := c.toNat
  c = '\n' || (0x20 ≤ code && code ≤ 0x7e) || (0xa0 ≤ code && code ≤ 0xd7ff) ||
    (0xe000 ≤ code && code ≤ 0xfffd && c ≠ byteOrderMark) || 0x10000 ≤ code

def isLeadingIndicator (c : Char) : Bool :=
  "#,[]\x7b\x7d&*!|>'\"%@\x60".toList.contains c

/-- Whether a colon or a number sign in the text would end a plain scalar. `spaced` tells whether
the text stands behind a space. -/
def holdsIndicator : (spaced : Bool) → List Char → Bool
  | _, [] => false
  | spaced, c :: rest =>
      (c = ':' && endsWord rest) || (c = '#' && spaced) || holdsIndicator (endsWord [c]) rest

def needsQuotes : List Char → Bool
  | [] => false
  | c :: rest =>
      isLeadingIndicator c || ((c = '?' || c = ':' || c = '-') && endsWord rest) ||
        startMark.isPrefixOf (c :: rest) || endMark.isPrefixOf (c :: rest) ||
        holdsIndicator (endsWord [c]) rest

def adjoin (first second : Char → Bool) : List Char → Bool
  | c :: d :: rest => (first c && second d) || adjoin first second (d :: rest)
  | _ => false

def isSpace (c : Char) : Bool := c = ' '

/-- Folding would change these texts, and a block would not show where they end. -/
def hidesSpace (text : List Char) : Bool := adjoin isSpace isBreak text

def endsWith (test : Char → Bool) (text : List Char) : Bool := text.getLast?.any test

def startsWith (test : Char → Bool) (text : List Char) : Bool := text.head?.any test

def plainAllowed (text : List Char) : Bool :=
  text.all isPrintable && !text.any isBreak && !startsWith isSpace text &&
    !endsWith isSpace text && !needsQuotes text

def singleAllowed (text : List Char) : Bool :=
  text.all isPrintable && !hidesSpace text && !adjoin isBreak isSpace text

def literalAllowed (text : List Char) : Bool :=
  text.all isPrintable && !hidesSpace text && !endsWith isSpace text

def spaces (count : Nat) : List Char := List.replicate count ' '

def indented (indent : Nat) (encode : Char → List Char) : (fresh : Bool) → List Char → List Char
  | _, [] => []
  | fresh, c :: rest =>
      if isBreak c then c :: indented indent encode true rest
      else (if fresh then spaces indent else []) ++ encode c ++ indented indent encode false rest

def doubleQuote (c : Char) : List Char := if c = '\'' then ['\'', '\''] else [c]

def singleQuoted (indent : Nat) (text : List Char) : List Char :=
  let margin := if endsWith isBreak text then spaces indent else []
  '\'' :: indented indent doubleQuote false text ++ margin ++ ['\'']

def upperHex (value : Nat) : Char :=
  if value < 10 then Char.ofNat ('0'.toNat + value) else Char.ofNat ('A'.toNat + (value - 10))

def upperHexDigits : (width : Nat) → (value : Nat) → List Char
  | 0, _ => []
  | width + 1, value => upperHexDigits width (value / 16) ++ [upperHex (value % 16)]

def escapeOf (c : Char) : List Char :=
  let code := c.toNat
  if c = '\x00' then ['0']
  else if c = '\x07' then ['a']
  else if c = '\x08' then ['b']
  else if c = '\t' then ['t']
  else if c = '\n' then ['n']
  else if c = '\x0b' then ['v']
  else if c = '\x0c' then ['f']
  else if c = '\r' then ['r']
  else if c = '\x1b' then ['e']
  else if c = '"' || c = '\\' then [c]
  else if code = 0x85 then ['N']
  else if code = 0xa0 then ['_']
  else if code = 0x2028 then ['L']
  else if code = 0x2029 then ['P']
  else if code ≤ 0xff then 'x' :: upperHexDigits 2 code
  else if code ≤ 0xffff then 'u' :: upperHexDigits 4 code
  else 'U' :: upperHexDigits 8 code

def doubleQuotedChar (c : Char) : List Char :=
  if !isPrintable c || isBreak c || c = '"' || c = '\\' then '\\' :: escapeOf c else [c]

def doubleQuoted (text : List Char) : List Char :=
  '"' :: text.flatMap doubleQuotedChar ++ ['"']

/-- What stands behind the bar of a literal block: its indentation, when the text itself starts with
space, and what becomes of the line breaks at its end. -/
def literalHeader (text : List Char) : List Char :=
  let indentation := if startsWith isSpace text || startsWith isBreak text then ['2'] else []
  let chomping :=
    match text.reverse with
    | last :: earlier =>
        if !isBreak last then ['-']
        else if earlier.isEmpty || startsWith isBreak earlier then ['+']
        else []
    | [] => ['-']
  indentation ++ chomping

def literalBlock (indent : Nat) (text : List Char) : List Char :=
  '|' :: literalHeader text ++ '\n' :: indented indent (fun c => [c]) true text

def scalar (indent : Nat) (text : String) : List Char :=
  let chars := text.toList
  if chars.contains '\n' then
    if literalAllowed chars then literalBlock indent chars else doubleQuoted chars
  else if isText text && plainAllowed chars then chars
  else if singleAllowed chars then singleQuoted indent chars
  else doubleQuoted chars

def textLine (margin : Nat) (key : String) (text : String) : List Char :=
  let written := scalar (margin + 2) text
  spaces margin ++ key.toList ++ [':', ' '] ++ written ++
    (if endsWith isBreak written then [] else ['\n'])

end Voiceover.Yaml
