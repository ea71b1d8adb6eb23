import Voiceover.Text.PrintTable

/-! Bytes as text, and text in double quotes. Bytes that are no UTF-8 are read as far as they go:
between the characters stand broken pieces, and of a piece it is only seen that something is there.
In quotes, what would not be seen, or would not be seen for what it is, is written as an escape. -/

namespace Voiceover.Text

section Runes

/-- What bytes are read as. The broken bytes could all have begun one character, or are one byte. -/
inductive Rune
  | char (c : Char)
  | broken (bytes : List UInt8)
deriving DecidableEq

def isTail (byte : UInt8) : Bool := 0x80 ≤ byte && byte ≤ 0xbf

/-- Whether a character of more than two bytes may begin with these two. -/
def goesOn (lead second : UInt8) : Bool :=
  if lead = 0xe0 then 0xa0 ≤ second && second ≤ 0xbf
  else if lead = 0xed then 0x80 ≤ second && second ≤ 0x9f
  else if lead = 0xf0 then 0x90 ≤ second && second ≤ 0xbf
  else if lead = 0xf4 then 0x80 ≤ second && second ≤ 0x8f
  else 0xe1 ≤ lead && lead ≤ 0xf3 && isTail second

/-- The length of the broken piece at the front of bytes that begin with no character. -/
def brokenLength : List UInt8 → Nat
  | lead :: second :: rest =>
      if !goesOn lead second then 1
      else if 0xf0 ≤ lead && rest.head?.any isTail then 3
      else 2
  | _ => 1

theorem brokenLength_pos (bytes : List UInt8) : 0 < brokenLength bytes := by
  unfold brokenLength
  split
  · split
    · decide
    · split <;> decide
  · decide

def runes : List UInt8 → List Rune
  | [] => []
  | lead :: rest =>
      match (lead :: rest).toByteArray.utf8DecodeChar? 0 with
      | some c => .char c :: runes ((lead :: rest).drop c.utf8Size)
      | none =>
          let length := brokenLength (lead :: rest)
          .broken ((lead :: rest).take length) :: runes ((lead :: rest).drop length)
termination_by bytes => bytes.length
decreasing_by
  · have positive := c.utf8Size_pos
    rw [List.length_drop, List.length_cons]
    omega
  · have positive := brokenLength_pos (lead :: rest)
    rw [List.length_drop, List.length_cons]
    omega

def Rune.shown : Rune → Char
  | char c => c
  | broken _ => '\ufffd'

def encoded (text : List Char) : List UInt8 := text.flatMap String.utf8EncodeChar

theorem runes_utf8EncodeChar_append (c : Char) (rest : List UInt8) :
    runes (String.utf8EncodeChar c ++ rest) = .char c :: runes rest := by
  have decoded : (String.utf8EncodeChar c ++ rest).toByteArray.utf8DecodeChar? 0 = some c := by
    rw [List.toByteArray_append]
    exact ByteArray.utf8DecodeChar?_utf8EncodeChar_append
  have behind : (String.utf8EncodeChar c ++ rest).drop c.utf8Size = rest := by
    rw [← String.length_utf8EncodeChar, List.drop_left]
  cases shape : String.utf8EncodeChar c ++ rest with
  | nil =>
    rw [shape] at decoded
    exact nomatch decoded
  | cons lead more =>
    rw [shape] at decoded behind
    rw [runes, decoded]
    dsimp only
    rw [behind]

theorem runes_encoded (text : List Char) : runes (encoded text) = text.map .char := by
  induction text with
  | nil => rw [encoded, List.flatMap_nil, runes, List.map_nil]
  | cons c rest ih =>
    have whole : encoded (c :: rest) = String.utf8EncodeChar c ++ encoded rest := List.flatMap_cons
    rw [whole, runes_utf8EncodeChar_append, ih, List.map_cons]

example : runes [0x61, 0xe2, 0x82, 0x2f, 0xff] = [.char 'a', .broken [0xe2, 0x82], .char '/', .broken [0xff]] := by
  decide +kernel

end Runes

def hexDigit (value : Nat) : Char :=
  if value < 10 then Char.ofNat ('0'.toNat + value) else Char.ofNat ('a'.toNat + (value - 10))

def hexDigits : (width : Nat) → (value : Nat) → List Char
  | 0, _ => []
  | width + 1, value => hexDigits width (value / 16) ++ [hexDigit (value % 16)]

def hexWidth (value : Nat) : Nat := value.log2 / 4 + 1

def isGraphemeExtend (c : Char) : Bool := covers graphemeExtendRuns c.toNat

def isPrintable (c : Char) : Bool := !covers unprintableRuns c.toNat

def escaped (c : Char) : List Char :=
  if c = '\x00' then ['\\', '0']
  else if c = '\t' then ['\\', 't']
  else if c = '\r' then ['\\', 'r']
  else if c = '\n' then ['\\', 'n']
  else if c = '\\' || c = '"' then ['\\', c]
  else if isGraphemeExtend c || !isPrintable c then
    '\\' :: 'u' :: '\x7b' :: hexDigits (hexWidth c.toNat) c.toNat ++ ['\x7d']
  else [c]

def Rune.escaped : Rune → List Char
  | char c => Text.escaped c
  | broken bytes =>
      bytes.flatMap fun byte => '\\' :: 'x' :: (hexDigits 2 byte.toNat).map Char.toUpper

def quoted (runes : List Rune) : String :=
  String.ofList ('"' :: runes.flatMap Rune.escaped ++ ['"'])

end Voiceover.Text
