/-! What plain scalars mean: nothing, truth values, integers and floating-point numbers, and text
for all the others. -/

namespace Voiceover.Yaml

def isNullWord (text : String) : Bool :=
  ["null", "Null", "NULL", "~"].contains text

def isBoolWord (text : String) : Bool :=
  ["true", "True", "TRUE", "false", "False", "FALSE"].contains text

def dropPlus : List Char → List Char
  | '+' :: rest => rest
  | text => text

def dropSign : List Char → List Char
  | '+' :: rest | '-' :: rest => rest
  | text => text

def digitValue (c : Char) : Option Nat :=
  if c.isDigit then some (c.toNat - '0'.toNat)
  else if 'a' ≤ c && c ≤ 'z' then some (c.toNat - 'a'.toNat + 10)
  else if 'A' ≤ c && c ≤ 'Z' then some (c.toNat - 'A'.toNat + 10)
  else none

def digitsValue (radix : Nat) (digits : List Char) : Option Nat :=
  if digits.isEmpty then none
  else digits.foldlM (fun value c =>
    match digitValue c with
    | some digit => if digit < radix then some (radix * value + digit) else none
    | none => none) 0

def hasLeadingZero (text : List Char) : Bool :=
  match dropSign text with
  | '0' :: rest => !rest.isEmpty && rest.all Char.isDigit
  | _ => false

def magnitude (digits : List Char) : Option Nat :=
  match digits with
  | '0' :: 'x' :: rest => digitsValue 16 rest
  | '0' :: 'o' :: rest => digitsValue 8 rest
  | '0' :: 'b' :: rest => digitsValue 2 rest
  | _ => if hasLeadingZero digits then none else digitsValue 10 digits

def unsigned (limit : Nat) (text : String) : Option Nat :=
  (magnitude (dropPlus text.toList)).filter (· < limit)

def isInteger (text : String) : Bool :=
  match text.toList with
  | '-' :: digits => (magnitude digits).any (· ≤ 1 <<< 127)
  | _ => (unsigned (1 <<< 128) text).isSome

def decimalParts (text : List Char) : Option (Nat × Int) := do
  let whole := text.takeWhile Char.isDigit
  let rest := text.dropWhile Char.isDigit
  let (fraction, rest) := match rest with
    | '.' :: more => (more.takeWhile Char.isDigit, more.dropWhile Char.isDigit)
    | _ => ([], rest)
  let digits ← digitsValue 10 (whole ++ fraction)
  match rest with
  | [] => some (digits, -(fraction.length : Int))
  | e :: exponent =>
      if e = 'e' || e = 'E' then
        let shift ← digitsValue 10 (dropSign exponent)
        let shift : Int := if exponent.head? = some '-' then -shift else shift
        some (digits, shift - fraction.length)
      else none

def doubleLimit : Nat := 1 <<< 1024 - 1 <<< 970

def isFiniteDouble (digits : Nat) (exponent : Int) : Bool :=
  let size := (toString digits).length + exponent
  if digits = 0 || size ≤ 308 then true
  else if 310 < size then false
  else digits * Nat.pow 10 exponent.toNat < doubleLimit * Nat.pow 10 (-exponent).toNat

def isFloat (text : String) : Bool :=
  let chars := text.toList
  let unsignedPart := dropPlus chars
  let negative := unsignedPart.head? = some '-'
  if [".nan", ".NaN", ".NAN"].contains text then true
  else if unsignedPart ≠ chars && (negative || unsignedPart.head? = some '+') then false
  else if [".inf", ".Inf", ".INF"].contains
      (String.ofList (if negative then unsignedPart.drop 1 else unsignedPart)) then true
  else
    match decimalParts (if negative then unsignedPart.drop 1 else unsignedPart) with
    | some (digits, exponent) => !hasLeadingZero chars && isFiniteDouble digits exponent
    | none => false

def isText (text : String) : Bool :=
  !(text = "" || isNullWord text || isBoolWord text || isInteger text ||
    hasLeadingZero text.toList || isFloat text)

end Voiceover.Yaml
