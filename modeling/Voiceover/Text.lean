/-! Text as lists of characters. White space is the Unicode property White_Space, the same for every
text the program reads. Other properties are kept as tables: runs of code points in ascending order,
so that a search stops at the first run above the code point it looks for. -/

namespace Voiceover.Text

def isWhite (c : Char) : Bool :=
  let code := c.toNat
  (9 ≤ code && code ≤ 13) || code == 0x20 || code == 0x85 || code == 0xa0 || code == 0x1680 ||
    (0x2000 ≤ code && code ≤ 0x200a) || code == 0x2028 || code == 0x2029 || code == 0x202f ||
    code == 0x205f || code == 0x3000

def trimStart (text : List Char) : List Char :=
  text.dropWhile isWhite

def trimEnd (text : List Char) : List Char :=
  (text.reverse.dropWhile isWhite).reverse

def trim (text : List Char) : List Char :=
  trimEnd (trimStart text)

def extendFirst (c : Char) : List (List Char) → List (List Char)
  | [] => [[c]]
  | piece :: later => (c :: piece) :: later

/-- The stretches between the occurrences of the separator: always one more than there are
separators, so the empty text is one empty piece. -/
def pieces (separator : Char) (text : List Char) : List (List Char) :=
  text.foldr
    (fun c found => if c = separator then [] :: found else extendFirst c found) [[]]

@[simp] theorem pieces_nil (separator : Char) : pieces separator [] = [[]] := rfl

theorem pieces_cons (separator c : Char) (text : List Char) :
    pieces separator (c :: text) =
      if c = separator then [] :: pieces separator text
      else extendFirst c (pieces separator text) := rfl

theorem pieces_ne_nil (separator : Char) (text : List Char) : pieces separator text ≠ [] := by
  cases text with
  | nil => simp
  | cons c text =>
    rw [pieces_cons]
    split
    · simp
    · cases pieces separator text <;> simp [extendFirst]

structure Run where
  first : Nat
  last : Nat

def covers : List Run → Nat → Bool
  | [], _ => false
  | run :: later, code =>
      if code < run.first then false
      else if code ≤ run.last then true
      else covers later code

/-- Every `step`-th code point from `first` to `last`, sent in the same order and at the same
distances to the code points from `image` on. -/
structure CaseRun where
  first : Nat
  last : Nat
  step : Nat
  image : Nat

def mapped : List CaseRun → Nat → Nat
  | [], code => code
  | run :: later, code =>
      if code < run.first then code
      else if code ≤ run.last then
        if (code - run.first) % run.step = 0 then run.image + (code - run.first) else code
      else mapped later code

end Voiceover.Text
