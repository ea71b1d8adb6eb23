import Voiceover.Duration

/-! Phonemes as an engine reports them, a symbol and when it is heard in its utterance, and the shape
of the mouth that each symbol is spoken with. -/

namespace Voiceover

structure Phoneme where
  symbol : String
  start : Duration
  length : Duration
deriving DecidableEq

namespace Phoneme

def finish (phoneme : Phoneme) : Except Fault Duration :=
  phoneme.start.add phoneme.length

end Phoneme

def lastFinish (phonemes : List Phoneme) : Except Fault Duration :=
  match phonemes.getLast? with
  | some phoneme => phoneme.finish
  | none => .ok .zero

inductive MouthShape
  | rest | ai | e | o | u | fv | l | mbp | wq
deriving DecidableEq

namespace MouthShape

def all : List MouthShape := [rest, ai, e, o, u, fv, l, mbp, wq]

def name : MouthShape → String
  | rest => "rest"
  | ai => "ai"
  | e => "e"
  | o => "o"
  | u => "u"
  | fv => "fv"
  | l => "l"
  | mbp => "mbp"
  | wq => "wq"

def ofSymbol? : String → Option MouthShape
  | "a" | "i" => some ai
  | "e" => some e
  | "o" => some o
  | "u" => some u
  | "f" | "v" => some fv
  | "l" => some l
  | "m" | "b" | "p" => some mbp
  | "w" | "q" => some wq
  | _ => none

end MouthShape

end Voiceover
