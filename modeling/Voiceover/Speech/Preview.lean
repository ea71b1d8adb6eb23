import Voiceover.Speech
import Voiceover.Text
import Voiceover.Wave.Encode

/-! The preview engine, which needs no voice: every letter is a phoneme of one length, and the audio
is silence that lasts as long as the phonemes. Speech gets three times faster for every ten steps of
the rate, and three times slower for ten steps down. The power of three is a sum of a few hundred
binary places, far more than a double can tell apart, and is rounded once. -/

namespace Voiceover

open Text

namespace Tempo

/-- Numbers are held as multiples of two to the minus 256. -/
def places : Nat := 256

def unit : Int := (1 <<< places : Nat)

def multiply (first second : Int) : Int := first * second / unit

/-- The natural logarithm of three: twice the inverse hyperbolic tangent of one half. -/
def logThree : Int :=
  (List.range (places / 2)).foldl
    (fun sum index => sum + unit / ((2 * index + 1) * 1 <<< (2 * index) : Nat)) 0

/-- The exponential series. The numbers given to it are below 15 in magnitude, and its terms are
below the last place long before the last of them. -/
def exponential (argument : Int) : Int :=
  let step := fun (sum, term) (index : Nat) =>
    (sum + term, multiply term argument / (index + 1 : Nat))
  ((List.range places).foldl step (0, unit)).1

def powerOfThree (exponent : Rat) : Rat :=
  let argument := (exponent * logThree).floor
  Binary64.nearest ((exponential argument : Rat) / unit)

def factor (rate : Int) : Rat :=
  powerOfThree (Binary64.nearest (rate / 10))

end Tempo

structure PreviewSettings where
  phonemeMillis : UInt64
  pauseMillis : UInt64
deriving DecidableEq

namespace PreviewSettings

def standard : PreviewSettings := ⟨80, 120⟩

end PreviewSettings

namespace Preview

def longestMillis : Nat := 10000

def scaled (millis : UInt64) (rate : Int) : Duration :=
  let atRest : Nat := min millis.toNat longestMillis * 1000
  let micros := Binary64.nearest (atRest / Tempo.factor rate)
  .clamped (Binary64.roundHalfUp micros * 1000)

def silenceSymbol : String := "_"

def isPausingMark (c : Char) : Bool :=
  c = ',' || c = '.' || c = ';' || c = '!' || c = '?'

def segment (phoneme pause : Duration) (c : Char) : Option (String × Duration) :=
  if c.isAlpha then some (c.toLower.toString, phoneme)
  else if isWhite c then some (silenceSymbol, pause)
  else if isPausingMark c then some (silenceSymbol, pause.doubleClamped)
  else none

def sequence (position : Duration) : List (String × Duration) → List Phoneme
  | [] => []
  | (symbol, length) :: rest =>
      ⟨symbol, position, length⟩ :: sequence (position.addClamped length) rest

def phonemes (settings : PreviewSettings) (text : String) (rate : Int) : List Phoneme :=
  let phoneme := scaled settings.phonemeMillis rate
  let pause := scaled settings.pauseMillis rate
  sequence .zero (text.toList.filterMap (segment phoneme pause))

def synthesize (settings : PreviewSettings) (request : SpeechRequest) :
    Except EngineFailure Synthesis :=
  let track := phonemes settings request.text request.rate
  match lastFinish track with
  | .error fault => .error (.fault fault)
  | .ok length =>
      match Wave.silence request.format length with
      | .ok audio => .ok ⟨audio, track⟩
      | .error (.fault fault) => .error (.fault fault)
      | .error .payloadTooLarge => .error (.declined "PCM payload too large")

end Preview

end Voiceover
