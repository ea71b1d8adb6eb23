import Voiceover.Speech
import Voiceover.Text
import Voiceover.Text.Lowercase

/-! Dialogue scripts. A script is read in lower case, a line at a time. A line is either a voice
declaration, `voice:<character>,<voice id>,<rate>`, or a speech, `<speaker>:<text>`. All
declarations are read before the first speech, so a speaker may be declared further down. -/

namespace Voiceover

open Text

/-- What is wrong with a script. A faulty line is quoted as it was read, in lower case and without
the white space around it. -/
inductive ScriptError
  | empty
  | invalidVoiceLine (line : Nat) (content : String)
  | invalidVoiceRate (line : Nat) (content : String)
  | invalidSpeakLine (line : Nat) (content : String)
deriving DecidableEq

namespace ScriptError

def line? : ScriptError → Option Nat
  | empty => none
  | invalidVoiceLine line _ | invalidVoiceRate line _ | invalidSpeakLine line _ => some line

def message : ScriptError → String
  | empty => "Invalid text: the script is empty"
  | invalidVoiceLine line content => s!"Invalid voice line {line}: {content}"
  | invalidVoiceRate line content =>
      s!"Invalid voice rate on line {line} (expected -10..10): {content}"
  | invalidSpeakLine line content => s!"Invalid speak line {line}: {content}"

end ScriptError

structure Line where
  number : Nat
  text : List Char
deriving DecidableEq

/-- The lines that hold more than white space, trimmed. A line feed starts a new line number; a
carriage return ends a line too, but what follows it keeps the number. -/
def scriptLines (content : List Char) : List Line :=
  let numbered := (pieces '\n' content).zipIdx 1
  let trimmed := numbered.flatMap fun (line, number) =>
    (pieces '\r' line).map fun part => Line.mk number (trim part)
  trimmed.filter fun line => !line.text.isEmpty

def voiceMark : List Char := "voice:".toList

namespace Line

def isVoice (line : Line) : Bool := voiceMark.isPrefixOf line.text

def content (line : Line) : String := String.ofList line.text

end Line

def readDigits (digits : List Char) : Option Nat :=
  if digits.isEmpty || !digits.all Char.isDigit then none
  else some (digits.foldl (fun value digit => 10 * value + (digit.toNat - '0'.toNat)) 0)

def readInteger : List Char → Option Int
  | '-' :: digits => (readDigits digits).map fun value => -(value : Int)
  | '+' :: digits => (readDigits digits).map fun value => (value : Int)
  | digits => (readDigits digits).map fun value => (value : Int)

def isScriptRate (rate : Int) : Bool := -10 ≤ rate && rate ≤ 10

/-- Reads a declaration. The mark in front may be missing, and fields past the third are ignored. -/
def readVoice (line : Line) : Except ScriptError VoiceProfile :=
  let body := if line.isVoice then line.text.drop voiceMark.length else line.text
  match (pieces ',' body).map trim with
  | character :: voiceId :: rate :: _ =>
      match (readInteger rate).filter isScriptRate with
      | some rate => .ok ⟨String.ofList character, String.ofList voiceId, rate⟩
      | none => .error (.invalidVoiceRate line.number line.content)
  | _ => .error (.invalidVoiceLine line.number line.content)

/-- A speech as a script has it. It is not made yet: the path of its audio and its phonemes are known
once it is, and stand in its `Rendering`. -/
structure Utterance where
  speaker : String
  text : String
  voice : VoiceProfile
deriving DecidableEq

def isPathSeparator (c : Char) : Bool := c = '/' || c = '\\'

def readSpeech (voices : VoiceRegistry) (line : Line) : Except ScriptError Utterance :=
  match pieces ':' line.text with
  | [speaker, text] =>
      if speaker.any isPathSeparator then .error (.invalidSpeakLine line.number line.content)
      else
        let name := String.ofList (trim speaker)
        .ok ⟨name, String.ofList (trim text), voices.resolve name⟩
  | _ => .error (.invalidSpeakLine line.number line.content)

structure Script where
  voices : VoiceRegistry
  utterances : List Utterance
deriving DecidableEq

namespace Script

/-- Reads a whole script. Of several faulty lines the first faulty declaration is reported, and a
faulty speech only when every declaration is sound. -/
def parse (source : String) : Except ScriptError Script :=
  if source.toList.all isWhite then .error .empty
  else do
    let lines := scriptLines (lowercase source.toList)
    let profiles ← (lines.filter Line.isVoice).mapM readVoice
    let voices : VoiceRegistry := ⟨profiles⟩
    let utterances ← (lines.filter fun line => !line.isVoice).mapM (readSpeech voices)
    return ⟨voices, utterances⟩

end Script

end Voiceover
