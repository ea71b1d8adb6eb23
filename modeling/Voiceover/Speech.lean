import Voiceover.Phoneme
import Voiceover.Wave.Format

/-! Voices, and what a speech engine is asked and answers. A script declares profiles, which are kept
in a registry and looked up there, and an engine voice stands behind each of them. -/

namespace Voiceover

structure VoiceProfile where
  character : String
  voiceId : String
  rate : Int
deriving DecidableEq

namespace VoiceProfile

def builtIn : VoiceProfile := ⟨"default", "daniel", 0⟩

/-- The engine voice behind a voice id. The engine knows two, and one of them stands in for every
id it does not know. -/
def engineVoice (profile : VoiceProfile) : String :=
  if profile.voiceId = "maria" then "Microsoft Maria Desktop" else "Microsoft Daniel Desktop"

end VoiceProfile

/-- The profiles in order of declaration, without the built-in one that stands before them. -/
structure VoiceRegistry where
  declared : List VoiceProfile
deriving DecidableEq

namespace VoiceRegistry

def empty : VoiceRegistry := ⟨[]⟩

def push (registry : VoiceRegistry) (profile : VoiceProfile) : VoiceRegistry :=
  ⟨registry.declared ++ [profile]⟩

def toList (registry : VoiceRegistry) : List VoiceProfile :=
  VoiceProfile.builtIn :: registry.declared

def size (registry : VoiceRegistry) : Nat :=
  registry.toList.length

def resolve (registry : VoiceRegistry) (character : String) : VoiceProfile :=
  (registry.toList.find? (·.character = character)).getD .builtIn

@[simp] theorem toList_push (registry : VoiceRegistry) (profile : VoiceProfile) :
    (registry.push profile).toList = registry.toList ++ [profile] := rfl

end VoiceRegistry

structure SpeechRequest where
  text : String
  voiceName : String
  rate : Int
  format : AudioFormat
deriving DecidableEq

namespace SpeechRequest

def ofVoice (text : String) (voice : VoiceProfile) : SpeechRequest :=
  ⟨text, voice.engineVoice, voice.rate, .speech⟩

end SpeechRequest

structure Synthesis where
  audio : ByteArray
  phonemes : List Phoneme

inductive EngineFailure
  | declined (message : String)
  | fault (fault : Fault)

end Voiceover
