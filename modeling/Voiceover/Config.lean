import Voiceover.Speech.Preview
import Voiceover.Storage
import Voiceover.Yaml.Emit
import Voiceover.Yaml.Node
import Voiceover.Yaml.Schema

/-! Configurations: the script to compile, the folder for its files, and the engine to speak it. A
configuration is kept in a file. It is written with all keys in a fixed order, and when it is read
every key may be missing, and keys that mean nothing are passed over. -/

namespace Voiceover

structure AudioSettings where
  provider : String
  preview : Option PreviewSettings
deriving DecidableEq

namespace AudioSettings

def standard : AudioSettings := ⟨"preview", none⟩

def engine (settings : AudioSettings) : Except String PreviewSettings :=
  if settings.provider = "preview" then .ok (settings.preview.getD .standard)
  else .error s!"Unknown TTS provider: {settings.provider}"

end AudioSettings

structure Config where
  scriptFile : String
  outputFolder : String
  audio : AudioSettings
deriving DecidableEq

namespace Config

def standard : Config := ⟨"script.txt", "output", .standard⟩

open Yaml

/-! ### Writing -/

def numberLine (margin : Nat) (key : String) (number : UInt64) : List Char :=
  spaces margin ++ key.toList ++ [':', ' '] ++ (toString number.toNat).toList ++ ['\n']

def previewLines : Option PreviewSettings → List Char
  | none => "  preview: null\n".toList
  | some settings =>
      "  preview:\n".toList ++ numberLine 4 "phoneme_ms" settings.phonemeMillis ++
        numberLine 4 "pause_ms" settings.pauseMillis

def text (config : Config) : String :=
  String.ofList <|
    textLine 0 "script_file" config.scriptFile ++ textLine 0 "output_folder" config.outputFolder ++
      "audio:\n".toList ++ textLine 2 "provider" config.audio.provider ++
      previewLines config.audio.preview

/-! ### Reading -/

inductive ReadError
  | malformed (problem : Problem)
  | notMapping
  | keyNotText
  | keyTwice (key : String)
  | notText
  | notNumber
deriving DecidableEq

abbrev Fields := List (String × Node)

def textOf (document : Document) (node : Node) : Except ReadError String :=
  match document.resolve node with
  | .scalar _ _ text => .ok text
  | _ => .error .notText

/-- The fields of a mapping. A plain scalar without text is a mapping without fields. -/
def fieldsOf (document : Document) (node : Node) : Except ReadError Fields :=
  match document.resolve node with
  | .mapping pairs => pairs.mapM fun (key, value) =>
      match document.resolve key with
      | .scalar _ _ text => .ok (text, value)
      | _ => .error .keyNotText
  | .scalar _ .plain "" => .ok []
  | _ => .error .notMapping

def field (fields : Fields) (key : String) : Except ReadError (Option Node) :=
  match fields.filter (·.1 = key) with
  | [] => .ok none
  | [(_, value)] => .ok (some value)
  | _ => .error (.keyTwice key)

def fieldOr (fields : Fields) (key : String) (standard : α) (read : Node → Except ReadError α) :
    Except ReadError α := do
  match ← field fields key with
  | some node => read node
  | none => return standard

/-- A number of at most 64 bits. It is not quoted, except that a literal block with the tag of
integers will do. -/
def numberOf (document : Document) (node : Node) : Except ReadError UInt64 :=
  match document.resolve node with
  | .scalar tag style text =>
      let unquoted := style = .plain ||
        (style = .literal && tag = some (standardTag "int"))
      match if unquoted then unsigned word64 text else none with
      | some number => .ok (.ofNat number)
      | none => .error .notNumber
  | _ => .error .notNumber

def previewOf (document : Document) (node : Node) : Except ReadError PreviewSettings := do
  let fields ← fieldsOf document node
  return ⟨← fieldOr fields "phoneme_ms" PreviewSettings.standard.phonemeMillis (numberOf document),
    ← fieldOr fields "pause_ms" PreviewSettings.standard.pauseMillis (numberOf document)⟩

/-- Settings that may be left out: a plain scalar that is empty or says null is none. One with the
tag of null has to say so, and one with any other tag is not none. -/
def previewOrNone (document : Document) (node : Node) :
    Except ReadError (Option PreviewSettings) :=
  match document.resolve node with
  | .scalar none .plain text =>
      if text = "" || isNullWord text then .ok none else .error .notMapping
  | .scalar (some tag) .plain text =>
      if tag ≠ standardTag "null" then some <$> previewOf document node
      else if isNullWord text then .ok none
      else .error .notMapping
  | _ => some <$> previewOf document node

def audioOf (document : Document) (node : Node) : Except ReadError AudioSettings := do
  let fields ← fieldsOf document node
  return ⟨← fieldOr fields "provider" AudioSettings.standard.provider (textOf document),
    ← fieldOr fields "preview" none (previewOrNone document)⟩

def ofDocument (document : Document) : Except ReadError Config := do
  let fields ← fieldsOf document document.root
  return ⟨← fieldOr fields "script_file" standard.scriptFile (textOf document),
    ← fieldOr fields "output_folder" standard.outputFolder (textOf document),
    ← fieldOr fields "audio" .standard (audioOf document)⟩

def parse (text : String) : Except ReadError Config :=
  match Document.read text with
  | .error problem => .error (.malformed problem)
  | .ok document => ofDocument document

end Config

inductive ConfigError
  | missing (path : String)
  | unreadable (path : String)
  | unparsable (path : String)
  | unwritable (path : String)
deriving DecidableEq

namespace ConfigError

def message : ConfigError → String
  | missing path => s!"{path} not found. Please create one."
  | unreadable path => s!"Failed to read {path}"
  | unparsable path => s!"Failed to parse {path}"
  | unwritable path => s!"Failed to write {path}"

end ConfigError

namespace Config

variable {m : Type → Type} [Monad m] (storage : Storage m)

def load (path : String) : ExceptT ConfigError m Config := do
  match ← storage.exists? path with
  | .ok true =>
      match ← storage.read path with
      | .ok content =>
          match String.fromUTF8? content with
          | some text =>
              match parse text with
              | .ok config => return config
              | .error _ => throw (.unparsable path)
          | none => throw (.unreadable path)
      | .error _ => throw (.unreadable path)
  | _ => throw (.missing path)

def save (config : Config) (path : String) : ExceptT ConfigError m Unit := do
  match ← storage.replace path config.text.toUTF8 with
  | .ok () => return ()
  | .error _ => throw (.unwritable path)

end Config

end Voiceover
