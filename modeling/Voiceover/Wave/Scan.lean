import Voiceover.Wave.Format

/-! Finding the format and the samples of a WAVE file. The chunks of the file are walked from the
front to the first data chunk; the samples themselves are not looked at. -/

namespace Voiceover

structure WaveInfo where
  format : AudioFormat
  dataOffset : Nat
  dataSize : UInt32
deriving DecidableEq

namespace WaveInfo

/-- How long the samples last, whole frames only. A frame of no bytes counts as one byte, and no
frames a second as one. -/
def duration (info : WaveInfo) : Except Fault Duration := do
  let blockAlign ← info.format.blockAlign
  let frames := info.dataSize.toNat / max blockAlign 1
  return .clamped (frames * nanosPerSecond / max info.format.sampleRate.toNat 1)

end WaveInfo

inductive WaveError
  | notRiff
  | notWave
  /-- The file ends inside the name of a chunk. -/
  | cutChunkId
  /-- The file ends inside anything else. -/
  | cutShort
  | shortFormat
  | unsupportedEncoding (tag : Nat)
  | missingData
  | missingFormat
deriving DecidableEq

namespace WaveError

def message : WaveError → String
  | notRiff => "Not a RIFF file"
  | notWave => "Not a WAVE file"
  | cutChunkId => "Unexpected EOF reading chunk ID"
  | cutShort => "failed to fill whole buffer"
  | shortFormat => "fmt chunk too short"
  | unsupportedEncoding tag => s!"Unsupported WAVE encoding {tag}"
  | missingData => "Missing data chunk"
  | missingFormat => "Missing fmt chunk"

end WaveError

namespace Wave

def require (found : Option α) : Except WaveError α :=
  match found with
  | some value => .ok value
  | none => .error .cutShort

def formatAt (file : ByteArray) (offset size : Nat) : Except WaveError AudioFormat := do
  if file.size < offset + size then throw .cutShort
  if size < 16 then throw .shortFormat
  let tag ← require (numberAt? file offset 2)
  if tag ≠ pcmTag then throw (.unsupportedEncoding tag)
  let channels ← require (numberAt? file (offset + 2) 2)
  let sampleRate ← require (numberAt? file (offset + 4) 4)
  let bitsPerSample ← require (numberAt? file (offset + 14) 2)
  return ⟨.ofNat sampleRate, .ofNat bitsPerSample, .ofNat channels⟩

/-- Walks the chunks from `offset` on. `format` is what the last format chunk before it said. -/
def scanChunks (file : ByteArray) (offset : Nat) (format : Option AudioFormat) :
    Except WaveError WaveInfo :=
  if file.size ≤ offset then .error .missingData
  else if file.size < offset + 4 then .error .cutChunkId
  else if reached : file.size < offset + 8 then .error .cutShort
  else do
    let id ← require (bytesAt? file offset 4)
    let size ← require (numberAt? file (offset + 4) 4)
    if id = formatId then
      let format ← formatAt file (offset + 8) size
      scanChunks file (offset + 8 + size) (some format)
    else if id = dataId then
      match format with
      | some format => return ⟨format, offset + 8, .ofNat size⟩
      | none => throw .missingFormat
    else scanChunks file (offset + 8 + size) format
termination_by file.size - offset

/-- Finds the format and the samples of a WAVE file. The size that the file claims for itself is
not looked at, and a chunk of odd size is followed by the next one without padding. -/
def scan (file : ByteArray) : Except WaveError WaveInfo := do
  if (← require (bytesAt? file 0 4)) ≠ riffId then throw .notRiff
  if (← require (bytesAt? file 8 4)) ≠ waveId then throw .notWave
  scanChunks file 12 none

end Wave

end Voiceover
