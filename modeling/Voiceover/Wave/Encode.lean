import Voiceover.Wave.Format

/-! Writing WAVE files: a header of 44 bytes in front of the samples, and files of silence. -/

namespace Voiceover

inductive WaveWriteError
  /-- The samples do not fit the size field of the data chunk. -/
  | payloadTooLarge
  | fault (fault : Fault)
deriving DecidableEq

namespace Wave

def checked : Except Fault α → Except WaveWriteError α
  | .ok value => .ok value
  | .error fault => .error (.fault fault)

def header (format : AudioFormat) (size : Nat) : Except WaveWriteError (List UInt8) := do
  if word32 ≤ size then throw .payloadTooLarge
  if word32 ≤ 36 + size then throw (.fault .sum)
  let byteRate ← checked format.byteRate
  let blockAlign ← checked format.blockAlign
  return riffId ++ littleEndian 4 (36 + size) ++ waveId ++
    formatId ++ littleEndian 4 16 ++ littleEndian 2 pcmTag ++
    littleEndian 2 format.channels.toNat ++ littleEndian 4 format.sampleRate.toNat ++
    littleEndian 4 byteRate ++ littleEndian 2 blockAlign ++
    littleEndian 2 format.bitsPerSample.toNat ++
    dataId ++ littleEndian 4 size

def encode (format : AudioFormat) (samples : ByteArray) : Except WaveWriteError ByteArray := do
  let front ← header format samples.size
  return front.toByteArray ++ samples

def appendZeros (bytes : ByteArray) : (count : Nat) → ByteArray
  | 0 => bytes
  | count + 1 => appendZeros (bytes.push 0) count

def frameCount (span : Duration) (sampleRate : Nat) : Nat :=
  min (Binary64.roundHalfUp (Binary64.nearest (span.inSeconds * sampleRate))) (word64 - 1)

def silenceSize (format : AudioFormat) (span : Duration) : Except Fault Nat := do
  let size := frameCount span format.sampleRate.toNat * (← format.blockAlign)
  if word64 ≤ size then throw .product
  if word64 / 2 ≤ size then throw .capacity
  return size

/-- A file of silence. Its size is known before its samples are made, so what does not fit is
refused without them. -/
def silence (format : AudioFormat) (span : Duration) : Except WaveWriteError ByteArray := do
  let size ← checked (silenceSize format span)
  let front ← header format size
  return appendZeros front.toByteArray size

end Wave

end Voiceover
