import Voiceover.Duration

/-! The layout of PCM samples in a WAVE file, and the little-endian fields and chunk names that such a
file is made of. -/

namespace Voiceover

structure AudioFormat where
  sampleRate : UInt32
  bitsPerSample : UInt16
  channels : UInt16
deriving DecidableEq

namespace AudioFormat

def speech : AudioFormat := ⟨16000, 16, 1⟩

def blockAlign (format : AudioFormat) : Except Fault Nat :=
  let bits := format.channels.toNat * format.bitsPerSample.toNat
  if bits < word16 then .ok (bits / 8) else .error .product

def byteRate (format : AudioFormat) : Except Fault Nat := do
  let bytes := format.sampleRate.toNat * (← format.blockAlign)
  if bytes < word32 then .ok bytes else .error .product

end AudioFormat

namespace Wave

def littleEndian : (width : Nat) → (value : Nat) → List UInt8
  | 0, _ => []
  | width + 1, value => UInt8.ofNat (value % 256) :: littleEndian width (value / 256)

def ofLittleEndian : List UInt8 → Nat
  | [] => 0
  | byte :: rest => byte.toNat + 256 * ofLittleEndian rest

def fieldLimit : (width : Nat) → Nat
  | 0 => 1
  | width + 1 => 256 * fieldLimit width

@[simp] theorem length_littleEndian (width value : Nat) :
    (littleEndian width value).length = width := by
  induction width generalizing value with
  | zero => rfl
  | succ width ih => simp [littleEndian, ih]

theorem ofLittleEndian_littleEndian (width value : Nat) :
    ofLittleEndian (littleEndian width value) = value % fieldLimit width := by
  induction width generalizing value with
  | zero => simp [littleEndian, ofLittleEndian, fieldLimit, Nat.mod_one]
  | succ width ih =>
    have byte : (UInt8.ofNat (value % 256)).toNat = value % 256 := by
      simp [UInt8.toNat_ofNat']
    rw [littleEndian, ofLittleEndian, ih, byte, fieldLimit, Nat.mod_mul]

theorem ofLittleEndian_lt (bytes : List UInt8) :
    ofLittleEndian bytes < fieldLimit bytes.length := by
  induction bytes with
  | nil => decide
  | cons byte rest ih =>
    have small := byte.toNat_lt
    rw [ofLittleEndian, List.length_cons, fieldLimit]
    omega

/-- Bytes of the right number are what a number is written as. -/
theorem littleEndian_ofLittleEndian (bytes : List UInt8) :
    littleEndian bytes.length (ofLittleEndian bytes) = bytes := by
  induction bytes with
  | nil => rfl
  | cons byte rest ih =>
    have small := byte.toNat_lt
    have low : (byte.toNat + 256 * ofLittleEndian rest) % 256 = byte.toNat := by omega
    have high : (byte.toNat + 256 * ofLittleEndian rest) / 256 = ofLittleEndian rest := by omega
    rw [ofLittleEndian, List.length_cons, littleEndian, low, high, ih, UInt8.ofNat_toNat]

def chunkId (name : String) : List UInt8 := name.toList.map fun c => UInt8.ofNat c.toNat

def riffId : List UInt8 := chunkId "RIFF"
def waveId : List UInt8 := chunkId "WAVE"
def formatId : List UInt8 := chunkId "fmt "
def dataId : List UInt8 := chunkId "data"

def pcmTag : Nat := 1

def bytesAt? (file : ByteArray) (offset : Nat) : (count : Nat) → Option (List UInt8)
  | 0 => some []
  | count + 1 => do
      let byte ← file[offset]?
      let rest ← bytesAt? file (offset + 1) count
      return byte :: rest

def numberAt? (file : ByteArray) (offset width : Nat) : Option Nat :=
  (bytesAt? file offset width).map ofLittleEndian

end Wave

end Voiceover
