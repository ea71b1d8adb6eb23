import Voiceover.Proofs.Wave.Chunks
import Voiceover.Proofs.Wave.Frames
import Voiceover.Wave.Encode

/-! Written WAVE files. What is written is the plainest file there is, a format chunk and the samples
behind it, so a scan finds in it what was put there. -/

namespace Voiceover.Wave

def written (format : AudioFormat) (samples : List UInt8) (short : samples.length < word32)
    (trailer : List UInt8) : Parts where
  claimed := littleEndian 4 (36 + samples.length)
  chunks := [.ofFormat format (format.sampleRate.toNat * (format.frameBits / 8))
    (format.frameBits / 8)]
  samples := samples
  trailer := trailer
  length_claimed := rfl
  name_ne_dataId := by
    rw [List.forall_mem_singleton]
    have formatPasses : formatId ≠ dataId := by decide
    exact formatPasses
  pcm := by
    rw [List.forall_mem_singleton]
    exact fun _ => Chunk.describesPcm_ofFormat _ _ _
  described := ⟨_, List.mem_singleton_self _, rfl⟩
  length_samples := short

def front (format : AudioFormat) (size : Nat) : List UInt8 :=
  riffId ++ littleEndian 4 (36 + size) ++ waveId ++
    ((Chunk.ofFormat format (format.sampleRate.toNat * (format.frameBits / 8))
      (format.frameBits / 8)).record ++ (dataId ++ littleEndian 4 size))

theorem length_front (format : AudioFormat) (size : Nat) : (front format size).length = 44 := by
  simp only [front, Chunk.record, Chunk.head, Chunk.ofFormat, List.length_append,
    length_littleEndian]
  rfl

section Written

variable (format : AudioFormat) {samples : List UInt8} (short : samples.length < word32)
  (trailer : List UInt8)

theorem bytes_written : (written format samples short trailer).bytes Chunk.record =
    front format samples.length ++ (samples ++ trailer) := by
  simp only [Parts.bytes, written, front, List.flatMap_singleton, List.append_assoc]

theorem finds_written :
    Finds ((written format samples short trailer).file Chunk.record) format 44 samples := by
  have known : (written format samples short trailer).chunks.foldl Chunk.describe none =
      some format := congrArg some (Chunk.format_ofFormat format _ _)
  exact (written format samples short trailer).finds_of_records Chunk.record rfl known

end Written

theorem header_eq_ok {format : AudioFormat} (countable : format.Countable) {size : Nat}
    (fits : 36 + size < word32) : header format size = .ok (front format size) := by
  rw [header, if_neg (by omega), if_neg (by omega), countable.byteRate_eq_ok,
    countable.blockAlign_eq_ok]
  simp only [front, Chunk.record, Chunk.head, Chunk.ofFormat, List.append_assoc]
  rfl

theorem encode_eq_ok {format : AudioFormat} (countable : format.Countable) {samples : ByteArray}
    (fits : 36 + samples.size < word32) :
    encode format samples = .ok (front format samples.size ++ samples.data.toList).toByteArray := by
  have joined : (front format samples.size ++ samples.data.toList).toByteArray =
      (front format samples.size).toByteArray ++ samples := by
    rw [List.toByteArray_append, toByteArray_toList_data]
  rw [encode, header_eq_ok countable fits, joined]
  rfl

/-- A file that has been written tells its own size and holds the samples, and a scan of it, with
anything behind it, finds the format and the samples as they were given. -/
theorem scan_encode (format : AudioFormat) (countable : format.Countable) (samples : ByteArray)
    (fits : samples.size + 37 ≤ word32) :
    ∃ file, encode format samples = .ok file ∧ file.size = 44 + samples.size ∧
      numberAt? file 4 4 = some (file.size - 8) ∧
      file.data.toList.drop 44 = samples.data.toList ∧
      ∀ more, Finds (file ++ more) format 44 samples.data.toList := by
  have size : samples.data.toList.length = samples.size := Array.length_toList
  have short : samples.data.toList.length < word32 := by omega
  have bytes (trailer : List UInt8) := bytes_written format short trailer
  rw [size] at bytes
  have fileSize : (front format samples.size ++ samples.data.toList).toByteArray.size =
      44 + samples.size := by
    rw [List.size_toByteArray, List.length_append, length_front, size]
  refine ⟨_, encode_eq_ok countable (by omega), fileSize, ?_, ?_, ?_⟩
  · have ownSize : 44 + samples.size - 8 = 36 + samples.size := by omega
    rw [fileSize, ownSize]
    have claimed : Holds (front format samples.size ++ samples.data.toList).toByteArray 4
        (littleEndian 4 (36 + samples.size)) := by
      have whole := Holds.whole (front format samples.size ++ samples.data.toList)
      simp only [front, List.append_assoc] at whole ⊢
      exact ((Holds.append_iff _ _).mp ((Holds.append_iff _ _).mp whole).2).1
    apply numberAt?_of_holds claimed
    exact Nat.lt_of_lt_of_eq (by omega : 36 + samples.size < word32) rfl
  · rw [List.toList_data_toByteArray, ← length_front format samples.size, List.drop_left]
  · intro more
    have grown : (front format samples.size ++ samples.data.toList).toByteArray ++ more =
        (written format samples.data.toList short more.data.toList).file Chunk.record := by
      calc
        _ = (front format samples.size ++ samples.data.toList).toByteArray ++
            more.data.toList.toByteArray := by rw [toByteArray_toList_data more]
        _ = (front format samples.size ++ (samples.data.toList ++ more.data.toList)).toByteArray := by
          rw [← List.toByteArray_append, List.append_assoc]
        _ = _ := by rw [Parts.file, bytes]
    rw [grown]
    exact finds_written format short _

/-- The highest sampling rate there is, and an odd number of samples with a byte behind them. -/
theorem scan_encode_fastest :
    ∃ file, encode ⟨4294967295, 8, 1⟩ ⟨#[1, 2, 3]⟩ = .ok file ∧ file.size = 47 ∧
      Finds (file ++ ⟨#[4]⟩) ⟨4294967295, 8, 1⟩ 44 [1, 2, 3] := by
  obtain ⟨file, encoded, size, -, -, found⟩ :=
    scan_encode ⟨4294967295, 8, 1⟩ ⟨by decide, by decide⟩ ⟨#[1, 2, 3]⟩ (by decide)
  exact ⟨file, encoded, size, found ⟨#[4]⟩⟩

end Voiceover.Wave
