import Voiceover.Proofs.Steps
import Voiceover.Proofs.Wave.Chunks

/-! What a scan has read when it finds the samples. The files in which it finds them are those that
start with chunks that stand end to end and with the head of the data chunk, and what it tells is in
these bytes. They can go on in any way, and a file that ends inside them is turned down. -/

namespace Voiceover.Wave

section Held

variable {file : ByteArray} {offset : Nat}

theorem exists_held {count : Nat} (inside : offset + count ≤ file.size) :
    ∃ bytes, bytes.length = count ∧ Holds file offset bytes := by
  have sized : file.data.toList.length = file.size := Array.length_toList
  refine ⟨(file.data.toList.drop offset).take count, ?_, List.take_prefix _ _⟩
  rw [List.length_take, List.length_drop, sized]
  omega

theorem exists_head (inside : offset + 8 ≤ file.size) :
    ∃ name size, name.length = 4 ∧ size < word32 ∧
      Holds file offset (name ++ littleEndian 4 size) := by
  obtain ⟨bytes, eight, held⟩ := exists_held inside
  have four : (bytes.drop 4).length = 4 := by rw [List.length_drop, eight]
  have limit : fieldLimit (bytes.drop 4).length = word32 := by rw [four]; rfl
  refine ⟨bytes.take 4, ofLittleEndian (bytes.drop 4), ?_, ?_, ?_⟩
  · rw [List.length_take, eight]
    rfl
  · exact (ofLittleEndian_lt _).trans_eq limit
  · have written := littleEndian_ofLittleEndian (bytes.drop 4)
    rw [four] at written
    rw [written, List.take_append_drop]
    exact held

theorem exists_record {name : List UInt8} {size : Nat} (four : name.length = 4)
    (fits : size < word32) (head : Holds file offset (name ++ littleEndian 4 size))
    (inside : offset + 8 + size ≤ file.size) :
    ∃ chunk : Chunk, chunk.name = name ∧ chunk.payload.length = size ∧
      Holds file offset chunk.record := by
  obtain ⟨payload, length, held⟩ := exists_held inside
  refine ⟨⟨name, payload, 0, four, length ▸ fits⟩, rfl, length, ?_⟩
  rw [← length] at head
  apply (Holds.append_iff _ _).mpr
  refine ⟨head, ?_⟩
  rw [Chunk.length_head]
  exact held

theorem holds_zero_iff (bytes : List UInt8) : Holds file 0 bytes ↔ bytes <+: file.data.toList := by
  rw [Holds, List.drop_zero]

theorem toList_extract_zero (count : Nat) :
    (file.extract 0 count).data.toList = file.data.toList.take count := by
  rw [ByteArray.data_extract, Array.toList_extract, List.extract_eq_take_drop, List.drop_zero,
    Nat.sub_zero]

theorem holds_extract_iff {count : Nat} {bytes : List UInt8} :
    Holds (file.extract 0 count) 0 bytes ↔ Holds file 0 bytes ∧ bytes.length ≤ count := by
  rw [holds_zero_iff, holds_zero_iff, toList_extract_zero, List.prefix_take_iff]

theorem Holds.append {bytes : List UInt8} (holds : Holds file 0 bytes) (tail : ByteArray) :
    Holds (file ++ tail) 0 bytes := by
  rw [holds_zero_iff] at holds ⊢
  rw [ByteArray.data_append, Array.toList_append]
  exact holds.trans (List.prefix_append _ _)

end Held

section Steps

variable {file : ByteArray} {offset : Nat} {known : Option AudioFormat} {info : WaveInfo}

theorem require_eq_ok {α : Type} {found : Option α} {value : α} :
    require found = .ok value ↔ found = some value := by
  cases found <;> simp [require]

theorem inside_of_scanChunks (found : scanChunks file offset known = .ok info) :
    offset + 8 ≤ file.size := by
  by_contra outside
  rw [scanChunks] at found
  by_cases ended : file.size ≤ offset
  · simp [if_pos ended] at found
  · by_cases cut : file.size < offset + 4
    · simp [if_neg ended, if_pos cut] at found
    · simp [if_neg ended, if_neg cut, dif_pos (Nat.not_le.mp outside)] at found

/-- When there is more to read behind a payload, the payload is there. -/
theorem exists_chunk {name : List UInt8} {size : Nat} (four : name.length = 4) (fits : size < word32)
    (head : Holds file offset (name ++ littleEndian 4 size))
    (later : scanChunks file (offset + 8 + size) known = .ok info) :
    ∃ chunk : Chunk, chunk.name = name ∧ chunk.payload.length = size ∧
      Holds file offset chunk.record ∧
      scanChunks file (offset + chunk.record.length) known = .ok info := by
  have behind := inside_of_scanChunks later
  obtain ⟨chunk, named, length, record⟩ := exists_record four fits head (by omega)
  refine ⟨chunk, named, length, record, ?_⟩
  rw [chunk.length_record, length, ← Nat.add_assoc]
  exact later

/-- A scan that is going to find the samples stands at the head of the data chunk or at another chunk
that is there as a whole. -/
theorem scanChunks_cases (found : scanChunks file offset known = .ok info) :
    (known = some info.format ∧ info.dataOffset = offset + 8 ∧
      Holds file offset (dataId ++ littleEndian 4 info.dataSize.toNat)) ∨
    ∃ chunk : Chunk, chunk.name ≠ dataId ∧ (chunk.name = formatId → chunk.DescribesPcm) ∧
      Holds file offset chunk.record ∧
      scanChunks file (offset + chunk.record.length) (chunk.describe known) = .ok info := by
  obtain ⟨name, size, four, fits, head⟩ := exists_head (inside_of_scanChunks found)
  rw [scanChunks_head four fits head] at found
  by_cases isFormat : name = formatId
  · rw [if_pos isFormat] at found
    obtain ⟨format, read, found⟩ := bind_eq_ok.mp found
    have behind := inside_of_scanChunks found
    obtain ⟨chunk, rfl, rfl, record, later⟩ := exists_chunk four fits head found
    have payload := ((Holds.append_iff _ _).mp record).2
    rw [chunk.length_head] at payload
    obtain ⟨pcm, rfl⟩ := (formatAt_eq_ok_iff (by omega) payload format).mp read
    have other : chunk.name ≠ dataId := by
      rw [isFormat]
      decide
    have told : chunk.describe known = some chunk.format := if_pos isFormat
    rw [← told] at later
    exact .inr ⟨chunk, other, fun _ => pcm, record, later⟩
  · rw [if_neg isFormat] at found
    by_cases isData : name = dataId
    · rw [if_pos isData] at found
      cases known with
      | none => cases found
      | some format =>
        cases found
        left
        refine ⟨rfl, rfl, ?_⟩
        rw [← isData, UInt32.toNat_ofNat_of_lt' fits]
        exact head
    · -- Nothing of the payload is looked at, but the scan has to find a head behind it.
      rw [if_neg isData] at found
      obtain ⟨chunk, rfl, rfl, record, later⟩ := exists_chunk four fits head found
      have told : chunk.describe known = known := if_neg isFormat
      rw [← told] at later
      exact .inr ⟨chunk, isData, fun same => absurd same isFormat, record, later⟩

/-- Everything between the place where a scan stands and the samples is chunks end to end. -/
theorem exists_records (found : scanChunks file offset known = .ok info) :
    ∃ chunks : List Chunk, (∀ chunk ∈ chunks, chunk.name ≠ dataId) ∧
      (∀ chunk ∈ chunks, chunk.name = formatId → chunk.DescribesPcm) ∧
      chunks.foldl Chunk.describe known = some info.format ∧
      info.dataOffset = offset + (chunks.flatMap Chunk.record).length + 8 ∧
      Holds file offset (chunks.flatMap Chunk.record ++
        (dataId ++ littleEndian 4 info.dataSize.toNat)) := by
  -- Each chunk brings the scan nearer to the end of the file.
  induction rest : file.size - offset using Nat.strong_induction_on generalizing offset known with
  | _ rest ih =>
    obtain ⟨format, place, data⟩ | ⟨chunk, other, pcm, record, later⟩ := scanChunks_cases found
    · refine ⟨[], by simp, by simp, format, ?_, data⟩
      rw [place]
      rfl
    · have inside := inside_of_scanChunks found
      have longer := chunk.length_record
      obtain ⟨chunks, others, pcms, format, place, held⟩ := ih _ (by omega) later rfl
      refine ⟨chunk :: chunks, ?_, ?_, format, ?_, ?_⟩
      · exact List.forall_mem_cons.mpr ⟨other, others⟩
      · exact List.forall_mem_cons.mpr ⟨pcm, pcms⟩
      · rw [place, List.flatMap_cons, List.length_append, Nat.add_assoc offset]
      · rw [List.flatMap_cons, List.append_assoc]
        exact (Holds.append_iff _ _).mpr ⟨record, held⟩

theorem bytesAt?_of_scan (found : scan file = .ok info) :
    bytesAt? file 0 4 = some riffId ∧ bytesAt? file 8 4 = some waveId ∧
      scanChunks file 12 none = .ok info := by
  obtain ⟨riff, riffRead, found⟩ := bind_eq_ok.mp found
  by_cases isRiff : riff = riffId
  · rw [if_neg (not_not_intro isRiff)] at found
    obtain ⟨wave, waveRead, found⟩ := bind_eq_ok.mp found
    by_cases isWave : wave = waveId
    · rw [if_neg (not_not_intro isWave)] at found
      exact ⟨isRiff ▸ require_eq_ok.mp riffRead, isWave ▸ require_eq_ok.mp waveRead, found⟩
    · rw [if_pos isWave] at found
      cases found
  · rw [if_pos isRiff] at found
    cases found

theorem exists_claimed (found : scan file = .ok info) :
    ∃ claimed : List UInt8, claimed.length = 4 ∧ Holds file 0 (riffId ++ claimed ++ waveId) ∧
      scanChunks file 12 none = .ok info := by
  obtain ⟨riffRead, waveRead, later⟩ := bytesAt?_of_scan found
  have riff := ((bytesAt?_eq_some_iff _ _ _ _).mp riffRead).2
  have wave := ((bytesAt?_eq_some_iff _ _ _ _).mp waveRead).2
  have inside : 8 + 4 ≤ file.size := wave.le_size (by decide)
  obtain ⟨claimed, four, held⟩ : ∃ bytes, bytes.length = 4 ∧ Holds file 4 bytes :=
    exists_held (by omega)
  exact ⟨claimed, four, (holds_start_iff four).mpr ⟨riff, held, wave⟩, later⟩

end Steps

theorem exists_format_of_foldl {chunks : List Chunk} {format : AudioFormat}
    (known : chunks.foldl Chunk.describe none = some format) :
    ∃ chunk ∈ chunks, chunk.name = formatId := by
  by_contra absent
  have unknown : chunks.foldl Chunk.describe none = none := by
    apply List.foldlRecOn chunks Chunk.describe (motive := fun told => told = none) rfl
    intro told none chunk member
    have other : chunk.name ≠ formatId := fun same => absent ⟨chunk, member, same⟩
    rw [Chunk.describe, if_neg other, none]
  rw [unknown] at known
  cases known

/-- A file up to its samples: chunks of which one at least describes the format, then the head of the
data chunk. -/
structure Preamble where
  claimed : List UInt8
  chunks : List Chunk
  format : AudioFormat
  dataSize : UInt32
  length_claimed : claimed.length = 4
  name_ne_dataId : ∀ chunk ∈ chunks, chunk.name ≠ dataId
  pcm : ∀ chunk ∈ chunks, chunk.name = formatId → chunk.DescribesPcm
  described : chunks.foldl Chunk.describe none = some format

namespace Preamble

variable (preamble : Preamble)

def bytes : List UInt8 :=
  riffId ++ preamble.claimed ++ waveId ++ (preamble.chunks.flatMap Chunk.record ++
    (dataId ++ littleEndian 4 preamble.dataSize.toNat))

def info : WaveInfo := ⟨preamble.format, preamble.bytes.length, preamble.dataSize⟩

theorem length_bytes :
    preamble.bytes.length = 12 + (preamble.chunks.flatMap Chunk.record).length + 8 := by
  rw [bytes, List.length_append, length_start preamble.length_claimed, List.length_append,
    length_named rfl, Nat.add_assoc]

variable {preamble} {file : ByteArray}

theorem holds_parts (holds : Holds file 0 preamble.bytes) :
    Holds file 0 (riffId ++ preamble.claimed ++ waveId) ∧
      Holds file 12 (preamble.chunks.flatMap Chunk.record) ∧
      Holds file (preamble.bytes.length - 8) (dataId ++ littleEndian 4 preamble.dataSize.toNat) := by
  obtain ⟨start, behind⟩ := (Holds.append_iff _ _).mp holds
  rw [length_start preamble.length_claimed] at behind
  obtain ⟨records, data⟩ := (Holds.append_iff _ _).mp behind
  have place := preamble.length_bytes
  have before : preamble.bytes.length - 8 =
      0 + 12 + (preamble.chunks.flatMap Chunk.record).length := by omega
  rw [before]
  exact ⟨start, records, data⟩

theorem scan_of_holds (holds : Holds file 0 preamble.bytes) : scan file = .ok preamble.info := by
  obtain ⟨start, records, data⟩ := holds_parts holds
  rw [preamble.length_bytes, Nat.add_sub_cancel] at data
  rw [Wave.scan_of_holds preamble.length_claimed start,
    scanChunks_records preamble.name_ne_dataId preamble.pcm records, preamble.described,
    scanChunks_data preamble.dataSize.toNat_lt data, UInt32.ofNat_toNat, info, preamble.length_bytes]

/-- The format stands in one of the chunks, as a whole before the head of the data chunk. -/
theorem exists_format (holds : Holds file 0 preamble.bytes) :
    ∃ (place : Nat) (chunk : Chunk), Holds file place chunk.record ∧
      place + chunk.record.length + 8 ≤ preamble.bytes.length ∧
      chunk.name = formatId ∧ chunk.DescribesPcm ∧ chunk.format = preamble.format := by
  obtain ⟨earlier, last, later, split, named, -, known⟩ :=
    exists_last_format (exists_format_of_foldl preamble.described) none
  rw [preamble.described] at known
  have member : last ∈ preamble.chunks := by simp [split]
  have records := (holds_parts holds).2.1
  have longer := preamble.length_bytes
  rw [split, List.flatMap_append, List.flatMap_cons] at records longer
  obtain ⟨-, others⟩ := (Holds.append_iff _ _).mp records
  obtain ⟨record, -⟩ := (Holds.append_iff _ _).mp others
  refine ⟨_, last, record, ?_, named, preamble.pcm last member named, (Option.some.inj known).symm⟩
  rw [longer, List.length_append, List.length_append]
  omega

end Preamble

/-- The files in which a scan finds the samples. -/
theorem scan_eq_ok_iff {file : ByteArray} {info : WaveInfo} :
    scan file = .ok info ↔
      ∃ preamble : Preamble, preamble.info = info ∧ Holds file 0 preamble.bytes := by
  constructor
  · intro found
    obtain ⟨claimed, four, start, later⟩ := exists_claimed found
    obtain ⟨chunks, others, pcms, format, place, held⟩ := exists_records later
    let preamble : Preamble :=
      ⟨claimed, chunks, info.format, info.dataSize, four, others, pcms, format⟩
    refine ⟨preamble, ?_, ?_⟩
    · rw [Preamble.info, preamble.length_bytes, ← place]
    · apply (Holds.append_iff _ _).mpr
      rw [length_start four]
      exact ⟨start, held⟩
  · intro ⟨preamble, same, holds⟩
    rw [← same]
    exact Preamble.scan_of_holds holds

/-- What a scan tells stands before the samples: the format in a chunk that is there as a whole, and how
many bytes the samples are in the head of the data chunk. What follows makes no difference, and when one
of the bytes before it is missing nothing is found. -/
theorem scan_local {file : ByteArray} {info : WaveInfo} (found : scan file = .ok info) :
    info.dataOffset ≤ file.size ∧
    (8 ≤ info.dataOffset ∧
      Holds file (info.dataOffset - 8) (dataId ++ littleEndian 4 info.dataSize.toNat)) ∧
    (∃ (place : Nat) (chunk : Chunk), Holds file place chunk.record ∧
      place + chunk.record.length + 8 ≤ info.dataOffset ∧
      chunk.name = formatId ∧ chunk.DescribesPcm ∧ chunk.format = info.format) ∧
    (∀ tail, scan (file.extract 0 info.dataOffset ++ tail) = .ok info) ∧
    ∀ count < info.dataOffset, ∃ reason, scan (file.extract 0 count) = .error reason := by
  obtain ⟨preamble, rfl, holds⟩ := scan_eq_ok_iff.mp found
  have longer := preamble.length_bytes
  have inside := holds.le_size (List.ne_nil_of_length_pos (by omega))
  rw [Nat.zero_add] at inside
  refine ⟨inside, ⟨?_, ?_⟩, Preamble.exists_format holds, ?_, ?_⟩
  · change 8 ≤ preamble.bytes.length
    omega
  · exact (Preamble.holds_parts holds).2.2
  · intro tail
    have cut : Holds (file.extract 0 preamble.info.dataOffset) 0 preamble.bytes :=
      holds_extract_iff.mpr ⟨holds, le_rfl⟩
    exact Preamble.scan_of_holds (cut.append tail)
  · intro count short
    cases scanned : scan (file.extract 0 count) with
    | error reason => exact ⟨reason, rfl⟩
    | ok told =>
      -- Its preamble would be one of the whole file, but a scan tells one place only.
      obtain ⟨shorter, rfl, cut⟩ := scan_eq_ok_iff.mp scanned
      obtain ⟨also, fits⟩ := holds_extract_iff.mp cut
      have again := Preamble.scan_of_holds also
      rw [found] at again
      have same : preamble.bytes.length = shorter.bytes.length :=
        congrArg WaveInfo.dataOffset (Except.ok.inj again)
      have bound : count < preamble.bytes.length := short
      omega

def announced : Preamble where
  claimed := [1, 2, 3, 4]
  chunks := [.ofFormat .speech 32000 2, ⟨chunkId "LIST", [65, 66, 67], 0, rfl, by decide⟩,
    .ofFormat ⟨48000, 24, 2⟩ 288000 6]
  format := ⟨48000, 24, 2⟩
  dataSize := 4096
  length_claimed := rfl
  name_ne_dataId := by decide
  pcm := by decide
  described := by decide

/-- One byte of the many is there. It is not read, and without the last byte before it nothing is found. -/
theorem scan_local_announced :
    let file := (announced.bytes ++ [7]).toByteArray
    let info : WaveInfo := ⟨⟨48000, 24, 2⟩, 79, 4096⟩
    scan file = .ok info ∧ (∀ tail, scan (file.extract 0 79 ++ tail) = .ok info) ∧
      ∃ reason, scan (file.extract 0 78) = .error reason := by
  intro file info
  have found : scan file = .ok info := by decide +kernel
  obtain ⟨-, -, -, whole, cut⟩ := scan_local found
  exact ⟨found, whole, cut 78 (by decide)⟩

end Voiceover.Wave
