import Voiceover.Proofs.Wave.Holding
import Voiceover.Wave.Scan

/-! WAVE files as the chunks they are made of, and what a scan makes of them. A scan goes from the end
of one payload to what stands right behind it. It finds the samples of every file whose chunks stand
end to end, and a byte that fills up an odd payload is where it takes a wrong turn. -/

namespace Voiceover.Wave

theorem length_named {name : List UInt8} (four : name.length = 4) (size : Nat) :
    (name ++ littleEndian 4 size).length = 8 := by
  rw [List.length_append, length_littleEndian, four]

theorem length_start {claimed : List UInt8} (four : claimed.length = 4) :
    (riffId ++ claimed ++ waveId).length = 12 := by
  rw [List.length_append, List.length_append, four]
  rfl

theorem holds_start_iff {file : ByteArray} {claimed : List UInt8} (four : claimed.length = 4) :
    Holds file 0 (riffId ++ claimed ++ waveId) ↔
      Holds file 0 riffId ∧ Holds file 4 claimed ∧ Holds file 8 waveId := by
  have front : 0 + riffId.length = 4 := rfl
  have behind : 0 + (riffId ++ claimed).length = 8 := by
    rw [List.length_append, four]
    rfl
  rw [Holds.append_iff, Holds.append_iff, front, behind, and_assoc]

/-- A chunk as it is written: its name, its payload, and the byte that follows a payload of odd size. -/
structure Chunk where
  name : List UInt8
  payload : List UInt8
  filler : UInt8
  length_name : name.length = 4
  length_payload : payload.length < word32

namespace Chunk

def head (chunk : Chunk) : List UInt8 :=
  chunk.name ++ littleEndian 4 chunk.payload.length

def record (chunk : Chunk) : List UInt8 :=
  chunk.head ++ chunk.payload

def padded (chunk : Chunk) : List UInt8 :=
  chunk.record ++ if chunk.payload.length % 2 = 1 then [chunk.filler] else []

def field (chunk : Chunk) (place width : Nat) : Nat :=
  ofLittleEndian ((chunk.payload.drop place).take width)

def format (chunk : Chunk) : AudioFormat where
  sampleRate := .ofNat (chunk.field 4 4)
  bitsPerSample := .ofNat (chunk.field 14 2)
  channels := .ofNat (chunk.field 2 2)

structure DescribesPcm (chunk : Chunk) : Prop where
  long : 16 ≤ chunk.payload.length
  tag : chunk.field 0 2 = pcmTag

instance (chunk : Chunk) : Decidable chunk.DescribesPcm :=
  decidable_of_iff (16 ≤ chunk.payload.length ∧ chunk.field 0 2 = pcmTag)
    ⟨fun ⟨long, tag⟩ => ⟨long, tag⟩, fun pcm => ⟨pcm.long, pcm.tag⟩⟩

def describe (known : Option AudioFormat) (chunk : Chunk) : Option AudioFormat :=
  if chunk.name = formatId then some chunk.format else known

/-- The shortest chunk that describes the format. Nothing reads the bytes of a second and of a frame
that it tells. -/
def ofFormat (format : AudioFormat) (byteRate blockAlign : Nat) : Chunk where
  name := formatId
  payload := littleEndian 2 pcmTag ++ littleEndian 2 format.channels.toNat ++
    littleEndian 4 format.sampleRate.toNat ++ littleEndian 4 byteRate ++
    littleEndian 2 blockAlign ++ littleEndian 2 format.bitsPerSample.toNat
  filler := 0
  length_name := rfl
  length_payload := by
    simp only [List.length_append, length_littleEndian]
    decide

theorem describesPcm_ofFormat (format : AudioFormat) (byteRate blockAlign : Nat) :
    (ofFormat format byteRate blockAlign).DescribesPcm where
  long := by simp [ofFormat]
  tag := ofLittleEndian_littleEndian 2 pcmTag

theorem format_ofFormat (format : AudioFormat) (byteRate blockAlign : Nat) :
    (ofFormat format byteRate blockAlign).format = format := by
  have channels : (ofFormat format byteRate blockAlign).field 2 2 = format.channels.toNat :=
    (ofLittleEndian_littleEndian 2 _).trans (Nat.mod_eq_of_lt format.channels.toNat_lt)
  have sampleRate : (ofFormat format byteRate blockAlign).field 4 4 = format.sampleRate.toNat :=
    (ofLittleEndian_littleEndian 4 _).trans (Nat.mod_eq_of_lt format.sampleRate.toNat_lt)
  have bits : (ofFormat format byteRate blockAlign).field 14 2 = format.bitsPerSample.toNat :=
    (ofLittleEndian_littleEndian 2 _).trans (Nat.mod_eq_of_lt format.bitsPerSample.toNat_lt)
  rw [Chunk.format, channels, sampleRate, bits, UInt32.ofNat_toNat, UInt16.ofNat_toNat,
    UInt16.ofNat_toNat]

theorem length_head (chunk : Chunk) : chunk.head.length = 8 := by
  rw [head, length_named chunk.length_name]

theorem length_record (chunk : Chunk) : chunk.record.length = 8 + chunk.payload.length := by
  rw [record, List.length_append, length_head]

theorem padded_of_even {chunk : Chunk} (even : chunk.payload.length % 2 = 0) :
    chunk.padded = chunk.record := by
  rw [padded, if_neg (by omega), List.append_nil]

theorem padded_of_odd {chunk : Chunk} (odd : chunk.payload.length % 2 = 1) :
    chunk.padded = chunk.record ++ [chunk.filler] := by
  rw [padded, if_pos odd]

end Chunk

section Steps

variable {file : ByteArray} {offset : Nat}

/-- A scan that stands at the head of a chunk reads it, whatever follows. -/
theorem scanChunks_head {name : List UInt8} {size : Nat} (four : name.length = 4)
    (fits : size < word32) (holds : Holds file offset (name ++ littleEndian 4 size))
    (known : Option AudioFormat) :
    scanChunks file offset known =
      if name = formatId then do
        let format ← formatAt file (offset + 8) size
        scanChunks file (offset + 8 + size) (some format)
      else if name = dataId then
        match known with
        | some format => .ok ⟨format, offset + 8, .ofNat size⟩
        | none => .error .missingFormat
      else scanChunks file (offset + 8 + size) known := by
  have length := length_named four size
  have inside := holds.le_size (List.ne_nil_of_length_pos (by omega))
  obtain ⟨named, sized⟩ := (Holds.append_iff _ _).mp holds
  have nameRead := bytesAt?_of_holds named
  have sizeRead := numberAt?_of_holds sized fits
  rw [four] at nameRead sizeRead
  -- The whole head is in the file, so the scan gives up neither here nor in the middle of it.
  rw [scanChunks, if_neg (by omega), if_neg (by omega), dif_neg (by omega), nameRead, sizeRead]
  rfl

/-- What is made of a payload that is there. -/
theorem formatAt_eq {chunk : Chunk} (inside : offset + chunk.payload.length ≤ file.size)
    (holds : Holds file offset chunk.payload) :
    formatAt file offset chunk.payload.length =
      if chunk.payload.length < 16 then .error .shortFormat
      else if chunk.field 0 2 ≠ pcmTag then .error (.unsupportedEncoding (chunk.field 0 2))
      else .ok chunk.format := by
  rw [formatAt, if_neg (by omega)]
  by_cases short : chunk.payload.length < 16
  · rw [if_pos short, if_pos short]
    rfl
  · have read (place width : Nat) (within : place + width ≤ 16) :
        numberAt? file (offset + place) width = some (chunk.field place width) :=
      numberAt?_slice holds (by omega)
    have tagRead := read 0 2 (by omega)
    rw [Nat.add_zero] at tagRead
    rw [if_neg short, if_neg short, tagRead, read 2 2 (by omega), read 4 4 (by omega),
      read 14 2 (by omega)]
    by_cases coded : chunk.field 0 2 = pcmTag
    · rw [if_neg (not_not_intro coded), coded]
      rfl
    · rw [if_pos coded]
      simp only [require, bind, Except.bind, pure, Except.pure, if_pos coded]
      rfl

theorem formatAt_eq_ok_iff {chunk : Chunk} (inside : offset + chunk.payload.length ≤ file.size)
    (holds : Holds file offset chunk.payload) (format : AudioFormat) :
    formatAt file offset chunk.payload.length = .ok format ↔
      chunk.DescribesPcm ∧ chunk.format = format := by
  rw [formatAt_eq inside holds]
  constructor
  · intro read
    by_cases short : chunk.payload.length < 16
    · simp [if_pos short] at read
    · by_cases coded : chunk.field 0 2 = pcmTag
      · rw [if_neg short, if_neg (not_not_intro coded)] at read
        exact ⟨⟨Nat.not_lt.mp short, coded⟩, Except.ok.inj read⟩
      · simp [if_neg short, if_pos coded] at read
  · intro ⟨pcm, same⟩
    have long := pcm.long
    rw [if_neg (by omega), if_neg (not_not_intro pcm.tag), same]

theorem formatAt_of_holds {chunk : Chunk} (pcm : chunk.DescribesPcm)
    (holds : Holds file offset chunk.payload) :
    formatAt file offset chunk.payload.length = .ok chunk.format := by
  have long := pcm.long
  have inside := holds.le_size (List.ne_nil_of_length_pos (by omega))
  exact (formatAt_eq_ok_iff inside holds _).mpr ⟨pcm, rfl⟩

theorem scanChunks_record {chunk : Chunk} (other : chunk.name ≠ dataId)
    (pcm : chunk.name = formatId → chunk.DescribesPcm) (holds : Holds file offset chunk.record)
    (known : Option AudioFormat) :
    scanChunks file offset known =
      scanChunks file (offset + chunk.record.length) (chunk.describe known) := by
  obtain ⟨headed, loaded⟩ := (Holds.append_iff _ _).mp holds
  rw [chunk.length_head] at loaded
  have next : offset + chunk.record.length = offset + 8 + chunk.payload.length := by
    rw [chunk.length_record]
    omega
  rw [scanChunks_head chunk.length_name chunk.length_payload headed, next, Chunk.describe]
  by_cases isFormat : chunk.name = formatId
  · rw [if_pos isFormat, if_pos isFormat, formatAt_of_holds (pcm isFormat) loaded]
    rfl
  · rw [if_neg isFormat, if_neg isFormat, if_neg other]

theorem scanChunks_records {chunks : List Chunk} (other : ∀ chunk ∈ chunks, chunk.name ≠ dataId)
    (pcm : ∀ chunk ∈ chunks, chunk.name = formatId → chunk.DescribesPcm)
    (holds : Holds file offset (chunks.flatMap Chunk.record)) (known : Option AudioFormat) :
    scanChunks file offset known =
      scanChunks file (offset + (chunks.flatMap Chunk.record).length)
        (chunks.foldl Chunk.describe known) := by
  -- Each chunk moves the place and may change the format, so both vary.
  induction chunks generalizing offset known with
  | nil => rfl
  | cons chunk later ih =>
    rw [List.flatMap_cons] at holds ⊢
    obtain ⟨first, rest⟩ := (Holds.append_iff _ _).mp holds
    rw [List.forall_mem_cons] at other pcm
    rw [scanChunks_record other.1 pcm.1 first, ih other.2 pcm.2 rest, List.length_append,
      Nat.add_assoc, List.foldl_cons]

theorem scanChunks_data {size : Nat} (fits : size < word32)
    (holds : Holds file offset (dataId ++ littleEndian 4 size)) (format : AudioFormat) :
    scanChunks file offset (some format) = .ok ⟨format, offset + 8, .ofNat size⟩ := by
  rw [scanChunks_head rfl fits holds, if_neg (by decide), if_pos rfl]

theorem scan_of_holds {claimed : List UInt8} (four : claimed.length = 4)
    (holds : Holds file 0 (riffId ++ claimed ++ waveId)) :
    scan file = scanChunks file 12 none := by
  obtain ⟨riff, -, wave⟩ := (holds_start_iff four).mp holds
  have riffRead : bytesAt? file 0 4 = some riffId := bytesAt?_of_holds riff
  have waveRead : bytesAt? file 8 4 = some waveId := bytesAt?_of_holds wave
  rw [scan, riffRead, waveRead]
  rfl

end Steps

/-- Among chunks of which one describes the format, the last of these decides. -/
theorem exists_last_format {chunks : List Chunk} (described : ∃ chunk ∈ chunks, chunk.name = formatId)
    (known : Option AudioFormat) :
    ∃ earlier last later, chunks = earlier ++ last :: later ∧ last.name = formatId ∧
      (∀ chunk ∈ later, chunk.name ≠ formatId) ∧
      chunks.foldl Chunk.describe known = some last.format := by
  -- The last chunk of all decides when it is a format, and is out of the question otherwise.
  induction chunks using List.reverseRecOn with
  | nil => simp at described
  | append_singleton front chunk ih =>
    rw [List.foldl_append, List.foldl_cons, List.foldl_nil, Chunk.describe]
    by_cases isFormat : chunk.name = formatId
    · exact ⟨front, chunk, [], rfl, isFormat, by simp, if_pos isFormat⟩
    · obtain ⟨other, member, named⟩ := described
      have before : other ∈ front := by
        rcases List.mem_append.mp member with inside | same
        · exact inside
        · exact absurd (List.mem_singleton.mp same ▸ named) isFormat
      obtain ⟨earlier, last, later, split, lastNamed, others, known⟩ := ih ⟨other, before, named⟩
      refine ⟨earlier, last, later ++ [chunk], by simp [split], lastNamed, ?_, ?_⟩
      · intro entry inside
        rcases List.mem_append.mp inside with within | same
        · exact others entry within
        · exact List.mem_singleton.mp same ▸ isFormat
      · rw [if_neg isFormat, known]

/-- A WAVE file of uncompressed samples, part by part: any chunks, of which one at least describes the
format, then the samples and anything behind them. -/
structure Parts where
  claimed : List UInt8
  chunks : List Chunk
  samples : List UInt8
  trailer : List UInt8
  length_claimed : claimed.length = 4
  name_ne_dataId : ∀ chunk ∈ chunks, chunk.name ≠ dataId
  pcm : ∀ chunk ∈ chunks, chunk.name = formatId → chunk.DescribesPcm
  described : ∃ chunk ∈ chunks, chunk.name = formatId
  length_samples : samples.length < word32

def Finds (file : ByteArray) (format : AudioFormat) (offset : Nat) (samples : List UInt8) : Prop :=
  ∃ info, scan file = .ok info ∧ info.format = format ∧ info.dataOffset = offset ∧
    info.dataSize.toNat = samples.length ∧ Holds file offset samples

namespace Parts

def bytes (parts : Parts) (written : Chunk → List UInt8) : List UInt8 :=
  riffId ++ parts.claimed ++ waveId ++ (parts.chunks.flatMap written ++
    (dataId ++ littleEndian 4 parts.samples.length ++ (parts.samples ++ parts.trailer)))

def file (parts : Parts) (written : Chunk → List UInt8) : ByteArray :=
  (parts.bytes written).toByteArray

def dataOffset (parts : Parts) (written : Chunk → List UInt8) : Nat :=
  12 + (parts.chunks.flatMap written).length + 8

variable (parts : Parts) (written : Chunk → List UInt8)

theorem holds_file :
    Holds (parts.file written) 0 (riffId ++ parts.claimed ++ waveId) ∧
    Holds (parts.file written) 12 (parts.chunks.flatMap written) ∧
    Holds (parts.file written) (12 + (parts.chunks.flatMap written).length)
      (dataId ++ littleEndian 4 parts.samples.length) ∧
    Holds (parts.file written) (parts.dataOffset written) parts.samples := by
  have whole : Holds (parts.file written) 0 (parts.bytes written) := .whole _
  obtain ⟨start, behind⟩ := (Holds.append_iff _ _).mp whole
  rw [length_start parts.length_claimed] at behind
  obtain ⟨chunks, behind⟩ := (Holds.append_iff _ _).mp behind
  obtain ⟨head, behind⟩ := (Holds.append_iff _ _).mp behind
  obtain ⟨samples, -⟩ := (Holds.append_iff _ _).mp behind
  rw [length_named rfl] at samples
  exact ⟨start, chunks, head, samples⟩

theorem scan_file : scan (parts.file written) = scanChunks (parts.file written) 12 none :=
  scan_of_holds parts.length_claimed (parts.holds_file written).1

/-- A scan passes the first chunks of a file, as far as these stand end to end. -/
theorem scan_passing {passed : List Chunk} (within : ∀ chunk ∈ passed, chunk ∈ parts.chunks)
    {behind : List UInt8}
    (endToEnd : parts.chunks.flatMap written = passed.flatMap Chunk.record ++ behind) :
    scan (parts.file written) =
        scanChunks (parts.file written) (12 + (passed.flatMap Chunk.record).length)
          (passed.foldl Chunk.describe none) ∧
      Holds (parts.file written) (12 + (passed.flatMap Chunk.record).length) behind := by
  have holds := (parts.holds_file written).2.1
  rw [endToEnd] at holds
  obtain ⟨first, later⟩ := (Holds.append_iff _ _).mp holds
  refine ⟨?_, later⟩
  rw [scan_file]
  exact scanChunks_records (fun chunk member => parts.name_ne_dataId chunk (within chunk member))
    (fun chunk member => parts.pcm chunk (within chunk member)) first none

theorem finds_of_records (endToEnd : parts.chunks.flatMap written = parts.chunks.flatMap Chunk.record)
    {format : AudioFormat} (known : parts.chunks.foldl Chunk.describe none = some format) :
    Finds (parts.file written) format (parts.dataOffset written) parts.samples := by
  obtain ⟨-, -, head, samples⟩ := parts.holds_file written
  have passed := (parts.scan_passing written (fun _ member => member)
    (endToEnd.trans (List.append_nil _).symm)).1
  have scanned : scan (parts.file written) =
      .ok ⟨format, parts.dataOffset written, .ofNat parts.samples.length⟩ := by
    rw [passed, known, ← endToEnd, scanChunks_data parts.length_samples head]
    rfl
  have counted : (UInt32.ofNat parts.samples.length).toNat = parts.samples.length :=
    UInt32.toNat_ofNat_of_lt' parts.length_samples
  exact ⟨_, scanned, rfl, rfl, counted, samples⟩

theorem flatMap_padded {chunks : List Chunk}
    (even : ∀ chunk ∈ chunks, chunk.payload.length % 2 = 0) :
    chunks.flatMap Chunk.padded = chunks.flatMap Chunk.record := by
  apply List.flatMap_congr
  intro chunk member
  exact Chunk.padded_of_even (even chunk member)

end Parts

/-- A scan finds the samples behind chunks that stand end to end, of whatever size each of them is, and
so behind chunks of even size. In a file with an odd chunk it comes to the filler behind the first of
these and takes that for the start of the next name. -/
theorem scan_parts (parts : Parts) :
    ∃ earlier last later, parts.chunks = earlier ++ last :: later ∧ last.name = formatId ∧
      (∀ chunk ∈ later, chunk.name ≠ formatId) ∧
      Finds (parts.file Chunk.record) last.format (parts.dataOffset Chunk.record) parts.samples ∧
      ((∀ chunk ∈ parts.chunks, chunk.payload.length % 2 = 0) →
        Finds (parts.file Chunk.padded) last.format (parts.dataOffset Chunk.padded) parts.samples) ∧
      ∀ before odd after, parts.chunks = before ++ odd :: after →
        (∀ chunk ∈ before, chunk.payload.length % 2 = 0) → odd.payload.length % 2 = 1 →
        let turn := 12 + ((before ++ [odd]).flatMap Chunk.record).length
        (parts.file Chunk.padded)[turn]? = some odd.filler ∧
          scan (parts.file Chunk.padded) =
            scanChunks (parts.file Chunk.padded) turn
              ((before ++ [odd]).foldl Chunk.describe none) := by
  obtain ⟨earlier, last, later, split, named, others, known⟩ :=
    exists_last_format parts.described none
  refine ⟨earlier, last, later, split, named, others, ?_, ?_, ?_⟩
  · exact parts.finds_of_records Chunk.record rfl known
  · intro even
    exact parts.finds_of_records Chunk.padded (Parts.flatMap_padded even) known
  · intro before odd after cut even isOdd turn
    have written : parts.chunks.flatMap Chunk.padded =
        (before ++ [odd]).flatMap Chunk.record ++ (odd.filler :: after.flatMap Chunk.padded) := by
      rw [cut, List.flatMap_append, List.flatMap_cons, Parts.flatMap_padded even,
        Chunk.padded_of_odd isOdd, List.flatMap_append, List.flatMap_singleton]
      simp only [List.append_assoc, List.singleton_append]
    have within : ∀ chunk ∈ before ++ [odd], chunk ∈ parts.chunks := by
      intro chunk member
      rw [cut]
      rcases List.mem_append.mp member with inside | same
      · exact List.mem_append_left _ inside
      · exact List.mem_append_right _ (List.mem_singleton.mp same ▸ List.mem_cons_self)
    -- The odd chunk is passed like the others, so the scan goes on at the filler.
    obtain ⟨scanned, behind⟩ := parts.scan_passing Chunk.padded within written
    exact ⟨((Holds.cons_iff _ _).mp behind).1, scanned⟩

def remarkId : List UInt8 := chunkId "LIST"

def remarked (remark : List UInt8) (short : remark.length < word32) : Parts where
  claimed := littleEndian 4 0
  chunks := [.ofFormat .speech 32000 2, ⟨remarkId, remark, 0, rfl, short⟩]
  samples := [0, 0]
  trailer := []
  length_claimed := rfl
  name_ne_dataId := by
    rw [List.forall_mem_cons, List.forall_mem_singleton]
    have remarkPasses : remarkId ≠ dataId := by decide
    exact ⟨by decide, remarkPasses⟩
  pcm := by
    rw [List.forall_mem_cons, List.forall_mem_singleton]
    have remarkPasses : remarkId ≠ formatId := by decide
    exact ⟨fun _ => Chunk.describesPcm_ofFormat _ _ _, fun same => absurd same remarkPasses⟩
  described := ⟨.ofFormat .speech 32000 2, by simp, rfl⟩
  length_samples := by decide

/-- A remark of two bytes does not stand in the way, and one of three bytes hides the samples. -/
theorem scan_parts_remarked :
    Finds ((remarked [65, 66] (by decide)).file Chunk.padded) .speech 54 [0, 0] ∧
    (∃ odd ∈ (remarked [65, 66, 67] (by decide)).chunks, odd.payload.length % 2 = 1) ∧
    scan ((remarked [65, 66, 67] (by decide)).file Chunk.padded) = .error .missingData := by
  refine ⟨?_, ?_, ?_⟩
  · obtain ⟨earlier, last, later, split, named, -, -, found, -⟩ :=
      scan_parts (remarked [65, 66] (by decide))
    have even : ∀ chunk ∈ (remarked [65, 66] (by decide)).chunks,
        chunk.payload.length % 2 = 0 := by decide
    have member : last ∈ (remarked [65, 66] (by decide)).chunks := by simp [split]
    rcases List.mem_pair.mp member with rfl | rfl
    · exact found even
    · exact absurd named (by decide)
  · exact ⟨_, List.mem_of_getLast? rfl, rfl⟩
  · obtain ⟨-, -, -, -, -, -, -, -, turned⟩ := scan_parts (remarked [65, 66, 67] (by decide))
    have taken := (turned [.ofFormat .speech 32000 2] _ [] rfl (by decide) rfl).2
    rw [taken]
    decide +kernel

end Voiceover.Wave
