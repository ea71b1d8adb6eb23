import Voiceover.Proofs.Wave.Encoding

/-! The sizes in a written file, and what becomes of a size that cannot be counted. The bytes of the
samples are asked whether they fit their word of 32 bits; the bytes of the file are not, and neither
are the bytes of a silence before they are counted in a word of 64 bits. Each of the two leaves a range
of sizes for which nothing is written and nothing is refused. -/

namespace Voiceover.Wave

structure TellsSizes (file : ByteArray) (size : Nat) : Prop where
  size_eq : file.size = 44 + size
  whole : numberAt? file 4 4 = some (file.size - 8)
  payload : numberAt? file 40 4 = some (file.size - 44)

theorem tellsSizes_front (format : AudioFormat) {samples : List UInt8}
    (fits : 36 + samples.length < word32) :
    TellsSizes (front format samples.length ++ samples).toByteArray samples.length := by
  have size : (front format samples.length ++ samples).toByteArray.size = 44 + samples.length := by
    rw [List.size_toByteArray, List.length_append, length_front]
  have held := Holds.whole (front format samples.length ++ samples)
  simp only [front, List.append_assoc, Holds.append_iff] at held
  obtain ⟨-, whole, -, -, -, payload, -⟩ := held
  have width : fieldLimit 4 = word32 := rfl
  refine ⟨size, ?_, ?_⟩
  · have ownSize : 44 + samples.length - 8 = 36 + samples.length := by omega
    rw [size, ownSize]
    exact numberAt?_of_holds whole (by omega)
  · have ownSize : 44 + samples.length - 44 = samples.length := by omega
    rw [size, ownSize]
    exact numberAt?_of_holds payload (by omega)

theorem header_tooLarge (format : AudioFormat) {size : Nat} (wide : word32 ≤ size) :
    header format size = .error .payloadTooLarge := by
  rw [header, if_pos wide]
  rfl

theorem header_sum (format : AudioFormat) {size : Nat} (payload : size < word32)
    (wide : word32 ≤ 36 + size) : header format size = .error (.fault .sum) := by
  rw [header, if_neg (Nat.not_le.mpr payload), if_pos wide]
  rfl

theorem countable_of_header {format : AudioFormat} {size : Nat} {bytes : List UInt8}
    (made : header format size = .ok bytes) : format.Countable := by
  have payload : ¬word32 ≤ size := by
    intro wide
    rw [header_tooLarge format wide] at made
    cases made
  have whole : ¬word32 ≤ 36 + size := by
    intro wide
    rw [header_sum format (Nat.not_le.mp payload) wide] at made
    cases made
  rw [header, if_neg payload, if_neg whole] at made
  cases counted : format.byteRate with
  | error fault =>
    rw [counted] at made
    cases made
  | ok second => exact AudioFormat.countable_of_byteRate counted

def headerFault? (size : Nat) : Option Fault :=
  if size < word32 ∧ word32 ≤ 36 + size then some .sum else none

def silenceFault? (size : Nat) : Option Fault :=
  if word64 ≤ size then some .product
  else if word64 / 2 ≤ size then some .capacity
  else headerFault? size

/-- What comes of writing so many bytes: a fault when there is one, and otherwise a file that tells its
sizes when they fit their words, and the refusal of the samples when they do not. -/
structure Outcomes (made : Except WaveWriteError ByteArray) (size : Nat) (fault? : Option Fault) :
    Prop where
  faulty : ∀ fault, fault? = some fault → made = .error (.fault fault)
  written : fault? = none → 36 + size < word32 → ∃ file, made = .ok file ∧ TellsSizes file size
  refused : fault? = none → word32 ≤ 36 + size → made = .error .payloadTooLarge

theorem outcomes_of_header {format : AudioFormat} (countable : format.Countable)
    (samples : List UInt8) :
    Outcomes ((header format samples.length).map fun bytes => (bytes ++ samples).toByteArray)
      samples.length (headerFault? samples.length) := by
  unfold headerFault?
  constructor
  · intro fault found
    split_ifs at found with uncounted
    rw [header_sum format uncounted.1 uncounted.2, ← Option.some.inj found]
    rfl
  · intro _ fits
    rw [header_eq_ok countable fits]
    exact ⟨_, rfl, tellsSizes_front format fits⟩
  · intro counted wide
    split_ifs at counted with uncounted
    rw [header_tooLarge format (by omega)]
    rfl

theorem encode_eq (format : AudioFormat) (samples : ByteArray) :
    encode format samples = (header format samples.data.toList.length).map fun bytes =>
      (bytes ++ samples.data.toList).toByteArray := by
  have size : samples.data.toList.length = samples.size := Array.length_toList
  rw [size, encode]
  cases header format samples.size with
  | error reason => rfl
  | ok bytes =>
    simp only [bind, Except.bind, Except.map, List.toByteArray_append, toByteArray_toList_data]
    rfl

section Silence

variable (format : AudioFormat) (span : Duration)

def silentBytes : Nat :=
  frameCount span format.sampleRate.toNat * (format.frameBits / 8)

variable {format}

theorem silenceSize_eq (countable : format.Countable) :
    silenceSize format span =
      if word64 ≤ silentBytes format span then .error .product
      else if word64 / 2 ≤ silentBytes format span then .error .capacity
      else .ok (silentBytes format span) := by
  unfold silenceSize silentBytes
  rw [countable.blockAlign_eq_ok]
  simp only [bind, Except.bind]
  generalize frameCount span format.sampleRate.toNat * (format.frameBits / 8) = size
  split_ifs <;> rfl

theorem appendZeros_eq (bytes : ByteArray) (count : Nat) :
    appendZeros bytes count = (bytes.data.toList ++ List.replicate count 0).toByteArray := by
  induction count generalizing bytes with
  | zero => rw [appendZeros, List.replicate_zero, List.append_nil, toByteArray_toList_data]
  | succ count ih =>
    have pushed : (bytes.push 0).data.toList = bytes.data.toList ++ [0] := Array.toList_push
    rw [appendZeros, ih, pushed, List.append_assoc, List.singleton_append, List.replicate_succ]

/-- A silence that a buffer can hold is so many zeros behind a header. -/
theorem silence_eq (countable : format.Countable) (small : silentBytes format span < word64 / 2) :
    silence format span =
      (header format (List.replicate (silentBytes format span) (0 : UInt8)).length).map
        fun bytes => (bytes ++ List.replicate (silentBytes format span) 0).toByteArray := by
  have counted : ¬word64 ≤ silentBytes format span := by omega
  rw [silence, silenceSize_eq span countable, if_neg counted, if_neg (Nat.not_le.mpr small),
    List.length_replicate]
  simp only [checked, bind, Except.bind]
  cases header format (silentBytes format span) with
  | error reason => rfl
  | ok bytes =>
    simp only [Except.map, appendZeros_eq, List.toList_data_toByteArray]
    rfl

theorem outcomes_silence (countable : format.Countable) :
    Outcomes (silence format span) (silentBytes format span)
      (silenceFault? (silentBytes format span)) := by
  by_cases small : silentBytes format span < word64 / 2
  · have counted : ¬word64 ≤ silentBytes format span := by omega
    have outcomes :=
      outcomes_of_header countable (List.replicate (silentBytes format span) (0 : UInt8))
    rw [← silence_eq span countable small, List.length_replicate] at outcomes
    rw [silenceFault?, if_neg counted, if_neg (Nat.not_le.mpr small)]
    exact outcomes
  · have large : word64 / 2 ≤ silentBytes format span := Nat.not_lt.mp small
    have failed (fault : Fault) (found : silenceFault? (silentBytes format span) = some fault) :
        silence format span = .error (.fault fault) := by
      rw [silence, silenceSize_eq span countable]
      unfold silenceFault? at found
      rw [if_pos large] at found ⊢
      split_ifs at found ⊢ <;> cases found <;> rfl
    have faulty : silenceFault? (silentBytes format span) ≠ none := by
      rw [silenceFault?, if_pos large]
      split_ifs <;> exact Option.some_ne_none _
    exact ⟨failed, fun counted => absurd counted faulty, fun counted => absurd counted faulty⟩

theorem countable_of_silence {span : Duration} {file : ByteArray}
    (made : silence format span = .ok file) : format.Countable := by
  obtain ⟨size, -, made⟩ := bind_eq_ok.mp made
  obtain ⟨front, headed, -⟩ := bind_eq_ok.mp made
  exact countable_of_header headed

/-- A silence that is written at all is so many zeros behind a header. -/
theorem of_silence_eq_ok (countable : format.Countable) {file : ByteArray}
    (made : silence format span = .ok file) :
    36 + silentBytes format span < word32 ∧
      file = (front format (silentBytes format span) ++
        List.replicate (silentBytes format span) 0).toByteArray := by
  have outcomes := outcomes_silence span countable
  cases found : silenceFault? (silentBytes format span) with
  | some fault =>
    rw [outcomes.faulty fault found] at made
    cases made
  | none =>
    have fits : 36 + silentBytes format span < word32 := by
      by_contra wide
      rw [outcomes.refused found (Nat.not_lt.mp wide)] at made
      cases made
    have small : silentBytes format span < word64 / 2 := by
      have wider : word32 ≤ word64 / 2 := by decide
      omega
    rw [silence_eq span countable small, List.length_replicate, header_eq_ok countable fits] at made
    cases made
    exact ⟨fits, rfl⟩

end Silence

theorem countable_speech : AudioFormat.speech.Countable := by
  constructor <;> decide

/-- Samples and silence are written, or refused when their sizes do not fit, unless the bytes of the
file are too many to be counted though those of the samples are not, or the bytes of a silence are too
many to be counted or held at all. -/
theorem written_outcomes (format : AudioFormat) (countable : format.Countable) :
    (∀ samples : ByteArray,
      Outcomes (encode format samples) samples.size (headerFault? samples.size)) ∧
    ∀ span : Duration, Outcomes (silence format span) (silentBytes format span)
      (silenceFault? (silentBytes format span)) := by
  constructor
  · intro samples
    have outcomes := outcomes_of_header countable samples.data.toList
    have size : samples.data.toList.length = samples.size := Array.length_toList
    rwa [← encode_eq, size] at outcomes
  · intro span
    exact outcomes_silence span countable

/-- Three samples are written. A silence of 37 hours, 16 minutes and 57.726875 seconds is neither
written nor refused, nor is the longest one. -/
theorem written_outcomes_silent :
    (∃ file, encode .speech ⟨#[1, 2, 3]⟩ = .ok file ∧ TellsSizes file 3) ∧
      silence .speech (.clamped 134217726875000) = .error (.fault .sum) ∧
      silence .speech (.clamped (durationLimit - 1)) = .error (.fault .product) := by
  obtain ⟨samples, silences⟩ := written_outcomes .speech countable_speech
  refine ⟨?_, ?_, ?_⟩
  · exact (samples ⟨#[1, 2, 3]⟩).written (by decide) (by decide)
  · exact (silences (.clamped 134217726875000)).faulty .sum (by decide +kernel)
  · exact (silences (.clamped (durationLimit - 1))).faulty .product (by decide +kernel)

end Voiceover.Wave
