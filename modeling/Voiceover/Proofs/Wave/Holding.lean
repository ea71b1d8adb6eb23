import Mathlib.Data.List.Infix
import Voiceover.Wave.Format

/-! What stands where in a file. Reading at a place of a file is the same as knowing which bytes the
file holds from there on, and bytes that follow each other are held each at its own place. -/

namespace Voiceover.Wave

def Holds (file : ByteArray) (offset : Nat) (bytes : List UInt8) : Prop :=
  bytes <+: file.data.toList.drop offset

namespace Holds

variable {file : ByteArray} {offset : Nat} {bytes : List UInt8}

theorem nil (file : ByteArray) (offset : Nat) : Holds file offset [] := List.nil_prefix

theorem cons_iff (byte : UInt8) (rest : List UInt8) :
    Holds file offset (byte :: rest) ↔ file[offset]? = some byte ∧ Holds file (offset + 1) rest := by
  have read : file[offset]? = file.data.toList[offset]? := by
    rw [Array.getElem?_toList]
    rfl
  unfold Holds
  rw [read]
  by_cases inside : offset < file.data.toList.length
  · rw [List.drop_eq_getElem_cons inside, List.cons_prefix_cons, List.getElem?_eq_getElem inside,
      Option.some_inj, eq_comm]
  · rw [List.drop_eq_nil_of_le (by omega), List.getElem?_eq_none (by omega)]
    simp

theorem append_iff (front back : List UInt8) :
    Holds file offset (front ++ back) ↔
      Holds file offset front ∧ Holds file (offset + front.length) back := by
  induction front generalizing offset with
  | nil => simp [Holds.nil]
  | cons byte front ih =>
    have next : offset + (byte :: front).length = offset + 1 + front.length := by
      rw [List.length_cons]
      omega
    rw [List.cons_append, cons_iff, cons_iff, ih, next, and_assoc]

theorem le_size (holds : Holds file offset bytes) (written : bytes ≠ []) :
    offset + bytes.length ≤ file.size := by
  have shorter := List.IsPrefix.length_le holds
  have positive := List.length_pos_iff.mpr written
  have sized : file.data.toList.length = file.size := Array.length_toList
  rw [List.length_drop, sized] at shorter
  omega

theorem whole (bytes : List UInt8) : Holds bytes.toByteArray 0 bytes := by
  unfold Holds
  rw [List.toList_data_toByteArray, List.drop_zero]

theorem slice (holds : Holds file offset bytes) (place width : Nat) :
    Holds file (offset + place) ((bytes.drop place).take width) := by
  have later := List.IsPrefix.drop holds place
  rw [List.drop_drop] at later
  exact (List.take_prefix _ _).trans later

end Holds

theorem bytesAt?_eq_some_iff (file : ByteArray) (offset count : Nat) (bytes : List UInt8) :
    bytesAt? file offset count = some bytes ↔ bytes.length = count ∧ Holds file offset bytes := by
  induction count generalizing offset bytes with
  | zero =>
    rw [bytesAt?, Option.some_inj, List.length_eq_zero_iff]
    constructor
    · rintro rfl
      exact ⟨rfl, .nil file offset⟩
    · rintro ⟨rfl, -⟩
      rfl
  | succ count ih =>
    -- The first byte is read here and the others one place further on.
    have step : bytesAt? file offset (count + 1) = some bytes ↔ ∃ byte rest,
        file[offset]? = some byte ∧ bytesAt? file (offset + 1) count = some rest ∧
          byte :: rest = bytes := by
      simp [bytesAt?, Option.bind_eq_some_iff]
    rw [step]
    cases bytes with
    | nil => simp
    | cons first others =>
      rw [Holds.cons_iff, List.length_cons, Nat.add_right_cancel_iff, and_left_comm, ← ih]
      simp

theorem bytesAt?_of_holds {file : ByteArray} {offset : Nat} {bytes : List UInt8}
    (holds : Holds file offset bytes) : bytesAt? file offset bytes.length = some bytes :=
  (bytesAt?_eq_some_iff _ _ _ _).mpr ⟨rfl, holds⟩

theorem numberAt?_of_holds {file : ByteArray} {offset width value : Nat}
    (holds : Holds file offset (littleEndian width value)) (fits : value < fieldLimit width) :
    numberAt? file offset width = some value := by
  have read := bytesAt?_of_holds holds
  rw [length_littleEndian] at read
  rw [numberAt?, read, Option.map_some, ofLittleEndian_littleEndian, Nat.mod_eq_of_lt fits]

theorem numberAt?_slice {file : ByteArray} {offset : Nat} {bytes : List UInt8}
    (holds : Holds file offset bytes) {place width : Nat} (inside : place + width ≤ bytes.length) :
    numberAt? file (offset + place) width =
      some (ofLittleEndian ((bytes.drop place).take width)) := by
  have read := bytesAt?_of_holds (holds.slice place width)
  have whole : ((bytes.drop place).take width).length = width := by
    rw [List.length_take, List.length_drop]
    omega
  rw [whole] at read
  rw [numberAt?, read, Option.map_some]

theorem toByteArray_toList_data (file : ByteArray) : file.data.toList.toByteArray = file := by
  apply ByteArray.ext
  rw [List.data_toByteArray]

end Voiceover.Wave
