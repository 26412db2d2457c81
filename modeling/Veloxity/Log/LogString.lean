import Mathlib.Data.List.Induction
import Veloxity.Library.BoundedQueue
import Veloxity.Library.ByteImage
import Veloxity.Library.Run

/-! The fixed-capacity text of a log entry, against the characters written to it. -/

namespace Veloxity

open Library

/-- The bytes a log text has room for. -/
def MAX_LOG_LEN : Nat := 50

/-- The UTF-8 bytes of a text. -/
def utf8Bytes (text : String) : List UInt8 := text.toByteArray.data.toList

/-- A text buffer and how many of its bytes are written. -/
structure LogString where
  buffer : ByteImage MAX_LOG_LEN
  len : Nat
  fits : len ≤ MAX_LOG_LEN
  deriving DecidableEq

namespace LogString

/-- A text with nothing written. -/
def new : LogString := ⟨.filled 0, 0, Nat.zero_le _⟩

/-- The bytes that are read as a text without a check. -/
def asStr (message : LogString) : List UInt8 := message.buffer.slice 0 message.len

/-- Write as many bytes of a text as there is room for, with an error if it is cut. -/
def writeStr (message : LogString) (s : String) : LogString × Except Unit Unit :=
  let bytes := utf8Bytes s
  let remaining := MAX_LOG_LEN - message.len
  let copyLen := min bytes.length remaining
  let written : LogString :=
    { buffer := message.buffer.copyFromSlice message.len (bytes.take copyLen)
      len := message.len + copyLen
      fits := by
        have room := message.fits
        omega }
  (written, if remaining < bytes.length then .error () else .ok ())

/-- The text after some texts have been written to it, whether or not they were cut. -/
def written (inputs : List String) : LogString :=
  run (fun message s => (message.writeStr s).1) new inputs

/-- The bytes read are UTF-8 and begin the texts that were written. -/
def Genuine (message : LogString) (inputs : List String) : Prop :=
  message.asStr.toByteArray.IsValidUTF8 ∧ message.asStr <+: utf8Bytes (String.join inputs)

/-- Whether the bytes are genuine is decided. -/
instance (message : LogString) (inputs : List String) : Decidable (message.Genuine inputs) :=
  inferInstanceAs (Decidable (_ ∧ _))

/-- The bytes of joined texts are those of the first and of the others. -/
theorem utf8Bytes_append (first second : String) :
    utf8Bytes (first ++ second) = utf8Bytes first ++ utf8Bytes second := by
  simp [utf8Bytes, String.toByteArray_append]

/-- A text is written behind the others, as far as there is room. -/
theorem asStr_writeStr (message : LogString) (s : String) :
    (message.writeStr s).1.asStr = (message.asStr ++ utf8Bytes s).take MAX_LOG_LEN := by
  obtain ⟨buffer, len, fits⟩ := message
  -- What is copied is what there is room for.
  have room : ((utf8Bytes s).take (min (utf8Bytes s).length (MAX_LOG_LEN - len))).length =
      min (utf8Bytes s).length (MAX_LOG_LEN - len) := by
    rw [List.length_take]
    omega
  have kept : (utf8Bytes s).take (min (utf8Bytes s).length (MAX_LOG_LEN - len)) =
      (utf8Bytes s).take (MAX_LOG_LEN - len) := by
    rw [← List.take_take, List.take_of_length_le]
    rw [List.length_take]
    omega
  have copied := buffer.slice_copyFromSlice len
    ((utf8Bytes s).take (min (utf8Bytes s).length (MAX_LOG_LEN - len))) (by omega)
  rw [room] at copied
  simp only [asStr, writeStr]
  rw [ByteImage.slice_add, buffer.slice_copyFromSlice_of_disjoint (by omega), Nat.zero_add, copied,
    List.take_append, ByteImage.length_slice, kept]
  have whole : (buffer.slice 0 len).take MAX_LOG_LEN = buffer.slice 0 len := by
    apply List.take_of_length_le
    rw [ByteImage.length_slice]
    exact fits
  rw [whole]

/-- The bytes kept are the first ones of all that was written. -/
theorem asStr_written (inputs : List String) :
    (written inputs).asStr = (utf8Bytes (String.join inputs)).take MAX_LOG_LEN := by
  -- Each text is written behind the first bytes of those before it.
  induction inputs using List.reverseRecOn with
  | nil => rfl
  | append_singleton before s ih =>
    have joined : String.join (before ++ [s]) = String.join before ++ s := by
      simp [String.join_append]
    rw [written, run_concat, asStr_writeStr, joined, utf8Bytes_append]
    show ((written before).asStr ++ utf8Bytes s).take MAX_LOG_LEN = _
    rw [ih, BoundedQueue.take_take_append]

/-- The first bytes of a text are UTF-8 if it ends with them or a character begins behind them. -/
theorem isValidUTF8_take_iff (text : String) (count : Nat) :
    ((utf8Bytes text).take count).toByteArray.IsValidUTF8 ↔
      text.utf8ByteSize ≤ count ∨ String.Pos.Raw.IsValid text ⟨count⟩ := by
  have size : (utf8Bytes text).length = text.utf8ByteSize := by
    rw [← String.size_toByteArray]
    rfl
  have cut : ((utf8Bytes text).take count).toByteArray = text.toByteArray.extract 0 count := by
    apply ByteArray.ext
    rw [List.data_toByteArray, ByteArray.data_extract, utf8Bytes]
    apply Array.ext'
    simp [List.extract]
  rw [cut, String.Pos.Raw.isValid_iff_isValidUTF8_extract_zero]
  by_cases whole : text.utf8ByteSize ≤ count
  · -- Nothing is cut off.
    have all : text.toByteArray.extract 0 count = text.toByteArray := by
      rw [← String.size_toByteArray] at whole
      rw [← Nat.max_eq_left whole]
      exact ByteArray.extract_zero_max_size
    rw [all]
    exact iff_of_true text.isValidUTF8 (.inl whole)
  · have before : (⟨count⟩ : String.Pos.Raw) ≤ text.rawEndPos := by
      rw [String.Pos.Raw.le_iff]
      exact (Nat.le_of_not_le whole)
    simp [whole, before]

/-- What is read after some writes is genuine if and only if all of it has room, or a character of
it begins where it is cut. -/
theorem genuine_iff (inputs : List String) :
    (written inputs).Genuine inputs ↔ (String.join inputs).utf8ByteSize ≤ MAX_LOG_LEN ∨
      String.Pos.Raw.IsValid (String.join inputs) ⟨MAX_LOG_LEN⟩ := by
  rw [Genuine, asStr_written, isValidUTF8_take_iff]
  -- A cut never spoils the beginning.
  exact and_iff_left (List.take_prefix _ _)

/-- A character of two bytes is cut in half behind 49 others of one byte. -/
theorem written_not_genuine :
    ¬ (written ["Move RC attitude switch to rate, tilt limit is 30", "°"]).Genuine
      ["Move RC attitude switch to rate, tilt limit is 30", "°"] := by
  rw [Genuine, asStr_written, isValidUTF8_take_iff]
  decide

end LogString

end Veloxity
