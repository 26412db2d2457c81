import Veloxity.Params.StorageRoundTrip

/-! A stored image with one wrong byte is rejected, unless the byte carries nothing. -/

namespace Veloxity

open Library

/-- Two images agree on all bytes that a reader looks at. -/
def SameContent (bytes other : StorageImage) : Prop :=
  ∀ index, index ≠ 7 → index < 7003 → bytes.byteAt index = other.byteAt index

namespace SameContent

variable {bytes other : StorageImage}

/-- Slices on one side of the unused byte of the header are the same. -/
theorem slice (same : SameContent bytes other) {start length : Nat}
    (inside : start + length ≤ 7 ∨ 8 ≤ start ∧ start + length ≤ 7003) :
    bytes.slice start length = other.slice start length := by
  apply ByteImage.slice_congr
  intro index above below
  exact same index (by omega) (by omega)

/-- The fields of every index are the same. -/
theorem fields (same : SameContent bytes other) {index : Nat} (within : index < 333) :
    SameFields bytes other index := by
  refine ⟨same.slice ?_, same.slice ?_, same.slice ?_⟩ <;> omega

variable {F : Type} [FloatBits F] [FlightFloat F]

/-- A parameter is read in the same way. -/
theorem decodeField_eq (same : SameContent bytes other) (params : Params F) {index : Nat}
    (within : index < 333) (id : ParamId) :
    decodeField bytes params index id = decodeField other params index id := by
  obtain ⟨value_eq, name_eq, type_eq⟩ := fieldOffsets index
  -- A parameter is spread over its value, its name and its type, all of them read ranges.
  have fields := same.fields within
  have type : bytes.byteAt (6668 + index) = other.byteAt (6668 + index) :=
    same _ (by omega) (by omega)
  have nameSize : rosflightCParamNameSize = 16 := rfl
  have valueSize : paramStorageValueSize = 4 := rfl
  simp only [decodeField, value_eq, name_eq, type_eq]
  rw [nameSize, valueSize, fields.value, fields.name, type]

/-- A list of parameters is read in the same way. -/
theorem decodeFields_eq (same : SameContent bytes other) (params : Params F) {index : Nat}
    {ids : List ParamId} (room : index + ids.length ≤ 333) :
    decodeFields bytes params index ids = decodeFields other params index ids := by
  -- One parameter after another is read in the same way, or rejected in both.
  induction ids generalizing params index with
  | nil => rfl
  | cons id rest ih =>
    rw [List.length_cons] at room
    rw [decodeFields, decodeFields, same.decodeField_eq params (by omega)]
    cases decodeField other params index id with
    | none => rfl
    | some read => exact ih read (by omega)

/-- Both images are rejected, or both are read to the same parameters. -/
theorem decodeRosflightCParams_eq (same : SameContent bytes other) (version : UInt32) :
    (decodeRosflightCParams version bytes : Option (Params F)) =
      decodeRosflightCParams version other := by
  have mark : paramStorageMagicEfOffset = 7001 := rfl
  have checksum : paramStorageChecksumOffset = 7002 := rfl
  have values : paramStorageValuesOffset = 8 := rfl
  -- The checksum covers no byte but those that are read.
  have sum : rosflightCChecksum bytes = rosflightCChecksum other := by
    rw [rosflightCChecksum, rosflightCChecksum, same.slice (by omega)]
  have counted : rosflightCParams.length = 333 := length_rosflightCParams
  rw [decodeRosflightCParams, decodeRosflightCParams, decodeRosflightCParamsInOrder,
    decodeRosflightCParamsInOrder, same.slice (by omega), same.slice (by omega),
    same 6 (by omega) (by omega), same paramStorageMagicEfOffset (by omega) (by omega),
    same paramStorageChecksumOffset (by omega) (by omega), sum,
    same.decodeFields_eq Params.new (by omega)]

end SameContent

/-- A byte that a reader does not look at, or that is not changed, changes nothing. -/
theorem sameContent_copyFromSlice (image : StorageImage) {index : Nat} {byte : UInt8}
    (idle : index = 7 ∨ 7003 ≤ index ∨ byte = image.byteAt index) :
    SameContent (image.copyFromSlice index [byte]) image := by
  intro other unused below
  -- At the changed byte itself the three reasons for idleness apply; elsewhere nothing changed.
  by_cases here : other = index
  · subst here
    have size : rosflightCParamStorageSize = 7004 := rfl
    rw [ByteImage.byteAt_copyFromSlice_self _ (by omega)]
    rcases idle with idle | idle | same
    · omega
    · omega
    · exact same
  · exact ByteImage.byteAt_copyFromSlice_of_ne _ here _

/-- A number in the header is no longer spelled once one of its bytes is changed. -/
theorem fromLeBytes_copyFromSlice (image : StorageImage) {start length index : Nat} {byte : UInt8}
    (within : start + length ≤ rosflightCParamStorageSize) (above : start ≤ index)
    (below : index < start + length) (differs : byte ≠ image.byteAt index) :
    fromLeBytes ((image.copyFromSlice index [byte]).slice start length) ≠
      fromLeBytes (image.slice start length) := by
  intro same
  have lengths := (ByteImage.length_slice (image.copyFromSlice index [byte]) start length).trans
    (ByteImage.length_slice image start length).symm
  -- Equal numbers of the same width are spelled by the same bytes.
  have slices := fromLeBytes_injective lengths same
  have bytes := ByteImage.byteAt_eq_of_slice_eq slices above below
  rw [ByteImage.byteAt_copyFromSlice_self _ (by omega)] at bytes
  exact differs bytes

/-- A change of any byte that a reader looks at breaks a mark or the checksum. -/
theorem RightMarks.broken {version : UInt32} {image : StorageImage}
    (right : RightMarks version image) {index : Nat} {byte : UInt8} (used : index ≠ 7)
    (below : index < 7003) (differs : byte ≠ image.byteAt index) :
    ¬RightMarks version (image.copyFromSlice index [byte]) := by
  have mark : paramStorageMagicEfOffset = 7001 := rfl
  have checksum : paramStorageChecksumOffset = 7002 := rfl
  have values : paramStorageValuesOffset = 8 := rfl
  have size : rosflightCParamStorageSize = 7004 := rfl
  have within : index < rosflightCParamStorageSize := by omega
  have written := ByteImage.byteAt_copyFromSlice_self image within byte
  have elsewhere (other : Nat) (apart : other ≠ index) :=
    ByteImage.byteAt_copyFromSlice_of_ne image apart byte
  -- A byte of a mark no longer is the mark, and any other byte changes the checksum.
  intro kept
  by_cases version : index < 4
  · exact fromLeBytes_copyFromSlice image (by omega) (Nat.zero_le index) version differs
      (kept.version.trans right.version.symm)
  by_cases sized : index < 6
  · exact fromLeBytes_copyFromSlice image (by omega) (by omega) sized differs
      (kept.size.trans right.size.symm)
  by_cases opening : index = 6
  · subst opening
    exact differs (written.symm.trans (kept.magicBe.trans right.magicBe.symm))
  by_cases closing : index = paramStorageMagicEfOffset
  · subst closing
    exact differs (written.symm.trans (kept.magicEf.trans right.magicEf.symm))
  have sum := kept.checksum
  rw [rosflightCChecksum] at sum
  by_cases summed : index = paramStorageChecksumOffset
  · -- The other bytes still have the sum that was written.
    subst summed
    rw [ByteImage.slice_copyFromSlice_of_disjoint _ (by omega), ← rosflightCChecksum,
      ← right.checksum] at sum
    exact differs (written.symm.trans sum)
  · -- The written sum is that of the bytes before the change.
    rw [elsewhere _ (Ne.symm summed), right.checksum, rosflightCChecksum] at sum
    exact ByteImage.foldl_xor_copyFromSlice image (by omega) (by omega) (by omega) differs sum.symm

section

variable {F : Type} [FloatBits F] [FlightFloat F]

/-- An image with a wrong mark or a wrong checksum is rejected. -/
theorem decodeRosflightCParams_eq_none {version : UInt32} {bytes : StorageImage}
    (wrong : ¬RightMarks version bytes) :
    (decodeRosflightCParams version bytes : Option (Params F)) = none := by
  rw [decodeRosflightCParams]
  -- The five checks of the reader are the five marks.
  split
  · rfl
  · rename_i checked
    simp only [not_or, Decidable.not_not] at checked
    obtain ⟨versioned, sized, opened, marked, summed⟩ := checked
    exact absurd ⟨versioned, sized, opened, marked, summed⟩ wrong

/-- An encoded image one byte of which is changed is rejected or read to the same parameters. -/
theorem decodeRosflightCParams_changed {version : UInt32} {params : Params F}
    {bytes image : StorageImage}
    (written : encodeRosflightCParams version params bytes = (true, image)) (index : Nat)
    (byte : UInt8) :
    let changed := image.copyFromSlice index [byte]
    (decodeRosflightCParams version changed : Option (Params F)) = none ∨
      (decodeRosflightCParams version changed : Option (Params F)) =
        decodeRosflightCParams version image := by
  intro changed
  obtain ⟨right, _⟩ := stored_of_encodes written
  -- An idle byte changes nothing that is read, and any other breaks a mark.
  by_cases idle : index = 7 ∨ 7003 ≤ index ∨ byte = image.byteAt index
  · exact Or.inr ((sameContent_copyFromSlice image idle).decodeRosflightCParams_eq version)
  · simp only [not_or, Nat.not_le] at idle
    exact Or.inl (decodeRosflightCParams_eq_none (right.broken idle.1 idle.2.1 idle.2.2))

end

/-- The image of the default parameters with a byte of the first value changed. -/
theorem defaultImage_changed :
    let image := (encodeRosflightCParams 0x1A2B3C4D (Params.new : Params Binary32) (.filled 0)).2
    let changed := image.copyFromSlice 8 [7]
    (decodeRosflightCParams 0x1A2B3C4D changed : Option (Params Binary32)) = none ∨
      (decodeRosflightCParams 0x1A2B3C4D changed : Option (Params Binary32)) =
        decodeRosflightCParams 0x1A2B3C4D image := by
  -- The defaults are well typed, so encoding them succeeds.
  have written : (encodeRosflightCParams 0x1A2B3C4D (Params.new : Params Binary32)
      (.filled 0)).1 = true :=
    (encodeRosflightCParams_ok _ _ _).mpr fun id _ => Params.wellTyped_new.declared id
  cases encoded : encodeRosflightCParams 0x1A2B3C4D (Params.new : Params Binary32) (.filled 0) with
  | mk ok image =>
    rw [encoded] at written
    obtain rfl : ok = true := written
    exact decodeRosflightCParams_changed encoded 8 7

end Veloxity
