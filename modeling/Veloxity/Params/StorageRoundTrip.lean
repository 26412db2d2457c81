import Veloxity.Params.Storage
import Veloxity.Params.Table

/-! What is written into a parameter image is read back, and when writing fails. -/

namespace Veloxity

open Library

namespace ParamId

/-- Every name fits its stored width. -/
theorem length_nameBytes_le (id : ParamId) : id.nameBytes.length ≤ rosflightCParamNameSize := by
  have all : ∀ id ∈ table, id.nameBytes.length ≤ rosflightCParamNameSize := by decide +kernel
  exact all id (mem_table id)

/-- Every parameter is declared as a float or an integer. -/
theorem default_float_or_int {F : Type} [FlightFloat F] (id : ParamId) :
    (∃ value, (default id : ParamValue F) = .float value) ∨
      ∃ value, (default id : ParamValue F) = .int value := by
  cases id <;> first | exact Or.inl ⟨_, rfl⟩ | exact Or.inr ⟨_, rfl⟩

end ParamId

/-- As many parameters are stored as the image has room for. -/
theorem length_rosflightCParams : rosflightCParams.length = rosflightCParamCount := by
  decide +kernel

/-- The stored parameters are exactly those that the C firmware has too. -/
theorem mem_rosflightCParams (id : ParamId) :
    id ∈ rosflightCParams ↔ isRosflightCParam id = true := by
  rw [rosflightCParams, List.mem_append, List.mem_filter, Bool.and_eq_true, Bool.not_eq_true',
    isRosflightCTailParam]
  -- The tail is listed apart, and all of it is shared with the C firmware.
  constructor
  · rintro (⟨_, shared, _⟩ | tail)
    · exact shared
    · have all : ∀ id ∈ rosflightCTailOrder, isRosflightCParam id = true := by decide
      exact all id tail
  · intro shared
    by_cases tail : id ∈ rosflightCTailOrder
    · exact Or.inr tail
    · left
      refine ⟨ParamId.mem_table id, shared, ?_⟩
      simpa using tail

/-- A value of the width of its machine type. -/
def ParamValue.InRange {F : Type} : ParamValue F → Prop
  | .int value => -2 ^ 31 ≤ value ∧ value < 2 ^ 31
  | .uint value => value < 2 ^ 32
  | .float _ | .bool _ => True

/-- Equality of values, with floats compared by their bits. -/
def ParamValue.SameBits {F : Type} [FloatBits F] : ParamValue F → ParamValue F → Prop
  | .float left, .float right => FloatBits.toBits left = FloatBits.toBits right
  | left, right => left = right

section

variable {F : Type} [FlightFloat F] [FloatBits F]

/-- A parameter holds a value of the type it is declared with. -/
def Params.HoldsDeclaredType (params : Params F) (id : ParamId) : Prop :=
  sameParamType (params.getById id) (ParamId.default id) = true

/-- A value can be written exactly if it has the declared type. -/
theorem encodeParamValue_isSome (params : Params F) (id : ParamId) :
    (encodeParamValue (params.getById id) (ParamId.default id)).isSome = true ↔
      params.HoldsDeclaredType id := by
  unfold Params.HoldsDeclaredType
  -- The encoder compares the stored value with the default, which is a float or an integer.
  rcases ParamId.default_float_or_int (F := F) id with ⟨declared, eq⟩ | ⟨declared, eq⟩
  · rw [eq]
    cases params.getById id <;> simp [encodeParamValue, sameParamType]
  · rw [eq]
    cases params.getById id <;> simp [encodeParamValue, sameParamType]

/-- The bytes at which the fields of one index start. -/
structure FieldOffsets (index value name type : Nat) : Prop where
  value_eq : value = 8 + index * 4
  name_eq : name = 1340 + index * 16
  type_eq : type = 6668 + index

/-- The offsets the image is laid out with. -/
theorem fieldOffsets (index : Nat) :
    FieldOffsets index (paramStorageValuesOffset + index * paramStorageValueSize)
      (paramStorageNamesOffset + index * rosflightCParamNameSize)
      (paramStorageTypesOffset + index * paramStorageTypeSize) := by
  -- Types are one byte wide, so their offset is the index itself.
  constructor
  · rfl
  · rfl
  · rw [paramStorageTypeSize, Nat.mul_one]
    rfl

/-- Two images hold the same fields at an index. -/
structure SameFields (bytes other : StorageImage) (index : Nat) : Prop where
  value : bytes.slice (8 + index * 4) 4 = other.slice (8 + index * 4) 4
  name : bytes.slice (1340 + index * 16) 16 = other.slice (1340 + index * 16) 16
  type : bytes.slice (6668 + index) 1 = other.slice (6668 + index) 1

/-- Sameness of fields passes from image to image. -/
theorem SameFields.trans {bytes other third : StorageImage} {index : Nat}
    (first : SameFields bytes other index) (second : SameFields other third index) :
    SameFields bytes third index :=
  ⟨first.value.trans second.value, first.name.trans second.name, first.type.trans second.type⟩

/-- The fields of a parameter are stored at an index. -/
structure Stored (params : Params F) (bytes : StorageImage) (index : Nat) (id : ParamId) :
    Prop where
  value : encodeParamValue (params.getById id) (ParamId.default id) =
    some (bytes.slice (8 + index * 4) 4)
  name : bytes.slice (1340 + index * 16) 16 =
    id.nameBytes ++ List.replicate (16 - id.nameBytes.length) 0
  type : (rosflightCParamType (ParamId.default id : ParamValue F)).map (fun code => [code]) =
    some (bytes.slice (6668 + index) 1)

/-- A parameter stays stored where the fields stay the same. -/
theorem Stored.congr {params : Params F} {bytes other : StorageImage} {index : Nat} {id : ParamId}
    (stored : Stored params other index id) (same : SameFields bytes other index) :
    Stored params bytes index id where
  -- Every field of the entry is read from the same bytes.
  value := by
    rw [same.value]
    exact stored.value
  name := by
    rw [same.name]
    exact stored.name
  type := by
    rw [same.type]
    exact stored.type

omit [FlightFloat F] in
/-- An encoded value is four bytes wide. -/
theorem length_encodeParamValue {value declared : ParamValue F} {encoded : List UInt8}
    (eq : encodeParamValue value declared = some encoded) : encoded.length = 4 := by
  -- Only two pairs of types are encoded, each in one word.
  cases value <;> cases declared <;>
    simp only [encodeParamValue, Option.some.injEq, reduceCtorEq] at eq
  · rw [← eq, length_toLeBytes]
    rfl
  · rw [← eq, length_toLeBytes]
    rfl

omit [FloatBits F] in
/-- Every declared type has a code. -/
theorem rosflightCParamType_isSome (id : ParamId) :
    ∃ code, rosflightCParamType (ParamId.default id : ParamValue F) = some code := by
  rcases ParamId.default_float_or_int (F := F) id with ⟨value, eq⟩ | ⟨value, eq⟩
  · exact ⟨1, by rw [eq]; rfl⟩
  · exact ⟨0, by rw [eq]; rfl⟩

/-- Writing one parameter fails exactly when its value has another type. -/
theorem encodeField_ok (params : Params F) (bytes : StorageImage) (index : Nat) (id : ParamId) :
    (encodeField params bytes index id).1 = true ↔ params.HoldsDeclaredType id := by
  rw [← encodeParamValue_isSome, encodeField]
  cases encodeParamValue (params.getById id) (ParamId.default id) with
  | none => simp
  | some encoded =>
    obtain ⟨code, coded⟩ := rosflightCParamType_isSome (F := F) id
    -- Neither the name nor the declared type can be in the way.
    simp [Nat.not_lt.mpr id.length_nameBytes_le, coded]

/-- Writing a list of parameters fails exactly when one of them has a value of another type. -/
theorem encodeFields_ok (params : Params F) (bytes : StorageImage) (index : Nat)
    (ids : List ParamId) :
    (encodeFields params bytes index ids).1 = true ↔ ∀ id ∈ ids, params.HoldsDeclaredType id := by
  -- The induction is on the list, with the image and the index moving along.
  induction ids generalizing bytes index with
  | nil => simp [encodeFields]
  | cons id rest ih =>
    have first := encodeField_ok params bytes index id
    rw [encodeFields, List.forall_mem_cons, ← first]
    split
    · rename_i failed
      simp [failed]
    · rename_i next written
      simp [written, ih]

/-- Writing one parameter stores its fields into a blank name and leaves all others alone. -/
theorem encodeField_stores {params : Params F} {bytes next : StorageImage} {index : Nat}
    {id : ParamId} (within : index < 333)
    (blank : bytes.slice (1340 + index * 16) 16 = List.replicate 16 0)
    (written : encodeField params bytes index id = (true, next)) :
    Stored params next index id ∧
      (∀ other, other < 333 → other ≠ index → SameFields next bytes other) ∧
      next.slice 0 8 = bytes.slice 0 8 := by
  obtain ⟨value_eq, name_eq, type_eq⟩ := fieldOffsets index
  have short : id.nameBytes.length ≤ 16 := id.length_nameBytes_le
  obtain ⟨code, coded⟩ := rosflightCParamType_isSome (F := F) id
  rw [encodeField] at written
  cases encodes : encodeParamValue (params.getById id) (ParamId.default id) with
  | none =>
    rw [encodes] at written
    cases written
  | some encoded =>
    have wide := length_encodeParamValue encodes
    simp only [encodes, if_neg (Nat.not_lt.mpr id.length_nameBytes_le), coded, value_eq, name_eq,
      type_eq, Prod.mk.injEq, true_and] at written
    subst written
    have coded_width : [code].length = 1 := rfl
    have size : rosflightCParamStorageSize = 7004 := rfl
    -- The value, the name and the type are written to ranges that do not overlap.
    refine ⟨⟨?_, ?_, ?_⟩, ?_, ?_⟩
    · rw [encodes, ByteImage.slice_copyFromSlice_of_disjoint _ (by omega),
        ByteImage.slice_copyFromSlice_of_disjoint _ (by omega)]
      have back := ByteImage.slice_copyFromSlice bytes (8 + index * 4) encoded (by omega)
      rw [wide] at back
      rw [back]
    · rw [ByteImage.slice_copyFromSlice_of_disjoint _ (by omega)]
      apply ByteImage.slice_copyFromSlice_padded _ short (by omega)
      rw [ByteImage.slice_copyFromSlice_of_disjoint _ (by omega)]
      exact blank
    · have back := ByteImage.slice_copyFromSlice
        ((bytes.copyFromSlice (8 + index * 4) encoded).copyFromSlice (1340 + index * 16)
          id.nameBytes)
        (6668 + index) [code] (by omega)
      rw [coded_width] at back
      rw [coded, back]
      rfl
    · -- The fields of another parameter lie elsewhere in all three ranges.
      intro other inside differs
      refine ⟨?_, ?_, ?_⟩ <;>
        rw [ByteImage.slice_copyFromSlice_of_disjoint _ (by omega),
          ByteImage.slice_copyFromSlice_of_disjoint _ (by omega),
          ByteImage.slice_copyFromSlice_of_disjoint _ (by omega)]
    · rw [ByteImage.slice_copyFromSlice_of_disjoint _ (by omega),
        ByteImage.slice_copyFromSlice_of_disjoint _ (by omega),
        ByteImage.slice_copyFromSlice_of_disjoint _ (by omega)]

/-- Writing a list of parameters stores each of them at its index and leaves the fields before them
alone. -/
theorem encodeFields_stores {params : Params F} {bytes next : StorageImage} {index : Nat}
    {ids : List ParamId} (room : index + ids.length ≤ 333)
    (blank : ∀ other, index ≤ other → other < 333 →
      bytes.slice (1340 + other * 16) 16 = List.replicate 16 0)
    (written : encodeFields params bytes index ids = (true, next)) :
    (∀ offset id, ids[offset]? = some id → Stored params next (index + offset) id) ∧
      (∀ other, other < index → SameFields next bytes other) ∧
      next.slice 0 8 = bytes.slice 0 8 := by
  -- The induction is on the list, with the image and the index moving along.
  induction ids generalizing bytes index with
  | nil =>
    cases written
    refine ⟨?_, ?_, rfl⟩
    · intro offset id listed
      cases listed
    · intro other _
      exact ⟨rfl, rfl, rfl⟩
  | cons id rest ih =>
    rw [List.length_cons] at room
    rw [encodeFields] at written
    cases first : encodeField params bytes index id with
    | mk ok mid =>
      rw [first] at written
      cases ok with
      | false => cases written
      | true =>
        obtain ⟨stored, alone, header⟩ :=
          encodeField_stores (by omega) (blank index (Nat.le_refl _) (by omega)) first
        -- The names behind the first one are still blank.
        have still (other : Nat) (after : index + 1 ≤ other) (below : other < 333) :
            mid.slice (1340 + other * 16) 16 = List.replicate 16 0 := by
          rw [(alone other below (by omega)).name]
          exact blank other (by omega) below
        obtain ⟨others, before, later⟩ := ih (by omega) still written
        refine ⟨?_, ?_, later.trans header⟩
        · -- The first parameter stays stored, since the others are written behind it.
          intro offset listed_id listed
          cases offset with
          | zero =>
            cases listed
            exact stored.congr (before index (Nat.lt_succ_self _))
          | succ offset =>
            have place : index + (offset + 1) = index + 1 + offset := by omega
            rw [place]
            exact others offset listed_id listed
        · intro other earlier
          exact (before other (by omega)).trans (alone other (by omega) (by omega))

/-- The value that reading gives back: a float of the same bits, or the value itself. -/
def ParamValue.reread : ParamValue F → ParamValue F
  | .float value => .float (FloatBits.fromBits (FloatBits.toBits value))
  | value => value

omit [FlightFloat F] in
/-- A value read back has the same bits. -/
theorem ParamValue.reread_sameBits (value : ParamValue F) : value.reread.SameBits value := by
  -- Only floats are rebuilt from their bits.
  cases value with
  | float value => exact FloatBits.toBits_fromBits _
  | int value => rfl
  | uint value => rfl
  | bool value => rfl

omit [FlightFloat F] in
/-- The bytes of a value are decoded to the value read back. -/
theorem decodeParamValue_of_encodes {value declared : ParamValue F} {encoded : List UInt8}
    (encodes : encodeParamValue value declared = some encoded) (range : value.InRange) :
    decodeParamValue encoded declared = some value.reread := by
  have width : 256 ^ paramStorageValueSize = 2 ^ 32 := rfl
  -- A float comes back from its bits, and an integer from a word that is wide enough for it.
  cases value <;> cases declared <;>
    simp only [encodeParamValue, Option.some.injEq, reduceCtorEq] at encodes
  · rename_i value _
    have bound := (FloatBits.toBits value).toNat_lt
    rw [← encodes, decodeParamValue, fromLeBytes_toLeBytes, width, Nat.mod_eq_of_lt bound,
      UInt32.ofNat_toNat, ParamValue.reread]
  · rename_i value _
    obtain ⟨low, high⟩ := range
    rw [← encodes, decodeParamValue, fromLeBytes_toLeBytes, width,
      Nat.mod_eq_of_lt (BitVec.isLt _), BitVec.ofNat_toNat, BitVec.setWidth_eq, BitVec.toInt_ofInt,
      Int.bmod_eq_of_le (by omega) (by omega)]
    rfl

/-- A stored parameter is read back. -/
theorem decodeField_of_stored {params : Params F} (read : Params F) {bytes : StorageImage}
    {index : Nat} {id : ParamId} (stored : Stored params bytes index id)
    (range : (params.getById id).InRange) :
    decodeField bytes read index id = some (read.setById id (params.getById id).reread) := by
  obtain ⟨value_eq, name_eq, type_eq⟩ := fieldOffsets index
  have short : id.nameBytes.length ≤ 16 := id.length_nameBytes_le
  have value := decodeParamValue_of_encodes stored.value range
  obtain ⟨code, coded⟩ := rosflightCParamType_isSome (F := F) id
  have type := stored.type
  rw [coded, ByteImage.slice_one] at type
  have code_eq : bytes.byteAt (6668 + index) = code := by
    simpa using type.symm
  have expected : ¬ ((bytes.slice (1340 + index * 16) 16).take id.nameBytes.length ≠ id.nameBytes ∨
      id.nameBytes.length < 16 ∧
        (bytes.slice (1340 + index * 16) 16).getD id.nameBytes.length 0 ≠ 0) := by
    rw [stored.name, List.take_left]
    rintro (differs | ⟨shorter, unmarked⟩)
    · exact differs rfl
    -- The byte after a shorter name is one of the zeros behind it.
    · rw [List.getD_append_right _ _ _ _ (Nat.le_refl _), List.getD_replicate _ (by omega)]
        at unmarked
      exact unmarked rfl
  have nameSize : rosflightCParamNameSize = 16 := rfl
  have valueSize : paramStorageValueSize = 4 := rfl
  simp only [decodeField, value_eq, name_eq, type_eq]
  simp only [nameSize, valueSize, if_neg expected, coded, code_eq, value, ne_eq, not_true_eq_false,
    if_false]

/-- Stored parameters are read back one after another. -/
theorem decodeFields_of_stored {params read : Params F} {bytes : StorageImage} {index : Nat}
    {ids : List ParamId}
    (stored : ∀ offset id, ids[offset]? = some id → Stored params bytes (index + offset) id)
    (range : ∀ id, (params.getById id).InRange) :
    decodeFields bytes read index ids =
      some (ids.foldl (fun read id => read.setById id (params.getById id).reread) read) := by
  -- The induction is on the list, with what was read and the index moving along.
  induction ids generalizing read index with
  | nil => rfl
  | cons id rest ih =>
    have first := decodeField_of_stored read (stored 0 id rfl) (range id)
    rw [Nat.add_zero] at first
    rw [decodeFields, first, List.foldl_cons]
    apply ih
    intro offset other listed
    have place : index + 1 + offset = index + (offset + 1) := by omega
    rw [place]
    exact stored (offset + 1) other listed

omit [FlightFloat F] in
/-- Reading sets the listed parameters and no others. -/
theorem getById_foldl_reread (params read : Params F) (ids : List ParamId) (id : ParamId) :
    (ids.foldl (fun read id => read.setById id (params.getById id).reread) read).getById id =
      if id ∈ ids then (params.getById id).reread else read.getById id := by
  -- A parameter listed again is set to the same value again.
  induction ids generalizing read with
  | nil => simp
  | cons first rest ih =>
    rw [List.foldl_cons, ih]
    by_cases listed : id ∈ rest
    · simp [listed]
    · by_cases same : id = first
      · subst same
        simp [listed]
      · simp [listed, same, Params.getById_setById_of_ne]

/-- The header holds the version, the size and the opening mark, and no name yet. -/
theorem encodeHeader_slices (version : UInt32) :
    fromLeBytes ((encodeHeader version).slice 0 4) = version.toNat ∧
      fromLeBytes ((encodeHeader version).slice 4 2) = rosflightCParamStorageSize ∧
      (encodeHeader version).byteAt 6 = 0xBE ∧
      ∀ index, index < 333 →
        (encodeHeader version).slice (1340 + index * 16) 16 = List.replicate 16 0 := by
  have size : rosflightCParamStorageSize = 7004 := rfl
  have wide : (toLeBytes 4 version.toNat).length = 4 := length_toLeBytes _ _
  have two : (toLeBytes 2 rosflightCParamStorageSize).length = 2 := length_toLeBytes _ _
  have one : [(0xBE : UInt8)].length = 1 := rfl
  have bound := version.toNat_lt
  -- The three fields of the header follow one another, and everything behind them is blank.
  unfold encodeHeader
  refine ⟨?_, ?_, ?_, ?_⟩
  · rw [ByteImage.slice_copyFromSlice_of_disjoint _ (by omega),
      ByteImage.slice_copyFromSlice_of_disjoint _ (by omega)]
    have back := ByteImage.slice_copyFromSlice (.filled 0 : StorageImage) 0
      (toLeBytes 4 version.toNat) (by omega)
    rw [wide] at back
    rw [back, fromLeBytes_toLeBytes]
    exact Nat.mod_eq_of_lt bound
  · rw [ByteImage.slice_copyFromSlice_of_disjoint _ (by omega)]
    have back := ByteImage.slice_copyFromSlice
      ((.filled 0 : StorageImage).copyFromSlice 0 (toLeBytes 4 version.toNat)) 4
      (toLeBytes 2 rosflightCParamStorageSize) (by omega)
    rw [two] at back
    rw [back, fromLeBytes_toLeBytes]
    rfl
  · rw [ByteImage.byteAt_copyFromSlice _ _ _ (by omega), if_pos (by omega)]
    rfl
  · intro index within
    rw [ByteImage.slice_copyFromSlice_of_disjoint _ (by omega),
      ByteImage.slice_copyFromSlice_of_disjoint _ (by omega),
      ByteImage.slice_copyFromSlice_of_disjoint _ (by omega),
      ByteImage.slice_filled (by omega)]

/-- The whole image is written exactly when every stored parameter has its declared type. -/
theorem encodeRosflightCParams_ok (version : UInt32) (params : Params F) (bytes : StorageImage) :
    (encodeRosflightCParams version params bytes).1 = true ↔
      ∀ id, isRosflightCParam id = true → params.HoldsDeclaredType id := by
  have fields := encodeFields_ok params (encodeHeader version) 0 rosflightCParams
  simp only [mem_rosflightCParams] at fields
  rw [← fields, encodeRosflightCParams]
  -- The marks are written only behind a last successful field, and change nothing about success.
  split
  · rename_i failed
    simp [failed]
  · rename_i written
    simp [written, length_rosflightCParams]

/-- Closing an image leaves its fields alone and makes its mark and checksum right. -/
theorem closed_marks (bytes : StorageImage) :
    let marked := bytes.copyFromSlice paramStorageMagicEfOffset [0xEF]
    let image := marked.copyFromSlice paramStorageChecksumOffset [rosflightCChecksum marked]
    (∀ start length, start + length ≤ 7001 → image.slice start length = bytes.slice start length) ∧
      image.byteAt paramStorageMagicEfOffset = 0xEF ∧
      image.byteAt paramStorageChecksumOffset = rosflightCChecksum image := by
  intro marked image
  have mark : paramStorageMagicEfOffset = 7001 := rfl
  have checksum : paramStorageChecksumOffset = 7002 := rfl
  have values : paramStorageValuesOffset = 8 := rfl
  have size : rosflightCParamStorageSize = 7004 := rfl
  have one (byte : UInt8) : [byte].length = 1 := rfl
  have opened : marked = bytes.copyFromSlice paramStorageMagicEfOffset [0xEF] := rfl
  have closed : image =
      marked.copyFromSlice paramStorageChecksumOffset [rosflightCChecksum marked] := rfl
  -- Two writes are all that is known of the two images.
  clear_value image marked
  have fields (start length : Nat) (below : start + length ≤ 7001) :
      image.slice start length = marked.slice start length := by
    rw [closed]
    exact ByteImage.slice_copyFromSlice_of_disjoint _ (by omega)
  -- The checksum only reads the fields.
  have same : rosflightCChecksum image = rosflightCChecksum marked := by
    rw [rosflightCChecksum, fields _ _ (by omega), rosflightCChecksum]
  refine ⟨?_, ?_, ?_⟩
  · intro start length below
    rw [fields _ _ below, opened]
    exact ByteImage.slice_copyFromSlice_of_disjoint _ (by omega)
  · rw [closed, ByteImage.byteAt_copyFromSlice _ _ _ (by omega), if_neg (by omega), opened,
      ByteImage.byteAt_copyFromSlice _ _ _ (by omega), if_pos (by rw [one]; omega)]
    simp
  · rw [same, closed, ByteImage.byteAt_copyFromSlice _ _ _ (by omega),
      if_pos (by rw [one]; omega), Nat.sub_self]
    exact List.getD_cons_zero

/-- The marks and the checksum of an image are right. -/
structure RightMarks (version : UInt32) (bytes : StorageImage) : Prop where
  version : fromLeBytes (bytes.slice 0 4) = version.toNat
  size : fromLeBytes (bytes.slice 4 2) = rosflightCParamStorageSize
  magicBe : bytes.byteAt 6 = 0xBE
  magicEf : bytes.byteAt paramStorageMagicEfOffset = 0xEF
  checksum : bytes.byteAt paramStorageChecksumOffset = rosflightCChecksum bytes

/-- A written image has the right marks and stores every parameter. -/
theorem stored_of_encodes {version : UInt32} {params : Params F} {bytes image : StorageImage}
    (written : encodeRosflightCParams version params bytes = (true, image)) :
    RightMarks version image ∧
      ∀ index id, rosflightCParams[index]? = some id → Stored params image index id := by
  obtain ⟨versioned, sized, opened, blank⟩ := encodeHeader_slices version
  rw [encodeRosflightCParams] at written
  cases fields : encodeFields params (encodeHeader version) 0 rosflightCParams with
  | mk ok next =>
    rw [fields] at written
    cases ok with
    | false => cases written
    | true =>
      have counted : rosflightCParams.length = 333 := length_rosflightCParams
      obtain ⟨stored, _, header⟩ := encodeFields_stores (by omega)
        (fun other _ below => blank other below) fields
      have count : ¬ rosflightCParams.length ≠ rosflightCParamCount :=
        not_not_intro length_rosflightCParams
      simp only [if_neg count, Prod.mk.injEq, true_and] at written
      subst written
      obtain ⟨fields, marked, summed⟩ := closed_marks next
      -- Neither the fields nor the closing marks reach into the header.
      have below (start length : Nat) (inside : start + length ≤ 8) :=
        (fields start length (by omega)).trans
          (ByteImage.slice_eq_of_slice_eq header (Nat.zero_le start) (by omega))
      have opening := ByteImage.byteAt_eq_of_slice_eq (below 6 1 (by omega)) (Nat.le_refl 6)
        (Nat.lt_succ_self 6)
      refine ⟨⟨?_, ?_, opening.trans opened, marked, summed⟩, ?_⟩
      · rw [below 0 4 (by omega)]
        exact versioned
      · rw [below 4 2 (by omega)]
        exact sized
      · -- The closing marks do not reach into the fields either.
        intro index id listed
        have inside := (List.getElem?_eq_some_iff.mp listed).1
        have written := stored index id listed
        rw [Nat.zero_add] at written
        exact written.congr
          ⟨fields _ _ (by omega), fields _ _ (by omega), fields _ _ (by omega)⟩

/-- An image with the right marks is read field by field. -/
theorem RightMarks.decodeRosflightCParams_eq {version : UInt32} {bytes : StorageImage}
    (right : RightMarks version bytes) :
    (decodeRosflightCParams version bytes : Option (Params F)) =
      decodeRosflightCParamsInOrder bytes rosflightCParams := by
  rw [decodeRosflightCParams, right.version, right.size, right.magicBe, right.magicEf,
    ← right.checksum]
  simp only [ne_eq, not_true_eq_false, or_self, if_false]

/-- Every parameter of a written image is read back. -/
theorem decodeRosflightCParams_of_encodes {version : UInt32} {params : Params F}
    {bytes image : StorageImage} (range : ∀ id, (params.getById id).InRange)
    (written : encodeRosflightCParams version params bytes = (true, image)) :
    decodeRosflightCParams version image = some (rosflightCParams.foldl
      (fun read id => read.setById id (params.getById id).reread) Params.new) := by
  obtain ⟨right, stored⟩ := stored_of_encodes written
  -- Behind right marks the fields are read in the order in which they were stored.
  rw [right.decodeRosflightCParams_eq, decodeRosflightCParamsInOrder,
    decodeFields_of_stored ?_ range]
  · simp only [length_rosflightCParams, if_true]
  · intro index id listed
    rw [Nat.zero_add]
    exact stored index id listed

/-- Parameters whose values have their declared types and machine widths. -/
structure Params.WellTyped (params : Params F) : Prop where
  declared : ∀ id, params.HoldsDeclaredType id
  range : ∀ id, (params.getById id).InRange

omit [FloatBits F] in
/-- The defaults are well typed. -/
theorem Params.wellTyped_new : (Params.new : Params F).WellTyped where
  -- Each default is of the declared type, and within a word.
  declared id := by
    unfold Params.HoldsDeclaredType Params.new Params.getById
    rcases ParamId.default_float_or_int (F := F) id with ⟨value, eq⟩ | ⟨value, eq⟩ <;> rw [eq] <;>
      rfl
  range id := by
    cases id <;> first | exact trivial | exact ⟨by decide, by decide⟩

omit [FloatBits F] in
/-- Setting a parameter to a value of its type and width keeps all well typed. -/
theorem Params.WellTyped.setById {params : Params F} (typed : params.WellTyped) {id : ParamId}
    {value : ParamValue F} (declared : sameParamType value (ParamId.default id) = true)
    (range : value.InRange) : (params.setById id value).WellTyped where
  declared other := by
    -- The parameter set has the new value, and every other one the value it had.
    unfold Params.HoldsDeclaredType
    by_cases same : other = id
    · rw [same, Params.getById_setById_self]
      exact declared
    · rw [Params.getById_setById_of_ne _ _ same]
      exact typed.declared other
  range other := by
    by_cases same : other = id
    · rw [same, Params.getById_setById_self]
      exact range
    · rw [Params.getById_setById_of_ne _ _ same]
      exact typed.range other

/-- The image of well-typed parameters is written and read back: the stored parameters with their
bits, all others at their defaults; and writing fails exactly when a stored parameter holds a value
of another type. -/
theorem storage_roundTrip (version : UInt32) (bytes : StorageImage) (params : Params F) :
    (params.WellTyped → ∃ image decoded,
        encodeRosflightCParams version params bytes = (true, image) ∧
          decodeRosflightCParams version image = some decoded ∧
          (∀ id, isRosflightCParam id = true →
            (decoded.getById id).SameBits (params.getById id)) ∧
          ∀ id, isRosflightCParam id = false → decoded.getById id = ParamId.default id) ∧
      ((encodeRosflightCParams version params bytes).1 = false ↔
        ∃ id, isRosflightCParam id = true ∧ ¬ params.HoldsDeclaredType id) := by
  have ok := encodeRosflightCParams_ok version params bytes
  constructor
  · -- Well-typed parameters are written in full, so all of them are read back.
    rintro ⟨declared, range⟩
    cases written : encodeRosflightCParams version params bytes with
    | mk success image =>
      rw [written] at ok
      have success_eq : success = true := ok.mpr fun id _ => declared id
      subst success_eq
      refine ⟨image, _, rfl, decodeRosflightCParams_of_encodes range written, ?_, ?_⟩
      · intro id shared
        rw [getById_foldl_reread, if_pos ((mem_rosflightCParams id).mpr shared)]
        exact ParamValue.reread_sameBits _
      · intro id alone
        have missing : id ∉ rosflightCParams := by
          rw [mem_rosflightCParams, alone]
          exact Bool.false_ne_true
        rw [getById_foldl_reread, if_neg missing]
        rfl
  · -- Writing stops at the first parameter that does not have its type.
    rw [← Bool.not_eq_true, ok]
    simp only [not_forall, exists_prop]

end

/-- A vehicle with its own identity and gyro bias, and all of its outputs masked. -/
def tunedParams : Params Binary32 :=
  ((Params.new.setById .PARAM_SYSTEM_ID (.int 42)).setById .PARAM_GYRO_X_BIAS
    (.float (FlightFloat.lit (-0.25)))).setById .PARAM_CHANNEL_OUTPUT_MASK (.int 0)

/-- Its identity and bias are stored and read back, and its mask is the default one again. -/
theorem tunedParams_storage_roundTrip :
    ∃ image, ∃ decoded : Params Binary32,
      encodeRosflightCParams 0x1A2B3C4D tunedParams (.filled 0) = (true, image) ∧
      decodeRosflightCParams 0x1A2B3C4D image = some decoded ∧
      (decoded.getById .PARAM_SYSTEM_ID).SameBits (.int 42) ∧
      (decoded.getById .PARAM_GYRO_X_BIAS).SameBits (.float ⟨0xBE800000⟩) ∧
      decoded.getById .PARAM_CHANNEL_OUTPUT_MASK = .int 15 := by
  -- Each of the three settings keeps the defaults well typed.
  have typed : tunedParams.WellTyped := by
    apply Params.WellTyped.setById
    · apply Params.WellTyped.setById
      · apply Params.WellTyped.setById Params.wellTyped_new
        · rfl
        · exact ⟨by decide, by decide⟩
      · rfl
      · trivial
    · rfl
    · exact ⟨by decide, by decide⟩
  obtain ⟨image, decoded, written, read, stored, absent⟩ :=
    (storage_roundTrip 0x1A2B3C4D (.filled 0) tunedParams).1 typed
  have bias : tunedParams.getById .PARAM_GYRO_X_BIAS = .float ⟨0xBE800000⟩ := by decide +kernel
  refine ⟨image, decoded, written, read, stored .PARAM_SYSTEM_ID rfl, ?_,
    absent .PARAM_CHANNEL_OUTPUT_MASK rfl⟩
  rw [← bias]
  exact stored .PARAM_GYRO_X_BIAS rfl

end Veloxity
