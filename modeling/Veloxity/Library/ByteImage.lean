import Mathlib.Algebra.Group.Nat.Defs
import Mathlib.Data.List.GetD
import Mathlib.Data.List.OfFn

/-! Fixed-size byte images with fields at offsets, and little-endian numbers. -/

namespace Veloxity.Library

/-- A byte array whose size never changes. -/
structure ByteImage (size : Nat) where
  data : Vector UInt8 size
  deriving DecidableEq

namespace ByteImage

variable {size : Nat}

/-- An image of one repeated byte. -/
def filled (byte : UInt8) : ByteImage size := ⟨Vector.replicate size byte⟩

/-- The byte at a position of the image. -/
def byteAt (image : ByteImage size) (index : Nat) : UInt8 := image.data[index]?.getD 0

/-- Copy bytes into the image from a position on. -/
def copyFromSlice (image : ByteImage size) (start : Nat) (bytes : List UInt8) : ByteImage size :=
  ⟨Vector.ofFn fun index =>
    if start ≤ index.val ∧ index.val < start + bytes.length then bytes.getD (index.val - start) 0
    else image.data[index]⟩

/-- The bytes of a field. -/
def slice (image : ByteImage size) (start length : Nat) : List UInt8 :=
  (List.range length).map fun index => image.byteAt (start + index)

/-- Copy a range of another image into a range of the image; ranges that are not in order, within
their images and of one length stop the program. -/
def copyRange {other : Nat} (image : ByteImage size) (start stop : Nat)
    (source : ByteImage other) (sourceStart sourceStop : Nat) : Option (ByteImage size) :=
  if start ≤ stop ∧ stop ≤ size ∧ sourceStart ≤ sourceStop ∧ sourceStop ≤ other ∧
      stop - start = sourceStop - sourceStart then
    some (image.copyFromSlice start (source.slice sourceStart (sourceStop - sourceStart)))
  else none

/-- A filled image has the same byte everywhere. -/
theorem byteAt_filled {byte : UInt8} {index : Nat} (within : index < size) :
    (filled byte : ByteImage size).byteAt index = byte := by
  simp [filled, byteAt, within]

/-- A copy shows inside its range and leaves the rest as it was. -/
theorem byteAt_copyFromSlice (image : ByteImage size) (start : Nat) (bytes : List UInt8)
    {index : Nat} (within : index < size) :
    (image.copyFromSlice start bytes).byteAt index =
      if start ≤ index ∧ index < start + bytes.length then bytes.getD (index - start) 0
      else image.byteAt index := by
  simp [copyFromSlice, byteAt, within]

/-- Copied ranges within their images show the bytes of the source and leave the rest alone. -/
theorem copyRange_eq_some {other : Nat} (image : ByteImage size) (source : ByteImage other)
    (start stop sourceStart sourceStop : Nat) (ordered : start ≤ stop)
    (within : stop ≤ size) (sourceOrdered : sourceStart ≤ sourceStop)
    (sourceWithin : sourceStop ≤ other) (lengths : stop - start = sourceStop - sourceStart) :
    ∃ copied, image.copyRange start stop source sourceStart sourceStop = some copied ∧
      ∀ index < size, copied.byteAt index =
        if start ≤ index ∧ index < stop then source.byteAt (sourceStart + (index - start))
        else image.byteAt index := by
  refine ⟨_, if_pos ⟨ordered, within, sourceOrdered, sourceWithin, lengths⟩, ?_⟩
  intro index inside
  rw [byteAt_copyFromSlice _ _ _ inside]
  have length : (source.slice sourceStart (sourceStop - sourceStart)).length = stop - start := by
    rw [slice, List.length_map, List.length_range, lengths]
  have stops : start + (stop - start) = stop := Nat.add_sub_cancel' ordered
  rw [length, stops]
  by_cases copied : start ≤ index ∧ index < stop
  · -- A copied byte is the one at the same offset of the source.
    have offset : index - start < sourceStop - sourceStart := by omega
    rw [if_pos copied, if_pos copied]
    simp [slice, offset]
  · rw [if_neg copied, if_neg copied]

/-- Two images laid out from positions of their own share a range: copying the one over the other
there, if there is any, shows it at exactly the positions it covers. -/
theorem copyOverlap_eq_some {other : Nat} (image : ByteImage size) (source : ByteImage other)
    (base origin start stop sourceStart sourceStop : Nat) {asked : Prop} [Decidable asked]
    (overlaps : asked ↔ max base origin < min (base + size) (origin + other))
    (places : asked → base + start = max base origin ∧
      base + stop = min (base + size) (origin + other) ∧
      origin + sourceStart = max base origin ∧
      origin + sourceStop = min (base + size) (origin + other)) :
    ∃ copied, (if asked then image.copyRange start stop source sourceStart sourceStop
        else some image) = some copied ∧
      ∀ index < size, copied.byteAt index =
        if origin ≤ base + index ∧ base + index < origin + other then
          source.byteAt (base + index - origin)
        else image.byteAt index := by
  by_cases ask : asked
  · have overlap := overlaps.mp ask
    obtain ⟨begins, ends, sourceBegins, sourceEnds⟩ := places ask
    obtain ⟨copied, taken, bytes⟩ := image.copyRange_eq_some source start stop sourceStart
      sourceStop (by omega) (by omega) (by omega) (by omega) (by omega)
    refine ⟨copied, (if_pos ask).trans taken, ?_⟩
    intro index inside
    rw [bytes index inside]
    -- The range is that of the covered positions.
    by_cases covered : origin ≤ base + index ∧ base + index < origin + other
    · rw [if_pos covered, if_pos (by omega)]
      congr 1
      omega
    · rw [if_neg covered, if_neg (by omega)]
  · have apart := mt overlaps.mpr ask
    refine ⟨image, if_neg ask, ?_⟩
    intro index inside
    rw [if_neg (by omega)]

/-- Images with the same bytes are the same. -/
theorem eq_of_byteAt_eq {image other : ByteImage size}
    (same : ∀ index < size, image.byteAt index = other.byteAt index) : image = other := by
  obtain ⟨bytes⟩ := image
  obtain ⟨others⟩ := other
  congr 1
  -- A byte inside the image is the one at its place.
  apply Vector.ext
  intro index inside
  have byte := same index inside
  simpa [byteAt, inside] using byte

/-- Beyond the image no byte ever changes. -/
theorem byteAt_of_size_le (image : ByteImage size) {index : Nat} (outside : size ≤ index) :
    image.byteAt index = 0 := by
  simp [byteAt, outside]

@[simp] theorem length_slice (image : ByteImage size) (start length : Nat) :
    (image.slice start length).length = length := by
  rw [slice, List.length_map, List.length_range]

/-- Slices of images that agree on a range are equal. -/
theorem slice_congr {image other : ByteImage size} {start length : Nat}
    (agree : ∀ index, start ≤ index → index < start + length →
      image.byteAt index = other.byteAt index) :
    image.slice start length = other.slice start length := by
  unfold slice
  -- A slice lists its bytes one by one.
  apply List.map_congr_left
  intro index member
  have inside := List.mem_range.mp member
  exact agree _ (by omega) (by omega)

/-- Images with equal slices agree on their range. -/
theorem byteAt_eq_of_slice_eq {image other : ByteImage size} {start length index : Nat}
    (same : image.slice start length = other.slice start length) (above : start ≤ index)
    (below : index < start + length) : image.byteAt index = other.byteAt index := by
  obtain ⟨offset, rfl⟩ := Nat.exists_eq_add_of_le above
  have inside : offset < length := by omega
  have bytes := congrArg (fun bytes => bytes[offset]?) same
  simpa [slice, inside] using bytes

/-- Images with equal slices have equal slices of a smaller range. -/
theorem slice_eq_of_slice_eq {image other : ByteImage size} {start length inner width : Nat}
    (same : image.slice start length = other.slice start length) (above : start ≤ inner)
    (below : inner + width ≤ start + length) :
    image.slice inner width = other.slice inner width := by
  apply slice_congr
  intro index after before
  exact byteAt_eq_of_slice_eq same (by omega) (by omega)

/-- A slice of one byte holds that byte. -/
theorem slice_one (image : ByteImage size) (index : Nat) :
    image.slice index 1 = [image.byteAt index] := rfl

/-- Two adjacent slices make up one. -/
theorem slice_add (image : ByteImage size) (start first second : Nat) :
    image.slice start (first + second) =
      image.slice start first ++ image.slice (start + first) second := by
  simp only [slice, List.range_add, List.map_append, List.map_map, Nat.add_assoc]
  rfl

/-- A field filled with zeros reads as zeros. -/
theorem slice_filled {start length : Nat} {byte : UInt8} (within : start + length ≤ size) :
    (filled byte : ByteImage size).slice start length = List.replicate length byte := by
  apply List.eq_replicate_iff.mpr
  refine ⟨length_slice _ _ _, ?_⟩
  intro value member
  -- Every byte of the slice is one of the image.
  obtain ⟨index, inside, rfl⟩ := List.mem_map.mp member
  have bound := List.mem_range.mp inside
  exact byteAt_filled (by omega)

/-- A copied field reads back. -/
theorem slice_copyFromSlice (image : ByteImage size) (start : Nat) (bytes : List UInt8)
    (within : start + bytes.length ≤ size) :
    (image.copyFromSlice start bytes).slice start bytes.length = bytes := by
  apply List.ext_getElem (length_slice _ _ _)
  intro index inside _
  rw [length_slice] at inside
  -- Every position of the range holds the byte copied there.
  simp only [slice, List.getElem_map, List.getElem_range]
  rw [byteAt_copyFromSlice _ _ _ (by omega), if_pos (by omega), Nat.add_sub_cancel_left,
    List.getD_eq_getElem _ _ inside]

/-- A copy leaves every field apart from its range alone. -/
theorem slice_copyFromSlice_of_disjoint (image : ByteImage size) {start other length : Nat}
    {bytes : List UInt8} (apart : other + length ≤ start ∨ start + bytes.length ≤ other) :
    (image.copyFromSlice start bytes).slice other length = image.slice other length := by
  -- No byte of the other field lies in the range written; past the end every byte is zero.
  apply slice_congr
  intro index above below
  rcases Nat.lt_or_ge index size with within | outside
  · rw [byteAt_copyFromSlice _ _ _ within, if_neg (by omega)]
  · rw [byteAt_of_size_le _ outside, byteAt_of_size_le _ outside]

/-- Bytes copied into a blank field leave the rest of the field blank. -/
theorem slice_copyFromSlice_padded (image : ByteImage size) {start width : Nat}
    {bytes : List UInt8} {pad : UInt8} (short : bytes.length ≤ width)
    (within : start + width ≤ size) (blank : image.slice start width = List.replicate width pad) :
    (image.copyFromSlice start bytes).slice start width =
      bytes ++ List.replicate (width - bytes.length) pad := by
  obtain ⟨rest, rfl⟩ := Nat.exists_eq_add_of_le short
  rw [slice_add, ← List.replicate_append_replicate] at blank
  -- Behind the copied bytes the blank field shows.
  have behind := (List.append_inj blank (by simp)).2
  rw [slice_add, slice_copyFromSlice _ _ _ (by omega),
    slice_copyFromSlice_of_disjoint _ (Or.inr (Nat.le_refl _)), behind, Nat.add_sub_cancel_left]

/-- A byte written into the image shows at its place. -/
theorem byteAt_copyFromSlice_self (image : ByteImage size) {index : Nat} (within : index < size)
    (byte : UInt8) : (image.copyFromSlice index [byte]).byteAt index = byte := by
  have written : index ≤ index ∧ index < index + [byte].length :=
    ⟨Nat.le_refl _, Nat.lt_succ_self _⟩
  rw [byteAt_copyFromSlice _ _ _ within, if_pos written, Nat.sub_self]
  exact List.getD_cons_zero

/-- A byte written into the image changes no other byte. -/
theorem byteAt_copyFromSlice_of_ne (image : ByteImage size) {index other : Nat}
    (apart : other ≠ index) (byte : UInt8) :
    (image.copyFromSlice index [byte]).byteAt other = image.byteAt other := by
  have one : [byte].length = 1 := rfl
  -- Within the image the range written is that one byte; past the end every byte is zero.
  rcases Nat.lt_or_ge other size with within | outside
  · rw [byteAt_copyFromSlice _ _ _ within, if_neg (by omega)]
  · rw [byteAt_of_size_le _ outside, byteAt_of_size_le _ outside]

/-- A byte of a field stands between those before and those behind it. -/
theorem slice_eq_append_cons (image : ByteImage size) (start before after : Nat) :
    image.slice start (before + 1 + after) =
      image.slice start before ++
        image.byteAt (start + before) :: image.slice (start + before + 1) after := by
  rw [slice_add, slice_add, slice_one, List.append_assoc]
  rfl

end ByteImage

/-- From different bytes the exclusive or with further ones leads to different bytes. -/
theorem foldl_xor_injective (bytes : List UInt8) :
    Function.Injective fun start : UInt8 => bytes.foldl (· ^^^ ·) start := by
  -- Each byte can be taken out again.
  induction bytes with
  | nil => exact Function.injective_id
  | cons byte rest ih =>
    intro first second same
    exact (UInt8.xor_left_inj byte).mp (ih same)

/-- The exclusive or of the bytes of a field tells a change of one of them. -/
theorem ByteImage.foldl_xor_copyFromSlice {size : Nat} (image : ByteImage size)
    {start length index : Nat} {byte : UInt8} (within : index < size) (above : start ≤ index)
    (below : index < start + length) (differs : byte ≠ image.byteAt index) :
    ((image.copyFromSlice index [byte]).slice start length).foldl (· ^^^ ·) 0 ≠
      (image.slice start length).foldl (· ^^^ ·) 0 := by
  obtain ⟨before, rfl⟩ := Nat.exists_eq_add_of_le above
  obtain ⟨after, rfl⟩ := Nat.exists_eq_add_of_le (show before + 1 ≤ length by omega)
  have one : [byte].length = 1 := rfl
  -- The bytes before and behind the changed one are the same.
  rw [slice_eq_append_cons, slice_eq_append_cons, byteAt_copyFromSlice_self _ within,
    slice_copyFromSlice_of_disjoint _ (Or.inl (Nat.le_refl _)),
    slice_copyFromSlice_of_disjoint _ (Or.inr (by omega)), List.foldl_append, List.foldl_append,
    List.foldl_cons, List.foldl_cons]
  intro same
  exact differs ((UInt8.xor_right_inj _).mp (foldl_xor_injective _ same))

/-- The low bytes of a number, least significant first. -/
def toLeBytes : Nat → Nat → List UInt8
  | 0, _ => []
  | width + 1, value => UInt8.ofNat (value % 256) :: toLeBytes width (value / 256)

/-- The number that little-endian bytes spell. -/
def fromLeBytes : List UInt8 → Nat
  | [] => 0
  | byte :: rest => byte.toNat + 256 * fromLeBytes rest

@[simp] theorem length_toLeBytes (width value : Nat) : (toLeBytes width value).length = width := by
  induction width generalizing value with
  | zero => rfl
  | succ width ih => rw [toLeBytes, List.length_cons, ih]

/-- Little-endian bytes read back as the number, as far as they reach. -/
theorem fromLeBytes_toLeBytes (width value : Nat) :
    fromLeBytes (toLeBytes width value) = value % 256 ^ width := by
  -- The first byte is the remainder and the rest spell the quotient.
  induction width generalizing value with
  | zero => simp [toLeBytes, fromLeBytes, Nat.mod_one]
  | succ width ih =>
    have first : (UInt8.ofNat (value % 256)).toNat = value % 256 := by simp
    rw [toLeBytes, fromLeBytes, ih, first, Nat.pow_succ, Nat.mul_comm (256 ^ width) 256,
      Nat.mod_mul]

/-- Bytes of one length that spell the same number are the same. -/
theorem fromLeBytes_injective {first second : List UInt8} (length : first.length = second.length)
    (same : fromLeBytes first = fromLeBytes second) : first = second := by
  -- The remainder gives the first byte and the quotient the rest.
  induction first generalizing second with
  | nil => exact (List.length_eq_zero_iff.mp length.symm).symm
  | cons byte rest ih =>
    cases second with
    | nil => cases length
    | cons other others =>
      rw [fromLeBytes, fromLeBytes] at same
      have small := byte.toNat_lt
      have bound := other.toNat_lt
      have first : byte.toNat = other.toNat := by omega
      have later : fromLeBytes rest = fromLeBytes others := by omega
      rw [UInt8.toNat_inj.mp first, ih (Nat.succ.inj length) later]

end Veloxity.Library
