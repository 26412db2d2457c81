import Mathlib.Logic.Function.Basic
import Veloxity.Boards.SdImage

/-! An image written to the SD card is read back with its checksum. -/

namespace Veloxity

open Library

/-- Byte of an image and its checksum at a position of the card. -/
def storedByte {imageSize : Nat} (source : ByteImage imageSize)
    (checksum : ByteImage CHECKSUM_SIZE) (position : Nat) : UInt8 :=
  if position < imageSize then source.byteAt position
  else if position < imageSize + CHECKSUM_SIZE then checksum.byteAt (position - imageSize)
  else 0

/-- A block shows the part of an image and its checksum at its index. -/
def Shows {imageSize : Nat} (source : ByteImage imageSize) (checksum : ByteImage CHECKSUM_SIZE)
    (block : DataBlock) (blockIndex : Nat) : Prop :=
  ∀ offset < BLOCK_SIZE,
    block.byteAt offset = storedByte source checksum (blockIndex * BLOCK_SIZE + offset)

/-- The checksum bytes in a block are put where they belong. -/
theorem writeChecksumOverlap_spec (block : DataBlock) (blockStart imageSize : Nat)
    (checksum : ByteImage CHECKSUM_SIZE) :
    ∃ written, writeChecksumOverlap block blockStart imageSize checksum = some written ∧
      ∀ offset < BLOCK_SIZE, written.byteAt offset =
        if imageSize ≤ blockStart + offset ∧ blockStart + offset < imageSize + CHECKSUM_SIZE then
          checksum.byteAt (blockStart + offset - imageSize)
        else block.byteAt offset := by
  -- The block begins at its start and the checksum behind the image.
  unfold writeChecksumOverlap
  dsimp only
  exact block.copyOverlap_eq_some checksum blockStart imageSize _ _ _ _ Iff.rfl fun _ => by omega

/-- The checksum bytes in a block are taken from where they belong. -/
theorem copyChecksumOverlap_spec (block : DataBlock) (blockStart imageSize : Nat)
    (checksum : ByteImage CHECKSUM_SIZE) :
    ∃ copied, copyChecksumOverlap block blockStart imageSize checksum = some copied ∧
      ∀ index < CHECKSUM_SIZE, copied.byteAt index =
        if blockStart ≤ imageSize + index ∧ imageSize + index < blockStart + BLOCK_SIZE then
          block.byteAt (imageSize + index - blockStart)
        else checksum.byteAt index := by
  -- The same two ranges, copied the other way.
  unfold copyChecksumOverlap
  dsimp only
  exact checksum.copyOverlap_eq_some block imageSize blockStart _ _ _ _ (by omega)
    fun _ => by omega

/-- A position lies in the block whose index is its quotient. -/
theorem div_blockSize_eq_iff (position blockIndex : Nat) :
    position / BLOCK_SIZE = blockIndex ↔ blockIndex * BLOCK_SIZE ≤ position ∧
      position < blockIndex * BLOCK_SIZE + BLOCK_SIZE := by
  simp only [BLOCK_SIZE]
  omega

section Blocks

variable {imageSize : Nat}

/-- The image's part of an empty block is copied to where it belongs. -/
theorem copyPayload_spec (source : ByteImage imageSize) (blockIndex : Nat) :
    ∃ copied : DataBlock,
      (if payloadEnd imageSize (blockIndex * BLOCK_SIZE) ≠ 0 then
        (ByteImage.filled 0 : DataBlock).copyRange 0
          (payloadEnd imageSize (blockIndex * BLOCK_SIZE)) source (blockIndex * BLOCK_SIZE)
          (blockIndex * BLOCK_SIZE + payloadEnd imageSize (blockIndex * BLOCK_SIZE))
      else some (ByteImage.filled 0)) = some copied ∧
        ∀ offset < BLOCK_SIZE, copied.byteAt offset =
          if blockIndex * BLOCK_SIZE + offset < imageSize then
            source.byteAt (blockIndex * BLOCK_SIZE + offset) else 0 := by
  have cut : payloadEnd imageSize (blockIndex * BLOCK_SIZE) =
      min (imageSize - blockIndex * BLOCK_SIZE) BLOCK_SIZE := rfl
  have room : payloadEnd imageSize (blockIndex * BLOCK_SIZE) ≠ 0 ↔
      max (blockIndex * BLOCK_SIZE) 0 <
        min (blockIndex * BLOCK_SIZE + BLOCK_SIZE) (0 + imageSize) := by
    omega
  -- The image begins at the first position of the card.
  obtain ⟨copied, taken, bytes⟩ := (ByteImage.filled 0 : DataBlock).copyOverlap_eq_some source
    (blockIndex * BLOCK_SIZE) 0 0 (payloadEnd imageSize (blockIndex * BLOCK_SIZE))
    (blockIndex * BLOCK_SIZE)
    (blockIndex * BLOCK_SIZE + payloadEnd imageSize (blockIndex * BLOCK_SIZE)) room
    fun _ => by omega
  refine ⟨copied, taken, ?_⟩
  intro offset inside
  have covered : 0 ≤ blockIndex * BLOCK_SIZE + offset ∧
      blockIndex * BLOCK_SIZE + offset < 0 + imageSize ↔
        blockIndex * BLOCK_SIZE + offset < imageSize := by
    omega
  rw [bytes offset inside, ByteImage.byteAt_filled inside, Nat.sub_zero]
  exact if_congr covered rfl rfl

/-- The composed block shows its part of the image and the checksum. -/
theorem composeBlock_shows (source : ByteImage imageSize) (checksum : ByteImage CHECKSUM_SIZE)
    (blockIndex : Nat) :
    ∃ block, composeBlock source checksum blockIndex = some block ∧
      Shows source checksum block blockIndex := by
  obtain ⟨copied, taken, image⟩ := copyPayload_spec source blockIndex
  obtain ⟨block, written, bytes⟩ := writeChecksumOverlap_spec copied (blockIndex * BLOCK_SIZE)
    imageSize checksum
  refine ⟨block, ?_, ?_⟩
  · rw [composeBlock]
    simp only [taken]
    exact written
  · -- The image comes first, then the checksum, then zeros.
    intro offset inside
    rw [bytes offset inside, image offset inside, storedByte]
    by_cases within : blockIndex * BLOCK_SIZE + offset < imageSize
    · rw [if_neg (by omega), if_pos within, if_pos within]
    · rw [if_neg within, if_neg within]
      by_cases behind : blockIndex * BLOCK_SIZE + offset < imageSize + CHECKSUM_SIZE
      · rw [if_pos ⟨by omega, behind⟩, if_pos behind]
      · rw [if_neg (by omega), if_neg behind]

/-- A block's part of the image is taken from it. -/
theorem takePayload_spec (block : DataBlock) (blockIndex : Nat)
    (destination : ByteImage imageSize) :
    ∃ copied : ByteImage imageSize,
      (if payloadEnd imageSize (blockIndex * BLOCK_SIZE) ≠ 0 then
        destination.copyRange (blockIndex * BLOCK_SIZE)
          (blockIndex * BLOCK_SIZE + payloadEnd imageSize (blockIndex * BLOCK_SIZE)) block 0
          (payloadEnd imageSize (blockIndex * BLOCK_SIZE))
      else some destination) = some copied ∧
        ∀ index < imageSize, copied.byteAt index =
          if index / BLOCK_SIZE = blockIndex then block.byteAt (index - blockIndex * BLOCK_SIZE)
          else destination.byteAt index := by
  have cut : payloadEnd imageSize (blockIndex * BLOCK_SIZE) =
      min (imageSize - blockIndex * BLOCK_SIZE) BLOCK_SIZE := rfl
  have room : payloadEnd imageSize (blockIndex * BLOCK_SIZE) ≠ 0 ↔
      max 0 (blockIndex * BLOCK_SIZE) <
        min (0 + imageSize) (blockIndex * BLOCK_SIZE + BLOCK_SIZE) := by
    omega
  -- The same two ranges, copied the other way.
  obtain ⟨copied, taken, bytes⟩ := destination.copyOverlap_eq_some block 0
    (blockIndex * BLOCK_SIZE) (blockIndex * BLOCK_SIZE)
    (blockIndex * BLOCK_SIZE + payloadEnd imageSize (blockIndex * BLOCK_SIZE)) 0
    (payloadEnd imageSize (blockIndex * BLOCK_SIZE)) room fun _ => by omega
  refine ⟨copied, taken, ?_⟩
  intro index inside
  rw [bytes index inside, Nat.zero_add]
  exact if_congr (div_blockSize_eq_iff index blockIndex).symm rfl rfl

/-- Taking a block never reaches out of a slice, and takes the bytes at its positions. -/
theorem takeBlock_spec (block : DataBlock) (blockIndex : Nat) (destination : ByteImage imageSize)
    (storedChecksum : ByteImage CHECKSUM_SIZE) :
    ∃ image checksum,
      takeBlock block blockIndex destination storedChecksum = some (image, checksum) ∧
      (∀ index < imageSize, image.byteAt index =
        if index / BLOCK_SIZE = blockIndex then block.byteAt (index - blockIndex * BLOCK_SIZE)
        else destination.byteAt index) ∧
      ∀ index < CHECKSUM_SIZE, checksum.byteAt index =
        if (imageSize + index) / BLOCK_SIZE = blockIndex then
          block.byteAt (imageSize + index - blockIndex * BLOCK_SIZE)
        else storedChecksum.byteAt index := by
  -- The payload and the checksum are copied by overlaps of their own, each within its slice.
  obtain ⟨image, copied, imageBytes⟩ := takePayload_spec block blockIndex destination
  obtain ⟨checksum, taken, checksumBytes⟩ := copyChecksumOverlap_spec block
    (blockIndex * BLOCK_SIZE) imageSize storedChecksum
  refine ⟨image, checksum, ?_, imageBytes, ?_⟩
  · rw [takeBlock]
    simp only [copied, taken]
  · intro index inside
    rw [checksumBytes index inside]
    -- A checksum byte lies in this block exactly when its position falls in the block's range.
    have place := div_blockSize_eq_iff (imageSize + index) blockIndex
    by_cases here : (imageSize + index) / BLOCK_SIZE = blockIndex
    · rw [if_pos here, if_pos (by omega)]
    · rw [if_neg here, if_neg (by omega)]

/-- A byte taken from a block that shows its part of the card is the byte of the card there. -/
theorem Shows.taken {source : ByteImage imageSize} {checksum : ByteImage CHECKSUM_SIZE}
    {block : DataBlock} {index : Nat} (shows : Shows source checksum block index) (position : Nat)
    (rest : List Nat) (old : UInt8) :
    (if position / BLOCK_SIZE ∈ rest then storedByte source checksum position
      else if position / BLOCK_SIZE = index then block.byteAt (position - index * BLOCK_SIZE)
      else old) =
      if position / BLOCK_SIZE ∈ index :: rest then storedByte source checksum position
      else old := by
  by_cases behind : position / BLOCK_SIZE ∈ rest
  · rw [if_pos behind, if_pos (List.mem_cons_of_mem _ behind)]
  · rw [if_neg behind]
    by_cases here : position / BLOCK_SIZE = index
    · -- The byte at its offset in the block is the byte of the card.
      obtain ⟨from_, below⟩ := (div_blockSize_eq_iff position index).mp here
      rw [if_pos here, if_pos (by simp [here]), shows _ (by omega), Nat.add_sub_cancel' from_]
    · rw [if_neg here, if_neg (by simp [here, behind])]

end Blocks

section Card

variable {E D : Type} [SdDevice E D] {imageSize : Nat}

/-- A card returns for every block what was last written there, and keeps its size. -/
structure KeepsBlocks (block : D → Nat → DataBlock) : Prop where
  written : ∀ (device : D) index data, (SdDevice.writeBlock device index data).2 = .ok () →
    block (SdDevice.writeBlock device index data).1 = Function.update (block device) index data
  read : ∀ (device : D) index, (SdDevice.readBlock device index).2 = .ok (block device index)
  keeps : ∀ (device : D) index, block (SdDevice.readBlock device index).1 = block device
  identified : ∀ (device : D), block (SdDevice.newSdCard device).1 = block device
  sizeWritten : ∀ (device : D) index data,
    SdDevice.cardSize (SdDevice.writeBlock device index data).1 = SdDevice.cardSize device
  sizeIdentified : ∀ (device : D),
    SdDevice.cardSize (SdDevice.newSdCard device).1 = SdDevice.cardSize device

/-- What a write that got through leaves: the blocks it was for, and the others as they were. -/
structure WroteBlocks (block : D → Nat → DataBlock) (source : ByteImage imageSize)
    (checksum : ByteImage CHECKSUM_SIZE) (before after : StorageDevice D)
    (indices : List Nat) : Prop where
  touched : after.touched = before.touched ++ indices
  shows : ∀ index ∈ indices, Shows source checksum (block after.device index) index
  others : ∀ index ∉ indices, block after.device index = block before.device index
  size : SdDevice.cardSize after.device = SdDevice.cardSize before.device

/-- Writing blocks never reaches out of a slice, and a write that gets through has written them. -/
theorem writeBlocks_wrote {block : D → Nat → DataBlock} (laws : KeepsBlocks block)
    (source : ByteImage imageSize) (checksum : ByteImage CHECKSUM_SIZE) (storage : StorageDevice D)
    {indices : List Nat} (distinct : indices.Nodup) (small : ∀ index ∈ indices, index < wordSize) :
    ∃ after result, writeBlocks storage source checksum indices = some (after, result) ∧
      (result = .ok () → WroteBlocks block source checksum storage after indices) := by
  induction indices generalizing storage with
  | nil =>
    refine ⟨storage, .ok (), rfl, ?_⟩
    intro _
    exact ⟨(List.append_nil _).symm, by simp, fun _ _ => rfl, rfl⟩
  | cons index rest ih =>
    obtain ⟨new, apart⟩ := List.nodup_cons.mp distinct
    obtain ⟨data, composed, shows⟩ := composeBlock_shows source checksum index
    have word : truncU32 index = index := Nat.mod_eq_of_lt (small index List.mem_cons_self)
    rw [writeBlocks, composed, word]
    cases wrote : storage.writeBlock index data with
    | mk next result =>
      have device : next.device = (SdDevice.writeBlock storage.device index data).1 :=
        (congrArg (fun done => done.1.device) wrote).symm
      have log : next.touched = storage.touched ++ [index] :=
        (congrArg (fun done => done.1.touched) wrote).symm
      cases result with
      | error error =>
        -- A failed write ends the call.
        refine ⟨next, .error (.device error), by simp only [wrote], ?_⟩
        intro through
        cases through
      | ok done =>
        have through : (SdDevice.writeBlock storage.device index data).2 = .ok () :=
          congrArg Prod.snd wrote
        have held := laws.written storage.device index data through
        obtain ⟨after, result, later, effect⟩ := ih next apart fun other member =>
          small other (List.mem_cons_of_mem _ member)
        refine ⟨after, result, by simp only [wrote, later], ?_⟩
        intro ok
        have rested := effect ok
        refine ⟨?_, ?_, ?_, ?_⟩
        · rw [rested.touched, log, List.append_assoc]
          rfl
        · intro other member
          rcases List.mem_cons.mp member with same | behind
          · -- The later writes leave this block alone.
            subst same
            rw [rested.others other new, device, held, Function.update_self]
            exact shows
          · exact rested.shows other behind
        · intro other absent
          rw [List.mem_cons, not_or] at absent
          rw [rested.others other absent.2, device, held, Function.update_of_ne absent.1]
        · rw [rested.size, device, laws.sizeWritten]

/-- A write of blocks ends well, or with the error of the card for one of them. -/
def EndsAsCard (indices : List Nat) (result : Except (SdCardError E) Unit) : Prop :=
  result = .ok () ∨ ∃ (device : D) (error : E) (data : DataBlock), ∃ index ∈ indices,
    (SdDevice.writeBlock device index data).2 = .error error ∧ result = .error (.device error)

/-- A write of blocks ends well unless the card refuses one of them. -/
theorem writeBlocks_ends (source : ByteImage imageSize) (checksum : ByteImage CHECKSUM_SIZE)
    {storage after : StorageDevice D} {result : Except (SdCardError E) Unit} {indices : List Nat}
    (small : ∀ index ∈ indices, index < wordSize)
    (wrote : writeBlocks storage source checksum indices = some (after, result)) :
    EndsAsCard (D := D) indices result := by
  induction indices generalizing storage with
  | nil =>
    cases wrote
    exact .inl rfl
  | cons index rest ih =>
    obtain ⟨data, composed, -⟩ := composeBlock_shows source checksum index
    have word : truncU32 index = index := Nat.mod_eq_of_lt (small index List.mem_cons_self)
    rw [writeBlocks, composed, word] at wrote
    cases answer : storage.writeBlock index data with
    | mk next outcome =>
      cases outcome with
      | error error =>
        -- The error that ends the loop is the one of this block.
        simp only [answer] at wrote
        cases wrote
        exact .inr ⟨storage.device, error, data, index, List.mem_cons_self,
          congrArg Prod.snd answer, rfl⟩
      | ok done =>
        simp only [answer] at wrote
        rcases ih (fun other member => small other (List.mem_cons_of_mem _ member)) wrote with
          well | ⟨device, error, refused, other, member, failed⟩
        · exact .inl well
        · exact .inr ⟨device, error, refused, other, List.mem_cons_of_mem _ member, failed⟩

/-- Reading blocks that show an image and its checksum takes over their bytes. -/
theorem readBlocks_reads {block : D → Nat → DataBlock} (laws : KeepsBlocks block)
    (source destination : ByteImage imageSize) (checksum storedChecksum : ByteImage CHECKSUM_SIZE)
    (storage : StorageDevice D) {indices : List Nat}
    (small : ∀ index ∈ indices, index < wordSize)
    (shows : ∀ index ∈ indices, Shows source checksum (block storage.device index) index) :
    ∃ after image stored, readBlocks storage destination storedChecksum indices =
        some (after, .ok (image, stored)) ∧
      after.touched = storage.touched ++ indices ∧
      (∀ index < imageSize, image.byteAt index =
        if index / BLOCK_SIZE ∈ indices then source.byteAt index else destination.byteAt index) ∧
      ∀ index < CHECKSUM_SIZE, stored.byteAt index =
        if (imageSize + index) / BLOCK_SIZE ∈ indices then checksum.byteAt index
        else storedChecksum.byteAt index := by
  -- The bytes of the first block are taken before those of the rest, which lie elsewhere.
  induction indices generalizing storage destination storedChecksum with
  | nil =>
    exact ⟨storage, destination, storedChecksum, rfl, (List.append_nil _).symm, by simp, by simp⟩
  | cons index rest ih =>
    have word : truncU32 index = index := Nat.mod_eq_of_lt (small index List.mem_cons_self)
    obtain ⟨image, stored, taken, imageBytes, storedBytes⟩ := takeBlock_spec
      (block storage.device index) index destination storedChecksum
    have head := shows index List.mem_cons_self
    have answered : storage.readBlock index =
        ({ device := (SdDevice.readBlock storage.device index).1
           touched := storage.touched ++ [index] }, .ok (block storage.device index)) := by
      rw [StorageDevice.readBlock, laws.read]
    have still : block (SdDevice.readBlock storage.device index).1 = block storage.device :=
      laws.keeps storage.device index
    obtain ⟨after, finalImage, finalStored, later, touched, finalImageBytes, finalStoredBytes⟩ :=
      ih image stored { device := (SdDevice.readBlock storage.device index).1
                        touched := storage.touched ++ [index] }
        (fun other member => small other (List.mem_cons_of_mem _ member))
        (fun other member => by
          rw [still]
          exact shows other (List.mem_cons_of_mem _ member))
    refine ⟨after, finalImage, finalStored, ?_, ?_, ?_, ?_⟩
    · rw [readBlocks, word, answered]
      simp only [taken]
      exact later
    · rw [touched, List.append_assoc]
      rfl
    · -- A byte of the image comes from the first block or from those after it.
      intro position inside
      -- A byte of the image comes from the first block or from those after it.
      have image : storedByte source checksum position = source.byteAt position := if_pos inside
      rw [finalImageBytes position inside, imageBytes position inside, ← image]
      exact head.taken position rest (destination.byteAt position)
    · intro position inside
      -- The checksum lies behind the image, and its bytes are taken in the same way.
      have behind : storedByte source checksum (imageSize + position) =
          checksum.byteAt position := by
        rw [storedByte, if_neg (by omega), if_pos (by omega), Nat.add_sub_cancel_left]
      rw [finalStoredBytes position inside, storedBytes position inside, ← behind]
      exact head.taken (imageSize + position) rest (storedChecksum.byteAt position)

/-- Reading never reaches out of a slice, whatever the card holds. -/
theorem readBlocks_isSome (destination : ByteImage imageSize)
    (storedChecksum : ByteImage CHECKSUM_SIZE) (storage : StorageDevice D) (indices : List Nat) :
    (readBlocks storage destination storedChecksum indices).isSome = true := by
  -- Every block taken leaves slices of the same lengths for the next one.
  induction indices generalizing storage destination storedChecksum with
  | nil => rfl
  | cons index rest ih =>
    rw [readBlocks]
    cases answer : storage.readBlock (truncU32 index) with
    | mk next result =>
      cases result with
      | error error => rfl
      | ok block =>
        obtain ⟨image, stored, taken, -⟩ := takeBlock_spec block index destination storedChecksum
        simp only [taken]
        exact ih image stored next

/-- The bytes of a checksum spell it. -/
theorem checksumBytes_spell (checksum : UInt32) :
    UInt32.ofNat (fromLeBytes ((checksumBytes checksum).slice 0 CHECKSUM_SIZE)) = checksum := by
  -- The four bytes are the little-endian word, and four bytes hold any word.
  have copied : (checksumBytes checksum).slice 0 CHECKSUM_SIZE =
      toLeBytes CHECKSUM_SIZE checksum.toNat := by
    have field := (ByteImage.filled 0 : ByteImage CHECKSUM_SIZE).slice_copyFromSlice 0
      (toLeBytes CHECKSUM_SIZE checksum.toNat) (by simp)
    rwa [length_toLeBytes] at field
  have word : checksum.toNat % 256 ^ CHECKSUM_SIZE = checksum.toNat := by
    have below := checksum.toNat_lt
    simp only [CHECKSUM_SIZE]
    omega
  rw [copied, fromLeBytes_toLeBytes, word]
  exact UInt32.ofNat_toNat

/-- The blocks of an image are numbered within a machine word. -/
theorem blocks_small (small : imageSize ≤ MAX_PAYLOAD_SIZE) :
    ∀ index ∈ List.range (imageBlocks imageSize), index < wordSize := by
  intro index member
  have below := List.mem_range.mp member
  -- There are at most sixteen of them.
  have bound : imageSize ≤ 8188 := small
  have few : imageBlocks imageSize = (imageSize + 4 + 512 - 1) / 512 := rfl
  simp only [wordSize]
  omega

/-- Every byte of an image and its checksum lies in one of its blocks. -/
theorem block_mem (position : Nat) (inside : position < imageSize + CHECKSUM_SIZE) :
    position / BLOCK_SIZE ∈ List.range (imageBlocks imageSize) := by
  rw [List.mem_range]
  simp only [imageBlocks, CHECKSUM_SIZE, BLOCK_SIZE] at inside ⊢
  omega

/-- A card whose blocks show an image and its checksum has them read. -/
theorem readImage_of_shows {block : D → Nat → DataBlock} (laws : KeepsBlocks block)
    (small : imageSize ≤ MAX_PAYLOAD_SIZE) (source destination : ByteImage imageSize)
    (checksum : UInt32) (storage : StorageDevice D)
    (shows : ∀ index ∈ List.range (imageBlocks imageSize),
      Shows source (checksumBytes checksum) (block storage.device index) index) :
    ∃ final, readImage storage destination = some (final, .ok (source, checksum)) ∧
      final.touched = storage.touched ++ List.range (imageBlocks imageSize) := by
  obtain ⟨final, image, stored, read, touched, imageBytes, storedBytes⟩ := readBlocks_reads laws
    source destination (checksumBytes checksum) (ByteImage.filled 0) storage (blocks_small small)
    shows
  -- Every position of the image and of the checksum lies in one of the blocks read.
  have sameImage : image = source := by
    apply ByteImage.eq_of_byteAt_eq
    intro index inside
    rw [imageBytes index inside, if_pos (block_mem index (by omega))]
  have sameChecksum : stored = checksumBytes checksum := by
    apply ByteImage.eq_of_byteAt_eq
    intro index inside
    rw [storedBytes index inside, if_pos (block_mem (imageSize + index) (by omega))]
  refine ⟨final, ?_, touched⟩
  rw [readImage, read, sameImage, sameChecksum]
  simp only [Option.map_some, Except.map, checksumBytes_spell]

/-- Writing an image never reaches out of a slice, gets through unless the card refuses a block, and
leaves the image if it does. -/
theorem writeImage_wrote {block : D → Nat → DataBlock} (laws : KeepsBlocks block)
    (small : imageSize ≤ MAX_PAYLOAD_SIZE) (source : ByteImage imageSize) (checksum : UInt32)
    (storage : StorageDevice D) :
    ∃ after result, writeImage storage source checksum = some (after, result) ∧
      EndsAsCard (D := D) (List.range (imageBlocks imageSize)) result ∧
      (result = .ok () → WroteBlocks block source (checksumBytes checksum) storage after
        (List.range (imageBlocks imageSize))) := by
  obtain ⟨after, result, wrote, effect⟩ := writeBlocks_wrote laws source (checksumBytes checksum)
    storage List.nodup_range (blocks_small small)
  exact ⟨after, result, wrote, writeBlocks_ends source _ (blocks_small small) wrote, effect⟩

/-- A card access that succeeds has passed the size checks and identified the card. -/
theorem access_ok {α : Type} {sdmmc after : StorageDevice D} {value : α}
    {use : StorageDevice D → Option (StorageDevice D × Except (SdCardError E) α)}
    (succeeded : SdCard.access sdmmc imageSize use = some (after, .ok value)) :
    ∃ device, SdDevice.newSdCard sdmmc.device = (device, .ok ()) ∧
      (validateCardSize device imageSize : Except (SdCardError E) Unit) = .ok () ∧
      use { sdmmc with device } = some (after, .ok value) := by
  -- Each check that fails ends the access with an error, so all three have passed.
  unfold SdCard.access at succeeded
  cases size : (validateImageSize imageSize : Except (SdCardError E) Unit) with
  | error error => simp [size] at succeeded
  | ok _ =>
    cases identified : SdDevice.newSdCard sdmmc.device with
    | mk device result =>
      cases result with
      | error error => simp [size, identified] at succeeded
      | ok _ =>
        cases room : (validateCardSize device imageSize : Except (SdCardError E) Unit) with
        | error error => simp [size, identified, room] at succeeded
        | ok _ =>
          simp only [size, identified, room] at succeeded
          exact ⟨device, rfl, room, succeeded⟩

/-- What the card has accepted it reads back, once it is identified again. -/
theorem read_of_write {block : D → Nat → DataBlock} (laws : KeepsBlocks block)
    (small : imageSize ≤ MAX_PAYLOAD_SIZE) {source : ByteImage imageSize}
    {sdmmc after : StorageDevice D} (written : SdCard.write sdmmc source = some (after, .ok ()))
    (again : (SdDevice.newSdCard after.device).2 = .ok ()) (destination : ByteImage imageSize) :
    ∃ final, SdCard.read after destination = some (final, .ok source) := by
  obtain ⟨device, -, room, wrote⟩ := access_ok written
  obtain ⟨wroteTo, result, wroteImage, -, effect⟩ := writeImage_wrote laws small source
    (rosflightCrc32 (source.slice 0 imageSize)) { sdmmc with device }
  rw [wroteImage] at wrote
  cases wrote
  have done := effect rfl
  -- The card is identified again with the same blocks and size.
  have blocks := laws.identified after.device
  have size := laws.sizeIdentified after.device
  cases identified : SdDevice.newSdCard after.device with
  | mk next result =>
    rw [identified] at again blocks size
    have fine : (validateImageSize imageSize : Except (SdCardError E) Unit) = .ok () :=
      if_neg (by omega)
    have stillRoom : (validateCardSize next imageSize : Except (SdCardError E) Unit) = .ok () := by
      rw [← room, validateCardSize, validateCardSize, size, done.size]
    obtain ⟨final, read, -⟩ := readImage_of_shows laws small source destination
      (rosflightCrc32 (source.slice 0 imageSize)) { after with device := next }
      (fun index member => by
        rw [blocks]
        exact done.shows index member)
    refine ⟨final, ?_⟩
    rw [SdCard.read, SdCard.access, fine]
    simp only at again
    simp only [identified, again, stillRoom, read]
    simp

/-- An image written to the card is read back with its checksum, by the blocks it takes and no
others; the write ends well unless the card refuses one of its blocks; no slice is out of range; and
the card accepts what it has stored. -/
theorem sdImage_roundTrip {block : D → Nat → DataBlock} (laws : KeepsBlocks block)
    (small : imageSize ≤ MAX_PAYLOAD_SIZE) (source : ByteImage imageSize) :
    (∀ (checksum : UInt32) (storage : StorageDevice D), ∃ after result,
      writeImage storage source checksum = some (after, result) ∧
        EndsAsCard (D := D) (List.range (imageBlocks imageSize)) result ∧
        (result = .ok () →
          after.touched = storage.touched ++ List.range (imageBlocks imageSize) ∧
          ∀ destination, ∃ final,
            readImage after destination = some (final, .ok (source, checksum)) ∧
              final.touched = after.touched ++ List.range (imageBlocks imageSize))) ∧
    (∀ (storage : StorageDevice D) (destination : ByteImage imageSize),
      (readImage storage destination).isSome = true) ∧
    ∀ sdmmc after : StorageDevice D, SdCard.write sdmmc source = some (after, .ok ()) →
      (SdDevice.newSdCard after.device).2 = .ok () →
        ∀ destination, ∃ final, SdCard.read after destination = some (final, .ok source) := by
  refine ⟨?_, ?_, ?_⟩
  · -- What a finished write leaves on the card shows the image in every block.
    intro checksum storage
    obtain ⟨after, result, wrote, ends, effect⟩ :=
      writeImage_wrote laws small source checksum storage
    refine ⟨after, result, wrote, ends, ?_⟩
    intro through
    have done := effect through
    exact ⟨done.touched, fun destination =>
      readImage_of_shows laws small source destination checksum after done.shows⟩
  · -- Reading never leaves a slice, whatever the blocks hold.
    intro storage destination
    rw [readImage, Option.isSome_map]
    exact readBlocks_isSome destination _ storage _
  · -- A card that accepted the write identifies itself and has room for the read too.
    intro sdmmc after written again destination
    exact read_of_write laws small written again destination

end Card

/-- A card that holds its blocks in memory and never fails. -/
structure MemoryCard where
  blocks : Nat → DataBlock

namespace MemoryCard

instance : SdDevice Unit MemoryCard where
  newSdCard card := (card, .ok ())
  cardSize _ := 1048576
  readBlock card index := (card, .ok (card.blocks index))
  writeBlock card index data := ({ blocks := Function.update card.blocks index data }, .ok ())

/-- A card in memory keeps its blocks. -/
theorem keepsBlocks : KeepsBlocks MemoryCard.blocks where
  -- Reading looks the block up, and writing changes that block alone.
  written _ _ _ _ := rfl
  read _ _ := rfl
  keeps _ _ := rfl
  identified _ := rfl
  sizeWritten _ _ _ := rfl
  sizeIdentified _ := rfl

/-- An empty card. -/
def blank : StorageDevice MemoryCard :=
  { device := { blocks := fun _ => ByteImage.filled 0 }, touched := [] }

/-- An image whose checksum begins in its first block and ends in a second one. -/
def straddling : ByteImage 510 := ByteImage.filled 7

/-- A straddling checksum is read back from the card in memory. -/
theorem straddling_roundTrip :
    ∃ after, writeImage blank straddling 0xDEADBEEF = some (after, .ok ()) ∧
      after.touched = [0, 1] ∧
      ∀ destination, ∃ final,
        readImage after destination = some (final, .ok (straddling, 0xDEADBEEF)) ∧
          final.touched = [0, 1, 0, 1] := by
  obtain ⟨after, result, wrote, ends, effect⟩ :=
    (sdImage_roundTrip keepsBlocks (by decide) straddling).1 0xDEADBEEF blank
  -- The card in memory refuses no block.
  have well : result = .ok () := by
    rcases ends with well | ⟨device, error, data, index, -, refused, -⟩
    · exact well
    · exact nomatch refused
  obtain ⟨touched, restored⟩ := effect well
  rw [show blank.touched ++ List.range (imageBlocks 510) = [0, 1] from rfl] at touched
  refine ⟨after, well ▸ wrote, touched, fun destination => ?_⟩
  obtain ⟨final, read, log⟩ := restored destination
  exact ⟨final, read, by rw [log, touched]; rfl⟩

end MemoryCard

end Veloxity
