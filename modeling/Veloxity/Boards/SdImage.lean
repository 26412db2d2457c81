import Veloxity.Core.Machine
import Veloxity.Library.ByteImage

/-! The parameter image on the blocks of an SD card, followed by its checksum. -/

namespace Veloxity

open Library

/-- Bytes of a block. -/
abbrev BLOCK_SIZE : Nat := 512

/-- Bytes of the checksum behind the image. -/
abbrev CHECKSUM_SIZE : Nat := 4

/-- Blocks an image and its checksum may take. -/
def MAX_BLOCKS : Nat := 16

/-- Largest image that leaves room for its checksum. -/
def MAX_PAYLOAD_SIZE : Nat := MAX_BLOCKS * BLOCK_SIZE - CHECKSUM_SIZE

/-- A block of the card. -/
abbrev DataBlock := ByteImage BLOCK_SIZE

/-- Reasons the card access can fail. -/
inductive SdCardError (E : Type) where
  | device (error : E)
  | imageTooLarge
  | cardTooSmall
  | checksumMismatch
  deriving DecidableEq, Repr

/-- What the card and its peripheral do, with the errors they report. -/
class SdDevice (E : outParam Type) (D : Type) where
  /-- Identify the inserted card. -/
  newSdCard : D → D × Except E Unit
  /-- Bytes of the card. -/
  cardSize : D → Nat
  /-- Read one block. -/
  readBlock : D → Nat → D × Except E DataBlock
  /-- Write one block. -/
  writeBlock : D → Nat → DataBlock → D × Except E Unit

/-- A card with the indices of the blocks it was asked for. -/
structure StorageDevice (D : Type) where
  device : D
  touched : List Nat

/-- Blocks an image takes with its checksum. -/
def imageBlocks (imageSize : Nat) : Nat :=
  (imageSize + CHECKSUM_SIZE + BLOCK_SIZE - 1) / BLOCK_SIZE

/-- Take the bytes of the checksum that lie in a block; a slice out of range stops the program. -/
def copyChecksumOverlap (block : DataBlock) (blockStart imageSize : Nat)
    (checksum : ByteImage CHECKSUM_SIZE) : Option (ByteImage CHECKSUM_SIZE) :=
  let checksumStart := imageSize
  let checksumEnd := imageSize + CHECKSUM_SIZE
  let blockEnd := blockStart + BLOCK_SIZE
  let overlapStart := max blockStart checksumStart
  let overlapEnd := min blockEnd checksumEnd
  if overlapStart < overlapEnd then
    checksum.copyRange (overlapStart - checksumStart) (overlapEnd - checksumStart) block
      (overlapStart - blockStart) (overlapEnd - blockStart)
  else some checksum

/-- Put the bytes of the checksum that lie in a block there. -/
def writeChecksumOverlap (block : DataBlock) (blockStart imageSize : Nat)
    (checksum : ByteImage CHECKSUM_SIZE) : Option DataBlock :=
  let checksumStart := imageSize
  let checksumEnd := imageSize + CHECKSUM_SIZE
  let blockEnd := blockStart + BLOCK_SIZE
  let overlapStart := max blockStart checksumStart
  let overlapEnd := min blockEnd checksumEnd
  if overlapStart < overlapEnd then
    block.copyRange (overlapStart - blockStart) (overlapEnd - blockStart) checksum
      (overlapStart - checksumStart) (overlapEnd - checksumStart)
  else some block

section Images

variable {imageSize : Nat}

/-- Bytes of the image that lie in the block at a position. -/
def payloadEnd (imageSize blockStart : Nat) : Nat := min (imageSize - blockStart) BLOCK_SIZE

/-- Take the bytes of the image and of the checksum that lie in a block. -/
def takeBlock (block : DataBlock) (blockIndex : Nat) (destination : ByteImage imageSize)
    (storedChecksum : ByteImage CHECKSUM_SIZE) :
    Option (ByteImage imageSize × ByteImage CHECKSUM_SIZE) :=
  let blockStart := blockIndex * BLOCK_SIZE
  let payloadEnd := payloadEnd imageSize blockStart
  let copied :=
    if payloadEnd ≠ 0 then
      destination.copyRange blockStart (blockStart + payloadEnd) block 0 payloadEnd
    else some destination
  match copied, copyChecksumOverlap block blockStart imageSize storedChecksum with
  | some destination, some storedChecksum => some (destination, storedChecksum)
  | _, _ => none

/-- The block of an image and its checksum at an index. -/
def composeBlock (source : ByteImage imageSize) (checksum : ByteImage CHECKSUM_SIZE)
    (blockIndex : Nat) : Option DataBlock :=
  let blockStart := blockIndex * BLOCK_SIZE
  let payloadEnd := payloadEnd imageSize blockStart
  let copied :=
    if payloadEnd ≠ 0 then
      (ByteImage.filled 0).copyRange 0 payloadEnd source blockStart (blockStart + payloadEnd)
    else some (ByteImage.filled 0)
  match copied with
  | some block => writeChecksumOverlap block blockStart imageSize checksum
  | none => none

variable {E D : Type} [SdDevice E D]

namespace StorageDevice

/-- Ask the card for a block. -/
def readBlock (storage : StorageDevice D) (index : Nat) :
    StorageDevice D × Except E DataBlock :=
  let done := SdDevice.readBlock storage.device index
  ({ device := done.1, touched := storage.touched ++ [index] }, done.2)

/-- Give the card a block. -/
def writeBlock (storage : StorageDevice D) (index : Nat) (block : DataBlock) :
    StorageDevice D × Except E Unit :=
  let done := SdDevice.writeBlock storage.device index block
  ({ device := done.1, touched := storage.touched ++ [index] }, done.2)

end StorageDevice

/-- Read the blocks at some indices into the image and the checksum. -/
def readBlocks (storage : StorageDevice D) (destination : ByteImage imageSize)
    (storedChecksum : ByteImage CHECKSUM_SIZE) : List Nat →
      Option (StorageDevice D × Except (SdCardError E)
        (ByteImage imageSize × ByteImage CHECKSUM_SIZE))
  | [] => some (storage, .ok (destination, storedChecksum))
  | blockIndex :: rest =>
    match storage.readBlock (truncU32 blockIndex) with
    | (storage, .error error) => some (storage, .error (.device error))
    | (storage, .ok block) =>
      match takeBlock block blockIndex destination storedChecksum with
      | none => none
      | some (destination, storedChecksum) => readBlocks storage destination storedChecksum rest

/-- Read an image and its checksum from the card. -/
def readImage (storage : StorageDevice D) (destination : ByteImage imageSize) :
    Option (StorageDevice D × Except (SdCardError E) (ByteImage imageSize × UInt32)) :=
  (readBlocks storage destination (ByteImage.filled 0) (List.range (imageBlocks imageSize))).map
    fun done => (done.1, done.2.map fun read =>
      (read.1, UInt32.ofNat (fromLeBytes (read.2.slice 0 CHECKSUM_SIZE))))

/-- Write the blocks of an image and its checksum at some indices. -/
def writeBlocks (storage : StorageDevice D) (source : ByteImage imageSize)
    (checksum : ByteImage CHECKSUM_SIZE) : List Nat →
      Option (StorageDevice D × Except (SdCardError E) Unit)
  | [] => some (storage, .ok ())
  | blockIndex :: rest =>
    match composeBlock source checksum blockIndex with
    | none => none
    | some block =>
      match storage.writeBlock (truncU32 blockIndex) block with
      | (storage, .error error) => some (storage, .error (.device error))
      | (storage, .ok _) => writeBlocks storage source checksum rest

/-- The bytes of a checksum, least significant first. -/
def checksumBytes (checksum : UInt32) : ByteImage CHECKSUM_SIZE :=
  (ByteImage.filled 0).copyFromSlice 0 (toLeBytes CHECKSUM_SIZE checksum.toNat)

/-- Write an image and its checksum to the card. -/
def writeImage (storage : StorageDevice D) (source : ByteImage imageSize) (checksum : UInt32) :
    Option (StorageDevice D × Except (SdCardError E) Unit) :=
  writeBlocks storage source (checksumBytes checksum) (List.range (imageBlocks imageSize))

/-- Checksum of an image, as the peripheral computes it in its default configuration. -/
def rosflightCrc32 (bytes : List UInt8) : UInt32 :=
  bytes.foldl (fun (crc : UInt32) (byte : UInt8) =>
    (List.range 8).foldl (fun (crc : UInt32) _ =>
      if crc &&& 0x80000000 ≠ 0 then (crc <<< 1) ^^^ 0x04C11DB7 else crc <<< 1)
      (crc ^^^ (byte.toUInt32 <<< 24))) 0xFFFFFFFF

/-- The image and its checksum fit in the blocks set aside for them. -/
def validateImageSize (imageSize : Nat) : Except (SdCardError E) Unit :=
  if MAX_PAYLOAD_SIZE < imageSize then .error .imageTooLarge else .ok ()

/-- The card has the blocks an image takes, by its size in a 32-bit word. -/
def validateCardSize (device : D) (imageSize : Nat) : Except (SdCardError E) Unit :=
  if truncU32 (SdDevice.cardSize device) / BLOCK_SIZE < imageBlocks imageSize then
    .error .cardTooSmall
  else .ok ()

namespace SdCard

/-- Check the sizes and identify the card before an access to an image. -/
def access {α : Type} (sdmmc : StorageDevice D) (imageSize : Nat)
    (use : StorageDevice D → Option (StorageDevice D × Except (SdCardError E) α)) :
    Option (StorageDevice D × Except (SdCardError E) α) :=
  match (validateImageSize imageSize : Except (SdCardError E) Unit) with
  | .error error => some (sdmmc, .error error)
  | .ok _ =>
    match SdDevice.newSdCard sdmmc.device with
    | (device, .error error) => some ({ sdmmc with device }, .error (.device error))
    | (device, .ok _) =>
      match (validateCardSize device imageSize : Except (SdCardError E) Unit) with
      | .error error => some ({ sdmmc with device }, .error error)
      | .ok _ => use { sdmmc with device }

/-- Read an image from the card and check it. -/
def read (sdmmc : StorageDevice D) (destination : ByteImage imageSize) :
    Option (StorageDevice D × Except (SdCardError E) (ByteImage imageSize)) :=
  access sdmmc imageSize fun storage =>
    match readImage storage destination with
    | none => none
    | some (storage, .error error) => some (storage, .error error)
    | some (storage, .ok (destination, checksum)) =>
      if checksum ≠ rosflightCrc32 (destination.slice 0 imageSize) then
        some (storage, .error .checksumMismatch)
      else some (storage, .ok destination)

/-- Write an image with its checksum to the card. -/
def write (sdmmc : StorageDevice D) (source : ByteImage imageSize) :
    Option (StorageDevice D × Except (SdCardError E) Unit) :=
  access sdmmc imageSize fun storage =>
    writeImage storage source (rosflightCrc32 (source.slice 0 imageSize))

end SdCard

end Images

/-- The checksum of a standard text, as the source's own test has it. -/
example : rosflightCrc32 [0x31, 0x32, 0x33, 0x34, 0x35, 0x36, 0x37, 0x38, 0x39] = 0x0376E6E7 := by
  decide +kernel

end Veloxity
