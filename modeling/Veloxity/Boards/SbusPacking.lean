import Veloxity.Boards.Sbus
import Veloxity.Library.BitPacking

/-! The proportional channels of an SBUS frame, packed and taken out again. -/

namespace Veloxity

open Library

/-- The channels as one number, each of 11 bits and the first one least significant. -/
def packedChannels (channels : Fin sbus11BitChannels → Fin 2048) : Nat :=
  Nat.ofDigits (2 ^ 11) (List.ofFn fun channel => (channels channel).val)

/-- The bytes that the packed channels take up, the first one least significant. -/
def channelBytes (channels : Fin sbus11BitChannels → Fin 2048) : List UInt8 :=
  (List.range 22).map fun index => UInt8.ofNat (packedChannels channels / 2 ^ (8 * index))

/-- A frame with the channels packed behind its first byte. -/
def packChannels (frame : ByteImage sbusFrameBytes)
    (channels : Fin sbus11BitChannels → Fin 2048) : ByteImage sbusFrameBytes :=
  frame.copyFromSlice 1 (channelBytes channels)

/-- The byte that a bit of a channel is read from. -/
def extractChanByte (bitOffset bit : Nat) : Nat := bitOffset / 8 + (bitOffset % 8 + bit) / 8

/-- A channel is gathered from 11 bits in a row. -/
theorem extractChan_eq {F : Type} [FlightFloat F] (bytes : ByteImage sbusFrameBytes)
    (bitOffset : Nat) :
    (extractChan bytes bitOffset : F) = FlightFloat.lit
      (gatherBits (fun bit => bytes.byteAt (extractChanByte bitOffset bit))
        (fun bit => (bitOffset % 8 + bit) % 8) 11).toNat := rfl

/-- A bit of the packed channels is found in the byte and at the place it is packed into. -/
theorem testBit_packChannels (frame : ByteImage sbusFrameBytes)
    (channels : Fin sbus11BitChannels → Fin 2048) {place : Nat} (inside : place < 176) :
    ((packChannels frame channels).byteAt (1 + place / 8)).toNat.testBit (place % 8) =
      (packedChannels channels).testBit place := by
  have listed : place / 8 < 22 := by omega
  have length : (channelBytes channels).length = 22 := by simp [channelBytes]
  have within : 1 + place / 8 < sbusFrameBytes := by
    simp only [sbusFrameBytes]
    omega
  -- The copied byte is cut out of the number at its own eight bits.
  rw [packChannels, ByteImage.byteAt_copyFromSlice _ _ _ within, length,
    if_pos ⟨by omega, by omega⟩, Nat.add_sub_cancel_left, channelBytes,
    List.getD_eq_getElem _ _ (by simpa), List.getElem_map, List.getElem_range,
    UInt8.toNat_ofNat', Nat.testBit_mod_two_pow, Nat.testBit_div_two_pow, Nat.mod_add_div]
  simp [Nat.mod_lt]

/-- Of 16 channels packed into bytes 1 to 22 of a frame, each is taken out as it was, whatever the
other bytes of the frame hold, and is read from those bytes alone. -/
theorem extractChan_packChannels {F : Type} [FlightFloat F] (frame : ByteImage sbusFrameBytes)
    (channels : Fin sbus11BitChannels → Fin 2048) (channel : Fin sbus11BitChannels) :
    (extractChan (packChannels frame channels) (8 + channel * 11) : F) =
        FlightFloat.lit (channels channel).val ∧
      ∀ bit < 11, 1 ≤ extractChanByte (8 + channel * 11) bit ∧
        extractChanByte (8 + channel * 11) bit ≤ 22 := by
  have last : channel.val < 16 := channel.isLt
  have bytes (bit : Nat) :
      extractChanByte (8 + channel * 11) bit = 1 + (11 * channel + bit) / 8 := by
    rw [extractChanByte]
    omega
  refine ⟨?_, ?_⟩
  · rw [extractChan_eq]
    congr 2
    -- The gathered bits are those of the channel, and neither has a twelfth one.
    apply Nat.eq_of_testBit_eq
    intro place
    rw [testBit_gatherBits _ (by omega) fun _ _ => Nat.mod_lt _ (by omega)]
    by_cases below : place < 11
    · have bits : ((8 + channel * 11) % 8 + place) % 8 = (11 * channel + place) % 8 := by omega
      have small : ∀ value ∈ List.ofFn (fun channel => (channels channel).val), value < 2 ^ 11 := by
        intro value member
        obtain ⟨other, rfl⟩ := List.mem_ofFn.mp member
        exact (channels other).isLt
      rw [bytes, bits, testBit_packChannels frame channels (by omega), packedChannels,
        testBit_ofDigits small below]
      simp [below]
    · have above : (channels channel).val.testBit place = false := by
        apply Nat.testBit_lt_two_pow
        have wide : 2 ^ 11 ≤ 2 ^ place := Nat.pow_le_pow_right (by omega) (by omega)
        exact (channels channel).isLt.trans_le wide
      simp [below, above]
  · intro bit inside
    rw [bytes]
    omega

end Veloxity
