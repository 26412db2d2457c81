import Mathlib.Data.Nat.Digits.Defs
import Mathlib.Data.List.GetD

/-! Numbers packed least significant bit first, and words gathered bit by bit. -/

namespace Veloxity.Library

/-- In numbers packed at one width, the bits of each stand one after the other. -/
theorem testBit_ofDigits {width : Nat} {values : List Nat}
    (small : ∀ value ∈ values, value < 2 ^ width) {index bit : Nat} (inside : bit < width) :
    (Nat.ofDigits (2 ^ width) values).testBit (width * index + bit) =
      (values.getD index 0).testBit bit := by
  have positive : 0 < 2 ^ width := Nat.two_pow_pos width
  -- Dividing drops the numbers packed before, and a remainder is the first one left.
  have dropped : Nat.ofDigits (2 ^ width) values / (2 ^ width) ^ index % 2 ^ width =
      values.getD index 0 := by
    rw [Nat.ofDigits_div_pow_eq_ofDigits_drop index positive values small]
    by_cases listed : index < values.length
    · rw [List.drop_eq_getElem_cons listed, Nat.ofDigits_cons, Nat.add_mul_mod_self_left,
        List.getD_eq_getElem _ _ listed]
      exact Nat.mod_eq_of_lt (small _ (List.getElem_mem listed))
    · rw [List.drop_eq_nil_of_le (by omega), List.getD_eq_default _ _ (by omega)]
      rfl
  rw [← dropped, Nat.testBit_mod_two_pow, ← Nat.pow_mul, Nat.testBit_div_two_pow]
  simp [inside, Nat.add_comm]

/-- A bit of a byte, as a word. -/
def bitOfByte (byte : UInt8) (bit : Nat) : UInt8 := (byte >>> UInt8.ofNat bit) &&& 1

/-- A word gathered from a bit of each of some bytes, the first one least significant. -/
def gatherBits (bytes : Nat → UInt8) (bits : Nat → Nat) (count : Nat) : UInt16 :=
  (List.range count).foldl
    (fun word place => word ||| ((bitOfByte (bytes place) (bits place)).toUInt16 <<<
      UInt16.ofNat place)) 0

/-- A bit of a byte is one or zero. -/
theorem toNat_bitOfByte (byte : UInt8) {bit : Nat} (inside : bit < 8) :
    (bitOfByte byte bit).toNat = (byte.toNat.testBit bit).toNat := by
  -- A shift by less than eight is not cut, and the mask leaves the last bit.
  have shift : (UInt8.ofNat bit).toNat % 8 = bit := by
    rw [UInt8.toNat_ofNat']
    omega
  rw [bitOfByte, UInt8.toNat_and, UInt8.toNat_shiftRight, shift, Nat.toNat_testBit,
    Nat.shiftRight_eq_div_pow]
  exact Nat.and_one_is_mod _

/-- Each bit of a gathered word is the one that was gathered into its place. -/
theorem testBit_gatherBits (bytes : Nat → UInt8) {bits : Nat → Nat} {count : Nat}
    (fits : count ≤ 16) (inside : ∀ place < count, bits place < 8) (place : Nat) :
    (gatherBits bytes bits count).toNat.testBit place =
      (decide (place < count) && (bytes place).toNat.testBit (bits place)) := by
  -- Each round writes the next place, which was clear.
  induction count with
  | zero => simp [gatherBits]
  | succ count ih =>
    have earlier := ih (by omega) fun place below => inside place (by omega)
    have places : (UInt16.ofNat count).toNat % 16 = count := by
      rw [UInt16.toNat_ofNat']
      omega
    have step : gatherBits bytes bits (count + 1) = gatherBits bytes bits count |||
        ((bitOfByte (bytes count) (bits count)).toUInt16 <<< UInt16.ofNat count) := by
      rw [gatherBits, List.range_succ, List.foldl_append]
      rfl
    rw [step, UInt16.toNat_or, Nat.testBit_or, earlier, UInt16.toNat_shiftLeft,
      UInt8.toNat_toUInt16, places, toNat_bitOfByte _ (inside count (by omega)),
      Nat.testBit_mod_two_pow, Nat.testBit_shiftLeft]
    rcases Nat.lt_trichotomy place count with below | rfl | above
    · -- An earlier place is left alone.
      simp [below, Nat.lt_succ_of_lt below, Nat.not_le.mpr below]
    · have room : place < 16 := by omega
      cases (bytes place).toNat.testBit (bits place) <;> simp [room]
    · -- A later place stays clear.
      have high : (Bool.toNat ((bytes count).toNat.testBit (bits count))).testBit
          (place - count) = false := by
        apply Nat.testBit_lt_two_pow
        have one := Bool.toNat_lt ((bytes count).toNat.testBit (bits count))
        exact one.trans_le (Nat.le_self_pow (by omega) 2)
      simp [high, Nat.not_lt.mpr above.le, Nat.not_lt.mpr (Nat.succ_le_of_lt above)]

end Veloxity.Library
