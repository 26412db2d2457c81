import Mathlib.Data.Int.Log
import Mathlib.Data.Rat.Floor
import Veloxity.Core.FlightFloat

/-! Single-precision numbers as bit patterns, to run examples that look at the bits. -/

namespace Veloxity

/-- The bit patterns of single-precision values. -/
class FloatBits (F : Type) where
  toBits : F → UInt32
  fromBits : UInt32 → F
  /-- Every bit pattern is kept by the value it makes. -/
  toBits_fromBits : ∀ bits, toBits (fromBits bits) = bits

/-- A single-precision number is its bit pattern. -/
structure Binary32 where
  bits : UInt32
  deriving DecidableEq, Repr

namespace Binary32

/-- The biased exponent field. -/
def exponent (number : Binary32) : Nat := number.bits.toNat / 2 ^ 23 % 256

/-- The fraction field. -/
def fraction (number : Binary32) : Nat := number.bits.toNat % 2 ^ 23

/-- The sign bit is set. -/
def isNegative (number : Binary32) : Bool := 2 ^ 31 ≤ number.bits.toNat

/-- Neither infinite nor undefined. -/
def isFinite (number : Binary32) : Bool := number.exponent < 255

/-- The rational value of a finite number. -/
def toRat (number : Binary32) : ℚ :=
  let magnitude : ℚ :=
    if number.exponent = 0 then number.fraction * 2 ^ (-149 : Int)
    else (2 ^ 23 + number.fraction) * 2 ^ ((number.exponent : Int) - 150)
  if number.isNegative then -magnitude else magnitude

/-- The undefined value. -/
def nan : Binary32 := ⟨0x7FC00000⟩

/-- The nearest whole number, or the even one of two. -/
def roundToEven (value : ℚ) : Nat :=
  let below := value.floor.toNat
  let rest := value - below
  if rest < 1 / 2 then below
  else if 1 / 2 < rest then below + 1
  else below + below % 2

/-- The nearest number to a rational, or an infinity beyond the largest one. -/
def round (value : ℚ) : Binary32 :=
  let magnitude := if value < 0 then -value else value
  let exponent := max (Int.log 2 magnitude) (-126)
  -- The significand's top bit carries into the exponent field.
  let pattern := (exponent + 126).toNat * 2 ^ 23 + roundToEven (magnitude * 2 ^ (23 - exponent))
  let pattern := if magnitude = 0 then 0 else min pattern (255 * 2 ^ 23)
  ⟨UInt32.ofNat (if value < 0 then 2 ^ 31 + pattern else pattern)⟩

/-- Round an exact result, which is undefined for operands that are not finite. -/
def lift (operation : ℚ → ℚ) (number : Binary32) : Binary32 :=
  if number.isFinite then round (operation number.toRat) else nan

/-- Round an exact result of two operands, which is undefined unless both are finite. -/
def lift₂ (operation : ℚ → ℚ → ℚ) (left right : Binary32) : Binary32 :=
  if left.isFinite && right.isFinite then round (operation left.toRat right.toRat) else nan

/-- Compare two finite numbers by value. -/
def compare (relation : ℚ → ℚ → Bool) (left right : Binary32) : Bool :=
  left.isFinite && right.isFinite && relation left.toRat right.toRat

end Binary32

/-- Rational arithmetic followed by rounding is one floating-point format. -/
instance : FlightFloat Binary32 where
  add := Binary32.lift₂ (· + ·)
  sub := Binary32.lift₂ (· - ·)
  mul := Binary32.lift₂ (· * ·)
  div left right := if right.toRat = 0 then .nan else Binary32.lift₂ (· / ·) left right
  neg number := ⟨number.bits ^^^ 0x80000000⟩
  lit := Binary32.round
  lt := Binary32.compare fun left right => decide (left < right)
  le := Binary32.compare fun left right => decide (left ≤ right)
  eq := Binary32.compare fun left right => decide (left = right)
  abs number := ⟨number.bits &&& 0x7FFFFFFF⟩
  sqrt := Binary32.lift FlightFloat.sqrt
  powf := Binary32.lift₂ FlightFloat.powf
  cos := Binary32.lift FlightFloat.cos
  sin := Binary32.lift FlightFloat.sin
  signum := Binary32.lift FlightFloat.signum
  isFinite := Binary32.isFinite
  zero_ne_half := by decide +kernel

/-- The bits of a number are the number. -/
instance : FloatBits Binary32 where
  toBits := Binary32.bits
  fromBits := Binary32.mk
  toBits_fromBits _ := rfl

/-- The default resistance of a motor has the bits the compiler gives it. -/
example : (Binary32.round 0.042).bits = 0x3D2C0831 := by decide +kernel

end Veloxity
