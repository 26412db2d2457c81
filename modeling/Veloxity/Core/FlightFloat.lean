import Mathlib.Data.Rat.Sqrt
import Mathlib.Tactic.NormNum

/-! Floating-point arithmetic as an interface, so that no law of real numbers is assumed. -/

namespace Veloxity

/-- A body has three axes. -/
instance threeAxes : NeZero 3 := ⟨by decide⟩

/-- There are four passthrough channels. -/
instance fourPassthroughs : NeZero 4 := ⟨by decide⟩

/-- A mixer takes ten inputs. -/
instance tenMixerInputs : NeZero 10 := ⟨by decide⟩

/-- Operations of one floating-point format, with comparisons that may all be false. -/
class FlightFloat (α : Type) extends Add α, Sub α, Mul α, Div α, Neg α where
  /-- Nearest value to a literal. -/
  lit : ℚ → α
  /-- Ordered less-than. -/
  lt : α → α → Bool
  /-- Ordered less-or-equal. -/
  le : α → α → Bool
  /-- Numeric equality. -/
  eq : α → α → Bool
  /-- Absolute value. -/
  abs : α → α
  /-- Square root. -/
  sqrt : α → α
  /-- Power with a fractional exponent. -/
  powf : α → α → α
  /-- Cosine of an angle. -/
  cos : α → α
  /-- Sine of an angle. -/
  sin : α → α
  /-- One with the sign of a value. -/
  signum : α → α
  /-- Neither infinite nor undefined. -/
  isFinite : α → Bool
  /-- The two values a disarmed output can rest at are told apart. -/
  zero_ne_half : lit 0 ≠ lit (1 / 2)

/-- Conversions between single precision and the format the control law is built for. -/
class FloatCast (F R : Type) where
  /-- Widen a single-precision value. -/
  fromF32 : F → R
  /-- Round back to single precision. -/
  toF32Lossy : R → F

namespace FlightFloat

variable {α : Type} [FlightFloat α]

/-- Zero of the format. -/
def zero : α := lit 0

/-- One of the format. -/
def one : α := lit 1

/-- Halfway between zero and one. -/
def half : α := lit (1 / 2)

/-- Bring a value between two bounds, leaving an unordered value as it is. -/
def clamp (value lower upper : α) : α :=
  if lt value lower then lower else if lt upper value then upper else value

/-- Larger of two values, or the one that is a number. -/
def max (left right : α) : α :=
  if le right left then left else if le left right then right
  else if eq left left then left else right

/-- Smaller of two values, or the one that is a number. -/
def min (left right : α) : α :=
  if le left right then left else if le right left then right
  else if eq left left then left else right

/-- Circle constant. -/
def pi : α := lit 3.141592653589793

end FlightFloat

/-- Exact rational arithmetic is one floating-point format, used to run examples. -/
instance : FlightFloat ℚ where
  lit value := value
  lt left right := decide (left < right)
  le left right := decide (left ≤ right)
  eq left right := decide (left = right)
  abs value := if value < 0 then -value else value
  sqrt value := Rat.sqrt value
  -- Only whole exponents are exact here.
  powf base exponent := base ^ exponent.floor.toNat
  -- Only unrotated sensors are run in this format.
  cos _ := 1
  sin _ := 0
  signum value := if value < 0 then -1 else 1
  isFinite _ := true
  zero_ne_half := by norm_num

instance : FloatCast ℚ ℚ where
  fromF32 value := value
  toF32Lossy value := value

end Veloxity
