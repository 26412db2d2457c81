import Mathlib.Analysis.SpecialFunctions.Pow.Real
import Mathlib.Analysis.SpecialFunctions.Trigonometric.Basic
import Veloxity.Core.FlightFloat

/-! Exact real arithmetic as a floating-point format. -/

namespace Veloxity

open Classical in
/-- Real numbers are one format, in which nothing is rounded and nothing is undefined. -/
noncomputable instance realFloat : FlightFloat ℝ where
  lit value := value
  lt left right := decide (left < right)
  le left right := decide (left ≤ right)
  eq left right := decide (left = right)
  abs value := |value|
  sqrt value := √value
  powf base exponent := base ^ exponent
  cos := Real.cos
  sin := Real.sin
  signum value := if value < 0 then -1 else 1
  isFinite _ := true
  zero_ne_half := by norm_num

/-- Nothing is rounded between exact formats. -/
noncomputable instance realCast : FloatCast ℝ ℝ where
  fromF32 value := value
  toF32Lossy value := value

namespace RealFloat

/-- A literal is the number it names. -/
@[simp] theorem lit_eq (value : ℚ) : (FlightFloat.lit value : ℝ) = value := rfl

/-- Numbers are ordered as they are. -/
@[simp] theorem lt_iff (left right : ℝ) : FlightFloat.lt left right = true ↔ left < right :=
  decide_eq_true_iff

/-- Numbers are ordered as they are. -/
@[simp] theorem le_iff (left right : ℝ) : FlightFloat.le left right = true ↔ left ≤ right :=
  decide_eq_true_iff

/-- A number equals itself only. -/
@[simp] theorem eq_iff (left right : ℝ) : FlightFloat.eq left right = true ↔ left = right :=
  decide_eq_true_iff

/-- Zero is the number zero. -/
@[simp] theorem zero_eq : (FlightFloat.zero : ℝ) = 0 := Rat.cast_zero

/-- Widening rounds nothing. -/
@[simp] theorem fromF32_eq (value : ℝ) : (FloatCast.fromF32 value : ℝ) = value := rfl

/-- Narrowing rounds nothing. -/
@[simp] theorem toF32Lossy_eq (value : ℝ) : (FloatCast.toF32Lossy value : ℝ) = value := rfl

/-- The larger of two numbers is the greater one. -/
@[simp] theorem max_eq (left right : ℝ) : FlightFloat.max left right = Max.max left right := by
  -- Of two numbers one is below the other unless it is at least the other.
  rcases lt_or_ge left right with below | above
  · have lower : ¬FlightFloat.le right left = true := fun le => ((le_iff _ _).mp le).not_gt below
    rw [max_eq_right below.le, FlightFloat.max, if_neg lower]
    exact if_pos ((le_iff left right).mpr below.le)
  · rw [max_eq_left above]
    exact if_pos ((le_iff right left).mpr above)

/-- The smaller of two numbers is the lesser one. -/
@[simp] theorem min_eq (left right : ℝ) : FlightFloat.min left right = Min.min left right := by
  -- Of two numbers one is above the other unless it is at most the other.
  rcases lt_or_ge right left with below | above
  · have higher : ¬FlightFloat.le left right = true := fun le => ((le_iff _ _).mp le).not_gt below
    rw [min_eq_right below.le, FlightFloat.min, if_neg higher]
    exact if_pos ((le_iff right left).mpr below.le)
  · rw [min_eq_left above]
    exact if_pos ((le_iff left right).mpr above)

end RealFloat

end Veloxity
