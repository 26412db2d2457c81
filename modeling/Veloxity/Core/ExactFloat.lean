import Veloxity.Core.FlightFloat

/-! Exact numbers together with one undefined value, which is unordered. -/

namespace Veloxity

/-- An exact number, or the undefined value. -/
inductive ExactFloat where
  | number (value : ℚ)
  | nan
  deriving DecidableEq

namespace ExactFloat

/-- An operation on numbers, undefined where an operand or the result is. -/
def lift₂ (operate : ℚ → ℚ → Option ℚ) : ExactFloat → ExactFloat → ExactFloat
  | .number left, .number right => (operate left right).elim .nan .number
  | _, _ => .nan

/-- A function of a number, undefined where its argument or the result is. -/
def lift (apply : ℚ → Option ℚ) : ExactFloat → ExactFloat
  | .number value => (apply value).elim .nan .number
  | .nan => .nan

/-- A comparison, false where an operand is undefined. -/
def compare (holds : ℚ → ℚ → Bool) : ExactFloat → ExactFloat → Bool
  | .number left, .number right => holds left right
  | _, _ => false

/-- Zero is not a half. -/
theorem number_zero_ne_half : number 0 ≠ number (1 / 2) := by
  intro same
  have half : (0 : ℚ) = 1 / 2 := number.inj same
  norm_num at half

instance : FlightFloat ExactFloat where
  add := lift₂ fun left right => some (left + right)
  sub := lift₂ fun left right => some (left - right)
  mul := lift₂ fun left right => some (left * right)
  div := lift₂ fun left right => if right = 0 then none else some (left / right)
  neg := lift fun value => some (-value)
  lit := number
  lt := compare fun left right => decide (left < right)
  le := compare fun left right => decide (left ≤ right)
  eq := compare fun left right => decide (left = right)
  abs := lift fun value => some (FlightFloat.abs value)
  sqrt := lift fun value => if value < 0 then none else some (FlightFloat.sqrt value)
  powf := lift₂ fun base exponent => some (FlightFloat.powf base exponent)
  cos := lift fun value => some (FlightFloat.cos value)
  sin := lift fun value => some (FlightFloat.sin value)
  signum := lift fun value => some (FlightFloat.signum value)
  isFinite value := value != .nan
  zero_ne_half := number_zero_ne_half

instance : FloatCast ExactFloat ExactFloat where
  fromF32 value := value
  toF32Lossy value := value

/-- The value is defined. -/
def IsNumber (value : ExactFloat) : Prop := value ≠ .nan

/-- The value is a number between zero and one. -/
def InUnit (value : ExactFloat) : Prop :=
  ∃ rational, value = number rational ∧ 0 ≤ rational ∧ rational ≤ 1

/-- Nothing undefined lies between zero and one. -/
theorem not_inUnit_nan : ¬ InUnit .nan := by
  rintro ⟨rational, same, -⟩
  cases same

/-- A number lies between zero and one if it does. -/
@[simp] theorem inUnit_number (value : ℚ) : InUnit (.number value) ↔ 0 ≤ value ∧ value ≤ 1 := by
  -- A number stands for one rational only.
  constructor
  · rintro ⟨rational, same, bounds⟩
    cases same
    exact bounds
  · intro bounds
    exact ⟨value, rfl, bounds⟩

/-- A literal is the number it names. -/
theorem lit_eq (value : ℚ) : (FlightFloat.lit value : ExactFloat) = .number value := rfl

/-- Zero is a number. -/
theorem zero_eq : (FlightFloat.zero : ExactFloat) = .number 0 := rfl

/-- One is a number. -/
theorem one_eq : (FlightFloat.one : ExactFloat) = .number 1 := rfl

/-- A half is a number. -/
theorem half_eq : (FlightFloat.half : ExactFloat) = .number (1 / 2) := rfl

/-- Numbers are ordered as they are. -/
@[simp] theorem lt_number (left right : ℚ) :
    FlightFloat.lt (number left) (number right) = decide (left < right) := rfl

/-- Nothing is above an undefined value. -/
@[simp] theorem lt_nan_left (right : ExactFloat) : FlightFloat.lt nan right = false := rfl

/-- Nothing is below an undefined value. -/
@[simp] theorem lt_nan_right (left : ExactFloat) : FlightFloat.lt left nan = false := by
  cases left <;> rfl

/-- A clamped number lies between the bounds. -/
theorem clamp_number {lower upper : ℚ} (ordered : lower ≤ upper) (value : ℚ) :
    ∃ clamped, FlightFloat.clamp (number value) (.number lower) (.number upper) = .number clamped ∧
      lower ≤ clamped ∧ clamped ≤ upper := by
  -- The value is below the interval, above it or in it.
  rw [FlightFloat.clamp]
  by_cases below : value < lower
  · exact ⟨lower, by simp [below], le_refl lower, ordered⟩
  · by_cases above : upper < value
    · exact ⟨upper, by simp [below, above], ordered, le_refl upper⟩
    · exact ⟨value, by simp [below, above], not_lt.mp below, not_lt.mp above⟩

/-- An undefined value passes every clamp. -/
theorem clamp_nan (lower upper : ExactFloat) : FlightFloat.clamp nan lower upper = nan := by
  simp [FlightFloat.clamp]

end ExactFloat

end Veloxity
