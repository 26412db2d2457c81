import Mathlib.Algebra.BigOperators.Group.List.Basic
import Mathlib.Algebra.Field.Basic
import Mathlib.Data.Nat.Cast.Field
import Mathlib.Tactic.FieldSimp
import Mathlib.Tactic.LinearCombination
import Mathlib.Tactic.Ring

/-! Means of lists, the deviations from them, and how one more value changes both. -/

namespace Veloxity.Library

universe u

variable {K : Type u} [Field K]

/-- Arithmetic mean of a list of values, zero where there are none. -/
def mean (values : List K) : K := values.sum / values.length

/-- Sum of the squared deviations from the mean. -/
def squaredDeviations (values : List K) : K :=
  (values.map fun value => (value - mean values) ^ 2).sum

@[simp] theorem mean_nil : mean ([] : List K) = 0 := by simp [mean]

@[simp] theorem squaredDeviations_nil : squaredDeviations ([] : List K) = 0 := rfl

/-- Deviations from any value, by the sum of the values and that of their squares. -/
theorem sum_map_sub_sq (values : List K) (center : K) :
    (values.map fun value => (value - center) ^ 2).sum =
      (values.map fun value => value ^ 2).sum - 2 * center * values.sum +
        values.length * center ^ 2 := by
  -- Each value adds its own square, its product with the center and one more square of that.
  induction values with
  | nil => simp
  | cons value rest ih =>
    simp only [List.map_cons, List.sum_cons, ih, List.length_cons, Nat.cast_add, Nat.cast_one]
    ring

section CharZero

variable [CharZero K]

/-- The sum of the values is their number times their mean. -/
theorem length_mul_mean (values : List K) : (values.length : K) * mean values = values.sum := by
  -- Only an empty list has no length to divide by, and its sum is zero.
  cases values with
  | nil => simp
  | cons value rest =>
    have some : ((value :: rest).length : K) ≠ 0 := Nat.cast_ne_zero.mpr (Nat.succ_ne_zero _)
    rw [mean, mul_div_cancel₀ _ some]

/-- One more value moves the mean by its distance over the new number of values. -/
theorem mean_concat (values : List K) (value : K) :
    mean (values ++ [value]) = mean values + (value - mean values) / (values.length + 1) := by
  have some : (values.length : K) + 1 ≠ 0 := Nat.cast_add_one_ne_zero _
  have sum := length_mul_mean values
  -- The sum behind the old mean is that mean times the old number of values.
  rw [mean, List.sum_append, List.sum_singleton, List.length_append, List.length_singleton,
    Nat.cast_add, Nat.cast_one, ← sum]
  field_simp
  ring

/-- One more value adds the product of its distances from the mean before and after. -/
theorem squaredDeviations_concat (values : List K) (value : K) :
    squaredDeviations (values ++ [value]) =
      squaredDeviations values + (value - mean values) * (value - mean (values ++ [value])) := by
  have sum := length_mul_mean values
  have moved := length_mul_mean (values ++ [value])
  rw [List.sum_append, List.sum_singleton, List.length_append, List.length_singleton,
    Nat.cast_add, Nat.cast_one, ← sum] at moved
  -- Both sides are polynomials in the two means, the new value and the sum of the squares.
  rw [squaredDeviations, squaredDeviations, sum_map_sub_sq, sum_map_sub_sq, List.map_append,
    List.sum_append, List.sum_append, List.length_append, ← sum]
  simp only [List.map_cons, List.map_nil, List.sum_singleton, List.length_singleton, Nat.cast_add,
    Nat.cast_one]
  linear_combination (mean (values ++ [value]) - mean values) * moved

/-- A sum over some other number is the mean only if it is zero. -/
theorem sum_div_eq_mean_iff {values : List K} (present : values ≠ []) {count : Nat}
    (counted : count ≠ 0) :
    values.sum / count = mean values ↔ count = values.length ∨ values.sum = 0 := by
  have number : (count : K) ≠ 0 := Nat.cast_ne_zero.mpr counted
  have length : (values.length : K) ≠ 0 :=
    Nat.cast_ne_zero.mpr fun none => present (List.length_eq_zero_iff.mp none)
  -- Both denominators are nonzero, so the quotients are compared crosswise.
  rw [mean, div_eq_div_iff number length, mul_eq_mul_left_iff, Nat.cast_inj, eq_comm]

end CharZero

end Veloxity.Library
