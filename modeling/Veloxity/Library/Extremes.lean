import Mathlib.Algebra.Group.Defs
import Mathlib.Order.MinMax

/-! Greatest and least values of lists, as folds from bounds that every value meets. -/

namespace Veloxity.Library

universe u

variable {K : Type u} [LinearOrder K]

/-- Folding greater values from a lower bound finds the greatest value. -/
theorem foldl_max_of_le {values : List K} (present : values ≠ []) {floor : K}
    (above : ∀ value ∈ values, floor ≤ value) :
    values.foldl max floor = values.max present := by
  -- The greatest value is one of the values, so the bound lies below it.
  have chosen : Std.MaxEqOr K := ⟨max_choice⟩
  rw [List.foldl_max_eq_max present]
  exact max_eq_right (above _ (List.max_mem present))

/-- Folding lesser values from an upper bound finds the least value. -/
theorem foldl_min_of_le {values : List K} (present : values ≠ []) {ceiling : K}
    (below : ∀ value ∈ values, value ≤ ceiling) :
    values.foldl min ceiling = values.min present := by
  -- The least value is one of the values, so the bound lies above it.
  have chosen : Std.MinEqOr K := ⟨min_choice⟩
  rw [List.foldl_min_eq_min present]
  exact min_eq_right (below _ (List.min_mem present))

/-- How far apart the greatest and the least value are, zero where there are none. -/
def extent [Zero K] [Sub K] (values : List K) : K :=
  values.max?.getD 0 - values.min?.getD 0

/-- Folds from bounds that every value meets are as far apart as the values. -/
theorem foldl_max_sub_foldl_min [Zero K] [Sub K] {values : List K} (present : values ≠ [])
    {floor ceiling : K} (bounded : ∀ value ∈ values, floor ≤ value ∧ value ≤ ceiling) :
    values.foldl max floor - values.foldl min ceiling = extent values := by
  have above : ∀ value ∈ values, floor ≤ value := fun value member => (bounded value member).1
  have below : ∀ value ∈ values, value ≤ ceiling := fun value member => (bounded value member).2
  -- Both folds find a value of the list.
  rw [foldl_max_of_le present above, foldl_min_of_le present below, extent,
    List.max?_eq_some_max present, List.min?_eq_some_min present, Option.getD_some,
    Option.getD_some]

end Veloxity.Library
