import Mathlib.Data.List.Basic

/-! Values derived from a source, and kept up to date by reacting to announced changes of it. -/

namespace Veloxity.Library

universe u v w

/-- A value that can be recomputed from a source, and the changes it reacts to. -/
structure DerivedValue (Source : Type u) (Id : Type v) (Value : Type w) where
  recompute : Source → Value → Value
  reacts : Id → Bool
  settled : ∀ source value, recompute source (recompute source value) = recompute source value

namespace DerivedValue

variable {Source : Type u} {Id : Type v} {Value : Type w} {State : Type*}

/-- React to announced changes one after another, with the source as the last of them left it. -/
def react (derived : DerivedValue Source Id Value) (source : Source) (value : Value)
    (announced : List Id) : Value :=
  announced.foldl
    (fun value id => if derived.reacts id then derived.recompute source value else value) value

/-- A value that depends on the source alone. -/
def ofSource (read : Source → Value) (reacts : Id → Bool) : DerivedValue Source Id Value where
  recompute source _ := read source
  reacts
  settled _ _ := rfl

/-- Reacting recomputes the value when one announced change is reacted to, and else keeps it. -/
theorem react_eq (derived : DerivedValue Source Id Value) (source : Source) (value : Value)
    (announced : List Id) :
    derived.react source value announced =
      if announced.any derived.reacts then derived.recompute source value else value := by
  unfold react
  induction announced generalizing value with
  | nil => rfl
  | cons id rest ih =>
    rw [List.foldl_cons, ih, List.any_cons]
    -- A second recomputation changes nothing.
    cases derived.reacts id with
    | true =>
      simp only [if_true, Bool.true_or, derived.settled, ite_self]
    | false => simp only [Bool.false_eq_true, if_false, Bool.false_or]

/-- Reacting brings the value up to date exactly when a change is reacted to or nothing has to
change. -/
theorem react_eq_recompute_iff (derived : DerivedValue Source Id Value) (source : Source)
    (value : Value) (announced : List Id) :
    derived.react source value announced = derived.recompute source value ↔
      announced.any derived.reacts = true ∨ derived.recompute source value = value := by
  rw [react_eq]
  -- Where nothing is reacted to, the old value has to be the recomputed one.
  by_cases reacted : announced.any derived.reacts = true
  · simp only [reacted, if_true, true_or]
  · rw [if_neg reacted]
    exact ⟨fun kept => .inr kept.symm, fun either => (either.resolve_left reacted).symm⟩

/-- Reacting brings a value that is up to date for one source up to date for another exactly when a
change is reacted to or both sources give the same value. -/
theorem react_eq_iff_of_settled (derived : DerivedValue Source Id Value)
    (source other : Source) {value : Value} (matching : derived.recompute source value = value)
    (announced : List Id) :
    derived.react other value announced = derived.recompute other value ↔
      announced.any derived.reacts = true ∨
        derived.recompute other value = derived.recompute source value := by
  rw [react_eq_recompute_iff, matching]

/-- A part of a state that reacts to each change by itself reacts to them all. -/
theorem react_of_step (derived : DerivedValue Source Id Value) (source : Source)
    (part : State → Value) {step : State → Id → State}
    (stepped : ∀ state id, part (step state id) =
      if derived.reacts id then derived.recompute source (part state) else part state)
    (state : State) (announced : List Id) :
    part (announced.foldl step state) = derived.react source (part state) announced :=
  (List.foldl_hom part fun state id => (stepped state id).symm).symm

end DerivedValue

end Veloxity.Library
