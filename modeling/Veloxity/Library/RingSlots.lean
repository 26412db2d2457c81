import Mathlib.Data.Int.ModEq
import Mathlib.Data.List.Basic
import Mathlib.Logic.Function.Basic

/-! Rings of slots, read from a place on. -/

namespace Veloxity.Library

universe u

variable {α : Type u} {capacity : Nat}

/-- The items of some slots in a row, beginning again at the first behind the last. -/
def ringItems (slots : Nat → α) (capacity start count : Nat) : List α :=
  (List.range count).map fun offset => slots ((start + offset) % capacity)

@[simp] theorem length_ringItems (slots : Nat → α) (start count : Nat) :
    (ringItems slots capacity start count).length = count := by
  simp [ringItems]

/-- A place and the same one a turn later begin the same items. -/
theorem ringItems_mod (slots : Nat → α) (start count : Nat) :
    ringItems slots capacity (start % capacity) count = ringItems slots capacity start count := by
  simp [ringItems]

/-- The first item is that of the first slot. -/
theorem ringItems_succ (slots : Nat → α) (start count : Nat) :
    ringItems slots capacity start (count + 1) =
      slots (start % capacity) :: ringItems slots capacity (start + 1) count := by
  -- The other offsets count from the next place.
  simp only [ringItems, List.range_succ_eq_map, List.map_cons, List.map_map, Nat.add_zero]
  congr 1
  apply List.map_congr_left
  intro offset _
  simp only [Function.comp_apply]
  congr 2
  omega

/-- A slot within one turn behind the items can be written without a change to them. -/
theorem ringItems_update (slots : Nat → α) (start : Nat) {count : Nat} (item : α)
    (room : count < capacity) :
    ringItems (Function.update slots ((start + count) % capacity) item) capacity start count =
      ringItems slots capacity start count := by
  apply List.map_congr_left
  intro offset member
  have below := List.mem_range.mp member
  -- Two offsets within one turn lead to different slots.
  have apart : (start + offset) % capacity ≠ (start + count) % capacity := by
    intro same
    have congruent : Nat.ModEq capacity offset count := Nat.ModEq.add_left_cancel' start same
    exact Nat.ne_of_lt below (congruent.eq_of_lt_of_lt (below.trans room) room)
  exact Function.update_of_ne apart _ _

/-- An item written to the slot behind the others becomes the last. -/
theorem ringItems_push (slots : Nat → α) (start : Nat) {count : Nat} (item : α)
    (room : count < capacity) :
    ringItems (Function.update slots ((start + count) % capacity) item) capacity start (count + 1) =
      ringItems slots capacity start count ++ [item] := by
  have kept := ringItems_update slots start item room
  rw [← kept]
  simp [ringItems, List.range_succ]

/-- An item written over the first of a full ring becomes the last. -/
theorem ringItems_overwrite (slots : Nat → α) (start : Nat) (item : α) (some : 0 < capacity) :
    ringItems (Function.update slots (start % capacity) item) capacity (start + 1) capacity =
      (ringItems slots capacity start capacity).tail ++ [item] := by
  obtain ⟨rest, rfl⟩ := Nat.exists_eq_add_of_le' some
  -- The overwritten slot is the one behind all others.
  have place : start % (rest + 1) = (start + 1 + rest) % (rest + 1) := by
    rw [show start + 1 + rest = start + (rest + 1) by omega, Nat.add_mod_right]
  rw [place, ringItems_push _ _ _ (Nat.lt_succ_self rest), ringItems_succ, List.tail_cons]

end Veloxity.Library
