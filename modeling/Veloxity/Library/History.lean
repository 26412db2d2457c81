import Mathlib.Data.List.Basic

/-! Histories whose entries obey a law that looks at the entries before them. -/

namespace Veloxity.Library

universe u

variable {α : Type u}

/-- Splitting a history that has grown either takes the new entry or splits the old history. -/
theorem split_concat {history before after : List α} {new entry : α} :
    history ++ [new] = before ++ entry :: after ↔
      (history = before ∧ new = entry ∧ after = []) ∨
        ∃ rest, after = rest ++ [new] ∧ history = before ++ entry :: rest := by
  -- The new entry is the last one of what follows the split, if anything does.
  constructor
  · intro same
    rcases List.eq_nil_or_concat after with rfl | ⟨rest, last, rfl⟩
    · obtain ⟨old, newest⟩ := List.append_inj' same rfl
      exact .inl ⟨old, List.singleton_inj.mp newest, rfl⟩
    · rw [List.concat_eq_append, ← List.cons_append, ← List.append_assoc] at same
      obtain ⟨old, newest⟩ := List.append_inj' same rfl
      obtain rfl := List.singleton_inj.mp newest
      exact .inr ⟨rest, List.concat_eq_append, old⟩
  · rintro (⟨rfl, rfl, rfl⟩ | ⟨rest, rfl, rfl⟩)
    · rfl
    · rw [List.append_assoc, List.cons_append]

/-- Every entry of a history obeys a law about it and the entries before it. -/
def EveryEntry (law : List α → α → Prop) (history : List α) : Prop :=
  ∀ before entry after, history = before ++ entry :: after → law before entry

/-- An empty history obeys every law. -/
theorem everyEntry_nil (law : List α → α → Prop) : EveryEntry law [] := by
  -- It has no entries.
  intro before entry after split
  exact absurd split (List.append_ne_nil_of_right_ne_nil _ (List.cons_ne_nil _ _)).symm

/-- A history that has grown obeys a law if it did before and the new entry does. -/
theorem everyEntry_concat {law : List α → α → Prop} {history : List α} {new : α} :
    EveryEntry law (history ++ [new]) ↔ EveryEntry law history ∧ law history new := by
  -- Every split of the longer history is one of the shorter, or takes the new entry.
  constructor
  · intro all
    refine ⟨fun before entry after split => ?_, all history new [] rfl⟩
    exact all before entry (after ++ [new]) (split_concat.mpr (.inr ⟨after, rfl, split⟩))
  · rintro ⟨old, newest⟩ before entry after split
    rcases split_concat.mp split with ⟨rfl, rfl, -⟩ | ⟨rest, -, split⟩
    · exact newest
    · exact old before entry rest split

end Veloxity.Library
