import Mathlib.Control.Monad.Writer

/-! What a computation writes down on the way to its result. -/

namespace Veloxity.Library

universe u

variable {ω α β : Type u}

/-- Result of a computation that writes items down. -/
def result (computation : Writer (List ω) α) : α := (Id.run computation.run).1

/-- Items a computation has written down, the first one first. -/
def written (computation : Writer (List ω) α) : List ω := (Id.run computation.run).2

@[simp] theorem result_pure (value : α) : result (pure value : Writer (List ω) α) = value := rfl

@[simp] theorem written_pure (value : α) : written (pure value : Writer (List ω) α) = [] := rfl

@[simp] theorem result_bind (first : Writer (List ω) α) (next : α → Writer (List ω) β) :
    result (first >>= next) = result (next (result first)) := rfl

@[simp] theorem written_bind (first : Writer (List ω) α) (next : α → Writer (List ω) β) :
    written (first >>= next) = written first ++ written (next (result first)) := rfl

/-- A computation writes accepted items only, and its result meets a condition. -/
def Writes (accepted : ω → Prop) (meets : α → Prop) (computation : Writer (List ω) α) : Prop :=
  (∀ item ∈ written computation, accepted item) ∧ meets (result computation)

namespace Writes

variable {accepted : ω → Prop} {meets : α → Prop} {holds : β → Prop}

/-- A computation that writes nothing has to answer for its result only. -/
theorem pure {value : α} (met : meets value) :
    Writes accepted meets (Pure.pure value : Writer (List ω) α) := by
  -- Nothing is among the items.
  refine ⟨?_, met⟩
  intro item member
  exact absurd member List.not_mem_nil

/-- Writing an accepted item keeps whatever the result of nothing meets. -/
theorem tell {item : ω} (fits : accepted item) {met : PUnit → Prop} (unit : met ⟨⟩) :
    Writes accepted met (MonadWriter.tell [item] : Writer (List ω) PUnit) := by
  -- The one item is the only one there is.
  refine ⟨?_, unit⟩
  intro other member
  obtain rfl := List.mem_singleton.mp member
  exact fits

/-- A computation goes on from whatever result its first part has reached. -/
theorem bind {first : Writer (List ω) α} {next : α → Writer (List ω) β}
    (opening : Writes accepted meets first)
    (closing : ∀ value, meets value → Writes accepted holds (next value)) :
    Writes accepted holds (first >>= next) := by
  have later := closing (result first) opening.2
  -- An item is written by the first part or by the second.
  refine ⟨?_, later.2⟩
  intro item member
  rw [written_bind] at member
  rcases List.mem_append.mp member with early | late
  · exact opening.1 item early
  · exact later.1 item late

/-- A result may be known less precisely. -/
theorem weaken {met : α → Prop} {computation : Writer (List ω) α}
    (sound : Writes accepted meets computation) (implied : ∀ value, meets value → met value) :
    Writes accepted met computation :=
  ⟨sound.1, implied _ sound.2⟩

end Writes

/-- Everything a computation in two parts writes is accepted if each part's items are. -/
theorem forall_written_bind {accepted : ω → Prop} (first : Writer (List ω) α)
    (next : α → Writer (List ω) β) :
    (∀ item ∈ written (first >>= next), accepted item) ↔
      (∀ item ∈ written first, accepted item) ∧
        ∀ item ∈ written (next (result first)), accepted item := by
  -- The second part's items stand behind those of the first.
  rw [written_bind]
  exact List.forall_mem_append

end Veloxity.Library
