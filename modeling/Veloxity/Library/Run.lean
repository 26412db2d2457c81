import Mathlib.Data.List.Induction

/-! Runs of a deterministic system fold its step over the inputs it receives. -/

namespace Veloxity.Library

universe u v w

variable {σ : Type u} {ε : Type v}

/-- The state reached from a start after the inputs have been applied in order. -/
def run (step : σ → ε → σ) (start : σ) (inputs : List ε) : σ :=
  -- Each input acts on the state its predecessors left.
  inputs.foldl step start

/-- A law of single steps holds at every step taken along a run. -/
def Along (law : σ → ε → Prop) (step : σ → ε → σ) : σ → List ε → Prop
  | _, [] => True
  | state, input :: rest => law state input ∧ Along law step (step state input) rest

/-- A decidable law is decided along a run by deciding it at each step. -/
instance decidableAlong (law : σ → ε → Prop) [∀ state input, Decidable (law state input)]
    (step : σ → ε → σ) : ∀ start inputs, Decidable (Along law step start inputs)
  | _, [] => inferInstanceAs (Decidable True)
  | start, input :: rest =>
    have := decidableAlong law step (step start input) rest
    inferInstanceAs (Decidable (law start input ∧ Along law step (step start input) rest))

section Steps

variable {step : σ → ε → σ} {start : σ}

@[simp] theorem run_nil : run step start [] = start := rfl

@[simp] theorem run_cons (input : ε) (rest : List ε) :
    run step start (input :: rest) = run step (step start input) rest := rfl

/-- A run over two batches continues from the state after the first batch. -/
theorem run_append (first second : List ε) :
    run step start (first ++ second) = run step (run step start first) second := by
  -- Folding over a concatenation folds the second list from the first result.
  simp [run]

/-- A run over one more input takes one more step. -/
theorem run_concat (inputs : List ε) (input : ε) :
    run step start (inputs ++ [input]) = step (run step start inputs) input := by
  -- The last input is a batch of its own.
  rw [run_append, run_cons, run_nil]

/-- What every step preserves holds after the whole run. -/
theorem run_invariant {invariant : σ → Prop}
    (preserved : ∀ state input, invariant state → invariant (step state input))
    (initial : invariant start) (inputs : List ε) : invariant (run step start inputs) := by
  -- The induction follows the inputs while the start moves with them.
  induction inputs generalizing start with
  | nil => exact initial
  | cons input rest ih => exact ih (preserved start input initial)

/-- What every step satisfying a law preserves holds after a run of such steps. -/
theorem run_invariant_along {invariant : σ → Prop} {law : σ → ε → Prop}
    (preserved : ∀ state input, invariant state → law state input →
      invariant (step state input))
    (initial : invariant start) {inputs : List ε} (lawful : Along law step start inputs) :
    invariant (run step start inputs) := by
  -- The law at the head step feeds the preservation rule, and the tail is a lawful run.
  induction inputs generalizing start with
  | nil => exact initial
  | cons input rest ih => exact ih (preserved start input initial lawful.1) lawful.2

/-- Where each step keeps what is remembered of an earlier state, or makes it true of its own, it is
true of some earlier state of every run. -/
theorem run_remembers {invariant : σ → Prop} {remembered : σ → σ → Prop}
    (preserved : ∀ state input, invariant state → invariant (step state input))
    (kept : ∀ old state input, invariant state → remembered old state →
      remembered old (step state input) ∨ remembered state (step state input))
    (initial : invariant start) (first : remembered start start) (inputs : List ε) :
    ∃ before after, inputs = before ++ after ∧
      remembered (run step start before) (run step start inputs) := by
  -- The last step either keeps the earlier state or puts its own in its place.
  induction inputs using List.reverseRecOn with
  | nil => exact ⟨[], [], rfl, first⟩
  | append_singleton inputs input ih =>
    obtain ⟨before, after, split, known⟩ := ih
    have holds := run_invariant preserved initial inputs
    rw [run_concat]
    rcases kept _ _ input holds known with same | new
    · exact ⟨before, after ++ [input], by rw [split, List.append_assoc], same⟩
    · exact ⟨inputs, [input], rfl, new⟩

/-- Splitting a run splits the steps its law speaks about. -/
theorem along_append {law : σ → ε → Prop} (first second : List ε) :
    Along law step start (first ++ second) ↔
      Along law step start first ∧ Along law step (run step start first) second := by
  -- The head steps of the first batch are peeled off one at a time.
  induction first generalizing start with
  | nil => simp [Along]
  | cons input rest ih => simp only [List.cons_append, Along, run_cons, ih, and_assoc]

/-- A law holds along a run exactly when it holds at the state before each input. -/
theorem along_iff_split {law : σ → ε → Prop} {inputs : List ε} :
    Along law step start inputs ↔
      ∀ before input after, inputs = before ++ input :: after →
        law (run step start before) input := by
  -- The induction moves the start, so the split's first part grows by one input.
  induction inputs generalizing start with
  | nil => simp [Along]
  | cons head rest ih =>
    constructor
    · rintro ⟨first, others⟩ before input after split
      cases before with
      | nil =>
        obtain ⟨rfl, rfl⟩ := List.cons.inj split
        exact first
      | cons earlier before =>
        obtain ⟨rfl, remains⟩ := List.cons.inj split
        exact ih.mp others before input after remains
    · intro all
      refine ⟨all [] head rest rfl, ih.mpr ?_⟩
      intro before input after split
      exact all (head :: before) input after (by rw [split, List.cons_append])

/-- A law follows along a run from another one if it does wherever an invariant holds that the
steps obeying the other preserve. -/
theorem along_of_along (invariant : σ → Prop) {law other : σ → ε → Prop}
    (sound : ∀ state input, invariant state → law state input →
      other state input ∧ invariant (step state input))
    (initial : invariant start) {inputs : List ε} (lawful : Along law step start inputs) :
    Along other step start inputs := by
  -- The invariant travels with the start.
  induction inputs generalizing start with
  | nil => trivial
  | cons input rest ih =>
    obtain ⟨holds, preserved⟩ := sound start input initial lawful.1
    exact ⟨holds, ih preserved lawful.2⟩

/-- Along a run whose steps all meet a condition two laws agree if they agree on such steps
wherever an invariant holds that those of them obeying the first preserve. -/
theorem along_congr_given (invariant : σ → Prop) {given law other : σ → ε → Prop}
    (preserved : ∀ state input, invariant state → given state input → law state input →
      invariant (step state input))
    (agree : ∀ state input, invariant state → given state input →
      (law state input ↔ other state input))
    (initial : invariant start) {inputs : List ε} (met : Along given step start inputs) :
    Along law step start inputs ↔ Along other step start inputs := by
  -- Past a step that breaks the law neither side holds, so the invariant is needed up to there.
  induction inputs generalizing start with
  | nil => exact Iff.rfl
  | cons input rest ih =>
    have first := agree start input initial met.1
    constructor
    · rintro ⟨obeyed, later⟩
      exact ⟨first.mp obeyed, (ih (preserved start input initial met.1 obeyed) met.2).mp later⟩
    · rintro ⟨obeyed, later⟩
      have lawful := first.mpr obeyed
      exact ⟨lawful, (ih (preserved start input initial met.1 lawful) met.2).mpr later⟩

/-- A condition that every step meets is met along every run. -/
theorem along_of_forall {law : σ → ε → Prop} (always : ∀ state input, law state input)
    (inputs : List ε) : Along law step start inputs := by
  induction inputs generalizing start with
  | nil => trivial
  | cons input rest ih => exact ⟨always start input, ih⟩

/-- Two laws agree along every run from a start if they agree wherever an invariant holds that
the steps obeying the first preserve. -/
theorem along_congr_while (invariant : σ → Prop) {law other : σ → ε → Prop}
    (preserved : ∀ state input, invariant state → law state input →
      invariant (step state input))
    (agree : ∀ state input, invariant state → (law state input ↔ other state input))
    (initial : invariant start) (inputs : List ε) :
    Along law step start inputs ↔ Along other step start inputs := by
  -- No condition is one that every step meets.
  apply along_congr_given invariant (fun state input holds _ => preserved state input holds)
    (fun state input holds _ => agree state input holds) initial
  exact along_of_forall (fun _ _ => trivial) inputs

/-- Two laws that agree wherever an invariant holds agree along every run it starts. -/
theorem along_congr (invariant : σ → Prop) {law other : σ → ε → Prop}
    (preserved : ∀ state input, invariant state → invariant (step state input))
    (agree : ∀ state input, invariant state → (law state input ↔ other state input))
    (initial : invariant start) (inputs : List ε) :
    Along law step start inputs ↔ Along other step start inputs := by
  -- An invariant of every step is one of the steps that obey the first law.
  apply along_congr_while invariant ?_ agree initial
  intro state input holds _
  exact preserved state input holds

/-- A law that holds wherever an invariant does holds along every run the invariant starts. -/
theorem along_of_invariant (invariant : σ → Prop) {law : σ → ε → Prop}
    (preserved : ∀ state input, invariant state → invariant (step state input))
    (lawful : ∀ state input, invariant state → law state input)
    (initial : invariant start) (inputs : List ε) : Along law step start inputs := by
  -- The invariant travels with the start.
  induction inputs generalizing start with
  | nil => trivial
  | cons input rest ih => exact ⟨lawful start input initial, ih (preserved start input initial)⟩

/-- A log that only grows is acceptable after a run exactly when it was before and every step has
added acceptable items. -/
theorem forall_log_run {ω : Type w} (log : σ → List ω) {added : σ → ε → List ω}
    {accepted : ω → Prop}
    (grows : ∀ state input, log (step state input) = log state ++ added state input)
    (inputs : List ε) :
    (∀ item ∈ log (run step start inputs), accepted item) ↔
      (∀ item ∈ log start, accepted item) ∧
        Along (fun state input => ∀ item ∈ added state input, accepted item) step start inputs := by
  -- The head step's items stand in front of those of the rest.
  induction inputs generalizing start with
  | nil => simp [Along]
  | cons input rest ih =>
    rw [run_cons, ih, grows, List.forall_mem_append, Along, and_assoc]

end Steps

end Veloxity.Library
