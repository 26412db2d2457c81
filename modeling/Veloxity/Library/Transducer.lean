import Mathlib.Data.List.Basic
import Veloxity.Library.FallibleRun

/-! Transducers that cannot fail, and the fallible ones that follow them. -/

namespace Veloxity.Library

universe u v w x y z

variable {σ : Type u} {ε : Type v} {ω : Type w} {χ : Type x} {τ : Type y} {υ : Type z}

/-- Feeding inputs one by one yields the last state and the outputs in order. -/
def transduce (step : σ → ε → σ × Option ω) : σ → List ε → σ × List ω
  | state, [] => (state, [])
  | state, input :: rest =>
    -- The outputs of the rest follow whatever the first step put out.
    let stepped := step state input
    let last := transduce step stepped.1 rest
    (last.1, stepped.2.toList ++ last.2)

section Steps

variable {step : σ → ε → σ × Option ω} {start : σ}

@[simp] theorem transduce_nil : transduce step start [] = (start, []) := rfl

/-- The first input is fed before the others. -/
theorem transduce_cons (input : ε) (rest : List ε) :
    transduce step start (input :: rest) =
      ((transduce step (step start input).1 rest).1,
        (step start input).2.toList ++ (transduce step (step start input).1 rest).2) := rfl

/-- A step without output leaves all outputs to the rest of the inputs. -/
theorem transduce_cons_silent {input : ε} {next : σ} (rest : List ε)
    (silent : step start input = (next, none)) :
    transduce step start (input :: rest) = transduce step next rest := by
  -- Nothing stands before the outputs of the rest.
  simp [transduce_cons, silent]

/-- Two batches are fed one after the other. -/
theorem transduce_append (first second : List ε) :
    transduce step start (first ++ second) =
      ((transduce step (transduce step start first).1 second).1,
        (transduce step start first).2 ++
          (transduce step (transduce step start first).1 second).2) := by
  -- The induction moves the start through the first batch.
  induction first generalizing start with
  | nil => rfl
  | cons input rest ih => simp only [List.cons_append, transduce_cons, ih, List.append_assoc]

/-- One more input adds its step's output to those before it. -/
theorem transduce_concat (inputs : List ε) (input : ε) :
    transduce step start (inputs ++ [input]) =
      ((step (transduce step start inputs).1 input).1,
        (transduce step start inputs).2 ++
          (step (transduce step start inputs).1 input).2.toList) := by
  -- The last input is a batch of its own.
  simp [transduce_append, transduce_cons]

/-- What every step keeps of a state holds of the last state. -/
theorem transduce_invariant {invariant : σ → Prop}
    (kept : ∀ state input, invariant state → invariant (step state input).1)
    (initial : invariant start) (inputs : List ε) : invariant (transduce step start inputs).1 := by
  -- The induction moves the start along the inputs.
  induction inputs generalizing start with
  | nil => exact initial
  | cons input rest ih => exact ih (kept start input initial)

end Steps

/-- A transducer that follows another one step by step, with the same outputs, follows it and has
its outputs over all inputs. -/
theorem transduce_follows {step : σ → ε → σ × Option ω} {other : τ → ε → τ × Option ω}
    {follows : σ → τ → Prop}
    (simulates : ∀ state target input, follows state target →
      follows (step state input).1 (other target input).1 ∧
        (step state input).2 = (other target input).2)
    {state : σ} {target : τ} (initial : follows state target) (inputs : List ε) :
    follows (transduce step state inputs).1 (transduce other target inputs).1 ∧
      (transduce step state inputs).2 = (transduce other target inputs).2 := by
  -- Each step hands both sides to the rest of the inputs.
  induction inputs generalizing state target with
  | nil => exact ⟨initial, rfl⟩
  | cons input rest ih =>
    obtain ⟨onward, shown⟩ := simulates state target input initial
    obtain ⟨final, others⟩ := ih onward
    rw [transduce_cons, transduce_cons, shown, others]
    exact ⟨final, rfl⟩

/-- A fallible transducer that follows an infallible one under a law never fails while the law
holds, and its outputs show what the other one puts out. -/
theorem feedAll_follows {fallible : σ → ε → Except χ (σ × Option ω)}
    {step : τ → ε → τ × Option υ} {follows : σ → τ → Prop} {law : τ → ε → Prop}
    {shows : ω → υ}
    (simulates : ∀ state target input, follows state target → law target input →
      ∃ next output, fallible state input = .ok (next, output) ∧
        follows next (step target input).1 ∧ output.map shows = (step target input).2)
    {state : σ} {target : τ} (initial : follows state target) {inputs : List ε}
    (lawful : ∀ before input after, inputs = before ++ input :: after →
      law (transduce step target before).1 input) :
    ∃ last outputs, feedAll fallible state inputs = .ok (last, outputs) ∧
      follows last (transduce step target inputs).1 ∧
      outputs.map shows = (transduce step target inputs).2 := by
  -- Each step hands both sides to the rest of the feed.
  induction inputs generalizing state target with
  | nil => exact ⟨state, [], rfl, initial, rfl⟩
  | cons input rest ih =>
    obtain ⟨next, output, fed, onward, shown⟩ :=
      simulates state target input initial (lawful [] input rest rfl)
    obtain ⟨last, outputs, finished, final, others⟩ := ih onward (by
      intro before later after split
      exact lawful (input :: before) later after (by rw [split, List.cons_append]))
    refine ⟨last, output.toList ++ outputs, ?_, final, ?_⟩
    · rw [feedAll_cons_ok rest fed, finished]
      rfl
    · rw [List.map_append, others, transduce_cons, ← shown]
      cases output <;> rfl

/-- A step that always puts something out, as one that may. -/
def everyStep (step : σ → ε → σ × ω) (state : σ) (input : ε) : σ × Option ω :=
  ((step state input).1, some (step state input).2)

/-- A fallible step that always puts something out, as one that may. -/
def everyStepFallible (step : σ → ε → Except χ (σ × ω)) (state : σ) (input : ε) :
    Except χ (σ × Option ω) :=
  (step state input).map fun stepped => (stepped.1, some stepped.2)

/-- A fallible transducer that follows an infallible one never fails, and puts out at each input
what is related to what the other one puts out there. -/
theorem feedAll_related {fallible : σ → ε → Except χ (σ × ω)} {step : τ → ε → τ × υ}
    {follows : σ → τ → Prop} {related : ω → υ → Prop}
    (simulates : ∀ state target input, follows state target →
      ∃ next output, fallible state input = .ok (next, output) ∧
        follows next (step target input).1 ∧ related output (step target input).2)
    {state : σ} {target : τ} (initial : follows state target) (inputs : List ε) :
    ∃ last outputs, feedAll (everyStepFallible fallible) state inputs = .ok (last, outputs) ∧
      follows last (transduce (everyStep step) target inputs).1 ∧
      List.Forall₂ related outputs (transduce (everyStep step) target inputs).2 := by
  -- Each step hands both sides to the rest of the feed.
  induction inputs generalizing state target with
  | nil => exact ⟨state, [], rfl, initial, .nil⟩
  | cons input rest ih =>
    obtain ⟨next, output, fed, onward, shown⟩ := simulates state target input initial
    obtain ⟨last, outputs, finished, final, others⟩ := ih onward
    have fed' : everyStepFallible fallible state input = .ok (next, some output) := by
      rw [everyStepFallible, fed]
      rfl
    refine ⟨last, output :: outputs, ?_, final, .cons shown others⟩
    rw [feedAll_cons_ok rest fed', finished]
    rfl

end Veloxity.Library
