import Mathlib.Data.List.Basic

/-! Fallible transducers stop a run at the first failing step and collect their outputs. -/

namespace Veloxity.Library

universe u v w x

variable {σ : Type u} {ε : Type v} {ω : Type w} {χ : Type x}

/-- Feeding inputs one by one yields the last state and the outputs, or the first failure. -/
def feedAll (step : σ → ε → Except χ (σ × Option ω)) :
    σ → List ε → Except χ (σ × List ω)
  | state, [] => .ok (state, [])
  | state, input :: rest =>
    -- A failing step ends the run and hides everything after it.
    match step state input with
    | .error failure => .error failure
    | .ok (next, output) =>
      match feedAll step next rest with
      | .error failure => .error failure
      | .ok (last, outputs) => .ok (last, output.toList ++ outputs)

/-- A law holds at every step a fallible run reaches, the failing one included. -/
def AlongFallible (law : σ → ε → Prop) (step : σ → ε → Except χ (σ × Option ω)) :
    σ → List ε → Prop
  | _, [] => True
  | state, input :: rest =>
    law state input ∧
      ∀ next output, step state input = .ok (next, output) → AlongFallible law step next rest

section Steps

variable {step : σ → ε → Except χ (σ × Option ω)} {start : σ}

@[simp] theorem feedAll_nil : feedAll step start [] = .ok (start, []) := rfl

/-- A successful first step leaves the rest of the run to the state it produced. -/
theorem feedAll_cons_ok {input : ε} {next : σ} {output : Option ω} (rest : List ε)
    (stepped : step start input = .ok (next, output)) :
    feedAll step start (input :: rest) =
      (feedAll step next rest).map fun result => (result.1, output.toList ++ result.2) := by
  -- Both sides inspect the same remaining run.
  cases remaining : feedAll step next rest <;> simp [feedAll, stepped, remaining, Except.map]

/-- A failing first step is the failure of the whole run. -/
theorem feedAll_cons_error {input : ε} {failure : χ} (rest : List ε)
    (failed : step start input = .error failure) :
    feedAll step start (input :: rest) = .error failure := by
  -- The remaining inputs are never read.
  rw [feedAll, failed]

/-- A run that succeeds has a successful first step and a successful rest. -/
theorem exists_of_feedAll_cons {input : ε} {rest : List ε} {result : σ × List ω}
    (reached : feedAll step start (input :: rest) = .ok result) :
    ∃ next output last, step start input = .ok (next, output) ∧
      feedAll step next rest = .ok last ∧ result = (last.1, output.toList ++ last.2) := by
  -- A failure of either would be that of the run.
  cases stepped : step start input with
  | error reason =>
    rw [feedAll_cons_error rest stepped] at reached
    cases reached
  | ok pair =>
    obtain ⟨next, output⟩ := pair
    rw [feedAll_cons_ok rest stepped] at reached
    cases remaining : feedAll step next rest with
    | error reason =>
      rw [remaining] at reached
      cases reached
    | ok last =>
      rw [remaining] at reached
      cases reached
      exact ⟨next, output, last, rfl, remaining, rfl⟩

/-- Steps that satisfy a law and keep an invariant never fail, so the whole run succeeds. -/
theorem feedAll_succeeds {invariant : σ → Prop} {law : σ → ε → Prop}
    (progress : ∀ state input, invariant state → law state input →
      ∃ next output, step state input = .ok (next, output) ∧ invariant next)
    (initial : invariant start) {inputs : List ε} (lawful : AlongFallible law step start inputs) :
    ∃ result, feedAll step start inputs = .ok result ∧ invariant result.1 := by
  -- Each step hands its invariant to the rest of the run.
  induction inputs generalizing start with
  | nil => exact ⟨(start, []), rfl, initial⟩
  | cons input rest ih =>
    obtain ⟨next, output, stepped, kept⟩ := progress start input initial lawful.1
    obtain ⟨result, finished, final⟩ := ih kept (lawful.2 next output stepped)
    refine ⟨(result.1, output.toList ++ result.2), ?_, final⟩
    rw [feedAll_cons_ok rest stepped, finished]
    rfl

/-- A run that leaves its law has a first step that breaks it, reached by lawful steps. -/
theorem exists_first_break {law : σ → ε → Prop} {inputs : List ε}
    (broken : ¬ AlongFallible law step start inputs) :
    ∃ before input after, inputs = before ++ input :: after ∧
      AlongFallible law step start before ∧
      ∃ result, feedAll step start before = .ok result ∧ ¬ law result.1 input := by
  -- The induction peels lawful successful steps until the offending one is at the head.
  induction inputs generalizing start with
  | nil => exact absurd trivial broken
  | cons input rest ih =>
    by_cases lawful : law start input
    · obtain ⟨next, output, stepped, later⟩ : ∃ next output,
          step start input = .ok (next, output) ∧ ¬ AlongFallible law step next rest := by
        by_contra none
        refine broken ⟨lawful, fun next output stepped => ?_⟩
        by_contra later
        exact none ⟨next, output, stepped, later⟩
      obtain ⟨before, offending, after, rfl, good, result, reached, bad⟩ := ih later
      refine ⟨input :: before, offending, after, rfl, ⟨lawful, ?_⟩, ?_⟩
      · intro other emitted same
        rw [stepped] at same
        cases same
        exact good
      · refine ⟨(result.1, output.toList ++ result.2), ?_, bad⟩
        rw [feedAll_cons_ok before stepped, reached]
        rfl
    · exact ⟨[], input, rest, rfl, trivial, (start, []), rfl, lawful⟩

/-- A law holds along two batches when it holds along each, the second from where the first
ended. -/
theorem alongFallible_append {law : σ → ε → Prop} (first second : List ε) :
    AlongFallible law step start (first ++ second) ↔
      AlongFallible law step start first ∧
        ∀ result, feedAll step start first = .ok result →
          AlongFallible law step result.1 second := by
  -- The induction moves the start through the first batch.
  induction first generalizing start with
  | nil => simp [AlongFallible]
  | cons input rest ih =>
    rw [List.cons_append, AlongFallible, AlongFallible, and_assoc]
    refine and_congr_right fun _ => ?_
    cases stepped : step start input with
    | error reason => simp [feedAll_cons_error rest stepped]
    | ok pair =>
      obtain ⟨next, output⟩ := pair
      rw [feedAll_cons_ok rest stepped]
      constructor
      · intro all
        obtain ⟨early, late⟩ := ih.mp (all next output rfl)
        refine ⟨fun other emitted same => by cases same; exact early, fun result reached => ?_⟩
        rw [← feedAll_cons_ok rest stepped] at reached
        obtain ⟨_, _, last, took, remaining, rfl⟩ := exists_of_feedAll_cons reached
        cases stepped.symm.trans took
        exact late last remaining
      · rintro ⟨early, late⟩ other emitted same
        cases same
        refine ih.mpr ⟨early next output rfl, fun result reached => ?_⟩
        exact late (result.1, output.toList ++ result.2) (by rw [reached]; rfl)

/-- A law of every step holds along every run. -/
theorem alongFallible_of_forall {law : σ → ε → Prop} (all : ∀ state input, law state input)
    (inputs : List ε) : AlongFallible law step start inputs := by
  -- It holds at the head and at every state after it.
  induction inputs generalizing start with
  | nil => trivial
  | cons input rest ih => exact ⟨all start input, fun _ _ _ => ih⟩

/-- What every lawful step keeps of a state and the inputs before it holds of the last state
and all inputs. -/
theorem feedAll_history (invariant : List ε → σ → Prop) (past : List ε) {law : σ → ε → Prop}
    (kept : ∀ past state input next output, invariant past state → law state input →
      step state input = .ok (next, output) → invariant (past ++ [input]) next)
    {inputs : List ε} {result : σ × List ω} (initial : invariant past start)
    (lawful : AlongFallible law step start inputs)
    (reached : feedAll step start inputs = .ok result) :
    invariant (past ++ inputs) result.1 := by
  -- Each input moves from the inputs to come to those in the past.
  induction inputs generalizing start past result with
  | nil =>
    cases reached
    rwa [List.append_nil]
  | cons input rest ih =>
    obtain ⟨next, output, last, stepped, remaining, rfl⟩ := exists_of_feedAll_cons reached
    rw [List.append_cons]
    show invariant (past ++ [input] ++ rest) last.1
    exact ih (past ++ [input]) (kept past start input next output initial lawful.1 stepped)
      (lawful.2 next output stepped) remaining

/-- Every output of a run is the output of one of its steps. -/
theorem exists_step_of_output {inputs : List ε} {last : σ} {outputs : List ω}
    (reached : feedAll step start inputs = .ok (last, outputs)) {output : ω}
    (member : output ∈ outputs) :
    ∃ before input after, inputs = before ++ input :: after ∧
      ∃ result next, feedAll step start before = .ok result ∧
        step result.1 input = .ok (next, some output) := by
  -- The head step's output stands before those of the rest.
  induction inputs generalizing start outputs with
  | nil =>
    cases reached
    exact absurd member List.not_mem_nil
  | cons input rest ih =>
    obtain ⟨next, emitted, ⟨final, others⟩, stepped, remaining, same⟩ :=
      exists_of_feedAll_cons reached
    cases same
    rcases List.mem_append.mp member with now | later
    · have given := Option.mem_toList.mp now
      exact ⟨[], input, rest, rfl, (start, []), next, rfl, by rw [stepped, given]⟩
    · obtain ⟨before, offending, after, rfl, ⟨state, earlier⟩, other, found, emits⟩ :=
        ih remaining later
      refine ⟨input :: before, offending, after, rfl, (state, emitted.toList ++ earlier), other,
        ?_, emits⟩
      rw [feedAll_cons_ok before stepped, found]
      rfl

/-- A run over two batches fails when the second batch fails from where the first ended. -/
theorem feedAll_append_of_ok {first second : List ε} {result : σ × List ω}
    (reached : feedAll step start first = .ok result) :
    feedAll step start (first ++ second) =
      (feedAll step result.1 second).map fun last => (last.1, result.2 ++ last.2) := by
  -- The induction moves the start through the first batch.
  induction first generalizing start result with
  | nil =>
    cases reached
    cases other : feedAll step start second <;> simp [Except.map, other]
  | cons input rest ih =>
    obtain ⟨next, output, last, stepped, remaining, rfl⟩ := exists_of_feedAll_cons reached
    rw [List.cons_append, feedAll_cons_ok _ stepped, ih remaining]
    cases feedAll step last.1 second <;> simp [Except.map]

end Steps

end Veloxity.Library
