import Mathlib.Logic.Relation

/-! Machines that go on by themselves until they have to wait for more input. -/

namespace Veloxity.Library

universe u v w x

variable {σ : Type u} {β : Type v} {χ : Type w} {τ : Type x}

/-- One state leads to another in any number of steps of a machine that may have to wait. -/
def Reaches (step : σ → Option σ) : σ → σ → Prop :=
  Relation.ReflTransGen fun before after => step before = some after

/-- A machine settles in a state that it reaches and in which it has to wait. -/
def SettlesIn (step : σ → Option σ) (start last : σ) : Prop :=
  Reaches step start last ∧ step last = none

section Machines

variable {step : σ → Option σ}

/-- Every state leads to itself. -/
theorem Reaches.refl (state : σ) : Reaches step state state := Relation.ReflTransGen.refl

/-- One step leads to its result. -/
theorem Reaches.single {before after : σ} (stepped : step before = some after) :
    Reaches step before after := Relation.ReflTransGen.single stepped

/-- What leads somewhere leads wherever that leads. -/
theorem Reaches.trans {first second third : σ} (here : Reaches step first second)
    (there : Reaches step second third) : Reaches step first third :=
  Relation.ReflTransGen.trans here there

/-- A step goes before a way that starts with its result. -/
theorem Reaches.head {first second third : σ} (stepped : step first = some second)
    (there : Reaches step second third) : Reaches step first third :=
  Relation.ReflTransGen.head stepped there

/-- A waiting machine leads nowhere else. -/
theorem Reaches.eq_of_waits {start last : σ} (reached : Reaches step start last)
    (waits : step start = none) : last = start := by
  -- The first step of a longer way would be one of the waiting machine.
  rcases Relation.ReflTransGen.cases_head reached with same | ⟨next, stepped, _⟩
  · exact same.symm
  · rw [waits] at stepped
    cases stepped

/-- A machine settles in one state only. -/
theorem SettlesIn.unique {start first second : σ} (one : SettlesIn step start first)
    (other : SettlesIn step start second) : first = second := by
  -- Of two states a deterministic machine reaches, one leads to the other.
  have deterministic : Relator.RightUnique fun before after => step before = some after := by
    intro before after after' stepped stepped'
    exact Option.some.inj (stepped.symm.trans stepped')
  rcases Relation.ReflTransGen.total_of_right_unique deterministic one.1 other.1 with
    onward | back
  · exact (Reaches.eq_of_waits onward one.2).symm
  · exact Reaches.eq_of_waits back other.2

/-- A machine settles where a state it reaches settles. -/
theorem Reaches.settles {start middle last : σ} (reached : Reaches step start middle)
    (settled : SettlesIn step middle last) : SettlesIn step start last :=
  ⟨reached.trans settled.1, settled.2⟩

end Machines

/-- The input a machine is given goes behind the input it has not used, which its steps
leave to those that wait for more. -/
structure Patient (step : σ → Option σ) (feed : σ → List β → σ) : Prop where
  feed_nil : ∀ state, feed state [] = state
  feed_append : ∀ state first second,
    feed state (first ++ second) = feed (feed state first) second
  feed_step : ∀ {before after} input, step before = some after →
    step (feed before input) = some (feed after input)

namespace Patient

variable {step : σ → Option σ} {feed : σ → List β → σ}

/-- More input does not change where a machine has come. -/
theorem feed_reaches (patient : Patient step feed) {start last : σ} (input : List β)
    (reached : Reaches step start last) : Reaches step (feed start input) (feed last input) := by
  -- Each step is taken with the input waiting behind it.
  induction reached with
  | refl => exact .refl _
  | tail _ stepped ih => exact ih.trans (.single (patient.feed_step input stepped))

/-- A machine that settles after a first input settles after both where the second takes it from
there. -/
theorem settles_append (patient : Patient step feed) {start middle last : σ}
    {first second : List β} (before : Reaches step (feed start first) middle)
    (after : SettlesIn step (feed middle second) last) :
    SettlesIn step (feed start (first ++ second)) last := by
  -- The second input waits while the first is used up.
  rw [patient.feed_append]
  exact (patient.feed_reaches second before).settles after

/-- A program that lets the machine settle after each chunk lets it settle after all of them as if
they had come as one. -/
theorem settles_foldlM (patient : Patient step feed) {program : τ → List β → Except χ τ}
    {shown : τ → σ} {invariant : τ → Prop}
    (settles : ∀ state chunk, invariant state → step (shown state) = none →
      ∃ next, program state chunk = .ok next ∧
        SettlesIn step (feed (shown state) chunk) (shown next) ∧ invariant next)
    {start : τ} (initial : invariant start) (waits : step (shown start) = none)
    (chunks : List (List β)) :
    ∃ last, chunks.foldlM program start = .ok last ∧
      SettlesIn step (feed (shown start) chunks.flatten) (shown last) ∧ invariant last := by
  -- The chunks that are still to come wait behind the one being used up.
  induction chunks generalizing start with
  | nil =>
    refine ⟨start, rfl, ?_, initial⟩
    rw [List.flatten_nil, patient.feed_nil]
    exact ⟨.refl _, waits⟩
  | cons chunk rest ih =>
    obtain ⟨next, programmed, settled, kept⟩ := settles start chunk initial waits
    obtain ⟨last, finished, final, held⟩ := ih kept settled.2
    refine ⟨last, ?_, ?_, held⟩
    · rw [List.foldlM_cons, programmed]
      exact finished
    · rw [List.flatten_cons]
      exact patient.settles_append settled.1 final

end Patient

end Veloxity.Library
