import Mathlib.Data.Finset.Card

/-! Loops that repeat a step until it reports that nothing is left to do. -/

namespace Veloxity.Library

universe u v

variable {σ : Type u} {ι : Type v}

/-- Repeat a step until it reports that no work was done, counting the successful repetitions;
the fuel bounds how often the step is taken, and `none` means that it ran out. -/
def drainLoop (step : Nat → σ → σ × Bool) : Nat → Nat → σ → Option (σ × Nat)
  | _, 0, _ => none
  | round, fuel + 1, state =>
    -- The step is told which repetition it is, so its surroundings may change in between.
    let stepped := step round state
    if stepped.2 then
      (drainLoop step (round + 1) fuel stepped.1).map fun result => (result.1, result.2 + 1)
    else some (stepped.1, 0)

variable {step : Nat → σ → σ × Bool}

/-- A loop whose step always finds more work never stops. -/
theorem drainLoop_diverges (invariant : σ → Prop)
    (busy : ∀ round state, invariant state →
      (step round state).2 = true ∧ invariant (step round state).1)
    (fuel : Nat) (round : Nat) {state : σ} (initial : invariant state) :
    drainLoop step round fuel state = none := by
  -- Every repetition spends fuel and keeps the invariant.
  induction fuel generalizing round state with
  | zero => rfl
  | succ fuel ih =>
    obtain ⟨more, kept⟩ := busy round state initial
    simp only [drainLoop, more, ↓reduceIte, ih (round + 1) kept, Option.map_none]

/-- What every repetition that finds work preserves holds when a loop stops, and the last
repetition, which finds none, turns it into what holds afterwards. -/
theorem drainLoop_ends (invariant ended : σ → Prop)
    (works : ∀ round state, invariant state → (step round state).2 = true →
      invariant (step round state).1)
    (stops : ∀ round state, invariant state → (step round state).2 = false →
      ended (step round state).1)
    {fuel : Nat} {round : Nat} {state : σ} {result : σ × Nat} (initial : invariant state)
    (stopped : drainLoop step round fuel state = some result) : ended result.1 := by
  -- A loop that has stopped had fuel for each of its repetitions.
  induction fuel generalizing round state result with
  | zero => exact nomatch stopped
  | succ fuel ih =>
    unfold drainLoop at stopped
    cases more : (step round state).2 with
    | false =>
      simp only [more, Bool.false_eq_true, if_false, Option.some.injEq] at stopped
      rw [← stopped]
      exact stops round state initial more
    | true =>
      simp only [more, if_true] at stopped
      obtain ⟨rest, later, rfl⟩ := Option.map_eq_some_iff.mp stopped
      have reached : ended rest.1 := ih (works round state initial more) later
      exact reached

/-- A loop that takes one item out of a finite set at each repetition and logs it stops, and
has logged each item at most once. -/
theorem drainLoop_takes_each_once [DecidableEq ι] (invariant : σ → Prop)
    (pending : σ → Finset ι) (log : σ → List ι)
    (quiet : ∀ round state, invariant state → (step round state).2 = false →
      log (step round state).1 = log state)
    (takes : ∀ round state, invariant state → (step round state).2 = true →
      invariant (step round state).1 ∧ ∃ item ∈ pending state,
        pending (step round state).1 = (pending state).erase item ∧
          log (step round state).1 = log state ++ [item])
    (fuel : Nat) (round : Nat) {state : σ} (initial : invariant state)
    (enough : (pending state).card < fuel) :
    ∃ final taken, drainLoop step round fuel state = some (final, taken.length) ∧
      log final = log state ++ taken ∧ taken.Nodup ∧ ∀ item ∈ taken, item ∈ pending state := by
  -- The induction is on the fuel, which the shrinking set never exceeds.
  induction fuel generalizing round state with
  | zero => omega
  | succ fuel ih =>
    cases more : (step round state).2 with
    | false =>
      refine ⟨(step round state).1, [], ?_, ?_, List.nodup_nil, by simp⟩
      · simp [drainLoop, more]
      · simpa using quiet round state initial more
    | true =>
      obtain ⟨kept, item, waiting, removed, logged⟩ := takes round state initial more
      have smaller : (pending (step round state).1).card < fuel := by
        have shrunk := Finset.card_erase_of_mem waiting
        have inhabited := Finset.card_pos.mpr ⟨item, waiting⟩
        rw [removed]
        omega
      obtain ⟨final, taken, stopped, extended, distinct, inside⟩ := ih (round + 1) kept smaller
      -- What the rest of the loop takes was still pending after the first item.
      have rest : ∀ other ∈ taken, other ∈ (pending state).erase item := by
        intro other member
        rw [← removed]
        exact inside other member
      refine ⟨final, item :: taken, ?_, ?_, ?_, ?_⟩
      · simp [drainLoop, more, stopped]
      · rw [extended, logged, List.append_assoc]
        rfl
      · exact List.nodup_cons.mpr
          ⟨fun repeated => Finset.notMem_erase item _ (rest item repeated), distinct⟩
      · intro other member
        rcases List.mem_cons.mp member with same | later
        · rw [same]
          exact waiting
        · exact Finset.mem_of_mem_erase (rest other later)

end Veloxity.Library
