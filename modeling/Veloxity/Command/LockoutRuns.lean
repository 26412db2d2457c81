import Mathlib.Data.List.DropRight
import Veloxity.Library.Run
import Veloxity.Command.Lockout

/-! How long a denied angle request keeps the sticks in rate mode. -/

namespace Veloxity

open Library

/-- Multirotor passes with the attitude type mapped to a switch. -/
def RcAngleModeLockoutInput.SwitchMode (input : RcAngleModeLockoutInput) : Prop :=
  input.fixedWing = false ∧ input.attTypeSwitchMapped = true

instance (input : RcAngleModeLockoutInput) : Decidable input.SwitchMode :=
  inferInstanceAs (Decidable (_ ∧ _))

namespace RcAngleModeLockoutMachine

/-- The machine after passes from the beginning. -/
def after (inputs : List RcAngleModeLockoutInput) : RcAngleModeLockoutMachine :=
  Library.run (fun machine input => (machine.step input).1) {} inputs

/-- The pass puts a lockout in force where none is left. -/
def Enters (machine : RcAngleModeLockoutMachine) (input : RcAngleModeLockoutInput) : Prop :=
  (machine.advance input).state = .inactive ∧ (machine.step input).1.state ≠ .inactive

instance (machine : RcAngleModeLockoutMachine) (input : RcAngleModeLockoutInput) :
    Decidable (machine.Enters input) :=
  inferInstanceAs (Decidable (_ ∧ _))

end RcAngleModeLockoutMachine

/-- A lockout machine together with the passes since a lockout was last entered. -/
structure LockoutWatch where
  machine : RcAngleModeLockoutMachine
  since : List RcAngleModeLockoutInput

namespace LockoutWatch

/-- A pass either enters a lockout or is one more since then. -/
def step (watch : LockoutWatch) (input : RcAngleModeLockoutInput) : LockoutWatch :=
  { machine := (watch.machine.step input).1
    since := if watch.machine.Enters input then [] else watch.since ++ [input] }

/-- The watch after passes from the beginning. -/
def after (inputs : List RcAngleModeLockoutInput) : LockoutWatch :=
  Library.run step { machine := {}, since := [] } inputs

/-- The switch reads rate, and the estimator has been healthy since the lockout was entered. -/
def Releases (watch : LockoutWatch) (input : RcAngleModeLockoutInput) : Prop :=
  input.attTypeSwitchRate = true ∧
    ∃ seen ∈ watch.since ++ [input], seen.estimatorUnhealthy = false

/-- The machine remembers whether the estimator has been healthy since the lockout was entered. -/
def Remembers (watch : LockoutWatch) : Prop :=
  match watch.machine.state with
  | .inactive => True
  | .switchResetRequired estimatorRecovered _ =>
    estimatorRecovered = true ↔ ∃ seen ∈ watch.since, seen.estimatorUnhealthy = false
  | .paramRateUntilExplicitAngle => False

end LockoutWatch

/-- From a denied pass on, rate mode is forced at every pass until one that releases. -/
def StaysForced (releases : List RcAngleModeLockoutInput → RcAngleModeLockoutInput → Prop)
    (before : List RcAngleModeLockoutInput) (denied : RcAngleModeLockoutInput) : Prop :=
  ∀ between now, (∀ input ∈ between ++ [now], input.SwitchMode) →
    (∀ early moment late, between ++ [now] = early ++ moment :: late →
      ¬ releases (before ++ denied :: early) moment) →
    ((RcAngleModeLockoutMachine.after (before ++ denied :: between)).step now).2.forceRcRate = true

/-- The switch reads rate, and the estimator has been healthy since the last denied pass. -/
def ReleasesSinceDenial (history : List RcAngleModeLockoutInput)
    (input : RcAngleModeLockoutInput) : Prop :=
  input.attTypeSwitchRate = true ∧
    ∃ seen ∈ (history.rtakeWhile fun earlier => !earlier.unsafeAngleRequested) ++ [input],
      seen.estimatorUnhealthy = false

/-- The switch reads rate, and the estimator has been healthy since the lockout was entered. -/
def ReleasesSinceEntry (history : List RcAngleModeLockoutInput)
    (input : RcAngleModeLockoutInput) : Prop :=
  (LockoutWatch.after history).Releases input

namespace LockoutWatch

variable {watch : LockoutWatch} {input : RcAngleModeLockoutInput}

/-- A watch follows its machine. -/
theorem machine_after (inputs : List RcAngleModeLockoutInput) :
    (after inputs).machine = RcAngleModeLockoutMachine.after inputs := by
  -- Each pass steps the machine alone.
  have general : ∀ (watch : LockoutWatch), (Library.run step watch inputs).machine =
      Library.run (fun machine input => (machine.step input).1) watch.machine inputs := by
    induction inputs with
    | nil => exact fun _ => rfl
    | cons input rest ih => exact fun watch => ih (watch.step input)
  exact general _

/-- Before a pass enters its own request, a lockout in force is released or remembers the pass. -/
theorem advance_cases (input : RcAngleModeLockoutInput) (remembers : watch.Remembers) :
    ((watch.machine.advance input).state = .inactive ∧
        (watch.machine.state ≠ .inactive → watch.Releases input)) ∨
      ∃ recovered logged,
        (watch.machine.advance input).state = .switchResetRequired recovered logged ∧
        (recovered = true ↔
          ∃ seen ∈ watch.since ++ [input], seen.estimatorUnhealthy = false) := by
  obtain ⟨⟨state, denial⟩, since⟩ := watch
  cases state with
  | inactive => exact Or.inl ⟨rfl, fun locked => absurd rfl locked⟩
  | paramRateUntilExplicitAngle => exact remembers.elim
  | switchResetRequired recovered logged =>
    -- The pass itself counts when it asks whether the estimator has been healthy.
    have seen : (recovered || !input.estimatorUnhealthy) = true ↔
        ∃ seen ∈ since ++ [input], seen.estimatorUnhealthy = false := by
      have earlier : recovered = true ↔ ∃ seen ∈ since, seen.estimatorUnhealthy = false := remembers
      rw [Bool.or_eq_true, earlier]
      simp [or_and_right, exists_or]
    unfold RcAngleModeLockoutMachine.advance
    dsimp only
    split
    · rename_i released
      rw [Bool.and_eq_true] at released
      exact Or.inl ⟨rfl, fun _ => ⟨released.2, seen.mp released.1⟩⟩
    · exact Or.inr ⟨_, _, rfl, seen⟩

/-- A pass leaves the state as it is after a possible release, or enters a new lockout. -/
theorem step_state_cases (machine : RcAngleModeLockoutMachine) (mode : input.SwitchMode) :
    (machine.step input).1.state = (machine.advance input).state ∨
      ((machine.step input).1.state = .switchResetRequired false false ∧
        ∀ recovered logged,
          (machine.advance input).state ≠ .switchResetRequired recovered logged) := by
  -- Only a denied request that finds no switch lockout changes the state.
  unfold RcAngleModeLockoutMachine.step RcAngleModeLockoutMachine.enter
  simp only [mode.1, mode.2, Bool.false_eq_true, ↓reduceIte]
  split
  · split
    · exact Or.inl rfl
    · split
      · exact Or.inl rfl
      · rename_i other
        exact Or.inr ⟨rfl, other⟩
  · exact Or.inl rfl

/-- Rate mode is forced where a lockout is left in force or a request is denied. -/
theorem forceRcRate_iff {machine : RcAngleModeLockoutMachine} (mode : input.SwitchMode) :
    (machine.step input).2.forceRcRate = true ↔
      (machine.advance input).state ≠ .inactive ∨ input.unsafeAngleRequested = true := by
  unfold RcAngleModeLockoutMachine.step
  simp only [mode.1, Bool.false_eq_true, ↓reduceIte, Bool.or_eq_true, decide_eq_true_eq]

/-- A pass keeps the memory. -/
theorem step_remembers (remembers : watch.Remembers) (mode : input.SwitchMode) :
    (watch.step input).Remembers := by
  unfold Remembers step
  dsimp only
  rcases advance_cases input remembers with ⟨idle, -⟩ | ⟨recovered, logged, kept, seen⟩
  · rcases step_state_cases watch.machine mode with same | ⟨entered, -⟩
    · rw [same, idle]
      trivial
    · -- A lockout just entered has seen nothing yet.
      rw [entered, if_pos ⟨idle, by rw [entered]; simp⟩]
      simp
  · have continues : ¬ watch.machine.Enters input := by
      rintro ⟨idle, -⟩
      rw [kept] at idle
      exact nomatch idle
    rw [if_neg continues]
    rcases step_state_cases watch.machine mode with same | ⟨-, other⟩
    · rw [same, kept]
      exact seen
    · exact absurd kept (other recovered logged)

/-- A lockout that is not released stays in force and forces rate mode. -/
theorem forced_of_not_releases (remembers : watch.Remembers) (mode : input.SwitchMode)
    (locked : watch.machine.state ≠ .inactive) (held : ¬ watch.Releases input) :
    (watch.machine.step input).2.forceRcRate = true ∧
      (watch.step input).machine.state ≠ .inactive := by
  -- Without a release the lockout is still in force after it has advanced.
  rcases advance_cases input remembers with ⟨-, released⟩ | ⟨recovered, logged, kept, -⟩
  · exact absurd (released locked) held
  · constructor
    · rw [forceRcRate_iff mode, kept]
      exact Or.inl (by simp)
    · show (watch.machine.step input).1.state ≠ .inactive
      rcases step_state_cases watch.machine mode with same | ⟨entered, -⟩
      · rw [same, kept]
        simp
      · rw [entered]
        simp

/-- A request denied from a lockout left in force, or not right after another one, leaves a
lockout in force. -/
theorem locked_of_denied {machine : RcAngleModeLockoutMachine} (mode : input.SwitchMode)
    (denied : input.unsafeAngleRequested = true)
    (noticed : (machine.advance input).state ≠ .inactive ∨ machine.denialActive = false) :
    (machine.step input).1.state ≠ .inactive := by
  -- Advancing does not touch the latch.
  have latch : (machine.advance input).denialActive = machine.denialActive := by
    unfold RcAngleModeLockoutMachine.advance
    split
    · rfl
    · dsimp only
      split
      · rfl
      · rfl
    · split
      · rfl
      · rfl
  rcases noticed with kept | unlatched
  · rcases step_state_cases machine mode with same | ⟨entered, -⟩
    · rwa [same]
    · rw [entered]
      simp
  · unfold RcAngleModeLockoutMachine.step RcAngleModeLockoutMachine.enter
    simp only [mode.1, mode.2, denied, latch, unlatched, Bool.false_eq_true, ↓reduceIte]
    split
    · rename_i kept
      simp [kept]
    · simp

/-- Passes that do not release a lockout in force keep forcing rate mode. -/
theorem forced_along {between : List RcAngleModeLockoutInput} {now : RcAngleModeLockoutInput}
    (remembers : watch.Remembers) (locked : watch.machine.state ≠ .inactive)
    (mode : ∀ input ∈ between ++ [now], input.SwitchMode)
    (held : ∀ early moment late, between ++ [now] = early ++ moment :: late →
      ¬ (Library.run step watch early).Releases moment) :
    ((Library.run step watch between).machine.step now).2.forceRcRate = true := by
  -- Each pass hands the memory and the lockout on to the next one.
  induction between generalizing watch with
  | nil =>
    exact (forced_of_not_releases remembers (mode now (by simp)) locked (held [] now [] rfl)).1
  | cons input rest ih =>
    have first := mode input (by simp)
    have unreleased : ¬ watch.Releases input := held [] input (rest ++ [now]) rfl
    refine ih (step_remembers remembers first)
      (forced_of_not_releases remembers first locked unreleased).2
      (fun other member => mode other (List.mem_cons_of_mem _ member)) ?_
    intro early moment late split
    exact held (input :: early) moment late (by rw [List.cons_append, split, List.cons_append])

/-- The memory holds after passes from the beginning. -/
theorem after_remembers {inputs : List RcAngleModeLockoutInput}
    (mode : ∀ input ∈ inputs, input.SwitchMode) : (after inputs).Remembers := by
  -- Every pass of the run is one of a multirotor with a mapped switch.
  have lawful : Along (fun (_ : LockoutWatch) (input : RcAngleModeLockoutInput) => input.SwitchMode)
      step { machine := {}, since := [] } inputs := by
    rw [along_iff_split]
    rintro before input rest rfl
    exact mode input (by simp)
  have started : Remembers { machine := {}, since := [] } := trivial
  exact run_invariant_along (fun _ _ remembers allowed => step_remembers remembers allowed)
    started lawful

end LockoutWatch

/-- After a denied pass rate mode stays forced until a pass at which the switch reads rate and the
estimator has been healthy since the lockout was entered. -/
theorem staysForced_sinceEntry (before : List RcAngleModeLockoutInput)
    (denied : RcAngleModeLockoutInput)
    (mode : ∀ input ∈ before ++ [denied], input.SwitchMode)
    (requested : denied.unsafeAngleRequested = true)
    (noticed : ((RcAngleModeLockoutMachine.after before).advance denied).state ≠ .inactive ∨
      (RcAngleModeLockoutMachine.after before).denialActive = false) :
    StaysForced ReleasesSinceEntry before denied := by
  intro between now later held
  -- The denied pass leaves a lockout in force, and no later pass releases it.
  have split : ∀ rest, LockoutWatch.after (before ++ denied :: rest) =
      Library.run LockoutWatch.step (LockoutWatch.after (before ++ [denied])) rest := by
    intro rest
    rw [List.append_cons, LockoutWatch.after, run_append, LockoutWatch.after]
  have locked : (LockoutWatch.after (before ++ [denied])).machine.state ≠ .inactive := by
    rw [LockoutWatch.machine_after, RcAngleModeLockoutMachine.after, run_concat]
    exact LockoutWatch.locked_of_denied (mode denied (by simp)) requested noticed
  rw [← LockoutWatch.machine_after, split]
  refine LockoutWatch.forced_along (LockoutWatch.after_remembers mode) locked later ?_
  intro early moment late same
  rw [← split]
  exact held early moment late same

/-- A pass of a multirotor that flies an angle command of the sticks, with a mapped switch. -/
def anglePass (estimatorUnhealthy attTypeSwitchRate : Bool) : RcAngleModeLockoutInput :=
  { fixedWing := false, estimatorUnhealthy, offboardAngleRequested := false,
    rcAngleRequested := !attTypeSwitchRate, rcAttitudeSourceRequested := true,
    attTypeSwitchMapped := true, attTypeSwitchRate, paramModeRate := false }

/-- A first denied request is followed by forced passes until the switch reads rate. -/
theorem staysForced_sinceEntry_first : StaysForced ReleasesSinceEntry [] (anglePass true false) :=
  staysForced_sinceEntry [] (anglePass true false) (by decide) (by decide) (Or.inr (by decide))

/-- A recovery before a second loss still counts after it, so the lockout is released without a
recovery since the last denied request. -/
theorem secondLoss_not_staysForced :
    ¬ ∀ before denied, (∀ input ∈ before ++ [denied], input.SwitchMode) →
      denied.unsafeAngleRequested = true → StaysForced ReleasesSinceDenial before denied := by
  intro always
  -- The estimator is lost, recovers, and is lost again, before the switch moves to rate.
  have forced := always [anglePass true false, anglePass false false] (anglePass true false)
    (by decide) (by decide) [] (anglePass true true) (by decide) ?_
  · revert forced
    decide
  · intro early moment late split
    obtain ⟨rfl, rfl⟩ : early = [] ∧ moment = anglePass true true := by
      cases early with
      | nil => exact ⟨rfl, (List.cons.inj split).1.symm⟩
      | cons first rest => simp at split
    unfold ReleasesSinceDenial
    decide

end Veloxity
