import Veloxity.Sim.FirmwareWorkerLaws

/-! What the simulator sees once it has been synchronised with its firmware. -/

namespace Veloxity

open Library

variable {F R S O E C M : Type} [FlightFloat F] [FlightFloat R] [FloatCast F R] [CastU16 R]
  [ReflectionFormat F] [Estimator F R S E] [Controller F R S O C] [Mixer F R O M]

/-- What a simulation is created from. -/
structure SimulatorSetup (F E C M : Type) where
  params : Params F
  state : StateManager
  estimator : E
  controller : C
  mixer : M
  nowUs : Nat

namespace SimulatorSetup

open VeloxityFfiHandle

variable (setup : SimulatorSetup F E C M)

omit [Mixer F R O M] in
/-- Before anything has run nothing was handed over and nothing taken. -/
theorem create_follows : (create setup.params setup.state setup.estimator setup.controller
    setup.mixer setup.nowUs : VeloxityFfiHandle F R E C M).Follows .empty where
  -- All numbers are zero and every slot is empty.
  offered := rfl
  taken := rfl
  latest := rfl
  pendingGeneration := rfl
  processed := Nat.le_refl _
  consumed _ := rfl
  waiting _ := rfl
  carries := rfl
  copied _ _ same := by cases same

/-- The simulation after some steps of the two threads. -/
def after (steps : List (SimulatorStep F R)) : VeloxityFfiHandle F R E C M :=
  run step (create setup.params setup.state setup.estimator setup.controller setup.mixer
    setup.nowUs) steps

/-- A simulation goes on from the state it has reached. -/
theorem after_append (first second : List (SimulatorStep F R)) :
    setup.after (first ++ second) = run step (setup.after first) second := run_append _ _

/-- The numbers count in every run. -/
theorem sound_after (steps : List (SimulatorStep F R)) : (setup.after steps).Sound := by
  have preserved : ∀ (handle : VeloxityFfiHandle F R E C M) input, handle.Sound →
      (handle.step input).Sound := fun _ input sound => sound.step input
  exact run_invariant preserved (fun _ => ⟨.empty, setup.create_follows⟩) steps

/-- In every run what is published came from an earlier state. -/
theorem shows_after (steps : List (SimulatorStep F R)) :
    ∃ before rest, steps = before ++ rest ∧ (setup.after before).Shows (setup.after steps) := by
  have preserved : ∀ (handle : VeloxityFfiHandle F R E C M) input, handle.Sound →
      (handle.step input).Sound := fun _ input sound => sound.step input
  have kept : ∀ (earlier handle : VeloxityFfiHandle F R E C M) input, handle.Sound →
      earlier.Shows handle →
      earlier.Shows (handle.step input) ∨ handle.Shows (handle.step input) :=
    fun _ _ input sound shows' => shows'.step sound input
  -- The state that a simulation is created in shows its own outputs.
  exact run_remembers preserved kept (fun _ => ⟨.empty, setup.create_follows⟩)
    (fun _ => ⟨rfl, rfl, UInt64.le_refl _⟩) steps

/-- No more samples were handed over in a part of a run than in the whole. -/
theorem handedOver_le {steps : List (SimulatorStep F R)} {before rest : List (SimulatorStep F R)}
    (split : steps = before ++ rest) :
    (setup.after before).handedOver.length ≤ (setup.after steps).handedOver.length := by
  rw [split, after_append, handedOver_run, List.length_append]
  exact Nat.le_add_right _ _

/-- Once the simulator has been told that it is synchronised, the outputs it reads, then and later,
are those of a firmware that has run on the sample that was the newest when it asked, or on a newer
one. -/
theorem run_synchronised (before waiting later : List (SimulatorStep F R))
    (some : (setup.after before).handedOver ≠ [])
    (few : (setup.after (before ++ waiting ++ later)).handedOver.length < 2 ^ 64)
    (synchronised :
      simSyncLatestImu (setup.after before) (setup.after (before ++ waiting)) = true) :
    ∃ middle rest number, before ++ waiting ++ later = middle ++ rest ∧
      (setup.after before).handedOver.length ≤ number ∧
      number ≤ (setup.after middle).handedOver.length ∧
      (setup.after middle).ranOn.getLast? = (setup.after middle).handedOver[number - 1]? ∧
      ∀ outputLen, (setup.after (before ++ waiting ++ later)).simGetPwm outputLen =
        (setup.after middle).world.pwm.outputs.toList.take outputLen := by
  obtain ⟨middle, rest, split, shown⟩ := setup.shows_after (before ++ waiting ++ later)
  obtain ⟨running, outputs, number⟩ := shown few
  -- The number asked for is that of the newest sample handed over by then.
  have asked : (setup.after before).sensors.latestImuGeneration.toNat =
      (setup.after before).handedOver.length := by
    have fewer := setup.handedOver_le (List.append_assoc before waiting later)
    obtain ⟨handoff, follows⟩ := setup.sound_after before (Nat.lt_of_le_of_lt fewer few)
    rw [follows.latest, follows.offered]
  have positive := List.length_pos_of_ne_nil some
  have numbered : (setup.after before).sensors.latestImuGeneration ≠ 0 := by
    intro zero
    rw [zero] at asked
    simp only [UInt64.toNat_zero] at asked
    omega
  have reached : (setup.after before).sensors.latestImuGeneration.toNat ≤
      (setup.after (before ++ waiting)).progress.processedImuGeneration.toNat := by
    simp only [simSyncLatestImu, numbered, if_false, waitForImuGeneration, Bool.and_eq_true,
      decide_eq_true_eq] at synchronised
    exact UInt64.le_iff_toNat_le.mp synchronised.2
  -- What is published later has no lower number.
  have kept := processed_run (setup.after (before ++ waiting)) later
  rw [← after_append] at kept
  obtain ⟨handoff, follows⟩ := setup.sound_after middle
    (Nat.lt_of_le_of_lt (setup.handedOver_le split) few)
  have consumed := follows.consumed running
  rw [UInt64.le_iff_toNat_le, consumed] at number
  have newest := handoff.newest_taken (by omega)
  rw [← List.getLast?_map, follows.taken, follows.offered] at newest
  refine ⟨middle, rest, handoff.last, split, by omega, ?_, newest, fun outputLen => ?_⟩
  · rw [← follows.offered]
    exact handoff.last_le
  · rw [simGetPwm, outputs]

/-- A simulation of a vehicle that asks its outputs for nothing. -/
def idle : SimulatorSetup ℚ (IdleEstimator ℚ ℚ) (IdleController ℚ ℚ) (MatrixMixer ℚ ℚ) where
  params := Params.new
  state := .new
  estimator := .mk
  controller := .mk
  mixer := .new Params.new
  nowUs := 0

/-- A simulator that has waited for a round on its sample, and has handed over another one since,
reads the outputs of a firmware that has run on the first one or on both. -/
theorem run_synchronised_idle :
    let before : List (SimulatorStep ℚ ℚ) := [.setSensors (imuSnapshot 10)]
    let waiting : List (SimulatorStep ℚ ℚ) := imuRound 20
    let later : List (SimulatorStep ℚ ℚ) := [.setSensors (imuSnapshot 30), .loadShutdown]
    ∃ middle rest number, before ++ waiting ++ later = middle ++ rest ∧
      (idle.after before).handedOver.length ≤ number ∧
      number ≤ (idle.after middle).handedOver.length ∧
      (idle.after middle).ranOn.getLast? = (idle.after middle).handedOver[number - 1]? ∧
      ∀ outputLen, (idle.after (before ++ waiting ++ later)).simGetPwm outputLen =
        (idle.after middle).world.pwm.outputs.toList.take outputLen :=
  idle.run_synchronised [.setSensors (imuSnapshot 10)] (imuRound 20)
    [.setSensors (imuSnapshot 30), .loadShutdown] (by decide +kernel) (by decide +kernel)
    (by decide +kernel)

/-- The simulator hands over an inertial sample only once the firmware has published what came of
the last one. -/
def InStep (handle : VeloxityFfiHandle F R E C M) (input : SimulatorStep F R) : Prop :=
  handsOver input ≠ [] →
    handle.sensors.latestImuGeneration ≤ handle.progress.processedImuGeneration

instance (handle : VeloxityFfiHandle F R E C M) (input : SimulatorStep F R) :
    Decidable (InStep handle input) := inferInstanceAs (Decidable (_ → _))

/-- Before the numbers come round no sample is missing but perhaps the newest one. -/
def Lockstep (handle : VeloxityFfiHandle F R E C M) : Prop :=
  handle.handedOver.length < 2 ^ 64 → ∃ handoff, handle.Follows handoff ∧ handoff.Gapless

/-- A step that keeps in step leaves no gap. -/
theorem Lockstep.step {handle : VeloxityFfiHandle F R E C M} (lockstep : Lockstep handle)
    {input : SimulatorStep F R} (inStep : InStep handle input) : Lockstep (handle.step input) := by
  intro few
  have fewer : handle.handedOver.length < 2 ^ 64 := by
    rw [handedOver_step, List.length_append] at few
    omega
  obtain ⟨handoff, follows, gapless⟩ := lockstep fewer
  obtain ⟨next, onward, rfl | rfl | ⟨snapshot, imu, rfl, comes, rfl⟩⟩ := follows.step input few
  · exact ⟨_, onward, gapless⟩
  · exact ⟨_, onward, gapless.take.gapless⟩
  · -- The last sample was taken, since its number is published.
    have published := UInt64.le_iff_toNat_le.mp (inStep (by simp [handsOver, comes]))
    have taken := follows.processed
    rw [follows.latest] at published
    exact ⟨_, onward, (gapless.complete (published.trans taken)).offer imu⟩

/-- A run that keeps in step leaves no gap. -/
theorem lockstep_after {steps : List (SimulatorStep F R)}
    (inStep : Along InStep step (setup.after []) steps) : Lockstep (setup.after steps) := by
  -- A worker that has done nothing is in step, and each step in step keeps it so.
  have start : Lockstep (setup.after [] : VeloxityFfiHandle F R E C M) :=
    fun _ => ⟨.empty, setup.create_follows, Handoff.complete_empty.gapless⟩
  have preserved : ∀ (handle : VeloxityFfiHandle F R E C M) input, Lockstep handle →
      InStep handle input → Lockstep (handle.step input) :=
    fun _ _ lockstep inStep => lockstep.step inStep
  exact run_invariant_along preserved start inStep

omit [FlightFloat F] [FlightFloat R] [FloatCast F R] [CastU16 R] [ReflectionFormat F] in
/-- Where all samples were taken the firmware has run on all those handed over. -/
theorem ranOn_of_complete {handle : VeloxityFfiHandle F R E C M}
    {handoff : Handoff (VeloxityFfiImu F R)} (follows : handle.Follows handoff)
    (complete : handoff.Complete) : handle.ranOn = handle.handedOver := by
  rw [← follows.taken, complete, List.zipIdx_map_fst, follows.offered]

omit [FlightFloat F] [FlightFloat R] [FloatCast F R] [CastU16 R] [ReflectionFormat F] in
/-- Where the simulator is told at once that it is synchronised the newest number is published. -/
theorem published_of_synchronised {handle : VeloxityFfiHandle F R E C M}
    (synchronised : handle.simSyncLatestImu handle = true) :
    handle.sensors.latestImuGeneration.toNat ≤
      handle.progress.processedImuGeneration.toNat := by
  -- A number of zero is always published.
  by_cases none : handle.sensors.latestImuGeneration = 0
  · rw [none]
    exact Nat.zero_le _
  · simp only [simSyncLatestImu, none, if_false, waitForImuGeneration, Bool.and_eq_true,
      decide_eq_true_eq] at synchronised
    exact UInt64.le_iff_toNat_le.mp synchronised.2

/-- A simulator that keeps in step has its firmware run on every inertial sample, once and in order,
and reads the outputs of a firmware that has run on all of them. -/
theorem run_in_step {steps : List (SimulatorStep F R)}
    (inStep : Along InStep step (setup.after []) steps)
    (few : (setup.after steps).handedOver.length < 2 ^ 64)
    (synchronised : simSyncLatestImu (setup.after steps) (setup.after steps) = true) :
    (setup.after steps).ranOn = (setup.after steps).handedOver ∧
    ∃ middle rest, steps = middle ++ rest ∧
      (setup.after middle).ranOn = (setup.after steps).handedOver ∧
      ∀ outputLen, (setup.after steps).simGetPwm outputLen =
        (setup.after middle).world.pwm.outputs.toList.take outputLen := by
  obtain ⟨last, reached, gapless⟩ := setup.lockstep_after inStep few
  -- What is published has the number of the newest sample.
  have published := published_of_synchronised synchronised
  rw [reached.latest] at published
  refine ⟨ranOn_of_complete reached (gapless.complete (published.trans reached.processed)), ?_⟩
  obtain ⟨middle, rest, split, shown⟩ := setup.shows_after steps
  obtain ⟨running, outputs, number⟩ := shown few
  have within := setup.handedOver_le split
  rw [split] at inStep
  obtain ⟨handoff, follows, gapless⟩ := setup.lockstep_after ((along_append _ _).mp inStep).1
    (Nat.lt_of_le_of_lt within few)
  -- So the earlier state had taken as many samples as were ever handed over.
  have taken := UInt64.le_iff_toNat_le.mp number
  rw [follows.consumed running] at taken
  have bound := handoff.last_le
  rw [reached.offered] at published
  have offered := congrArg List.length follows.offered
  have all : (setup.after middle).handedOver = (setup.after steps).handedOver := by
    have grown := handedOver_run (setup.after middle) rest
    rw [← after_append, ← split] at grown
    have more := congrArg List.length grown
    rw [List.length_append] at more
    have none : rest.flatMap handsOver = [] := List.eq_nil_of_length_eq_zero (by omega)
    rw [grown, none, List.append_nil]
  refine ⟨middle, rest, split, ?_, fun outputLen => by rw [simGetPwm, outputs]⟩
  rw [← all]
  exact ranOn_of_complete follows (gapless.complete (by omega))

/-- A simulator that waits for a round on each of two samples has its firmware run on both. -/
theorem run_in_step_idle :
    let steps : List (SimulatorStep ℚ ℚ) := .setSensors (imuSnapshot 10) :: imuRound 20 ++
      .setSensors (imuSnapshot 30) :: imuRound 40
    (idle.after steps).ranOn = (idle.after steps).handedOver ∧
    ∃ middle rest, steps = middle ++ rest ∧
      (idle.after middle).ranOn = (idle.after steps).handedOver ∧
      ∀ outputLen, (idle.after steps).simGetPwm outputLen =
        (idle.after middle).world.pwm.outputs.toList.take outputLen :=
  idle.run_in_step (by decide +kernel) (by decide +kernel) (by decide +kernel)

end SimulatorSetup

end Veloxity
