import Veloxity.Sim.Synchronised

/-! One round of the firmware's loop is all that a synchronised simulator has to wait for. -/

namespace Veloxity

open Library

variable {F R S O E C M : Type} [FlightFloat F] [FlightFloat R] [FloatCast F R] [CastU16 R]
  [ReflectionFormat F] [Estimator F R S E] [Controller F R S O C] [Mixer F R O M]

namespace VeloxityFfiHandle

/-- In the round it is in, the firmware's thread has published a number or is about to: what it
has found out since it last asked the scheduler is not older. -/
def Brings (target : Nat) (handle : VeloxityFfiHandle F R E C M) : Prop :=
  match handle.worker with
  | .choosing | .imuControl | .panicked | .failed | .stopped => True
  | .ticked => target ≤ handle.sensors.consumedImuGeneration.toNat
  | .ran (some generation) | .copied (some generation) _ => target ≤ generation.toNat
  | _ => target ≤ handle.progress.processedImuGeneration.toNat

variable {handle : VeloxityFfiHandle F R E C M} {handoff : Handoff (VeloxityFfiImu F R)}
  {target : Nat}

/-- A step brings the number of a sample that has been handed over nearer to being published. -/
theorem Brings.step (brings : handle.Brings target) (follows : handle.Follows handoff)
    (known : target ≤ handle.handedOver.length) (input : SimulatorStep F R) :
    (handle.step input).Brings target := by
  have carries := follows.carries
  rw [← follows.offered] at known
  have happened := handle.happens input
  generalize handle.step input = after at happened
  -- What the thread has found out depends on where it is.
  have found : ∀ {position : WorkerPosition}, handle.worker = position →
      { handle with worker := position : VeloxityFfiHandle F R E C M }.Brings target :=
    fun same => same ▸ brings
  cases happened with
  | nothing | destroy => exact brings
  | @setSensors snapshot =>
    have consumed := (SharedSensors.generations_merge handle.sensors snapshot).2.2
    simp only [Brings, consumed] at brings ⊢
    exact brings
  | loadShutdown position =>
    cases handle.shutdown with
    | true => trivial
    | false => trivial
  | chooseImuControl | reportFailure | stopAfterFailure | panic => trivial
  | choose position taken chosen =>
    rw [position] at carries
    have running : handle.worker.isRunning := position ▸ rfl
    -- No sample waits, so that the newest one was taken and its number published.
    have newest : handoff.offered.length ≤ handoff.last := by
      by_contra waits
      rw [(follows.pending_iff running).mpr (Nat.not_le.mp waits)] at taken
      cases taken
    have published : handle.progress.processedImuGeneration.toNat = handoff.last := carries
    have reached : target ≤ handle.progress.processedImuGeneration.toNat := by omega
    rcases chosen with rfl | rfl | rfl <;> exact reached
  | runImuControlTick position =>
    rw [position] at carries
    have running : handle.worker.isRunning := position ▸ rfl
    obtain ⟨imu, sample, -⟩ := follows.takes running carries
    simp only [Brings, FfiBoard.updateImuSensor, sample]
    rw [follows.pendingGeneration, follows.latest]
    exact known
  | readConsumedGeneration position | runControlUpdateTick position | endService position
  | finishService position =>
    have kept := found position
    exact kept
  | @serve reading input position =>
    obtain ⟨-, progress, worker, -, -⟩ := serve_keeps handle input
    have kept : target ≤ handle.progress.processedImuGeneration.toNat := found position
    simpa only [Brings, worker, position, progress] using kept
  | @copyOutputs processed position =>
    have kept := found position
    cases processed <;> exact kept
  | @publish processed pwmOutputs position generation number =>
    have kept := found position
    show target ≤ generation.toNat
    subst number
    cases processed with
    | none => exact kept
    | some generation =>
      -- The number published is at least the one that was looked up.
      have looked : target ≤ generation.toNat := kept
      rw [Option.elim_some, UInt64.toNat_max]
      omega

/-- The number of a sample that has been handed over comes nearer to being published, before the
numbers come round. -/
structure Nearing (target : Nat) (handle : VeloxityFfiHandle F R E C M) : Prop where
  sound : handle.Sound
  known : target ≤ handle.handedOver.length
  brings : handle.handedOver.length < 2 ^ 64 → handle.Brings target

/-- Every step goes on bringing the number nearer. -/
theorem Nearing.step (nearing : handle.Nearing target) (input : SimulatorStep F R) :
    (handle.step input).Nearing target := by
  -- The samples handed over only grow, so the target stays known.
  have grown := congrArg List.length (handedOver_step handle input)
  rw [List.length_append] at grown
  refine ⟨nearing.sound.step input, ?_, fun few => ?_⟩
  · have known := nearing.known
    omega
  · have fewer : handle.handedOver.length < 2 ^ 64 := by omega
    obtain ⟨handoff, follows⟩ := nearing.sound fewer
    exact (nearing.brings fewer).step follows nearing.known input

end VeloxityFfiHandle

namespace SimulatorSetup

open VeloxityFfiHandle

variable (setup : SimulatorSetup F E C M)

/-- A simulator that waits for its firmware is told that it is synchronised at the latest when the
firmware has been round its loop once since the simulator asked, whatever else is handed over. -/
theorem run_round (before waiting round : List (SimulatorStep F R))
    (top : (setup.after (before ++ waiting)).worker = .top)
    (back : (setup.after (before ++ waiting ++ .loadShutdown :: round)).worker = .top)
    (healthy :
      (setup.after (before ++ waiting ++ .loadShutdown :: round)).progress.workerFailed = false)
    (goesOn : (setup.after (before ++ waiting ++ .loadShutdown :: round)).shutdown = false)
    (few : (setup.after (before ++ waiting ++ .loadShutdown :: round)).handedOver.length <
      2 ^ 64) :
    simSyncLatestImu (setup.after before)
      (setup.after (before ++ waiting ++ .loadShutdown :: round)) = true := by
  -- The round starts with nothing found out yet.
  have started : Brings (setup.after before).handedOver.length
      ((setup.after (before ++ waiting)).step .loadShutdown) := by
    simp only [Brings, VeloxityFfiHandle.step, top]
    cases (setup.after (before ++ waiting)).shutdown <;> trivial
  have start : Nearing (setup.after before).handedOver.length
      ((setup.after (before ++ waiting)).step .loadShutdown) := by
    refine ⟨(setup.sound_after _).step _, ?_, fun _ => started⟩
    rw [handedOver_step, List.length_append]
    exact (setup.handedOver_le rfl).trans (Nat.le_add_right _ _)
  have preserved : ∀ (handle : VeloxityFfiHandle F R E C M) input,
      handle.Nearing (setup.after before).handedOver.length →
      (handle.step input).Nearing (setup.after before).handedOver.length :=
    fun _ input nearing => nearing.step input
  have arrived := run_invariant preserved start round
  rw [← run_cons, ← after_append] at arrived
  -- It ends with the number published.
  have published := arrived.brings few
  simp only [Brings, back] at published
  obtain ⟨handoff, follows⟩ := setup.sound_after before (by
    have fewer := setup.handedOver_le
      (List.append_assoc before waiting (SimulatorStep.loadShutdown :: round))
    omega)
  simp only [simSyncLatestImu]
  split
  · rfl
  · simp only [waitForImuGeneration, healthy, goesOn, Bool.not_false, Bool.true_and,
      decide_eq_true_eq]
    rw [UInt64.le_iff_toNat_le, follows.latest, follows.offered]
    exact published

/-- A simulator that hands over a second sample while it waits is answered after one round. -/
theorem run_round_idle :
    simSyncLatestImu (idle.after [.setSensors (imuSnapshot 10)])
      (idle.after ([.setSensors (imuSnapshot 10)] ++ [.setSensors (imuSnapshot 15)] ++
        .loadShutdown :: (imuRound 20).tail)) = true :=
  idle.run_round [.setSensors (imuSnapshot 10)] [.setSensors (imuSnapshot 15)] (imuRound 20).tail
    (by decide +kernel) (by decide +kernel) (by decide +kernel) (by decide +kernel)
    (by decide +kernel)

end SimulatorSetup

end Veloxity
