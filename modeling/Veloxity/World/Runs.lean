import Veloxity.Library.Run
import Veloxity.World.Evolution

/-! Interleavings of the stages that both schedulers run. -/

namespace Veloxity

open StateManager (Evolves ErrorEvent PilotEvent)

/-- One stage of either scheduler with what the board gives it. -/
inductive Stage (F R : Type) where
  | communication (input : CommStageInput F)
  | sensors (input : SensorStageInput F R) (log : Option StatustextMsg)
  | serviceSensors (input : SensorStageInput F R)
  | imuTick (input : ImuTickInput F R)
  | controlUpdate (nowUs finishedUs : Nat)
  | rcCommand (nowMs : Nat) (freshRc : Option (RcPacket F))
  | control
  | telemetry (nowUs : Nat)
  | realtimeTelemetry (nowUs : Nat)
  | responses (log : Option StatustextMsg) (maxResponses : Nat)
  | controlRate (controlHz nowUs : Nat)
  | serviceOpportunity (nextUs : Nat)

namespace World

variable {F R S O E C M D : Type}
variable [FlightFloat F] [FlightFloat R] [FloatCast F R] [ReflectionFormat F] [Estimator F R S E]
  [Controller F R S O C] [Mixer F R O M] [PwmDriver R D]

/-- Run one stage. -/
def stage (world : World F R E C M D) : Stage F R → World F R E C M D
  | .communication input => world.runCommunicationAndParameterServiceStage input
  | .sensors input log => world.runSensorIngestionAndHealthStage input log
  | .serviceSensors input => world.runServiceSensorStage input
  | .imuTick input => world.runImuControlTick input
  | .controlUpdate nowUs finishedUs => world.runControlUpdateTick nowUs finishedUs
  | .rcCommand nowMs freshRc => world.runRcCommandStateStages nowMs freshRc
  | .control => world.runControlAndMixingStageIfNewImu.1
  | .telemetry nowUs => world.runTelemetryStage nowUs
  | .realtimeTelemetry nowUs => (world.sendRealtimeTelemetryStream nowUs).1
  | .responses log maxResponses => world.drainLogsAndSendResponsesLimited log maxResponses
  | .controlRate controlHz nowUs => world.setControlLoopRates controlHz nowUs
  | .serviceOpportunity nextUs => { world with nextRealtimeServiceUs := nextUs }

/-- Some interleaving of stages leads from one world to another. -/
def Interleaves (before after : World F R E C M D) : Prop :=
  ∃ stages, Library.run stage before stages = after

namespace Interleaves

variable {before middle after : World F R E C M D}

/-- No stage has run. -/
theorem refl : Interleaves before before := ⟨[], rfl⟩

/-- One stage has run. -/
theorem single (next : Stage F R) : Interleaves before (before.stage next) := ⟨[next], rfl⟩

/-- One interleaving after another. -/
theorem trans (first : Interleaves before middle) (second : Interleaves middle after) :
    Interleaves before after := by
  -- The stages follow each other.
  obtain ⟨earlier, rfl⟩ := first
  obtain ⟨later, rfl⟩ := second
  exact ⟨earlier ++ later, Library.run_append earlier later⟩

/-- A guarded stage runs or is skipped. -/
theorem guarded {asked : Prop} [Decidable asked] (taken : asked → Interleaves before after) :
    Interleaves before (if asked then after else before) := by
  -- A skipped stage is an empty interleaving.
  split
  · rename_i asks
    exact taken asks
  · exact refl

end Interleaves

/-- A whole pass runs its five stages in order. -/
theorem interleaves_runOnce (world : World F R E C M D) (input : PassInput F R) :
    Interleaves world (world.runOnce input) := by
  -- The radio-control stage takes the sample the sensor stage has left.
  have served : Interleaves world (world.stage (.communication input.communication)) := .single _
  have sensed := served.trans (.single (.sensors input.sensors input.log))
  have resolved := sensed.trans (.single (.rcCommand input.rcMs
    ((world.stage (.communication input.communication)).stage
      (.sensors input.sensors input.log)).processedSensors.rc))
  exact (resolved.trans (.single .control)).trans (.single (.telemetry input.telemetryUs))

/-- Sending streams within a budget interleaves single streams. -/
theorem interleaves_runRealtimeTelemetryStageBudgeted (budget : Nat)
    (readings : List (SlackReading × Nat)) (world : World F R E C M D) :
    Interleaves world (runRealtimeTelemetryStageBudgeted budget readings world).1 := by
  -- Each stream that was sent is one stage.
  induction readings generalizing budget world with
  | nil =>
    cases budget with
    | zero => exact .refl
    | succ budget => exact .refl
  | cons reading rest ih =>
    cases budget with
    | zero => exact .refl
    | succ budget =>
      unfold runRealtimeTelemetryStageBudgeted
      dsimp only
      split
      · exact (Interleaves.single (.realtimeTelemetry reading.2)).trans (ih budget _)
      · exact .single (.realtimeTelemetry reading.2)

/-- Sending streams while there is slack interleaves single streams. -/
theorem interleaves_runRealtimeTelemetryStageWithAvailableSlack
    (readings : List (SlackReading × Nat)) (world : World F R E C M D) :
    Interleaves world (runRealtimeTelemetryStageWithAvailableSlack readings world).1 := by
  -- Each stream that was sent is one stage.
  induction readings generalizing world with
  | nil => exact .refl
  | cons reading rest ih =>
    unfold runRealtimeTelemetryStageWithAvailableSlack
    dsimp only
    split
    · split
      · exact (Interleaves.single (.realtimeTelemetry reading.2)).trans (ih _)
      · exact .single (.realtimeTelemetry reading.2)
    · exact .refl

/-- A step of realtime service interleaves the stages its slack lets through. -/
theorem interleaves_runPrioritizedServiceStep (world : World F R E C M D)
    (policy : RealtimeServicePolicy) (input : ServiceStepInput F R) :
    Interleaves world (world.runPrioritizedServiceStep policy input).1 := by
  have told : Interleaves world (world.serviceTelemetry policy input).1 := by
    unfold serviceTelemetry
    split
    · dsimp only
      split
      · exact interleaves_runRealtimeTelemetryStageWithAvailableSlack _ world
      · exact interleaves_runRealtimeTelemetryStageBudgeted _ _ world
    · exact .refl
  -- Every later part is guarded by its own reading of the slack.
  unfold runPrioritizedServiceStep
  exact (((told.trans (.guarded fun _ => .single (.serviceSensors input.sensors))).trans
    (.guarded fun _ => .single (.communication input.communication))).trans
    (.guarded fun _ => .single (.rcCommand input.rcMs _))).trans
    (.guarded fun _ => .single (.responses input.log REALTIME_SERVICE_RESPONSE_BUDGET))

/-- A service opportunity interleaves the stages of its steps. -/
theorem interleaves_runPrioritizedServiceStepsWithPolicy (world : World F R E C M D)
    (policy : RealtimeServicePolicy) (steps : List (SlackReading × ServiceStepInput F R))
    (finishedUs : Nat) :
    Interleaves world (world.runPrioritizedServiceStepsWithPolicy policy steps finishedUs) := by
  have stepped (world : World F R E C M D) :
      Interleaves world (runPrioritizedServiceSteps policy steps world) := by
    induction steps generalizing world with
    | nil => exact .refl
    | cons step rest ih =>
      have first := interleaves_runPrioritizedServiceStep world policy step.2
      unfold runPrioritizedServiceSteps
      dsimp only
      split
      · split
        · exact first
        · exact first.trans (ih _)
      · exact .refl
  -- The last stage sets the time of the next opportunity.
  exact (stepped world).trans (.single (.serviceOpportunity _))

end World

end Veloxity
