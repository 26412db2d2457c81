import Veloxity.Sim.FfiPwmDriver
import Veloxity.Sim.FfiSensors
import Veloxity.World.Bench
import Veloxity.World.RealtimeRuns

/-! The firmware of the simulator, which runs in a thread that the simulator waits for. -/

namespace Veloxity

/-- Rate of control updates in the simulator. -/
def SIM_CONTROL_LOOP_HZ : Nat := 400

/-- Telemetry streams that a service phase sends in the simulator. -/
def SIM_TELEMETRY_STREAMS_PER_SERVICE_PHASE : Nat := 2

/-- Service that goes on for as long as the control deadline leaves slack. -/
def RealtimeServicePolicy.continuousPolling (telemetryStreamsPerPhase : Nat) :
    RealtimeServicePolicy where
  minSpacingUs := 0
  telemetryStreamsPerPhase
  continueWhenIdle := true
  drainTelemetryWithAvailableSlack := false

/-- What the firmware's thread lets the simulator see. -/
structure FirmwareProgress where
  processedImuGeneration : UInt64
  pwmOutputs : Vector UInt16 NUM_PWM_CHANNELS
  workerFailed : Bool
  deriving DecidableEq

/-- Before anything has run the outputs are at rest. -/
def FirmwareProgress.default : FirmwareProgress :=
  ⟨0, Vector.replicate NUM_PWM_CHANNELS 1000, false⟩

/-- Where the firmware's thread is in its loop. -/
inductive WorkerPosition where
  /-- It is about to see whether it is to stop. -/
  | top
  /-- It is about to ask the scheduler. -/
  | choosing
  | imuControl
  | controlUpdate
  | service
  /-- Its service phase has come to an end. -/
  | served
  /-- It has run on an inertial sample and is about to look up its number. -/
  | ticked
  /-- It is about to copy the outputs. -/
  | ran (processed : Option UInt64)
  /-- It has copied the outputs and is about to publish them. -/
  | copied (processed : Option UInt64) (pwmOutputs : Vector UInt16 NUM_PWM_CHANNELS)
  /-- It has panicked. -/
  | panicked
  /-- It has panicked and said so. -/
  | failed
  | stopped
  deriving DecidableEq

/-- What the two threads share, and what the firmware's thread has to itself, with a record of the
inertial samples handed over and of those it has run on. -/
structure VeloxityFfiHandle (F R E C M : Type) where
  sensors : SharedSensors F R
  progress : FirmwareProgress
  shutdown : Bool
  board : FfiBoard
  world : World F R E C M (FfiPwmDriver R)
  worker : WorkerPosition
  handedOver : List (VeloxityFfiImu F R)
  ranOn : List (VeloxityFfiImu F R)

/-- What happens on one of the two threads. -/
inductive SimulatorStep (F R : Type) where
  /-- The simulator hands over a snapshot. -/
  | setSensors (snapshot : VeloxityFfiSensorSnapshot F R)
  /-- The simulator asks the firmware to stop. -/
  | destroy
  /-- The firmware sees whether it is to stop. -/
  | loadShutdown
  /-- The firmware asks the scheduler what to run. -/
  | realtimeSchedulerStep (nowUs : Nat)
  /-- The firmware takes an inertial sample and runs on it. -/
  | runImuControlTick (nowUs nowMs finishedUs : Nat)
  /-- The firmware looks up the number of the sample it has taken. -/
  | readConsumedGeneration
  /-- The firmware runs a control update. -/
  | runControlUpdateTick (nowUs finishedUs : Nat)
  /-- The firmware sees whether service can go on, and runs a step of it. -/
  | runServiceStep (reading : SlackReading) (input : ServiceStepInput F R)
  /-- The firmware sets the time of the next service. -/
  | finishService (finishedUs : Nat)
  /-- The firmware copies its outputs. -/
  | copyOutputs
  /-- The firmware publishes the outputs it has copied. -/
  | publish
  /-- The firmware panics, perhaps after it has taken an inertial sample. -/
  | panic (tookImu : Bool)
  /-- The panic is caught and reported. -/
  | reportFailure
  /-- The panic has the simulation stop. -/
  | stopAfterFailure

namespace VeloxityFfiHandle

variable {F R S O E C M : Type} [FlightFloat F] [FlightFloat R] [FloatCast F R] [CastU16 R]
  [ReflectionFormat F] [Estimator F R S E] [Controller F R S O C] [Mixer F R O M]

/-- A simulation whose firmware starts from the stored parameters. -/
def create (params : Params F) (state : StateManager) (estimator : E) (controller : C) (mixer : M)
    (nowUs : Nat) : VeloxityFfiHandle F R E C M where
  sensors := .default
  progress := .default
  shutdown := false
  board := .new
  world := (World.init params state estimator controller mixer FfiPwmDriver.new nowUs
    none).setControlLoopRates SIM_CONTROL_LOOP_HZ nowUs
  worker := .top
  handedOver := []
  ranOn := []

/-- How the firmware of the simulator paces its service. -/
def servicePolicy : RealtimeServicePolicy :=
  .continuousPolling SIM_TELEMETRY_STREAMS_PER_SERVICE_PHASE

/-- One step of service, which takes the samples of the sensors if it gets to its sensor stage. -/
def serve (handle : VeloxityFfiHandle F R E C M) (input : ServiceStepInput F R) :
    VeloxityFfiHandle F R E C M :=
  if handle.world.serviceSenses servicePolicy input then
    let (bus, board, sensors) := handle.board.updateServiceSensorBus handle.sensors
    let stepped := handle.world.runPrioritizedServiceStep servicePolicy
      { input with sensors := { input.sensors with raw := bus } }
    { handle with sensors, board, world := stepped.1 }
  else
    { handle with world := (handle.world.runPrioritizedServiceStep servicePolicy input).1 }

/-- What a step of either thread does, where a step of the firmware that is not its next one does
nothing. -/
def step (handle : VeloxityFfiHandle F R E C M) (input : SimulatorStep F R) :
    VeloxityFfiHandle F R E C M :=
  match input, handle.worker with
  | .setSensors snapshot, _ =>
    { handle with
      sensors := handle.sensors.merge snapshot
      handedOver := handle.handedOver ++ snapshot.imu.unread.toList }
  | .destroy, _ => { handle with shutdown := true }
  | .loadShutdown, .top =>
    { handle with worker := if handle.shutdown then .stopped else .choosing }
  | .realtimeSchedulerStep nowUs, .choosing =>
    { handle with worker :=
        match handle.world.realtimeSchedulerStep ⟨handle.sensors.imuPending, nowUs⟩ with
        | .imuControl => .imuControl
        | .controlUpdate => .controlUpdate
        | .service => .service
        | .idle => .top }
  | .runImuControlTick nowUs nowMs finishedUs, .imuControl =>
    let (bus, sensors) := FfiBoard.updateImuSensor handle.sensors
    { handle with
      sensors
      ranOn := handle.ranOn ++ handle.sensors.takeImu.1.toList
      world := handle.world.runImuControlTick { nowUs, nowMs, raw := bus.imu, finishedUs }
      worker := .ticked }
  | .readConsumedGeneration, .ticked =>
    { handle with worker := .ran (some handle.sensors.consumedImuGeneration) }
  | .runControlUpdateTick nowUs finishedUs, .controlUpdate =>
    { handle with
      world := handle.world.runControlUpdateTick nowUs finishedUs
      worker := .ran none }
  | .runServiceStep reading input, .service =>
    -- The polling policy has no spacing and goes on when there was nothing to do.
    if handle.world.realtimeServiceCanContinue reading then handle.serve input
    else { handle with worker := .served }
  | .finishService finishedUs, .served =>
    { handle with
      world := { handle.world with
        nextRealtimeServiceUs := saturatingAddU64 finishedUs servicePolicy.minSpacingUs }
      worker := .ran none }
  | .copyOutputs, .ran processed =>
    { handle with worker := .copied processed handle.world.pwm.outputs }
  | .publish, .copied processed pwmOutputs =>
    { handle with
      progress := { handle.progress with
        pwmOutputs
        processedImuGeneration := match processed with
          | some generation => max handle.progress.processedImuGeneration generation
          | none => handle.progress.processedImuGeneration }
      worker := .top }
  | .panic tookImu, .imuControl =>
    { handle with
      sensors := if tookImu then (FfiBoard.updateImuSensor handle.sensors).2 else handle.sensors
      worker := .panicked }
  | .panic _, .controlUpdate | .panic _, .service | .panic _, .served =>
    { handle with worker := .panicked }
  | .reportFailure, .panicked =>
    { handle with progress := { handle.progress with workerFailed := true }, worker := .failed }
  | .stopAfterFailure, .failed => { handle with shutdown := true, worker := .stopped }
  | _, _ => handle

/-- Whether a wait for a number, if it ends now, finds that it has been reached. -/
def waitForImuGeneration (handle : VeloxityFfiHandle F R E C M) (targetGeneration : UInt64) :
    Bool :=
  !handle.progress.workerFailed && !handle.shutdown &&
    targetGeneration ≤ handle.progress.processedImuGeneration

/-- What the simulator is told when it asks in one state to be synchronised with the firmware and
is answered in another one. -/
def simSyncLatestImu (asked answered : VeloxityFfiHandle F R E C M) : Bool :=
  let targetGeneration := asked.sensors.latestImuGeneration
  if targetGeneration = 0 then true else answered.waitForImuGeneration targetGeneration

/-- The outputs that the simulator is given room for. -/
def simGetPwm (handle : VeloxityFfiHandle F R E C M) (outputLen : Nat) : List UInt16 :=
  handle.progress.pwmOutputs.toList.take outputLen

end VeloxityFfiHandle

/-- A snapshot with nothing but an inertial sample of a vehicle at rest. -/
def imuSnapshot [FlightFloat F] [FlightFloat R] (timestampUs : Nat) :
    VeloxityFfiSensorSnapshot F R :=
  { (VeloxityFfiSensorSnapshot.default : VeloxityFfiSensorSnapshot F R) with
    imu := { has := true, value :=
      { (VeloxityFfiSensorSnapshot.default : VeloxityFfiSensorSnapshot F R).imu.value with
        timestampUs } } }

/-- One round of the firmware's loop on an inertial sample. -/
def imuRound (nowUs : Nat) : List (SimulatorStep F R) :=
  [.loadShutdown, .realtimeSchedulerStep nowUs, .runImuControlTick nowUs 0 nowUs,
    .readConsumedGeneration, .copyOutputs, .publish]

end Veloxity
