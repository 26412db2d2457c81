import Veloxity.World.Stages

/-! The two schedulers: whole passes, and realtime steps around the inertial interrupt. -/

namespace Veloxity

/-- Control-deadline slack that realtime service must leave. -/
def REALTIME_SERVICE_MIN_CONTROL_SLACK_US : Nat := 200

/-- Responses realtime service sends in one step. -/
def REALTIME_SERVICE_RESPONSE_BUDGET : Nat := 1

/-- What the board gives one whole pass. -/
structure PassInput (F R : Type) where
  communication : CommStageInput F
  sensors : SensorStageInput F R
  log : Option StatustextMsg
  rcMs : Nat
  telemetryUs : Nat

/-- What the board gives one inertial tick. -/
structure ImuTickInput (F R : Type) where
  nowUs : Nat
  nowMs : Nat
  raw : RawPacket (ImuPacket F R)
  finishedUs : Nat

/-- The board's answers when realtime service asks whether it can go on. -/
structure SlackReading where
  imuPending : Bool
  nowUs : Nat
  deriving DecidableEq, Repr

/-- What the board gives one step of realtime service, with a reading before each part. -/
structure ServiceStepInput (F R : Type) where
  telemetrySlack : SlackReading
  -- One reading and one clock per stream the slack lets through.
  telemetry : List (SlackReading × Nat)
  sensorSlack : SlackReading
  sensors : SensorStageInput F R
  inputSlack : SlackReading
  serialRxPending : Bool
  communication : CommStageInput F
  rcSlack : SlackReading
  rcMs : Nat
  responseSlack : SlackReading
  log : Option StatustextMsg

/-- How a board wants realtime service paced. -/
structure RealtimeServicePolicy where
  minSpacingUs : Nat
  telemetryStreamsPerPhase : Nat
  continueWhenIdle : Bool
  drainTelemetryWithAvailableSlack : Bool
  deriving DecidableEq, Repr

/-- What the realtime scheduler runs next. -/
inductive RealtimeSchedulerStep where
  | imuControl | controlUpdate | service | idle
  deriving DecidableEq, Repr

/-- What a step of realtime service has done. -/
structure WorldReport where
  hadRx : Bool := false
  hadRawSensor : Bool := false
  hadRawRc : Bool := false
  telemetryDue : Bool := false
  deriving DecidableEq, Repr

namespace World

variable {F R S O E C M D : Type}

section Deadlines

/-- Microseconds between two control updates. -/
def controlIntervalUs (world : World F R E C M D) : Nat := 1000000 / world.controlHz

/-- A fixed-rate control update is due. -/
def controlUpdateDueAt (world : World F R E C M D) (nowUs : Nat) : Bool :=
  world.controlHz ≠ 0 && world.controlIntervalUs ≤ nowUs - world.lastControlUpdateUs

/-- Move the deadline on by whole periods. -/
def consumeControlUpdateDeadline (world : World F R E C M D) (nowUs : Nat) : World F R E C M D :=
  if world.controlHz = 0 then world
  else
    let elapsedIntervals := (nowUs - world.lastControlUpdateUs) / world.controlIntervalUs
    { world with
      lastControlUpdateUs := saturatingAddU64 world.lastControlUpdateUs
        (saturatingMulU64 elapsedIntervals world.controlIntervalUs) }

/-- A control update is due and has samples to run on. -/
def controlUpdateCanRunAt (world : World F R E C M D) (nowUs : Nat) : Bool :=
  world.controlUpdateDueAt nowUs && world.controlImuAccumulator.hasSamples

/-- Service would not run into the next control update. -/
def realtimeServiceHasControlSlack (world : World F R E C M D) (nowUs : Nat) : Bool :=
  if world.controlHz = 0 then true
  else if !world.controlImuAccumulator.hasSamples then true
  else
    let requiredUs :=
      (nowUs - world.lastControlUpdateUs) + REALTIME_SERVICE_MIN_CONTROL_SLACK_US
    requiredUs < longWordSize && requiredUs < world.controlIntervalUs

/-- Service may go on to its next part. -/
def realtimeServiceCanContinue (world : World F R E C M D) (reading : SlackReading) : Bool :=
  !reading.imuPending && !world.controlUpdateCanRunAt reading.nowUs &&
    world.realtimeServiceHasControlSlack reading.nowUs

/-- What the realtime scheduler runs next. -/
def realtimeSchedulerStep (world : World F R E C M D) (reading : SlackReading) :
    RealtimeSchedulerStep :=
  if reading.imuPending then .imuControl
  else if world.controlUpdateCanRunAt reading.nowUs then .controlUpdate
  else if world.nextRealtimeServiceUs ≤ reading.nowUs ∧
      world.realtimeServiceHasControlSlack reading.nowUs then .service
  else .idle

/-- Choose the control rate, where zero runs control on every sample. -/
def setControlLoopRates (world : World F R E C M D) (controlHz nowUs : Nat) : World F R E C M D :=
  { world with controlHz, lastControlUpdateUs := nowUs }

/-- Sum the processed sample, if there is one. -/
def recordControlImuCandidate [FlightFloat F] [FlightFloat R] (world : World F R E C M D) :
    World F R E C M D :=
  match world.processedSensors.imu with
  | some imu => { world with controlImuAccumulator := world.controlImuAccumulator.push imu }
  | none => world

/-- Remember when control last ran. -/
def noteControl (ran : World F R E C M D × Bool) (finishedUs : Nat) : World F R E C M D :=
  if ran.2 then { ran.1 with lastRealtimeControlUs := finishedUs } else ran.1

end Deadlines

section Telemetry

/-- The telemetry stage of a full pass. -/
def runTelemetryStage (world : World F R E C M D) (nowUs : Nat) : World F R E C M D :=
  if !world.comm.telemetry.namedTelemetryDue nowUs world.processedSensors then world
  else
    { world with comm := { world.comm with
      telemetry := world.comm.telemetry.sendNamedTelemetryStreams nowUs world.processedSensors } }

/-- Send the most urgent due stream. -/
def sendRealtimeTelemetryStream (world : World F R E C M D) (nowUs : Nat) :
    World F R E C M D × Bool :=
  let sent := world.comm.telemetry.sendOneNamedTelemetryStream nowUs world.processedSensors
  ({ world with comm := { world.comm with telemetry := sent.1 } }, sent.2)

/-- Send due streams at the given times, at most as many as allowed. -/
def runRealtimeTelemetryStageBudgeted : Nat → List (SlackReading × Nat) → World F R E C M D →
    World F R E C M D × Nat
  | budget + 1, (_, nowUs) :: rest, world =>
    let sent := world.sendRealtimeTelemetryStream nowUs
    if sent.2 then
      let more := runRealtimeTelemetryStageBudgeted budget rest sent.1
      (more.1, more.2 + 1)
    else (sent.1, 0)
  | _, _, world => (world, 0)

/-- Send due streams for as long as the control deadline leaves slack. -/
def runRealtimeTelemetryStageWithAvailableSlack : List (SlackReading × Nat) →
    World F R E C M D → World F R E C M D × Nat
  | [], world => (world, 0)
  | (reading, nowUs) :: rest, world =>
    if world.realtimeServiceCanContinue reading then
      let sent := world.sendRealtimeTelemetryStream nowUs
      if sent.2 then
        let more := runRealtimeTelemetryStageWithAvailableSlack rest sent.1
        (more.1, more.2 + 1)
      else (sent.1, 0)
    else (world, 0)

end Telemetry

variable [FlightFloat F] [FlightFloat R] [FloatCast F R] [ReflectionFormat F] [Estimator F R S E]
  [Controller F R S O C] [Mixer F R O M] [PwmDriver R D]

/-- One whole pass. -/
def runOnce (world : World F R E C M D) (input : PassInput F R) : World F R E C M D :=
  let served := world.runCommunicationAndParameterServiceStage input.communication
  let sensed := served.runSensorIngestionAndHealthStage input.sensors input.log
  let resolved := sensed.runRcCommandStateStages input.rcMs sensed.processedSensors.rc
  resolved.runControlAndMixingStageIfNewImu.1.runTelemetryStage input.telemetryUs

omit [ReflectionFormat F] in
/-- Run the control stage when its rate, or its sample, asks for it. -/
def runControlAndMixingStageIfControlDue (world : World F R E C M D) (nowUs : Nat) :
    World F R E C M D × Bool :=
  if world.controlHz ≠ 0 then
    if !world.controlUpdateCanRunAt nowUs then (world, false)
    else (world.consumeControlUpdateDeadline nowUs).runControlAndMixingStageWithAccumulatedImu
  else if world.processedSensors.imu.isNone then (world, false)
  else world.runControlAndMixingStageIfNewImu

omit [ReflectionFormat F] in
/-- The realtime scheduler's answer to an inertial sample. -/
def runImuControlTick (world : World F R E C M D) (input : ImuTickInput F R) :
    World F R E C M D :=
  let processed := (world.processImuSensorAfterUpdate input.raw).recordControlImuCandidate
  let settled := processed.updateSensorHealthAndCalibration input.nowUs
  noteControl (settled.runControlAndMixingStageIfControlDue input.nowUs) input.finishedUs

omit [ReflectionFormat F] in
/-- The realtime scheduler's fixed-rate control update. -/
def runControlUpdateTick (world : World F R E C M D) (nowUs finishedUs : Nat) :
    World F R E C M D :=
  noteControl (world.runControlAndMixingStageIfControlDue nowUs) finishedUs

omit [FlightFloat F] [FlightFloat R] [FloatCast F R] [ReflectionFormat F] [Estimator F R S E]
  [Controller F R S O C] [Mixer F R O M] [PwmDriver R D] in
/-- The telemetry part of a service step, reporting whether anything was sent. -/
def serviceTelemetry (world : World F R E C M D) (policy : RealtimeServicePolicy)
    (input : ServiceStepInput F R) : World F R E C M D × Bool :=
  if world.realtimeServiceCanContinue input.telemetrySlack then
    let sent :=
      if policy.drainTelemetryWithAvailableSlack then
        world.runRealtimeTelemetryStageWithAvailableSlack input.telemetry
      else world.runRealtimeTelemetryStageBudgeted policy.telemetryStreamsPerPhase input.telemetry
    (sent.1, sent.2 != 0)
  else (world, false)

/-- One step of realtime service, whose parts run only while there is slack. -/
def runPrioritizedServiceStep (world : World F R E C M D) (policy : RealtimeServicePolicy)
    (input : ServiceStepInput F R) : World F R E C M D × WorldReport :=
  let told := world.serviceTelemetry policy input
  let sensing := told.1.realtimeServiceCanContinue input.sensorSlack
  let sensed := if sensing then told.1.runServiceSensorStage input.sensors else told.1
  let hadRawRc := sensing && input.sensors.raw.rc.isSome
  let serving := sensed.realtimeServiceCanContinue input.inputSlack
  let served :=
    if serving then sensed.runCommunicationAndParameterServiceStage input.communication
    else sensed
  let resolved :=
    if served.realtimeServiceCanContinue input.rcSlack then
      -- A retained sample is not fresh.
      served.runRcCommandStateStages input.rcMs
        (if hadRawRc then served.processedSensors.rc else none)
    else served
  let answered :=
    if resolved.realtimeServiceCanContinue input.responseSlack then
      resolved.drainLogsAndSendResponsesLimited input.log REALTIME_SERVICE_RESPONSE_BUDGET
    else resolved
  let raw := input.sensors.raw
  (answered,
    { hadRx := serving && input.serialRxPending
      hadRawSensor := sensing &&
        (raw.imu.isSome || raw.mag.isSome || raw.baro.isSome || raw.pitot.isSome ||
          raw.range.isSome || raw.gnss.isSome || raw.battery.isSome || raw.rc.isSome ||
          raw.attitude.isSome)
      hadRawRc, telemetryDue := told.2 })

/-- Steps of realtime service until the slack, the policy or the work runs out. -/
def runPrioritizedServiceSteps (policy : RealtimeServicePolicy) :
    List (SlackReading × ServiceStepInput F R) → World F R E C M D → World F R E C M D
  | [], world => world
  | (reading, input) :: rest, world =>
    if world.realtimeServiceCanContinue reading then
      let stepped := world.runPrioritizedServiceStep policy input
      let active := stepped.2.hadRx || stepped.2.hadRawSensor || stepped.2.telemetryDue
      if policy.minSpacingUs ≠ 0 ∨ (active = false ∧ policy.continueWhenIdle = false) then stepped.1
      else runPrioritizedServiceSteps policy rest stepped.1
    else world

/-- A service opportunity, which sets the time of the next one. -/
def runPrioritizedServiceStepsWithPolicy (world : World F R E C M D)
    (policy : RealtimeServicePolicy) (steps : List (SlackReading × ServiceStepInput F R))
    (finishedUs : Nat) : World F R E C M D :=
  { runPrioritizedServiceSteps policy steps world with
    nextRealtimeServiceUs := saturatingAddU64 finishedUs policy.minSpacingUs }

end World

end Veloxity
