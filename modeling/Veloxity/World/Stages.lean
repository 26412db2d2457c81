import Veloxity.Params.Reactions
import Veloxity.World.World

/-! The stages the schedulers run. -/

namespace Veloxity

/-- What the board gives the communication stage. -/
structure CommStageInput (F : Type) where
  incoming : List (IncomingMessage F)
  clock : CommClock
  storage : BoardStorage F
  reactionUs : Nat

/-- What the board gives a sensor stage. -/
structure SensorStageInput (F R : Type) where
  nowUs : Nat
  nowMs : Nat
  raw : SensorBus F R

/-- A window was open and has closed without failing. -/
def windowFinished (request failed : CalibrationFlag) (before after : CalibrationFlags) : Bool :=
  request ∈ before && request ∉ after && failed ∉ after

namespace World

variable {F R S O E C M D : Type}

section Communication

variable [FlightFloat F]

/-- Keep the received messages and act on them. -/
def processCommStage (world : World F R E C M D) (input : CommStageInput F) : World F R E C M D :=
  let comm := world.comm.processIncomingMessages input.incoming
  if !comm.hasPendingMessages then { world with comm }
  else
    let acted := MessageDispatch.actOnMessages
      { comm, paramEvents := world.paramEvents, commEvents := world.commEvents
        commandEvents := world.commandEvents, companionEvents := world.companionEvents }
      input.clock
    { world with
      comm := acted.comm, paramEvents := acted.paramEvents, commEvents := acted.commEvents
      commandEvents := acted.commandEvents, companionEvents := acted.companionEvents }

/-- The companion has sent something, or waits for the report of a hard fault. -/
def hasPendingCompanionWork (world : World F R E C M D) : Bool :=
  !world.companionEvents.isEmpty ||
    (world.companionLink.connected && world.pendingHardError.isSome)

/-- Take in the companion's inputs. -/
def applyCompanionEvents (world : World F R E C M D) : World F R E C M D :=
  let inputs := CompanionInputs.applyCompanionInputs
    { events := world.companionEvents, commEvents := world.commEvents
      link := world.companionLink, auxCommand := world.auxCommand
      externalAttitude := world.externalAttitude, pendingHardError := world.pendingHardError }
  { world with
    companionEvents := inputs.events, commEvents := inputs.commEvents
    companionLink := inputs.link, auxCommand := inputs.auxCommand
    externalAttitude := inputs.externalAttitude, pendingHardError := inputs.pendingHardError }

/-- Serve the companion's commands. -/
def applyCommandEvents [Controller F R S O C] (world : World F R E C M D)
    (storage : BoardStorage F) : World F R E C M D :=
  let service : CommandService F C := CommandService.applyCommandRequests
    { requests := world.commandEvents, paramEvents := world.paramEvents
      commEvents := world.commEvents, command := world.command, controller := world.controller
      flags := world.calFlags, params := world.params, boardCalls := [] }
    world.state storage
  { world with
    commandEvents := service.requests, paramEvents := service.paramEvents
    commEvents := service.commEvents, command := service.command
    controller := service.controller, calFlags := service.flags, params := service.params
    boardCalls := world.boardCalls ++ service.boardCalls }

/-- Parameter requests wait, or a listing is in progress. -/
def hasPendingParamWork (world : World F R E C M D) : Bool :=
  !world.paramEvents.setRequests.isEmpty || !world.paramEvents.readRequests.isEmpty ||
    !world.paramEvents.listRequests.isEmpty || world.paramListState.isActive

/-- Answer the parameter requests. -/
def serviceParamEvents [ReflectionFormat F] (world : World F R E C M D) : World F R E C M D :=
  let service := ParamService.serviceParamEvents
    { params := world.params, listState := world.paramListState
      events := world.paramEvents, comm := world.commEvents }
  { world with
    params := service.params, paramListState := service.listState
    paramEvents := service.events, commEvents := service.comm }

/-- Change a parameter and queue the news. -/
def setParam (world : World F R E C M D) (id : ParamId) (value : ParamValue F) :
    World F R E C M D :=
  let set := setParamAndEmitChange world.params world.paramEvents id value
  { world with params := set.1, paramEvents := set.2 }

/-- Open the gyro window that arming waits for. -/
def requestGyroCalibrationIfNeeded (world : World F R E C M D) : World F R E C M D :=
  if world.state.isCalibrating ∧ .gyro ∉ world.calFlags then
    let zeroed :=
      ((world.setParam .PARAM_GYRO_X_BIAS (.float FlightFloat.zero)).setParam
        .PARAM_GYRO_Y_BIAS (.float FlightFloat.zero)).setParam
        .PARAM_GYRO_Z_BIAS (.float FlightFloat.zero)
    { zeroed with calFlags := insert .gyro (world.calFlags.erase .gyroFailed) }
  else world

/-- Adopt the telemetry rates that have changed. -/
def updateTelemetryRates (world : World F R E C M D) (nowUs : Nat) : World F R E C M D :=
  let telemetry :=
    if world.paramEvents.fullRefresh then
      world.comm.telemetry.configureTelemetryFromParams world.params
    else
      world.paramEvents.changes.items.foldl
        (fun telemetry change => (telemetry.updateTelemetryParam world.params change.id nowUs).1)
        world.comm.telemetry
  { world with comm := { world.comm with telemetry } }

/-- The parts of the world that react to parameters. -/
def reaction (world : World F R E C M D) : ParamReaction F E C M :=
  { rc := world.rc, command := world.command, state := world.state, estimator := world.estimator
    controller := world.controller, mixer := world.mixer, resource := world.controlPipeline }

/-- Set off the reactions to changed parameters. -/
def applyParamReactions [Estimator F R S E] [Controller F R S O C] [Mixer F R O M]
    (world : World F R E C M D) (nowUs : Nat) : World F R E C M D :=
  let world := world.updateTelemetryRates nowUs
  let reacted := world.reaction.applyParamReactions world.params world.paramEvents
  { world with
    rc := reacted.1.rc, command := reacted.1.command, state := reacted.1.state
    estimator := reacted.1.estimator, controller := reacted.1.controller
    mixer := reacted.1.mixer, controlPipeline := reacted.1.resource
    paramEvents := reacted.2 }

/-- Serve everything that was received, up to the parameters. -/
def serveReceived [ReflectionFormat F] [Controller F R S O C] (world : World F R E C M D)
    (input : CommStageInput F) : World F R E C M D :=
  let received := world.processCommStage input
  let informed :=
    if received.hasPendingCompanionWork then received.applyCompanionEvents else received
  let commanded :=
    if !informed.commandEvents.isEmpty then informed.applyCommandEvents input.storage else informed
  if commanded.hasPendingParamWork then commanded.serviceParamEvents else commanded

/-- The communication and parameter stage. -/
def runCommunicationAndParameterServiceStage [ReflectionFormat F] [Estimator F R S E]
    [Controller F R S O C] [Mixer F R O M] (world : World F R E C M D)
    (input : CommStageInput F) : World F R E C M D :=
  let requested := (world.serveReceived input).requestGyroCalibrationIfNeeded
  if requested.paramEvents.fullRefresh || !requested.paramEvents.changes.isEmpty then
    requested.applyParamReactions input.reactionUs
  else requested

end Communication

section Sensors

/-- The parts of the world that sensor processing changes. -/
def ingestion (world : World F R E C M D) : SensorIngestion F R :=
  { processed := world.processedSensors, processors := world.sensorProcessors
    flags := world.calFlags, params := world.params }

/-- Put processed samples back into the world. -/
def adoptIngestion (world : World F R E C M D) (done : SensorIngestion F R) : World F R E C M D :=
  { world with
    processedSensors := done.processed, sensorProcessors := done.processors
    calFlags := done.flags, params := done.params }

/-- Forget the adapted biases once a gyro calibration has finished since the given flags. -/
def finishGyroCalibration [Estimator F R S E] (world : World F R E C M D)
    (before : CalibrationFlags) : World F R E C M D :=
  { world with
    estimator :=
      if windowFinished .gyro .gyroFailed before world.calFlags then
        Estimator.resetAdaptiveBias world.estimator
      else world.estimator }

/-- Start afresh once an accelerometer calibration has finished since the given flags. -/
def finishAccelCalibration [Estimator F R S E] (world : World F R E C M D)
    (before : CalibrationFlags) : World F R E C M D :=
  if windowFinished .accel .accelFailed before world.calFlags then
    -- Only a full calibration clears the latch, and it starts the pipeline's clock afresh.
    { world with
      state := world.state.setErrorFlag ErrorFlag.UNCALIBRATED_IMU false world.params
      estimator := Estimator.reset world.estimator
      controlPipeline := {} }
  else world

/-- React to the inertial calibrations that have finished since the given flags. -/
def finishImuCalibration [Estimator F R S E] (world : World F R E C M D)
    (before : CalibrationFlags) : World F R E C M D :=
  (world.finishGyroCalibration before).finishAccelCalibration before

/-- Publish the results of a barometer calibration that has finished. -/
def publishBaroCalibration (world : World F R E C M D) (before : CalibrationFlags)
    (paramsBefore : Params F) : World F R E C M D :=
  if windowFinished .baro .baroFailed before world.calFlags then
    let publish (events : ParamEventQueues F) (id : ParamId) : ParamEventQueues F :=
      emitParamChange events id (paramsBefore.getById id) (world.params.getById id)
    { world with
      paramEvents := publish (publish world.paramEvents .PARAM_BARO_BIAS) .PARAM_GROUND_LEVEL }
  else world

variable [FlightFloat F] [FlightFloat R] [FloatCast F R] [Estimator F R S E]

/-- Process every report of the bus. -/
def processSensorBusAfterUpdate (world : World F R E C M D) (raw : SensorBus F R) (nowMs : Nat) :
    World F R E C M D :=
  let processed := world.adoptIngestion (world.ingestion.processSensorBus raw nowMs)
  (processed.publishBaroCalibration world.calFlags world.params).finishImuCalibration
    world.calFlags

/-- Process the inertial report alone. -/
def processImuSensorAfterUpdate (world : World F R E C M D) (raw : RawPacket (ImuPacket F R)) :
    World F R E C M D :=
  (world.adoptIngestion (world.ingestion.processImuSensor raw)).finishImuCalibration world.calFlags

omit [FlightFloat R] [FlightFloat F] [FloatCast F R] [Estimator F R S E] in
/-- Note whether the inertial sensor is alive. -/
def noteSensorHealth (world : World F R E C M D) (nowUs : Nat) : World F R E C M D :=
  let health := updateSensorHealth { state := world.state, lastImuSeen := world.lastImuSeen } nowUs
    world.processedSensors world.params
  { world with state := health.state, lastImuSeen := health.lastImuSeen }

omit [FlightFloat R] [FlightFloat F] [FloatCast F R] [Estimator F R S E] in
/-- Let arming go on, or fail, by the flags of the calibration it waits for. -/
def settleArmCalibration (world : World F R E C M D) : World F R E C M D :=
  if world.state.isCalibrating ∧ .gyroFailed ∈ world.calFlags then
    { world with
      state := world.state.update .CALIBRATION_FAILED world.params
      calFlags := world.calFlags.erase .gyroFailed }
  else if world.state.isCalibrating ∧ .gyro ∉ world.calFlags then
    { world with state := world.state.update .CALIBRATION_COMPLETE world.params }
  else world

omit [FlightFloat R] [FlightFloat F] [FloatCast F R] [Estimator F R S E] in
/-- Note the sensor's health and settle the calibration that arming waits for. -/
def updateSensorHealthAndCalibration (world : World F R E C M D) (nowUs : Nat) :
    World F R E C M D :=
  (world.noteSensorHealth nowUs).settleArmCalibration

omit [FlightFloat R] [FlightFloat F] [FloatCast F R] [Estimator F R S E] in
/-- Queue one log text for a connected companion. -/
def drainLogs (world : World F R E C M D) (log : Option StatustextMsg) : World F R E C M D :=
  match world.companionLink.connected, log with
  | true, some text => { world with commEvents := world.commEvents.respond (.statustext text) }
  | _, _ => world

omit [FlightFloat R] [FlightFloat F] [FloatCast F R] [Estimator F R S E] in
/-- Queue a log text and send every response. -/
def drainLogsAndSendResponses (world : World F R E C M D) (log : Option StatustextMsg) :
    World F R E C M D :=
  let drained := world.drainLogs log
  let sent := drained.comm.sendCommResponses drained.commEvents
  { drained with comm := sent.1, commEvents := sent.2 }

omit [FlightFloat R] [FlightFloat F] [FloatCast F R] [Estimator F R S E] in
/-- Queue a log text and send the oldest responses. -/
def drainLogsAndSendResponsesLimited (world : World F R E C M D) (log : Option StatustextMsg)
    (maxResponses : Nat) : World F R E C M D :=
  let drained := world.drainLogs log
  let sent := drained.comm.sendCommResponsesLimited maxResponses drained.commEvents
  { drained with comm := sent.1, commEvents := sent.2 }

/-- The sensor stage of a full pass. -/
def runSensorIngestionAndHealthStage (world : World F R E C M D) (input : SensorStageInput F R)
    (log : Option StatustextMsg) : World F R E C M D :=
  ((world.processSensorBusAfterUpdate input.raw input.nowMs).updateSensorHealthAndCalibration
    input.nowUs).drainLogsAndSendResponses log

omit [FlightFloat R] [FlightFloat F] [FloatCast F R] [Estimator F R S E] in
/-- Keep the previous sample of every sensor the board has no news of. -/
def retainSamples (raw : SensorBus F R) (latest processed : ProcessedSensors F R) :
    ProcessedSensors F R where
  imu := if raw.imu.isSome then processed.imu else latest.imu
  mag := if raw.mag.isSome then processed.mag else latest.mag
  baro := if raw.baro.isSome then processed.baro else latest.baro
  pitot := if raw.pitot.isSome then processed.pitot else latest.pitot
  range := if raw.range.isSome then processed.range else latest.range
  gnss := if raw.gnss.isSome then processed.gnss else latest.gnss
  battery := if raw.battery.isSome then processed.battery else latest.battery
  rc := if raw.rc.isSome then processed.rc else latest.rc
  attitude := if raw.attitude.isSome then processed.attitude else latest.attitude

/-- Process the reports of a service poll, keeping the samples it has no news of. -/
def processServiceSensors (world : World F R E C M D) (input : SensorStageInput F R) :
    World F R E C M D :=
  let processed := world.processSensorBusAfterUpdate input.raw input.nowMs
  { processed with
    processedSensors :=
      retainSamples input.raw world.processedSensors processed.processedSensors }

/-- The sensor stage of the realtime scheduler's service. -/
def runServiceSensorStage (world : World F R E C M D) (input : SensorStageInput F R) :
    World F R E C M D :=
  (world.processServiceSensors input).updateSensorHealthAndCalibration input.nowUs

end Sensors

section Control

/-- The output-kill switch is mapped and on. -/
def outputKillActive (world : World F R E C M D) : Bool :=
  world.rc.switchMapped .OutputKill && world.rc.switchOn .OutputKill

/-- Bring the driver's channels in line with the parameters and the kill switch. -/
def runPwmOutputStage [FlightFloat R] [PwmDriver R D] (world : World F R E C M D) :
    World F R E C M D :=
  let synced := syncPwmOutputState world.pwm world.pwmOutput world.outputKillActive
    (world.params.intOr .PARAM_CHANNEL_OUTPUT_MASK 0)
  { world with pwm := synced.driver, pwmOutput := synced.output }

/-- Judge a fresh radio-control sample. -/
def judgeRc [FlightFloat F] (world : World F R E C M D) (nowMs : Nat)
    (freshRc : Option (RcPacket F)) : Rc F × StateManager :=
  match freshRc with
  | some packet => (world.rc.receive packet).run nowMs world.params world.state
  | none => (world.rc, world.state)

/-- Interpret a fresh radio-control sample, resolve the commands and revisit the state. -/
def runRcCommandState [FlightFloat F] (world : World F R E C M D) (nowMs : Nat)
    (freshRc : Option (RcPacket F)) : World F R E C M D :=
  let received := world.judgeRc nowMs freshRc
  let pass := world.command.run nowMs world.params received.1 received.2
  let set :=
    if pass.result.forceRcAttitudeModeRate then
      setParamAndEmitChange world.params world.paramEvents .PARAM_RC_ATTITUDE_MODE
        (.int attitudeRateMode)
    else (world.params, world.paramEvents)
  { world with
    rc := pass.rc, command := pass.manager, params := set.1, paramEvents := set.2
    state := pass.state.run set.1 }

/-- The radio-control stage, with the outputs that follow from it. -/
def runRcCommandStateStages [FlightFloat F] [FlightFloat R] [PwmDriver R D]
    (world : World F R E C M D) (nowMs : Nat) (freshRc : Option (RcPacket F)) :
    World F R E C M D :=
  (world.runRcCommandState nowMs freshRc).runPwmOutputStage

/-- The parts of the world that the control pipeline changes. -/
def pipeline (world : World F R E C M D) : ControlPipeline F E C M D :=
  { resource := world.controlPipeline, externalAttitude := world.externalAttitude
    state := world.state, estimator := world.estimator, controller := world.controller
    mixer := world.mixer, pwm := world.pwm }

/-- The parts of the world that the control pipeline reads. -/
def pipelineInput (world : World F R E C M D) : ControlPipelineInput F R :=
  { params := world.params, sensors := world.processedSensors, auxCommand := world.auxCommand
    command := world.command, pwmOutput := world.pwmOutput }

/-- Put the pipeline's parts back into the world. -/
def adoptPipeline (world : World F R E C M D) (done : ControlPipeline F E C M D) :
    World F R E C M D :=
  { world with
    controlPipeline := done.resource, externalAttitude := done.externalAttitude
    state := done.state, estimator := done.estimator, controller := done.controller
    mixer := done.mixer, pwm := done.pwm }

variable [FlightFloat F] [FlightFloat R] [FloatCast F R] [Estimator F R S E]
  [Controller F R S O C] [Mixer F R O M] [PwmDriver R D]

/-- The control stage, which only acts on a sample newer than the last one. -/
def runControlAndMixingStageIfNewImu (world : World F R E C M D) : World F R E C M D × Bool :=
  let done := world.pipeline.runControlPipelineIfNewImu world.pipelineInput
  (world.adoptPipeline done.1, done.2)

/-- The control stage on the mean of the samples since the last one. -/
def runControlAndMixingStageWithAccumulatedImu (world : World F R E C M D) :
    World F R E C M D × Bool :=
  let averaged := world.controlImuAccumulator.takeAverage
  match averaged.2 with
  | none => (world, false)
  | some sample =>
    let ran := { world with
        controlImuAccumulator := averaged.1
        processedSensors := { world.processedSensors with imu := some sample }
      }.runControlAndMixingStageIfNewImu
    ({ ran.1 with processedSensors := world.processedSensors }, ran.2)

end Control

end World

end Veloxity
