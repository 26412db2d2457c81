import Veloxity.Control.Interfaces
import Veloxity.Params.Service
import Veloxity.Sensors.Calibration

/-! Serving the companion's commands and inputs. -/

namespace Veloxity

/-- What the board is asked to do. -/
inductive BoardCall (F : Type) where
  | reboot | rebootToBootloader | readParams
  | writeParams (params : Params F)

/-- How the board answers the storage calls of one pass, by how many calls went before. -/
structure BoardStorage (F : Type) where
  readParams : Nat → Params F → Params F × Bool
  writeParams : Nat → Params F → Bool

/-- Everything serving commands changes, with the calls made on the board. -/
structure CommandService (F C : Type) where
  requests : CommandEventQueues F
  paramEvents : ParamEventQueues F
  commEvents : CommEventQueues F
  command : CommandManager F
  controller : C
  flags : CalibrationFlags
  params : Params F
  boardCalls : List (BoardCall F)

namespace CommandService

variable {F R S O C : Type} [FlightFloat F]

/-- Acknowledge a command. -/
def emitCmdAck (service : CommandService F C) (command : RosflightCmd) (success : Bool) :
    CommandService F C :=
  { service with
    commEvents := service.commEvents.respond (.cmdAck
      { command
        success := if success then .rosflightCmdSuccess else .rosflightCmdFailed }) }

/-- Change a parameter and queue the news. -/
def setParam (service : CommandService F C) (id : ParamId) (value : ParamValue F) :
    CommandService F C :=
  let set := setParamAndEmitChange service.params service.paramEvents id value
  { service with params := set.1, paramEvents := set.2 }

/-- Set one parameter of each axis to zero. -/
def zeroBiases (service : CommandService F C) (axisParam : Fin 3 → ParamId) : CommandService F C :=
  ((service.setParam (axisParam 0) (.float FlightFloat.zero)).setParam (axisParam 1)
    (.float FlightFloat.zero)).setParam (axisParam 2) (.float FlightFloat.zero)

/-- Forget the biases of the gyro. -/
def zeroGyroBiases (service : CommandService F C) : CommandService F C :=
  service.zeroBiases gyroBiasParam

/-- Forget the biases of the accelerometer. -/
def zeroAccelBiases (service : CommandService F C) : CommandService F C :=
  service.zeroBiases accelBiasParam

/-- Replace the calibration flags. -/
def withFlags (service : CommandService F C) (flags : CalibrationFlags) : CommandService F C :=
  { service with flags }

/-- Note a call made on the board. -/
def noteCall (service : CommandService F C) (call : BoardCall F) : CommandService F C :=
  { service with boardCalls := service.boardCalls ++ [call] }

/-- Open the calibration windows a command asks for. -/
def startCalibration (service : CommandService F C) : RosflightCmd → CommandService F C
  | .accelCalibration =>
    (service.withFlags (insert .gyro (insert .accel
      ((service.flags.erase .gyroFailed).erase .accelFailed)))).zeroGyroBiases.zeroAccelBiases
  | .gyroCalibration =>
    (service.withFlags (insert .gyro (service.flags.erase .gyroFailed))).zeroGyroBiases
  | .baroCalibration => service.withFlags (insert .baro (service.flags.erase .baroFailed))
  | .airspeedCalibration =>
    (service.withFlags (insert .pitot (service.flags.erase .pitotFailed))).setParam
      .PARAM_DIFF_PRESS_BIAS (.float FlightFloat.zero)
  | _ => service

/-- Serve a calibration request, which an armed vehicle refuses. -/
def applyCalibrationRequest (state : StateManager) (service : CommandService F C)
    (command : RosflightCmd) : CommandService F C :=
  if state.isArmed then service.emitCmdAck command false
  else (service.startCalibration command).emitCmdAck command true

/-- Serve every calibration request. -/
def applyCalibrationRequests (service : CommandService F C) (state : StateManager) :
    CommandService F C :=
  let served := service.requests.calibrationRequests.drain (applyCalibrationRequest state) service
  { served.1 with requests := { served.1.requests with calibrationRequests := served.2 } }

/-- Hand every offboard command to the command manager. -/
def applyOffboardControlRequests (service : CommandService F C) : CommandService F C :=
  let served := service.requests.offboardControlRequests.drain
    (fun (service : CommandService F C) (request : OffboardControlRequested F) =>
      { service with
        command := service.command.setNewOffboardCommand request.nowUs request.msg })
    service
  { served.1 with requests := { served.1.requests with offboardControlRequests := served.2 } }

/-- Serve a reset to the defaults, which an armed vehicle refuses. -/
def applyParamDefaultsRequest (state : StateManager) (service : CommandService F C)
    (command : RosflightCmd) : CommandService F C :=
  if state.isArmed then service.emitCmdAck command false
  else
    { service with
      params := service.params.setDefaults
      paramEvents := markAllParamsChanged service.paramEvents }.emitCmdAck command true

/-- Serve every reset to the defaults. -/
def applyParamDefaultsRequests (service : CommandService F C) (state : StateManager) :
    CommandService F C :=
  let served := service.requests.paramDefaultsRequests.drain (applyParamDefaultsRequest state)
    service
  { served.1 with requests := { served.1.requests with paramDefaultsRequests := served.2 } }

/-- Parameter that trims a torque axis. -/
def eqTorqueParam : Fin 3 → ParamId
  | 0 => .PARAM_X_EQ_TORQUE
  | 1 => .PARAM_Y_EQ_TORQUE
  | 2 => .PARAM_Z_EQ_TORQUE

/-- Add a torque to one trim parameter. -/
def addEqTorque (service : CommandService F C) (axis : Fin 3) (torque : F) : CommandService F C :=
  service.setParam (eqTorqueParam axis)
    (.float (paramFloat service.params (eqTorqueParam axis) + torque))

/-- Serve a trim request, which an armed vehicle refuses. -/
def applyRcTrimCalibrationRequest [Controller F R S O C] (state : StateManager)
    (service : CommandService F C) (command : RosflightCmd) : CommandService F C :=
  if state.isArmed then service.emitCmdAck command false
  else
    let trimmed := Controller.calculateEquilibriumTorquesFromRc service.controller
      service.command.rcControl service.params
    ((({ service with controller := trimmed.1 }.addEqTorque 0 (trimmed.2 0)).addEqTorque 1
      (trimmed.2 1)).addEqTorque 2 (trimmed.2 2)).emitCmdAck command true

/-- Serve every trim request. -/
def applyRcTrimCalibrationRequests [Controller F R S O C] (service : CommandService F C)
    (state : StateManager) : CommandService F C :=
  let served := service.requests.rcTrimCalibrationRequests.drain
    (applyRcTrimCalibrationRequest state) service
  { served.1 with requests := { served.1.requests with rcTrimCalibrationRequests := served.2 } }

/-- Serve a request for the board, which an armed vehicle refuses. -/
def applyBoardCommandRequest (state : StateManager) (storage : BoardStorage F)
    (service : CommandService F C) (command : RosflightCmd) : CommandService F C :=
  if state.isArmed then service.emitCmdAck command false
  else
    match command with
    -- A reboot is acknowledged before it happens.
    | .reboot => (service.emitCmdAck command true).noteCall .reboot
    | .rebootToBootloader => (service.emitCmdAck command true).noteCall .rebootToBootloader
    | .readParams =>
      let read := storage.readParams service.boardCalls.length service.params
      let events := if read.2 then markAllParamsChanged service.paramEvents
        else service.paramEvents
      ({ service with params := read.1, paramEvents := events }.noteCall .readParams).emitCmdAck
        command read.2
    | .writeParams =>
      (service.noteCall (.writeParams service.params)).emitCmdAck command
        (storage.writeParams service.boardCalls.length service.params)
    | _ => service.emitCmdAck command false

/-- Serve every request for the board. -/
def applyBoardCommandRequests (service : CommandService F C) (state : StateManager)
    (storage : BoardStorage F) : CommandService F C :=
  let served := service.requests.boardCommandRequests.drain
    (applyBoardCommandRequest state storage) service
  { served.1 with requests := { served.1.requests with boardCommandRequests := served.2 } }

/-- Version the firmware reports. -/
def versionText : FixedText :=
  Vector.ofFn fun index => "v2.0.0-veloxity-1.0".toUTF8.data.getD index.val 0

/-- Serve a request for the version, which an armed vehicle refuses. -/
def applyVersionRequest (state : StateManager) (service : CommandService F C)
    (command : RosflightCmd) : CommandService F C :=
  if state.isArmed then service.emitCmdAck command false
  else
    { service with
      commEvents := service.commEvents.respond (.version { version := versionText }) }.emitCmdAck
      command true

/-- Serve every request for the version. -/
def applyVersionRequests (service : CommandService F C) (state : StateManager) :
    CommandService F C :=
  let served := service.requests.versionRequests.drain (applyVersionRequest state) service
  { served.1 with requests := { served.1.requests with versionRequests := served.2 } }

/-- Refuse every request to reset the origin. -/
def applyResetOriginRequests (service : CommandService F C) : CommandService F C :=
  let served := service.requests.resetOriginRequests.drain
    (fun service command => emitCmdAck service command false) service
  { served.1 with requests := { served.1.requests with resetOriginRequests := served.2 } }

/-- Refuse every request for configuration information. -/
def applyConfigInfoRequests (service : CommandService F C) : CommandService F C :=
  let served := service.requests.configInfoRequests.drain
    (fun service command => emitCmdAck service command false) service
  { served.1 with requests := { served.1.requests with configInfoRequests := served.2 } }

/-- Serve every waiting command. -/
def applyCommandRequests [Controller F R S O C] (service : CommandService F C)
    (state : StateManager) (storage : BoardStorage F) : CommandService F C :=
  ((((((((service.applyCalibrationRequests state).applyOffboardControlRequests
    ).applyParamDefaultsRequests state).applyRcTrimCalibrationRequests state
    ).applyBoardCommandRequests state storage).applyVersionRequests state
    ).applyResetOriginRequests).applyConfigInfoRequests)

end CommandService

/-- Whether a companion has been heard, and its last heartbeat. -/
structure CompanionLinkState where
  connected : Bool := false
  lastHeartbeat : Option HeartbeatMsg := none
  deriving DecidableEq, Repr

/-- Everything the companion's inputs change. -/
structure CompanionInputs (F : Type) where
  events : CompanionEventQueues F
  commEvents : CommEventQueues F
  link : CompanionLinkState
  auxCommand : Option (RosflightAuxCmdMsg F)
  externalAttitude : Option (ExternalAttitudeMsg F)
  pendingHardError : Option RosflightHardErrorMsg

namespace CompanionInputs

variable {F : Type}

/-- Note the newest heartbeat. -/
def applyCompanionHeartbeats (inputs : CompanionInputs F) : CompanionInputs F :=
  let noted := inputs.events.heartbeats.drain
    (fun _ msg => ({ connected := true, lastHeartbeat := some msg } : CompanionLinkState))
    inputs.link
  { inputs with link := noted.1, events := { inputs.events with heartbeats := noted.2 } }

/-- Report the last hard fault once a companion listens. -/
def emitPendingHardErrorIfConnected (inputs : CompanionInputs F) : CompanionInputs F :=
  match inputs.link.connected, inputs.pendingHardError with
  | true, some msg =>
    { inputs with
      pendingHardError := none, commEvents := inputs.commEvents.respond (.hardError msg) }
  | _, _ => inputs

/-- Keep the newest auxiliary command. -/
def applyAuxCommands (inputs : CompanionInputs F) : CompanionInputs F :=
  let noted := inputs.events.auxCommands.drain (fun _ msg => some msg) inputs.auxCommand
  { inputs with auxCommand := noted.1, events := { inputs.events with auxCommands := noted.2 } }

/-- Keep the newest external attitude. -/
def applyExternalAttitudes (inputs : CompanionInputs F) : CompanionInputs F :=
  let noted := inputs.events.externalAttitudes.drain (fun _ msg => some msg)
    inputs.externalAttitude
  { inputs with
    externalAttitude := noted.1, events := { inputs.events with externalAttitudes := noted.2 } }

/-- Take in everything the companion has sent. -/
def applyCompanionInputs (inputs : CompanionInputs F) : CompanionInputs F :=
  inputs.applyCompanionHeartbeats.emitPendingHardErrorIfConnected.applyAuxCommands
    |>.applyExternalAttitudes

end CompanionInputs

end Veloxity
