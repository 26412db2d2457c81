import Mathlib.Data.Finset.Basic
import Mathlib.Data.Finset.Insert
import Mathlib.Data.Finset.SDiff
import Veloxity.Core.Params

/-! The arming state machine and the manager that guards it. -/

namespace Veloxity

/-- The error conditions that can be flagged. -/
inductive ErrorKind where
  | invalidMixer | imuNotResponding | rcLost | unhealthyEstimator | timeGoingBackwards
  | uncalibratedImu | bufferOverrun | invalidFailsafe
  deriving DecidableEq, Repr

/-- A set of flagged error conditions. -/
abbrev ErrorFlag := Finset ErrorKind

namespace ErrorFlag

/-- The mixer selection cannot be flown. -/
def INVALID_MIXER : ErrorFlag := {.invalidMixer}

/-- No inertial sample has arrived for too long. -/
def IMU_NOT_RESPONDING : ErrorFlag := {.imuNotResponding}

/-- The radio-control link is lost. -/
def RC_LOST : ErrorFlag := {.rcLost}

/-- The attitude estimate is not healthy. -/
def UNHEALTHY_ESTIMATOR : ErrorFlag := {.unhealthyEstimator}

/-- An inertial timestamp did not advance. -/
def TIME_GOING_BACKWARDS : ErrorFlag := {.timeGoingBackwards}

/-- The inertial biases have never been calibrated. -/
def UNCALIBRATED_IMU : ErrorFlag := {.uncalibratedImu}

/-- The failsafe throttle setting is out of range. -/
def INVALID_FAILSAFE : ErrorFlag := {.invalidFailsafe}

end ErrorFlag

/-- Events that drive the state machine. -/
inductive Event where
  | INITIALIZED
  | REQUEST_ARM
  | REQUEST_DISARM
  | CALIBRATION_COMPLETE
  | CALIBRATION_FAILED
  | HARDFAULT_REARM_REQUESTED
  | ERROR_OCCURRED (flag : ErrorFlag)
  | ERROR_CLEARED (flag : ErrorFlag)
  deriving DecidableEq

/-- The machine's states, each carrying the flagged errors. -/
inductive StateMachine where
  | init (errorFlags : ErrorFlag)
  | preflight (errorFlags : ErrorFlag)
  | calibrating (errorFlags : ErrorFlag)
  | armed (errorFlags : ErrorFlag)
  | failsafe (errorFlags : ErrorFlag)
  | errorPresent (errorFlags : ErrorFlag)
  | errorFailsafe (errorFlags : ErrorFlag)
  deriving DecidableEq

section

variable {F : Type}

/-- Arm at once, or calibrate the gyro first when the parameters ask for it. -/
def armFromPreflight (errorFlags : ErrorFlag) (params : Params F) : StateMachine :=
  if params.isNonzeroInt .PARAM_CALIBRATE_GYRO_ON_ARM then
    -- Calibration is about to be redone, so its absence no longer counts.
    .calibrating (errorFlags \ ErrorFlag.UNCALIBRATED_IMU)
  else .armed errorFlags

/-- The errors that block arming under the given parameters. -/
def armingBlockingErrors (errorFlags : ErrorFlag) (params : Params F) : ErrorFlag :=
  if params.isNonzeroInt .PARAM_ALLOW_UNHEALTHY_ESTIMATOR then
    errorFlags \ ErrorFlag.UNHEALTHY_ESTIMATOR
  else errorFlags

namespace StateMachine

/-- The initial machine, with no errors. -/
def new : StateMachine := .init ∅

/-- Errors carried by the current state. -/
def getErrors : StateMachine → ErrorFlag
  | .init errorFlags | .preflight errorFlags | .calibrating errorFlags | .armed errorFlags
  | .failsafe errorFlags | .errorPresent errorFlags | .errorFailsafe errorFlags => errorFlags

/-- Replace the errors carried by the current state. -/
def withErrors (errorFlags : ErrorFlag) : StateMachine → StateMachine
  | .init _ => .init errorFlags
  | .preflight _ => .preflight errorFlags
  | .calibrating _ => .calibrating errorFlags
  | .armed _ => .armed errorFlags
  | .failsafe _ => .failsafe errorFlags
  | .errorPresent _ => .errorPresent errorFlags
  | .errorFailsafe _ => .errorFailsafe errorFlags

/-- Motors may run, in normal flight or in failsafe. -/
def isArmed : StateMachine → Bool
  | .armed _ | .failsafe _ => true
  | _ => false

/-- Failsafe is active, armed or not. -/
def isInFailsafe : StateMachine → Bool
  | .failsafe _ | .errorFailsafe _ => true
  | _ => false

/-- Transition out of the state before initialisation. -/
def onEventInit (errorFlags : ErrorFlag) : Event → StateMachine
  | .INITIALIZED => .preflight errorFlags
  | _ => .init errorFlags

/-- Transition out of the disarmed state without errors. -/
def onEventPreflight (errorFlags : ErrorFlag) (params : Params F) : Event → StateMachine
  | .REQUEST_ARM => armFromPreflight errorFlags params
  | .HARDFAULT_REARM_REQUESTED => .armed errorFlags
  | .ERROR_OCCURRED _ => .errorPresent errorFlags
  | _ => .preflight errorFlags

/-- Transition out of calibration before arming. -/
def onEventCalibrating (errorFlags : ErrorFlag) : Event → StateMachine
  | .CALIBRATION_COMPLETE => .armed (errorFlags \ ErrorFlag.UNCALIBRATED_IMU)
  | .CALIBRATION_FAILED => .preflight errorFlags
  | .ERROR_OCCURRED _ => .errorPresent errorFlags
  | .HARDFAULT_REARM_REQUESTED => .armed errorFlags
  | _ => .calibrating errorFlags

/-- Transition out of normal armed flight. -/
def onEventArmed (errorFlags : ErrorFlag) : Event → StateMachine
  | .REQUEST_DISARM => if errorFlags ≠ ∅ then .errorPresent errorFlags else .preflight errorFlags
  | .ERROR_OCCURRED flag =>
    -- Only the exact RC-loss flag is matched, not a set that contains it.
    if flag = ErrorFlag.RC_LOST then .failsafe errorFlags else .armed errorFlags
  | _ => .armed errorFlags

/-- Transition out of armed failsafe. -/
def onEventFailsafe (errorFlags : ErrorFlag) : Event → StateMachine
  | .ERROR_CLEARED flag =>
    if flag = ErrorFlag.RC_LOST then .armed errorFlags else .failsafe errorFlags
  | .REQUEST_DISARM => .errorFailsafe errorFlags
  | .HARDFAULT_REARM_REQUESTED => .armed errorFlags
  | _ => .failsafe errorFlags

/-- Transition out of disarmed failsafe. -/
def onEventErrorFailsafe (errorFlags : ErrorFlag) : Event → StateMachine
  | .HARDFAULT_REARM_REQUESTED => .armed errorFlags
  | .ERROR_CLEARED flag =>
    if errorFlags = ∅ then .preflight errorFlags
    else if flag = ErrorFlag.RC_LOST then .errorPresent errorFlags
    else .errorFailsafe errorFlags
  | _ => .errorFailsafe errorFlags

/-- Transition out of the disarmed state with errors. -/
def onEventErrorPresent (errorFlags : ErrorFlag) (params : Params F) : Event → StateMachine
  | .REQUEST_ARM =>
    if armingBlockingErrors errorFlags params = ∅ then armFromPreflight errorFlags params
    else .errorPresent errorFlags
  | .HARDFAULT_REARM_REQUESTED => .armed errorFlags
  | .ERROR_CLEARED _ =>
    if errorFlags = ∅ then .preflight errorFlags else .errorPresent errorFlags
  | _ => .errorPresent errorFlags

/-- Dispatch an event to the current state's handler. -/
def transition (event : Event) (params : Params F) : StateMachine → StateMachine
  | .init errorFlags => onEventInit errorFlags event
  | .preflight errorFlags => onEventPreflight errorFlags params event
  | .calibrating errorFlags => onEventCalibrating errorFlags event
  | .armed errorFlags => onEventArmed errorFlags event
  | .failsafe errorFlags => onEventFailsafe errorFlags event
  | .errorPresent errorFlags => onEventErrorPresent errorFlags params event
  | .errorFailsafe errorFlags => onEventErrorFailsafe errorFlags event

/-- Record what an error event says about the flags, before any transition. -/
def recordErrors (machine : StateMachine) (event : Event) : StateMachine :=
  match event with
  | .ERROR_OCCURRED flag => machine.withErrors (machine.getErrors ∪ flag)
  | .ERROR_CLEARED flag => machine.withErrors (machine.getErrors \ flag)
  | _ => machine

/-- Apply an event to the flags and then to the state. -/
def update (machine : StateMachine) (event : Event) (params : Params F) : StateMachine :=
  (machine.recordErrors event).transition event params

end StateMachine

/-- Arming inputs last reported by the radio-control handler. -/
structure ArmingSafety where
  rcThrottleLow : Bool := false
  rcThrottleOverrideSwitchOn : Bool := false
  deriving DecidableEq

/-- The state machine together with its arming interlock inputs. -/
structure StateManager where
  machine : StateMachine
  armingSafety : ArmingSafety
  deriving DecidableEq

/-- The throttle interlock: a low throttle, and an active override unless it is implied. -/
def ArmingSafety.allowsArm (safety : ArmingSafety) (params : Params F) : Bool :=
  safety.rcThrottleLow &&
    (params.isNonzeroInt .PARAM_RC_OVERRIDE_TAKE_MIN_THROTTLE || safety.rcThrottleOverrideSwitchOn)

namespace StateManager

/-- A manager before initialisation, with the interlock closed. -/
def new : StateManager := { machine := .new, armingSafety := {} }

/-- Gyro calibration before arming is in progress. -/
def isCalibrating (manager : StateManager) : Bool :=
  match manager.machine with
  | .calibrating _ => true
  | _ => false

/-- Motors may run. -/
def isArmed (manager : StateManager) : Bool := manager.machine.isArmed

/-- Failsafe is active. -/
def isInFailsafe (manager : StateManager) : Bool := manager.machine.isInFailsafe

/-- Currently flagged errors. -/
def getErrors (manager : StateManager) : ErrorFlag := manager.machine.getErrors

/-- Replace the interlock inputs. -/
def updateArmingSafety (manager : StateManager) (rcThrottleLow rcThrottleOverrideSwitchOn : Bool) :
    StateManager :=
  { manager with armingSafety := { rcThrottleLow, rcThrottleOverrideSwitchOn } }

/-- Whether the interlock inputs allow arming. -/
def armingSafetyAllowsArm (manager : StateManager) (params : Params F) : Bool :=
  manager.armingSafety.allowsArm params

/-- An arm request could leave the current state. -/
def armingAttemptCanTransition (manager : StateManager) (params : Params F) : Bool :=
  match manager.machine with
  | .preflight _ => true
  | .errorPresent errorFlags => armingBlockingErrors errorFlags params = ∅
  | _ => false

/-- Apply an event unless it is an arm request that the interlock refuses. -/
def update (manager : StateManager) (event : Event) (params : Params F) : StateManager :=
  if event = .REQUEST_ARM ∧ manager.armingAttemptCanTransition params = true ∧
      manager.armingSafetyAllowsArm params = false then manager
  else { manager with machine := manager.machine.update event params }

/-- Raise or clear a flag set, only when that changes whether it is fully present. -/
def setErrorFlag (manager : StateManager) (flag : ErrorFlag) (isPresent : Bool)
    (params : Params F) : StateManager :=
  let alreadyPresent := decide (flag ⊆ manager.getErrors)
  if isPresent then
    if !alreadyPresent then manager.update (.ERROR_OCCURRED flag) params else manager
  else if alreadyPresent then manager.update (.ERROR_CLEARED flag) params
  else manager

/-- Revisit the error state once per pass. -/
def run (manager : StateManager) (params : Params F) : StateManager :=
  if manager.getErrors = ∅ then manager.update (.ERROR_CLEARED ∅) params
  else manager.update (.ERROR_OCCURRED manager.getErrors) params

end StateManager

end

end Veloxity
