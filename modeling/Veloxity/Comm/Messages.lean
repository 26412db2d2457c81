import Mathlib.Data.Finset.Insert
import Veloxity.Core.Params
import Veloxity.Library.BoundedQueue

/-! Messages exchanged with the companion computer. -/

namespace Veloxity

/-- How an offboard command's axes are to be read. -/
inductive OffboardControlMode where
  | modePassThrough
  | modeRollratePitchrateYawrateThrottle
  | modeRollPitchYawrateThrottle
  deriving DecidableEq, Repr

/-- An axis or passthrough channel that an offboard command may leave out. -/
inductive OffboardAxis where
  | fx | fy | fz | qx | qy | qz
  | pass (channel : Fin 4)
  deriving DecidableEq

/-- Offboard control command. -/
structure OffboardControlMsg (F : Type) where
  mode : OffboardControlMode
  ignore : Finset OffboardAxis
  qx : F
  qy : F
  qz : F
  fx : F
  fy : F
  fz : F
  passthrough : Fin 4 → F

/-- How an auxiliary channel is driven. -/
inductive RosflightAuxCmdType where
  | disabled | servo | motor
  deriving DecidableEq, Repr

/-- Auxiliary output command for fourteen channels. -/
structure RosflightAuxCmdMsg (F : Type) where
  typeArray : Fin 14 → RosflightAuxCmdType
  auxCmdArray : Fin 14 → F

/-- Sixteen name bytes, padded with zeros. -/
abbrev ParamName := Vector UInt8 16

/-- A name as sixteen bytes, cut off or padded. -/
def strToFixedBytes (input : String) : ParamName :=
  Vector.ofFn fun index => input.toUTF8.data.getD index.val 0

/-- Companion heartbeat. -/
structure HeartbeatMsg where
  vehicleType : Nat
  autopilot : Nat
  baseMode : Nat
  customMode : Nat
  systemStatus : Nat
  mavlinkVersion : Nat
  deriving DecidableEq, Repr

/-- A parameter asked for by name or by signed index. -/
inductive ParamIdentifier where
  | id (bytes : ParamName)
  | index (index : Int)
  deriving DecidableEq

/-- Request for one parameter. -/
structure ParamRequestReadMsg where
  targetSystem : Nat
  targetComponent : Nat
  paramIdentifier : ParamIdentifier

/-- Request for all parameters. -/
structure ParamRequestListMsg where
  targetSystem : Nat
  targetComponent : Nat

/-- Request to change a parameter. -/
structure ParamSetMsg (F : Type) where
  targetSystem : Nat
  targetComponent : Nat
  paramId : ParamName
  paramValue : ParamValue F

/-- Report of a parameter. -/
structure ParamValueMsg (F : Type) where
  paramId : ParamName
  paramValue : ParamValue F
  paramCount : Nat
  paramIndex : Nat

/-- Clock synchronisation request or reply. -/
structure TimesyncMsg where
  tc1 : Int
  ts1 : Int
  deriving DecidableEq, Repr

/-- Commands a companion can give. -/
inductive RosflightCmd where
  | rcCalibration | accelCalibration | gyroCalibration | baroCalibration | airspeedCalibration
  | readParams | writeParams | setParamDefaults | reboot | rebootToBootloader | sendVersion
  | resetOrigin | sendAllConfigInfos
  deriving DecidableEq, Repr

/-- Outcome of a command. -/
inductive RosflightCmdResponse where
  | rosflightCmdFailed | rosflightCmdSuccess
  deriving DecidableEq, Repr

/-- Acknowledgement of a command. -/
structure RosflightCmdAckMsg where
  command : RosflightCmd
  success : RosflightCmdResponse
  deriving DecidableEq, Repr

/-- Severity of a status text. -/
inductive Severity where
  | emergency | alert | critical | error | warning | notice | info | debug
  deriving DecidableEq, Repr

/-- Fifty text bytes, padded with zeros. -/
abbrev FixedText := Vector UInt8 50

/-- Status text for the companion. -/
structure StatustextMsg where
  severity : Severity
  text : FixedText

/-- Firmware version for the companion. -/
structure RosflightVersionMsg where
  version : FixedText

/-- Attitude measured outside the vehicle. -/
structure ExternalAttitudeMsg (F : Type) where
  qw : F
  qx : F
  qy : F
  qz : F

/-- Report of the hard fault before the last reset. -/
structure RosflightHardErrorMsg where
  errorCode : Nat
  pc : Nat
  resetCount : Nat
  doRearm : Nat
  deriving DecidableEq, Repr

/-- What the vehicle answers. -/
inductive CommResponse (F : Type) where
  | paramValue (msg : ParamValueMsg F)
  | cmdAck (msg : RosflightCmdAckMsg)
  | version (msg : RosflightVersionMsg)
  | statustext (msg : StatustextMsg)
  | hardError (msg : RosflightHardErrorMsg)

/-- Requests for parameters that can wait between two passes. -/
abbrev PARAM_SET_BURST_QUEUE_CAPACITY : Nat := 512

/-- Received messages that have not been acted on, where only parameter requests queue up. -/
structure Messages (F : Type) where
  heartbeat : Option HeartbeatMsg := none
  paramRequestRead : Library.BoundedQueue PARAM_SET_BURST_QUEUE_CAPACITY ParamRequestReadMsg :=
    .empty
  paramRequestList : Option ParamRequestListMsg := none
  paramSet : Library.BoundedQueue PARAM_SET_BURST_QUEUE_CAPACITY (ParamSetMsg F) := .empty
  timesync : Option TimesyncMsg := none
  offboardControl : Option (OffboardControlMsg F) := none
  cmd : Option RosflightCmd := none
  auxCmd : Option (RosflightAuxCmdMsg F) := none
  externalAttitude : Option (ExternalAttitudeMsg F) := none

/-- One decoded message. -/
inductive IncomingMessage (F : Type) where
  | heartbeat (msg : HeartbeatMsg)
  | paramRequestRead (msg : ParamRequestReadMsg)
  | paramRequestList (msg : ParamRequestListMsg)
  | paramSet (msg : ParamSetMsg F)
  | timesync (msg : TimesyncMsg)
  | offboardControl (msg : OffboardControlMsg F)
  | cmd (command : RosflightCmd)
  | auxCmd (msg : RosflightAuxCmdMsg F)
  | externalAttitude (msg : ExternalAttitudeMsg F)

namespace Messages

variable {F : Type}

/-- Something is waiting to be acted on. -/
def hasPending (msgs : Messages F) : Bool :=
  msgs.heartbeat.isSome || !msgs.paramRequestRead.isEmpty || msgs.paramRequestList.isSome ||
    !msgs.paramSet.isEmpty || msgs.timesync.isSome || msgs.offboardControl.isSome ||
    msgs.cmd.isSome || msgs.auxCmd.isSome || msgs.externalAttitude.isSome

/-- Keep a message, in place of an earlier one of its kind unless it is a parameter request. -/
def store (msgs : Messages F) : IncomingMessage F → Messages F
  | .heartbeat msg => { msgs with heartbeat := some msg }
  -- A full queue drops the newest request.
  | .paramRequestRead msg =>
    { msgs with paramRequestRead := (msgs.paramRequestRead.push msg).1 }
  | .paramRequestList msg => { msgs with paramRequestList := some msg }
  | .paramSet msg => { msgs with paramSet := (msgs.paramSet.push msg).1 }
  | .timesync msg => { msgs with timesync := some msg }
  | .offboardControl msg => { msgs with offboardControl := some msg }
  | .cmd command => { msgs with cmd := some command }
  | .auxCmd msg => { msgs with auxCmd := some msg }
  | .externalAttitude msg => { msgs with externalAttitude := some msg }

end Messages

end Veloxity
