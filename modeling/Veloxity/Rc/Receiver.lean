import Veloxity.Core.Machine
import Veloxity.Core.Packets
import Veloxity.State.Machine

/-! Radio-control interpretation: channel mapping, link health and arming gestures. -/

namespace Veloxity

/-- Channels kept from a radio-control packet. -/
abbrev rcStructChannels : Nat := 16

/-- Age in microseconds beyond which a radio-control sample is stale. -/
abbrev rcTimeoutUs : Nat := 500000

/-- The four sticks. -/
inductive Stick where
  | X | Y | Z | F
  deriving DecidableEq, Repr

/-- The five logical switches. -/
inductive Switch where
  | Arm | AttOverride | ThrottleOverride | AttType | OutputKill
  deriving DecidableEq, Repr

/-- Channel a stick is read from, and whether it rests at one end. -/
structure StickConfig where
  channel : Int := 0
  oneSided : Bool := false
  deriving DecidableEq

/-- Channel, validity and polarity of a switch. -/
structure SwitchConfig where
  channel : Int := 0
  mapped : Bool := false
  direction : Int := 0
  deriving DecidableEq

/-- The latest raw sample, which never claims more channels than it stores. -/
structure RcStruct (F : Type) where
  header : RosflightPacketHeader
  chan : Fin rcStructChannels → F
  numChannels : Nat
  withinChannels : numChannels ≤ rcStructChannels
  frameLost : Bool
  failsafeActivated : Bool

/-- The radio-control handler. -/
structure Rc (F : Type) where
  rc : RcStruct F
  newCommand : Bool
  sticks : Stick → StickConfig
  switches : Switch → SwitchConfig
  stickValues : Stick → F
  switchValues : Switch → Bool
  prevTimeMs : Nat
  timeSticksHaveBeenInArmingPositionMs : Nat

variable {F : Type}

/-- A stored channel value; indices below the channel count are always stored. -/
def RcStruct.chanAt [FlightFloat F] (rc : RcStruct F) (index : Nat) : F :=
  if inside : index < rcStructChannels then rc.chan ⟨index, inside⟩ else FlightFloat.zero

/-- A configured channel exists in the latest sample. -/
def RcStruct.hasChannel (rc : RcStruct F) (channel : Int) : Bool :=
  0 ≤ channel && channel.toNat < rc.numChannels

namespace Rc

/-- A handler with no mapping and no sample. -/
def new [FlightFloat F] : Rc F where
  rc :=
    { header := {}, chan := fun _ => FlightFloat.zero, numChannels := 0,
      withinChannels := Nat.zero_le _, frameLost := false, failsafeActivated := false }
  newCommand := false
  sticks := fun _ => {}
  switches := fun _ => {}
  stickValues := fun _ => FlightFloat.zero
  switchValues := fun _ => false
  prevTimeMs := 0
  timeSticksHaveBeenInArmingPositionMs := 0

/-- Stick channels as the parameters map them. -/
def stickConfig (params : Params F) : Stick → StickConfig
  | .X => { channel := params.intOr .PARAM_RC_X_CHANNEL 0, oneSided := false }
  | .Y => { channel := params.intOr .PARAM_RC_Y_CHANNEL 1, oneSided := false }
  | .Z => { channel := params.intOr .PARAM_RC_Z_CHANNEL 3, oneSided := false }
  | .F => { channel := params.intOr .PARAM_RC_F_CHANNEL 2, oneSided := true }

/-- Map the sticks from the parameters. -/
def initSticks (rc : Rc F) (params : Params F) : Rc F := { rc with sticks := stickConfig params }

/-- Parameter that maps a switch to a channel. -/
def switchChannelParam : Switch → ParamId
  | .Arm => .PARAM_RC_ARM_CHANNEL
  | .AttOverride => .PARAM_RC_ATTITUDE_OVERRIDE_CHANNEL
  | .ThrottleOverride => .PARAM_RC_THROTTLE_OVERRIDE_CHANNEL
  | .AttType => .PARAM_RC_ATT_CONTROL_TYPE_CHANNEL
  | .OutputKill => .PARAM_RC_OUTPUT_KILL_CHANNEL

/-- Polarity of a switch on the given channel; only four channels have a parameter for it. -/
def switchDirection (params : Params F) (channel : Int) : Int :=
  if channel = 4 then params.intOr .PARAM_RC_SWITCH_5_DIRECTION 1
  else if channel = 5 then params.intOr .PARAM_RC_SWITCH_6_DIRECTION 1
  else if channel = 6 then params.intOr .PARAM_RC_SWITCH_7_DIRECTION 1
  else if channel = 7 then params.intOr .PARAM_RC_SWITCH_8_DIRECTION 1
  else 1

/-- Switch channels as the parameters map them. -/
def switchConfig (params : Params F) (switch : Switch) : SwitchConfig :=
  let channel := params.intOr (switchChannelParam switch) 255
  -- The first four channels belong to the sticks.
  { channel, mapped := 3 < channel && channel < params.intOr .PARAM_RC_NUM_CHANNELS 6,
    direction := switchDirection params channel }

/-- Map the switches from the parameters. -/
def updateSwitchMappings (rc : Rc F) (params : Params F) : Rc F :=
  { rc with switches := switchConfig params }

/-- Map sticks and switches from the parameters. -/
def initRc (rc : Rc F) (params : Params F) : Rc F :=
  (rc.initSticks params).updateSwitchMappings params

/-- Map everything and forget any pending command. -/
def init (rc : Rc F) (params : Params F) : Rc F := { rc.initRc params with newCommand := false }

/-- React to a changed mapping parameter. -/
def paramChangeCallback (rc : Rc F) (id : ParamId) (params : Params F) : Rc F :=
  match id with
  | .PARAM_RC_X_CHANNEL | .PARAM_RC_Y_CHANNEL | .PARAM_RC_Z_CHANNEL | .PARAM_RC_F_CHANNEL =>
    rc.initSticks params
  | .PARAM_RC_ATTITUDE_OVERRIDE_CHANNEL | .PARAM_RC_THROTTLE_OVERRIDE_CHANNEL
  | .PARAM_RC_ATT_CONTROL_TYPE_CHANNEL | .PARAM_RC_ARM_CHANNEL | .PARAM_RC_OUTPUT_KILL_CHANNEL
  | .PARAM_RC_SWITCH_5_DIRECTION | .PARAM_RC_SWITCH_6_DIRECTION | .PARAM_RC_SWITCH_7_DIRECTION
  | .PARAM_RC_SWITCH_8_DIRECTION => rc.updateSwitchMappings params
  | _ => rc

/-- Store a packet's channels and link mark. -/
def receive (rc : Rc F) (packet : RcPacket F) : Rc F :=
  let len := min packet.nChan rcStructChannels
  -- Channels beyond the packet's count keep their previous values.
  { rc with rc :=
    { header := packet.header
      chan := fun index =>
        if index.val < len then packet.chan ⟨index.val, Nat.lt_of_lt_of_le index.isLt (by decide)⟩
        else rc.rc.chan index
      numChannels := len
      withinChannels := Nat.min_le_right _ _
      frameLost := packet.lol
      failsafeActivated := packet.lol } }

/-- Interpreted value of a stick, unchanged when its channel is missing. -/
def processedStick [FlightFloat F] (rc : Rc F) (stick : Stick) : F :=
  let config := rc.sticks stick
  if rc.rc.hasChannel config.channel then
    let pwm := rc.rc.chanAt config.channel.toNat
    if config.oneSided then pwm else FlightFloat.lit 2 * (pwm - FlightFloat.lit 0.5)
  else rc.stickValues stick

/-- Interpreted position of a switch, off when it is unmapped or its channel is missing. -/
def processedSwitch [FlightFloat F] (rc : Rc F) (switch : Switch) : Bool :=
  let config := rc.switches switch
  if config.mapped && rc.rc.hasChannel config.channel then
    let pwm := rc.rc.chanAt config.channel.toNat
    if config.direction < 0 then FlightFloat.lt pwm (FlightFloat.lit 0.2)
    else FlightFloat.le (FlightFloat.lit 0.8) pwm
  else false

/-- Interpret all sticks and switches from the latest sample. -/
def processSticksAndSwitches [FlightFloat F] (rc : Rc F) : Rc F :=
  { rc with stickValues := rc.processedStick, switchValues := rc.processedSwitch }

/-- The latest sample is recent, intact, wide enough and within channel limits. -/
def checkRcHealth [FlightFloat F] (rc : Rc F) (nowUs : Nat) (params : Params F) : Bool :=
  let numChannels := asU32 (params.intOr .PARAM_RC_NUM_CHANNELS 6)
  if rc.rc.header.timestamp + rcTimeoutUs < nowUs then false
  else if rc.rc.frameLost || rc.rc.failsafeActivated then false
  else if rc.rc.numChannels < numChannels then false
  else (List.range numChannels).all fun index =>
    !(FlightFloat.lt (rc.rc.chanAt index) (FlightFloat.lit (-0.25)) ||
      FlightFloat.lt (FlightFloat.lit 1.25) (rc.rc.chanAt index))

/-- Processed value of a stick. -/
def stick (rc : Rc F) (channel : Stick) : F := rc.stickValues channel

/-- Processed position of a switch. -/
def switchOn (rc : Rc F) (channel : Switch) : Bool := rc.switchValues channel

/-- Whether a switch is mapped to a channel. -/
def switchMapped (rc : Rc F) (channel : Switch) : Bool := (rc.switches channel).mapped

/-- The throttle override switch is mapped and on. -/
def throttleOverrideOn (rc : Rc F) : Bool :=
  rc.switchMapped .ThrottleOverride && rc.switchOn .ThrottleOverride

/-- Arming by holding the sticks, while disarmed or while armed. -/
def lookForStickSignal [FlightFloat F] (rc : Rc F) (dt : Nat) (armThreshold : F)
    (params : Params F) (state : StateManager) : Rc F × StateManager :=
  let fStick := rc.stick .F
  let zStick := rc.stick .Z
  let throttleLow := FlightFloat.lt fStick armThreshold
  if !state.isArmed then
    -- Throttle down and yaw to the right arms after one second.
    let held :=
      if throttleLow && FlightFloat.lt (FlightFloat.lit 1 - armThreshold) zStick then
        saturatingAddU32 rc.timeSticksHaveBeenInArmingPositionMs dt
      else 0
    let rc := { rc with timeSticksHaveBeenInArmingPositionMs := held }
    if 1000 < held then
      (rc, (state.updateArmingSafety throttleLow rc.throttleOverrideOn).update .REQUEST_ARM params)
    else (rc, state)
  else
    -- Throttle down and yaw to the left disarms after one second.
    let held :=
      if throttleLow && FlightFloat.lt zStick (-(FlightFloat.lit 1 - armThreshold)) then
        saturatingAddU32 rc.timeSticksHaveBeenInArmingPositionMs dt
      else 0
    if 1000 < held then
      ({ rc with timeSticksHaveBeenInArmingPositionMs := 0 }, state.update .REQUEST_DISARM params)
    else ({ rc with timeSticksHaveBeenInArmingPositionMs := held }, state)

/-- Arming by a mapped switch. -/
def lookForSwitchSignal [FlightFloat F] (rc : Rc F) (armThreshold : F) (params : Params F)
    (state : StateManager) : StateManager :=
  let isArmed := state.isArmed
  if rc.switchOn .Arm then
    let state := state.updateArmingSafety (FlightFloat.lt (rc.stick .F) armThreshold)
      rc.throttleOverrideOn
    if !isArmed then state.update .REQUEST_ARM params else state
  else if isArmed then state.update .REQUEST_DISARM params
  else state

/-- Look for an arming or disarming gesture in a healthy sample. -/
def lookForArmDisarmSignal [FlightFloat F] (rc : Rc F) (nowMs : Nat) (params : Params F)
    (state : StateManager) : Rc F × StateManager :=
  let dt := nowMs - rc.prevTimeMs
  let rc := { rc with prevTimeMs := nowMs }
  let armThreshold := params.floatOr .PARAM_ARM_THRESHOLD (FlightFloat.lit 0.15)
  if !rc.switchMapped .Arm then rc.lookForStickSignal dt armThreshold params state
  else (rc, rc.lookForSwitchSignal armThreshold params state)

/-- Judge and interpret the latest sample. -/
def run [FlightFloat F] (rc : Rc F) (nowMs : Nat) (params : Params F) (state : StateManager) :
    Rc F × StateManager :=
  if rc.checkRcHealth (nowMs * 1000) params then
    let state := state.update (.ERROR_CLEARED ErrorFlag.RC_LOST) params
    let rc := { rc.processSticksAndSwitches with newCommand := true }
    rc.lookForArmDisarmSignal nowMs params state
  else
    ({ rc with newCommand := false }, state.update (.ERROR_OCCURRED ErrorFlag.RC_LOST) params)

/-- Consume the mark of a freshly interpreted sample. -/
def takeNewCommand (rc : Rc F) : Bool × Rc F := (rc.newCommand, { rc with newCommand := false })

end Rc

end Veloxity
