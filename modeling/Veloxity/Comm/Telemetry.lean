import Mathlib.Logic.Function.Basic
import Veloxity.Core.Machine
import Veloxity.Core.Params
import Veloxity.Sensors.Bus

/-! Which telemetry streams are due, and what sending one of them remembers. -/

namespace Veloxity

/-- The named telemetry streams. -/
inductive NamedTelemetryStream where
  | heartbeat | status | imu | rc | attitude | outputRaw | gnss | diffPressure | baro | mag | range
  | battery
  deriving DecidableEq, Repr

/-- When a prioritised stream may be sent. -/
inductive RealtimeTelemetryPriorityGate where
  | dueDeadline
  | freshSample
  deriving DecidableEq, Repr

/-- A stream a board wants sent first, and when. -/
structure RealtimeTelemetryPriority where
  stream : NamedTelemetryStream
  gate : RealtimeTelemetryPriorityGate
  deriving DecidableEq, Repr

/-- Rate that switches a stream off. -/
def TELEMETRY_RATE_DISABLED : Nat := 65535

/-- Highest rate a parameter can ask for. -/
def MAX_TELEMETRY_RATE_HZ : Int := 2000

/-- Rate of each stream, and how many inertial samples share one raw output. -/
structure TelemetryRates where
  hz : NamedTelemetryStream → Nat
  outputRawImuDivisor : Nat

/-- Parameter that sets the rate of a stream. -/
def NamedTelemetryStream.rateParam : NamedTelemetryStream → ParamId
  | .heartbeat => .PARAM_TELEM_HEARTBEAT_HZ
  | .status => .PARAM_TELEM_STATUS_HZ
  | .imu => .PARAM_TELEM_IMU_HZ
  | .rc => .PARAM_TELEM_RC_HZ
  | .attitude => .PARAM_TELEM_ATTITUDE_HZ
  | .outputRaw => .PARAM_TELEM_OUTPUT_RAW_HZ
  | .gnss => .PARAM_TELEM_GNSS_HZ
  | .diffPressure => .PARAM_TELEM_DIFF_PRESSURE_HZ
  | .baro => .PARAM_TELEM_BARO_HZ
  | .mag => .PARAM_TELEM_MAG_HZ
  | .range => .PARAM_TELEM_RANGE_HZ
  | .battery => .PARAM_TELEM_BATTERY_HZ

/-- Stream whose rate a parameter sets. -/
def telemetryStreamForParam : ParamId → Option NamedTelemetryStream
  | .PARAM_TELEM_HEARTBEAT_HZ => some .heartbeat
  | .PARAM_TELEM_STATUS_HZ => some .status
  | .PARAM_TELEM_IMU_HZ => some .imu
  | .PARAM_TELEM_ATTITUDE_HZ => some .attitude
  | .PARAM_TELEM_OUTPUT_RAW_HZ => some .outputRaw
  | .PARAM_TELEM_DIFF_PRESSURE_HZ => some .diffPressure
  | .PARAM_TELEM_BARO_HZ => some .baro
  | .PARAM_TELEM_MAG_HZ => some .mag
  | .PARAM_TELEM_RANGE_HZ => some .range
  | .PARAM_TELEM_BATTERY_HZ => some .battery
  | .PARAM_TELEM_GNSS_HZ => some .gnss
  | .PARAM_TELEM_RC_HZ => some .rc
  | _ => none

variable {F R : Type}

/-- Rate a parameter asks for, where every negative value switches the stream off. -/
def telemetryRateParam (params : Params F) (id : ParamId) : Nat :=
  match params.getById id with
  | .int value => if value ≤ -1 then TELEMETRY_RATE_DISABLED
    else asU16 (min value MAX_TELEMETRY_RATE_HZ)
  | _ => TELEMETRY_RATE_DISABLED

namespace TelemetryRates

/-- Rates set by the parameters, which never share raw outputs between samples. -/
def fromParams (params : Params F) : TelemetryRates where
  hz stream := telemetryRateParam params stream.rateParam
  outputRawImuDivisor := 0

/-- Rates before any configuration. -/
def upstream : TelemetryRates where
  hz
    | .heartbeat => 1
    | .status => 10
    | _ => 0
  outputRawImuDivisor := 8

end TelemetryRates

/-- Timestamp of the sample a stream would send. -/
def telemetryStreamSampleTimestamp (stream : NamedTelemetryStream)
    (sensors : ProcessedSensors F R) : Option Nat :=
  match stream with
  | .imu | .attitude | .outputRaw => sensors.imu.map fun packet => packet.header.timestamp
  | .rc => sensors.rc.map fun packet => packet.header.timestamp
  | .gnss => sensors.gnss.map fun packet => packet.header.timestamp
  | .diffPressure => sensors.pitot.map fun packet => packet.header.timestamp
  | .baro => sensors.baro.map fun packet => packet.header.timestamp
  | .mag => sensors.mag.map fun packet => packet.header.timestamp
  | .range => sensors.range.map fun packet => packet.header.timestamp
  | .battery => sensors.battery.map fun packet => packet.header.timestamp
  | .heartbeat | .status => none

/-- Whether a sampled stream is due, and its period start once it has been asked. -/
def streamDue (nowUs lastUs rateHz : Nat) : Bool × Nat :=
  if rateHz = TELEMETRY_RATE_DISABLED then (false, lastUs)
  else if rateHz = 0 then (true, if lastUs = 0 then nowUs else lastUs)
  else
    let intervalUs := 1000000 / rateHz
    if lastUs = 0 then (true, nowUs)
    else if intervalUs ≤ nowUs - lastUs then
      -- Whole periods are skipped, so that a late stream does not catch up in a burst.
      let elapsedIntervals := (nowUs - lastUs) / intervalUs
      (true, saturatingAddU64 lastUs (saturatingMulU64 elapsedIntervals intervalUs))
    else (false, lastUs)

/-- Deadline a sampled stream has passed. -/
def streamDueDeadlineUs (nowUs lastUs rateHz : Nat) : Option Nat :=
  if rateHz = TELEMETRY_RATE_DISABLED then none
  else if rateHz = 0 then some (if lastUs = 0 then 0 else nowUs)
  else if lastUs = 0 then some 0
  else
    let intervalUs := 1000000 / rateHz
    if intervalUs ≤ nowUs - lastUs then some (saturatingAddU64 lastUs intervalUs) else none

/-- Whether a fixed-rate stream is due. -/
def fixedRateDue (nowUs lastUs rateHz : Nat) : Bool :=
  if rateHz = TELEMETRY_RATE_DISABLED then false
  else if rateHz = 0 then true
  else decide (1000000 / rateHz ≤ nowUs - lastUs)

/-- Deadline a fixed-rate stream has passed. -/
def fixedRateDueDeadlineUs (nowUs lastUs rateHz : Nat) : Option Nat :=
  if rateHz = TELEMETRY_RATE_DISABLED then none
  else if rateHz = 0 then some nowUs
  else
    let intervalUs := 1000000 / rateHz
    if intervalUs ≤ nowUs - lastUs then some (saturatingAddU64 lastUs intervalUs) else none

/-- The telemetry half of the communication manager, with the streams it has put on the link. -/
structure TelemetrySender where
  lastHeartbeatUs : Nat
  lastStatusSendUs : Nat
  outputRawImuCount : Nat
  telemetryRates : TelemetryRates
  telemetryRateState : NamedTelemetryStream → Nat
  telemetryFreshness : NamedTelemetryStream → Option Nat
  commLink : List NamedTelemetryStream

namespace TelemetrySender

/-- A sender that has sent nothing yet. -/
def new (nowUs : Nat) : TelemetrySender where
  lastHeartbeatUs := nowUs
  lastStatusSendUs := nowUs
  outputRawImuCount := 0
  telemetryRates := .upstream
  telemetryRateState _ := 0
  telemetryFreshness _ := none
  commLink := []

/-- Adopt new rates, starting every period afresh but keeping what has been sent. -/
def setTelemetryRates (sender : TelemetrySender) (telemetryRates : TelemetryRates) :
    TelemetrySender :=
  { sender with telemetryRates, telemetryRateState := fun _ => 0, outputRawImuCount := 0 }

/-- Adopt the rates the parameters ask for. -/
def configureTelemetryFromParams (sender : TelemetrySender) (params : Params F) :
    TelemetrySender :=
  sender.setTelemetryRates (.fromParams params)

/-- Adopt one changed rate parameter, starting a new period of its stream alone. -/
def updateTelemetryParam (sender : TelemetrySender) (params : Params F) (id : ParamId)
    (nowUs : Nat) : TelemetrySender × Bool :=
  match telemetryStreamForParam id with
  | none => (sender, false)
  | some stream =>
    let rates := { sender.telemetryRates with
      hz := Function.update sender.telemetryRates.hz stream (telemetryRateParam params id) }
    match stream with
    | .heartbeat => ({ sender with telemetryRates := rates, lastHeartbeatUs := nowUs }, true)
    | .status => ({ sender with telemetryRates := rates, lastStatusSendUs := nowUs }, true)
    | stream =>
      let restarted := Function.update sender.telemetryRateState stream nowUs
      if stream = .outputRaw then
        ({ sender with
          telemetryRates := { rates with outputRawImuDivisor := 0 }
          telemetryRateState := restarted
          outputRawImuCount := 0 }, true)
      else ({ sender with telemetryRates := rates, telemetryRateState := restarted }, true)

/-- Timestamp of the sample a stream last sent. -/
def lastSent (sender : TelemetrySender) (stream : NamedTelemetryStream) : Option Nat :=
  match stream with
  | .heartbeat | .status => none
  | _ => sender.telemetryFreshness stream

/-- Remember the sample a stream has sent. -/
def markSent (sender : TelemetrySender) (stream : NamedTelemetryStream) (timestamp : Nat) :
    TelemetrySender :=
  match stream with
  | .heartbeat | .status => sender
  | _ =>
    { sender with
      telemetryFreshness := Function.update sender.telemetryFreshness stream (some timestamp) }

/-- Put one message of a stream on the link. -/
def transmit (sender : TelemetrySender) (stream : NamedTelemetryStream) : TelemetrySender :=
  { sender with commLink := sender.commLink ++ [stream] }

/-- A raw output is due by its share of the inertial samples. -/
def outputRawDueByCount (sender : TelemetrySender) : Bool :=
  sender.telemetryRates.outputRawImuDivisor ≠ 0 &&
    sender.outputRawImuCount % sender.telemetryRates.outputRawImuDivisor = 0

/-- Deadline a stream with a sample has passed, by its own rate. -/
def sampleDeadline (sender : TelemetrySender) (stream : NamedTelemetryStream) (nowUs : Nat) :
    Option Nat :=
  if stream = .outputRaw ∧ sender.telemetryRates.hz .outputRaw = 0 then
    if sender.outputRawDueByCount then some nowUs else none
  else
    streamDueDeadlineUs nowUs (sender.telemetryRateState stream) (sender.telemetryRates.hz stream)

/-- Deadline a stream has passed, if it is due and its sample has not been sent. -/
def namedTelemetryStreamDeadline (sender : TelemetrySender) (stream : NamedTelemetryStream)
    (nowUs : Nat) (sensors : ProcessedSensors F R) : Option Nat :=
  match stream with
  | .heartbeat =>
    fixedRateDueDeadlineUs nowUs sender.lastHeartbeatUs (sender.telemetryRates.hz .heartbeat)
  | .status =>
    fixedRateDueDeadlineUs nowUs sender.lastStatusSendUs (sender.telemetryRates.hz .status)
  | stream =>
    match telemetryStreamSampleTimestamp stream sensors with
    | none => none
    | some timestamp =>
      if sender.lastSent stream = some timestamp then none
      else sender.sampleDeadline stream nowUs

/-- Streams in the order the selection considers them, without those whose sensor is silent. -/
def consideredStreams (sensors : ProcessedSensors F R) : List NamedTelemetryStream :=
  [.heartbeat, .status] ++
  (if sensors.imu.isSome then [.imu, .attitude, .outputRaw] else []) ++
  (if sensors.rc.isSome then [.rc] else []) ++
  (if sensors.gnss.isSome then [.gnss] else []) ++
  (if sensors.pitot.isSome then [.diffPressure] else []) ++
  (if sensors.baro.isSome then [.baro] else []) ++
  (if sensors.mag.isSome then [.mag] else []) ++
  (if sensors.range.isSome then [.range] else []) ++
  (if sensors.battery.isSome then [.battery] else [])

/-- Keep the earlier of the selected deadline and a stream's own. -/
def consider (sender : TelemetrySender) (nowUs : Nat) (sensors : ProcessedSensors F R)
    (selected : Option (NamedTelemetryStream × Nat)) (stream : NamedTelemetryStream) :
    Option (NamedTelemetryStream × Nat) :=
  match sender.namedTelemetryStreamDeadline stream nowUs sensors with
  | none => selected
  | some deadline =>
    match selected with
    | none => some (stream, deadline)
    | some (earlier, selectedDeadline) =>
      if deadline < selectedDeadline then some (stream, deadline)
      else some (earlier, selectedDeadline)

/-- The due stream with the earliest deadline. -/
def selectDueNamedTelemetryStream (sender : TelemetrySender) (nowUs : Nat)
    (sensors : ProcessedSensors F R) : Option NamedTelemetryStream :=
  ((consideredStreams sensors).foldl (sender.consider nowUs sensors) none).map Prod.fst

/-- Some stream is due. -/
def namedTelemetryDue (sender : TelemetrySender) (nowUs : Nat) (sensors : ProcessedSensors F R) :
    Bool :=
  (sender.selectDueNamedTelemetryStream nowUs sensors).isSome

/-- Ask whether a stream is due by its rate, starting its next period if so. -/
def takeDue (sender : TelemetrySender) (stream : NamedTelemetryStream) (nowUs : Nat) :
    TelemetrySender × Bool :=
  let due := streamDue nowUs (sender.telemetryRateState stream) (sender.telemetryRates.hz stream)
  ({ sender with
    telemetryRateState := Function.update sender.telemetryRateState stream due.2 }, due.1)

/-- Send a sampled stream if its rate allows. -/
def sendIfDue (sender : TelemetrySender) (stream : NamedTelemetryStream) (nowUs : Nat) :
    TelemetrySender × Bool :=
  let asked := sender.takeDue stream nowUs
  if asked.2 then (asked.1.transmit stream, true) else asked

/-- Send the inertial sample if it is new and its rate allows. -/
def sendImuIfDue (sender : TelemetrySender) (nowUs : Nat) (sensors : ProcessedSensors F R) :
    TelemetrySender × Bool :=
  match sensors.imu with
  | none => (sender, false)
  | some packet =>
    if sender.lastSent .imu = some packet.header.timestamp then (sender, false)
    else sender.sendIfDue .imu nowUs

/-- Send the inertial sample if it is new, whatever its rate. -/
def sendImuIfFresh (sender : TelemetrySender) (nowUs : Nat) (sensors : ProcessedSensors F R) :
    TelemetrySender × Bool :=
  match sensors.imu with
  | none => (sender, false)
  | some packet =>
    if sender.lastSent .imu = some packet.header.timestamp then (sender, false)
    else
      let sent := sender.transmit .imu
      ({ sent with telemetryRateState := Function.update sent.telemetryRateState .imu nowUs }, true)

/-- Send the raw outputs if due, counting the inertial sample either way. -/
def sendOutputRaw (sender : TelemetrySender) (nowUs : Nat) : TelemetrySender × Bool :=
  let asked :=
    if sender.telemetryRates.hz .outputRaw = 0 then (sender, sender.outputRawDueByCount)
    else sender.takeDue .outputRaw nowUs
  let counted := { asked.1 with
    outputRawImuCount := (asked.1.outputRawImuCount + 1) % longWordSize }
  if asked.2 then (counted.transmit .outputRaw, true) else (counted, false)

/-- Send one message of a stream, without remembering its sample. -/
def sendStream (sender : TelemetrySender) (stream : NamedTelemetryStream)
    (gate : RealtimeTelemetryPriorityGate) (nowUs : Nat) (sensors : ProcessedSensors F R) :
    TelemetrySender × Bool :=
  match stream with
  | .heartbeat => ({ sender.transmit .heartbeat with lastHeartbeatUs := nowUs }, true)
  | .status => ({ sender.transmit .status with lastStatusSendUs := nowUs }, true)
  | .imu =>
    match gate with
    | .dueDeadline => sender.sendImuIfDue nowUs sensors
    | .freshSample => sender.sendImuIfFresh nowUs sensors
  | .outputRaw => if sensors.imu.isSome then sender.sendOutputRaw nowUs else (sender, false)
  | stream =>
    if (telemetryStreamSampleTimestamp stream sensors).isSome then sender.sendIfDue stream nowUs
    else (sender, false)

/-- Send one message of a stream and remember its sample. -/
def sendSelectedWithGate (sender : TelemetrySender) (stream : NamedTelemetryStream)
    (gate : RealtimeTelemetryPriorityGate) (nowUs : Nat) (sensors : ProcessedSensors F R) :
    TelemetrySender × Bool :=
  let sent := sender.sendStream stream gate nowUs sensors
  match sent.2, telemetryStreamSampleTimestamp stream sensors with
  | true, some timestamp => (sent.1.markSent stream timestamp, true)
  | _, _ => sent

/-- Send the most urgent due stream, reporting whether there was one. -/
def sendOneNamedTelemetryStream (sender : TelemetrySender) (nowUs : Nat)
    (sensors : ProcessedSensors F R) : TelemetrySender × Bool :=
  match sender.selectDueNamedTelemetryStream nowUs sensors with
  | none => (sender, false)
  | some stream => sender.sendSelectedWithGate stream .dueDeadline nowUs sensors

/-- Send a given stream if it is due. -/
def sendNamedTelemetryStreamIfDue (sender : TelemetrySender) (stream : NamedTelemetryStream)
    (nowUs : Nat) (sensors : ProcessedSensors F R) : TelemetrySender × Bool :=
  if (sender.namedTelemetryStreamDeadline stream nowUs sensors).isNone then (sender, false)
  else sender.sendSelectedWithGate stream .dueDeadline nowUs sensors

/-- Send a stream of the batch if its sample is new and its rate allows. -/
def sendFreshIfDue (sensors : ProcessedSensors F R) (nowUs : Nat) (sender : TelemetrySender)
    (stream : NamedTelemetryStream) : TelemetrySender :=
  match telemetryStreamSampleTimestamp stream sensors with
  | none => sender
  | some timestamp =>
    if sender.lastSent stream = some timestamp then sender
    else if stream = .outputRaw ∧ sender.telemetryRates.hz .outputRaw = 0 then
      -- Sharing by count consumes every new sample, sent or not.
      let sent := if sender.outputRawDueByCount then sender.transmit .outputRaw else sender
      let marked := sent.markSent .outputRaw timestamp
      { marked with outputRawImuCount := (marked.outputRawImuCount + 1) % longWordSize }
    else
      let sent := sender.sendIfDue stream nowUs
      if sent.2 then sent.1.markSent stream timestamp else sent.1

/-- Send every stream that is due, in the order of the batch. -/
def sendNamedTelemetryStreams (sender : TelemetrySender) (nowUs : Nat)
    (sensors : ProcessedSensors F R) : TelemetrySender :=
  let beaten :=
    if fixedRateDue nowUs sender.lastHeartbeatUs (sender.telemetryRates.hz .heartbeat) then
      { sender.transmit .heartbeat with lastHeartbeatUs := nowUs }
    else sender
  let reported :=
    if fixedRateDue nowUs beaten.lastStatusSendUs (beaten.telemetryRates.hz .status) then
      { beaten.transmit .status with lastStatusSendUs := nowUs }
    else beaten
  [NamedTelemetryStream.imu, .attitude, .outputRaw, .diffPressure, .baro, .mag, .range, .battery,
    .gnss, .rc].foldl (sendFreshIfDue sensors nowUs) reported

end TelemetrySender

end Veloxity
