import Mathlib.Data.List.Basic
import Veloxity.Library.FallibleRun

/-! The byte-fed MAVLink frame parser, with every index and subtraction checked. -/

namespace Veloxity

/-- Reasons the parser's arithmetic or indexing would panic. -/
inductive Panic where
  | indexOutOfBounds (index : Nat)
  | subtractOverflow
  deriving DecidableEq, Repr

/-- Results of code that may panic. -/
abbrev Checked (α : Type) := Except Panic α

/-- Size of the frame buffer in bytes. -/
abbrev maxFrameSizeBytes : Nat := 280

/-- The byte that starts every MAVLink v1 frame. -/
abbrev startByte : UInt8 := 0xFE

/-- A buffer with the capacity of one frame. -/
abbrev FrameBuffer := Vector UInt8 maxFrameSizeBytes

/-- A checksum-valid frame handed to the message decoder. -/
structure CompleteFrame where
  data : FrameBuffer
  len : Nat
  deriving DecidableEq

/-- Progress of the parser through one candidate frame. -/
inductive ParseState where
  | waitingForStart
  | readingHeader
  | readingPayload (expectedLen : Nat)
  | readingChecksum (bytesRemaining : Nat)
  deriving DecidableEq, Repr

/-- The parser's buffer, write position and state. -/
structure MavlinkParser where
  frameBuf : FrameBuffer
  framePos : Nat
  state : ParseState
  deriving DecidableEq

/-- Read one buffer byte, or panic outside the buffer. -/
def FrameBuffer.load (buf : FrameBuffer) (index : Nat) : Checked UInt8 :=
  if inside : index < maxFrameSizeBytes then .ok buf[index] else .error (.indexOutOfBounds index)

/-- Write one buffer byte, or panic outside the buffer. -/
def FrameBuffer.store (buf : FrameBuffer) (index : Nat) (byte : UInt8) : Checked FrameBuffer :=
  if inside : index < maxFrameSizeBytes then .ok (buf.set index byte)
  else .error (.indexOutOfBounds index)

/-- Subtract machine counters, or panic below zero. -/
def checkedSub (left right : Nat) : Checked Nat :=
  if right ≤ left then .ok (left - right) else .error .subtractOverflow

/-- Fold one byte into the running MAVLink checksum. -/
def crcAccumulate (data : UInt8) (crc : UInt16) : UInt16 :=
  -- The byte-wide shift drops its high bits before the value is widened.
  let tmp := data ^^^ crc.toUInt8
  let tmp := tmp ^^^ (tmp <<< 4)
  let tmp16 := tmp.toUInt16
  (crc >>> 8) ^^^ (tmp16 <<< 8) ^^^ (tmp16 <<< 3) ^^^ (tmp16 >>> 4)

/-- The message-specific checksum seed, zero for messages the parser does not know. -/
def crcExtra (msgId : UInt8) : UInt8 :=
  match msgId with
  | 0 => 50     -- HEARTBEAT
  | 20 => 214   -- PARAM_REQUEST_READ
  | 21 => 159   -- PARAM_REQUEST_LIST
  | 22 => 220   -- PARAM_VALUE
  | 23 => 168   -- PARAM_SET
  | 31 => 246   -- ATTITUDE_QUATERNION
  | 65 => 118   -- RC_CHANNELS
  | 111 => 34   -- TIMESYNC
  | 180 => 90   -- OFFBOARD_CONTROL
  | 181 => 67   -- SMALL_IMU
  | 182 => 218  -- SMALL_MAG
  | 183 => 206  -- SMALL_BARO
  | 184 => 169  -- DIFF_PRESSURE
  | 187 => 60   -- SMALL_RANGE
  | 188 => 249  -- ROSFLIGHT_CMD
  | 189 => 113  -- ROSFLIGHT_CMD_ACK
  | 190 => 181  -- ROSFLIGHT_OUTPUT_RAW
  | 191 => 12   -- ROSFLIGHT_STATUS
  | 192 => 134  -- ROSFLIGHT_VERSION
  | 193 => 1    -- ROSFLIGHT_AUX_CMD
  | 195 => 65   -- EXTERNAL_ATTITUDE
  | 196 => 10   -- ROSFLIGHT_HARD_ERROR
  | 197 => 221  -- ROSFLIGHT_GNSS
  | 199 => 48   -- ROSFLIGHT_BATTERY_STATUS
  | 253 => 83   -- STATUSTEXT
  | _ => 0

/-- Accumulate the buffer bytes at the listed indices. -/
def crcOver (buf : FrameBuffer) : List Nat → UInt16 → Checked UInt16
  | [], crc => .ok crc
  | index :: rest, crc => do
    let byte ← buf.load index
    crcOver buf rest (crcAccumulate byte crc)

/-- The checksum of a candidate whose payload has the given length. -/
def calculateCrc (buf : FrameBuffer) (payloadLen : Nat) : Checked UInt16 := do
  -- Length, sequence, system, component and message bytes precede the payload.
  let crc ← crcOver buf (List.range' 1 (5 + payloadLen)) 0xFFFF
  let msgId ← buf.load 5
  let extra := crcExtra msgId
  if extra ≠ 0 then return crcAccumulate extra crc else return crc

/-- Copy bytes between buffers in increasing index order. -/
def copyBytes (source target : FrameBuffer) : List Nat → Checked FrameBuffer
  | [] => .ok target
  | index :: rest => do
    let byte ← source.load index
    let target ← target.store index byte
    copyBytes source target rest

/-- Find the first listed index that holds a start byte. -/
def findStart (buf : FrameBuffer) : List Nat → Checked (Option Nat)
  | [] => .ok none
  | index :: rest => do
    let byte ← buf.load index
    if byte = startByte then return some index else findStart buf rest

/-- Move bytes down in place, so later reads see earlier writes. -/
def shiftDown (startPos : Nat) : FrameBuffer → List Nat → Checked FrameBuffer
  | buf, [] => .ok buf
  | buf, index :: rest => do
    let byte ← buf.load (startPos + index)
    let buf ← buf.store index byte
    shiftDown startPos buf rest

namespace MavlinkParser

/-- A parser that has seen no bytes. -/
def new : MavlinkParser :=
  { frameBuf := Vector.replicate maxFrameSizeBytes 0, framePos := 0, state := .waitingForStart }

/-- Discard the candidate and wait for a start byte, leaving the buffer bytes in place. -/
def reset (parser : MavlinkParser) : MavlinkParser :=
  { parser with framePos := 0, state := .waitingForStart }

/-- Keep whatever follows the next start byte of a candidate whose checksum failed. -/
def resynchronise (parser : MavlinkParser) : Checked MavlinkParser := do
  match ← findStart parser.frameBuf (List.range' 1 (parser.framePos - 1)) with
  | some startPos =>
    -- The retained suffix restarts as a header, however long it already is.
    let remaining ← checkedSub parser.framePos startPos
    let frameBuf ← shiftDown startPos parser.frameBuf (List.range remaining)
    return { frameBuf, framePos := remaining, state := .readingHeader }
  | none => return parser.reset

/-- Judge a candidate whose last checksum byte has just been stored. -/
def finishFrame (parser : MavlinkParser) : Checked (MavlinkParser × Option CompleteFrame) := do
  let payloadLen ← parser.frameBuf.load 1
  let crcLow ← parser.frameBuf.load (← checkedSub parser.framePos 2)
  let crcHigh ← parser.frameBuf.load (← checkedSub parser.framePos 1)
  let receivedCrc := (crcHigh.toUInt16 <<< 8) ||| crcLow.toUInt16
  let calculatedCrc ← calculateCrc parser.frameBuf payloadLen.toNat
  if receivedCrc = calculatedCrc then
    let data ← copyBytes parser.frameBuf (Vector.replicate maxFrameSizeBytes 0)
      (List.range parser.framePos)
    return (parser.reset, some { data, len := parser.framePos })
  else
    return (← parser.resynchronise, none)

/-- Append a byte to the candidate. -/
def storeNext (parser : MavlinkParser) (byte : UInt8) : Checked MavlinkParser := do
  let frameBuf ← parser.frameBuf.store parser.framePos byte
  return { parser with frameBuf, framePos := parser.framePos + 1 }

/-- Advance the parser by one received byte. -/
def feedByte (parser : MavlinkParser) (byte : UInt8) :
    Checked (MavlinkParser × Option CompleteFrame) := do
  match parser.state with
  | .waitingForStart =>
    if byte = startByte then
      let frameBuf ← parser.frameBuf.store 0 byte
      return ({ frameBuf, framePos := 1, state := .readingHeader }, none)
    else return (parser, none)
  | .readingHeader =>
    let parser ← parser.storeNext byte
    if 6 ≤ parser.framePos then
      let payloadLen ← parser.frameBuf.load 1
      -- The length is a byte, so this guard of the source never fires.
      if 255 < payloadLen.toNat then return (parser.reset, none)
      else if payloadLen.toNat = 0 then
        return ({ parser with state := .readingChecksum 2 }, none)
      else return ({ parser with state := .readingPayload payloadLen.toNat }, none)
    else return (parser, none)
  | .readingPayload expectedLen =>
    let parser ← parser.storeNext byte
    let payloadBytesRead ← checkedSub parser.framePos 6
    if expectedLen ≤ payloadBytesRead then
      return ({ parser with state := .readingChecksum 2 }, none)
    else return (parser, none)
  | .readingChecksum bytesRemaining =>
    let parser ← parser.storeNext byte
    if bytesRemaining = 1 then parser.finishFrame
    else
      let bytesRemaining ← checkedSub bytesRemaining 1
      return ({ parser with state := .readingChecksum bytesRemaining }, none)

/-- Feed a byte stream in order, collecting the frames emitted before any panic. -/
def feedBytes (parser : MavlinkParser) (bytes : List UInt8) :
    Checked (MavlinkParser × List CompleteFrame) :=
  Library.feedAll feedByte parser bytes

end MavlinkParser

end Veloxity
