import Veloxity.Core.Binary32
import Veloxity.Library.ByteImage
import Veloxity.Params.Service

/-! The image in which parameters are kept while the power is off, shared with the C firmware. -/

namespace Veloxity

open Library

/-- Size of the stored image. -/
def rosflightCParamStorageSize : Nat := 7004

/-- Number of stored parameters. -/
def rosflightCParamCount : Nat := 333

/-- Width of a stored name. -/
def rosflightCParamNameSize : Nat := 16

/-- Width of a stored value. -/
def paramStorageValueSize : Nat := 4

/-- Width of a stored type. -/
def paramStorageTypeSize : Nat := 1

/-- Where the values start. -/
def paramStorageValuesOffset : Nat := 8

/-- Where the names start. -/
def paramStorageNamesOffset : Nat :=
  paramStorageValuesOffset + rosflightCParamCount * paramStorageValueSize

/-- Where the types start. -/
def paramStorageTypesOffset : Nat :=
  paramStorageNamesOffset + rosflightCParamCount * rosflightCParamNameSize

/-- Where the closing mark is. -/
def paramStorageMagicEfOffset : Nat :=
  paramStorageTypesOffset + rosflightCParamCount * paramStorageTypeSize

/-- Where the checksum is. -/
def paramStorageChecksumOffset : Nat := paramStorageMagicEfOffset + 1

/-- The stored image. -/
abbrev StorageImage := ByteImage rosflightCParamStorageSize

/-- Stored parameters in the order of the C firmware, where it differs from the table's. -/
def rosflightCTailOrder : List ParamId :=
  [.PARAM_OFFBOARD_TIMEOUT, .PARAM_BATTERY_VOLTAGE_MULTIPLIER, .PARAM_BATTERY_CURRENT_MULTIPLIER,
    .PARAM_BATTERY_VOLTAGE_ALPHA, .PARAM_BATTERY_CURRENT_ALPHA]

/-- A parameter that the C firmware has too. -/
def isRosflightCParam : ParamId → Bool
  | .PARAM_CHANNEL_OUTPUT_MASK | .PARAM_ALLOW_UNHEALTHY_ESTIMATOR | .PARAM_EST_ANGLE_LOCKOUT
  | .PARAM_RC_OUTPUT_KILL_CHANNEL | .PARAM_TELEM_HEARTBEAT_HZ | .PARAM_TELEM_STATUS_HZ
  | .PARAM_TELEM_IMU_HZ | .PARAM_TELEM_ATTITUDE_HZ | .PARAM_TELEM_OUTPUT_RAW_HZ
  | .PARAM_TELEM_DIFF_PRESSURE_HZ | .PARAM_TELEM_BARO_HZ | .PARAM_TELEM_MAG_HZ
  | .PARAM_TELEM_RANGE_HZ | .PARAM_TELEM_BATTERY_HZ | .PARAM_TELEM_GNSS_HZ
  | .PARAM_TELEM_RC_HZ => false
  | _ => true

/-- A parameter that the C firmware stores at the end. -/
def isRosflightCTailParam (id : ParamId) : Bool := rosflightCTailOrder.contains id

/-- The stored parameters in their stored order. -/
def rosflightCParams : List ParamId :=
  ParamId.table.filter (fun id => isRosflightCParam id && !isRosflightCTailParam id) ++
    rosflightCTailOrder

/-- The bytes of a parameter's name. -/
def ParamId.nameBytes (id : ParamId) : List UInt8 := id.asStr.toUTF8.data.toList

/-- The exclusive or of the bytes between the header and the closing mark. -/
def rosflightCChecksum (bytes : StorageImage) : UInt8 :=
  (bytes.slice paramStorageValuesOffset
    (paramStorageMagicEfOffset - paramStorageValuesOffset)).foldl (· ^^^ ·) 0

section

variable {F : Type}

/-- The code of a value's type, for the two types the C firmware has. -/
def rosflightCParamType : ParamValue F → Option UInt8
  | .int _ => some 0
  | .float _ => some 1
  | .uint _ | .bool _ => none

variable [FloatBits F]

/-- The bytes of a value of the type its parameter is declared with. -/
def encodeParamValue : ParamValue F → ParamValue F → Option (List UInt8)
  | .float value, .float _ => some (toLeBytes paramStorageValueSize (FloatBits.toBits value).toNat)
  | .int value, .int _ => some (toLeBytes paramStorageValueSize (BitVec.ofInt 32 value).toNat)
  | _, _ => none

/-- The value that stored bytes make of the type a parameter is declared with. -/
def decodeParamValue (bytes : List UInt8) : ParamValue F → Option (ParamValue F)
  | .float _ => some (.float (FloatBits.fromBits (UInt32.ofNat (fromLeBytes bytes))))
  | .int _ => some (.int (BitVec.ofNat 32 (fromLeBytes bytes)).toInt)
  | .uint _ | .bool _ => none

variable [FlightFloat F]

/-- Write the value, the name and the type of one parameter, reporting whether all could be. -/
def encodeField (params : Params F) (bytes : StorageImage) (index : Nat) (id : ParamId) :
    Bool × StorageImage :=
  match encodeParamValue (params.getById id) (ParamId.default id) with
  | none => (false, bytes)
  | some encoded =>
    let bytes := bytes.copyFromSlice
      (paramStorageValuesOffset + index * paramStorageValueSize) encoded
    if rosflightCParamNameSize < id.nameBytes.length then (false, bytes)
    else
      let bytes := bytes.copyFromSlice
        (paramStorageNamesOffset + index * rosflightCParamNameSize) id.nameBytes
      match rosflightCParamType (ParamId.default id : ParamValue F) with
      | none => (false, bytes)
      | some paramType =>
        (true, bytes.copyFromSlice (paramStorageTypesOffset + index * paramStorageTypeSize)
          [paramType])

/-- Write the listed parameters from an index on, up to the first that cannot be written. -/
def encodeFields (params : Params F) (bytes : StorageImage) : Nat → List ParamId →
    Bool × StorageImage
  | _, [] => (true, bytes)
  | index, id :: rest =>
    match encodeField params bytes index id with
    | (false, bytes) => (false, bytes)
    | (true, bytes) => encodeFields params bytes (index + 1) rest

/-- Write the marks before the fields: the firmware's version, the image's size, a fixed byte. -/
def encodeHeader (version : UInt32) : StorageImage :=
  let bytes : StorageImage := .filled 0
  let bytes := bytes.copyFromSlice 0 (toLeBytes 4 version.toNat)
  let bytes := bytes.copyFromSlice 4 (toLeBytes 2 rosflightCParamStorageSize)
  bytes.copyFromSlice 6 [0xBE]

/-- Write the parameters that the C firmware shares into an image, whatever it held, reporting
whether all could be written. -/
def encodeRosflightCParams (version : UInt32) (params : Params F) (_bytes : StorageImage) :
    Bool × StorageImage :=
  match encodeFields params (encodeHeader version) 0 rosflightCParams with
  | (false, bytes) => (false, bytes)
  | (true, bytes) =>
    if rosflightCParams.length ≠ rosflightCParamCount then (false, bytes)
    else
      let bytes := bytes.copyFromSlice paramStorageMagicEfOffset [0xEF]
      (true, bytes.copyFromSlice paramStorageChecksumOffset [rosflightCChecksum bytes])

/-- Read one parameter, if its stored name and type are those expected. -/
def decodeField (bytes : StorageImage) (params : Params F) (index : Nat) (id : ParamId) :
    Option (Params F) :=
  let storedName :=
    bytes.slice (paramStorageNamesOffset + index * rosflightCParamNameSize) rosflightCParamNameSize
  let expectedName := id.nameBytes
  if storedName.take expectedName.length ≠ expectedName ∨
      (expectedName.length < rosflightCParamNameSize ∧ storedName.getD expectedName.length 0 ≠ 0)
  then none
  else
    match rosflightCParamType (ParamId.default id : ParamValue F) with
    | none => none
    | some paramType =>
      if bytes.byteAt (paramStorageTypesOffset + index * paramStorageTypeSize) ≠ paramType then none
      else
        match decodeParamValue
            (bytes.slice (paramStorageValuesOffset + index * paramStorageValueSize)
              paramStorageValueSize) (ParamId.default id) with
        | none => none
        | some value => some (params.setById id value)

/-- Read the listed parameters from an index on, up to the first that is not as expected. -/
def decodeFields (bytes : StorageImage) (params : Params F) : Nat → List ParamId →
    Option (Params F)
  | _, [] => some params
  | index, id :: rest =>
    match decodeField bytes params index id with
    | none => none
    | some params => decodeFields bytes params (index + 1) rest

/-- Read a list of parameters of the stored number over the defaults. -/
def decodeRosflightCParamsInOrder (bytes : StorageImage) (definitions : List ParamId) :
    Option (Params F) :=
  match decodeFields bytes Params.new 0 definitions with
  | none => none
  | some params => if definitions.length = rosflightCParamCount then some params else none

/-- Read an image whose marks and checksum are right. -/
def decodeRosflightCParams (version : UInt32) (bytes : StorageImage) : Option (Params F) :=
  if fromLeBytes (bytes.slice 0 4) ≠ version.toNat ∨
      fromLeBytes (bytes.slice 4 2) ≠ rosflightCParamStorageSize ∨
      bytes.byteAt 6 ≠ 0xBE ∨
      bytes.byteAt paramStorageMagicEfOffset ≠ 0xEF ∨
      bytes.byteAt paramStorageChecksumOffset ≠ rosflightCChecksum bytes
  then none
  else decodeRosflightCParamsInOrder bytes rosflightCParams

end

end Veloxity
