import Veloxity.Core.FlightFloat
import Veloxity.Core.Packets
import Veloxity.Library.ByteImage

/-! Satellite navigation packets, and the integers they are read from. -/

namespace Veloxity

open Library

/-- What kind of position the receiver has found. -/
inductive GNSSFixType where
  | noFix
  | deadReckoningOnly
  | twoD
  | threeD
  | gnssPlusDeadReckoning
  | timeFixOnly
  deriving DecidableEq, Repr

/-- The fix type a byte stands for. -/
def GNSSFixType.fromU8 (value : UInt8) : GNSSFixType :=
  match value with
  | 0 => .noFix
  | 1 => .deadReckoningOnly
  | 2 => .twoD
  | 3 => .threeD
  | 4 => .gnssPlusDeadReckoning
  | 5 => .timeFixOnly
  | _ => .noFix

/-- A satellite navigation sample with all that a receiver reports. -/
structure NavPvtPacket (F D : Type) extends GNSSPacket where
  unixSeconds : Int
  unixNanos : Int
  lat : D
  lon : D
  heightMsl : F
  velN : F
  velE : F
  velD : F
  hAcc : F
  vAcc : F
  sAcc : F
  month : UInt8
  year : Nat
  day : UInt8
  hour : UInt8
  min : UInt8
  sec : UInt8
  nano : Int
  fixType : GNSSFixType
  numSats : UInt8
  magDec : F
  timeCorrection : Nat

/-- The byte at an offset. -/
def u8At (payload : List UInt8) (offset : Nat) : UInt8 := payload.getD offset 0

/-- The unsigned number in the bytes from an offset on. -/
def unsignedAt (payload : List UInt8) (offset width : Nat) : Nat :=
  fromLeBytes ((List.range width).map fun index => u8At payload (offset + index))

/-- The unsigned 16-bit number at an offset. -/
def u16At (payload : List UInt8) (offset : Nat) : Nat := unsignedAt payload offset 2

/-- The unsigned 32-bit number at an offset. -/
def u32At (payload : List UInt8) (offset : Nat) : Nat := unsignedAt payload offset 4

/-- The signed 16-bit number at an offset. -/
def i16At (payload : List UInt8) (offset : Nat) : Int :=
  if u16At payload offset < 32768 then u16At payload offset else u16At payload offset - 65536

/-- The signed 32-bit number at an offset. -/
def i32At (payload : List UInt8) (offset : Nat) : Int :=
  if u32At payload offset < 2147483648 then u32At payload offset
  else u32At payload offset - 4294967296

/-- Seconds since the epoch, from the civil date and time. -/
def unixSecondsFromUtc (year : Nat) (month day hour min sec : UInt8) : Int :=
  let m : Int := month.toNat
  let y : Int := year - (if m ≤ 2 then 1 else 0)
  let era := (if 0 ≤ y then y else y - 399).tdiv 400
  let yoe := y - era * 400
  let mp := m + (if 2 < m then -3 else 9)
  let doy := (153 * mp + 2).tdiv 5 + day.toNat - 1
  let doe := yoe * 365 + yoe.tdiv 4 - yoe.tdiv 100 + doy
  let days := era * 146097 + doe - 719468
  days * 86400 + hour.toNat * 3600 + min.toNat * 60 + sec.toNat

/-- The bit of a status word that a bit of a flag byte stands for. -/
def statusBit (flags mask : Nat) (bit : UInt16) : UInt16 := if flags &&& mask ≠ 0 then bit else 0

/-- The status word of a packet, from the receiver's four flag fields. -/
def navPvtStatus (valid flags flags2 : UInt8) (flags3 : Nat) : UInt16 :=
  statusBit valid.toNat 0x01 0x0001 ||| statusBit valid.toNat 0x02 0x0002 |||
    statusBit valid.toNat 0x04 0x0004 ||| statusBit valid.toNat 0x08 0x0008 |||
    statusBit flags.toNat 0x01 0x0010 ||| statusBit flags.toNat 0x02 0x0020 |||
    statusBit flags.toNat 0x10 0x0020 ||| statusBit flags.toNat 0x20 0x0040 |||
    statusBit flags.toNat 0x80 0x0080 |||
    statusBit flags2.toNat 0x20 0x0100 ||| statusBit flags2.toNat 0x40 0x0200 |||
    statusBit flags2.toNat 0x80 0x0400 |||
    statusBit flags3 0x0001 0x0800 ||| statusBit flags3 0x0010 0x1000

end Veloxity
