import Mathlib.Data.Fin.Basic

/-! Sensor packets as the board hands them over. -/

namespace Veloxity

/-- Timestamp in microseconds and device status of a packet. -/
structure RosflightPacketHeader where
  timestamp : Nat := 0
  status : Nat := 0
  deriving DecidableEq, Repr

/-- Battery voltage and current. -/
structure BatteryPacket (F : Type) where
  header : RosflightPacketHeader
  voltage : F
  current : F

/-- Inertial sample, with rates and accelerations in the control law's format. -/
structure ImuPacket (F R : Type) where
  header : RosflightPacketHeader
  accel : Fin 3 → R
  gyro : Fin 3 → R
  temperature : F
  seq : Nat

/-- Barometer sample. -/
structure BaroPacket (F : Type) where
  header : RosflightPacketHeader
  pressure : F
  temperature : F
  altitude : F

/-- Airspeed sample. -/
structure PitotPacket (F : Type) where
  header : RosflightPacketHeader
  differentialPressure : F
  temperature : F
  indicatedAirspeed : F

/-- Magnetometer sample. -/
structure MagPacket (F : Type) where
  header : RosflightPacketHeader
  flux : Fin 3 → F
  temperature : F

/-- Channels an RC packet can carry. -/
abbrev rcPacketChannels : Nat := 24

/-- Radio-control sample with normalised channels and a loss-of-link mark. -/
structure RcPacket (F : Type) where
  header : RosflightPacketHeader
  nChan : Nat
  chan : Fin rcPacketChannels → F
  lol : Bool

/-- Range finder sample. -/
structure RangePacket (F : Type) where
  header : RosflightPacketHeader
  range : F
  minRange : F
  maxRange : F

/-- Satellite navigation sample, of which the core only reads when it was taken. -/
structure GNSSPacket where
  header : RosflightPacketHeader

/-- Attitude reported by an external sensor. -/
structure AttitudePacket (F : Type) where
  header : RosflightPacketHeader
  q : Fin 4 → F
  rate : Fin 3 → F

end Veloxity
