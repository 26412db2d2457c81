import Veloxity.Core.FlightFloat
import Veloxity.Core.Packets

/-! The raw and the processed sensor samples of one pass. -/

namespace Veloxity

/-- A sensor driver's complaint. -/
inductive SensorError where
  | genericSensorError (message : String)
  deriving DecidableEq, Repr

variable (F R : Type)

/-- What the board reported for each sensor, where nothing at all means no news. -/
structure SensorBus where
  imu : Option (Except SensorError (ImuPacket F R)) := none
  mag : Option (Except SensorError (MagPacket F)) := none
  baro : Option (Except SensorError (BaroPacket F)) := none
  pitot : Option (Except SensorError (PitotPacket F)) := none
  range : Option (Except SensorError (RangePacket F)) := none
  gnss : Option (Except SensorError GNSSPacket) := none
  battery : Option (Except SensorError (BatteryPacket F)) := none
  rc : Option (Except SensorError (RcPacket F)) := none
  attitude : Option (Except SensorError (AttitudePacket F)) := none

/-- The samples the rest of the firmware works with. -/
structure ProcessedSensors where
  imu : Option (ImuPacket F R) := none
  mag : Option (MagPacket F) := none
  baro : Option (BaroPacket F) := none
  pitot : Option (PitotPacket F) := none
  range : Option (RangePacket F) := none
  gnss : Option GNSSPacket := none
  battery : Option (BatteryPacket F) := none
  rc : Option (RcPacket F) := none
  attitude : Option (AttitudePacket F) := none

variable {F R}

/-- Air density from the latest pressure, or at sea level without one. -/
def ProcessedSensors.airDensity [FlightFloat R] [FloatCast F R]
    (sensors : ProcessedSensors F R) : R :=
  match sensors.baro with
  | some baro =>
    FlightFloat.lit 1.225 *
      FlightFloat.powf (FloatCast.fromF32 baro.pressure / FlightFloat.lit 101325)
        (FlightFloat.lit 0.809736894596450)
  | none => FlightFloat.lit 1.225

end Veloxity
