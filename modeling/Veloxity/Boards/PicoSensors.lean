import Veloxity.Core.FlightFloat
import Veloxity.Library.LatestRing
import Veloxity.Sensors.Bus

/-! One core of an RP2350 board reads the sensors, the other one takes the newest samples. -/

namespace Veloxity

open Library

variable {F R : Type}

/-- The same sample in another format. -/
def ImuPacket.cast {S : Type} [FloatCast R S] (imu : ImuPacket F R) : ImuPacket F S where
  header := imu.header
  accel axis := FloatCast.fromF32 (imu.accel axis)
  gyro axis := FloatCast.fromF32 (imu.gyro axis)
  temperature := imu.temperature
  seq := imu.seq

/-- The registers of the inertial sensor, once all of them could be read. -/
structure Ism330dhcxReading where
  gyroRaw : Fin 3 → Int
  accelRaw : Fin 3 → Int
  temperatureRaw : Int

/-- Milli-g of a register at a full scale of 16 g. -/
def fromFs16gToMg [FlightFloat F] (lsb : Int) : F := FlightFloat.lit lsb * FlightFloat.lit 0.488

/-- Millidegrees per second of a register at a full scale of 2000 degrees per second. -/
def fromFs2000dpsToMdps [FlightFloat F] (lsb : Int) : F := FlightFloat.lit lsb * FlightFloat.lit 70

/-- The reader of the inertial sensor, with the number of its next sample. -/
structure Ism330dhcxImuProducer where
  seq : UInt32
  deriving DecidableEq, Repr

namespace Ism330dhcxImuProducer

/-- A reader that has read nothing. -/
def new : Ism330dhcxImuProducer := ⟨0⟩

/-- Read a sample, which is numbered if all registers could be read. -/
def readPacket [FlightFloat F] (producer : Ism330dhcxImuProducer)
    (reading : Option Ism330dhcxReading) (nowUs : Nat) :
    Option (ImuPacket F F) × Ism330dhcxImuProducer :=
  match reading with
  | none => (none, producer)
  | some ⟨gyroRaw, accelRaw, temperatureRaw⟩ =>
    (some {
      header := { timestamp := nowUs, status := 0 }
      accel := fun axis => fromFs16gToMg (accelRaw axis) * FlightFloat.lit 0.00980665
      gyro := fun axis =>
        fromFs2000dpsToMdps (gyroRaw axis) * FlightFloat.pi / FlightFloat.lit 180000
      temperature := FlightFloat.lit 25 + FlightFloat.lit temperatureRaw / FlightFloat.lit 256
      seq := producer.seq.toNat }, ⟨producer.seq + 1⟩)

end Ism330dhcxImuProducer

/-- The samples of the inertial sensor that wait. -/
abbrev Ism330dhcxImuQueue (F : Type) : Type := LatestRing 8 (ImuPacket F F)

/-- The packets of the radio receiver that wait. -/
abbrev CrsfRcQueue (F : Type) : Type := LatestRing 4 (RcPacket F)

/-- The packets of the satellite receiver that wait. -/
abbrev GnssQueue : Type := LatestRing 4 (Except SensorError GNSSPacket)

/-- The samples of the barometer that wait. -/
abbrev BaroQueue (F : Type) : Type := LatestRing 4 (Except SensorError (BaroPacket F))

namespace Ism330dhcxImuQueue

/-- A queue with no sample in it. -/
def new [FlightFloat F] : Ism330dhcxImuQueue F :=
  LatestRing.new ⟨⟨0, 0⟩, fun _ => FlightFloat.zero, fun _ => FlightFloat.zero, FlightFloat.zero, 0⟩
    (by decide)

/-- Take the newest sample; the next one goes behind it. -/
def takeLatest (queue : Ism330dhcxImuQueue F) : Option (ImuPacket F F) × Ism330dhcxImuQueue F :=
  LatestRing.takeLatest false queue

end Ism330dhcxImuQueue

namespace CrsfRcQueue

/-- A queue with no packet in it. -/
def new [FlightFloat F] : CrsfRcQueue F :=
  LatestRing.new ⟨⟨0, 0⟩, 0, fun _ => FlightFloat.zero, true⟩ (by decide)

/-- Take the newest packet; the next one goes behind it. -/
def takeLatest (queue : CrsfRcQueue F) : Option (RcPacket F) × CrsfRcQueue F :=
  LatestRing.takeLatest false queue

end CrsfRcQueue

namespace GnssQueue

/-- A queue with no packet in it. -/
def new : GnssQueue := LatestRing.new (.ok ⟨⟨0, 0⟩⟩) (by decide)

/-- Take the newest packet; the next one goes behind it. -/
def takeLatest (queue : GnssQueue) : Option (Except SensorError GNSSPacket) × GnssQueue :=
  LatestRing.takeLatest false queue

end GnssQueue

namespace BaroQueue

/-- A queue with no sample in it. -/
def new [FlightFloat F] : BaroQueue F :=
  LatestRing.new (.ok ⟨⟨0, 0⟩, FlightFloat.zero, FlightFloat.zero, FlightFloat.zero⟩) (by decide)

/-- Take the newest sample; the next one goes to the first slot. -/
def takeLatest (queue : BaroQueue F) :
    Option (Except SensorError (BaroPacket F)) × BaroQueue F :=
  LatestRing.takeLatest true queue

end BaroQueue

/-- What the core that flies keeps of the sensors, and the queues it takes their samples from. -/
structure PicoSensorProducer (F : Type) where
  ism330dhcxImu : Ism330dhcxImuQueue F
  crsfRc : CrsfRcQueue F
  gnss : GnssQueue
  baro : BaroQueue F
  lastImuSeq : Option UInt32
  imuSeqGaps : UInt32

namespace PicoSensorProducer

/-- No sample has come yet. -/
def new [FlightFloat F] : PicoSensorProducer F := ⟨.new, .new, .new, .new, none, 0⟩

/-- Something waits from the inertial sensor. -/
def imuPending (sensors : PicoSensorProducer F) : Bool := sensors.ism330dhcxImu.hasPending

/-- Put the newest inertial sample on the bus, and count those passed over since the last one. -/
def drainImuInto [FloatCast F R] (sensors : PicoSensorProducer F) (bus : SensorBus F R) :
    SensorBus F R × PicoSensorProducer F :=
  match Ism330dhcxImuQueue.takeLatest sensors.ism330dhcxImu with
  | (none, ism330dhcxImu) => (bus, { sensors with ism330dhcxImu })
  | (some imu, ism330dhcxImu) =>
    let seq := UInt32.ofNat imu.seq
    let imuSeqGaps :=
      match sensors.lastImuSeq with
      | none => sensors.imuSeqGaps
      | some lastSeq =>
        let expected := lastSeq + 1
        if seq ≠ expected then sensors.imuSeqGaps + max (seq - expected) 1
        else sensors.imuSeqGaps
    ({ bus with imu := some (.ok imu.cast) },
      { sensors with ism330dhcxImu, imuSeqGaps, lastImuSeq := some seq })

/-- Put the newest packets of the other sensors on the bus. -/
def drainServiceInto (sensors : PicoSensorProducer F) (bus : SensorBus F R) :
    SensorBus F R × PicoSensorProducer F :=
  let (rc, crsfRc) := CrsfRcQueue.takeLatest sensors.crsfRc
  let bus := match rc with
    | some rc => { bus with rc := some (.ok rc) }
    | none => bus
  let (gnss, gnssQueue) := GnssQueue.takeLatest sensors.gnss
  let bus := match gnss with
    | some gnss => { bus with gnss := some gnss }
    | none => bus
  let (baro, baroQueue) := BaroQueue.takeLatest sensors.baro
  let bus := match baro with
    | some baro => { bus with baro := some baro }
    | none => bus
  (bus, { sensors with crsfRc, gnss := gnssQueue, baro := baroQueue })

/-- Put the newest samples of all sensors on the bus. -/
def drainInto [FloatCast F R] (sensors : PicoSensorProducer F) (bus : SensorBus F R) :
    SensorBus F R × PicoSensorProducer F :=
  let (bus, sensors) := sensors.drainImuInto bus
  sensors.drainServiceInto bus

end PicoSensorProducer

/-- The reader of the inertial sensor and what the other core keeps, with a record of the samples
read and of those put on a bus. -/
structure PicoSensors (F : Type) where
  imu : Ism330dhcxImuProducer
  sensors : PicoSensorProducer F
  read : List (ImuPacket F F)
  delivered : List (ImuPacket F F)

/-- What happens on either core. -/
inductive PicoSensorStep (F : Type) where
  /-- The first core has been woken by the inertial sensor and reads its registers, if it can. -/
  | imuTask (reading : Option Ism330dhcxReading) (nowUs : Nat)
  /-- The first core has received a packet of radio channels. -/
  | crsfRxTask (packet : RcPacket F)
  /-- The first core has received a navigation solution. -/
  | gpsPioTask (packet : GNSSPacket)
  /-- A sensor task reports a pressure or an error. -/
  | pressureTask (packet : Except SensorError (BaroPacket F))
  /-- The second core asks for all sensors. -/
  | updateSensorBus
  /-- The second core asks for the inertial sensor. -/
  | updateImuSensor
  /-- The second core asks for the other sensors. -/
  | updateServiceSensorBus
  /-- The second core asks whether an inertial sample waits. -/
  | imuPending

/-- What the second core is told. -/
inductive PicoSensorReport (F R : Type) where
  | bus (sensors : SensorBus F R)
  | pending (waits : Bool)

namespace PicoSensors

/-- Nothing has been read. -/
def new [FlightFloat F] : PicoSensors F := ⟨.new, .new, [], []⟩

/-- The sample that the second core would be given now. -/
def newestImu (pico : PicoSensors F) : List (ImuPacket F F) :=
  (Ism330dhcxImuQueue.takeLatest pico.sensors.ism330dhcxImu).1.toList

/-- What a step of either core does, and what the second core is told. -/
def step [FlightFloat F] [FloatCast F R] (pico : PicoSensors F) :
    PicoSensorStep F → PicoSensors F × Option (PicoSensorReport F R)
  | .imuTask reading nowUs =>
    match pico.imu.readPacket reading nowUs with
    | (none, imu) => ({ pico with imu }, none)
    | (some packet, imu) =>
      ({ pico with
        imu
        sensors := { pico.sensors with ism330dhcxImu := pico.sensors.ism330dhcxImu.push packet }
        read := pico.read ++ [packet] }, none)
  | .crsfRxTask packet =>
    ({ pico with sensors :=
      { pico.sensors with crsfRc := pico.sensors.crsfRc.push packet } }, none)
  | .gpsPioTask packet =>
    ({ pico with sensors :=
      { pico.sensors with gnss := pico.sensors.gnss.push (.ok packet) } }, none)
  | .pressureTask packet =>
    ({ pico with sensors := { pico.sensors with baro := pico.sensors.baro.push packet } }, none)
  | .updateSensorBus =>
    let (bus, sensors) := pico.sensors.drainInto {}
    ({ pico with sensors, delivered := pico.delivered ++ pico.newestImu }, some (.bus bus))
  | .updateImuSensor =>
    let (bus, sensors) := pico.sensors.drainImuInto {}
    ({ pico with sensors, delivered := pico.delivered ++ pico.newestImu }, some (.bus bus))
  | .updateServiceSensorBus =>
    let (bus, sensors) := pico.sensors.drainServiceInto {}
    ({ pico with sensors }, some (.bus bus))
  | .imuPending => (pico, some (.pending pico.sensors.imuPending))

end PicoSensors

end Veloxity
