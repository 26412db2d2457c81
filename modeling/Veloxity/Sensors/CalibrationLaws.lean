import Mathlib.Data.Finset.SDiff
import Mathlib.Tactic.SplitIfs
import Veloxity.Sensors.Ingestion

/-! What processing a report can change among the calibration flags and the parameters. -/

namespace Veloxity

variable {F R S : Type}

/-- Parameters that calibrations store their results in. -/
def calibratedParams : List ParamId :=
  [.PARAM_GYRO_X_BIAS, .PARAM_GYRO_Y_BIAS, .PARAM_GYRO_Z_BIAS, .PARAM_ACC_X_BIAS,
    .PARAM_ACC_Y_BIAS, .PARAM_ACC_Z_BIAS, .PARAM_BARO_BIAS, .PARAM_GROUND_LEVEL,
    .PARAM_DIFF_PRESS_BIAS]

/-- At most the given flags and the calibrated parameters have changed. -/
structure CalibrationEffect (touched : CalibrationFlags) (flags after : CalibrationFlags)
    (params paramsAfter : Params F) : Prop where
  flags : ∀ kind, kind ∉ touched → (kind ∈ after ↔ kind ∈ flags)
  params : ∀ id, id ∉ calibratedParams → paramsAfter.getById id = params.getById id

namespace CalibrationEffect

variable {touched wider flags middle after : CalibrationFlags}
  {params paramsMiddle paramsAfter : Params F}

/-- Nothing has changed. -/
theorem refl : CalibrationEffect touched flags flags params params :=
  ⟨fun _ _ => Iff.rfl, fun _ _ => rfl⟩

/-- One effect after another. -/
theorem trans (first : CalibrationEffect touched flags middle params paramsMiddle)
    (second : CalibrationEffect touched middle after paramsMiddle paramsAfter) :
    CalibrationEffect touched flags after params paramsAfter where
  flags kind untouched := (second.flags kind untouched).trans (first.flags kind untouched)
  params id kept := (second.params id kept).trans (first.params id kept)

/-- More flags may have been touched. -/
theorem mono (included : touched ⊆ wider)
    (effect : CalibrationEffect touched flags after params paramsAfter) :
    CalibrationEffect wider flags after params paramsAfter where
  flags kind untouched := effect.flags kind fun member => untouched (included member)
  params := effect.params

/-- A flag that may be touched is raised. -/
theorem insert {kind : CalibrationFlag} (known : kind ∈ touched) :
    CalibrationEffect touched flags (Insert.insert kind flags) params params where
  flags other untouched := by
    -- The other flag differs from the raised one.
    have differs : other ≠ kind := fun same => untouched (same ▸ known)
    simp [differs]
  params _ _ := rfl

/-- A flag that may be touched is cleared. -/
theorem erase {kind : CalibrationFlag} (known : kind ∈ touched) :
    CalibrationEffect touched flags (flags.erase kind) params params where
  flags other untouched := by
    -- The other flag differs from the cleared one.
    have differs : other ≠ kind := fun same => untouched (same ▸ known)
    simp [differs]
  params _ _ := rfl

/-- A calibrated parameter is stored. -/
theorem setById {id : ParamId} (value : ParamValue F) (known : id ∈ calibratedParams) :
    CalibrationEffect touched flags flags params (params.setById id value) where
  flags _ _ := Iff.rfl
  params other kept := by
    -- The other parameter differs from the stored one.
    have differs : other ≠ id := fun same => kept (same ▸ known)
    exact Params.getById_setById_of_ne params value differs

/-- Closing a window changes nothing that the window alone owns. -/
theorem then_erase {kind : CalibrationFlag} (known : kind ∈ touched)
    (effect : CalibrationEffect touched flags after params paramsAfter) :
    CalibrationEffect touched flags (after.erase kind) params paramsAfter :=
  effect.trans (erase known)

/-- A guarded effect may be left out. -/
theorem guarded {asked : Prop} [Decidable asked] {effected : Calibrating S F}
    {before : Calibrating S F}
    (effect : asked → CalibrationEffect touched before.flags effected.flags before.params
      effected.params) :
    CalibrationEffect touched before.flags (if asked then effected else before).flags before.params
      (if asked then effected else before).params := by
  -- Left out, nothing changes.
  split
  · rename_i asks
    exact effect asks
  · exact refl

end CalibrationEffect

/-- Flags of the gyro window. -/
def gyroWindow : CalibrationFlags := {.gyro, .gyroFailed}

/-- Flags of the accelerometer window. -/
def accelWindow : CalibrationFlags := {.accel, .accelFailed}

/-- Flags of the barometer window. -/
def baroWindow : CalibrationFlags := {.baro, .baroFailed}

/-- Flags of the airspeed window. -/
def pitotWindow : CalibrationFlags := {.pitot, .pitotFailed}

/-- Flags of every window but the gyro's. -/
def otherWindows : CalibrationFlags := accelWindow ∪ baroWindow ∪ pitotWindow

section Windows

/-- Storing one value for each axis touches calibrated parameters alone. -/
theorem effect_setAxes [FloatCast F R] {touched flags : CalibrationFlags} (params : Params F)
    (axisParam : Fin 3 → ParamId) (known : ∀ axis, axisParam axis ∈ calibratedParams)
    (values : Fin 3 → R) :
    CalibrationEffect touched flags flags params (setAxes params axisParam values) :=
  ((CalibrationEffect.setById _ (known 0)).trans (.setById _ (known 1))).trans
    (.setById _ (known 2))

variable [FlightFloat R] [FloatCast F R]

/-- A verdict on the gyro window touches that window alone. -/
theorem effect_judgeGyro (calibrating : Calibrating (ImuCalibrationState R) F)
    (bias : Fin 3 → R) :
    CalibrationEffect gyroWindow calibrating.flags (judgeGyro calibrating bias).flags
      calibrating.params (judgeGyro calibrating bias).params := by
  -- Either the biases are stored or the failure is raised.
  unfold judgeGyro
  split
  · exact effect_setAxes calibrating.params gyroBiasParam (by decide) bias
  · exact .insert (by decide)

/-- A gyro sample touches the gyro window alone. -/
theorem effect_calibrateGyro (calibrating : Calibrating (ImuCalibrationState R) F)
    (gyro : Fin 3 → R) :
    CalibrationEffect gyroWindow calibrating.flags (calibrateGyro calibrating gyro).flags
      calibrating.params (calibrateGyro calibrating gyro).params := by
  -- A full window is judged and closed, and any other only grows.
  unfold calibrateGyro
  dsimp only
  split
  · exact (effect_judgeGyro calibrating _).then_erase (by decide)
  · exact .refl

variable [FlightFloat F]

/-- A verdict on the accelerometer window touches that window alone. -/
theorem effect_judgeAccel (calibrating : Calibrating (ImuCalibrationState R) F) :
    CalibrationEffect accelWindow calibrating.flags (judgeAccel calibrating).flags
      calibrating.params (judgeAccel calibrating).params := by
  have stored (bias : Fin 3 → R) : CalibrationEffect accelWindow calibrating.flags
      calibrating.flags calibrating.params (setAxes calibrating.params accelBiasParam bias) :=
    effect_setAxes calibrating.params accelBiasParam (by decide) bias
  -- Either the biases are stored or the failure is raised.
  unfold judgeAccel
  dsimp only
  split
  · split
    · dsimp only
      exact stored _
    · exact .insert (by decide)
  · exact .insert (by decide)

/-- An acceleration sample touches the accelerometer window alone. -/
theorem effect_calibrateAccel (calibrating : Calibrating (ImuCalibrationState R) F)
    (accel : Fin 3 → R) (temperature : F) :
    CalibrationEffect accelWindow calibrating.flags
      (calibrateAccel calibrating accel temperature).flags calibrating.params
      (calibrateAccel calibrating accel temperature).params := by
  -- A full window is judged and closed, and any other only grows.
  unfold calibrateAccel
  dsimp only
  split
  · exact (effect_judgeAccel { calibrating with
      state := addAccelSample calibrating.state accel temperature }).then_erase (by decide)
  · exact .refl

omit [FlightFloat R] [FloatCast F R] in
/-- A verdict on a pressure window touches its own flags and what it stores. -/
theorem effect_judgePressure {touched : CalibrationFlags} (maxVariance : F)
    {request failed : CalibrationFlag} (calibrating : Calibrating (PressureCalibrationState F) F)
    (store : Params F → F → Params F) (asked : request ∈ touched) (told : failed ∈ touched)
    (stored : ∀ mean, CalibrationEffect touched calibrating.flags calibrating.flags
      calibrating.params (store calibrating.params mean)) :
    CalibrationEffect touched calibrating.flags
      (judgePressure maxVariance request failed store calibrating).flags calibrating.params
      (judgePressure maxVariance request failed store calibrating).params := by
  -- Either the mean is stored and the window closed, or the failure is raised.
  unfold judgePressure
  dsimp only
  split
  · exact (stored _).then_erase asked
  · exact .insert told

omit [FlightFloat R] [FloatCast F R] in
/-- A pressure sample touches its own window and what the window stores. -/
theorem effect_pressureWindow {touched : CalibrationFlags} (maxVariance : F)
    {request failed : CalibrationFlag} {store : Params F → F → Params F}
    (state : PressureCalibrationState F) (sample : F) (flags : CalibrationFlags)
    (params : Params F) (nowMs : Nat) (asked : request ∈ touched) (told : failed ∈ touched)
    (stored : ∀ mean, CalibrationEffect touched flags flags params (store params mean)) :
    CalibrationEffect touched flags
      (pressureWindow maxVariance request failed store state sample flags params nowMs).flags params
      (pressureWindow maxVariance request failed store state sample flags params nowMs).params := by
  have begun : (beginRequest request { state, flags, params }).flags = flags ∧
      (beginRequest request { state, flags, params }).params = params := by
    unfold beginRequest
    split
    · exact ⟨rfl, rfl⟩
    · exact ⟨rfl, rfl⟩
  have judged := effect_judgePressure maxVariance (beginRequest request { state, flags, params })
    store asked told (by rw [begun.1, begun.2]; exact stored)
  rw [begun.1, begun.2] at judged
  have unjudged : CalibrationEffect touched flags
      (beginRequest request { state, flags, params }).flags params
      (beginRequest request { state, flags, params }).params := by
    rw [begun.1, begun.2]
    exact .refl
  -- Only a full window is judged.
  unfold pressureWindow calibratePressure
  dsimp only
  split_ifs
  · exact unjudged
  · exact unjudged
  · exact judged
  · exact unjudged
  · exact unjudged

end Windows

section Reports

variable [FlightFloat F] [FlightFloat R] [FloatCast F R]

/-- An inertial report touches the accelerometer window, and the gyro window when it is open. -/
theorem ImuProcessor.effect_process {touched : CalibrationFlags} (processor : ImuProcessor F R)
    (raw : RawPacket (ImuPacket F R)) (flags : CalibrationFlags) (params : Params F)
    (accel : accelWindow ⊆ touched) (gyro : .gyro ∈ flags → gyroWindow ⊆ touched) :
    CalibrationEffect touched flags (processor.process raw flags params).1.flags params
      (processor.process raw flags params).1.params := by
  unfold process
  cases takeOkPacket raw with
  | none => exact .refl
  | some packet =>
    let started : Calibrating (ImuCalibrationState R) F :=
      { state := processor.calibrationState, flags, params }
    have gyroed (sample : Fin 3 → R) : CalibrationEffect touched started.flags
        (if .gyro ∈ flags then calibrateGyro started sample else started).flags started.params
        (if .gyro ∈ flags then calibrateGyro started sample else started).params :=
      .guarded fun opened => (effect_calibrateGyro started sample).mono (gyro opened)
    -- Each window takes the sample only while it is open.
    exact (gyroed _).trans (.guarded fun _ => (effect_calibrateAccel _ _ _).mono accel)

/-- A barometer report touches the barometer window alone. -/
theorem effect_baroProcess (state : PressureCalibrationState F) (raw : RawPacket (BaroPacket F))
    (flags : CalibrationFlags) (params : Params F) (nowMs : Nat) :
    CalibrationEffect baroWindow flags (baroProcess state raw flags params nowMs).1.flags params
      (baroProcess state raw flags params nowMs).1.params := by
  unfold baroProcess
  cases takeOkPacket raw with
  | none => exact .refl
  | some packet =>
    -- The ground pressure and the ground level are stored.
    exact effect_pressureWindow _ state packet.pressure flags params nowMs (by decide) (by decide)
      fun mean => (CalibrationEffect.setById _ (by decide)).trans (.setById _ (by decide))

/-- An airspeed report touches the airspeed window alone. -/
theorem effect_pitotProcess (state : PressureCalibrationState F)
    (raw : RawPacket (PitotPacket F)) (flags : CalibrationFlags) (params : Params F)
    (nowMs : Nat) :
    CalibrationEffect pitotWindow flags (pitotProcess state raw flags params nowMs).1.flags params
      (pitotProcess state raw flags params nowMs).1.params := by
  unfold pitotProcess
  cases takeOkPacket raw with
  | none => exact .refl
  | some packet =>
    -- The bias is stored.
    exact effect_pressureWindow _ state packet.differentialPressure flags params nowMs (by decide)
      (by decide) fun mean => .setById _ (by decide)

namespace SensorIngestion

/-- An inertial report touches the accelerometer window, and the gyro window when it is open. -/
theorem effect_processImuSensor {touched : CalibrationFlags} (ingestion : SensorIngestion F R)
    (raw : RawPacket (ImuPacket F R)) (accel : accelWindow ⊆ touched)
    (gyro : .gyro ∈ ingestion.flags → gyroWindow ⊆ touched) :
    CalibrationEffect touched ingestion.flags (ingestion.processImuSensor raw).flags
      ingestion.params (ingestion.processImuSensor raw).params := by
  -- No news touches nothing.
  unfold processImuSensor
  split
  · exact ingestion.processors.imu.effect_process raw _ _ accel gyro
  · exact .refl

omit [FlightFloat R] [FloatCast F R] in
/-- A barometer report touches the barometer window alone. -/
theorem effect_processBaro (ingestion : SensorIngestion F R) (raw : RawPacket (BaroPacket F))
    (nowMs : Nat) :
    CalibrationEffect baroWindow ingestion.flags (ingestion.processBaro raw nowMs).flags
      ingestion.params (ingestion.processBaro raw nowMs).params := by
  -- No news touches nothing.
  unfold processBaro
  split
  · exact effect_baroProcess _ raw _ _ nowMs
  · exact .refl

omit [FlightFloat R] [FloatCast F R] in
/-- An airspeed report touches the airspeed window alone. -/
theorem effect_processPitot (ingestion : SensorIngestion F R) (raw : RawPacket (PitotPacket F))
    (nowMs : Nat) :
    CalibrationEffect pitotWindow ingestion.flags (ingestion.processPitot raw nowMs).flags
      ingestion.params (ingestion.processPitot raw nowMs).params := by
  -- No news touches nothing.
  unfold processPitot
  split
  · exact effect_pitotProcess _ raw _ _ nowMs
  · exact .refl

omit [FlightFloat R] [FloatCast F R] in
/-- A battery report touches no calibration. -/
theorem effect_processBattery {touched : CalibrationFlags} (ingestion : SensorIngestion F R)
    (raw : RawPacket (BatteryPacket F)) :
    CalibrationEffect touched ingestion.flags (ingestion.processBattery raw).flags
      ingestion.params (ingestion.processBattery raw).params := by
  -- The filter only reads parameters.
  unfold processBattery
  split
  · exact .refl
  · exact .refl

/-- A whole bus touches every window but the gyro's, and that one too when it is open. -/
theorem effect_processSensorBus {touched : CalibrationFlags} (ingestion : SensorIngestion F R)
    (raw : SensorBus F R) (nowMs : Nat) (others : otherWindows ⊆ touched)
    (gyro : .gyro ∈ ingestion.flags → gyroWindow ⊆ touched) :
    CalibrationEffect touched ingestion.flags (ingestion.processSensorBus raw nowMs).flags
      ingestion.params (ingestion.processSensorBus raw nowMs).params := by
  have accel : accelWindow ⊆ touched := (show accelWindow ⊆ otherWindows by decide).trans others
  have baro : baroWindow ⊆ touched := (show baroWindow ⊆ otherWindows by decide).trans others
  have pitot : pitotWindow ⊆ touched := (show pitotWindow ⊆ otherWindows by decide).trans others
  have first : CalibrationEffect touched ingestion.flags
      ((ingestion.processImuSensor raw.imu).processMag raw.mag).flags ingestion.params
      ((ingestion.processImuSensor raw.imu).processMag raw.mag).params :=
    ingestion.effect_processImuSensor raw.imu accel gyro
  -- The reports are processed one after another.
  exact ((first.trans ((effect_processBaro _ raw.baro nowMs).mono baro)).trans
    ((effect_processPitot _ raw.pitot nowMs).mono pitot)).trans
      (effect_processBattery _ raw.battery)

/-- A sample is held after an inertial report exactly when the report was one. -/
theorem processImuSensor_holds (ingestion : SensorIngestion F R)
    (raw : RawPacket (ImuPacket F R)) :
    (ingestion.processImuSensor raw).processed.imu.isSome = (takeOkPacket raw).isSome := by
  -- No news and a complaint both clear the sample.
  unfold processImuSensor ImuProcessor.process
  cases raw with
  | none => rfl
  | some report =>
    cases report with
    | error complaint => rfl
    | ok packet => rfl

/-- A sample is held after a whole bus exactly when its inertial report was one. -/
theorem processSensorBus_holds (ingestion : SensorIngestion F R) (raw : SensorBus F R)
    (nowMs : Nat) :
    (ingestion.processSensorBus raw nowMs).processed.imu.isSome =
      (takeOkPacket raw.imu).isSome := by
  have baro (started : SensorIngestion F R) :
      (started.processBaro raw.baro nowMs).processed.imu = started.processed.imu := by
    unfold processBaro
    split <;> rfl
  have pitot (started : SensorIngestion F R) :
      (started.processPitot raw.pitot nowMs).processed.imu = started.processed.imu := by
    unfold processPitot
    split <;> rfl
  have battery (started : SensorIngestion F R) :
      (started.processBattery raw.battery).processed.imu = started.processed.imu := by
    unfold processBattery
    split <;> rfl
  -- The other reports leave the inertial sample alone.
  rw [← ingestion.processImuSensor_holds raw.imu]
  simp only [processSensorBus, processPassthrough, battery, pitot, baro, processMag]

end SensorIngestion

end Reports

end Veloxity
