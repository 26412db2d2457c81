import Veloxity.Core.RealFloat
import Veloxity.Library.Extremes
import Veloxity.Library.Mean
import Veloxity.Sensors.CalibrationLaws

/-! The gyro's and the accelerometer's calibration windows, each as if it were alone. -/

namespace Veloxity

open Library

/-- A packet in the body frame, as the windows take it. -/
abbrev ImuSample := ImuPacket ℝ ℝ

/-- An inertial calibration over exact numbers, with the flags and parameters it changes. -/
abbrev ImuCalibrating := Calibrating (ImuCalibrationState ℝ) ℝ

/-- The windows of an inertial calibration. -/
inductive ImuWindow where
  | gyro | accel
  deriving DecidableEq

/-- What the accelerometer shows of a body at rest is taken off the vertical axis. -/
noncomputable def gravityOn (axis : Fin 3) : ℝ :=
  if axis = 2 then (9.80665 : ℚ) else 0

namespace ImuWindow

/-- The flag of a requested calibration. -/
def request : ImuWindow → CalibrationFlag
  | .gyro => .gyro
  | .accel => .accel

/-- The flag of a failed calibration. -/
def failed : ImuWindow → CalibrationFlag
  | .gyro => .gyroFailed
  | .accel => .accelFailed

/-- The parameter of an axis's bias. -/
def biasParam : ImuWindow → Fin 3 → ParamId
  | .gyro => gyroBiasParam
  | .accel => accelBiasParam

/-- The norm a bias fails at. -/
def limit : ImuWindow → ℝ
  | .gyro => 1
  | .accel => 3

/-- The samples a window's memory has counted. -/
def count : ImuWindow → ImuCalibrationState ℝ → Nat
  | .gyro, memory => memory.gyroCalibrationCount
  | .accel, memory => memory.accelCalibrationCount

/-- A window's memory is back at its initial values. -/
def Initial : ImuWindow → ImuCalibrationState ℝ → Prop
  | .gyro, memory =>
    memory.gyroSum = ImuCalibrationState.new.gyroSum ∧ memory.gyroCalibrationCount = 0
  | .accel, memory =>
    memory.accelSum = ImuCalibrationState.new.accelSum ∧
      memory.accelTempSum = ImuCalibrationState.new.accelTempSum ∧
      memory.accelCalibrationCount = 0 ∧
      memory.maxAccel = ImuCalibrationState.new.maxAccel ∧
      memory.minAccel = ImuCalibrationState.new.minAccel

/-- The bias that samples show, which for the accelerometer depends on how warm they were. -/
noncomputable def bias : ImuWindow → Params ℝ → List ImuSample → Fin 3 → ℝ
  | .gyro, _, samples, axis => mean (samples.map fun sample => sample.gyro axis)
  | .accel, params, samples, axis =>
    mean (samples.map fun sample => sample.accel axis) + gravityOn axis -
      paramFloat params (accelTempCompParam axis) * mean (samples.map ImuPacket.temperature)

/-- The body has rested, which the gyro's window does not ask. -/
def Still : ImuWindow → List ImuSample → Prop
  | .gyro, _ => True
  | .accel, samples =>
    vectorNorm (fun axis => extent (samples.map fun sample => sample.accel axis)) < 1

/-- Samples give a bias when the body has rested and the bias is small enough. -/
def Passes (window : ImuWindow) (params : Params ℝ) (samples : List ImuSample) : Prop :=
  window.Still samples ∧ vectorNorm (window.bias params samples) < window.limit

/-- The extremes that the memory keeps are close, which the gyro's window does not ask. -/
def Rested : ImuWindow → List ImuSample → Prop
  | .gyro, _ => True
  | .accel, samples =>
    vectorNorm (fun axis =>
      (samples.map fun sample => sample.accel axis).foldl max (-1000) -
        (samples.map fun sample => sample.accel axis).foldl min 1000) < 1

/-- What a full window is judged by. -/
def Accepts (window : ImuWindow) (params : Params ℝ) (samples : List ImuSample) : Prop :=
  window.Rested samples ∧ vectorNorm (window.bias params samples) < window.limit

/-- The accelerations lie between the values that the extremes start at. -/
def InRange : ImuWindow → List ImuSample → Prop
  | .gyro, _ => True
  | .accel, samples => ∀ sample ∈ samples, ∀ axis, |sample.accel axis| ≤ 1000

/-- Add a sample to the window. -/
noncomputable def calibrate : ImuWindow → ImuCalibrating → ImuSample → ImuCalibrating
  | .gyro, calibrating, sample => calibrateGyro calibrating sample.gyro
  | .accel, calibrating, sample => calibrateAccel calibrating sample.accel sample.temperature

/-- Add a sample to the window if it is requested. -/
noncomputable def take (window : ImuWindow) (calibrating : ImuCalibrating) (sample : ImuSample) :
    ImuCalibrating :=
  if window.request ∈ calibrating.flags then window.calibrate calibrating sample else calibrating

end ImuWindow

/-- The memory of windows that hold given samples. -/
noncomputable def imuMemory (held : ImuWindow → List ImuSample) : ImuCalibrationState ℝ where
  gyroSum axis := ((held .gyro).map fun sample => sample.gyro axis).sum
  gyroCalibrationCount := (held .gyro).length
  accelSum axis :=
    ((held .accel).map fun sample => sample.accel axis).sum + (held .accel).length * gravityOn axis
  accelTempSum := ((held .accel).map ImuPacket.temperature).sum
  accelCalibrationCount := (held .accel).length
  maxAccel axis := ((held .accel).map fun sample => sample.accel axis).foldl max (-1000)
  minAccel axis := ((held .accel).map fun sample => sample.accel axis).foldl min 1000

/-- Windows that hold nothing have the initial memory. -/
theorem imuMemory_none : imuMemory (fun _ => []) = .new := by
  simp [imuMemory, ImuCalibrationState.new]

section Memory

variable (held : ImuWindow → List ImuSample) (sample : ImuSample)

/-- The gyro's sums follow one more sample. -/
theorem imuMemory_gyro_concat :
    imuMemory (Function.update held .gyro (held .gyro ++ [sample])) =
      { imuMemory held with
        gyroSum := fun axis => (imuMemory held).gyroSum axis + sample.gyro axis
        gyroCalibrationCount := (imuMemory held).gyroCalibrationCount + 1 } := by
  simp [imuMemory]

/-- The gyro's sums start again without touching the accelerometer's. -/
theorem imuMemory_gyro_nil :
    imuMemory (Function.update held .gyro []) =
      { imuMemory held with
        gyroSum := fun _ => FlightFloat.zero, gyroCalibrationCount := 0 } := by
  simp [imuMemory]

/-- The accelerometer's sums and extremes follow one more sample. -/
theorem imuMemory_accel_concat :
    imuMemory (Function.update held .accel (held .accel ++ [sample])) =
      addAccelSample (imuMemory held) sample.accel sample.temperature := by
  have raised (axis : Fin 3) :
      ((held .accel).map fun sample => sample.accel axis).sum + sample.accel axis +
          ((held .accel).length + 1) * gravityOn axis =
        ((held .accel).map fun sample => sample.accel axis).sum +
            (held .accel).length * gravityOn axis +
          (if axis = 2 then sample.accel axis + (9.80665 : ℚ) else sample.accel axis) := by
    -- Gravity is added once for each sample.
    unfold gravityOn
    split
    · ring
    · ring
  simpa [imuMemory, addAccelSample] using funext raised

/-- The accelerometer's sums and extremes start again without touching the gyro's. -/
theorem imuMemory_accel_nil :
    imuMemory (Function.update held .accel []) =
      { ImuCalibrationState.new with
        gyroSum := (imuMemory held).gyroSum
        gyroCalibrationCount := (imuMemory held).gyroCalibrationCount } := by
  simp [imuMemory, ImuCalibrationState.new]

/-- The quotient of the gyro's memory is the bias its samples show. -/
theorem gyroQuotient_eq_bias (params : Params ℝ) :
    (fun axis => (imuMemory held).gyroSum axis /
        FlightFloat.lit ((imuMemory held).gyroCalibrationCount : ℚ)) =
      ImuWindow.gyro.bias params (held .gyro) := by
  funext axis
  simp [imuMemory, ImuWindow.bias, mean]

/-- The quotient of the accelerometer's memory is the bias its samples show. -/
theorem accelQuotient_eq_bias (present : held .accel ≠ []) (params : Params ℝ) :
    (fun axis => ((imuMemory held).accelSum axis -
          FloatCast.fromF32 (paramFloat params (accelTempCompParam axis)) *
            (imuMemory held).accelTempSum) /
        FlightFloat.lit ((imuMemory held).accelCalibrationCount : ℚ)) =
      ImuWindow.accel.bias params (held .accel) := by
  have counted : ((held .accel).length : ℝ) ≠ 0 :=
    Nat.cast_ne_zero.mpr fun none => present (List.length_eq_zero_iff.mp none)
  funext axis
  -- Gravity was added as often as there are samples.
  simp only [imuMemory, ImuWindow.bias, mean, RealFloat.lit_eq, RealFloat.fromF32_eq,
    Rat.cast_natCast, List.length_map]
  field_simp

/-- Within the range that the extremes start at, they are those of the samples. -/
theorem ImuWindow.rested_iff_still (window : ImuWindow) {samples : List ImuSample}
    (present : samples ≠ []) (inRange : window.InRange samples) :
    window.Rested samples ↔ window.Still samples := by
  cases window with
  | gyro => exact Iff.rfl
  | accel =>
    have spread (axis : Fin 3) :
        (samples.map fun sample => sample.accel axis).foldl max (-1000) -
            (samples.map fun sample => sample.accel axis).foldl min 1000 =
          extent (samples.map fun sample => sample.accel axis) := by
      -- Each acceleration meets both bounds.
      apply foldl_max_sub_foldl_min
      · exact fun none => present (List.map_eq_nil_iff.mp none)
      · intro value member
        obtain ⟨sample, taken, rfl⟩ := List.mem_map.mp member
        exact abs_le.mp (inRange sample taken axis)
    simp only [Rested, Still, spread]

/-- The memory counts the samples a window holds. -/
theorem ImuWindow.count_imuMemory (window : ImuWindow) :
    window.count (imuMemory held) = (held window).length := by
  cases window <;> rfl

/-- The memory of a window that holds nothing is the initial one. -/
theorem ImuWindow.initial_imuMemory {window : ImuWindow} {held : ImuWindow → List ImuSample}
    (empty : held window = []) : window.Initial (imuMemory held) := by
  cases window with
  | gyro => simp [Initial, imuMemory, empty, ImuCalibrationState.new]
  | accel => simp [Initial, imuMemory, empty, ImuCalibrationState.new]

end Memory

section Verdicts

variable (calibrating : ImuCalibrating)

/-- A small gyro bias is stored. -/
theorem judgeGyro_of_small {bias : Fin 3 → ℝ} (small : vectorNorm bias < 1) :
    judgeGyro calibrating bias =
      { calibrating with params := setAxes calibrating.params gyroBiasParam bias } := by
  have lower : FlightFloat.lt (vectorNorm bias) (FlightFloat.lit 1) = true := by simpa using small
  exact if_pos lower

/-- A large gyro bias is a failure. -/
theorem judgeGyro_of_large {bias : Fin 3 → ℝ} (large : ¬vectorNorm bias < 1) :
    judgeGyro calibrating bias =
      { calibrating with flags := insert .gyroFailed calibrating.flags } := by
  have higher : ¬FlightFloat.lt (vectorNorm bias) (FlightFloat.lit 1) = true := by simpa using large
  exact if_neg higher

variable {held : ImuWindow → List ImuSample} (flags : CalibrationFlags) (params : Params ℝ)

/-- The spread of the memory is compared as a number. -/
theorem lt_accelSpread_iff :
    FlightFloat.lt (accelSpread (imuMemory held)) (FlightFloat.lit 1) = true ↔
      ImuWindow.accel.Rested (held .accel) := by
  simp [accelSpread, imuMemory, ImuWindow.Rested]

/-- A small accelerometer bias of a body at rest is stored. -/
theorem judgeAccel_of_accepts (present : held .accel ≠ [])
    (accepted : ImuWindow.accel.Accepts params (held .accel)) :
    judgeAccel { state := imuMemory held, flags, params } =
      { state := imuMemory held, flags
        params := setAxes params accelBiasParam (ImuWindow.accel.bias params (held .accel)) } := by
  have lower : FlightFloat.lt (vectorNorm (ImuWindow.accel.bias params (held .accel)))
      (FlightFloat.lit 3) = true := by
    simpa [ImuWindow.limit] using accepted.2
  -- The source asks for rest first and for a small bias then.
  unfold judgeAccel
  dsimp only
  rw [if_pos (lt_accelSpread_iff.mpr accepted.1), accelQuotient_eq_bias held present, if_pos lower]

/-- A large accelerometer bias or a body that moved is a failure. -/
theorem judgeAccel_of_rejects (present : held .accel ≠ [])
    (rejected : ¬ImuWindow.accel.Accepts params (held .accel)) :
    judgeAccel { state := imuMemory held, flags, params } =
      { state := imuMemory held, flags := insert .accelFailed flags, params } := by
  unfold judgeAccel
  dsimp only
  -- The bias is only judged once the body is known to have rested.
  by_cases rested : ImuWindow.accel.Rested (held .accel)
  · have higher : ¬FlightFloat.lt (vectorNorm (ImuWindow.accel.bias params (held .accel)))
        (FlightFloat.lit 3) = true := by
      intro small
      apply rejected
      refine ⟨rested, ?_⟩
      simpa [ImuWindow.limit] using small
    rw [if_pos (lt_accelSpread_iff.mpr rested), accelQuotient_eq_bias held present, if_neg higher]
  · rw [if_neg fun close => rested (lt_accelSpread_iff.mp close)]

end Verdicts

namespace ImuWindow

variable (window : ImuWindow) {held : ImuWindow → List ImuSample} (flags : CalibrationFlags)
  (params : Params ℝ) (sample : ImuSample)

/-- A window that is not full takes one more sample. -/
theorem calibrate_of_room (room : (held window).length < 1000) :
    window.calibrate { state := imuMemory held, flags, params } sample =
      { state := imuMemory (Function.update held window (held window ++ [sample])), flags,
        params } := by
  -- Counting the sample in does not take the count past a thousand.
  cases window with
  | gyro =>
    have below : ¬1000 < (imuMemory held).gyroCalibrationCount + 1 := by
      change ¬1000 < (held .gyro).length + 1
      omega
    rw [imuMemory_gyro_concat]
    exact if_neg below
  | accel =>
    have below : ¬1000 < (addAccelSample (imuMemory held) sample.accel
        sample.temperature).accelCalibrationCount := by
      change ¬1000 < (held .accel).length + 1
      omega
    rw [imuMemory_accel_concat]
    exact if_neg below

/-- The sample that fills the gyro's window has the bias of all its samples judged. -/
theorem gyro_calibrate_of_full (full : (held gyro).length = 1000) :
    gyro.calibrate { state := imuMemory held, flags, params } sample =
      let judged := judgeGyro { state := imuMemory held, flags, params }
        (gyro.bias params (held gyro ++ [sample]))
      { judged with
        state := imuMemory (Function.update held gyro [])
        flags := judged.flags.erase gyro.request } := by
  have above : 1000 < (imuMemory held).gyroCalibrationCount + 1 := by
    change 1000 < (held gyro).length + 1
    omega
  -- The source divides the sums with the sample by the count with the sample.
  have quotient := gyroQuotient_eq_bias (Function.update held gyro (held gyro ++ [sample])) params
  rw [imuMemory_gyro_concat, Function.update_self] at quotient
  rw [imuMemory_gyro_nil, ← quotient]
  exact if_pos above

/-- The sample that fills the accelerometer's window has the memory with it judged. -/
theorem accel_calibrate_of_full (full : (held accel).length = 1000) :
    accel.calibrate { state := imuMemory held, flags, params } sample =
      let judged := judgeAccel
        { state := imuMemory (Function.update held accel (held accel ++ [sample])), flags, params }
      { judged with
        state := imuMemory (Function.update held accel [])
        flags := judged.flags.erase accel.request } := by
  -- One more sample than a thousand closes the window.
  have above : 1000 < (addAccelSample (imuMemory held) sample.accel
      sample.temperature).accelCalibrationCount := by
    change 1000 < (held accel).length + 1
    omega
  rw [imuMemory_accel_nil, imuMemory_accel_concat]
  exact if_pos above

/-- The sample that fills a window has it judged, and the window starts again. -/
theorem calibrate_of_full (full : (held window).length = 1000) :
    (window.Accepts params (held window ++ [sample]) →
      window.calibrate { state := imuMemory held, flags, params } sample =
        { state := imuMemory (Function.update held window [])
          flags := flags.erase window.request
          params := setAxes params window.biasParam
            (window.bias params (held window ++ [sample])) }) ∧
    (¬window.Accepts params (held window ++ [sample]) →
      window.calibrate { state := imuMemory held, flags, params } sample =
        { state := imuMemory (Function.update held window [])
          flags := (insert window.failed flags).erase window.request
          params }) := by
  cases window with
  | gyro =>
    rw [gyro_calibrate_of_full flags params sample full]
    constructor
    · intro accepted
      rw [judgeGyro_of_small _ accepted.2]
      rfl
    · intro rejected
      rw [judgeGyro_of_large _ fun small => rejected ⟨trivial, small⟩]
      rfl
  | accel =>
    have present : Function.update held accel (held accel ++ [sample]) accel ≠ [] := by
      rw [Function.update_self]
      exact List.append_ne_nil_of_right_ne_nil _ (List.cons_ne_nil _ _)
    -- The memory judged is that of the held samples and the last one.
    have stores := judgeAccel_of_accepts flags params present
    have fails := judgeAccel_of_rejects flags params present
    rw [Function.update_self] at stores fails
    rw [accel_calibrate_of_full flags params sample full]
    constructor
    · intro accepted
      rw [stores accepted]
      rfl
    · intro rejected
      rw [fails rejected]
      rfl

end ImuWindow

section Axes

variable {axisParam : Fin 3 → ParamId} (params : Params ℝ) (values : Fin 3 → ℝ)

/-- Each axis holds its own value. -/
theorem getById_setAxes_self (distinct : axisParam.Injective) (axis : Fin 3) :
    (setAxes params axisParam values).getById (axisParam axis) = .float (values axis) := by
  have differ {one other : Fin 3} (apart : one ≠ other) : axisParam one ≠ axisParam other :=
    fun same => apart (distinct same)
  -- The axes are stored in order, so those behind an axis are set aside first.
  fin_cases axis
  · exact (Params.getById_setById_of_ne _ _ (differ (by decide))).trans
      ((Params.getById_setById_of_ne _ _ (differ (by decide))).trans
        (Params.getById_setById_self _ _ _))
  · exact (Params.getById_setById_of_ne _ _ (differ (by decide))).trans
      (Params.getById_setById_self _ _ _)
  · exact Params.getById_setById_self _ _ _

/-- A parameter of no axis keeps its value. -/
theorem getById_setAxes_of_ne {id : ParamId} (other : ∀ axis, id ≠ axisParam axis) :
    (setAxes params axisParam values).getById id = params.getById id := by
  rw [setAxes, Params.getById_setById_of_ne _ _ (other 2),
    Params.getById_setById_of_ne _ _ (other 1), Params.getById_setById_of_ne _ _ (other 0)]

end Axes

namespace ImuWindow

/-- Nothing of a window has changed among the flags and the parameters. -/
structure Keeps (window : ImuWindow) (flags after : CalibrationFlags)
    (params paramsAfter : Params ℝ) : Prop where
  request : window.request ∈ after ↔ window.request ∈ flags
  failed : window.failed ∈ after ↔ window.failed ∈ flags
  biases : ∀ axis,
    paramsAfter.getById (window.biasParam axis) = params.getById (window.biasParam axis)
  comps : ∀ axis,
    paramsAfter.getById (accelTempCompParam axis) = params.getById (accelTempCompParam axis)

/-- A window ends: the biases are written if its samples pass, and otherwise it has failed. -/
structure Closes (window : ImuWindow) (flags after : CalibrationFlags)
    (params paramsAfter : Params ℝ) (samples : List ImuSample) : Prop where
  passed : window.InRange samples → window.Passes params samples →
    (∀ axis, paramsAfter.getById (window.biasParam axis) =
      .float (window.bias params samples axis)) ∧ (window.failed ∈ after ↔ window.failed ∈ flags)
  failed : window.InRange samples → ¬window.Passes params samples →
    (∀ axis, paramsAfter.getById (window.biasParam axis) =
      params.getById (window.biasParam axis)) ∧ window.failed ∈ after
  cleared : window.request ∉ after

section Composition

variable {window : ImuWindow} {flags middle after : CalibrationFlags}
  {params paramsMiddle paramsAfter : Params ℝ} {samples : List ImuSample}

/-- Nothing changes by itself. -/
theorem Keeps.refl : window.Keeps flags flags params params :=
  ⟨Iff.rfl, Iff.rfl, fun _ => rfl, fun _ => rfl⟩

/-- One change after another. -/
theorem Keeps.trans (first : window.Keeps flags middle params paramsMiddle)
    (second : window.Keeps middle after paramsMiddle paramsAfter) :
    window.Keeps flags after params paramsAfter where
  request := second.request.trans first.request
  failed := second.failed.trans first.failed
  biases axis := (second.biases axis).trans (first.biases axis)
  comps axis := (second.comps axis).trans (first.comps axis)

/-- A window's bias depends on the temperature compensation alone. -/
theorem Keeps.bias_eq (kept : window.Keeps flags middle params paramsMiddle)
    (samples : List ImuSample) : window.bias paramsMiddle samples = window.bias params samples := by
  have same (axis : Fin 3) : paramFloat paramsMiddle (accelTempCompParam axis) =
      paramFloat params (accelTempCompParam axis) := by
    rw [paramFloat, paramFloat, Params.floatOr, Params.floatOr, kept.comps]
  -- The gyro's bias reads no parameter.
  cases window with
  | gyro => rfl
  | accel =>
    funext axis
    simp only [bias, same]

/-- A window ends as it would have, had nothing been done to other parts before. -/
theorem Keeps.closes (kept : window.Keeps flags middle params paramsMiddle)
    (closes : window.Closes middle after paramsMiddle paramsAfter samples) :
    window.Closes flags after params paramsAfter samples := by
  have biases := kept.bias_eq samples
  have passes : window.Passes paramsMiddle samples ↔ window.Passes params samples := by
    rw [Passes, Passes, biases]
  -- Both verdicts read the same samples and the same compensation.
  refine ⟨?_, ?_, closes.cleared⟩
  · intro inRange passed
    obtain ⟨written, quiet⟩ := closes.passed inRange (passes.mpr passed)
    exact ⟨by rw [← biases]; exact written, quiet.trans kept.failed⟩
  · intro inRange failing
    obtain ⟨unwritten, told⟩ := closes.failed inRange fun passed => failing (passes.mp passed)
    exact ⟨fun axis => (unwritten axis).trans (kept.biases axis), told⟩

/-- A window has ended as it has, whatever is done to other parts afterwards. -/
theorem Closes.keeps (closes : window.Closes flags middle params paramsMiddle samples)
    (kept : window.Keeps middle after paramsMiddle paramsAfter) :
    window.Closes flags after params paramsAfter samples where
  -- The biases and the failure are as they were when the window ended.
  passed inRange passed := by
    obtain ⟨written, quiet⟩ := closes.passed inRange passed
    exact ⟨fun axis => (kept.biases axis).trans (written axis), kept.failed.trans quiet⟩
  failed inRange failing := by
    obtain ⟨unwritten, told⟩ := closes.failed inRange failing
    exact ⟨fun axis => (kept.biases axis).trans (unwritten axis), kept.failed.mpr told⟩
  cleared opened := closes.cleared (kept.request.mp opened)

end Composition

/-- The samples a window holds once another one has been processed. -/
def kept (window : ImuWindow) (flags : CalibrationFlags) (samples : List ImuSample)
    (sample : ImuSample) : List ImuSample :=
  if window.request ∈ flags then
    if samples.length = 1000 then [] else samples ++ [sample]
  else samples

/-- A sample fills the window. -/
def Fills (window : ImuWindow) (flags : CalibrationFlags) (samples : List ImuSample) : Prop :=
  window.request ∈ flags ∧ samples.length = 1000

/-- A window takes a sample: its memory follows, and it ends if that fills it. -/
structure Takes (window : ImuWindow) (held : ImuWindow → List ImuSample)
    (flags : CalibrationFlags) (params : Params ℝ) (sample : ImuSample)
    (after : ImuCalibrating) : Prop where
  memory : after.state =
    imuMemory (Function.update held window (window.kept flags (held window) sample))
  others : ∀ other, other ≠ window → other.Keeps flags after.flags params after.params
  keeps : ¬window.Fills flags (held window) →
    window.Keeps flags after.flags params after.params
  closes : window.Fills flags (held window) →
    window.Closes flags after.flags params after.params (held window ++ [sample])

section Take

variable (window : ImuWindow) {held : ImuWindow → List ImuSample} {flags : CalibrationFlags}
  {params : Params ℝ} {sample : ImuSample}

/-- No axis shares its bias with another one. -/
theorem biasParam_injective : window.biasParam.Injective := by
  cases window with
  | gyro => decide
  | accel => decide

/-- No window writes the biases of another one. -/
theorem biasParam_ne {other : ImuWindow} (differs : other ≠ window) :
    ∀ axis another, other.biasParam axis ≠ window.biasParam another := by
  -- The two windows have six parameters between them.
  cases window with
  | gyro =>
    cases other with
    | gyro => exact absurd rfl differs
    | accel => decide
  | accel =>
    cases other with
    | gyro => decide
    | accel => exact absurd rfl differs

/-- No window writes a temperature compensation. -/
theorem accelTempCompParam_ne_biasParam :
    ∀ axis another, accelTempCompParam axis ≠ window.biasParam another := by
  cases window with
  | gyro => decide
  | accel => decide

/-- A failure is no request. -/
theorem failed_ne_request (other : ImuWindow) : window.failed ≠ other.request := by
  cases window with
  | gyro => cases other <;> decide
  | accel => cases other <;> decide

/-- Each window has its own request. -/
theorem request_injective : request.Injective := by
  intro one other same
  -- Different windows have requests of different kinds.
  cases one with
  | gyro => cases other with
    | gyro => rfl
    | accel => cases same
  | accel => cases other with
    | gyro => cases same
    | accel => rfl

/-- Each window has its own failure. -/
theorem failed_injective : failed.Injective := by
  intro one other same
  -- Different windows have failures of different kinds.
  cases one with
  | gyro => cases other with
    | gyro => rfl
    | accel => cases same
  | accel => cases other with
    | gyro => cases same
    | accel => rfl

/-- Ending a window with stored biases leaves the other window alone. -/
theorem keeps_of_stored {other : ImuWindow} (differs : other ≠ window) (values : Fin 3 → ℝ) :
    other.Keeps flags (flags.erase window.request) params
      (setAxes params window.biasParam values) where
  request := Finset.mem_erase.trans (and_iff_right (request_injective.ne differs))
  failed := Finset.mem_erase.trans (and_iff_right (other.failed_ne_request window))
  biases axis := getById_setAxes_of_ne params values (window.biasParam_ne differs axis)
  comps axis := getById_setAxes_of_ne params values (window.accelTempCompParam_ne_biasParam axis)

/-- Ending a window with a failure leaves the other window alone. -/
theorem keeps_of_failed {other : ImuWindow} (differs : other ≠ window) :
    other.Keeps flags ((insert window.failed flags).erase window.request) params params where
  request := by
    -- The flags changed are those of this window, and no window shares them.
    have apart : other.request ≠ window.failed := (window.failed_ne_request other).symm
    rw [Finset.mem_erase, Finset.mem_insert, or_iff_right apart,
      and_iff_right (request_injective.ne differs)]
  failed := by
    rw [Finset.mem_erase, Finset.mem_insert, or_iff_right (failed_injective.ne differs),
      and_iff_right (other.failed_ne_request window)]
  biases _ := rfl
  comps _ := rfl

/-- What a full window accepts is what passes, within the range of its extremes. -/
theorem accepts_iff_passes {samples : List ImuSample} (present : samples ≠ [])
    (inRange : window.InRange samples) :
    window.Accepts params samples ↔ window.Passes params samples :=
  and_congr_left' (window.rested_iff_still present inRange)

/-- The sample that fills a window ends it. -/
theorem takes_of_full (opened : window.request ∈ flags) (full : (held window).length = 1000) :
    window.Takes held flags params sample
      (window.calibrate { state := imuMemory held, flags, params } sample) := by
  have emptied : window.kept flags (held window) sample = [] := by
    rw [kept, if_pos opened, if_pos full]
  have fills : window.Fills flags (held window) := ⟨opened, full⟩
  have present : held window ++ [sample] ≠ [] :=
    List.append_ne_nil_of_right_ne_nil _ (List.cons_ne_nil _ _)
  obtain ⟨stores, fails⟩ := window.calibrate_of_full flags params sample full
  -- What is accepted is what passes as soon as the samples are in range.
  by_cases accepted : window.Accepts params (held window ++ [sample])
  · rw [stores accepted]
    refine ⟨by rw [emptied], fun other differs => window.keeps_of_stored differs _,
      fun unfilled => absurd fills unfilled, fun _ => ⟨?_, ?_, Finset.notMem_erase _ _⟩⟩
    · intro inRange passed
      refine ⟨fun axis => getById_setAxes_self _ _ window.biasParam_injective axis, ?_⟩
      exact Finset.mem_erase.trans (and_iff_right (window.failed_ne_request window))
    · intro inRange failing
      exact absurd ((window.accepts_iff_passes present inRange).mp accepted) failing
  · rw [fails accepted]
    refine ⟨by rw [emptied], fun other differs => window.keeps_of_failed differs,
      fun unfilled => absurd fills unfilled, fun _ => ⟨?_, ?_, Finset.notMem_erase _ _⟩⟩
    · intro inRange passed
      exact absurd ((window.accepts_iff_passes present inRange).mpr passed) accepted
    · intro inRange failing
      refine ⟨fun _ => rfl, Finset.mem_erase.mpr ⟨?_, Finset.mem_insert_self _ _⟩⟩
      exact window.failed_ne_request window

variable (held flags params sample) in
/-- A window that is asked for takes each sample until it is full, and then ends. -/
theorem takes_take (short : (held window).length ≤ 1000) :
    window.Takes held flags params sample
      (window.take { state := imuMemory held, flags, params } sample) := by
  -- A window whose flag is clear sees nothing of the sample.
  by_cases opened : window.request ∈ flags
  · have taken : window.take { state := imuMemory held, flags, params } sample =
        window.calibrate { state := imuMemory held, flags, params } sample := if_pos opened
    rw [taken]
    by_cases full : (held window).length = 1000
    · exact window.takes_of_full opened full
    · have room : (held window).length < 1000 := Nat.lt_of_le_of_ne short full
      rw [window.calibrate_of_room flags params sample room]
      refine ⟨?_, fun _ _ => .refl, fun _ => .refl, fun fills => absurd fills.2 full⟩
      rw [kept, if_pos opened, if_neg full]
  · have untaken : window.take { state := imuMemory held, flags, params } sample =
        { state := imuMemory held, flags, params } := if_neg opened
    rw [untaken]
    refine ⟨?_, fun _ _ => .refl, fun _ => .refl, fun fills => absurd fills.1 opened⟩
    rw [kept, if_neg opened, Function.update_eq_self]

end Take

end ImuWindow

/-- Add a sample to the windows that are requested, the gyro's first. -/
noncomputable def takeSample (calibrating : ImuCalibrating) (sample : ImuSample) : ImuCalibrating :=
  ImuWindow.accel.take (ImuWindow.gyro.take calibrating sample) sample

/-- Every window takes a sample as if it were alone. -/
structure TakesAll (held : ImuWindow → List ImuSample) (flags : CalibrationFlags)
    (params : Params ℝ) (sample : ImuSample) (after : ImuCalibrating) : Prop where
  memory : after.state = imuMemory fun window => window.kept flags (held window) sample
  keeps : ∀ window : ImuWindow, ¬window.Fills flags (held window) →
    window.Keeps flags after.flags params after.params
  closes : ∀ window : ImuWindow, window.Fills flags (held window) →
    window.Closes flags after.flags params after.params (held window ++ [sample])

/-- Neither window disturbs the other one. -/
theorem takesAll_takeSample {held : ImuWindow → List ImuSample}
    (short : ∀ window, (held window).length ≤ 1000) (flags : CalibrationFlags) (params : Params ℝ)
    (sample : ImuSample) :
    TakesAll held flags params sample
      (takeSample { state := imuMemory held, flags, params } sample) := by
  have first := ImuWindow.gyro.takes_take held flags params sample (short .gyro)
  unfold takeSample
  generalize ImuWindow.gyro.take { state := imuMemory held, flags, params } sample = gyroed at first
  obtain ⟨state, middle, paramsMiddle⟩ := gyroed
  obtain rfl := first.memory
  have second := ImuWindow.accel.takes_take
    (Function.update held .gyro (ImuWindow.gyro.kept flags (held .gyro) sample)) middle paramsMiddle
    sample (short .accel)
  generalize ImuWindow.accel.take _ sample = after at second ⊢
  -- The accelerometer's window is asked for after the gyro's as it was before it.
  have before := first.others .accel (by decide)
  have behind := second.others .gyro (by decide)
  have asked := before.request
  have fills : ImuWindow.accel.Fills middle (held .accel) ↔
      ImuWindow.accel.Fills flags (held .accel) :=
    and_congr_left' asked
  refine ⟨?_, ?_, ?_⟩
  · rw [second.memory]
    congr 1
    funext window
    cases window with
    | gyro => rfl
    | accel => exact if_congr asked rfl rfl
  · -- A window that is not filled is left alone by its own take and by the other one.
    intro window unfilled
    cases window with
    | gyro => exact (first.keeps unfilled).trans behind
    | accel => exact before.trans (second.keeps fun filled => unfilled (fills.mp filled))
  · intro window filled
    cases window with
    | gyro => exact (first.closes filled).keeps behind
    | accel => exact before.closes (second.closes (fills.mpr filled))

end Veloxity
