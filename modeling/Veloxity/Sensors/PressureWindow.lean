import Veloxity.Library.Mean
import Veloxity.Library.Run
import Veloxity.Sensors.CalibrationLaws

/-! What a pressure calibration measures, and which samples its result depends on. -/

namespace Veloxity

open Library

/-- The sensors that are calibrated by a window of pressures. -/
inductive PressureSensor where
  | baro | pitot
  deriving DecidableEq

namespace PressureSensor

/-- What the sensor reports. -/
def Packet : PressureSensor → Type
  | .baro => BaroPacket ℚ
  | .pitot => PitotPacket ℚ

/-- The pressure of a report. -/
def pressure : (sensor : PressureSensor) → sensor.Packet → ℚ
  | .baro, packet => BaroPacket.pressure packet
  | .pitot, packet => PitotPacket.differentialPressure packet

/-- The flag of a requested calibration. -/
def request : PressureSensor → CalibrationFlag
  | .baro => .baro
  | .pitot => .pitot

/-- The flag of a failed calibration. -/
def failed : PressureSensor → CalibrationFlag
  | .baro => .baroFailed
  | .pitot => .pitotFailed

/-- The variance a calibration fails at. -/
def limit : PressureSensor → ℚ
  | .baro => 25
  | .pitot => 100

/-- The parameter of the bias. -/
def bias : PressureSensor → ParamId
  | .baro => .PARAM_BARO_BIAS
  | .pitot => .PARAM_DIFF_PRESS_BIAS

/-- Write the bias, and what else follows from it. -/
def store : PressureSensor → Params ℚ → ℚ → Params ℚ
  | .baro, params, mean =>
    (params.setById .PARAM_BARO_BIAS (.float mean)).setById .PARAM_GROUND_LEVEL
      (.float (pressureToAltitude mean))
  | .pitot, params, mean => params.setById .PARAM_DIFF_PRESS_BIAS (.float mean)

/-- Process a report of the sensor. -/
def process : (sensor : PressureSensor) → PressureCalibrationState ℚ → RawPacket sensor.Packet →
    CalibrationFlags → Params ℚ → Nat → Calibrating (PressureCalibrationState ℚ) ℚ
  | .baro, state, raw, flags, params, nowMs => (baroProcess state raw flags params nowMs).1
  | .pitot, state, raw, flags, params, nowMs => (pitotProcess state raw flags params nowMs).1

variable (sensor : PressureSensor)

/-- A good report goes through the sensor's window. -/
theorem process_ok (state : PressureCalibrationState ℚ) (packet : sensor.Packet)
    (flags : CalibrationFlags) (params : Params ℚ) (nowMs : Nat) :
    sensor.process state (some (.ok packet)) flags params nowMs =
      pressureWindow sensor.limit sensor.request sensor.failed sensor.store state
        (sensor.pressure packet) flags params nowMs := by
  cases sensor <;> rfl

/-- A complaint changes nothing. -/
theorem process_none (state : PressureCalibrationState ℚ) {raw : RawPacket sensor.Packet}
    (complaint : takeOkPacket raw = none) (flags : CalibrationFlags) (params : Params ℚ)
    (nowMs : Nat) : sensor.process state raw flags params nowMs = { state, flags, params } := by
  -- Both sensors leave at once unless the report holds a packet.
  cases raw with
  | none => cases sensor <;> rfl
  | some report =>
    cases report with
    | error reason => cases sensor <;> rfl
    | ok packet => exact absurd complaint (Option.some_ne_none packet)

/-- The bias holds the mean that was written. -/
theorem getById_bias_store (params : Params ℚ) (mean : ℚ) :
    (sensor.store params mean).getById sensor.bias = .float mean := by
  -- The barometer writes its ground level as well, which is another parameter.
  cases sensor with
  | baro =>
    have other : ParamId.PARAM_BARO_BIAS ≠ .PARAM_GROUND_LEVEL := by decide
    rw [store, bias, Params.getById_setById_of_ne _ _ other, Params.getById_setById_self]
  | pitot => exact Params.getById_setById_self _ _ _

/-- The two flags of the sensor's calibration. -/
def window : CalibrationFlags := {sensor.request, sensor.failed}

end PressureSensor

/-- What happens to a calibration: it is requested, a report is processed, or other parts of the
firmware change parameters and the flags of other calibrations. -/
inductive PressureEvent (sensor : PressureSensor) where
  | request
  | report (raw : RawPacket sensor.Packet) (nowMs : Nat)
  | elsewhere (params : Params ℚ) (flags : CalibrationFlags)

/-- A calibration beside the pressures its window has counted and those of all reports processed
since the request that is being served. -/
structure PressureRun (sensor : PressureSensor) where
  state : PressureCalibrationState ℚ
  flags : CalibrationFlags
  params : Params ℚ
  taken : List ℚ
  since : List ℚ

namespace PressureRun

variable {sensor : PressureSensor}

/-- The firmware as it starts, with nothing requested. -/
def start (sensor : PressureSensor) (params : Params ℚ) : PressureRun sensor :=
  { state := .new, flags := ∅, params, taken := [], since := [] }

/-- A request waits for the next report to open a window. -/
def Opens (run : PressureRun sensor) : Prop :=
  sensor.request ∈ run.flags ∧ run.state.requestActive = false

/-- Whether a request waits is decided. -/
instance (run : PressureRun sensor) : Decidable run.Opens :=
  inferInstanceAs (Decidable (_ ∧ _))

/-- The window's memory when a report is processed. -/
def opened (run : PressureRun sensor) : PressureCalibrationState ℚ :=
  if run.Opens then { PressureCalibrationState.new with requestActive := true } else run.state

/-- The pressures the window has counted when a report is processed. -/
def earlier (run : PressureRun sensor) : List ℚ := if run.Opens then [] else run.taken

/-- A report is counted: the calibration has not succeeded, and the last counted report is more than
twenty milliseconds old. -/
def Counts (run : PressureRun sensor) (nowMs : Nat) : Prop :=
  run.opened.calibrated = false ∧ ¬nowMs ≤ wrappingAddU32 run.opened.lastIterMs 20

/-- Whether a report is counted is decided. -/
instance (run : PressureRun sensor) (nowMs : Nat) : Decidable (run.Counts nowMs) :=
  inferInstanceAs (Decidable (_ ∧ ¬_))

/-- The pressures counted once a report has been processed; the one behind a full window closes
it. -/
def takenAfter (run : PressureRun sensor) (pressure : ℚ) (nowMs : Nat) : List ℚ :=
  if run.Counts nowMs then
    if run.earlier.length = SENSOR_CAL_DELAY_CYCLES + SENSOR_CAL_CYCLES then []
    else run.earlier ++ [pressure]
  else run.earlier

/-- One event. -/
def step (run : PressureRun sensor) : PressureEvent sensor → PressureRun sensor
  | .request =>
    { run with
      flags := insert sensor.request (run.flags.erase sensor.failed)
      -- A request made while another one is served changes nothing.
      since := if sensor.request ∈ run.flags then run.since else [] }
  | .report raw nowMs =>
    let done := sensor.process run.state raw run.flags run.params nowMs
    { state := done.state, flags := done.flags, params := done.params
      taken := ((takeOkPacket raw).map fun packet =>
        run.takenAfter (sensor.pressure packet) nowMs).getD run.taken
      since := run.since ++ ((takeOkPacket raw).map sensor.pressure).toList }
  | .elsewhere params flags =>
    { run with params, flags := (flags \ sensor.window) ∪ (run.flags ∩ sensor.window) }

/-- The counted pressures that are measured: those behind the delay. -/
def measured (taken : List ℚ) : List ℚ := taken.drop SENSOR_CAL_DELAY_CYCLES

/-- The deviation of the measured pressures that a calibration is judged by. -/
def deviation (taken : List ℚ) : ℚ :=
  squaredDeviations (measured taken) / ((SENSOR_CAL_CYCLES - 1 : Nat) : ℚ)

/-- A full window writes the mean of its pressures if they deviate little enough, clearing the
request, and else reports a failure; the next window starts afresh. -/
structure Judges (run after : PressureRun sensor) : Prop where
  full : (measured run.earlier).length = SENSOR_CAL_CYCLES
  fresh : (measured run.earlier).Sublist run.since
  passed : deviation run.earlier < sensor.limit →
    after.params = sensor.store run.params (mean (measured run.earlier)) ∧
      after.params.getById sensor.bias = .float (mean (measured run.earlier)) ∧
      after.flags = run.flags.erase sensor.request
  failed : ¬deviation run.earlier < sensor.limit →
    after.params = run.params ∧ after.flags = insert sensor.failed run.flags
  restarts : after.state.mean = 0 ∧ after.state.m2 = 0 ∧ after.state.count = 0

/-- A counted report adds its pressure to the window, whose running mean and deviation are exact
once the delay is over. -/
structure Accumulates (run after : PressureRun sensor) (pressure : ℚ) : Prop where
  taken_eq : after.taken = run.earlier ++ [pressure]
  mean_eq : SENSOR_CAL_DELAY_CYCLES < after.taken.length →
    after.state.mean = mean (measured after.taken)
  m2_eq : SENSOR_CAL_DELAY_CYCLES < after.taken.length → after.state.m2 = deviation after.taken

/-- Nothing the rest of the firmware sees has changed. -/
def Quiet (run after : PressureRun sensor) : Prop :=
  after.params = run.params ∧ after.flags = run.flags

/-- A good report closes a full window or is added to the window, and any other report changes
nothing. -/
def Measures (run : PressureRun sensor) : PressureEvent sensor → Prop
  | .report raw nowMs =>
    let after := run.step (.report raw nowMs)
    match takeOkPacket raw with
    | none => run.Quiet after ∧ after.state = run.state
    | some packet =>
      if run.Counts nowMs then
        if run.earlier.length = SENSOR_CAL_DELAY_CYCLES + SENSOR_CAL_CYCLES then run.Judges after
        else run.Quiet after ∧ run.Accumulates after (sensor.pressure packet)
      else run.Quiet after ∧ after.taken = run.earlier
  | _ => True

/-- A window's memory sums up the pressures it has counted. -/
structure Summarises (state : PressureCalibrationState ℚ) (taken : List ℚ) : Prop where
  count_eq : state.count = taken.length
  room : taken.length ≤ SENSOR_CAL_DELAY_CYCLES + SENSOR_CAL_CYCLES
  mean_eq : state.mean = mean (measured taken)
  m2_eq : state.m2 = deviation taken

/-- A window that has counted nothing. -/
theorem summarises_nil {state : PressureCalibrationState ℚ} (count : state.count = 0)
    (centred : state.mean = 0) (still : state.m2 = 0) : Summarises state [] := by
  refine ⟨count, Nat.zero_le _, ?_, ?_⟩
  · rw [centred, measured, List.drop_nil, mean_nil]
  · rw [still, deviation, measured, List.drop_nil, squaredDeviations_nil, zero_div]

/-- Once the delay is over every counted pressure is measured. -/
theorem measured_concat {taken : List ℚ} (late : SENSOR_CAL_DELAY_CYCLES ≤ taken.length)
    (pressure : ℚ) : measured (taken ++ [pressure]) = measured taken ++ [pressure] :=
  List.drop_append_of_le_length late

/-- Within the delay no counted pressure is measured. -/
theorem measured_of_le {taken : List ℚ} (early : taken.length ≤ SENSOR_CAL_DELAY_CYCLES) :
    measured taken = [] :=
  List.drop_of_length_le early

section Window

variable {state : PressureCalibrationState ℚ} {taken : List ℚ} {nowMs : Nat}

/-- A counted report moves the running mean and deviation to those of one more pressure. -/
theorem Summarises.accumulates (sums : Summarises state taken)
    (late : ¬nowMs ≤ wrappingAddU32 state.lastIterMs 20)
    (room : taken.length < SENSOR_CAL_DELAY_CYCLES + SENSOR_CAL_CYCLES) (flags : CalibrationFlags)
    (params : Params ℚ) (pressure : ℚ) :
    ∃ next : PressureCalibrationState ℚ,
      calibratePressure sensor.limit sensor.request sensor.failed sensor.store
          { state, flags, params } pressure nowMs = { state := next, flags, params } ∧
      Summarises next (taken ++ [pressure]) ∧ next.requestActive = state.requestActive := by
  have counted := sums.count_eq
  have grown : (taken ++ [pressure]).length = taken.length + 1 := List.length_append
  unfold calibratePressure
  dsimp only
  rw [if_neg late, if_neg (by omega)]
  split
  · -- One more pressure is measured.
    rename_i behindDelay
    have behind : SENSOR_CAL_DELAY_CYCLES ≤ taken.length := by omega
    have number : ((state.count + 1 - SENSOR_CAL_DELAY_CYCLES : Nat) : ℚ) =
        ((measured taken).length : ℚ) + 1 := by
      rw [measured, List.length_drop]
      exact_mod_cast (by omega)
    have moved : state.mean + (pressure - state.mean) /
        ((state.count + 1 - SENSOR_CAL_DELAY_CYCLES : Nat) : ℚ) =
          mean (measured (taken ++ [pressure])) := by
      rw [measured_concat behind, mean_concat, sums.mean_eq, number]
    have spread : state.m2 + (pressure - state.mean) *
        (pressure - mean (measured (taken ++ [pressure]))) / ((SENSOR_CAL_CYCLES - 1 : Nat) : ℚ) =
          deviation (taken ++ [pressure]) := by
      rw [deviation, measured_concat behind, squaredDeviations_concat, add_div, sums.m2_eq,
        sums.mean_eq, deviation]
    rw [← moved] at spread
    refine ⟨_, rfl, ⟨?_, ?_, moved, spread⟩, rfl⟩
    · rw [grown, counted]
    · omega
  · -- Within the delay the pressure is only counted.
    rename_i early
    have centred := sums.mean_eq
    have still := sums.m2_eq
    rw [measured_of_le (by omega)] at centred
    rw [deviation, measured_of_le (by omega)] at still
    refine ⟨_, rfl, ⟨?_, ?_, ?_, ?_⟩, rfl⟩
    · rw [grown, counted]
    · omega
    · rw [measured_of_le (by omega)]
      exact centred
    · rw [deviation, measured_of_le (by omega)]
      exact still

/-- The report behind a full window has it judged, and the next window starts afresh. -/
theorem Summarises.judged (sums : Summarises state taken)
    (late : ¬nowMs ≤ wrappingAddU32 state.lastIterMs 20)
    (full : taken.length = SENSOR_CAL_DELAY_CYCLES + SENSOR_CAL_CYCLES) (flags : CalibrationFlags)
    (params : Params ℚ) (pressure : ℚ) :
    ∃ next : PressureCalibrationState ℚ,
      calibratePressure sensor.limit sensor.request sensor.failed sensor.store
          { state, flags, params } pressure nowMs =
        (if deviation taken < sensor.limit then
          { state := next, flags := flags.erase sensor.request
            params := sensor.store params (mean (measured taken)) }
        else { state := next, flags := insert sensor.failed flags, params }) ∧
      next.mean = 0 ∧ next.m2 = 0 ∧ next.count = 0 ∧
      next.requestActive =
        if deviation taken < sensor.limit then false else state.requestActive := by
  have counted := sums.count_eq
  -- The memory holds the mean and the deviation, so the verdict is about the window itself.
  unfold calibratePressure judgePressure
  dsimp only
  rw [if_neg late, if_pos (by omega), ← sums.m2_eq, ← sums.mean_eq]
  by_cases passed : state.m2 < sensor.limit
  · have lower : FlightFloat.lt state.m2 sensor.limit = true := decide_eq_true passed
    simp only [lower, if_true, if_pos passed]
    exact ⟨_, rfl, rfl, rfl, rfl, rfl⟩
  · have higher : FlightFloat.lt state.m2 sensor.limit = false := decide_eq_false passed
    simp only [higher, Bool.false_eq_true, if_false, if_neg passed]
    exact ⟨_, rfl, rfl, rfl, rfl, rfl⟩

end Window

/-- A window's memory is that of its pressures, and they have all been processed since the request
that is being served. -/
structure Tracks (run : PressureRun sensor) : Prop where
  sums : Summarises run.state run.taken
  active : run.state.requestActive = true → sensor.request ∈ run.flags
  fresh : run.earlier.Sublist run.since

/-- A waiting request opens an empty window. -/
theorem Tracks.opened {run : PressureRun sensor} (tracks : run.Tracks) :
    Summarises run.opened run.earlier := by
  unfold PressureRun.opened earlier
  -- Opening a window forgets mean, deviation and count.
  split
  · exact summarises_nil rfl rfl rfl
  · exact tracks.sums

/-- The pressures counted when a report is processed are some of those counted before it. -/
theorem earlier_sublist {run : PressureRun sensor} {pressures : List ℚ}
    (sublist : run.taken.Sublist pressures) : run.earlier.Sublist pressures := by
  unfold earlier
  -- A window just opened holds nothing yet.
  split
  · exact List.nil_sublist _
  · exact sublist

/-- An opened window is active only while its request is set. -/
theorem Tracks.opened_active {run : PressureRun sensor} (tracks : run.Tracks)
    (active : run.opened.requestActive = true) : sensor.request ∈ run.flags := by
  unfold PressureRun.opened at active
  -- A window is opened by a set request and stays active under one.
  split at active
  · rename_i opens
    exact opens.1
  · exact tracks.active active

/-- A good report is processed by the opened window. -/
theorem process_eq (run : PressureRun sensor) (packet : sensor.Packet) (nowMs : Nat) :
    sensor.process run.state (some (.ok packet)) run.flags run.params nowMs =
      if run.opened.calibrated then
        { state := run.opened, flags := run.flags, params := run.params }
      else calibratePressure sensor.limit sensor.request sensor.failed sensor.store
        { state := run.opened, flags := run.flags, params := run.params } (sensor.pressure packet)
        nowMs := by
  -- The first lines of the source open the window a request asks for.
  have begun : beginRequest sensor.request
      { state := run.state, flags := run.flags, params := run.params } =
        { state := run.opened, flags := run.flags, params := run.params } := by
    rw [beginRequest, PressureRun.opened]
    by_cases opens : run.Opens
    · rw [if_pos opens]
      exact if_pos opens
    · rw [if_neg opens]
      exact if_neg opens
  rw [sensor.process_ok, pressureWindow, begun]

/-- A report that is not counted only opens the window of a waiting request. -/
theorem process_of_not_counts {run : PressureRun sensor} (packet : sensor.Packet) {nowMs : Nat}
    (skipped : ¬run.Counts nowMs) :
    sensor.process run.state (some (.ok packet)) run.flags run.params nowMs =
      { state := run.opened, flags := run.flags, params := run.params } := by
  rw [run.process_eq]
  cases calibrated : run.opened.calibrated with
  | true => rw [if_pos rfl]
  | false =>
    -- The last counted report is too recent.
    have recent : nowMs ≤ wrappingAddU32 run.opened.lastIterMs 20 := by
      by_contra late
      exact skipped ⟨calibrated, late⟩
    rw [if_neg Bool.false_ne_true, calibratePressure]
    exact if_pos recent

/-- What a good report leaves. -/
theorem step_report_ok (run : PressureRun sensor) (packet : sensor.Packet) (nowMs : Nat) :
    let done := sensor.process run.state (some (.ok packet)) run.flags run.params nowMs
    run.step (.report (some (.ok packet)) nowMs) =
      { state := done.state, flags := done.flags, params := done.params
        taken := run.takenAfter (sensor.pressure packet) nowMs
        since := run.since ++ [sensor.pressure packet] } := rfl

/-- A report that is not counted changes nothing but the window it opens. -/
theorem Tracks.skipped {run : PressureRun sensor} (tracks : run.Tracks) (packet : sensor.Packet)
    {nowMs : Nat} (skipped : ¬run.Counts nowMs) :
    let after := run.step (.report (some (.ok packet)) nowMs)
    after.Tracks ∧ run.Quiet after ∧ after.taken = run.earlier := by
  have kept : run.takenAfter (sensor.pressure packet) nowMs = run.earlier := if_neg skipped
  -- Whether the window was complete or the report early, nothing is counted.
  rw [step_report_ok, process_of_not_counts packet skipped, kept]
  refine ⟨⟨tracks.opened, tracks.opened_active, ?_⟩, ⟨rfl, rfl⟩, rfl⟩
  exact earlier_sublist (tracks.fresh.trans (List.sublist_append_left _ _))

/-- A counted report is added to a window that is not full. -/
theorem Tracks.added {run : PressureRun sensor} (tracks : run.Tracks) (packet : sensor.Packet)
    {nowMs : Nat} (counts : run.Counts nowMs)
    (room : run.earlier.length ≠ SENSOR_CAL_DELAY_CYCLES + SENSOR_CAL_CYCLES) :
    let after := run.step (.report (some (.ok packet)) nowMs)
    after.Tracks ∧ run.Quiet after ∧ run.Accumulates after (sensor.pressure packet) := by
  have sums := tracks.opened
  have grown : run.takenAfter (sensor.pressure packet) nowMs =
      run.earlier ++ [sensor.pressure packet] := (if_pos counts).trans (if_neg room)
  -- There is room, so the report is one more pressure of the window.
  obtain ⟨next, processed, more, active⟩ := sums.accumulates counts.2
    (Nat.lt_of_le_of_ne sums.room room) run.flags run.params (sensor.pressure packet)
  rw [step_report_ok, run.process_eq, counts.1, if_neg Bool.false_ne_true, processed, grown]
  refine ⟨⟨more, ?_, ?_⟩, ⟨rfl, rfl⟩, ⟨rfl, fun _ => more.mean_eq, fun _ => more.m2_eq⟩⟩
  · intro activated
    exact tracks.opened_active (active.symm.trans activated)
  · exact earlier_sublist (tracks.fresh.append (List.Sublist.refl _))

/-- A counted report behind a full window has it judged. -/
theorem Tracks.closed {run : PressureRun sensor} (tracks : run.Tracks) (packet : sensor.Packet)
    {nowMs : Nat} (counts : run.Counts nowMs)
    (full : run.earlier.length = SENSOR_CAL_DELAY_CYCLES + SENSOR_CAL_CYCLES) :
    let after := run.step (.report (some (.ok packet)) nowMs)
    after.Tracks ∧ run.Judges after := by
  have emptied : run.takenAfter (sensor.pressure packet) nowMs = [] :=
    (if_pos counts).trans (if_pos full)
  obtain ⟨next, processed, centred, still, none, active⟩ := tracks.opened.judged counts.2 full
    run.flags run.params (sensor.pressure packet)
  rw [step_report_ok, run.process_eq, counts.1, if_neg Bool.false_ne_true, processed, emptied]
  have length : (measured run.earlier).length = SENSOR_CAL_CYCLES := by
    rw [measured, List.length_drop, full]
    exact Nat.add_sub_cancel_left _ _
  -- Only the reports behind the delay are measured, and they all came since the request.
  have fresh : (measured run.earlier).Sublist run.since :=
    (List.drop_sublist _ _).trans tracks.fresh
  have restarted : Summarises next [] := summarises_nil none centred still
  -- A passed window ends its request; a failed one goes on with an empty window.
  by_cases passed : deviation run.earlier < sensor.limit
  · rw [if_pos passed] at active ⊢
    refine ⟨⟨restarted, ?_, earlier_sublist (List.nil_sublist _)⟩, ⟨length, fresh, ?_, ?_, ?_⟩⟩
    · intro activated
      rw [active] at activated
      cases activated
    · intro _
      exact ⟨rfl, sensor.getById_bias_store _ _, rfl⟩
    · intro failed
      exact absurd passed failed
    · exact ⟨centred, still, none⟩
  · rw [if_neg passed] at active ⊢
    refine ⟨⟨restarted, ?_, earlier_sublist (List.nil_sublist _)⟩, ⟨length, fresh, ?_, ?_, ?_⟩⟩
    · intro activated
      exact Finset.mem_insert_of_mem (tracks.opened_active (active.symm.trans activated))
    · intro passing
      exact absurd passing passed
    · intro _
      exact ⟨rfl, rfl⟩
    · exact ⟨centred, still, none⟩

/-- The flags of other calibrations do not bear on the sensor's. -/
theorem request_mem_elsewhere (run : PressureRun sensor) (flags : CalibrationFlags) :
    sensor.request ∈ (flags \ sensor.window) ∪ (run.flags ∩ sensor.window) ↔
      sensor.request ∈ run.flags := by
  simp [PressureSensor.window]

/-- A complaint leaves everything as it is. -/
theorem step_complaint (run : PressureRun sensor) {raw : RawPacket sensor.Packet}
    (complaint : takeOkPacket raw = none) (nowMs : Nat) :
    run.step (.report raw nowMs) = run := by
  simp only [step, sensor.process_none run.state complaint, complaint, Option.map_none,
    Option.getD_none, Option.toList_none, List.append_nil]

/-- A report that holds a packet is that packet. -/
theorem eq_of_takeOkPacket {P : Type} {raw : RawPacket P} {packet : P}
    (reported : takeOkPacket raw = some packet) : raw = some (.ok packet) := by
  -- Of the three kinds of reports only a good one holds a packet.
  cases raw with
  | none => cases reported
  | some report =>
    cases report with
    | error reason => cases reported
    | ok other =>
      obtain rfl : other = packet := Option.some.inj reported
      rfl

/-- Every event keeps the window's memory that of its pressures. -/
theorem Tracks.step {run : PressureRun sensor} (tracks : run.Tracks)
    (event : PressureEvent sensor) :
    (run.step event).Tracks := by
  cases event with
  | request =>
    refine ⟨tracks.sums, fun _ => Finset.mem_insert_self _ _, ?_⟩
    by_cases set : sensor.request ∈ run.flags
    · -- A request made again opens no window.
      have opens : (run.step .request).Opens ↔ run.Opens :=
        and_congr_left fun _ => iff_of_true (Finset.mem_insert_self _ _) set
      have since : (run.step .request).since = run.since := if_pos set
      rw [since, earlier, if_congr opens rfl rfl]
      exact tracks.fresh
    · -- Nothing was being served, so the next report opens one.
      have idle : run.state.requestActive = false := by
        rw [← Bool.not_eq_true]
        exact fun active => set (tracks.active active)
      have opens : (run.step .request).Opens := ⟨Finset.mem_insert_self _ _, idle⟩
      rw [earlier, if_pos opens]
      exact List.nil_sublist _
  | report raw nowMs =>
    cases reported : takeOkPacket raw with
    | none =>
      rw [run.step_complaint reported]
      exact tracks
    | some packet =>
      obtain rfl := eq_of_takeOkPacket reported
      by_cases counts : run.Counts nowMs
      · by_cases full : run.earlier.length = SENSOR_CAL_DELAY_CYCLES + SENSOR_CAL_CYCLES
        · exact (tracks.closed packet counts full).1
        · exact (tracks.added packet counts full).1
      · exact (tracks.skipped packet counts).1
  | elsewhere params flags =>
    have same := run.request_mem_elsewhere flags
    have opens : (run.step (.elsewhere params flags)).Opens ↔ run.Opens :=
      and_congr_left fun _ => same
    refine ⟨tracks.sums, fun active => same.mpr (tracks.active active), ?_⟩
    rw [earlier, if_congr opens rfl rfl]
    exact tracks.fresh

/-- Every report is measured as it should be. -/
theorem Tracks.measures {run : PressureRun sensor} (tracks : run.Tracks)
    (event : PressureEvent sensor) : run.Measures event := by
  cases event with
  | request => trivial
  | elsewhere params flags => trivial
  | report raw nowMs =>
    rw [Measures]
    cases reported : takeOkPacket raw with
    | none =>
      dsimp only
      rw [run.step_complaint reported]
      exact ⟨⟨rfl, rfl⟩, rfl⟩
    | some packet =>
      obtain rfl := eq_of_takeOkPacket reported
      dsimp only
      -- A report is counted into the window, closes it or is skipped, one lemma for each.
      split
      · rename_i counts
        split
        · rename_i full
          exact (tracks.closed packet counts full).2
        · rename_i room
          exact (tracks.added packet counts room).2
      · rename_i skipped
        exact (tracks.skipped packet skipped).2

/-- In every run from the firmware's start the calibration measures each window exactly and judges
it by its deviation, and its results depend only on what was processed since the request that is
being served. -/
theorem measures_along (sensor : PressureSensor) (params : Params ℚ)
    (events : List (PressureEvent sensor)) : Along Measures step (start sensor params) events := by
  -- Nothing has been counted at the start.
  have fresh : (start sensor params).Tracks := by
    refine ⟨summarises_nil rfl rfl rfl, ?_, earlier_sublist (List.nil_sublist _)⟩
    intro active
    cases active
  exact along_of_invariant Tracks (fun _ event tracks => tracks.step event)
    (fun _ event tracks => tracks.measures event) fresh events

/-- A report of a pressure, twenty-one milliseconds after the one before. -/
def pressureReport (pressure : ℚ) (index : Nat) : PressureEvent .pitot :=
  .report (some (.ok { header := {}, differentialPressure := pressure, temperature := 0
                       indicatedAirspeed := 0 })) (21 * (index + 1))

/-- A request, the delay, and a first measured pressure. -/
def firstRequest (pressure : ℚ) : List (PressureEvent .pitot) :=
  .request :: (List.range 128).map (pressureReport 1) ++ [pressureReport pressure 128]

/-- Another request, and as many reports as the window still needs. -/
def secondRequest : List (PressureEvent .pitot) :=
  .request :: (List.range 127).map fun index => pressureReport 1 (129 + index)

/-- The bias written after the second request depends on a pressure reported before it. -/
theorem secondRequest_bias :
    (run step (start .pitot Params.new) (firstRequest 1 ++ secondRequest)).params.getById
        .PARAM_DIFF_PRESS_BIAS = .float 1 ∧
      (run step (start .pitot Params.new) (firstRequest 14 ++ secondRequest)).params.getById
        .PARAM_DIFF_PRESS_BIAS = .float (140 / 127) := by
  decide +kernel

end PressureRun

end Veloxity
