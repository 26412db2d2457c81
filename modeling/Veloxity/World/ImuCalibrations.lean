import Veloxity.Library.Run
import Veloxity.Sensors.ImuWindows
import Veloxity.World.Stages

/-! Calibration requests and inertial samples in any order, and what each window makes of them. -/

namespace Veloxity

open Library

/-- What happens to an inertial calibration: the companion's requests are served, arming asks for
the gyro's window or settles its outcome, a report is processed, or other parts of the firmware
change parameters and the flags of other calibrations. -/
inductive ImuCalibrationEvent (E C M D : Type) where
  | commands (service : CommandService ℝ C) (vehicle : StateManager)
  | arming (world : World ℝ ℝ E C M D)
  | settling (world : World ℝ ℝ E C M D)
  | report (raw : RawPacket (ImuPacket ℝ ℝ))
  | elsewhere (params : Params ℝ) (flags : CalibrationFlags)

/-- A calibration beside the samples behind each window's sums, and those processed since each
window's flag last went from clear to set. -/
structure ImuCalibrationRun where
  processor : ImuProcessor ℝ ℝ
  flags : CalibrationFlags
  params : Params ℝ
  used : ImuWindow → List ImuSample
  since : ImuWindow → List ImuSample

/-- The flags of both windows. -/
def imuWindows : CalibrationFlags := gyroWindow ∪ accelWindow

/-- A window's request is one of the windows' flags. -/
theorem ImuWindow.request_mem_imuWindows (window : ImuWindow) : window.request ∈ imuWindows := by
  cases window <;> decide

/-- A window's failure is one of the windows' flags. -/
theorem ImuWindow.failed_mem_imuWindows (window : ImuWindow) : window.failed ∈ imuWindows := by
  cases window <;> decide

/-- A packet turned by the mounting angles. -/
noncomputable def ImuProcessor.mounted (processor : ImuProcessor ℝ ℝ) (params : Params ℝ)
    (packet : ImuPacket ℝ ℝ) : ImuSample :=
  let mount := processor.mountRotation.updateFromParams params
  { packet with
    accel := rotateVectorReal mount.rotation packet.accel
    gyro := rotateVectorReal mount.rotation packet.gyro }

/-- A packet is turned and taken by the windows. -/
theorem ImuProcessor.processPacket_eq (processor : ImuProcessor ℝ ℝ) (packet : ImuPacket ℝ ℝ)
    (flags : CalibrationFlags) (params : Params ℝ) :
    (processor.processPacket packet flags params).1 =
      let done := takeSample { state := processor.calibrationState, flags, params }
        (processor.mounted params packet)
      { state :=
          { calibrationState := done.state
            mountRotation := processor.mountRotation.updateFromParams params }
        flags := done.flags
        params := done.params } := rfl

namespace ImuCalibrationRun

variable {E C M D : Type} (run : ImuCalibrationRun)

/-- The firmware as it starts, with nothing requested. -/
noncomputable def start (params : Params ℝ) : ImuCalibrationRun :=
  { processor := .new, flags := ∅, params, used := fun _ => [], since := fun _ => [] }

/-- The samples behind a window's sums, which are none once the sums have been reset. -/
noncomputable def counted (window : ImuWindow) : List ImuSample :=
  if window.count run.processor.calibrationState = 0 then [] else run.used window

/-- The samples processed since a window's flag was last raised, if the flags change. -/
def reopened (flags : CalibrationFlags) (window : ImuWindow) : List ImuSample :=
  if window.request ∉ run.flags ∧ window.request ∈ flags then [] else run.since window

/-- Flags and parameters change without a sample. -/
def changed (flags : CalibrationFlags) (params : Params ℝ) : ImuCalibrationRun :=
  { run with flags, params, since := run.reopened flags }

/-- A sample has been processed, by the windows whose flags were set. -/
noncomputable def taken (done : Calibrating (ImuProcessor ℝ ℝ) ℝ) (sample : ImuSample) :
    ImuCalibrationRun where
  processor := done.state
  flags := done.flags
  params := done.params
  used window :=
    if window.request ∈ run.flags then run.counted window ++ [sample] else run.used window
  since window := run.reopened done.flags window ++ [sample]

/-- The service that shares the calibration's flags and parameters. -/
def serving (service : CommandService ℝ C) : CommandService ℝ C :=
  { service with flags := run.flags, params := run.params }

/-- The world that shares the calibration's flags and parameters. -/
def within (world : World ℝ ℝ E C M D) : World ℝ ℝ E C M D :=
  { world with calFlags := run.flags, params := run.params }

/-- One event. -/
noncomputable def step (run : ImuCalibrationRun) : ImuCalibrationEvent E C M D → ImuCalibrationRun
  | .commands service vehicle =>
    let served := (run.serving service).applyCalibrationRequests vehicle
    run.changed served.flags served.params
  | .arming world =>
    let asked := (run.within world).requestGyroCalibrationIfNeeded
    run.changed asked.calFlags asked.params
  | .settling world =>
    let settled := (run.within world).settleArmCalibration
    run.changed settled.calFlags settled.params
  | .report raw =>
    let done := (run.processor.process raw run.flags run.params).1
    match (takeOkPacket raw).map (run.processor.mounted run.params) with
    | none => { run.changed done.flags done.params with processor := done.state }
    | some sample => run.taken done sample
  | .elsewhere params flags =>
    run.changed ((flags \ imuWindows) ∪ (run.flags ∩ imuWindows)) params

/-- A window ends: its sums were those of all samples processed since its flag was raised, the
biases are written or the failure is raised by those samples, and its memory is reset. -/
structure Ends (after : ImuCalibrationRun) (window : ImuWindow) : Prop where
  used_eq : after.used window = after.since window
  clean : window.failed ∉ run.flags
  closes : window.Closes run.flags after.flags run.params after.params (after.since window)
  restarts : window.Initial after.processor.calibrationState

/-- A window whose flag is set ends with its thousand and first sample and not before. -/
def Calibrates (run : ImuCalibrationRun) (event : ImuCalibrationEvent E C M D) : Prop :=
  let after := run.step event
  ∀ window : ImuWindow, window.request ∈ run.flags →
    (window.request ∉ after.flags ↔ 1000 < (after.since window).length) ∧
      (window.request ∉ after.flags → run.Ends after window)

/-- A window's flag stays set, and no failure is left beside a flag that was raised. -/
structure Serves (flags after : CalibrationFlags) : Prop where
  stays : ∀ window : ImuWindow, window.request ∈ flags → window.request ∈ after
  clean : ∀ window : ImuWindow, window.request ∈ after → window.failed ∈ after →
    window.request ∈ flags ∧ window.failed ∈ flags

section Serves

variable {flags middle after : CalibrationFlags}

/-- Nothing changes by itself. -/
theorem Serves.refl : Serves flags flags :=
  ⟨fun _ => id, fun _ opened told => ⟨opened, told⟩⟩

/-- One service after another. -/
theorem Serves.trans (first : Serves flags middle) (second : Serves middle after) :
    Serves flags after where
  stays window opened := second.stays window (first.stays window opened)
  clean window opened told := by
    obtain ⟨stayed, remains⟩ := second.clean window opened told
    exact first.clean window stayed remains

/-- Changes to other flags serve the windows. -/
theorem Serves.of_iff
    (requests : ∀ window : ImuWindow, window.request ∈ after ↔ window.request ∈ flags)
    (failures : ∀ window : ImuWindow, window.failed ∈ after → window.failed ∈ flags) :
    Serves flags after where
  stays window := (requests window).mpr
  clean window opened told := ⟨(requests window).mp opened, failures window told⟩

/-- A request raises the gyro's flag in place of its failure. -/
theorem serves_gyro : Serves flags (insert .gyro (flags.erase .gyroFailed)) where
  stays window opened := by
    -- The accelerometer's flags are not concerned.
    cases window with
    | gyro => exact Finset.mem_insert_self _ _
    | accel => simpa [ImuWindow.request] using opened
  clean window opened told := by
    cases window with
    | gyro => simp [ImuWindow.failed] at told
    | accel => simpa [ImuWindow.request, ImuWindow.failed] using And.intro opened told

/-- A request raises both flags in place of their failures. -/
theorem serves_both :
    Serves flags (insert .gyro (insert .accel ((flags.erase .gyroFailed).erase .accelFailed))) where
  stays window _ := by
    cases window <;> simp [ImuWindow.request]
  clean window _ told := by
    cases window <;> simp [ImuWindow.failed] at told

/-- A request for another calibration serves the windows. -/
theorem serves_other {kind failure : CalibrationFlag} (other : kind ∉ imuWindows)
    (another : failure ∉ imuWindows) : Serves flags (insert kind (flags.erase failure)) := by
  have own {flag : CalibrationFlag} (known : flag ∈ imuWindows) :
      flag ∈ insert kind (flags.erase failure) ↔ flag ∈ flags := by
    -- A flag of the windows is neither of the two.
    have raised : flag ≠ kind := fun same => other (same ▸ known)
    have cleared : flag ≠ failure := fun same => another (same ▸ known)
    rw [Finset.mem_insert, Finset.mem_erase, or_iff_right raised, and_iff_right cleared]
  exact .of_iff (fun window => own window.request_mem_imuWindows)
    fun window => (own window.failed_mem_imuWindows).mp

/-- Serving the companion's calibration requests serves the windows. -/
theorem serves_applyCalibrationRequests {C : Type} (service : CommandService ℝ C)
    (vehicle : StateManager) :
    Serves service.flags (service.applyCalibrationRequests vehicle).flags := by
  have started (served : CommandService ℝ C) (command : RosflightCmd) :
      Serves served.flags (served.startCalibration command).flags := by
    cases command with
    | accelCalibration => exact serves_both
    | gyroCalibration => exact serves_gyro
    | baroCalibration => exact serves_other (by decide) (by decide)
    | airspeedCalibration => exact serves_other (by decide) (by decide)
    | _ => exact .refl
  have one (served : CommandService ℝ C) (command : RosflightCmd)
      (serves : Serves service.flags served.flags) :
      Serves service.flags
        (CommandService.applyCalibrationRequest vehicle served command).flags := by
    unfold CommandService.applyCalibrationRequest
    -- An armed vehicle refuses.
    split
    · exact serves
    · exact serves.trans (started served command)
  exact BoundedQueue.drain_invariant one .refl service.requests.calibrationRequests

/-- Asking for the gyro's window while arming serves the windows. -/
theorem serves_requestGyroCalibrationIfNeeded (world : World ℝ ℝ E C M D) :
    Serves world.calFlags world.requestGyroCalibrationIfNeeded.calFlags := by
  unfold World.requestGyroCalibrationIfNeeded
  -- A window already open, or a vehicle that is not arming, is left alone.
  split
  · exact serves_gyro
  · exact .refl

/-- Settling the outcome of arming serves the windows. -/
theorem serves_settleArmCalibration (world : World ℝ ℝ E C M D) :
    Serves world.calFlags world.settleArmCalibration.calFlags := by
  have acknowledged : Serves world.calFlags (world.calFlags.erase .gyroFailed) := by
    refine .of_iff ?_ fun window told => Finset.mem_of_mem_erase told
    intro window
    cases window <;> simp [ImuWindow.request]
  unfold World.settleArmCalibration
  -- Only a failure is acknowledged.
  split
  · exact acknowledged
  · split
    · exact .refl
    · exact .refl

/-- Changing the flags of other calibrations serves the windows. -/
theorem serves_elsewhere (others : CalibrationFlags) :
    Serves flags ((others \ imuWindows) ∪ (flags ∩ imuWindows)) := by
  have own {kind : CalibrationFlag} (known : kind ∈ imuWindows) :
      kind ∈ (others \ imuWindows) ∪ (flags ∩ imuWindows) ↔ kind ∈ flags := by
    -- The windows' own flags are taken from before.
    simp [known]
  exact .of_iff (fun window => own window.request_mem_imuWindows)
    fun window => (own window.failed_mem_imuWindows).mp

end Serves

/-- The samples that a window's memory holds: none unless its flag is set. -/
def held (window : ImuWindow) : List ImuSample :=
  if window.request ∈ run.flags then run.since window else []

/-- Each window's memory is that of the samples processed since its flag was raised. -/
structure Tracks : Prop where
  memory : run.processor.calibrationState = imuMemory run.held
  short : ∀ window, (run.held window).length ≤ 1000
  counted : ∀ window, run.counted window = run.held window
  clean : ∀ window : ImuWindow, window.request ∈ run.flags → window.failed ∉ run.flags

variable {run}

/-- A window whose flag is set holds what was processed since. -/
theorem held_of_mem {window : ImuWindow} (opened : window.request ∈ run.flags) :
    run.held window = run.since window :=
  if_pos opened

/-- A window whose flag is clear holds nothing. -/
theorem held_of_notMem {window : ImuWindow} (closed : window.request ∉ run.flags) :
    run.held window = [] :=
  if_neg closed

/-- Serving requests changes nothing that a window holds. -/
theorem held_changed {flags : CalibrationFlags} (serves : Serves run.flags flags)
    (params : Params ℝ) : (run.changed flags params).held = run.held := by
  funext window
  by_cases opened : window.request ∈ run.flags
  · -- A flag set before stays set, so its window is not opened again.
    have stays : window.request ∈ (run.changed flags params).flags := serves.stays window opened
    rw [held_of_mem stays, held_of_mem opened]
    exact if_neg fun raised => raised.1 opened
  · rw [held_of_notMem opened]
    by_cases raised : window.request ∈ (run.changed flags params).flags
    · -- A flag just raised opens an empty window.
      rw [held_of_mem raised]
      exact if_pos ⟨opened, raised⟩
    · exact held_of_notMem raised

/-- Serving requests keeps each window's memory that of its samples. -/
theorem Tracks.changed (tracks : run.Tracks) {flags : CalibrationFlags}
    (serves : Serves run.flags flags) (params : Params ℝ) : (run.changed flags params).Tracks where
  -- Serving requests can close a window but takes no sample, so what it holds is unchanged.
  memory := by
    rw [held_changed serves]
    exact tracks.memory
  short window := by
    rw [held_changed serves]
    exact tracks.short window
  counted window := by
    rw [held_changed serves]
    exact tracks.counted window
  clean window opened told := by
    obtain ⟨before, remains⟩ := serves.clean window opened told
    exact tracks.clean window before remains

section Taken

variable {done : Calibrating (ImuProcessor ℝ ℝ) ℝ} {sample : ImuSample}

/-- The windows have taken a sample. -/
def Taking (run : ImuCalibrationRun) (done : Calibrating (ImuProcessor ℝ ℝ) ℝ)
    (sample : ImuSample) : Prop :=
  TakesAll run.held run.flags run.params sample
    { state := done.state.calibrationState, flags := done.flags, params := done.params }

/-- A window stays open exactly when it was open and the sample has not filled it. -/
theorem Taking.request_iff (taking : run.Taking done sample) (window : ImuWindow) :
    window.request ∈ done.flags ↔
      window.request ∈ run.flags ∧ (run.held window).length ≠ 1000 := by
  -- Filling a window clears its flag, and nothing else touches it.
  by_cases fills : window.Fills run.flags (run.held window)
  · have cleared : window.request ∉ done.flags := (taking.closes window fills).cleared
    exact iff_of_false cleared fun remains => remains.2 fills.2
  · rw [(taking.keeps window fills).request]
    constructor
    · intro opened
      exact ⟨opened, fun full => fills ⟨opened, full⟩⟩
    · intro opened
      exact opened.1

/-- A sample raises no flag. -/
theorem Taking.reopened_eq (taking : run.Taking done sample) (window : ImuWindow) :
    run.reopened done.flags window = run.since window :=
  if_neg fun raised => raised.1 ((taking.request_iff window).mp raised.2).1

/-- A window holds one sample more, unless it was full or its flag is clear. -/
theorem Taking.held_eq (taking : run.Taking done sample) :
    (run.taken done sample).held =
      fun window => window.kept run.flags (run.held window) sample := by
  funext window
  have stays := taking.request_iff window
  unfold ImuWindow.kept
  by_cases opened : window.request ∈ run.flags
  · rw [if_pos opened]
    by_cases full : (run.held window).length = 1000
    · -- The window has been closed.
      rw [if_pos full]
      exact held_of_notMem fun remains => (stays.mp remains).2 full
    · rw [if_neg full, held_of_mem opened]
      have remains : window.request ∈ (run.taken done sample).flags := stays.mpr ⟨opened, full⟩
      rw [held_of_mem remains]
      exact congrArg (· ++ [sample]) (taking.reopened_eq window)
  · rw [if_neg opened, held_of_notMem opened]
    exact held_of_notMem fun remains => opened (stays.mp remains).1

/-- A window that stays open sums up one sample more. -/
theorem Tracks.used_taken (tracks : run.Tracks) (taking : run.Taking done sample)
    {window : ImuWindow} (opened : window.request ∈ run.flags) :
    (run.taken done sample).used window = (run.taken done sample).since window := by
  have used : (run.taken done sample).used window = run.counted window ++ [sample] := if_pos opened
  have since : (run.taken done sample).since window = run.since window ++ [sample] :=
    congrArg (· ++ [sample]) (taking.reopened_eq window)
  -- What the sums had counted was what had been processed since.
  rw [used, since, tracks.counted, held_of_mem opened]

/-- A sample keeps each window's memory that of its samples. -/
theorem Tracks.taken (tracks : run.Tracks) (taking : run.Taking done sample) :
    (run.taken done sample).Tracks := by
  have stays := taking.request_iff
  have memory : (run.taken done sample).processor.calibrationState =
      imuMemory (run.taken done sample).held := by
    rw [taking.held_eq]
    exact taking.memory
  refine ⟨memory, ?_, ?_, ?_⟩
  · intro window
    have short := tracks.short window
    rw [taking.held_eq]
    dsimp only
    unfold ImuWindow.kept
    -- A full window is emptied, and any other has room.
    split
    · split
      · exact Nat.zero_le _
      · rw [List.length_append, List.length_singleton]
        omega
    · exact short
  · intro window
    by_cases opened : window.request ∈ (run.taken done sample).flags
    · have before : window.request ∈ run.flags := ((stays window).mp opened).1
      have since : (run.taken done sample).since window ≠ [] :=
        List.append_ne_nil_of_right_ne_nil _ (List.cons_ne_nil _ _)
      rw [ImuCalibrationRun.counted, memory, ImuWindow.count_imuMemory, held_of_mem opened,
        if_neg fun none => since (List.length_eq_zero_iff.mp none)]
      exact tracks.used_taken taking before
    · rw [ImuCalibrationRun.counted, memory, ImuWindow.count_imuMemory, held_of_notMem opened]
      exact if_pos rfl
  · intro window opened told
    obtain ⟨before, room⟩ := (stays window).mp opened
    -- A window that goes on has not been judged.
    have quiet := (taking.keeps window fun fills => room fills.2).failed
    exact tracks.clean window before (quiet.mp told)

/-- A window whose flag is set takes every sample, and ends with its thousand and first. -/
theorem Tracks.calibrates_taken (tracks : run.Tracks) (taking : run.Taking done sample)
    {window : ImuWindow} (opened : window.request ∈ run.flags) :
    (window.request ∉ (run.taken done sample).flags ↔
        1000 < ((run.taken done sample).since window).length) ∧
      (window.request ∉ (run.taken done sample).flags →
        run.Ends (run.taken done sample) window) := by
  have short := tracks.short window
  have since : (run.taken done sample).since window = run.held window ++ [sample] := by
    rw [held_of_mem opened]
    exact congrArg (· ++ [sample]) (taking.reopened_eq window)
  have full : window.request ∉ (run.taken done sample).flags ↔ (run.held window).length = 1000 :=
    (not_congr (taking.request_iff window)).trans
      ((not_congr (and_iff_right opened)).trans not_not)
  -- The sample is the last one of the window exactly when a thousand were held.
  constructor
  · rw [full, since, List.length_append, List.length_singleton]
    omega
  · intro ended
    have emptied : (run.taken done sample).held window = [] := held_of_notMem ended
    refine ⟨tracks.used_taken taking opened, tracks.clean window opened, ?_, ?_⟩
    · rw [since]
      exact taking.closes window ⟨opened, full.mp ended⟩
    · rw [(tracks.taken taking).memory]
      exact ImuWindow.initial_imuMemory emptied

end Taken

/-- A report that holds a packet is taken by the windows. -/
theorem Tracks.taking (tracks : run.Tracks) {raw : RawPacket (ImuPacket ℝ ℝ)}
    {packet : ImuPacket ℝ ℝ} (reported : takeOkPacket raw = some packet) :
    run.Taking (run.processor.process raw run.flags run.params).1
      (run.processor.mounted run.params packet) := by
  have processed : run.processor.process raw run.flags run.params =
      ((run.processor.processPacket packet run.flags run.params).1,
        some (run.processor.processPacket packet run.flags run.params).2) := by
    rw [ImuProcessor.process, reported]
  -- The windows take the packet as it is turned, out of the memory of their samples.
  rw [processed, ImuProcessor.processPacket_eq, tracks.memory]
  exact takesAll_takeSample tracks.short run.flags run.params _

/-- A report that holds no packet changes nothing. -/
theorem step_complaint {raw : RawPacket (ImuPacket ℝ ℝ)} (complaint : takeOkPacket raw = none) :
    run.step (.report raw : ImuCalibrationEvent E C M D) = run.changed run.flags run.params := by
  have processed : run.processor.process raw run.flags run.params =
      ({ state := run.processor, flags := run.flags, params := run.params }, none) := by
    rw [ImuProcessor.process, complaint]
  -- Without a packet the processor returns what it was given.
  rw [step, processed, complaint]
  rfl

/-- A report that holds a packet is one more sample. -/
theorem step_packet {raw : RawPacket (ImuPacket ℝ ℝ)} {packet : ImuPacket ℝ ℝ}
    (reported : takeOkPacket raw = some packet) :
    run.step (.report raw : ImuCalibrationEvent E C M D) =
      run.taken (run.processor.process raw run.flags run.params).1
        (run.processor.mounted run.params packet) := by
  rw [step, reported]
  rfl

/-- What an event does: flags and parameters change without disturbing the windows, or the windows
take a sample. -/
theorem Tracks.step_cases (tracks : run.Tracks) (event : ImuCalibrationEvent E C M D) :
    (∃ flags params, Serves run.flags flags ∧ run.step event = run.changed flags params) ∨
      ∃ done sample, run.Taking done sample ∧ run.step event = run.taken done sample := by
  -- Only a report with a packet adds a sample.
  cases event with
  | commands service vehicle =>
    exact .inl ⟨_, _, serves_applyCalibrationRequests (run.serving service) vehicle, rfl⟩
  | arming world =>
    exact .inl ⟨_, _, serves_requestGyroCalibrationIfNeeded (run.within world), rfl⟩
  | settling world => exact .inl ⟨_, _, serves_settleArmCalibration (run.within world), rfl⟩
  | report raw =>
    cases reported : takeOkPacket raw with
    | none => exact .inl ⟨_, _, .refl, step_complaint reported⟩
    | some packet => exact .inr ⟨_, _, tracks.taking reported, step_packet reported⟩
  | elsewhere params flags => exact .inl ⟨_, _, serves_elsewhere flags, rfl⟩

/-- Every event keeps each window's memory that of its samples. -/
theorem Tracks.step (tracks : run.Tracks) (event : ImuCalibrationEvent E C M D) :
    (run.step event).Tracks := by
  -- Requests leave the memory alone, and a sample is added to it.
  obtain ⟨flags, params, serves, changed⟩ | ⟨done, sample, taking, taken⟩ := tracks.step_cases event
  · rw [changed]
    exact tracks.changed serves params
  · rw [taken]
    exact tracks.taken taking

/-- Every event treats each open window as it should. -/
theorem Tracks.calibrates (tracks : run.Tracks) (event : ImuCalibrationEvent E C M D) :
    run.Calibrates event := by
  intro window opened
  obtain ⟨flags, params, serves, changed⟩ | ⟨done, sample, taking, taken⟩ := tracks.step_cases event
  · -- The flag stays set, and no sample has been added.
    rw [changed]
    have stays : window.request ∈ (run.changed flags params).flags := serves.stays window opened
    have short := (tracks.changed serves params).short window
    rw [held_of_mem stays] at short
    exact ⟨iff_of_false (not_not.mpr stays) (by omega), fun ended => absurd stays ended⟩
  · rw [taken]
    exact tracks.calibrates_taken taking opened

/-- At the start each window's memory is that of no samples. -/
theorem tracks_start (params : Params ℝ) : (start params).Tracks := by
  have held : (start params).held = fun _ => [] := by
    funext window
    exact ite_self _
  -- With no flag set every window is empty.
  refine ⟨?_, ?_, ?_, ?_⟩
  · rw [held, imuMemory_none]
    rfl
  · intro window
    rw [held]
    exact Nat.zero_le _
  · intro window
    rw [held]
    exact ite_self _
  · intro window opened
    exact absurd opened (Finset.notMem_empty _)

/-- In every run from the firmware's start each window ends with the thousand and first sample
processed since its flag went from clear to set, it has used exactly these samples, it writes the
biases they show or raises its failure, and its memory is back at the initial values. -/
theorem calibrates_along (params : Params ℝ) (events : List (ImuCalibrationEvent E C M D)) :
    Along Calibrates step (start params) events :=
  along_of_invariant Tracks (fun _ event tracks => tracks.step event)
    (fun _ event tracks => tracks.calibrates event) (tracks_start params) events

end ImuCalibrationRun

end Veloxity
