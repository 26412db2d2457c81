import Veloxity.Command.Acknowledgements
import Veloxity.Library.Run
import Veloxity.Sensors.CalibrationLaws

/-! Which parameters serving commands can change. -/

namespace Veloxity

open Library (BoundedQueue)

variable {F R S O C : Type}

/-- Parameters that the vehicle sets itself, when it calibrates, trims or resolves commands. -/
def onboardParams : List ParamId :=
  calibratedParams ++
    [.PARAM_X_EQ_TORQUE, .PARAM_Y_EQ_TORQUE, .PARAM_Z_EQ_TORQUE, .PARAM_RC_ATTITUDE_MODE]

/-- Only parameters that the vehicle sets itself differ. -/
def SameButOnboard (params other : Params F) : Prop :=
  ∀ id, id ∉ onboardParams → other.getById id = params.getById id

namespace SameButOnboard

variable {params middle other : Params F}

/-- Parameters differ in nothing from themselves. -/
theorem refl (params : Params F) : SameButOnboard params params := fun _ _ => rfl

/-- One difference after another. -/
theorem trans (first : SameButOnboard params middle) (second : SameButOnboard middle other) :
    SameButOnboard params other :=
  fun id kept => (second id kept).trans (first id kept)

/-- A parameter of the vehicle's own is set, unless it has that value already. -/
theorem setParamAndEmitChange [FlightFloat F] (params : Params F) (events : ParamEventQueues F)
    {id : ParamId} (value : ParamValue F) (own : id ∈ onboardParams) :
    SameButOnboard params (setParamAndEmitChange params events id value).1 := by
  -- At most one of the vehicle's own parameters is written.
  intro other kept
  unfold Veloxity.setParamAndEmitChange
  dsimp only
  split
  · rfl
  · -- The other parameter is not one of them.
    refine params.getById_setById_of_ne value ?_
    rintro rfl
    exact kept own

/-- Calibrations differ in nothing else. -/
theorem of_effect {touched flags after : CalibrationFlags}
    (effect : CalibrationEffect touched flags after params other) : SameButOnboard params other :=
  fun id kept => effect.params id fun calibrated => kept (List.mem_append_left _ calibrated)

end SameButOnboard

namespace CommandService

variable [FlightFloat F]

/-- Setting a parameter of the vehicle's own keeps the others. -/
theorem sameButOnboard_setParam (service : CommandService F C) {id : ParamId}
    (value : ParamValue F) (own : id ∈ onboardParams) :
    SameButOnboard service.params (service.setParam id value).params :=
  .setParamAndEmitChange service.params service.paramEvents value own

/-- Forgetting biases keeps the other parameters. -/
theorem sameButOnboard_zeroBiases (service : CommandService F C) {axisParam : Fin 3 → ParamId}
    (own : ∀ axis, axisParam axis ∈ onboardParams) :
    SameButOnboard service.params (service.zeroBiases axisParam).params :=
  ((service.sameButOnboard_setParam _ (own 0)).trans (sameButOnboard_setParam _ _ (own 1))).trans
    (sameButOnboard_setParam _ _ (own 2))

/-- Opening calibration windows keeps the other parameters. -/
theorem sameButOnboard_startCalibration (service : CommandService F C) (command : RosflightCmd) :
    SameButOnboard service.params (service.startCalibration command).params := by
  have gyro : ∀ axis, gyroBiasParam axis ∈ onboardParams := by decide
  have accel : ∀ axis, accelBiasParam axis ∈ onboardParams := by decide
  -- The flags are raised beforehand.
  cases command with
  | accelCalibration =>
    have forgotten := (service.withFlags (insert .gyro (insert .accel
      ((service.flags.erase .gyroFailed).erase .accelFailed)))).sameButOnboard_zeroBiases gyro
    exact forgotten.trans (sameButOnboard_zeroBiases _ accel)
  | gyroCalibration => exact sameButOnboard_zeroBiases (service.withFlags _) gyro
  | airspeedCalibration => exact sameButOnboard_setParam (service.withFlags _) _ (by decide)
  | _ => exact .refl _

/-- Serving calibrations keeps the other parameters. -/
theorem sameButOnboard_applyCalibrationRequests (service : CommandService F C)
    (state : StateManager) :
    SameButOnboard service.params (service.applyCalibrationRequests state).params := by
  -- Each calibration sets biases of the vehicle's own.
  have one (served : CommandService F C) (command : RosflightCmd)
      (kept : SameButOnboard service.params served.params) :
      SameButOnboard service.params (applyCalibrationRequest state served command).params := by
    unfold applyCalibrationRequest
    split
    · exact kept
    · exact kept.trans (served.sameButOnboard_startCalibration command)
  exact BoundedQueue.drain_invariant one (SameButOnboard.refl _)
    service.requests.calibrationRequests

omit [FlightFloat F] in
/-- Handing over offboard commands keeps the parameters. -/
theorem params_applyOffboardControlRequests (service : CommandService F C) :
    service.applyOffboardControlRequests.params = service.params := by
  -- An offboard command goes to the manager.
  have one (served : CommandService F C) (request : OffboardControlRequested F)
      (kept : served.params = service.params) :
      ({ served with
        command := served.command.setNewOffboardCommand request.nowUs request.msg }).params =
          service.params := kept
  exact BoundedQueue.drain_invariant one rfl service.requests.offboardControlRequests

/-- The parameters as waiting resets leave them. -/
def resetParams (service : CommandService F C) (state : StateManager) : Params F :=
  if state.isArmed = false ∧ service.requests.paramDefaultsRequests.items ≠ [] then .new
  else service.params

/-- Resets leave the defaults, if there are any resets and the vehicle is not armed. -/
theorem params_applyParamDefaultsRequests (service : CommandService F C) (state : StateManager) :
    (service.applyParamDefaultsRequests state).params = service.resetParams state := by
  have served (requests : List RosflightCmd) (service : CommandService F C) :
      (requests.foldl (applyParamDefaultsRequest state) service).params =
        if state.isArmed = false ∧ requests ≠ [] then .new else service.params := by
    induction requests generalizing service with
    | nil => simp
    | cons command rest ih =>
      rw [List.foldl_cons, ih]
      -- The first reset of an unarmed vehicle is as good as all of them.
      cases armed : state.isArmed with
      | true => simp [applyParamDefaultsRequest, armed, emitCmdAck]
      | false =>
        simp only [applyParamDefaultsRequest, armed, emitCmdAck, Params.setDefaults, Params.new,
          Bool.false_eq_true, if_false, ite_self, true_and, ne_eq, reduceCtorEq, not_false_eq_true,
          if_true]
  exact served service.requests.paramDefaultsRequests.items service

/-- Serving trims keeps the other parameters. -/
theorem sameButOnboard_applyRcTrimCalibrationRequests [Controller F R S O C]
    (service : CommandService F C) (state : StateManager) :
    SameButOnboard service.params (service.applyRcTrimCalibrationRequests state).params := by
  -- Each trim adds to the torques of the vehicle's own.
  have trims : ∀ axis, eqTorqueParam axis ∈ onboardParams := by decide
  have torque (served : CommandService F C) (axis : Fin 3) (value : F) :
      SameButOnboard served.params (served.addEqTorque axis value).params :=
    served.sameButOnboard_setParam _ (trims axis)
  have one (served : CommandService F C) (command : RosflightCmd)
      (kept : SameButOnboard service.params served.params) :
      SameButOnboard service.params
        (applyRcTrimCalibrationRequest state served command).params := by
    unfold applyRcTrimCalibrationRequest
    split
    · exact kept
    · -- The three torques are added in turn.
      exact ((kept.trans (torque { served with controller := _ } 0 _)).trans (torque _ 1 _)).trans
        (torque _ 2 _)
  exact BoundedQueue.drain_invariant one (SameButOnboard.refl _)
    service.requests.rcTrimCalibrationRequests

/-- Calibrations and offboard commands leave the resets waiting. -/
theorem paramDefaultsRequests_applyOffboardControlRequests (service : CommandService F C)
    (state : StateManager) :
    (service.applyCalibrationRequests
      state).applyOffboardControlRequests.requests.paramDefaultsRequests =
        service.requests.paramDefaultsRequests := by
  have offboard := (service.applyCalibrationRequests state).answered_applyOffboardControlRequests
  rw [offboard.requests, (service.answered_applyCalibrationRequests state).requests]

/-- Before the requests for the board only resets have touched other parameters. -/
theorem sameButOnboard_beforeBoardCommands [Controller F R S O C] (service : CommandService F C)
    (state : StateManager) :
    SameButOnboard (service.resetParams state) (service.beforeBoardCommands state).params := by
  -- A reset replaces the parameters, and only trims come after it.
  have handed : SameButOnboard service.params
      (service.applyCalibrationRequests state).applyOffboardControlRequests.params := by
    rw [params_applyOffboardControlRequests]
    exact service.sameButOnboard_applyCalibrationRequests state
  have reset : SameButOnboard (service.resetParams state)
      ((service.applyCalibrationRequests state).applyOffboardControlRequests
        |>.applyParamDefaultsRequests state).params := by
    rw [params_applyParamDefaultsRequests, resetParams, resetParams,
      paramDefaultsRequests_applyOffboardControlRequests]
    split
    · exact .refl _
    · exact handed
  exact reset.trans (sameButOnboard_applyRcTrimCalibrationRequests _ state)

omit [FlightFloat F] in
/-- Serving the requests for the version keeps the parameters. -/
theorem params_applyVersionRequests (service : CommandService F C) (state : StateManager) :
    (service.applyVersionRequests state).params = service.params := by
  -- A version request is answered without a look at the parameters.
  have one (served : CommandService F C) (command : RosflightCmd)
      (kept : served.params = service.params) :
      (applyVersionRequest state served command).params = service.params := by
    unfold applyVersionRequest
    split <;> exact kept
  exact BoundedQueue.drain_invariant one rfl service.requests.versionRequests

omit [FlightFloat F] in
/-- Refusing a queue of commands keeps the parameters. -/
theorem params_drain_refusing {capacity : Nat} (service : CommandService F C)
    (queue : BoundedQueue capacity RosflightCmd) :
    (queue.drain (fun service command => emitCmdAck service command false) service).1.params =
      service.params := by
  -- Refusing only answers.
  have one (served : CommandService F C) (command : RosflightCmd)
      (kept : served.params = service.params) :
      (served.emitCmdAck command false).params = service.params := kept
  exact BoundedQueue.drain_invariant one rfl queue

omit [FlightFloat F] in
/-- The commands that are always refused keep the parameters. -/
theorem params_applyRefusedRequests (service : CommandService F C) :
    service.applyResetOriginRequests.applyConfigInfoRequests.params = service.params := by
  -- Both queues are refused.
  have reset : service.applyResetOriginRequests.params = service.params :=
    service.params_drain_refusing service.requests.resetOriginRequests
  rw [← reset]
  exact params_drain_refusing _ service.applyResetOriginRequests.requests.configInfoRequests

/-- The parameters as the last of some commands to read storage leaves them, if one reads it. -/
def lastRead (state : StateManager) (storage : BoardStorage F) :
    CommandService F C → List RosflightCmd → Option (Params F)
  | _, [] => none
  | service, command :: rest =>
    (lastRead state storage (applyBoardCommandRequest state storage service command) rest).or
      (if state.isArmed = false ∧ command = .readParams then
        some (storage.readParams service.boardCalls.length service.params).1
      else none)

omit [FlightFloat F] in
/-- Requests for the board leave what they read last, or else the parameters they find. -/
theorem params_applyBoardCommandRequests (service : CommandService F C) (state : StateManager)
    (storage : BoardStorage F) :
    (service.applyBoardCommandRequests state storage).params =
      (lastRead state storage service service.requests.boardCommandRequests.items).getD
        service.params := by
  have served (requests : List RosflightCmd) (service : CommandService F C) :
      (requests.foldl (applyBoardCommandRequest state storage) service).params =
        (lastRead state storage service requests).getD service.params := by
    induction requests generalizing service with
    | nil => rfl
    | cons command rest ih =>
      rw [List.foldl_cons, ih, lastRead, Option.getD_or]
      congr 1
      -- Only an unarmed read replaces the parameters.
      unfold applyBoardCommandRequest
      cases armed : state.isArmed with
      | true => simp [emitCmdAck]
      | false => cases command <;> simp [emitCmdAck, noteCall]
  exact served service.requests.boardCommandRequests.items service

/-- The parameters that the commands have read from storage, if any of them reads it. -/
def loadedParams [Controller F R S O C] (service : CommandService F C) (state : StateManager)
    (storage : BoardStorage F) : Option (Params F) :=
  lastRead state storage (service.beforeBoardCommands state)
    service.requests.boardCommandRequests.items

/-- Commands leave what they read from storage, or else the parameters as resets leave them but
for those the vehicle sets itself. -/
theorem params_applyCommandRequests [Controller F R S O C] (service : CommandService F C)
    (state : StateManager) (storage : BoardStorage F) :
    ∃ base, SameButOnboard (service.resetParams state) base ∧
      (service.applyCommandRequests state storage).params =
        (service.loadedParams state storage).getD base := by
  refine ⟨_, service.sameButOnboard_beforeBoardCommands state, ?_⟩
  have waiting := (service.answered_beforeBoardCommands state).requests
  have board := (service.beforeBoardCommands state).params_applyBoardCommandRequests state storage
  rw [waiting] at board
  -- The later handlers only answer.
  rw [applyCommandRequests, params_applyRefusedRequests, params_applyVersionRequests]
  exact board

end CommandService

end Veloxity
