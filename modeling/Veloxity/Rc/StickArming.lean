import Veloxity.Library.Run
import Veloxity.Rc.Receiver
import Veloxity.State.ArmingRuns

/-! Which runs of the receiver arm and disarm only after the sticks have been held long enough. -/

namespace Veloxity

open Library

variable {F : Type}

namespace Rc

section

variable [FlightFloat F]

/-- The throttle below which the sticks can arm or disarm. -/
def armThreshold (params : Params F) : F :=
  params.floatOr .PARAM_ARM_THRESHOLD (FlightFloat.lit 0.15)

/-- Throttle down and yaw to the right. -/
def inArmingPosition (rc : Rc F) (params : Params F) : Bool :=
  FlightFloat.lt (rc.stick .F) (armThreshold params) &&
    FlightFloat.lt (FlightFloat.lit 1 - armThreshold params) (rc.stick .Z)

/-- Throttle down and yaw to the left. -/
def inDisarmingPosition (rc : Rc F) (params : Params F) : Bool :=
  FlightFloat.lt (rc.stick .F) (armThreshold params) &&
    FlightFloat.lt (rc.stick .Z) (-(FlightFloat.lit 1 - armThreshold params))

/-- The position that arms a disarmed vehicle or disarms an armed one. -/
def inGesture (rc : Rc F) (params : Params F) (armed : Bool) : Bool :=
  if armed then rc.inDisarmingPosition params else rc.inArmingPosition params

/-- The time the position has been held, as a call counts it. -/
def heldMs (rc : Rc F) (nowMs : Nat) (params : Params F) (armed : Bool) : Nat :=
  if rc.inGesture params armed then
    saturatingAddU32 rc.timeSticksHaveBeenInArmingPositionMs (nowMs - rc.prevTimeMs)
  else 0

/-- The manager once a healthy sample has cleared the loss of the link. -/
def linkRestored (params : Params F) (state : StateManager) : StateManager :=
  state.update (.ERROR_CLEARED ErrorFlag.RC_LOST) params

/-- What a call of `run` asks the manager for when no switch arms the vehicle. -/
def stickRequest (rc : Rc F) (nowMs : Nat) (params : Params F) (state : StateManager) :
    Option Event :=
  let armed := (linkRestored params state).isArmed
  if rc.checkRcHealth (nowMs * 1000) params &&
      1000 < rc.processSticksAndSwitches.heldMs nowMs params armed then
    some (if armed then .REQUEST_DISARM else .REQUEST_ARM)
  else none

/-- The receiver and the manager after a call that found a held time, with no switch that arms. -/
def answerHeld (rc : Rc F) (held : Nat) (params : Params F) (state : StateManager) :
    Rc F × StateManager :=
  if 1000 < held then
    if state.isArmed then
      -- Only a request to disarm starts the count again.
      ({ rc with timeSticksHaveBeenInArmingPositionMs := 0 }, state.update .REQUEST_DISARM params)
    else
      ({ rc with timeSticksHaveBeenInArmingPositionMs := held },
        (state.updateArmingSafety (FlightFloat.lt (rc.stick .F) (armThreshold params))
          rc.throttleOverrideOn).update .REQUEST_ARM params)
  else ({ rc with timeSticksHaveBeenInArmingPositionMs := held }, state)

/-- Answering keeps the time of the call. -/
@[simp] theorem answerHeld_prevTimeMs (rc : Rc F) (held : Nat) (params : Params F)
    (state : StateManager) : (rc.answerHeld held params state).1.prevTimeMs = rc.prevTimeMs := by
  rw [answerHeld]
  split
  · split <;> rfl
  · rfl

/-- Answering keeps the held time, unless it asks to disarm. -/
@[simp] theorem answerHeld_held (rc : Rc F) (held : Nat) (params : Params F)
    (state : StateManager) :
    (rc.answerHeld held params state).1.timeSticksHaveBeenInArmingPositionMs =
      if 1000 < held ∧ state.isArmed = true then 0 else held := by
  rw [answerHeld]
  -- Only a gesture held for more than a second is answered, and only disarming resets it.
  by_cases long : 1000 < held
  · cases armed : state.isArmed <;> simp [long]
  · simp [long]

/-- Both gestures are looked for alike, in the position the arming state selects. -/
theorem lookForStickSignal_eq (rc : Rc F) (dt : Nat) (params : Params F) (state : StateManager) :
    rc.lookForStickSignal dt (armThreshold params) params state =
      rc.answerHeld (if rc.inGesture params state.isArmed then
        saturatingAddU32 rc.timeSticksHaveBeenInArmingPositionMs dt else 0) params state := by
  -- The arming state selects the branch, and each branch reads its own stick positions.
  cases armed : state.isArmed with
  | false => simp [lookForStickSignal, answerHeld, armed, inGesture, inArmingPosition, stick,
      throttleOverrideOn, switchMapped, switchOn]
  | true => simp [lookForStickSignal, answerHeld, armed, inGesture, inDisarmingPosition, stick]

/-- Without an arming switch a healthy call answers the time its sticks have been held. -/
theorem run_eq {rc : Rc F} (unmapped : rc.switchMapped .Arm = false) (nowMs : Nat)
    (params : Params F) (state : StateManager) :
    rc.run nowMs params state =
      if rc.checkRcHealth (nowMs * 1000) params then
        let cleared := linkRestored params state
        let read := { rc.processSticksAndSwitches with newCommand := true, prevTimeMs := nowMs }
        read.answerHeld (rc.processSticksAndSwitches.heldMs nowMs params cleared.isArmed) params
          cleared
      else
        ({ rc with newCommand := false },
          state.update (.ERROR_OCCURRED ErrorFlag.RC_LOST) params) := by
  rw [run]
  cases rc.checkRcHealth (nowMs * 1000) params with
  | false => rfl
  | true =>
    -- Reading the sticks maps no switch, so the sticks are what arms.
    have sticks : (!({ rc.processSticksAndSwitches with newCommand := true, prevTimeMs := nowMs } :
        Rc F).switchMapped .Arm) = true := by
      simpa [switchMapped, processSticksAndSwitches] using unmapped
    simp only [if_true, lookForArmDisarmSignal, sticks]
    exact lookForStickSignal_eq _ _ params _

end

end Rc

/-- What one call of `run` found. -/
structure StickSample where
  timeMs : Nat
  healthy : Bool
  armed : Bool
  inArmingPosition : Bool
  inDisarmingPosition : Bool
  deriving DecidableEq

namespace StickSample

/-- The sticks are in the position that changes the arming state found with them. -/
def inGesture (sample : StickSample) : Bool :=
  if sample.armed then sample.inDisarmingPosition else sample.inArmingPosition

end StickSample

/-- A sample, or the vehicle becoming armed between two of them. -/
inductive StickMark where
  | sampled (sample : StickSample)
  | becameArmed
  deriving DecidableEq

namespace StickMark

/-- The mark leaves a stretch of samples in the arming position uninterrupted. -/
def keepsArming : StickMark → Bool
  | .sampled sample => sample.healthy && sample.inArmingPosition
  | .becameArmed => true

/-- The mark leaves a stretch of samples in the disarming position, all of them after arming,
uninterrupted. -/
def keepsDisarming : StickMark → Bool
  | .sampled sample => sample.healthy && sample.inDisarmingPosition
  | .becameArmed => false

/-- The mark is a sample taken more than a second before. -/
def isOlder (nowMs : Nat) : StickMark → Bool
  | .sampled sample => sample.timeMs + 1000 < nowMs
  | .becameArmed => false

end StickMark

/-- The newest mark first. -/
abbrev StickHistory := List StickMark

namespace StickHistory

/-- The uninterrupted stretch before `nowMs` holds a sample more than a second old. -/
def HeldOver (keeps : StickMark → Bool) (history : StickHistory) (nowMs : Nat) : Prop :=
  ∃ sample, .sampled sample ∈ history.takeWhile keeps ∧ sample.timeMs + 1000 < nowMs

/-- A stretch is long enough if one of its marks is old enough. -/
theorem heldOver_iff (keeps : StickMark → Bool) (history : StickHistory) (nowMs : Nat) :
    HeldOver keeps history nowMs ↔ ∃ mark ∈ history.takeWhile keeps, mark.isOlder nowMs = true := by
  constructor
  · rintro ⟨sample, within, old⟩
    exact ⟨.sampled sample, within, decide_eq_true old⟩
  · rintro ⟨mark, within, old⟩
    -- Only a sample has an age.
    cases mark with
    | becameArmed => cases old
    | sampled sample => exact ⟨sample, within, of_decide_eq_true old⟩

/-- Whether a stretch is long enough is decided by looking through it. -/
instance (keeps : StickMark → Bool) (history : StickHistory) (nowMs : Nat) :
    Decidable (HeldOver keeps history nowMs) :=
  decidable_of_iff (∃ mark ∈ history.takeWhile keeps, mark.isOlder nowMs = true)
    (heldOver_iff keeps history nowMs).symm

/-- The time of the latest sample. -/
def lastMs : StickHistory → Nat
  | [] => 0
  | .sampled sample :: _ => sample.timeMs
  | .becameArmed :: older => lastMs older

/-- The time of the first sample of the uninterrupted stretch that ends at a later time. -/
def stretchStart (keeps : StickMark → Bool) : StickHistory → Nat → Nat
  | [], laterMs => laterMs
  | .sampled sample :: older, laterMs =>
    if keeps (.sampled sample) then stretchStart keeps older sample.timeMs else laterMs
  | .becameArmed :: older, laterMs =>
    if keeps .becameArmed then stretchStart keeps older laterMs else laterMs

/-- The time the receiver counts from: the latest healthy sample out of position, or the latest
request to disarm, and the start of the clock before any of them. -/
def countedFrom : StickHistory → Nat
  | [] => 0
  | .becameArmed :: older => countedFrom older
  | .sampled sample :: older =>
    -- Samples of a lost link neither add to the count nor restart it.
    if !sample.healthy then countedFrom older
    else if !sample.inGesture || (sample.armed && countedFrom older + 1000 < sample.timeMs) then
      sample.timeMs
    else countedFrom older

/-- The time of the latest healthy sample. -/
def lastHealthyMs : StickHistory → Nat
  | [] => 0
  | .becameArmed :: older => lastHealthyMs older
  | .sampled sample :: older => if sample.healthy then sample.timeMs else lastHealthyMs older

end StickHistory

/-- What can happen to the receiver and the manager: radio packets, parameter changes and events
from elsewhere between the calls of `run`. -/
inductive StickEvent (F : Type) where
  | receive (packet : RcPacket F)
  | paramChange (id : ParamId) (params : Params F)
  | takeNewCommand
  | manage (input : ManagerInput F)
  | run (nowMs : Nat) (params : Params F)

/-- The receiver and the manager, with a record of what the calls of `run` found. -/
structure StickRun (F : Type) where
  rc : Rc F
  manager : StateManager
  history : StickHistory

namespace StickRun

open StickHistory

section

variable [FlightFloat F]

/-- Note that the vehicle became armed, if it did. -/
def noteArming (before after : StateManager) (history : StickHistory) : StickHistory :=
  if !before.isArmed && after.isArmed then .becameArmed :: history else history

/-- What a call of `run` finds. -/
def sample (state : StickRun F) (nowMs : Nat) (params : Params F) : StickSample where
  timeMs := nowMs
  healthy := state.rc.checkRcHealth (nowMs * 1000) params
  armed := (Rc.linkRestored params state.manager).isArmed
  inArmingPosition := state.rc.processSticksAndSwitches.inArmingPosition params
  inDisarmingPosition := state.rc.processSticksAndSwitches.inDisarmingPosition params

/-- One event, recorded. -/
def step (state : StickRun F) : StickEvent F → StickRun F
  | .receive packet => { state with rc := state.rc.receive packet }
  | .paramChange id params => { state with rc := state.rc.paramChangeCallback id params }
  | .takeNewCommand => { state with rc := state.rc.takeNewCommand.2 }
  | .manage input =>
    { state with
      manager := state.manager.apply input
      history := noteArming state.manager (state.manager.apply input) state.history }
  | .run nowMs params =>
    let ran := state.rc.run nowMs params state.manager
    { rc := ran.1
      manager := ran.2
      history := noteArming state.manager ran.2
        (.sampled (state.sample nowMs params) :: state.history) }

/-- A newly initialised receiver beside any manager, a rearmed one included. -/
def start (params : Params F) (manager : StateManager) : StickRun F where
  rc := Rc.new.init params
  manager
  history := []

/-- No call of `run` finds a switch that arms the vehicle, or a clock that went backwards. -/
def Ordinary (state : StickRun F) : StickEvent F → Prop
  | .run nowMs _ => state.rc.switchMapped .Arm = false ∧ lastMs state.history ≤ nowMs
  | _ => True

/-- A request to arm comes only after an uninterrupted stretch of healthy samples in the arming
position that spans more than a second, and a request to disarm only after such a stretch in the
disarming position since arming. -/
def HoldsBeforeRequest (state : StickRun F) : StickEvent F → Prop
  | .run nowMs params =>
    let history : StickHistory := .sampled (state.sample nowMs params) :: state.history
    let requested := state.rc.stickRequest nowMs params state.manager
    (requested = some .REQUEST_ARM → HeldOver StickMark.keepsArming history nowMs) ∧
      (requested = some .REQUEST_DISARM → HeldOver StickMark.keepsDisarming history nowMs)
  | _ => True

/-- The marks that interrupt the stretch a sample belongs to. -/
def keepsGesture (armed : Bool) : StickMark → Bool :=
  if armed then StickMark.keepsDisarming else StickMark.keepsArming

/-- No healthy sample in position falls between a second after the time the receiver counts from
and a second after the first sample of its stretch. -/
def OutsideWindow (state : StickRun F) : StickEvent F → Prop
  | .run nowMs params =>
    let sample := state.sample nowMs params
    sample.healthy && sample.inGesture →
      ¬ (countedFrom state.history + 1000 < nowMs ∧
        nowMs ≤ stretchStart (keepsGesture sample.armed) state.history nowMs + 1000)
  | _ => True

/-- Whether an event is ordinary is decided by the state before it. -/
instance (state : StickRun F) : ∀ event, Decidable (state.Ordinary event)
  | .run nowMs _ => inferInstanceAs (Decidable (_ = false ∧ lastMs state.history ≤ nowMs))
  | .receive _ | .paramChange _ _ | .takeNewCommand | .manage _ =>
    inferInstanceAs (Decidable True)

/-- Whether an event requests too early is decided by the state before it. -/
instance (state : StickRun F) : ∀ event, Decidable (state.HoldsBeforeRequest event)
  | .run nowMs params => inferInstanceAs (Decidable (
      (state.rc.stickRequest nowMs params state.manager = some .REQUEST_ARM →
        HeldOver StickMark.keepsArming (.sampled (state.sample nowMs params) :: state.history)
          nowMs) ∧
      (state.rc.stickRequest nowMs params state.manager = some .REQUEST_DISARM →
        HeldOver StickMark.keepsDisarming (.sampled (state.sample nowMs params) :: state.history)
          nowMs)))
  | .receive _ | .paramChange _ _ | .takeNewCommand | .manage _ =>
    inferInstanceAs (Decidable True)

/-- Whether an event falls into the window is decided by the state before it. -/
instance (state : StickRun F) : ∀ event, Decidable (state.OutsideWindow event)
  | .run nowMs params => inferInstanceAs (Decidable (
      ((state.sample nowMs params).healthy && (state.sample nowMs params).inGesture) = true →
        ¬ (countedFrom state.history + 1000 < nowMs ∧
          nowMs ≤ stretchStart (keepsGesture (state.sample nowMs params).armed) state.history nowMs
            + 1000)))
  | .receive _ | .paramChange _ _ | .takeNewCommand | .manage _ =>
    inferInstanceAs (Decidable True)

end

end StickRun

end Veloxity
