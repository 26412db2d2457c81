import Mathlib.Data.Bool.Basic

/-! The lockout that keeps radio-control angle mode off while the estimator is unhealthy. -/

namespace Veloxity

/-- What the pilot must do before angle mode is available again. -/
inductive RcAngleModeLockoutState where
  | inactive
  | switchResetRequired (estimatorRecovered rateWaitLogged : Bool)
  | paramRateUntilExplicitAngle
  deriving DecidableEq, Repr

/-- The lockout's memory. -/
structure RcAngleModeLockoutMachine where
  state : RcAngleModeLockoutState := .inactive
  denialActive : Bool := false
  deriving DecidableEq, Repr

/-- What the lockout sees in one pass. -/
structure RcAngleModeLockoutInput where
  fixedWing : Bool
  estimatorUnhealthy : Bool
  offboardAngleRequested : Bool
  rcAngleRequested : Bool
  rcAttitudeSourceRequested : Bool
  attTypeSwitchMapped : Bool
  attTypeSwitchRate : Bool
  paramModeRate : Bool
  deriving DecidableEq, Repr

/-- What the lockout forces in one pass. -/
structure RcAngleModeLockoutOutput where
  forceRcAttitude : Bool := false
  forceRcRate : Bool := false
  forceParamRate : Bool := false
  deriving DecidableEq, Repr

/-- An angle command would be flown on an unhealthy estimate. -/
def RcAngleModeLockoutInput.unsafeAngleRequested (input : RcAngleModeLockoutInput) : Bool :=
  input.estimatorUnhealthy &&
    (input.offboardAngleRequested || (input.rcAttitudeSourceRequested && input.rcAngleRequested))

namespace RcAngleModeLockoutMachine

/-- Forget any lockout. -/
def reset (_machine : RcAngleModeLockoutMachine) : RcAngleModeLockoutMachine := {}

/-- Release the lockout once its condition is met. -/
def advance (machine : RcAngleModeLockoutMachine) (input : RcAngleModeLockoutInput) :
    RcAngleModeLockoutMachine :=
  match machine.state with
  | .inactive => machine
  | .switchResetRequired estimatorRecovered rateWaitLogged =>
    let recovered := estimatorRecovered || !input.estimatorUnhealthy
    let logged := rateWaitLogged || (input.attTypeSwitchRate && !recovered)
    if recovered && input.attTypeSwitchRate then { machine with state := .inactive }
    else { machine with state := .switchResetRequired recovered logged }
  | .paramRateUntilExplicitAngle =>
    if !input.estimatorUnhealthy && input.paramModeRate then { machine with state := .inactive }
    else machine

/-- Enter the lockout at the first denied request. -/
def enter (machine : RcAngleModeLockoutMachine) (input : RcAngleModeLockoutInput) :
    RcAngleModeLockoutMachine :=
  if machine.denialActive then machine
  else if input.attTypeSwitchMapped then
    match machine.state with
    | .switchResetRequired _ _ => { machine with denialActive := true }
    | _ => { state := .switchResetRequired false false, denialActive := true }
  else { state := .paramRateUntilExplicitAngle, denialActive := true }

/-- One pass of the lockout. -/
def step (machine : RcAngleModeLockoutMachine) (input : RcAngleModeLockoutInput) :
    RcAngleModeLockoutMachine × RcAngleModeLockoutOutput :=
  if input.fixedWing then (machine.reset, {})
  else
    let machine := machine.advance input
    -- The lockout counts as active by its state before this pass's own request is entered.
    let lockoutActive := decide (machine.state ≠ .inactive)
    let unsafeAngleRequested := input.unsafeAngleRequested
    let machine :=
      if unsafeAngleRequested then machine.enter input else { machine with denialActive := false }
    (machine,
      { forceRcAttitude := input.estimatorUnhealthy && input.offboardAngleRequested
        forceRcRate := lockoutActive || unsafeAngleRequested
        forceParamRate :=
          !input.attTypeSwitchMapped && unsafeAngleRequested && !input.paramModeRate })

end RcAngleModeLockoutMachine

end Veloxity
