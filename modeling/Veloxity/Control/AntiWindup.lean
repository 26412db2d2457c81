import Mathlib.Tactic.Linarith
import Veloxity.Control.QuadController
import Veloxity.Core.RealFloat
import Veloxity.Library.Run

/-! Over exact real numbers a loop never unwinds its integrator. -/

namespace Veloxity

open Library

/-- One call of a loop, which finds the derivative itself or is given it. -/
inductive PidCall (R : Type) where
  | run (x xC dt : R) (enableIntegrator : Bool)
  | runWithDerivative (x xC xdot dt : R) (enableIntegrator : Bool)

namespace PidCall

variable {R : Type} [FlightFloat R]

/-- What is left to reach the commanded value. -/
def error : PidCall R → R
  | .run x xC _ _ => xC - x
  | .runWithDerivative x xC _ _ _ => xC - x

omit [FlightFloat R] in
/-- Time the call integrates over. -/
def dt : PidCall R → R
  | .run _ _ dt _ => dt
  | .runWithDerivative _ _ _ dt _ => dt

omit [FlightFloat R] in
/-- The call may integrate. -/
def enableIntegrator : PidCall R → Bool
  | .run _ _ _ enableIntegrator => enableIntegrator
  | .runWithDerivative _ _ _ _ enableIntegrator => enableIntegrator

end PidCall

namespace Pid

section Calls

variable {R : Type} [FlightFloat R]

/-- The loop after a call, with its output. -/
def called (pid : Pid R) : PidCall R → Pid R × R
  | .run x xC dt enableIntegrator => pid.run x xC dt enableIntegrator
  | .runWithDerivative x xC xdot dt enableIntegrator =>
    pid.runWithDerivative x xC xdot dt enableIntegrator

/-- The loop after a call. -/
def afterCall (pid : Pid R) (call : PidCall R) : Pid R := (pid.called call).1

/-- The filtered derivative once a value has come in, over a long enough step. -/
def differentiated (pid : Pid R) (x dt : R) : R :=
  let twoTau := FlightFloat.lit 2 * pid.tau
  if FlightFloat.lt (FlightFloat.lit 0.0001) dt then
    (twoTau - dt) / (twoTau + dt) * pid.differentiator +
      FlightFloat.lit 2 / (twoTau + dt) * (x - pid.prevX)
  else pid.differentiator

/-- Derivative a call works with: the filtered one, none over a short step, or the given one. -/
def slope (pid : Pid R) : PidCall R → R
  | .run x _ dt _ =>
    if FlightFloat.lt (FlightFloat.lit 0.0001) dt then pid.differentiated x dt
    else FlightFloat.lit 0
  | .runWithDerivative _ _ xdot _ _ => xdot

/-- Proportional part of a call's output less its derivative part. -/
def steering (pid : Pid R) (call : PidCall R) : R :=
  pid.p * call.error -
    if FlightFloat.lt (FlightFloat.lit 0) pid.d then pid.d * pid.slope call else FlightFloat.lit 0

/-- The integrator once a call has integrated, if it may. -/
def integrated (pid : Pid R) (call : PidCall R) : R :=
  if call.enableIntegrator then pid.integrator + call.error * call.dt else pid.integrator

/-- Output of a call before it is limited. -/
def unclamped (pid : Pid R) (call : PidCall R) : R :=
  pid.steering call + if call.enableIntegrator then pid.i * pid.integrated call
    else FlightFloat.lit 0

end Calls

/-- A value the limited output can take. -/
def Within (pid : Pid ℝ) (value : ℝ) : Prop := pid.min ≤ value ∧ value ≤ pid.max

/-- An integrator that alone drives the output out of the limits is unwound into them. -/
def Unwinds (pid : Pid ℝ) (call : PidCall ℝ) : Prop :=
  call.enableIntegrator = true → ¬ pid.Within (pid.unclamped call) →
      pid.Within (pid.steering call) →
        pid.Within (pid.steering call + pid.i * (pid.afterCall call).integrator)

/-- A call within the limits stays there with what it integrates. -/
def StaysWithin (pid : Pid ℝ) (call : PidCall ℝ) : Prop :=
  call.enableIntegrator = true → pid.Within (pid.steering call) →
    pid.Within (pid.steering call + pid.i * pid.integrated call)

/-- What is left of an output without its other parts is the integral part, never more and never
less. -/
theorem lt_abs_rest (proportional differential integral : ℝ) :
    FlightFloat.lt (FlightFloat.abs (proportional - differential + integral - proportional +
      differential)) (FlightFloat.abs integral) = false := by
  have rest : proportional - differential + integral - proportional + differential = integral := by
    ring
  rw [rest]
  exact decide_eq_false (lt_irrefl _)

/-- Whatever a loop with an integrator gives out, it keeps all that it has integrated. -/
theorem runWithDerivative_eq (pid : Pid ℝ) (x xC xdot dt : ℝ) (enableIntegrator : Bool)
    (integrates : 0 < pid.i) :
    (pid.runWithDerivative x xC xdot dt enableIntegrator).1 =
      { pid with integrator :=
          pid.integrated (.runWithDerivative x xC xdot dt enableIntegrator) } := by
  have positive : FlightFloat.lt (FlightFloat.lit 0) pid.i = true := by simpa using integrates
  unfold runWithDerivative
  -- The guard compares the integral part with itself.
  simp only [lt_abs_rest, positive, Bool.true_and, Bool.and_false, Bool.false_eq_true, if_false]
  rfl

/-- A call changes the integrator, the filter and the last value only, and keeps all that it has
integrated. -/
theorem afterCall_eq (pid : Pid ℝ) (call : PidCall ℝ) (integrates : 0 < pid.i) :
    ∃ differentiator prevX, pid.afterCall call =
      { pid with integrator := pid.integrated call, differentiator, prevX } := by
  -- A call without a rate estimates one first, which touches the filter alone.
  cases call with
  | run x xC dt enableIntegrator =>
    refine ⟨_, _, runWithDerivative_eq _ x xC _ dt enableIntegrator integrates⟩
  | runWithDerivative x xC xdot dt enableIntegrator =>
    exact ⟨_, _, runWithDerivative_eq pid x xC xdot dt enableIntegrator integrates⟩

/-- A call unwinds the integrator as promised exactly when there is nothing to unwind. -/
theorem unwinds_iff (pid : Pid ℝ) (call : PidCall ℝ) (integrates : 0 < pid.i) :
    pid.Unwinds call ↔ pid.StaysWithin call := by
  obtain ⟨differentiator, prevX, after⟩ := pid.afterCall_eq call integrates
  unfold Unwinds StaysWithin
  rw [after]
  refine forall_congr' fun enabled => ?_
  -- With the integrator enabled the output is all that has been integrated and the rest.
  have output : pid.unclamped call = pid.steering call + pid.i * pid.integrated call := by
    rw [unclamped, if_pos enabled]
  rw [output]
  constructor
  · intro unwinds steers
    by_contra leaves
    exact leaves (unwinds leaves steers)
  · intro stays leaves steers
    exact absurd (stays steers) leaves

/-- Along every sequence of calls of a loop with an integrator, the integrator is unwound as
promised exactly as long as there is nothing to unwind. -/
theorem unwinds_along_iff (pid : Pid ℝ) (calls : List (PidCall ℝ)) (integrates : 0 < pid.i) :
    Along Unwinds afterCall pid calls ↔ Along StaysWithin afterCall pid calls := by
  apply along_congr (fun reached => 0 < reached.i) ?_ ?_ integrates
  · -- No call changes the integral gain.
    intro reached call integrates
    obtain ⟨differentiator, prevX, after⟩ := reached.afterCall_eq call integrates
    rw [after]
    exact integrates
  · exact fun reached call => reached.unwinds_iff call

/-- A loop that reaches its limit by half with its proportional part alone. -/
noncomputable def halfwayPid : Pid ℝ where
  p := 1 / 2
  i := 100
  d := 0
  max := 1
  min := -1
  tau := 1 / 20
  integrator := 0
  differentiator := 0
  prevX := 0
  prevT := -1

/-- A step of a hundredth of a second, one below the commanded value. -/
noncomputable def hundredthStep : PidCall ℝ := .runWithDerivative 0 1 0 (1 / 100) true

/-- The law for a loop that is driven beyond its limit by its integral part. -/
theorem unwinds_along_halfway :
    Along Unwinds afterCall halfwayPid [hundredthStep] ↔
      Along StaysWithin afterCall halfwayPid [hundredthStep] := by
  apply unwinds_along_iff
  norm_num [halfwayPid]

/-- An integral part that alone drives the output beyond its limit is kept. -/
theorem not_unwinds_halfway :
    0 < halfwayPid.i ∧ halfwayPid.min ≤ 0 ∧ 0 ≤ halfwayPid.max ∧
      ¬ Along Unwinds afterCall halfwayPid [hundredthStep] := by
  have integrates : 0 < halfwayPid.i := by norm_num [halfwayPid]
  refine ⟨integrates, by norm_num [halfwayPid], by norm_num [halfwayPid], ?_⟩
  intro along
  -- The steering is half the limit, and the integral adds a hundredth that does not fit.
  have stays := (halfwayPid.unwinds_iff hundredthStep integrates).mp along.1
  have steering : halfwayPid.steering hundredthStep = 1 / 2 := by
    simp [steering, halfwayPid, hundredthStep, PidCall.error]
  have integrated : halfwayPid.integrated hundredthStep = 1 / 100 := by
    simp [integrated, halfwayPid, hundredthStep, PidCall.error, PidCall.dt,
      PidCall.enableIntegrator]
  have within := stays rfl (by rw [steering]; norm_num [Within, halfwayPid])
  rw [steering, integrated] at within
  norm_num [Within, halfwayPid] at within

end Pid

end Veloxity
