import Mathlib.Tactic.Linarith
import Veloxity.Control.QuadEstimator
import Veloxity.Core.RealFloat
import Veloxity.Library.Run

/-! Over exact real numbers the estimate stays of unit length, and no divisor is zero. -/

namespace Veloxity

open Library

/-- A computation divides by nothing that is zero, and its result meets a condition. -/
abbrev DividesSafely {A : Type} (meets : A → Prop) (computation : Dividing ℝ A) : Prop :=
  Writes (· ≠ 0) meets computation

/-- A quotient is safe for a divisor other than zero. -/
theorem dividesSafely_divide (dividend : ℝ) {divisor : ℝ} (nonzero : divisor ≠ 0) :
    DividesSafely (· = dividend / divisor) (divide dividend divisor) := by
  -- The divisor is written first.
  have telling : DividesSafely (fun _ => True) (tell [divisor] : Dividing ℝ PUnit) := by
    apply Writes.tell
    · exact nonzero
    · trivial
  apply telling.bind
  intro _ _
  exact Writes.pure rfl

/-- A vector is divided by one divisor. -/
theorem dividesSafely_divideVector (vector : Fin 3 → ℝ) {divisor : ℝ} (nonzero : divisor ≠ 0) :
    DividesSafely (fun _ => True) (divideVector vector divisor) := by
  -- The three divisions have the same divisor.
  apply Writes.bind (dividesSafely_divide (vector 0) nonzero)
  intro x _
  apply Writes.bind (dividesSafely_divide (vector 1) nonzero)
  intro y _
  apply Writes.bind (dividesSafely_divide (vector 2) nonzero)
  intro z _
  exact Writes.pure trivial

namespace FlightQuaternion

/-- Dividing a quaternion divides the square of its length by the square of the divisor. -/
theorem dividesSafely_divideBy (q : FlightQuaternion ℝ) {divisor : ℝ} (nonzero : divisor ≠ 0) :
    DividesSafely (fun quotient => quotient.normSquared = q.normSquared / (divisor * divisor))
      (q.divideBy divisor) := by
  apply Writes.bind (dividesSafely_divide q.w nonzero)
  rintro w rfl
  apply Writes.bind (dividesSafely_divide q.i nonzero)
  rintro i rfl
  apply Writes.bind (dividesSafely_divide q.j nonzero)
  rintro j rfl
  apply Writes.bind (dividesSafely_divide q.k nonzero)
  rintro k rfl
  apply Writes.pure
  -- All four squares have the same denominator.
  simp only [normSquared]
  field_simp

/-- A sum of four squares is not negative. -/
theorem normSquared_nonneg (q : FlightQuaternion ℝ) : 0 ≤ q.normSquared := by
  -- Each square is not negative.
  have w := mul_self_nonneg q.w
  have i := mul_self_nonneg q.i
  have j := mul_self_nonneg q.j
  have k := mul_self_nonneg q.k
  simp only [normSquared]
  linarith

/-- The length squared is the sum of squares. -/
theorem norm_mul_norm (q : FlightQuaternion ℝ) : q.norm * q.norm = q.normSquared :=
  Real.mul_self_sqrt q.normSquared_nonneg

/-- A quaternion of some length can be normalized, and has unit length then. -/
theorem dividesSafely_normalizeMut (q : FlightQuaternion ℝ) (directed : q.normSquared ≠ 0) :
    DividesSafely (fun unit => unit.normSquared = 1) q.normalizeMut := by
  -- The only divisor is the length, whose square is not zero.
  have nonzero : q.norm ≠ 0 := by
    intro none
    have squared := q.norm_mul_norm
    rw [none, mul_zero] at squared
    exact directed squared.symm
  apply (q.dividesSafely_divideBy nonzero).weaken
  intro unit divided
  rw [divided, q.norm_mul_norm, div_self directed]

/-- A quaternion whose length has been looked at can be divided by it. -/
theorem dividesSafely_normalizeLong (q : FlightQuaternion ℝ) :
    DividesSafely (fun _ => True) q.normalizeLong := by
  unfold normalizeLong
  -- The length is a divisor only where it is positive.
  split_ifs with long
  · have positive : 0 < q.norm := by simpa using long
    exact (q.dividesSafely_divideBy positive.ne').weaken fun _ _ => trivial
  · exact Writes.pure trivial

end FlightQuaternion

/-- A sum of three squares is not negative. -/
theorem vectorSquared_nonneg (vector : Fin 3 → ℝ) : 0 ≤ vectorSquared vector := by
  -- Each square is not negative.
  have x := mul_self_nonneg (vector 0)
  have y := mul_self_nonneg (vector 1)
  have z := mul_self_nonneg (vector 2)
  simp only [vectorSquared]
  linarith

/-- A vector's length squared is the sum of squares. -/
theorem vectorNorm_mul_vectorNorm (vector : Fin 3 → ℝ) :
    vectorNorm vector * vectorNorm vector = vectorSquared vector :=
  Real.mul_self_sqrt (vectorSquared_nonneg vector)

/-- A vector's length is not zero if the sum of its squares is not. -/
theorem vectorNorm_ne_zero {vector : Fin 3 → ℝ} (moves : vectorSquared vector ≠ 0) :
    vectorNorm vector ≠ 0 := by
  intro none
  have squared := vectorNorm_mul_vectorNorm vector
  rw [none, mul_zero] at squared
  exact moves squared.symm

/-- The correction by gravity divides by lengths it has looked at. -/
theorem dividesSafely_accelCorrection (attitude : FlightQuaternion ℝ) (accelLpf : Fin 3 → ℝ) :
    DividesSafely (fun _ => True) (accelCorrection attitude accelLpf) := by
  unfold accelCorrection
  dsimp only
  split_ifs with small
  · exact Writes.pure trivial
  · -- A length above the bound is not zero.
    have nonzero : vectorNorm accelLpf ≠ 0 := by
      intro none
      rw [none, RealFloat.le_iff, RealFloat.lit_eq] at small
      norm_num at small
    apply Writes.bind (dividesSafely_divideVector accelLpf nonzero)
    intro a _
    apply Writes.bind (accelRotation a).dividesSafely_normalizeLong
    intro qAcc _
    exact Writes.pure trivial

namespace QuadEstimator

variable {F : Type}

/-- Turning along an arc or along its tangent scales the length by how far it goes. -/
theorem normSquared_turned (current : FlightQuaternion ℝ) (omega : Fin 3 → ℝ) (t1 t2 : ℝ) :
    (turned current omega t1 t2).normSquared =
      (t1 * t1 + t2 * t2 * vectorSquared omega) * current.normSquared := by
  -- The mixed products cancel between the four components.
  simp only [turned, FlightQuaternion.normSquared, vectorSquared]
  ring

/-- A straight step goes along the tangent for half the time. -/
theorem stepped_derivative (current : FlightQuaternion ℝ) (omega : Fin 3 → ℝ) (dt : ℝ) :
    stepped current (derivative current omega) dt = turned current omega 1 (dt / 2) := by
  simp only [stepped, derivative, turned, RealFloat.lit_eq]
  congr 1 <;> ring

/-- Turning an attitude of unit length leaves it with some length. -/
theorem dividesSafely_moveAttitude (current : FlightQuaternion ℝ) (omega : Fin 3 → ℝ) (dt : ℝ)
    (useMatExp : Bool) (unit : current.normSquared = 1) (moves : vectorSquared omega ≠ 0) :
    DividesSafely (fun moved => moved.normSquared ≠ 0)
      (moveAttitude current (derivative current omega) omega dt useMatExp) := by
  unfold moveAttitude
  dsimp only
  split_ifs
  · -- Along the arc the squares of cosine and sine add up.
    have two : (FlightFloat.lit 2 : ℝ) ≠ 0 := by
      rw [RealFloat.lit_eq]
      norm_num
    apply Writes.bind (dividesSafely_divide (vectorNorm omega * dt) two)
    intro halfAngle _
    have nonzero := vectorNorm_ne_zero moves
    apply Writes.bind (dividesSafely_divide (FlightFloat.sin halfAngle) nonzero)
    rintro t2 rfl
    apply Writes.pure
    have circle : Real.cos halfAngle * Real.cos halfAngle +
        Real.sin halfAngle * Real.sin halfAngle = 1 := by
      have squares := Real.cos_sq_add_sin_sq halfAngle
      linarith
    rw [normSquared_turned, unit, ← vectorNorm_mul_vectorNorm]
    show (Real.cos halfAngle * Real.cos halfAngle +
      Real.sin halfAngle / vectorNorm omega * (Real.sin halfAngle / vectorNorm omega) *
        (vectorNorm omega * vectorNorm omega)) * 1 ≠ 0
    rw [div_mul_div_comm, div_mul_cancel₀ _ (mul_ne_zero nonzero nonzero), circle]
    norm_num
  · -- Along the tangent the length can only grow.
    apply Writes.pure
    have grows : 0 ≤ dt / 2 * (dt / 2) * vectorSquared omega :=
      mul_nonneg (mul_self_nonneg (dt / 2)) (vectorSquared_nonneg omega)
    rw [stepped_derivative, normSquared_turned, unit]
    linarith

/-- The estimate has unit length. -/
def IsUnit (estimator : QuadEstimator F ℝ) : Prop := estimator.qHat.normSquared = 1

/-- Integrating a rate keeps the estimate at unit length. -/
theorem dividesSafely_integrateAngularRate {estimator : QuadEstimator F ℝ}
    (unit : estimator.IsUnit) (omega : Fin 3 → ℝ) (dt : ℝ) :
    DividesSafely IsUnit (estimator.integrateAngularRate omega dt) := by
  unfold integrateAngularRate
  -- A rate of zero leaves the estimate alone, and any other one is integrated and normalized.
  split_ifs with still
  · exact Writes.pure unit
  · have moves : vectorSquared omega ≠ 0 := by
      intro none
      rw [RealFloat.eq_iff, RealFloat.lit_eq] at still
      exact still (by rw [none]; norm_num)
    apply Writes.bind
      (dividesSafely_moveAttitude estimator.qHat omega dt estimator.useMatExp unit moves)
    intro moved directed
    apply Writes.bind (moved.dividesSafely_normalizeMut directed)
    intro qHat normalized
    exact Writes.pure normalized

/-- Smoothing the rates divides by a constant and leaves the estimate alone. -/
theorem dividesSafely_smoothedGyroMeasurement {estimator : QuadEstimator F ℝ}
    (unit : estimator.IsUnit) :
    DividesSafely (fun smoothed => smoothed.1.IsUnit) estimator.smoothedGyroMeasurement := by
  unfold smoothedGyroMeasurement
  -- The only divisor is the constant of the parabola.
  split_ifs
  · have twelve : (FlightFloat.lit (-12) : ℝ) ≠ 0 := by
      rw [RealFloat.lit_eq]
      norm_num
    apply Writes.bind (dividesSafely_divideVector estimator.w2 twelve)
    intro oldest _
    exact Writes.pure unit
  · exact Writes.pure unit

/-- Feeding a correction back keeps the estimate at unit length. -/
theorem dividesSafely_applyCorrection {estimator : QuadEstimator F ℝ} (unit : estimator.IsUnit)
    (correction : Correction ℝ) (ki dt : ℝ) :
    DividesSafely IsUnit (estimator.applyCorrection correction ki dt) := by
  -- The biases are not part of the attitude, and the integration ends normalized.
  have biased : (estimator.adaptBias correction ki dt).IsUnit := unit
  unfold applyCorrection
  apply Writes.bind (dividesSafely_smoothedGyroMeasurement biased)
  intro smoothed kept
  apply Writes.bind (dividesSafely_integrateAngularRate kept _ dt)
  intro turned normalized
  exact Writes.pure normalized

/-- A correction by gravity leaves the estimate alone. -/
theorem dividesSafely_correctByAccel {estimator : QuadEstimator F ℝ} (unit : estimator.IsUnit)
    (currentTime : Nat) :
    DividesSafely (fun corrected => corrected.1.IsUnit) (estimator.correctByAccel currentTime) := by
  unfold correctByAccel
  -- What is divided by is taken care of where the correction is computed.
  split_ifs
  · apply Writes.bind (dividesSafely_accelCorrection estimator.qHat estimator.accelLpf)
    intro wErr _
    exact Writes.pure unit
  · exact Writes.pure unit

/-- A time is only divided by a positive time step. -/
theorem dividesSafely_timeRatio (time dt : ℝ) :
    DividesSafely (fun _ => True) (timeRatio time dt) := by
  unfold timeRatio
  -- The time step is a divisor only where it is positive.
  split_ifs with runs
  · have positive : 0 < dt := by simpa using runs
    exact (dividesSafely_divide time positive.ne').weaken fun _ _ => trivial
  · exact Writes.pure trivial

/-- A correction by an outside attitude leaves the estimate alone. -/
theorem dividesSafely_correctByExtatt {estimator : QuadEstimator F ℝ} (unit : estimator.IsUnit)
    (correction : Correction ℝ) (currentTime : Nat) (dt : ℝ) :
    DividesSafely (fun corrected => corrected.1.IsUnit)
      (estimator.correctByExtatt correction currentTime dt) := by
  unfold correctByExtatt
  -- Only the scale of the correction is a quotient.
  split
  · exact Writes.pure unit
  · apply Writes.bind (dividesSafely_timeRatio _ dt)
    intro scaleDt _
    exact Writes.pure unit

/-- Taking in a sample keeps the estimate at unit length. -/
theorem dividesSafely_updateFromSample {estimator : QuadEstimator F ℝ} (unit : estimator.IsUnit)
    (sample : ImuPacket F ℝ) (dt : ℝ) :
    DividesSafely IsUnit (estimator.updateFromSample sample dt) := by
  have filtered : (estimator.filterSample sample).IsUnit := unit
  unfold updateFromSample
  dsimp only
  -- The corrections come first, and the integration is last in both branches.
  apply Writes.bind (dividesSafely_correctByAccel filtered sample.header.timestamp)
  intro byAccel kept
  apply Writes.bind (dividesSafely_correctByExtatt kept byAccel.2 sample.header.timestamp dt)
  intro byExtatt still
  split_ifs
  · exact dividesSafely_applyCorrection still _ _ dt
  · exact dividesSafely_applyCorrection still _ _ dt

/-- An estimate and the report about it are of unit length. -/
def ReportsUnit (estimated : QuadEstimator F ℝ × AttitudeState ℝ) : Prop :=
  estimated.1.IsUnit ∧ estimated.2.qHat = estimated.1.qHat

/-- An estimation from a sample, or from none, keeps the estimate at unit length. -/
theorem dividesSafely_estimatePackets {estimator : QuadEstimator F ℝ} (unit : estimator.IsUnit)
    (imu : Option (ImuPacket F ℝ)) (dt : ℝ) :
    DividesSafely ReportsUnit (estimator.estimatePackets imu dt) := by
  unfold estimatePackets
  -- Only a sample that finds the clocks started is taken in.
  split
  · exact Writes.pure ⟨unit, rfl⟩
  · cases imu with
    | none => exact Writes.pure ⟨unit, rfl⟩
    | some sample =>
      dsimp only
      split
      · exact Writes.pure ⟨unit, rfl⟩
      · apply Writes.bind (dividesSafely_updateFromSample unit sample dt)
        intro updated kept
        exact Writes.pure ⟨kept, rfl⟩

variable [FloatCast F ℝ]

/-- An outside attitude has a direction, if there is one. -/
def Directed (externalAttitude : Option (ExternalAttitudeMsg F)) : Prop :=
  ∀ msg ∈ externalAttitude, (externalQuaternion msg : FlightQuaternion ℝ).normSquared ≠ 0

/-- Keeping an outside attitude that has a direction leaves the estimate alone. -/
theorem dividesSafely_takeExternalAttitude {estimator : QuadEstimator F ℝ}
    (unit : estimator.IsUnit) {externalAttitude : Option (ExternalAttitudeMsg F)}
    (directed : Directed externalAttitude) :
    DividesSafely IsUnit (estimator.takeExternalAttitude externalAttitude) := by
  -- The length of an outside attitude is divided by before it is kept.
  cases externalAttitude with
  | none => exact Writes.pure unit
  | some msg =>
    apply Writes.bind
      ((externalQuaternion msg).dividesSafely_normalizeMut (directed msg rfl))
    intro q _
    exact Writes.pure unit

/-- An estimation keeps the estimate at unit length. -/
theorem dividesSafely_estimate {estimator : QuadEstimator F ℝ} (unit : estimator.IsUnit)
    {ctx : EstimatorCtx F ℝ} (directed : Directed ctx.externalAttitude) :
    DividesSafely ReportsUnit (estimator.estimate ctx) := by
  apply Writes.bind (dividesSafely_takeExternalAttitude unit directed)
  intro informed kept
  exact dividesSafely_estimatePackets kept ctx.sensors.imu ctx.dt

end QuadEstimator

/-- What can happen to an estimator. -/
inductive EstimatorEvent (F R : Type) where
  | updateParams (params : Params F)
  | estimate (ctx : EstimatorCtx F R)
  | resetAdaptiveBias
  | reset

namespace QuadEstimator

variable {F : Type} [FloatCast F ℝ]

/-- The estimator after an event. -/
noncomputable def after (estimator : QuadEstimator F ℝ) : EstimatorEvent F ℝ → QuadEstimator F ℝ
  | .updateParams params => estimator.updateParams params
  | .estimate ctx => (result (estimator.estimate ctx)).1
  | .resetAdaptiveBias => estimator.resetAdaptiveBias
  | .reset => estimator.resetState

/-- An estimation is given no outside attitude without a direction. -/
def DirectedEvent : EstimatorEvent F ℝ → Prop
  | .estimate ctx => Directed ctx.externalAttitude
  | _ => True

omit [FloatCast F ℝ] in
/-- The attitude an estimator is reset to has unit length. -/
theorem isUnit_resetState (estimator : QuadEstimator F ℝ) : estimator.resetState.IsUnit := by
  show (FlightQuaternion.unrotated : FlightQuaternion ℝ).normSquared = 1
  simp [FlightQuaternion.unrotated, FlightQuaternion.normSquared]

/-- Every event keeps the estimate at unit length. -/
theorem IsUnit.after {estimator : QuadEstimator F ℝ} (unit : estimator.IsUnit)
    {event : EstimatorEvent F ℝ} (directed : DirectedEvent event) :
    (estimator.after event).IsUnit := by
  -- Only estimating moves the attitude, and a reset puts it back.
  cases event with
  | updateParams params => exact unit
  | estimate ctx => exact (dividesSafely_estimate unit directed).2.1
  | resetAdaptiveBias => exact unit
  | reset => exact isUnit_resetState estimator

/-- Any events keep the estimate at unit length. -/
theorem IsUnit.run {estimator : QuadEstimator F ℝ} (unit : estimator.IsUnit)
    {events : List (EstimatorEvent F ℝ)} (directed : ∀ event ∈ events, DirectedEvent event) :
    (run QuadEstimator.after estimator events).IsUnit := by
  -- The unit length is handed from event to event.
  induction events generalizing estimator with
  | nil => exact unit
  | cons event rest ih =>
    have first := directed event List.mem_cons_self
    exact ih (unit.after first) fun later member => directed later (List.mem_cons_of_mem _ member)

/-- After a reset and any events, an estimation divides by nothing that is zero and leaves an
estimate of unit length, which is the one it reports. -/
theorem dividesSafely_run (estimator : QuadEstimator F ℝ) (events : List (EstimatorEvent F ℝ))
    (ctx : EstimatorCtx F ℝ)
    (directed : ∀ event ∈ events ++ [.estimate ctx], DirectedEvent event) :
    let estimated := (run after estimator.resetState events).estimate ctx
    (∀ divisor ∈ written estimated, divisor ≠ 0) ∧ (result estimated).1.qHat.norm = 1 ∧
      (result estimated).2.qHat = (result estimated).1.qHat := by
  have before : ∀ event ∈ events, DirectedEvent event := by
    intro event member
    exact directed event (List.mem_append_left _ member)
  have last : Directed ctx.externalAttitude :=
    directed (.estimate ctx) (List.mem_append_right _ (List.mem_singleton_self _))
  have kept := (isUnit_resetState estimator).run before
  obtain ⟨nonzero, unit, reported⟩ := dividesSafely_estimate kept last
  refine ⟨nonzero, ?_, reported⟩
  -- The root of one is one.
  show √(FlightQuaternion.normSquared _) = 1
  rw [unit, Real.sqrt_one]

/-- Surroundings with a sample of a resting vehicle and a half turn measured outside. -/
noncomputable def turnedSurroundings (timestamp : Nat) : EstimatorCtx ℝ ℝ where
  sensors :=
    { imu := some
        { header := { timestamp }, accel := ![0, 0, -9.80665], gyro := fun _ => 0
          temperature := 25.0, seq := 0 } }
  params := .new
  dt := 0.0025
  externalAttitude := some { qw := 0, qx := 2.0, qy := 0, qz := 0 }

/-- A half turn has a direction. -/
theorem directed_turnedSurroundings (timestamp : Nat) :
    Directed (turnedSurroundings timestamp).externalAttitude := by
  rintro msg same
  obtain rfl := Option.some.inj same
  show (0 * 0 + 2.0 * 2.0 + 0 * 0 + 0 * 0 : ℝ) ≠ 0
  norm_num

/-- The second sample of a vehicle whose attitude is measured outside is estimated safely. -/
theorem dividesSafely_run_turned :
    let estimated := (run after (default.resetState : QuadEstimator ℝ ℝ)
      [.updateParams .new, .estimate (turnedSurroundings 1000)]).estimate (turnedSurroundings 3500)
    (∀ divisor ∈ written estimated, divisor ≠ 0) ∧ (result estimated).1.qHat.norm = 1 ∧
      (result estimated).2.qHat = (result estimated).1.qHat := by
  apply dividesSafely_run
  intro event member
  simp only [List.cons_append, List.nil_append, List.mem_cons, List.not_mem_nil, or_false] at member
  -- Both samples come with an outside attitude that has a direction.
  rcases member with rfl | rfl | rfl
  · trivial
  · exact directed_turnedSurroundings 1000
  · exact directed_turnedSurroundings 3500

end QuadEstimator

end Veloxity
