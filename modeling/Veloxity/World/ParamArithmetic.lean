import Veloxity.Control.QuadEstimator
import Veloxity.Core.Checked
import Veloxity.Mixer.Matrix
import Veloxity.Params.Table
import Veloxity.Params.WordParams

/-! Computations with parameters that stop where an integer leaves its range, against those that go
on. -/

namespace Veloxity

variable {F R : Type}

section Estimator

variable [FlightFloat R] [FloatCast F R]

/-- Take the settings from the parameters, with the initialization time in exact arithmetic. -/
def QuadEstimator.updateParamsExact (estimator : QuadEstimator F R) (params : Params F) :
    Option (QuadEstimator F R) := do
  let initTimeUs ←
    match params.getById .PARAM_INIT_TIME with
    | .int value => exactU64 (asU64 value * 1000)
    | _ => some estimator.initTimeUs
  some { estimator.updateParams params with initTimeUs }

end Estimator

namespace Rc

variable [FlightFloat F]

/-- A stored channel value, if there is one at the index. -/
def chanExact (rc : RcStruct F) (index : Nat) : Option F :=
  if inside : index < rcStructChannels then some (rc.chan ⟨index, inside⟩) else none

/-- A channel value is out of bounds. -/
def outOfBounds (val : F) : Bool :=
  FlightFloat.lt val (FlightFloat.lit (-0.25)) || FlightFloat.lt (FlightFloat.lit 1.25) val

/-- Whether no channel value is out of bounds, read one after another until one is. -/
def channelsWithinExact (rc : RcStruct F) : List Nat → Option Bool
  | [] => some true
  | index :: rest => do
    let val ← chanExact rc index
    if outOfBounds val then some false else channelsWithinExact rc rest

/-- The health of the link, with every channel index checked. -/
def checkRcHealthExact (rc : Rc F) (nowUs : Nat) (params : Params F) : Option Bool :=
  let numChannels := asU32 (params.intOr .PARAM_RC_NUM_CHANNELS 6)
  -- No parameter takes part in the first comparison.
  if rc.rc.header.timestamp + rcTimeoutUs < nowUs then some false
  else if rc.rc.frameLost || rc.rc.failsafeActivated then some false
  else if rc.rc.numChannels < numChannels then some false
  else channelsWithinExact rc.rc (List.range numChannels)

/-- The value of a stick, with its channel index checked. -/
def processedStickExact (rc : Rc F) (stick : Stick) : Option F :=
  let config := rc.sticks stick
  if config.channel < 0 ∨ rc.rc.numChannels ≤ asU32 config.channel then some (rc.stickValues stick)
  else do
    let pwm ← chanExact rc.rc (asU32 config.channel)
    if config.oneSided then some pwm
    else some (FlightFloat.lit 2 * (pwm - FlightFloat.lit 0.5))

/-- The position of a switch, with its channel index checked. -/
def processedSwitchExact (rc : Rc F) (switch : Switch) : Option Bool :=
  let config := rc.switches switch
  if config.mapped then
    if config.channel < 0 ∨ rc.rc.numChannels ≤ asU32 config.channel then some false
    else do
      let pwm ← chanExact rc.rc (asU32 config.channel)
      if config.direction < 0 then some (FlightFloat.lt pwm (FlightFloat.lit 0.2))
      else some (FlightFloat.le (FlightFloat.lit 0.8) pwm)
  else some false

end Rc

/-- Deactivate the offboard command once it is too old, with its deadline in exact arithmetic. -/
def CommandManager.updateOffboardTimeoutExact (manager : CommandManager F) (nowUs : Nat)
    (params : Params F) : Option (CommandManager F) := do
  let timeoutMs := asU32 (params.intOr .PARAM_OFFBOARD_TIMEOUT 100)
  let timeoutUs ← exactU64 (timeoutMs * 1000)
  let deadlineUs ← exactU64 (manager.lastOffboardCommandUs + timeoutUs)
  if nowUs ≤ deadlineUs then some manager
  else some { manager with offboardCommand := deactivate manager.offboardCommand }

/-- The rate that a parameter asks for, if it fits into its type. -/
def telemetryRateParamExact (params : Params F) (id : ParamId) : Option Nat :=
  match params.getById id with
  | .int value =>
    if value ≤ -1 then some TELEMETRY_RATE_DISABLED
    else exactU16 (min value MAX_TELEMETRY_RATE_HZ).toNat
  | _ => some TELEMETRY_RATE_DISABLED

/-- Whether a sampled stream is due, with every division checked. -/
def streamDueExact (nowUs lastUs rateHz : Nat) : Option (Bool × Nat) :=
  if rateHz = TELEMETRY_RATE_DISABLED then some (false, lastUs)
  else if rateHz = 0 then some (true, if lastUs = 0 then nowUs else lastUs)
  else do
    let intervalUs ← exactDiv 1000000 rateHz
    if lastUs = 0 then some (true, nowUs)
    else if intervalUs ≤ nowUs - lastUs then do
      let elapsedIntervals ← exactDiv (nowUs - lastUs) intervalUs
      some (true, saturatingAddU64 lastUs (saturatingMulU64 elapsedIntervals intervalUs))
    else some (false, lastUs)

/-- The deadline that a sampled stream has passed, with every division checked. -/
def streamDueDeadlineUsExact (nowUs lastUs rateHz : Nat) : Option (Option Nat) :=
  if rateHz = TELEMETRY_RATE_DISABLED then some none
  else if rateHz = 0 then some (some (if lastUs = 0 then 0 else nowUs))
  else if lastUs = 0 then some (some 0)
  else do
    let intervalUs ← exactDiv 1000000 rateHz
    if intervalUs ≤ nowUs - lastUs then some (some (saturatingAddU64 lastUs intervalUs))
    else some none

/-- Whether a fixed-rate stream is due, with its division checked. -/
def fixedRateDueExact (nowUs lastUs rateHz : Nat) : Option Bool :=
  if rateHz = TELEMETRY_RATE_DISABLED then some false
  else if rateHz = 0 then some true
  else do
    let intervalUs ← exactDiv 1000000 rateHz
    some (decide (intervalUs ≤ nowUs - lastUs))

/-- The deadline that a fixed-rate stream has passed, with its division checked. -/
def fixedRateDueDeadlineUsExact (nowUs lastUs rateHz : Nat) : Option (Option Nat) :=
  if rateHz = TELEMETRY_RATE_DISABLED then some none
  else if rateHz = 0 then some (some nowUs)
  else do
    let intervalUs ← exactDiv 1000000 rateHz
    if intervalUs ≤ nowUs - lastUs then some (some (saturatingAddU64 lastUs intervalUs))
    else some none

/-- A raw output is due by its share of the inertial samples, with the division checked. -/
def TelemetrySender.outputRawDueByCountExact (sender : TelemetrySender) : Option Bool :=
  if sender.telemetryRates.outputRawImuDivisor = 0 then some false
  else do
    let share ← exactMod sender.outputRawImuCount sender.telemetryRates.outputRawImuDivisor
    some (decide (share = 0))

section Mixing

variable [FlightFloat R] [FloatCast F R]

/-- The parameter of a cell of a matrix, by its index behind that of the first cell. -/
def cellParamExact (first : ParamId) (row col : Fin NUM_MIXER_OUTPUTS) : Option ParamId := do
  let column ← exactU32 (col.val * NUM_MIXER_OUTPUTS)
  let start ← exactU32 (first.toIndex + column)
  let index ← exactU32 (start + row.val)
  ParamId.fromIndex index

namespace MatrixMixer

/-- Read the runtime parameters again, with every count in exact arithmetic. -/
def refreshRuntimeParamsExact (mixer : MatrixMixer F R) (params : Params F) :
    Option (MatrixMixer F R) := do
  let numMotors ← exactU32 (max (mixerParamInt params .PARAM_NUM_MOTORS) 0).toNat
  let throttleAxis ← exactU32 (max 0 (min (mixerParamInt params .PARAM_RC_F_AXIS) 2)).toNat
  let refreshed := mixer.refreshRuntimeParams params
  some { refreshed with params := { refreshed.params with numMotors, throttleAxis } }

/-- Choose the mixer and read its runtime parameters, with every count in exact arithmetic. -/
def refreshExact [Svd R] (mixer : MatrixMixer F R) (params : Params F) :
    Option (MatrixMixer F R) :=
  let chosen := mixer.refreshMixerConfig params
  { chosen.1 with status := chosen.2 }.refreshRuntimeParamsExact params

end MatrixMixer

end Mixing

/-- A number in range is cast to itself. -/
theorem asU64_of_nonneg {value : Int} (ahead : 0 ≤ value) (high : value < 18446744073709551616) :
    asU64 value = value.toNat := by
  rw [asU64]
  exact congrArg Int.toNat (Int.emod_eq_of_lt ahead high)

/-- A negative word is cast to a large number. -/
theorem asU64_of_neg {value : Int} (low : -2147483648 ≤ value) (behind : value < 0) :
    9223372036854775808 ≤ asU64 value := by
  show 9223372036854775808 ≤ (value % 18446744073709551616).toNat
  omega

/-- What computes with the parameters, and when. -/
structure ParamUse (F R : Type) where
  estimator : QuadEstimator F R
  rc : Rc F
  command : CommandManager F
  sender : TelemetrySender
  mixer : MatrixMixer F R
  nowUs : Nat

section Laws

variable [FlightFloat F] [FlightFloat R] [FloatCast F R] [Svd R]

/-- No computation with the parameters stops, and each has the result of the firmware's. -/
structure WordParams.StaysInRange (table : WordParams F) (use : ParamUse F R) : Prop where
  estimator : use.estimator.updateParamsExact table.params =
    some (use.estimator.updateParams table.params)
  health : use.rc.checkRcHealthExact use.nowUs table.params =
    some (use.rc.checkRcHealth use.nowUs table.params)
  sticks : ∀ stick, (use.rc.init table.params).processedStickExact stick =
    some ((use.rc.init table.params).processedStick stick)
  switches : ∀ switch, (use.rc.init table.params).processedSwitchExact switch =
    some ((use.rc.init table.params).processedSwitch switch)
  offboard : use.command.updateOffboardTimeoutExact use.nowUs table.params =
    some (use.command.updateOffboardTimeout use.nowUs table.params)
  lag : ∀ stick, saturatingAddU32 (use.command.lastStickOverrideTime stick)
    (CommandManager.overrideLagTimeMs table.params) < wordSize
  rates : ∀ stream : NamedTelemetryStream, telemetryRateParamExact table.params stream.rateParam =
    some (telemetryRateParam table.params stream.rateParam)
  streams : ∀ (stream : NamedTelemetryStream) (lastUs : Nat),
    let rateHz := telemetryRateParam table.params stream.rateParam
    streamDueExact use.nowUs lastUs rateHz = some (streamDue use.nowUs lastUs rateHz) ∧
      streamDueDeadlineUsExact use.nowUs lastUs rateHz =
        some (streamDueDeadlineUs use.nowUs lastUs rateHz) ∧
      fixedRateDueExact use.nowUs lastUs rateHz = some (fixedRateDue use.nowUs lastUs rateHz) ∧
      fixedRateDueDeadlineUsExact use.nowUs lastUs rateHz =
        some (fixedRateDueDeadlineUs use.nowUs lastUs rateHz)
  rawOutput : use.sender.outputRawDueByCountExact = some use.sender.outputRawDueByCount
  cells : ∀ row col, cellParamExact (.PARAM_PRIMARY_MIXER_CELL 0 0) row col =
      some (.PARAM_PRIMARY_MIXER_CELL row col) ∧
    cellParamExact (.PARAM_SECONDARY_MIXER_CELL 0 0) row col =
      some (.PARAM_SECONDARY_MIXER_CELL row col)
  mixer : use.mixer.refreshExact table.params = some (use.mixer.refresh table.params)

omit [FlightFloat F] [FlightFloat R] [Svd R] in
/-- The initialization time stays in range if and only if it is not negative. -/
theorem QuadEstimator.updateParamsExact_iff (estimator : QuadEstimator F R) (table : WordParams F) :
    estimator.updateParamsExact table.params = some (estimator.updateParams table.params) ↔
      0 ≤ table.params.intOr .PARAM_INIT_TIME 0 := by
  have word := table.words .PARAM_INIT_TIME
  unfold updateParamsExact updateParams Params.intOr
  cases value : table.params.getById .PARAM_INIT_TIME with
  | int time =>
    obtain ⟨low, high⟩ := word time value
    dsimp only
    by_cases ahead : 0 ≤ time
    · have product : (time * 1000 % longWordSize).toNat = time.toNat * 1000 := by
        have scaled := asU64_of_nonneg (show 0 ≤ time * 1000 by omega) (by omega)
        rw [asU64] at scaled
        omega
      rw [asU64_of_nonneg ahead (by omega), exactU64_eq_some (by omega), product]
      exact iff_of_true rfl ahead
    · -- A negative time is cast to a number whose product with a thousand is out of range.
      have large := asU64_of_neg low (Int.not_le.mp ahead)
      rw [exactU64_eq_none (by omega)]
      exact iff_of_false nofun ahead
  | _ => exact iff_of_true rfl (Int.le_refl 0)

namespace Rc

/-- A channel below the channel count is stored. -/
theorem chanExact_eq {rc : RcStruct F} {index : Nat} (below : index < rc.numChannels) :
    chanExact rc index = some (rc.chanAt index) := by
  have stored := Nat.lt_of_lt_of_le below rc.withinChannels
  rw [chanExact, dif_pos stored, RcStruct.chanAt, dif_pos stored]

/-- Channels below the channel count are all stored. -/
theorem channelsWithinExact_eq {rc : RcStruct F} {indices : List Nat}
    (below : ∀ index ∈ indices, index < rc.numChannels) :
    channelsWithinExact rc indices =
      some (indices.all fun index => !outOfBounds (rc.chanAt index)) := by
  induction indices with
  | nil => rfl
  | cons index rest ih =>
    have first := chanExact_eq (below index List.mem_cons_self)
    have others := ih fun other member => below other (List.mem_cons_of_mem _ member)
    rw [channelsWithinExact, first, List.all_cons]
    show (if outOfBounds (rc.chanAt index) = true then some false
      else channelsWithinExact rc rest) = _
    -- The first value out of bounds ends the reading.
    cases outOfBounds (rc.chanAt index) with
    | true => rfl
    | false => exact others

/-- Checking the health of the link reads stored channels only, whatever number of them the
parameters ask for. -/
theorem checkRcHealthExact_eq (rc : Rc F) (nowUs : Nat) (params : Params F) :
    rc.checkRcHealthExact nowUs params = some (rc.checkRcHealth nowUs params) := by
  unfold checkRcHealthExact checkRcHealth
  dsimp only
  split
  · rfl
  · split
    · rfl
    · split
      · rfl
      · rename_i enough
        -- As many channels as are asked for have been received.
        apply channelsWithinExact_eq
        intro index member
        have listed := List.mem_range.mp member
        omega

omit [FlightFloat F] in
/-- A channel is skipped exactly when it has not been received. -/
theorem skips_iff (rc : RcStruct F) {channel : Int} (high : channel < 2147483648) :
    (channel < 0 ∨ rc.numChannels ≤ asU32 channel) ↔ rc.hasChannel channel = false := by
  simp only [RcStruct.hasChannel, asU32, wordSize, Nat.cast_ofNat, Bool.and_eq_false_iff,
    decide_eq_false_iff_not]
  omega

/-- The value of a received channel is stored. -/
theorem chanExact_of_hasChannel {rc : RcStruct F} {channel : Int} (high : channel < 2147483648)
    (has : rc.hasChannel channel = true) :
    chanExact rc (asU32 channel) = some (rc.chanAt channel.toNat) := by
  simp only [RcStruct.hasChannel, Bool.and_eq_true, decide_eq_true_eq] at has
  -- A received channel is not negative, so that the cast changes nothing.
  have cast : asU32 channel = channel.toNat := by
    rw [asU32]
    exact congrArg Int.toNat (Int.emod_eq_of_lt has.1 (show channel < 4294967296 by omega))
  rw [cast, chanExact_eq has.2]

/-- A stick is read from a stored channel, whichever channel the parameters map it to. -/
theorem processedStickExact_eq (rc : Rc F) {stick : Stick}
    (high : (rc.sticks stick).channel < 2147483648) :
    rc.processedStickExact stick = some (rc.processedStick stick) := by
  have skips := skips_iff rc.rc high
  -- Both skip a channel that has not been received.
  unfold processedStickExact processedStick
  dsimp only
  cases has : rc.rc.hasChannel (rc.sticks stick).channel with
  | false =>
    rw [if_pos (skips.mpr has)]
    rfl
  | true =>
    rw [if_neg (by rw [skips, has]; nofun), chanExact_of_hasChannel high has]
    cases (rc.sticks stick).oneSided <;> rfl

/-- A switch is read from a stored channel, whichever channel the parameters map it to. -/
theorem processedSwitchExact_eq (rc : Rc F) {switch : Switch}
    (high : (rc.switches switch).channel < 2147483648) :
    rc.processedSwitchExact switch = some (rc.processedSwitch switch) := by
  have skips := skips_iff rc.rc high
  -- An unmapped switch reads no channel at all.
  unfold processedSwitchExact processedSwitch
  dsimp only
  cases (rc.switches switch).mapped with
  | false => rfl
  | true =>
    cases has : rc.rc.hasChannel (rc.switches switch).channel with
    | false =>
      rw [if_pos (skips.mpr has)]
      rfl
    | true =>
      rw [if_pos rfl, if_neg (by rw [skips, has]; nofun), chanExact_of_hasChannel high has]
      dsimp only [Option.bind_eq_bind, Option.bind_some, Bool.and_self, ↓reduceIte]
      split <;> rfl

omit [FlightFloat F] in
/-- The parameters map sticks and switches to words. -/
theorem channels_init (rc : Rc F) (table : WordParams F) :
    (∀ stick, ((rc.init table.params).sticks stick).channel < 2147483648) ∧
      ∀ switch, ((rc.init table.params).switches switch).channel < 2147483648 := by
  refine ⟨fun stick => ?_, fun switch => table.intOr_lt _ (by decide)⟩
  cases stick <;> exact table.intOr_lt _ (by decide)

end Rc

omit [FlightFloat R] [FloatCast F R] [Svd R] [FlightFloat F] in
/-- The deadline of an offboard command stays in range if and only if it does as a number. -/
theorem CommandManager.updateOffboardTimeoutExact_iff (manager : CommandManager F) (nowUs : Nat)
    (params : Params F) :
    manager.updateOffboardTimeoutExact nowUs params =
        some (manager.updateOffboardTimeout nowUs params) ↔
      manager.lastOffboardCommandUs + asU32 (params.intOr .PARAM_OFFBOARD_TIMEOUT 100) * 1000 <
        longWordSize := by
  have timeout : asU32 (params.intOr .PARAM_OFFBOARD_TIMEOUT 100) < 4294967296 := by
    have bound := Int.emod_lt_of_pos (params.intOr .PARAM_OFFBOARD_TIMEOUT 100)
      (show (0 : Int) < 4294967296 by decide)
    have cast : asU32 (params.intOr .PARAM_OFFBOARD_TIMEOUT 100) =
        (params.intOr .PARAM_OFFBOARD_TIMEOUT 100 % 4294967296).toNat := rfl
    omega
  unfold updateOffboardTimeoutExact updateOffboardTimeout
  dsimp only
  generalize asU32 (params.intOr .PARAM_OFFBOARD_TIMEOUT 100) = timeoutMs at timeout
  -- The product of a word and a thousand is far below the limit, and the sum decides.
  rw [exactU64_eq_some (show timeoutMs * 1000 < 18446744073709551616 by omega)]
  show ((exactU64 (manager.lastOffboardCommandUs + timeoutMs * 1000)).bind fun deadlineUs =>
    if nowUs ≤ deadlineUs then some manager
    else some { manager with offboardCommand := deactivate manager.offboardCommand }) = _ ↔ _
  by_cases fits : manager.lastOffboardCommandUs + timeoutMs * 1000 < longWordSize
  · rw [exactU64_eq_some fits]
    refine iff_of_true ?_ fits
    show (if nowUs ≤ manager.lastOffboardCommandUs + timeoutMs * 1000 then some manager
      else some { manager with offboardCommand := deactivate manager.offboardCommand }) = _
    split <;> rfl
  · rw [exactU64_eq_none fits]
    exact iff_of_false nofun fits

omit [FlightFloat R] [FloatCast F R] [Svd R] [FlightFloat F] in
/-- The rate that a parameter asks for fits into its type, and has a period. -/
theorem telemetryRateParamExact_eq (params : Params F) (id : ParamId) :
    telemetryRateParamExact params id = some (telemetryRateParam params id) ∧
      telemetryRateParam params id ≤ 65535 := by
  unfold telemetryRateParamExact telemetryRateParam
  cases params.getById id with
  | int value =>
    dsimp only
    split
    · exact ⟨rfl, Nat.le_refl 65535⟩
    · rename_i asked
      -- The rate is capped before it is cast, and is not negative.
      have capped : min value MAX_TELEMETRY_RATE_HZ ≤ 2000 := Int.min_le_right _ _
      have ahead : 0 ≤ min value MAX_TELEMETRY_RATE_HZ := by
        simp only [MAX_TELEMETRY_RATE_HZ]
        omega
      have cast : asU16 (min value MAX_TELEMETRY_RATE_HZ) =
          (min value MAX_TELEMETRY_RATE_HZ).toNat :=
        congrArg Int.toNat (Int.emod_eq_of_lt ahead (by omega))
      rw [cast]
      exact ⟨if_pos (by omega), by omega⟩
  | _ => exact ⟨rfl, Nat.le_refl 65535⟩

section Streams

variable {rateHz : Nat} (bound : rateHz ≤ 65535)

include bound

omit [FlightFloat R] [FloatCast F R] [Svd R] [FlightFloat F] in
/-- A stream with a rate has a period. -/
theorem period_pos (asked : rateHz ≠ 0) : 1000000 / rateHz ≠ 0 := by
  have period := Nat.div_pos (show rateHz ≤ 1000000 by omega) (Nat.pos_of_ne_zero asked)
  omega

/-- Asking whether a sampled stream is due divides by no zero. -/
theorem streamDueExact_eq (nowUs lastUs : Nat) :
    streamDueExact nowUs lastUs rateHz = some (streamDue nowUs lastUs rateHz) := by
  unfold streamDueExact streamDue
  split
  · rfl
  · split
    · rfl
    · rename_i asked
      rw [exactDiv_eq_some asked]
      dsimp only [Option.bind_eq_bind, Option.bind_some]
      split
      · rfl
      · split
        · -- A rate that fits into its type has a period of a microsecond at least.
          rw [exactDiv_eq_some (period_pos bound asked)]
          rfl
        · rfl

omit bound

/-- Neither does asking for its deadline. -/
theorem streamDueDeadlineUsExact_eq (nowUs lastUs rateHz : Nat) :
    streamDueDeadlineUsExact nowUs lastUs rateHz =
      some (streamDueDeadlineUs nowUs lastUs rateHz) := by
  unfold streamDueDeadlineUsExact streamDueDeadlineUs
  -- The division is reached only with a rate that is not zero.
  split
  · rfl
  · split
    · rfl
    · rename_i asked
      split
      · rfl
      · rw [exactDiv_eq_some asked]
        dsimp only [Option.bind_eq_bind, Option.bind_some]
        split <;> rfl

/-- Neither does asking whether a fixed-rate stream is due. -/
theorem fixedRateDueExact_eq (nowUs lastUs rateHz : Nat) :
    fixedRateDueExact nowUs lastUs rateHz = some (fixedRateDue nowUs lastUs rateHz) := by
  unfold fixedRateDueExact fixedRateDue
  -- The division is reached only with a rate that is not zero.
  split
  · rfl
  · split
    · rfl
    · rename_i asked
      rw [exactDiv_eq_some asked]
      rfl

/-- Neither does asking for the deadline of one. -/
theorem fixedRateDueDeadlineUsExact_eq (nowUs lastUs rateHz : Nat) :
    fixedRateDueDeadlineUsExact nowUs lastUs rateHz =
      some (fixedRateDueDeadlineUs nowUs lastUs rateHz) := by
  unfold fixedRateDueDeadlineUsExact fixedRateDueDeadlineUs
  -- The division is reached only with a rate that is not zero.
  split
  · rfl
  · split
    · rfl
    · rename_i asked
      rw [exactDiv_eq_some asked]
      dsimp only [Option.bind_eq_bind, Option.bind_some]
      split <;> rfl

end Streams

/-- The share of the inertial samples is taken only if there is one. -/
theorem outputRawDueByCountExact_eq (sender : TelemetrySender) :
    sender.outputRawDueByCountExact = some sender.outputRawDueByCount := by
  unfold TelemetrySender.outputRawDueByCountExact TelemetrySender.outputRawDueByCount
  split
  · rename_i unshared
    simp [unshared]
  · rename_i shared
    -- The source divides behind the same test.
    rw [exactMod_eq_some shared]
    simp [shared]

/-- The cells of a matrix follow each other column by column. -/
theorem cellParamExact_eq (row col : Fin NUM_MIXER_OUTPUTS) :
    cellParamExact (.PARAM_PRIMARY_MIXER_CELL 0 0) row col =
        some (.PARAM_PRIMARY_MIXER_CELL row col) ∧
      cellParamExact (.PARAM_SECONDARY_MIXER_CELL 0 0) row col =
        some (.PARAM_SECONDARY_MIXER_CELL row col) := by
  revert row col
  decide +kernel

omit [FlightFloat F] [Svd R] in
/-- The counts of a mixer's runtime parameters stay in range. -/
theorem MatrixMixer.refreshRuntimeParamsExact_eq (mixer : MatrixMixer F R) (table : WordParams F) :
    mixer.refreshRuntimeParamsExact table.params =
      some (mixer.refreshRuntimeParams table.params) := by
  -- A parameter is a 32-bit word, so both counts fit after they are clamped at zero.
  have word : mixerParamInt table.params .PARAM_NUM_MOTORS < 2147483648 :=
    table.intOr_lt _ (by decide)
  have motors : exactU32 (max (mixerParamInt table.params .PARAM_NUM_MOTORS) 0).toNat =
      some (mixerParamInt table.params .PARAM_NUM_MOTORS).toNat := by
    rw [exactU32_eq_some (by omega)]
    exact congrArg some (by omega)
  have axis : exactU32 (max 0 (min (mixerParamInt table.params .PARAM_RC_F_AXIS) 2)).toNat =
      some (min (mixerParamInt table.params .PARAM_RC_F_AXIS) 2).toNat := by
    rw [exactU32_eq_some (by omega)]
    exact congrArg some (by omega)
  unfold refreshRuntimeParamsExact
  rw [motors, axis]
  rfl

/-- Whatever requests the companion has made, every computation with the parameters stays in range
if and only if the initialization time is not negative and the deadline of the last offboard command
is in range. -/
theorem WordParams.staysInRange_iff [ReflectionFormat F] (start : WordParams F)
    (requests : List (WordRequest F)) (use : ParamUse F R) :
    (start.requested requests).StaysInRange use ↔
      0 ≤ (start.requested requests).params.intOr .PARAM_INIT_TIME 0 ∧
        use.command.lastOffboardCommandUs +
          asU32 ((start.requested requests).params.intOr .PARAM_OFFBOARD_TIMEOUT 100) * 1000 <
            longWordSize := by
  -- Requests leave a table of words.
  generalize start.requested requests = table
  have channels := use.rc.channels_init table
  constructor
  · intro stays
    exact ⟨(use.estimator.updateParamsExact_iff table).mp stays.estimator,
      (use.command.updateOffboardTimeoutExact_iff use.nowUs table.params).mp stays.offboard⟩
  · rintro ⟨ahead, fits⟩
    exact {
      estimator := (use.estimator.updateParamsExact_iff table).mpr ahead
      health := use.rc.checkRcHealthExact_eq use.nowUs table.params
      sticks := fun stick => (use.rc.init table.params).processedStickExact_eq (channels.1 stick)
      switches := fun switch =>
        (use.rc.init table.params).processedSwitchExact_eq (channels.2 switch)
      offboard := (use.command.updateOffboardTimeoutExact_iff use.nowUs table.params).mpr fits
      lag := fun stick => Nat.lt_of_le_of_lt (Nat.min_le_right _ _) (by decide)
      rates := fun stream => (telemetryRateParamExact_eq table.params stream.rateParam).1
      streams := fun stream lastUs =>
        ⟨streamDueExact_eq (telemetryRateParamExact_eq table.params stream.rateParam).2 _ _,
          streamDueDeadlineUsExact_eq _ _ _, fixedRateDueExact_eq _ _ _,
          fixedRateDueDeadlineUsExact_eq _ _ _⟩
      rawOutput := outputRawDueByCountExact_eq use.sender
      cells := cellParamExact_eq
      mixer := MatrixMixer.refreshRuntimeParamsExact_eq _ table }

end Laws

/-- A request for an initialization time before the start. -/
def negativeInitTime : WordRequest ℚ where
  request := { value := .int (-1), paramIdBytes := strToFixedBytes "FILT_INIT_T" }
  word := by
    rintro word same
    cases same
    decide

/-- What computes with the parameters of a vehicle that has just started. -/
def startingUse : ParamUse ℚ ℚ where
  estimator := .new 1 0
  rc := .new
  command := .new
  sender := .new 0
  mixer := .new Params.new
  nowUs := 0

/-- The request is accepted, and the time then leaves its range. -/
theorem negativeInitTime_leaves_range :
    ¬ (WordParams.new.requested [negativeInitTime]).StaysInRange startingUse := by
  have accepted : (WordParams.new.requested [negativeInitTime]).params.intOr .PARAM_INIT_TIME 0 =
      -1 := by
    decide +kernel
  intro stays
  -- A use of the table that stays in range takes no negative initial time.
  have ahead := (QuadEstimator.updateParamsExact_iff _ _).mp stays.estimator
  rw [accepted] at ahead
  exact absurd ahead (by decide)

end Veloxity
