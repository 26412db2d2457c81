import Mathlib.Algebra.BigOperators.Fin
import Mathlib.Algebra.Order.Field.Rat
import Mathlib.Tactic.FinCases
import Mathlib.Tactic.Linarith
import Mathlib.Tactic.Positivity
import Veloxity.Mixer.Matrix

/-! What a mixing pass computes: the rows of the selected matrix, with the motors in range. -/

namespace Veloxity

variable {F R : Type}

namespace MatrixMixer

section Rows

variable [FlightFloat R]

/-- The matrix a mixing pass takes its rows from under the given overrides. -/
def selectPrimaryOrSecondary (mixer : MatrixMixer F R) (rcOverride : BitVec 16) :
    MixerMatrix R :=
  let selected := mixer.secondaryMixer
  let selected :=
    if rcOverride &&& ATTITUDE_OVERRIDDEN != 0 then
      Function.update (Function.update (Function.update selected 3 (mixer.primaryMixer 3))
        4 (mixer.primaryMixer 4)) 5 (mixer.primaryMixer 5)
    else selected
  if rcOverride &&& T_OVERRIDDEN != 0 then
    Function.update (Function.update (Function.update selected 0 (mixer.primaryMixer 0))
      1 (mixer.primaryMixer 1)) 2 (mixer.primaryMixer 2)
  else selected

/-- Add one control input to every owned output, unless the input is zero. -/
def addSelectedRow (mixer : MatrixMixer F R) (commands : ControllerOutput R)
    (rcOverride : BitVec 16) (outputs : MixerOutputs R) (input : Fin NUM_MIXER_OUTPUTS) :
    MixerOutputs R :=
  if FlightFloat.eq (commands.u input) FlightFloat.zero then outputs
  else fun output =>
    if mixer.outputTypes output = .aux then outputs output
    else outputs output + commands.u input * mixer.selectedMixerRow input rcOverride output

/-- All owned outputs, summed over the control inputs at once. -/
def mixOutputsWithSelectedRows (mixer : MatrixMixer F R) (commands : ControllerOutput R)
    (rcOverride : BitVec 16) (outputs : MixerOutputs R) : MixerOutputs R :=
  (List.finRange NUM_MIXER_OUTPUTS).foldl (mixer.addSelectedRow commands rcOverride) outputs

omit [FlightFloat R] in
/-- The selected matrix has the selected rows. -/
theorem selectPrimaryOrSecondary_row (mixer : MatrixMixer F R) (rcOverride : BitVec 16)
    (input : Fin NUM_MIXER_OUTPUTS) :
    mixer.selectPrimaryOrSecondary rcOverride input = mixer.selectedMixerRow input rcOverride := by
  -- Each group of rows is selected by its own group of overrides.
  cases attitude : (rcOverride &&& ATTITUDE_OVERRIDDEN != 0) <;>
    cases throttle : (rcOverride &&& T_OVERRIDDEN != 0) <;>
    simp only [selectPrimaryOrSecondary, selectedMixerRow, usePrimaryRowForOverride, attitude,
      throttle, Bool.false_eq_true, if_true, if_false] <;>
    fin_cases input <;> rfl

/-- Summing all outputs at once sums every owned output by itself. -/
theorem mixOutputsWithSelectedRows_owned (mixer : MatrixMixer F R)
    (commands : ControllerOutput R) (rcOverride : BitVec 16) {output : Fin NUM_MIXER_OUTPUTS}
    (owned : mixer.outputTypes output ≠ .aux) :
    mixer.mixOutputsWithSelectedRows commands rcOverride (fun _ => FlightFloat.zero) output =
      mixer.mixSingleOutputWithSelectedRows output commands rcOverride := by
  -- Reading one output commutes with every step of the loop.
  refine (List.foldl_hom (fun outputs : MixerOutputs R => outputs output) ?_).symm
  intro outputs input
  simp only [addSelectedRow]
  split
  · rfl
  · simp only [if_neg owned]

/-- Summing all outputs at once leaves those that are not owned. -/
theorem mixOutputsWithSelectedRows_unowned (mixer : MatrixMixer F R)
    (commands : ControllerOutput R) (rcOverride : BitVec 16) {output : Fin NUM_MIXER_OUTPUTS}
    (unowned : mixer.outputTypes output = .aux) (outputs : MixerOutputs R) :
    mixer.mixOutputsWithSelectedRows commands rcOverride outputs output = outputs output := by
  rw [mixOutputsWithSelectedRows]
  -- No step of the loop changes an output without an owner.
  induction List.finRange NUM_MIXER_OUTPUTS generalizing outputs with
  | nil => rfl
  | cons input rest ih =>
    rw [List.foldl_cons, ih]
    simp only [addSelectedRow]
    split
    · rfl
    · simp only [if_pos unowned]

variable [FloatCast F R]

/-- Without motor parameters the outputs of a mixing pass are summed all at once. -/
theorem rawOutputs_eq_mixOutputs (mixer : MatrixMixer F R) (commands : ControllerOutput R)
    (ctx : MixerCtx F R) (plain : mixer.params.useMotorParameters = false) :
    mixer.rawOutputs commands ctx =
      mixer.mixOutputsWithSelectedRows commands ctx.rcOverride fun _ => FlightFloat.zero := by
  funext output
  rw [rawOutputs, plain]
  -- The two ways of summing agree on owned outputs, and an unowned one gets its default.
  cases owned : mixer.outputTypes output with
  | aux =>
    exact (mixer.mixOutputsWithSelectedRows_unowned commands ctx.rcOverride owned
      fun _ => FlightFloat.zero).symm
  | motor =>
    exact (mixer.mixOutputsWithSelectedRows_owned commands ctx.rcOverride (by simp [owned])).symm
  | servo =>
    exact (mixer.mixOutputsWithSelectedRows_owned commands ctx.rcOverride (by simp [owned])).symm
  | gpio =>
    exact (mixer.mixOutputsWithSelectedRows_owned commands ctx.rcOverride (by simp [owned])).symm

end Rows

section Exact

/-- A loop that keeps the largest marked size ends at the start or at a larger marked size, and
above all of them. -/
theorem foldl_largest {ι : Type} (marked : ι → Prop) [DecidablePred marked] (size : ι → ℚ)
    (items : List ι) (start : ℚ) :
    ∃ largest, items.foldl (fun largest item =>
        if marked item ∧ largest < size item then size item else largest) start = largest ∧
      start ≤ largest ∧ (∀ item ∈ items, marked item → size item ≤ largest) ∧
      (largest = start ∨ ∃ item ∈ items, marked item ∧ largest = size item) := by
  induction items generalizing start with
  | nil => exact ⟨start, rfl, le_refl start, nofun, .inl rfl⟩
  | cons item rest ih =>
    rw [List.foldl_cons]
    -- The rest of the loop starts from the size of the first item, if that is larger.
    split
    · rename_i larger
      obtain ⟨largest, same, above, bound, attained⟩ := ih (size item)
      refine ⟨largest, same, by linarith [larger.2], ?_, ?_⟩
      · intro other member isMarked
        rcases List.mem_cons.mp member with rfl | later
        · exact above
        · exact bound other later isMarked
      · rcases attained with kept | ⟨other, later, isMarked, reached⟩
        · exact .inr ⟨item, List.mem_cons_self, larger.1, kept⟩
        · exact .inr ⟨other, List.mem_cons_of_mem _ later, isMarked, reached⟩
    · rename_i smaller
      obtain ⟨largest, same, above, bound, attained⟩ := ih start
      refine ⟨largest, same, above, ?_, ?_⟩
      · intro other member isMarked
        rcases List.mem_cons.mp member with rfl | later
        · have below : size other ≤ start := not_lt.mp fun larger => smaller ⟨isMarked, larger⟩
          exact le_trans below above
        · exact bound other later isMarked
      · rcases attained with kept | ⟨other, later, isMarked, reached⟩
        · exact .inl kept
        · exact .inr ⟨other, List.mem_cons_of_mem _ later, isMarked, reached⟩

variable [FloatCast F ℚ]

omit [FloatCast F ℚ] in
/-- One output of an exact mixer is the sum of the products with the selected matrix. -/
theorem mixSingleOutputWithSelectedRows_eq_sum (mixer : MatrixMixer F ℚ)
    (commands : ControllerOutput ℚ) (rcOverride : BitVec 16) (output : Fin NUM_MIXER_OUTPUTS) :
    mixer.mixSingleOutputWithSelectedRows output commands rcOverride =
      ∑ input, commands.u input * mixer.selectPrimaryOrSecondary rcOverride input output := by
  have step : (fun (value : ℚ) (input : Fin NUM_MIXER_OUTPUTS) =>
      if FlightFloat.eq (commands.u input) FlightFloat.zero then value
      else FlightFloat.toAdd.add value (FlightFloat.toMul.mul (commands.u input)
        (mixer.selectedMixerRow input rcOverride output))) =
      fun value input =>
        value + commands.u input * mixer.selectPrimaryOrSecondary rcOverride input output := by
    funext value input
    have isZero : FlightFloat.eq (commands.u input) FlightFloat.zero =
        decide (commands.u input = 0) := rfl
    rw [isZero, selectPrimaryOrSecondary_row]
    -- A command of zero adds nothing.
    by_cases zero : commands.u input = 0
    · simp [zero]
    · simp only [zero, decide_false, Bool.false_eq_true, if_false]
      rfl
  rw [Fin.sum_univ_def, List.sum_eq_foldl, List.foldl_map, ← step]
  rfl

/-- Servos and digital outputs get the sums, motors the sums scaled by one factor that brings them
into range, and all other outputs nothing. -/
structure MixesExactly (mixer : MatrixMixer F ℚ) (controls : ControllerOutput ℚ)
    (ctx : MixerCtx F ℚ) (sum : MixerOutputs ℚ) (factor : ℚ) : Prop where
  positive : 0 < factor
  atMostOne : factor ≤ 1
  commands : (mixer.mix controls ctx).2.commands = List.ofFn fun output =>
    match mixer.outputTypes output with
    | .servo | .gpio => sum output
    | .motor => sum output * factor
    | .aux => 0
  inRange : ∀ output, mixer.outputTypes output = .motor → |sum output * factor| ≤ 1
  unscaled : (∀ output, mixer.outputTypes output = .motor → |sum output| ≤ 1) → factor = 1

omit [FloatCast F ℚ] in
/-- The exact absolute value is the usual one. -/
theorem abs_eq (value : ℚ) : FlightFloat.abs value = |value| := by
  have unfolded : FlightFloat.abs value = if value < 0 then -value else value := rfl
  -- The source flips the sign of negative values.
  rw [unfolded]
  split
  · rename_i negative
    exact (abs_of_neg negative).symm
  · rename_i positive
    exact (abs_of_nonneg (not_lt.mp positive)).symm

/-- The largest magnitude a mixing pass scales its motors by. -/
def maxOutput (mixer : MatrixMixer F ℚ) (outputs : MixerOutputs ℚ) : ℚ :=
  (List.finRange NUM_MIXER_OUTPUTS).foldl (fun largest output =>
    if mixer.outputTypes output = .motor ∧
        FlightFloat.lt largest (FlightFloat.abs (outputs output)) then
      FlightFloat.abs (outputs output)
    else largest) FlightFloat.one

omit [FloatCast F ℚ] in
/-- The largest magnitude is at least one and that of every motor, and none larger. -/
theorem maxOutput_spec (mixer : MatrixMixer F ℚ) (outputs : MixerOutputs ℚ) :
    1 ≤ mixer.maxOutput outputs ∧
      (∀ output, mixer.outputTypes output = .motor → |outputs output| ≤ mixer.maxOutput outputs) ∧
      (mixer.maxOutput outputs = 1 ∨
        ∃ output, mixer.outputTypes output = .motor ∧
          mixer.maxOutput outputs = |outputs output|) := by
  obtain ⟨largest, same, above, bound, attained⟩ := foldl_largest
    (fun output => mixer.outputTypes output = .motor) (fun output => |outputs output|)
    (List.finRange NUM_MIXER_OUTPUTS) 1
  -- The loop of the source keeps the largest magnitude it has met.
  have loop : mixer.maxOutput outputs = largest := by
    rw [← same, maxOutput]
    congr 1
    funext largest output
    simp only [abs_eq]
    have less : FlightFloat.lt largest |outputs output| = decide (largest < |outputs output|) := rfl
    simp only [less, decide_eq_true_eq]
  rw [loop]
  refine ⟨above, fun output motor => bound output (List.mem_finRange output) motor, ?_⟩
  rcases attained with one | ⟨output, _, motor, reached⟩
  · exact .inl one
  · exact .inr ⟨output, motor, reached⟩

/-- A healthy exact mixer divides its motors by the largest magnitude and leaves all else. -/
theorem mix_commands {mixer : MatrixMixer F ℚ} (healthy : mixer.status = .healthy)
    (controls : ControllerOutput ℚ) (ctx : MixerCtx F ℚ) :
    (mixer.mix controls ctx).2.commands = List.ofFn fun output =>
      let outputs := mixer.rawOutputs (mixer.limitedCommands controls ctx.params) ctx
      if mixer.outputTypes output = .motor then outputs output * (mixer.maxOutput outputs)⁻¹
      else outputs output := by
  have flown : mixer.status ≠ .invalidMixer := by simp [healthy]
  let outputs := mixer.rawOutputs (mixer.limitedCommands controls ctx.params) ctx
  let scaleFactor : ℚ :=
    if FlightFloat.lt FlightFloat.one (mixer.maxOutput outputs) then
      FlightFloat.toDiv.div FlightFloat.one (mixer.maxOutput outputs)
    else FlightFloat.one
  have unfolded : (mixer.mix controls ctx).2.commands = List.ofFn fun output =>
      if mixer.outputTypes output = .motor then
        FlightFloat.toMul.mul (outputs output) scaleFactor
      else outputs output := by
    rw [mix, if_neg flown]
    rfl
  -- Dividing by the largest magnitude is dividing by one where none is larger.
  have inverse : scaleFactor = (mixer.maxOutput outputs)⁻¹ := by
    have one : (FlightFloat.one : ℚ) = 1 := rfl
    have larger : FlightFloat.lt FlightFloat.one (mixer.maxOutput outputs) =
        decide (1 < mixer.maxOutput outputs) := rfl
    simp only [scaleFactor, larger, decide_eq_true_eq]
    split
    · exact one_div (mixer.maxOutput outputs)
    · rename_i within
      have exact : mixer.maxOutput outputs = 1 :=
        le_antisymm (not_lt.mp within) (mixer.maxOutput_spec outputs).1
      rw [exact, inv_one]
      exact one
  rw [unfolded, inverse]
  rfl

/-- Before they are scaled, the owned outputs are the sums and all others zero. -/
theorem rawOutputs_eq_sum (mixer : MatrixMixer F ℚ) (commands : ControllerOutput ℚ)
    (ctx : MixerCtx F ℚ) (plain : mixer.params.useMotorParameters = false)
    (output : Fin NUM_MIXER_OUTPUTS) :
    mixer.rawOutputs commands ctx output =
      if mixer.outputTypes output = .aux then 0
      else ∑ input, commands.u input * mixer.selectPrimaryOrSecondary ctx.rcOverride input output
    := by
  -- Auxiliary outputs keep their default of zero.
  rw [mixer.rawOutputs_eq_mixOutputs commands ctx plain]
  split
  · rename_i unowned
    exact mixer.mixOutputsWithSelectedRows_unowned commands ctx.rcOverride unowned _
  · rename_i owned
    rw [mixOutputsWithSelectedRows_owned mixer commands ctx.rcOverride owned,
      mixSingleOutputWithSelectedRows_eq_sum]

/-- The motors of a healthy exact mixer are scaled by the inverse of the largest magnitude. -/
theorem mixesExactly (mixer : MatrixMixer F ℚ) (controls : ControllerOutput ℚ)
    (ctx : MixerCtx F ℚ) (healthy : mixer.status = .healthy)
    (plain : mixer.params.useMotorParameters = false) :
    mixer.MixesExactly controls ctx
      (fun output => ∑ input, (mixer.limitedCommands controls ctx.params).u input *
        mixer.selectPrimaryOrSecondary ctx.rcOverride input output)
      (mixer.maxOutput
        (mixer.rawOutputs (mixer.limitedCommands controls ctx.params) ctx))⁻¹ := by
  let outputs := mixer.rawOutputs (mixer.limitedCommands controls ctx.params) ctx
  have sums := mixer.rawOutputs_eq_sum (mixer.limitedCommands controls ctx.params) ctx plain
  obtain ⟨above, bound, attained⟩ := mixer.maxOutput_spec outputs
  have motorSum {output : Fin NUM_MIXER_OUTPUTS} (motor : mixer.outputTypes output = .motor) :
      outputs output = ∑ input, (mixer.limitedCommands controls ctx.params).u input *
        mixer.selectPrimaryOrSecondary ctx.rcOverride input output := by
    rw [← sums output |>.trans (if_neg (by simp [motor]))]
  refine
    { positive := inv_pos.mpr (by linarith)
      atMostOne := inv_le_one_of_one_le₀ above
      commands := ?_
      inRange := fun output motor => ?_
      unscaled := fun within => ?_ }
  · rw [mix_commands healthy]
    congr 1
    funext output
    simp only [sums]
    cases mixer.outputTypes output <;> simp
  · -- No motor exceeds the largest magnitude, so dividing by it leaves at most one.
    rw [← motorSum motor, abs_mul, abs_inv, abs_of_pos (by linarith : 0 < mixer.maxOutput outputs)]
    rw [← div_eq_mul_inv]
    exact div_le_one_of_le₀ (bound output motor) (by linarith)
  · -- The largest magnitude is one unless a motor exceeds one.
    rcases attained with one | ⟨output, motor, reached⟩
    · rw [one, inv_one]
    · rw [motorSum motor] at reached
      have one : mixer.maxOutput outputs = 1 :=
        le_antisymm (reached ▸ within output motor) above
      rw [one, inv_one]

/-- A mixing pass of a healthy exact mixer multiplies the limited control vector with the selected
matrix, whose rows are the primary ones where their group is overridden, and both ways of summing
agree on every owned output. -/
theorem mixing_law (mixer : MatrixMixer F ℚ) (controls : ControllerOutput ℚ) (ctx : MixerCtx F ℚ)
    (healthy : mixer.status = .healthy) (plain : mixer.params.useMotorParameters = false) :
    let u := mixer.limitedCommands controls ctx.params
    let m := mixer.selectPrimaryOrSecondary ctx.rcOverride
    (∃ factor, mixer.MixesExactly controls ctx (fun output => ∑ input, u.u input * m input output)
      factor) ∧
    (∀ input, m input =
      if (input.val ≤ 2 ∧ ctx.rcOverride &&& T_OVERRIDDEN ≠ 0) ∨
        (3 ≤ input.val ∧ input.val ≤ 5 ∧ ctx.rcOverride &&& ATTITUDE_OVERRIDDEN ≠ 0) then
        mixer.primaryMixer input
      else mixer.secondaryMixer input) ∧
    ∀ output, mixer.outputTypes output ≠ .aux →
      mixer.mixSingleOutputWithSelectedRows output u ctx.rcOverride =
        mixer.mixOutputsWithSelectedRows u ctx.rcOverride (fun _ => FlightFloat.zero) output := by
  refine ⟨⟨_, mixer.mixesExactly controls ctx healthy plain⟩, fun input => ?_, fun output owned =>
    (mixer.mixOutputsWithSelectedRows_owned _ _ owned).symm⟩
  · rw [selectPrimaryOrSecondary_row, selectedMixerRow, usePrimaryRowForOverride]
    -- The override bits are tested in the other order here.
    simp only [Bool.or_eq_true, Bool.and_eq_true, decide_eq_true_eq, bne_iff_ne, ne_eq, and_assoc]
    exact if_congr or_comm rfl rfl

end Exact

/-- A mixer of one motor and one servo, which both follow every input. -/
def twinMixer : MatrixMixer ℚ ℚ where
  params :=
    { idleThrottle := 0, numMotors := 1, fixedWing := false, useMotorParameters := false
      throttleAxis := 2 }
  status := .healthy
  outputTypes output := if output = 0 then .motor else if output = 1 then .servo else .aux
  defaultPwmRates _ := 50
  primaryMixer _ _ := 1
  secondaryMixer _ _ := 2

/-- Every control input asks for one. -/
def allOnes : ControllerOutput ℚ := { u := fun _ => 1 }

/-- No input is overridden. -/
def restingCtx : MixerCtx ℚ ℚ where
  state := StateManager.new
  params := Params.new
  rcOverride := 0
  airDensity := 1
  batteryVoltage := none

/-- Both outputs of the mixer follow the law. -/
theorem twinMixer_mixes :
    ∃ factor, twinMixer.MixesExactly allOnes restingCtx
      (fun output => ∑ input, (twinMixer.limitedCommands allOnes restingCtx.params).u input *
        twinMixer.selectPrimaryOrSecondary restingCtx.rcOverride input output) factor :=
  (mixing_law twinMixer allOnes restingCtx rfl rfl).1

end MatrixMixer

end Veloxity
