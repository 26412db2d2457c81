import Mathlib.Algebra.Order.Floor.Ring
import Mathlib.Tactic.Linarith
import Veloxity.Boards.ServoDriver
import Veloxity.Library.LastWrite
import Veloxity.Library.Run

/-! When the rates recorded for the servo outputs are those of their timers. -/

namespace Veloxity

open Library

/-- A recorded rate equals a frequency up to rounding to whole hertz. -/
def NearHz (rate : ExactFloat) (hz : Nat) : Prop :=
  match rate with
  | .number value => hz - 1 / 2 ≤ value ∧ value ≤ hz + 1 / 2
  | .nan => False

instance decidableNearHz : ∀ rate hz, Decidable (NearHz rate hz)
  | .number value, hz =>
    inferInstanceAs (Decidable ((hz : ℚ) - 1 / 2 ≤ value ∧ value ≤ (hz : ℚ) + 1 / 2))
  | .nan, _ => inferInstanceAs (Decidable False)

/-- Rate at which an accepted rate drives its output. -/
def effectiveRate (rate : ExactFloat) : ExactFloat :=
  if rate = .number 0 then .number STANDARD_PWM_DEFAULT_RATE_HZ else rate

/-- Protocol of an accepted rate. -/
def protocolOf (rate : ExactFloat) : PwmOutputProtocol :=
  if FlightFloat.le rate (.number 490) then .standardPwm else .dshot

/-- Whole hertz at which an accepted rate runs its timer. -/
def timerHz (rate : ExactFloat) : Nat :=
  (effectiveRate rate + ExactFloat.number (1 / 2)).castUnsigned wordSize

/-- A positive number of at most a few megahertz can be set on a timer. -/
theorem rateToHz_number {value : ℚ} (positive : 0 < value) (bounded : value ≤ 1200000) :
    rateToHz (.number value) =
      .ok ((ExactFloat.number value + ExactFloat.number (1 / 2)).castUnsigned wordSize) := by
  -- Neither the lower nor the upper bound of the timer is passed.
  have within : ¬ ((4294967296 : ℚ) - 1 < value) := by
    intro above
    linarith
  simp [rateToHz, FlightFloat.isFinite, FlightFloat.le, ExactFloat.compare, not_le.mpr positive,
    within]

/-- Accepted rates are numbers, up to 490 hertz or between 150 and 1200 kilohertz. -/
theorem accepted_number {rate : ExactFloat} {protocol : PwmOutputProtocol}
    (accepted : outputProtocolForRate rate = .ok protocol) :
    ∃ value, rate = .number value ∧
      (0 ≤ value ∧ value ≤ 490 ∧ protocol = .standardPwm ∨
        150000 ≤ value ∧ value ≤ 1200000 ∧ protocol = .dshot) := by
  cases rate with
  | nan => simp [outputProtocolForRate, FlightFloat.isFinite] at accepted
  | number value =>
    refine ⟨value, rfl, ?_⟩
    unfold outputProtocolForRate at accepted
    simp only [FlightFloat.isFinite, FlightFloat.lit, FlightFloat.le, ExactFloat.compare,
      ExactFloat.lt_number] at accepted
    by_cases negative : value < 0
    · simp [negative] at accepted
    · by_cases standard : value ≤ 490
      · simp only [negative, standard] at accepted
        cases accepted
        exact Or.inl ⟨not_lt.mp negative, standard, rfl⟩
      · by_cases digital : 150000 ≤ value ∧ value ≤ 1200000
        · simp only [negative, standard, digital] at accepted
          cases accepted
          exact Or.inr ⟨digital.1, digital.2, rfl⟩
        · -- Every other rate is refused.
          simp [negative, standard, digital] at accepted

/-- An accepted rate stands for its protocol and drives its output, and its timer can be set. -/
theorem rates_of_accepted {rate : ExactFloat} {protocol : PwmOutputProtocol}
    (accepted : outputProtocolForRate rate = .ok protocol) :
    protocol = protocolOf rate ∧ effectiveOutputRateHz rate = .ok (effectiveRate rate) ∧
      rateToHz (effectiveRate rate) = .ok (timerHz rate) := by
  obtain ⟨value, same, kind⟩ := accepted_number accepted
  subst same
  rcases kind with ⟨nonnegative, standard, named⟩ | ⟨least, most, named⟩
  · subst named
    refine ⟨by simp [protocolOf, FlightFloat.le, ExactFloat.compare, standard], ?_⟩
    by_cases zero : value = 0
    · -- Zero asks for the default of fifty hertz.
      subst zero
      refine ⟨?_, ?_⟩
      · rw [effectiveOutputRateHz, accepted]
        rfl
      · exact rateToHz_number (by decide) (by decide)
    · have other : effectiveRate (.number value) = .number value := by
        simp [effectiveRate, zero]
      refine ⟨?_, ?_⟩
      · rw [effectiveOutputRateHz, accepted, other]
        simp [FlightFloat.eq, FlightFloat.lit, ExactFloat.compare, zero]
      · rw [timerHz, other]
        exact rateToHz_number (lt_of_le_of_ne nonnegative (Ne.symm zero)) (by linarith)
  · -- A rate above that of standard pulses is a one-shot rate, and it is not zero.
    subst named
    have above : ¬ value ≤ 490 := by
      intro standard
      linarith
    have other : effectiveRate (.number value) = .number value := by
      have zero : value ≠ 0 := by
        intro zero
        linarith
      simp [effectiveRate, zero]
    refine ⟨by simp [protocolOf, FlightFloat.le, ExactFloat.compare, above], ?_, ?_⟩
    · rw [effectiveOutputRateHz, accepted, other]
    · rw [timerHz, other]
      exact rateToHz_number (by linarith) most

namespace ServoMonstrosity

variable {timers outputs : Nat}

/-- A rate is one the timer of the output can be driven at. -/
def accepts (driver : ServoMonstrosity timers outputs) (entry : Fin outputs × ExactFloat) : Bool :=
  match outputProtocolForRate entry.2 with
  | .error _ => false
  | .ok protocol => (driver.timerKinds (driver.chanList entry.1)).supports protocol

/-- Record one accepted rate. -/
def record (driver : ServoMonstrosity timers outputs) (entry : Fin outputs × ExactFloat) :
    ServoMonstrosity timers outputs :=
  { driver with
    outputRatesHz := Function.update driver.outputRatesHz entry.1 (effectiveRate entry.2)
    outputProtocols := Function.update driver.outputProtocols entry.1 (protocolOf entry.2) }

/-- The configuration that an accepted rate gives the timer of its output. -/
def configure (driver : ServoMonstrosity timers outputs) (timerConfigs : TimerConfigs timers)
    (entry : Fin outputs × ExactFloat) : TimerConfigs timers :=
  Function.update timerConfigs (driver.chanList entry.1)
    (some (protocolOf entry.2, timerHz entry.2))

section Recording

variable {driver : ServoMonstrosity timers outputs} {entry : Fin outputs × ExactFloat}
  {timerConfigs : TimerConfigs timers}

/-- An accepted rate is recorded and the rest follows. -/
theorem recordRates_accepted (accepted : driver.accepts entry = true)
    (rest : List (Fin outputs × ExactFloat)) :
    driver.recordRates timerConfigs (entry :: rest) =
      (driver.record entry).recordRates (driver.configure timerConfigs entry) rest := by
  obtain ⟨output, rate⟩ := entry
  unfold accepts at accepted
  cases protocol : outputProtocolForRate rate with
  | error reason => simp [protocol] at accepted
  | ok standsFor =>
    -- The protocol, the rate and the frequency are those of the accepted rate.
    obtain ⟨same, effective, whole⟩ := rates_of_accepted protocol
    simp only [protocol] at accepted
    rw [recordRates]
    simp only [protocol, effective, accepted, Bool.not_true, Bool.false_eq_true, ↓reduceIte, whole]
    subst same
    rfl

/-- A refused rate ends the call with the record as it is. -/
theorem recordRates_refused (timerConfigs : TimerConfigs timers)
    (refused : driver.accepts entry = false)
    (rest : List (Fin outputs × ExactFloat)) :
    ∃ reason, driver.recordRates timerConfigs (entry :: rest) = (driver, .error reason) := by
  obtain ⟨output, rate⟩ := entry
  unfold accepts at refused
  rw [recordRates]
  -- The rate is refused before anything is recorded, for having no protocol or for its timer.
  cases protocol : outputProtocolForRate rate with
  | error reason => exact ⟨.invalidRate, rfl⟩
  | ok standsFor =>
    obtain ⟨-, effective, -⟩ := rates_of_accepted protocol
    simp only [protocol] at refused
    simp only [effective, refused]
    exact ⟨.unsupportedProtocol, rfl⟩

end Recording

/-- Recording rates keeps everything but the records of the outputs. -/
theorem foldl_record (driver : ServoMonstrosity timers outputs)
    (entries : List (Fin outputs × ExactFloat)) :
    entries.foldl record driver =
      { driver with
        outputRatesHz := entries.foldl (fun held entry =>
          Function.update held entry.1 (effectiveRate entry.2)) driver.outputRatesHz
        outputProtocols := entries.foldl (fun held entry =>
          Function.update held entry.1 (protocolOf entry.2)) driver.outputProtocols } := by
  induction entries generalizing driver with
  | nil => rfl
  | cons entry rest ih =>
    -- The head is recorded first.
    rw [List.foldl_cons, ih (driver.record entry)]
    rfl

/-- Rates that are all accepted are all recorded. -/
theorem recordRates_all (driver : ServoMonstrosity timers outputs)
    (timerConfigs : TimerConfigs timers) {entries : List (Fin outputs × ExactFloat)}
    (accepted : entries.all driver.accepts = true) :
    driver.recordRates timerConfigs entries =
      (entries.foldl record driver, .ok (entries.foldl driver.configure timerConfigs)) := by
  -- Each accepted rate is recorded before the next one is looked at.
  induction entries generalizing driver timerConfigs with
  | nil => rfl
  | cons entry rest ih =>
    rw [List.all_cons, Bool.and_eq_true] at accepted
    rw [recordRates_accepted accepted.1]
    exact ih (driver.record entry) (driver.configure timerConfigs entry) accepted.2

/-- Otherwise the rates before the first refused one are recorded, and the call fails. -/
theorem recordRates_some_refused (driver : ServoMonstrosity timers outputs)
    (timerConfigs : TimerConfigs timers) {entries : List (Fin outputs × ExactFloat)}
    (refused : entries.all driver.accepts = false) :
    ∃ reason, driver.recordRates timerConfigs entries =
      ((entries.takeWhile driver.accepts).foldl record driver, .error reason) := by
  -- The induction is on the rates given, along with the records made before each.
  induction entries generalizing driver timerConfigs with
  | nil => cases refused
  | cons entry rest ih =>
    cases accepted : driver.accepts entry with
    | true =>
      rw [List.all_cons, accepted, Bool.true_and] at refused
      obtain ⟨reason, failed⟩ := ih (driver.record entry)
        (driver.configure timerConfigs entry) refused
      refine ⟨reason, ?_⟩
      rw [recordRates_accepted accepted, failed, List.takeWhile_cons_of_pos accepted]
      rfl
    | false =>
      obtain ⟨reason, failed⟩ := recordRates_refused timerConfigs accepted rest
      refine ⟨reason, ?_⟩
      rw [failed, List.takeWhile_cons_of_neg (by simp [accepted])]
      rfl

/-- The rate last given to an output. -/
def rateGiven (entries : List (Fin outputs × ExactFloat)) (output : Fin outputs) :
    Option ExactFloat :=
  (lastWrite Prod.fst output entries).map Prod.snd

/-- The rate last given to an output of a timer. -/
def rateOnTimer (driver : ServoMonstrosity timers outputs)
    (entries : List (Fin outputs × ExactFloat)) (timer : Fin timers) : Option ExactFloat :=
  (lastWrite (fun entry => driver.chanList entry.1) timer entries).map Prod.snd

/-- An output whose timer is given no rate is given none either. -/
theorem rateGiven_none_of_timer {driver : ServoMonstrosity timers outputs}
    {entries : List (Fin outputs × ExactFloat)} {output : Fin outputs}
    (idle : driver.rateOnTimer entries (driver.chanList output) = none) :
    rateGiven entries output = none := by
  rw [rateOnTimer, Option.map_eq_none_iff, lastWrite_eq_none_iff] at idle
  rw [rateGiven, Option.map_eq_none_iff, lastWrite_eq_none_iff]
  intro entry member same
  exact idle entry member (by rw [same])

/-- Recorded rates and frequencies agree for every output. -/
def Agrees (driver : ServoMonstrosity timers outputs) : Prop :=
  ∀ output, NearHz (driver.outputRatesHz output) (driver.frequencyHz (driver.chanList output))

/-- Rates, protocols and frequencies are as they were. -/
structure SameSettings (before after : ServoMonstrosity timers outputs) : Prop where
  outputRatesHz : after.outputRatesHz = before.outputRatesHz
  outputProtocols : after.outputProtocols = before.outputProtocols
  timerProtocols : after.timerProtocols = before.timerProtocols
  frequencyHz : after.frequencyHz = before.frequencyHz

/-- Microseconds of the pulse that stands for a command. -/
def pulseUs (command : ℚ) : ℚ := max 0 (min command 1) * 1000 + 1000

/-- A pulse is one to two milliseconds long. -/
theorem pulseUs_bounds (command : ℚ) : 1000 ≤ pulseUs command ∧ pulseUs command ≤ 2000 := by
  -- The command is clamped between zero and one first.
  have lower : (0 : ℚ) ≤ max 0 (min command 1) := le_max_left 0 _
  have upper : max 0 (min command 1) ≤ (1 : ℚ) := max_le (by decide) (min_le_right command 1)
  unfold pulseUs
  constructor
  · linarith
  · linarith

/-- The duty computed for a command is the share of its pulse in a period of the timer, up to half
a hertz and one count, whenever the pulse fits in the period. -/
def PulsesTrue (driver : ServoMonstrosity timers outputs) : Prop :=
  ∀ output command duty, driver.outputDuty output (.number command) = .ok duty →
    let hz := driver.frequencyHz (driver.chanList output)
    let counts : ℚ := (driver.maxDutyCycle (driver.chanList output) hz).val
    pulseUs command * hz ≤ 1000000 →
      |(duty : ℚ) - counts * (pulseUs command * hz / 1000000)| ≤
        counts * (pulseUs command * (1 / 2) / 1000000) + 1

/-- After a call the records and pulses are true, and a failed call has changed nothing. -/
def Coherent (driver : ServoMonstrosity timers outputs) (ratesHz : List ExactFloat) : Prop :=
  (driver.configureOutputRates ratesHz).1.Agrees ∧
    (∀ reason, (driver.configureOutputRates ratesHz).2 = .error reason →
      SameSettings driver (driver.configureOutputRates ratesHz).1) ∧
    (driver.configureOutputRates ratesHz).1.PulsesTrue

/-- Every output on a timer that is given a rate ends at the timer's last rate, up to rounding. -/
def SharedTimersAgree (driver : ServoMonstrosity timers outputs)
    (entries : List (Fin outputs × ExactFloat)) : Prop :=
  ∀ output last, driver.rateOnTimer entries (driver.chanList output) = some last →
    NearHz ((rateGiven entries output).elim (driver.outputRatesHz output) effectiveRate)
      (timerHz last)

/-- Every rate given repeats the rate and protocol already recorded for its output. -/
def Repeats (driver : ServoMonstrosity timers outputs)
    (entries : List (Fin outputs × ExactFloat)) : Prop :=
  ∀ output rate, rateGiven entries output = some rate →
    effectiveRate rate = driver.outputRatesHz output ∧
      protocolOf rate = driver.outputProtocols output

/-- All rates are accepted and outputs of one timer are given the same rate, or those before the
first refused rate are only repeated. -/
def ConfiguresCoherently (driver : ServoMonstrosity timers outputs) (ratesHz : List ExactFloat) :
    Prop :=
  if (given outputs ratesHz).all driver.accepts then
    driver.SharedTimersAgree (given outputs ratesHz)
  else driver.Repeats ((given outputs ratesHz).takeWhile driver.accepts)

/-- A clamped number lies at the nearer bound if it is outside. -/
theorem clamp_number_eq {lower upper : ℚ} (ordered : lower ≤ upper) (value : ℚ) :
    FlightFloat.clamp (ExactFloat.number value) (.number lower) (.number upper) =
      .number (max lower (min value upper)) := by
  rw [FlightFloat.clamp]
  -- Below the lower bound, above the upper one, or between them.
  by_cases below : value < lower
  · have least : min value upper ≤ lower := (min_le_left _ _).trans below.le
    simp [below, max_eq_left least]
  · have least : lower ≤ min value upper := le_min (not_lt.mp below) ordered
    by_cases above : upper < value
    · simp [below, above, min_eq_right above.le, ordered]
    · simp [below, above, min_eq_left (not_lt.mp above), not_lt.mp below]

/-- Duty of a command at a positive rate, rounded down and at most a full period. -/
theorem standardPwmDuty_number (command : ℚ) {rate : ℚ} (positive : 0 < rate) {maxDuty : Nat}
    (small : maxDuty ≤ 65535) :
    standardPwmDuty (.number command) (.number rate) maxDuty =
      .ok ⌊min (maxDuty * pulseUs command / 1000000 * rate) maxDuty⌋.toNat := by
  have period : (1000000 : ℚ) / rate ≠ 0 := div_ne_zero (by norm_num) positive.ne'
  have share : pulseUs command / (1000000 / rate) * (maxDuty : ℚ) =
      maxDuty * pulseUs command / 1000000 * rate := by
    field_simp
  have nonnegative : 0 ≤ min (maxDuty * pulseUs command / 1000000 * rate) (maxDuty : ℚ) := by
    have pulse := (pulseUs_bounds command).1
    have counts : (0 : ℚ) ≤ maxDuty := Nat.cast_nonneg _
    apply le_min _ counts
    positivity
  -- The duty is a whole number no greater than a word.
  have capped : ⌊min (maxDuty * pulseUs command / 1000000 * rate) (maxDuty : ℚ)⌋.toNat ≤
      65535 := by
    have floored : ⌊min (maxDuty * pulseUs command / 1000000 * rate) (maxDuty : ℚ)⌋ ≤
        (maxDuty : ℤ) := by
      have below := Int.floor_le_floor
        (min_le_right (maxDuty * pulseUs command / 1000000 * rate) (maxDuty : ℚ))
      rwa [Int.floor_natCast] at below
    omega
  -- Every operation on the way is one of numbers.
  have pulse : FlightFloat.clamp (ExactFloat.number command) (.number 0) (.number 1) *
      ExactFloat.number 1000 + ExactFloat.number 1000 = .number (pulseUs command) := by
    rw [clamp_number_eq (by norm_num)]
    rfl
  have divided : ExactFloat.number 1000000 / ExactFloat.number rate = .number (1000000 / rate) := by
    show ExactFloat.lift₂ _ _ _ = _
    simp [ExactFloat.lift₂, positive.ne']
  have raw : ExactFloat.number (pulseUs command) / ExactFloat.number (1000000 / rate) *
      ExactFloat.number maxDuty = .number (maxDuty * pulseUs command / 1000000 * rate) := by
    have quotient : ExactFloat.number (pulseUs command) / ExactFloat.number (1000000 / rate) =
        .number (pulseUs command / (1000000 / rate)) := by
      show ExactFloat.lift₂ _ _ _ = _
      simp only [ExactFloat.lift₂, if_neg period, Option.elim_some]
    rw [quotient, ← share]
    rfl
  unfold standardPwmDuty
  rw [if_neg (by simp [FlightFloat.isFinite, FlightFloat.le, ExactFloat.compare, positive])]
  dsimp only
  rw [pulse, divided, raw, clamp_number_eq (Nat.cast_nonneg _), max_eq_right nonnegative]
  simp only [ExactFloat.castUnsigned]
  rw [min_eq_left capped]

/-- A capped share at a rate near the timer's, rounded down, is near the share at the timer's. -/
theorem abs_floor_min_sub_le {share counts rate hz : ℚ} (scale : 0 ≤ share)
    (lower : hz - 1 / 2 ≤ rate) (upper : rate ≤ hz + 1 / 2) (whole : share * hz ≤ counts) :
    |(⌊min (share * rate) counts⌋ : ℚ) - share * hz| ≤ share * (1 / 2) + 1 := by
  have below := Int.floor_le (min (share * rate) counts)
  have above := Int.lt_floor_add_one (min (share * rate) counts)
  have late := mul_le_mul_of_nonneg_left upper scale
  have early := mul_le_mul_of_nonneg_left lower scale
  rw [mul_add] at late
  rw [mul_sub] at early
  rw [abs_le]
  constructor
  · -- From below the cap cannot bite, as the whole share is within it.
    have least : share * hz - share * (1 / 2) ≤ min (share * rate) counts := by
      apply le_min early
      linarith
    linarith
  · have most := min_le_left (share * rate) counts
    linarith

/-- Where records and frequencies agree, every pulse is true. -/
theorem Agrees.pulsesTrue {driver : ServoMonstrosity timers outputs} (agrees : driver.Agrees) :
    driver.PulsesTrue := by
  intro output command duty computed hz counts fits
  have near := agrees output
  unfold outputDuty at computed
  cases recorded : driver.outputRatesHz output with
  | nan =>
    rw [recorded] at near
    exact near.elim
  | number rate =>
    rw [recorded] at near computed
    obtain ⟨lower, upper⟩ : (hz : ℚ) - 1 / 2 ≤ rate ∧ rate ≤ hz + 1 / 2 := near
    by_cases positive : 0 < rate
    · rw [standardPwmDuty_number command positive (by omega)] at computed
      have value := Except.ok.inj computed
      -- The duty is the share of the recorded period, rounded down and cut at the whole period.
      obtain ⟨pulse, -⟩ := pulseUs_bounds command
      have countsNonneg : 0 ≤ counts := Nat.cast_nonneg _
      have scale : 0 ≤ counts * pulseUs command / 1000000 := by positivity
      have nonnegative : 0 ≤ min (counts * pulseUs command / 1000000 * rate) counts :=
        le_min (mul_nonneg scale positive.le) countsNonneg
      have floored : (duty : ℚ) = ⌊min (counts * pulseUs command / 1000000 * rate) counts⌋ := by
        rw [← value, ← Int.cast_natCast, Int.toNat_of_nonneg (Int.floor_nonneg.mpr nonnegative)]
      have share (factor : ℚ) : counts * (pulseUs command * factor / 1000000) =
          counts * pulseUs command / 1000000 * factor := by ring
      have whole : counts * pulseUs command / 1000000 * hz ≤ counts := by
        rw [← share]
        nlinarith
      rw [share, share, floored]
      exact abs_floor_min_sub_le scale lower upper whole
    · -- A rate that is not positive has no duty.
      simp [standardPwmDuty, FlightFloat.isFinite, FlightFloat.le, ExactFloat.compare,
        not_lt.mp positive] at computed

section Calls

variable {driver : ServoMonstrosity timers outputs} {entries : List (Fin outputs × ExactFloat)}

/-- After recording a list, an output has the rate last given to it, or its old one. -/
theorem foldl_record_outputRatesHz (output : Fin outputs) :
    (entries.foldl record driver).outputRatesHz output =
      (rateGiven entries output).elim (driver.outputRatesHz output) effectiveRate := by
  rw [foldl_record]
  dsimp only
  rw [foldl_update_apply, rateGiven, Option.elim_map]
  rfl

/-- After recording a list, an output has the protocol last given to it, or its old one. -/
theorem foldl_record_outputProtocols (output : Fin outputs) :
    (entries.foldl record driver).outputProtocols output =
      (rateGiven entries output).elim (driver.outputProtocols output) protocolOf := by
  rw [foldl_record]
  dsimp only
  rw [foldl_update_apply, rateGiven, Option.elim_map]
  rfl

/-- A timer is configured for the rate last given to one of its outputs, if any. -/
theorem foldl_configure (timer : Fin timers) :
    entries.foldl driver.configure (fun _ => none) timer =
      (driver.rateOnTimer entries timer).map fun rate => (protocolOf rate, timerHz rate) := by
  have folded :=
    foldl_update_apply (fun entry : Fin outputs × ExactFloat => driver.chanList entry.1)
    (fun entry => some (protocolOf entry.2, timerHz entry.2)) (fun _ => none) entries timer
  rw [rateOnTimer, Option.map_map]
  refine Eq.trans folded ?_
  -- No entry and no configuration go together.
  cases lastWrite (fun entry => driver.chanList entry.1) timer entries with
  | none => rfl
  | some entry => rfl

/-- A call whose rates are all accepted keeps agreement exactly when outputs of one timer agree. -/
theorem agrees_after_accepted_iff {ratesHz : List ExactFloat} (agrees : driver.Agrees)
    (accepted : (given outputs ratesHz).all driver.accepts = true) :
    (driver.configureOutputRates ratesHz).1.Agrees ↔
      driver.SharedTimersAgree (given outputs ratesHz) := by
  have done : driver.configureOutputRates ratesHz =
      (((given outputs ratesHz).foldl record driver).applyConfigs
        ((given outputs ratesHz).foldl driver.configure fun _ => none), .ok ()) := by
    rw [configureOutputRates, recordRates_all driver (fun _ => none) accepted]
  have sameList : ((given outputs ratesHz).foldl record driver).chanList = driver.chanList := by
    rw [foldl_record]
  have sameFrequency : ((given outputs ratesHz).foldl record driver).frequencyHz =
      driver.frequencyHz := by
    rw [foldl_record]
  rw [done]
  simp only [Agrees, applyConfigs, foldl_record_outputRatesHz, foldl_configure, sameList,
    sameFrequency]
  unfold SharedTimersAgree
  apply forall_congr'
  intro output
  cases onTimer : driver.rateOnTimer (given outputs ratesHz) (driver.chanList output) with
  | none =>
    -- A timer that is given no rate keeps its frequency, and its outputs keep their rates.
    rw [rateGiven_none_of_timer onTimer]
    simp only [Option.map_none, Option.getD_none, Option.elim_none, reduceCtorEq, false_implies,
      implies_true, iff_true]
    exact agrees output
  | some last => simp

/-- A failed call changes nothing exactly when the rates before the refused one are repeated. -/
theorem sameSettings_after_refused_iff {ratesHz : List ExactFloat}
    (refused : (given outputs ratesHz).all driver.accepts = false) :
    (∃ reason, (driver.configureOutputRates ratesHz).2 = .error reason) ∧
      (SameSettings driver (driver.configureOutputRates ratesHz).1 ↔
        driver.Repeats ((given outputs ratesHz).takeWhile driver.accepts)) := by
  -- The rates before the refused one were recorded, and recording is all that happened.
  obtain ⟨reason, failed⟩ := recordRates_some_refused driver (fun _ => none) refused
  have done : driver.configureOutputRates ratesHz =
      (((given outputs ratesHz).takeWhile driver.accepts).foldl record driver, .error reason) := by
    rw [configureOutputRates, failed]
  rw [done]
  refine ⟨⟨reason, rfl⟩, ?_⟩
  constructor
  · -- The last rate given for an output is the one recorded, so equal records repeat it.
    intro same output rate last
    have rates := congrFun same.outputRatesHz output
    have protocols := congrFun same.outputProtocols output
    rw [foldl_record_outputRatesHz, last] at rates
    rw [foldl_record_outputProtocols, last] at protocols
    exact ⟨rates, protocols⟩
  · -- A repeated rate records what was there, and no other output is touched.
    intro repeated
    refine ⟨?_, ?_, by rw [foldl_record], by rw [foldl_record]⟩
    · funext output
      rw [foldl_record_outputRatesHz]
      cases last : rateGiven ((given outputs ratesHz).takeWhile driver.accepts) output with
      | none => rfl
      | some rate => exact (repeated output rate last).1
    · funext output
      rw [foldl_record_outputProtocols]
      cases last : rateGiven ((given outputs ratesHz).takeWhile driver.accepts) output with
      | none => rfl
      | some rate => exact (repeated output rate last).2

/-- A call that changes no setting keeps agreement. -/
theorem SameSettings.agrees {after : ServoMonstrosity timers outputs}
    (same : SameSettings driver after) (list : after.chanList = driver.chanList)
    (agrees : driver.Agrees) : after.Agrees := by
  intro output
  rw [same.outputRatesHz, same.frequencyHz, list]
  exact agrees output

/-- A failed call keeps the outputs on their timers. -/
theorem chanList_after_refused {ratesHz : List ExactFloat}
    (refused : (given outputs ratesHz).all driver.accepts = false) :
    (driver.configureOutputRates ratesHz).1.chanList = driver.chanList := by
  obtain ⟨reason, failed⟩ := recordRates_some_refused driver (fun _ => none) refused
  rw [configureOutputRates, failed]
  dsimp only
  rw [foldl_record]

/-- From an agreeing driver a call is coherent exactly when it configures coherently. -/
theorem coherent_iff (agrees : driver.Agrees) (ratesHz : List ExactFloat) :
    driver.Coherent ratesHz ↔ driver.ConfiguresCoherently ratesHz := by
  unfold ConfiguresCoherently
  -- Whether all rates are accepted decides which half of the promise is at stake.
  cases accepted : (given outputs ratesHz).all driver.accepts with
  | true =>
    -- A call that succeeds owes agreement only.
    rw [if_pos rfl, ← agrees_after_accepted_iff agrees accepted]
    have succeeds : (driver.configureOutputRates ratesHz).2 = .ok () := by
      rw [configureOutputRates, recordRates_all driver (fun _ => none) accepted]
    constructor
    · intro coherent
      exact coherent.1
    · intro after
      refine ⟨after, ?_, after.pulsesTrue⟩
      intro reason failed
      rw [succeeds] at failed
      cases failed
  | false =>
    -- A call that fails owes the settings it found.
    rw [if_neg Bool.false_ne_true]
    obtain ⟨⟨reason, failed⟩, same⟩ := sameSettings_after_refused_iff accepted
    rw [← same]
    constructor
    · intro coherent
      exact coherent.2.1 reason failed
    · intro unchanged
      have after := unchanged.agrees (chanList_after_refused accepted) agrees
      exact ⟨after, fun _ _ => unchanged, after.pulsesTrue⟩

/-- Recorded rates are the frequencies of their timers. -/
def Matches (driver : ServoMonstrosity timers outputs) : Prop :=
  ∀ output, driver.outputRatesHz output = .number (driver.frequencyHz (driver.chanList output))

/-- Matching rates agree. -/
theorem Matches.agrees (same : driver.Matches) : driver.Agrees := by
  intro output
  -- Equal rates differ by nothing.
  rw [same output]
  constructor
  · linarith
  · linarith

/-- From a driver whose recorded rates are its frequencies, the calls of a sequence are all
coherent if and only if each of them accepts all its rates and gives the outputs of one timer the
same rate, or only repeats what is recorded before its first refused rate. -/
theorem coherent_along_iff (start : driver.Matches) (calls : List (List ExactFloat)) :
    Along Coherent (fun driver ratesHz => (configureOutputRates driver ratesHz).1) driver calls ↔
      Along ConfiguresCoherently (fun driver ratesHz => (configureOutputRates driver ratesHz).1)
        driver calls :=
  along_congr_while Agrees (fun _ _ _ coherent => coherent.1)
    (fun _ ratesHz agrees => coherent_iff agrees ratesHz) start.agrees calls

end Calls

/-- Outputs of one timer agree if each is seen to. -/
theorem sharedTimersAgree_of_all {driver : ServoMonstrosity timers outputs}
    {entries : List (Fin outputs × ExactFloat)}
    (all : ∀ output, (driver.rateOnTimer entries (driver.chanList output)).all (fun last =>
      decide (NearHz ((rateGiven entries output).elim (driver.outputRatesHz output) effectiveRate)
        (timerHz last))) = true) : driver.SharedTimersAgree entries := by
  intro output last given
  have near := all output
  rw [given] at near
  exact of_decide_eq_true near

section PixRacerPro

/-- The outputs of a PixRacer Pro whose timers run at the rates recorded for them. -/
def pixRacerPro : ServoMonstrosity 3 8 :=
  withTimerKinds (fun _ => 50) (fun _ _ => ⟨20000, by decide⟩) pixRacerProChanList
    fun _ => .standardOnly

/-- The recorded rates are the frequencies. -/
theorem pixRacerPro_matches : pixRacerPro.Matches := fun _ => rfl

/-- Giving all outputs of the first timer one rate, and another timer another, is coherent. -/
theorem pixRacerPro_coherent :
    Along Coherent (fun driver ratesHz => (configureOutputRates driver ratesHz).1) pixRacerPro
      [[.number 400, .number 400, .number 400, .number 400, .number 50, .number 50]] := by
  refine (coherent_along_iff pixRacerPro_matches _).mpr ⟨?_, trivial⟩
  rw [ConfiguresCoherently, if_pos (by decide +kernel)]
  exact sharedTimersAgree_of_all (by decide +kernel)

/-- Two rates on one timer, or a refused rate behind an accepted one, leave a record that is not
the frequency of its timer. -/
theorem pixRacerPro_incoherent :
    ¬ Along Coherent (fun driver ratesHz => (configureOutputRates driver ratesHz).1) pixRacerPro
        [[.number 50, .number 400]] ∧
      ¬ Along Coherent (fun driver ratesHz => (configureOutputRates driver ratesHz).1) pixRacerPro
        [[.number 400, .number 10000]] := by
  constructor
  · intro ⟨coherent, _⟩
    -- The first output is recorded at fifty hertz on a timer of four hundred.
    exact absurd (coherent.1 0) (by decide +kernel)
  · intro ⟨coherent, _⟩
    -- The first output is recorded at four hundred hertz on a timer of fifty.
    exact absurd (coherent.1 0) (by decide +kernel)

end PixRacerPro

end ServoMonstrosity

end Veloxity
