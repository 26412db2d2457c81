import Mathlib.Data.Rat.Floor
import Mathlib.Logic.Function.Basic
import Veloxity.Core.ExactFloat
import Veloxity.Core.Machine
import Veloxity.Pwm.Driver

/-! The servo outputs of the STM32 boards, several of which share one timer. -/

namespace Veloxity

/-- How an output is driven. -/
inductive PwmOutputProtocol where
  | standardPwm | dshot
  deriving DecidableEq, Repr

/-- Rate of an output for which none is asked. -/
def STANDARD_PWM_DEFAULT_RATE_HZ : ℚ := 50

section Rates

variable {R : Type} [FlightFloat R]

/-- Protocol that an update rate stands for. -/
def outputProtocolForRate (rateHz : R) : Except PwmError PwmOutputProtocol :=
  if !FlightFloat.isFinite rateHz || FlightFloat.lt rateHz (FlightFloat.lit 0) then
    .error .invalidRate
  else if FlightFloat.le rateHz (FlightFloat.lit 490) then .ok .standardPwm
  else if FlightFloat.le (FlightFloat.lit 150000) rateHz &&
      FlightFloat.le rateHz (FlightFloat.lit 1200000) then .ok .dshot
  else .error .invalidRate

/-- Rate at which an output is driven, where zero asks for the default. -/
def effectiveOutputRateHz (rateHz : R) : Except PwmError R :=
  match outputProtocolForRate rateHz with
  | .error reason => .error reason
  | .ok .standardPwm =>
    if FlightFloat.eq rateHz (FlightFloat.lit 0) then
      .ok (FlightFloat.lit STANDARD_PWM_DEFAULT_RATE_HZ)
    else .ok rateHz
  | .ok .dshot => .ok rateHz

end Rates

/-- Protocols a timer block can drive. -/
inductive PwmTimerBlockKind where
  | standardOnly | dshotCapable
  deriving DecidableEq, Repr

/-- A timer block can drive a protocol. -/
def PwmTimerBlockKind.supports : PwmTimerBlockKind → PwmOutputProtocol → Bool
  | _, .standardPwm => true
  | .dshotCapable, .dshot => true
  | .standardOnly, .dshot => false

/-- Reasons a servo driver can refuse a call. -/
inductive TimerError where
  | chanNotSupported | timerNotSupported | invalidRate | unsupportedProtocol
  deriving DecidableEq, Repr

/-- A number cast to an unsigned word of the given number of values, which saturates. -/
def ExactFloat.castUnsigned (values : Nat) : ExactFloat → Nat
  | .number value => min ⌊value⌋.toNat (values - 1)
  | .nan => 0

/-- Whole hertz nearest to a rate. -/
def rateToHz (rate : ExactFloat) : Except TimerError Nat :=
  if !FlightFloat.isFinite rate || FlightFloat.le rate (.number 0) ||
      FlightFloat.lt (.number (wordSize - 1 : ℚ)) rate then .error .timerNotSupported
  else .ok ((rate + ExactFloat.number (1 / 2)).castUnsigned wordSize)

/-- Duty of a command: its pulse of one to two milliseconds as a share of the period. -/
def standardPwmDuty (command rateHz : ExactFloat) (maxDuty : Nat) : Except TimerError Nat :=
  if !FlightFloat.isFinite rateHz || FlightFloat.le rateHz (.number 0) then .error .invalidRate
  else
    let pulseUs := FlightFloat.clamp command (.number 0) (.number 1) * ExactFloat.number 1000 +
      ExactFloat.number 1000
    let periodUs := ExactFloat.number 1000000 / rateHz
    let raw := pulseUs / periodUs * ExactFloat.number maxDuty
    .ok ((FlightFloat.clamp raw (.number 0) (.number maxDuty)).castUnsigned 65536)

/-- A servo driver: the timer of each output, what is recorded for each output and each timer, and
the frequency each timer runs at. -/
structure ServoMonstrosity (timers outputs : Nat) where
  chanList : Fin outputs → Fin timers
  timerKinds : Fin timers → PwmTimerBlockKind
  timerProtocols : Fin timers → PwmOutputProtocol
  outputProtocols : Fin outputs → PwmOutputProtocol
  outputRatesHz : Fin outputs → ExactFloat
  frequencyHz : Fin timers → Nat
  /-- Counts of a full period, which the hardware derives from the frequency. -/
  maxDutyCycle : Fin timers → Nat → Fin 65536

namespace ServoMonstrosity

variable {timers outputs : Nat}

/-- A driver with the given outputs, recorded at the default rate. -/
def withTimerKinds (frequencyHz : Fin timers → Nat)
    (maxDutyCycle : Fin timers → Nat → Fin 65536) (chanList : Fin outputs → Fin timers)
    (timerKinds : Fin timers → PwmTimerBlockKind) : ServoMonstrosity timers outputs where
  chanList
  timerKinds
  timerProtocols _ := .standardPwm
  outputProtocols _ := .standardPwm
  outputRatesHz _ := .number STANDARD_PWM_DEFAULT_RATE_HZ
  frequencyHz
  maxDutyCycle

/-- The configuration each timer is to be given, if any. -/
abbrev TimerConfigs (timers : Nat) := Fin timers → Option (PwmOutputProtocol × Nat)

/-- Record the rates one output after the other, up to the first that is refused. -/
def recordRates (driver : ServoMonstrosity timers outputs) (timerConfigs : TimerConfigs timers) :
    List (Fin outputs × ExactFloat) →
      ServoMonstrosity timers outputs × Except TimerError (TimerConfigs timers)
  | [] => (driver, .ok timerConfigs)
  | (output, rate) :: rest =>
    let timerIndex := driver.chanList output
    match outputProtocolForRate rate, effectiveOutputRateHz rate with
    | .error _, _ => (driver, .error .invalidRate)
    | .ok _, .error _ => (driver, .error .invalidRate)
    | .ok protocol, .ok effectiveRate =>
      if !(driver.timerKinds timerIndex).supports protocol then
        (driver, .error .unsupportedProtocol)
      else
        -- The record is written before the rate of the timer is settled.
        let recorded := { driver with
          outputRatesHz := Function.update driver.outputRatesHz output effectiveRate
          outputProtocols := Function.update driver.outputProtocols output protocol }
        match rateToHz effectiveRate with
        | .error reason => (recorded, .error reason)
        | .ok rateHz =>
          recorded.recordRates
            (Function.update timerConfigs timerIndex (some (protocol, rateHz))) rest

/-- The outputs for which a rate is given, each with its rate. -/
def given (outputs : Nat) (ratesHz : List ExactFloat) : List (Fin outputs × ExactFloat) :=
  (List.finRange outputs).zip ratesHz

/-- Give every configured timer its protocol and frequency. -/
def applyConfigs (driver : ServoMonstrosity timers outputs) (timerConfigs : TimerConfigs timers) :
    ServoMonstrosity timers outputs :=
  { driver with
    timerProtocols := fun timer => ((timerConfigs timer).map Prod.fst).getD
      (driver.timerProtocols timer)
    frequencyHz := fun timer => ((timerConfigs timer).map Prod.snd).getD
      (driver.frequencyHz timer) }

/-- Set the update rates of the first outputs. -/
def configureOutputRates (driver : ServoMonstrosity timers outputs) (ratesHz : List ExactFloat) :
    ServoMonstrosity timers outputs × Except TimerError Unit :=
  match driver.recordRates (fun _ => none) (given outputs ratesHz) with
  | (recorded, .error reason) => (recorded, .error reason)
  | (recorded, .ok timerConfigs) => (recorded.applyConfigs timerConfigs, .ok ())

/-- Duty of a command by the rate recorded for its output. -/
def outputDuty (driver : ServoMonstrosity timers outputs) (output : Fin outputs)
    (command : ExactFloat) : Except TimerError Nat :=
  let timer := driver.chanList output
  standardPwmDuty command (driver.outputRatesHz output)
    (driver.maxDutyCycle timer (driver.frequencyHz timer))

end ServoMonstrosity

/-- Timers of the eight outputs of the PixRacer Pro. -/
def pixRacerProChanList : Fin 8 → Fin 3
  | 0 | 1 | 2 | 3 => 0
  | 4 | 5 => 1
  | 6 | 7 => 2

end Veloxity
