import Mathlib.Data.List.FinRange
import Veloxity.Mixer.Interface

/-! The canned mixers, and their reflection into the parameters. -/

namespace Veloxity

/-- Number of outputs a mixer computes. -/
abbrev NUM_MIXER_OUTPUTS : Nat := 10

/-- Number of mixer choices. -/
abbrev NUM_MIXERS : Int := 12

/-- All outputs follow the throttle. -/
@[match_pattern] abbrev ESC_CALIBRATION_MIXER : Int := 0

/-- Quadrotor with arms on the axes. -/
@[match_pattern] abbrev QUAD_PLUS_MIXER : Int := 1

/-- Quadrotor with arms between the axes. -/
@[match_pattern] abbrev QUAD_X_MIXER_CHOICE : Int := 2

/-- Hexarotor with arms on the axes. -/
@[match_pattern] abbrev HEX_PLUS_MIXER : Int := 3

/-- Hexarotor with arms between the axes. -/
@[match_pattern] abbrev HEX_X_MIXER : Int := 4

/-- Octorotor with arms on the axes. -/
@[match_pattern] abbrev OCTO_PLUS_MIXER : Int := 5

/-- Octorotor with arms between the axes. -/
@[match_pattern] abbrev OCTO_X_MIXER : Int := 6

/-- Three arms with two rotors each. -/
@[match_pattern] abbrev Y6_MIXER : Int := 7

/-- Four arms with two rotors each. -/
@[match_pattern] abbrev X8_MIXER : Int := 8

/-- Conventional aeroplane. -/
@[match_pattern] abbrev FIXEDWING_MIXER : Int := 9

/-- Aeroplane with an inverted V-tail. -/
@[match_pattern] abbrev INVERTED_VTAIL_MIXER : Int := 10

/-- Mixer read from the parameters. -/
@[match_pattern] abbrev CUSTOM_MIXER : Int := 11

/-- One row of output weights for each control input. -/
abbrev MixerMatrix (R : Type) := Fin NUM_MIXER_OUTPUTS → Fin NUM_MIXER_OUTPUTS → R

/-- One entry for each mixer output. -/
abbrev MixerOutputs (α : Type) := Fin NUM_MIXER_OUTPUTS → α

/-- Factors of a singular value decomposition, as far as they were computed. -/
structure SvdFactors (R : Type) where
  u : Option (MixerMatrix R)
  singularValues : MixerOutputs R
  vT : Option (MixerMatrix R)

/-- A numerical library's singular value decomposition of mixer matrices. -/
class Svd (R : Type) where
  /-- Decompose one matrix. -/
  svd : MixerMatrix R → SvdFactors R

/-- Output types, update rates and matrix of a canned mixer. -/
structure CannedMixerConfig (R : Type) where
  outputTypes : MixerOutputs MixerOutputType
  defaultPwmRates : MixerOutputs R
  matrix : MixerMatrix R

/-- Leading outputs of one type, with the rest left to auxiliary commands. -/
def leadingMotors (motors : Nat) : MixerOutputs MixerOutputType :=
  fun output => if output.val < motors then .motor else .aux

/-- Output types of a quadrotor. -/
def QUAD_X_OUTPUT_TYPES : MixerOutputs MixerOutputType := leadingMotors 4

/-- Output types of the calibration mixer. -/
def ALL_MOTOR_OUTPUT_TYPES : MixerOutputs MixerOutputType := fun _ => .motor

/-- Output types of an aeroplane, whose only motor is the fifth output. -/
def FIXEDWING_OUTPUT_TYPES : MixerOutputs MixerOutputType :=
  fun output => if output.val < 3 then .servo else if output.val = 4 then .motor else .aux

section

variable {R : Type} [FlightFloat R]

/-- A fast rate for the leading outputs and fifty hertz for the rest. -/
def leadingRates (fast : Nat) : MixerOutputs R :=
  fun output => if output.val < fast then FlightFloat.lit 490 else FlightFloat.lit 50

/-- A matrix given by its leading rows and columns, zero elsewhere. -/
def matrixFromDefault (rows : List (List ℚ)) : MixerMatrix R :=
  fun row col => FlightFloat.lit ((rows.getD row.val []).getD col.val 0)

/-- Leading rows of each canned mixer before inversion, from the forces to the torques. -/
def rawCannedMixerMatrix : Int → Option (List (List ℚ))
  | ESC_CALIBRATION_MIXER => some [[], [], List.replicate 10 0.1]
  | QUAD_PLUS_MIXER => some [[], [], List.replicate 4 (-0.25),
      [0, -1, 0, 1], [1, 0, -1, 0], [1, -1, 1, -1]]
  | QUAD_X_MIXER_CHOICE => some [[], [], List.replicate 4 (-0.25),
      [-0.7071, -0.7071, 0.7071, 0.7071], [0.7071, -0.7071, -0.7071, 0.7071], [1, -1, 1, -1]]
  | HEX_PLUS_MIXER => some [[], [], List.replicate 6 (-0.1667),
      [0, -0.8660, -0.8660, 0, 0.8660, 0.8660], [1, 0.5, -0.5, -1, -0.5, 0.5],
      [1, -1, 1, -1, 1, -1]]
  | HEX_X_MIXER => some [[], [], List.replicate 6 (-0.1667),
      [-0.5, -1, -0.5, 0.5, 1, 0.5], [0.8660, 0, -0.8660, -0.8660, 0, 0.8660],
      [1, -1, 1, -1, 1, -1]]
  | OCTO_PLUS_MIXER => some [[], [], List.replicate 8 (-0.1250),
      [0, -0.7071, -1, -0.7071, 0, 0.7071, 1, 0.7071],
      [1, 0.7071, 0, -0.7071, -1, -0.7071, 0, 0.7071], [1, -1, 1, -1, 1, -1, 1, -1]]
  | OCTO_X_MIXER => some [[], [], List.replicate 8 (-0.1250),
      [-0.3827, -0.9239, -0.9239, -0.3827, 0.3827, 0.9239, 0.9239, 0.3827],
      [0.9239, 0.3827, -0.3827, -0.9239, -0.9239, -0.3827, 0.3827, 0.9239],
      [1, -1, 1, -1, 1, -1, 1, -1]]
  | Y6_MIXER => some [[], [], List.replicate 6 (-0.1667),
      [-0.8660, -0.8660, 0, 0, 0.8660, 0.8660], [0.5, 0.5, -1, -1, 0.5, 0.5],
      [1, -1, 1, -1, 1, -1]]
  | X8_MIXER => some [[], [], List.replicate 8 (-0.1250),
      [-0.7071, -0.7071, -0.7071, -0.7071, 0.7071, 0.7071, 0.7071, 0.7071],
      [0.7071, 0.7071, -0.7071, -0.7071, -0.7071, -0.7071, 0.7071, 0.7071],
      [1, -1, 1, -1, 1, -1, 1, -1]]
  | FIXEDWING_MIXER => some [[0, 0, 0, 0, 1], [], [], [1], [0, 1], [0, 0, 1]]
  | INVERTED_VTAIL_MIXER => some [[0, 0, 0, 0, 1], [], [], [1], [0, -0.5, 0.5], [0, 0.5, 0.5]]
  | _ => none

/-- Product of two matrices. -/
def mulMatrix (left right : MixerMatrix R) : MixerMatrix R := fun row col =>
  (List.finRange NUM_MIXER_OUTPUTS).foldl
    (fun sum inner => sum + left row inner * right inner col) FlightFloat.zero

/-- Diagonal of inverted singular values, with zero kept at zero. -/
def sigmaInverse (singularValues : MixerOutputs R) : MixerMatrix R := fun row col =>
  if row = col ∧ FlightFloat.eq (singularValues row) FlightFloat.zero = false then
    FlightFloat.one / singularValues row
  else FlightFloat.zero

/-- Transposed pseudoinverse of a multirotor's matrix. -/
def invertedMultirotorMixer [Svd R] (mixer : MixerMatrix R) : MixerMatrix R :=
  let factors := Svd.svd mixer
  match factors.u, factors.vT with
  | some u, some vT =>
    let pinv := mulMatrix (mulMatrix (fun row col => vT col row)
      (sigmaInverse factors.singularValues)) fun row col => u col row
    fun row col => pinv col row
  | _, _ => mixer

/-- Transposed pseudoinverse of a matrix of rank one. -/
def rankOnePseudoinverseMixer (mixer : MixerMatrix R) : MixerMatrix R :=
  let indices := List.finRange NUM_MIXER_OUTPUTS
  let normSquared := indices.foldl (fun sum row =>
    indices.foldl (fun sum col => sum + mixer row col * mixer row col) sum) FlightFloat.zero
  if FlightFloat.lt normSquared (FlightFloat.lit 1e-12) then mixer
  else fun row col => mixer row col / normSquared

variable [Svd R]

/-- Configuration of a canned mixer. -/
def cannedMixer (choice : Int) : Option (CannedMixerConfig R) :=
  (rawCannedMixerMatrix choice).map fun rows =>
    let raw : MixerMatrix R := matrixFromDefault rows
    match choice with
    | ESC_CALIBRATION_MIXER =>
      ⟨ALL_MOTOR_OUTPUT_TYPES, leadingRates 0, rankOnePseudoinverseMixer raw⟩
    | QUAD_PLUS_MIXER | QUAD_X_MIXER_CHOICE =>
      ⟨QUAD_X_OUTPUT_TYPES, leadingRates 4, invertedMultirotorMixer raw⟩
    -- Hexarotors drive six motors but are given eight fast outputs.
    | HEX_PLUS_MIXER | HEX_X_MIXER | Y6_MIXER =>
      ⟨leadingMotors 6, leadingRates 8, invertedMultirotorMixer raw⟩
    | FIXEDWING_MIXER | INVERTED_VTAIL_MIXER => ⟨FIXEDWING_OUTPUT_TYPES, leadingRates 0, raw⟩
    | _ => ⟨leadingMotors 8, leadingRates 8, invertedMultirotorMixer raw⟩

/-- Configuration of a canned mixer in the second place, where every matrix is inverted. -/
def cannedSecondaryMixer (choice : Int) : Option (CannedMixerConfig R) :=
  match cannedMixer choice, rawCannedMixerMatrix choice with
  | some config, some rows =>
    some { config with matrix := invertedMultirotorMixer (matrixFromDefault rows) }
  | _, _ => none

end

section

variable {F : Type}

/-- Integer value of a parameter, or zero when it holds another type. -/
def mixerParamInt (params : Params F) (id : ParamId) : Int := params.intOr id 0

/-- Parameter code of an output type. -/
def mixerOutputTypeToRosflight : MixerOutputType → Int
  | .aux => 0
  | .servo => 1
  | .motor => 2
  | .gpio => 3

/-- Output type of a parameter code. -/
def mixerOutputTypeFromRosflight (value : Int) : MixerOutputType :=
  if value = 1 then .servo else if value = 2 then .motor else if value = 3 then .gpio else .aux

/-- The double-precision format canned mixers are computed in before they are stored. -/
class ReflectionFormat (F : Type) where
  /-- Double precision. -/
  Double : Type
  /-- Arithmetic of double precision. -/
  [float : FlightFloat Double]
  /-- Decomposition in double precision. -/
  [decompose : Svd Double]
  /-- Rounding to single precision. -/
  [rounding : FloatCast F Double]

attribute [reducible, instance] ReflectionFormat.float ReflectionFormat.decompose
  ReflectionFormat.rounding

open ReflectionFormat (Double)

/-- Store a matrix in a family of parameters, column by column. -/
def saveMixerMatrixParams [ReflectionFormat F] (params : Params F)
    (cell : Fin NUM_MIXER_OUTPUTS → Fin NUM_MIXER_OUTPUTS → ParamId)
    (matrix : MixerMatrix (Double F)) : Params F :=
  (List.finRange NUM_MIXER_OUTPUTS).foldl (fun params col =>
    (List.finRange NUM_MIXER_OUTPUTS).foldl (fun params row =>
      params.setById (cell row col) (.float (FloatCast.toF32Lossy (matrix row col)))) params) params

/-- Store the configuration of a canned primary mixer. -/
def savePrimaryMixerParams [ReflectionFormat F] (params : Params F)
    (config : CannedMixerConfig (Double F)) : Params F :=
  let outputs := (List.finRange NUM_MIXER_OUTPUTS).foldl (fun params output =>
    (params.setById (.PARAM_PRIMARY_MIXER_OUTPUT output)
        (.int (mixerOutputTypeToRosflight (config.outputTypes output)))).setById
      (.PARAM_PRIMARY_MIXER_PWM_RATE output)
      (.float (FloatCast.toF32Lossy (config.defaultPwmRates output)))) params
  saveMixerMatrixParams outputs .PARAM_PRIMARY_MIXER_CELL config.matrix

/-- Store the matrix of a canned secondary mixer. -/
def saveSecondaryMixerParams [ReflectionFormat F] (params : Params F)
    (matrix : MixerMatrix (Double F)) : Params F :=
  saveMixerMatrixParams params .PARAM_SECONDARY_MIXER_CELL matrix

/-- Reflect a canned mixer choice into the parameters a custom mixer would be read from. -/
def syncReflectedMixerParams [ReflectionFormat F] (params : Params F) (changed : ParamId) :
    Params F :=
  match changed with
  | .PARAM_PRIMARY_MIXER =>
    match cannedMixer (R := Double F) (mixerParamInt params .PARAM_PRIMARY_MIXER) with
    | none => params
    | some config =>
      let saved := savePrimaryMixerParams params config
      let secondaryChoice := mixerParamInt saved .PARAM_SECONDARY_MIXER
      if 0 ≤ secondaryChoice ∧ secondaryChoice < NUM_MIXERS then saved
      else saveSecondaryMixerParams saved config.matrix
  | .PARAM_SECONDARY_MIXER =>
    match cannedSecondaryMixer (R := Double F) (mixerParamInt params .PARAM_SECONDARY_MIXER) with
    | none => params
    | some config => saveSecondaryMixerParams params config.matrix
  | _ => params

end

/-- Examples run with a decomposition that fails, so that no canned matrix is inverted. -/
instance : Svd ℚ where
  svd _ := ⟨none, fun _ => 0, none⟩

instance : ReflectionFormat ℚ where
  Double := ℚ

end Veloxity
