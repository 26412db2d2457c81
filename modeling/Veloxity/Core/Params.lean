import Mathlib.Data.Rat.Init
import Mathlib.Logic.Function.Basic
import Veloxity.Core.FlightFloat

/-! The onboard parameter table: identifiers, names, defaults and stored values. -/

namespace Veloxity

/-- Identifiers of the onboard parameters, with the mixer tables as indexed families. -/
inductive ParamId where
  | PARAM_BAUD_RATE | PARAM_SERIAL_DEVICE | PARAM_NUM_MOTORS | PARAM_MOTOR_RESISTANCE
  | PARAM_MOTOR_KV | PARAM_NO_LOAD_CURRENT | PARAM_PROP_DIAMETER | PARAM_PROP_CT | PARAM_PROP_CQ
  | PARAM_VOLT_MAX | PARAM_USE_MOTOR_PARAMETERS
  | PARAM_PRIMARY_MIXER_OUTPUT (channel : Fin 10)
  | PARAM_PRIMARY_MIXER_PWM_RATE (channel : Fin 10)
  | PARAM_PRIMARY_MIXER_CELL (row col : Fin 10)
  | PARAM_SECONDARY_MIXER_CELL (row col : Fin 10)
  | PARAM_SYSTEM_ID | PARAM_PID_ROLL_RATE_P | PARAM_PID_ROLL_RATE_I | PARAM_PID_ROLL_RATE_D
  | PARAM_PID_PITCH_RATE_P | PARAM_PID_PITCH_RATE_I | PARAM_PID_PITCH_RATE_D
  | PARAM_PID_YAW_RATE_P | PARAM_PID_YAW_RATE_I | PARAM_PID_YAW_RATE_D | PARAM_PID_ROLL_ANGLE_P
  | PARAM_PID_ROLL_ANGLE_I | PARAM_PID_ROLL_ANGLE_D | PARAM_PID_PITCH_ANGLE_P
  | PARAM_PID_PITCH_ANGLE_I | PARAM_PID_PITCH_ANGLE_D | PARAM_X_EQ_TORQUE | PARAM_Y_EQ_TORQUE
  | PARAM_Z_EQ_TORQUE | PARAM_PID_TAU | PARAM_MOTOR_IDLE_THROTTLE | PARAM_FAILSAFE_THROTTLE
  | PARAM_SPIN_MOTORS_WHEN_ARMED | PARAM_CHANNEL_OUTPUT_MASK | PARAM_INIT_TIME
  | PARAM_FILTER_KP_ACC | PARAM_FILTER_KI | PARAM_FILTER_KP_EXT | PARAM_FILTER_ACCEL_MARGIN
  | PARAM_FILTER_USE_QUAD_INT | PARAM_FILTER_USE_MAT_EXP | PARAM_FILTER_USE_ACC
  | PARAM_CALIBRATE_GYRO_ON_ARM | PARAM_GYRO_XY_ALPHA | PARAM_GYRO_Z_ALPHA | PARAM_ACC_ALPHA
  | PARAM_GYRO_X_BIAS | PARAM_GYRO_Y_BIAS | PARAM_GYRO_Z_BIAS | PARAM_ACC_X_BIAS
  | PARAM_ACC_Y_BIAS | PARAM_ACC_Z_BIAS | PARAM_ACC_X_TEMP_COMP | PARAM_ACC_Y_TEMP_COMP
  | PARAM_ACC_Z_TEMP_COMP | PARAM_MAG_A00_COMP | PARAM_MAG_A01_COMP | PARAM_MAG_A02_COMP
  | PARAM_MAG_A10_COMP | PARAM_MAG_A11_COMP | PARAM_MAG_A12_COMP | PARAM_MAG_A20_COMP
  | PARAM_MAG_A21_COMP | PARAM_MAG_A22_COMP | PARAM_MAG_X_BIAS | PARAM_MAG_Y_BIAS
  | PARAM_MAG_Z_BIAS | PARAM_BARO_BIAS | PARAM_GROUND_LEVEL | PARAM_DIFF_PRESS_BIAS
  | PARAM_RC_TYPE | PARAM_RC_X_CHANNEL | PARAM_RC_Y_CHANNEL | PARAM_RC_Z_CHANNEL
  | PARAM_RC_F_CHANNEL | PARAM_RC_F_AXIS | PARAM_RC_ATTITUDE_OVERRIDE_CHANNEL
  | PARAM_RC_THROTTLE_OVERRIDE_CHANNEL | PARAM_RC_ATT_CONTROL_TYPE_CHANNEL | PARAM_RC_ARM_CHANNEL
  | PARAM_RC_NUM_CHANNELS | PARAM_RC_SWITCH_5_DIRECTION | PARAM_RC_SWITCH_6_DIRECTION
  | PARAM_RC_SWITCH_7_DIRECTION | PARAM_RC_SWITCH_8_DIRECTION | PARAM_RC_OVERRIDE_DEVIATION
  | PARAM_OVERRIDE_LAG_TIME | PARAM_RC_OVERRIDE_TAKE_MIN_THROTTLE | PARAM_RC_MAX_THROTTLE
  | PARAM_RC_ATTITUDE_MODE | PARAM_ALLOW_UNHEALTHY_ESTIMATOR | PARAM_EST_ANGLE_LOCKOUT
  | PARAM_RC_MAX_ROLL | PARAM_RC_MAX_PITCH | PARAM_RC_MAX_ROLLRATE | PARAM_RC_MAX_PITCHRATE
  | PARAM_RC_MAX_YAWRATE | PARAM_PRIMARY_MIXER | PARAM_SECONDARY_MIXER | PARAM_FIXED_WING
  | PARAM_ELEVATOR_REVERSE | PARAM_AILERON_REVERSE | PARAM_RUDDER_REVERSE | PARAM_IMU_ROLL
  | PARAM_IMU_PITCH | PARAM_IMU_YAW | PARAM_MAG_ROLL | PARAM_MAG_PITCH | PARAM_MAG_YAW
  | PARAM_ARM_THRESHOLD | PARAM_BATTERY_VOLTAGE_MULTIPLIER | PARAM_BATTERY_CURRENT_MULTIPLIER
  | PARAM_BATTERY_VOLTAGE_ALPHA | PARAM_BATTERY_CURRENT_ALPHA | PARAM_OFFBOARD_TIMEOUT
  | PARAM_RC_OUTPUT_KILL_CHANNEL | PARAM_TELEM_HEARTBEAT_HZ | PARAM_TELEM_STATUS_HZ
  | PARAM_TELEM_IMU_HZ | PARAM_TELEM_ATTITUDE_HZ | PARAM_TELEM_OUTPUT_RAW_HZ
  | PARAM_TELEM_DIFF_PRESSURE_HZ | PARAM_TELEM_BARO_HZ | PARAM_TELEM_MAG_HZ
  | PARAM_TELEM_RANGE_HZ | PARAM_TELEM_BATTERY_HZ | PARAM_TELEM_GNSS_HZ | PARAM_TELEM_RC_HZ
  deriving DecidableEq

/-- A parameter value of one of the four stored types. -/
inductive ParamValue (F : Type) where
  | float (value : F)
  | int (value : Int)
  | uint (value : Nat)
  | bool (value : Bool)
  deriving DecidableEq

/-- Current parameter values by identifier. -/
abbrev Params (F : Type) := ParamId → ParamValue F

namespace ParamId

/-- Wire and ground-station name of a parameter. -/
def asStr : ParamId → String
  | .PARAM_BAUD_RATE => "BAUD_RATE"
  | .PARAM_SERIAL_DEVICE => "SERIAL_DEVICE"
  | .PARAM_NUM_MOTORS => "NUM_MOTORS"
  | .PARAM_MOTOR_RESISTANCE => "MOTOR_RESISTANCE"
  | .PARAM_MOTOR_KV => "MOTOR_KV"
  | .PARAM_NO_LOAD_CURRENT => "NO_LOAD_CURRENT"
  | .PARAM_PROP_DIAMETER => "PROP_DIAMETER"
  | .PARAM_PROP_CT => "PROP_CT"
  | .PARAM_PROP_CQ => "PROP_CQ"
  | .PARAM_VOLT_MAX => "BATT_VOLT_MAX"
  | .PARAM_USE_MOTOR_PARAMETERS => "USE_MOTOR_PARAM"
  | .PARAM_PRIMARY_MIXER_OUTPUT channel => s!"PRI_MIXER_OUT_{channel.val}"
  | .PARAM_PRIMARY_MIXER_PWM_RATE channel => s!"PRI_MIXER_PWM_{channel.val}"
  | .PARAM_PRIMARY_MIXER_CELL row col => s!"PRI_MIXER_{row.val}_{col.val}"
  | .PARAM_SECONDARY_MIXER_CELL row col => s!"SEC_MIXER_{row.val}_{col.val}"
  | .PARAM_SYSTEM_ID => "SYS_ID"
  | .PARAM_PID_ROLL_RATE_P => "PID_ROLL_RATE_P"
  | .PARAM_PID_ROLL_RATE_I => "PID_ROLL_RATE_I"
  | .PARAM_PID_ROLL_RATE_D => "PID_ROLL_RATE_D"
  | .PARAM_PID_PITCH_RATE_P => "PID_PITCH_RATE_P"
  | .PARAM_PID_PITCH_RATE_I => "PID_PITCH_RATE_I"
  | .PARAM_PID_PITCH_RATE_D => "PID_PITCH_RATE_D"
  | .PARAM_PID_YAW_RATE_P => "PID_YAW_RATE_P"
  | .PARAM_PID_YAW_RATE_I => "PID_YAW_RATE_I"
  | .PARAM_PID_YAW_RATE_D => "PID_YAW_RATE_D"
  | .PARAM_PID_ROLL_ANGLE_P => "PID_ROLL_ANG_P"
  | .PARAM_PID_ROLL_ANGLE_I => "PID_ROLL_ANG_I"
  | .PARAM_PID_ROLL_ANGLE_D => "PID_ROLL_ANG_D"
  | .PARAM_PID_PITCH_ANGLE_P => "PID_PITCH_ANG_P"
  | .PARAM_PID_PITCH_ANGLE_I => "PID_PITCH_ANG_I"
  | .PARAM_PID_PITCH_ANGLE_D => "PID_PITCH_ANG_D"
  | .PARAM_X_EQ_TORQUE => "X_EQ_TORQUE"
  | .PARAM_Y_EQ_TORQUE => "Y_EQ_TORQUE"
  | .PARAM_Z_EQ_TORQUE => "Z_EQ_TORQUE"
  | .PARAM_PID_TAU => "PID_TAU"
  | .PARAM_MOTOR_IDLE_THROTTLE => "MOTOR_IDLE_THR"
  | .PARAM_FAILSAFE_THROTTLE => "FAILSAFE_THR"
  | .PARAM_SPIN_MOTORS_WHEN_ARMED => "ARM_SPIN_MOTORS"
  | .PARAM_CHANNEL_OUTPUT_MASK => "CHN_OUTPUT_MASK"
  | .PARAM_INIT_TIME => "FILT_INIT_T"
  | .PARAM_FILTER_KP_ACC => "FILT_ACC_KP"
  | .PARAM_FILTER_KI => "FILT_KI"
  | .PARAM_FILTER_KP_EXT => "FILT_EXT_KP"
  | .PARAM_FILTER_ACCEL_MARGIN => "FILT_ACC_MARGIN"
  | .PARAM_FILTER_USE_QUAD_INT => "FILT_QUAD_INT"
  | .PARAM_FILTER_USE_MAT_EXP => "FILT_MAT_EXP"
  | .PARAM_FILTER_USE_ACC => "FILT_USE_ACC"
  | .PARAM_CALIBRATE_GYRO_ON_ARM => "ARM_CAL_GYRO"
  | .PARAM_GYRO_XY_ALPHA => "GYRO_XY_LPF"
  | .PARAM_GYRO_Z_ALPHA => "GYRO_Z_LPF"
  | .PARAM_ACC_ALPHA => "ACC_LPF"
  | .PARAM_GYRO_X_BIAS => "GYRO_X_BIAS"
  | .PARAM_GYRO_Y_BIAS => "GYRO_Y_BIAS"
  | .PARAM_GYRO_Z_BIAS => "GYRO_Z_BIAS"
  | .PARAM_ACC_X_BIAS => "ACC_X_BIAS"
  | .PARAM_ACC_Y_BIAS => "ACC_Y_BIAS"
  | .PARAM_ACC_Z_BIAS => "ACC_Z_BIAS"
  | .PARAM_ACC_X_TEMP_COMP => "ACC_X_TEMP_COMP"
  | .PARAM_ACC_Y_TEMP_COMP => "ACC_Y_TEMP_COMP"
  | .PARAM_ACC_Z_TEMP_COMP => "ACC_Z_TEMP_COMP"
  | .PARAM_MAG_A00_COMP => "MAG_CAL_A00"
  | .PARAM_MAG_A01_COMP => "MAG_CAL_A01"
  | .PARAM_MAG_A02_COMP => "MAG_CAL_A02"
  | .PARAM_MAG_A10_COMP => "MAG_CAL_A10"
  | .PARAM_MAG_A11_COMP => "MAG_CAL_A11"
  | .PARAM_MAG_A12_COMP => "MAG_CAL_A12"
  | .PARAM_MAG_A20_COMP => "MAG_CAL_A20"
  | .PARAM_MAG_A21_COMP => "MAG_CAL_A21"
  | .PARAM_MAG_A22_COMP => "MAG_CAL_A22"
  | .PARAM_MAG_X_BIAS => "MAG_X_BIAS"
  | .PARAM_MAG_Y_BIAS => "MAG_Y_BIAS"
  | .PARAM_MAG_Z_BIAS => "MAG_Z_BIAS"
  | .PARAM_BARO_BIAS => "BARO_BIAS"
  | .PARAM_GROUND_LEVEL => "GROUND_LEVEL"
  | .PARAM_DIFF_PRESS_BIAS => "DIFF_PRESS_BIAS"
  | .PARAM_RC_TYPE => "RC_TYPE"
  | .PARAM_RC_X_CHANNEL => "RC_X_CHN"
  | .PARAM_RC_Y_CHANNEL => "RC_Y_CHN"
  | .PARAM_RC_Z_CHANNEL => "RC_Z_CHN"
  | .PARAM_RC_F_CHANNEL => "RC_F_CHN"
  | .PARAM_RC_F_AXIS => "RC_F_AXIS"
  | .PARAM_RC_ATTITUDE_OVERRIDE_CHANNEL => "RC_ATT_OVRD_CHN"
  | .PARAM_RC_THROTTLE_OVERRIDE_CHANNEL => "RC_THR_OVRD_CHN"
  | .PARAM_RC_ATT_CONTROL_TYPE_CHANNEL => "RC_ATT_CTRL_CHN"
  | .PARAM_RC_ARM_CHANNEL => "RC_ARM_CHN"
  | .PARAM_RC_NUM_CHANNELS => "RC_NUM_CHN"
  | .PARAM_RC_SWITCH_5_DIRECTION => "SWITCH_5_DIR"
  | .PARAM_RC_SWITCH_6_DIRECTION => "SWITCH_6_DIR"
  | .PARAM_RC_SWITCH_7_DIRECTION => "SWITCH_7_DIR"
  | .PARAM_RC_SWITCH_8_DIRECTION => "SWITCH_8_DIR"
  | .PARAM_RC_OVERRIDE_DEVIATION => "RC_OVRD_DEV"
  | .PARAM_OVERRIDE_LAG_TIME => "RC_OVRD_LAG_T"
  | .PARAM_RC_OVERRIDE_TAKE_MIN_THROTTLE => "TAKE_MIN_THR"
  | .PARAM_RC_MAX_THROTTLE => "RC_MAX_THR"
  | .PARAM_RC_ATTITUDE_MODE => "RC_ATT_MODE"
  | .PARAM_ALLOW_UNHEALTHY_ESTIMATOR => "BYPASS_UNH_EST"
  | .PARAM_EST_ANGLE_LOCKOUT => "EST_ANG_LOCKOUT"
  | .PARAM_RC_MAX_ROLL => "RC_MAX_ROLL"
  | .PARAM_RC_MAX_PITCH => "RC_MAX_PITCH"
  | .PARAM_RC_MAX_ROLLRATE => "RC_MAX_ROLLRATE"
  | .PARAM_RC_MAX_PITCHRATE => "RC_MAX_PITCHRATE"
  | .PARAM_RC_MAX_YAWRATE => "RC_MAX_YAWRATE"
  | .PARAM_PRIMARY_MIXER => "PRIMARY_MIXER"
  | .PARAM_SECONDARY_MIXER => "SECONDARY_MIXER"
  | .PARAM_FIXED_WING => "FIXED_WING"
  | .PARAM_ELEVATOR_REVERSE => "REV_ELEVATOR"
  | .PARAM_AILERON_REVERSE => "REV_AILERON"
  | .PARAM_RUDDER_REVERSE => "REV_RUDDER"
  | .PARAM_IMU_ROLL => "IMU_ROLL"
  | .PARAM_IMU_PITCH => "IMU_PITCH"
  | .PARAM_IMU_YAW => "IMU_YAW"
  | .PARAM_MAG_ROLL => "MAG_ROLL"
  | .PARAM_MAG_PITCH => "MAG_PITCH"
  | .PARAM_MAG_YAW => "MAG_YAW"
  | .PARAM_ARM_THRESHOLD => "RC_ARM_THRESHOLD"
  | .PARAM_BATTERY_VOLTAGE_MULTIPLIER => "BATT_VOLT_MULT"
  | .PARAM_BATTERY_CURRENT_MULTIPLIER => "BATT_CURR_MULT"
  | .PARAM_BATTERY_VOLTAGE_ALPHA => "BATT_VOLT_LPF"
  | .PARAM_BATTERY_CURRENT_ALPHA => "BATT_CURR_LPF"
  | .PARAM_OFFBOARD_TIMEOUT => "OFFBOARD_TIMEOUT"
  | .PARAM_RC_OUTPUT_KILL_CHANNEL => "RC_KILL_CHN"
  | .PARAM_TELEM_HEARTBEAT_HZ => "TEL_HB_HZ"
  | .PARAM_TELEM_STATUS_HZ => "TEL_STATUS_HZ"
  | .PARAM_TELEM_IMU_HZ => "TEL_IMU_HZ"
  | .PARAM_TELEM_ATTITUDE_HZ => "TEL_ATT_HZ"
  | .PARAM_TELEM_OUTPUT_RAW_HZ => "TEL_OUT_HZ"
  | .PARAM_TELEM_DIFF_PRESSURE_HZ => "TEL_DIFF_HZ"
  | .PARAM_TELEM_BARO_HZ => "TEL_BARO_HZ"
  | .PARAM_TELEM_MAG_HZ => "TEL_MAG_HZ"
  | .PARAM_TELEM_RANGE_HZ => "TEL_RANGE_HZ"
  | .PARAM_TELEM_BATTERY_HZ => "TEL_BATT_HZ"
  | .PARAM_TELEM_GNSS_HZ => "TEL_GNSS_HZ"
  | .PARAM_TELEM_RC_HZ => "TEL_RC_HZ"

/-- Default value a parameter is reset to. -/
def default {F : Type} [FlightFloat F] : ParamId → ParamValue F
  | .PARAM_BAUD_RATE => .int 921600
  | .PARAM_SERIAL_DEVICE => .int 0
  | .PARAM_NUM_MOTORS => .int 4
  | .PARAM_MOTOR_RESISTANCE => .float (FlightFloat.lit 0.042)
  | .PARAM_MOTOR_KV => .float (FlightFloat.lit 0.01706)
  | .PARAM_NO_LOAD_CURRENT => .float (FlightFloat.lit 1.5)
  | .PARAM_PROP_DIAMETER => .float (FlightFloat.lit 0.381)
  | .PARAM_PROP_CT => .float (FlightFloat.lit 0.075)
  | .PARAM_PROP_CQ => .float (FlightFloat.lit 0.0045)
  | .PARAM_VOLT_MAX => .float (FlightFloat.lit 25.0)
  | .PARAM_USE_MOTOR_PARAMETERS => .int 0
  | .PARAM_PRIMARY_MIXER_OUTPUT _ => .int 0
  | .PARAM_PRIMARY_MIXER_PWM_RATE _ => .float (FlightFloat.lit 0.0)
  | .PARAM_PRIMARY_MIXER_CELL _ _ => .float (FlightFloat.lit 0.0)
  | .PARAM_SECONDARY_MIXER_CELL _ _ => .float (FlightFloat.lit 0.0)
  | .PARAM_SYSTEM_ID => .int 1
  | .PARAM_PID_ROLL_RATE_P => .float (FlightFloat.lit 0.070)
  | .PARAM_PID_ROLL_RATE_I => .float (FlightFloat.lit 0.0)
  | .PARAM_PID_ROLL_RATE_D => .float (FlightFloat.lit 0.0)
  | .PARAM_PID_PITCH_RATE_P => .float (FlightFloat.lit 0.070)
  | .PARAM_PID_PITCH_RATE_I => .float (FlightFloat.lit 0.0)
  | .PARAM_PID_PITCH_RATE_D => .float (FlightFloat.lit 0.0)
  | .PARAM_PID_YAW_RATE_P => .float (FlightFloat.lit 0.25)
  | .PARAM_PID_YAW_RATE_I => .float (FlightFloat.lit 0.0)
  | .PARAM_PID_YAW_RATE_D => .float (FlightFloat.lit 0.0)
  | .PARAM_PID_ROLL_ANGLE_P => .float (FlightFloat.lit 0.15)
  | .PARAM_PID_ROLL_ANGLE_I => .float (FlightFloat.lit 0.0)
  | .PARAM_PID_ROLL_ANGLE_D => .float (FlightFloat.lit 0.05)
  | .PARAM_PID_PITCH_ANGLE_P => .float (FlightFloat.lit 0.15)
  | .PARAM_PID_PITCH_ANGLE_I => .float (FlightFloat.lit 0.0)
  | .PARAM_PID_PITCH_ANGLE_D => .float (FlightFloat.lit 0.05)
  | .PARAM_X_EQ_TORQUE => .float (FlightFloat.lit 0.0)
  | .PARAM_Y_EQ_TORQUE => .float (FlightFloat.lit 0.0)
  | .PARAM_Z_EQ_TORQUE => .float (FlightFloat.lit 0.0)
  | .PARAM_PID_TAU => .float (FlightFloat.lit 0.05)
  | .PARAM_MOTOR_IDLE_THROTTLE => .float (FlightFloat.lit 0.1)
  | .PARAM_FAILSAFE_THROTTLE => .float (FlightFloat.lit (-1.0))
  | .PARAM_SPIN_MOTORS_WHEN_ARMED => .int 1
  | .PARAM_CHANNEL_OUTPUT_MASK => .int 15
  | .PARAM_INIT_TIME => .int 3000
  | .PARAM_FILTER_KP_ACC => .float (FlightFloat.lit 0.5)
  | .PARAM_FILTER_KI => .float (FlightFloat.lit 0.01)
  | .PARAM_FILTER_KP_EXT => .float (FlightFloat.lit 1.5)
  | .PARAM_FILTER_ACCEL_MARGIN => .float (FlightFloat.lit 0.1)
  | .PARAM_FILTER_USE_QUAD_INT => .int 1
  | .PARAM_FILTER_USE_MAT_EXP => .int 1
  | .PARAM_FILTER_USE_ACC => .int 1
  | .PARAM_CALIBRATE_GYRO_ON_ARM => .int 0
  | .PARAM_GYRO_XY_ALPHA => .float (FlightFloat.lit 0.3)
  | .PARAM_GYRO_Z_ALPHA => .float (FlightFloat.lit 0.3)
  | .PARAM_ACC_ALPHA => .float (FlightFloat.lit 0.5)
  | .PARAM_GYRO_X_BIAS => .float (FlightFloat.lit 0.0)
  | .PARAM_GYRO_Y_BIAS => .float (FlightFloat.lit 0.0)
  | .PARAM_GYRO_Z_BIAS => .float (FlightFloat.lit 0.0)
  | .PARAM_ACC_X_BIAS => .float (FlightFloat.lit 0.0)
  | .PARAM_ACC_Y_BIAS => .float (FlightFloat.lit 0.0)
  | .PARAM_ACC_Z_BIAS => .float (FlightFloat.lit 0.0)
  | .PARAM_ACC_X_TEMP_COMP => .float (FlightFloat.lit 0.0)
  | .PARAM_ACC_Y_TEMP_COMP => .float (FlightFloat.lit 0.0)
  | .PARAM_ACC_Z_TEMP_COMP => .float (FlightFloat.lit 0.0)
  | .PARAM_MAG_A00_COMP => .float (FlightFloat.lit 1.0)
  | .PARAM_MAG_A01_COMP => .float (FlightFloat.lit 0.0)
  | .PARAM_MAG_A02_COMP => .float (FlightFloat.lit 0.0)
  | .PARAM_MAG_A10_COMP => .float (FlightFloat.lit 0.0)
  | .PARAM_MAG_A11_COMP => .float (FlightFloat.lit 1.0)
  | .PARAM_MAG_A12_COMP => .float (FlightFloat.lit 0.0)
  | .PARAM_MAG_A20_COMP => .float (FlightFloat.lit 0.0)
  | .PARAM_MAG_A21_COMP => .float (FlightFloat.lit 0.0)
  | .PARAM_MAG_A22_COMP => .float (FlightFloat.lit 1.0)
  | .PARAM_MAG_X_BIAS => .float (FlightFloat.lit 0.0)
  | .PARAM_MAG_Y_BIAS => .float (FlightFloat.lit 0.0)
  | .PARAM_MAG_Z_BIAS => .float (FlightFloat.lit 0.0)
  | .PARAM_BARO_BIAS => .float (FlightFloat.lit 0.0)
  | .PARAM_GROUND_LEVEL => .float (FlightFloat.lit 1387.0)
  | .PARAM_DIFF_PRESS_BIAS => .float (FlightFloat.lit 0.0)
  | .PARAM_RC_TYPE => .int 0
  | .PARAM_RC_X_CHANNEL => .int 0
  | .PARAM_RC_Y_CHANNEL => .int 1
  | .PARAM_RC_Z_CHANNEL => .int 3
  | .PARAM_RC_F_CHANNEL => .int 2
  | .PARAM_RC_F_AXIS => .int 2
  | .PARAM_RC_ATTITUDE_OVERRIDE_CHANNEL => .int 4
  | .PARAM_RC_THROTTLE_OVERRIDE_CHANNEL => .int 4
  | .PARAM_RC_ATT_CONTROL_TYPE_CHANNEL => .int (-1)
  | .PARAM_RC_ARM_CHANNEL => .int (-1)
  | .PARAM_RC_NUM_CHANNELS => .int 6
  | .PARAM_RC_SWITCH_5_DIRECTION => .int 1
  | .PARAM_RC_SWITCH_6_DIRECTION => .int 1
  | .PARAM_RC_SWITCH_7_DIRECTION => .int 1
  | .PARAM_RC_SWITCH_8_DIRECTION => .int 1
  | .PARAM_RC_OVERRIDE_DEVIATION => .float (FlightFloat.lit 0.1)
  | .PARAM_OVERRIDE_LAG_TIME => .int 1000
  | .PARAM_RC_OVERRIDE_TAKE_MIN_THROTTLE => .int 1
  | .PARAM_RC_MAX_THROTTLE => .float (FlightFloat.lit 0.7)
  | .PARAM_RC_ATTITUDE_MODE => .int 1
  | .PARAM_ALLOW_UNHEALTHY_ESTIMATOR => .int 1
  | .PARAM_EST_ANGLE_LOCKOUT => .int 0
  | .PARAM_RC_MAX_ROLL => .float (FlightFloat.lit 0.786)
  | .PARAM_RC_MAX_PITCH => .float (FlightFloat.lit 0.786)
  | .PARAM_RC_MAX_ROLLRATE => .float (FlightFloat.lit 3.14159)
  | .PARAM_RC_MAX_PITCHRATE => .float (FlightFloat.lit 3.14159)
  | .PARAM_RC_MAX_YAWRATE => .float (FlightFloat.lit 1.507)
  | .PARAM_PRIMARY_MIXER => .int (-1)
  | .PARAM_SECONDARY_MIXER => .int (-1)
  | .PARAM_FIXED_WING => .int 0
  | .PARAM_ELEVATOR_REVERSE => .int 0
  | .PARAM_AILERON_REVERSE => .int 0
  | .PARAM_RUDDER_REVERSE => .int 0
  | .PARAM_IMU_ROLL => .float (FlightFloat.lit 0.0)
  | .PARAM_IMU_PITCH => .float (FlightFloat.lit 0.0)
  | .PARAM_IMU_YAW => .float (FlightFloat.lit 0.0)
  | .PARAM_MAG_ROLL => .float (FlightFloat.lit 0.0)
  | .PARAM_MAG_PITCH => .float (FlightFloat.lit 0.0)
  | .PARAM_MAG_YAW => .float (FlightFloat.lit 0.0)
  | .PARAM_ARM_THRESHOLD => .float (FlightFloat.lit 0.15)
  | .PARAM_BATTERY_VOLTAGE_MULTIPLIER => .float (FlightFloat.lit 1.0)
  | .PARAM_BATTERY_CURRENT_MULTIPLIER => .float (FlightFloat.lit 1.0)
  | .PARAM_BATTERY_VOLTAGE_ALPHA => .float (FlightFloat.lit 0.995)
  | .PARAM_BATTERY_CURRENT_ALPHA => .float (FlightFloat.lit 0.995)
  | .PARAM_OFFBOARD_TIMEOUT => .int 100
  | .PARAM_RC_OUTPUT_KILL_CHANNEL => .int (-1)
  | .PARAM_TELEM_HEARTBEAT_HZ => .int 1
  | .PARAM_TELEM_STATUS_HZ => .int 10
  | .PARAM_TELEM_IMU_HZ => .int 0
  | .PARAM_TELEM_ATTITUDE_HZ => .int 0
  | .PARAM_TELEM_OUTPUT_RAW_HZ => .int 50
  | .PARAM_TELEM_DIFF_PRESSURE_HZ => .int 0
  | .PARAM_TELEM_BARO_HZ => .int 0
  | .PARAM_TELEM_MAG_HZ => .int 0
  | .PARAM_TELEM_RANGE_HZ => .int 0
  | .PARAM_TELEM_BATTERY_HZ => .int 0
  | .PARAM_TELEM_GNSS_HZ => .int 0
  | .PARAM_TELEM_RC_HZ => .int 0

/-- Parameters listed before the mixer tables. -/
def tableHead : List ParamId :=
  [.PARAM_BAUD_RATE, .PARAM_SERIAL_DEVICE, .PARAM_NUM_MOTORS, .PARAM_MOTOR_RESISTANCE,
    .PARAM_MOTOR_KV, .PARAM_NO_LOAD_CURRENT, .PARAM_PROP_DIAMETER, .PARAM_PROP_CT,
    .PARAM_PROP_CQ, .PARAM_VOLT_MAX, .PARAM_USE_MOTOR_PARAMETERS]

/-- Mixer parameters, with each matrix stored column by column. -/
def tableMixers : List ParamId :=
  (List.finRange 10).map PARAM_PRIMARY_MIXER_OUTPUT ++
  (List.finRange 10).map PARAM_PRIMARY_MIXER_PWM_RATE ++
  (List.finRange 10).flatMap (fun col =>
    (List.finRange 10).map fun row => PARAM_PRIMARY_MIXER_CELL row col) ++
  (List.finRange 10).flatMap (fun col =>
    (List.finRange 10).map fun row => PARAM_SECONDARY_MIXER_CELL row col)

/-- Parameters listed after the mixer tables. -/
def tableTail : List ParamId :=
  [.PARAM_SYSTEM_ID, .PARAM_PID_ROLL_RATE_P, .PARAM_PID_ROLL_RATE_I, .PARAM_PID_ROLL_RATE_D,
    .PARAM_PID_PITCH_RATE_P, .PARAM_PID_PITCH_RATE_I, .PARAM_PID_PITCH_RATE_D,
    .PARAM_PID_YAW_RATE_P, .PARAM_PID_YAW_RATE_I, .PARAM_PID_YAW_RATE_D, .PARAM_PID_ROLL_ANGLE_P,
    .PARAM_PID_ROLL_ANGLE_I, .PARAM_PID_ROLL_ANGLE_D, .PARAM_PID_PITCH_ANGLE_P,
    .PARAM_PID_PITCH_ANGLE_I, .PARAM_PID_PITCH_ANGLE_D, .PARAM_X_EQ_TORQUE, .PARAM_Y_EQ_TORQUE,
    .PARAM_Z_EQ_TORQUE, .PARAM_PID_TAU, .PARAM_MOTOR_IDLE_THROTTLE, .PARAM_FAILSAFE_THROTTLE,
    .PARAM_SPIN_MOTORS_WHEN_ARMED, .PARAM_CHANNEL_OUTPUT_MASK, .PARAM_INIT_TIME,
    .PARAM_FILTER_KP_ACC, .PARAM_FILTER_KI, .PARAM_FILTER_KP_EXT, .PARAM_FILTER_ACCEL_MARGIN,
    .PARAM_FILTER_USE_QUAD_INT, .PARAM_FILTER_USE_MAT_EXP, .PARAM_FILTER_USE_ACC,
    .PARAM_CALIBRATE_GYRO_ON_ARM, .PARAM_GYRO_XY_ALPHA, .PARAM_GYRO_Z_ALPHA, .PARAM_ACC_ALPHA,
    .PARAM_GYRO_X_BIAS, .PARAM_GYRO_Y_BIAS, .PARAM_GYRO_Z_BIAS, .PARAM_ACC_X_BIAS,
    .PARAM_ACC_Y_BIAS, .PARAM_ACC_Z_BIAS, .PARAM_ACC_X_TEMP_COMP, .PARAM_ACC_Y_TEMP_COMP,
    .PARAM_ACC_Z_TEMP_COMP, .PARAM_MAG_A00_COMP, .PARAM_MAG_A01_COMP, .PARAM_MAG_A02_COMP,
    .PARAM_MAG_A10_COMP, .PARAM_MAG_A11_COMP, .PARAM_MAG_A12_COMP, .PARAM_MAG_A20_COMP,
    .PARAM_MAG_A21_COMP, .PARAM_MAG_A22_COMP, .PARAM_MAG_X_BIAS, .PARAM_MAG_Y_BIAS,
    .PARAM_MAG_Z_BIAS, .PARAM_BARO_BIAS, .PARAM_GROUND_LEVEL, .PARAM_DIFF_PRESS_BIAS,
    .PARAM_RC_TYPE, .PARAM_RC_X_CHANNEL, .PARAM_RC_Y_CHANNEL, .PARAM_RC_Z_CHANNEL,
    .PARAM_RC_F_CHANNEL, .PARAM_RC_F_AXIS, .PARAM_RC_ATTITUDE_OVERRIDE_CHANNEL,
    .PARAM_RC_THROTTLE_OVERRIDE_CHANNEL, .PARAM_RC_ATT_CONTROL_TYPE_CHANNEL,
    .PARAM_RC_ARM_CHANNEL, .PARAM_RC_NUM_CHANNELS, .PARAM_RC_SWITCH_5_DIRECTION,
    .PARAM_RC_SWITCH_6_DIRECTION, .PARAM_RC_SWITCH_7_DIRECTION, .PARAM_RC_SWITCH_8_DIRECTION,
    .PARAM_RC_OVERRIDE_DEVIATION, .PARAM_OVERRIDE_LAG_TIME, .PARAM_RC_OVERRIDE_TAKE_MIN_THROTTLE,
    .PARAM_RC_MAX_THROTTLE, .PARAM_RC_ATTITUDE_MODE, .PARAM_ALLOW_UNHEALTHY_ESTIMATOR,
    .PARAM_EST_ANGLE_LOCKOUT, .PARAM_RC_MAX_ROLL, .PARAM_RC_MAX_PITCH, .PARAM_RC_MAX_ROLLRATE,
    .PARAM_RC_MAX_PITCHRATE, .PARAM_RC_MAX_YAWRATE, .PARAM_PRIMARY_MIXER, .PARAM_SECONDARY_MIXER,
    .PARAM_FIXED_WING, .PARAM_ELEVATOR_REVERSE, .PARAM_AILERON_REVERSE, .PARAM_RUDDER_REVERSE,
    .PARAM_IMU_ROLL, .PARAM_IMU_PITCH, .PARAM_IMU_YAW, .PARAM_MAG_ROLL, .PARAM_MAG_PITCH,
    .PARAM_MAG_YAW, .PARAM_ARM_THRESHOLD, .PARAM_BATTERY_VOLTAGE_MULTIPLIER,
    .PARAM_BATTERY_CURRENT_MULTIPLIER, .PARAM_BATTERY_VOLTAGE_ALPHA,
    .PARAM_BATTERY_CURRENT_ALPHA, .PARAM_OFFBOARD_TIMEOUT, .PARAM_RC_OUTPUT_KILL_CHANNEL,
    .PARAM_TELEM_HEARTBEAT_HZ, .PARAM_TELEM_STATUS_HZ, .PARAM_TELEM_IMU_HZ,
    .PARAM_TELEM_ATTITUDE_HZ, .PARAM_TELEM_OUTPUT_RAW_HZ, .PARAM_TELEM_DIFF_PRESSURE_HZ,
    .PARAM_TELEM_BARO_HZ, .PARAM_TELEM_MAG_HZ, .PARAM_TELEM_RANGE_HZ, .PARAM_TELEM_BATTERY_HZ,
    .PARAM_TELEM_GNSS_HZ, .PARAM_TELEM_RC_HZ]

/-- Table order of the parameters, which is also their index order. -/
def table : List ParamId := tableHead ++ tableMixers ++ tableTail

/-- Identifier at a table index. -/
def fromIndex (index : Nat) : Option ParamId := table[index]?

/-- Table index of an identifier. -/
def toIndex (id : ParamId) : Nat := table.idxOf id

end ParamId

/-- Number of parameters in the table. -/
def paramsCount : Nat := ParamId.table.length

namespace Params

variable {F : Type}

/-- Parameters at their default values. -/
def new [FlightFloat F] : Params F := ParamId.default

/-- Reset every parameter to its default. -/
def setDefaults [FlightFloat F] (_params : Params F) : Params F := ParamId.default

/-- Current value of a parameter. -/
def getById (params : Params F) (id : ParamId) : ParamValue F := params id

/-- Replace the value of one parameter. -/
def setById (params : Params F) (id : ParamId) (value : ParamValue F) : Params F :=
  Function.update params id value

@[simp] theorem getById_setById_self (params : Params F) (id : ParamId) (value : ParamValue F) :
    (params.setById id value).getById id = value := by
  -- The update is read back at its own identifier.
  simp [getById, setById]

/-- Setting one parameter leaves every other parameter as it was. -/
theorem getById_setById_of_ne (params : Params F) {id other : ParamId} (value : ParamValue F)
    (differs : other ≠ id) : (params.setById id value).getById other = params.getById other := by
  -- The update is invisible at other identifiers.
  simp [getById, setById, differs]

/-- The source's pattern for a switch-like parameter: an integer other than zero. -/
def isNonzeroInt (params : Params F) (id : ParamId) : Bool :=
  match params.getById id with
  | .int value => value != 0
  | _ => false

/-- Integer value of a parameter, or a fallback when it holds another type. -/
def intOr (params : Params F) (id : ParamId) (fallback : Int) : Int :=
  match params.getById id with
  | .int value => value
  | _ => fallback

/-- Single-precision value of a parameter, or a fallback when it holds another type. -/
def floatOr (params : Params F) (id : ParamId) (fallback : F) : F :=
  match params.getById id with
  | .float value => value
  | _ => fallback

end Params

end Veloxity
