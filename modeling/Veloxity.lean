import Veloxity.Comms.ParserSafety
import Veloxity.State.ArmingRuns
import Veloxity.Command.LockoutLaws
import Veloxity.Command.LockoutRuns
import Veloxity.Command.FailsafeCommand
import Veloxity.Pwm.DisarmedOutputs
import Veloxity.Comm.TelemetryDrain
import Veloxity.Library.BoundedQueue
import Veloxity.Mixer.Matrix
import Veloxity.Params.Service
import Veloxity.Sensors.Calibration
import Veloxity.Sensors.Processors
import Veloxity.Sensors.Ingestion
import Veloxity.Control.Interfaces
import Veloxity.Control.Pipeline
import Veloxity.Comm.Manager
import Veloxity.Command.Service
import Veloxity.Params.Reactions
import Veloxity.World.Stages
import Veloxity.World.Scheduling
import Veloxity.State.Evolution
import Veloxity.World.CalibrationLaws
import Veloxity.World.Bench
import Veloxity.State.FlagRuns
import Veloxity.Comms.FramingRoundTrip
import Veloxity.Comms.EmittedFrames
import Veloxity.World.FailsafeLaws
import Veloxity.World.DisarmLaws
import Veloxity.World.MixerLaws
import Veloxity.World.HealthLaws
import Veloxity.World.RcDelivery
import Veloxity.Comm.TelemetryAgreement
import Veloxity.World.ReactionLaws
import Veloxity.Boards.MailboxLaws
import Veloxity.Boards.SerialTx
import Veloxity.Control.SampleTimes
import Veloxity.Params.StorageRoundTrip
import Veloxity.World.AcknowledgedCommands
import Veloxity.World.ArmedRequests
import Veloxity.World.ControlSlots
import Veloxity.World.ParamListings
import Veloxity.World.SystemId
import Veloxity.Boards.DownlinkLaws
import Veloxity.Boards.Sbus
import Veloxity.Boards.Gps
import Veloxity.Boards.Ublox
import Veloxity.Tools.PackedFrames
import Veloxity.Boards.SdPromises
import Veloxity.World.CalibrationLatch
import Veloxity.World.OnboardChanges
import Veloxity.World.ReflectedMixers
import Veloxity.Rc.StickArmingLaws
import Veloxity.Pwm.OutputBounds
import Veloxity.World.SingleChanges
import Veloxity.World.MixerReconfiguration
import Veloxity.Mixer.MixingLaw
import Veloxity.Pwm.EnableTracking
import Veloxity.Params.ImageCorruption
import Veloxity.World.ImuAverages
import Veloxity.Sensors.PressureWindow
import Veloxity.Comm.TelemetrySelection
import Veloxity.Command.OverrideReports
import Veloxity.Command.ClockWrap
import Veloxity.Boards.ServoRates
import Veloxity.Boards.SdImageLaws
import Veloxity.Control.ExternalAttitudes
import Veloxity.Control.AntiWindup
import Veloxity.Command.StickLag
import Veloxity.World.ImuCalibrations
import Veloxity.Boards.UtcTime
import Veloxity.Boards.SbusPacking
import Veloxity.World.OneShotMessages
import Veloxity.World.ParamArithmetic
import Veloxity.Comm.TelemetryRateLaws
import Veloxity.Comms.FrameEncoder
import Veloxity.Boards.SendingCoresLaws
import Veloxity.Boards.ReceivingCoresLaws
import Veloxity.Boards.PicoSensorsLaws
import Veloxity.Tools.BridgeReceive
import Veloxity.Tools.BridgeGaps
import Veloxity.Tools.RadioTelemetry
import Veloxity.Sim.FfiSensorsLaws
import Veloxity.Sim.WorkerRounds
