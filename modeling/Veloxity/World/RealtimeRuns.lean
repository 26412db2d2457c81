import Veloxity.World.Runs

/-! Steps of the realtime scheduler, and the parts of a service step that its slack lets through. -/

namespace Veloxity

/-- One step of the realtime scheduler with what the board gives it. -/
inductive RealtimeStep (F R : Type) where
  | imuControl (input : ImuTickInput F R)
  | controlUpdate (nowUs finishedUs : Nat)
  | service (policy : RealtimeServicePolicy) (input : ServiceStepInput F R)

namespace World

variable {F R S O E C M D : Type}
variable [FlightFloat F] [FlightFloat R] [FloatCast F R] [ReflectionFormat F] [Estimator F R S E]
  [Controller F R S O C] [Mixer F R O M] [PwmDriver R D]

/-- Run one step of the realtime scheduler. -/
def realtimeStep (world : World F R E C M D) : RealtimeStep F R → World F R E C M D
  | .imuControl input => world.runImuControlTick input
  | .controlUpdate nowUs finishedUs => world.runControlUpdateTick nowUs finishedUs
  | .service policy input => (world.runPrioritizedServiceStep policy input).1

section Parts

variable (world : World F R E C M D) (policy : RealtimeServicePolicy)
  (input : ServiceStepInput F R)

omit [FlightFloat F] [FlightFloat R] [FloatCast F R] [ReflectionFormat F] [Estimator F R S E]
  [Controller F R S O C] [Mixer F R O M] [PwmDriver R D] in
/-- A service step lets its sensor stage run. -/
def serviceSenses : Bool :=
  (world.serviceTelemetry policy input).1.realtimeServiceCanContinue input.sensorSlack

omit [ReflectionFormat F] [Controller F R S O C] [Mixer F R O M] [PwmDriver R D] in
/-- The world after the sensor stage of a service step. -/
def serviceSensed : World F R E C M D :=
  if world.serviceSenses policy input then
    (world.serviceTelemetry policy input).1.runServiceSensorStage input.sensors
  else (world.serviceTelemetry policy input).1

omit [PwmDriver R D] in
/-- The world after the input stage of a service step. -/
def serviceServed : World F R E C M D :=
  if (world.serviceSensed policy input).realtimeServiceCanContinue input.inputSlack then
    (world.serviceSensed policy input).runCommunicationAndParameterServiceStage input.communication
  else world.serviceSensed policy input

omit [PwmDriver R D] in
/-- A service step lets its radio-control stage run. -/
def serviceResolves : Bool :=
  (world.serviceServed policy input).realtimeServiceCanContinue input.rcSlack

omit [PwmDriver R D] in
/-- The sample that the radio-control stage of a service step takes for fresh. -/
def serviceFreshRc : Option (RcPacket F) :=
  if world.serviceSenses policy input && input.sensors.raw.rc.isSome then
    (world.serviceServed policy input).processedSensors.rc
  else none

/-- The world after the radio-control stage of a service step. -/
def serviceResolved : World F R E C M D :=
  if world.serviceResolves policy input then
    (world.serviceServed policy input).runRcCommandStateStages input.rcMs
      (world.serviceFreshRc policy input)
  else world.serviceServed policy input

/-- After its radio-control stage a service step at most sends responses. -/
theorem runPrioritizedServiceStep_eq : (world.runPrioritizedServiceStep policy input).1 =
    if (world.serviceResolved policy input).realtimeServiceCanContinue input.responseSlack then
      (world.serviceResolved policy input).drainLogsAndSendResponsesLimited input.log
        REALTIME_SERVICE_RESPONSE_BUDGET
    else world.serviceResolved policy input := rfl

end Parts

end World

end Veloxity
