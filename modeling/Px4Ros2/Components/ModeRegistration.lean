import Px4Ros2.Components.ModeExecutor
import Px4Ros2.Components.Registration

/-! `doRegister` of `ModeBase` and `ModeExecutorBase`, with the objects it goes through: the
registrations, the setpoint types, the mode requirements and the configuration overrides. A failed
assertion leaves no result. -/

set_option autoImplicit false

namespace Px4Ros2

/-- `SetpointBase::Configuration`. -/
structure SetpointConfiguration where
  controlAllocationEnabled : Bool := true
  ratesEnabled : Bool := true
  attitudeEnabled : Bool := true
  altitudeEnabled : Bool := true
  accelerationEnabled : Bool := true
  velocityEnabled : Bool := true
  positionEnabled : Bool := true
  localPositionIsOptional : Bool := false
  climbRateEnabled : Bool := false
deriving DecidableEq, Repr

structure VehicleControlMode where
  sourceId : UInt8
  flagControlRatesEnabled : Bool
  flagControlAttitudeEnabled : Bool
  flagControlAccelerationEnabled : Bool
  flagControlVelocityEnabled : Bool
  flagControlPositionEnabled : Bool
  flagControlAltitudeEnabled : Bool
  flagControlAllocationEnabled : Bool
  flagControlClimbRateEnabled : Bool
deriving DecidableEq, Repr

def SetpointConfiguration.fillControlMode (config : SetpointConfiguration) (sourceId : UInt8) :
    VehicleControlMode :=
  { sourceId
    flagControlRatesEnabled := config.ratesEnabled
    flagControlAttitudeEnabled := config.attitudeEnabled
    flagControlAccelerationEnabled := config.accelerationEnabled
    flagControlVelocityEnabled := config.velocityEnabled
    flagControlPositionEnabled := config.positionEnabled
    flagControlAltitudeEnabled := config.altitudeEnabled
    flagControlAllocationEnabled := config.controlAllocationEnabled
    flagControlClimbRateEnabled := config.climbRateEnabled }

structure SetpointBase where
  configuration : SetpointConfiguration := {}
  desiredUpdateRateHz : Rat := 50
  /-- `_should_activate_cb` is set. -/
  hasShouldActivateCallback : Bool := false
  active : Bool := false
deriving DecidableEq, Repr

structure RequirementFlags where
  angularVelocity : Bool := false
  attitude : Bool := false
  localAlt : Bool := false
  localPosition : Bool := false
  localPositionRelaxed : Bool := false
  globalPosition : Bool := false
  mission : Bool := false
  homePosition : Bool := false
  preventArming : Bool := false
  manualControl : Bool := false
deriving DecidableEq, Repr

namespace RequirementFlags

/-- What one setpoint type requires. -/
def require (requirements : RequirementFlags) (config : SetpointConfiguration) :
    RequirementFlags :=
  { requirements with
    angularVelocity := requirements.angularVelocity || config.ratesEnabled
    attitude := requirements.attitude || config.attitudeEnabled
    localAlt := requirements.localAlt || config.altitudeEnabled || config.climbRateEnabled
    localPosition :=
      if config.localPositionIsOptional then requirements.localPosition
      else requirements.localPosition || config.velocityEnabled || config.positionEnabled }

/-- A manual mode makes do with a relaxed local position accuracy. -/
def relax (requirements : RequirementFlags) : RequirementFlags :=
  if requirements.manualControl then
    if requirements.localPosition then
      { requirements with localPosition := false, localPositionRelaxed := true }
    else requirements
  else requirements

theorem relax_relax (requirements : RequirementFlags) :
    requirements.relax.relax = requirements.relax := by
  unfold relax
  cases manual : requirements.manualControl <;> cases position : requirements.localPosition <;>
    simp [manual, position]

end RequirementFlags

namespace ConfigOverridesRequest
def sourceTypeMode : UInt8 := 0
def sourceTypeModeExecutor : UInt8 := 1
end ConfigOverridesRequest

/-- The message of `ConfigOverrides`. -/
structure ConfigOverridesRequest extends ConfigOverrides where
  disableAutoDisarm : Bool := false
  sourceType : UInt8 := 0
  sourceId : UInt8 := 0
deriving DecidableEq, Repr

/-- The class `ConfigOverrides`. -/
structure OverridesState where
  currentOverrides : ConfigOverridesRequest := {}
  isSetup : Bool := false
  requireUpdateAfterSetup : Bool := false
deriving DecidableEq, Repr

inductive Published where
  | registerExtComponentRequest (message : RegisterExtComponentRequest)
  | unregisterExtComponent (message : UnregisterExtComponent)
  | configOverrides (message : ConfigOverridesRequest)
  | vehicleControlMode (message : VehicleControlMode)
deriving DecidableEq, Repr

/-- `ConfigOverrides::setup`. -/
def OverridesState.setup (overrides : OverridesState) (type id : UInt8) :
    Option (OverridesState × List Published) :=
  if overrides.isSetup then none
  else
    let currentOverrides :=
      { overrides.currentOverrides with sourceType := type, sourceId := id }
    if overrides.requireUpdateAfterSetup then
      some ({ currentOverrides, isSetup := true, requireUpdateAfterSetup := false },
        [.configOverrides currentOverrides])
    else some ({ overrides with currentOverrides, isSetup := true }, [])

/-- The objects whose constructor makes a `Registration`. -/
inductive RegistrationOwner where
  | modeBase
  | healthAndArmingChecks
  | modeExecutorBase
deriving DecidableEq, Repr

structure Registrations where
  modeBase : Registration := {}
  healthAndArmingChecks : Registration := {}
  modeExecutorBase : Registration := {}
deriving DecidableEq, Repr

namespace Registrations

def get (registrations : Registrations) : RegistrationOwner → Registration
  | .modeBase => registrations.modeBase
  | .healthAndArmingChecks => registrations.healthAndArmingChecks
  | .modeExecutorBase => registrations.modeExecutorBase

def set (registrations : Registrations) (owner : RegistrationOwner)
    (registration : Registration) : Registrations :=
  match owner with
  | .modeBase => { registrations with modeBase := registration }
  | .healthAndArmingChecks => { registrations with healthAndArmingChecks := registration }
  | .modeExecutorBase => { registrations with modeExecutorBase := registration }

@[simp] theorem get_set (registrations : Registrations) (owner other : RegistrationOwner)
    (registration : Registration) :
    (registrations.set owner registration).get other =
      if other = owner then registration else registrations.get other := by
  cases owner <;> cases other <;> rfl

@[simp] theorem set_get (registrations : Registrations) (owner : RegistrationOwner) :
    registrations.set owner (registrations.get owner) = registrations := by
  cases owner <;> rfl

end Registrations

/-- `ModeBase::Settings`, as far as the registration reads them. -/
structure ModeSettings where
  name : List UInt8
  replaceInternalMode : ModeID := kModeIDInvalid
  userSelectable : Bool := true
deriving DecidableEq, Repr

/-- A mode, with the executor that owns it if there is one. -/
structure Component where
  topicNamespacePrefix : String := ""
  registrations : Registrations := {}
  /-- The pointers to a registration. -/
  modeRegistration : RegistrationOwner := .modeBase
  healthRegistration : RegistrationOwner := .healthAndArmingChecks
  settings : ModeSettings
  modeSkipsMessageCompatibilityCheck : Bool := false
  executorSkipsMessageCompatibilityCheck : Bool := false
  activation : Activation := .activateOnlyWhenArmed
  mode : ModeBase
  modeRequirements : RequirementFlags := {}
  setpointTypes : List SetpointBase := []
  newSetpointTypes : List SetpointBase := []
  vehicleStatusSubscribed : Bool := true
  modeOverrides : OverridesState := {}
  executorOverrides : OverridesState := {}
deriving DecidableEq, Repr

namespace Component

/-- `ModeBase::_registration`. -/
def registration (component : Component) : Registration :=
  component.registrations.get component.modeRegistration

/-- `ModeExecutorBase::_registration`. -/
def executorRegistration (component : Component) : Registration :=
  component.registrations.get .modeExecutorBase

def getRegistrationSettings (component : Component) : RegistrationSettings :=
  { name := component.settings.name
    registerArmingCheck := true
    registerMode := true
    enableReplaceInternalMode := component.settings.replaceInternalMode != kModeIDInvalid
    replaceInternalMode :=
      if component.settings.replaceInternalMode != kModeIDInvalid then
        component.settings.replaceInternalMode
      else 0
    userSelectable := component.settings.userSelectable }

def updateModeRequirementsFromSetpoints (component : Component) : Component :=
  { component with
    modeRequirements :=
      (component.setpointTypes.foldl (fun requirements setpoint =>
        requirements.require setpoint.configuration) component.modeRequirements).relax }

/-- `ModeBase::onAboutToRegister`. -/
def onAboutToRegister (component : Component) : Option Component :=
  if component.setpointTypes = [] then
    some (updateModeRequirementsFromSetpoints
      { component with
        setpointTypes := component.newSetpointTypes.map
          ({ · with hasShouldActivateCallback := true })
        newSetpointTypes := [] })
  else none

/-- `HealthAndArmingChecks::overrideRegistration`. -/
def overrideHealthRegistration (component : Component) (owner : RegistrationOwner) :
    Option Component :=
  if (component.registrations.get component.healthRegistration).registered then none
  else some { component with healthRegistration := owner }

/-- `ModeBase::overrideRegistration`. -/
def overrideRegistration (component : Component) (owner : RegistrationOwner) :
    Option Component :=
  if component.registration.registered then none
  else do
    let component ← component.overrideHealthRegistration owner
    return { component with modeRegistration := owner }

/-- `ModeBase::activateSetpointType`, of the first setpoint type. -/
def activateFirstSetpointType (component : Component) : Component × List Published :=
  match component.setpointTypes with
  | [] => (component, [])
  | setpoint :: others =>
      ({ component with setpointTypes := { setpoint with active := true } :: others },
        [.vehicleControlMode
          (setpoint.configuration.fillControlMode component.registration.modeId)])

def setSetpointUpdateRateFromSetpointTypes (component : Component) : Component :=
  let maxUpdateRate := component.setpointTypes.foldl
    (fun rate setpoint =>
      if rate < setpoint.desiredUpdateRateHz then setpoint.desiredUpdateRateHz else rate) (-1)
  if maxUpdateRate > 0 then
    { component with mode := component.mode.setSetpointUpdateRate maxUpdateRate }
  else component

/-- `ModeBase::onRegistered`. -/
def onRegistered (component : Component) : Option (Component × Bool × List Published) := do
  let (modeOverrides, published) ← component.modeOverrides.setup
    ConfigOverridesRequest.sourceTypeMode component.registration.modeId
  let component := { component with modeOverrides }
  if component.setpointTypes = [] then return (component, false, published)
  let (component, activated) := component.activateFirstSetpointType
  let component :=
    if component.mode.setpointUpdateRateHz < ModeBase.fltEpsilon then
      component.setSetpointUpdateRateFromSetpointTypes
    else component
  return (component, true, published ++ activated)

/-- `ModeExecutorBase::onRegistered`. -/
def executorOnRegistered (component : Component) : Option (Component × List Published) := do
  let (executorOverrides, published) ← component.executorOverrides.setup
    ConfigOverridesRequest.sourceTypeModeExecutor
    component.executorRegistration.unregisterExtComponent.modeExecutorId.toUInt8
  return ({ component with executorOverrides }, published)

/-- What a call of `doRegister` is given by the outside. -/
structure Environment where
  /-- `waitForFMU`. -/
  fmuAnswers : Bool
  /-- `defaultMessageCompatibilityCheck`. -/
  compatible : Bool
  requestId : UInt64
  attempts : List (List (Lib.Wait RegisterExtComponentReply))
deriving DecidableEq, Repr

structure Outcome where
  component : Component
  result : Bool
  taken : List RegisterExtComponentReply := []
  published : List Published := []
deriving DecidableEq, Repr

/-- `Registration::doRegister` on the registration with this owner. -/
def exchange (component : Component) (owner : RegistrationOwner)
    (settings : RegistrationSettings) (environment : Environment) :
    Option (Component × Registration.Exchange) := do
  let exchange ← (component.registrations.get owner).doRegister settings environment.requestId
    environment.attempts
  return ({ component with
    registrations := component.registrations.set owner exchange.registration }, exchange)

/-- `ModeBase::doRegister`. -/
def doRegister (component : Component) (environment : Environment) : Option Outcome :=
  if component.registration.registered then none
  else if !component.modeSkipsMessageCompatibilityCheck &&
      (!environment.fmuAnswers || !environment.compatible) then
    some { component, result := false }
  else do
    let component ← component.onAboutToRegister
    let component ← component.overrideHealthRegistration component.modeRegistration
    let (component, exchange) ← component.exchange component.modeRegistration
      component.getRegistrationSettings environment
    let requests := exchange.requests.map .registerExtComponentRequest
    if component.registration.registered then
      let (component, ret, published) ← component.onRegistered
      return { component, result := ret, taken := exchange.taken, published := requests ++ published }
    else return { component, result := false, taken := exchange.taken, published := requests }

/-- `ModeExecutorBase::doRegister`. -/
def executorDoRegister (component : Component) (environment : Environment) : Option Outcome :=
  if component.executorRegistration.registered then none
  else if !component.executorSkipsMessageCompatibilityCheck &&
      (!environment.fmuAnswers || !environment.compatible) then
    some { component, result := false }
  else do
    let component ← component.onAboutToRegister
    let component ← component.overrideRegistration .modeExecutorBase
    let component := { component with vehicleStatusSubscribed := false }
    let settings :=
      { component.getRegistrationSettings with
        registerModeExecutor := true
        activateModeImmediately := component.activation == .activateImmediately }
    let (component, exchange) ← component.exchange .modeExecutorBase settings environment
    let requests := exchange.requests.map .registerExtComponentRequest
    if component.executorRegistration.registered then
      let (component, ret, published) ← component.onRegistered
      -- also after a failure of the mode's own `onRegistered`
      let (component, executorPublished) ← component.executorOnRegistered
      return { component, result := ret, taken := exchange.taken
               published := requests ++ published ++ executorPublished }
    else return { component, result := false, taken := exchange.taken, published := requests }

/-- The subscription callback of the mode. -/
def modeStatusReceived (component : Component) (msg : VehicleStatus) :
    Component × List ModeBase.Task :=
  if component.vehicleStatusSubscribed && component.registration.registered then
    let (mode, tasks) := { component.mode with id := component.registration.modeId
      }.vehicleStatusUpdated msg false
    ({ component with mode }, tasks)
  else (component, [])

/-- The subscription callback of the executor, in some state of it. -/
def executorStatusReceived {Callback : Type} (component : Component)
    (executor : ModeExecutorBase Callback) (msg : VehicleStatus) :
    ModeExecutorBase Callback × List (ModeExecutorBase.Task Callback) :=
  { executor with registered := component.executorRegistration.registered
    }.vehicleStatusReceived msg

end Component

end Px4Ros2
