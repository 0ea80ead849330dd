import Mathlib.Data.List.Induction
import Px4Ros2.Components.ModeRegistration

/-! `HealthAndArmingChecks`: the replies to the arming check requests of the flight controller, and
the watchdog that shuts a component down that is not asked any more. -/

set_option autoImplicit false

namespace Px4Ros2

structure EventType where
  logLevels : UInt8
  id : UInt32
  arguments : List UInt8
deriving DecidableEq, Repr

structure ArmingCheckRequest where
  requestId : UInt8
  validRegistrationsMask : UInt32
deriving DecidableEq, Repr

structure ArmingCheckReply where
  requestId : UInt8 := 0
  registrationId : UInt8 := 0
  healthComponentIndex : UInt8 := 0
  healthComponentIsPresent : Bool := false
  healthComponentWarning : Bool := false
  healthComponentError : Bool := false
  canArmAndRun : Bool := false
  events : List EventType := []
  modeReq : RequirementFlags := {}
deriving DecidableEq, Repr

def RequirementFlags.fillArmingCheckReply (flags : RequirementFlags) (reply : ArmingCheckReply) :
    ArmingCheckReply :=
  { reply with modeReq := flags }

/-- What a check callback may do with its `HealthAndArmingCheckReporter`. -/
inductive ReporterCall where
  | armingCheckFailureExt (event : EventType)
  | setHealth (index : UInt8) (isPresent warning error : Bool)
deriving DecidableEq, Repr

/-- The message has room for `maxEvents` events, and an event without room is left out. -/
def ReporterCall.apply (maxEvents : Nat) (reply : ArmingCheckReply) : ReporterCall → ArmingCheckReply
  | .armingCheckFailureExt event =>
      { reply with
        canArmAndRun := false
        events := if reply.events.length ≥ maxEvents then reply.events
          else reply.events ++ [event] }
  | .setHealth index isPresent warning error =>
      { reply with
        healthComponentIndex := index
        healthComponentIsPresent := isPresent
        healthComponentWarning := warning
        healthComponentError := error }

structure HealthAndArmingChecks where
  registration : Registration := {}
  checkTriggered : Bool := true
  firstRequest : Bool := true
  modeRequirements : RequirementFlags := {}
  shutdown : Bool := false
deriving DecidableEq, Repr

namespace HealthAndArmingChecks

def overrideRegistration (checks : HealthAndArmingChecks) (registration : Registration) :
    Option HealthAndArmingChecks :=
  if checks.registration.registered then none else some { checks with registration }

/-- There is no result where the assertion fails. -/
def doRegister (checks : HealthAndArmingChecks) (name : List UInt8) (requestId : UInt64)
    (attempts : List (List (Lib.Wait RegisterExtComponentReply))) : Option HealthAndArmingChecks :=
  if checks.registration.registered then none
  else do
    let exchange ← checks.registration.doRegister
      { name, registerArmingCheck := true } requestId attempts
    some { checks with firstRequest := true, registration := exchange.registration }

/-- The `registration_id` of a reply. -/
def registrationId (checks : HealthAndArmingChecks) : UInt8 :=
  checks.registration.unregisterExtComponent.armingCheckId.toUInt8

def inMask (id : UInt8) (mask : UInt32) : Bool := mask &&& (1 <<< id.toUInt32) != 0

/-- The handler of the requests, with the reply that it publishes. `reports` is what the check
callback does. -/
def armingCheckRequest (checks : HealthAndArmingChecks) (maxEvents : Nat) (msg : ArmingCheckRequest)
    (reports : List ReporterCall) : HealthAndArmingChecks × Option ArmingCheckReply :=
  if checks.registration.registered then
    let reply : ArmingCheckReply :=
      { registrationId := checks.registrationId
        requestId := msg.requestId
        canArmAndRun := true }
    let reply := reports.foldl (ReporterCall.apply maxEvents) reply
    let reply := checks.modeRequirements.fillArmingCheckReply reply
    -- A component whose registration is flagged as invalid still replies.
    ({ checks with
        checkTriggered := checks.checkTriggered ||
          (checks.firstRequest || inMask reply.registrationId msg.validRegistrationsMask)
        firstRequest := false }, some reply)
  else (checks, none)

def watchdogTimerUpdate (checks : HealthAndArmingChecks) : HealthAndArmingChecks :=
  if checks.registration.registered then
    if !checks.checkTriggered then { checks with shutdown := true }
    else { checks with checkTriggered := false }
  else { checks with checkTriggered := true }

inductive Event where
  | tick
  | request (msg : ArmingCheckRequest) (reports : List ReporterCall)
  | doRegister (name : List UInt8) (requestId : UInt64)
      (attempts : List (List (Lib.Wait RegisterExtComponentReply)))
  | overrideRegistration (registration : Registration)
  /-- The registration that is shared with a mode is registered by the mode. -/
  | modeDoRegister (settings : RegistrationSettings) (requestId : UInt64)
      (attempts : List (List (Lib.Wait RegisterExtComponentReply)))
  | setModeRequirements (flags : RequirementFlags)

/-- An event, with the registration at that time and with what came of it. -/
structure Entry where
  event : Event
  registration : Registration
  reply : Option ArmingCheckReply
  threw : Bool

/-- There is no step after a shutdown or where an assertion fails. -/
def handle (maxEvents : Nat) (checks : HealthAndArmingChecks) (event : Event) :
    Option (HealthAndArmingChecks × Option ArmingCheckReply) :=
  if checks.shutdown then none
  else
    match event with
    | .tick => some (checks.watchdogTimerUpdate, none)
    | .request msg reports => some (checks.armingCheckRequest maxEvents msg reports)
    | .doRegister name requestId attempts =>
        (checks.doRegister name requestId attempts).map (·, none)
    | .overrideRegistration registration => (checks.overrideRegistration registration).map (·, none)
    | .modeDoRegister settings requestId attempts =>
        (checks.registration.doRegister settings requestId attempts).map fun exchange =>
          ({ checks with registration := exchange.registration }, none)
    | .setModeRequirements flags => some ({ checks with modeRequirements := flags }, none)

def step (maxEvents : Nat) (state : HealthAndArmingChecks × List Entry) (event : Event) :
    Option (HealthAndArmingChecks × List Entry) :=
  (handle maxEvents state.1 event).map fun after =>
    (after.1, state.2 ++ [⟨event, state.1.registration, after.2, after.1.shutdown⟩])

def run (maxEvents : Nat) (events : List Event) : Option (HealthAndArmingChecks × List Entry) :=
  events.foldlM (step maxEvents) ({}, [])

end HealthAndArmingChecks

end Px4Ros2
