import Px4Ros2.Components.ModeRegistrationProperties
import Px4Ros2.Lib.History

/-! The setpoint types of a mode: which one is active, and the `VehicleControlMode` messages, with
`update()` calls before, during and after the registration. -/

set_option autoImplicit false

namespace Px4Ros2

open Lib

/-- What `update()` of a setpoint type publishes. -/
inductive SetpointMessage where
  | controlMode (message : VehicleControlMode)
  /-- The setpoint itself. -/
  | setpoint (position : Nat)
deriving DecidableEq, Repr

namespace Component

variable (component : Component)

def controlMode (setpoint : SetpointBase) : VehicleControlMode :=
  setpoint.configuration.fillControlMode component.registration.modeId

/-- `_should_activate_cb` of the setpoint type at this position: the loop over all setpoint
types, which activates this one and deactivates the others. -/
def shouldActivate (position : Nat) (setpoint : SetpointBase) :
    Component × List SetpointMessage :=
  ({ component with
      setpointTypes := component.setpointTypes.mapIdx fun index other =>
        { other with active := index == position } },
    [.controlMode (component.controlMode setpoint)])

/-- `update()` of a setpoint type: `onUpdate`, and then its own message. -/
def update (position : Nat) : Option (Component × List SetpointMessage) :=
  component.setpointTypes[position]?.map fun setpoint =>
    if !setpoint.active && setpoint.hasShouldActivateCallback then
      let activated := component.shouldActivate position setpoint
      (activated.1, activated.2 ++ [.setpoint position])
    else (component, [.setpoint position])

/-- `addSetpointType`, by the constructor of a setpoint type. -/
def addSetpointType (configuration : SetpointConfiguration) (desiredUpdateRateHz : Rat) :
    Option Component :=
  if component.registration.registered then none
  else
    some { component with
      newSetpointTypes := component.newSetpointTypes ++ [{ configuration, desiredUpdateRateHz }] }

end Component

namespace RegisterCall

variable (call : RegisterCall) (component : Component)

/-- The component when the request is sent. After a failed attempt there may be setpoint types
from before. -/
def moved : Component :=
  { call.prepared component with
    setpointTypes := component.setpointTypes ++
      component.newSetpointTypes.map ({ · with hasShouldActivateCallback := true })
    modeRequirements :=
      ((component.setpointTypes ++ component.newSetpointTypes).foldl (fun requirements setpoint =>
        requirements.require setpoint.configuration) component.modeRequirements).relax }

/-- The first attempt is the one of a build with assertions. -/
theorem moved_eq_prepared (empty : component.setpointTypes = []) :
    call.moved component = call.prepared component := by
  simp [moved, prepared, empty]

end RegisterCall

namespace SetpointProcess

inductive Task where
  /-- The request was prepared, the exchange with FMU is under way. -/
  | exchange (call : RegisterCall) (environment : Component.Environment)
  | onRegistered (call : RegisterCall)
deriving DecidableEq, Repr

inductive Input where
  | doRegister (call : RegisterCall) (environment : Component.Environment)
  | addSetpointType (configuration : SetpointConfiguration) (desiredUpdateRateHz : Rat)
  /-- `update()` of a setpoint type that was moved by a registration. -/
  | update (position : Nat)
  /-- `update()` of one that was not, which has no callback yet. -/
  | updateNew (position : Nat)
  | proceed
deriving DecidableEq, Repr

/-- `doRegister` up to the exchange, in a build with or without assertions. A registered mode is
not registered again. -/
def doRegister (assertions : Bool) (component : Component) (call : RegisterCall)
    (environment : Component.Environment) : Option (Component × List Task) :=
  if call.registered component || component.registration.registered then none
  else if !call.passesCheck component environment then some (component, [])
  else if assertions && !call.assertionsHold component then none
  else some (call.moved component, [.exchange call environment])

def updates (component : Component) : Input → Option Component
  | .update position => (component.update position).map Prod.fst
  | .updateNew position =>
      if position < component.newSetpointTypes.length then some component else none
  | _ => none

def idle (assertions : Bool) (component : Component) :
    Input → Option (Component × List Task)
  | .doRegister call environment => doRegister assertions component call environment
  | .addSetpointType configuration desiredUpdateRateHz =>
      (component.addSetpointType configuration desiredUpdateRateHz).map fun component =>
        (component, [])
  | input => (updates component input).map fun component => (component, [])

/-- What follows the exchange in a registered component, with the messages it publishes. -/
def onRegistered (component : Component) (call : RegisterCall) :
    Option (Component × Bool × List Published) := do
  let (component, ret, published) ← component.onRegistered
  match call with
  | .modeBase => return (component, ret, published)
  | .modeExecutorBase =>
      let (component, executorPublished) ← component.executorOnRegistered
      return (component, ret, published ++ executorPublished)

def exec (component : Component) : Task → Input → Option (Component × List Task)
  | .exchange call environment, .proceed =>
      (component.exchange (call.owner component) (call.settings component) environment).map
        fun after =>
          (after.1, if call.registered after.1 then [.onRegistered call] else [])
  | .onRegistered call, .proceed =>
      (onRegistered component call).map fun after => (after.1, [])
  | task, input => (updates component input).map fun component => (component, [task])

def machine (assertions : Bool) : Machine Component Task Input where
  exec := exec
  idle := idle assertions

abbrev Config := Lib.Config Component Task

def initial (component : Component) : Prop :=
  component.setpointTypes = [] ∧ component.registration.registered = false

/-- What was published, and what was updated after the registration. -/
structure History where
  /-- `doRegister` returned true. -/
  succeeded : Bool := false
  /-- The setpoint type that counts as the one updated last. -/
  updated : Nat := 0
  controlMode : Option VehicleControlMode := none
deriving DecidableEq, Repr

def SetpointMessage.controlMode? : SetpointMessage → Option VehicleControlMode
  | .controlMode message => some message
  | .setpoint _ => none

def publishedControlMode? : Published → Option VehicleControlMode
  | .vehicleControlMode message => some message
  | _ => none

namespace History

def publish (history : History) (messages : List VehicleControlMode) : History :=
  { history with controlMode := messages.getLast?.or history.controlMode }

def update (history : History) (component : Component) : Input → History
  | .update position =>
      let messages := ((component.update position).map Prod.snd).getD []
      { history.publish (messages.filterMap SetpointMessage.controlMode?) with
        updated := if history.succeeded then position else history.updated }
  | _ => history

/-- The first setpoint type counts as updated when the registration succeeds. -/
def register (history : History) (component : Component) (call : RegisterCall) : History :=
  match onRegistered component call with
  | none => history
  | some (_, ret, published) =>
      { history.publish (published.filterMap publishedControlMode?) with
        succeeded := ret
        updated := 0 }

end History

def recorder : Recorder Component Task Input History where
  event := History.update
  task history component task input :=
    match task, input with
    | .onRegistered call, .proceed => history.register component call
    | _, input => history.update component input

/-- No setpoint type but the first is active. -/
def OthersInactive (component : Component) : Prop :=
  ∀ setpoint ∈ component.setpointTypes.tail, setpoint.active = false

instance (component : Component) : Decidable (OthersInactive component) :=
  inferInstanceAs (Decidable (∀ _ ∈ _, _))

/-- The condition when a registration comes to its end. -/
def Undisturbed : Config → Input → Prop
  | ⟨component, .onRegistered _ :: _⟩, .proceed => OthersInactive component
  | _, _ => True

instance : (config : Config) → (input : Input) → Decidable (Undisturbed config input)
  | ⟨component, .onRegistered _ :: _⟩, .proceed =>
      inferInstanceAs (Decidable (OthersInactive component))
  | ⟨_, []⟩, _ => .isTrue trivial
  | ⟨_, .exchange _ _ :: _⟩, _ => .isTrue trivial
  | ⟨_, .onRegistered _ :: _⟩, .doRegister _ _ => .isTrue trivial
  | ⟨_, .onRegistered _ :: _⟩, .addSetpointType _ _ => .isTrue trivial
  | ⟨_, .onRegistered _ :: _⟩, .update _ => .isTrue trivial
  | ⟨_, .onRegistered _ :: _⟩, .updateNew _ => .isTrue trivial

end SetpointProcess

end Px4Ros2
