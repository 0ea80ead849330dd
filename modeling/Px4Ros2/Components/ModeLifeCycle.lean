import Px4Ros2.Lib.History
import Px4Ros2.Lib.Log
import Px4Ros2.Components.Mode

/-! A registered mode in its process, with what happens to it over time: vehicle status arrives,
its timer fires, and user code, in a hook or outside, may change the update rate and call
`completed`. -/

set_option autoImplicit false

namespace Px4Ros2

open Lib

namespace ModeProcess

inductive Task where
  | mode (task : ModeBase.Task)
  /-- Control is in user code. -/
  | user
deriving DecidableEq, Repr

inductive Input where
  /-- The flag is arbitrary if the mode is owned by an executor, and false otherwise. -/
  | vehicleStatus (msg : VehicleStatus) (doNotActivate : Bool)
  | setpointUpdateTimer
  /-- A timer or subscription of the user fires. -/
  | userEvent
  /-- Internal code goes on. -/
  | proceed
  | setSetpointUpdateRate (rateHz : Rat)
  | completed (result : Result)
  /-- User code returns. -/
  | ret
deriving DecidableEq, Repr

abbrev Config := Lib.Config ModeBase Task

def exec (mode : ModeBase) : Task → Input → Option (ModeBase × List Task)
  | .user, .setSetpointUpdateRate rateHz => some (mode.setSetpointUpdateRate rateHz, [.user])
  | .user, .completed result => some ((mode.completed result).1, [.user])
  | .user, .ret => some (mode, [])
  | .mode (.hook _), .proceed => some (mode, [.user])
  | .mode task, .proceed => some ((mode.resume task).1, (mode.resume task).2.map .mode)
  | _, _ => none

def idle (mode : ModeBase) : Input → Option (ModeBase × List Task)
  | .vehicleStatus msg doNotActivate =>
      let after := mode.vehicleStatusUpdated msg doNotActivate
      some (after.1, after.2.map .mode)
  | .setpointUpdateTimer =>
      if mode.setpointUpdateTimer.isSome then some (mode, [.mode (.hook .updateSetpoint)]) else none
  | .userEvent => some (mode, [.user])
  | _ => none

def machine : Lib.Machine ModeBase Task Input := ⟨exec, idle⟩

/-- A mode after its registration. -/
def registered (id : ModeID) (activateEvenWhileDisarmed : Bool) : Config :=
  ⟨{ id, activateEvenWhileDisarmed }, []⟩

/-- Calls of virtual methods and messages that are published. -/
inductive Call where
  | onActivate
  | onDeactivate
  /-- With what `isActive()` answers at the time. -/
  | updateSetpoint (isActive : Bool)
  | modeCompleted (msg : ModeCompleted)
deriving DecidableEq, Repr

structure LifeCycle where
  /-- The vehicle status that was processed last. -/
  status : Option VehicleStatus := none
  calls : List Call := []
deriving DecidableEq, Repr

def callOf (mode : ModeBase) : ModeBase.Hook → Call
  | .onActivate => .onActivate
  | .onDeactivate => .onDeactivate
  | .updateSetpoint => .updateSetpoint mode.isActive

def lifeCycleRecorder : Recorder ModeBase Task Input LifeCycle where
  event lifeCycle _ input :=
    match input with
    | .vehicleStatus msg _ => { lifeCycle with status := some msg }
    | _ => lifeCycle
  task lifeCycle mode task input :=
    match task, input with
    | .mode (.hook hook), .proceed =>
        { lifeCycle with calls := lifeCycle.calls ++ [callOf mode hook] }
    | .user, .completed result =>
        { lifeCycle with
          calls := lifeCycle.calls ++ ((mode.completed result).2.map Call.modeCompleted).toList }
    | _, _ => lifeCycle

/-! ### What is expected -/

/-- The calls that begin or end a time of activity. -/
def Call.isTransition : Call → Bool
  | .onActivate | .onDeactivate => true
  | .updateSetpoint _ | .modeCompleted _ => false

/-- `onActivate` and `onDeactivate` take turns, and `onActivate` is the first of them. -/
def Alternates (calls : List Call) : Prop :=
  (calls.filter (·.isTransition)).IsChain (· ≠ ·) ∧
    ∀ first, (calls.filter (·.isTransition)).head? = some first → first = .onActivate

/-- Between two completions there is an activation. -/
def CompletesOnce (calls : List Call) : Prop :=
  ∀ before first between second after,
    calls = before ++ .modeCompleted first :: (between ++ .modeCompleted second :: after) →
    .onActivate ∈ between

/-- What `isActive()` says about the status. -/
def Entitled (mode : ModeBase) (status : Option VehicleStatus) : Prop :=
  mode.isActive = true → ∃ msg, status = some msg ∧ msg.navState = mode.id ∧
    (msg.armingState = VehicleStatus.armingStateArmed ∨ mode.activateEvenWhileDisarmed = true)

/-- The timer runs, and at the current rate, exactly if the mode is active with a rate above
`FLT_EPSILON`. -/
def Coupled (mode : ModeBase) : Prop :=
  mode.setpointUpdateTimer =
    if mode.isActive = true ∧ ModeBase.fltEpsilon < mode.setpointUpdateRateHz then
      some mode.setpointUpdateRateHz
    else none

end ModeProcess

end Px4Ros2
