import Px4Ros2.Components.Messages

/-! `ModeBase`: activation by vehicle status, the setpoint timer and the completion latch.
Virtual methods are hooks; the tasks behind a hook are what the base class still has to do. -/

set_option autoImplicit false

namespace Px4Ros2

structure ModeBase where
  id : ModeID
  activateEvenWhileDisarmed : Bool
  isActive : Bool := false
  isArmed : Bool := false
  /-- The latch `_completed`. -/
  isCompleted : Bool := false
  setpointUpdateRateHz : Rat := 0
  /-- The rate at which the setpoint timer runs, when it exists. -/
  setpointUpdateTimer : Option Rat := none
deriving DecidableEq, Repr

namespace ModeBase

/-- Virtual methods of `ModeBase`. -/
inductive Hook where
  | onActivate
  | onDeactivate
  | updateSetpoint
deriving DecidableEq, Repr

inductive Task where
  | hook (hook : Hook)
  /-- `callOnActivate` after `onActivate()`. -/
  | activated
  | updateSetpointUpdateTimer
deriving DecidableEq, Repr

/-- `FLT_EPSILON`. -/
def fltEpsilon : Rat := 1 / 8388608

def callOnActivate (mode : ModeBase) : ModeBase × List Task :=
  ({ mode with isActive := true, isCompleted := false }, [.hook .onActivate, .activated])

def callOnDeactivate (mode : ModeBase) : ModeBase × List Task :=
  ({ mode with isActive := false }, [.hook .onDeactivate, .updateSetpointUpdateTimer])

def updateSetpointUpdateTimer (mode : ModeBase) : ModeBase :=
  if mode.isActive && decide (fltEpsilon < mode.setpointUpdateRateHz) then
    match mode.setpointUpdateTimer with
    | none => { mode with setpointUpdateTimer := some mode.setpointUpdateRateHz }
    | some _ => mode
  else { mode with setpointUpdateTimer := none }

def setSetpointUpdateRate (mode : ModeBase) (rateHz : Rat) : ModeBase :=
  updateSetpointUpdateTimer
    { mode with setpointUpdateTimer := none, setpointUpdateRateHz := rateHz }

def vehicleStatusUpdated (mode : ModeBase) (msg : VehicleStatus) (doNotActivate : Bool) :
    ModeBase × List Task :=
  let mode := { mode with isArmed := msg.armingState == VehicleStatus.armingStateArmed }
  let isActive := mode.id == msg.navState && (mode.isArmed || mode.activateEvenWhileDisarmed)
  if mode.isActive != isActive then
    if isActive then
      if !doNotActivate then mode.callOnActivate else (mode, [])
    else mode.callOnDeactivate
  else (mode, [])

/-- `completed(result)`, with the message it publishes. -/
def completed (mode : ModeBase) (result : Result) : ModeBase × Option ModeCompleted :=
  if mode.isCompleted then (mode, none)
  else ({ mode with isCompleted := true }, some ⟨mode.id, result.code⟩)

/-- What the base class does when a hook has returned. -/
def resume (mode : ModeBase) : Task → ModeBase × List Task
  | .hook _ => (mode, [])
  | .activated =>
      -- the setpoint is updated immediately, before the timer exists
      if fltEpsilon < mode.setpointUpdateRateHz then
        (mode, [.hook .updateSetpoint, .updateSetpointUpdateTimer])
      else (mode, [.updateSetpointUpdateTimer])
  | .updateSetpointUpdateTimer => (mode.updateSetpointUpdateTimer, [])

end ModeBase

end Px4Ros2
