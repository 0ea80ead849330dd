import Px4Ros2.Lib.Log
import Px4Ros2.Lib.Extended
import Px4Ros2.Components.Messages
import Mathlib.Algebra.Field.Defs

/-! `VTOL`: transition commands with a limit on their rate, and the acceleration setpoint during a
transition. Times are in nanoseconds. -/

set_option autoImplicit false

namespace Px4Ros2

open Lib

def VehicleCommand.doVtolTransition : UInt32 := 3000

namespace VtolVehicleStatus

def stateTransitionToFw : UInt8 := 1
def stateTransitionToMc : UInt8 := 2
def stateMc : UInt8 := 3
def stateFw : UInt8 := 4

end VtolVehicleStatus

/-- `VTOL::State`. -/
inductive VtolState where
  | undefined
  | transitionToFixedWing
  | transitionToMulticopter
  | multicopter
  | fixedWing
deriving DecidableEq, Repr

structure VtolConfig (Number : Type) where
  backTransitionDeceleration : Extended Number
  backTransitionDecelerationSetpointToPitchI : Extended Number
  decelerationIntegratorLimit : Extended Number
  statusTimeout : Int

/-- The functions of the mathematics library, and `kConstantsOneG`. -/
structure VtolMath (Number : Type) where
  cos : Number → Number
  sin : Number → Number
  tan : Number → Number
  oneG : Number

structure Vtol (Number : Type) where
  lastCommandSent : Int
  lastVtolVehicleStatusReceived : Int := 0
  lastPitchIntegratorUpdate : Int := 0
  vehicleHeading : Extended Number := .nan
  vehicleAccelerationX : Extended Number := .nan
  vehicleAccelerationY : Extended Number := .nan
  decelErrorBtInt : Extended Number
  currentState : VtolState := .undefined

namespace Vtol

/-- A `VTOL` after construction. -/
def constructed {Number : Type} [Zero Number] (now : Int) : Vtol Number :=
  { lastCommandSent := now, decelErrorBtInt := (0 : Number) }

/-- The state that a status message stands for. -/
def stateOf (vehicleVtolState : UInt8) : VtolState :=
  if vehicleVtolState = VtolVehicleStatus.stateTransitionToFw then .transitionToFixedWing
  else if vehicleVtolState = VtolVehicleStatus.stateTransitionToMc then .transitionToMulticopter
  else if vehicleVtolState = VtolVehicleStatus.stateMc then .multicopter
  else if vehicleVtolState = VtolVehicleStatus.stateFw then .fixedWing
  else .undefined

/-- `150ms`. -/
def commandInterval : Int := 150000000

/-- The two directions of a transition. -/
inductive Direction where
  | toMulticopter
  | toFixedwing
deriving DecidableEq, Repr

namespace Direction

/-- The states in which there is something to command. -/
def startsFrom : Direction → VtolState → Bool
  | .toMulticopter, state => state = .fixedWing || state = .transitionToFixedWing
  | .toFixedwing, state => state = .multicopter || state = .transitionToMulticopter

def param1 : Direction → Rat
  | .toMulticopter => VtolVehicleStatus.stateMc.toNat
  | .toFixedwing => VtolVehicleStatus.stateFw.toNat

def command (direction : Direction) : VehicleCommand :=
  { command := VehicleCommand.doVtolTransition
    params := [some direction.param1, some 0]
    sourceComponent := 0 }

end Direction

variable {Number : Type} [Field Number] [LinearOrder Number] (math : VtolMath Number)
  (config : VtolConfig Number)

/-- A transition is asked for: whether that is possible, and the command that is published. -/
def transition (direction : Direction) (vtol : Vtol Number) (now : Int) :
    Vtol Number × Bool × Option VehicleCommand :=
  if now - vtol.lastVtolVehicleStatusReceived < config.statusTimeout then
    if direction.startsFrom vtol.currentState ∧ now - vtol.lastCommandSent > commandInterval then
      ({ vtol with lastCommandSent := now }, true, some direction.command)
    else (vtol, true, none)
  else (vtol, false, none)

abbrev toMulticopter (vtol : Vtol Number) (now : Int) :
    Vtol Number × Bool × Option VehicleCommand :=
  transition config .toMulticopter vtol now

abbrev toFixedwing (vtol : Vtol Number) (now : Int) :
    Vtol Number × Bool × Option VehicleCommand :=
  transition config .toFixedwing vtol now

/-- `(now - last).seconds()`. -/
def seconds (duration : Int) : Number := (duration : Number) / 1000000000

def computePitchSetpointDuringBacktransition (vtol : Vtol Number) (now : Int)
    (backTransitionDeceleration : Option (Extended Number)) : Vtol Number × Extended Number :=
  let decelerationSetpoint := backTransitionDeceleration.getD config.backTransitionDeceleration
  let deceleration := -(vtol.vehicleAccelerationX * vtol.vehicleHeading.map math.cos +
    vtol.vehicleAccelerationY * vtol.vehicleHeading.map math.sin)
  let decelerationError := decelerationSetpoint - deceleration
  let dt : Number := seconds (now - vtol.lastPitchIntegratorUpdate)
  let vtol := { vtol with lastPitchIntegratorUpdate := now }
  -- a new transition
  let reset := decide ((2 : Nat) < dt)
  let dt : Number := if reset then 0 else dt
  let integrator := if reset then .number 0 else vtol.decelErrorBtInt
  if deceleration.isNaN then ({ vtol with decelErrorBtInt := integrator }, integrator)
  else
    let integrator := Extended.clamp
      (integrator + (config.backTransitionDecelerationSetpointToPitchI * decelerationError) *
        .number dt)
      (.number 0) config.decelerationIntegratorLimit
    ({ vtol with decelErrorBtInt := integrator }, integrator)

/-- `computeAccelerationSetpointDuringTransition`, with the three components of the setpoint. -/
def computeAccelerationSetpointDuringTransition (vtol : Vtol Number) (now : Int)
    (backTransitionDeceleration : Option (Extended Number)) :
    Vtol Number × Extended Number × Extended Number × Extended Number :=
  let (vtol, pitchSetpoint) :=
    if vtol.currentState = .transitionToMulticopter then
      computePitchSetpointDuringBacktransition math config vtol now backTransitionDeceleration
    else (vtol, .number 0)
  let acceleration := pitchSetpoint.map math.tan * .number math.oneG
  (vtol, acceleration * -vtol.vehicleHeading.map math.cos,
    acceleration * -vtol.vehicleHeading.map math.sin, .nan)

inductive Input (Number : Type) where
  | vtolVehicleStatus (vehicleVtolState : UInt8)
  | vehicleLocalPosition (heading ax ay : Extended Number)
  | transition (direction : Direction)
  | accelerationSetpoint (backTransitionDeceleration : Option (Extended Number))

inductive Output (Number : Type) where
  | received
  | transition (possible : Bool) (published : Option VehicleCommand)
  | accelerationSetpoint (x y z : Extended Number)

/-- Something that happened, and what came of it. -/
structure Entry (Number : Type) where
  time : Int
  input : Input Number
  output : Output Number

def handle (vtol : Vtol Number) (now : Int) : Input Number → Vtol Number × Output Number
  | .vtolVehicleStatus vehicleVtolState =>
      ({ vtol with
        lastVtolVehicleStatusReceived := now
        currentState := stateOf vehicleVtolState }, .received)
  | .vehicleLocalPosition heading ax ay =>
      ({ vtol with
        vehicleHeading := heading
        vehicleAccelerationX := ax
        vehicleAccelerationY := ay }, .received)
  | .transition direction =>
      let (vtol, possible, published) := transition config direction vtol now
      (vtol, .transition possible published)
  | .accelerationSetpoint backTransitionDeceleration =>
      let (vtol, x, y, z) := computeAccelerationSetpointDuringTransition math config vtol now
        backTransitionDeceleration
      (vtol, .accelerationSetpoint x y z)

def step (state : Vtol Number × List (Entry Number)) (event : Int × Input Number) :
    Vtol Number × List (Entry Number) :=
  let handled := handle math config state.1 event.1 event.2
  (handled.1, state.2 ++ [⟨event.1, event.2, handled.2⟩])

def run (start : Int) (events : List (Int × Input Number)) : Vtol Number × List (Entry Number) :=
  events.foldl (step math config) (constructed start, [])

end Vtol

end Px4Ros2
