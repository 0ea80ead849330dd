import Px4Ros2.Mission.ActionHandler
import Px4Ros2.Lib.History

/-! `multicopter::WaypointTrajectoryExecutor` with its setpoints, and the callbacks that may hand
it the next trajectory while they run. -/

set_option autoImplicit false

namespace Px4Ros2

open Lib MissionExecutor

structure WaypointTrajectoryExecutor where
  acceptanceRadius : Rat := 2
  currentTrajectory : Option TrajectoryConfig := none
  currentIndex : Option Int := none

namespace WaypointTrajectoryExecutor

/-- What the vehicle's position says about the waypoint at hand. -/
structure PositionReading where
  positionValid : Bool
  horizontalDistance : Rat
  heading : Rat
  distance : Rat
deriving DecidableEq, Repr

/-- The arguments of `MulticopterGotoGlobalSetpointType::update`. -/
structure GotoSetpoint where
  globalPosition : Waypoint
  heading : Option Rat
  maxHorizontalSpeed : Option Rat
  maxVerticalSpeed : Option Rat
  maxHeadingRate : Option Rat
deriving DecidableEq, Repr

/-- A callback of the trajectory that is called. -/
inductive Task where
  | onIndexReached (callback : IndexClosure) (index : Int)
  | onFailure (callback : Closure)
deriving Repr

inductive Input where
  | runTrajectory (config : TrajectoryConfig)
  | updateSetpoint (reading : PositionReading)
  /-- The callback returns. -/
  | return_

/-- What a call of `updateSetpoint` does. -/
structure Update where
  executor : WaypointTrajectoryExecutor
  setpoint : Option GotoSetpoint := none
  tasks : List Task := []

variable (executor : WaypointTrajectoryExecutor)

def runTrajectory (config : TrajectoryConfig) : WaypointTrajectoryExecutor :=
  { executor with currentTrajectory := some config, currentIndex := some config.startIndex }

/-- The state is updated before the callback, which might set a new trajectory already. -/
def continueNextItem (trajectory : TrajectoryConfig) (index : Int) : Update where
  executor :=
    { executor with
      currentIndex := if index + 1 > trajectory.endIndex then none else some (index + 1) }
  tasks := [.onIndexReached trajectory.onIndexReached index]

/-- `0.1f` -/
def headingMinDistance : Rat := 13421773 / 134217728

/-- The acceptance radius at this index. -/
def radius (trajectory : TrajectoryConfig) (index : Int) : Rat :=
  if index = trajectory.endIndex && trajectory.stopAtLast then executor.acceptanceRadius / 2
  else executor.acceptanceRadius

def setpoint (trajectory : TrajectoryConfig) (waypoint : Waypoint) (reading : PositionReading) :
    GotoSetpoint where
  globalPosition := waypoint
  heading := if reading.horizontalDistance > headingMinDistance then some reading.heading else none
  maxHorizontalSpeed := trajectory.options.horizontalVelocity
  maxVerticalSpeed := trajectory.options.verticalVelocity
  maxHeadingRate := trajectory.options.maxHeadingRate

def updateSetpoint (reading : PositionReading) : Update :=
  match executor.currentTrajectory, executor.currentIndex with
  | some trajectory, some index =>
      match trajectory.trajectory.item? index with
      | some (.navigation item) =>
          if !reading.positionValid then
            { executor, tasks := [.onFailure trajectory.onFailure] }
          else
            let sent := some (setpoint trajectory item.data reading)
            if reading.distance < executor.radius trajectory index then
              { executor.continueNextItem trajectory index with setpoint := sent }
            else { executor, setpoint := sent }
      | _ => executor.continueNextItem trajectory index
  | _, _ => { executor }

/-- What can be called at any time, also by a callback. -/
def apply : Input → Option (WaypointTrajectoryExecutor × List Task)
  | .runTrajectory config => some (executor.runTrajectory config, [])
  | .updateSetpoint reading =>
      some ((executor.updateSetpoint reading).executor, (executor.updateSetpoint reading).tasks)
  | .return_ => none

def exec (task : Task) : Input → Option (WaypointTrajectoryExecutor × List Task)
  | .return_ => some (executor, [])
  | input => (executor.apply input).map fun after => (after.1, after.2 ++ [task])

def machine : Machine WaypointTrajectoryExecutor Task Input where
  exec := exec
  idle := apply

abbrev Config := Lib.Config WaypointTrajectoryExecutor Task

/-- A call of `on_index_reached`, with the internal index at that time. -/
structure Reported where
  index : Int
  internal : Option Int
deriving DecidableEq, Repr

def Task.reported? (executor : WaypointTrajectoryExecutor) : Task → Option Reported
  | .onIndexReached _ index => some ⟨index, executor.currentIndex⟩
  | .onFailure _ => none

/-- What was reported since the latest `runTrajectory`. -/
structure History where
  latest : Option TrajectoryConfig := none
  reported : List Reported := []

def History.record (history : History) (executor : WaypointTrajectoryExecutor) : Input → History
  | .runTrajectory config => { latest := some config }
  | .updateSetpoint reading =>
      let update := executor.updateSetpoint reading
      { history with
        reported := history.reported ++ update.tasks.filterMap (Task.reported? update.executor) }
  | .return_ => history

def recorder : Recorder WaypointTrajectoryExecutor Task Input History where
  event := History.record
  task history executor _ := history.record executor

/-- The indices of a trajectory, from the first to the last. -/
def indices (config : TrajectoryConfig) : List Int :=
  (List.range (config.endIndex + 1 - config.startIndex).toNat).map fun offset : Nat =>
    config.startIndex + offset

/-- A trajectory that only has navigation items in its range. -/
structure Flyable (config : TrajectoryConfig) : Prop where
  startNonneg : 0 ≤ config.startIndex
  start_le_end : config.startIndex ≤ config.endIndex
  end_lt_size : config.endIndex < config.trajectory.items.length
  navigation : ∀ index ∈ indices config, ∃ item,
    config.trajectory.item? index = some (.navigation item)

instance (item : Option MissionItem) :
    Decidable (∃ navigation, item = some (.navigation navigation)) :=
  match item with
  | some (.navigation navigation) => isTrue ⟨navigation, rfl⟩
  | some (.action _) => isFalse nofun
  | none => isFalse nofun

instance (config : TrajectoryConfig) : Decidable (Flyable config) :=
  decidable_of_iff (0 ≤ config.startIndex ∧ config.startIndex ≤ config.endIndex ∧
      config.endIndex < config.trajectory.items.length ∧
      ∀ index ∈ indices config, ∃ item,
        config.trajectory.item? index = some (.navigation item))
    ⟨fun ⟨nonneg, ordered, inSize, navigation⟩ => ⟨nonneg, ordered, inSize, navigation⟩,
      fun flyable => ⟨flyable.startNonneg, flyable.start_le_end, flyable.end_lt_size,
        flyable.navigation⟩⟩

/-- Only such trajectories are handed to the executor. -/
def Input.Flies : Input → Prop
  | .runTrajectory config => Flyable config
  | _ => True

instance : (input : Input) → Decidable input.Flies
  | .runTrajectory config => inferInstanceAs (Decidable (Flyable config))
  | .updateSetpoint _ => .isTrue trivial
  | .return_ => .isTrue trivial

abbrev Guard (_ : Config) (input : Input) : Prop := input.Flies

end WaypointTrajectoryExecutor

namespace MissionExecutor

/-- The trajectory executor that a mission executor has unless it is given another one. -/
def waypointExecutor (executor : MissionExecutor) : WaypointTrajectoryExecutor :=
  { currentTrajectory := executor.currentTrajectory, currentIndex := executor.trajectoryIndex }

end MissionExecutor

end Px4Ros2
