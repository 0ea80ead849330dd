import Px4Ros2.Mission.SegmentProperties

/-! The reads of `items()[index]`: each step with the indices that it reads. User code may also ask
a handler whether the current action supports resuming from landed. -/

set_option autoImplicit false

namespace Px4Ros2.MissionExecutor

/-- A read of an item, and the mission that it is read from. -/
abbrev ItemAccess := Mission × Int

def ItemAccess.InBounds (access : ItemAccess) : Prop :=
  0 ≤ access.2 ∧ access.2 < access.1.items.length

inductive QueryInput where
  | own (input : Input)
  /-- `ActionHandler::currentActionSupportsResumeFromLanded`. It does not look at `_valid`. -/
  | currentActionSupportsResumeFromLanded (handler : HandlerRef)

def queryMachine (config : Configuration) : Lib.Machine MissionExecutor Task QueryInput where
  exec executor task input :=
    match input with
    | .own input => executor.exec config task input
    | .currentActionSupportsResumeFromLanded handler =>
        match task with
        | .user inRun => (executor.resolve handler).map fun _ => (executor, [.user inRun])
        | _ => none
  idle executor input :=
    match input with
    | .own input => executor.idle config input
    | .currentActionSupportsResumeFromLanded _ => none

/-- The inner loop of `getNextTrajectorySegment`. -/
def stopAccesses (index : Int) : List MissionItem → List Int
  | [] => []
  | .action _ :: rest => index :: stopAccesses (index + 1) rest
  | .navigation _ :: _ => [index]

/-- `getNextTrajectorySegment`, at an item with the given items after it. -/
def segmentAccesses (endIndex : Int) : List MissionItem → List Int
  | [] => []
  | .navigation _ :: rest => (endIndex + 1) :: segmentAccesses (endIndex + 1) rest
  | items@(.action _ :: _) => (endIndex + 1) :: stopAccesses (endIndex + 1) items

/-- The loop of `navigateToPreviousWaypoint`, with the items that are left from the last one on. -/
def backwardAccesses (index : Int) : List MissionItem → List Int
  | [] => []
  | .action _ :: rest => index :: backwardAccesses (index - 1) rest
  | .navigation _ :: _ => [index]

variable (executor : MissionExecutor) (config : Configuration)

def runCurrentMissionItemAccesses : List Int :=
  match executor.state.currentIndex with
  | none => []
  | some index =>
      match executor.mission.item? index with
      | none => []
      | some (.navigation _) =>
          index :: segmentAccesses index (executor.mission.items.drop (index.toNat + 1))
      | some (.action _) => [index]

/-- The index is not checked here. -/
def supportsResumeFromLandedAccesses : List Int := executor.state.currentIndex.toList

def unexpectedLandingAccesses (currentMissionIndex : Int) : List Int :=
  (if executor.mission.indexValid currentMissionIndex then [currentMissionIndex] else []) ++
  if executor.skipsWhenLanded currentMissionIndex then []
  else
    (List.range (min currentMissionIndex.toNat executor.mission.items.length)).map
      fun index : Nat => (index : Int)

def navigateToPreviousWaypointAccesses (currentMissionIndex : Int) : List Int :=
  backwardAccesses (min currentMissionIndex executor.mission.items.length - 1)
    (executor.mission.items.take currentMissionIndex.toNat).reverse

/-- Whether a step calls `currentActionSupportsResumeFromLanded`. -/
def asksForResume (task : Task) (input : QueryInput) : Bool :=
  match task, input with
  | .user _, .currentActionSupportsResumeFromLanded _ => true
  | .run name _ arguments _, .own .proceed =>
      resumesMission config name arguments && executor.state.currentIndex.getD 0 != 0 &&
        executor.landed
  | _, _ => false

def runOnResumeAccesses (name : String) (arguments : ActionArguments) : List Int :=
  if resumesMission config name arguments && executor.state.currentIndex.getD 0 != 0 &&
      executor.landed then
    executor.supportsResumeFromLandedAccesses ++
      if executor.currentActionSupportsResumeFromLanded config then []
      else executor.unexpectedLandingAccesses (executor.state.currentIndex.getD 0)
  else []

/-- The reads of a step that executes a task. Events at quiescent points read nothing. -/
def accesses (task : Task) (input : QueryInput) : List ItemAccess :=
  match task, input with
  | .runCurrentMissionItem _, .own .proceed =>
      executor.runCurrentMissionItemAccesses.map (executor.mission, ·)
  | .run name _ arguments _, .own .proceed =>
      (executor.runOnResumeAccesses config name arguments).map (executor.mission, ·)
  | .call (.navigateToPreviousWaypoint _ _ currentMissionIndex), .own .proceed =>
      (executor.navigateToPreviousWaypointAccesses currentMissionIndex).map (executor.mission, ·)
  | .updateWaypoint, .own (.position _ _) =>
      match executor.currentTrajectory, executor.trajectoryIndex with
      | some trajectory, some index => [(trajectory.trajectory, index)]
      | _, _ => []
  | .user _, .currentActionSupportsResumeFromLanded _ =>
      executor.supportsResumeFromLandedAccesses.map (executor.mission, ·)
  | _, _ => []

end Px4Ros2.MissionExecutor
