import Px4Ros2.Mission.MissionExecutor

/-! `ActionHandler` and the default actions. -/

set_option autoImplicit false

namespace Px4Ros2.MissionExecutor

/-- The operations of a handler that its class guards or should guard by `_valid`. -/
inductive HandlerOp where
  | runMode (modeId : ModeID) (onCompleted : Closure) (onFailure : Option Closure)
  | runModeTakeoff (altitude heading : Param) (onCompleted : Closure)
      (onFailure : Option Closure)
  | runAction (name : String) (arguments : ActionArguments) (onCompleted : Closure)
  | runTrajectory (trajectory : Mission) (onCompleted : Closure) (stopAtLast : Bool)
  | clearTrajectoryOptions
  | setTrajectoryOptions (options : TrajectoryOptions)
  | setActivityInfo (info : String)
  | clearActivityInfo
  | setCurrentMissionIndex (index : Int)
  | storeState (name : String) (arguments : ActionArguments)
  | deferFailsafes (enabled : Bool) (timeoutS : Int32)
  | controlAutoSetHome (enabled : Bool)
  /-- Whether the callback that is set is a function. -/
  | onFailsafeDeferred (callback : Bool)

variable (executor : MissionExecutor) (config : Configuration)

/-- The trajectory executor supports the item of a custom trajectory. -/
def trajectoryItemSupported : MissionItem → Bool
  | .navigation item =>
      config.navigationItemTypeSupported .waypoint && config.frameSupported item.data.frame
  | .action _ => false

def runCustomTrajectory (trajectory : Mission) (onCompleted : Closure) (stopAtLast : Bool) :
    MissionExecutor × List Task :=
  if trajectory.items.isEmpty then (executor, [.call onCompleted])
  else if trajectory.items.all (trajectoryItemSupported config) then
    executor.runTrajectory config trajectory 0 (trajectory.items.length - 1)
      (.customTrajectory onCompleted (trajectory.items.length - 1)) stopAtLast
  else (executor, [.abort .trajectoryFailure])

def deferFailsafes (enabled : Bool) (timeoutS : Int32) : MissionExecutor × List Task :=
  let after := executor.modeExecutor.deferFailsafes enabled timeoutS
  ({ executor with modeExecutor := after.1 }, if after.2 then [.deferWait] else [])

def controlAutoSetHome (enabled : Bool) : MissionExecutor :=
  { executor with modeExecutor := executor.modeExecutor.controlAutoSetHome enabled }

/-- What the mission executor does for a handler. -/
def handlerCall : HandlerOp → MissionExecutor × List Task
  | .runMode modeId onCompleted onFailure => executor.runMode modeId onCompleted onFailure
  | .runModeTakeoff altitude heading onCompleted onFailure =>
      executor.runModeTakeoff altitude heading onCompleted onFailure
  | .runAction name arguments onCompleted =>
      executor.runAction config name arguments onCompleted
  | .runTrajectory trajectory onCompleted stopAtLast =>
      executor.runCustomTrajectory config trajectory onCompleted stopAtLast
  | .clearTrajectoryOptions =>
      ({ executor with trajectoryOptions := executor.mission.defaults.trajectoryOptions }, [])
  | .setTrajectoryOptions options =>
      ({ executor with
          trajectoryOptions := executor.trajectoryOptions.combineWith options }, [])
  | .setActivityInfo info => (executor, executor.setActivityInfo (some info))
  | .clearActivityInfo => (executor, executor.setActivityInfo none)
  | .setCurrentMissionIndex index =>
      if executor.mission.indexValid index then executor.setCurrentMissionIndex index
      else (executor, [])
  | .storeState name arguments =>
      let added := executor.addContinousAction name arguments
      -- the keeper goes to the user code that asked for it
      ({ added.1 with userKeepers := added.2 :: added.1.userKeepers }, [])
  | .deferFailsafes enabled timeoutS => executor.deferFailsafes enabled timeoutS
  | .controlAutoSetHome enabled => (executor.controlAutoSetHome enabled, [])
  | .onFailsafeDeferred callback =>
      ({ executor with
          callbacks := { executor.callbacks with onFailsafeDeferred := callback } }, [])

/-- `setCurrentMissionIndex` is the operation that does not look at `_valid`. -/
def HandlerOp.checksValid : HandlerOp → Bool
  | .setCurrentMissionIndex _ => false
  | _ => true

def handlerOp (handler : HandlerId) (op : HandlerOp) : MissionExecutor × List Task :=
  if op.checksValid && !executor.isValid handler then (executor, [])
  else executor.handlerCall config op

/-- The last takeoff item before the current one. -/
def previousTakeoff (index : Int) : Option ActionItem :=
  (executor.mission.items.take index.toNat).reverse.findSome? fun item =>
    match item with
    | .action item => if item.name = "takeoff" then some item else none
    | .navigation _ => none

def skipsWhenLanded (index : Int) : Bool :=
  match executor.mission.item? index with
  | some (.action item) => item.name == "rtl" || item.name == "land"
  | _ => false

def resumeFromUnexpectedLanding (handler : HandlerId) (onCompleted : Closure)
    (currentMissionIndex : Int) : MissionExecutor × List Task :=
  if executor.skipsWhenLanded currentMissionIndex then
    -- skip the landing and go on at the next index, or at the first one
    let index :=
      if currentMissionIndex + 1 ≥ executor.mission.items.length then 0
      else currentMissionIndex + 1
    let after := executor.handlerOp config handler (.setCurrentMissionIndex index)
    (after.1, after.2 ++ [.call onCompleted])
  else
    match executor.previousTakeoff currentMissionIndex with
    | some item =>
        executor.handlerOp config handler (.runAction item.name item.arguments
          (.navigateToPreviousWaypoint handler onCompleted currentMissionIndex))
    | none => (executor, [.call onCompleted])

/-- The last waypoint before the given index. -/
def previousWaypoint (index : Int) : Option Waypoint :=
  (executor.mission.items.take index.toNat).reverse.findSome? fun item =>
    match item with
    | .navigation item => some item.data
    | .action _ => none

def navigateToPreviousWaypoint (handler : HandlerId) (onCompleted : Closure)
    (currentMissionIndex : Int) : MissionExecutor × List Task :=
  match executor.previousWaypoint currentMissionIndex with
  | some waypoint =>
      executor.handlerOp config handler
        (.runTrajectory { items := [.navigation { data := waypoint }] } onCompleted false)
  | none => (executor, [.call onCompleted])

def runOnResume (handler : HandlerId) (arguments : ActionArguments) (onCompleted : Closure) :
    MissionExecutor × List Task :=
  match arguments.at? Json.getString "action" with
  | none => executor.crash
  | some action =>
      if action ≠ "resume" then (executor, [])
      else
        let index := executor.state.currentIndex.getD 0
        if index = 0 then (executor, [.call onCompleted])
        else if executor.landed && !executor.currentActionSupportsResumeFromLanded config then
          executor.resumeFromUnexpectedLanding config handler onCompleted index
        else (executor, [.call onCompleted])

/-- An optional number among the arguments; `none` when it is no number. -/
def optionalFloat (arguments : ActionArguments) (key : String) : Option (Option Rat) :=
  if arguments.contains key then (arguments.at? Json.getFloat key).map some else some none

/-- The options that ChangeSettings merges with the current ones. -/
def changedOptions (arguments : ActionArguments) : Option TrajectoryOptions := do
  let horizontalVelocity ← optionalFloat arguments "horizontalVelocity"
  let verticalVelocity ← optionalFloat arguments "verticalVelocity"
  let maxHeadingRate ← optionalFloat arguments "maxHeadingRate"
  some (executor.trajectoryOptions.combineWith
    { horizontalVelocity, verticalVelocity, maxHeadingRate := maxHeadingRate.map degToRad })

/-- `_state = handler->storeState(...)`. -/
def storeSettings (handler : HandlerId) (options : Json) : MissionExecutor × List Task :=
  if executor.isValid handler then
    let added := executor.addContinousAction "changeSettings" ⟨options⟩
    added.1.setChangeSettingsState (some added.2)
  else executor.setChangeSettingsState none

def resetsAll (arguments : ActionArguments) : Option Bool :=
  if arguments.contains "resetAll" then arguments.at? Json.getBool "resetAll" else some false

def runChangeSettings (handler : HandlerId) (arguments : ActionArguments)
    (onCompleted : Closure) : MissionExecutor × List Task :=
  match resetsAll arguments with
  | none => executor.crash
  | some true =>
      let cleared := (executor.handlerOp config handler .clearTrajectoryOptions).1
      ((cleared.setChangeSettingsState none).1,
        (cleared.setChangeSettingsState none).2 ++ [.call onCompleted])
  | some false =>
      match executor.changedOptions arguments with
      | none => executor.crash
      | some options =>
          match options.toJson with
          | none => executor.crash
          | some json =>
              let changed := (executor.handlerOp config handler (.setTrajectoryOptions options)).1
              ((changed.storeSettings handler json).1,
                (changed.storeSettings handler json).2 ++ [.call onCompleted])

/-- The virtual `run` of an action. -/
def run (name : String) (handler : HandlerId) (arguments : ActionArguments)
    (onCompleted : Closure) : MissionExecutor × List Task :=
  match config.findAction name with
  | none => (executor, [])
  | some .rtl => executor.handlerOp config handler (.runMode kModeIDRtl onCompleted none)
  | some .land => executor.handlerOp config handler (.runMode kModeIDLand onCompleted none)
  | some .takeoff =>
      match optionalFloat arguments "altitude" with
      | none => executor.crash
      | some altitude =>
          executor.handlerOp config handler (.runModeTakeoff altitude none onCompleted none)
  | some .hold =>
      match optionalFloat arguments "duration" with
      | none => executor.crash
      | some _ =>
          let after := executor.handlerOp config handler (.runMode kModeIDLoiter .noop none)
          (after.1, after.2 ++ [.startHoldTimer onCompleted])
  | some .onResume => executor.runOnResume config handler arguments onCompleted
  | some .onFailure =>
      executor.handlerOp config handler
        (.runMode kModeIDRtl onCompleted (some (.descend handler onCompleted)))
  | some .changeSettings => executor.runChangeSettings config handler arguments onCompleted
  | some (.custom _ _) => (executor, [.enter (.run name handler arguments onCompleted)])

/-- The virtual `deactivate` of an action. -/
def deactivateAction (name : String) : MissionExecutor × List Task :=
  match config.findAction name with
  | some .hold => ({ executor with holdTimer := none }, [])
  | some .changeSettings => executor.setChangeSettingsState none
  | some (.custom _ _) => (executor, [.enter (.deactivate name)])
  | _ => (executor, [])

def call : Closure → MissionExecutor × List Task
  | .noop => (executor, [])
  | .nextItem handler _ =>
      (executor, if executor.isValid handler then [.runNextMissionItem] else [])
  | .resumed handler previousIndex => executor.resumed handler previousIndex
  | .navigateToPreviousWaypoint handler onCompleted currentMissionIndex =>
      executor.navigateToPreviousWaypoint config handler onCompleted currentMissionIndex
  | .descend handler onCompleted =>
      executor.handlerOp config handler (.runMode kModeIDDescend onCompleted (some .noop))
  | .trajectoryFailure => (executor, [.abort .trajectoryFailure])
  | .user tag => (executor, [.enter (.closure tag)])

def callIndex (index : Int) : IndexClosure → MissionExecutor × List Task
  | .segment handler endIndex => executor.segmentReached handler endIndex index
  | .customTrajectory onCompleted endIndex =>
      (executor, if index = endIndex then [.call onCompleted] else [])

/-- `MissionExecutor::updateSetpoint`. -/
def updateSetpoint : MissionExecutor × List Task :=
  if executor.missionItemState ≠ .trajectory then (executor, [])
  else
    match config.customTrajectoryExecutor with
    | some _ => (executor, [.enter .updateSetpoint])
    | none => (executor, [.updateWaypoint])

def continueNextItem (trajectory : TrajectoryConfig) (index : Int) :
    MissionExecutor × List Task :=
  ({ executor with
      trajectoryIndex := if index + 1 > trajectory.endIndex then none else some (index + 1) },
    [.callIndex trajectory.onIndexReached index])

/-- `WaypointTrajectoryExecutor::updateSetpoint`. -/
def updateWaypoint (positionValid positionReached : Bool) : MissionExecutor × List Task :=
  match executor.currentTrajectory, executor.trajectoryIndex with
  | some trajectory, some index =>
      match trajectory.trajectory.item? index with
      | some (.navigation _) =>
          if !positionValid then (executor, [.call trajectory.onFailure])
          else if positionReached then executor.continueNextItem trajectory index
          else (executor, [])
      | _ => executor.continueNextItem trajectory index
  | _, _ => (executor, [])

end Px4Ros2.MissionExecutor
