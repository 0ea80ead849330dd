import Px4Ros2.Components.ModeExecutor
import Px4Ros2.Mission.PersistentState

/-! `MissionExecutor`: its state and its functions up to their next call of a virtual method, of a
function object or of the mode executor. What is left to do after such a call is a task.
Function objects are data: each lambda of the source is a constructor with what it captures. -/

set_option autoImplicit false

namespace Px4Ros2

/-- `ActionHandler` objects, numbered as they are made. -/
abbrev HandlerId := Nat

inductive Closure where
  | noop
  /-- `runCurrentMissionItem`: an action item is completed. Starts of action items are numbered. -/
  | nextItem (handler : HandlerId) (start : Nat)
  /-- `onActivate`: the onResume action is completed. -/
  | resumed (handler : HandlerId) (previousIndex : Option Int)
  /-- `OnResume`: the takeoff is completed. -/
  | navigateToPreviousWaypoint (handler : HandlerId) (onCompleted : Closure)
      (currentMissionIndex : Int)
  /-- `OnFailure`: RTL failed. -/
  | descend (handler : HandlerId) (onCompleted : Closure)
  /-- `runTrajectory`: the trajectory executor gives up. -/
  | trajectoryFailure
  | user (tag : Nat)
deriving DecidableEq, Repr

/-- The function objects that take an index. -/
inductive IndexClosure where
  /-- `runCurrentMissionItem`: an item of the mission trajectory is reached. -/
  | segment (handler : HandlerId) (endIndex : Int)
  /-- `ActionHandler::runTrajectory`. -/
  | customTrajectory (onCompleted : Closure) (endIndex : Int)
deriving DecidableEq, Repr

/-- The lambda that `runMode` and `runModeTakeoff` pass to the mode executor. -/
structure ModeCallback where
  onCompleted : Closure
  onFailure : Option Closure
deriving DecidableEq, Repr

structure TrajectoryConfig where
  trajectory : Mission
  options : TrajectoryOptions
  startIndex : Int
  endIndex : Int
  stopAtLast : Bool
  onIndexReached : IndexClosure
  onFailure : Closure
deriving Repr

/-- `ActionInterface`: the default actions, and custom ones with their pure methods. -/
inductive Action where
  | rtl
  | land
  | takeoff
  | onFailure
  | onResume
  | hold
  | changeSettings
  | custom (shouldStopAtWaypoint : ActionArguments → Bool) (supportsResumeFromLanded : Bool)

namespace Action

def shouldStopAtWaypoint : Action → ActionArguments → Bool
  | .rtl, _ => false
  | .changeSettings, _ => false
  | .custom shouldStop _, arguments => shouldStop arguments
  | _, _ => true

def supportsResumeFromLanded : Action → Bool
  | .custom _ supports => supports
  | _ => false

def ofDefaultName (name : String) : Option Action :=
  if name = "rtl" then some .rtl
  else if name = "land" then some .land
  else if name = "takeoff" then some .takeoff
  else if name = "onFailure" then some .onFailure
  else if name = "onResume" then some .onResume
  else if name = "hold" then some .hold
  else if name = "changeSettings" then some .changeSettings
  else none

end Action

/-- What a custom trajectory executor supports. -/
structure TrajectorySupport where
  waypoint : Bool
  global : Bool
deriving DecidableEq, Repr

/-- `MissionExecutor::Configuration`, and the hash of JSON values. -/
structure Configuration where
  customActions : List (String × Action) := []
  defaultActions : List String :=
    ["changeSettings", "hold", "land", "onFailure", "onResume", "rtl", "takeoff"]
  customTrajectoryExecutor : Option TrajectorySupport := none
  persistence : Bool := false
  hash : Json → Nat

namespace Configuration

/-- `_actions`: the first custom action of a name wins, then the default one. -/
def actions (config : Configuration) : Lib.OrderedMap String Action :=
  let custom := config.customActions.foldl
    (fun actions entry =>
      if (actions.find? entry.1).isSome then actions else actions.insert entry.1 entry.2) .empty
  config.defaultActions.foldl
    (fun actions name =>
      if (actions.find? name).isSome then actions
      else
        match Action.ofDefaultName name with
        | some action => actions.insert name action
        | none => actions) custom

def findAction (config : Configuration) (name : String) : Option Action :=
  config.actions.find? name

def navigationItemTypeSupported (config : Configuration) (type : NavigationItemType) : Bool :=
  match config.customTrajectoryExecutor with
  | some support => support.waypoint
  | none => type == .waypoint

def frameSupported (config : Configuration) (frame : MissionFrame) : Bool :=
  match config.customTrajectoryExecutor with
  | some support => support.global
  | none => frame == .global

end Configuration

inductive AbortReason where
  | other
  | modeFailure
  | trajectoryFailure
  | noValidMission
  | actionDoesNotExist
deriving DecidableEq, Repr

def abortReasonStr : AbortReason → String
  | .other => "other"
  | .modeFailure => "modeFailure"
  | .trajectoryFailure => "trajectoryFailure"
  | .noValidMission => "noValidMission"
  | .actionDoesNotExist => "actionDoesNotExist"

inductive MissionItemState where
  | trajectory
  | other
deriving DecidableEq, Repr

/-- Which of the user's callbacks are set. -/
structure UserCallbacks where
  onActivated : Bool := false
  onDeactivated : Bool := false
  onProgressUpdate : Bool := false
  onCompleted : Bool := false
  onActivityInfoChange : Bool := false
  onReadynessUpdate : Bool := false
  onFailsafeDeferred : Bool := false
deriving DecidableEq, Repr

/-- A function queued in `AsyncFunctionCalls`. -/
inductive Report where
  | progressUpdate (index : Int)
  | completed
  | readynessUpdate (errors : List String)
deriving DecidableEq, Repr

structure MissionExecutor where
  modeExecutor : ModeExecutorBase ModeCallback
  mission : Mission := {}
  hasValidMission : Bool := false
  missionErrors : List String := ["No mission"]
  actionsReady : Bool := false
  state : PersistentState := {}
  nextContinuousActionId : ActionID := 0
  missionItemState : MissionItemState := .other
  activeMode : ModeID := 0
  isActive : Bool := false
  trajectoryOptions : TrajectoryOptions := {}
  abortRecursionLevel : Nat := 0
  /-- The `_valid` flags of all handlers made so far. -/
  handlers : List Bool := [true]
  actionHandler : HandlerId := 0
  callbacks : UserCallbacks := {}
  /-- The queue of `_reporting`, and whether its timer runs. -/
  reporting : List Report := []
  reportingTimer : Bool := false
  /-- The timer of the Hold action, with what it completes. -/
  holdTimer : Option Closure := none
  /-- The keeper that the ChangeSettings action holds. -/
  changeSettingsState : Option ActionID := none
  /-- The state of the waypoint trajectory executor. -/
  currentTrajectory : Option TrajectoryConfig := none
  trajectoryIndex : Option Int := none
  landed : Bool := false
  persistenceFile : PersistenceFile := .missing
  /-- What user code was handed so far, and the number of `run` calls of custom actions that have
  not returned. -/
  userHandlers : List HandlerId := []
  userClosures : List Closure := []
  userIndexClosures : List IndexClosure := []
  userKeepers : List ActionID := []
  runCalls : Nat := 0
  /-- How many action items were started so far. -/
  starts : Nat := 0
  /-- An exception left the mission executor. -/
  crashed : Bool := false

namespace MissionExecutor

/-- Why user code is entered. -/
inductive Entry where
  | run (name : String) (handler : HandlerId) (arguments : ActionArguments)
      (onCompleted : Closure)
  | deactivate (name : String)
  | runTrajectory (config : TrajectoryConfig)
  | updateSetpoint
  | closure (tag : Nat)
  | onActivated
  | onDeactivated
  | onActivityInfoChange (info : Option String)
  | onFailsafeDeferred
  | report (report : Report)
deriving Repr

inductive Task where
  | modeExecutor (task : ModeExecutorBase.Task ModeCallback)
  | enter (entry : Entry)
  /-- Control is in user code, in the `run` of a custom action or elsewhere. -/
  | user (inRun : Bool)
  | call (closure : Closure)
  | callIndex (closure : IndexClosure) (index : Int)
  /-- The virtual call of an action's `run`. -/
  | run (name : String) (handler : HandlerId) (arguments : ActionArguments)
      (onCompleted : Closure)
  /-- `onActivate` after the index is set. -/
  | onActivateRun (startFromBeginning : Bool)
  /-- `onActivate` after the callback of the user. -/
  | onActivatedReturned (previousHandler : HandlerId) (startFromBeginning : Bool)
  /-- The rest of the loop of `runStoredActions`. -/
  | runStoredActions (actions : List ActionState)
  | runNextMissionItem
  | runCurrentMissionItem (resuming : Bool)
  /-- `runTrajectory` after the trajectory executor has the trajectory. -/
  | switchToTrajectory
  /-- The last statement of `runTrajectory`. -/
  | setTrajectoryState
  /-- `updateSetpoint` of the waypoint trajectory executor. -/
  | updateWaypoint
  /-- `Hold::run` after the mode is scheduled. -/
  | startHoldTimer (onCompleted : Closure)
  /-- `onDeactivate` after the onResume action stored its state. -/
  | savePersistentState
  | finishDeactivate
  | notifyDeactivated
  | deactivateAction (name : String)
  /-- The destructor of a keeper. -/
  | releaseKeeper (id : ActionID)
  | abort (reason : AbortReason)
  /-- `abort` after the activity info is cleared. -/
  | abortDeactivate (reason : AbortReason)
  | abortRunOnFailure (reason : AbortReason)
  | abortEnd
  /-- The loop of the reporting timer. -/
  | runReports
  | popReport
  /-- `deferFailsafesSync` waits. -/
  | deferWait

variable (executor : MissionExecutor)

def crash : MissionExecutor × List Task :=
  ({ executor with crashed := true }, [])

/-- Replaces the mode executor by the outcome of one of its functions. -/
def applyModeExecutor
    (after : ModeExecutorBase ModeCallback × List (ModeExecutorBase.Task ModeCallback)) :
    MissionExecutor × List Task :=
  ({ executor with modeExecutor := after.1 }, after.2.map .modeExecutor)

def modeId : ModeID := executor.modeExecutor.ownedMode.id

def isReady : Bool := executor.hasValidMission && executor.actionsReady

def setState (state : PersistentState) : MissionExecutor := { executor with state }

/-- `isValid()` of a handler. -/
def isValid (handler : HandlerId) : Bool := executor.handlers.getD handler false

/-- The current handler becomes invalid and a new one takes its place. -/
def invalidateActionHandler : MissionExecutor :=
  { executor with
    handlers := executor.handlers.set executor.actionHandler false ++ [true]
    actionHandler := executor.handlers.length }

def setActivityInfo (info : Option String) : List Task :=
  if executor.callbacks.onActivityInfoChange then [.enter (.onActivityInfoChange info)] else []

def callAsync (report : Report) : MissionExecutor :=
  { executor with reporting := executor.reporting ++ [report], reportingTimer := true }

/-- `_action_handler->clearActivityInfo()`. -/
def clearActivityInfo : List Task :=
  if executor.isValid executor.actionHandler then executor.setActivityInfo none else []

/-- The report of `setCurrentMissionIndex`. -/
def reportIndex (index : Int) : MissionExecutor :=
  if index ≥ executor.mission.items.length then
    if executor.callbacks.onCompleted then executor.callAsync .completed else executor
  else if executor.callbacks.onProgressUpdate then executor.callAsync (.progressUpdate index)
  else executor

def setCurrentMissionIndex (index : Int) : MissionExecutor × List Task :=
  let executor := executor.setState { executor.state with currentIndex := some index }
  (executor.reportIndex index, (executor.reportIndex index).clearActivityInfo)

def resetMissionState : MissionExecutor :=
  executor.setState { executor.state with currentIndex := none, continuousActions := .empty }

def runMode (modeId : ModeID) (onCompleted : Closure) (onFailure : Option Closure) :
    MissionExecutor × List Task :=
  if !executor.isActive then (executor, [])
  else
    { executor with missionItemState := .other, activeMode := modeId }.applyModeExecutor
      (executor.modeExecutor.scheduleMode modeId ⟨onCompleted, onFailure⟩ false)

def runModeTakeoff (altitude heading : Param) (onCompleted : Closure)
    (onFailure : Option Closure) : MissionExecutor × List Task :=
  if !executor.isActive then (executor, [])
  else
    { executor with missionItemState := .other, activeMode := kModeIDTakeoff }.applyModeExecutor
      (executor.modeExecutor.takeoff ⟨onCompleted, onFailure⟩ altitude heading)

/-- The lambda of `runMode` and `runModeTakeoff` gets its result. -/
def modeFinished (callback : ModeCallback) (result : Result) : MissionExecutor × List Task :=
  if result = .success then (executor, [.call callback.onCompleted])
  else if result ≠ .deactivated then
    ({ executor with activeMode := 0 },
      match callback.onFailure with
      | some onFailure => [.call onFailure]
      | none => [.abort .modeFailure])
  else (executor, [])

def runAction (config : Configuration) (name : String) (arguments : ActionArguments)
    (onCompleted : Closure) : MissionExecutor × List Task :=
  if !executor.isActive then (executor, [])
  else
    ({ executor with missionItemState := .other },
      match config.findAction name with
      | none => [.abort .actionDoesNotExist]
      | some _ => [.run name executor.actionHandler arguments onCompleted])

def runTrajectory (config : Configuration) (trajectory : Mission) (startIndex endIndex : Int)
    (onIndexReached : IndexClosure) (stopAtLast : Bool) : MissionExecutor × List Task :=
  if !executor.isActive then (executor, [])
  else
    let trajectoryConfig : TrajectoryConfig :=
      { trajectory, options := executor.trajectoryOptions, startIndex, endIndex, stopAtLast
        onIndexReached, onFailure := .trajectoryFailure }
    match config.customTrajectoryExecutor with
    | some _ => (executor, [.enter (.runTrajectory trajectoryConfig), .switchToTrajectory])
    | none =>
        ({ executor with
            currentTrajectory := some trajectoryConfig, trajectoryIndex := some startIndex },
          [.switchToTrajectory])

/-- `runTrajectory` after the trajectory executor took the trajectory over. -/
def switchToTrajectory : MissionExecutor × List Task :=
  if executor.activeMode ≠ executor.modeId then
    -- the trajectory executor handles the completion
    let switched := executor.runMode executor.modeId .noop none
    (switched.1, switched.2 ++ [.setTrajectoryState])
  else (executor, [.setTrajectoryState])

def setTrajectoryState : MissionExecutor :=
  { executor with missionItemState := .trajectory }

/-- Whether one of the actions that directly follow wants the vehicle to stop. -/
def actionsStop (config : Configuration) : List MissionItem → Bool
  | .action item :: rest =>
      (match config.findAction item.name with
      | some action => action.shouldStopAtWaypoint item.arguments
      | none => false) || actionsStop config rest
  | _ => false

/-- The loop of `getNextTrajectorySegment`, at an item with the given items after it. -/
def nextTrajectorySegment (config : Configuration) (endIndex : Int) :
    List MissionItem → Int × Bool
  | [] => (endIndex, true)
  | .navigation _ :: rest => nextTrajectorySegment config (endIndex + 1) rest
  | items@(.action _ :: _) => (endIndex, actionsStop config items)

def getNextTrajectorySegment (config : Configuration) (startIndex : Int) : Int × Bool :=
  nextTrajectorySegment config startIndex (executor.mission.items.drop (startIndex.toNat + 1))

def runNextMissionItem : MissionExecutor × List Task :=
  let index :=
    match executor.state.currentIndex with
    | some index => index + 1
    | none => 0
  let after := executor.setCurrentMissionIndex index
  (after.1, after.2 ++ [.runCurrentMissionItem false])

/-- The arguments of an action that is resumed. -/
def resumingArguments (resuming : Bool) (arguments : ActionArguments) : Option ActionArguments :=
  if resuming then (arguments.json.set "internal:resuming" (.bool true)).map .mk
  else some arguments

def runMissionItem (config : Configuration) (resuming : Bool) (index : Int) :
    MissionItem → MissionExecutor × List Task
  | .navigation _ =>
      let segment := executor.getNextTrajectorySegment config index
      executor.runTrajectory config executor.mission index segment.1
        (.segment executor.actionHandler segment.1) segment.2
  | .action item =>
      match resumingArguments resuming item.arguments with
      | none => executor.crash
      | some arguments =>
          { executor with starts := executor.starts + 1 }.runAction config item.name arguments
            (.nextItem executor.actionHandler executor.starts)

def runCurrentMissionItem (config : Configuration) (resuming : Bool) :
    MissionExecutor × List Task :=
  match executor.state.currentIndex with
  | none => executor.runMode kModeIDLoiter .noop none
  | some index =>
      match executor.mission.item? index with
      | none =>
          -- the mission is completed: hold, unless the previous mode triggered a landing
          if executor.activeMode ≠ executor.modeId then (executor, [])
          else executor.runMode kModeIDLoiter .noop none
      | some item => executor.runMissionItem config resuming index item

/-- `runStoredActions` up to its loop. -/
def takeStoredActions : MissionExecutor × List ActionState :=
  (executor.setState { executor.state with continuousActions := .empty },
    executor.state.continuousActions.values)

/-- One round of the loop of `runStoredActions`. -/
def runStoredActions (config : Configuration) : List ActionState → List Task
  | [] => []
  | action :: rest =>
      match config.findAction action.name with
      | none => [.runStoredActions rest]
      | some _ =>
          -- onResume is applied earlier
          if action.name = "onResume" then [.runStoredActions rest]
          else
            [.run action.name executor.actionHandler action.arguments .noop,
              .runStoredActions rest]

def getOnResumeStateAndClear : MissionExecutor × Json :=
  match executor.state.continuousActions.entries.find? fun entry => entry.2.name = "onResume" with
  | some (id, action) =>
      (executor.setState { executor.state with
        continuousActions := executor.state.continuousActions.erase id }, action.arguments.json)
  | none => (executor, .null)

/-- The end of `onActivate`. -/
def startMission (config : Configuration) (startFromBeginning : Bool) :
    MissionExecutor × List Task :=
  if (config.findAction "onResume").isNone || startFromBeginning then
    let stored := executor.takeStoredActions
    (stored.1, [.runStoredActions stored.2, .runCurrentMissionItem !startFromBeginning])
  else
    let stored := executor.getOnResumeStateAndClear
    match stored.2.set "action" (.string "resume") with
    | none => stored.1.crash
    | some arguments =>
        stored.1.runAction config "onResume" ⟨arguments⟩
          (.resumed executor.actionHandler executor.state.currentIndex)

def onActivateRun (config : Configuration) (startFromBeginning : Bool) :
    MissionExecutor × List Task :=
  if executor.callbacks.onActivated then
    (executor, [.enter .onActivated,
      .onActivatedReturned executor.actionHandler startFromBeginning])
  else executor.startMission config startFromBeginning

def onActivatedReturned (config : Configuration) (previousHandler : HandlerId)
    (startFromBeginning : Bool) : MissionExecutor × List Task :=
  -- an invalidated handler means that the mission was aborted
  if executor.isValid previousHandler then executor.startMission config startFromBeginning
  else (executor, [])

/-- The state that `onActivate` starts with. -/
def activated : MissionExecutor :=
  { executor with
    isActive := true
    trajectoryOptions := executor.mission.defaults.trajectoryOptions
    missionItemState := .other
    activeMode := executor.modeId }

def onActivate : MissionExecutor × List Task :=
  if !executor.isReady then (executor.activated, [.abort .noValidMission])
  else
    let after := executor.activated.setCurrentMissionIndex (executor.state.currentIndex.getD 0)
    (after.1, after.2 ++ [.onActivateRun executor.state.currentIndex.isNone])

/-- The closure that completes the onResume action. -/
def resumed (handler : HandlerId) (previousIndex : Option Int) : MissionExecutor × List Task :=
  if executor.isValid handler then
    if previousIndex = executor.state.currentIndex then
      let stored := executor.takeStoredActions
      (stored.1, [.runStoredActions stored.2, .runCurrentMissionItem true])
    else
      -- the action changed the index, stored actions are dropped
      (executor.setState { executor.state with continuousActions := .empty },
        [.runCurrentMissionItem false])
  else (executor, [])

/-- The closure that the trajectory of the mission calls for every item it reaches. -/
def segmentReached (handler : HandlerId) (endIndex index : Int) : MissionExecutor × List Task :=
  if executor.isValid handler then
    let after := executor.setCurrentMissionIndex (index + 1)
    (after.1, after.2 ++ if index = endIndex then [.runCurrentMissionItem false] else [])
  else (executor, [])

/-- An `int` as a `size_t`, for the comparisons of `onDeactivate`. -/
def asSize (index : Int) : Nat := (index % 2 ^ 64).toNat

/-- The last item is completed, or the vehicle landed at it. -/
def missionDone : Bool :=
  match executor.state.currentIndex with
  | none => false
  | some index =>
      (executor.landed &&
        asSize index == (executor.mission.items.length + (2 ^ 64 - 1)) % 2 ^ 64) ||
      decide (asSize index ≥ executor.mission.items.length)

def clearPersistentState (config : Configuration) : MissionExecutor :=
  if config.persistence then { executor with persistenceFile := .missing } else executor

def savePersistentState (config : Configuration) : MissionExecutor :=
  if !config.persistence then executor
  else
    match executor.state.currentIndex with
    | some index =>
        if executor.mission.indexValid index then
          { executor with persistenceFile := .json executor.state.toJson }
        else executor.clearPersistentState config
    | none => executor.clearPersistentState config

def storeStateArguments : ActionArguments := ⟨.object [("action", .string "storeState")]⟩

def runOnResumeStoreState (config : Configuration) : List Task :=
  match config.findAction "onResume" with
  | some _ => [.run "onResume" executor.actionHandler storeStateArguments .noop]
  | none => []

def deactivateAllActions (config : Configuration) : List Task :=
  config.actions.entries.map fun entry => .deactivateAction entry.1

/-- The state that `onDeactivate` starts with. -/
def deactivated : MissionExecutor :=
  { executor with isActive := false }.invalidateActionHandler

def onDeactivate (config : Configuration) : MissionExecutor × List Task :=
  if executor.missionDone then
    ((executor.deactivated.clearPersistentState config).resetMissionState, [.finishDeactivate])
  else
    (executor.deactivated, executor.deactivated.runOnResumeStoreState config ++
      [.savePersistentState, .finishDeactivate])

def finishDeactivate (config : Configuration) : List Task :=
  executor.clearActivityInfo ++ deactivateAllActions config ++ [.notifyDeactivated]

def notifyDeactivated : List Task :=
  if executor.callbacks.onDeactivated then [.enter .onDeactivated] else []

def maxAbortRecursionLevel : Nat := 10

def abort (reason : AbortReason) : MissionExecutor × List Task :=
  let executor := executor.invalidateActionHandler
  (executor, executor.clearActivityInfo ++ [.abortDeactivate reason])

def abortDeactivate (config : Configuration) (reason : AbortReason) : List Task :=
  if executor.abortRecursionLevel > maxAbortRecursionLevel then []
  else deactivateAllActions config ++ [.abortRunOnFailure reason]

def onFailureArguments (reason : AbortReason) : ActionArguments :=
  let fields := Lib.Entries.insert "recursionLevel" (Json.integer executor.abortRecursionLevel) []
  let fields := Lib.Entries.insert "reason" (Json.string (abortReasonStr reason)) fields
  match executor.state.currentIndex with
  | some index => ⟨.object (Lib.Entries.insert "currentIndex" (.integer index) fields)⟩
  | none => ⟨.object fields⟩

def abortRunOnFailure (config : Configuration) (reason : AbortReason) :
    MissionExecutor × List Task :=
  let executor := { executor with abortRecursionLevel := executor.abortRecursionLevel + 1 }
  match config.findAction "onFailure" with
  | none => (executor, [.abortEnd])
  | some _ =>
      let failed :=
        executor.runAction config "onFailure" (executor.onFailureArguments reason) .noop
      (failed.1, failed.2 ++ [.abortEnd])

def abortEnd : MissionExecutor :=
  { executor with abortRecursionLevel := executor.abortRecursionLevel - 1 }

/-- The public `abort()`. -/
def requestAbort : List Task :=
  if executor.isActive then [.abort .other] else []

/-- `addContinousAction`, with the id of the keeper it makes. -/
def addContinousAction (name : String) (arguments : ActionArguments) :
    MissionExecutor × ActionID :=
  let id := executor.nextContinuousActionId
  ({ executor with
      nextContinuousActionId := id + 1
      state := { executor.state with
        continuousActions :=
          executor.state.continuousActions.insert id { name, arguments, keeper := some id } } },
    id)

def removeContinousAction (id : ActionID) : MissionExecutor :=
  if !executor.isActive then executor
  else
    match executor.state.continuousActions.find? id with
    | none => executor
    | some _ =>
        executor.setState { executor.state with
          continuousActions := executor.state.continuousActions.erase id }

/-- `_state = keeper` of the ChangeSettings action, which destroys the keeper that was there. -/
def setChangeSettingsState (keeper : Option ActionID) : MissionExecutor × List Task :=
  ({ executor with changeSettingsState := keeper },
    executor.changeSettingsState.toList.map .releaseKeeper)

def currentActionSupportsResumeFromLanded (config : Configuration) : Bool :=
  match executor.state.currentIndex with
  | none => false
  | some index =>
      match executor.mission.item? index with
      | some (.action item) =>
          match config.findAction item.name with
          | some action => action.supportsResumeFromLanded
          | none => false
      | _ => false

/-- Errors are collected in a `std::set`. -/
def insertError (errors : List (String × Unit)) (error : String) : List (String × Unit) :=
  Lib.Entries.insert error () errors

/-- What `canRun` answers for an action item; the errors when it cannot run. -/
abbrev CanRun := ActionItem → Option (List String)

def canRunErrors (config : Configuration) (canRun : CanRun) (item : MissionItem) : List String :=
  match item with
  | .navigation _ => []
  | .action item =>
      match config.findAction item.name with
      | some (.custom _ _) =>
          match canRun item with
          | none => []
          | some [] => ["Action '" ++ item.name ++ "' is not ready yet"]
          | some errors => errors
      | _ => []

def checkReadynessAndReport (config : Configuration) (canRun : CanRun) : MissionExecutor :=
  if executor.isActive then executor
  else
    let errors := ((executor.mission.items.flatMap (canRunErrors config canRun)).foldl
      insertError []).map Prod.fst
    let executor := { executor with actionsReady := errors.isEmpty }
    if executor.callbacks.onReadynessUpdate then
      executor.callAsync (.readynessUpdate (executor.missionErrors ++ errors))
    else executor

def addOnce (errors : List String) (error : String) : List String :=
  if errors.contains error then errors else errors ++ [error]

/-- The errors of `setMission`. Navigation errors are reported once each. -/
def itemErrors (config : Configuration) (errors : List String) (item : MissionItem) :
    List String :=
  match item with
  | .navigation item =>
      let errors :=
        if config.navigationItemTypeSupported .waypoint then errors
        else addOnce errors "Mission contains unsupported navigation item: waypoint"
      if config.frameSupported item.data.frame then errors
      else addOnce errors "Mission contains navigation item with unsupported frame: global"
  | .action item =>
      match config.findAction item.name with
      | some _ => errors
      | none => errors ++ ["Mission contains unknown action '" ++ item.name ++ "'"]

def missionErrorsOf (config : Configuration) (mission : Mission) : List String :=
  mission.items.foldl (itemErrors config) [] ++
    if mission.items.isEmpty then ["Mission contains no mission items"] else []

def tryLoadPersistentState (config : Configuration) : Option PersistentState :=
  if config.persistence then
    PersistentState.tryLoad config.hash executor.mission executor.persistenceFile
  else none

def setMission (config : Configuration) (canRun : CanRun) (mission : Mission) :
    MissionExecutor :=
  if executor.isActive then executor
  else
    let errors := missionErrorsOf config mission
    let executor :=
      { executor with
        mission
        missionErrors := errors
        hasValidMission := errors.isEmpty
        state := { executor.state with missionChecksum := mission.checksum config.hash } }
    let executor := executor.checkReadynessAndReport config canRun
    match executor.tryLoadPersistentState config with
    | some state => executor.setState state
    | none => executor.resetMissionState

def resetMission : MissionExecutor :=
  if executor.isActive then executor
  else
    { executor with
      mission := {}
      hasValidMission := false
      missionErrors := ["No mission"] }.resetMissionState

end MissionExecutor

end Px4Ros2
