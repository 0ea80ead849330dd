import Px4Ros2.Lib.Machine
import Px4Ros2.Mission.ActionHandler

/-! A mission executor in its process. User code (custom actions, a custom trajectory executor,
callbacks) may do anything with the handlers, function objects and keepers it was handed; messages
and timers come in at quiescent points. -/

set_option autoImplicit false

namespace Px4Ros2.MissionExecutor

/-- A handler as user code names it: an object it was handed, or the reference that `run` has as a
parameter. It is bound to `_action_handler` and thus denotes whatever handler is current. -/
inductive HandlerRef where
  | object (handler : HandlerId)
  | parameter
deriving DecidableEq, Repr

inductive UserCallback where
  | onActivated
  | onDeactivated
  | onProgressUpdate
  | onCompleted
  | onActivityInfoChange
  | onReadynessUpdate
  | onFailsafeDeferred
deriving DecidableEq, Repr

inductive UserOp where
  | handler (handler : HandlerRef) (op : HandlerOp)
  | call (closure : Closure)
  | callIndex (closure : IndexClosure) (index : Int)
  /-- Destroys an `ActionStateKeeper`. -/
  | releaseKeeper (id : ActionID)
  | abort
  | setMission (mission : Mission) (canRun : CanRun)
  | resetMission
  | deferFailsafes (enabled : Bool) (timeoutS : Int32)
  | controlAutoSetHome (enabled : Bool)
  | setActivityInfo (info : Option String)
  | setCallback (callback : UserCallback) (isSet : Bool) (canRun : CanRun)

inductive Input where
  /-- Internal code goes on, or the user code that was called is entered. -/
  | proceed
  /-- The blocking command on top of the agenda returns. -/
  | command (result : Result)
  | op (op : UserOp)
  /-- User code returns. -/
  | ret
  /-- The position as the waypoint trajectory executor sees it. -/
  | position (valid reached : Bool)
  | deferResult
  | landDetected (landed : Bool)
  | vehicleStatus (msg : VehicleStatus)
  | modeCompleted (msg : ModeCompleted)
  | setpointTimer
  | reportingTimer
  | readynessTimer (canRun : CanRun)
  | holdTimer
  /-- A timer or subscription of the user fires. -/
  | userEvent

abbrev Config := Lib.Config MissionExecutor Task

variable (executor : MissionExecutor) (config : Configuration)

def learnHandler (handler : HandlerId) : MissionExecutor :=
  { executor with userHandlers := handler :: executor.userHandlers }

def learnClosure (closure : Closure) : MissionExecutor :=
  { executor with userClosures := closure :: executor.userClosures }

/-- Entering user code, which keeps what it is handed. -/
def enter : Entry → MissionExecutor × List Task
  | .run _ handler _ onCompleted =>
      ({ (executor.learnHandler handler).learnClosure onCompleted with
          runCalls := executor.runCalls + 1 }, [.user true])
  | .runTrajectory trajectory =>
      ({ executor.learnClosure trajectory.onFailure with
          userIndexClosures := trajectory.onIndexReached :: executor.userIndexClosures },
        [.user false])
  | _ => (executor, [.user false])

/-- A function object that user code can pass on: its own lambdas, and what it was handed. -/
def knows : Closure → Bool
  | .user _ => true
  | .noop => true
  | closure => executor.userClosures.contains closure

def knowsOptional : Option Closure → Bool
  | none => true
  | some closure => executor.knows closure

/-- User code has what the operation needs. -/
def knowsOp : HandlerOp → Bool
  | .runMode _ onCompleted onFailure =>
      executor.knows onCompleted && executor.knowsOptional onFailure
  | .runModeTakeoff _ _ onCompleted onFailure =>
      executor.knows onCompleted && executor.knowsOptional onFailure
  | .runAction _ _ onCompleted => executor.knows onCompleted
  | .runTrajectory _ onCompleted _ => executor.knows onCompleted
  | _ => true

/-- The object that a reference denotes; a parameter does as long as its `run` has not returned. -/
def resolve : HandlerRef → Option HandlerId
  | .object handler => if executor.userHandlers.contains handler then some handler else none
  | .parameter => if executor.runCalls > 0 then some executor.actionHandler else none

def setCallback (callback : UserCallback) (isSet : Bool) (canRun : CanRun) : MissionExecutor :=
  let callbacks := executor.callbacks
  match callback with
  | .onActivated => { executor with callbacks := { callbacks with onActivated := isSet } }
  | .onDeactivated => { executor with callbacks := { callbacks with onDeactivated := isSet } }
  | .onProgressUpdate =>
      { executor with callbacks := { callbacks with onProgressUpdate := isSet } }
  | .onCompleted => { executor with callbacks := { callbacks with onCompleted := isSet } }
  | .onActivityInfoChange =>
      { executor with callbacks := { callbacks with onActivityInfoChange := isSet } }
  | .onReadynessUpdate =>
      { executor with
        callbacks := { callbacks with onReadynessUpdate := isSet } }.checkReadynessAndReport
          config canRun
  | .onFailsafeDeferred =>
      { executor with callbacks := { callbacks with onFailsafeDeferred := isSet } }

/-- A request of user code. -/
def userOp : UserOp → Option (MissionExecutor × List Task)
  | .handler handler op =>
      if executor.knowsOp op then
        (executor.resolve handler).map fun handler => executor.handlerOp config handler op
      else none
  | .call closure => if executor.knows closure then some (executor, [.call closure]) else none
  | .callIndex closure index =>
      if executor.userIndexClosures.contains closure then
        some (executor, [.callIndex closure index])
      else none
  | .releaseKeeper id =>
      if executor.userKeepers.contains id then
        some ({ executor with
            userKeepers := executor.userKeepers.erase id }.removeContinousAction id, [])
      else none
  | .abort => some (executor, executor.requestAbort)
  | .setMission mission canRun => some (executor.setMission config canRun mission, [])
  | .resetMission => some (executor.resetMission, [])
  | .deferFailsafes enabled timeoutS => some (executor.deferFailsafes enabled timeoutS)
  | .controlAutoSetHome enabled => some (executor.controlAutoSetHome enabled, [])
  | .setActivityInfo info => some (executor, executor.setActivityInfo info)
  | .setCallback callback isSet canRun =>
      some (executor.setCallback config callback isSet canRun, [])

/-- Virtual methods and lambdas that the mode executor calls. -/
def modeExecutorHook : ModeExecutorBase.Hook ModeCallback → MissionExecutor × List Task
  | .completed callback result => executor.modeFinished callback result
  | .onActivate => executor.onActivate
  | .onDeactivate _ => executor.onDeactivate config
  | .onFailsafeDeferred =>
      (executor,
        if executor.callbacks.onFailsafeDeferred then [.enter .onFailsafeDeferred] else [])
  | .mode .updateSetpoint => executor.updateSetpoint config
  | .mode _ => (executor, [])

def modeExecutorTask (task : ModeExecutorBase.Task ModeCallback) (input : Input) :
    Option (MissionExecutor × List Task) :=
  match task, input with
  | .hook hook, .proceed => some (executor.modeExecutorHook config hook)
  | .sendScheduleMode modeId cmd callback, .command result =>
      some (executor.applyModeExecutor
        (executor.modeExecutor.resume result (.sendScheduleMode modeId cmd callback)))
  | .sendArmDisarm check cmd callback, .command result =>
      some (executor.applyModeExecutor
        (executor.modeExecutor.resume result (.sendArmDisarm check cmd callback)))
  | .sendScheduleMode _ _ _, _ => none
  | .sendArmDisarm _ _ _, _ => none
  | task, .proceed => some (executor.applyModeExecutor (executor.modeExecutor.resume .success task))
  | _, _ => none

/-- A queued report is called. A progress or readiness report calls the callback that is set then;
without one an exception is thrown. -/
def callReport (report : Report) : MissionExecutor × List Task :=
  match report with
  | .progressUpdate _ =>
      if executor.callbacks.onProgressUpdate then
        (executor, [.enter (.report report), .popReport])
      else executor.crash
  | .completed => (executor, [.enter (.report report), .popReport])
  | .readynessUpdate _ =>
      if executor.callbacks.onReadynessUpdate then
        (executor, [.enter (.report report), .popReport])
      else executor.crash

def runReports : MissionExecutor × List Task :=
  match executor.reporting with
  | [] => (executor, [])
  | report :: _ => executor.callReport report

/-- The tasks of internal code. -/
def internal : Task → MissionExecutor × List Task
  | .enter entry => executor.enter entry
  | .call closure => executor.call config closure
  | .callIndex closure index => executor.callIndex index closure
  | .run name handler arguments onCompleted =>
      executor.run config name handler arguments onCompleted
  | .onActivateRun startFromBeginning => executor.onActivateRun config startFromBeginning
  | .onActivatedReturned previousHandler startFromBeginning =>
      executor.onActivatedReturned config previousHandler startFromBeginning
  | .runStoredActions actions => (executor, executor.runStoredActions config actions)
  | .runNextMissionItem => executor.runNextMissionItem
  | .runCurrentMissionItem resuming => executor.runCurrentMissionItem config resuming
  | .switchToTrajectory => executor.switchToTrajectory
  | .setTrajectoryState => (executor.setTrajectoryState, [])
  | .startHoldTimer onCompleted => ({ executor with holdTimer := some onCompleted }, [])
  | .savePersistentState => (executor.savePersistentState config, [])
  | .finishDeactivate => (executor, executor.finishDeactivate config)
  | .notifyDeactivated => (executor, executor.notifyDeactivated)
  | .deactivateAction name => executor.deactivateAction config name
  | .releaseKeeper id => (executor.removeContinousAction id, [])
  | .abort reason => executor.abort reason
  | .abortDeactivate reason => (executor, executor.abortDeactivate config reason)
  | .abortRunOnFailure reason => executor.abortRunOnFailure config reason
  | .abortEnd => (executor.abortEnd, [])
  | .runReports => executor.runReports
  | .popReport =>
      ({ executor with reporting := executor.reporting.tail }, [.runReports])
  | .modeExecutor _ | .user _ | .updateWaypoint | .deferWait => (executor, [])

def exec (task : Task) (input : Input) : Option (MissionExecutor × List Task) :=
  if executor.crashed then none
  else
    match task, input with
    | task, .landDetected landed => some ({ executor with landed }, [task])
    | .modeExecutor task, input => executor.modeExecutorTask config task input
    | .user inRun, .op op =>
        (executor.userOp config op).map fun after => (after.1, after.2 ++ [.user inRun])
    | .user inRun, .ret =>
        some ({ executor with
          runCalls := if inRun then executor.runCalls - 1 else executor.runCalls }, [])
    | .updateWaypoint, .position valid reached => some (executor.updateWaypoint valid reached)
    | .deferWait, .deferResult => some (executor, [])
    | .user _, _ | .updateWaypoint, _ | .deferWait, _ => none
    | task, .proceed => some (executor.internal config task)
    | _, _ => none

def idle (input : Input) : Option (MissionExecutor × List Task) :=
  if executor.crashed then none
  else
    match input with
    | .landDetected landed => some ({ executor with landed }, [])
    | .vehicleStatus msg =>
        some (executor.applyModeExecutor (executor.modeExecutor.vehicleStatusReceived msg))
    | .modeCompleted msg =>
        some (executor.applyModeExecutor (executor.modeExecutor.modeCompletedReceived msg))
    | .setpointTimer =>
        if executor.modeExecutor.ownedMode.setpointUpdateTimer.isSome then
          some (executor.updateSetpoint config)
        else none
    | .reportingTimer =>
        if executor.reportingTimer then
          some ({ executor with reportingTimer := false }, [.runReports])
        else none
    | .readynessTimer canRun => some (executor.checkReadynessAndReport config canRun, [])
    | .holdTimer =>
        executor.holdTimer.map fun onCompleted =>
          ({ executor with holdTimer := none }, [.call onCompleted])
    | .userEvent => some (executor, [.user false])
    | _ => none

def machine (config : Configuration) : Lib.Machine MissionExecutor Task Input :=
  ⟨fun executor => executor.exec config, fun executor => executor.idle config⟩

/-- A mission executor after construction, with what the persistence file holds then. -/
def initial (registered : Bool) (id : UInt8) (ownedMode : ModeBase)
    (persistenceFile : PersistenceFile) : Config :=
  ⟨{ modeExecutor := { registered, id, ownedMode }, persistenceFile }, []⟩

/-! Inputs of a run that is given step by step. -/

def proceeds (count : Nat) : List Input :=
  List.replicate count .proceed

/-- An armed vehicle, in a mode and with an executor in charge. -/
def armedStatus (navState : ModeID) (executorInCharge : UInt8) : Input :=
  .vehicleStatus ⟨VehicleStatus.armingStateArmed, navState, executorInCharge, false, 0, true⟩

end Px4Ros2.MissionExecutor
