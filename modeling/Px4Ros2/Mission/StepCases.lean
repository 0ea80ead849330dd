import Px4Ros2.Mission.MissionEffects

/-! What executing a task can do to the progress of the mission. Most of it is routine; the other
tasks are listed by the function that they run. -/

set_option autoImplicit false

namespace Px4Ros2

/-- The tasks of a status update that change who is in charge, or that follow in it. -/
@[simp] def ModeExecutorBase.Task.isStatus {Callback : Type} : Task Callback → Bool
  | .callOnActivate | .callOnDeactivate _ | .cancelWaitVehicleStatus | .leaveCharge _ => true
  | .hook .onActivate | .hook (.onDeactivate _) => true
  | .reactivateOnModeSwitch _ _ _ | .notifyFailsafeDeferred _ _ => true
  | .updateOwnedMode _ _ | .finishStatusUpdate _ => true
  | _ => false

namespace MissionExecutor

@[simp] def Task.isStatus : Task → Bool
  | .modeExecutor task => task.isStatus
  | _ => false

/-- Tasks that any code may leave behind. -/
@[simp] def Task.isRoutine : Task → Bool
  | .modeExecutor task => !task.isStatus
  | .enter (.run _ _ _ _) => false
  | .callIndex (.segment _ _) _ => false
  | .enter _ | .user _ | .call _ | .callIndex _ _ | .startHoldTimer _ | .deferWait => true
  | .updateWaypoint | .runReports | .popReport | .releaseKeeper _ | .deactivateAction _ => true
  | .notifyDeactivated | .abort _ => true
  | _ => false

/-- The operations of a handler that can change the course of the mission. -/
@[simp] def HandlerOp.isRoutine : HandlerOp → Bool
  | .runAction _ _ _ | .runTrajectory _ _ _ | .setCurrentMissionIndex _ | .storeState _ _ => false
  | _ => true

/-- Nothing happens to the progress of the mission. -/
structure Routine (before after : MissionExecutor) : Prop where
  mission : after.mission = before.mission
  currentIndex : after.state.currentIndex = before.state.currentIndex
  inactive : before.isActive = false → after.state = before.state
  isActive : after.isActive = before.isActive
  handlers : after.handlers = before.handlers
  actionHandler : after.actionHandler = before.actionHandler
  userHandlers : after.userHandlers = before.userHandlers
  starts : after.starts = before.starts
  currentTrajectory : after.currentTrajectory = before.currentTrajectory
  trajectoryIndex : after.trajectoryIndex = before.trajectoryIndex
  abortRecursionLevel : after.abortRecursionLevel = before.abortRecursionLevel
  missionItemState : after.missionItemState = before.missionItemState ∨
    after.missionItemState = .other
  isInCharge : after.modeExecutor.isInCharge = before.modeExecutor.isInCharge
  persistenceFile : after.persistenceFile = before.persistenceFile

inductive Does (config : Configuration) (executor : MissionExecutor) :
    Task → Input → MissionExecutor × List Task → Prop where
  | routine {task : Task} {input : Input} {after : MissionExecutor × List Task} :
      Routine executor after.1 → (∀ other ∈ after.2, other.isRoutine = true) →
      Does config executor task input after
  | again (task : Task) (landed : Bool) :
      Does config executor task (.landDetected landed) ({ executor with landed }, [task])
  | modeExecutor {task : ModeExecutorBase.Task ModeCallback} {input : Input} (result : Result) :
      (∀ hook, task ≠ .hook hook) →
      Does config executor (.modeExecutor task) input
        (executor.applyModeExecutor (executor.modeExecutor.resume result task))
  | onActivate :
      Does config executor (.modeExecutor (.hook .onActivate)) .proceed executor.onActivate
  | onDeactivate (reason : DeactivateReason) :
      Does config executor (.modeExecutor (.hook (.onDeactivate reason))) .proceed
        (executor.onDeactivate config)
  | onActivateRun {input : Input} (startFromBeginning : Bool) :
      Does config executor (.onActivateRun startFromBeginning) input
        (executor.onActivateRun config startFromBeginning)
  | onActivatedReturned {input : Input} (previousHandler : HandlerId)
      (startFromBeginning : Bool) :
      Does config executor (.onActivatedReturned previousHandler startFromBeginning) input
        (executor.onActivatedReturned config previousHandler startFromBeginning)
  | runStoredActions {input : Input} (actions : List ActionState) :
      Does config executor (.runStoredActions actions) input
        (executor, executor.runStoredActions config actions)
  | runNextMissionItem {input : Input} :
      Does config executor .runNextMissionItem input executor.runNextMissionItem
  | runCurrentMissionItem {input : Input} (resuming : Bool) :
      Does config executor (.runCurrentMissionItem resuming) input
        (executor.runCurrentMissionItem config resuming)
  | switchToTrajectory {input : Input} :
      Does config executor .switchToTrajectory input executor.switchToTrajectory
  | setTrajectoryState {input : Input} :
      Does config executor .setTrajectoryState input (executor.setTrajectoryState, [])
  | nextItem {input : Input} (handler : HandlerId) (start : Nat) :
      Does config executor (.call (.nextItem handler start)) input
        (executor, if executor.isValid handler then [.runNextMissionItem] else [])
  | resumed {input : Input} (handler : HandlerId) (previousIndex : Option Int) :
      Does config executor (.call (.resumed handler previousIndex)) input
        (executor.resumed handler previousIndex)
  | navigate {input : Input} (handler : HandlerId) (onCompleted : Closure)
      (currentMissionIndex : Int) :
      Does config executor
        (.call (.navigateToPreviousWaypoint handler onCompleted currentMissionIndex)) input
        (executor.navigateToPreviousWaypoint config handler onCompleted currentMissionIndex)
  | segment {input : Input} (handler : HandlerId) (endIndex index : Int) :
      Does config executor (.callIndex (.segment handler endIndex) index) input
        (executor.segmentReached handler endIndex index)
  | continueNextItem {input : Input} {trajectory : TrajectoryConfig} {index : Int} :
      executor.currentTrajectory = some trajectory → executor.trajectoryIndex = some index →
      Does config executor .updateWaypoint input (executor.continueNextItem trajectory index)
  | runCustom {input : Input} (name : String) (handler : HandlerId)
      (arguments : ActionArguments) (onCompleted : Closure)
      {shouldStop : ActionArguments → Bool} {supportsResume : Bool} :
      config.findAction name = some (.custom shouldStop supportsResume) →
      Does config executor (.run name handler arguments onCompleted) input
        (executor, [.enter (.run name handler arguments onCompleted)])
  | onResumeCompletes {input : Input} (name : String) (handler : HandlerId)
      (arguments : ActionArguments) (onCompleted : Closure) :
      config.findAction name = some .onResume →
      arguments.at? Json.getString "action" = some "resume" →
      Does config executor (.run name handler arguments onCompleted) input
        (executor, [.call onCompleted])
  | unexpectedLanding {input : Input} (name : String) (handler : HandlerId)
      (arguments : ActionArguments) (onCompleted : Closure) (index : Int) :
      config.findAction name = some .onResume → executor.landed = true →
      arguments.at? Json.getString "action" = some "resume" →
      Does config executor (.run name handler arguments onCompleted) input
        (executor.resumeFromUnexpectedLanding config handler onCompleted index)
  | changeSettings {input : Input} (name : String) (handler : HandlerId)
      (arguments : ActionArguments) (onCompleted : Closure) :
      config.findAction name = some .changeSettings →
      Does config executor (.run name handler arguments onCompleted) input
        (executor.runChangeSettings config handler arguments onCompleted)
  | enterRun {input : Input} (name : String) (handler : HandlerId)
      (arguments : ActionArguments) (onCompleted : Closure) :
      Does config executor (.enter (.run name handler arguments onCompleted)) input
        (executor.enter (.run name handler arguments onCompleted))
  | userHandlerOp (inRun : Bool) (reference : HandlerRef) (op : HandlerOp) (handler : HandlerId) :
      op.isRoutine = false → executor.resolve reference = some handler →
      Does config executor (.user inRun) (.op (.handler reference op))
        ((executor.handlerOp config handler op).1,
          (executor.handlerOp config handler op).2 ++ [.user inRun])
  | userCallIndex (inRun : Bool) (closure : IndexClosure) (index : Int) :
      closure ∈ executor.userIndexClosures →
      Does config executor (.user inRun) (.op (.callIndex closure index))
        (executor, [.callIndex closure index, .user inRun])
  | userSetMission (inRun : Bool) (mission : Mission) (canRun : CanRun) :
      Does config executor (.user inRun) (.op (.setMission mission canRun))
        (executor.setMission config canRun mission, [.user inRun])
  | userResetMission (inRun : Bool) :
      Does config executor (.user inRun) (.op .resetMission)
        (executor.resetMission, [.user inRun])
  | savePersistentState {input : Input} :
      Does config executor .savePersistentState input (executor.savePersistentState config, [])
  | abort {input : Input} (reason : AbortReason) :
      Does config executor (.abort reason) input (executor.abort reason)
  | abortDeactivate {input : Input} (reason : AbortReason) :
      Does config executor (.abortDeactivate reason) input
        (executor, executor.abortDeactivate config reason)
  | abortRunOnFailure {input : Input} (reason : AbortReason) :
      Does config executor (.abortRunOnFailure reason) input
        (executor.abortRunOnFailure config reason)
  | abortEnd {input : Input} : Does config executor .abortEnd input (executor.abortEnd, [])

variable {config : Configuration} {executor : MissionExecutor}

theorem Routine.refl (executor : MissionExecutor) : Routine executor executor := by
  constructor
  case missionItemState => exact .inl rfl
  case inactive => exact fun _ => rfl
  all_goals rfl

theorem Routine.trans {first second third : MissionExecutor} (one : Routine first second)
    (two : Routine second third) : Routine first third := by
  constructor
  case missionItemState =>
    rcases two.missionItemState with same | other
    · rw [same]
      exact one.missionItemState
    · exact .inr other
  case inactive =>
    intro inactive
    exact (two.inactive (one.isActive.trans inactive)).trans (one.inactive inactive)
  case mission => exact two.mission.trans one.mission
  case currentIndex => exact two.currentIndex.trans one.currentIndex
  case isActive => exact two.isActive.trans one.isActive
  case handlers => exact two.handlers.trans one.handlers
  case actionHandler => exact two.actionHandler.trans one.actionHandler
  case userHandlers => exact two.userHandlers.trans one.userHandlers
  case starts => exact two.starts.trans one.starts
  case currentTrajectory => exact two.currentTrajectory.trans one.currentTrajectory
  case trajectoryIndex => exact two.trajectoryIndex.trans one.trajectoryIndex
  case abortRecursionLevel => exact two.abortRecursionLevel.trans one.abortRecursionLevel
  case isInCharge => exact two.isInCharge.trans one.isInCharge
  case persistenceFile => exact two.persistenceFile.trans one.persistenceFile

/-- A state together with routine tasks to do. -/
structure RoutineAfter (executor : MissionExecutor) (after : MissionExecutor × List Task) :
    Prop where
  state : Routine executor after.1
  tasks : ∀ task ∈ after.2, task.isRoutine = true

theorem RoutineAfter.does {task : Task} {input : Input} {after : MissionExecutor × List Task}
    (routine : RoutineAfter executor after) : Does config executor task input after :=
  .routine routine.state routine.tasks

theorem RoutineAfter.nothing (executor : MissionExecutor) :
    RoutineAfter executor (executor, []) :=
  ⟨.refl executor, by simp⟩

theorem RoutineAfter.append {after : MissionExecutor × List Task}
    (routine : RoutineAfter executor after) {tasks : List Task}
    (more : ∀ task ∈ tasks, task.isRoutine = true) :
    RoutineAfter executor (after.1, after.2 ++ tasks) := by
  refine ⟨routine.state, fun task member => ?_⟩
  rcases List.mem_append.mp member with first | second
  · exact routine.tasks task first
  · exact more task second

theorem scheduleModeCommand_fst (modeExecutor : ModeExecutorBase ModeCallback) (modeId : ModeID)
    (cmd : VehicleCommand) (callback : ModeCallback) (forced : Bool) :
    (modeExecutor.scheduleModeCommand modeId cmd callback forced).1 = modeExecutor := by
  unfold ModeExecutorBase.scheduleModeCommand
  split <;> rfl

theorem scheduleModeCommand_isStatus (modeExecutor : ModeExecutorBase ModeCallback)
    (modeId : ModeID) (cmd : VehicleCommand) (callback : ModeCallback) (forced : Bool) :
    ∀ task ∈ (modeExecutor.scheduleModeCommand modeId cmd callback forced).2,
      task.isStatus = false := by
  unfold ModeExecutorBase.scheduleModeCommand
  split <;> simp [ModeExecutorBase.Task.isStatus]

/-- A new schedule, with a mode that is not the one of the mission's trajectory. -/
theorem routineAfter_schedule {before : MissionExecutor} (routine : Routine executor before)
    (modeId : ModeID) (cmd : VehicleCommand) (callback : ModeCallback) (forced : Bool) :
    RoutineAfter executor (before.applyModeExecutor
      (before.modeExecutor.scheduleModeCommand modeId cmd callback forced)) := by
  constructor
  · refine routine.trans ?_
    constructor
    case missionItemState => exact .inl rfl
    case inactive => exact fun _ => rfl
    case isInCharge => simp [applyModeExecutor, scheduleModeCommand_fst]
    all_goals rfl
  · intro task member
    obtain ⟨task', member', rfl⟩ := List.mem_map.mp member
    simpa [Task.isRoutine] using scheduleModeCommand_isStatus _ _ _ _ _ task' member'

theorem routineAfter_runMode (modeId : ModeID) (onCompleted : Closure)
    (onFailure : Option Closure) :
    RoutineAfter executor (executor.runMode modeId onCompleted onFailure) := by
  have switched : Routine executor
      { executor with missionItemState := .other, activeMode := modeId } := by
    constructor
    case missionItemState => exact .inr rfl
    case inactive => exact fun _ => rfl
    all_goals rfl
  unfold runMode
  split
  · exact .nothing executor
  · exact routineAfter_schedule switched _ _ _ _

theorem routineAfter_runModeTakeoff (altitude heading : Param) (onCompleted : Closure)
    (onFailure : Option Closure) :
    RoutineAfter executor (executor.runModeTakeoff altitude heading onCompleted onFailure) := by
  have switched : Routine executor
      { executor with missionItemState := .other, activeMode := kModeIDTakeoff } := by
    constructor
    case missionItemState => exact .inr rfl
    case inactive => exact fun _ => rfl
    all_goals rfl
  unfold runModeTakeoff
  split
  · exact .nothing executor
  · exact routineAfter_schedule switched _ _ _ _

theorem routineAfter_modeFinished (callback : ModeCallback) (result : Result) :
    RoutineAfter executor (executor.modeFinished callback result) := by
  unfold modeFinished
  split
  · exact ⟨.refl executor, by simp [Task.isRoutine]⟩
  · split
    · constructor
      · constructor
        case missionItemState => exact .inl rfl
        case inactive => exact fun _ => rfl
        all_goals rfl
      · cases callback.onFailure <;> simp [Task.isRoutine]
    · exact .nothing executor

theorem routineAfter_handlerOp (handler : HandlerId) {op : HandlerOp} (kind : op.isRoutine = true) :
    RoutineAfter executor (executor.handlerOp config handler op) := by
  unfold handlerOp
  split
  · exact .nothing executor
  · cases op with
    | runMode => exact routineAfter_runMode _ _ _
    | runModeTakeoff => exact routineAfter_runModeTakeoff _ _ _ _
    | runAction | runTrajectory | setCurrentMissionIndex | storeState => cases kind
    | setActivityInfo | clearActivityInfo =>
        refine ⟨.refl executor, ?_⟩
        simp only [handlerCall, setActivityInfo]
        split <;> simp [Task.isRoutine]
    | deferFailsafes =>
        constructor
        · constructor
          case missionItemState => exact .inl rfl
          case inactive => exact fun _ => rfl
          all_goals rfl
        · simp only [handlerCall, deferFailsafes]
          split <;> simp [Task.isRoutine]
    | clearTrajectoryOptions | setTrajectoryOptions | controlAutoSetHome | onFailsafeDeferred =>
        constructor
        · constructor
          case missionItemState => exact .inl rfl
          case inactive => exact fun _ => rfl
          all_goals rfl
        · simp [handlerCall]

theorem routineAfter_crash : RoutineAfter executor executor.crash := by
  constructor
  · constructor
    case missionItemState => exact .inl rfl
    case inactive => exact fun _ => rfl
    all_goals rfl
  · simp [crash]

theorem routine_removeContinousAction (id : ActionID) :
    Routine executor (executor.removeContinousAction id) := by
  obtain same | ⟨active, same⟩ := executor.removeContinousAction_cases id
  · rw [same]
    exact .refl executor
  · rw [same]
    constructor
    case missionItemState => exact .inl rfl
    case inactive =>
      intro inactive
      rw [active] at inactive
      cases inactive
    all_goals rfl

theorem routineAfter_setChangeSettingsState (keeper : Option ActionID) :
    RoutineAfter executor (executor.setChangeSettingsState keeper) := by
  constructor
  · constructor
    case missionItemState => exact .inl rfl
    case inactive => exact fun _ => rfl
    all_goals rfl
  · intro task member
    obtain ⟨id, _, rfl⟩ := List.mem_map.mp member
    rfl

theorem routineAfter_deactivateAction (name : String) :
    RoutineAfter executor (executor.deactivateAction config name) := by
  unfold deactivateAction
  split
  · constructor
    · constructor
      case missionItemState => exact .inl rfl
      case inactive => exact fun _ => rfl
      all_goals rfl
    · simp
  · exact routineAfter_setChangeSettingsState none
  · exact ⟨.refl executor, by simp [Task.isRoutine]⟩
  · exact .nothing executor

theorem routineAfter_updateSetpoint :
    RoutineAfter executor (executor.updateSetpoint config) := by
  unfold updateSetpoint
  split
  · exact .nothing executor
  · split <;> exact ⟨.refl executor, by simp [Task.isRoutine]⟩

theorem routine_checkReadynessAndReport (canRun : CanRun) :
    Routine executor (executor.checkReadynessAndReport config canRun) := by
  unfold checkReadynessAndReport
  split
  · exact .refl executor
  · dsimp only
    split <;>
    · constructor
      case missionItemState => exact .inl rfl
      case inactive => exact fun _ => rfl
      all_goals rfl

theorem routine_setCallback (callback : UserCallback) (isSet : Bool) (canRun : CanRun) :
    Routine executor (executor.setCallback config callback isSet canRun) := by
  cases callback with
  | onReadynessUpdate =>
      refine Routine.trans ?_ (routine_checkReadynessAndReport canRun)
      constructor
      case missionItemState => exact .inl rfl
      case inactive => exact fun _ => rfl
      all_goals rfl
  | _ =>
      constructor
      case missionItemState => exact .inl rfl
      case inactive => exact fun _ => rfl
      all_goals rfl

theorem routineAfter_runReports : RoutineAfter executor executor.runReports := by
  have entered : ∀ report, RoutineAfter executor
      (executor, [Task.enter (.report report), .popReport]) :=
    fun report => ⟨.refl executor, by simp [Task.isRoutine]⟩
  unfold runReports
  split
  · exact .nothing executor
  · rename_i report _ _
    cases report with
    | completed => exact entered _
    | _ =>
        simp only [callReport]
        split
        · exact entered _
        · exact routineAfter_crash

theorem isRoutine_clearActivityInfo : ∀ task ∈ executor.clearActivityInfo,
    task.isRoutine = true := by
  unfold clearActivityInfo setActivityInfo
  split
  · split <;> simp [Task.isRoutine]
  · simp

theorem isRoutine_deactivateAllActions : ∀ task ∈ deactivateAllActions config,
    task.isRoutine = true := by
  intro task member
  obtain ⟨entry, _, rfl⟩ := List.mem_map.mp member
  rfl

/-! Tasks of internal code. -/

theorem enter_does {input : Input} (entry : Entry) :
    Does config executor (.enter entry) input (executor.enter entry) := by
  cases entry with
  | run name handler arguments onCompleted => exact .enterRun _ _ _ _
  | runTrajectory trajectory =>
      refine .routine ?_ (by simp [enter, Task.isRoutine])
      constructor
      case missionItemState => exact .inl rfl
      case inactive => exact fun _ => rfl
      all_goals rfl
  | _ => exact .routine (.refl executor) (by simp [enter, Task.isRoutine])

theorem call_does {input : Input} (closure : Closure) :
    Does config executor (.call closure) input (executor.call config closure) := by
  cases closure with
  | nextItem handler start => exact .nextItem _ _
  | resumed handler previousIndex => exact .resumed _ _
  | navigateToPreviousWaypoint handler onCompleted index => exact .navigate _ _ _
  | descend handler onCompleted => exact (routineAfter_handlerOp _ rfl).does
  | noop | trajectoryFailure | user =>
      exact .routine (.refl executor) (by simp [call, Task.isRoutine])

theorem callIndex_does {input : Input} (closure : IndexClosure) (index : Int) :
    Does config executor (.callIndex closure index) input (executor.callIndex index closure) := by
  cases closure with
  | segment handler endIndex => exact .segment _ _ _
  | customTrajectory onCompleted endIndex =>
      refine .routine (.refl executor) ?_
      simp only [callIndex]
      split <;> simp [Task.isRoutine]

theorem updateWaypoint_does {input : Input} (positionValid positionReached : Bool) :
    Does config executor .updateWaypoint input
      (executor.updateWaypoint positionValid positionReached) := by
  unfold updateWaypoint
  split
  · rename_i trajectory index current position
    split
    · split
      · exact .routine (.refl executor) (by simp [Task.isRoutine])
      · split
        · exact .continueNextItem current position
        · exact (RoutineAfter.nothing executor).does
    · exact .continueNextItem current position
  · exact (RoutineAfter.nothing executor).does

theorem runOnResume_does {input : Input} {name : String} (handler : HandlerId)
    (arguments : ActionArguments) (onCompleted : Closure)
    (action : config.findAction name = some .onResume) :
    Does config executor (.run name handler arguments onCompleted) input
      (executor.runOnResume config handler arguments onCompleted) := by
  unfold runOnResume
  split
  · exact routineAfter_crash.does
  · rename_i requested found
    split
    · exact (RoutineAfter.nothing executor).does
    · rename_i resume
      have resumes : arguments.at? Json.getString "action" = some "resume" := by
        rw [found, Decidable.not_not.mp resume]
      dsimp only
      split
      · exact .onResumeCompletes _ _ _ _ action resumes
      · split
        · rename_i landed
          simp only [Bool.and_eq_true] at landed
          exact .unexpectedLanding _ _ _ _ _ action landed.1 resumes
        · exact .onResumeCompletes _ _ _ _ action resumes

theorem run_does {input : Input} (name : String) (handler : HandlerId)
    (arguments : ActionArguments) (onCompleted : Closure) :
    Does config executor (.run name handler arguments onCompleted) input
      (executor.run config name handler arguments onCompleted) := by
  unfold run
  split
  · exact (RoutineAfter.nothing executor).does
  · exact (routineAfter_handlerOp _ rfl).does
  · exact (routineAfter_handlerOp _ rfl).does
  · split
    · exact routineAfter_crash.does
    · exact (routineAfter_handlerOp _ rfl).does
  · split
    · exact routineAfter_crash.does
    · exact ((routineAfter_handlerOp _ rfl).append (by simp [Task.isRoutine])).does
  · rename_i action
    exact runOnResume_does _ _ _ action
  · exact (routineAfter_handlerOp _ rfl).does
  · rename_i action
    exact .changeSettings _ _ _ _ action
  · rename_i action
    exact .runCustom _ _ _ _ action

theorem internal_does {input : Input} (task : Task) (inner : ∀ other, task ≠ .modeExecutor other) :
    Does config executor task input (executor.internal config task) := by
  cases task with
  | modeExecutor task => exact absurd rfl (inner task)
  | enter entry => exact enter_does entry
  | call closure => exact call_does closure
  | callIndex closure index => exact callIndex_does closure index
  | run name handler arguments onCompleted => exact run_does _ _ _ _
  | onActivateRun => exact .onActivateRun _
  | onActivatedReturned => exact .onActivatedReturned _ _
  | runStoredActions => exact .runStoredActions _
  | runNextMissionItem => exact .runNextMissionItem
  | runCurrentMissionItem => exact .runCurrentMissionItem _
  | switchToTrajectory => exact .switchToTrajectory
  | setTrajectoryState => exact .setTrajectoryState
  | savePersistentState => exact .savePersistentState
  | abort => exact .abort _
  | abortDeactivate => exact .abortDeactivate _
  | abortRunOnFailure => exact .abortRunOnFailure _
  | abortEnd => exact .abortEnd
  | deactivateAction name => exact (routineAfter_deactivateAction name).does
  | releaseKeeper id => exact .routine (routine_removeContinousAction id) (by simp [internal])
  | runReports => exact routineAfter_runReports.does
  | finishDeactivate =>
      refine .routine (.refl executor) ?_
      intro task member
      rcases List.mem_append.mp member with first | last
      · rcases List.mem_append.mp first with info | action
        · exact isRoutine_clearActivityInfo task info
        · exact isRoutine_deactivateAllActions task action
      · rw [List.mem_singleton.mp last]
        rfl
  | notifyDeactivated =>
      refine .routine (.refl executor) ?_
      simp only [internal, notifyDeactivated]
      split <;> simp [Task.isRoutine]
  | startHoldTimer | popReport =>
      refine .routine ?_ (by simp [internal, Task.isRoutine])
      constructor
      case missionItemState => exact .inl rfl
      case inactive => exact fun _ => rfl
      all_goals rfl
  | user | updateWaypoint | deferWait => exact (RoutineAfter.nothing executor).does

theorem userOp_does {inRun : Bool} {op : UserOp} {after : MissionExecutor × List Task}
    (requested : executor.userOp config op = some after) :
    Does config executor (.user inRun) (.op op) (after.1, after.2 ++ [.user inRun]) := by
  have user : ∀ task ∈ [Task.user inRun], task.isRoutine = true := by simp [Task.isRoutine]
  cases op with
  | handler reference op =>
      simp only [userOp] at requested
      split at requested
      · obtain ⟨handler, denoted, rfl⟩ := Option.map_eq_some_iff.mp requested
        by_cases kind : op.isRoutine = true
        · exact ((routineAfter_handlerOp handler kind).append user).does
        · exact .userHandlerOp _ _ _ _ (by simpa using kind) denoted
      · cases requested
  | call closure =>
      simp only [userOp] at requested
      split at requested
      · cases requested
        exact .routine (.refl executor) (by simp [Task.isRoutine])
      · cases requested
  | callIndex closure index =>
      simp only [userOp] at requested
      split at requested
      · rename_i known
        cases requested
        exact .userCallIndex _ _ _ (by simpa using known)
      · cases requested
  | releaseKeeper id =>
      simp only [userOp] at requested
      split at requested
      · cases requested
        refine .routine (Routine.trans ?_ (routine_removeContinousAction id))
          (by simp [Task.isRoutine])
        constructor
        case missionItemState => exact .inl rfl
        case inactive => exact fun _ => rfl
        all_goals rfl
      · cases requested
  | abort =>
      cases requested
      refine .routine (.refl executor) ?_
      simp only [requestAbort]
      split <;> simp [Task.isRoutine]
  | setActivityInfo info =>
      cases requested
      refine .routine (.refl executor) ?_
      simp only [setActivityInfo]
      split <;> simp [Task.isRoutine]
  | setMission mission canRun =>
      cases requested
      exact .userSetMission _ _ _
  | resetMission =>
      cases requested
      exact .userResetMission _
  | deferFailsafes enabled timeoutS =>
      cases requested
      refine .routine ?_ ?_
      · constructor
        case missionItemState => exact .inl rfl
        case inactive => exact fun _ => rfl
        all_goals rfl
      · simp only [deferFailsafes]
        split <;> simp [Task.isRoutine]
  | controlAutoSetHome =>
      cases requested
      refine .routine ?_ (by simp [Task.isRoutine])
      constructor
      case missionItemState => exact .inl rfl
      case inactive => exact fun _ => rfl
      all_goals rfl
  | setCallback callback isSet canRun =>
      cases requested
      exact .routine (routine_setCallback callback isSet canRun) (by simp [Task.isRoutine])

theorem modeExecutorHook_does (hook : ModeExecutorBase.Hook ModeCallback) :
    Does config executor (.modeExecutor (.hook hook)) .proceed
      (executor.modeExecutorHook config hook) := by
  cases hook with
  | completed callback result => exact (routineAfter_modeFinished callback result).does
  | onActivate => exact .onActivate
  | onDeactivate reason => exact .onDeactivate reason
  | onFailsafeDeferred =>
      refine .routine (.refl executor) ?_
      simp only [modeExecutorHook]
      split <;> simp [Task.isRoutine]
  | mode hook =>
      cases hook with
      | updateSetpoint => exact routineAfter_updateSetpoint.does
      | onActivate | onDeactivate => exact (RoutineAfter.nothing executor).does

/-- Everything that executing a task can do. -/
theorem exec_does {task : Task} {input : Input} {after : MissionExecutor × List Task}
    (executed : executor.exec config task input = some after) :
    Does config executor task input after := by
  obtain ⟨_, ⟨landed, rfl, rfl⟩ | ⟨task', rfl, resumed⟩ |
    ⟨inRun, op, requested, rfl, rfl, requests, rfl⟩ | ⟨inRun, rfl, rfl, rfl⟩ |
    ⟨valid, reached, rfl, rfl⟩ | ⟨rfl, rfl⟩ | ⟨rfl, inner, rfl⟩⟩ := exec_cases executed
  · exact .again task landed
  · obtain ⟨hook, rfl, rfl, rfl⟩ | ⟨result, plain, rfl⟩ := modeExecutorTask_cases resumed
    · exact modeExecutorHook_does hook
    · exact .modeExecutor result plain
  · exact userOp_does requests
  · refine .routine ?_ (by simp)
    constructor
    case missionItemState => exact .inl rfl
    case inactive => exact fun _ => rfl
    all_goals rfl
  · exact updateWaypoint_does valid reached
  · exact (RoutineAfter.nothing executor).does
  · exact internal_does task inner

theorem routineAfter_modeCompletedReceived (msg : ModeCompleted) :
    RoutineAfter executor
      (executor.applyModeExecutor (executor.modeExecutor.modeCompletedReceived msg)) := by
  have received : (executor.modeExecutor.modeCompletedReceived msg).1.isInCharge =
        executor.modeExecutor.isInCharge ∧
      ∀ task ∈ (executor.modeExecutor.modeCompletedReceived msg).2, task.isStatus = false := by
    unfold ModeExecutorBase.modeCompletedReceived
    split
    · refine ⟨rfl, ?_⟩
      cases executor.modeExecutor.currentScheduledMode.onCompletedCallback <;>
        simp [ModeExecutorBase.Task.isStatus]
    · exact ⟨rfl, by simp⟩
  constructor
  · constructor
    case missionItemState => exact .inl rfl
    case inactive => exact fun _ => rfl
    case isInCharge => exact received.1
    all_goals rfl
  · intro task member
    obtain ⟨task', member', rfl⟩ := List.mem_map.mp member
    simpa [Task.isRoutine] using received.2 task' member'

/-- At a quiescent point only a vehicle status can change the course of the mission. -/
theorem idle_cases {input : Input} {after : MissionExecutor × List Task}
    (taken : executor.idle config input = some after) :
    RoutineAfter executor after ∨
    ∃ msg, input = .vehicleStatus msg ∧
      after = executor.applyModeExecutor (executor.modeExecutor.vehicleStatusReceived msg) := by
  unfold idle at taken
  split at taken
  · cases taken
  · split at taken
    · cases taken
      refine .inl ⟨?_, by simp⟩
      constructor
      case missionItemState => exact .inl rfl
      case inactive => exact fun _ => rfl
      all_goals rfl
    · cases taken
      exact .inr ⟨_, rfl, rfl⟩
    · cases taken
      exact .inl (routineAfter_modeCompletedReceived _)
    · split at taken
      · cases taken
        exact .inl routineAfter_updateSetpoint
      · cases taken
    · split at taken
      · cases taken
        refine .inl ⟨?_, by simp [Task.isRoutine]⟩
        constructor
        case missionItemState => exact .inl rfl
        case inactive => exact fun _ => rfl
        all_goals rfl
      · cases taken
    · cases taken
      exact .inl ⟨routine_checkReadynessAndReport _, by simp⟩
    · obtain ⟨onCompleted, timer, rfl⟩ := Option.map_eq_some_iff.mp taken
      refine .inl ⟨?_, by simp [Task.isRoutine]⟩
      constructor
      case missionItemState => exact .inl rfl
      case inactive => exact fun _ => rfl
      all_goals rfl
    · cases taken
      exact .inl ⟨.refl executor, by simp [Task.isRoutine]⟩
    · cases taken

end MissionExecutor

end Px4Ros2
