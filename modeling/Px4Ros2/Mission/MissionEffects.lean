import Mathlib.Logic.Relation
import Px4Ros2.Mission.MissionProcess

/-! What a step of the mission executor can do to the mission state, the handlers and the keepers,
as a sequence of basic effects. Invariants of these are proved for the effects. -/

set_option autoImplicit false

namespace Px4Ros2.MissionExecutor

/-- Nothing of the mission, its state, the handlers and the keepers is different. -/
structure SameCore (before after : MissionExecutor) : Prop where
  mission : after.mission = before.mission
  hasValidMission : after.hasValidMission = before.hasValidMission
  state : after.state = before.state
  nextContinuousActionId : after.nextContinuousActionId = before.nextContinuousActionId
  isActive : after.isActive = before.isActive
  handlers : after.handlers = before.handlers
  actionHandler : after.actionHandler = before.actionHandler
  userHandlers : after.userHandlers = before.userHandlers
  userKeepers : after.userKeepers = before.userKeepers
  changeSettingsState : after.changeSettingsState = before.changeSettingsState
  runCalls : after.runCalls = before.runCalls
  persistenceFile : after.persistenceFile = before.persistenceFile

inductive Effect (config : Configuration) : MissionExecutor → MissionExecutor → Prop where
  | plain {before after : MissionExecutor} : SameCore before after → Effect config before after
  | setIndex (executor : MissionExecutor) (index : Int) :
      Effect config executor
        (executor.setState { executor.state with currentIndex := some index })
  | resetMissionState (executor : MissionExecutor) :
      Effect config executor executor.resetMissionState
  | dropActions (executor : MissionExecutor) :
      Effect config executor (executor.setState { executor.state with continuousActions := .empty })
  | dropAction (executor : MissionExecutor) (id : ActionID) :
      Effect config executor
        (executor.setState { executor.state with
          continuousActions := executor.state.continuousActions.erase id })
  | invalidate (executor : MissionExecutor) :
      Effect config executor executor.invalidateActionHandler
  | setActive (executor : MissionExecutor) (active : Bool) :
      Effect config executor { executor with isActive := active }
  | learnHandler (executor : MissionExecutor) (handler : HandlerId) :
      Effect config executor (executor.learnHandler handler)
  | setRunCalls (executor : MissionExecutor) (runCalls : Nat) :
      Effect config executor { executor with runCalls }
  /-- The user stores a state and gets its keeper. -/
  | userStore (executor : MissionExecutor) (name : String) (arguments : ActionArguments) :
      Effect config executor
        { (executor.addContinousAction name arguments).1 with
          userKeepers := executor.nextContinuousActionId :: executor.userKeepers }
  | dropUserKeeper (executor : MissionExecutor) (id : ActionID) :
      Effect config executor { executor with userKeepers := executor.userKeepers.erase id }
  | releaseKeeper (executor : MissionExecutor) (id : ActionID) :
      Effect config executor (executor.removeContinousAction id)
  | storeSettings (executor : MissionExecutor) (json : Json) :
      Effect config executor
        { (executor.addContinousAction "changeSettings" ⟨json⟩).1 with
          changeSettingsState := some executor.nextContinuousActionId }
  | dropSettings (executor : MissionExecutor) :
      Effect config executor { executor with changeSettingsState := none }
  | clearPersistentState (executor : MissionExecutor) :
      Effect config executor (executor.clearPersistentState config)
  | savePersistentState (executor : MissionExecutor) :
      Effect config executor (executor.savePersistentState config)
  | setMission (executor : MissionExecutor) (canRun : CanRun) (mission : Mission) :
      Effect config executor (executor.setMission config canRun mission)
  | resetMission (executor : MissionExecutor) :
      Effect config executor executor.resetMission

/-- A sequence of effects. -/
abbrev Effects (config : Configuration) : MissionExecutor → MissionExecutor → Prop :=
  Relation.ReflTransGen (Effect config)

theorem SameCore.refl (executor : MissionExecutor) : SameCore executor executor := by
  constructor <;> rfl

theorem SameCore.trans {first second third : MissionExecutor} (one : SameCore first second)
    (two : SameCore second third) : SameCore first third := by
  constructor
  · exact two.mission.trans one.mission
  · exact two.hasValidMission.trans one.hasValidMission
  · exact two.state.trans one.state
  · exact two.nextContinuousActionId.trans one.nextContinuousActionId
  · exact two.isActive.trans one.isActive
  · exact two.handlers.trans one.handlers
  · exact two.actionHandler.trans one.actionHandler
  · exact two.userHandlers.trans one.userHandlers
  · exact two.userKeepers.trans one.userKeepers
  · exact two.changeSettingsState.trans one.changeSettingsState
  · exact two.runCalls.trans one.runCalls
  · exact two.persistenceFile.trans one.persistenceFile

variable {config : Configuration} {executor : MissionExecutor}

theorem SameCore.effects {before after : MissionExecutor} (same : SameCore before after) :
    Effects config before after :=
  .single (.plain same)

theorem Effect.effects {before after : MissionExecutor} (effect : Effect config before after) :
    Effects config before after :=
  .single effect

/-! Functions that leave the core alone. -/

theorem applyModeExecutor_same
    (after : ModeExecutorBase ModeCallback × List (ModeExecutorBase.Task ModeCallback)) :
    SameCore executor (executor.applyModeExecutor after).1 := by
  constructor <;> rfl

theorem crash_same : SameCore executor executor.crash.1 := by
  constructor <;> rfl

theorem runMode_same (modeId : ModeID) (onCompleted : Closure) (onFailure : Option Closure) :
    SameCore executor (executor.runMode modeId onCompleted onFailure).1 := by
  unfold runMode
  split <;> constructor <;> rfl

theorem runModeTakeoff_same (altitude heading : Param) (onCompleted : Closure)
    (onFailure : Option Closure) :
    SameCore executor (executor.runModeTakeoff altitude heading onCompleted onFailure).1 := by
  unfold runModeTakeoff
  split <;> constructor <;> rfl

theorem modeFinished_same (callback : ModeCallback) (result : Result) :
    SameCore executor (executor.modeFinished callback result).1 := by
  unfold modeFinished
  split
  · exact .refl _
  · split <;> constructor <;> rfl

theorem runAction_same (name : String) (arguments : ActionArguments) (onCompleted : Closure) :
    SameCore executor (executor.runAction config name arguments onCompleted).1 := by
  unfold runAction
  split <;> constructor <;> rfl

theorem runTrajectory_same (trajectory : Mission) (startIndex endIndex : Int)
    (onIndexReached : IndexClosure) (stopAtLast : Bool) :
    SameCore executor
      (executor.runTrajectory config trajectory startIndex endIndex onIndexReached
        stopAtLast).1 := by
  unfold runTrajectory
  split
  · exact .refl _
  · dsimp only
    split <;> constructor <;> rfl

theorem switchToTrajectory_same : SameCore executor executor.switchToTrajectory.1 := by
  unfold switchToTrajectory
  split
  · exact runMode_same _ _ _
  · exact .refl _

theorem reportIndex_same (index : Int) : SameCore executor (executor.reportIndex index) := by
  unfold reportIndex
  split <;> split <;> constructor <;> rfl

theorem runMissionItem_same (resuming : Bool) (index : Int) (item : MissionItem) :
    SameCore executor (executor.runMissionItem config resuming index item).1 := by
  unfold runMissionItem
  split
  · exact runTrajectory_same _ _ _ _ _
  · split
    · exact crash_same
    · exact SameCore.trans (by constructor <;> rfl) (runAction_same _ _ _)

theorem runCurrentMissionItem_same (resuming : Bool) :
    SameCore executor (executor.runCurrentMissionItem config resuming).1 := by
  unfold runCurrentMissionItem
  split
  · exact runMode_same _ _ _
  · split
    · split
      · exact .refl _
      · exact runMode_same _ _ _
    · exact runMissionItem_same _ _ _

theorem checkReadynessAndReport_same (canRun : CanRun) :
    SameCore executor (executor.checkReadynessAndReport config canRun) := by
  unfold checkReadynessAndReport
  split
  · exact .refl _
  · dsimp only
    split <;> constructor <;> rfl

theorem updateSetpoint_same : SameCore executor (executor.updateSetpoint config).1 := by
  unfold updateSetpoint
  split
  · exact .refl _
  · split <;> exact .refl _

theorem continueNextItem_same (trajectory : TrajectoryConfig) (index : Int) :
    SameCore executor (executor.continueNextItem trajectory index).1 := by
  constructor <;> rfl

theorem updateWaypoint_same (positionValid positionReached : Bool) :
    SameCore executor (executor.updateWaypoint positionValid positionReached).1 := by
  unfold updateWaypoint
  split
  · split
    · split
      · exact .refl _
      · split
        · exact continueNextItem_same _ _
        · exact .refl _
    · exact continueNextItem_same _ _
  · exact .refl _

theorem abortRunOnFailure_same (reason : AbortReason) :
    SameCore executor (executor.abortRunOnFailure config reason).1 := by
  unfold abortRunOnFailure
  dsimp only
  split
  · constructor <;> rfl
  · exact SameCore.trans (by constructor <;> rfl) (runAction_same _ _ _)

theorem deferFailsafes_same (enabled : Bool) (timeoutS : Int32) :
    SameCore executor (executor.deferFailsafes enabled timeoutS).1 := by
  constructor <;> rfl

theorem runCustomTrajectory_same (trajectory : Mission) (onCompleted : Closure)
    (stopAtLast : Bool) :
    SameCore executor
      (executor.runCustomTrajectory config trajectory onCompleted stopAtLast).1 := by
  unfold runCustomTrajectory
  split
  · exact .refl _
  · split
    · exact runTrajectory_same _ _ _ _ _
    · exact .refl _

theorem setCallback_same (callback : UserCallback) (isSet : Bool) (canRun : CanRun) :
    SameCore executor (executor.setCallback config callback isSet canRun) := by
  cases callback with
  | onReadynessUpdate =>
      exact SameCore.trans (by constructor <;> rfl) (checkReadynessAndReport_same canRun)
  | _ => constructor <;> rfl

theorem callReport_same (report : Report) :
    SameCore executor (executor.callReport report).1 := by
  cases report with
  | completed => exact .refl _
  | _ =>
      simp only [callReport]
      split
      · exact .refl _
      · exact crash_same

theorem runReports_same : SameCore executor executor.runReports.1 := by
  unfold runReports
  split
  · exact .refl _
  · exact callReport_same _

/-! Keepers. -/

/-- A keeper is ignored while inactive, and so is one whose entry is gone. -/
theorem removeContinousAction_cases (id : ActionID) :
    executor.removeContinousAction id = executor ∨
    (executor.isActive = true ∧ executor.removeContinousAction id =
      executor.setState { executor.state with
        continuousActions := executor.state.continuousActions.erase id }) := by
  unfold removeContinousAction
  split
  · exact .inl rfl
  · rename_i active
    split
    · exact .inl rfl
    · exact .inr ⟨by simpa using active, rfl⟩

/-- Nothing but the stored actions and the keepers is different. -/
structure SameHandling (before after : MissionExecutor) : Prop where
  mission : after.mission = before.mission
  currentIndex : after.state.currentIndex = before.state.currentIndex
  missionChecksum : after.state.missionChecksum = before.state.missionChecksum
  isActive : after.isActive = before.isActive
  handlers : after.handlers = before.handlers
  actionHandler : after.actionHandler = before.actionHandler
  persistenceFile : after.persistenceFile = before.persistenceFile

theorem removeContinousAction_handling (id : ActionID) :
    SameHandling executor (executor.removeContinousAction id) := by
  obtain same | ⟨_, same⟩ := executor.removeContinousAction_cases id <;> rw [same] <;>
    constructor <;> rfl

/-- A mission is taken over, together with a stored state that fits. -/
theorem setMission_of_inactive (inactive : executor.isActive = false) (canRun : CanRun)
    (mission : Mission) :
    ∃ taken : MissionExecutor, SameCore
        { executor with
          mission
          missionErrors := missionErrorsOf config mission
          hasValidMission := (missionErrorsOf config mission).isEmpty
          state := { executor.state with missionChecksum := mission.checksum config.hash } }
        taken ∧
      ((∃ state, taken.tryLoadPersistentState config = some state ∧
        executor.setMission config canRun mission = taken.setState state) ∨
      (taken.tryLoadPersistentState config = none ∧
        executor.setMission config canRun mission = taken.resetMissionState)) := by
  refine ⟨_, @checkReadynessAndReport_same config _ canRun, ?_⟩
  unfold setMission
  rw [if_neg (by simp [inactive])]
  dsimp only
  split
  · rename_i state loaded
    exact .inl ⟨state, loaded, rfl⟩
  · rename_i loaded
    exact .inr ⟨loaded, rfl⟩

theorem setMission_cases (canRun : CanRun) (mission : Mission) :
    executor.setMission config canRun mission = executor ∨
    (executor.isActive = false ∧
      ∃ taken : MissionExecutor, SameCore
          { executor with
            mission
            missionErrors := missionErrorsOf config mission
            hasValidMission := (missionErrorsOf config mission).isEmpty
            state := { executor.state with missionChecksum := mission.checksum config.hash } }
          taken ∧
        ((∃ state, taken.tryLoadPersistentState config = some state ∧
          executor.setMission config canRun mission = taken.setState state) ∨
        (taken.tryLoadPersistentState config = none ∧
          executor.setMission config canRun mission = taken.resetMissionState))) := by
  by_cases active : executor.isActive = true
  · refine .inl ?_
    unfold setMission
    rw [if_pos active]
  · have inactive : executor.isActive = false := by simpa using active
    exact .inr ⟨inactive, setMission_of_inactive inactive canRun mission⟩

/-! Functions of the mission. -/

theorem setCurrentMissionIndex_effects (index : Int) :
    Effects config executor (executor.setCurrentMissionIndex index).1 :=
  (Effect.setIndex executor index).effects.trans (reportIndex_same index).effects

theorem takeStoredActions_effects : Effects config executor executor.takeStoredActions.1 :=
  (Effect.dropActions executor).effects

theorem getOnResumeStateAndClear_effects :
    Effects config executor executor.getOnResumeStateAndClear.1 := by
  unfold getOnResumeStateAndClear
  split
  · exact (Effect.dropAction executor _).effects
  · exact .refl

theorem startMission_effects (startFromBeginning : Bool) :
    Effects config executor (executor.startMission config startFromBeginning).1 := by
  unfold startMission
  split
  · exact takeStoredActions_effects
  · refine getOnResumeStateAndClear_effects.trans ?_
    dsimp only
    split
    · exact crash_same.effects
    · exact (runAction_same _ _ _).effects

theorem onActivateRun_effects (startFromBeginning : Bool) :
    Effects config executor (executor.onActivateRun config startFromBeginning).1 := by
  unfold onActivateRun
  split
  · exact .refl
  · exact startMission_effects _

theorem onActivatedReturned_effects (previousHandler : HandlerId) (startFromBeginning : Bool) :
    Effects config executor
      (executor.onActivatedReturned config previousHandler startFromBeginning).1 := by
  unfold onActivatedReturned
  split
  · exact startMission_effects _
  · exact .refl

theorem activated_effects : Effects config executor executor.activated :=
  (Effect.setActive executor true).effects.trans (SameCore.effects (by constructor <;> rfl))

theorem onActivate_effects : Effects config executor executor.onActivate.1 := by
  unfold onActivate
  split
  · exact activated_effects
  · exact activated_effects.trans (setCurrentMissionIndex_effects _)

theorem deactivated_effects : Effects config executor executor.deactivated :=
  (Effect.setActive executor false).effects.trans (Effect.invalidate _).effects

theorem onDeactivate_effects : Effects config executor (executor.onDeactivate config).1 := by
  unfold onDeactivate
  split
  · exact (deactivated_effects.trans (Effect.clearPersistentState _).effects).trans
      (Effect.resetMissionState _).effects
  · exact deactivated_effects

theorem resumed_effects (handler : HandlerId) (previousIndex : Option Int) :
    Effects config executor (executor.resumed handler previousIndex).1 := by
  unfold resumed
  split
  · split
    · exact takeStoredActions_effects
    · exact (Effect.dropActions executor).effects
  · exact .refl

theorem segmentReached_effects (handler : HandlerId) (endIndex index : Int) :
    Effects config executor (executor.segmentReached handler endIndex index).1 := by
  unfold segmentReached
  split
  · exact setCurrentMissionIndex_effects _
  · exact .refl

/-! Handlers and actions. -/

theorem handlerCall_effects (op : HandlerOp) :
    Effects config executor (executor.handlerCall config op).1 := by
  cases op with
  | runMode modeId onCompleted onFailure => exact (runMode_same _ _ _).effects
  | runModeTakeoff altitude heading onCompleted onFailure =>
      exact (runModeTakeoff_same _ _ _ _).effects
  | runAction name arguments onCompleted => exact (runAction_same _ _ _).effects
  | runTrajectory trajectory onCompleted stopAtLast =>
      exact (runCustomTrajectory_same _ _ _).effects
  | setActivityInfo | clearActivityInfo => exact .refl
  | setCurrentMissionIndex index =>
      simp only [handlerCall]
      split
      · exact setCurrentMissionIndex_effects _
      · exact .refl
  | storeState name arguments => exact (Effect.userStore executor name arguments).effects
  | deferFailsafes enabled timeoutS => exact (deferFailsafes_same _ _).effects
  | clearTrajectoryOptions | setTrajectoryOptions | controlAutoSetHome | onFailsafeDeferred =>
      exact SameCore.effects (by constructor <;> rfl)

theorem handlerOp_effects (handler : HandlerId) (op : HandlerOp) :
    Effects config executor (executor.handlerOp config handler op).1 := by
  unfold handlerOp
  split
  · exact .refl
  · exact handlerCall_effects op

theorem resumeFromUnexpectedLanding_effects (handler : HandlerId) (onCompleted : Closure)
    (currentMissionIndex : Int) :
    Effects config executor
      (executor.resumeFromUnexpectedLanding config handler onCompleted
        currentMissionIndex).1 := by
  unfold resumeFromUnexpectedLanding
  split
  · exact handlerOp_effects _ _
  · split
    · exact handlerOp_effects _ _
    · exact .refl

theorem navigateToPreviousWaypoint_effects (handler : HandlerId) (onCompleted : Closure)
    (currentMissionIndex : Int) :
    Effects config executor
      (executor.navigateToPreviousWaypoint config handler onCompleted
        currentMissionIndex).1 := by
  unfold navigateToPreviousWaypoint
  split
  · exact handlerOp_effects _ _
  · exact .refl

theorem runOnResume_effects (handler : HandlerId) (arguments : ActionArguments)
    (onCompleted : Closure) :
    Effects config executor (executor.runOnResume config handler arguments onCompleted).1 := by
  unfold runOnResume
  split
  · exact crash_same.effects
  · split
    · exact .refl
    · dsimp only
      split
      · exact .refl
      · split
        · exact resumeFromUnexpectedLanding_effects _ _ _
        · exact .refl

theorem storeSettings_effects (handler : HandlerId) (options : Json) :
    Effects config executor (executor.storeSettings handler options).1 := by
  unfold storeSettings
  split
  · exact (Effect.storeSettings executor options).effects
  · exact (Effect.dropSettings executor).effects

theorem runChangeSettings_effects (handler : HandlerId) (arguments : ActionArguments)
    (onCompleted : Closure) :
    Effects config executor
      (executor.runChangeSettings config handler arguments onCompleted).1 := by
  unfold runChangeSettings
  split
  · exact crash_same.effects
  · exact (handlerOp_effects _ _).trans (Effect.dropSettings _).effects
  · split
    · exact crash_same.effects
    · split
      · exact crash_same.effects
      · exact (handlerOp_effects _ _).trans (storeSettings_effects _ _)

theorem run_effects (name : String) (handler : HandlerId) (arguments : ActionArguments)
    (onCompleted : Closure) :
    Effects config executor (executor.run config name handler arguments onCompleted).1 := by
  unfold run
  split
  · exact .refl
  · exact handlerOp_effects _ _
  · exact handlerOp_effects _ _
  · split
    · exact crash_same.effects
    · exact handlerOp_effects _ _
  · split
    · exact crash_same.effects
    · exact handlerOp_effects _ _
  · exact runOnResume_effects _ _ _
  · exact handlerOp_effects _ _
  · exact runChangeSettings_effects _ _ _
  · exact .refl

theorem deactivateAction_effects (name : String) :
    Effects config executor (executor.deactivateAction config name).1 := by
  unfold deactivateAction
  split
  · exact SameCore.effects (by constructor <;> rfl)
  · exact (Effect.dropSettings executor).effects
  · exact .refl
  · exact .refl

theorem call_effects (closure : Closure) :
    Effects config executor (executor.call config closure).1 := by
  cases closure with
  | resumed handler previousIndex => exact resumed_effects _ _
  | navigateToPreviousWaypoint handler onCompleted currentMissionIndex =>
      exact navigateToPreviousWaypoint_effects _ _ _
  | descend handler onCompleted => exact handlerOp_effects _ _
  | noop | nextItem | trajectoryFailure | user => exact .refl

theorem callIndex_effects (index : Int) (closure : IndexClosure) :
    Effects config executor (executor.callIndex index closure).1 := by
  cases closure with
  | segment handler endIndex => exact segmentReached_effects _ _ _
  | customTrajectory => exact .refl

/-! The process. -/

theorem enter_effects (entry : Entry) : Effects config executor (executor.enter entry).1 := by
  cases entry with
  | run name handler arguments onCompleted =>
      have learned : Effects config executor ((executor.learnHandler handler).learnClosure
          onCompleted) :=
        (Effect.learnHandler executor handler).effects.trans
          (SameCore.effects (by constructor <;> rfl))
      exact learned.trans (Effect.setRunCalls _ (executor.runCalls + 1)).effects
  | runTrajectory => exact SameCore.effects (by constructor <;> rfl)
  | _ => exact .refl

theorem userOp_effects {op : UserOp} {after : MissionExecutor × List Task}
    (requested : executor.userOp config op = some after) : Effects config executor after.1 := by
  cases op with
  | handler handler op =>
      simp only [userOp] at requested
      split at requested
      · obtain ⟨denoted, _, rfl⟩ := Option.map_eq_some_iff.mp requested
        exact handlerOp_effects _ _
      · cases requested
  | releaseKeeper id =>
      simp only [userOp] at requested
      split at requested
      · cases requested
        exact (Effect.dropUserKeeper executor id).effects.trans
          (Effect.releaseKeeper _ id).effects
      · cases requested
  | call | callIndex =>
      simp only [userOp] at requested
      split at requested
      · cases requested
        exact .refl
      · cases requested
  | abort | setActivityInfo =>
      cases requested
      exact .refl
  | setMission mission canRun =>
      cases requested
      exact (Effect.setMission executor canRun mission).effects
  | resetMission =>
      cases requested
      exact (Effect.resetMission executor).effects
  | deferFailsafes =>
      cases requested
      exact (deferFailsafes_same _ _).effects
  | controlAutoSetHome =>
      cases requested
      exact SameCore.effects (by constructor <;> rfl)
  | setCallback callback isSet canRun =>
      cases requested
      exact (setCallback_same _ _ _).effects

theorem modeExecutorHook_effects (hook : ModeExecutorBase.Hook ModeCallback) :
    Effects config executor (executor.modeExecutorHook config hook).1 := by
  cases hook with
  | completed callback result => exact (modeFinished_same _ _).effects
  | onActivate => exact onActivate_effects
  | onDeactivate => exact onDeactivate_effects
  | onFailsafeDeferred => exact .refl
  | mode hook =>
      cases hook with
      | updateSetpoint => exact updateSetpoint_same.effects
      | onActivate | onDeactivate => exact .refl

/-- A task of the mode executor is a hook, or it touches nothing but the mode executor. -/
theorem modeExecutorTask_cases {task : ModeExecutorBase.Task ModeCallback} {input : Input}
    {after : MissionExecutor × List Task}
    (executed : executor.modeExecutorTask config task input = some after) :
    (∃ hook, task = .hook hook ∧ input = .proceed ∧
      after = executor.modeExecutorHook config hook) ∨
    (∃ result, (∀ hook, task ≠ .hook hook) ∧
      after = executor.applyModeExecutor (executor.modeExecutor.resume result task)) := by
  cases task with
  | hook hook =>
      cases input with
      | proceed => exact .inl ⟨hook, rfl, rfl, (Option.some.inj executed).symm⟩
      | _ => cases executed
  | sendScheduleMode | sendArmDisarm =>
      cases input with
      | command result => exact .inr ⟨result, by simp, (Option.some.inj executed).symm⟩
      | _ => cases executed
  | _ =>
      cases input with
      | proceed => exact .inr ⟨.success, by simp, (Option.some.inj executed).symm⟩
      | _ => cases executed

theorem internal_effects (task : Task) :
    Effects config executor (executor.internal config task).1 := by
  cases task with
  | enter entry => exact enter_effects entry
  | call closure => exact call_effects closure
  | callIndex closure index => exact callIndex_effects index closure
  | run name handler arguments onCompleted => exact run_effects _ _ _ _
  | onActivateRun startFromBeginning => exact onActivateRun_effects _
  | onActivatedReturned previousHandler startFromBeginning => exact onActivatedReturned_effects _ _
  | runNextMissionItem => exact setCurrentMissionIndex_effects _
  | runCurrentMissionItem resuming => exact (runCurrentMissionItem_same _).effects
  | switchToTrajectory => exact switchToTrajectory_same.effects
  | savePersistentState => exact (Effect.savePersistentState executor).effects
  | deactivateAction name => exact deactivateAction_effects name
  | releaseKeeper id => exact (Effect.releaseKeeper executor id).effects
  | abort reason => exact (Effect.invalidate executor).effects
  | abortRunOnFailure reason => exact (abortRunOnFailure_same _).effects
  | runReports => exact runReports_same.effects
  | setTrajectoryState | startHoldTimer | abortEnd | popReport =>
      exact SameCore.effects (by constructor <;> rfl)
  | runStoredActions | finishDeactivate | notifyDeactivated | abortDeactivate | modeExecutor
  | user | updateWaypoint | deferWait => exact .refl

/-- The ways in which a task is executed. -/
theorem exec_cases {task : Task} {input : Input} {after : MissionExecutor × List Task}
    (executed : executor.exec config task input = some after) :
    executor.crashed = false ∧
    ((∃ landed, input = .landDetected landed ∧ after = ({ executor with landed }, [task])) ∨
    (∃ task', task = .modeExecutor task' ∧
      executor.modeExecutorTask config task' input = some after) ∨
    (∃ inRun op requested, task = .user inRun ∧ input = .op op ∧
      executor.userOp config op = some requested ∧
      after = (requested.1, requested.2 ++ [.user inRun])) ∨
    (∃ inRun, task = .user inRun ∧ input = .ret ∧
      after = ({ executor with
        runCalls := if inRun then executor.runCalls - 1 else executor.runCalls }, [])) ∨
    (∃ valid reached, task = .updateWaypoint ∧ after = executor.updateWaypoint valid reached) ∨
    (task = .deferWait ∧ after = (executor, [])) ∨
    (input = .proceed ∧ (∀ task', task ≠ .modeExecutor task') ∧
      after = executor.internal config task)) := by
  unfold exec at executed
  split at executed
  · cases executed
  · rename_i running
    refine ⟨by simpa using running, ?_⟩
    split at executed
    · exact .inl ⟨_, rfl, (Option.some.inj executed).symm⟩
    · exact .inr (.inl ⟨_, rfl, executed⟩)
    · obtain ⟨requested, requests, rfl⟩ := Option.map_eq_some_iff.mp executed
      exact .inr (.inr (.inl ⟨_, _, requested, rfl, rfl, requests, rfl⟩))
    · exact .inr (.inr (.inr (.inl ⟨_, rfl, rfl, (Option.some.inj executed).symm⟩)))
    · exact .inr (.inr (.inr (.inr (.inl ⟨_, _, rfl, (Option.some.inj executed).symm⟩))))
    · exact .inr (.inr (.inr (.inr (.inr (.inl ⟨rfl, (Option.some.inj executed).symm⟩)))))
    · cases executed
    · cases executed
    · cases executed
    · rename_i inner _ _ _
      exact .inr (.inr (.inr (.inr (.inr (.inr
        ⟨rfl, fun task' same => inner task' same, (Option.some.inj executed).symm⟩)))))
    · cases executed

theorem exec_effects {task : Task} {input : Input} {after : MissionExecutor × List Task}
    (executed : executor.exec config task input = some after) :
    Effects config executor after.1 := by
  obtain ⟨_, ⟨landed, rfl, rfl⟩ | ⟨task', rfl, resumed⟩ |
    ⟨inRun, op, requested, rfl, rfl, requests, rfl⟩ | ⟨inRun, rfl, rfl, rfl⟩ |
    ⟨valid, reached, rfl, rfl⟩ | ⟨rfl, rfl⟩ | ⟨rfl, _, rfl⟩⟩ := exec_cases executed
  · exact SameCore.effects (by constructor <;> rfl)
  · obtain ⟨hook, rfl, rfl, rfl⟩ | ⟨result, _, rfl⟩ := modeExecutorTask_cases resumed
    · exact modeExecutorHook_effects hook
    · exact (applyModeExecutor_same _).effects
  · have effects := userOp_effects requests
    exact effects
  · exact (Effect.setRunCalls _ _).effects
  · exact (updateWaypoint_same _ _).effects
  · exact .refl
  · exact internal_effects task

theorem idle_effects {input : Input} {after : MissionExecutor × List Task}
    (taken : executor.idle config input = some after) : Effects config executor after.1 := by
  unfold idle at taken
  split at taken
  · cases taken
  · split at taken
    · cases taken
      exact SameCore.effects (by constructor <;> rfl)
    · cases taken
      exact (applyModeExecutor_same _).effects
    · cases taken
      exact (applyModeExecutor_same _).effects
    · split at taken
      · cases taken
        exact updateSetpoint_same.effects
      · cases taken
    · split at taken
      · cases taken
        exact SameCore.effects (by constructor <;> rfl)
      · cases taken
    · cases taken
      exact (checkReadynessAndReport_same _).effects
    · obtain ⟨onCompleted, _, rfl⟩ := Option.map_eq_some_iff.mp taken
      exact SameCore.effects (by constructor <;> rfl)
    · cases taken
      exact .refl
    · cases taken

/-- Every step is a sequence of effects. -/
theorem step_effects {before next : Config} {input : Input}
    (stepped : (machine config).step before input = some next) :
    Effects config before.state next.state := by
  obtain ⟨_, state, tasks, taken, rfl⟩ | ⟨task, rest, state, tasks, _, executed, rfl⟩ :=
    Lib.Machine.step_cases stepped
  · exact idle_effects taken
  · exact exec_effects executed

theorem Effects.preserve {invariant : MissionExecutor → Prop} {before after : MissionExecutor}
    (preserved : ∀ before after, Effect config before after → invariant before → invariant after)
    (effects : Effects config before after) (holds : invariant before) : invariant after := by
  induction effects with
  | refl => exact holds
  | tail _ effect ih => exact preserved _ _ effect ih

/-- What every effect preserves holds along every run. -/
theorem reaches_effects {guard : Config → Input → Prop} {start reached : Config}
    {invariant : MissionExecutor → Prop} (initial : invariant start.state)
    (preserved : ∀ before after, Effect config before after → invariant before → invariant after)
    (reaches : (machine config).Reaches guard start reached) : invariant reached.state := by
  induction reaches with
  | refl => exact initial
  | step _ _ stepped holds =>
      exact (step_effects stepped).preserve preserved holds

end Px4Ros2.MissionExecutor
