import Px4Ros2.Mission.HandlerProperties
import Px4Ros2.Mission.StepCases

/-! The order of pending work: what a status update still has to do is below everything else, an
action that is about to run is on top, and the recursion level counts the pending aborts. -/

set_option autoImplicit false

namespace Px4Ros2.MissionExecutor

@[simp] def Task.isModeExecutor : Task → Bool
  | .modeExecutor _ => true
  | _ => false

@[simp] def Task.isRun : Task → Bool
  | .run _ _ _ _ | .enter (.run _ _ _ _) => true
  | _ => false

@[simp] def Task.isAbortEnd : Task → Bool
  | .abortEnd => true
  | _ => false

/-- What an abort leaves to do. -/
@[simp] def Task.isAborting : Task → Bool
  | .abortDeactivate _ | .abortRunOnFailure _ | .abortEnd => true
  | _ => false

@[simp] def Task.aborts : Task → Bool
  | .abort _ | .abortDeactivate _ | .abortRunOnFailure _ => true
  | _ => false

/-- The handler that a task passes on or looks at. -/
@[simp] def Task.handler? : Task → Option HandlerId
  | .run _ handler _ _ | .enter (.run _ handler _ _) => some handler
  | .onActivatedReturned previousHandler _ => some previousHandler
  | _ => none

structure Ordered (config : Config) : Prop where
  run : ∀ task ∈ config.agenda.tail, task.isRun = false
  status : config.agenda.Pairwise fun upper lower =>
    upper.isStatus = true → lower.isModeExecutor = true
  level : config.state.abortRecursionLevel = config.agenda.countP Task.isAbortEnd

/-- Within a call it stays the same who runs: the level of aborts, the activation, and the handlers
that user code has. -/
structure SameFrame (before after : MissionExecutor) : Prop where
  level : after.abortRecursionLevel = before.abortRecursionLevel
  users : after.userHandlers = before.userHandlers
  isActive : after.isActive = before.isActive

/-- Tasks within a call: no status update and nothing of an abort, an action to run first, and with
the current handler. The state is saved only while the executor is inactive. -/
structure Inner (executor : MissionExecutor) (after : MissionExecutor × List Task) : Prop where
  frame : SameFrame executor after.1
  kinds : ∀ task ∈ after.2, task.isStatus = false ∧ task.isAborting = false
  run : ∀ task ∈ after.2.tail, task.isRun = false
  handlers : ∀ task ∈ after.2, ∀ handler ∈ task.handler?, handler = after.1.actionHandler
  saves : .savePersistentState ∈ after.2 → after.1.isActive = false

/-- Tasks that are neither of the kinds above nor know a handler. -/
structure Task.Plain (task : Task) : Prop where
  status : task.isStatus = false
  aborting : task.isAborting = false
  run : task.isRun = false
  handler : task.handler? = none
  saves : task ≠ .savePersistentState

variable {config : Configuration} {executor : MissionExecutor}

theorem plain_of_isRoutine {task : Task} (routine : task.isRoutine = true) : task.Plain := by
  cases task with
  | modeExecutor => exact ⟨by simpa [Task.isRoutine] using routine, rfl, rfl, rfl, by simp⟩
  | enter entry =>
      cases entry with
      | run => cases routine
      | _ => exact ⟨rfl, rfl, rfl, rfl, by simp⟩
  | user | call | callIndex | startHoldTimer | deferWait | updateWaypoint | runReports
  | popReport | releaseKeeper | deactivateAction | notifyDeactivated | abort =>
      exact ⟨rfl, rfl, rfl, rfl, by simp⟩
  | _ => cases routine

theorem SameFrame.refl (executor : MissionExecutor) : SameFrame executor executor :=
  ⟨rfl, rfl, rfl⟩

theorem Inner.of_frame {middle : MissionExecutor} {after : MissionExecutor × List Task}
    (frame : SameFrame executor middle) (inner : Inner middle after) : Inner executor after :=
  ⟨⟨inner.frame.level.trans frame.level, inner.frame.users.trans frame.users,
    inner.frame.isActive.trans frame.isActive⟩, inner.kinds, inner.run, inner.handlers,
    inner.saves⟩

theorem Inner.of_plain {after : MissionExecutor × List Task}
    (frame : SameFrame executor after.1) (tasks : ∀ task ∈ after.2, task.Plain) : Inner executor after := by
  refine ⟨frame, ?_, ?_, ?_, ?_⟩
  · exact fun task member => ⟨(tasks task member).status, (tasks task member).aborting⟩
  · exact fun task member => (tasks task (List.mem_of_mem_tail member)).run
  · intro task member handler known
    rw [(tasks task member).handler] at known
    cases known
  · exact fun member => absurd rfl (tasks _ member).saves

theorem Inner.of_routine {after : MissionExecutor × List Task}
    (routine : RoutineAfter executor after) : Inner executor after :=
  .of_plain ⟨routine.state.abortRecursionLevel, routine.state.userHandlers,
    routine.state.isActive⟩ fun task member => plain_of_isRoutine (routine.tasks task member)

/-- More tasks, without an action to run. -/
theorem Inner.append {after : MissionExecutor × List Task} (inner : Inner executor after)
    {tasks : List Task} (more : ∀ task ∈ tasks, task.Plain) :
    Inner executor (after.1, after.2 ++ tasks) := by
  refine ⟨inner.frame, ?_, ?_, ?_, ?_⟩
  · intro task member
    rcases List.mem_append.mp member with first | second
    · exact inner.kinds task first
    · exact ⟨(more task second).status, (more task second).aborting⟩
  · intro task member
    cases tasks' : after.2 with
    | nil =>
        rw [tasks', List.nil_append] at member
        exact (more task (List.mem_of_mem_tail member)).run
    | cons head rest =>
        rw [tasks', List.cons_append, List.tail_cons] at member
        rcases List.mem_append.mp member with first | second
        · exact inner.run task (by rw [tasks']; exact first)
        · exact (more task second).run
  · intro task member handler known
    rcases List.mem_append.mp member with first | second
    · exact inner.handlers task first handler known
    · rw [(more task second).handler] at known
      cases known
  · intro member
    rcases List.mem_append.mp member with first | second
    · exact inner.saves first
    · exact absurd rfl (more _ second).saves

theorem plain_call (closure : Closure) : (Task.call closure).Plain :=
  ⟨rfl, rfl, rfl, rfl, by simp⟩

theorem inner_crash : Inner executor executor.crash := .of_routine routineAfter_crash

theorem inner_nothing : Inner executor (executor, []) := .of_routine (.nothing executor)

theorem plain_clearActivityInfo : ∀ task ∈ executor.clearActivityInfo, task.Plain :=
  fun task member => plain_of_isRoutine (isRoutine_clearActivityInfo task member)

theorem inner_setCurrentMissionIndex (index : Int) :
    Inner executor (executor.setCurrentMissionIndex index) := by
  refine .of_plain ?_ plain_clearActivityInfo
  simp only [setCurrentMissionIndex, reportIndex]
  split <;> split <;> exact ⟨rfl, rfl, rfl⟩

theorem inner_runAction (name : String) (arguments : ActionArguments) (onCompleted : Closure) :
    Inner executor (executor.runAction config name arguments onCompleted) := by
  unfold runAction
  split
  · exact inner_nothing
  · split <;> exact ⟨⟨rfl, rfl, rfl⟩, by simp, by simp, by simp, by simp⟩

theorem inner_runTrajectory (trajectory : Mission) (startIndex endIndex : Int)
    (onIndexReached : IndexClosure) (stopAtLast : Bool) :
    Inner executor (executor.runTrajectory config trajectory startIndex endIndex onIndexReached
      stopAtLast) := by
  unfold runTrajectory
  split
  · exact inner_nothing
  · dsimp only
    split <;> exact ⟨⟨rfl, rfl, rfl⟩, by simp, by simp, by simp, by simp⟩

theorem inner_handlerOp (handler : HandlerId) (op : HandlerOp) :
    Inner executor (executor.handlerOp config handler op) := by
  by_cases kind : op.isRoutine = true
  · exact .of_routine (routineAfter_handlerOp handler kind)
  · unfold handlerOp
    split
    · exact inner_nothing
    · cases op with
      | runAction => exact inner_runAction _ _ _
      | runTrajectory trajectory onCompleted stopAtLast =>
          simp only [handlerCall, runCustomTrajectory]
          split
          · exact .of_plain ⟨rfl, rfl, rfl⟩ (by simpa using plain_call onCompleted)
          · split
            · exact inner_runTrajectory _ _ _ _ _
            · exact ⟨⟨rfl, rfl, rfl⟩, by simp, by simp, by simp, by simp⟩
      | setCurrentMissionIndex =>
          simp only [handlerCall]
          split
          · exact inner_setCurrentMissionIndex _
          · exact inner_nothing
      | storeState => exact .of_plain ⟨rfl, rfl, rfl⟩ (by simp [handlerCall])
      | _ => exact absurd rfl kind

theorem inner_startMission (startFromBeginning : Bool) :
    Inner executor (executor.startMission config startFromBeginning) := by
  unfold startMission
  split
  · exact ⟨⟨rfl, rfl, rfl⟩, by simp, by simp, by simp, by simp⟩
  · have stored : SameFrame executor executor.getOnResumeStateAndClear.1 := by
      unfold getOnResumeStateAndClear
      split <;> exact ⟨rfl, rfl, rfl⟩
    dsimp only
    split
    · exact .of_frame stored inner_crash
    · exact .of_frame stored (inner_runAction _ _ _)

theorem inner_runMissionItem (resuming : Bool) (index : Int) (item : MissionItem) :
    Inner executor (executor.runMissionItem config resuming index item) := by
  unfold runMissionItem
  split
  · exact inner_runTrajectory _ _ _ _ _
  · rename_i item
    split
    · exact inner_crash
    · refine .of_frame ?_ (inner_runAction _ _ _)
      exact ⟨rfl, rfl, rfl⟩

theorem inner_runCurrentMissionItem (resuming : Bool) :
    Inner executor (executor.runCurrentMissionItem config resuming) := by
  have hold := Inner.of_routine (@routineAfter_runMode executor kModeIDLoiter .noop none)
  unfold runCurrentMissionItem
  split
  · exact hold
  · split
    · split
      · exact inner_nothing
      · exact hold
    · exact inner_runMissionItem _ _ _

theorem inner_setChangeSettingsState (keeper : Option ActionID) :
    Inner executor (executor.setChangeSettingsState keeper) :=
  .of_routine (routineAfter_setChangeSettingsState keeper)

theorem inner_storeSettings (handler : HandlerId) (options : Json) :
    Inner executor (executor.storeSettings handler options) := by
  unfold storeSettings
  split
  · refine .of_frame ?_ (inner_setChangeSettingsState _)
    exact ⟨rfl, rfl, rfl⟩
  · exact inner_setChangeSettingsState none

theorem inner_runChangeSettings (handler : HandlerId) (arguments : ActionArguments)
    (onCompleted : Closure) :
    Inner executor (executor.runChangeSettings config handler arguments onCompleted) := by
  have called : ∀ task ∈ [Task.call onCompleted], task.Plain := by
    simpa using plain_call onCompleted
  unfold runChangeSettings
  split
  · exact inner_crash
  · have cleared := @inner_handlerOp config executor handler .clearTrajectoryOptions
    exact (Inner.of_frame cleared.frame (inner_setChangeSettingsState none)).append called
  · split
    · exact inner_crash
    · split
      · exact inner_crash
      · rename_i options _ _ json _
        have changed := @inner_handlerOp config executor handler (.setTrajectoryOptions options)
        exact (Inner.of_frame changed.frame (inner_storeSettings handler json)).append called

theorem inner_resumeFromUnexpectedLanding (handler : HandlerId) (onCompleted : Closure)
    (index : Int) :
    Inner executor (executor.resumeFromUnexpectedLanding config handler onCompleted index) := by
  unfold resumeFromUnexpectedLanding
  split
  · exact (inner_handlerOp _ _).append (by simpa using plain_call onCompleted)
  · split
    · exact inner_handlerOp _ _
    · exact .of_plain ⟨rfl, rfl, rfl⟩ (by simpa using plain_call onCompleted)

theorem inner_navigateToPreviousWaypoint (handler : HandlerId) (onCompleted : Closure)
    (index : Int) :
    Inner executor (executor.navigateToPreviousWaypoint config handler onCompleted index) := by
  unfold navigateToPreviousWaypoint
  split
  · exact inner_handlerOp _ _
  · exact .of_plain ⟨rfl, rfl, rfl⟩ (by simpa using plain_call onCompleted)

theorem inner_switchToTrajectory : Inner executor executor.switchToTrajectory := by
  have last : ∀ task ∈ [Task.setTrajectoryState], task.Plain := by
    simpa using Task.Plain.mk rfl rfl rfl rfl (by simp)
  unfold switchToTrajectory
  split
  · exact Inner.append (.of_routine (routineAfter_runMode executor.modeId .noop none)) last
  · exact Inner.append inner_nothing last

theorem inner_onActivate : Inner executor.activated executor.onActivate := by
  unfold onActivate
  split
  · exact ⟨.refl _, by simp, by simp, by simp, by simp⟩
  · exact (inner_setCurrentMissionIndex _).append
      (by simpa using Task.Plain.mk rfl rfl rfl rfl (by simp))

theorem inner_onDeactivate : Inner executor.deactivated (executor.onDeactivate config) := by
  unfold onDeactivate
  split
  · refine ⟨?_, by simp, by simp, by simp, by simp⟩
    unfold clearPersistentState
    split <;> exact ⟨rfl, rfl, rfl⟩
  · refine ⟨.refl _, ?_, ?_, ?_, fun _ => rfl⟩ <;>
    · unfold runOnResumeStoreState
      split <;> simp

theorem inner_resumed (handler : HandlerId) (previousIndex : Option Int) :
    Inner executor (executor.resumed handler previousIndex) := by
  unfold resumed
  split
  · split <;> exact ⟨⟨rfl, rfl, rfl⟩, by simp, by simp, by simp, by simp⟩
  · exact inner_nothing

theorem inner_segmentReached (handler : HandlerId) (endIndex index : Int) :
    Inner executor (executor.segmentReached handler endIndex index) := by
  unfold segmentReached
  split
  · refine (inner_setCurrentMissionIndex _).append ?_
    split
    · simpa using Task.Plain.mk rfl rfl rfl rfl (by simp)
    · simp
  · exact inner_nothing

theorem inner_onActivateRun (startFromBeginning : Bool) :
    Inner executor (executor.onActivateRun config startFromBeginning) := by
  unfold onActivateRun
  split
  · exact ⟨⟨rfl, rfl, rfl⟩, by simp, by simp, by simp, by simp⟩
  · exact inner_startMission _

theorem inner_onActivatedReturned (previousHandler : HandlerId) (startFromBeginning : Bool) :
    Inner executor (executor.onActivatedReturned config previousHandler startFromBeginning) := by
  unfold onActivatedReturned
  split
  · exact inner_startMission _
  · exact inner_nothing

theorem inner_runStoredActions (actions : List ActionState) :
    Inner executor (executor, executor.runStoredActions config actions) := by
  cases actions with
  | nil => exact inner_nothing
  | cons action rest =>
      simp only [runStoredActions]
      split
      · exact ⟨⟨rfl, rfl, rfl⟩, by simp, by simp, by simp, by simp⟩
      · split <;> exact ⟨⟨rfl, rfl, rfl⟩, by simp, by simp, by simp, by simp⟩

theorem sameFrame_setMission (canRun : CanRun) (mission : Mission) :
    SameFrame executor (executor.setMission config canRun mission) := by
  unfold setMission
  split
  · exact .refl executor
  · have report := @routine_checkReadynessAndReport config
      { executor with
        mission
        missionErrors := missionErrorsOf config mission
        hasValidMission := (missionErrorsOf config mission).isEmpty
        state := { executor.state with missionChecksum := mission.checksum config.hash } } canRun
    dsimp only
    split <;> exact ⟨report.abortRecursionLevel, report.userHandlers, report.isActive⟩

/-- A step of an abort: after the tasks of its calls the abort goes on. The end of the abort is for
one more level of recursion. -/
structure AbortStep (executor : MissionExecutor) (last : Task)
    (after : MissionExecutor × List Task) : Prop where
  aborting : last.isAborting = true
  calls : Inner { executor with
    abortRecursionLevel := executor.abortRecursionLevel + [last].countP Task.isAbortEnd } after

theorem abortStep_abort (reason : AbortReason) :
    AbortStep executor (.abortDeactivate reason)
      (executor.invalidateActionHandler, executor.invalidateActionHandler.clearActivityInfo) :=
  ⟨rfl, .of_plain ⟨rfl, rfl, rfl⟩ plain_clearActivityInfo⟩

theorem abortStep_abortDeactivate (reason : AbortReason) :
    AbortStep executor (.abortRunOnFailure reason) (executor, deactivateAllActions config) :=
  ⟨rfl, .of_plain ⟨rfl, rfl, rfl⟩ fun task member =>
    plain_of_isRoutine (isRoutine_deactivateAllActions task member)⟩

theorem abortStep_abortRunOnFailure (reason : AbortReason) :
    ∃ tasks, (executor.abortRunOnFailure config reason).2 = tasks ++ [.abortEnd] ∧
      AbortStep executor .abortEnd ((executor.abortRunOnFailure config reason).1, tasks) := by
  unfold abortRunOnFailure
  dsimp only
  split
  · exact ⟨[], rfl, rfl, inner_nothing⟩
  · exact ⟨_, rfl, rfl, inner_runAction _ _ _⟩

/-- The hooks that change whether the executor is active. -/
def Task.changesActivity : Task → Bool
  | .modeExecutor (.hook .onActivate) | .modeExecutor (.hook (.onDeactivate _)) => true
  | _ => false

/-- What a task leaves to do belongs into its call, except for activations and deactivations, for
the tasks of a status update, for actions on their way to user code, and for aborts. -/
inductive Outcome (config : Configuration) (executor : MissionExecutor) :
    Task → Input → MissionExecutor × List Task → Prop where
  | inner {task : Task} {input : Input} {after : MissionExecutor × List Task} :
      Inner executor after → Outcome config executor task input after
  | onActivate :
      Outcome config executor (.modeExecutor (.hook .onActivate)) .proceed executor.onActivate
  | onDeactivate (reason : DeactivateReason) :
      Outcome config executor (.modeExecutor (.hook (.onDeactivate reason))) .proceed
        (executor.onDeactivate config)
  | again (task : Task) (landed : Bool) :
      Outcome config executor task (.landDetected landed) ({ executor with landed }, [task])
  | modeExecutor {task : ModeExecutorBase.Task ModeCallback} {input : Input} (result : Result) :
      (∀ hook, task ≠ .hook hook) →
      Outcome config executor (.modeExecutor task) input
        (executor.applyModeExecutor (executor.modeExecutor.resume result task))
  | runCustom {input : Input} (name : String) (handler : HandlerId)
      (arguments : ActionArguments) (onCompleted : Closure) :
      Outcome config executor (.run name handler arguments onCompleted) input
        (executor, [.enter (.run name handler arguments onCompleted)])
  | enterRun {input : Input} (name : String) (handler : HandlerId)
      (arguments : ActionArguments) (onCompleted : Closure) :
      Outcome config executor (.enter (.run name handler arguments onCompleted)) input
        (executor.enter (.run name handler arguments onCompleted))
  | aborts {task last : Task} {input : Input} {state : MissionExecutor} {tasks : List Task} :
      task.aborts = true → AbortStep executor last (state, tasks) →
      Outcome config executor task input (state, tasks ++ [last])
  | abortEnd {input : Input} :
      Outcome config executor .abortEnd input (executor.abortEnd, [])

theorem Does.outcome {task : Task} {input : Input} {after : MissionExecutor × List Task}
    (does : Does config executor task input after) :
    Outcome config executor task input after := by
  cases does with
  | onActivate => exact .onActivate
  | onDeactivate reason => exact .onDeactivate reason
  | again _ landed => exact .again _ landed
  | modeExecutor result plain => exact .modeExecutor result plain
  | runCustom => exact .runCustom _ _ _ _
  | enterRun => exact .enterRun _ _ _ _
  | abort reason => exact .aborts rfl (abortStep_abort reason)
  | abortDeactivate reason =>
      unfold MissionExecutor.abortDeactivate
      split
      · exact .inner inner_nothing
      · exact .aborts rfl (abortStep_abortDeactivate reason)
  | abortRunOnFailure reason =>
      obtain ⟨tasks, left, step⟩ := @abortStep_abortRunOnFailure config executor reason
      rw [← Prod.eta (executor.abortRunOnFailure config reason), left]
      exact .aborts rfl step
  | abortEnd => exact .abortEnd
  | routine routine tasks => exact .inner (.of_routine ⟨routine, tasks⟩)
  | onActivateRun => exact .inner (inner_onActivateRun _)
  | onActivatedReturned => exact .inner (inner_onActivatedReturned _ _)
  | runStoredActions => exact .inner (inner_runStoredActions _)
  | runNextMissionItem =>
      refine .inner ((inner_setCurrentMissionIndex _).append ?_)
      simpa using Task.Plain.mk rfl rfl rfl rfl (by simp)
  | runCurrentMissionItem => exact .inner (inner_runCurrentMissionItem _)
  | switchToTrajectory => exact .inner inner_switchToTrajectory
  | setTrajectoryState => exact .inner ⟨⟨rfl, rfl, rfl⟩, by simp, by simp, by simp, by simp⟩
  | nextItem handler start =>
      by_cases valid : executor.isValid handler = true
      · rw [if_pos valid]
        exact .inner ⟨⟨rfl, rfl, rfl⟩, by simp, by simp, by simp, by simp⟩
      · rw [if_neg valid]
        exact .inner inner_nothing
  | resumed => exact .inner (inner_resumed _ _)
  | navigate => exact .inner (inner_navigateToPreviousWaypoint _ _ _)
  | segment => exact .inner (inner_segmentReached _ _ _)
  | continueNextItem =>
      refine .inner ⟨⟨rfl, rfl, rfl⟩, ?_, ?_, ?_, ?_⟩ <;> simp [MissionExecutor.continueNextItem]
  | onResumeCompletes => exact .inner ⟨⟨rfl, rfl, rfl⟩, by simp, by simp, by simp, by simp⟩
  | unexpectedLanding => exact .inner (inner_resumeFromUnexpectedLanding _ _ _)
  | changeSettings => exact .inner (inner_runChangeSettings _ _ _)
  | userHandlerOp =>
      refine .inner ((inner_handlerOp _ _).append ?_)
      simpa using Task.Plain.mk rfl rfl rfl rfl (by simp)
  | userCallIndex => exact .inner ⟨⟨rfl, rfl, rfl⟩, by simp, by simp, by simp, by simp⟩
  | userSetMission =>
      exact .inner (.of_plain (sameFrame_setMission _ _)
        (by simpa using Task.Plain.mk rfl rfl rfl rfl (by simp)))
  | userResetMission =>
      refine .inner (.of_plain ?_ (by simpa using Task.Plain.mk rfl rfl rfl rfl (by simp)))
      unfold resetMission
      split <;> exact ⟨rfl, rfl, rfl⟩
  | savePersistentState =>
      refine .inner (.of_plain ?_ (by simp))
      unfold MissionExecutor.savePersistentState clearPersistentState
      repeat' split
      all_goals exact ⟨rfl, rfl, rfl⟩

/-! Tasks of the mode executor. -/

theorem resume_isStatus (modeExecutor : ModeExecutorBase ModeCallback) (result : Result)
    {task : ModeExecutorBase.Task ModeCallback} (plain : task.isStatus = false) :
    ∀ other ∈ (modeExecutor.resume result task).2, other.isStatus = false := by
  cases task with
  | hook hook => simp [ModeExecutorBase.resume]
  | mode task =>
      cases task with
      | hook hook => simp [ModeExecutorBase.resume, ModeExecutorBase.resumeMode,
          ModeExecutorBase.Task.isStatus]
      | activated | updateSetpointUpdateTimer =>
          intro other member
          obtain ⟨task', _, rfl⟩ := List.mem_map.mp member
          rfl
  | cancelScheduledMode =>
      simp only [ModeExecutorBase.resume, ModeExecutorBase.cancelScheduledMode]
      split
      · cases modeExecutor.currentScheduledMode.onCompletedCallback <;>
          simp [ModeExecutorBase.Task.isStatus]
      · simp
  | sendScheduleMode | sendArmDisarm =>
      simp only [ModeExecutorBase.resume]
      split <;> simp [ModeExecutorBase.Task.isStatus]
  | _ => cases plain

theorem applyModeExecutor_kinds
    (after : ModeExecutorBase ModeCallback × List (ModeExecutorBase.Task ModeCallback)) :
    ∀ task ∈ (executor.applyModeExecutor after).2, task.isModeExecutor = true ∧
      task.isAborting = false ∧ task.isRun = false := by
  intro task member
  obtain ⟨task', _, rfl⟩ := List.mem_map.mp member
  exact ⟨rfl, rfl, rfl⟩

/-! Every step keeps the order. -/

theorem isAbortEnd_of_isAborting {task : Task} (other : task.isAborting = false) :
    task.isAbortEnd = false := by
  cases task with
  | abortEnd => cases other
  | _ => rfl

theorem countP_isAbortEnd_eq_zero {tasks : List Task}
    (none : ∀ task ∈ tasks, task.isAborting = false) : tasks.countP Task.isAbortEnd = 0 := by
  rw [List.countP_eq_zero]
  intro task member
  rw [isAbortEnd_of_isAborting (none task member)]
  exact Bool.false_ne_true

theorem run_tail_append {tasks rest : List Task}
    (first : ∀ task ∈ tasks.tail, task.isRun = false)
    (later : ∀ task ∈ rest, task.isRun = false) :
    ∀ task ∈ (tasks ++ rest).tail, task.isRun = false := by
  intro task member
  cases tasks with
  | nil => exact later task (List.mem_of_mem_tail member)
  | cons head others =>
      rcases List.mem_append.mp member with early | late
      · exact first task early
      · exact later task late

/-- New tasks on top: a status update among them is above tasks of the mode executor only. -/
theorem status_append {tasks rest : List Task}
    (below : rest.Pairwise fun upper lower =>
      upper.isStatus = true → lower.isModeExecutor = true)
    (above : ∀ upper ∈ tasks, upper.isStatus = true →
      (∀ lower ∈ tasks, lower.isModeExecutor = true) ∧
        ∀ lower ∈ rest, lower.isModeExecutor = true) :
    (tasks ++ rest).Pairwise fun upper lower =>
      upper.isStatus = true → lower.isModeExecutor = true := by
  refine List.pairwise_append.mpr ⟨?_, below, ?_⟩
  · exact List.pairwise_of_forall_mem_list fun upper member lower member' isStatus =>
      (above upper member isStatus).1 lower member'
  · exact fun upper member lower member' isStatus =>
      (above upper member isStatus).2 lower member'

/-- Tasks of internal code: they go on when it is their turn. -/
def Task.isInternal : Task → Bool
  | .modeExecutor _ | .user _ | .updateWaypoint | .deferWait => false
  | _ => true

theorem exec_internal {task : Task} {input : Input} {after : MissionExecutor × List Task}
    (inner : task.isInternal = true) (executed : executor.exec config task input = some after) :
    (∃ landed, input = .landDetected landed ∧ after = ({ executor with landed }, [task])) ∨
      (input = .proceed ∧ after = executor.internal config task) := by
  obtain ⟨_, ⟨landed, rfl, rfl⟩ | ⟨_, rfl, _⟩ | ⟨_, _, _, rfl, _⟩ | ⟨_, rfl, _⟩ |
    ⟨_, _, rfl, _⟩ | ⟨rfl, _⟩ | ⟨rfl, _, rfl⟩⟩ := exec_cases executed
  · exact .inl ⟨landed, rfl, rfl⟩
  · cases inner
  · cases inner
  · cases inner
  · cases inner
  · cases inner
  · exact .inr ⟨rfl, rfl⟩

theorem ordered_inner {after : MissionExecutor × List Task} {rest : List Task}
    (inner : Inner executor after) (run : ∀ task ∈ rest, task.isRun = false)
    (status : rest.Pairwise fun upper lower =>
      upper.isStatus = true → lower.isModeExecutor = true)
    (level : executor.abortRecursionLevel = rest.countP Task.isAbortEnd) :
    Ordered ⟨after.1, after.2 ++ rest⟩ := by
  refine ⟨run_tail_append inner.run run, ?_, ?_⟩
  · refine status_append status fun upper member isStatus => ?_
    rw [(inner.kinds upper member).1] at isStatus
    cases isStatus
  · rw [List.countP_append, countP_isAbortEnd_eq_zero fun other member =>
      (inner.kinds other member).2, Nat.zero_add]
    exact inner.frame.level.trans level

theorem ordered_abortStep {last : Task} {after : MissionExecutor × List Task} {rest : List Task}
    (step : AbortStep executor last after) (run : ∀ task ∈ rest, task.isRun = false)
    (status : rest.Pairwise fun upper lower =>
      upper.isStatus = true → lower.isModeExecutor = true)
    (level : executor.abortRecursionLevel = rest.countP Task.isAbortEnd) :
    Ordered ⟨after.1, after.2 ++ [last] ++ rest⟩ := by
  have aborting := step.aborting
  rw [List.append_assoc]
  refine ordered_inner step.calls ?_ (List.pairwise_cons.mpr ⟨?_, status⟩) ?_
  · intro task member
    rcases List.mem_cons.mp member with rfl | later
    · cases task with
      | abortDeactivate | abortRunOnFailure | abortEnd => rfl
      | _ => cases aborting
    · exact run task later
  · intro lower _ isStatus
    cases last with
    | modeExecutor => cases aborting
    | _ => cases isStatus
  · rw [List.countP_append, level, Nat.add_comm]

theorem ordered_exec {task : Task} {rest : List Task} {input : Input}
    {after : MissionExecutor × List Task} (ordered : Ordered ⟨executor, task :: rest⟩)
    (executed : executor.exec config task input = some after) :
    Ordered ⟨after.1, after.2 ++ rest⟩ := by
  obtain ⟨run, status, level⟩ := ordered
  obtain ⟨below, statusRest⟩ := List.pairwise_cons.mp status
  simp only [List.countP_cons] at level
  by_cases ends : task.isAbortEnd = true
  · have same : task = .abortEnd := by
      cases task <;> first | rfl | cases ends
    subst same
    obtain ⟨landed, _, rfl⟩ | ⟨_, rfl⟩ := exec_internal rfl executed
    · exact ⟨run, status, by simpa [List.countP_cons] using level⟩
    · refine ⟨fun other member => run other (List.mem_of_mem_tail member), statusRest, ?_⟩
      simp only [internal, abortEnd, List.nil_append]
      simp only [Task.isAbortEnd, if_true] at level
      omega
  · simp only [ends, Bool.false_eq_true, if_false, Nat.add_zero] at level
    cases (exec_does executed).outcome with
    | inner inner => exact ordered_inner inner run statusRest level
    | onActivate => exact ordered_inner inner_onActivate run statusRest level
    | onDeactivate => exact ordered_inner inner_onDeactivate run statusRest level
    | again _ landed =>
        refine ⟨run, status, ?_⟩
        rw [List.singleton_append, List.countP_cons, if_neg ends]
        exact level
    | @modeExecutor other _ result plain =>
        have kinds :=
          @applyModeExecutor_kinds executor (executor.modeExecutor.resume result other)
        refine ⟨run_tail_append (fun task member => (kinds task (List.mem_of_mem_tail member)).2.2)
          run, ?_, ?_⟩
        · refine status_append statusRest fun upper member isStatus => ?_
          refine ⟨fun lower member => (kinds lower member).1, fun lower belongs => ?_⟩
          by_cases statusTask : other.isStatus = true
          · exact below lower belongs statusTask
          · obtain ⟨upper', member', rfl⟩ := List.mem_map.mp member
            have calm := resume_isStatus executor.modeExecutor result
              (by simpa using statusTask) upper' member'
            rw [Task.isStatus, calm] at isStatus
            cases isStatus
        · rw [List.countP_append, countP_isAbortEnd_eq_zero fun task member =>
            (kinds task member).2.1, Nat.zero_add]
          exact level
    | runCustom | enterRun =>
        refine ⟨run, List.pairwise_cons.mpr ⟨?_, statusRest⟩, level⟩
        intro _ _ isStatus
        cases isStatus
    | aborts _ step => exact ordered_abortStep step run statusRest level
    | abortEnd => exact absurd rfl ends

theorem ordered_idle {input : Input} {after : MissionExecutor × List Task}
    (level : executor.abortRecursionLevel = 0)
    (taken : executor.idle config input = some after) : Ordered ⟨after.1, after.2⟩ := by
  obtain routine | ⟨msg, _, rfl⟩ := idle_cases taken
  · have inner := Inner.of_routine routine
    refine ⟨inner.run, ?_, ?_⟩
    · refine List.pairwise_of_forall_mem_list fun upper member _ _ isStatus => ?_
      rw [(inner.kinds upper member).1] at isStatus
      cases isStatus
    · rw [countP_isAbortEnd_eq_zero fun other member => (inner.kinds other member).2]
      exact inner.frame.level.trans level
  · have kinds := @applyModeExecutor_kinds executor (executor.modeExecutor.vehicleStatusReceived msg)
    refine ⟨fun task member => (kinds task (List.mem_of_mem_tail member)).2.2, ?_, ?_⟩
    · exact List.pairwise_of_forall_mem_list fun _ _ lower member _ => (kinds lower member).1
    · rw [countP_isAbortEnd_eq_zero fun other member => (kinds other member).2.1]
      exact level

theorem ordered_step {before next : Config} {input : Input} (ordered : Ordered before)
    (stepped : (machine config).step before input = some next) : Ordered next := by
  obtain ⟨empty, state, tasks, taken, rfl⟩ | ⟨task, rest, state, tasks, agenda, executed, rfl⟩ :=
    Lib.Machine.step_cases stepped
  · have level := ordered.level
    rw [empty] at level
    exact ordered_idle level taken
  · rcases before with ⟨executor, agenda'⟩
    cases agenda
    exact ordered_exec ordered executed

variable {registered : Bool} {id : UInt8} {ownedMode : ModeBase} {file : PersistenceFile}
  {guard : Config → Input → Prop}

theorem reaches_ordered {reached : Config}
    (reaches : (machine config).Reaches guard (initial registered id ownedMode file) reached) :
    Ordered reached :=
  reaches.invariant ⟨by simp [initial], by simp [initial], rfl⟩
    fun _ _ _ ordered _ stepped => ordered_step ordered stepped

/-! The handlers that are known were made. -/

/-- The newest handler is the current one, and the handlers that user code and pending work have
are not newer. -/
structure HandlersMade (config : Config) : Prop where
  current : config.state.actionHandler + 1 = config.state.handlers.length
  users : ∀ handler ∈ config.state.userHandlers, handler ≤ config.state.actionHandler
  tasks : ∀ task ∈ config.agenda, ∀ handler ∈ task.handler?, handler ≤ config.state.actionHandler

theorem Effect.current {before after : MissionExecutor} (effect : Effect config before after)
    (current : before.actionHandler + 1 = before.handlers.length) :
    after.actionHandler + 1 = after.handlers.length ∧
      before.actionHandler ≤ after.actionHandler := by
  obtain ⟨handlers, same⟩ | rfl := effect.handlers
  · rw [handlers, same]
    exact ⟨current, le_refl _⟩
  · rw [invalidate_handlers_length, invalidate_actionHandler, ← current]
    exact ⟨rfl, Nat.le_succ _⟩

theorem Effects.current {before after : MissionExecutor} (effects : Effects config before after)
    (current : before.actionHandler + 1 = before.handlers.length) :
    after.actionHandler + 1 = after.handlers.length ∧
      before.actionHandler ≤ after.actionHandler := by
  induction effects with
  | refl => exact ⟨current, le_refl _⟩
  | tail _ effect ih =>
      have next := effect.current ih.1
      exact ⟨next.1, ih.2.trans next.2⟩

theorem handlersMade_exec {task : Task} {rest : List Task} {input : Input}
    {after : MissionExecutor × List Task} (made : HandlersMade ⟨executor, task :: rest⟩)
    (executed : executor.exec config task input = some after) :
    HandlersMade ⟨after.1, after.2 ++ rest⟩ := by
  have newer := (exec_effects executed).current made.current
  have known : (∀ handler ∈ after.1.userHandlers, handler ≤ after.1.actionHandler) ∧
      ∀ other ∈ after.2, ∀ handler ∈ other.handler?, handler ≤ after.1.actionHandler := by
    have old := made.tasks task List.mem_cons_self
    have kept : ∀ {base : MissionExecutor} {tasks : List Task}, Inner base (after.1, tasks) →
        base.userHandlers = executor.userHandlers →
        (∀ handler ∈ after.1.userHandlers, handler ≤ after.1.actionHandler) ∧
          ∀ other ∈ tasks, ∀ handler ∈ other.handler?, handler ≤ after.1.actionHandler := by
      intro base tasks inner same
      refine ⟨fun handler member => ?_, fun other member handler passed => ?_⟩
      · rw [inner.frame.users, same] at member
        exact (made.users handler member).trans newer.2
      · exact le_of_eq (inner.handlers other member handler passed)
    cases (exec_does executed).outcome with
    | inner inner => exact kept inner rfl
    | onActivate => exact kept inner_onActivate rfl
    | onDeactivate => exact kept inner_onDeactivate rfl
    | again => exact ⟨made.users, by simpa using old⟩
    | modeExecutor =>
        refine ⟨made.users, fun other member handler passed => ?_⟩
        obtain ⟨task', _, rfl⟩ := List.mem_map.mp member
        cases passed
    | runCustom => exact ⟨made.users, by simpa using old⟩
    | enterRun =>
        refine ⟨?_, by simp [enter]⟩
        intro other member
        rcases List.mem_cons.mp member with rfl | known
        · exact old _ rfl
        · exact made.users other known
    | @aborts _ last _ _ _ _ step =>
        have calls := kept step.calls rfl
        have aborting := step.aborting
        refine ⟨calls.1, fun other member handler passed => ?_⟩
        rcases List.mem_append.mp member with first | final
        · exact calls.2 other first handler passed
        · rw [List.mem_singleton.mp final] at passed
          cases last with
          | abortDeactivate | abortRunOnFailure | abortEnd => cases passed
          | _ => cases aborting
    | abortEnd => exact ⟨made.users, by simp⟩
  refine ⟨newer.1, known.1, fun other member handler passed => ?_⟩
  rcases List.mem_append.mp member with first | later
  · exact known.2 other first handler passed
  · exact (made.tasks other (List.mem_cons_of_mem _ later) handler passed).trans newer.2

theorem handlersMade_step {before next : Config} {input : Input} (made : HandlersMade before)
    (stepped : (machine config).step before input = some next) : HandlersMade next := by
  obtain ⟨empty, state, tasks, taken, rfl⟩ | ⟨task, rest, state, tasks, agenda, executed, rfl⟩ :=
    Lib.Machine.step_cases stepped
  · have newer := (idle_effects taken).current made.current
    have kept : state.userHandlers = before.state.userHandlers ∧
        ∀ other ∈ tasks, other.handler? = none := by
      obtain routine | ⟨msg, _, same⟩ := idle_cases taken
      · exact ⟨routine.state.userHandlers,
          fun other member => (plain_of_isRoutine (routine.tasks other member)).handler⟩
      · cases same
        refine ⟨rfl, fun other member => ?_⟩
        obtain ⟨task', _, rfl⟩ := List.mem_map.mp member
        rfl
    refine ⟨newer.1, fun handler member => ?_, fun other member handler passed => ?_⟩
    · rw [kept.1] at member
      exact (made.users handler member).trans newer.2
    · rw [kept.2 other member] at passed
      cases passed
  · rcases before with ⟨executor, agenda'⟩
    cases agenda
    exact handlersMade_exec made executed

end Px4Ros2.MissionExecutor
