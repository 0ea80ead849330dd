import Px4Ros2.Mission.MissionProgress

/-! Where tasks come from: who runs an action. -/

set_option autoImplicit false

namespace Px4Ros2.MissionExecutor

/-- The tasks that run an action, with the step that leaves them. -/
inductive Runner (config : Configuration) (executor : MissionExecutor) :
    Task → Input → Task → Prop where
  | again (task : Task) (landed : Bool) :
      Runner config executor task (.landDetected landed) task
  | entered {input : Input} (name : String) (handler : HandlerId) (arguments : ActionArguments)
      (onCompleted : Closure) :
      Runner config executor (.run name handler arguments onCompleted) input
        (.enter (.run name handler arguments onCompleted))
  | resume {task : Task} {input : Input} (arguments : Json) :
      task.starts = true →
      executor.getOnResumeStateAndClear.2.set "action" (.string "resume") = some arguments →
      Runner config executor task input (.run "onResume" executor.actionHandler ⟨arguments⟩
        (.resumed executor.actionHandler executor.state.currentIndex))
  | storeState (reason : DeactivateReason) :
      Runner config executor (.modeExecutor (.hook (.onDeactivate reason))) .proceed
        (.run "onResume" executor.deactivated.actionHandler storeStateArguments .noop)
  | stored {input : Input} (action : ActionState) (rest : List ActionState) :
      action.name ≠ "onResume" →
      Runner config executor (.runStoredActions (action :: rest)) input
        (.run action.name executor.actionHandler action.arguments .noop)
  | item {input : Input} (resuming : Bool) (index : Int) (item : ActionItem)
      (arguments : ActionArguments) :
      executor.state.currentIndex = some index →
      executor.mission.item? index = some (.action item) →
      resumingArguments resuming item.arguments = some arguments →
      Runner config executor (.runCurrentMissionItem resuming) input
        (.run item.name executor.actionHandler arguments
          (.nextItem executor.actionHandler executor.starts))
  | takeoff {input : Input} (name : String) (handler : HandlerId) (arguments : ActionArguments)
      (onCompleted : Closure) (index : Int) (item : ActionItem) :
      config.findAction name = some .onResume → executor.previousTakeoff index = some item →
      Runner config executor (.run name handler arguments onCompleted) input
        (.run item.name executor.actionHandler item.arguments
          (.navigateToPreviousWaypoint handler onCompleted index))
  | user (inRun : Bool) (reference : HandlerRef) (handler : HandlerId) (name : String)
      (arguments : ActionArguments) (onCompleted : Closure) :
      executor.resolve reference = some handler → executor.isValid handler = true →
      Runner config executor (.user inRun)
        (.op (.handler reference (.runAction name arguments onCompleted)))
        (.run name executor.actionHandler arguments onCompleted)
  | onFailure {input : Input} (reason : AbortReason) (arguments : ActionArguments) :
      Runner config executor (.abortRunOnFailure reason) input
        (.run "onFailure" executor.actionHandler arguments .noop)

variable {config : Configuration} {executor : MissionExecutor} {task : Task} {input : Input}
  {after : MissionExecutor × List Task}

/-- No task is about to run an action. -/
def Runless (tasks : List Task) : Prop := ∀ task ∈ tasks, task.isRun = false

theorem Runless.append {first second : List Task} (one : Runless first) (two : Runless second) :
    Runless (first ++ second) := by
  intro task member
  rcases List.mem_append.mp member with early | late
  · exact one task early
  · exact two task late

theorem runless_of_isRoutine {tasks : List Task} (routine : ∀ task ∈ tasks, task.isRoutine = true) :
    Runless tasks :=
  fun task member => (plain_of_isRoutine (routine task member)).run

theorem runless_runMode (modeId : ModeID) (onCompleted : Closure) (onFailure : Option Closure) :
    Runless (executor.runMode modeId onCompleted onFailure).2 :=
  runless_of_isRoutine (routineAfter_runMode modeId onCompleted onFailure).tasks

theorem runless_runTrajectory (trajectory : Mission) (startIndex endIndex : Int)
    (onIndexReached : IndexClosure) (stopAtLast : Bool) :
    Runless (executor.runTrajectory config trajectory startIndex endIndex onIndexReached
      stopAtLast).2 := by
  unfold runTrajectory
  split
  · simp [Runless]
  · dsimp only
    split <;> simp [Runless]

theorem runless_setCurrentMissionIndex (index : Int) :
    Runless (executor.setCurrentMissionIndex index).2 :=
  runless_of_isRoutine isRoutine_clearActivityInfo

/-- `runAction` leaves one run, with the current handler. -/
theorem isRun_runAction {name : String} {arguments : ActionArguments} {onCompleted : Closure}
    {other : Task} (member : other ∈ (executor.runAction config name arguments onCompleted).2)
    (runs : other.isRun = true) :
    other = .run name executor.actionHandler arguments onCompleted := by
  unfold runAction at member
  split at member
  · cases member
  · split at member
    · rw [List.mem_singleton.mp member] at runs
      cases runs
    · exact List.mem_singleton.mp member

/-- Among the operations of a handler only `runAction` runs an action. -/
theorem runless_handlerOp (handler : HandlerId) {op : HandlerOp}
    (other : ∀ name arguments onCompleted, op ≠ .runAction name arguments onCompleted) :
    Runless (executor.handlerOp config handler op).2 := by
  by_cases kind : op.isRoutine = true
  · exact runless_of_isRoutine (routineAfter_handlerOp handler kind).tasks
  · unfold handlerOp
    split
    · simp [Runless]
    · cases op with
      | runAction name arguments onCompleted => exact absurd rfl (other name arguments onCompleted)
      | runTrajectory =>
          simp only [handlerCall, runCustomTrajectory]
          split
          · simp [Runless]
          · split
            · exact runless_runTrajectory _ _ _ _ _
            · simp [Runless]
      | setCurrentMissionIndex =>
          simp only [handlerCall]
          split
          · exact runless_setCurrentMissionIndex _
          · simp [Runless]
      | storeState => simp [Runless, handlerCall]
      | _ => exact absurd rfl kind

theorem isRun_handlerOp {handler : HandlerId} {name : String} {arguments : ActionArguments}
    {onCompleted : Closure} {other : Task}
    (member : other ∈
      (executor.handlerOp config handler (.runAction name arguments onCompleted)).2)
    (runs : other.isRun = true) :
    executor.isValid handler = true ∧
      other = .run name executor.actionHandler arguments onCompleted := by
  unfold handlerOp at member
  split at member
  · cases member
  · rename_i valid
    exact ⟨by simpa [HandlerOp.checksValid] using valid, isRun_runAction member runs⟩

theorem runner_startMission {startFromBeginning : Bool} {other : Task} (starts : task.starts = true)
    (member : other ∈ (executor.startMission config startFromBeginning).2)
    (runs : other.isRun = true) : Runner config executor task input other := by
  unfold startMission at member
  split at member
  · rcases List.mem_pair.mp member with rfl | rfl <;> cases runs
  · dsimp only at member
    split at member
    · cases member
    · rename_i arguments set
      have handler : executor.getOnResumeStateAndClear.1.actionHandler = executor.actionHandler := by
        unfold getOnResumeStateAndClear
        split <;> rfl
      rw [isRun_runAction member runs, handler]
      exact .resume arguments starts set

theorem runner_runCurrentMissionItem {resuming : Bool} {other : Task}
    (member : other ∈ (executor.runCurrentMissionItem config resuming).2)
    (runs : other.isRun = true) :
    Runner config executor (.runCurrentMissionItem resuming) input other := by
  have runless : ∀ {tasks : List Task}, Runless tasks → other ∈ tasks → False := by
    intro tasks none among
    rw [none other among] at runs
    cases runs
  unfold runCurrentMissionItem at member
  split at member
  · exact (runless (runless_runMode _ _ _) member).elim
  · rename_i index current
    split at member
    · split at member
      · cases member
      · exact (runless (runless_runMode _ _ _) member).elim
    · rename_i item found
      cases item with
      | navigation item => exact (runless (runless_runTrajectory _ _ _ _ _) member).elim
      | action item =>
          simp only [runMissionItem] at member
          split at member
          · cases member
          · rename_i arguments flagged
            rw [isRun_runAction member runs]
            exact .item resuming index item arguments current found flagged

/-- Everything that runs an action. -/
theorem exec_runs (executed : executor.exec config task input = some after) {other : Task}
    (member : other ∈ after.2) (runs : other.isRun = true) :
    Runner config executor task input other := by
  have runless : ∀ {tasks : List Task}, Runless tasks → other ∈ tasks → False := by
    intro tasks none among
    rw [none other among] at runs
    cases runs
  cases exec_does executed with
  | routine _ tasks => exact (runless (runless_of_isRoutine tasks) member).elim
  | again _ landed =>
      rw [List.mem_singleton.mp member]
      exact .again task landed
  | modeExecutor result plain =>
      exact (runless (fun other member => (applyModeExecutor_kinds _ other member).2.2)
        member).elim
  | onActivate =>
      refine (runless ?_ member).elim
      unfold MissionExecutor.onActivate
      split
      · simp [Runless]
      · exact (runless_setCurrentMissionIndex _).append (by simp [Runless])
  | onDeactivate reason =>
      unfold MissionExecutor.onDeactivate at member
      split at member
      · exact (runless (by simp [Runless]) member).elim
      · rcases List.mem_append.mp member with stores | rest
        · unfold runOnResumeStoreState at stores
          split at stores
          · rw [List.mem_singleton.mp stores]
            exact .storeState reason
          · cases stores
        · exact (runless (by simp [Runless]) rest).elim
  | onActivateRun startFromBeginning =>
      unfold MissionExecutor.onActivateRun at member
      split at member
      · exact (runless (by simp [Runless]) member).elim
      · exact runner_startMission rfl member runs
  | onActivatedReturned previousHandler startFromBeginning =>
      unfold MissionExecutor.onActivatedReturned at member
      split at member
      · exact runner_startMission rfl member runs
      · cases member
  | runStoredActions actions =>
      cases actions with
      | nil => cases member
      | cons action rest =>
          simp only [MissionExecutor.runStoredActions] at member
          split at member
          · exact (runless (by simp [Runless]) member).elim
          · split at member
            · exact (runless (by simp [Runless]) member).elim
            · rename_i named
              rcases List.mem_pair.mp member with rfl | rfl
              · exact .stored action rest named
              · cases runs
  | runNextMissionItem =>
      exact (runless ((runless_setCurrentMissionIndex _).append (by simp [Runless])) member).elim
  | runCurrentMissionItem resuming => exact runner_runCurrentMissionItem member runs
  | switchToTrajectory =>
      refine (runless ?_ member).elim
      unfold MissionExecutor.switchToTrajectory
      split
      · exact Runless.append (runless_runMode _ _ _) (by simp [Runless])
      · simp [Runless]
  | nextItem =>
      refine (runless ?_ member).elim
      dsimp only
      split <;> simp [Runless]
  | resumed handler previousIndex =>
      refine (runless ?_ member).elim
      unfold MissionExecutor.resumed
      split
      · split <;> simp [Runless]
      · simp [Runless]
  | navigate handler onCompleted index =>
      refine (runless ?_ member).elim
      unfold navigateToPreviousWaypoint
      split
      · exact runless_handlerOp _ (by simp)
      · simp [Runless]
  | segment handler endIndex index =>
      refine (runless ?_ member).elim
      unfold segmentReached
      split
      · refine (runless_setCurrentMissionIndex _).append ?_
        split <;> simp [Runless]
      · simp [Runless]
  | runCustom name handler arguments onCompleted =>
      rw [List.mem_singleton.mp member]
      exact .entered name handler arguments onCompleted
  | unexpectedLanding name handler arguments onCompleted index found =>
      unfold resumeFromUnexpectedLanding at member
      split at member
      · exact (runless ((runless_handlerOp _ (by simp)).append (by simp [Runless])) member).elim
      · split at member
        · rename_i item takeoff
          rw [(isRun_handlerOp member runs).2]
          exact .takeoff name handler arguments onCompleted index item found takeoff
        · exact (runless (by simp [Runless]) member).elim
  | changeSettings name handler arguments onCompleted =>
      exact (runless (runless_of_isRoutine
        (runChangeSettings_kept handler arguments onCompleted).1.tasks) member).elim
  | userHandlerOp inRun reference op handler _ resolved =>
      rcases List.mem_append.mp member with first | last
      · by_cases action : ∃ name arguments onCompleted, op = .runAction name arguments onCompleted
        · obtain ⟨name, arguments, onCompleted, rfl⟩ := action
          obtain ⟨valid, rfl⟩ := isRun_handlerOp first runs
          exact .user inRun reference handler name arguments onCompleted resolved valid
        · refine (runless (runless_handlerOp _ ?_) first).elim
          exact fun name arguments onCompleted same => action ⟨name, arguments, onCompleted, same⟩
      · exact (runless (by simp [Runless]) last).elim
  | abort reason =>
      exact (runless ((runless_of_isRoutine isRoutine_clearActivityInfo).append
        (by simp [Runless])) member).elim
  | abortDeactivate reason =>
      refine (runless ?_ member).elim
      unfold MissionExecutor.abortDeactivate
      split
      · simp [Runless]
      · exact (runless_of_isRoutine isRoutine_deactivateAllActions).append (by simp [Runless])
  | abortRunOnFailure reason =>
      unfold MissionExecutor.abortRunOnFailure at member
      dsimp only at member
      split at member
      · exact (runless (by simp [Runless]) member).elim
      · rcases List.mem_append.mp member with first | last
        · rw [isRun_runAction first runs]
          exact .onFailure reason _
        · exact (runless (by simp [Runless]) last).elim
  | setTrajectoryState | continueNextItem | onResumeCompletes | enterRun | userCallIndex
  | userSetMission | userResetMission | savePersistentState | abortEnd =>
      exact (runless (by simp [Runless, continueNextItem, enter]) member).elim

theorem previousTakeoff_name {index : Int} {item : ActionItem}
    (found : executor.previousTakeoff index = some item) : item.name = "takeoff" := by
  obtain ⟨other, _, selected⟩ := List.exists_of_findSome?_eq_some found
  cases other with
  | navigation => cases selected
  | action action =>
      dsimp only at selected
      split at selected
      · rename_i named
        cases selected
        exact named
      · cases selected

theorem idle_runless (taken : executor.idle config input = some after) : Runless after.2 := by
  obtain routine | ⟨msg, _, rfl⟩ := idle_cases taken
  · exact runless_of_isRoutine routine.tasks
  · exact fun other member => (applyModeExecutor_kinds _ other member).2.2

end Px4Ros2.MissionExecutor
