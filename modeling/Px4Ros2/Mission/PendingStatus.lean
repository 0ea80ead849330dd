import Px4Ros2.Mission.StoppedMission

/-! A pending status update and the activation: the mission executor is active exactly while its
mode executor is in charge, up to the hooks that are still to run. -/

set_option autoImplicit false

namespace Px4Ros2.MissionExecutor

/-- The tasks of a status update that look at the charge or change it, and the hooks for it. -/
def Task.changesCharge : Task → Bool
  | .modeExecutor .callOnActivate | .modeExecutor (.callOnDeactivate _) => true
  | .modeExecutor (.leaveCharge _) | .modeExecutor (.reactivateOnModeSwitch _ _ _) => true
  | task => task.changesActivity

/-- Work that makes sense for an executor that is `active` and a mode executor that is in `charge`:
every task finds what it is for, and the two agree in the end. -/
inductive Follows : Bool → Bool → List Task → Prop where
  | done (active : Bool) : Follows active active []
  | callOnActivate {rest : List Task} :
      Follows true true rest → Follows false false (.modeExecutor .callOnActivate :: rest)
  | onActivate {rest : List Task} :
      Follows true true rest → Follows false true (.modeExecutor (.hook .onActivate) :: rest)
  | callOnDeactivate {rest : List Task} (reason : DeactivateReason) :
      Follows false false rest →
      Follows true true (.modeExecutor (.callOnDeactivate reason) :: rest)
  | leaveCharge {rest : List Task} (reason : DeactivateReason) :
      Follows false false rest → Follows true true (.modeExecutor (.leaveCharge reason) :: rest)
  | onDeactivate {rest : List Task} (reason : DeactivateReason) :
      Follows false false rest →
      Follows true false (.modeExecutor (.hook (.onDeactivate reason)) :: rest)
  | reactivate {active : Bool} {rest : List Task} (msg : VehicleStatus)
      (changedToArmed gotActivated : Bool) :
      Follows active active rest →
      Follows active active
        (.modeExecutor (.reactivateOnModeSwitch msg changedToArmed gotActivated) :: rest)
  | other {active charge : Bool} {task : Task} {rest : List Task} :
      task.changesCharge = false → Follows active charge rest →
      Follows active charge (task :: rest)

variable {config : Configuration} {executor : MissionExecutor} {active charge : Bool}

theorem Follows.append {tasks rest : List Task}
    (calm : ∀ task ∈ tasks, task.changesCharge = false) (follows : Follows active charge rest) :
    Follows active charge (tasks ++ rest) := by
  induction tasks with
  | nil => exact follows
  | cons task tasks ih =>
      refine .other (calm task List.mem_cons_self) (ih ?_)
      exact fun other member => calm other (List.mem_cons_of_mem _ member)

theorem changesCharge_of_isStatus {task : Task} (calm : task.isStatus = false) :
    task.changesCharge = false := by
  cases task with
  | modeExecutor task =>
      cases task with
      | hook hook =>
          cases hook with
          | onActivate | onDeactivate => cases calm
          | _ => rfl
      | mode | sendScheduleMode | sendArmDisarm | cancelScheduledMode => rfl
      | _ => cases calm
  | _ => rfl

/-! The charge is up to the mode executor. -/

theorem modeExecutor_runAction (name : String) (arguments : ActionArguments)
    (onCompleted : Closure) :
    (executor.runAction config name arguments onCompleted).1.modeExecutor =
      executor.modeExecutor := by
  unfold runAction
  split <;> rfl

theorem modeExecutor_runTrajectory (trajectory : Mission) (startIndex endIndex : Int)
    (onIndexReached : IndexClosure) (stopAtLast : Bool) :
    (executor.runTrajectory config trajectory startIndex endIndex onIndexReached
      stopAtLast).1.modeExecutor = executor.modeExecutor := by
  unfold runTrajectory
  split
  · rfl
  · dsimp only
    split <;> rfl

theorem modeExecutor_setCurrentMissionIndex (index : Int) :
    (executor.setCurrentMissionIndex index).1.modeExecutor = executor.modeExecutor := by
  simp only [setCurrentMissionIndex, reportIndex]
  split <;> split <;> rfl

theorem isInCharge_handlerOp (handler : HandlerId) (op : HandlerOp) :
    (executor.handlerOp config handler op).1.modeExecutor.isInCharge =
      executor.modeExecutor.isInCharge := by
  by_cases kind : op.isRoutine = true
  · exact (routineAfter_handlerOp handler kind).state.isInCharge
  · unfold handlerOp
    split
    · rfl
    · cases op with
      | runAction => exact congrArg _ (modeExecutor_runAction _ _ _)
      | runTrajectory trajectory onCompleted stopAtLast =>
          simp only [handlerCall, runCustomTrajectory]
          split
          · rfl
          · split
            · exact congrArg _ (modeExecutor_runTrajectory _ _ _ _ _)
            · rfl
      | setCurrentMissionIndex index =>
          simp only [handlerCall]
          split
          · exact congrArg _ (modeExecutor_setCurrentMissionIndex _)
          · rfl
      | storeState => rfl
      | _ => exact absurd rfl kind

theorem modeExecutor_startMission (startFromBeginning : Bool) :
    (executor.startMission config startFromBeginning).1.modeExecutor = executor.modeExecutor := by
  have stored : executor.getOnResumeStateAndClear.1.modeExecutor = executor.modeExecutor := by
    unfold getOnResumeStateAndClear
    split <;> rfl
  unfold startMission
  split
  · rfl
  · dsimp only
    split
    · exact stored
    · exact (modeExecutor_runAction _ _ _).trans stored

theorem isInCharge_runCurrentMissionItem (resuming : Bool) :
    (executor.runCurrentMissionItem config resuming).1.modeExecutor.isInCharge =
      executor.modeExecutor.isInCharge := by
  have hold := (@routineAfter_runMode executor kModeIDLoiter .noop none).state.isInCharge
  unfold runCurrentMissionItem
  split
  · exact hold
  · split
    · split
      · rfl
      · exact hold
    · unfold runMissionItem
      split
      · exact congrArg _ (modeExecutor_runTrajectory _ _ _ _ _)
      · split
        · rfl
        · exact congrArg _ (modeExecutor_runAction _ _ _)

theorem isInCharge_setMission (canRun : CanRun) (mission : Mission) :
    (executor.setMission config canRun mission).modeExecutor.isInCharge =
      executor.modeExecutor.isInCharge := by
  unfold setMission
  split
  · rfl
  · have report := @routine_checkReadynessAndReport config
      { executor with
        mission
        missionErrors := missionErrorsOf config mission
        hasValidMission := (missionErrorsOf config mission).isEmpty
        state := { executor.state with missionChecksum := mission.checksum config.hash } } canRun
    dsimp only
    split <;> exact report.isInCharge

theorem isInCharge_resumeFromUnexpectedLanding (handler : HandlerId) (onCompleted : Closure)
    (index : Int) :
    (executor.resumeFromUnexpectedLanding config handler onCompleted
      index).1.modeExecutor.isInCharge = executor.modeExecutor.isInCharge := by
  unfold resumeFromUnexpectedLanding
  split
  · exact isInCharge_handlerOp _ _
  · split
    · exact isInCharge_handlerOp _ _
    · rfl

theorem isInCharge_runChangeSettings (handler : HandlerId) (arguments : ActionArguments)
    (onCompleted : Closure) :
    (executor.runChangeSettings config handler arguments onCompleted).1.modeExecutor.isInCharge =
      executor.modeExecutor.isInCharge := by
  unfold runChangeSettings
  split
  · rfl
  · exact @isInCharge_handlerOp config executor handler .clearTrajectoryOptions
  · split
    · rfl
    · split
      · rfl
      · rename_i options _ _ _ _
        have changed := @isInCharge_handlerOp config executor handler (.setTrajectoryOptions options)
        dsimp only
        unfold storeSettings
        split <;> exact changed

/-- Only the tasks of the mode executor itself change who is in charge. -/
theorem Does.isInCharge {task : Task} {input : Input} {after : MissionExecutor × List Task}
    (does : Does config executor task input after) :
    (∃ other result, task = .modeExecutor other ∧ (∀ hook, other ≠ .hook hook) ∧
      after = executor.applyModeExecutor (executor.modeExecutor.resume result other)) ∨
    after.1.modeExecutor.isInCharge = executor.modeExecutor.isInCharge := by
  cases does with
  | modeExecutor result plain => exact .inl ⟨_, result, rfl, plain, rfl⟩
  | routine routine _ => exact .inr routine.isInCharge
  | again | setTrajectoryState | nextItem | continueNextItem | runCustom | onResumeCompletes
  | runStoredActions | enterRun | userCallIndex | abort | abortDeactivate | abortEnd =>
      exact .inr rfl
  | onActivate =>
      refine .inr ?_
      unfold MissionExecutor.onActivate
      split
      · rfl
      · exact congrArg _ (modeExecutor_setCurrentMissionIndex _)
  | onDeactivate =>
      refine .inr ?_
      unfold MissionExecutor.onDeactivate clearPersistentState
      split
      · split <;> rfl
      · rfl
  | onActivateRun startFromBeginning =>
      refine .inr ?_
      unfold MissionExecutor.onActivateRun
      split
      · rfl
      · exact congrArg _ (modeExecutor_startMission _)
  | onActivatedReturned previousHandler startFromBeginning =>
      refine .inr ?_
      unfold MissionExecutor.onActivatedReturned
      split
      · exact congrArg _ (modeExecutor_startMission _)
      · rfl
  | runNextMissionItem => exact .inr (congrArg _ (modeExecutor_setCurrentMissionIndex _))
  | runCurrentMissionItem resuming => exact .inr (isInCharge_runCurrentMissionItem _)
  | switchToTrajectory =>
      refine .inr ?_
      unfold MissionExecutor.switchToTrajectory
      split
      · exact (routineAfter_runMode _ _ _).state.isInCharge
      · rfl
  | resumed handler previousIndex =>
      refine .inr ?_
      unfold MissionExecutor.resumed
      split
      · split <;> rfl
      · rfl
  | navigate handler onCompleted index =>
      refine .inr ?_
      unfold MissionExecutor.navigateToPreviousWaypoint
      split
      · exact isInCharge_handlerOp _ _
      · rfl
  | segment handler endIndex index =>
      refine .inr ?_
      unfold segmentReached
      split
      · exact congrArg _ (modeExecutor_setCurrentMissionIndex _)
      · rfl
  | unexpectedLanding => exact .inr (isInCharge_resumeFromUnexpectedLanding _ _ _)
  | changeSettings => exact .inr (isInCharge_runChangeSettings _ _ _)
  | userHandlerOp => exact .inr (isInCharge_handlerOp _ _)
  | userSetMission => exact .inr (isInCharge_setMission _ _)
  | userResetMission =>
      refine .inr ?_
      unfold resetMission
      split <;> rfl
  | savePersistentState =>
      obtain ⟨file, same⟩ := @savePersistentState_eq config executor
      exact .inr (by rw [same])
  | abortRunOnFailure reason =>
      refine .inr ?_
      unfold MissionExecutor.abortRunOnFailure
      dsimp only
      split
      · rfl
      · exact congrArg _ (modeExecutor_runAction _ _ _)

theorem resume_calm (modeExecutor : ModeExecutorBase ModeCallback) (result : Result)
    {task : ModeExecutorBase.Task ModeCallback}
    (calm : (Task.modeExecutor task).changesCharge = false) :
    (modeExecutor.resume result task).1.isInCharge = modeExecutor.isInCharge ∧
      ∀ other ∈ (modeExecutor.resume result task).2,
        (Task.modeExecutor other).changesCharge = false := by
  cases task with
  | hook => exact ⟨rfl, by simp [ModeExecutorBase.resume]⟩
  | mode task =>
      cases task with
      | hook =>
          exact ⟨rfl, by
            simp [ModeExecutorBase.resume, ModeExecutorBase.resumeMode, Task.changesCharge,
              Task.changesActivity]⟩
      | activated | updateSetpointUpdateTimer =>
          refine ⟨rfl, fun other member => ?_⟩
          obtain ⟨task', _, rfl⟩ := List.mem_map.mp member
          rfl
  | cancelScheduledMode =>
      simp only [ModeExecutorBase.resume, ModeExecutorBase.cancelScheduledMode]
      split
      · cases modeExecutor.currentScheduledMode.onCompletedCallback <;>
          simp [Task.changesCharge, Task.changesActivity]
      · simp
  | cancelWaitVehicleStatus =>
      simp only [ModeExecutorBase.resume, ModeExecutorBase.cancelWaitVehicleStatus]
      split <;> simp [Task.changesCharge, Task.changesActivity]
  | sendScheduleMode | sendArmDisarm =>
      simp only [ModeExecutorBase.resume]
      split <;> simp [Task.changesCharge, Task.changesActivity]
  | notifyFailsafeDeferred =>
      simp only [ModeExecutorBase.resume]
      split <;> simp [Task.changesCharge, Task.changesActivity]
  | updateOwnedMode msg changedToArmed =>
      refine ⟨rfl, fun other member => ?_⟩
      rcases List.mem_append.mp member with first | last
      · obtain ⟨task', _, rfl⟩ := List.mem_map.mp first
        rfl
      · cases List.mem_singleton.mp last
        rfl
  | finishStatusUpdate =>
      simp only [ModeExecutorBase.resume, ModeExecutorBase.updateWaitVehicleStatus]
      split
      · split <;> simp [Task.changesCharge, Task.changesActivity]
      · simp
  | callOnActivate | callOnDeactivate | leaveCharge | reactivateOnModeSwitch => cases calm

/-- Any other task leaves the activation and the charge alone. -/
theorem exec_calm {task : Task} {input : Input} {after : MissionExecutor × List Task}
    (calm : task.changesCharge = false)
    (executed : executor.exec config task input = some after) :
    after.1.isActive = executor.isActive ∧
      after.1.modeExecutor.isInCharge = executor.modeExecutor.isInCharge ∧
      ∀ other ∈ after.2, other.changesCharge = false := by
  have does := exec_does executed
  have charge : after.1.modeExecutor.isInCharge = executor.modeExecutor.isInCharge := by
    obtain ⟨other, result, rfl, _, rfl⟩ | same := does.isInCharge
    · exact (resume_calm _ result calm).1
    · exact same
  have rest : after.1.isActive = executor.isActive ∧
      ∀ other ∈ after.2, other.changesCharge = false := by
    cases does.outcome with
    | inner inner =>
        exact ⟨inner.frame.isActive, fun other member =>
          changesCharge_of_isStatus (inner.kinds other member).1⟩
    | onActivate | onDeactivate => cases calm
    | again => exact ⟨rfl, by simpa using calm⟩
    | modeExecutor result =>
        refine ⟨rfl, fun other member => ?_⟩
        obtain ⟨task', member', rfl⟩ := List.mem_map.mp member
        exact (resume_calm _ result calm).2 task' member'
    | runCustom | enterRun => exact ⟨rfl, by simp [enter, Task.changesCharge, Task.changesActivity]⟩
    | @aborts _ last _ _ _ _ step =>
        refine ⟨step.calls.frame.isActive, fun other member => ?_⟩
        have aborting := step.aborting
        rcases List.mem_append.mp member with first | final
        · exact changesCharge_of_isStatus (step.calls.kinds other first).1
        · cases List.mem_singleton.mp final
          cases last with
          | abortDeactivate | abortRunOnFailure | abortEnd => rfl
          | _ => cases aborting
    | abortEnd => exact ⟨rfl, by simp⟩
  exact ⟨rest.1, charge, rest.2⟩

/-- The pending work fits the state. -/
def InStep (reached : Config) : Prop :=
  Follows reached.state.isActive reached.state.modeExecutor.isInCharge reached.agenda

theorem follows_vehicleStatus (msg : VehicleStatus)
    (modeExecutor : ModeExecutorBase ModeCallback) :
    Follows modeExecutor.isInCharge (modeExecutor.vehicleStatusReceived msg).1.isInCharge
      ((modeExecutor.vehicleStatusReceived msg).2.map Task.modeExecutor) := by
  unfold ModeExecutorBase.vehicleStatusReceived ModeExecutorBase.vehicleStatusUpdated
  split
  · dsimp only
    split
    · rename_i changed
      split
      · rename_i inCharge
        have out : modeExecutor.isInCharge = false := by simpa [inCharge] using changed
        rw [out]
        exact .callOnActivate (.reactivate _ _ _ (.done true))
      · rename_i out
        have inCharge : modeExecutor.isInCharge = true := by simpa [out] using changed
        rw [inCharge]
        exact .callOnDeactivate _ (.reactivate _ _ _ (.done false))
    · exact .reactivate _ _ _ (.done _)
  · exact .done _

/-- A task of the mode executor that is no hook. -/
theorem exec_modeExecutor {task : ModeExecutorBase.Task ModeCallback} {input : Input}
    {after : MissionExecutor × List Task} (plain : ∀ hook, task ≠ .hook hook)
    (executed : executor.exec config (.modeExecutor task) input = some after) :
    (∃ landed, after = ({ executor with landed }, [.modeExecutor task])) ∨
      ∃ result, after = executor.applyModeExecutor (executor.modeExecutor.resume result task) := by
  obtain ⟨_, ⟨landed, rfl, rfl⟩ | ⟨task', same, resumed⟩ | ⟨_, _, _, same, _⟩ | ⟨_, same, _⟩ |
    ⟨_, _, same, _⟩ | ⟨same, _⟩ | ⟨_, other, _⟩⟩ := exec_cases executed
  · exact .inl ⟨landed, rfl⟩
  · cases same
    obtain ⟨hook, rfl, _⟩ | ⟨result, _, rfl⟩ := modeExecutorTask_cases resumed
    · exact absurd rfl (plain hook)
    · exact .inr ⟨result, rfl⟩
  · cases same
  · cases same
  · cases same
  · cases same
  · exact absurd rfl (other _)

theorem follows_exec {task : Task} {rest : List Task} {input : Input}
    {after : MissionExecutor × List Task}
    (follows : Follows executor.isActive executor.modeExecutor.isInCharge (task :: rest))
    (executed : executor.exec config task input = some after) :
    Follows after.1.isActive after.1.modeExecutor.isInCharge (after.2 ++ rest) := by
  generalize wasActive : executor.isActive = active at follows
  generalize wasInCharge : executor.modeExecutor.isInCharge = charge at follows
  cases follows with
  | other calm following =>
      obtain ⟨sameActive, sameCharge, calmAfter⟩ := exec_calm calm executed
      rw [sameActive, sameCharge, wasActive, wasInCharge]
      exact following.append calmAfter
  | callOnActivate following =>
      obtain ⟨landed, rfl⟩ | ⟨result, rfl⟩ := exec_modeExecutor (by simp) executed
      · rw [wasActive, wasInCharge]
        exact .callOnActivate following
      · change Follows executor.isActive true _
        rw [wasActive]
        exact .onActivate following
  | callOnDeactivate reason following =>
      obtain ⟨landed, rfl⟩ | ⟨result, rfl⟩ := exec_modeExecutor (by simp) executed
      · rw [wasActive, wasInCharge]
        exact .callOnDeactivate reason following
      · change Follows executor.isActive executor.modeExecutor.isInCharge _
        rw [wasActive, wasInCharge]
        exact .other rfl (.other rfl (.leaveCharge reason following))
  | leaveCharge reason following =>
      obtain ⟨landed, rfl⟩ | ⟨result, rfl⟩ := exec_modeExecutor (by simp) executed
      · rw [wasActive, wasInCharge]
        exact .leaveCharge reason following
      · change Follows executor.isActive false _
        rw [wasActive]
        exact .onDeactivate reason following
  | reactivate msg changedToArmed gotActivated following =>
      obtain ⟨landed, rfl⟩ | ⟨result, rfl⟩ := exec_modeExecutor (by simp) executed
      · rw [wasActive, wasInCharge]
        exact .reactivate msg changedToArmed gotActivated following
      · simp only [applyModeExecutor, ModeExecutorBase.resume]
        split
        · rename_i switches
          have inCharge : executor.modeExecutor.isInCharge = true := by
            simp only [ModeExecutorBase.switchedToOwnedMode, Bool.and_eq_true] at switches
            exact switches.2.1.1.1.1.1
          rw [inCharge] at wasInCharge
          subst wasInCharge
          rw [wasActive, inCharge]
          exact .callOnDeactivate _ (.callOnActivate (.other rfl following))
        · rw [wasActive, wasInCharge]
          exact .other rfl following
  | onActivate following =>
      have does := exec_does executed
      obtain ⟨landed, rfl, rfl⟩ | ⟨rfl, rfl⟩ := exec_hook executed
      · rw [wasActive, wasInCharge]
        exact .onActivate following
      · obtain ⟨_, _, same, plain, _⟩ | sameCharge := does.isInCharge
        · cases same
          exact absurd rfl (plain _)
        · rw [sameCharge, wasInCharge]
          have nowActive : (executor.modeExecutorHook config .onActivate).1.isActive = true :=
            onActivate_isActive
          rw [nowActive]
          exact following.append fun other member =>
            changesCharge_of_isStatus (inner_onActivate.kinds other member).1
  | onDeactivate reason following =>
      have does := exec_does executed
      obtain ⟨landed, rfl, rfl⟩ | ⟨rfl, rfl⟩ := exec_hook executed
      · rw [wasActive, wasInCharge]
        exact .onDeactivate reason following
      · obtain ⟨_, _, same, plain, _⟩ | sameCharge := does.isInCharge
        · cases same
          exact absurd rfl (plain _)
        · rw [sameCharge, wasInCharge]
          have inactive :
              (executor.modeExecutorHook config (.onDeactivate reason)).1.isActive = false :=
            onDeactivate_isActive
          rw [inactive]
          exact following.append fun other member =>
            changesCharge_of_isStatus (inner_onDeactivate.kinds other member).1

theorem inStep_next {before next : Config} {input : Input} (inStep : InStep before)
    (stepped : (machine config).step before input = some next) : InStep next := by
  rcases before with ⟨executor, agenda⟩
  obtain ⟨empty, state, tasks, taken, rfl⟩ | ⟨task, rest, state, tasks, agenda', executed, rfl⟩ :=
    Lib.Machine.step_cases stepped
  · obtain rfl : agenda = [] := empty
    unfold InStep at inStep ⊢
    generalize wasActive : executor.isActive = active at inStep
    generalize wasInCharge : executor.modeExecutor.isInCharge = charge at inStep
    cases inStep
    obtain routine | ⟨msg, _, same⟩ := idle_cases taken
    · rw [routine.state.isActive, routine.state.isInCharge]
      simp only [wasActive, wasInCharge]
      rw [← List.append_nil tasks]
      exact (Follows.done active).append fun other member =>
        changesCharge_of_isStatus (plain_of_isRoutine (routine.tasks other member)).status
    · cases same
      have follows := follows_vehicleStatus msg executor.modeExecutor
      rw [wasInCharge, ← wasActive] at follows
      exact follows
  · obtain rfl : agenda = task :: rest := agenda'
    exact follows_exec inStep executed

/-- An activation hook runs for an inactive executor. -/
theorem InStep.hook {reached : Config} {rest : List Task} (inStep : InStep reached)
    (agenda : reached.agenda = .modeExecutor (.hook .onActivate) :: rest) :
    reached.state.isActive = false := by
  unfold InStep at inStep
  rw [agenda] at inStep
  generalize wasActive : reached.state.isActive = active at inStep
  generalize reached.state.modeExecutor.isInCharge = charge at inStep
  cases inStep with
  | onActivate => rfl
  | other calm => cases calm

end Px4Ros2.MissionExecutor
