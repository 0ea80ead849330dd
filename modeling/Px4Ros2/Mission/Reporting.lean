import Px4Ros2.Mission.AsyncFunctionCalls
import Px4Ros2.Mission.MissionEffects

/-! The reports of the mission executor: what a step adds to the queue of `_reporting`, and which
calls of `setCurrentMissionIndex` there are. -/

set_option autoImplicit false

namespace Px4Ros2.MissionExecutor

/-- Reports that `setCurrentMissionIndex` makes. -/
def Report.ofIndex : Report → Bool
  | .progressUpdate _ | .completed => true
  | .readynessUpdate _ => false

/-- The tasks of a firing of the reporting timer. -/
def Task.isReporting : Task → Bool
  | .runReports | .popReport | .enter (.report _) => true
  | _ => false

variable (executor : MissionExecutor) (config : Configuration)

/-- The report of `setCurrentMissionIndex(index)`. -/
def indexReport (index : Int) : Option Report :=
  if index ≥ executor.mission.items.length then
    if executor.callbacks.onCompleted then some .completed else none
  else if executor.callbacks.onProgressUpdate then some (.progressUpdate index)
  else none

/-- The index that the onResume action sets to skip a landing. -/
def skipIndex (arguments : ActionArguments) : Option Int :=
  let index := executor.state.currentIndex.getD 0
  let next := if index + 1 ≥ executor.mission.items.length then 0 else index + 1
  if arguments.at? Json.getString "action" = some "resume" ∧ index ≠ 0 ∧
      executor.landed = true ∧ executor.currentActionSupportsResumeFromLanded config = false ∧
      executor.skipsWhenLanded index = true ∧ executor.mission.indexValid next = true then
    some next
  else none

/-- The index of the call of `setCurrentMissionIndex` that a step makes. -/
def indexSet (task : Task) (input : Input) : Option Int :=
  match task, input with
  | .modeExecutor (.hook .onActivate), .proceed =>
      if executor.isReady then some (executor.state.currentIndex.getD 0) else none
  | .runNextMissionItem, .proceed =>
      some (match executor.state.currentIndex with
        | some index => index + 1
        | none => 0)
  | .callIndex (.segment handler _) index, .proceed =>
      if executor.isValid handler then some (index + 1) else none
  | .user _, .op (.handler _ (.setCurrentMissionIndex index)) =>
      if executor.mission.indexValid index then some index else none
  | .run name _ arguments _, .proceed =>
      match config.findAction name with
      | some .onResume => executor.skipIndex config arguments
      | _ => none
  | _, _ => none

/-- The report whose callback a step calls. -/
def Task.calledReport : Task → Input → Option Report
  | .enter (.report report), .proceed => some report
  | _, _ => none

structure ReportHistory where
  /-- The calls of `setCurrentMissionIndex`, each with the report it queues. -/
  indexCalls : List (Int × Option Report) := []
  /-- The reports whose callbacks were called. -/
  called : List Report := []

def reportRecorder (config : Configuration) :
    Lib.Recorder MissionExecutor Task Input ReportHistory where
  event history _ _ := history
  task history executor task input :=
    { indexCalls := history.indexCalls ++
        ((executor.indexSet config task input).map fun index =>
          (index, executor.indexReport index)).toList
      called := history.called ++ (task.calledReport input).toList }

/-- A step appends to the queue. -/
structure Queues (executor : MissionExecutor) (after : MissionExecutor × List Task)
    (reports : List Report) : Prop where
  reporting : after.1.reporting = executor.reporting ++ reports
  timer : after.1.reportingTimer = (executor.reportingTimer || !reports.isEmpty)
  tasks : ∀ task ∈ after.2, task.isReporting = false

variable {executor config} {after : MissionExecutor × List Task} {task : Task} {input : Input}

theorem Queues.nothing {next : MissionExecutor} {tasks : List Task}
    (reporting : next.reporting = executor.reporting)
    (timer : next.reportingTimer = executor.reportingTimer)
    (none : ∀ task ∈ tasks, task.isReporting = false) : Queues executor (next, tasks) [] :=
  ⟨by simp [reporting], by simp [timer], none⟩

theorem Queues.of_tasks {tasks : List Task} (none : ∀ task ∈ tasks, task.isReporting = false) :
    Queues executor (executor, tasks) [] :=
  .nothing rfl rfl none

theorem Queues.append {reports : List Report} (queues : Queues executor after reports)
    {tasks : List Task} (none : ∀ task ∈ tasks, task.isReporting = false) :
    Queues executor (after.1, after.2 ++ tasks) reports := by
  refine ⟨queues.reporting, queues.timer, fun task member => ?_⟩
  cases List.mem_append.mp member with
  | inl first => exact queues.tasks task first
  | inr second => exact none task second

/-- What happens before does not touch the queue. -/
theorem Queues.congr {before : MissionExecutor} {reports : List Report}
    (queues : Queues before after reports) (reporting : before.reporting = executor.reporting)
    (timer : before.reportingTimer = executor.reportingTimer) : Queues executor after reports :=
  ⟨by rw [queues.reporting, reporting], by rw [queues.timer, timer], queues.tasks⟩

theorem queues_applyModeExecutor
    (done : ModeExecutorBase ModeCallback × List (ModeExecutorBase.Task ModeCallback)) :
    Queues executor (executor.applyModeExecutor done) [] := by
  refine .nothing rfl rfl fun task member => ?_
  obtain ⟨other, _, rfl⟩ := List.mem_map.mp member
  rfl

theorem queues_clearActivityInfo : ∀ task ∈ executor.clearActivityInfo,
    task.isReporting = false := by
  unfold clearActivityInfo setActivityInfo
  split
  · split <;> simp [Task.isReporting]
  · simp

theorem queues_deactivateAllActions : ∀ task ∈ deactivateAllActions config,
    task.isReporting = false := by
  intro task member
  obtain ⟨entry, _, rfl⟩ := List.mem_map.mp member
  rfl

theorem queues_runMode (modeId : ModeID) (onCompleted : Closure) (onFailure : Option Closure) :
    Queues executor (executor.runMode modeId onCompleted onFailure) [] := by
  unfold runMode
  split
  · exact .of_tasks (by simp)
  · exact (queues_applyModeExecutor _).congr rfl rfl

theorem queues_runModeTakeoff (altitude heading : Param) (onCompleted : Closure)
    (onFailure : Option Closure) :
    Queues executor (executor.runModeTakeoff altitude heading onCompleted onFailure) [] := by
  unfold runModeTakeoff
  split
  · exact .of_tasks (by simp)
  · exact (queues_applyModeExecutor _).congr rfl rfl

theorem queues_modeFinished (callback : ModeCallback) (result : Result) :
    Queues executor (executor.modeFinished callback result) [] := by
  unfold modeFinished
  split
  · exact .of_tasks (by simp [Task.isReporting])
  · split
    · refine .nothing rfl rfl ?_
      split <;> simp [Task.isReporting]
    · exact .of_tasks (by simp)

theorem queues_runAction (name : String) (arguments : ActionArguments) (onCompleted : Closure) :
    Queues executor (executor.runAction config name arguments onCompleted) [] := by
  unfold runAction
  split
  · exact .of_tasks (by simp)
  · refine .nothing rfl rfl ?_
    split <;> simp [Task.isReporting]

theorem queues_runTrajectory (trajectory : Mission) (startIndex endIndex : Int)
    (onIndexReached : IndexClosure) (stopAtLast : Bool) :
    Queues executor (executor.runTrajectory config trajectory startIndex endIndex onIndexReached
      stopAtLast) [] := by
  unfold runTrajectory
  split
  · exact .of_tasks (by simp)
  · dsimp only
    split <;> exact .nothing rfl rfl (by simp [Task.isReporting])

theorem queues_runCustomTrajectory (trajectory : Mission) (onCompleted : Closure)
    (stopAtLast : Bool) :
    Queues executor (executor.runCustomTrajectory config trajectory onCompleted stopAtLast) [] := by
  unfold runCustomTrajectory
  split
  · exact .of_tasks (by simp [Task.isReporting])
  · split
    · exact queues_runTrajectory _ _ _ _ _
    · exact .of_tasks (by simp [Task.isReporting])

theorem reportIndex_queue (index : Int) :
    (executor.reportIndex index).reporting =
        executor.reporting ++ (executor.indexReport index).toList ∧
      (executor.reportIndex index).reportingTimer =
        (executor.reportingTimer || !(executor.indexReport index).toList.isEmpty) := by
  unfold reportIndex indexReport
  split <;> split <;> simp [callAsync]

/-- The one function that makes reports of the index. -/
theorem queues_setCurrentMissionIndex (index : Int) :
    Queues executor (executor.setCurrentMissionIndex index)
      (executor.indexReport index).toList := by
  obtain ⟨reporting, timer⟩ :=
    (executor.setState { executor.state with currentIndex := some index }).reportIndex_queue index
  exact ⟨reporting, timer, queues_clearActivityInfo⟩

/-- A readiness report, or none. -/
theorem queues_checkReadynessAndReport (canRun : CanRun) (tasks : List Task)
    (none : ∀ task ∈ tasks, task.isReporting = false) :
    ∃ reports, Queues executor (executor.checkReadynessAndReport config canRun, tasks) reports ∧
      reports.filter Report.ofIndex = [] := by
  unfold checkReadynessAndReport
  split
  · exact ⟨[], .nothing rfl rfl none, rfl⟩
  · dsimp only
    split
    · exact ⟨[_], ⟨rfl, by simp [callAsync], none⟩, by simp [Report.ofIndex]⟩
    · exact ⟨[], .nothing rfl rfl none, rfl⟩

/-- Of all that a handler can do only the override of the index makes a report. -/
theorem queues_handlerOp (handler : HandlerId) {op : HandlerOp}
    (keeps : ∀ index, op ≠ .setCurrentMissionIndex index) :
    Queues executor (executor.handlerOp config handler op) [] := by
  unfold handlerOp
  split
  · exact .of_tasks (by simp)
  · cases op with
    | runMode => exact queues_runMode _ _ _
    | runModeTakeoff => exact queues_runModeTakeoff _ _ _ _
    | runAction => exact queues_runAction _ _ _
    | runTrajectory => exact queues_runCustomTrajectory _ _ _
    | setActivityInfo | clearActivityInfo =>
        refine .of_tasks ?_
        simp only [setActivityInfo]
        split <;> simp [Task.isReporting]
    | setCurrentMissionIndex index => exact absurd rfl (keeps index)
    | deferFailsafes =>
        refine .nothing rfl rfl ?_
        split <;> simp [Task.isReporting]
    | clearTrajectoryOptions | setTrajectoryOptions | storeState | controlAutoSetHome
    | onFailsafeDeferred => exact .nothing rfl rfl (by simp)

theorem queues_setIndexOp (handler : HandlerId) (index : Int) :
    Queues executor (executor.handlerOp config handler (.setCurrentMissionIndex index))
      ((if executor.mission.indexValid index then some index else none).bind
        executor.indexReport).toList := by
  simp only [handlerOp, HandlerOp.checksValid, Bool.false_and, Bool.false_eq_true, if_false,
    handlerCall]
  split
  · exact queues_setCurrentMissionIndex index
  · exact .of_tasks (by simp)

theorem queues_runCurrentMissionItem (resuming : Bool) :
    Queues executor (executor.runCurrentMissionItem config resuming) [] := by
  unfold runCurrentMissionItem
  split
  · exact queues_runMode _ _ _
  · split
    · split
      · exact .of_tasks (by simp)
      · exact queues_runMode _ _ _
    · unfold runMissionItem
      split
      · exact queues_runTrajectory _ _ _ _ _
      · split
        · exact .nothing rfl rfl (by simp)
        · exact (queues_runAction _ _ _).congr rfl rfl

theorem queues_startMission (startFromBeginning : Bool) :
    Queues executor (executor.startMission config startFromBeginning) [] := by
  unfold startMission
  split
  · exact .nothing rfl rfl (by simp [Task.isReporting])
  · have cleared : executor.getOnResumeStateAndClear.1.reporting = executor.reporting ∧
        executor.getOnResumeStateAndClear.1.reportingTimer = executor.reportingTimer := by
      unfold getOnResumeStateAndClear
      split <;> exact ⟨rfl, rfl⟩
    dsimp only
    split
    · exact .nothing cleared.1 cleared.2 (by simp)
    · exact (queues_runAction _ _ _).congr cleared.1 cleared.2

theorem queues_resumed (handler : HandlerId) (previousIndex : Option Int) :
    Queues executor (executor.resumed handler previousIndex) [] := by
  unfold resumed
  split
  · split <;> exact .nothing rfl rfl (by simp [Task.isReporting])
  · exact .of_tasks (by simp)

theorem queues_onDeactivate : Queues executor (executor.onDeactivate config) [] := by
  unfold onDeactivate
  split
  · have cleared : ∀ before : MissionExecutor,
        (before.clearPersistentState config).reporting = before.reporting ∧
          (before.clearPersistentState config).reportingTimer = before.reportingTimer := by
      intro before
      unfold clearPersistentState
      split <;> exact ⟨rfl, rfl⟩
    exact .nothing (cleared _).1 (cleared _).2 (by simp [Task.isReporting])
  · refine .nothing rfl rfl ?_
    unfold runOnResumeStoreState
    split <;> simp [Task.isReporting]

theorem queues_onActivate : Queues executor executor.onActivate
    ((if executor.isReady then some (executor.state.currentIndex.getD 0) else none).bind
      executor.indexReport).toList := by
  unfold onActivate
  cases ready : executor.isReady with
  | false => exact .nothing rfl rfl (by simp [Task.isReporting])
  | true =>
      have queued := @queues_setCurrentMissionIndex executor.activated
        (executor.state.currentIndex.getD 0)
      exact (queued.append (by simp [Task.isReporting])).congr rfl rfl

theorem queues_switchToTrajectory : Queues executor executor.switchToTrajectory [] := by
  unfold switchToTrajectory
  split
  · exact (queues_runMode _ _ _).append (by simp [Task.isReporting])
  · exact .of_tasks (by simp [Task.isReporting])

theorem queues_updateSetpoint : Queues executor (executor.updateSetpoint config) [] := by
  unfold updateSetpoint
  split
  · exact .of_tasks (by simp)
  · split <;> exact .of_tasks (by simp [Task.isReporting])

theorem queues_updateWaypoint (positionValid positionReached : Bool) :
    Queues executor (executor.updateWaypoint positionValid positionReached) [] := by
  have continued : ∀ (trajectory : TrajectoryConfig) (index : Int),
      Queues executor (executor.continueNextItem trajectory index) [] :=
    fun _ _ => .nothing rfl rfl (by simp [Task.isReporting])
  unfold updateWaypoint
  repeat' split
  all_goals first | exact continued _ _ | exact .of_tasks (by simp [Task.isReporting])

theorem queues_abortRunOnFailure (reason : AbortReason) :
    Queues executor (executor.abortRunOnFailure config reason) [] := by
  unfold abortRunOnFailure
  dsimp only
  split
  · exact .nothing rfl rfl (by simp [Task.isReporting])
  · refine Queues.append ?_ (by simp [Task.isReporting])
    exact (queues_runAction _ _ _).congr rfl rfl

theorem queues_abortDeactivate (reason : AbortReason) :
    Queues executor (executor, executor.abortDeactivate config reason) [] := by
  refine .of_tasks fun task member => ?_
  unfold abortDeactivate at member
  split at member
  · cases member
  · cases List.mem_append.mp member with
    | inl action => exact queues_deactivateAllActions task action
    | inr last =>
        rw [List.mem_singleton.mp last]
        rfl

theorem queues_runStoredActions (actions : List ActionState) :
    Queues executor (executor, executor.runStoredActions config actions) [] := by
  refine .of_tasks ?_
  cases actions with
  | nil => simp [runStoredActions]
  | cons action rest =>
      simp only [runStoredActions]
      split
      · simp [Task.isReporting]
      · split <;> simp [Task.isReporting]

theorem queues_setChangeSettingsState (keeper : Option ActionID) :
    Queues executor (executor.setChangeSettingsState keeper) [] := by
  refine .nothing rfl rfl fun task member => ?_
  obtain ⟨id, _, rfl⟩ := List.mem_map.mp member
  rfl

theorem queues_runChangeSettings (handler : HandlerId) (arguments : ActionArguments)
    (onCompleted : Closure) :
    Queues executor (executor.runChangeSettings config handler arguments onCompleted) [] := by
  have changed : ∀ op : HandlerOp, (∀ index, op ≠ .setCurrentMissionIndex index) →
      (executor.handlerOp config handler op).1.reporting = executor.reporting ∧
        (executor.handlerOp config handler op).1.reportingTimer = executor.reportingTimer := by
    intro op keeps
    have queues := @queues_handlerOp executor config handler op keeps
    exact ⟨by simpa using queues.reporting, by simpa using queues.timer⟩
  unfold runChangeSettings
  split
  · exact .nothing rfl rfl (by simp)
  · obtain ⟨reporting, timer⟩ := changed .clearTrajectoryOptions nofun
    exact ((queues_setChangeSettingsState _).congr reporting timer).append
      (by simp [Task.isReporting])
  · split
    · exact .nothing rfl rfl (by simp)
    · rename_i options _
      split
      · exact .nothing rfl rfl (by simp)
      · obtain ⟨reporting, timer⟩ := changed (.setTrajectoryOptions options) nofun
        refine Queues.append (Queues.congr ?_ reporting timer) (by simp [Task.isReporting])
        unfold storeSettings
        split
        · exact (queues_setChangeSettingsState _).congr rfl rfl
        · exact queues_setChangeSettingsState _

theorem queues_resumeFromUnexpectedLanding (handler : HandlerId) (onCompleted : Closure)
    (index : Int) :
    Queues executor (executor.resumeFromUnexpectedLanding config handler onCompleted index)
      ((if executor.skipsWhenLanded index = true ∧ executor.mission.indexValid
          (if index + 1 ≥ executor.mission.items.length then 0 else index + 1) = true then
        some (if index + 1 ≥ executor.mission.items.length then 0 else index + 1)
      else none).bind executor.indexReport).toList := by
  unfold resumeFromUnexpectedLanding
  cases skips : executor.skipsWhenLanded index with
  | true =>
      have queued := @queues_setIndexOp executor config handler
        (if index + 1 ≥ executor.mission.items.length then 0 else index + 1)
      have calls : ∀ task ∈ [Task.call onCompleted], task.isReporting = false := by
        simp [Task.isReporting]
      simpa using queued.append calls
  | false =>
      simp only [Bool.false_eq_true, if_false, false_and, Option.bind_none, Option.toList_none]
      split
      · exact queues_handlerOp _ (by simp)
      · exact .of_tasks (by simp [Task.isReporting])

theorem queues_runOnResume (handler : HandlerId) (arguments : ActionArguments)
    (onCompleted : Closure) :
    Queues executor (executor.runOnResume config handler arguments onCompleted)
      ((executor.skipIndex config arguments).bind executor.indexReport).toList := by
  have completes : ∀ reports : List Report, reports = [] →
      Queues executor (executor, [.call onCompleted]) reports := by
    rintro reports rfl
    exact .of_tasks (by simp [Task.isReporting])
  unfold runOnResume skipIndex
  split
  · rename_i absent
    simp only [absent, reduceCtorEq, false_and, if_false]
    exact .nothing rfl rfl (by simp)
  · rename_i action found
    split
    · rename_i other
      simp only [found, Option.some.injEq, other, false_and, if_false]
      exact .of_tasks (by simp)
    · rename_i resume
      have resume : action = "resume" := Decidable.not_not.mp resume
      dsimp only
      split
      · rename_i first
        exact completes _ (by simp [first])
      · rename_i notFirst
        split
        · rename_i landed
          simp only [Bool.and_eq_true, Bool.not_eq_eq_eq_not, Bool.not_true] at landed
          simpa [found, resume, notFirst, landed] using
            @queues_resumeFromUnexpectedLanding executor config handler onCompleted
              (executor.state.currentIndex.getD 0)
        · rename_i stays
          refine completes _ ?_
          rw [if_neg]
          · rfl
          · intro ⟨_, _, landed, unsupported, _⟩
            simp [landed, unsupported] at stays

/-! ### Every step -/

/-- A step adds the report of the index it sets, and perhaps readiness reports. -/
def QueuesIndex (config : Configuration) (executor : MissionExecutor) (task : Task) (input : Input)
    (after : MissionExecutor × List Task) : Prop :=
  ∃ reports, Queues executor after reports ∧
    reports.filter Report.ofIndex =
      ((executor.indexSet config task input).bind executor.indexReport).toList

theorem QueuesIndex.of_nothing (queues : Queues executor after [])
    (unset : executor.indexSet config task input = none) :
    QueuesIndex config executor task input after :=
  ⟨[], queues, by simp [unset]⟩

theorem ofIndex_indexReport (index : Option Int) :
    (index.bind executor.indexReport).toList.filter Report.ofIndex =
      (index.bind executor.indexReport).toList := by
  refine List.filter_eq_self.mpr fun report member => ?_
  cases index with
  | none => simp at member
  | some index =>
      simp only [Option.bind_some, indexReport] at member
      split at member <;> split at member <;> simp at member <;> subst member <;> rfl

theorem QueuesIndex.of_index (index : Option Int)
    (queues : Queues executor after (index.bind executor.indexReport).toList)
    (isSet : executor.indexSet config task input = index) :
    QueuesIndex config executor task input after :=
  ⟨_, queues, by rw [isSet, ofIndex_indexReport]⟩

theorem run_queuesIndex (name : String) (handler : HandlerId) (arguments : ActionArguments)
    (onCompleted : Closure) :
    QueuesIndex config executor (.run name handler arguments onCompleted) .proceed
      (executor.run config name handler arguments onCompleted) := by
  have unset : ∀ after, Queues executor after [] → config.findAction name ≠ some .onResume →
      QueuesIndex config executor (.run name handler arguments onCompleted) .proceed after := by
    intro after queues other
    refine .of_nothing queues ?_
    cases found : config.findAction name with
    | none => simp [indexSet, found]
    | some action =>
        cases action with
        | onResume => exact absurd found other
        | _ => simp [indexSet, found]
  unfold run
  split
  · rename_i found
    exact unset _ (.of_tasks (by simp)) (by simp [found])
  · rename_i found
    exact unset _ (queues_handlerOp _ (by simp)) (by simp [found])
  · rename_i found
    exact unset _ (queues_handlerOp _ (by simp)) (by simp [found])
  · rename_i found
    refine unset _ ?_ (by simp [found])
    split
    · exact .nothing rfl rfl (by simp)
    · exact queues_handlerOp _ (by simp)
  · rename_i found
    refine unset _ ?_ (by simp [found])
    split
    · exact .nothing rfl rfl (by simp)
    · exact (queues_handlerOp _ (by simp)).append (by simp [Task.isReporting])
  · rename_i found
    exact .of_index _ (queues_runOnResume _ _ _) (by simp only [indexSet, found])
  · rename_i found
    exact unset _ (queues_handlerOp _ (by simp)) (by simp [found])
  · rename_i found
    exact unset _ (queues_runChangeSettings _ _ _) (by simp [found])
  · rename_i found
    exact unset _ (.of_tasks (by simp [Task.isReporting])) (by simp [found])

theorem call_queues (closure : Closure) : Queues executor (executor.call config closure) [] := by
  cases closure with
  | noop => exact .of_tasks (by simp)
  | nextItem handler start =>
      refine .of_tasks ?_
      split <;> simp [Task.isReporting]
  | resumed handler previousIndex => exact queues_resumed _ _
  | navigateToPreviousWaypoint handler onCompleted index =>
      simp only [call, navigateToPreviousWaypoint]
      split
      · exact queues_handlerOp _ (by simp)
      · exact .of_tasks (by simp [Task.isReporting])
  | descend handler onCompleted => exact queues_handlerOp _ (by simp)
  | trajectoryFailure | user => exact .of_tasks (by simp [Task.isReporting])

theorem callIndex_queuesIndex (closure : IndexClosure) (index : Int) :
    QueuesIndex config executor (.callIndex closure index) .proceed
      (executor.callIndex index closure) := by
  cases closure with
  | segment handler endIndex =>
      simp only [callIndex, segmentReached]
      split
      · rename_i valid
        have queued := @queues_setCurrentMissionIndex executor (index + 1)
        have goesOn : ∀ task ∈ (if index = endIndex then [Task.runCurrentMissionItem false] else []),
            task.isReporting = false := by
          split <;> simp [Task.isReporting]
        exact .of_index (some (index + 1)) (queued.append goesOn)
          (by simp [indexSet, valid])
      · rename_i invalid
        exact .of_nothing (.of_tasks (by simp)) (by simp [indexSet, invalid])
  | customTrajectory onCompleted endIndex =>
      refine .of_nothing (.of_tasks ?_) rfl
      split <;> simp [Task.isReporting]

theorem deactivateAction_queues (name : String) :
    Queues executor (executor.deactivateAction config name) [] := by
  unfold deactivateAction
  split
  · exact .nothing rfl rfl (by simp)
  · exact queues_setChangeSettingsState _
  · exact .of_tasks (by simp [Task.isReporting])
  · exact .of_tasks (by simp)

theorem enter_queues (entry : Entry) : Queues executor (executor.enter entry) [] := by
  cases entry <;> exact .nothing rfl rfl (by simp [Task.isReporting])

theorem removeContinousAction_queue (id : ActionID) :
    (executor.removeContinousAction id).reporting = executor.reporting ∧
      (executor.removeContinousAction id).reportingTimer = executor.reportingTimer := by
  unfold removeContinousAction
  split
  · exact ⟨rfl, rfl⟩
  · split <;> exact ⟨rfl, rfl⟩

theorem savePersistentState_queue :
    (executor.savePersistentState config).reporting = executor.reporting ∧
      (executor.savePersistentState config).reportingTimer = executor.reportingTimer := by
  obtain ⟨file, same⟩ : ∃ file, executor.savePersistentState config =
      { executor with persistenceFile := file } := by
    unfold savePersistentState clearPersistentState
    repeat' split
    all_goals exact ⟨_, rfl⟩
  rw [same]
  exact ⟨rfl, rfl⟩

theorem internal_queuesIndex (inner : ∀ other, task ≠ .modeExecutor other)
    (plain : task.isReporting = false) :
    QueuesIndex config executor task .proceed (executor.internal config task) := by
  cases task with
  | modeExecutor task => exact absurd rfl (inner task)
  | enter entry => exact .of_nothing (enter_queues entry) rfl
  | call closure => exact .of_nothing (call_queues closure) rfl
  | callIndex closure index => exact callIndex_queuesIndex closure index
  | run name handler arguments onCompleted => exact run_queuesIndex _ _ _ _
  | onActivateRun startFromBeginning =>
      refine .of_nothing ?_ rfl
      simp only [internal, onActivateRun]
      split
      · exact .of_tasks (by simp [Task.isReporting])
      · exact queues_startMission _
  | onActivatedReturned previous startFromBeginning =>
      refine .of_nothing ?_ rfl
      simp only [internal, onActivatedReturned]
      split
      · exact queues_startMission _
      · exact .of_tasks (by simp)
  | runStoredActions actions => exact .of_nothing (queues_runStoredActions _) rfl
  | runNextMissionItem =>
      have queued := @queues_setCurrentMissionIndex executor
        (match executor.state.currentIndex with
          | some index => index + 1
          | none => 0)
      exact .of_index (some _) (queued.append (by simp [Task.isReporting])) rfl
  | runCurrentMissionItem => exact .of_nothing (queues_runCurrentMissionItem _) rfl
  | switchToTrajectory => exact .of_nothing queues_switchToTrajectory rfl
  | savePersistentState =>
      exact .of_nothing (.nothing savePersistentState_queue.1 savePersistentState_queue.2
        (by simp)) rfl
  | finishDeactivate =>
      refine .of_nothing (.of_tasks fun task member => ?_) rfl
      rcases List.mem_append.mp member with first | last
      · rcases List.mem_append.mp first with info | action
        · exact queues_clearActivityInfo task info
        · exact queues_deactivateAllActions task action
      · rw [List.mem_singleton.mp last]
        rfl
  | notifyDeactivated =>
      refine .of_nothing (.of_tasks ?_) rfl
      simp only [notifyDeactivated]
      split <;> simp [Task.isReporting]
  | deactivateAction name => exact .of_nothing (deactivateAction_queues name) rfl
  | releaseKeeper id =>
      exact .of_nothing (.nothing (removeContinousAction_queue id).1
        (removeContinousAction_queue id).2 (by simp)) rfl
  | abort reason =>
      refine .of_nothing (Queues.nothing rfl rfl fun task member => ?_) rfl
      cases List.mem_append.mp member with
      | inl info => exact queues_clearActivityInfo task info
      | inr last =>
          rw [List.mem_singleton.mp last]
          rfl
  | abortDeactivate reason => exact .of_nothing (queues_abortDeactivate _) rfl
  | abortRunOnFailure reason => exact .of_nothing (queues_abortRunOnFailure _) rfl
  | runReports | popReport => cases plain
  | setTrajectoryState | startHoldTimer | abortEnd | user | updateWaypoint | deferWait =>
      exact .of_nothing (.nothing rfl rfl (by simp)) rfl

/-- A readiness report may be queued. -/
theorem checkReadyness_queuesIndex {before : MissionExecutor} (canRun : CanRun) {tasks : List Task}
    (none : ∀ task ∈ tasks, task.isReporting = false)
    (reporting : before.reporting = executor.reporting)
    (timer : before.reportingTimer = executor.reportingTimer)
    (unset : executor.indexSet config task input = .none) :
    QueuesIndex config executor task input
      (before.checkReadynessAndReport config canRun, tasks) := by
  obtain ⟨reports, queues, readiness⟩ :=
    @queues_checkReadynessAndReport before config canRun tasks none
  exact ⟨reports, queues.congr reporting timer, by simp [readiness, unset]⟩

theorem setMission_queuesIndex {inRun : Bool} (mission : Mission) (canRun : CanRun) :
    QueuesIndex config executor (.user inRun) (.op (.setMission mission canRun))
      (executor.setMission config canRun mission, [.user inRun]) := by
  have user : ∀ task ∈ [Task.user inRun], task.isReporting = false := by simp [Task.isReporting]
  unfold setMission
  split
  · exact .of_nothing (.of_tasks user) rfl
  · dsimp only
    obtain ⟨reports, queues, readiness⟩ := @checkReadyness_queuesIndex executor config
      (.user inRun) (.op (.setMission mission canRun))
      { executor with
        mission
        missionErrors := missionErrorsOf config mission
        hasValidMission := (missionErrorsOf config mission).isEmpty
        state := { executor.state with missionChecksum := mission.checksum config.hash } }
      canRun [.user inRun] user rfl rfl rfl
    split
    · exact ⟨reports, ⟨queues.reporting, queues.timer, user⟩, readiness⟩
    · exact ⟨reports, ⟨queues.reporting, queues.timer, user⟩, readiness⟩

theorem userOp_queuesIndex {inRun : Bool} {op : UserOp}
    (requested : executor.userOp config op = some after) :
    QueuesIndex config executor (.user inRun) (.op op) (after.1, after.2 ++ [.user inRun]) := by
  have user : ∀ task ∈ [Task.user inRun], task.isReporting = false := by simp [Task.isReporting]
  cases op with
  | handler reference op =>
      simp only [userOp] at requested
      split at requested
      · obtain ⟨denoted, resolved, rfl⟩ := Option.map_eq_some_iff.mp requested
        cases op with
        | setCurrentMissionIndex index =>
            exact .of_index _ ((queues_setIndexOp denoted index).append user) rfl
        | _ => exact .of_nothing ((queues_handlerOp _ (by simp)).append user) rfl
      · cases requested
  | call closure =>
      simp only [userOp] at requested
      split at requested
      · cases requested
        exact .of_nothing (.of_tasks (by simp [Task.isReporting])) rfl
      · cases requested
  | callIndex closure index =>
      simp only [userOp] at requested
      split at requested
      · cases requested
        exact .of_nothing (.of_tasks (by simp [Task.isReporting])) rfl
      · cases requested
  | releaseKeeper id =>
      simp only [userOp] at requested
      split at requested
      · cases requested
        obtain ⟨reporting, timer⟩ := @removeContinousAction_queue
          { executor with userKeepers := executor.userKeepers.erase id } id
        exact .of_nothing (.nothing reporting timer user) rfl
      · cases requested
  | abort =>
      cases requested
      refine .of_nothing (.of_tasks ?_) rfl
      unfold requestAbort
      split <;> simp [Task.isReporting]
  | setMission mission canRun =>
      cases requested
      exact setMission_queuesIndex mission canRun
  | resetMission =>
      cases requested
      refine .of_nothing ?_ rfl
      unfold resetMission
      split
      · exact .of_tasks user
      · exact .nothing rfl rfl user
  | deferFailsafes enabled timeoutS =>
      cases requested
      have queues : Queues executor (executor.deferFailsafes enabled timeoutS) [] := by
        refine .nothing rfl rfl ?_
        split <;> simp [Task.isReporting]
      exact .of_nothing (queues.append user) rfl
  | controlAutoSetHome =>
      cases requested
      exact .of_nothing (.nothing rfl rfl user) rfl
  | setActivityInfo info =>
      cases requested
      refine .of_nothing (.of_tasks ?_) rfl
      unfold setActivityInfo
      split <;> simp [Task.isReporting]
  | setCallback callback isSet canRun =>
      cases requested
      cases callback with
      | onReadynessUpdate => exact checkReadyness_queuesIndex canRun user rfl rfl rfl
      | _ => exact .of_nothing (.nothing rfl rfl user) rfl

theorem modeExecutorHook_queuesIndex (hook : ModeExecutorBase.Hook ModeCallback) :
    QueuesIndex config executor (.modeExecutor (.hook hook)) .proceed
      (executor.modeExecutorHook config hook) := by
  cases hook with
  | completed callback result => exact .of_nothing (queues_modeFinished _ _) rfl
  | onActivate => exact .of_index _ queues_onActivate rfl
  | onDeactivate reason => exact .of_nothing queues_onDeactivate rfl
  | onFailsafeDeferred =>
      refine .of_nothing (.of_tasks ?_) rfl
      split <;> simp [Task.isReporting]
  | mode hook =>
      cases hook with
      | updateSetpoint => exact .of_nothing queues_updateSetpoint rfl
      | onActivate | onDeactivate => exact .of_nothing (.of_tasks (by simp)) rfl

theorem exec_queuesIndex (executed : executor.exec config task input = some after)
    (plain : task.isReporting = false) : QueuesIndex config executor task input after := by
  obtain ⟨_, ⟨landed, rfl, rfl⟩ | ⟨task', rfl, resumed⟩ |
    ⟨inRun, op, requested, rfl, rfl, requests, rfl⟩ | ⟨inRun, rfl, rfl, rfl⟩ |
    ⟨valid, reached, rfl, rfl⟩ | ⟨rfl, rfl⟩ | ⟨rfl, inner, rfl⟩⟩ := exec_cases executed
  · refine .of_nothing (.nothing rfl rfl (by simpa using plain)) ?_
    unfold indexSet
    split <;> simp_all
  · obtain ⟨hook, rfl, rfl, rfl⟩ | ⟨result, notHook, rfl⟩ := modeExecutorTask_cases resumed
    · exact modeExecutorHook_queuesIndex hook
    · refine .of_nothing (queues_applyModeExecutor _) ?_
      cases task' with
      | hook hook => exact absurd rfl (notHook hook)
      | _ => rfl
  · exact userOp_queuesIndex requests
  · exact .of_nothing (.nothing rfl rfl (by simp)) rfl
  · exact .of_nothing (queues_updateWaypoint _ _) rfl
  · exact .of_nothing (.of_tasks (by simp)) rfl
  · exact internal_queuesIndex inner plain

/-- An event other than a firing of the reporting timer makes readiness reports at most. -/
theorem idle_queues (taken : executor.idle config input = some after)
    (other : input ≠ .reportingTimer) :
    ∃ reports, Queues executor after reports ∧ reports.filter Report.ofIndex = [] := by
  unfold idle at taken
  split at taken
  · cases taken
  · split at taken
    · cases taken
      exact ⟨[], .nothing rfl rfl (by simp), rfl⟩
    · cases taken
      exact ⟨[], queues_applyModeExecutor _, rfl⟩
    · cases taken
      exact ⟨[], queues_applyModeExecutor _, rfl⟩
    · split at taken
      · cases taken
        exact ⟨[], queues_updateSetpoint, rfl⟩
      · cases taken
    · exact absurd rfl other
    · cases taken
      exact queues_checkReadynessAndReport _ [] (by simp)
    · obtain ⟨onCompleted, _, rfl⟩ := Option.map_eq_some_iff.mp taken
      exact ⟨[], .nothing rfl rfl (by simp [Task.isReporting]), rfl⟩
    · cases taken
      exact ⟨[], .of_tasks (by simp [Task.isReporting]), rfl⟩
    · cases taken

end Px4Ros2.MissionExecutor
