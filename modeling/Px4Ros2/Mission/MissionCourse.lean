import Px4Ros2.Mission.ActivationProperties

/-! The course of the mission: the steps that can set the index, the mission or the activation, or
that leave a task which goes on with the mission. No other step does. -/

set_option autoImplicit false

namespace Px4Ros2.MissionExecutor

/-- Tasks that go on with the mission: with its start, with the next item, or with the current one. -/
@[simp] def Task.drives : Task → Bool
  | .onActivateRun _ | .onActivatedReturned _ _ | .runNextMissionItem
  | .runCurrentMissionItem _ => true
  | _ => false

def Task.steers (config : Configuration) (task : Task) (input : Input) : Bool :=
  match task, input with
  | .modeExecutor (.hook .onActivate), _ | .modeExecutor (.hook (.onDeactivate _)), _ => true
  | .onActivateRun _, _ | .onActivatedReturned _ _, _ | .runNextMissionItem, _
  | .runCurrentMissionItem _, _ | .savePersistentState, _ => true
  | .call (.nextItem _ _), _ | .call (.resumed _ _), _ | .callIndex (.segment _ _) _, _ => true
  | .run name _ _ _, _ =>
      match config.findAction name with
      | some .onResume => true
      | _ => false
  | .user _, .op (.handler _ (.setCurrentMissionIndex _)) => true
  | .user _, .op (.setMission _ _) | .user _, .op .resetMission => true
  | _, _ => false

structure SameCourse (before after : MissionExecutor) : Prop where
  mission : after.mission = before.mission
  currentIndex : after.state.currentIndex = before.state.currentIndex
  isActive : after.isActive = before.isActive
  starts : after.starts = before.starts
  persistenceFile : after.persistenceFile = before.persistenceFile

/-- A step that leaves the course of the mission alone. -/
structure Calm (executor : MissionExecutor) (after : MissionExecutor × List Task) : Prop where
  course : SameCourse executor after.1
  tasks : ∀ task ∈ after.2, task.drives = false

inductive Course (config : Configuration) (executor : MissionExecutor) :
    Task → Input → MissionExecutor × List Task → Prop where
  | again (task : Task) (landed : Bool) :
      Course config executor task (.landDetected landed) ({ executor with landed }, [task])
  | calm {task : Task} {input : Input} {after : MissionExecutor × List Task} :
      task.steers config input = false → Calm executor after →
      Course config executor task input after
  | onActivate :
      Course config executor (.modeExecutor (.hook .onActivate)) .proceed executor.onActivate
  | onDeactivate (reason : DeactivateReason) :
      Course config executor (.modeExecutor (.hook (.onDeactivate reason))) .proceed
        (executor.onDeactivate config)
  | onActivateRun (startFromBeginning : Bool) :
      Course config executor (.onActivateRun startFromBeginning) .proceed
        (executor.onActivateRun config startFromBeginning)
  | onActivatedReturned (previousHandler : HandlerId) (startFromBeginning : Bool) :
      Course config executor (.onActivatedReturned previousHandler startFromBeginning) .proceed
        (executor.onActivatedReturned config previousHandler startFromBeginning)
  | runNextMissionItem :
      Course config executor .runNextMissionItem .proceed executor.runNextMissionItem
  | runCurrentMissionItem (resuming : Bool) :
      Course config executor (.runCurrentMissionItem resuming) .proceed
        (executor.runCurrentMissionItem config resuming)
  | savePersistentState :
      Course config executor .savePersistentState .proceed
        (executor.savePersistentState config, [])
  | nextItem (handler : HandlerId) (start : Nat) :
      Course config executor (.call (.nextItem handler start)) .proceed
        (executor, if executor.isValid handler then [.runNextMissionItem] else [])
  | resumed (handler : HandlerId) (previousIndex : Option Int) :
      Course config executor (.call (.resumed handler previousIndex)) .proceed
        (executor.resumed handler previousIndex)
  | segment (handler : HandlerId) (endIndex index : Int) :
      Course config executor (.callIndex (.segment handler endIndex) index) .proceed
        (executor.segmentReached handler endIndex index)
  | onResume (name : String) (handler : HandlerId) (arguments : ActionArguments)
      (onCompleted : Closure) :
      config.findAction name = some .onResume →
      Course config executor (.run name handler arguments onCompleted) .proceed
        (executor.runOnResume config handler arguments onCompleted)
  | setIndex (inRun : Bool) (reference : HandlerRef) (handler : HandlerId) (index : Int) :
      executor.resolve reference = some handler →
      Course config executor (.user inRun)
        (.op (.handler reference (.setCurrentMissionIndex index)))
        ((executor.handlerOp config handler (.setCurrentMissionIndex index)).1,
          (executor.handlerOp config handler (.setCurrentMissionIndex index)).2 ++ [.user inRun])
  | setMission (inRun : Bool) (mission : Mission) (canRun : CanRun) :
      Course config executor (.user inRun) (.op (.setMission mission canRun))
        (executor.setMission config canRun mission, [.user inRun])
  | resetMission (inRun : Bool) :
      Course config executor (.user inRun) (.op .resetMission)
        (executor.resetMission, [.user inRun])

variable {config : Configuration} {executor : MissionExecutor} {task : Task} {input : Input}
  {after : MissionExecutor × List Task}

theorem SameCourse.refl (executor : MissionExecutor) : SameCourse executor executor :=
  ⟨rfl, rfl, rfl, rfl, rfl⟩

theorem Routine.sameCourse {before after : MissionExecutor} (routine : Routine before after) :
    SameCourse before after :=
  ⟨routine.mission, routine.currentIndex, routine.isActive, routine.starts,
    routine.persistenceFile⟩

theorem drives_of_isRoutine {task : Task} (routine : task.isRoutine = true) :
    task.drives = false := by
  cases task with
  | onActivateRun | onActivatedReturned | runNextMissionItem | runCurrentMissionItem =>
      cases routine
  | _ => rfl

theorem RoutineAfter.calm (routine : RoutineAfter executor after) : Calm executor after :=
  ⟨routine.state.sameCourse, fun task member => drives_of_isRoutine (routine.tasks task member)⟩

theorem Calm.of_tasks {tasks : List Task} (none : ∀ task ∈ tasks, task.drives = false) :
    Calm executor (executor, tasks) :=
  ⟨.refl executor, none⟩

theorem Calm.append (calm : Calm executor after) {tasks : List Task}
    (more : ∀ task ∈ tasks, task.drives = false) : Calm executor (after.1, after.2 ++ tasks) := by
  refine ⟨calm.course, fun task member => ?_⟩
  rcases List.mem_append.mp member with first | second
  · exact calm.tasks task first
  · exact more task second

theorem calm_runAction (name : String) (arguments : ActionArguments) (onCompleted : Closure) :
    Calm executor (executor.runAction config name arguments onCompleted) := by
  unfold runAction
  split
  · exact .of_tasks (by simp)
  · split <;> exact ⟨⟨rfl, rfl, rfl, rfl, rfl⟩, by simp⟩

theorem calm_runTrajectory (trajectory : Mission) (startIndex endIndex : Int)
    (onIndexReached : IndexClosure) (stopAtLast : Bool) :
    Calm executor (executor.runTrajectory config trajectory startIndex endIndex onIndexReached
      stopAtLast) := by
  unfold runTrajectory
  split
  · exact .of_tasks (by simp)
  · dsimp only
    split <;> exact ⟨⟨rfl, rfl, rfl, rfl, rfl⟩, by simp⟩

theorem calm_runCustomTrajectory (trajectory : Mission) (onCompleted : Closure)
    (stopAtLast : Bool) :
    Calm executor (executor.runCustomTrajectory config trajectory onCompleted stopAtLast) := by
  unfold runCustomTrajectory
  split
  · exact .of_tasks (by simp)
  · split
    · exact calm_runTrajectory _ _ _ _ _
    · exact .of_tasks (by simp)

/-- Of all that a handler can do only the override of the index matters. -/
theorem calm_handlerOp (handler : HandlerId) {op : HandlerOp}
    (keeps : ∀ index, op ≠ .setCurrentMissionIndex index) :
    Calm executor (executor.handlerOp config handler op) := by
  by_cases kind : op.isRoutine = true
  · exact (routineAfter_handlerOp handler kind).calm
  · unfold handlerOp
    split
    · exact .of_tasks (by simp)
    · cases op with
      | runAction => exact calm_runAction _ _ _
      | runTrajectory => exact calm_runCustomTrajectory _ _ _
      | setCurrentMissionIndex index => exact absurd rfl (keeps index)
      | storeState => exact ⟨⟨rfl, rfl, rfl, rfl, rfl⟩, by simp [handlerCall]⟩
      | _ => exact absurd rfl kind

theorem calm_switchToTrajectory : Calm executor executor.switchToTrajectory := by
  unfold switchToTrajectory
  split
  · exact (routineAfter_runMode _ _ _).calm.append (by simp)
  · exact .of_tasks (by simp)

theorem starts_runChangeSettings (handler : HandlerId) (arguments : ActionArguments)
    (onCompleted : Closure) :
    (executor.runChangeSettings config handler arguments onCompleted).1.starts =
      executor.starts := by
  have stored : ∀ (before : MissionExecutor) (options : Json),
      (before.storeSettings handler options).1.starts = before.starts := by
    intro before options
    unfold storeSettings
    split <;> rfl
  unfold runChangeSettings
  split
  · rfl
  · exact (@routineAfter_handlerOp config executor handler .clearTrajectoryOptions rfl).state.starts
  · split
    · rfl
    · split
      · rfl
      · exact (stored _ _).trans (routineAfter_handlerOp handler rfl).state.starts

theorem calm_runChangeSettings (handler : HandlerId) (arguments : ActionArguments)
    (onCompleted : Closure) :
    Calm executor (executor.runChangeSettings config handler arguments onCompleted) := by
  obtain ⟨only, currentIndex⟩ :=
    @runChangeSettings_kept config executor handler arguments onCompleted
  refine ⟨⟨?_, currentIndex, only.isActive, starts_runChangeSettings _ _ _,
    only.persistenceFile⟩, ?_⟩
  · exact (sameMission_runChangeSettings _ _ _).mission
  · exact fun task member => drives_of_isRoutine (only.tasks task member)

theorem calm_abort (reason : AbortReason) : Calm executor (executor.abort reason) :=
  ⟨⟨rfl, rfl, rfl, rfl, rfl⟩, fun task member => by
    rcases List.mem_append.mp member with info | last
    · exact drives_of_isRoutine (isRoutine_clearActivityInfo task info)
    · rw [List.mem_singleton.mp last]
      rfl⟩

theorem calm_abortDeactivate (reason : AbortReason) :
    Calm executor (executor, executor.abortDeactivate config reason) := by
  refine .of_tasks fun task member => ?_
  simp only [abortDeactivate] at member
  split at member
  · cases member
  · rcases List.mem_append.mp member with action | last
    · exact drives_of_isRoutine (isRoutine_deactivateAllActions task action)
    · rw [List.mem_singleton.mp last]
      rfl

theorem calm_abortRunOnFailure (reason : AbortReason) :
    Calm executor (executor.abortRunOnFailure config reason) := by
  unfold abortRunOnFailure
  dsimp only
  split
  · exact ⟨⟨rfl, rfl, rfl, rfl, rfl⟩, by simp⟩
  · have failed := @calm_runAction config
      { executor with abortRecursionLevel := executor.abortRecursionLevel + 1 } "onFailure"
      ({ executor with abortRecursionLevel :=
        executor.abortRecursionLevel + 1 }.onFailureArguments reason) .noop
    exact ⟨⟨failed.course.mission, failed.course.currentIndex, failed.course.isActive,
      failed.course.starts, failed.course.persistenceFile⟩, (failed.append (by simp)).tasks⟩

theorem calm_runStoredActions (actions : List ActionState) :
    Calm executor (executor, executor.runStoredActions config actions) := by
  refine .of_tasks fun task member => ?_
  cases actions with
  | nil => cases member
  | cons action rest =>
      simp only [runStoredActions] at member
      split at member
      · rw [List.mem_singleton.mp member]
        rfl
      · split at member
        · rw [List.mem_singleton.mp member]
          rfl
        · rcases List.mem_pair.mp member with rfl | rfl <;> rfl

theorem Does.calm (does : Does config executor task input after)
    (calm : task.steers config input = false)
    (moves : ∀ landed, input ≠ .landDetected landed) : Calm executor after := by
  cases does with
  | routine state tasks => exact RoutineAfter.calm ⟨state, tasks⟩
  | again _ landed => exact absurd rfl (moves landed)
  | modeExecutor result plain =>
      refine ⟨⟨rfl, rfl, rfl, rfl, rfl⟩, fun other member => ?_⟩
      obtain ⟨pushed, _, rfl⟩ := List.mem_map.mp member
      rfl
  | runStoredActions actions => exact calm_runStoredActions actions
  | switchToTrajectory => exact calm_switchToTrajectory
  | setTrajectoryState => exact ⟨⟨rfl, rfl, rfl, rfl, rfl⟩, by simp⟩
  | navigate handler onCompleted index =>
      unfold MissionExecutor.navigateToPreviousWaypoint
      split
      · exact calm_handlerOp _ (by simp)
      · exact .of_tasks (by simp)
  | continueNextItem =>
      exact ⟨⟨rfl, rfl, rfl, rfl, rfl⟩, by simp [MissionExecutor.continueNextItem]⟩
  | runCustom => exact .of_tasks (by simp)
  | onResumeCompletes _ _ _ _ action => simp [Task.steers, action] at calm
  | unexpectedLanding _ _ _ _ _ action => simp [Task.steers, action] at calm
  | changeSettings => exact calm_runChangeSettings _ _ _
  | enterRun => exact ⟨⟨rfl, rfl, rfl, rfl, rfl⟩, by simp [enter]⟩
  | userHandlerOp inRun reference op handler =>
      have keeps : ∀ index, op ≠ .setCurrentMissionIndex index := by
        rintro index rfl
        cases calm
      exact (calm_handlerOp handler keeps).append (by simp)
  | userCallIndex => exact .of_tasks (by simp)
  | abort reason => exact calm_abort reason
  | abortDeactivate reason => exact calm_abortDeactivate reason
  | abortRunOnFailure reason => exact calm_abortRunOnFailure reason
  | abortEnd => exact ⟨⟨rfl, rfl, rfl, rfl, rfl⟩, by simp⟩
  | _ => cases calm

/-- Everything that executing a task can do to the course of the mission. -/
theorem exec_course (executed : executor.exec config task input = some after) :
    Course config executor task input after := by
  obtain ⟨_, ⟨landed, rfl, rfl⟩ | others⟩ := exec_cases executed
  · exact .again task landed
  by_cases moves : ∃ landed, input = .landDetected landed
  · obtain ⟨landed, rfl⟩ := moves
    have same : after = ({ executor with landed }, [task]) := by
      unfold exec at executed
      split at executed
      · cases executed
      · exact (Option.some.inj executed).symm
    rw [same]
    exact .again task landed
  by_cases calm : task.steers config input = false
  · exact .calm calm ((exec_does executed).calm calm fun landed same => moves ⟨landed, same⟩)
  obtain ⟨task', rfl, resumed⟩ | ⟨inRun, op, requested, rfl, rfl, requests, rfl⟩ |
    ⟨inRun, rfl, rfl, rfl⟩ | ⟨valid, reached, rfl, rfl⟩ | ⟨rfl, rfl⟩ | ⟨rfl, inner, rfl⟩ := others
  · obtain ⟨hook, rfl, rfl, rfl⟩ | ⟨result, plain, rfl⟩ := modeExecutorTask_cases resumed
    · cases hook with
      | onActivate => exact .onActivate
      | onDeactivate reason => exact .onDeactivate reason
      | _ => exact absurd rfl calm
    · cases task' with
      | hook hook => exact absurd rfl (plain hook)
      | _ => exact absurd rfl calm
  · cases op with
    | handler reference op =>
        cases op with
        | setCurrentMissionIndex index =>
            simp only [userOp] at requests
            split at requests
            · obtain ⟨handler, denoted, rfl⟩ := Option.map_eq_some_iff.mp requests
              exact .setIndex inRun reference handler index denoted
            · cases requests
        | _ => exact absurd rfl calm
    | setMission mission canRun =>
        cases requests
        exact .setMission inRun mission canRun
    | resetMission =>
        cases requests
        exact .resetMission inRun
    | _ => exact absurd rfl calm
  · exact absurd rfl calm
  · exact absurd rfl calm
  · exact absurd rfl calm
  · cases task with
    | modeExecutor task => exact absurd rfl (inner task)
    | onActivateRun => exact .onActivateRun _
    | onActivatedReturned => exact .onActivatedReturned _ _
    | runNextMissionItem => exact .runNextMissionItem
    | runCurrentMissionItem => exact .runCurrentMissionItem _
    | savePersistentState => exact .savePersistentState
    | call closure =>
        cases closure with
        | nextItem handler start => exact .nextItem handler start
        | resumed handler previousIndex => exact .resumed handler previousIndex
        | _ => exact absurd rfl calm
    | callIndex closure index =>
        cases closure with
        | segment handler endIndex => exact .segment handler endIndex index
        | customTrajectory => exact absurd rfl calm
    | run name handler arguments onCompleted =>
        simp only [Task.steers] at calm
        split at calm
        · rename_i action
          have same : executor.internal config (.run name handler arguments onCompleted) =
              executor.runOnResume config handler arguments onCompleted := by
            simp only [internal, MissionExecutor.run, action]
          rw [same]
          exact .onResume name handler arguments onCompleted action
        · exact absurd rfl calm
    | _ => exact absurd rfl calm

/-- No event at a quiescent point touches the course of the mission. -/
theorem idle_calm (taken : executor.idle config input = some after) : Calm executor after := by
  obtain routine | ⟨msg, rfl, rfl⟩ := idle_cases taken
  · exact routine.calm
  · refine ⟨⟨rfl, rfl, rfl, rfl, rfl⟩, fun other member => ?_⟩
    obtain ⟨pushed, _, rfl⟩ := List.mem_map.mp member
    rfl

/-! The tasks that are left to go on with the mission. -/

abbrev drivers (agenda : List Task) : List Task := agenda.filter Task.drives

theorem Calm.drivers (calm : Calm executor after) (rest : List Task) :
    drivers (after.2 ++ rest) = drivers rest := by
  have none : after.2.filter Task.drives = [] := by
    refine List.filter_eq_nil_iff.mpr fun task member => ?_
    rw [calm.tasks task member]
    exact Bool.false_ne_true
  simp only [MissionExecutor.drivers, List.filter_append, none, List.nil_append]

theorem drivers_cons {task : Task} (driver : task.drives = true) (rest : List Task) :
    drivers (task :: rest) = task :: drivers rest :=
  List.filter_cons_of_pos driver

theorem Calm.drivers_append (calm : Calm executor after) {task : Task}
    (driver : task.drives = true) (rest : List Task) :
    MissionExecutor.drivers (after.2 ++ [task] ++ rest) = task :: MissionExecutor.drivers rest := by
  rw [List.append_assoc, calm.drivers, List.singleton_append, drivers_cons driver]

theorem drives_eq_false_of_steers (calm : task.steers config input = false) :
    task.drives = false := by
  cases task with
  | onActivateRun | onActivatedReturned | runNextMissionItem | runCurrentMissionItem => cases calm
  | _ => rfl

theorem drivers_of_isModeExecutor {tasks : List Task}
    (modeExecutor : ∀ task ∈ tasks, task.isModeExecutor = true) : drivers tasks = [] := by
  refine List.filter_eq_nil_iff.mpr fun task member => ?_
  cases task with
  | modeExecutor => simp
  | _ => cases modeExecutor _ member

/-- Only the index is set. -/
theorem calm_setCurrentMissionIndex (index : Int) :
    Calm (executor.setState { executor.state with currentIndex := some index })
      (executor.setCurrentMissionIndex index) := by
  refine ⟨?_, fun task member => drives_of_isRoutine (isRoutine_clearActivityInfo task member)⟩
  simp only [setCurrentMissionIndex, reportIndex]
  split <;> split <;> exact ⟨rfl, rfl, rfl, rfl, rfl⟩

theorem calm_runCurrentMissionItem (resuming : Bool) :
    Calm { executor with starts := (executor.runCurrentMissionItem config resuming).1.starts }
      (executor.runCurrentMissionItem config resuming) := by
  have quiet : ∀ after : MissionExecutor × List Task, Calm executor after →
      Calm { executor with starts := after.1.starts } after := fun after calm =>
    ⟨⟨calm.course.mission, calm.course.currentIndex, calm.course.isActive, rfl,
      calm.course.persistenceFile⟩, calm.tasks⟩
  unfold runCurrentMissionItem
  split
  · exact quiet _ (routineAfter_runMode _ _ _).calm
  · split
    · split
      · exact quiet _ (.of_tasks (by simp))
      · exact quiet _ (routineAfter_runMode _ _ _).calm
    · rename_i item _
      cases item with
      | navigation waypoint => exact quiet _ (calm_runTrajectory _ _ _ _ _)
      | action item =>
          simp only [runMissionItem]
          split
          · exact quiet _ routineAfter_crash.calm
          · rename_i arguments _
            have ran := @calm_runAction config { executor with starts := executor.starts + 1 }
              item.name arguments (.nextItem executor.actionHandler executor.starts)
            exact ⟨⟨ran.course.mission, ran.course.currentIndex, ran.course.isActive, rfl,
              ran.course.persistenceFile⟩, ran.tasks⟩

end Px4Ros2.MissionExecutor
