import Px4Ros2.Mission.AgendaOrder
import Px4Ros2.Mission.ClosureProvenance

/-! A mission that is stopped, by an abort or by a deactivation: every lambda that could go on with
it belongs to an older handler. It stays stopped until the next activation. -/

set_option autoImplicit false

namespace Px4Ros2.MissionExecutor

/-- The lambdas of handlers that are older than `bound`. -/
def olderThan (bound : HandlerId) : Provenance :=
  { nextItem := fun handler _ => handler < bound
    resumed := fun handler _ => handler < bound
    navigate := fun handler => handler < bound
    segment := fun handler _ => handler < bound }

theorem olderThan_within {bound newer : HandlerId} (le : bound ≤ newer) :
    (olderThan bound).Within (olderThan newer) :=
  ⟨fun _ _ older => lt_of_lt_of_le older le, fun _ _ older => lt_of_lt_of_le older le,
    fun _ older => lt_of_lt_of_le older le, fun _ _ older => lt_of_lt_of_le older le⟩

/-- What holds in every configuration that is reached. -/
structure Sound (reached : Config) : Prop where
  ordered : Ordered reached
  made : HandlersMade reached
  valid : reached.state.OneValidHandler
  closures : AllFrom (olderThan (reached.state.actionHandler + 1)) (reached.state, reached.agenda)

variable {config : Configuration} {executor : MissionExecutor}

/-- New lambdas have the current handler. -/
theorem admits_current (valid : executor.OneValidHandler) (task : Task) :
    Admits (olderThan (executor.actionHandler + 1)) config executor task := by
  refine ⟨fun _ _ => ⟨Nat.lt_succ_self _, fun _ => Nat.lt_succ_self _⟩,
    fun _ _ => Nat.lt_succ_self _, fun name handler _ _ _ _ _ current => ?_⟩
  rw [valid.valid] at current
  exact Nat.lt_succ_of_le (le_of_eq current)

theorem actionHandler_le_of_step {before next : Config} {input : Input}
    (made : HandlersMade before) (stepped : (machine config).step before input = some next) :
    before.state.actionHandler ≤ next.state.actionHandler :=
  ((step_effects stepped).current made.current).2

variable {registered : Bool} {id : UInt8} {ownedMode : ModeBase} {file : PersistenceFile}
  {guard : Config → Input → Prop}

theorem sound_initial : Sound (initial registered id ownedMode file) := by
  refine ⟨⟨by simp [initial], by simp [initial], rfl⟩, ⟨rfl, by simp [initial], by simp [initial]⟩,
    oneValidHandler_initial, ⟨⟨?_, ?_, ?_, ?_, ?_⟩, by simp [initial]⟩⟩ <;>
    simp [initial, ModeExecutorBase.heldCallbacks]

theorem sound_next {before next : Config} {input : Input} (sound : Sound before)
    (stepped : (machine config).step before input = some next) : Sound next := by
  refine ⟨ordered_step sound.ordered stepped, handlersMade_step sound.made stepped, ?_, ?_⟩
  · exact (step_effects stepped).preserve (fun _ _ effect valid => effect.oneValidHandler valid)
      sound.valid
  · have le := actionHandler_le_of_step sound.made stepped
    refine AllFrom.mono (olderThan_within (Nat.succ_le_succ le))
      (allFrom_step sound.closures ?_ stepped)
    exact fun task _ _ => admits_current sound.valid task

theorem reaches_sound {reached : Config}
    (reaches : (machine config).Reaches guard (initial registered id ownedMode file) reached) :
    Sound reached :=
  reaches.invariant sound_initial fun _ _ _ sound _ stepped => sound_next sound stepped

/-! What a stopped mission leaves to do. -/

/-- A task that does not go on with the mission. An action runs only to handle a failure, or to
store its state while the executor is inactive. -/
def Task.Stopped (config : Configuration) (bound : HandlerId) (active : Bool) : Task → Prop
  | .onActivateRun _ | .runStoredActions _ | .runNextMissionItem | .runCurrentMissionItem _ => False
  | .switchToTrajectory | .setTrajectoryState => False
  | .onActivatedReturned previousHandler _ => previousHandler < bound
  | .run name _ arguments _ =>
      if active then config.findAction name = some .onFailure
      else arguments = storeStateArguments
  | .enter (.run _ _ _ _) => active = false
  | _ => True

structure Stopped (config : Configuration) (bound : HandlerId) (reached : Config) : Prop where
  closures : AllFrom (olderThan bound) (reached.state, reached.agenda)
  renewed : bound ≤ reached.state.actionHandler
  tasks : ∀ task ∈ reached.agenda, task.Stopped config bound reached.state.isActive
  users : reached.state.isActive = true → ∀ handler ∈ reached.state.userHandlers, handler < bound

/-- Requests of the user that set the state of the mission. -/
def Input.setsState : Input → Bool
  | .op (.handler _ (.setCurrentMissionIndex _)) | .op (.handler _ (.storeState _ _)) => true
  | .op (.setMission _ _) | .op .resetMission => true
  | _ => false

/-- An action or a trajectory is started with the handler that a `run` has as a parameter. -/
def Input.startsWithParameter : Input → Bool
  | .op (.handler .parameter (.runAction _ _ _)) => true
  | .op (.handler .parameter (.runTrajectory _ _ _)) => true
  | _ => false

/-- User code starts something with the parameter of a `run`, though it was not handed the handler
that the parameter denotes by now. -/
abbrev StartsUnhanded (executor : MissionExecutor) (input : Input) : Prop :=
  input.startsWithParameter = true ∧ executor.isActive = true ∧
    executor.actionHandler ∉ executor.userHandlers

/-- What a task of a stopped mission does, apart from an activation or a deactivation. -/
structure StoppedAfter (config : Configuration) (bound : HandlerId) (executor : MissionExecutor)
    (task : Task) (input : Input) (after : MissionExecutor × List Task) : Prop where
  tasks : ∀ other ∈ after.2, other.Stopped config bound executor.isActive
  isActive : after.1.isActive = executor.isActive
  users : executor.isActive = true → after.1.userHandlers = executor.userHandlers
  missionItemState : after.1.missionItemState = executor.missionItemState ∨
    after.1.missionItemState = .other
  currentIndex : (∀ op, input ≠ .op op) →
    after.1.state.currentIndex = executor.state.currentIndex
  state : executor.isActive = false → task.isRun = false → input.setsState = false →
    after.1.state = executor.state ∧ after.1.mission = executor.mission
  file : task ≠ .savePersistentState → after.1.persistenceFile = executor.persistenceFile
  runs : executor.isActive = false → task.isRun = false → ∀ other ∈ after.2, other.isRun = false

variable {bound : HandlerId} {task : Task} {input : Input}

theorem stopped_of_isRoutine {active : Bool} {task : Task} (routine : task.isRoutine = true) :
    task.Stopped config bound active := by
  cases task with
  | enter entry =>
      cases entry with
      | run => cases routine
      | _ => trivial
  | onActivateRun | runStoredActions | runNextMissionItem | runCurrentMissionItem
  | switchToTrajectory | setTrajectoryState | onActivatedReturned | run => cases routine
  | _ => trivial

theorem StoppedAfter.of_routine {after : MissionExecutor × List Task}
    (routine : RoutineAfter executor after) : StoppedAfter config bound executor task input after := by
  constructor
  case tasks => exact fun other member => stopped_of_isRoutine (routine.tasks other member)
  case runs =>
    exact fun _ _ other member => (plain_of_isRoutine (routine.tasks other member)).run
  case isActive => exact routine.state.isActive
  case users => exact fun _ => routine.state.userHandlers
  case missionItemState => exact routine.state.missionItemState
  case currentIndex => exact fun _ => routine.state.currentIndex
  case state => exact fun inactive _ _ => ⟨routine.state.inactive inactive, routine.state.mission⟩
  case file => exact fun _ => routine.state.persistenceFile

theorem StoppedAfter.nothing : StoppedAfter config bound executor task input (executor, []) :=
  .of_routine (.nothing executor)

/-- Nothing changes, and the tasks left are neither actions nor go on with the mission. -/
theorem StoppedAfter.of_tasks {tasks : List Task}
    (stopped : ∀ other ∈ tasks, other.Stopped config bound executor.isActive ∧ other.isRun = false) :
    StoppedAfter config bound executor task input (executor, tasks) := by
  constructor
  case tasks => exact fun other member => (stopped other member).1
  case runs => exact fun _ _ other member => (stopped other member).2
  case missionItemState => exact .inl rfl
  case isActive => rfl
  case state => exact fun _ _ _ => ⟨rfl, rfl⟩
  all_goals intros; rfl

theorem isValid_of_lt (valid : executor.OneValidHandler) {handler : HandlerId}
    (older : handler < executor.actionHandler) : executor.isValid handler = false := by
  cases current : executor.isValid handler with
  | false => rfl
  | true => exact absurd ((valid.valid handler).mp current) (Nat.ne_of_lt older)

theorem handlerOp_of_invalid {handler : HandlerId} (invalid : executor.isValid handler = false)
    {op : HandlerOp} (checks : op.checksValid = true) :
    executor.handlerOp config handler op = (executor, []) := by
  simp [handlerOp, checks, invalid]

/-- Only the mission and its state are set, with routine tasks left to do. -/
structure StateOnly (executor : MissionExecutor) (after : MissionExecutor × List Task) : Prop where
  tasks : ∀ task ∈ after.2, task.isRoutine = true
  isActive : after.1.isActive = executor.isActive
  userHandlers : after.1.userHandlers = executor.userHandlers
  missionItemState : after.1.missionItemState = executor.missionItemState ∨
    after.1.missionItemState = .other
  persistenceFile : after.1.persistenceFile = executor.persistenceFile

theorem StateOnly.nothing : StateOnly executor (executor, []) :=
  ⟨by simp, rfl, rfl, .inl rfl, rfl⟩

theorem StateOnly.append {after : MissionExecutor × List Task} (only : StateOnly executor after)
    {tasks : List Task} (more : ∀ task ∈ tasks, task.isRoutine = true) :
    StateOnly executor (after.1, after.2 ++ tasks) := by
  refine ⟨fun task member => ?_, only.isActive, only.userHandlers, only.missionItemState,
    only.persistenceFile⟩
  rcases List.mem_append.mp member with first | second
  · exact only.tasks task first
  · exact more task second

/-- A user's request of this kind. -/
theorem StateOnly.stopped {after : MissionExecutor × List Task} (only : StateOnly executor after)
    {op : UserOp} (sets : Input.setsState (.op op) = true) :
    StoppedAfter config bound executor task (.op op) after := by
  constructor
  case tasks => exact fun other member => stopped_of_isRoutine (only.tasks other member)
  case runs => exact fun _ _ other member => (plain_of_isRoutine (only.tasks other member)).run
  case isActive => exact only.isActive
  case users => exact fun _ => only.userHandlers
  case missionItemState => exact only.missionItemState
  case currentIndex => exact fun noOp => absurd rfl (noOp op)
  case state =>
    intro _ _ setsNothing
    rw [sets] at setsNothing
    cases setsNothing
  case file => exact fun _ => only.persistenceFile

theorem stateOnly_setCurrentMissionIndex (index : Int) :
    StateOnly executor (executor.setCurrentMissionIndex index) := by
  refine ⟨isRoutine_clearActivityInfo, ?_, ?_, .inl ?_, ?_⟩
  all_goals
    simp only [setCurrentMissionIndex, reportIndex]
    split <;> split <;> rfl

theorem stateOnly_setMission (canRun : CanRun) (mission : Mission) :
    StateOnly executor (executor.setMission config canRun mission, []) := by
  unfold setMission
  split
  · exact .nothing
  · have report := @routine_checkReadynessAndReport config
      { executor with
        mission
        missionErrors := missionErrorsOf config mission
        hasValidMission := (missionErrorsOf config mission).isEmpty
        state := { executor.state with missionChecksum := mission.checksum config.hash } } canRun
    dsimp only
    split <;>
      exact ⟨by simp, report.isActive, report.userHandlers, report.missionItemState,
        report.persistenceFile⟩

theorem stateOnly_resetMission : StateOnly executor (executor.resetMission, []) := by
  unfold resetMission
  split
  · exact .nothing
  · exact ⟨by simp, rfl, rfl, .inl rfl, rfl⟩

theorem stateOnly_setChangeSettingsState (keeper : Option ActionID) :
    StateOnly executor (executor.setChangeSettingsState keeper) := by
  have routine := @routineAfter_setChangeSettingsState executor keeper
  exact ⟨routine.tasks, rfl, rfl, .inl rfl, rfl⟩

theorem StateOnly.of_routine {after : MissionExecutor × List Task}
    (routine : RoutineAfter executor after) : StateOnly executor after :=
  ⟨routine.tasks, routine.state.isActive, routine.state.userHandlers,
    routine.state.missionItemState, routine.state.persistenceFile⟩

theorem StateOnly.trans {middle after : MissionExecutor × List Task}
    (one : StateOnly executor middle) (two : StateOnly middle.1 after) :
    StateOnly executor after := by
  refine ⟨two.tasks, two.isActive.trans one.isActive, two.userHandlers.trans one.userHandlers,
    ?_, two.persistenceFile.trans one.persistenceFile⟩
  rcases two.missionItemState with same | other
  · rw [same]
    exact one.missionItemState
  · exact .inr other

theorem storeSettings_kept (handler : HandlerId) (options : Json) :
    StateOnly executor (executor.storeSettings handler options) ∧
      (executor.storeSettings handler options).1.state.currentIndex =
        executor.state.currentIndex := by
  unfold storeSettings
  split
  · have added : StateOnly executor
        ((executor.addContinousAction "changeSettings" ⟨options⟩).1, []) :=
      ⟨by simp, rfl, rfl, .inl rfl, rfl⟩
    exact ⟨added.trans (stateOnly_setChangeSettingsState _), rfl⟩
  · exact ⟨stateOnly_setChangeSettingsState _, rfl⟩

theorem runChangeSettings_kept (handler : HandlerId) (arguments : ActionArguments)
    (onCompleted : Closure) :
    StateOnly executor (executor.runChangeSettings config handler arguments onCompleted) ∧
      (executor.runChangeSettings config handler arguments onCompleted).1.state.currentIndex =
        executor.state.currentIndex := by
  have called : ∀ task ∈ [Task.call onCompleted], task.isRoutine = true := by
    simp [Task.isRoutine]
  have crashed : StateOnly executor executor.crash := .of_routine routineAfter_crash
  unfold runChangeSettings
  split
  · exact ⟨crashed, rfl⟩
  · have cleared := @routineAfter_handlerOp config executor handler .clearTrajectoryOptions rfl
    refine ⟨?_, cleared.state.currentIndex⟩
    exact ((StateOnly.of_routine cleared).trans
      (stateOnly_setChangeSettingsState none)).append called
  · split
    · exact ⟨crashed, rfl⟩
    · rename_i options _
      split
      · exact ⟨crashed, rfl⟩
      · rename_i json _
        have changed :=
          @routineAfter_handlerOp config executor handler (.setTrajectoryOptions options) rfl
        have stored := @storeSettings_kept
          (executor.handlerOp config handler (.setTrajectoryOptions options)).1 handler json
        exact ⟨((StateOnly.of_routine changed).trans stored.1).append called,
          stored.2.trans changed.state.currentIndex⟩

/-- Requests with a handler: what starts something needs a valid one, and an active executor. -/
theorem stoppedAfter_userHandlerOp {inRun : Bool} {reference : HandlerRef} {op : HandlerOp}
    {handler : HandlerId} (kind : op.isRoutine = false)
    (unusable : executor.isActive = true →
      (∃ name arguments onCompleted, op = .runAction name arguments onCompleted) ∨
        (∃ trajectory onCompleted stopAtLast, op = .runTrajectory trajectory onCompleted stopAtLast) →
      executor.isValid handler = false) :
    StoppedAfter config bound executor (.user inRun) (.op (.handler reference op))
      ((executor.handlerOp config handler op).1,
        (executor.handlerOp config handler op).2 ++ [.user inRun]) := by
  have user : ∀ task ∈ [Task.user inRun], task.isRoutine = true := by simp [Task.isRoutine]
  have none : StoppedAfter config bound executor (.user inRun) (.op (.handler reference op))
      (executor, [.user inRun]) := .of_routine ((RoutineAfter.nothing executor).append user)
  cases op with
  | runAction name arguments onCompleted =>
      by_cases active : executor.isActive = true
      · rw [handlerOp_of_invalid (unusable active (.inl ⟨_, _, _, rfl⟩)) rfl]
        exact none
      · have nothing : executor.handlerOp config handler (.runAction name arguments onCompleted) =
            (executor, []) := by
          simp [handlerOp, handlerCall, runAction, active]
        rw [nothing]
        exact none
  | runTrajectory trajectory onCompleted stopAtLast =>
      by_cases active : executor.isActive = true
      · rw [handlerOp_of_invalid (unusable active (.inr ⟨_, _, _, rfl⟩)) rfl]
        exact none
      · refine .of_routine (RoutineAfter.append ?_ user)
        unfold handlerOp
        split
        · exact .nothing executor
        · simp only [handlerCall, runCustomTrajectory, runTrajectory]
          split
          · exact ⟨.refl executor, by simp [Task.isRoutine]⟩
          · split
            · simp only [active]
              exact .nothing executor
            · exact ⟨.refl executor, by simp [Task.isRoutine]⟩
  | setCurrentMissionIndex index =>
      refine StateOnly.stopped (StateOnly.append ?_ user) rfl
      simp only [handlerOp, HandlerOp.checksValid, handlerCall, Bool.false_and,
        Bool.false_eq_true, if_false]
      split
      · exact stateOnly_setCurrentMissionIndex index
      · exact .nothing
  | storeState name arguments =>
      refine StateOnly.stopped (StateOnly.append ?_ user) rfl
      simp only [handlerOp, handlerCall]
      split
      · exact .nothing
      · exact ⟨by simp, rfl, rfl, .inl rfl, rfl⟩
  | _ => cases kind

/-- What keeps a mission stopped: no activation, and no start with a handler that was not handed
out. -/
structure KeepsStopped (executor : MissionExecutor) (task : Task) (input : Input) : Prop where
  inactive : input = .proceed → task ≠ .modeExecutor (.hook .onActivate)
  handed : ¬ StartsUnhanded executor input

theorem savePersistentState_eq :
    ∃ file, executor.savePersistentState config = { executor with persistenceFile := file } := by
  unfold savePersistentState clearPersistentState
  repeat' split
  all_goals exact ⟨_, rfl⟩

theorem stoppedAfter_abortRunOnFailure
    (onFailure : executor.isActive = true → config.findAction "onFailure" = some .onFailure)
    (reason : AbortReason) :
    StoppedAfter config bound executor (.abortRunOnFailure reason) input
      (executor.abortRunOnFailure config reason) := by
  have same := @abortRunOnFailure_same config executor reason
  have tasks : ∀ other ∈ (executor.abortRunOnFailure config reason).2,
      other.Stopped config bound executor.isActive ∧
        (executor.isActive = false → other.isRun = false) := by
    unfold abortRunOnFailure runAction
    dsimp only
    split
    · simp [Task.Stopped]
    · rename_i action found
      cases active : executor.isActive with
      | false => simp [Task.Stopped]
      | true =>
          rw [onFailure active] at found
          simp [Task.Stopped, onFailure active]
  constructor
  case tasks => exact fun other member => (tasks other member).1
  case runs => exact fun inactive _ other member => (tasks other member).2 inactive
  case missionItemState =>
    unfold abortRunOnFailure runAction
    dsimp only
    split
    · exact .inl rfl
    · split
      · exact .inl rfl
      · exact .inr rfl
  case isActive => exact same.isActive
  case users => exact fun _ => same.userHandlers
  case currentIndex => exact fun _ => congrArg PersistentState.currentIndex same.state
  case state => exact fun _ _ _ => ⟨same.state, same.mission⟩
  case file => exact fun _ => same.persistenceFile

theorem not_startsUnhanded (inactive : executor.isActive = false) :
    ¬ StartsUnhanded executor input := by
  rintro ⟨_, active, _⟩
  rw [inactive] at active
  cases active

/-- No action that may still run resumes the mission. -/
theorem not_resumes_of_stopped {name : String} {handler : HandlerId} {arguments : ActionArguments}
    {onCompleted : Closure} {active : Bool} (found : config.findAction name = some .onResume)
    (stopped : (Task.run name handler arguments onCompleted).Stopped config bound active) :
    arguments.at? Json.getString "action" ≠ some "resume" := by
  cases active with
  | true =>
      simp only [Task.Stopped, if_true, found] at stopped
      cases stopped
  | false =>
      simp only [Task.Stopped, Bool.false_eq_true, if_false] at stopped
      subst stopped
      decide

theorem Does.stopped {after : MissionExecutor × List Task}
    (does : Does config executor task input after) (valid : executor.OneValidHandler)
    (onFailure : executor.isActive = true → config.findAction "onFailure" = some .onFailure)
    (closures : task.From (olderThan bound)) (renewed : bound ≤ executor.actionHandler)
    (stopped : task.Stopped config bound executor.isActive)
    (users : executor.isActive = true → ∀ handler ∈ executor.userHandlers, handler < bound)
    (keeps : KeepsStopped executor task input) :
    StoppedAfter config bound executor task input after ∨
      ∃ reason, task = .modeExecutor (.hook (.onDeactivate reason)) ∧ input = .proceed ∧
        after = executor.onDeactivate config := by
  have older : ∀ handler, handler < bound → executor.isValid handler = false :=
    fun handler less => isValid_of_lt valid (lt_of_lt_of_le less renewed)
  cases does with
  | onDeactivate reason => exact .inr ⟨reason, rfl, rfl, rfl⟩
  | onActivate => exact absurd rfl (keeps.inactive rfl)
  | routine routine tasks => exact .inl (.of_routine ⟨routine, tasks⟩)
  | again task landed =>
      refine .inl ?_
      constructor
      case tasks => simpa using stopped
      case runs => exact fun _ noRun => by simpa using noRun
      case missionItemState => exact .inl rfl
      case isActive => rfl
      case state => exact fun _ _ _ => ⟨rfl, rfl⟩
      all_goals intros; rfl
  | @modeExecutor modeTask _ result plain =>
      have kinds :=
        @applyModeExecutor_kinds executor (executor.modeExecutor.resume result modeTask)
      refine .inl ?_
      constructor
      case tasks =>
        intro other member
        obtain ⟨task', _, rfl⟩ := List.mem_map.mp member
        trivial
      case runs => exact fun _ _ other member => (kinds other member).2.2
      case missionItemState => exact .inl rfl
      case isActive => rfl
      case state => exact fun _ _ _ => ⟨rfl, rfl⟩
      all_goals intros; rfl
  | onActivateRun | runStoredActions | runNextMissionItem | runCurrentMissionItem
  | switchToTrajectory | setTrajectoryState => cases stopped
  | onActivatedReturned previousHandler startFromBeginning =>
      refine .inl ?_
      rw [MissionExecutor.onActivatedReturned, older previousHandler stopped]
      exact .nothing
  | nextItem handler start =>
      refine .inl ?_
      rw [older handler closures]
      exact .nothing
  | resumed handler previousIndex =>
      refine .inl ?_
      rw [MissionExecutor.resumed, older handler closures]
      exact .nothing
  | segment handler endIndex index =>
      refine .inl ?_
      rw [segmentReached, older handler closures]
      exact .nothing
  | navigate handler onCompleted index =>
      refine .inl ?_
      unfold navigateToPreviousWaypoint
      split
      · rw [handlerOp_of_invalid (older handler closures.1) rfl]
        exact .nothing
      · exact .of_routine ⟨.refl executor, by simp [Task.isRoutine]⟩
  | continueNextItem =>
      refine .inl ?_
      constructor
      case tasks => simp [MissionExecutor.continueNextItem, Task.Stopped]
      case runs => simp [MissionExecutor.continueNextItem]
      case missionItemState => exact .inl rfl
      case isActive => rfl
      case state => exact fun _ _ _ => ⟨rfl, rfl⟩
      all_goals intros; rfl
  | runCustom name handler arguments onCompleted found =>
      refine .inl ?_
      have inactive : executor.isActive = false := by
        cases active : executor.isActive with
        | false => rfl
        | true =>
            simp only [Task.Stopped, active, if_true, found] at stopped
            cases stopped
      constructor
      case tasks => simpa [Task.Stopped] using inactive
      case runs => exact fun _ noRun => by cases noRun
      case missionItemState => exact .inl rfl
      case isActive => rfl
      case state => exact fun _ _ _ => ⟨rfl, rfl⟩
      all_goals intros; rfl
  | onResumeCompletes name handler arguments onCompleted found resumes =>
      exact absurd resumes (not_resumes_of_stopped found stopped)
  | unexpectedLanding name handler arguments onCompleted index found landed resumes =>
      exact absurd resumes (not_resumes_of_stopped found stopped)
  | changeSettings name handler arguments onCompleted found =>
      refine .inl ?_
      have kept := @runChangeSettings_kept config executor handler arguments onCompleted
      constructor
      case tasks => exact fun other member => stopped_of_isRoutine (kept.1.tasks other member)
      case isActive => exact kept.1.isActive
      case users => exact fun _ => kept.1.userHandlers
      case missionItemState => exact kept.1.missionItemState
      case currentIndex => exact fun _ => kept.2
      case state => exact fun _ noRun => by cases noRun
      case file => exact fun _ => kept.1.persistenceFile
      case runs => exact fun _ noRun => by cases noRun
  | enterRun name handler arguments onCompleted =>
      refine .inl ?_
      constructor
      case tasks => simp [enter, Task.Stopped]
      case users =>
        intro active
        rw [Task.Stopped, active] at stopped
        cases stopped
      case runs => exact fun _ noRun => by cases noRun
      case missionItemState => exact .inl rfl
      case isActive => rfl
      case state => exact fun _ _ _ => ⟨rfl, rfl⟩
      all_goals intros; rfl
  | userHandlerOp inRun reference op handler kind denoted =>
      refine .inl (stoppedAfter_userHandlerOp kind fun active starts => ?_)
      cases reference with
      | object object =>
          simp only [resolve] at denoted
          split at denoted
          · rename_i known
            cases denoted
            exact older handler (users active handler (by simpa using known))
          · cases denoted
      | parameter =>
          have handed : executor.actionHandler ∈ executor.userHandlers := by
            by_contra unhanded
            refine keeps.handed ?_
            obtain ⟨name, arguments, onCompleted, rfl⟩ | ⟨trajectory, onCompleted, stopAtLast, rfl⟩ :=
              starts
            · exact ⟨rfl, active, unhanded⟩
            · exact ⟨rfl, active, unhanded⟩
          exact absurd (users active _ handed) (Nat.not_lt.mpr renewed)
  | userCallIndex inRun closure index known =>
      exact .inl (.of_tasks (by simp [Task.Stopped]))
  | userSetMission inRun mission canRun =>
      exact .inl (((stateOnly_setMission canRun mission).append (by simp [Task.isRoutine])).stopped rfl)
  | userResetMission inRun =>
      exact .inl ((stateOnly_resetMission.append (by simp [Task.isRoutine])).stopped rfl)
  | savePersistentState =>
      obtain ⟨file, saved⟩ := @savePersistentState_eq config executor
      refine .inl ?_
      rw [saved]
      constructor
      case tasks => simp
      case runs => simp
      case file => exact fun other => absurd rfl other
      case missionItemState => exact .inl rfl
      case isActive => rfl
      case state => exact fun _ _ _ => ⟨rfl, rfl⟩
      all_goals intros; rfl
  | abort reason =>
      refine .inl ?_
      constructor
      case tasks =>
        intro other member
        rcases List.mem_append.mp member with info | last
        · exact stopped_of_isRoutine (isRoutine_clearActivityInfo other info)
        · rw [List.mem_singleton.mp last]
          trivial
      case runs =>
        intro _ _ other member
        rcases List.mem_append.mp member with info | last
        · exact (plain_of_isRoutine (isRoutine_clearActivityInfo other info)).run
        · rw [List.mem_singleton.mp last]
          rfl
      case missionItemState => exact .inl rfl
      case isActive => rfl
      case state => exact fun _ _ _ => ⟨rfl, rfl⟩
      all_goals intros; rfl
  | abortDeactivate reason =>
      refine .inl (.of_tasks fun other member => ?_)
      unfold MissionExecutor.abortDeactivate at member
      split at member
      · cases member
      · rcases List.mem_append.mp member with action | last
        · have routine := isRoutine_deactivateAllActions other action
          exact ⟨stopped_of_isRoutine routine, (plain_of_isRoutine routine).run⟩
        · rw [List.mem_singleton.mp last]
          exact ⟨trivial, rfl⟩
  | abortRunOnFailure reason => exact .inl (stoppedAfter_abortRunOnFailure onFailure reason)
  | abortEnd =>
      refine .inl ?_
      constructor
      case missionItemState => exact .inl rfl
      case isActive => rfl
      case tasks => simp
      case runs => simp
      case state => exact fun _ _ _ => ⟨rfl, rfl⟩
      all_goals intros; rfl

/-! A stopped mission stays stopped. -/

theorem Stopped.admits {task : Task} {rest : List Task}
    (stopped : Stopped config bound ⟨executor, task :: rest⟩) (valid : executor.OneValidHandler) :
    Admits (olderThan bound) config executor task := by
  have allowed := stopped.tasks task List.mem_cons_self
  refine ⟨?_, ?_, ?_⟩
  · rintro ⟨resuming, rfl⟩ _
    cases allowed
  · rintro ⟨startFromBeginning, rfl | ⟨previous, rfl, isValid⟩⟩ _
    · cases allowed
    · rw [isValid_of_lt valid (lt_of_lt_of_le allowed stopped.renewed)] at isValid
      cases isValid
  · rintro name handler arguments onCompleted rfl found active _
    simp only [Task.Stopped, active, if_true, found] at allowed
    cases allowed

/-- At a deactivation nothing but the status update is pending. -/
theorem isModeExecutor_of_status {reached : Config} {task : Task} {rest : List Task}
    (ordered : Ordered reached) (agenda : reached.agenda = task :: rest)
    (status : task.isStatus = true) : ∀ other ∈ rest, other.isModeExecutor = true := by
  have pairwise := ordered.status
  rw [agenda] at pairwise
  exact fun other member => (List.pairwise_cons.mp pairwise).1 other member status

theorem stopped_of_isModeExecutor {active : Bool} {task : Task}
    (modeExecutor : task.isModeExecutor = true) : task.Stopped config bound active := by
  cases task with
  | modeExecutor => trivial
  | _ => cases modeExecutor

theorem onDeactivate_isActive : (executor.onDeactivate config).1.isActive = false := by
  unfold onDeactivate
  split
  · unfold clearPersistentState
    split <;> rfl
  · rfl

theorem stopped_onDeactivate :
    ∀ task ∈ (executor.onDeactivate config).2, task.Stopped config bound false := by
  unfold onDeactivate
  split
  · simp [Task.Stopped]
  · unfold runOnResumeStoreState
    split <;> simp [Task.Stopped]

theorem stoppedAfter_idle {after : MissionExecutor × List Task}
    (taken : executor.idle config input = some after) :
    StoppedAfter config bound executor task input after := by
  obtain routine | ⟨msg, _, rfl⟩ := idle_cases taken
  · exact .of_routine routine
  · have kinds :=
      @applyModeExecutor_kinds executor (executor.modeExecutor.vehicleStatusReceived msg)
    constructor
    case tasks => exact fun other member => stopped_of_isModeExecutor (kinds other member).1
    case runs => exact fun _ _ other member => (kinds other member).2.2
    case missionItemState => exact .inl rfl
    case isActive => rfl
    case state => exact fun _ _ _ => ⟨rfl, rfl⟩
    all_goals intros; rfl

/-- What a step of a stopped mission does. -/
theorem Stopped.step_cases {before next : Config} (sound : Sound before)
    (stopped : Stopped config bound before)
    (onFailure : before.state.isActive = true → config.findAction "onFailure" = some .onFailure)
    (keeps : ∀ task ∈ before.agenda.head?, KeepsStopped before.state task input)
    (stepped : (machine config).step before input = some next) :
    (before.agenda = [] ∧ ∀ task,
      StoppedAfter config bound before.state task input (next.state, next.agenda)) ∨
    ∃ task rest tasks, before.agenda = task :: rest ∧ next.agenda = tasks ++ rest ∧
      (StoppedAfter config bound before.state task input (next.state, tasks) ∨
        (∃ reason, task = .modeExecutor (.hook (.onDeactivate reason))) ∧ input = .proceed ∧
          next.state = (before.state.onDeactivate config).1 ∧
          tasks = (before.state.onDeactivate config).2) := by
  obtain ⟨empty, state, tasks, taken, rfl⟩ | ⟨task, rest, state, tasks, agenda, executed, rfl⟩ :=
    Lib.Machine.step_cases stepped
  · exact .inl ⟨empty, fun task => stoppedAfter_idle taken⟩
  · refine .inr ⟨task, rest, tasks, agenda, rfl, ?_⟩
    have member : task ∈ before.agenda := agenda ▸ List.mem_cons_self
    have does := (exec_does executed).stopped sound.valid onFailure
      (stopped.closures.tasks task member) stopped.renewed (stopped.tasks task member)
      stopped.users (keeps task (by simp [agenda]))
    obtain after | ⟨reason, hook, proceeds, after⟩ := does
    · exact .inl after
    · exact .inr ⟨⟨reason, hook⟩, proceeds, congrArg Prod.fst after, congrArg Prod.snd after⟩

/-- A stopped mission stays stopped. -/
theorem Stopped.step {before next : Config} (sound : Sound before)
    (stopped : Stopped config bound before)
    (onFailure : before.state.isActive = true → config.findAction "onFailure" = some .onFailure)
    (keeps : ∀ task ∈ before.agenda.head?, KeepsStopped before.state task input)
    (stepped : (machine config).step before input = some next) : Stopped config bound next := by
  have closures := allFrom_step stopped.closures (fun task rest agenda => by
    rcases before with ⟨executor, _⟩
    cases agenda
    exact stopped.admits sound.valid) stepped
  have renewed := stopped.renewed.trans (actionHandler_le_of_step sound.made stepped)
  have old : ∀ after : MissionExecutor × List Task, ∀ task,
      StoppedAfter config bound before.state task input after →
      after.1.isActive = true → ∀ handler ∈ after.1.userHandlers, handler < bound := by
    intro after task done active handler member
    rw [done.isActive] at active
    rw [done.users active] at member
    exact stopped.users active handler member
  obtain ⟨empty, after⟩ | ⟨task, rest, tasks, agenda, agenda', after | ⟨⟨reason, rfl⟩, _, state, left⟩⟩ :=
    stopped.step_cases sound onFailure keeps stepped
  · refine ⟨closures, renewed, ?_, old _ .updateWaypoint (after _)⟩
    rw [(after .updateWaypoint).isActive]
    exact (after .updateWaypoint).tasks
  · refine ⟨closures, renewed, ?_, old _ task after⟩
    rw [after.isActive, agenda']
    intro other member
    rcases List.mem_append.mp member with first | later
    · exact after.tasks other first
    · exact stopped.tasks other (agenda ▸ List.mem_cons_of_mem _ later)
  · have inactive : next.state.isActive = false := by
      rw [state]
      exact onDeactivate_isActive
    refine ⟨closures, renewed, ?_, fun active => ?_⟩
    · rw [inactive, agenda']
      intro other member
      rcases List.mem_append.mp member with first | later
      · rw [left] at first
        exact stopped_onDeactivate other first
      · exact stopped_of_isModeExecutor
          (isModeExecutor_of_status sound.ordered agenda rfl other later)
    · rw [inactive] at active
      cases active

/-! A deactivation stops the mission, and an inactive executor has a stopped one. -/

theorem step_head {before next : Config} {task : Task} {rest : List Task}
    (agenda : before.agenda = task :: rest)
    (stepped : (machine config).step before input = some next) :
    ∃ tasks, before.state.exec config task input = some (next.state, tasks) ∧
      next.agenda = tasks ++ rest := by
  obtain ⟨empty, _⟩ | ⟨task', rest', state, tasks, agenda', executed, rfl⟩ :=
    Lib.Machine.step_cases stepped
  · rw [empty] at agenda
    cases agenda
  · rw [agenda'] at agenda
    cases agenda
    exact ⟨tasks, executed, rfl⟩

/-- A hook runs when it proceeds; until then the land detector may report. -/
theorem exec_hook {hook : ModeExecutorBase.Hook ModeCallback}
    {after : MissionExecutor × List Task}
    (executed : executor.exec config (.modeExecutor (.hook hook)) input = some after) :
    (∃ landed, input = .landDetected landed ∧
      after = ({ executor with landed }, [.modeExecutor (.hook hook)])) ∨
      (input = .proceed ∧ after = executor.modeExecutorHook config hook) := by
  obtain ⟨_, ⟨landed, rfl, rfl⟩ | ⟨task', same, resumed⟩ | ⟨_, _, _, same, _⟩ | ⟨_, same, _⟩ |
    ⟨_, _, same, _⟩ | ⟨same, _⟩ | ⟨_, other, _⟩⟩ := exec_cases executed
  · exact .inl ⟨landed, rfl, rfl⟩
  · cases same
    obtain ⟨_, same, rfl, rfl⟩ | ⟨_, plain, _⟩ := modeExecutorTask_cases resumed
    · cases same
      exact .inr ⟨rfl, rfl⟩
    · exact absurd rfl (plain hook)
  · cases same
  · cases same
  · cases same
  · cases same
  · exact absurd rfl (other _)

theorem onDeactivate_actionHandler :
    (executor.onDeactivate config).1.actionHandler = executor.handlers.length := by
  unfold onDeactivate
  split
  · unfold clearPersistentState
    split <;> rfl
  · rfl

theorem onActivate_isActive : executor.onActivate.1.isActive = true := by
  unfold onActivate
  split
  · rfl
  · exact (inner_setCurrentMissionIndex _).frame.isActive

/-- A deactivation stops the mission: what it leaves behind has older handlers. -/
theorem stopped_of_onDeactivate {before next : Config} {reason : DeactivateReason}
    {rest : List Task} (sound : Sound before)
    (agenda : before.agenda = .modeExecutor (.hook (.onDeactivate reason)) :: rest)
    (state : next.state = (before.state.onDeactivate config).1)
    (agenda' : next.agenda = (before.state.onDeactivate config).2 ++ rest) :
    Stopped config (before.state.actionHandler + 1) next := by
  have inactive : next.state.isActive = false := by
    rw [state]
    exact onDeactivate_isActive
  have closures := (@allFrom_onDeactivate _ config _ sound.closures.state).append
    fun task member => sound.closures.tasks task (by
      rw [agenda]
      exact List.mem_cons_of_mem _ member)
  refine ⟨?_, ?_, ?_, ?_⟩
  · rw [state, agenda']
    exact closures
  · rw [state, onDeactivate_actionHandler, ← sound.made.current]
  · rw [inactive, agenda']
    intro task member
    rcases List.mem_append.mp member with first | later
    · exact stopped_onDeactivate task first
    · exact stopped_of_isModeExecutor
        (isModeExecutor_of_status sound.ordered agenda rfl task later)
  · intro active
    rw [inactive] at active
    cases active

/-- An inactive executor has a stopped mission, and only an inactive one saves its state. -/
structure Inactive (config : Configuration) (reached : Config) : Prop where
  stopped : reached.state.isActive = false → ∃ bound, Stopped config bound reached
  saves : .savePersistentState ∈ reached.agenda → reached.state.isActive = false

/-- Steps of an inactive executor: it stays inactive, or the activation hook runs. -/
theorem inactive_step {before next : Config} (sound : Sound before)
    (inactive : Inactive config before) (was : before.state.isActive = false)
    (stepped : (machine config).step before input = some next) :
    (next.state.isActive = false ∧ ∃ bound, Stopped config bound next) ∨
      (next.state.isActive = true ∧ ∃ rest,
        before.agenda = .modeExecutor (.hook .onActivate) :: rest ∧
        next.agenda = before.state.onActivate.2 ++ rest) := by
  obtain ⟨bound, stopped⟩ := inactive.stopped was
  have notActive : before.state.isActive ≠ true := by simp [was]
  by_cases activates : input = .proceed ∧
      before.agenda.head? = some (.modeExecutor (.hook .onActivate))
  · obtain ⟨rfl, head⟩ := activates
    obtain ⟨rest, agenda⟩ := List.head?_eq_some_iff.mp head
    obtain ⟨tasks, executed, agenda'⟩ := step_head agenda stepped
    obtain ⟨_, other, _⟩ | ⟨_, same⟩ := exec_hook executed
    · cases other
    · have state : next.state = before.state.onActivate.1 := congrArg Prod.fst same
      have left : tasks = before.state.onActivate.2 := congrArg Prod.snd same
      refine .inr ⟨?_, rest, agenda, ?_⟩
      · rw [state]
        exact onActivate_isActive
      · rw [agenda', left]
  · have keeps : ∀ task ∈ before.agenda.head?, KeepsStopped before.state task input := by
      refine fun task head => ⟨fun proceeds same => ?_, not_startsUnhanded was⟩
      subst same
      exact activates ⟨proceeds, head⟩
    have onFailure : before.state.isActive = true →
        config.findAction "onFailure" = some .onFailure := fun active => absurd active notActive
    refine .inl ⟨?_, bound, stopped.step sound onFailure keeps stepped⟩
    obtain ⟨_, after⟩ | ⟨task, _, _, _, _, after | ⟨_, _, state, _⟩⟩ :=
      stopped.step_cases sound onFailure keeps stepped
    · exact (after .updateWaypoint).isActive.trans was
    · exact after.isActive.trans was
    · rw [state]
      exact onDeactivate_isActive

/-- Steps of an active executor: it stays active, or the deactivation hook runs, which is the only
one to save the state. -/
theorem active_step {before next : Config} (was : before.state.isActive = true)
    (inactive : Inactive config before)
    (stepped : (machine config).step before input = some next) :
    (next.state.isActive = true ∧ .savePersistentState ∉ next.agenda) ∨
      ∃ reason rest, before.agenda = .modeExecutor (.hook (.onDeactivate reason)) :: rest ∧
        next.state = (before.state.onDeactivate config).1 ∧
        next.agenda = (before.state.onDeactivate config).2 ++ rest := by
  have notYet : .savePersistentState ∉ before.agenda := by
    intro member
    rw [inactive.saves member] at was
    cases was
  obtain ⟨empty, state, tasks, taken, rfl⟩ | ⟨task, rest, state, tasks, agenda, executed, rfl⟩ :=
    Lib.Machine.step_cases stepped
  · refine .inl ?_
    obtain routine | ⟨msg, _, same⟩ := idle_cases taken
    · exact ⟨routine.state.isActive.trans was,
        fun member => (plain_of_isRoutine (routine.tasks _ member)).saves rfl⟩
    · cases same
      refine ⟨was, fun member => ?_⟩
      obtain ⟨_, _, same⟩ := List.mem_map.mp member
      cases same
  · have notRest : .savePersistentState ∉ rest :=
      fun member => notYet (agenda ▸ List.mem_cons_of_mem _ member)
    have inTasks : .savePersistentState ∈ tasks ++ rest → .savePersistentState ∈ tasks :=
      fun member => (List.mem_append.mp member).resolve_right notRest
    have active_of : ∀ {base : MissionExecutor} {calls : List Task}, Inner base (state, calls) →
        base.isActive = true → state.isActive = true ∧ .savePersistentState ∉ calls := by
      intro base calls inner baseActive
      have active := inner.frame.isActive.trans baseActive
      refine ⟨active, fun member => ?_⟩
      rw [inner.saves member] at active
      cases active
    generalize made : (state, tasks) = after at executed
    cases (exec_does executed).outcome with
    | inner inner =>
        subst made
        have active := active_of inner was
        exact .inl ⟨active.1, fun member => active.2 (inTasks member)⟩
    | onActivate =>
        have inner : Inner before.state.activated (state, tasks) := made ▸ inner_onActivate
        have active := active_of inner rfl
        exact .inl ⟨active.1, fun member => active.2 (inTasks member)⟩
    | onDeactivate reason =>
        exact .inr ⟨reason, rest, agenda, congrArg Prod.fst made,
          congrArg (fun after => after.2 ++ rest) made⟩
    | again =>
        cases made
        rw [agenda] at notYet
        exact .inl ⟨was, notYet⟩
    | modeExecutor =>
        cases made
        refine .inl ⟨was, fun member => ?_⟩
        obtain ⟨_, _, same⟩ := List.mem_map.mp (inTasks member)
        cases same
    | runCustom | enterRun =>
        cases made
        exact .inl ⟨was, fun member => by simpa using inTasks member⟩
    | @aborts _ last _ _ calls _ step =>
        cases made
        have active := active_of step.calls was
        have aborting := step.aborting
        refine .inl ⟨active.1, fun member => ?_⟩
        rcases List.mem_append.mp (inTasks member) with first | final
        · exact active.2 first
        · rw [← List.mem_singleton.mp final] at aborting
          cases aborting
    | abortEnd =>
        cases made
        exact .inl ⟨was, notRest⟩

theorem inactive_next {before next : Config} (sound : Sound before)
    (inactive : Inactive config before)
    (stepped : (machine config).step before input = some next) : Inactive config next := by
  cases was : before.state.isActive with
  | false =>
      obtain ⟨stays, stopped⟩ | ⟨active, rest, agenda, agenda'⟩ :=
        inactive_step sound inactive was stepped
      · exact ⟨fun _ => stopped, fun _ => stays⟩
      · refine ⟨fun stays => ?_, fun member => ?_⟩
        · rw [active] at stays
          cases stays
        · rw [agenda'] at member
          rcases List.mem_append.mp member with first | later
          · have none := inner_onActivate.saves first
            rw [onActivate_isActive] at none
            cases none
          · have status := isModeExecutor_of_status sound.ordered agenda rfl _ later
            cases status
  | true =>
      obtain ⟨active, unsaved⟩ | ⟨reason, rest, agenda, state, agenda'⟩ :=
        active_step was inactive stepped
      · refine ⟨fun stays => ?_, fun member => absurd member unsaved⟩
        rw [active] at stays
        cases stays
      · refine ⟨fun _ => ⟨_, stopped_of_onDeactivate sound agenda state agenda'⟩, fun _ => ?_⟩
        rw [state]
        exact onDeactivate_isActive

theorem inactive_initial : Inactive config (initial registered id ownedMode file) := by
  refine ⟨fun _ => ⟨0, ⟨⟨?_, ?_, ?_, ?_, ?_⟩, by simp [initial]⟩, Nat.zero_le _,
    by simp [initial], by simp [initial]⟩, by simp [initial]⟩ <;>
    simp [initial, ModeExecutorBase.heldCallbacks]

theorem reaches_inactive {reached : Config}
    (reaches : (machine config).Reaches guard (initial registered id ownedMode file) reached) :
    Inactive config reached := by
  induction reaches with
  | refl => exact inactive_initial
  | step reaches _ stepped inactive => exact inactive_next (reaches_sound reaches) inactive stepped

end Px4Ros2.MissionExecutor
