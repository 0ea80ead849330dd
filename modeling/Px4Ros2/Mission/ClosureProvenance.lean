import Px4Ros2.Components.CallbackConservation
import Px4Ros2.Mission.MissionEffects

/-! Where the function objects of the mission executor come from. They are passed on from place to
place, among them user code, but only a few functions make new ones. -/

set_option autoImplicit false

namespace Px4Ros2

/-- Which lambdas of the mission executor there may be, by what they captured. -/
structure Provenance where
  nextItem : HandlerId → Nat → Prop
  resumed : HandlerId → Option Int → Prop
  navigate : HandlerId → Prop
  segment : HandlerId → Int → Prop

def Closure.From (made : Provenance) : Closure → Prop
  | .noop => True
  | .nextItem handler start => made.nextItem handler start
  | .resumed handler previousIndex => made.resumed handler previousIndex
  | .navigateToPreviousWaypoint handler onCompleted _ =>
      made.navigate handler ∧ onCompleted.From made
  | .descend _ onCompleted => onCompleted.From made
  | .trajectoryFailure => True
  | .user _ => True

def IndexClosure.From (made : Provenance) : IndexClosure → Prop
  | .segment handler endIndex => made.segment handler endIndex
  | .customTrajectory onCompleted _ => onCompleted.From made

structure ModeCallback.From (made : Provenance) (callback : ModeCallback) : Prop where
  onCompleted : callback.onCompleted.From made
  onFailure : ∀ closure ∈ callback.onFailure, closure.From made

structure TrajectoryConfig.From (made : Provenance) (trajectory : TrajectoryConfig) : Prop where
  onIndexReached : trajectory.onIndexReached.From made
  onFailure : trajectory.onFailure.From made

/-- One provenance allows more lambdas than another one. -/
structure Provenance.Within (made more : Provenance) : Prop where
  nextItem : ∀ handler start, made.nextItem handler start → more.nextItem handler start
  resumed : ∀ handler previousIndex, made.resumed handler previousIndex →
    more.resumed handler previousIndex
  navigate : ∀ handler, made.navigate handler → more.navigate handler
  segment : ∀ handler endIndex, made.segment handler endIndex → more.segment handler endIndex

theorem Closure.From.mono {made more : Provenance} (within : made.Within more)
    {closure : Closure} (holds : closure.From made) : closure.From more := by
  induction closure with
  | noop | trajectoryFailure | user => trivial
  | nextItem handler start => exact within.nextItem _ _ holds
  | resumed handler previousIndex => exact within.resumed _ _ holds
  | navigateToPreviousWaypoint handler onCompleted index ih =>
      exact ⟨within.navigate _ holds.1, ih holds.2⟩
  | descend handler onCompleted ih => exact ih holds

theorem IndexClosure.From.mono {made more : Provenance} (within : made.Within more)
    {closure : IndexClosure} (holds : closure.From made) : closure.From more := by
  cases closure with
  | segment handler endIndex => exact within.segment _ _ holds
  | customTrajectory onCompleted endIndex => exact Closure.From.mono within holds

theorem ModeCallback.From.mono {made more : Provenance} (within : made.Within more)
    {callback : ModeCallback} (holds : callback.From made) : callback.From more :=
  ⟨holds.onCompleted.mono within, fun closure member => (holds.onFailure closure member).mono within⟩

theorem TrajectoryConfig.From.mono {made more : Provenance} (within : made.Within more)
    {trajectory : TrajectoryConfig} (holds : trajectory.From made) : trajectory.From more :=
  ⟨IndexClosure.From.mono within holds.onIndexReached, holds.onFailure.mono within⟩

namespace MissionExecutor

/-- Every place of the state that holds function objects. -/
structure ClosuresFrom (made : Provenance) (executor : MissionExecutor) : Prop where
  scheduled : ∀ callback ∈ executor.modeExecutor.heldCallbacks, callback.From made
  holdTimer : ∀ closure ∈ executor.holdTimer, closure.From made
  trajectory : ∀ trajectory ∈ executor.currentTrajectory, trajectory.From made
  userClosures : ∀ closure ∈ executor.userClosures, closure.From made
  userIndexClosures : ∀ closure ∈ executor.userIndexClosures, closure.From made

def Entry.From (made : Provenance) : Entry → Prop
  | .run _ _ _ onCompleted => onCompleted.From made
  | .runTrajectory trajectory => trajectory.From made
  | _ => True

def Task.From (made : Provenance) : Task → Prop
  | .modeExecutor task => ∀ callback ∈ task.callbacks, callback.From made
  | .enter entry => entry.From made
  | .call closure => closure.From made
  | .callIndex closure _ => closure.From made
  | .run _ _ _ onCompleted => onCompleted.From made
  | .startHoldTimer onCompleted => onCompleted.From made
  | _ => True

/-- A state together with tasks to do. -/
structure AllFrom (made : Provenance) (after : MissionExecutor × List Task) : Prop where
  state : after.1.ClosuresFrom made
  tasks : ∀ task ∈ after.2, task.From made

theorem Entry.From.mono {made more : Provenance} (within : made.Within more) {entry : Entry}
    (holds : entry.From made) : entry.From more := by
  cases entry with
  | run => exact Closure.From.mono within holds
  | runTrajectory => exact TrajectoryConfig.From.mono within holds
  | _ => trivial

theorem Task.From.mono {made more : Provenance} (within : made.Within more) {task : Task}
    (holds : task.From made) : task.From more := by
  cases task with
  | modeExecutor => exact fun callback member => (holds callback member).mono within
  | enter => exact Entry.From.mono within holds
  | callIndex => exact IndexClosure.From.mono within holds
  | call | run | startHoldTimer => exact Closure.From.mono within holds
  | _ => trivial

theorem AllFrom.mono {made more : Provenance} (within : made.Within more)
    {after : MissionExecutor × List Task} (holds : AllFrom made after) : AllFrom more after := by
  obtain ⟨⟨scheduled, holdTimer, trajectory, userClosures, userIndexClosures⟩, tasks⟩ := holds
  refine ⟨⟨?_, ?_, ?_, ?_, ?_⟩, fun task member => (tasks task member).mono within⟩
  · exact fun callback member => (scheduled callback member).mono within
  · exact fun closure member => (holdTimer closure member).mono within
  · exact fun config member => (trajectory config member).mono within
  · exact fun closure member => (userClosures closure member).mono within
  · exact fun closure member => (userIndexClosures closure member).mono within

/-- The lambdas that a task makes when it is executed. -/
structure Admits (made : Provenance) (config : Configuration) (executor : MissionExecutor)
    (task : Task) : Prop where
  item : (∃ resuming, task = .runCurrentMissionItem resuming) → executor.isActive = true →
    made.nextItem executor.actionHandler executor.starts ∧
      ∀ endIndex, made.segment executor.actionHandler endIndex
  resumed : (∃ startFromBeginning, task = .onActivateRun startFromBeginning ∨
      ∃ previous, task = .onActivatedReturned previous startFromBeginning ∧
        executor.isValid previous = true) → executor.isActive = true →
    made.resumed executor.actionHandler executor.state.currentIndex
  navigate : ∀ name handler arguments onCompleted, task = .run name handler arguments onCompleted →
    config.findAction name = some .onResume → executor.isActive = true →
    executor.isValid handler = true → made.navigate handler

variable {made : Provenance} {config : Configuration} {executor : MissionExecutor}

theorem ClosuresFrom.congr {before after : MissionExecutor} (holds : before.ClosuresFrom made)
    (scheduled : after.modeExecutor.heldCallbacks = before.modeExecutor.heldCallbacks)
    (holdTimer : after.holdTimer = before.holdTimer)
    (trajectory : after.currentTrajectory = before.currentTrajectory)
    (userClosures : after.userClosures = before.userClosures)
    (userIndexClosures : after.userIndexClosures = before.userIndexClosures) :
    after.ClosuresFrom made := by
  constructor
  · rw [scheduled]
    exact holds.scheduled
  · rw [holdTimer]
    exact holds.holdTimer
  · rw [trajectory]
    exact holds.trajectory
  · rw [userClosures]
    exact holds.userClosures
  · rw [userIndexClosures]
    exact holds.userIndexClosures

/-! The mode executor. -/

theorem allFrom_applyModeExecutor (holds : executor.ClosuresFrom made)
    {after : ModeExecutorBase ModeCallback × List (ModeExecutorBase.Task ModeCallback)}
    (callbacks : ModeExecutorBase.AllCallbacks (ModeCallback.From made) after) :
    AllFrom made (executor.applyModeExecutor after) := by
  constructor
  · exact ⟨callbacks.1, holds.holdTimer, holds.trajectory, holds.userClosures,
      holds.userIndexClosures⟩
  · intro task member
    obtain ⟨task', member', rfl⟩ := List.mem_map.mp member
    exact callbacks.2 task' member'

theorem allFrom_runMode (holds : executor.ClosuresFrom made) (modeId : ModeID)
    {onCompleted : Closure} {onFailure : Option Closure} (completed : onCompleted.From made)
    (failed : ∀ closure ∈ onFailure, closure.From made) :
    AllFrom made (executor.runMode modeId onCompleted onFailure) := by
  have passed : ModeCallback.From made ⟨onCompleted, onFailure⟩ := ⟨completed, failed⟩
  unfold runMode
  split
  · exact ⟨holds, by simp⟩
  · refine allFrom_applyModeExecutor ?_
      (ModeExecutorBase.scheduleModeCommand_allCallbacks _ _ _ holds.scheduled passed)
    exact holds.congr rfl rfl rfl rfl rfl

theorem allFrom_runModeTakeoff (holds : executor.ClosuresFrom made) (altitude heading : Param)
    {onCompleted : Closure} {onFailure : Option Closure} (completed : onCompleted.From made)
    (failed : ∀ closure ∈ onFailure, closure.From made) :
    AllFrom made (executor.runModeTakeoff altitude heading onCompleted onFailure) := by
  have passed : ModeCallback.From made ⟨onCompleted, onFailure⟩ := ⟨completed, failed⟩
  unfold runModeTakeoff
  split
  · exact ⟨holds, by simp⟩
  · refine allFrom_applyModeExecutor ?_
      (ModeExecutorBase.scheduleModeCommand_allCallbacks _ _ _ holds.scheduled passed)
    exact holds.congr rfl rfl rfl rfl rfl

theorem allFrom_modeFinished (holds : executor.ClosuresFrom made) {callback : ModeCallback}
    (passed : callback.From made) (result : Result) :
    AllFrom made (executor.modeFinished callback result) := by
  unfold modeFinished
  split
  · exact ⟨holds, by simpa [Task.From] using passed.onCompleted⟩
  · split
    · refine ⟨holds.congr rfl rfl rfl rfl rfl, ?_⟩
      cases failure : callback.onFailure with
      | none => simp [Task.From]
      | some onFailure => simpa [Task.From] using passed.onFailure onFailure failure
    · exact ⟨holds, by simp⟩

/-! Items of the mission. -/

theorem allFrom_runAction (holds : executor.ClosuresFrom made) (name : String)
    (arguments : ActionArguments) {onCompleted : Closure} (completed : onCompleted.From made) :
    AllFrom made (executor.runAction config name arguments onCompleted) := by
  unfold runAction
  split
  · exact ⟨holds, by simp⟩
  · refine ⟨holds.congr rfl rfl rfl rfl rfl, ?_⟩
    dsimp only
    split
    · simp [Task.From]
    · simpa [Task.From] using completed

theorem allFrom_runTrajectory (holds : executor.ClosuresFrom made) (trajectory : Mission)
    (startIndex endIndex : Int) {onIndexReached : IndexClosure} (stopAtLast : Bool)
    (reached : onIndexReached.From made) :
    AllFrom made (executor.runTrajectory config trajectory startIndex endIndex onIndexReached
      stopAtLast) := by
  unfold runTrajectory
  split
  · exact ⟨holds, by simp⟩
  · have passed : TrajectoryConfig.From made
        { trajectory, options := executor.trajectoryOptions, startIndex, endIndex, stopAtLast
          onIndexReached, onFailure := .trajectoryFailure } := ⟨reached, trivial⟩
    dsimp only
    split
    · refine ⟨holds, ?_⟩
      simpa [Task.From, Entry.From] using passed
    · refine ⟨⟨holds.scheduled, holds.holdTimer, ?_, holds.userClosures,
        holds.userIndexClosures⟩, by simp [Task.From]⟩
      simpa using passed

theorem allFrom_switchToTrajectory (holds : executor.ClosuresFrom made) :
    AllFrom made executor.switchToTrajectory := by
  unfold switchToTrajectory
  split
  · have switched := @allFrom_runMode made executor holds executor.modeId .noop none trivial
      (by simp)
    refine ⟨switched.state, ?_⟩
    intro task member
    rcases List.mem_append.mp member with started | last
    · exact switched.tasks task started
    · rw [List.mem_singleton.mp last]
      trivial
  · exact ⟨holds, by simp [Task.From]⟩

theorem from_clearActivityInfo : ∀ task ∈ executor.clearActivityInfo, task.From made := by
  unfold clearActivityInfo setActivityInfo
  split
  · split <;> simp [Task.From, Entry.From]
  · simp

theorem closuresFrom_reportIndex (holds : executor.ClosuresFrom made) (index : Int) :
    (executor.reportIndex index).ClosuresFrom made := by
  unfold reportIndex
  split <;> split <;> exact holds.congr rfl rfl rfl rfl rfl

theorem allFrom_setCurrentMissionIndex (holds : executor.ClosuresFrom made) (index : Int) :
    AllFrom made (executor.setCurrentMissionIndex index) := by
  refine ⟨closuresFrom_reportIndex ?_ index, from_clearActivityInfo⟩
  exact holds.congr rfl rfl rfl rfl rfl

/-- More tasks of a kind that carries nothing. -/
theorem AllFrom.append {after : MissionExecutor × List Task} (holds : AllFrom made after)
    {tasks : List Task} (more : ∀ task ∈ tasks, task.From made) :
    AllFrom made (after.1, after.2 ++ tasks) := by
  refine ⟨holds.state, fun task member => ?_⟩
  rcases List.mem_append.mp member with first | second
  · exact holds.tasks task first
  · exact more task second

theorem allFrom_runMissionItem (holds : executor.ClosuresFrom made)
    (item : executor.isActive = true → made.nextItem executor.actionHandler executor.starts ∧
      ∀ endIndex, made.segment executor.actionHandler endIndex)
    (resuming : Bool) (index : Int) (missionItem : MissionItem) :
    AllFrom made (executor.runMissionItem config resuming index missionItem) := by
  by_cases active : executor.isActive = true
  · unfold runMissionItem
    split
    · exact allFrom_runTrajectory holds _ _ _ _ ((item active).2 _)
    · split
      · exact ⟨holds.congr rfl rfl rfl rfl rfl, by simp [crash]⟩
      · have completed : Closure.From made (.nextItem executor.actionHandler executor.starts) :=
          (item active).1
        refine allFrom_runAction ?_ _ _ completed
        exact holds.congr rfl rfl rfl rfl rfl
  · unfold runMissionItem
    split
    · simp only [runTrajectory, active]
      exact ⟨holds, by simp⟩
    · split
      · exact ⟨holds.congr rfl rfl rfl rfl rfl, by simp [crash]⟩
      · simp only [runAction, active]
        exact ⟨holds.congr rfl rfl rfl rfl rfl, by simp⟩

theorem allFrom_runCurrentMissionItem (holds : executor.ClosuresFrom made)
    (item : executor.isActive = true → made.nextItem executor.actionHandler executor.starts ∧
      ∀ endIndex, made.segment executor.actionHandler endIndex) (resuming : Bool) :
    AllFrom made (executor.runCurrentMissionItem config resuming) := by
  have hold := @allFrom_runMode made executor holds kModeIDLoiter .noop none trivial (by simp)
  unfold runCurrentMissionItem
  split
  · exact hold
  · split
    · split
      · exact ⟨holds, by simp⟩
      · exact hold
    · exact allFrom_runMissionItem holds item _ _ _

/-! Activation and deactivation. -/

theorem allFrom_startMission (holds : executor.ClosuresFrom made)
    (resumed : executor.isActive = true →
      made.resumed executor.actionHandler executor.state.currentIndex)
    (startFromBeginning : Bool) :
    AllFrom made (executor.startMission config startFromBeginning) := by
  unfold startMission
  split
  · exact ⟨holds.congr rfl rfl rfl rfl rfl, by simp [Task.From]⟩
  · have stored : executor.getOnResumeStateAndClear.1.ClosuresFrom made ∧
        executor.getOnResumeStateAndClear.1.isActive = executor.isActive := by
      unfold getOnResumeStateAndClear
      split
      · exact ⟨holds.congr rfl rfl rfl rfl rfl, rfl⟩
      · exact ⟨holds, rfl⟩
    dsimp only
    split
    · exact ⟨stored.1.congr rfl rfl rfl rfl rfl, by simp [crash]⟩
    · by_cases active : executor.isActive = true
      · have completed : Closure.From made
            (.resumed executor.actionHandler executor.state.currentIndex) := resumed active
        exact allFrom_runAction stored.1 _ _ completed
      · simp only [runAction, stored.2, active]
        exact ⟨stored.1, by simp⟩

theorem allFrom_onActivateRun (holds : executor.ClosuresFrom made)
    (resumed : executor.isActive = true →
      made.resumed executor.actionHandler executor.state.currentIndex)
    (startFromBeginning : Bool) :
    AllFrom made (executor.onActivateRun config startFromBeginning) := by
  unfold onActivateRun
  split
  · exact ⟨holds, by simp [Task.From, Entry.From]⟩
  · exact allFrom_startMission holds resumed _

theorem allFrom_onActivatedReturned (holds : executor.ClosuresFrom made)
    (previousHandler : HandlerId)
    (resumed : executor.isValid previousHandler = true → executor.isActive = true →
      made.resumed executor.actionHandler executor.state.currentIndex)
    (startFromBeginning : Bool) :
    AllFrom made (executor.onActivatedReturned config previousHandler startFromBeginning) := by
  unfold onActivatedReturned
  split
  · rename_i valid
    exact allFrom_startMission holds (resumed valid) _
  · exact ⟨holds, by simp⟩

theorem from_runStoredActions (actions : List ActionState) :
    ∀ task ∈ executor.runStoredActions config actions, task.From made := by
  cases actions with
  | nil => simp [runStoredActions]
  | cons action rest =>
      simp only [runStoredActions]
      split
      · simp [Task.From]
      · split <;> simp [Task.From, Closure.From]

theorem allFrom_onActivate (holds : executor.ClosuresFrom made) :
    AllFrom made executor.onActivate := by
  have activated : executor.activated.ClosuresFrom made := holds.congr rfl rfl rfl rfl rfl
  unfold onActivate
  split
  · exact ⟨activated, by simp [Task.From]⟩
  · exact (allFrom_setCurrentMissionIndex activated _).append (by simp [Task.From])

theorem allFrom_onDeactivate (holds : executor.ClosuresFrom made) :
    AllFrom made (executor.onDeactivate config) := by
  have deactivated : executor.deactivated.ClosuresFrom made := holds.congr rfl rfl rfl rfl rfl
  unfold onDeactivate
  split
  · refine ⟨?_, by simp [Task.From]⟩
    unfold clearPersistentState
    split <;> exact deactivated.congr rfl rfl rfl rfl rfl
  · refine ⟨deactivated, ?_⟩
    unfold runOnResumeStoreState
    split <;> simp [Task.From, Closure.From]

theorem from_deactivateAllActions :
    ∀ task ∈ deactivateAllActions config, task.From made := by
  intro task member
  obtain ⟨entry, _, rfl⟩ := List.mem_map.mp member
  trivial

theorem allFrom_resumed (holds : executor.ClosuresFrom made) (handler : HandlerId)
    (previousIndex : Option Int) : AllFrom made (executor.resumed handler previousIndex) := by
  unfold resumed
  split
  · split
    · exact ⟨holds.congr rfl rfl rfl rfl rfl, by simp [Task.From]⟩
    · exact ⟨holds.congr rfl rfl rfl rfl rfl, by simp [Task.From]⟩
  · exact ⟨holds, by simp⟩

theorem allFrom_segmentReached (holds : executor.ClosuresFrom made) (handler : HandlerId)
    (endIndex index : Int) : AllFrom made (executor.segmentReached handler endIndex index) := by
  unfold segmentReached
  split
  · refine (allFrom_setCurrentMissionIndex holds _).append ?_
    split <;> simp [Task.From]
  · exact ⟨holds, by simp⟩

theorem allFrom_abortRunOnFailure (holds : executor.ClosuresFrom made) (reason : AbortReason) :
    AllFrom made (executor.abortRunOnFailure config reason) := by
  have raised : ClosuresFrom made
      { executor with abortRecursionLevel := executor.abortRecursionLevel + 1 } :=
    holds.congr rfl rfl rfl rfl rfl
  unfold abortRunOnFailure
  dsimp only
  split
  · exact ⟨raised, by simp [Task.From]⟩
  · exact (@allFrom_runAction _ config _ raised _ _ .noop trivial).append (by simp [Task.From])

/-! Handlers and actions. -/

/-- The function objects that user code passes to an operation. -/
def HandlerOp.From (made : Provenance) : HandlerOp → Prop
  | .runMode _ onCompleted onFailure =>
      onCompleted.From made ∧ ∀ closure ∈ onFailure, closure.From made
  | .runModeTakeoff _ _ onCompleted onFailure =>
      onCompleted.From made ∧ ∀ closure ∈ onFailure, closure.From made
  | .runAction _ _ onCompleted => onCompleted.From made
  | .runTrajectory _ onCompleted _ => onCompleted.From made
  | _ => True

theorem allFrom_runCustomTrajectory (holds : executor.ClosuresFrom made) (trajectory : Mission)
    {onCompleted : Closure} (stopAtLast : Bool) (completed : onCompleted.From made) :
    AllFrom made (executor.runCustomTrajectory config trajectory onCompleted stopAtLast) := by
  unfold runCustomTrajectory
  split
  · exact ⟨holds, by simpa [Task.From] using completed⟩
  · split
    · have reached : IndexClosure.From made
          (.customTrajectory onCompleted (trajectory.items.length - 1)) := completed
      exact allFrom_runTrajectory holds _ _ _ _ reached
    · exact ⟨holds, by simp [Task.From]⟩

theorem allFrom_handlerOp (holds : executor.ClosuresFrom made) (handler : HandlerId)
    {op : HandlerOp} (passed : op.From made) :
    AllFrom made (executor.handlerOp config handler op) := by
  unfold handlerOp
  split
  · exact ⟨holds, by simp⟩
  · cases op with
    | runMode => exact allFrom_runMode holds _ passed.1 passed.2
    | runModeTakeoff => exact allFrom_runModeTakeoff holds _ _ passed.1 passed.2
    | runAction => exact allFrom_runAction holds _ _ passed
    | runTrajectory => exact allFrom_runCustomTrajectory holds _ _ passed
    | setActivityInfo | clearActivityInfo =>
        refine ⟨holds, ?_⟩
        simp only [handlerCall, setActivityInfo]
        split <;> simp [Task.From, Entry.From]
    | setCurrentMissionIndex =>
        simp only [handlerCall]
        split
        · exact allFrom_setCurrentMissionIndex holds _
        · exact ⟨holds, by simp⟩
    | deferFailsafes =>
        refine ⟨holds.congr rfl rfl rfl rfl rfl, ?_⟩
        simp only [handlerCall, deferFailsafes]
        split <;> simp [Task.From]
    | storeState | clearTrajectoryOptions | setTrajectoryOptions | controlAutoSetHome
    | onFailsafeDeferred => exact ⟨holds.congr rfl rfl rfl rfl rfl, by simp [handlerCall]⟩

theorem allFrom_navigateToPreviousWaypoint (holds : executor.ClosuresFrom made)
    (handler : HandlerId) {onCompleted : Closure} (currentMissionIndex : Int)
    (completed : onCompleted.From made) :
    AllFrom made (executor.navigateToPreviousWaypoint config handler onCompleted
      currentMissionIndex) := by
  unfold navigateToPreviousWaypoint
  split
  · exact allFrom_handlerOp holds _ completed
  · exact ⟨holds, by simpa [Task.From] using completed⟩

/-- An action runs only for a valid handler of an active mission. -/
theorem handlerOp_runAction_unusable {handler : HandlerId} {name : String}
    {arguments : ActionArguments} {onCompleted : Closure}
    (unusable : ¬ (executor.isActive = true ∧ executor.isValid handler = true)) :
    executor.handlerOp config handler (.runAction name arguments onCompleted) = (executor, []) := by
  unfold handlerOp
  split
  · rfl
  · rename_i valid
    have inactive : executor.isActive ≠ true := by
      intro active
      refine unusable ⟨active, ?_⟩
      simpa [HandlerOp.checksValid] using valid
    simp [handlerCall, runAction, inactive]

theorem allFrom_resumeFromUnexpectedLanding (holds : executor.ClosuresFrom made)
    (handler : HandlerId) {onCompleted : Closure} (currentMissionIndex : Int)
    (completed : onCompleted.From made)
    (navigate : executor.isActive = true → executor.isValid handler = true →
      made.navigate handler) :
    AllFrom made (executor.resumeFromUnexpectedLanding config handler onCompleted
      currentMissionIndex) := by
  unfold resumeFromUnexpectedLanding
  split
  · refine (allFrom_handlerOp holds handler ?_).append (by simpa [Task.From] using completed)
    trivial
  · split
    · by_cases usable : executor.isActive = true ∧ executor.isValid handler = true
      · exact allFrom_handlerOp holds handler ⟨navigate usable.1 usable.2, completed⟩
      · rw [handlerOp_runAction_unusable usable]
        exact ⟨holds, by simp⟩
    · exact ⟨holds, by simpa [Task.From] using completed⟩

theorem allFrom_runOnResume (holds : executor.ClosuresFrom made) (handler : HandlerId)
    (arguments : ActionArguments) {onCompleted : Closure} (completed : onCompleted.From made)
    (navigate : executor.isActive = true → executor.isValid handler = true →
      made.navigate handler) :
    AllFrom made (executor.runOnResume config handler arguments onCompleted) := by
  have called : AllFrom made (executor, [Task.call onCompleted]) :=
    ⟨holds, by simpa [Task.From] using completed⟩
  unfold runOnResume
  split
  · exact ⟨holds.congr rfl rfl rfl rfl rfl, by simp [crash]⟩
  · split
    · exact ⟨holds, by simp⟩
    · dsimp only
      split
      · exact called
      · split
        · exact allFrom_resumeFromUnexpectedLanding holds _ _ completed navigate
        · exact called

theorem allFrom_setChangeSettingsState (holds : executor.ClosuresFrom made)
    (keeper : Option ActionID) : AllFrom made (executor.setChangeSettingsState keeper) := by
  refine ⟨holds.congr rfl rfl rfl rfl rfl, ?_⟩
  intro task member
  obtain ⟨id, _, rfl⟩ := List.mem_map.mp member
  trivial

theorem allFrom_storeSettings (holds : executor.ClosuresFrom made) (handler : HandlerId)
    (options : Json) : AllFrom made (executor.storeSettings handler options) := by
  unfold storeSettings
  split
  · exact allFrom_setChangeSettingsState (by exact holds.congr rfl rfl rfl rfl rfl) _
  · exact allFrom_setChangeSettingsState holds none

theorem allFrom_runChangeSettings (holds : executor.ClosuresFrom made) (handler : HandlerId)
    (arguments : ActionArguments) {onCompleted : Closure} (completed : onCompleted.From made) :
    AllFrom made (executor.runChangeSettings config handler arguments onCompleted) := by
  have called : ∀ task ∈ [Task.call onCompleted], task.From made := by
    simpa [Task.From] using completed
  have crashed : AllFrom made executor.crash :=
    ⟨holds.congr rfl rfl rfl rfl rfl, by simp [crash]⟩
  unfold runChangeSettings
  split
  · exact crashed
  · have cleared := @allFrom_handlerOp _ config _ holds handler .clearTrajectoryOptions trivial
    exact (allFrom_setChangeSettingsState cleared.state none).append called
  · split
    · exact crashed
    · split
      · exact crashed
      · rename_i options _ _ json _
        have changed :=
          @allFrom_handlerOp _ config _ holds handler (.setTrajectoryOptions options) trivial
        exact (allFrom_storeSettings changed.state handler json).append called

theorem allFrom_run (holds : executor.ClosuresFrom made) (name : String) (handler : HandlerId)
    (arguments : ActionArguments) {onCompleted : Closure} (completed : onCompleted.From made)
    (navigate : config.findAction name = some .onResume → executor.isActive = true →
      executor.isValid handler = true → made.navigate handler) :
    AllFrom made (executor.run config name handler arguments onCompleted) := by
  unfold run
  split
  · exact ⟨holds, by simp⟩
  · exact allFrom_handlerOp holds _ ⟨completed, by simp⟩
  · exact allFrom_handlerOp holds _ ⟨completed, by simp⟩
  · split
    · exact ⟨holds.congr rfl rfl rfl rfl rfl, by simp [crash]⟩
    · exact allFrom_handlerOp holds _ ⟨completed, by simp⟩
  · split
    · exact ⟨holds.congr rfl rfl rfl rfl rfl, by simp [crash]⟩
    · have loiter : HandlerOp.From made (.runMode kModeIDLoiter .noop none) :=
        ⟨trivial, by simp⟩
      refine (allFrom_handlerOp holds _ loiter).append ?_
      simpa [Task.From] using completed
  · rename_i action
    exact allFrom_runOnResume holds _ _ completed (navigate action)
  · refine allFrom_handlerOp holds _ ⟨completed, ?_⟩
    simpa [Closure.From] using completed
  · exact allFrom_runChangeSettings holds _ _ completed
  · exact ⟨holds, by simpa [Task.From, Entry.From] using completed⟩

theorem allFrom_deactivateAction (holds : executor.ClosuresFrom made) (name : String) :
    AllFrom made (executor.deactivateAction config name) := by
  unfold deactivateAction
  split
  · exact ⟨⟨holds.scheduled, by simp, holds.trajectory, holds.userClosures,
      holds.userIndexClosures⟩, by simp⟩
  · exact allFrom_setChangeSettingsState holds none
  · exact ⟨holds, by simp [Task.From, Entry.From]⟩
  · exact ⟨holds, by simp⟩

theorem allFrom_call (holds : executor.ClosuresFrom made) {closure : Closure}
    (called : closure.From made) : AllFrom made (executor.call config closure) := by
  cases closure with
  | noop => exact ⟨holds, by simp [call]⟩
  | nextItem handler start =>
      refine ⟨holds, ?_⟩
      simp only [call]
      split <;> simp [Task.From]
  | resumed handler previousIndex => exact allFrom_resumed holds _ _
  | navigateToPreviousWaypoint handler onCompleted index =>
      exact allFrom_navigateToPreviousWaypoint holds _ _ called.2
  | descend handler onCompleted =>
      exact allFrom_handlerOp holds _ ⟨called, by simp [Closure.From]⟩
  | trajectoryFailure => exact ⟨holds, by simp [call, Task.From]⟩
  | user tag => exact ⟨holds, by simp [call, Task.From, Entry.From]⟩

theorem allFrom_callIndex (holds : executor.ClosuresFrom made) (index : Int)
    {closure : IndexClosure} (called : closure.From made) :
    AllFrom made (executor.callIndex index closure) := by
  cases closure with
  | segment handler endIndex => exact allFrom_segmentReached holds _ _ _
  | customTrajectory onCompleted endIndex =>
      refine ⟨holds, ?_⟩
      simp only [callIndex]
      split
      · simpa [Task.From, IndexClosure.From] using called
      · simp

theorem allFrom_updateSetpoint (holds : executor.ClosuresFrom made) :
    AllFrom made (executor.updateSetpoint config) := by
  unfold updateSetpoint
  split
  · exact ⟨holds, by simp⟩
  · split <;> exact ⟨holds, by simp [Task.From, Entry.From]⟩

theorem allFrom_continueNextItem (holds : executor.ClosuresFrom made)
    {trajectory : TrajectoryConfig} (passed : trajectory.From made) (index : Int) :
    AllFrom made (executor.continueNextItem trajectory index) :=
  ⟨holds.congr rfl rfl rfl rfl rfl, by
    simpa [continueNextItem, Task.From] using passed.onIndexReached⟩

theorem allFrom_updateWaypoint (holds : executor.ClosuresFrom made)
    (positionValid positionReached : Bool) :
    AllFrom made (executor.updateWaypoint positionValid positionReached) := by
  unfold updateWaypoint
  split
  · rename_i trajectory index current _
    have passed := holds.trajectory trajectory current
    split
    · split
      · exact ⟨holds, by simpa [Task.From] using passed.onFailure⟩
      · split
        · exact allFrom_continueNextItem holds passed index
        · exact ⟨holds, by simp⟩
    · exact allFrom_continueNextItem holds passed index
  · exact ⟨holds, by simp⟩

/-! The process. -/

theorem allFrom_enter (holds : executor.ClosuresFrom made) {entry : Entry}
    (handed : entry.From made) : AllFrom made (executor.enter entry) := by
  cases entry with
  | run name handler arguments onCompleted =>
      refine ⟨⟨holds.scheduled, holds.holdTimer, holds.trajectory, ?_,
        holds.userIndexClosures⟩, by simp [enter, Task.From]⟩
      intro closure member
      rcases List.mem_cons.mp member with rfl | known
      · exact handed
      · exact holds.userClosures closure known
  | runTrajectory trajectory =>
      refine ⟨⟨holds.scheduled, holds.holdTimer, holds.trajectory, ?_, ?_⟩,
        by simp [enter, Task.From]⟩
      · intro closure member
        rcases List.mem_cons.mp member with rfl | known
        · exact handed.onFailure
        · exact holds.userClosures closure known
      · intro closure member
        rcases List.mem_cons.mp member with rfl | known
        · exact handed.onIndexReached
        · exact holds.userIndexClosures closure known
  | _ => exact ⟨holds, by simp [enter, Task.From]⟩

theorem from_of_knows (holds : executor.ClosuresFrom made) {closure : Closure}
    (known : executor.knows closure = true) : closure.From made := by
  cases closure with
  | noop | user => trivial
  | _ => exact holds.userClosures _ (by simpa [knows] using known)

theorem from_of_knowsOptional (holds : executor.ClosuresFrom made) {closure : Option Closure}
    (known : executor.knowsOptional closure = true) : ∀ other ∈ closure, other.From made := by
  intro other member
  cases member
  exact from_of_knows holds known

theorem from_of_knowsOp (holds : executor.ClosuresFrom made) {op : HandlerOp}
    (known : executor.knowsOp op = true) : op.From made := by
  cases op with
  | runMode | runModeTakeoff =>
      simp only [knowsOp, Bool.and_eq_true] at known
      exact ⟨from_of_knows holds known.1, from_of_knowsOptional holds known.2⟩
  | runAction | runTrajectory => exact from_of_knows holds known
  | _ => trivial

theorem closuresFrom_checkReadynessAndReport (holds : executor.ClosuresFrom made)
    (canRun : CanRun) : (executor.checkReadynessAndReport config canRun).ClosuresFrom made := by
  unfold checkReadynessAndReport
  split
  · exact holds
  · dsimp only
    split <;> exact holds.congr rfl rfl rfl rfl rfl

theorem closuresFrom_setMission (holds : executor.ClosuresFrom made) (canRun : CanRun)
    (mission : Mission) : (executor.setMission config canRun mission).ClosuresFrom made := by
  unfold setMission
  split
  · exact holds
  · have taken : ClosuresFrom made
        ({ executor with
            mission
            missionErrors := missionErrorsOf config mission
            hasValidMission := (missionErrorsOf config mission).isEmpty
            state := { executor.state with
              missionChecksum := mission.checksum config.hash } }.checkReadynessAndReport config
                canRun) :=
      closuresFrom_checkReadynessAndReport (by exact holds.congr rfl rfl rfl rfl rfl) canRun
    dsimp only
    split <;> exact taken.congr rfl rfl rfl rfl rfl

theorem closuresFrom_setCallback (holds : executor.ClosuresFrom made) (callback : UserCallback)
    (isSet : Bool) (canRun : CanRun) :
    (executor.setCallback config callback isSet canRun).ClosuresFrom made := by
  cases callback with
  | onReadynessUpdate =>
      exact closuresFrom_checkReadynessAndReport (by exact holds.congr rfl rfl rfl rfl rfl) canRun
  | _ => exact holds.congr rfl rfl rfl rfl rfl

theorem allFrom_userOp (holds : executor.ClosuresFrom made) {op : UserOp}
    {after : MissionExecutor × List Task} (requested : executor.userOp config op = some after) :
    AllFrom made after := by
  cases op with
  | handler handler op =>
      simp only [userOp] at requested
      split at requested
      · rename_i known
        obtain ⟨denoted, _, rfl⟩ := Option.map_eq_some_iff.mp requested
        exact allFrom_handlerOp holds _ (from_of_knowsOp holds known)
      · cases requested
  | call closure =>
      simp only [userOp] at requested
      split at requested
      · rename_i known
        cases requested
        exact ⟨holds, by simpa [Task.From] using from_of_knows holds known⟩
      · cases requested
  | callIndex closure index =>
      simp only [userOp] at requested
      split at requested
      · rename_i known
        cases requested
        refine ⟨holds, ?_⟩
        simpa [Task.From] using holds.userIndexClosures closure (by simpa using known)
      · cases requested
  | releaseKeeper id =>
      simp only [userOp] at requested
      split at requested
      · cases requested
        refine ⟨?_, by simp⟩
        obtain same | ⟨_, same⟩ := { executor with
          userKeepers := executor.userKeepers.erase id }.removeContinousAction_cases id
        · rw [same]
          exact holds.congr rfl rfl rfl rfl rfl
        · rw [same]
          exact holds.congr rfl rfl rfl rfl rfl
      · cases requested
  | abort =>
      cases requested
      refine ⟨holds, ?_⟩
      simp only [requestAbort]
      split <;> simp [Task.From]
  | setActivityInfo info =>
      cases requested
      refine ⟨holds, ?_⟩
      simp only [setActivityInfo]
      split <;> simp [Task.From, Entry.From]
  | setMission mission canRun =>
      cases requested
      exact ⟨closuresFrom_setMission holds canRun mission, by simp⟩
  | resetMission =>
      cases requested
      refine ⟨?_, by simp⟩
      unfold resetMission
      split <;> exact holds.congr rfl rfl rfl rfl rfl
  | deferFailsafes enabled timeoutS =>
      cases requested
      refine ⟨holds.congr rfl rfl rfl rfl rfl, ?_⟩
      simp only [deferFailsafes]
      split <;> simp [Task.From]
  | controlAutoSetHome =>
      cases requested
      exact ⟨holds.congr rfl rfl rfl rfl rfl, by simp⟩
  | setCallback callback isSet canRun =>
      cases requested
      exact ⟨closuresFrom_setCallback holds callback isSet canRun, by simp⟩

theorem allFrom_modeExecutorHook (holds : executor.ClosuresFrom made)
    {hook : ModeExecutorBase.Hook ModeCallback}
    (carried : Task.From made (.modeExecutor (.hook hook))) :
    AllFrom made (executor.modeExecutorHook config hook) := by
  cases hook with
  | completed callback result =>
      have passed : callback.From made := carried callback (by simp [ModeExecutorBase.Task.callbacks])
      exact allFrom_modeFinished holds passed result
  | onActivate => exact allFrom_onActivate holds
  | onDeactivate => exact allFrom_onDeactivate holds
  | onFailsafeDeferred =>
      refine ⟨holds, ?_⟩
      simp only [modeExecutorHook]
      split <;> simp [Task.From, Entry.From]
  | mode hook =>
      cases hook with
      | updateSetpoint => exact allFrom_updateSetpoint holds
      | onActivate | onDeactivate => exact ⟨holds, by simp [modeExecutorHook]⟩

theorem allFrom_modeExecutorTask (holds : executor.ClosuresFrom made)
    {task : ModeExecutorBase.Task ModeCallback} {input : Input}
    {after : MissionExecutor × List Task} (carried : Task.From made (.modeExecutor task))
    (executed : executor.modeExecutorTask config task input = some after) :
    AllFrom made after := by
  obtain ⟨hook, rfl, rfl, rfl⟩ | ⟨result, plain, rfl⟩ := modeExecutorTask_cases executed
  · exact allFrom_modeExecutorHook holds carried
  · refine allFrom_applyModeExecutor holds (ModeExecutorBase.resume_allCallbacks result plain ?_)
    refine ⟨holds.scheduled, ?_⟩
    intro other member
    rw [List.mem_singleton.mp member]
    exact carried

theorem allFrom_runReports (holds : executor.ClosuresFrom made) :
    AllFrom made executor.runReports := by
  have crashed : AllFrom made executor.crash :=
    ⟨holds.congr rfl rfl rfl rfl rfl, by simp [crash]⟩
  have entered : ∀ report, AllFrom made (executor, [Task.enter (.report report), .popReport]) :=
    fun report => ⟨holds, by simp [Task.From, Entry.From]⟩
  unfold runReports
  split
  · exact ⟨holds, by simp⟩
  · rename_i report _ _
    cases report with
    | completed => exact entered _
    | _ =>
        simp only [callReport]
        split
        · exact entered _
        · exact crashed

theorem allFrom_internal (holds : executor.ClosuresFrom made) {task : Task}
    (carried : task.From made) (admits : Admits made config executor task) :
    AllFrom made (executor.internal config task) := by
  cases task with
  | enter entry => exact allFrom_enter holds carried
  | call closure => exact allFrom_call holds carried
  | callIndex closure index => exact allFrom_callIndex holds index carried
  | run name handler arguments onCompleted =>
      exact allFrom_run holds name handler arguments carried (admits.navigate _ _ _ _ rfl)
  | onActivateRun startFromBeginning =>
      exact allFrom_onActivateRun holds (admits.resumed ⟨_, .inl rfl⟩) _
  | onActivatedReturned previous startFromBeginning =>
      exact allFrom_onActivatedReturned holds _
        (fun valid => admits.resumed ⟨_, .inr ⟨previous, rfl, valid⟩⟩) _
  | runStoredActions actions => exact ⟨holds, from_runStoredActions actions⟩
  | runNextMissionItem =>
      exact (allFrom_setCurrentMissionIndex holds _).append (by simp [Task.From])
  | runCurrentMissionItem resuming =>
      exact allFrom_runCurrentMissionItem holds (admits.item ⟨resuming, rfl⟩) resuming
  | switchToTrajectory => exact allFrom_switchToTrajectory holds
  | startHoldTimer onCompleted =>
      refine ⟨⟨holds.scheduled, ?_, holds.trajectory, holds.userClosures,
        holds.userIndexClosures⟩, by simp [internal]⟩
      intro closure member
      cases member
      exact carried
  | savePersistentState =>
      refine ⟨?_, by simp [internal]⟩
      simp only [internal, savePersistentState, clearPersistentState]
      repeat' split
      all_goals exact holds.congr rfl rfl rfl rfl rfl
  | finishDeactivate =>
      refine ⟨holds, ?_⟩
      intro task member
      rcases List.mem_append.mp member with first | last
      · rcases List.mem_append.mp first with info | action
        · exact from_clearActivityInfo task info
        · exact from_deactivateAllActions task action
      · rw [List.mem_singleton.mp last]
        trivial
  | notifyDeactivated =>
      refine ⟨holds, ?_⟩
      simp only [internal, notifyDeactivated]
      split <;> simp [Task.From, Entry.From]
  | deactivateAction name => exact allFrom_deactivateAction holds name
  | releaseKeeper id =>
      refine ⟨?_, by simp [internal]⟩
      obtain same | ⟨_, same⟩ := executor.removeContinousAction_cases id
      · simpa [internal, same] using holds
      · simp only [internal, same]
        exact holds.congr rfl rfl rfl rfl rfl
  | abort reason =>
      refine ⟨holds.congr rfl rfl rfl rfl rfl, ?_⟩
      intro task member
      rcases List.mem_append.mp member with info | last
      · exact from_clearActivityInfo task info
      · rw [List.mem_singleton.mp last]
        trivial
  | abortDeactivate reason =>
      refine ⟨holds, ?_⟩
      intro task member
      simp only [internal, abortDeactivate] at member
      split at member
      · cases member
      · rcases List.mem_append.mp member with action | last
        · exact from_deactivateAllActions task action
        · rw [List.mem_singleton.mp last]
          trivial
  | abortRunOnFailure reason => exact allFrom_abortRunOnFailure holds reason
  | runReports => exact allFrom_runReports holds
  | setTrajectoryState | abortEnd =>
      exact ⟨holds.congr rfl rfl rfl rfl rfl, by simp [internal]⟩
  | popReport => exact ⟨holds.congr rfl rfl rfl rfl rfl, by simp [internal, Task.From]⟩
  | modeExecutor | user | updateWaypoint | deferWait => exact ⟨holds, by simp [internal]⟩

/-- A step moves function objects around; the new ones are those of the executed task. -/
theorem allFrom_exec (holds : executor.ClosuresFrom made) {task : Task} {input : Input}
    {after : MissionExecutor × List Task} (carried : task.From made)
    (admits : Admits made config executor task)
    (executed : executor.exec config task input = some after) : AllFrom made after := by
  obtain ⟨_, ⟨landed, rfl, rfl⟩ | ⟨task', rfl, resumed⟩ |
    ⟨inRun, op, requested, rfl, rfl, requests, rfl⟩ | ⟨inRun, rfl, rfl, rfl⟩ |
    ⟨valid, reached, rfl, rfl⟩ | ⟨rfl, rfl⟩ | ⟨rfl, _, rfl⟩⟩ := exec_cases executed
  · exact ⟨holds.congr rfl rfl rfl rfl rfl, by simpa using carried⟩
  · exact allFrom_modeExecutorTask holds carried resumed
  · exact (allFrom_userOp holds requests).append (by simp [Task.From])
  · exact ⟨holds.congr rfl rfl rfl rfl rfl, by simp⟩
  · exact allFrom_updateWaypoint holds _ _
  · exact ⟨holds, by simp⟩
  · exact allFrom_internal holds carried admits

theorem allFrom_idle (holds : executor.ClosuresFrom made) {input : Input}
    {after : MissionExecutor × List Task} (taken : executor.idle config input = some after) :
    AllFrom made after := by
  unfold idle at taken
  split at taken
  · cases taken
  · split at taken
    · cases taken
      exact ⟨holds.congr rfl rfl rfl rfl rfl, by simp⟩
    · cases taken
      exact allFrom_applyModeExecutor holds
        (ModeExecutorBase.vehicleStatusReceived_allCallbacks _ holds.scheduled)
    · cases taken
      exact allFrom_applyModeExecutor holds
        (ModeExecutorBase.modeCompletedReceived_allCallbacks _ holds.scheduled)
    · split at taken
      · cases taken
        exact allFrom_updateSetpoint holds
      · cases taken
    · split at taken
      · cases taken
        exact ⟨holds.congr rfl rfl rfl rfl rfl, by simp [Task.From]⟩
      · cases taken
    · cases taken
      exact ⟨closuresFrom_checkReadynessAndReport holds _, by simp⟩
    · obtain ⟨onCompleted, timer, rfl⟩ := Option.map_eq_some_iff.mp taken
      refine ⟨⟨holds.scheduled, by simp, holds.trajectory, holds.userClosures,
        holds.userIndexClosures⟩, ?_⟩
      simpa [Task.From] using holds.holdTimer onCompleted timer
    · cases taken
      exact ⟨holds, by simp [Task.From]⟩
    · cases taken

/-- The same for a step of the process. -/
theorem allFrom_step {before next : Config} {input : Input}
    (holds : AllFrom made (before.state, before.agenda))
    (admits : ∀ task rest, before.agenda = task :: rest → Admits made config before.state task)
    (stepped : (machine config).step before input = some next) :
    AllFrom made (next.state, next.agenda) := by
  obtain ⟨_, state, tasks, taken, rfl⟩ | ⟨task, rest, state, tasks, agenda, executed, rfl⟩ :=
    Lib.Machine.step_cases stepped
  · exact allFrom_idle holds.state taken
  · have tasksHold : ∀ other ∈ task :: rest, other.From made := agenda ▸ holds.tasks
    have after := allFrom_exec holds.state (tasksHold task List.mem_cons_self)
      (admits task rest agenda) executed
    exact after.append fun other member => tasksHold other (List.mem_cons_of_mem _ member)

end MissionExecutor

end Px4Ros2
