import Px4Ros2.Mission.MissionCourse

/-! What a step does to the stored actions, to the keeper of the ChangeSettings action and to the
options of trajectories. Few steps do anything to them, and these are listed. -/

set_option autoImplicit false

namespace Px4Ros2

def ActionState.isFor (name : String) (action : ActionState) : Bool := action.name = name

/-- What is stored under a name, the oldest first. -/
def PersistentState.storedBy (name : String) (state : PersistentState) : List Json :=
  (Lib.Entries.select (ActionState.isFor name) state.continuousActions.entries).map
    (·.arguments.json)

namespace MissionExecutor

/-- Something is stored under this name and number. -/
def holds (executor : MissionExecutor) (name : String) (id : ActionID) : Bool :=
  (executor.state.continuousActions.find? id).any (ActionState.isFor name)

structure SameStore (before after : MissionExecutor) : Prop where
  continuousActions : after.state.continuousActions = before.state.continuousActions
  nextContinuousActionId : after.nextContinuousActionId = before.nextContinuousActionId
  changeSettingsState : after.changeSettingsState = before.changeSettingsState
  trajectoryOptions : after.trajectoryOptions = before.trajectoryOptions

/-- Operations of a handler that store or change options. -/
@[simp] def HandlerOp.stores : HandlerOp → Bool
  | .storeState _ _ | .clearTrajectoryOptions | .setTrajectoryOptions _ => true
  | _ => false

@[simp] def UserOp.stores : UserOp → Bool
  | .handler _ op => op.stores
  | .releaseKeeper _ | .setMission _ _ | .resetMission => true
  | _ => false

def Task.stores (config : Configuration) (task : Task) (input : Input) : Bool :=
  match task, input with
  | .modeExecutor (.hook .onActivate), _ | .modeExecutor (.hook (.onDeactivate _)), _ => true
  | .onActivateRun _, _ | .onActivatedReturned _ _, _ | .releaseKeeper _, _ => true
  | .call (.resumed _ _), _ => true
  | .run name _ _ _, _ | .deactivateAction name, _ =>
      match config.findAction name with
      | some .changeSettings => true
      | _ => false
  | .user _, .op op => op.stores
  | _, _ => false

inductive Storing (config : Configuration) (executor : MissionExecutor) :
    Task → Input → MissionExecutor × List Task → Prop where
  | again (task : Task) (landed : Bool) :
      Storing config executor task (.landDetected landed) ({ executor with landed }, [task])
  | same {task : Task} {input : Input} {after : MissionExecutor × List Task} :
      task.stores config input = false → SameStore executor after.1 →
      Storing config executor task input after
  | onActivate :
      Storing config executor (.modeExecutor (.hook .onActivate)) .proceed executor.onActivate
  | onDeactivate (reason : DeactivateReason) :
      Storing config executor (.modeExecutor (.hook (.onDeactivate reason))) .proceed
        (executor.onDeactivate config)
  | onActivateRun (startFromBeginning : Bool) :
      Storing config executor (.onActivateRun startFromBeginning) .proceed
        (executor.onActivateRun config startFromBeginning)
  | onActivatedReturned (previousHandler : HandlerId) (startFromBeginning : Bool) :
      Storing config executor (.onActivatedReturned previousHandler startFromBeginning) .proceed
        (executor.onActivatedReturned config previousHandler startFromBeginning)
  | resumed (handler : HandlerId) (previousIndex : Option Int) :
      Storing config executor (.call (.resumed handler previousIndex)) .proceed
        (executor.resumed handler previousIndex)
  | changeSettings (name : String) (handler : HandlerId) (arguments : ActionArguments)
      (onCompleted : Closure) :
      config.findAction name = some .changeSettings →
      Storing config executor (.run name handler arguments onCompleted) .proceed
        (executor.runChangeSettings config handler arguments onCompleted)
  | deactivateSettings (name : String) :
      config.findAction name = some .changeSettings →
      Storing config executor (.deactivateAction name) .proceed
        (executor.setChangeSettingsState none)
  | releaseKeeper (id : ActionID) :
      Storing config executor (.releaseKeeper id) .proceed (executor.removeContinousAction id, [])
  | handlerOp (inRun : Bool) (reference : HandlerRef) (op : HandlerOp) (handler : HandlerId) :
      op.stores = true → executor.resolve reference = some handler →
      Storing config executor (.user inRun) (.op (.handler reference op))
        ((executor.handlerOp config handler op).1,
          (executor.handlerOp config handler op).2 ++ [.user inRun])
  | userRelease (inRun : Bool) (id : ActionID) :
      id ∈ executor.userKeepers →
      Storing config executor (.user inRun) (.op (.releaseKeeper id))
        ({ executor with
          userKeepers := executor.userKeepers.erase id }.removeContinousAction id, [.user inRun])
  | setMission (inRun : Bool) (mission : Mission) (canRun : CanRun) :
      Storing config executor (.user inRun) (.op (.setMission mission canRun))
        (executor.setMission config canRun mission, [.user inRun])
  | resetMission (inRun : Bool) :
      Storing config executor (.user inRun) (.op .resetMission)
        (executor.resetMission, [.user inRun])

variable {config : Configuration} {executor : MissionExecutor} {task : Task} {input : Input}
  {after : MissionExecutor × List Task}

theorem SameStore.refl (executor : MissionExecutor) : SameStore executor executor :=
  ⟨rfl, rfl, rfl, rfl⟩

theorem SameStore.trans {first second third : MissionExecutor} (one : SameStore first second)
    (two : SameStore second third) : SameStore first third :=
  ⟨two.continuousActions.trans one.continuousActions,
    two.nextContinuousActionId.trans one.nextContinuousActionId,
    two.changeSettingsState.trans one.changeSettingsState,
    two.trajectoryOptions.trans one.trajectoryOptions⟩

/-! Functions that leave the store alone. -/

theorem sameStore_runMode (modeId : ModeID) (onCompleted : Closure) (onFailure : Option Closure) :
    SameStore executor (executor.runMode modeId onCompleted onFailure).1 := by
  unfold runMode
  split <;> exact ⟨rfl, rfl, rfl, rfl⟩

theorem sameStore_runModeTakeoff (altitude heading : Param) (onCompleted : Closure)
    (onFailure : Option Closure) :
    SameStore executor (executor.runModeTakeoff altitude heading onCompleted onFailure).1 := by
  unfold runModeTakeoff
  split <;> exact ⟨rfl, rfl, rfl, rfl⟩

theorem sameStore_modeFinished (callback : ModeCallback) (result : Result) :
    SameStore executor (executor.modeFinished callback result).1 := by
  unfold modeFinished
  split
  · exact .refl _
  · split <;> exact ⟨rfl, rfl, rfl, rfl⟩

theorem sameStore_runAction (name : String) (arguments : ActionArguments) (onCompleted : Closure) :
    SameStore executor (executor.runAction config name arguments onCompleted).1 := by
  unfold runAction
  split <;> exact ⟨rfl, rfl, rfl, rfl⟩

theorem sameStore_runTrajectory (trajectory : Mission) (startIndex endIndex : Int)
    (onIndexReached : IndexClosure) (stopAtLast : Bool) :
    SameStore executor (executor.runTrajectory config trajectory startIndex endIndex
      onIndexReached stopAtLast).1 := by
  unfold runTrajectory
  split
  · exact .refl _
  · dsimp only
    split <;> exact ⟨rfl, rfl, rfl, rfl⟩

theorem sameStore_setCurrentMissionIndex (index : Int) :
    SameStore executor (executor.setCurrentMissionIndex index).1 := by
  simp only [setCurrentMissionIndex, reportIndex]
  split <;> split <;> exact ⟨rfl, rfl, rfl, rfl⟩

theorem sameStore_runCurrentMissionItem (resuming : Bool) :
    SameStore executor (executor.runCurrentMissionItem config resuming).1 := by
  unfold runCurrentMissionItem
  split
  · exact sameStore_runMode _ _ _
  · split
    · split
      · exact .refl _
      · exact sameStore_runMode _ _ _
    · unfold runMissionItem
      split
      · exact sameStore_runTrajectory _ _ _ _ _
      · split
        · exact ⟨rfl, rfl, rfl, rfl⟩
        · refine SameStore.trans ?_ (sameStore_runAction _ _ _)
          exact ⟨rfl, rfl, rfl, rfl⟩

theorem sameStore_checkReadynessAndReport (canRun : CanRun) :
    SameStore executor (executor.checkReadynessAndReport config canRun) := by
  unfold checkReadynessAndReport
  split
  · exact .refl _
  · dsimp only
    split <;> exact ⟨rfl, rfl, rfl, rfl⟩

theorem sameStore_setCallback (callback : UserCallback) (isSet : Bool) (canRun : CanRun) :
    SameStore executor (executor.setCallback config callback isSet canRun) := by
  cases callback with
  | onReadynessUpdate =>
      refine SameStore.trans ?_ (sameStore_checkReadynessAndReport canRun)
      exact ⟨rfl, rfl, rfl, rfl⟩
  | _ => exact ⟨rfl, rfl, rfl, rfl⟩

theorem sameStore_switchToTrajectory : SameStore executor executor.switchToTrajectory.1 := by
  unfold switchToTrajectory
  split
  · exact sameStore_runMode _ _ _
  · exact .refl _

theorem sameStore_updateSetpoint : SameStore executor (executor.updateSetpoint config).1 := by
  unfold updateSetpoint
  split
  · exact .refl _
  · split <;> exact .refl _

theorem sameStore_updateWaypoint (positionValid positionReached : Bool) :
    SameStore executor (executor.updateWaypoint positionValid positionReached).1 := by
  have continued : ∀ (trajectory : TrajectoryConfig) (index : Int),
      SameStore executor (executor.continueNextItem trajectory index).1 :=
    fun _ _ => ⟨rfl, rfl, rfl, rfl⟩
  unfold updateWaypoint
  repeat' split
  all_goals first | exact .refl _ | exact continued _ _

theorem sameStore_abortRunOnFailure (reason : AbortReason) :
    SameStore executor (executor.abortRunOnFailure config reason).1 := by
  unfold abortRunOnFailure
  dsimp only
  split
  · exact ⟨rfl, rfl, rfl, rfl⟩
  · refine SameStore.trans ?_ (sameStore_runAction _ _ _)
    exact ⟨rfl, rfl, rfl, rfl⟩

theorem sameStore_runReports : SameStore executor executor.runReports.1 := by
  unfold runReports
  split
  · exact .refl _
  · unfold callReport
    repeat' split
    all_goals exact ⟨rfl, rfl, rfl, rfl⟩

theorem sameStore_handlerOp (handler : HandlerId) {op : HandlerOp} (keeps : op.stores = false) :
    SameStore executor (executor.handlerOp config handler op).1 := by
  unfold handlerOp
  split
  · exact .refl _
  · cases op with
    | runMode => exact sameStore_runMode _ _ _
    | runModeTakeoff => exact sameStore_runModeTakeoff _ _ _ _
    | runAction => exact sameStore_runAction _ _ _
    | runTrajectory =>
        simp only [handlerCall, runCustomTrajectory]
        split
        · exact .refl _
        · split
          · exact sameStore_runTrajectory _ _ _ _ _
          · exact .refl _
    | setCurrentMissionIndex =>
        simp only [handlerCall]
        split
        · exact sameStore_setCurrentMissionIndex _
        · exact .refl _
    | setActivityInfo | clearActivityInfo | deferFailsafes | controlAutoSetHome
    | onFailsafeDeferred => exact ⟨rfl, rfl, rfl, rfl⟩
    | clearTrajectoryOptions | setTrajectoryOptions | storeState => cases keeps

theorem sameStore_runOnResume (handler : HandlerId) (arguments : ActionArguments)
    (onCompleted : Closure) :
    SameStore executor (executor.runOnResume config handler arguments onCompleted).1 := by
  unfold runOnResume resumeFromUnexpectedLanding
  split
  · exact ⟨rfl, rfl, rfl, rfl⟩
  · dsimp only
    repeat' split
    all_goals first | exact .refl _ | exact sameStore_handlerOp _ rfl

theorem stores_eq_false {name : String} (other : config.findAction name ≠ some .changeSettings) :
    (∀ handler arguments onCompleted,
      (Task.run name handler arguments onCompleted).stores config input = false) ∧
      (Task.deactivateAction name).stores config input = false := by
  cases found : config.findAction name with
  | none => simp [Task.stores, found]
  | some action =>
      cases action with
      | changeSettings => exact absurd found other
      | _ => simp [Task.stores, found]

theorem run_storing (name : String) (handler : HandlerId) (arguments : ActionArguments)
    (onCompleted : Closure) :
    Storing config executor (.run name handler arguments onCompleted) .proceed
      (executor.run config name handler arguments onCompleted) := by
  have keeps : ∀ after, config.findAction name ≠ some .changeSettings → SameStore executor after.1 →
      Storing config executor (.run name handler arguments onCompleted) .proceed after := by
    exact fun after other same => .same ((stores_eq_false other).1 _ _ _) same
  unfold run
  split
  · rename_i found
    exact keeps _ (by simp [found]) (.refl _)
  · rename_i found
    exact keeps _ (by simp [found]) (sameStore_handlerOp _ rfl)
  · rename_i found
    exact keeps _ (by simp [found]) (sameStore_handlerOp _ rfl)
  · rename_i found
    refine keeps _ (by simp [found]) ?_
    split
    · exact ⟨rfl, rfl, rfl, rfl⟩
    · exact sameStore_handlerOp _ rfl
  · rename_i found
    refine keeps _ (by simp [found]) ?_
    split
    · exact ⟨rfl, rfl, rfl, rfl⟩
    · exact sameStore_handlerOp _ rfl
  · rename_i found
    exact keeps _ (by simp [found]) (sameStore_runOnResume _ _ _)
  · rename_i found
    exact keeps _ (by simp [found]) (sameStore_handlerOp _ rfl)
  · rename_i found
    exact .changeSettings name handler arguments onCompleted found
  · rename_i found
    exact keeps _ (by simp [found]) (.refl _)

theorem deactivateAction_storing (name : String) :
    Storing config executor (.deactivateAction name) .proceed
      (executor.deactivateAction config name) := by
  have keeps : ∀ after, config.findAction name ≠ some .changeSettings → SameStore executor after.1 →
      Storing config executor (.deactivateAction name) .proceed after := by
    exact fun after other same => .same (stores_eq_false other).2 same
  unfold deactivateAction
  split
  · rename_i found
    exact keeps _ (by simp [found]) ⟨rfl, rfl, rfl, rfl⟩
  · rename_i found
    exact .deactivateSettings name found
  · rename_i found
    exact keeps _ (by simp [found]) (.refl _)
  · rename_i other _
    exact keeps _ other (.refl _)

theorem call_storing (closure : Closure) :
    Storing config executor (.call closure) .proceed (executor.call config closure) := by
  cases closure with
  | resumed handler previousIndex => exact .resumed handler previousIndex
  | navigateToPreviousWaypoint handler onCompleted index =>
      refine .same rfl ?_
      simp only [call, navigateToPreviousWaypoint]
      split
      · exact sameStore_handlerOp _ rfl
      · exact .refl _
  | descend handler onCompleted => exact .same rfl (sameStore_handlerOp _ rfl)
  | noop | nextItem | trajectoryFailure | user => exact .same rfl (.refl _)

theorem callIndex_storing (closure : IndexClosure) (index : Int) :
    Storing config executor (.callIndex closure index) .proceed
      (executor.callIndex index closure) := by
  refine .same rfl ?_
  cases closure with
  | segment handler endIndex =>
      simp only [callIndex, segmentReached]
      split
      · exact sameStore_setCurrentMissionIndex _
      · exact .refl _
  | customTrajectory => exact .refl _

theorem internal_storing (inner : ∀ other, task ≠ .modeExecutor other) :
    Storing config executor task .proceed (executor.internal config task) := by
  cases task with
  | modeExecutor task => exact absurd rfl (inner task)
  | call closure => exact call_storing closure
  | callIndex closure index => exact callIndex_storing closure index
  | run name handler arguments onCompleted => exact run_storing _ _ _ _
  | onActivateRun startFromBeginning => exact .onActivateRun startFromBeginning
  | onActivatedReturned previous startFromBeginning =>
      exact .onActivatedReturned previous startFromBeginning
  | deactivateAction name => exact deactivateAction_storing name
  | releaseKeeper id => exact .releaseKeeper id
  | enter entry => exact .same rfl (by cases entry <;> exact ⟨rfl, rfl, rfl, rfl⟩)
  | runNextMissionItem => exact .same rfl (sameStore_setCurrentMissionIndex _)
  | runCurrentMissionItem => exact .same rfl (sameStore_runCurrentMissionItem _)
  | switchToTrajectory => exact .same rfl sameStore_switchToTrajectory
  | savePersistentState =>
      obtain ⟨file, same⟩ := @savePersistentState_eq config executor
      refine .same rfl ?_
      simp only [internal, same]
      exact ⟨rfl, rfl, rfl, rfl⟩
  | abortRunOnFailure => exact .same rfl (sameStore_abortRunOnFailure _)
  | runReports => exact .same rfl sameStore_runReports
  | abort | setTrajectoryState | startHoldTimer | abortEnd | popReport | runStoredActions
  | finishDeactivate | notifyDeactivated | abortDeactivate | user | updateWaypoint | deferWait =>
      exact .same rfl ⟨rfl, rfl, rfl, rfl⟩

theorem userOp_storing {inRun : Bool} {op : UserOp}
    (requested : executor.userOp config op = some after) :
    Storing config executor (.user inRun) (.op op) (after.1, after.2 ++ [.user inRun]) := by
  cases op with
  | handler reference op =>
      simp only [userOp] at requested
      split at requested
      · obtain ⟨denoted, resolved, rfl⟩ := Option.map_eq_some_iff.mp requested
        cases stores : op.stores with
        | true => exact .handlerOp inRun reference op denoted stores resolved
        | false => exact .same stores (sameStore_handlerOp denoted stores)
      · cases requested
  | releaseKeeper id =>
      simp only [userOp] at requested
      split at requested
      · rename_i held
        cases requested
        exact .userRelease inRun id (by simpa using held)
      · cases requested
  | setMission mission canRun =>
      cases requested
      exact .setMission inRun mission canRun
  | resetMission =>
      cases requested
      exact .resetMission inRun
  | call | callIndex =>
      simp only [userOp] at requested
      split at requested
      · cases requested
        exact .same rfl (.refl _)
      · cases requested
  | abort | setActivityInfo | controlAutoSetHome | deferFailsafes =>
      cases requested
      exact .same rfl ⟨rfl, rfl, rfl, rfl⟩
  | setCallback =>
      cases requested
      exact .same rfl (sameStore_setCallback _ _ _)

/-- Everything that executing a task can do to the store. -/
theorem exec_storing (executed : executor.exec config task input = some after) :
    Storing config executor task input after := by
  obtain ⟨_, ⟨landed, rfl, rfl⟩ | ⟨task', rfl, resumed⟩ |
    ⟨inRun, op, requested, rfl, rfl, requests, rfl⟩ | ⟨inRun, rfl, rfl, rfl⟩ |
    ⟨valid, reached, rfl, rfl⟩ | ⟨rfl, rfl⟩ | ⟨rfl, inner, rfl⟩⟩ := exec_cases executed
  · exact .again task landed
  · obtain ⟨hook, rfl, rfl, rfl⟩ | ⟨result, plain, rfl⟩ := modeExecutorTask_cases resumed
    · cases hook with
      | completed => exact .same rfl (sameStore_modeFinished _ _)
      | onActivate => exact .onActivate
      | onDeactivate reason => exact .onDeactivate reason
      | onFailsafeDeferred => exact .same rfl (.refl _)
      | mode hook =>
          refine .same rfl ?_
          cases hook with
          | updateSetpoint => exact sameStore_updateSetpoint
          | onActivate | onDeactivate => exact .refl _
    · refine .same ?_ ⟨rfl, rfl, rfl, rfl⟩
      cases task' with
      | hook hook => exact absurd rfl (plain hook)
      | _ => rfl
  · exact userOp_storing requests
  · exact .same rfl ⟨rfl, rfl, rfl, rfl⟩
  · exact .same rfl (sameStore_updateWaypoint _ _)
  · exact .same rfl (.refl _)
  · exact internal_storing inner

theorem idle_sameStore (taken : executor.idle config input = some after) :
    SameStore executor after.1 := by
  unfold idle at taken
  split at taken
  · cases taken
  · split at taken
    · cases taken
      exact ⟨rfl, rfl, rfl, rfl⟩
    · cases taken
      exact ⟨rfl, rfl, rfl, rfl⟩
    · cases taken
      exact ⟨rfl, rfl, rfl, rfl⟩
    · split at taken
      · cases taken
        exact sameStore_updateSetpoint
      · cases taken
    · split at taken
      · cases taken
        exact ⟨rfl, rfl, rfl, rfl⟩
      · cases taken
    · cases taken
      exact sameStore_checkReadynessAndReport _
    · obtain ⟨onCompleted, _, rfl⟩ := Option.map_eq_some_iff.mp taken
      exact ⟨rfl, rfl, rfl, rfl⟩
    · cases taken
      exact .refl _
    · cases taken

/-! The entries of one name after the steps that change the stored actions. -/

theorem not_isFor_of_not_holds {name : String} {id : ActionID}
    (other : executor.holds name id = false) :
    ∀ entry ∈ executor.state.continuousActions.entries, entry.1 = id →
      entry.2.isFor name = false := by
  intro entry member same
  have found : executor.state.continuousActions.find? entry.1 = some entry.2 :=
    Lib.Entries.find?_of_mem executor.state.continuousActions.sorted member
  simpa [holds, ← same, found] using other

theorem storedBy_of_same {name : String} {before after : PersistentState}
    (same : after.continuousActions = before.continuousActions) :
    after.storedBy name = before.storedBy name := by
  unfold PersistentState.storedBy
  rw [same]

theorem storedBy_of_empty {name : String} {state : PersistentState}
    (empty : state.continuousActions = .empty) : state.storedBy name = [] := by
  unfold PersistentState.storedBy
  rw [empty]
  rfl

theorem storedBy_of_insert {name : String} {state after : PersistentState} {id : ActionID}
    {action : ActionState} (other : action.name ≠ name)
    (free : ∀ entry ∈ state.continuousActions.entries, entry.1 = id →
      entry.2.isFor name = false)
    (inserted : after.continuousActions = state.continuousActions.insert id action) :
    after.storedBy name = state.storedBy name := by
  have fails : action.isFor name = false := decide_eq_false other
  unfold PersistentState.storedBy
  rw [inserted]
  exact congrArg _ (Lib.Entries.select_insert_of_not fails free)

theorem storedBy_of_first {name : String} {state after : PersistentState} {id : ActionID}
    {action : ActionState} (same : action.name = name) (none : state.storedBy name = [])
    (inserted : after.continuousActions = state.continuousActions.insert id action) :
    after.storedBy name = [action.arguments.json] := by
  have passes : action.isFor name = true := decide_eq_true same
  have empty : Lib.Entries.select (ActionState.isFor name) state.continuousActions.entries = [] :=
    List.map_eq_nil_iff.mp none
  unfold PersistentState.storedBy
  rw [inserted]
  exact congrArg _ (Lib.Entries.select_insert_of_none passes empty)

theorem storedBy_of_erase {name : String} {state after : PersistentState} {id : ActionID}
    (free : ∀ entry ∈ state.continuousActions.entries, entry.1 = id →
      entry.2.isFor name = false)
    (erased : after.continuousActions = state.continuousActions.erase id) :
    after.storedBy name = state.storedBy name := by
  unfold PersistentState.storedBy
  rw [erased]
  exact congrArg _ (Lib.Entries.select_erase_of_not free)

theorem values_renumbered (actions : List ActionState) (first : ActionID) :
    (renumbered first actions).map Prod.snd =
      actions.map fun action => { action with keeper := none } := by
  induction actions generalizing first with
  | nil => rfl
  | cons action rest ih =>
      have later := ih (first + 1)
      simp only [renumbered, List.zipIdx_cons, List.map_cons] at later ⊢
      rw [later]

theorem storedBy_renumbered {name : String} {state read : PersistentState}
    (same : read.continuousActions.entries = renumbered 0 state.continuousActions.values) :
    read.storedBy name = state.storedBy name := by
  unfold PersistentState.storedBy Lib.Entries.select
  rw [same, values_renumbered, List.filter_map, List.map_map]
  rfl

/-- The ChangeSettings action stores the merged options, when its handler is valid. -/
theorem runChangeSettings_stores (handler : HandlerId) (arguments : ActionArguments)
    (onCompleted : Closure) :
    (executor.runChangeSettings config handler arguments onCompleted).1.state.continuousActions =
        executor.state.continuousActions ∨
      executor.isValid handler = true ∧ resetsAll arguments = some false ∧ ∃ options,
        (executor.runChangeSettings config handler arguments onCompleted).1.state.continuousActions =
          executor.state.continuousActions.insert executor.nextContinuousActionId
            { name := "changeSettings", arguments := options,
              keeper := some executor.nextContinuousActionId } := by
  have optionsOnly : ∀ op : HandlerOp,
      op = .clearTrajectoryOptions ∨ (∃ options, op = .setTrajectoryOptions options) →
      (executor.handlerOp config handler op).1.state = executor.state ∧
        (executor.handlerOp config handler op).1.nextContinuousActionId =
          executor.nextContinuousActionId ∧
        (executor.handlerOp config handler op).1.isValid handler = executor.isValid handler := by
    intro op kind
    unfold handlerOp
    split
    · exact ⟨rfl, rfl, rfl⟩
    · obtain rfl | ⟨options, rfl⟩ := kind <;> exact ⟨rfl, rfl, rfl⟩
  unfold runChangeSettings
  split
  · exact .inl rfl
  · obtain ⟨state, _, _⟩ := optionsOnly .clearTrajectoryOptions (.inl rfl)
    exact .inl (congrArg PersistentState.continuousActions state)
  · rename_i resets
    split
    · exact .inl rfl
    · rename_i options _
      split
      · exact .inl rfl
      · rename_i json _
        obtain ⟨state, next, valid⟩ :=
          optionsOnly (.setTrajectoryOptions options) (.inr ⟨options, rfl⟩)
        unfold storeSettings
        dsimp only
        rw [valid]
        split
        · rename_i usable
          refine .inr ⟨usable, resets, ⟨json⟩, ?_⟩
          simp only [setChangeSettingsState, addContinousAction, state, next]
        · exact .inl (congrArg PersistentState.continuousActions state)

end MissionExecutor

end Px4Ros2
