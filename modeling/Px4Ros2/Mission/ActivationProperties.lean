import Px4Ros2.Lib.History
import Px4Ros2.Mission.PendingStatus
import Px4Ros2.Mission.PersistenceProperties

/-! What an activation finds: an index that fits the mission, and the checksum of the mission,
whatever the persistence file holds. -/

set_option autoImplicit false

namespace Px4Ros2.MissionExecutor

variable {config : Configuration} {executor : MissionExecutor}

/-- The mission and its checksum are as before. -/
structure SameMission (before after : MissionExecutor) : Prop where
  mission : after.mission = before.mission
  missionChecksum : after.state.missionChecksum = before.state.missionChecksum

theorem SameMission.refl (executor : MissionExecutor) : SameMission executor executor :=
  ⟨rfl, rfl⟩

theorem SameMission.trans {first second third : MissionExecutor} (one : SameMission first second)
    (two : SameMission second third) : SameMission first third :=
  ⟨two.mission.trans one.mission, two.missionChecksum.trans one.missionChecksum⟩

theorem SameCore.sameMission {before after : MissionExecutor} (same : SameCore before after) :
    SameMission before after :=
  ⟨same.mission, congrArg PersistentState.missionChecksum same.state⟩

theorem sameMission_setCurrentMissionIndex (index : Int) :
    SameMission executor (executor.setCurrentMissionIndex index).1 := by
  refine SameMission.trans ?_ (reportIndex_same index).sameMission
  exact ⟨rfl, rfl⟩

theorem sameMission_handlerOp (handler : HandlerId) (op : HandlerOp) :
    SameMission executor (executor.handlerOp config handler op).1 := by
  unfold handlerOp
  split
  · exact .refl _
  · cases op with
    | runMode => exact (runMode_same _ _ _).sameMission
    | runModeTakeoff => exact (runModeTakeoff_same _ _ _ _).sameMission
    | runAction => exact (runAction_same _ _ _).sameMission
    | runTrajectory => exact (runCustomTrajectory_same _ _ _).sameMission
    | setCurrentMissionIndex index =>
        simp only [handlerCall]
        split
        · exact sameMission_setCurrentMissionIndex _
        · exact .refl _
    | deferFailsafes => exact (deferFailsafes_same _ _).sameMission
    | clearTrajectoryOptions | setTrajectoryOptions | setActivityInfo | clearActivityInfo
    | storeState | controlAutoSetHome | onFailsafeDeferred => exact ⟨rfl, rfl⟩

theorem sameMission_startMission (startFromBeginning : Bool) :
    SameMission executor (executor.startMission config startFromBeginning).1 := by
  have stored : SameMission executor executor.getOnResumeStateAndClear.1 := by
    unfold getOnResumeStateAndClear
    split <;> exact ⟨rfl, rfl⟩
  unfold startMission
  split
  · exact ⟨rfl, rfl⟩
  · dsimp only
    split
    · exact stored.trans crash_same.sameMission
    · exact stored.trans (runAction_same _ _ _).sameMission

theorem sameMission_runChangeSettings (handler : HandlerId) (arguments : ActionArguments)
    (onCompleted : Closure) :
    SameMission executor (executor.runChangeSettings config handler arguments onCompleted).1 := by
  unfold runChangeSettings
  split
  · exact crash_same.sameMission
  · have cleared := @sameMission_handlerOp config executor handler .clearTrajectoryOptions
    exact ⟨cleared.mission, cleared.missionChecksum⟩
  · split
    · exact crash_same.sameMission
    · split
      · exact crash_same.sameMission
      · rename_i options _ _ _ _
        have changed :=
          @sameMission_handlerOp config executor handler (.setTrajectoryOptions options)
        dsimp only
        unfold storeSettings
        split <;> exact ⟨changed.mission, changed.missionChecksum⟩

theorem sameMission_run (name : String) (handler : HandlerId) (arguments : ActionArguments)
    (onCompleted : Closure) :
    SameMission executor (executor.run config name handler arguments onCompleted).1 := by
  unfold run
  split
  · exact .refl _
  · exact sameMission_handlerOp _ _
  · exact sameMission_handlerOp _ _
  · split
    · exact crash_same.sameMission
    · exact sameMission_handlerOp _ _
  · split
    · exact crash_same.sameMission
    · exact sameMission_handlerOp _ _
  · unfold runOnResume resumeFromUnexpectedLanding
    split
    · exact crash_same.sameMission
    · dsimp only
      repeat' split
      all_goals first | exact .refl _ | exact sameMission_handlerOp _ _
  · exact sameMission_handlerOp _ _
  · exact sameMission_runChangeSettings _ _ _
  · exact .refl _

theorem sameMission_call (closure : Closure) :
    SameMission executor (executor.call config closure).1 := by
  cases closure with
  | resumed handler previousIndex =>
      simp only [call, resumed]
      split
      · split <;> exact ⟨rfl, rfl⟩
      · exact .refl _
  | navigateToPreviousWaypoint handler onCompleted index =>
      simp only [call, navigateToPreviousWaypoint]
      split
      · exact sameMission_handlerOp _ _
      · exact .refl _
  | descend handler onCompleted => exact sameMission_handlerOp _ _
  | noop | nextItem | trajectoryFailure | user => exact .refl _

theorem sameMission_callIndex (index : Int) (closure : IndexClosure) :
    SameMission executor (executor.callIndex index closure).1 := by
  cases closure with
  | segment handler endIndex =>
      simp only [callIndex, segmentReached]
      split
      · exact sameMission_setCurrentMissionIndex _
      · exact .refl _
  | customTrajectory => exact .refl _

theorem sameMission_onActivate : SameMission executor executor.onActivate.1 := by
  unfold onActivate
  split
  · exact ⟨rfl, rfl⟩
  · refine SameMission.trans ?_ (sameMission_setCurrentMissionIndex _)
    exact ⟨rfl, rfl⟩

theorem sameMission_onDeactivate : SameMission executor (executor.onDeactivate config).1 := by
  unfold onDeactivate clearPersistentState
  split
  · split <;> exact ⟨rfl, rfl⟩
  · exact ⟨rfl, rfl⟩

theorem sameMission_internal (task : Task) :
    SameMission executor (executor.internal config task).1 := by
  cases task with
  | enter entry => cases entry <;> exact ⟨rfl, rfl⟩
  | call closure => exact sameMission_call _
  | callIndex closure index => exact sameMission_callIndex _ _
  | run name handler arguments onCompleted => exact sameMission_run _ _ _ _
  | onActivateRun =>
      simp only [internal, onActivateRun]
      split
      · exact .refl _
      · exact sameMission_startMission _
  | onActivatedReturned =>
      simp only [internal, onActivatedReturned]
      split
      · exact sameMission_startMission _
      · exact .refl _
  | runNextMissionItem => exact sameMission_setCurrentMissionIndex _
  | runCurrentMissionItem => exact (runCurrentMissionItem_same _).sameMission
  | switchToTrajectory => exact switchToTrajectory_same.sameMission
  | savePersistentState =>
      obtain ⟨file, same⟩ := @savePersistentState_eq config executor
      simp only [internal, same]
      exact ⟨rfl, rfl⟩
  | deactivateAction name =>
      simp only [internal, deactivateAction]
      split <;> exact ⟨rfl, rfl⟩
  | releaseKeeper id =>
      have handling := @removeContinousAction_handling executor id
      exact ⟨handling.mission, handling.missionChecksum⟩
  | abortRunOnFailure => exact (abortRunOnFailure_same _).sameMission
  | runReports => exact runReports_same.sameMission
  | abort | setTrajectoryState | startHoldTimer | abortEnd | popReport | runStoredActions
  | finishDeactivate | notifyDeactivated | abortDeactivate | modeExecutor | user | updateWaypoint
  | deferWait => exact ⟨rfl, rfl⟩

/-- A request of the user for another mission, or for none. -/
def Input.changesMission : Input → Bool
  | .op (.setMission _ _) | .op .resetMission => true
  | _ => false

theorem sameMission_userOp {op : UserOp} {after : MissionExecutor × List Task}
    (keeps : Input.changesMission (.op op) = false)
    (requested : executor.userOp config op = some after) : SameMission executor after.1 := by
  cases op with
  | handler reference op =>
      simp only [userOp] at requested
      split at requested
      · obtain ⟨denoted, _, rfl⟩ := Option.map_eq_some_iff.mp requested
        exact sameMission_handlerOp _ _
      · cases requested
  | releaseKeeper id =>
      simp only [userOp] at requested
      split at requested
      · cases requested
        have handling := @removeContinousAction_handling
          { executor with userKeepers := executor.userKeepers.erase id } id
        exact ⟨handling.mission, handling.missionChecksum⟩
      · cases requested
  | call | callIndex =>
      simp only [userOp] at requested
      split at requested
      · cases requested
        exact .refl _
      · cases requested
  | setMission | resetMission => cases keeps
  | abort | setActivityInfo | controlAutoSetHome =>
      cases requested
      exact ⟨rfl, rfl⟩
  | deferFailsafes =>
      cases requested
      exact (deferFailsafes_same _ _).sameMission
  | setCallback =>
      cases requested
      exact (setCallback_same _ _ _).sameMission

theorem sameMission_exec {task : Task} {input : Input} {after : MissionExecutor × List Task}
    (keeps : input.changesMission = false)
    (executed : executor.exec config task input = some after) : SameMission executor after.1 := by
  obtain ⟨_, ⟨landed, rfl, rfl⟩ | ⟨task', rfl, resumed⟩ |
    ⟨inRun, op, requested, rfl, rfl, requests, rfl⟩ | ⟨inRun, rfl, rfl, rfl⟩ |
    ⟨valid, reached, rfl, rfl⟩ | ⟨rfl, rfl⟩ | ⟨rfl, _, rfl⟩⟩ := exec_cases executed
  · exact ⟨rfl, rfl⟩
  · obtain ⟨hook, rfl, rfl, rfl⟩ | ⟨result, _, rfl⟩ := modeExecutorTask_cases resumed
    · cases hook with
      | completed => exact (modeFinished_same _ _).sameMission
      | onActivate => exact sameMission_onActivate
      | onDeactivate => exact sameMission_onDeactivate
      | onFailsafeDeferred => exact .refl _
      | mode hook =>
          cases hook with
          | updateSetpoint => exact updateSetpoint_same.sameMission
          | onActivate | onDeactivate => exact .refl _
    · exact ⟨rfl, rfl⟩
  · have same := sameMission_userOp keeps requests
    exact same
  · exact ⟨rfl, rfl⟩
  · exact (updateWaypoint_same _ _).sameMission
  · exact .refl _
  · exact sameMission_internal _

/-- An active executor refuses another mission. -/
theorem sameMission_of_active {task : Task} {input : Input} {after : MissionExecutor × List Task}
    (active : executor.isActive = true)
    (executed : executor.exec config task input = some after) : SameMission executor after.1 := by
  by_cases changes : input.changesMission = true
  · obtain ⟨_, ⟨_, rfl, _⟩ | ⟨_, rfl, resumed⟩ | ⟨_, op, requested, rfl, rfl, requests, rfl⟩ |
      ⟨_, rfl, rfl, _⟩ | ⟨_, _, rfl, rfl⟩ | ⟨rfl, rfl⟩ | ⟨rfl, _, _⟩⟩ := exec_cases executed
    · cases changes
    · obtain ⟨_, _, rfl, _⟩ | ⟨_, _, rfl⟩ := modeExecutorTask_cases resumed
      · cases changes
      · exact ⟨rfl, rfl⟩
    · cases op with
      | setMission =>
          cases requests
          simp only [setMission, active, if_true]
          exact .refl _
      | resetMission =>
          cases requests
          simp only [resetMission, active, if_true]
          exact .refl _
      | _ => cases changes
    · cases changes
    · exact (updateWaypoint_same _ _).sameMission
    · exact .refl _
    · cases changes
  · exact sameMission_exec (by simpa using changes) executed

theorem sameMission_idle {input : Input} {after : MissionExecutor × List Task}
    (taken : executor.idle config input = some after) : SameMission executor after.1 := by
  unfold idle at taken
  split at taken
  · cases taken
  · split at taken
    · cases taken
      exact ⟨rfl, rfl⟩
    · cases taken
      exact (applyModeExecutor_same _).sameMission
    · cases taken
      exact (applyModeExecutor_same _).sameMission
    · split at taken
      · cases taken
        exact updateSetpoint_same.sameMission
      · cases taken
    · split at taken
      · cases taken
        exact ⟨rfl, rfl⟩
      · cases taken
    · cases taken
      exact (checkReadynessAndReport_same _).sameMission
    · obtain ⟨onCompleted, _, rfl⟩ := Option.map_eq_some_iff.mp taken
      exact ⟨rfl, rfl⟩
    · cases taken
      exact .refl _
    · cases taken

/-! Setting a mission. -/

/-- No index, or one that the mission has. -/
def IndexFits (executor : MissionExecutor) : Prop :=
  ∀ index ∈ executor.state.currentIndex, executor.mission.indexValid index = true

/-- A mission that is set starts over, unless the file holds a state that fits it. -/
theorem setMission_state (inactive : executor.isActive = false) (canRun : CanRun)
    (mission : Mission) :
    (executor.setMission config canRun mission).mission = mission ∧
      (executor.setMission config canRun mission).state =
        (({ executor with mission }.tryLoadPersistentState config).getD
          ⟨none, mission.checksum config.hash, .empty⟩) := by
  obtain ⟨taken, same, cases⟩ := @setMission_of_inactive config executor inactive canRun mission
  have load : taken.tryLoadPersistentState config =
      { executor with mission }.tryLoadPersistentState config := by
    simp only [tryLoadPersistentState, same.mission, same.persistenceFile]
  obtain ⟨state, loaded, set⟩ | ⟨loaded, set⟩ := cases
  · rw [set, ← load, loaded]
    exact ⟨same.mission, rfl⟩
  · rw [set, ← load, loaded]
    refine ⟨same.mission, ?_⟩
    simp [resetMissionState, setState, same.state]

theorem tryLoad_fits {state : PersistentState}
    (loaded : executor.tryLoadPersistentState config = some state) :
    (∀ index ∈ state.currentIndex, executor.mission.indexValid index = true) ∧
      state.missionChecksum = executor.mission.checksum config.hash := by
  unfold tryLoadPersistentState at loaded
  split at loaded
  · obtain ⟨_, index, _, _, current, checksum, valid⟩ := tryLoad_accepted loaded
    refine ⟨fun other found => ?_, checksum⟩
    rw [current] at found
    cases found
    exact valid
  · cases loaded

theorem setMission_fits (inactive : executor.isActive = false) (canRun : CanRun)
    (mission : Mission) :
    (executor.setMission config canRun mission).IndexFits ∧
      (executor.setMission config canRun mission).state.missionChecksum =
        (executor.setMission config canRun mission).mission.checksum config.hash := by
  obtain ⟨taken, state⟩ := @setMission_state config executor inactive canRun mission
  unfold IndexFits
  rw [state, taken]
  cases loaded : { executor with mission }.tryLoadPersistentState config with
  | none => exact ⟨by simp, rfl⟩
  | some read => exact tryLoad_fits loaded

/-! The index of an inactive executor. -/

theorem IndexFits.of_same {before after : MissionExecutor} (fits : before.IndexFits)
    (index : after.state.currentIndex = before.state.currentIndex)
    (mission : after.mission = before.mission) : after.IndexFits := by
  unfold IndexFits
  rw [index, mission]
  exact fits

theorem IndexFits.of_sameCore {before after : MissionExecutor} (fits : before.IndexFits)
    (same : SameCore before after) : after.IndexFits :=
  fits.of_same (congrArg PersistentState.currentIndex same.state) same.mission

/-- A handler refuses an index that the mission does not have. -/
theorem indexFits_handlerOp (fits : executor.IndexFits) (handler : HandlerId) (op : HandlerOp) :
    (executor.handlerOp config handler op).1.IndexFits := by
  by_cases kind : op.isRoutine = true
  · have routine := @routineAfter_handlerOp config executor handler op kind
    exact fits.of_same routine.state.currentIndex routine.state.mission
  · unfold handlerOp
    split
    · exact fits
    · cases op with
      | runAction => exact fits.of_sameCore (runAction_same _ _ _)
      | runTrajectory => exact fits.of_sameCore (runCustomTrajectory_same _ _ _)
      | setCurrentMissionIndex index =>
          simp only [handlerCall]
          split
          · rename_i valid
            have chosen : (executor.setState
                { executor.state with currentIndex := some index }).IndexFits := by
              intro other found
              cases found
              exact valid
            exact chosen.of_sameCore (reportIndex_same index)
          · exact fits
      | storeState => exact fits.of_same rfl rfl
      | _ => exact absurd rfl kind

theorem indexFits_userOp (inactive : executor.isActive = false) (fits : executor.IndexFits)
    {op : UserOp} {after : MissionExecutor × List Task}
    (requested : executor.userOp config op = some after) : after.1.IndexFits := by
  cases op with
  | handler reference op =>
      simp only [userOp] at requested
      split at requested
      · obtain ⟨denoted, _, rfl⟩ := Option.map_eq_some_iff.mp requested
        exact indexFits_handlerOp fits _ _
      · cases requested
  | releaseKeeper id =>
      simp only [userOp] at requested
      split at requested
      · cases requested
        have handling := @removeContinousAction_handling
          { executor with userKeepers := executor.userKeepers.erase id } id
        exact fits.of_same handling.currentIndex handling.mission
      · cases requested
  | call | callIndex =>
      simp only [userOp] at requested
      split at requested
      · cases requested
        exact fits
      · cases requested
  | setMission =>
      cases requested
      exact (setMission_fits inactive _ _).1
  | resetMission =>
      cases requested
      simp only [resetMission, inactive]
      intro index found
      cases found
  | abort | setActivityInfo | controlAutoSetHome =>
      cases requested
      exact fits.of_same rfl rfl
  | deferFailsafes =>
      cases requested
      exact fits.of_sameCore (deferFailsafes_same _ _)
  | setCallback =>
      cases requested
      exact fits.of_sameCore (setCallback_same _ _ _)

/-- What C++ can hold: the index is an `int`, and the size of the mission is no huge `size_t`. -/
structure InRange (executor : MissionExecutor) : Prop where
  index : ∀ index ∈ executor.state.currentIndex, -2 ^ 31 ≤ index ∧ index < 2 ^ 31
  size : executor.mission.items.length < 2 ^ 63

instance : DecidablePred InRange := fun executor =>
  decidable_of_iff
    ((∀ index ∈ executor.state.currentIndex, -2 ^ 31 ≤ index ∧ index < 2 ^ 31) ∧
      executor.mission.items.length < 2 ^ 63)
    ⟨fun both => ⟨both.1, both.2⟩, fun range => ⟨range.index, range.size⟩⟩

/-- A mission that is not done is at one of its items. -/
theorem indexFits_of_not_missionDone (range : executor.InRange)
    (going : executor.missionDone = false) : executor.IndexFits := by
  intro index found
  have fits := range.index index found
  have size := range.size
  unfold missionDone at going
  rw [Option.mem_def.mp found] at going
  have small := (Bool.or_eq_false_iff.mp going).2
  simp only [asSize, ge_iff_le, decide_eq_false_iff_not, not_le] at small
  simp only [Mission.indexValid, decide_eq_true_eq]
  omega

theorem indexFits_onDeactivate (range : executor.InRange) :
    (executor.onDeactivate config).1.IndexFits := by
  unfold onDeactivate
  split
  · intro index found
    cases found
  · rename_i going
    have fits := indexFits_of_not_missionDone range (by simpa using going)
    exact fits.of_same rfl rfl

variable {before next : Config} {input : Input}

theorem sameMission_step (keeps : input.changesMission = false)
    (stepped : (machine config).step before input = some next) :
    SameMission before.state next.state := by
  obtain ⟨_, state, tasks, taken, rfl⟩ | ⟨task, rest, state, tasks, _, executed, rfl⟩ :=
    Lib.Machine.step_cases stepped
  · exact sameMission_idle taken
  · exact sameMission_exec keeps executed

theorem sameMission_step_of_active (active : before.state.isActive = true)
    (stepped : (machine config).step before input = some next) :
    SameMission before.state next.state := by
  obtain ⟨_, state, tasks, taken, rfl⟩ | ⟨task, rest, state, tasks, _, executed, rfl⟩ :=
    Lib.Machine.step_cases stepped
  · exact sameMission_idle taken
  · exact sameMission_of_active active executed

/-- A request comes from user code. -/
theorem step_op {op : UserOp} (stepped : (machine config).step before (.op op) = some next) :
    (∃ inRun rest requested, before.agenda = .user inRun :: rest ∧
      before.state.userOp config op = some requested ∧ next.state = requested.1) ∨
    ((∀ inRun, before.agenda.head? ≠ some (.user inRun)) ∧
      SameCore before.state next.state) := by
  obtain ⟨_, state, tasks, taken, rfl⟩ | ⟨task, rest, state, tasks, agenda, executed, rfl⟩ :=
    Lib.Machine.step_cases stepped
  · have refused : before.state.idle config (.op op) = none := by
      unfold idle
      split <;> rfl
    exact absurd (refused.symm.trans taken) (by simp)
  · generalize made : (state, tasks) = after at executed
    obtain ⟨_, ⟨_, other, _⟩ | ⟨_, rfl, resumed⟩ | ⟨inRun, _, requested, rfl, same, requests, rfl⟩ |
      ⟨_, _, other, _⟩ | ⟨_, _, waits, rfl⟩ | ⟨waits, rfl⟩ | ⟨other, _⟩⟩ := exec_cases executed
    · cases other
    · obtain ⟨_, _, other, _⟩ | ⟨_, _, rfl⟩ := modeExecutorTask_cases resumed
      · cases other
      · cases made
        exact .inr ⟨by simp [agenda], applyModeExecutor_same _⟩
    · cases same
      cases made
      exact .inl ⟨inRun, rest, requested, agenda, requests, rfl⟩
    · cases other
    · cases congrArg Prod.fst made
      exact .inr ⟨by simp [agenda, waits], updateWaypoint_same _ _⟩
    · cases made
      exact .inr ⟨by simp [agenda, waits], .refl _⟩
    · cases other

/-- Whatever happens to an inactive executor: its index fits the mission. -/
theorem indexFits_next (sound : Sound before) (inactive : Inactive config before)
    (range : before.state.InRange) (settled : before.state.isActive = false → before.state.IndexFits)
    (stepped : (machine config).step before input = some next)
    (stays : next.state.isActive = false) : next.state.IndexFits := by
  cases was : before.state.isActive with
  | true =>
      obtain ⟨active, _⟩ | ⟨reason, rest, _, state, _⟩ := active_step was inactive stepped
      · rw [stays] at active
        cases active
      · rw [state]
        exact indexFits_onDeactivate range
  | false =>
      have fits := settled was
      by_cases request : ∃ op, input = .op op
      · obtain ⟨op, rfl⟩ := request
        obtain ⟨_, _, requested, _, requests, state⟩ | ⟨_, same⟩ := step_op stepped
        · rw [state]
          exact indexFits_userOp was fits requests
        · exact fits.of_sameCore same
      · have noOp : ∀ op, input ≠ .op op := fun op same => request ⟨op, same⟩
        have keeps : input.changesMission = false := by
          cases input with
          | op op => exact absurd rfl (noOp op)
          | _ => rfl
        have mission := (sameMission_step keeps stepped).mission
        obtain ⟨bound, stopped⟩ := inactive.stopped was
        by_cases activates : input = .proceed ∧
            before.agenda.head? = some (.modeExecutor (.hook .onActivate))
        · obtain ⟨rfl, head⟩ := activates
          obtain ⟨rest, agenda⟩ := List.head?_eq_some_iff.mp head
          obtain ⟨tasks, executed, _⟩ := step_head agenda stepped
          obtain ⟨_, other, _⟩ | ⟨_, same⟩ := exec_hook executed
          · cases other
          · have active : next.state.isActive = true := by
              rw [show next.state = before.state.onActivate.1 from congrArg Prod.fst same]
              exact onActivate_isActive
            rw [stays] at active
            cases active
        · have kept : ∀ task ∈ before.agenda.head?, KeepsStopped before.state task input := by
            refine fun task head => ⟨fun proceeds same => ?_, not_startsUnhanded was⟩
            subst same
            exact activates ⟨proceeds, head⟩
          have onFailure : before.state.isActive = true →
              config.findAction "onFailure" = some .onFailure := by
            intro active
            rw [was] at active
            cases active
          obtain ⟨_, after⟩ | ⟨task, _, _, _, _, after | ⟨_, _, state, _⟩⟩ :=
            stopped.step_cases sound onFailure kept stepped
          · exact fits.of_same ((after .updateWaypoint).currentIndex noOp) mission
          · exact fits.of_same (after.currentIndex noOp) mission
          · rw [state]
            exact indexFits_onDeactivate range

/-! The process with a persistence file that others write to as well. -/

inductive FileInput where
  | own (input : Input)
  /-- The file has a new content, whatever it is. -/
  | written (content : PersistenceFile)

def sharedFileMachine (config : Configuration) :
    Lib.Machine MissionExecutor Task FileInput where
  exec executor task input :=
    match input with
    | .own input => executor.exec config task input
    | .written content => some ({ executor with persistenceFile := content }, [task])
  idle executor input :=
    match input with
    | .own input => executor.idle config input
    | .written content => some ({ executor with persistenceFile := content }, [])

theorem sharedFile_step_cases {input : FileInput}
    (stepped : (sharedFileMachine config).step before input = some next) :
    (∃ own, input = .own own ∧ (machine config).step before own = some next) ∨
    (∃ content, input = .written content ∧
      next = ⟨{ before.state with persistenceFile := content }, before.agenda⟩) := by
  rcases before with ⟨executor, agenda⟩
  cases input with
  | own input => cases agenda <;> exact .inl ⟨input, rfl, stepped⟩
  | written content =>
      refine .inr ⟨content, rfl, ?_⟩
      cases agenda <;> exact (Option.some.inj stepped).symm

/-- Whether a mission was set since the last reset, and what the last activation started with. -/
structure MissionHistory where
  isSet : Bool := false
  activatedWith : Option (Mission × String) := none

/-- An active executor refuses both requests. -/
def missionRecorder : Lib.Recorder MissionExecutor Task FileInput MissionHistory where
  event history _ _ := history
  task history executor task input :=
    match task, input with
    | .user _, .own (.op (.setMission _ _)) =>
        if executor.isActive then history else { history with isSet := true }
    | .user _, .own (.op .resetMission) =>
        if executor.isActive then history else { history with isSet := false }
    | .modeExecutor (.hook .onActivate), .own .proceed =>
        { history with
          activatedWith := some (executor.mission, executor.state.missionChecksum) }
    | _, _ => history

/-- What holds in every configuration of the process. -/
structure Consistent (config : Configuration) (history : MissionHistory) (reached : Config) :
    Prop where
  sound : Sound reached
  inactive : Inactive config reached
  inStep : InStep reached
  settled : reached.state.isActive = false → reached.state.IndexFits
  checksum : history.isSet = true →
    reached.state.state.missionChecksum = reached.state.mission.checksum config.hash
  unchanged : reached.state.isActive = true → history.activatedWith =
    some (reached.state.mission, reached.state.state.missionChecksum)

theorem Consistent.written {history : MissionHistory} {reached : Config}
    (consistent : Consistent config history reached) (content : PersistenceFile) :
    Consistent config history
      ⟨{ reached.state with persistenceFile := content }, reached.agenda⟩ := by
  obtain ⟨⟨ordered, made, valid, closures⟩, ⟨stopped, saves⟩, inStep, settled, checksum,
    unchanged⟩ := consistent
  refine ⟨⟨?_, ?_, ?_, ?_⟩, ⟨fun inactive => ?_, saves⟩, inStep, settled, checksum, unchanged⟩
  · exact ⟨ordered.run, ordered.status, ordered.level⟩
  · exact ⟨made.current, made.users, made.tasks⟩
  · exact ⟨valid.current, valid.valid⟩
  · exact ⟨closures.state.congr rfl rfl rfl rfl rfl, closures.tasks⟩
  · obtain ⟨bound, others⟩ := stopped inactive
    exact ⟨bound, ⟨others.closures.state.congr rfl rfl rfl rfl rfl, others.closures.tasks⟩,
      others.renewed, others.tasks, others.users⟩

/-- What a step records: nothing, a request of the user, or an activation. -/
theorem record_cases (history : MissionHistory) (before : Config) (input : FileInput) :
    missionRecorder.record history before input = history ∨
    (before.state.isActive = false ∧
      ((∃ mission canRun, input = .own (.op (.setMission mission canRun)) ∧
        (∃ inRun, before.agenda.head? = some (.user inRun)) ∧
        missionRecorder.record history before input = { history with isSet := true }) ∨
      (input = .own (.op .resetMission) ∧
        missionRecorder.record history before input = { history with isSet := false }))) ∨
    (input = .own .proceed ∧
      before.agenda.head? = some (.modeExecutor (.hook .onActivate)) ∧
      missionRecorder.record history before input =
        { history with
          activatedWith := some (before.state.mission, before.state.state.missionChecksum) }) := by
  rcases before with ⟨executor, agenda⟩
  cases agenda with
  | nil => exact .inl rfl
  | cons task rest =>
      simp only [Lib.Recorder.record, missionRecorder]
      split
      · cases executor.isActive with
        | true => exact .inl rfl
        | false => exact .inr (.inl ⟨rfl, .inl ⟨_, _, rfl, ⟨_, rfl⟩, rfl⟩⟩)
      · cases executor.isActive with
        | true => exact .inl rfl
        | false => exact .inr (.inl ⟨rfl, .inr ⟨rfl, rfl⟩⟩)
      · exact .inr (.inr ⟨rfl, rfl, rfl⟩)
      · exact .inl rfl

theorem checksum_next {history : MissionHistory} (consistent : Consistent config history before)
    (stepped : (machine config).step before input = some next)
    (set : (missionRecorder.record history before (.own input)).isSet = true) :
    next.state.state.missionChecksum = next.state.mission.checksum config.hash := by
  have kept (same : SameMission before.state next.state) (set : history.isSet = true) :
      next.state.state.missionChecksum = next.state.mission.checksum config.hash := by
    rw [same.missionChecksum, same.mission]
    exact consistent.checksum set
  have same_of (refuses : input.changesMission = false ∨ before.state.isActive = true) :
      SameMission before.state next.state := by
    rcases refuses with keeps | active
    · exact sameMission_step keeps stepped
    · exact sameMission_step_of_active active stepped
  obtain same | ⟨inactive, ⟨mission, canRun, asks, ⟨inRun, user⟩, _⟩ | ⟨_, same⟩⟩ |
    ⟨proceeds, _, same⟩ := record_cases history before (.own input)
  · rw [same] at set
    by_cases changes : input.changesMission = true ∧ before.state.isActive = false
    · obtain ⟨changes, inactive⟩ := changes
      cases input with
      | op op =>
          obtain ⟨_, rest, requested, agenda, requests, state⟩ | ⟨_, core⟩ := step_op stepped
          · cases op with
            | setMission mission canRun =>
                cases requests
                rw [state]
                exact (setMission_fits inactive canRun mission).2
            | resetMission =>
                simp only [Lib.Recorder.record, agenda, missionRecorder, inactive] at same
                rw [← same] at set
                cases set
            | _ => cases changes
          · exact kept core.sameMission set
      | _ => cases changes
    · refine kept (same_of ?_) set
      cases keeps : input.changesMission with
      | false => exact .inl rfl
      | true => exact .inr (by simpa [keeps] using changes)
  · cases asks
    obtain ⟨_, rest, requested, _, requests, state⟩ | ⟨other, _⟩ := step_op stepped
    · cases requests
      rw [state]
      exact (setMission_fits inactive canRun mission).2
    · exact absurd user (other inRun)
  · rw [same] at set
    cases set
  · cases proceeds
    rw [same] at set
    exact kept (same_of (.inl rfl)) set

/-- The mission and the checksum of the last activation are still there. -/
theorem unchanged_next {history : MissionHistory} (consistent : Consistent config history before)
    (stepped : (machine config).step before input = some next)
    (active : next.state.isActive = true) :
    (missionRecorder.record history before (.own input)).activatedWith =
      some (next.state.mission, next.state.state.missionChecksum) := by
  cases was : before.state.isActive with
  | true =>
      have same := sameMission_step_of_active was stepped
      rw [same.mission, same.missionChecksum]
      obtain recorded | ⟨inactive, _⟩ | ⟨_, _, recorded⟩ := record_cases history before (.own input)
      · rw [recorded]
        exact consistent.unchanged was
      · rw [was] at inactive
        cases inactive
      · rw [recorded]
  | false =>
      obtain ⟨stays, _⟩ | ⟨_, rest, agenda, _⟩ :=
        inactive_step consistent.sound consistent.inactive was stepped
      · rw [stays] at active
        cases active
      · obtain ⟨tasks, executed, _⟩ := step_head agenda stepped
        obtain ⟨_, _, same⟩ | ⟨rfl, same⟩ := exec_hook executed
        · rw [show next.state.isActive = before.state.isActive from
            congrArg (fun after => after.1.isActive) same, was] at active
          cases active
        · have state : next.state = before.state.onActivate.1 := congrArg Prod.fst same
          have mission := @sameMission_onActivate before.state
          rw [state, mission.mission, mission.missionChecksum]
          simp [Lib.Recorder.record, agenda, missionRecorder]

theorem consistent_next {history : MissionHistory} (consistent : Consistent config history before)
    (range : before.state.InRange) (stepped : (machine config).step before input = some next) :
    Consistent config (missionRecorder.record history before (.own input)) next := by
  constructor
  case sound => exact sound_next consistent.sound stepped
  case inactive => exact inactive_next consistent.sound consistent.inactive stepped
  case inStep => exact inStep_next consistent.inStep stepped
  case settled =>
    exact indexFits_next consistent.sound consistent.inactive range consistent.settled stepped
  case checksum => exact checksum_next consistent stepped
  case unchanged => exact unchanged_next consistent stepped

variable {registered : Bool} {id : UInt8} {ownedMode : ModeBase} {file : PersistenceFile}

theorem consistent_initial : Consistent config {} (initial registered id ownedMode file) := by
  refine ⟨sound_initial, inactive_initial, .done false, fun _ => ?_, fun set => ?_,
    fun active => ?_⟩
  · intro index found
    cases found
  · cases set
  · cases active

/-- The guard of a run without overflows. -/
abbrev WithinRange (reached : Config) (_ : FileInput) : Prop := reached.state.InRange

/-- Whatever others write to the persistence file and whenever: an activation finds no index or one
that the mission has, and the checksum of the mission if one was set. Mission and checksum stay the
same until the deactivation. A mission starts over when its state cannot be loaded. -/
theorem activation_consistent
    {reached : Lib.Config (Lib.Recorded MissionExecutor MissionHistory) Task}
    (reaches : ((sharedFileMachine config).recorded missionRecorder).Reaches
      (fun reached => WithinRange reached.forget)
      ⟨⟨(initial registered id ownedMode file).state, {}⟩, []⟩ reached) :
    (∀ rest, reached.agenda = .modeExecutor (.hook .onActivate) :: rest →
      reached.state.state.IndexFits ∧
      (reached.state.history.isSet = true →
        reached.state.state.state.missionChecksum =
          reached.state.state.mission.checksum config.hash)) ∧
    (reached.state.state.isActive = true → reached.state.history.activatedWith =
      some (reached.state.state.mission, reached.state.state.state.missionChecksum)) ∧
    (reached.state.state.isActive = false → ∀ canRun mission,
      { reached.state.state with mission }.tryLoadPersistentState config = none →
      (reached.state.state.setMission config canRun mission).state =
        ⟨none, mission.checksum config.hash, .empty⟩) := by
  have consistent : Consistent config reached.state.history reached.forget := by
    refine Lib.Machine.Reaches.recorded_invariant consistent_initial ?_ reaches
    intro history before input next consistent range stepped
    obtain ⟨own, rfl, stepped⟩ | ⟨content, rfl, rfl⟩ := sharedFile_step_cases stepped
    · exact consistent_next consistent range stepped
    · have nothing : missionRecorder.record history before (.written content) = history := by
        obtain same | ⟨_, ⟨_, _, other, _⟩ | ⟨other, _⟩⟩ | ⟨other, _⟩ :=
          record_cases history before (.written content)
        · exact same
        · cases other
        · cases other
        · cases other
      rw [nothing]
      exact consistent.written content
  refine ⟨fun rest agenda => ⟨?_, consistent.checksum⟩, consistent.unchanged, ?_⟩
  · exact consistent.settled (consistent.inStep.hook agenda)
  · intro inactive canRun mission failed
    rw [(setMission_state inactive canRun mission).2, failed]
    rfl

/-- An interrupted mission. Someone destroys the file before the mission is activated again. -/
def destroyedFile : List FileInput :=
  (interruptedSurvey ++ proceeds 10 ++ .ret :: proceeds 9).map .own ++
    [.written .unparsable, .own (armedStatus 23 1), .own .proceed]

def aboutToActivate (agenda : List Task) : Bool :=
  match agenda with
  | .modeExecutor (.hook .onActivate) :: _ => true
  | _ => false

theorem agenda_of_aboutToActivate {agenda : List Task} (activates : aboutToActivate agenda = true) :
    ∃ rest, agenda = .modeExecutor (.hook .onActivate) :: rest := by
  unfold aboutToActivate at activates
  split at activates
  · rename_i rest
    exact ⟨rest, rfl⟩
  · cases activates

theorem activation_consistent_survey :
    ∃ reached : Lib.Config (Lib.Recorded MissionExecutor MissionHistory) Task,
      reached.state.state.state.currentIndex = some 1 ∧ reached.state.history.isSet = true ∧
      reached.state.state.IndexFits ∧
      reached.state.state.state.missionChecksum =
        reached.state.state.mission.checksum surveyConfiguration.hash := by
  obtain ⟨reached, reaches, activates, current, set⟩ :=
    Lib.Machine.reaches_of_run_any ((sharedFileMachine surveyConfiguration).recorded missionRecorder)
      (fun reached => WithinRange reached.forget)
      ⟨⟨(initial true 1 surveyMode .unparsable).state, {}⟩, []⟩
      (fun reached => aboutToActivate reached.agenda = true ∧
        reached.state.state.state.currentIndex = some 1 ∧ reached.state.history.isSet = true)
      destroyedFile (by decide +kernel)
  obtain ⟨rest, agenda⟩ := agenda_of_aboutToActivate activates
  have found := (activation_consistent reaches).1 rest agenda
  exact ⟨reached, current, set, found.1, found.2 set⟩

end Px4Ros2.MissionExecutor
