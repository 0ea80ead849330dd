import Px4Ros2.Mission.ItemAccess

/-! Which reads of mission items are in bounds. -/

set_option autoImplicit false

namespace Px4Ros2.MissionExecutor

variable {config : Configuration} {executor : MissionExecutor} {task : Task} {input : Input}
  {after : MissionExecutor × List Task} {index : Int}

/-! The position of the waypoint trajectory executor in its own trajectory. -/

def InFlight (trajectory : TrajectoryConfig) (index : Int) : Prop :=
  0 ≤ index ∧ index ≤ trajectory.endIndex ∧
    trajectory.endIndex < trajectory.trajectory.items.length

def PositionFits (executor : MissionExecutor) : Prop :=
  ∀ index ∈ executor.trajectoryIndex, ∃ trajectory,
    executor.currentTrajectory = some trajectory ∧ InFlight trajectory index

structure SameFlight (before after : MissionExecutor) : Prop where
  currentTrajectory : after.currentTrajectory = before.currentTrajectory
  trajectoryIndex : after.trajectoryIndex = before.trajectoryIndex

theorem SameFlight.refl (executor : MissionExecutor) : SameFlight executor executor := ⟨rfl, rfl⟩

theorem SameFlight.trans {first second third : MissionExecutor} (one : SameFlight first second)
    (two : SameFlight second third) : SameFlight first third :=
  ⟨two.currentTrajectory.trans one.currentTrajectory,
    two.trajectoryIndex.trans one.trajectoryIndex⟩

theorem Routine.sameFlight {before after : MissionExecutor} (routine : Routine before after) :
    SameFlight before after :=
  ⟨routine.currentTrajectory, routine.trajectoryIndex⟩

theorem PositionFits.of_same {before after : MissionExecutor} (fits : before.PositionFits)
    (same : SameFlight before after) : after.PositionFits := by
  intro index found
  rw [same.trajectoryIndex] at found
  obtain ⟨trajectory, current, inFlight⟩ := fits index found
  exact ⟨trajectory, same.currentTrajectory.trans current, inFlight⟩

theorem sameFlight_runAction (name : String) (arguments : ActionArguments)
    (onCompleted : Closure) :
    SameFlight executor (executor.runAction config name arguments onCompleted).1 := by
  unfold runAction
  split
  · exact .refl _
  · exact ⟨rfl, rfl⟩

theorem sameFlight_setCurrentMissionIndex (index : Int) :
    SameFlight executor (executor.setCurrentMissionIndex index).1 := by
  simp only [setCurrentMissionIndex, reportIndex]
  split <;> split <;> exact ⟨rfl, rfl⟩

theorem positionFits_runTrajectory (fits : executor.PositionFits) {trajectory : Mission}
    {start last : Int} (inside : 0 ≤ start ∧ start ≤ last ∧ last < trajectory.items.length)
    (onIndexReached : IndexClosure) (stopAtLast : Bool) :
    (executor.runTrajectory config trajectory start last onIndexReached
      stopAtLast).1.PositionFits := by
  unfold runTrajectory
  split
  · exact fits
  · dsimp only
    split
    · exact fits
    · intro index found
      cases found
      exact ⟨_, rfl, inside⟩

theorem positionFits_handlerOp (fits : executor.PositionFits) (handler : HandlerId)
    (op : HandlerOp) : (executor.handlerOp config handler op).1.PositionFits := by
  by_cases kind : op.isRoutine = true
  · exact fits.of_same (routineAfter_handlerOp handler kind).state.sameFlight
  · unfold handlerOp
    split
    · exact fits
    · cases op with
      | runAction => exact fits.of_same (sameFlight_runAction _ _ _)
      | runTrajectory trajectory onCompleted stopAtLast =>
          simp only [handlerCall, runCustomTrajectory]
          split
          · exact fits
          · rename_i notEmpty
            split
            · have size : 0 < trajectory.items.length := by
                simpa [List.length_pos_iff, List.isEmpty_iff] using notEmpty
              exact positionFits_runTrajectory fits ⟨le_refl _, by omega, by omega⟩ _ _
            · exact fits
      | setCurrentMissionIndex index =>
          simp only [handlerCall]
          split
          · exact fits.of_same (sameFlight_setCurrentMissionIndex _)
          · exact fits
      | storeState => exact fits.of_same ⟨rfl, rfl⟩
      | _ => exact absurd rfl kind

theorem positionFits_runCurrentMissionItem (fits : executor.PositionFits) (resuming : Bool) :
    (executor.runCurrentMissionItem config resuming).1.PositionFits := by
  unfold runCurrentMissionItem
  split
  · exact fits.of_same (routineAfter_runMode _ _ _).state.sameFlight
  · rename_i index current
    split
    · split
      · exact fits
      · exact fits.of_same (routineAfter_runMode _ _ _).state.sameFlight
    · rename_i item found
      cases item with
      | navigation waypoint =>
          have segment := @getNextTrajectorySegment_spec config executor index ⟨waypoint, found⟩
          obtain ⟨_, last⟩ := segment.navigation _ segment.start_le (le_refl _)
          exact positionFits_runTrajectory fits
            ⟨(range_of_item? found).1, segment.start_le, (range_of_item? last).2⟩ _ _
      | action item =>
          simp only [runMissionItem]
          split
          · exact fits.of_same ⟨rfl, rfl⟩
          · refine fits.of_same (SameFlight.trans ?_ (sameFlight_runAction _ _ _))
            exact ⟨rfl, rfl⟩

theorem positionFits_continueNextItem {trajectory : TrajectoryConfig}
    (fits : executor.PositionFits) (current : executor.currentTrajectory = some trajectory)
    (position : executor.trajectoryIndex = some index) :
    (executor.continueNextItem trajectory index).1.PositionFits := by
  obtain ⟨trajectory', current', inFlight⟩ := fits index position
  obtain rfl : trajectory = trajectory' := Option.some.inj (current.symm.trans current')
  intro next found
  simp only [continueNextItem] at found
  split at found
  · cases found
  · cases found
    exact ⟨trajectory, current, by have := inFlight.1; omega, by omega, inFlight.2.2⟩

theorem sameFlight_startMission (startFromBeginning : Bool) :
    SameFlight executor (executor.startMission config startFromBeginning).1 := by
  have stored : SameFlight executor executor.getOnResumeStateAndClear.1 := by
    unfold getOnResumeStateAndClear
    split <;> exact ⟨rfl, rfl⟩
  unfold startMission
  split
  · exact ⟨rfl, rfl⟩
  · dsimp only
    split
    · exact stored.trans ⟨rfl, rfl⟩
    · exact stored.trans (sameFlight_runAction _ _ _)

theorem sameFlight_runChangeSettings (handler : HandlerId) (arguments : ActionArguments)
    (onCompleted : Closure) :
    SameFlight executor (executor.runChangeSettings config handler arguments onCompleted).1 := by
  have stored : ∀ (before : MissionExecutor) (options : Json),
      SameFlight before (before.storeSettings handler options).1 := by
    intro before options
    unfold storeSettings
    split <;> exact ⟨rfl, rfl⟩
  unfold runChangeSettings
  split
  · exact ⟨rfl, rfl⟩
  · have cleared := @routineAfter_handlerOp config executor handler .clearTrajectoryOptions rfl
    exact cleared.state.sameFlight.trans ⟨rfl, rfl⟩
  · split
    · exact ⟨rfl, rfl⟩
    · split
      · exact ⟨rfl, rfl⟩
      · exact (routineAfter_handlerOp handler rfl).state.sameFlight.trans (stored _ _)

theorem sameFlight_setMission (canRun : CanRun) (mission : Mission) :
    SameFlight executor (executor.setMission config canRun mission) := by
  unfold setMission
  split
  · exact .refl _
  · dsimp only
    have report := @routine_checkReadynessAndReport config
      { executor with
        mission
        missionErrors := missionErrorsOf config mission
        hasValidMission := (missionErrorsOf config mission).isEmpty
        state := { executor.state with missionChecksum := mission.checksum config.hash } } canRun
    split <;> exact ⟨report.currentTrajectory, report.trajectoryIndex⟩

theorem Does.positionFits (does : Does config executor task input after)
    (fits : executor.PositionFits) : after.1.PositionFits := by
  cases does with
  | routine state => exact fits.of_same state.sameFlight
  | again | modeExecutor | nextItem | runStoredActions | setTrajectoryState | runCustom
  | onResumeCompletes | enterRun | userCallIndex | abort | abortDeactivate | abortEnd =>
      exact fits.of_same ⟨rfl, rfl⟩
  | onActivate =>
      unfold MissionExecutor.onActivate
      split
      · exact fits.of_same ⟨rfl, rfl⟩
      · have activated : SameFlight executor executor.activated := ⟨rfl, rfl⟩
        exact fits.of_same (activated.trans (sameFlight_setCurrentMissionIndex _))
  | onDeactivate =>
      unfold MissionExecutor.onDeactivate clearPersistentState
      split
      · split <;> exact fits.of_same ⟨rfl, rfl⟩
      · exact fits.of_same ⟨rfl, rfl⟩
  | onActivateRun =>
      unfold MissionExecutor.onActivateRun
      split
      · exact fits
      · exact fits.of_same (sameFlight_startMission _)
  | onActivatedReturned =>
      unfold MissionExecutor.onActivatedReturned
      split
      · exact fits.of_same (sameFlight_startMission _)
      · exact fits
  | runNextMissionItem => exact fits.of_same (sameFlight_setCurrentMissionIndex _)
  | runCurrentMissionItem => exact positionFits_runCurrentMissionItem fits _
  | switchToTrajectory =>
      unfold MissionExecutor.switchToTrajectory
      split
      · exact fits.of_same (routineAfter_runMode _ _ _).state.sameFlight
      · exact fits
  | resumed =>
      unfold MissionExecutor.resumed
      split
      · split <;> exact fits.of_same ⟨rfl, rfl⟩
      · exact fits
  | navigate =>
      unfold MissionExecutor.navigateToPreviousWaypoint
      split
      · exact positionFits_handlerOp fits _ _
      · exact fits
  | segment =>
      unfold MissionExecutor.segmentReached
      split
      · exact fits.of_same (sameFlight_setCurrentMissionIndex _)
      · exact fits
  | continueNextItem current position => exact positionFits_continueNextItem fits current position
  | unexpectedLanding =>
      unfold MissionExecutor.resumeFromUnexpectedLanding
      split
      · exact positionFits_handlerOp fits _ _
      · split
        · exact positionFits_handlerOp fits _ _
        · exact fits
  | changeSettings => exact fits.of_same (sameFlight_runChangeSettings _ _ _)
  | userHandlerOp => exact positionFits_handlerOp fits _ _
  | userSetMission => exact fits.of_same (sameFlight_setMission _ _)
  | userResetMission =>
      unfold MissionExecutor.resetMission
      split
      · exact fits
      · exact fits.of_same ⟨rfl, rfl⟩
  | savePersistentState =>
      obtain ⟨file, same⟩ := @savePersistentState_eq config executor
      rw [same]
      exact fits.of_same ⟨rfl, rfl⟩
  | abortRunOnFailure =>
      unfold MissionExecutor.abortRunOnFailure
      dsimp only
      split
      · exact fits.of_same ⟨rfl, rfl⟩
      · refine fits.of_same (SameFlight.trans ?_ (sameFlight_runAction _ _ _))
        exact ⟨rfl, rfl⟩

/-! The loops over the mission. -/

theorem range_of_stopAccesses {items : List MissionItem} {first : Int}
    (read : index ∈ stopAccesses first items) : first ≤ index ∧ index < first + items.length := by
  induction items generalizing first with
  | nil => cases read
  | cons item rest ih =>
      cases item with
      | navigation waypoint =>
          obtain rfl : index = first := List.mem_singleton.mp read
          simp
      | action item =>
          rcases List.mem_cons.mp read with rfl | later
          · simp
          · have := ih later
            simp only [List.length_cons]
            omega

theorem range_of_segmentAccesses {items : List MissionItem} {endIndex : Int}
    (read : index ∈ segmentAccesses endIndex items) :
    endIndex < index ∧ index ≤ endIndex + items.length := by
  induction items generalizing endIndex with
  | nil => cases read
  | cons item rest ih =>
      cases item with
      | navigation waypoint =>
          rcases List.mem_cons.mp read with rfl | later
          · simp
          · have := ih later
            simp only [List.length_cons]
            omega
      | action item =>
          rcases List.mem_cons.mp read with rfl | later
          · simp
          · have := range_of_stopAccesses later
            omega

theorem range_of_backwardAccesses {items : List MissionItem} {last : Int}
    (read : index ∈ backwardAccesses last items) :
    last - items.length < index ∧ index ≤ last := by
  induction items generalizing last with
  | nil => cases read
  | cons item rest ih =>
      cases item with
      | navigation waypoint =>
          obtain rfl : index = last := List.mem_singleton.mp read
          simp
      | action item =>
          rcases List.mem_cons.mp read with rfl | later
          · simp
          · have := ih later
            simp only [List.length_cons]
            omega

theorem runCurrentMissionItemAccesses_inBounds
    (read : index ∈ executor.runCurrentMissionItemAccesses) :
    ItemAccess.InBounds (executor.mission, index) := by
  unfold runCurrentMissionItemAccesses at read
  split at read
  · cases read
  · rename_i current _
    split at read
    · cases read
    · rename_i found
      have inside := range_of_item? found
      rcases List.mem_cons.mp read with rfl | later
      · exact inside
      · have := range_of_segmentAccesses later
        simp only [List.length_drop] at this
        simp only [ItemAccess.InBounds]
        omega
    · rename_i found
      obtain rfl : index = current := List.mem_singleton.mp read
      exact range_of_item? found

theorem navigateToPreviousWaypointAccesses_inBounds {currentMissionIndex : Int}
    (read : index ∈ executor.navigateToPreviousWaypointAccesses currentMissionIndex) :
    ItemAccess.InBounds (executor.mission, index) := by
  have := range_of_backwardAccesses read
  simp only [List.length_reverse, List.length_take] at this
  simp only [ItemAccess.InBounds]
  omega

theorem unexpectedLandingAccesses_inBounds {currentMissionIndex : Int}
    (read : index ∈ executor.unexpectedLandingAccesses currentMissionIndex) :
    ItemAccess.InBounds (executor.mission, index) := by
  unfold unexpectedLandingAccesses at read
  rcases List.mem_append.mp read with own | earlier
  · split at own
    · rename_i valid
      obtain rfl : index = currentMissionIndex := List.mem_singleton.mp own
      simpa [Mission.indexValid, ItemAccess.InBounds] using valid
    · cases own
  · split at earlier
    · cases earlier
    · obtain ⟨position, inside, rfl⟩ := List.mem_map.mp earlier
      have := List.mem_range.mp inside
      simp only [ItemAccess.InBounds]
      omega

/-- The index that `currentActionSupportsResumeFromLanded` reads. -/
theorem supportsResumeFromLandedAccesses_inBounds_iff :
    (∀ index ∈ executor.supportsResumeFromLandedAccesses,
      ItemAccess.InBounds (executor.mission, index)) ↔
    ∀ index ∈ executor.state.currentIndex, executor.mission.indexValid index = true := by
  simp [supportsResumeFromLandedAccesses, ItemAccess.InBounds, Mission.indexValid]

theorem forall_mem_map_mission {indices : List Int} :
    (∀ access ∈ indices.map (executor.mission, ·), ItemAccess.InBounds access) ↔
      ∀ index ∈ indices, ItemAccess.InBounds (executor.mission, index) := by
  simp

/-- All but one of the reads look at the size first, or at a trajectory that fits. -/
theorem accesses_inBounds_iff (fits : executor.PositionFits) (input : QueryInput) :
    (∀ access ∈ executor.accesses config task input, access.InBounds) ↔
    (executor.asksForResume config task input = true →
      ∀ index ∈ executor.state.currentIndex, executor.mission.indexValid index = true) := by
  unfold accesses
  split
  · rename_i resuming
    have quiet : executor.asksForResume config (.runCurrentMissionItem resuming)
        (.own .proceed) = false := rfl
    simp only [quiet, Bool.false_eq_true, false_implies, iff_true, forall_mem_map_mission]
    exact fun index read => runCurrentMissionItemAccesses_inBounds read
  · rename_i name handler arguments onCompleted
    rw [forall_mem_map_mission]
    simp only [asksForResume, runOnResumeAccesses]
    split
    · rename_i asks
      simp only [asks, true_implies]
      rw [← supportsResumeFromLandedAccesses_inBounds_iff]
      constructor
      · exact fun all index read => all index (List.mem_append_left _ read)
      · intro own index read
        rcases List.mem_append.mp read with first | later
        · exact own index first
        · split at later
          · cases later
          · exact unexpectedLandingAccesses_inBounds later
    · rename_i asksNot
      simp [asksNot]
  · rename_i handler onCompleted currentMissionIndex
    have quiet : executor.asksForResume config
        (.call (.navigateToPreviousWaypoint handler onCompleted currentMissionIndex))
        (.own .proceed) = false := rfl
    simp only [quiet, Bool.false_eq_true, false_implies, iff_true, forall_mem_map_mission]
    exact fun index read => navigateToPreviousWaypointAccesses_inBounds read
  · rename_i valid reached
    have quiet : executor.asksForResume config .updateWaypoint (.own (.position valid reached)) =
        false := rfl
    simp only [quiet, Bool.false_eq_true, false_implies, iff_true]
    split
    · rename_i trajectory position current there
      obtain ⟨trajectory', current', inFlight⟩ := fits position there
      obtain rfl : trajectory = trajectory' := Option.some.inj (current.symm.trans current')
      intro access read
      obtain rfl := List.mem_singleton.mp read
      exact ⟨inFlight.1, lt_of_le_of_lt inFlight.2.1 inFlight.2.2⟩
    · simp
  · rename_i inRun handler
    rw [forall_mem_map_mission, supportsResumeFromLandedAccesses_inBounds_iff]
    simp [asksForResume]
  · rename_i notRun _ _ notAsked
    have quiet : executor.asksForResume config task input = false := by
      unfold asksForResume
      split
      · exact absurd rfl (notAsked _ _ rfl)
      · exact absurd rfl (notRun _ _ _ _ rfl)
      · rfl
    simp [quiet]

variable {registered : Bool} {id : UInt8} {ownedMode : ModeBase} {file : PersistenceFile}

theorem positionFits_idle (fits : executor.PositionFits)
    (taken : executor.idle config input = some after) : after.1.PositionFits := by
  obtain routine | ⟨msg, rfl, rfl⟩ := idle_cases taken
  · exact fits.of_same routine.state.sameFlight
  · exact fits.of_same ⟨rfl, rfl⟩

theorem positionFits_next {before next : Config} {input : QueryInput}
    (fits : before.state.PositionFits)
    (stepped : (queryMachine config).step before input = some next) : next.state.PositionFits := by
  obtain ⟨_, state, tasks, taken, rfl⟩ | ⟨task, rest, state, tasks, _, executed, rfl⟩ :=
    Lib.Machine.step_cases stepped
  · cases input with
    | own input => exact positionFits_idle fits taken
    | currentActionSupportsResumeFromLanded handler => cases taken
  · cases input with
    | own input => exact (exec_does executed).positionFits fits
    | currentActionSupportsResumeFromLanded handler =>
        simp only [queryMachine] at executed
        split at executed
        · obtain ⟨_, _, same⟩ := Option.map_eq_some_iff.mp executed
          cases same
          exact fits
        · cases executed

/-- In every state that is reached, every step reads items within the missions only, exactly if
`currentActionSupportsResumeFromLanded` is not called with an index past the mission. -/
theorem item_accesses_in_bounds_iff {reached : Config}
    (reaches : (queryMachine config).Reaches Lib.Machine.unrestricted
      (initial registered id ownedMode file) reached) (task : Task) (input : QueryInput) :
    (∀ access ∈ reached.state.accesses config task input, access.InBounds) ↔
    (reached.state.asksForResume config task input = true →
      ∀ index ∈ reached.state.state.currentIndex,
        reached.state.mission.indexValid index = true) := by
  have fits : reached.state.PositionFits := by
    refine reaches.invariant (fun index found => ?_) fun _ _ _ fits _ stepped =>
      positionFits_next fits stepped
    cases found
  exact accesses_inBounds_iff fits input

/-- Within the second action of a mission of two. -/
def inSecondPhoto : List QueryInput :=
  ([.userEvent, .op (.setMission photoMission fun _ => none), .ret, armedStatus 23 1] ++
    proceeds 7 ++ .op (.call (.nextItem 0 0)) :: proceeds 5).map .own

def inUser (agenda : List Task) : Bool :=
  match agenda with
  | .user _ :: _ => true
  | _ => false

theorem agenda_of_inUser {agenda : List Task} (user : inUser agenda = true) :
    ∃ inRun rest, agenda = .user inRun :: rest := by
  unfold inUser at user
  split at user
  · rename_i inRun rest
    exact ⟨inRun, rest, rfl⟩
  · cases user

theorem item_accesses_in_bounds_in_second_photo :
    ∃ (reached : Config) (inRun : Bool) (rest : List Task),
      reached.agenda = .user inRun :: rest ∧
      reached.state.accesses photoConfiguration (.user inRun)
        (.currentActionSupportsResumeFromLanded (.object 0)) = [(reached.state.mission, 1)] ∧
      ItemAccess.InBounds (reached.state.mission, 1) := by
  obtain ⟨reached, reaches, user, current, valid⟩ :=
    Lib.Machine.reaches_of_run_any (queryMachine photoConfiguration) Lib.Machine.unrestricted
      (initial true 1 photoMode .missing)
      (fun config => inUser config.agenda = true ∧ config.state.state.currentIndex = some 1 ∧
        config.state.mission.indexValid 1 = true) inSecondPhoto (by decide)
  obtain ⟨inRun, rest, agenda⟩ := agenda_of_inUser user
  have reads : reached.state.accesses photoConfiguration (.user inRun)
      (.currentActionSupportsResumeFromLanded (.object 0)) = [(reached.state.mission, 1)] := by
    simp [accesses, supportsResumeFromLandedAccesses, current]
  have inBounds := (item_accesses_in_bounds_iff reaches (.user inRun)
    (.currentActionSupportsResumeFromLanded (.object 0))).mpr fun _ index found => by
      rw [current] at found
      cases found
      exact valid
  exact ⟨reached, inRun, rest, agenda, reads, inBounds _ (by simp [reads])⟩

/-- The second action is completed, and the executor still active. Then the first one asks its
handler. -/
def photosTaken : List QueryInput :=
  inSecondPhoto ++
    (Input.op (.call (.nextItem 0 1)) :: proceeds 4 ++ [Input.command .success]).map .own

theorem access_past_mission :
    ∃ (reached asked : Config) (inRun : Bool) (rest : List Task),
      (queryMachine photoConfiguration).Reaches Lib.Machine.unrestricted
        (initial true 1 photoMode .missing) reached ∧
      reached.agenda = .user inRun :: rest ∧
      (queryMachine photoConfiguration).step reached
        (.currentActionSupportsResumeFromLanded (.object 0)) = some asked ∧
      ∃ access ∈ reached.state.accesses photoConfiguration (.user inRun)
        (.currentActionSupportsResumeFromLanded (.object 0)), ¬ access.InBounds := by
  obtain ⟨reached, reaches, user, current, size, asks⟩ :=
    Lib.Machine.reaches_of_run_any (queryMachine photoConfiguration) Lib.Machine.unrestricted
      (initial true 1 photoMode .missing)
      (fun config => inUser config.agenda = true ∧ config.state.state.currentIndex = some 2 ∧
        config.state.mission.items.length = 2 ∧
        ((queryMachine photoConfiguration).step config
          (.currentActionSupportsResumeFromLanded (.object 0))).isSome = true)
      photosTaken (by decide)
  obtain ⟨inRun, rest, agenda⟩ := agenda_of_inUser user
  obtain ⟨asked, stepped⟩ := Option.isSome_iff_exists.mp asks
  refine ⟨reached, asked, inRun, rest, reaches, agenda, stepped, (reached.state.mission, 2), ?_, ?_⟩
  · simp [accesses, supportsResumeFromLandedAccesses, current]
  · simp [ItemAccess.InBounds, size]

end Px4Ros2.MissionExecutor
