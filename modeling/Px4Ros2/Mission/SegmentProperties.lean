import Px4Ros2.Mission.MissionCourse
import Px4Ros2.Mission.WaypointProperties

/-! The segments of the mission that are flown in one go, and that an uninterrupted pass through the
mission flies each of them once. -/

set_option autoImplicit false

namespace Px4Ros2

def Mission.NavigationAt (mission : Mission) (index : Int) : Prop :=
  ∃ item, mission.item? index = some (.navigation item)

def Mission.ActionAt (mission : Mission) (index : Int) : Prop :=
  ∃ item, mission.item? index = some (.action item)

namespace MissionExecutor

open WaypointTrajectoryExecutor (indices mem_indices_iff)

/-- An action among those that directly follow is known and wants the vehicle to stop. -/
def StopsAfter (config : Configuration) (mission : Mission) (last : Int) : Prop :=
  ∃ index item action, last < index ∧
    (∀ other, last < other → other ≤ index → mission.ActionAt other) ∧
    mission.item? index = some (.action item) ∧ config.findAction item.name = some action ∧
    action.shouldStopAtWaypoint item.arguments = true

structure Segment (config : Configuration) (mission : Mission) (start last : Int) (stop : Bool) :
    Prop where
  start_le : start ≤ last
  navigation : ∀ index, start ≤ index → index ≤ last → mission.NavigationAt index
  largest : ∀ other, (∀ index, start ≤ index → index ≤ other → mission.NavigationAt index) →
    other ≤ last
  stop_iff : stop = true ↔ last = mission.items.length - 1 ∨ StopsAfter config mission last

variable {config : Configuration} {executor : MissionExecutor} {mission : Mission}
  {index start last : Int}

theorem item?_of_nonneg (nonneg : 0 ≤ index) : mission.item? index = mission.items[index.toNat]? :=
  if_pos nonneg

theorem item?_natCast (position : Nat) : mission.item? position = mission.items[position]? := by
  rw [item?_of_nonneg (Int.natCast_nonneg position), Int.toNat_natCast]

theorem range_of_item? {item : MissionItem} (found : mission.item? index = some item) :
    0 ≤ index ∧ index < mission.items.length := by
  unfold Mission.item? at found
  split at found
  · rename_i nonneg
    have := (List.getElem?_eq_some_iff.mp found).1
    omega
  · cases found

theorem not_navigationAt_of_actionAt (action : mission.ActionAt index) :
    ¬ mission.NavigationAt index := by
  obtain ⟨_, found⟩ := action
  rintro ⟨_, other⟩
  rw [found] at other
  cases other

/-- The loop passes the navigation items that come next. -/
theorem nextTrajectorySegment_cases (items : List MissionItem) (endIndex : Int) :
    ∃ run later, items = run ++ later ∧
      (∀ item ∈ run, ∃ waypoint, item = .navigation waypoint) ∧
      nextTrajectorySegment config endIndex items =
        (endIndex + run.length, later.isEmpty || actionsStop config later) ∧
      (∀ item ∈ later.head?, ∃ action, item = .action action) := by
  induction items generalizing endIndex with
  | nil => exact ⟨[], [], rfl, by simp, by simp [nextTrajectorySegment], by simp⟩
  | cons item rest ih =>
      cases item with
      | navigation waypoint =>
          obtain ⟨run, later, rfl, all, segment, head⟩ := ih (endIndex + 1)
          refine ⟨.navigation waypoint :: run, later, rfl, ?_, ?_, head⟩
          · intro item member
            rcases List.mem_cons.mp member with rfl | member
            · exact ⟨waypoint, rfl⟩
            · exact all item member
          · simp only [nextTrajectorySegment, segment, List.length_cons]
            congr 1
            omega
      | action action =>
          exact ⟨[], .action action :: rest, rfl, by simp, by simp [nextTrajectorySegment],
            by simp⟩

theorem actionsStop_iff (items : List MissionItem) : actionsStop config items = true ↔
    ∃ (position : Nat) (item : ActionItem) (action : Action),
      (∀ other ≤ position, ∃ item, items[other]? = some (MissionItem.action item)) ∧
      items[position]? = some (.action item) ∧ config.findAction item.name = some action ∧
      action.shouldStopAtWaypoint item.arguments = true := by
  induction items with
  | nil => simp [actionsStop]
  | cons item rest ih =>
      cases item with
      | navigation waypoint =>
          simp only [actionsStop, Bool.false_eq_true, false_iff]
          rintro ⟨position, _, _, actions, _⟩
          obtain ⟨_, first⟩ := actions 0 (Nat.zero_le position)
          simp at first
      | action first =>
          have stops : actionsStop config (.action first :: rest) = true ↔
              (∃ action, config.findAction first.name = some action ∧
                action.shouldStopAtWaypoint first.arguments = true) ∨
              actionsStop config rest = true := by
            simp only [actionsStop, Bool.or_eq_true]
            refine or_congr ?_ Iff.rfl
            cases config.findAction first.name <;> simp
          rw [stops, ih]
          constructor
          · rintro (⟨action, known, stops⟩ | ⟨position, item, action, actions, there, stops⟩)
            · refine ⟨0, first, action, ?_, rfl, known, stops⟩
              intro other below
              obtain rfl : other = 0 := by omega
              exact ⟨first, rfl⟩
            · refine ⟨position + 1, item, action, ?_, by simpa using there, stops⟩
              intro other below
              cases other with
              | zero => exact ⟨first, rfl⟩
              | succ other => simpa using actions other (by omega)
          · rintro ⟨position, item, action, actions, there, known, stops⟩
            cases position with
            | zero =>
                cases there
                exact .inl ⟨action, known, stops⟩
            | succ position =>
                refine .inr ⟨position, item, action, ?_, by simpa using there, known, stops⟩
                intro other below
                simpa using actions (other + 1) (by omega)

theorem getNextTrajectorySegment_spec (navigation : executor.mission.NavigationAt start) :
    Segment config executor.mission start (executor.getNextTrajectorySegment config start).1
      (executor.getNextTrajectorySegment config start).2 := by
  obtain ⟨waypoint, found⟩ := navigation
  obtain ⟨nonneg, inside⟩ := range_of_item? found
  obtain ⟨position, rfl⟩ := Int.eq_ofNat_of_zero_le nonneg
  obtain ⟨run, later, split, all, segment, head⟩ := @nextTrajectorySegment_cases config
    (executor.mission.items.drop (position + 1)) position
  have segment' : executor.getNextTrajectorySegment config position =
      ((position : Int) + run.length, later.isEmpty || actionsStop config later) := segment
  rw [segment']
  -- the items from the one after the start on
  have at' : ∀ offset : Nat, executor.mission.item? (position + 1 + offset : Nat) =
      (run ++ later)[offset]? := by
    intro offset
    rw [item?_natCast, ← split, List.getElem?_drop]
  have atLater : ∀ offset : Nat, executor.mission.item? (position + 1 + run.length + offset : Nat) =
      later[offset]? := by
    intro offset
    rw [Nat.add_assoc (position + 1), at', List.getElem?_append_right (by omega)]
    congr 1
    omega
  have length : executor.mission.items.length = position + 1 + run.length + later.length := by
    have := congrArg List.length split
    simp only [List.length_drop, List.length_append] at this
    omega
  constructor
  case start_le => simp
  case navigation =>
    intro index above below
    obtain ⟨index, rfl⟩ := Int.eq_ofNat_of_zero_le (nonneg.trans above)
    by_cases first : index = position
    · subst first
      exact ⟨waypoint, found⟩
    · obtain ⟨offset, rfl⟩ : ∃ offset, index = position + 1 + offset :=
        ⟨index - (position + 1), by omega⟩
      have inRun : offset < run.length := by omega
      obtain ⟨item, same⟩ := all run[offset] (List.getElem_mem inRun)
      refine ⟨item, ?_⟩
      rw [at', List.getElem?_append_left inRun, List.getElem?_eq_getElem inRun, same]
  case largest =>
    intro other navigation
    by_contra beyond
    obtain ⟨item, there⟩ := navigation (position + 1 + run.length + 0 : Nat) (by omega) (by omega)
    rw [atLater, ← List.head?_eq_getElem?] at there
    obtain ⟨_, action⟩ := head _ there
    cases action
  case stop_iff =>
    simp only [Bool.or_eq_true, actionsStop_iff]
    refine or_congr ?_ ?_
    · rw [List.isEmpty_iff_length_eq_zero]
      omega
    · constructor
      · rintro ⟨offset, item, action, actions, there, known, stops⟩
        refine ⟨(position + 1 + run.length + offset : Nat), item, action, by omega, ?_, ?_, known,
          stops⟩
        · intro other above below
          obtain ⟨other, rfl⟩ := Int.eq_ofNat_of_zero_le (show 0 ≤ other by omega)
          obtain ⟨before, rfl⟩ : ∃ before, other = position + 1 + run.length + before :=
            ⟨other - (position + 1 + run.length), by omega⟩
          unfold Mission.ActionAt
          rw [atLater]
          exact actions before (by omega)
        · rw [atLater]
          exact there
      · rintro ⟨index, item, action, above, actions, there, known, stops⟩
        obtain ⟨index, rfl⟩ := Int.eq_ofNat_of_zero_le (show 0 ≤ index by omega)
        obtain ⟨offset, rfl⟩ : ∃ offset, index = position + 1 + run.length + offset :=
          ⟨index - (position + 1 + run.length), by omega⟩
        rw [atLater] at there
        refine ⟨offset, item, action, ?_, there, known, stops⟩
        intro other below
        have action := actions (position + 1 + run.length + other : Nat) (by omega) (by omega)
        unfold Mission.ActionAt at action
        rwa [atLater] at action

/-! Passes through the mission. -/

/-- What the mission waits for: an action item, by the number of its start, or a trajectory. -/
inductive Running where
  | action (start : Nat)
  | trajectory (endIndex : Int)
deriving DecidableEq

/-- The trajectories of the mission that the trajectory executor was passed. -/
structure Pass where
  trajectories : List TrajectoryConfig := []
  running : Option Running := none

def passedTrajectory (after : MissionExecutor × List Task) : Option TrajectoryConfig :=
  match after.2 with
  | .enter (.runTrajectory trajectory) :: _ => some trajectory
  | .switchToTrajectory :: _ => after.1.currentTrajectory
  | _ => none

def Pass.runItem (config : Configuration) (executor : MissionExecutor) (resuming : Bool)
    (pass : Pass) : Pass :=
  match executor.state.currentIndex.bind executor.mission.item? with
  | some (.action _) => { pass with running := some (.action executor.starts) }
  | some (.navigation _) =>
      match passedTrajectory (executor.runCurrentMissionItem config resuming) with
      | some trajectory =>
          ⟨pass.trajectories ++ [trajectory], some (.trajectory trajectory.endIndex)⟩
      | none => pass
  | none => pass

/-- The action that runs is completed; another one must not be. -/
def Pass.complete (start : Nat) (pass : Pass) : Option Pass :=
  if pass.running = some (.action start) then some { pass with running := none } else none

/-- The trajectory that is flown reaches one of its indices. -/
def Pass.reach (endIndex index : Int) (pass : Pass) : Option Pass :=
  if pass.running = some (.trajectory endIndex) ∧ index ≤ endIndex then
    some (if index = endIndex then { pass with running := none } else pass)
  else none

/-- An `onResume` action that is to go on with the mission. -/
def resumesMission (config : Configuration) (name : String) (arguments : ActionArguments) : Bool :=
  match config.findAction name with
  | some .onResume => arguments.at? Json.getString "action" == some "resume"
  | _ => false

/-- The pass that goes on since the mission was activated at its beginning. It ends with a
deactivation, an abort, an index that is set, or a completion that is not due. -/
def passRecorder (config : Configuration) :
    Lib.Recorder MissionExecutor Task Input (Option Pass) where
  event pass _ _ := pass
  task pass executor task input :=
    match task, input with
    | .modeExecutor (.hook .onActivate), .proceed =>
        if executor.isReady && executor.state.currentIndex.isNone then some {} else none
    | .modeExecutor (.hook (.onDeactivate _)), .proceed => none
    | .abort _, .proceed => none
    | .user _, .op (.handler _ (.setCurrentMissionIndex index)) =>
        if executor.mission.indexValid index then none else pass
    | .run name _ arguments _, .proceed =>
        if resumesMission config name arguments then none else pass
    | .call (.resumed handler _), .proceed => if executor.isValid handler then none else pass
    | .call (.nextItem handler start), .proceed =>
        if executor.isValid handler then pass.bind (Pass.complete start) else pass
    | .callIndex (.segment handler endIndex) index, .proceed =>
        if executor.isValid handler then pass.bind (Pass.reach endIndex index) else pass
    | .runCurrentMissionItem resuming, .proceed => pass.map (Pass.runItem config executor resuming)
    | _, _ => pass

/-- The indices of the trajectories passed so far: those of all navigation items below the bound,
each once, in segments. -/
structure Covers (config : Configuration) (mission : Mission) (bound : Int)
    (trajectories : List TrajectoryConfig) : Prop where
  sorted : (trajectories.flatMap indices).Pairwise (· < ·)
  mem_iff : ∀ index, index ∈ trajectories.flatMap indices ↔
    index < bound ∧ mission.NavigationAt index
  segments : ∀ trajectory ∈ trajectories, trajectory.trajectory.items = mission.items ∧
    Segment config mission trajectory.startIndex trajectory.endIndex trajectory.stopAtLast

variable {bound : Int} {trajectories : List TrajectoryConfig} {trajectory : TrajectoryConfig}

theorem covers_nil : Covers config mission 0 [] := by
  refine ⟨by simp, fun index => ?_, by simp⟩
  simp only [List.flatMap_nil, List.not_mem_nil, false_iff, not_and]
  rintro negative ⟨item, found⟩
  have := range_of_item? found
  omega

theorem Covers.action (covers : Covers config mission bound trajectories)
    (action : mission.ActionAt bound) : Covers config mission (bound + 1) trajectories := by
  refine ⟨covers.sorted, fun index => ?_, covers.segments⟩
  rw [covers.mem_iff]
  constructor
  · rintro ⟨below, navigation⟩
    exact ⟨by omega, navigation⟩
  · rintro ⟨below, navigation⟩
    refine ⟨?_, navigation⟩
    by_contra notBelow
    obtain rfl : index = bound := by omega
    exact not_navigationAt_of_actionAt action navigation

theorem Covers.fly (covers : Covers config mission bound trajectories)
    (starts : trajectory.startIndex = bound) (same : trajectory.trajectory.items = mission.items)
    (segment : Segment config mission trajectory.startIndex trajectory.endIndex
      trajectory.stopAtLast) :
    Covers config mission (trajectory.endIndex + 1) (trajectories ++ [trajectory]) := by
  have le := segment.start_le
  constructor
  · rw [List.flatMap_append, List.flatMap_singleton, List.pairwise_append]
    refine ⟨covers.sorted, ?_, fun first before second member => ?_⟩
    · rw [indices, List.pairwise_map]
      exact List.pairwise_lt_range.imp fun less => by omega
    · have := ((covers.mem_iff first).mp before).1
      have := mem_indices_iff.mp member
      omega
  · intro index
    rw [List.flatMap_append, List.flatMap_singleton, List.mem_append, covers.mem_iff,
      mem_indices_iff]
    constructor
    · rintro (⟨below, navigation⟩ | ⟨above, below⟩)
      · exact ⟨by omega, navigation⟩
      · exact ⟨by omega, segment.navigation index above below⟩
    · rintro ⟨below, navigation⟩
      by_cases early : index < bound
      · exact .inl ⟨early, navigation⟩
      · exact .inr ⟨by omega, by omega⟩
  · intro other member
    rcases List.mem_append.mp member with early | last
    · exact covers.segments other early
    · rw [List.mem_singleton.mp last]
      exact ⟨same, segment⟩

/-- Where a pass is: what is left to go on with it, what runs, and the items it has behind it. -/
inductive Stage (config : Configuration) (executor : MissionExecutor) : List Task → Pass → Prop where
  | starting {task : Task} {trajectories : List TrajectoryConfig} :
      (task = .onActivateRun true ∨ ∃ handler, task = .onActivatedReturned handler true) →
      executor.state.currentIndex = some 0 → Covers config executor.mission 0 trajectories →
      Stage config executor [task] ⟨trajectories, none⟩
  | current {bound : Int} {trajectories : List TrajectoryConfig} :
      executor.state.currentIndex = some bound →
      Covers config executor.mission bound trajectories →
      Stage config executor [.runCurrentMissionItem false] ⟨trajectories, none⟩
  | action {bound : Int} {trajectories : List TrajectoryConfig} (start : Nat) :
      executor.state.currentIndex = some bound → executor.mission.ActionAt bound →
      Covers config executor.mission bound trajectories →
      Stage config executor [] ⟨trajectories, some (.action start)⟩
  | next {bound : Int} {trajectories : List TrajectoryConfig} :
      executor.state.currentIndex = some bound → executor.mission.ActionAt bound →
      Covers config executor.mission bound trajectories →
      Stage config executor [.runNextMissionItem] ⟨trajectories, none⟩
  | trajectory {index endIndex : Int} {trajectories : List TrajectoryConfig} :
      executor.state.currentIndex = some index → index ≤ endIndex →
      endIndex < executor.mission.items.length →
      Covers config executor.mission (endIndex + 1) trajectories →
      Stage config executor [] ⟨trajectories, some (.trajectory endIndex)⟩
  | waiting {bound : Int} {trajectories : List TrajectoryConfig} :
      executor.state.currentIndex = some bound →
      Covers config executor.mission bound trajectories →
      Stage config executor [] ⟨trajectories, none⟩

variable {pass : Pass} {left : List Task} {task : Task} {input : Input}
  {after : MissionExecutor × List Task}

theorem Stage.of_same {before after : MissionExecutor} (stage : Stage config before left pass)
    (mission : after.mission = before.mission)
    (currentIndex : after.state.currentIndex = before.state.currentIndex) :
    Stage config after left pass := by
  cases stage with
  | starting task current covers =>
      exact .starting task (currentIndex.trans current) (mission ▸ covers)
  | current current covers => exact .current (currentIndex.trans current) (mission ▸ covers)
  | action start current action covers =>
      exact .action start (currentIndex.trans current) (mission ▸ action) (mission ▸ covers)
  | next current action covers =>
      exact .next (currentIndex.trans current) (mission ▸ action) (mission ▸ covers)
  | trajectory current below inside covers =>
      exact .trajectory (currentIndex.trans current) below (mission ▸ inside) (mission ▸ covers)
  | waiting current covers => exact .waiting (currentIndex.trans current) (mission ▸ covers)

/-- A pass over an active executor, and nothing else that goes on with the mission. -/
def InPass (config : Configuration) (pass : Pass) (reached : Config) : Prop :=
  reached.state.isActive = true ∧ Stage config reached.state (drivers reached.agenda) pass

theorem InPass.calm {rest : List Task}
    (inPass : InPass config pass ⟨executor, task :: rest⟩) (other : task.drives = false)
    (calm : Calm executor after) : InPass config pass ⟨after.1, after.2 ++ rest⟩ := by
  obtain ⟨active, stage⟩ := inPass
  have same : drivers (after.2 ++ rest) = drivers (task :: rest) := by
    simp only [calm.drivers rest, drivers, List.filter_cons, other, Bool.false_eq_true, if_false]
  refine ⟨calm.course.isActive.trans active, ?_⟩
  simp only [same]
  exact stage.of_same calm.course.mission calm.course.currentIndex

/-- The start of the mission, from its first item. -/
theorem startMission_drivers (rest : List Task) :
    drivers ((executor.startMission config true).2 ++ rest) =
      .runCurrentMissionItem false :: drivers rest ∧
    SameCourse executor (executor.startMission config true).1 := by
  simp only [startMission, Bool.or_true, if_true]
  exact ⟨rfl, ⟨rfl, rfl, rfl, rfl, rfl⟩⟩

theorem inPass_start {rest : List Task} (active : executor.isActive = true)
    (current : executor.state.currentIndex = some 0)
    (covers : Covers config executor.mission 0 trajectories) (idle : drivers rest = []) :
    InPass config ⟨trajectories, none⟩
      ⟨(executor.startMission config true).1, (executor.startMission config true).2 ++ rest⟩ := by
  obtain ⟨left, same⟩ := @startMission_drivers config executor rest
  refine ⟨same.isActive.trans active, ?_⟩
  simp only [left, idle]
  exact .current (same.currentIndex.trans current) (same.mission ▸ covers)

theorem inPass_onActivate {rest : List Task} (ready : executor.isReady = true)
    (beginning : executor.state.currentIndex = none) (idle : drivers rest = []) :
    InPass config {} ⟨executor.onActivate.1, executor.onActivate.2 ++ rest⟩ := by
  have calm := @calm_setCurrentMissionIndex executor.activated 0
  simp only [onActivate, ready, beginning, Bool.not_true, Bool.false_eq_true, if_false,
    Option.getD_none, Option.isNone_none]
  refine ⟨calm.course.isActive, ?_⟩
  have left : drivers ((executor.activated.setCurrentMissionIndex 0).2 ++
      [.onActivateRun true] ++ rest) = [.onActivateRun true] := by
    rw [List.append_assoc, calm.drivers]
    simp only [List.singleton_append, drivers, List.filter_cons, Task.drives, if_true]
    rw [show rest.filter Task.drives = [] from idle]
  simp only [left]
  exact .starting (.inl rfl) calm.course.currentIndex covers_nil

/-- What a navigation item passes to the trajectory executor. -/
theorem passedTrajectory_navigation {waypoint : NavigationItem} (active : executor.isActive = true)
    (current : executor.state.currentIndex = some bound)
    (found : executor.mission.item? bound = some (.navigation waypoint)) (resuming : Bool) :
    ∃ trajectory, passedTrajectory (executor.runCurrentMissionItem config resuming) =
        some trajectory ∧
      trajectory.startIndex = bound ∧ trajectory.trajectory = executor.mission ∧
      Segment config executor.mission trajectory.startIndex trajectory.endIndex
        trajectory.stopAtLast := by
  have segment := @getNextTrajectorySegment_spec config executor bound ⟨waypoint, found⟩
  simp only [runCurrentMissionItem, current, found, runMissionItem, runTrajectory, active,
    Bool.not_true, Bool.false_eq_true, if_false]
  cases config.customTrajectoryExecutor with
  | none => exact ⟨_, rfl, rfl, rfl, segment⟩
  | some support => exact ⟨_, rfl, rfl, rfl, segment⟩

/-- Running the current item, with everything before it behind the pass. -/
theorem inPass_runCurrentMissionItem {rest : List Task} (active : executor.isActive = true)
    (current : executor.state.currentIndex = some bound)
    (covers : Covers config executor.mission bound trajectories) (idle : drivers rest = []) :
    InPass config (Pass.runItem config executor false ⟨trajectories, none⟩)
      ⟨(executor.runCurrentMissionItem config false).1,
        (executor.runCurrentMissionItem config false).2 ++ rest⟩ := by
  have calm := @calm_runCurrentMissionItem config executor false
  refine ⟨calm.course.isActive.trans active, ?_⟩
  rw [show drivers ((executor.runCurrentMissionItem config false).2 ++ rest) = [] from
    (calm.drivers rest).trans idle]
  refine @Stage.of_same _ _ _ executor _ ?_ calm.course.mission calm.course.currentIndex
  cases found : executor.mission.item? bound with
  | none =>
      simp only [Pass.runItem, current, Option.bind_some, found]
      exact .waiting current covers
  | some item =>
      cases item with
      | navigation waypoint =>
          obtain ⟨trajectory, passed, starts, same, segment⟩ :=
            @passedTrajectory_navigation config executor bound waypoint active current found false
          have inside := segment.navigation trajectory.endIndex segment.start_le (le_refl _)
          obtain ⟨_, last⟩ := inside
          simp only [Pass.runItem, current, Option.bind_some, found, passed]
          exact .trajectory current (starts ▸ segment.start_le) (range_of_item? last).2
            (covers.fly starts (congrArg Mission.items same) segment)
      | action item =>
          simp only [Pass.runItem, current, Option.bind_some, found]
          exact .action executor.starts current ⟨item, found⟩ covers

/-- What is no business of the mission's course ends the pass or leaves it as it is. -/
theorem passRecorder_calm {pass : Option Pass} (calm : task.steers config input = false) :
    (passRecorder config).task pass executor task input = pass ∨
      (passRecorder config).task pass executor task input = none := by
  simp only [passRecorder]
  split
  · cases calm
  · cases calm
  · exact .inr rfl
  · cases calm
  · rename_i name handler arguments onCompleted
    have different : config.findAction name ≠ some .onResume := by
      intro action
      simp [Task.steers, action] at calm
    have other : resumesMission config name arguments = false := by
      cases found : config.findAction name with
      | none => simp [resumesMission, found]
      | some action =>
          cases action with
          | onResume => exact absurd found different
          | _ => simp [resumesMission, found]
    rw [other]
    exact .inl rfl
  · cases calm
  · cases calm
  · cases calm
  · cases calm
  · exact .inl rfl

theorem passRecorder_landDetected {pass : Option Pass} (landed : Bool) :
    (passRecorder config).task pass executor task (.landDetected landed) = pass := by
  simp only [passRecorder]

theorem Stage.of_driver {rest : List Task}
    (stage : Stage config executor (drivers (task :: rest)) pass) (driver : task.drives = true) :
    drivers rest = [] ∧
      ((∃ trajectories, (task = .onActivateRun true ∨
          ∃ handler, task = .onActivatedReturned handler true) ∧ pass = ⟨trajectories, none⟩ ∧
          executor.state.currentIndex = some 0 ∧ Covers config executor.mission 0 trajectories) ∨
        (∃ bound trajectories, task = .runCurrentMissionItem false ∧
          pass = ⟨trajectories, none⟩ ∧ executor.state.currentIndex = some bound ∧
          Covers config executor.mission bound trajectories) ∨
        (∃ bound trajectories, task = .runNextMissionItem ∧ pass = ⟨trajectories, none⟩ ∧
          executor.state.currentIndex = some bound ∧ executor.mission.ActionAt bound ∧
          Covers config executor.mission bound trajectories)) := by
  rw [drivers_cons driver] at stage
  generalize drivers rest = left at stage
  cases stage with
  | starting task current covers => exact ⟨rfl, .inl ⟨_, task, rfl, current, covers⟩⟩
  | current current covers => exact ⟨rfl, .inr (.inl ⟨_, _, rfl, rfl, current, covers⟩)⟩
  | next current action covers =>
      exact ⟨rfl, .inr (.inr ⟨_, _, rfl, rfl, current, action, covers⟩)⟩

theorem calm_runOnResume {name : String} {handler : HandlerId} {arguments : ActionArguments}
    {onCompleted : Closure} (action : config.findAction name = some .onResume)
    (other : resumesMission config name arguments = false) :
    Calm executor (executor.runOnResume config handler arguments onCompleted) := by
  simp only [resumesMission, action, beq_eq_false_iff_ne, ne_eq] at other
  unfold runOnResume
  split
  · exact routineAfter_crash.calm
  · rename_i requested found
    have stores : requested ≠ "resume" := fun same => other (same ▸ found)
    rw [if_pos stores]
    exact .of_tasks (by simp)

theorem inPass_exec {rest : List Task} {pass : Option Pass}
    (ordered : Ordered ⟨executor, task :: rest⟩)
    (passing : ∀ pass' ∈ pass, InPass config pass' ⟨executor, task :: rest⟩)
    (executed : executor.exec config task input = some after) :
    ∀ pass' ∈ (passRecorder config).task pass executor task input,
      InPass config pass' ⟨after.1, after.2 ++ rest⟩ := by
  intro pass' member
  cases exec_course executed with
  | again _ landed =>
      rw [passRecorder_landDetected] at member
      obtain ⟨active, stage⟩ := passing pass' member
      exact ⟨active, stage.of_same rfl rfl⟩
  | calm calm' same =>
      obtain keeps | ends := @passRecorder_calm config executor task input pass calm'
      · rw [keeps] at member
        exact (passing pass' member).calm (drives_eq_false_of_steers calm') same
      · rw [ends] at member
        cases member
  | onActivate =>
      simp only [passRecorder] at member
      split at member
      · rename_i starts
        cases member
        simp only [Bool.and_eq_true, Option.isNone_iff_eq_none] at starts
        refine inPass_onActivate starts.1 starts.2 ?_
        exact drivers_of_isModeExecutor (isModeExecutor_of_status ordered rfl rfl)
      · cases member
  | onDeactivate reason => cases member
  | onActivateRun startFromBeginning =>
      obtain ⟨active, stage⟩ := passing pass' member
      obtain ⟨idle, ⟨trajectories, shape, rfl, current, covers⟩ | ⟨_, _, other, _⟩ |
        ⟨_, _, other, _⟩⟩ := stage.of_driver rfl
      · obtain same | ⟨_, other⟩ := shape
        · cases same
          unfold MissionExecutor.onActivateRun
          split
          · refine ⟨active, ?_⟩
            have left : drivers ([Task.enter .onActivated] ++
                [.onActivatedReturned executor.actionHandler true] ++ rest) =
                [.onActivatedReturned executor.actionHandler true] := by
              have calm : Calm executor (executor, [Task.enter .onActivated]) :=
                .of_tasks (by simp)
              rw [calm.drivers_append rfl, idle]
            rw [show drivers ([Task.enter .onActivated,
              .onActivatedReturned executor.actionHandler true] ++ rest) =
                [.onActivatedReturned executor.actionHandler true] from left]
            exact .starting (.inr ⟨_, rfl⟩) current covers
          · exact inPass_start active current covers idle
        · cases other
      · cases other
      · cases other
  | onActivatedReturned previousHandler startFromBeginning =>
      obtain ⟨active, stage⟩ := passing pass' member
      obtain ⟨idle, ⟨trajectories, shape, rfl, current, covers⟩ | ⟨_, _, other, _⟩ |
        ⟨_, _, other, _⟩⟩ := stage.of_driver rfl
      · obtain other | ⟨handler, same⟩ := shape
        · cases other
        · cases same
          unfold MissionExecutor.onActivatedReturned
          split
          · exact inPass_start active current covers idle
          · refine ⟨active, ?_⟩
            rw [show drivers ([] ++ rest) = [] from idle]
            exact .waiting current covers
      · cases other
      · cases other
  | runNextMissionItem =>
      obtain ⟨active, stage⟩ := passing pass' member
      obtain ⟨idle, ⟨_, shape, _⟩ | ⟨_, _, other, _⟩ |
        ⟨bound, trajectories, _, rfl, current, action, covers⟩⟩ := stage.of_driver rfl
      · obtain other | ⟨_, other⟩ := shape <;> cases other
      · cases other
      · have calm := @calm_setCurrentMissionIndex executor (bound + 1)
        have same : executor.runNextMissionItem =
            ((executor.setCurrentMissionIndex (bound + 1)).1,
              (executor.setCurrentMissionIndex (bound + 1)).2 ++ [.runCurrentMissionItem false]) := by
          have current' : executor.state.currentIndex = some bound := current
          simp only [MissionExecutor.runNextMissionItem, current']
        rw [same]
        refine ⟨calm.course.isActive.trans active, ?_⟩
        have left : drivers ((executor.setCurrentMissionIndex (bound + 1)).2 ++
            [.runCurrentMissionItem false] ++ rest) = [.runCurrentMissionItem false] := by
          rw [calm.drivers_append rfl, idle]
        simp only [left]
        exact .current calm.course.currentIndex (calm.course.mission ▸ covers.action action)
  | runCurrentMissionItem resuming =>
      obtain ⟨before, same, rfl⟩ := Option.map_eq_some_iff.mp member
      obtain ⟨active, stage⟩ := passing before same
      obtain ⟨idle, ⟨_, shape, _⟩ | ⟨bound, trajectories, fresh, rfl, current, covers⟩ |
        ⟨_, _, other, _⟩⟩ := stage.of_driver rfl
      · obtain other | ⟨_, other⟩ := shape <;> cases other
      · cases fresh
        exact inPass_runCurrentMissionItem active current covers idle
      · cases other
  | savePersistentState =>
      obtain ⟨active, stage⟩ := passing pass' member
      obtain ⟨file, same⟩ := @savePersistentState_eq config executor
      rw [same]
      exact ⟨active, stage.of_same rfl rfl⟩
  | nextItem handler start =>
      simp only [passRecorder] at member
      split at member
      · rename_i valid
        obtain ⟨before, same, completed⟩ := Option.bind_eq_some_iff.mp member
        obtain ⟨active, stage⟩ := passing before same
        unfold Pass.complete at completed
        split at completed
        · rename_i runs
          cases completed
          rw [if_pos valid]
          refine ⟨active, ?_⟩
          generalize left : drivers (Task.call (.nextItem handler start) :: rest) = tasks at stage
          cases stage with
          | action _ current action covers =>
              rw [show drivers ([Task.runNextMissionItem] ++ rest) = [.runNextMissionItem] from
                (drivers_cons rfl rest).trans (congrArg _ left)]
              exact .next current action covers
          | _ => cases runs
        · cases completed
      · rename_i invalid
        rw [if_neg invalid]
        exact (passing pass' member).calm rfl (.of_tasks (by simp))
  | resumed handler previousIndex =>
      simp only [passRecorder] at member
      split at member
      · cases member
      · rename_i invalid
        simp only [MissionExecutor.resumed, invalid]
        exact (passing pass' member).calm rfl (.of_tasks (by simp))
  | segment handler endIndex index =>
      simp only [passRecorder] at member
      split at member
      · rename_i valid
        obtain ⟨before, same, reached⟩ := Option.bind_eq_some_iff.mp member
        obtain ⟨active, stage⟩ := passing before same
        unfold Pass.reach at reached
        split at reached
        · rename_i runs
          cases reached
          have calm := @calm_setCurrentMissionIndex executor (index + 1)
          simp only [segmentReached, valid, if_true]
          refine ⟨calm.course.isActive.trans active, ?_⟩
          generalize left : drivers (Task.callIndex (.segment handler endIndex) index :: rest) =
            tasks at stage
          cases stage with
          | @trajectory current' endIndex' trajectories current below inside covers =>
              obtain ⟨sameEnd, le⟩ := runs
              cases sameEnd
              by_cases last : index = endIndex
              · subst last
                have shape : drivers ((executor.setCurrentMissionIndex (index + 1)).2 ++
                    [.runCurrentMissionItem false] ++ rest) = [.runCurrentMissionItem false] := by
                  rw [calm.drivers_append rfl]
                  exact congrArg _ left
                simp only [if_true, shape]
                exact .current calm.course.currentIndex (calm.course.mission ▸ covers)
              · have shape : drivers ((executor.setCurrentMissionIndex (index + 1)).2 ++ [] ++
                    rest) = [] := by
                  rw [List.append_nil, calm.drivers]
                  exact left
                simp only [if_neg last, shape]
                exact .trajectory calm.course.currentIndex (by omega)
                  (calm.course.mission ▸ inside) (calm.course.mission ▸ covers)
          | _ => cases runs.1
        · cases reached
      · rename_i invalid
        simp only [segmentReached, invalid]
        exact (passing pass' member).calm rfl (.of_tasks (by simp))
  | onResume name handler arguments onCompleted action =>
      simp only [passRecorder] at member
      split at member
      · cases member
      · rename_i other
        exact (passing pass' member).calm rfl (calm_runOnResume action (by simpa using other))
  | setIndex inRun reference handler index denoted =>
      simp only [passRecorder] at member
      split at member
      · cases member
      · rename_i invalid
        have refused : executor.handlerOp config handler (.setCurrentMissionIndex index) =
            (executor, []) := by
          simp [handlerOp, HandlerOp.checksValid, handlerCall, invalid]
        rw [refused]
        exact (passing pass' member).calm rfl (.of_tasks (by simp))
  | setMission inRun mission canRun =>
      have active := (passing pass' member).1
      have refused : executor.setMission config canRun mission = executor := if_pos active
      rw [refused]
      exact (passing pass' member).calm rfl (.of_tasks (by simp))
  | resetMission inRun =>
      have active := (passing pass' member).1
      have refused : executor.resetMission = executor := if_pos active
      rw [refused]
      exact (passing pass' member).calm rfl (.of_tasks (by simp))

theorem inPass_idle {pass : Option Pass}
    (passing : ∀ pass' ∈ pass, InPass config pass' ⟨executor, []⟩)
    (taken : executor.idle config input = some after) :
    ∀ pass' ∈ pass, InPass config pass' ⟨after.1, after.2⟩ := by
  intro pass' member
  have calm := idle_calm taken
  obtain ⟨active, stage⟩ := passing pass' member
  have same : drivers after.2 = drivers [] := by
    have all := calm.drivers []
    rwa [List.append_nil] at all
  refine ⟨calm.course.isActive.trans active, ?_⟩
  simp only [same]
  exact stage.of_same calm.course.mission calm.course.currentIndex

structure Passing (config : Configuration) (pass : Option Pass) (reached : Config) : Prop where
  sound : Sound reached
  inPass : ∀ pass' ∈ pass, InPass config pass' reached

theorem passing_next {before next : Config} {pass : Option Pass}
    (passing : Passing config pass before)
    (stepped : (machine config).step before input = some next) :
    Passing config ((passRecorder config).record pass before input) next := by
  refine ⟨sound_next passing.sound stepped, ?_⟩
  rcases before with ⟨executor, agenda⟩
  obtain ⟨idle, state, tasks, taken, rfl⟩ | ⟨task, rest, state, tasks, shape, executed, rfl⟩ :=
    Lib.Machine.step_cases stepped
  · obtain rfl : agenda = [] := idle
    exact inPass_idle passing.inPass taken
  · obtain rfl : agenda = task :: rest := shape
    exact inPass_exec passing.sound.ordered passing.inPass executed

variable {registered : Bool} {id : UInt8} {ownedMode : ModeBase} {file : PersistenceFile}

/-- What a pass has behind it. -/
theorem Stage.behind (stage : Stage config executor left pass) :
    (pass.trajectories.flatMap indices).Pairwise (· < ·) ∧
    (∀ trajectory ∈ pass.trajectories, trajectory.trajectory.items = executor.mission.items ∧
      Segment config executor.mission trajectory.startIndex trajectory.endIndex
        trajectory.stopAtLast) ∧
    (∀ index ∈ pass.trajectories.flatMap indices, executor.mission.NavigationAt index) ∧
    ∀ current ∈ executor.state.currentIndex, ∀ index < current,
      executor.mission.NavigationAt index → index ∈ pass.trajectories.flatMap indices := by
  have covered : ∀ {bound index : Int} {trajectories : List TrajectoryConfig},
      executor.state.currentIndex = some index → index ≤ bound →
      Covers config executor.mission bound trajectories →
      (trajectories.flatMap indices).Pairwise (· < ·) ∧
      (∀ trajectory ∈ trajectories, trajectory.trajectory.items = executor.mission.items ∧
        Segment config executor.mission trajectory.startIndex trajectory.endIndex
          trajectory.stopAtLast) ∧
      (∀ index ∈ trajectories.flatMap indices, executor.mission.NavigationAt index) ∧
      ∀ current ∈ executor.state.currentIndex, ∀ index < current,
        executor.mission.NavigationAt index → index ∈ trajectories.flatMap indices := by
    intro bound index trajectories current le covers
    refine ⟨covers.sorted, covers.segments, fun index member => ((covers.mem_iff index).mp member).2,
      fun reached found index below navigation => (covers.mem_iff index).mpr ⟨?_, navigation⟩⟩
    rw [current] at found
    cases found
    omega
  cases stage with
  | starting _ current covers => exact covered current (le_refl _) covers
  | current current covers => exact covered current (le_refl _) covers
  | action _ current _ covers => exact covered current (le_refl _) covers
  | next current _ covers => exact covered current (le_refl _) covers
  | trajectory current below _ covers => exact covered current (by omega) covers
  | waiting current covers => exact covered current (le_refl _) covers

/-- From every navigation item on, the next segment is the longest one, and its stop flag looks at
the actions behind it. A pass through the mission flies such segments: disjoint ones, in order, and
they hold every navigation item before the current index; when that is the size of the mission,
every navigation item. -/
theorem trajectory_segmentation
    {reached : Lib.Config (Lib.Recorded MissionExecutor (Option Pass)) Task}
    (reaches : ((machine config).recorded (passRecorder config)).Reaches Lib.Machine.unrestricted
      ⟨⟨(initial registered id ownedMode file).state, none⟩, []⟩ reached) :
    (∀ (executor : MissionExecutor) (start : Int), executor.mission.NavigationAt start →
      Segment config executor.mission start (executor.getNextTrajectorySegment config start).1
        (executor.getNextTrajectorySegment config start).2) ∧
    ∀ pass ∈ reached.state.history,
      (pass.trajectories.flatMap indices).Pairwise (· < ·) ∧
      (∀ trajectory ∈ pass.trajectories,
        trajectory.trajectory.items = reached.state.state.mission.items ∧
        Segment config reached.state.state.mission trajectory.startIndex trajectory.endIndex
          trajectory.stopAtLast) ∧
      (∀ index ∈ pass.trajectories.flatMap indices,
        reached.state.state.mission.NavigationAt index) ∧
      ∀ current ∈ reached.state.state.state.currentIndex, ∀ index < current,
        reached.state.state.mission.NavigationAt index →
        index ∈ pass.trajectories.flatMap indices := by
  have passing : Passing config reached.state.history reached.forget := by
    have unguarded : ((machine config).recorded (passRecorder config)).Reaches
        (fun reached => Lib.Machine.unrestricted reached.forget)
        ⟨⟨(initial registered id ownedMode file).state, none⟩, []⟩ reached := reaches
    refine Lib.Machine.Reaches.recorded_invariant ?_ ?_ unguarded
    · exact ⟨@sound_initial registered id ownedMode file, by simp⟩
    · exact fun _ _ _ _ passing _ stepped => passing_next passing stepped
  refine ⟨fun executor start navigation => getNextTrajectorySegment_spec navigation, ?_⟩
  intro pass member
  exact (passing.inPass pass member).2.behind

/-- Two legs with a change of settings between them. -/
def legsMission : Mission :=
  { items := [.navigation { data := ⟨0, 0, 0, .global⟩ }, .navigation { data := ⟨0, 0, 10, .global⟩ },
      .action { name := "changeSettings" }, .navigation { data := ⟨0, 10, 0, .global⟩ }] }

def legsConfiguration : Configuration := { hash := fun _ => 0 }

def legsMode : ModeBase :=
  { id := 23, activateEvenWhileDisarmed := false, setpointUpdateRateHz := 30 }

def nextWaypoint : List Input := [.setpointTimer, .position true true]

/-- From the activation to the last waypoint. -/
def legsFlown : List Input :=
  [.userEvent, .op (.setMission legsMission fun _ => none), .ret, armedStatus 23 1] ++
  proceeds 15 ++ .position true true :: proceeds 3 ++ nextWaypoint ++ proceeds 8 ++
  nextWaypoint ++ proceeds 3

theorem trajectory_segmentation_of_legs :
    ∃ reached : Lib.Config (Lib.Recorded MissionExecutor (Option Pass)) Task,
      ∃ pass ∈ reached.state.history,
        pass.trajectories.map (fun trajectory => (trajectory.startIndex, trajectory.endIndex)) =
          [(0, 1), (3, 3)] ∧
        reached.state.state.state.currentIndex = some 4 ∧
        (pass.trajectories.flatMap indices).Pairwise (· < ·) := by
  obtain ⟨reached, reaches, current, flown⟩ :=
    Lib.Machine.reaches_of_run_any
      ((machine legsConfiguration).recorded (passRecorder legsConfiguration))
      Lib.Machine.unrestricted ⟨⟨(initial true 1 legsMode .missing).state, none⟩, []⟩
      (fun config => config.state.state.state.currentIndex = some 4 ∧
        (config.state.history.any fun pass => decide (pass.trajectories.map
          (fun trajectory => (trajectory.startIndex, trajectory.endIndex)) =
            [(0, 1), (3, 3)])) = true)
      legsFlown (by decide +kernel)
  obtain ⟨pass, member, legs⟩ := (Option.any_eq_true _ _).mp flown
  exact ⟨reached, pass, member, of_decide_eq_true legs, current,
    ((trajectory_segmentation reaches).2 pass member).1⟩

end MissionExecutor

end Px4Ros2
