import Px4Ros2.Mission.WaypointTrajectoryExecutor

/-! The waypoints of a trajectory are reported one after the other, from the first to the last, and
a trajectory that is set by a callback is flown from its own first waypoint. -/

set_option autoImplicit false

namespace Px4Ros2

open Lib MissionExecutor

namespace WaypointTrajectoryExecutor

variable {executor : WaypointTrajectoryExecutor} {trajectory : TrajectoryConfig}
  {history : History} {reading : PositionReading} {index : Int} {position : Nat}

theorem getElem?_indices : (indices trajectory)[position]? =
    if trajectory.startIndex + position ≤ trajectory.endIndex then
      some (trajectory.startIndex + position)
    else none := by
  unfold indices
  split
  · rename_i inRange
    rw [List.getElem?_map, List.getElem?_range (by omega)]
    rfl
  · rename_i past
    rw [List.getElem?_eq_none_iff]
    simp only [List.length_map, List.length_range]
    omega

theorem mem_indices_iff :
    index ∈ indices trajectory ↔ trajectory.startIndex ≤ index ∧ index ≤ trajectory.endIndex := by
  simp only [indices, List.mem_map, List.mem_range]
  constructor
  · rintro ⟨offset, inRange, rfl⟩
    omega
  · rintro ⟨above, below⟩
    exact ⟨(index - trajectory.startIndex).toNat, by omega, by omega⟩

/-- One more element of a list, after a prefix of it. -/
theorem prefix_concat {first whole : List Int} (isPrefix : first <+: whole)
    (next : whole[first.length]? = some index) : first ++ [index] <+: whole := by
  obtain ⟨rest, rfl⟩ := isPrefix
  cases rest with
  | nil => simp at next
  | cons head tail =>
      obtain rfl : head = index := by simpa using next
      exact ⟨tail, by simp⟩

/-- The trajectory is under way, or over. -/
structure Follows (history : History) (executor : WaypointTrajectoryExecutor)
    (trajectory : TrajectoryConfig) : Prop where
  latest : history.latest = some trajectory
  current : executor.currentTrajectory = some trajectory
  flyable : Flyable trajectory
  reported : history.reported.map (·.index) <+: indices trajectory
  next : executor.currentIndex = (indices trajectory)[history.reported.length]?
  advanced : ∀ report ∈ history.reported, report.internal =
    if report.index = trajectory.endIndex then none else some (report.index + 1)

/-- What an update does at an index of the trajectory. -/
theorem updateSetpoint_of_index (reading : PositionReading)
    (follows : Follows history executor trajectory)
    (atIndex : executor.currentIndex = some index) :
    ∃ item, trajectory.trajectory.item? index = some (.navigation item) ∧
      executor.updateSetpoint reading =
        if reading.positionValid then
          if reading.distance < executor.radius trajectory index then
            { executor.continueNextItem trajectory index with
              setpoint := some (setpoint trajectory item.data reading) }
          else { executor, setpoint := some (setpoint trajectory item.data reading) }
        else { executor, tasks := [.onFailure trajectory.onFailure] } := by
  have inRange : index ∈ indices trajectory :=
    List.mem_of_getElem? (follows.next.symm.trans atIndex)
  obtain ⟨item, found⟩ := follows.flyable.navigation index inRange
  refine ⟨item, found, ?_⟩
  cases valid : reading.positionValid <;>
    simp [updateSetpoint, follows.current, atIndex, found, valid]

theorem updateSetpoint_of_none (noIndex : executor.currentIndex = none) :
    executor.updateSetpoint reading = { executor } := by
  unfold updateSetpoint
  cases executor.currentTrajectory <;> simp [noIndex]

namespace Follows

/-- The next index is reported, after the internal index moved on. -/
theorem continueNextItem (follows : Follows history executor trajectory)
    (atIndex : executor.currentIndex = some index) :
    Follows { history with
        reported := history.reported ++
          [⟨index, (executor.continueNextItem trajectory index).executor.currentIndex⟩] }
      (executor.continueNextItem trajectory index).executor trajectory := by
  have next : (indices trajectory)[history.reported.length]? = some index :=
    follows.next.symm.trans atIndex
  have position := next
  rw [getElem?_indices] at position
  split at position
  · rename_i inRange
    have atPosition : trajectory.startIndex + history.reported.length = index := by
      simpa using position
    constructor
    · exact follows.latest
    · exact follows.current
    · exact follows.flyable
    · rw [List.map_append]
      exact prefix_concat follows.reported (by simpa using next)
    · simp only [WaypointTrajectoryExecutor.continueNextItem, List.length_append,
        List.length_singleton, getElem?_indices]
      split
      · rw [if_neg (by omega)]
      · rw [if_pos (by omega)]
        congr 1
        omega
    · intro report member
      rcases List.mem_append.mp member with old | new
      · exact follows.advanced report old
      · obtain rfl := List.mem_singleton.mp new
        simp only [WaypointTrajectoryExecutor.continueNextItem]
        split
        · rw [if_pos (by omega)]
        · rw [if_neg (by omega)]
  · cases position

theorem updateSetpoint (follows : Follows history executor trajectory)
    (reading : PositionReading) :
    Follows (history.record executor (.updateSetpoint reading))
      (executor.updateSetpoint reading).executor trajectory := by
  simp only [History.record]
  cases atIndex : executor.currentIndex with
  | none =>
      rw [updateSetpoint_of_none atIndex]
      simpa using follows
  | some index =>
      obtain ⟨item, -, update⟩ := updateSetpoint_of_index reading follows atIndex
      rw [update]
      split
      · split
        · exact follows.continueNextItem atIndex
        · simpa using follows
      · simpa [Task.reported?] using follows

theorem start (flyable : Flyable trajectory) (history : History)
    (executor : WaypointTrajectoryExecutor) :
    Follows (history.record executor (.runTrajectory trajectory))
      (executor.runTrajectory trajectory) trajectory where
  latest := rfl
  current := rfl
  flyable := flyable
  reported := List.nil_prefix
  next := by
    have inRange := flyable.start_le_end
    simp [WaypointTrajectoryExecutor.runTrajectory, History.record, getElem?_indices, inRange]
  advanced := nofun

end Follows

/-- Before the first trajectory there is nothing to report. -/
def Fresh (history : History) (executor : WaypointTrajectoryExecutor) : Prop :=
  history.latest = none ∧ history.reported = [] ∧ executor.currentIndex = none

def Following (history : History) (config : Config) : Prop :=
  Fresh history config.state ∨ ∃ trajectory, Follows history config.state trajectory

theorem following_apply {input : Input} {after : WaypointTrajectoryExecutor} {tasks : List Task}
    (following : Fresh history executor ∨ ∃ trajectory, Follows history executor trajectory)
    (flies : input.Flies)
    (applied : executor.apply input = some (after, tasks)) :
    Fresh (history.record executor input) after ∨
      ∃ trajectory, Follows (history.record executor input) after trajectory := by
  cases input with
  | return_ => cases applied
  | runTrajectory config =>
      cases applied
      exact .inr ⟨config, .start flies history executor⟩
  | updateSetpoint reading =>
      cases applied
      rcases following with ⟨latest, reported, noIndex⟩ | ⟨trajectory, follows⟩
      · refine .inl ?_
        simp only [History.record, updateSetpoint_of_none noIndex]
        exact ⟨latest, by simp [reported], noIndex⟩
      · exact .inr ⟨trajectory, follows.updateSetpoint reading⟩

theorem following_next (history : History) (config : Config) (input : Input) (next : Config)
    (following : Following history config) (guarded : Guard config input)
    (stepped : machine.step config input = some next) :
    Following (recorder.record history config input) next := by
  obtain ⟨executor, agenda⟩ := config
  rcases Machine.step_cases stepped with
    ⟨quiescent, state, tasks, taken, rfl⟩ | ⟨task, rest, state, tasks, shape, executed, rfl⟩
  · obtain rfl : agenda = [] := quiescent
    exact following_apply following guarded taken
  · obtain rfl : agenda = task :: rest := shape
    simp only [machine, exec] at executed
    split at executed
    · cases executed
      exact following
    · obtain ⟨after, applied, same⟩ := Option.map_eq_some_iff.mp executed
      cases same
      exact following_apply following guarded applied

/-- The protocol of the indices of the trajectory that was set last. -/
structure IndexProtocol (history : History) (executor : WaypointTrajectoryExecutor)
    (trajectory : TrajectoryConfig) : Prop where
  current : executor.currentTrajectory = some trajectory
  /-- The reported indices, from the first on, each once. -/
  reported : history.reported.map (·.index) <+: indices trajectory
  advanced : ∀ report ∈ history.reported, report.internal =
    if report.index = trajectory.endIndex then none else some (report.index + 1)
  /-- The one to fly to is the first that is not reported yet. -/
  next : executor.currentIndex = (indices trajectory)[history.reported.length]?
  /-- After the last index nothing is sent and nothing is reported. -/
  nothingAfterEnd : trajectory.endIndex ∈ history.reported.map (·.index) →
    ∀ reading, executor.updateSetpoint reading = { executor }
  sends : ∀ reading goto, (executor.updateSetpoint reading).setpoint = some goto ↔
    ∃ index item, executor.currentIndex = some index ∧ reading.positionValid = true ∧
      trajectory.trajectory.item? index = some (.navigation item) ∧
      goto = setpoint trajectory item.data reading
  reaches : ∀ reading callback index,
    .onIndexReached callback index ∈ (executor.updateSetpoint reading).tasks ↔
      executor.currentIndex = some index ∧ callback = trajectory.onIndexReached ∧
      reading.positionValid = true ∧
      reading.distance <
        if index = trajectory.endIndex ∧ trajectory.stopAtLast = true then
          executor.acceptanceRadius / 2
        else executor.acceptanceRadius

/-- Once the last index is reported, there is no next one. -/
theorem Follows.ended (follows : Follows history executor trajectory)
    (reported : trajectory.endIndex ∈ history.reported.map (·.index)) :
    executor.currentIndex = none := by
  obtain ⟨position, inRange, atEnd⟩ := List.mem_iff_getElem.mp reported
  have isEnd := List.prefix_iff_getElem?.mp follows.reported position inRange
  rw [atEnd, getElem?_indices] at isEnd
  rw [follows.next, getElem?_indices]
  split at isEnd
  · have last : trajectory.startIndex + position = trajectory.endIndex := by simpa using isEnd
    have before : position < history.reported.length := by simpa using inRange
    rw [if_neg (by omega)]
  · cases isEnd

theorem radius_eq : executor.radius trajectory index =
    if index = trajectory.endIndex ∧ trajectory.stopAtLast = true then
      executor.acceptanceRadius / 2
    else executor.acceptanceRadius := by
  simp [radius]

theorem Follows.sends (follows : Follows history executor trajectory)
    (reading : PositionReading) (goto : GotoSetpoint) :
    (executor.updateSetpoint reading).setpoint = some goto ↔
      ∃ index item, executor.currentIndex = some index ∧ reading.positionValid = true ∧
        trajectory.trajectory.item? index = some (.navigation item) ∧
        goto = setpoint trajectory item.data reading := by
  cases atIndex : executor.currentIndex with
  | none => simp [updateSetpoint_of_none atIndex]
  | some index =>
      obtain ⟨item, found, update⟩ := updateSetpoint_of_index reading follows atIndex
      have sent : (executor.updateSetpoint reading).setpoint =
          if reading.positionValid then some (setpoint trajectory item.data reading)
          else none := by
        rw [update]
        split
        · split <;> rfl
        · rfl
      rw [sent]
      split
      · rename_i valid
        constructor
        · rintro ⟨⟩
          exact ⟨index, item, rfl, valid, found, rfl⟩
        · rintro ⟨_, other, ⟨⟩, -, foundOther, rfl⟩
          cases found.symm.trans foundOther
          rfl
      · rename_i invalid
        simp [invalid]

theorem Follows.reaches (follows : Follows history executor trajectory)
    (reading : PositionReading) (callback : IndexClosure) (index : Int) :
    .onIndexReached callback index ∈ (executor.updateSetpoint reading).tasks ↔
      executor.currentIndex = some index ∧ callback = trajectory.onIndexReached ∧
      reading.positionValid = true ∧ reading.distance < executor.radius trajectory index := by
  cases atIndex : executor.currentIndex with
  | none => simp [updateSetpoint_of_none atIndex]
  | some current =>
      obtain ⟨item, -, update⟩ := updateSetpoint_of_index reading follows atIndex
      have called : (executor.updateSetpoint reading).tasks =
          if reading.positionValid then
            if reading.distance < executor.radius trajectory current then
              [.onIndexReached trajectory.onIndexReached current]
            else []
          else [.onFailure trajectory.onFailure] := by
        rw [update]
        split
        · split <;> rfl
        · rfl
      rw [called]
      split
      · rename_i valid
        split
        · rename_i close
          simp only [List.mem_singleton, Task.onIndexReached.injEq, Option.some.injEq, valid,
            true_and]
          constructor
          · rintro ⟨rfl, rfl⟩
            exact ⟨rfl, rfl, close⟩
          · rintro ⟨rfl, rfl, -⟩
            exact ⟨rfl, rfl⟩
        · rename_i far
          simp only [List.not_mem_nil, Option.some.injEq, valid, true_and, false_iff]
          rintro ⟨rfl, -, close⟩
          exact far close
      · rename_i invalid
        simp [invalid]

/-- The trajectory that was set last is flown by the protocol, whoever set it and when. -/
theorem index_protocol {config : Lib.Config (Recorded WaypointTrajectoryExecutor History) Task}
    {acceptanceRadius : Rat}
    (reached : (machine.recorded recorder).Reaches (fun reached => Guard reached.forget)
      ⟨⟨{ acceptanceRadius }, {}⟩, []⟩ config) :
    (∀ trajectory, config.state.history.latest = some trajectory →
      IndexProtocol config.state.history config.state.state trajectory) ∧
    (config.state.history.latest = none →
      config.state.history.reported = [] ∧
      ∀ reading, config.state.state.updateSetpoint reading =
        { executor := config.state.state }) := by
  have following : Following config.state.history config.forget :=
    reached.recorded_invariant (.inl ⟨rfl, rfl, rfl⟩) following_next
  rcases following with ⟨latest, reported, noIndex⟩ | ⟨trajectory, follows⟩
  · constructor
    · intro trajectory isLatest
      rw [latest] at isLatest
      cases isLatest
    · exact fun _ => ⟨reported, fun reading => updateSetpoint_of_none noIndex⟩
  · constructor
    · intro other isLatest
      obtain rfl := Option.some.inj (follows.latest.symm.trans isLatest)
      constructor
      · exact follows.current
      · exact follows.reported
      · exact follows.advanced
      · exact follows.next
      · exact fun reported reading => updateSetpoint_of_none (follows.ended reported)
      · exact follows.sends
      · intro reading callback index
        rw [← radius_eq]
        exact follows.reaches reading callback index
    · intro noLatest
      rw [follows.latest] at noLatest
      cases noLatest

/-- The callback for the first of three waypoints sets another trajectory, whose first waypoint is
the next one. -/
theorem index_protocol_set_by_callback :
    ∃ (config : Lib.Config (Recorded WaypointTrajectoryExecutor History) Task)
      (trajectory : TrajectoryConfig),
      (config.state.history.latest = some trajectory ∧
        config.state.history.reported = [⟨1, some 2⟩] ∧ trajectory.startIndex = 1) ∧
      IndexProtocol config.state.history config.state.state trajectory := by
  let waypoint : MissionItem := .navigation { data := { x := 0, y := 0, z := 10 } }
  let mission : Mission := { items := [waypoint, waypoint, waypoint] }
  let callback : IndexClosure := .customTrajectory .noop 2
  let first : TrajectoryConfig := ⟨mission, {}, 0, 2, true, callback, .noop⟩
  let second : TrajectoryConfig := ⟨mission, {}, 1, 2, true, callback, .noop⟩
  let reading : PositionReading := ⟨true, 0, 0, 1⟩
  obtain ⟨config, reached, latest, reported⟩ := Machine.reaches_of_run_any
    (machine.recorded recorder) (fun reached => Guard reached.forget) ⟨⟨{}, {}⟩, []⟩
    (fun config => config.state.history.latest.map (·.startIndex) = some 1 ∧
      config.state.history.reported = [⟨1, some 2⟩])
    [.runTrajectory first, .updateSetpoint reading, .runTrajectory second, .return_,
      .updateSetpoint reading]
    (by decide)
  obtain ⟨trajectory, latest, startIndex⟩ := Option.map_eq_some_iff.mp latest
  exact ⟨config, trajectory, ⟨latest, reported, startIndex⟩,
    (index_protocol reached).1 trajectory latest⟩

end WaypointTrajectoryExecutor

namespace MissionExecutor

variable {executor : MissionExecutor} {reading : WaypointTrajectoryExecutor.PositionReading}
  {positionReached : Bool}

def setTrajectoryIndex (executor : MissionExecutor) (index : Option Int) : MissionExecutor :=
  { executor with trajectoryIndex := index }

theorem setTrajectoryIndex_self {index : Option Int} (same : executor.trajectoryIndex = index) :
    executor.setTrajectoryIndex index = executor :=
  same ▸ rfl

/-- The callback of the mission executor that a callback of its trajectory is. -/
def trajectoryTask : WaypointTrajectoryExecutor.Task → Task
  | .onIndexReached callback index => .callIndex callback index
  | .onFailure callback => .call callback

/-- The trajectory executor of the mission executor is this one, with the outcome of its comparison
for the distance. -/
theorem updateWaypoint_eq
    (compared : ∀ trajectory index, executor.currentTrajectory = some trajectory →
      executor.trajectoryIndex = some index →
      positionReached = decide (reading.distance <
        executor.waypointExecutor.radius trajectory index)) :
    executor.updateWaypoint reading.positionValid positionReached =
      (executor.setTrajectoryIndex
          (executor.waypointExecutor.updateSetpoint reading).executor.currentIndex,
        (executor.waypointExecutor.updateSetpoint reading).tasks.map trajectoryTask) := by
  cases atIndex : executor.trajectoryIndex with
  | none =>
      have noIndex : executor.waypointExecutor.currentIndex = none := atIndex
      rw [WaypointTrajectoryExecutor.updateSetpoint_of_none noIndex]
      simp [updateWaypoint, atIndex, noIndex, setTrajectoryIndex_self]
  | some index =>
      have atSame : executor.waypointExecutor.currentIndex = some index := atIndex
      cases current : executor.currentTrajectory with
      | none =>
          have none : executor.waypointExecutor.currentTrajectory = none := current
          simp [updateWaypoint, current, none, atSame, WaypointTrajectoryExecutor.updateSetpoint,
            setTrajectoryIndex_self, atIndex]
      | some trajectory =>
          have same : executor.waypointExecutor.currentTrajectory = some trajectory := current
          have next : executor.continueNextItem trajectory index =
              (executor.setTrajectoryIndex
                  (executor.waypointExecutor.continueNextItem trajectory index).executor.currentIndex,
                (executor.waypointExecutor.continueNextItem trajectory index).tasks.map
                  trajectoryTask) := by
            simp [continueNextItem, trajectoryTask, setTrajectoryIndex,
              WaypointTrajectoryExecutor.continueNextItem]
          simp only [updateWaypoint, current, atIndex, WaypointTrajectoryExecutor.updateSetpoint,
            same, atSame, compared trajectory index current atIndex]
          cases trajectory.trajectory.item? index with
          | none => exact next
          | some item =>
              cases item with
              | action item => exact next
              | navigation item =>
                  cases reading.positionValid with
                  | false => simp [setTrajectoryIndex_self, atIndex, atSame, trajectoryTask]
                  | true =>
                      by_cases close : reading.distance <
                          executor.waypointExecutor.radius trajectory index
                      · simpa [close] using next
                      · simp [close, setTrajectoryIndex_self, atIndex, atSame]

end MissionExecutor

end Px4Ros2
