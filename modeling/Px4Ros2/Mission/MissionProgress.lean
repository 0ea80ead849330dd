import Px4Ros2.Mission.MissionCourse

/-! Frames of the steps that go on with the mission. -/

set_option autoImplicit false

namespace Px4Ros2.MissionExecutor

/-- Tasks that go on with an item that is not to be resumed. -/
@[simp] def Task.begins : Task → Bool
  | .onActivateRun startFromBeginning => startFromBeginning
  | .onActivatedReturned _ startFromBeginning => startFromBeginning
  | .runNextMissionItem => true
  | .runCurrentMissionItem resuming => !resuming
  | _ => false

theorem drives_of_begins {task : Task} (begins : task.begins = true) : task.drives = true := by
  cases task with
  | onActivateRun | onActivatedReturned | runNextMissionItem | runCurrentMissionItem => rfl
  | _ => cases begins

/-- What a step may change without any effect on the account. -/
structure SameProgress (before after : MissionExecutor) : Prop where
  mission : after.mission = before.mission
  isActive : after.isActive = before.isActive
  persistenceFile : after.persistenceFile = before.persistenceFile

theorem SameProgress.refl (executor : MissionExecutor) : SameProgress executor executor :=
  ⟨rfl, rfl, rfl⟩

theorem SameProgress.trans {first second third : MissionExecutor} (one : SameProgress first second)
    (two : SameProgress second third) : SameProgress first third :=
  ⟨two.mission.trans one.mission, two.isActive.trans one.isActive,
    two.persistenceFile.trans one.persistenceFile⟩

theorem SameCore.progress {before after : MissionExecutor} (same : SameCore before after) :
    SameProgress before after :=
  ⟨same.mission, same.isActive, same.persistenceFile⟩

theorem SameCourse.progress {before after : MissionExecutor} (same : SameCourse before after) :
    SameProgress before after :=
  ⟨same.mission, same.isActive, same.persistenceFile⟩

variable {config : Configuration} {executor : MissionExecutor} {task : Task} {input : Input}
  {after : MissionExecutor × List Task}

/-! What the steps of the course do. -/

theorem progress_setCurrentMissionIndex (index : Int) :
    SameProgress executor (executor.setCurrentMissionIndex index).1 ∧
      (executor.setCurrentMissionIndex index).1.state.currentIndex = some index := by
  have calm := @calm_setCurrentMissionIndex executor index
  exact ⟨⟨calm.course.mission, calm.course.isActive, calm.course.persistenceFile⟩,
    calm.course.currentIndex⟩

theorem drives_setCurrentMissionIndex (index : Int) :
    ∀ task ∈ (executor.setCurrentMissionIndex index).2, task.drives = false :=
  (@calm_setCurrentMissionIndex executor index).tasks

theorem startMission_onward (startFromBeginning : Bool) :
    SameProgress executor (executor.startMission config startFromBeginning).1 ∧
      (executor.startMission config startFromBeginning).1.state.currentIndex =
        executor.state.currentIndex ∧
      ∀ task ∈ (executor.startMission config startFromBeginning).2, task.begins = true →
        startFromBeginning = true := by
  unfold startMission
  split
  · exact ⟨⟨rfl, rfl, rfl⟩, rfl, by simp⟩
  · have taken : SameProgress executor executor.getOnResumeStateAndClear.1 ∧
        executor.getOnResumeStateAndClear.1.state.currentIndex = executor.state.currentIndex := by
      unfold getOnResumeStateAndClear
      split <;> exact ⟨⟨rfl, rfl, rfl⟩, rfl⟩
    dsimp only
    split
    · exact ⟨taken.1.trans crash_same.progress, taken.2, by simp [crash]⟩
    · rename_i arguments _
      have calm := @calm_runAction config executor.getOnResumeStateAndClear.1 "onResume" ⟨arguments⟩
        (.resumed executor.actionHandler executor.state.currentIndex)
      refine ⟨taken.1.trans calm.course.progress, calm.course.currentIndex.trans taken.2, ?_⟩
      intro task member begins
      have drives := drives_of_begins begins
      rw [calm.tasks task member] at drives
      cases drives

/-- An operation of a handler goes on with nothing by itself. -/
theorem handlerOp_onward (handler : HandlerId) (op : HandlerOp) :
    SameProgress executor (executor.handlerOp config handler op).1 ∧
      ((executor.handlerOp config handler op).1.state.currentIndex = none →
        executor.state.currentIndex = none) ∧
      ∀ task ∈ (executor.handlerOp config handler op).2, task.drives = false := by
  by_cases sets : ∃ index, op = .setCurrentMissionIndex index
  · obtain ⟨index, rfl⟩ := sets
    simp only [handlerOp, HandlerOp.checksValid, handlerCall, Bool.false_and, Bool.false_eq_true,
      if_false]
    split
    · obtain ⟨same, current⟩ := @progress_setCurrentMissionIndex executor index
      refine ⟨same, fun none => ?_, drives_setCurrentMissionIndex index⟩
      rw [current] at none
      cases none
    · exact ⟨.refl executor, id, by simp⟩
  · have calm := @calm_handlerOp config executor handler op
      fun index same => sets ⟨index, same⟩
    refine ⟨calm.course.progress, fun none => ?_, calm.tasks⟩
    rw [← calm.course.currentIndex]
    exact none

theorem runOnResume_onward (handler : HandlerId) (arguments : ActionArguments)
    (onCompleted : Closure) :
    SameProgress executor (executor.runOnResume config handler arguments onCompleted).1 ∧
      ((executor.runOnResume config handler arguments onCompleted).1.state.currentIndex = none →
        executor.state.currentIndex = none) ∧
      ∀ task ∈ (executor.runOnResume config handler arguments onCompleted).2,
        task.drives = false := by
  have completes : SameProgress executor executor ∧
      (executor.state.currentIndex = none → executor.state.currentIndex = none) ∧
      ∀ task ∈ [Task.call onCompleted], task.drives = false :=
    ⟨.refl executor, id, by simp⟩
  unfold runOnResume
  split
  · exact ⟨crash_same.progress, id, by simp [crash]⟩
  · split
    · exact ⟨.refl executor, id, by simp⟩
    · dsimp only
      split
      · exact completes
      · split
        · unfold resumeFromUnexpectedLanding
          split
          · obtain ⟨same, current, calm⟩ := @handlerOp_onward config executor handler
              (.setCurrentMissionIndex
                (if executor.state.currentIndex.getD 0 + 1 ≥ executor.mission.items.length then 0
                else executor.state.currentIndex.getD 0 + 1))
            refine ⟨same, current, fun task member => ?_⟩
            rcases List.mem_append.mp member with first | last
            · exact calm task first
            · exact completes.2.2 task last
          · split
            · exact handlerOp_onward _ _
            · exact completes
        · exact completes

theorem onActivate_onward :
    executor.onActivate.1.mission = executor.mission ∧
      executor.onActivate.1.persistenceFile = executor.persistenceFile ∧
      (executor.onActivate.1.state.currentIndex = none → executor.state.currentIndex = none) ∧
      ∀ task ∈ executor.onActivate.2, task.begins = true → executor.state.currentIndex = none := by
  unfold onActivate
  split
  · exact ⟨rfl, rfl, id, by simp⟩
  · obtain ⟨same, current⟩ := @progress_setCurrentMissionIndex executor.activated
      (executor.state.currentIndex.getD 0)
    refine ⟨same.mission, same.persistenceFile, fun none => ?_, fun task member begins => ?_⟩
    · rw [current] at none
      cases none
    · rcases List.mem_append.mp member with first | last
      · have drives := drives_of_begins begins
        rw [drives_setCurrentMissionIndex _ task first] at drives
        cases drives
      · rw [List.mem_singleton.mp last] at begins
        exact Option.isNone_iff_eq_none.mp begins

theorem resumed_onward (handler : HandlerId) (previousIndex : Option Int) :
    SameProgress executor (executor.resumed handler previousIndex).1 ∧
      (executor.resumed handler previousIndex).1.state.currentIndex =
        executor.state.currentIndex ∧
      (executor.isValid handler = false →
        (executor.resumed handler previousIndex).2 = []) ∧
      ∀ task ∈ (executor.resumed handler previousIndex).2, task.begins = true →
        previousIndex ≠ executor.state.currentIndex ∧
          (executor.resumed handler previousIndex).2 = [.runCurrentMissionItem false] := by
  unfold resumed
  split
  · rename_i valid
    split
    · exact ⟨⟨rfl, rfl, rfl⟩, rfl, by simp [valid], by simp⟩
    · rename_i other
      exact ⟨⟨rfl, rfl, rfl⟩, rfl, by simp [valid], fun _ _ _ => ⟨other, rfl⟩⟩
  · exact ⟨.refl executor, rfl, by simp, by simp⟩

theorem onDeactivate_kept :
    (executor.onDeactivate config).1.mission = executor.mission ∧
      (executor.onDeactivate config).1.state.currentIndex =
        (if executor.missionDone then none else executor.state.currentIndex) ∧
      ((executor.onDeactivate config).1.persistenceFile = executor.persistenceFile ∨
        (executor.onDeactivate config).1.persistenceFile = .missing) ∧
      ∀ task ∈ (executor.onDeactivate config).2, task.drives = false := by
  unfold onDeactivate
  split
  · unfold clearPersistentState
    split
    · exact ⟨rfl, rfl, .inr rfl, by simp⟩
    · exact ⟨rfl, rfl, .inl rfl, by simp⟩
  · refine ⟨rfl, rfl, .inl rfl, ?_⟩
    unfold runOnResumeStoreState
    split <;> simp

theorem savePersistentState_file (persistence : config.persistence = true) :
    ∃ file, executor.savePersistentState config = { executor with persistenceFile := file } ∧
      (file = .missing ∨ file = .json executor.state.toJson) := by
  simp only [savePersistentState, clearPersistentState, persistence, Bool.not_true,
    Bool.false_eq_true, if_false, if_true]
  split
  · split
    · exact ⟨_, rfl, .inr rfl⟩
    · exact ⟨_, rfl, .inl rfl⟩
  · exact ⟨_, rfl, .inl rfl⟩

/-- A lambda with a valid handler was made since the mission was stopped. -/
theorem not_stopped_of_valid {handler : HandlerId} {rest : List Task}
    (sound : Sound ⟨executor, task :: rest⟩) (inactive : Inactive config ⟨executor, task :: rest⟩)
    (valid : executor.isValid handler = true)
    (older : ∀ bound, task.From (olderThan bound) → handler < bound) :
    executor.isActive = true := by
  cases active : executor.isActive with
  | true => rfl
  | false =>
      obtain ⟨bound, stopped⟩ := inactive.stopped active
      have less := older bound (stopped.closures.tasks task List.mem_cons_self)
      rw [isValid_of_lt sound.valid (lt_of_lt_of_le less stopped.renewed)] at valid
      cases valid

/-! Who runs, what is on file, and what is left of an activation. -/

/-- Only the hooks of the mode executor activate and deactivate. -/
theorem exec_isActive (executed : executor.exec config task input = some after)
    (activates : task ≠ .modeExecutor (.hook .onActivate))
    (deactivates : ∀ reason, task ≠ .modeExecutor (.hook (.onDeactivate reason))) :
    after.1.isActive = executor.isActive := by
  cases exec_course executed with
  | calm _ same => exact same.course.isActive
  | onActivate => exact absurd rfl activates
  | onDeactivate reason => exact absurd rfl (deactivates reason)
  | onActivateRun startFromBeginning =>
      unfold MissionExecutor.onActivateRun
      split
      · rfl
      · exact (startMission_onward _).1.isActive
  | onActivatedReturned previousHandler startFromBeginning =>
      unfold MissionExecutor.onActivatedReturned
      split
      · exact (startMission_onward _).1.isActive
      · rfl
  | runNextMissionItem => exact (progress_setCurrentMissionIndex _).1.isActive
  | runCurrentMissionItem => exact (runCurrentMissionItem_same _).isActive
  | savePersistentState =>
      obtain ⟨file, same⟩ := @savePersistentState_eq config executor
      rw [same]
  | resumed => exact (resumed_onward _ _).1.isActive
  | segment =>
      unfold MissionExecutor.segmentReached
      split
      · exact (progress_setCurrentMissionIndex _).1.isActive
      · rfl
  | onResume => exact (runOnResume_onward _ _ _).1.isActive
  | setIndex => exact (handlerOp_onward _ _).1.isActive
  | setMission => exact (stateOnly_setMission _ _).isActive
  | resetMission => exact stateOnly_resetMission.isActive
  | again | nextItem => rfl

/-- The file changes when the state is saved, and when the mission is done. -/
theorem exec_file (executed : executor.exec config task input = some after)
    (saves : task ≠ .savePersistentState)
    (deactivates : ∀ reason, task ≠ .modeExecutor (.hook (.onDeactivate reason))) :
    after.1.persistenceFile = executor.persistenceFile := by
  cases exec_course executed with
  | calm _ same => exact same.course.persistenceFile
  | onActivate => exact onActivate_onward.2.1
  | onDeactivate reason => exact absurd rfl (deactivates reason)
  | onActivateRun startFromBeginning =>
      unfold MissionExecutor.onActivateRun
      split
      · rfl
      · exact (startMission_onward _).1.persistenceFile
  | onActivatedReturned previousHandler startFromBeginning =>
      unfold MissionExecutor.onActivatedReturned
      split
      · exact (startMission_onward _).1.persistenceFile
      · rfl
  | runNextMissionItem => exact (progress_setCurrentMissionIndex _).1.persistenceFile
  | runCurrentMissionItem => exact (runCurrentMissionItem_same _).persistenceFile
  | savePersistentState => exact absurd rfl saves
  | resumed => exact (resumed_onward _ _).1.persistenceFile
  | segment =>
      unfold MissionExecutor.segmentReached
      split
      · exact (progress_setCurrentMissionIndex _).1.persistenceFile
      · rfl
  | onResume => exact (runOnResume_onward _ _ _).1.persistenceFile
  | setIndex => exact (handlerOp_onward _ _).1.persistenceFile
  | setMission => exact (stateOnly_setMission _ _).persistenceFile
  | resetMission => exact stateOnly_resetMission.persistenceFile
  | again | nextItem => rfl

/-- Tasks of an activation that has not come to the mission yet. -/
@[simp] def Task.starts : Task → Bool
  | .onActivateRun _ | .onActivatedReturned _ _ => true
  | _ => false

theorem starts_of_not_drives {task : Task} (calm : task.drives = false) : task.starts = false := by
  cases task with
  | onActivateRun | onActivatedReturned => cases calm
  | _ => rfl

theorem startMission_starts (startFromBeginning : Bool) :
    ∀ other ∈ (executor.startMission config startFromBeginning).2, other.starts = false := by
  unfold startMission
  split
  · simp
  · dsimp only
    split
    · simp [crash]
    · exact fun other member => starts_of_not_drives ((calm_runAction _ _ _).tasks other member)

theorem countP_starts_eq_zero {tasks : List Task} (none : ∀ other ∈ tasks, other.starts = false) :
    tasks.countP Task.starts = 0 := by
  rw [List.countP_eq_zero]
  intro other member starts
  rw [none other member] at starts
  cases starts

theorem onActivate_starts : executor.onActivate.2.countP Task.starts ≤ 1 := by
  unfold onActivate
  split
  · simp
  · rw [List.countP_append, countP_starts_eq_zero fun other member =>
      starts_of_not_drives (drives_setCurrentMissionIndex _ other member)]
    simp

/-- Only an activation leaves tasks of an activation. -/
theorem exec_starts (executed : executor.exec config task input = some after)
    (activates : task ≠ .modeExecutor (.hook .onActivate)) (other : task.starts = false) :
    after.2.countP Task.starts = 0 := by
  have index : ∀ index, ∀ task ∈ (executor.setCurrentMissionIndex index).2, task.starts = false :=
    fun index task member => starts_of_not_drives (drives_setCurrentMissionIndex index task member)
  refine countP_starts_eq_zero fun pushed member => ?_
  cases exec_course executed with
  | again =>
      rw [List.mem_singleton.mp member]
      exact other
  | calm _ same => exact starts_of_not_drives (same.tasks pushed member)
  | onActivate => exact absurd rfl activates
  | onDeactivate => exact starts_of_not_drives (onDeactivate_kept.2.2.2 pushed member)
  | onActivateRun | onActivatedReturned => cases other
  | runNextMissionItem =>
      rcases List.mem_append.mp member with first | last
      · exact index _ pushed first
      · rw [List.mem_singleton.mp last]
        rfl
  | runCurrentMissionItem resuming =>
      exact starts_of_not_drives ((calm_runCurrentMissionItem resuming).tasks pushed member)
  | savePersistentState => cases member
  | nextItem =>
      dsimp only at member
      split at member
      · rw [List.mem_singleton.mp member]
        rfl
      · cases member
  | resumed handler previousIndex =>
      unfold MissionExecutor.resumed at member
      split at member
      · split at member
        · rcases List.mem_pair.mp member with rfl | rfl <;> rfl
        · rw [List.mem_singleton.mp member]
          rfl
      · cases member
  | segment handler endIndex =>
      unfold segmentReached at member
      split at member
      · rcases List.mem_append.mp member with first | last
        · exact index _ pushed first
        · split at last
          · rw [List.mem_singleton.mp last]
            rfl
          · cases last
      · cases member
  | onResume => exact starts_of_not_drives ((runOnResume_onward _ _ _).2.2 pushed member)
  | setIndex =>
      rcases List.mem_append.mp member with first | last
      · exact starts_of_not_drives ((handlerOp_onward _ _).2.2 pushed first)
      · rw [List.mem_singleton.mp last]
        rfl
  | setMission | resetMission =>
      rw [List.mem_singleton.mp member]
      rfl

/-- A task that starts the mission comes from an activation, or waits once more. -/
theorem exec_starting (executed : executor.exec config task input = some after) {other : Task}
    (member : other ∈ after.2) (starts : other.starts = true) :
    task = .modeExecutor (.hook .onActivate) ∨ task.starts = true ∧
      ((∃ landed, input = .landDetected landed) ∨ ∃ startFromBeginning,
        task = .onActivateRun startFromBeginning ∧ executor.callbacks.onActivated = true) := by
  by_cases activates : task = .modeExecutor (.hook .onActivate)
  · exact .inl activates
  · cases earlier : task.starts with
    | false =>
        have none := List.countP_eq_zero.mp (exec_starts executed activates earlier) other member
        exact absurd starts none
    | true =>
        have inner : task.isInternal = true := by
          cases task with
          | onActivateRun | onActivatedReturned => rfl
          | _ => cases earlier
        refine .inr ⟨rfl, ?_⟩
        obtain ⟨landed, same, _⟩ | ⟨rfl, rfl⟩ := exec_internal inner executed
        · exact .inl ⟨landed, same⟩
        · cases task with
          | onActivateRun startFromBeginning =>
              simp only [internal, MissionExecutor.onActivateRun] at member
              split at member
              · rename_i called
                exact .inr ⟨startFromBeginning, rfl, called⟩
              · rw [startMission_starts _ other member] at starts
                cases starts
          | onActivatedReturned previousHandler startFromBeginning =>
              simp only [internal, MissionExecutor.onActivatedReturned] at member
              split at member
              · rw [startMission_starts _ other member] at starts
                cases starts
              · cases member
          | _ => cases earlier

/-- At most one activation is on its way to the mission, and none while the executor is
inactive. -/
structure StartsOnce (reached : Config) : Prop where
  once : reached.agenda.countP Task.starts ≤ 1
  idle : reached.state.isActive = false → ∀ task ∈ reached.agenda, task.starts = false

theorem StartsOnce.rest {rest : List Task} (startsOnce : StartsOnce ⟨executor, task :: rest⟩)
    (starts : task.starts = true) :
    executor.isActive = true ∧ ∀ other ∈ rest, other.starts = false := by
  constructor
  · cases active : executor.isActive with
    | true => rfl
    | false =>
        rw [startsOnce.idle active task List.mem_cons_self] at starts
        cases starts
  · have once := startsOnce.once
    rw [List.countP_cons_of_pos starts] at once
    have none : rest.countP Task.starts = 0 := by omega
    intro other member
    simpa using List.countP_eq_zero.mp none other member

theorem startsOnce_initial {registered : Bool} {id : UInt8} {ownedMode : ModeBase}
    {file : PersistenceFile} : StartsOnce (initial registered id ownedMode file) :=
  ⟨by simp [initial], by simp [initial]⟩

theorem startsOnce_exec {rest : List Task} (startsOnce : StartsOnce ⟨executor, task :: rest⟩)
    (ordered : Ordered ⟨executor, task :: rest⟩) (inStep : InStep ⟨executor, task :: rest⟩)
    (executed : executor.exec config task input = some after) :
    StartsOnce ⟨after.1, after.2 ++ rest⟩ := by
  have pushed : after.2.countP Task.starts + rest.countP Task.starts ≤ 1 := by
    by_cases activates : task = .modeExecutor (.hook .onActivate)
    · subst activates
      have none : rest.countP Task.starts = 0 := countP_starts_eq_zero fun other member =>
        startsOnce.idle (inStep.hook rfl) other (List.mem_cons_of_mem _ member)
      obtain ⟨landed, _, rfl⟩ | ⟨rfl, rfl⟩ := exec_hook executed
      · simp [none]
      · have first := @onActivate_starts executor
        simp only [modeExecutorHook, none]
        omega
    · cases starts : task.starts with
      | true =>
          rw [countP_starts_eq_zero (startsOnce.rest starts).2]
          have inner : task.isInternal = true := by
            cases task with
            | onActivateRun | onActivatedReturned => rfl
            | _ => cases starts
          obtain ⟨landed, rfl, rfl⟩ | ⟨rfl, rfl⟩ := exec_internal inner executed
          · rw [List.countP_singleton]
            split <;> omega
          · cases task with
            | onActivateRun startFromBeginning =>
                simp only [internal, MissionExecutor.onActivateRun]
                split
                · simp
                · rw [countP_starts_eq_zero (startMission_starts _)]
                  omega
            | onActivatedReturned previousHandler startFromBeginning =>
                simp only [internal, MissionExecutor.onActivatedReturned]
                split
                · rw [countP_starts_eq_zero (startMission_starts _)]
                  omega
                · simp
            | _ => cases starts
      | false =>
          have once := startsOnce.once
          rw [List.countP_cons] at once
          rw [exec_starts executed activates starts]
          omega
  refine ⟨by rw [List.countP_append]; exact pushed, fun stopped other member => ?_⟩
  cases starts : other.starts with
  | false => rfl
  | true =>
      by_cases deactivates : ∃ reason, task = .modeExecutor (.hook (.onDeactivate reason))
      · obtain ⟨reason, rfl⟩ := deactivates
        rcases List.mem_append.mp member with first | last
        · obtain same | ⟨started, _⟩ := exec_starting executed first starts
          · cases same
          · cases started
        · have lower := isModeExecutor_of_status ordered rfl rfl other last
          cases other with
          | modeExecutor => cases starts
          | _ => cases lower
      · have active : executor.isActive = true := by
          rcases List.mem_append.mp member with first | last
          · obtain rfl | ⟨started, _⟩ := exec_starting executed first starts
            · obtain ⟨landed, _, rfl⟩ | ⟨rfl, rfl⟩ := exec_hook executed
              · rw [List.mem_singleton.mp first] at starts
                cases starts
              · cases stopped.symm.trans onActivate_isActive
            · exact (startsOnce.rest started).1
          · cases active : executor.isActive with
            | true => rfl
            | false =>
                rw [startsOnce.idle active other (List.mem_cons_of_mem _ last)] at starts
                cases starts
        by_cases activates : task = .modeExecutor (.hook .onActivate)
        · subst activates
          cases active.symm.trans (inStep.hook rfl)
        · have same := exec_isActive executed activates fun reason same =>
            deactivates ⟨reason, same⟩
          cases stopped.symm.trans (same.trans active)

theorem startsOnce_next {before next : Config} (startsOnce : StartsOnce before)
    (ordered : Ordered before) (inStep : InStep before)
    (stepped : (machine config).step before input = some next) : StartsOnce next := by
  rcases before with ⟨executor, agenda⟩
  obtain ⟨empty, state, tasks, taken, rfl⟩ | ⟨task, rest, state, tasks, shape, executed, rfl⟩ :=
    Lib.Machine.step_cases stepped
  · have calm := idle_calm taken
    have none : ∀ other ∈ tasks, other.starts = false := fun other member =>
      starts_of_not_drives (calm.tasks other member)
    exact ⟨by simp only [countP_starts_eq_zero none]; omega, fun _ => none⟩
  · obtain rfl : agenda = task :: rest := shape
    exact startsOnce_exec startsOnce ordered inStep executed

/-! New lambdas. -/

theorem admits_of_not_internal {made : Provenance} (outer : task.isInternal = false) :
    Admits made config executor task := by
  refine ⟨?_, ?_, ?_⟩
  · rintro ⟨resuming, rfl⟩
    cases outer
  · rintro ⟨startFromBeginning, rfl | ⟨previous, rfl, _⟩⟩ <;> cases outer
  · rintro name handler arguments onCompleted rfl
    cases outer

/-- The lambdas after a step, when those of before are still allowed and the new ones are. -/
theorem allFrom_exec_within {made made' : Provenance} {rest : List Task}
    (before : AllFrom made (executor, task :: rest)) (within : made.Within made')
    (admits : input = .proceed →
      (∀ startFromBeginning, task = .onActivateRun startFromBeginning →
        executor.callbacks.onActivated = false) →
      Admits made' config executor task)
    (executed : executor.exec config task input = some after) :
    AllFrom made' (after.1, after.2 ++ rest) := by
  have holds := before.mono within
  have later : ∀ other ∈ rest, other.From made' := fun other member =>
    holds.tasks other (List.mem_cons_of_mem task member)
  have head := holds.tasks task List.mem_cons_self
  cases inner : task.isInternal with
  | false =>
      exact (allFrom_exec holds.state head (admits_of_not_internal inner) executed).append later
  | true =>
      obtain ⟨landed, rfl, rfl⟩ | ⟨rfl, same⟩ := exec_internal inner executed
      · exact ⟨holds.state.congr rfl rfl rfl rfl rfl, holds.tasks⟩
      · by_cases waits : ∃ startFromBeginning, task = .onActivateRun startFromBeginning ∧
            executor.callbacks.onActivated = true
        · obtain ⟨startFromBeginning, rfl, set⟩ := waits
          have entered : after = (executor, [.enter .onActivated,
              .onActivatedReturned executor.actionHandler startFromBeginning]) := by
            rw [same]
            simp [internal, onActivateRun, set]
          rw [entered]
          have pushed : AllFrom made' (executor, [Task.enter .onActivated,
              .onActivatedReturned executor.actionHandler startFromBeginning]) := by
            refine ⟨holds.state, fun other member => ?_⟩
            rcases List.mem_pair.mp member with rfl | rfl <;> trivial
          exact pushed.append later
        · refine (allFrom_exec holds.state head (admits rfl ?_) executed).append later
          intro startFromBeginning started
          cases set : executor.callbacks.onActivated with
          | false => rfl
          | true => exact absurd ⟨startFromBeginning, started, set⟩ waits

end Px4Ros2.MissionExecutor
