import Px4Ros2.Mission.StoppedMission

/-! Aborts. An abort stops the mission until the next activation, unless a function that called into
it still has steps of the mission to do. -/

set_option autoImplicit false

namespace Px4Ros2.MissionExecutor

/-- Steps of the mission that a function has left when a call of it returns. -/
def Task.goesOn : Task → Bool
  | .onActivateRun _ | .runStoredActions _ | .runNextMissionItem | .runCurrentMissionItem _ => true
  | .switchToTrajectory | .setTrajectoryState => true
  | _ => false

def Task.startsItem : Task → Bool
  | .runNextMissionItem | .runCurrentMissionItem _ => true
  | _ => false

/-- An active executor is about to abort while a function still has steps of the mission to do. -/
def abortsWithin (reached : Config) : Input → Bool
  | .proceed =>
      match reached.agenda with
      | .abort _ :: rest => reached.state.isActive && rest.any Task.goesOn
      | _ => false
  | _ => false

abbrev AbortsAlone (reached : Config) (input : Input) : Prop :=
  abortsWithin reached input = false ∧ ¬ StartsUnhanded reached.state input

def activates (reached : Config) : Input → Bool
  | .proceed =>
      match reached.agenda with
      | .modeExecutor (.hook .onActivate) :: _ => true
      | _ => false
  | _ => false

abbrev UntilActivation (reached : Config) (input : Input) : Prop :=
  AbortsAlone reached input ∧ activates reached input = false

variable {config : Configuration} {executor : MissionExecutor} {bound : HandlerId} {input : Input}
  {before next : Config}

theorem UntilActivation.keepsStopped (until' : UntilActivation before input) :
    ∀ task ∈ before.agenda.head?, KeepsStopped before.state task input := by
  refine fun task head => ⟨fun proceeds same => ?_, until'.1.2⟩
  obtain ⟨rest, agenda⟩ := List.head?_eq_some_iff.mp head
  have activates' := until'.2
  subst same proceeds
  simp [activates, agenda] at activates'

/-! What is pending of an abort. -/

theorem level_pos (ordered : Ordered before) (pos : 0 < before.state.abortRecursionLevel) :
    ∃ task ∈ before.agenda, task.isAborting = true := by
  rw [ordered.level, List.countP_pos_iff] at pos
  obtain ⟨task, member, ends⟩ := pos
  refine ⟨task, member, ?_⟩
  cases task with
  | abortEnd => rfl
  | _ => cases ends

/-- While something of an abort is pending, nobody activates or deactivates the executor. -/
theorem not_isStatus_of_pending {task : Task} {rest : List Task} (ordered : Ordered before)
    (agenda : before.agenda = task :: rest)
    (pending : ∃ task ∈ before.agenda, task.isAborting = true) : task.isStatus = false := by
  cases status : task.isStatus with
  | false => rfl
  | true =>
      obtain ⟨other, member, aborting⟩ := pending
      rw [agenda] at member
      rcases List.mem_cons.mp member with rfl | later
      · cases other with
        | modeExecutor => cases aborting
        | _ => cases status
      · have modeExecutor := isModeExecutor_of_status ordered agenda status other later
        cases other with
        | modeExecutor => cases aborting
        | _ => cases modeExecutor

theorem exec_aborting {task : Task} {after : MissionExecutor × List Task}
    (executed : executor.exec config task input = some after)
    (pending : ∃ other ∈ after.2, other.isAborting = true) :
    task.isAborting = true ∨
      ∃ reason, task = .abort reason ∧ input = .proceed ∧ after = executor.abort reason := by
  obtain ⟨other, member, aborting⟩ := pending
  have not_inner : ∀ base, ¬ Inner base after := fun base inner => by
    rw [(inner.kinds other member).2] at aborting
    cases aborting
  generalize made : after = after' at executed
  cases (exec_does executed).outcome with
  | inner inner => exact absurd (made ▸ inner) (not_inner _)
  | onActivate => exact absurd (made ▸ inner_onActivate) (not_inner _)
  | onDeactivate => exact absurd (made ▸ inner_onDeactivate) (not_inner _)
  | again =>
      subst made
      rw [List.mem_singleton.mp member] at aborting
      exact .inl aborting
  | modeExecutor =>
      subst made
      rw [(applyModeExecutor_kinds _ other member).2.1] at aborting
      cases aborting
  | runCustom | enterRun =>
      subst made
      rw [List.mem_singleton.mp member] at aborting
      cases aborting
  | aborts aborts =>
      cases task with
      | abortDeactivate | abortRunOnFailure => exact .inl rfl
      | abort reason =>
          obtain ⟨landed, _, same⟩ | ⟨proceeds, same⟩ := exec_internal rfl executed
          · rw [made, same] at member
            rw [List.mem_singleton.mp member] at aborting
            cases aborting
          · exact .inr ⟨reason, rfl, proceeds, same⟩
      | _ => cases aborts
  | abortEnd => exact .inl rfl

theorem abortRunOnFailure_missionItemState (active : executor.isActive = true)
    (onFailure : config.findAction "onFailure" = some .onFailure) (reason : AbortReason) :
    (executor.abortRunOnFailure config reason).1.missionItemState = .other := by
  simp [abortRunOnFailure, runAction, active, onFailure]

theorem onDeactivate_missionItemState :
    (executor.onDeactivate config).1.missionItemState = executor.missionItemState := by
  unfold onDeactivate
  split
  · unfold clearPersistentState
    split <;> rfl
  · rfl

/-- Only the onFailure action of an abort raises the level. -/
theorem exec_level {task : Task} {after : MissionExecutor × List Task}
    (executed : executor.exec config task input = some after) :
    after.1.abortRecursionLevel ≤ executor.abortRecursionLevel ∨
      ∃ reason, task = .abortRunOnFailure reason ∧
        after = executor.abortRunOnFailure config reason := by
  cases (exec_does executed).outcome with
  | inner inner => exact .inl (le_of_eq inner.frame.level)
  | onActivate => exact .inl (le_of_eq inner_onActivate.frame.level)
  | onDeactivate => exact .inl (le_of_eq inner_onDeactivate.frame.level)
  | again | modeExecutor | runCustom | enterRun => exact .inl (le_refl _)
  | abortEnd => exact .inl (Nat.sub_le _ _)
  | @aborts _ last _ state tasks aborts step =>
      cases task with
      | abort reason =>
          obtain ⟨landed, _, same⟩ | ⟨_, same⟩ := exec_internal rfl executed
          all_goals exact .inl (le_of_eq (congrArg (fun after => after.1.abortRecursionLevel) same))
      | abortDeactivate reason =>
          obtain ⟨landed, _, same⟩ | ⟨_, same⟩ := exec_internal rfl executed
          all_goals exact .inl (le_of_eq (congrArg (fun after => after.1.abortRecursionLevel) same))
      | abortRunOnFailure reason =>
          obtain ⟨landed, _, same⟩ | ⟨_, same⟩ := exec_internal rfl executed
          · exact .inl (le_of_eq (congrArg (fun after => after.1.abortRecursionLevel) same))
          · exact .inr ⟨reason, rfl, same⟩
      | _ => cases aborts

theorem step_level (stepped : (machine config).step before input = some next) :
    next.state.abortRecursionLevel ≤ before.state.abortRecursionLevel ∨
      ∃ reason rest, before.agenda = .abortRunOnFailure reason :: rest ∧
        next.state = (before.state.abortRunOnFailure config reason).1 := by
  obtain ⟨empty, state, tasks, taken, rfl⟩ | ⟨task, rest, state, tasks, agenda, executed, rfl⟩ :=
    Lib.Machine.step_cases stepped
  · obtain routine | ⟨msg, _, same⟩ := idle_cases taken
    · exact .inl (le_of_eq routine.state.abortRecursionLevel)
    · cases same
      exact .inl (le_refl _)
  · obtain le | ⟨reason, rfl, same⟩ := exec_level executed
    · exact .inl le
    · exact .inr ⟨reason, rest, agenda, congrArg Prod.fst same⟩

/-- Something of an abort gets pending when an abort executes. -/
theorem step_aborting (stepped : (machine config).step before input = some next)
    (pending : ∃ task ∈ next.agenda, task.isAborting = true) :
    (∃ task ∈ before.agenda, task.isAborting = true) ∨
      ∃ reason rest, before.agenda = .abort reason :: rest ∧ input = .proceed ∧
        next.state = (before.state.abort reason).1 := by
  obtain ⟨other, member, aborting⟩ := pending
  obtain ⟨empty, state, tasks, taken, rfl⟩ | ⟨task, rest, state, tasks, agenda, executed, rfl⟩ :=
    Lib.Machine.step_cases stepped
  · obtain routine | ⟨msg, _, same⟩ := idle_cases taken
    · rw [(plain_of_isRoutine (routine.tasks other member)).aborting] at aborting
      cases aborting
    · cases same
      obtain ⟨task', _, rfl⟩ := List.mem_map.mp member
      cases aborting
  · rcases List.mem_append.mp member with first | later
    · obtain head | ⟨reason, rfl, proceeds, same⟩ := exec_aborting executed ⟨other, first, aborting⟩
      · exact .inl ⟨task, agenda ▸ List.mem_cons_self, head⟩
      · exact .inr ⟨reason, rest, agenda, proceeds, congrArg Prod.fst same⟩
    · exact .inl ⟨other, agenda ▸ List.mem_cons_of_mem _ later, aborting⟩

/-! An abort stops the mission. -/

/-- A task that is pending when an abort executes, made with a handler that the abort
invalidates. -/
theorem stopped_of_goesOn {task : Task} (calm : task.goesOn = false) (run : task.isRun = false)
    (handler : ∀ handler ∈ task.handler?, handler < bound) : task.Stopped config bound true := by
  cases task with
  | onActivateRun | runStoredActions | runNextMissionItem | runCurrentMissionItem
  | switchToTrajectory | setTrajectoryState => cases calm
  | onActivatedReturned => exact handler _ rfl
  | run => cases run
  | enter entry =>
      cases entry with
      | run => cases run
      | _ => trivial
  | _ => trivial

theorem stopped_of_abort {reason : AbortReason} {rest : List Task} (sound : Sound before)
    (agenda : before.agenda = .abort reason :: rest) (active : before.state.isActive = true)
    (alone : AbortsAlone before .proceed)
    (stepped : (machine config).step before .proceed = some next) :
    Stopped config (before.state.actionHandler + 1) next := by
  obtain ⟨tasks, executed, agenda'⟩ := step_head agenda stepped
  obtain ⟨_, other, _⟩ | ⟨_, same⟩ := exec_internal rfl executed
  · cases other
  have state : next.state = (before.state.abort reason).1 := congrArg Prod.fst same
  have left : tasks = (before.state.abort reason).2 := congrArg Prod.snd same
  have handler : next.state.actionHandler = before.state.actionHandler + 1 := by
    rw [state, sound.made.current]
    rfl
  have active' : next.state.isActive = true := by
    rw [state]
    exact active
  refine ⟨allFrom_step sound.closures (fun task _ _ => admits_current sound.valid task) stepped,
    le_of_eq handler.symm, ?_, ?_⟩
  · rw [active', agenda', left]
    intro task member
    rcases List.mem_append.mp member with first | later
    · rcases List.mem_append.mp first with info | last
      · exact stopped_of_isRoutine (isRoutine_clearActivityInfo task info)
      · rw [List.mem_singleton.mp last]
        trivial
    · have calm : rest.any Task.goesOn = false := by
        simpa [abortsWithin, agenda, active] using alone.1
      have run := sound.ordered.run
      rw [agenda] at run
      refine stopped_of_goesOn (by simpa using List.any_eq_false.mp calm task later)
        (run task later) ?_
      exact fun handler known => Nat.lt_succ_of_le
        (sound.made.tasks task (agenda ▸ List.mem_cons_of_mem _ later) handler known)
  · intro _ handler member
    rw [state] at member
    exact Nat.lt_succ_of_le (sound.made.users handler member)

/-- As long as something of an abort is pending, the mission is stopped; within the onFailure
action its trajectory does not run. -/
structure Halted (config : Configuration) (reached : Config) : Prop where
  stopped : reached.state.isActive = true → (∃ task ∈ reached.agenda, task.isAborting = true) →
    ∃ bound, Stopped config bound reached
  other : reached.state.isActive = true → 0 < reached.state.abortRecursionLevel →
    reached.state.missionItemState ≠ .trajectory

/-- Once the trajectory of a stopped mission does not run, it never does. -/
theorem not_trajectory_step (sound : Sound before) (stopped : Stopped config bound before)
    (onFailure : config.findAction "onFailure" = some .onFailure)
    (keeps : ∀ task ∈ before.agenda.head?, KeepsStopped before.state task input)
    (stepped : (machine config).step before input = some next)
    (other : before.state.missionItemState ≠ .trajectory) :
    next.state.missionItemState ≠ .trajectory := by
  have of_after : ∀ {task tasks}, StoppedAfter config bound before.state task input
      (next.state, tasks) → next.state.missionItemState ≠ .trajectory := by
    intro task tasks after
    rcases after.missionItemState with same | same
    · rw [same]
      exact other
    · rw [same]
      exact fun trajectory => nomatch trajectory
  obtain ⟨_, after⟩ | ⟨task, _, _, _, _, after | ⟨_, _, state, _⟩⟩ :=
    stopped.step_cases sound (fun _ => onFailure) keeps stepped
  · exact of_after (after .updateWaypoint)
  · exact of_after after
  · rw [state, onDeactivate_missionItemState]
    exact other

/-- A pending abort stays where it is: the executor is not activated meanwhile. -/
theorem keepsStopped_of_pending (ordered : Ordered before) (alone : AbortsAlone before input)
    (pending : ∃ task ∈ before.agenda, task.isAborting = true) :
    ∀ task ∈ before.agenda.head?, KeepsStopped before.state task input := by
  refine fun task head => ⟨fun _ same => ?_, alone.2⟩
  obtain ⟨rest, agenda⟩ := List.head?_eq_some_iff.mp head
  subst same
  cases not_isStatus_of_pending ordered agenda pending

theorem inactive_of_pending (sound : Sound before) (inactive : Inactive config before)
    (was : before.state.isActive = false)
    (pending : ∃ task ∈ before.agenda, task.isAborting = true)
    (stepped : (machine config).step before input = some next) : next.state.isActive = false := by
  obtain ⟨stays, _⟩ | ⟨_, rest, agenda, _⟩ := inactive_step sound inactive was stepped
  · exact stays
  · cases not_isStatus_of_pending sound.ordered agenda pending

theorem halted_step (sound : Sound before) (inactive : Inactive config before)
    (onFailure : config.findAction "onFailure" = some .onFailure) (halted : Halted config before)
    (alone : AbortsAlone before input)
    (stepped : (machine config).step before input = some next) : Halted config next := by
  by_cases pending : ∃ task ∈ before.agenda, task.isAborting = true
  · cases was : before.state.isActive with
    | false =>
        have stays := inactive_of_pending sound inactive was pending stepped
        constructor
        all_goals
          intro active
          rw [stays] at active
          cases active
    | true =>
        obtain ⟨bound, stopped⟩ := halted.stopped was pending
        have keeps := keepsStopped_of_pending sound.ordered alone pending
        refine ⟨fun _ _ => ⟨bound, stopped.step sound (fun _ => onFailure) keeps stepped⟩, ?_⟩
        intro _ deeper
        obtain le | ⟨reason, rest, _, state⟩ := step_level stepped
        · exact not_trajectory_step sound stopped onFailure keeps stepped
            (halted.other was (lt_of_lt_of_le deeper le))
        · rw [state, abortRunOnFailure_missionItemState was onFailure]
          exact fun trajectory => nomatch trajectory
  · refine ⟨fun active pending' => ?_, fun _ deeper => ?_⟩
    · obtain before' | ⟨reason, rest, agenda, rfl, state⟩ := step_aborting stepped pending'
      · exact absurd before' pending
      · rw [state] at active
        exact ⟨_, stopped_of_abort sound agenda active alone stepped⟩
    · obtain le | ⟨reason, rest, agenda, _⟩ := step_level stepped
      · exact absurd (level_pos sound.ordered (lt_of_lt_of_le deeper le)) pending
      · exact absurd ⟨_, agenda ▸ List.mem_cons_self, rfl⟩ pending

variable {registered : Bool} {id : UInt8} {ownedMode : ModeBase} {file : PersistenceFile}

theorem reaches_halted {reached : Config}
    (onFailure : config.findAction "onFailure" = some .onFailure)
    (reaches : (machine config).Reaches AbortsAlone (initial registered id ownedMode file)
      reached) : Halted config reached := by
  induction reaches with
  | refl => exact ⟨by simp [initial], by simp [initial]⟩
  | step reaches alone stepped halted =>
      exact halted_step (reaches_sound reaches) (reaches_inactive reaches) onFailure halted alone
        stepped

/-! After an abort. -/

/-- Whether the onFailure action of an abort is still to run. -/
def Task.runsOnFailure : Task → Bool
  | .abortDeactivate _ | .abortRunOnFailure _ => true
  | _ => false

/-- The mission is stopped. Its trajectory runs only as long as the abort has not come to the
onFailure action, above the `depth` tasks that were pending before. -/
structure Aborted (config : Configuration) (bound : HandlerId) (depth : Nat) (reached : Config) :
    Prop where
  stopped : Stopped config bound reached
  pending : reached.state.missionItemState = .trajectory →
    reached.state.isActive = true ∧ reached.state.abortRecursionLevel = 0 ∧
    ∃ upper lower, reached.agenda = upper ++ lower ∧ lower.length = depth ∧
      ∃ task ∈ upper, task.runsOnFailure = true

theorem isAborting_of_runsOnFailure {task : Task} (runs : task.runsOnFailure = true) :
    task.isAborting = true := by
  cases task with
  | abortDeactivate | abortRunOnFailure => rfl
  | _ => cases runs

/-- At the first level an abort does come to the onFailure action. -/
theorem exec_runsOnFailure {task : Task} {after : MissionExecutor × List Task}
    (active : executor.isActive = true) (level : executor.abortRecursionLevel = 0)
    (onFailure : config.findAction "onFailure" = some .onFailure)
    (runs : task.runsOnFailure = true) (executed : executor.exec config task input = some after) :
    after.1.missionItemState = .other ∨ ∃ other ∈ after.2, other.runsOnFailure = true := by
  cases task with
  | abortDeactivate reason =>
      obtain ⟨landed, _, rfl⟩ | ⟨_, rfl⟩ := exec_internal rfl executed
      · exact .inr ⟨_, List.mem_singleton_self _, rfl⟩
      · refine .inr ⟨.abortRunOnFailure reason, ?_, rfl⟩
        simp [internal, abortDeactivate, level]
  | abortRunOnFailure reason =>
      obtain ⟨landed, _, rfl⟩ | ⟨_, rfl⟩ := exec_internal rfl executed
      · exact .inr ⟨_, List.mem_singleton_self _, rfl⟩
      · exact .inl (abortRunOnFailure_missionItemState active onFailure reason)
  | _ => cases runs

theorem Aborted.step {depth : Nat} (sound : Sound before) (aborted : Aborted config bound depth before)
    (onFailure : config.findAction "onFailure" = some .onFailure)
    (keeps : ∀ task ∈ before.agenda.head?, KeepsStopped before.state task input)
    (stepped : (machine config).step before input = some next) :
    Aborted config bound depth next := by
  refine ⟨aborted.stopped.step sound (fun _ => onFailure) keeps stepped, fun trajectory => ?_⟩
  have was : before.state.missionItemState = .trajectory := by
    by_contra other
    exact not_trajectory_step sound aborted.stopped onFailure keeps stepped other trajectory
  obtain ⟨active, level, upper, lower, split, length, task, member, runs⟩ := aborted.pending was
  have pending : ∃ task ∈ before.agenda, task.isAborting = true :=
    ⟨task, split ▸ List.mem_append_left _ member, isAborting_of_runsOnFailure runs⟩
  obtain ⟨empty, _⟩ | ⟨head, rest, tasks, agenda, agenda', after | ⟨⟨reason, rfl⟩, _⟩⟩ :=
    aborted.stopped.step_cases sound (fun _ => onFailure) keeps stepped
  · rw [empty] at pending
    obtain ⟨_, member', _⟩ := pending
    cases member'
  · have level' : next.state.abortRecursionLevel = 0 := by
      obtain le | ⟨reason, rest', _, state⟩ := step_level stepped
      · rw [level] at le
        exact Nat.le_zero.mp le
      · rw [state, abortRunOnFailure_missionItemState active onFailure] at trajectory
        cases trajectory
    cases upper with
    | nil => cases member
    | cons head' upper =>
        rw [agenda, List.cons_append] at split
        cases split
        refine ⟨after.isActive.trans active, level', tasks ++ upper, lower, ?_, length, ?_⟩
        · rw [agenda', List.append_assoc]
        · rcases List.mem_cons.mp member with rfl | later
          · obtain ⟨tasks', executed, same⟩ := step_head agenda stepped
            rw [agenda', List.append_cancel_right_eq] at same
            subst same
            obtain other | ⟨next', member', runs'⟩ :=
              exec_runsOnFailure active level onFailure runs executed
            · rw [trajectory] at other
              cases other
            · exact ⟨next', List.mem_append_left _ member', runs'⟩
          · exact ⟨task, List.mem_append_right _ later, runs⟩
  · cases not_isStatus_of_pending sound.ordered agenda pending

theorem aborted_of_abort {reason : AbortReason} {rest : List Task} (sound : Sound before)
    (halted : Halted config before) (agenda : before.agenda = .abort reason :: rest)
    (active : before.state.isActive = true) (alone : AbortsAlone before .proceed)
    (stepped : (machine config).step before .proceed = some next) :
    Aborted config (before.state.actionHandler + 1) rest.length next := by
  refine ⟨stopped_of_abort sound agenda active alone stepped, fun trajectory => ?_⟩
  obtain ⟨tasks, executed, agenda'⟩ := step_head agenda stepped
  obtain ⟨_, other, _⟩ | ⟨_, same⟩ := exec_internal rfl executed
  · cases other
  have state : next.state = (before.state.abort reason).1 := congrArg Prod.fst same
  have left : tasks = (before.state.abort reason).2 := congrArg Prod.snd same
  have level : before.state.abortRecursionLevel = 0 := by
    by_contra deeper
    refine halted.other active (Nat.pos_of_ne_zero deeper) ?_
    rw [state] at trajectory
    exact trajectory
  rw [state]
  exact ⟨active, level, tasks, rest, agenda', rfl, .abortDeactivate reason,
    by simp [left, MissionExecutor.abort], rfl⟩

/-- While it is aborted, an executor moves the index of the mission only on a request of user code,
or drops it with a mission that is done. -/
theorem currentIndex_step (sound : Sound before) (stopped : Stopped config bound before)
    (onFailure : config.findAction "onFailure" = some .onFailure)
    (keeps : ∀ task ∈ before.agenda.head?, KeepsStopped before.state task input)
    (requested : ∀ op, input ≠ .op op)
    (stepped : (machine config).step before input = some next) :
    next.state.state.currentIndex = before.state.state.currentIndex ∨
      next.state.state.currentIndex = none := by
  obtain ⟨_, after⟩ | ⟨task, _, _, _, _, after | ⟨_, _, state, _⟩⟩ :=
    stopped.step_cases sound (fun _ => onFailure) keeps stepped
  · exact .inl ((after .updateWaypoint).currentIndex requested)
  · exact .inl (after.currentIndex requested)
  · rw [state]
    unfold onDeactivate
    split
    · exact .inr rfl
    · exact .inl rfl

/-- Once an abort executed, and until the next activation, no item of the mission is started, the
executor does not advance the index, and when the call that led to the abort has returned, the
trajectory does not run. -/
theorem abort_is_final {reached aborted returned later : Config} {reason : AbortReason}
    {rest : List Task} (onFailure : config.findAction "onFailure" = some .onFailure)
    (reaches : (machine config).Reaches AbortsAlone (initial registered id ownedMode file) reached)
    (agenda : reached.agenda = .abort reason :: rest) (active : reached.state.isActive = true)
    (alone : AbortsAlone reached .proceed)
    (stepped : (machine config).step reached .proceed = some aborted)
    (onward : (machine config).Reaches UntilActivation aborted returned)
    (onward' : (machine config).Reaches UntilActivation returned later) :
    (∀ task ∈ later.agenda, task.startsItem = false) ∧
    (∀ input next, UntilActivation later input → (∀ op, input ≠ .op op) →
      (machine config).step later input = some next →
      next.state.state.currentIndex = later.state.state.currentIndex ∨
        next.state.state.currentIndex = none) ∧
    (returned.agenda.length ≤ rest.length → later.state.missionItemState ≠ .trajectory) := by
  have sound_of : ∀ {middle}, (machine config).Reaches UntilActivation aborted middle →
      Sound middle := fun before =>
    reaches_sound ((Lib.Machine.Reaches.step reaches alone stepped).trans
      (before.mono fun _ _ until' => until'.1))
  have start := aborted_of_abort (reaches_sound reaches) (reaches_halted onFailure reaches) agenda
    active alone stepped
  have kept : ∀ {middle}, (machine config).Reaches UntilActivation aborted middle →
      Aborted config (reached.state.actionHandler + 1) rest.length middle := by
    intro middle onward
    induction onward with
    | refl => exact start
    | step before until' stepped' ih =>
        exact ih.step (sound_of before) onFailure until'.keepsStopped stepped'
  have last := (kept (onward.trans onward')).stopped
  refine ⟨fun task member => ?_, fun input next until' requested stepped' => ?_, fun back => ?_⟩
  · have stopped := last.tasks task member
    cases task with
    | runNextMissionItem | runCurrentMissionItem => cases stopped
    | _ => rfl
  · exact currentIndex_step (sound_of (onward.trans onward')) last onFailure until'.keepsStopped
      requested stepped'
  · have other : returned.state.missionItemState ≠ .trajectory := by
      intro trajectory
      obtain ⟨_, _, upper, lower, split, length, task, member, _⟩ :=
        (kept onward).pending trajectory
      have nonempty := List.length_pos_of_mem member
      rw [split, List.length_append, length] at back
      omega
    clear last
    induction onward' with
    | refl => exact other
    | step before until' stepped' ih =>
        exact not_trajectory_step (sound_of (onward.trans before)) (kept (onward.trans before)).stopped
          onFailure until'.keepsStopped stepped' ih

def aboutToAbort (reached : Config) : Bool :=
  match reached.agenda with
  | .abort _ :: _ => reached.state.isActive
  | _ => false

theorem agenda_of_aboutToAbort {reached : Config} (aborts : aboutToAbort reached = true) :
    reached.state.isActive = true ∧ ∃ reason rest, reached.agenda = .abort reason :: rest := by
  unfold aboutToAbort at aborts
  split at aborts
  · rename_i reason rest agenda
    exact ⟨aborts, reason, rest, agenda⟩
  · cases aborts

/-- A process that aborts in flight, with the trajectory running. -/
def routeConfiguration : Configuration := { hash := fun _ => 0 }

def routeMission : Mission := { items := [.navigation { data := ⟨0, 0, 0, .global⟩ }] }

def abortInFlight : List Input :=
  [.userEvent, .op (.setMission routeMission fun _ => none), .ret, armedStatus 23 1] ++
  proceeds 15 ++ [.userEvent, .op .abort]

/-- Up to the return of `abort()`. -/
def abortReturns : List Input := proceeds 11 ++ [.command .success, .proceed]

theorem abort_is_final_in_flight :
    ∃ reached aborted returned : Config, reached.state.missionItemState = .trajectory ∧
      (machine routeConfiguration).step reached .proceed = some aborted ∧
      (machine routeConfiguration).Reaches UntilActivation aborted returned ∧
      (∀ task ∈ returned.agenda, task.startsItem = false) ∧
      returned.state.missionItemState ≠ .trajectory := by
  obtain ⟨reached, reaches, aborts, trajectory, alone, runs⟩ :=
    Lib.Machine.reaches_of_run_any (machine routeConfiguration) AbortsAlone
      (initial true 1 photoMode .missing)
      (fun config => aboutToAbort config = true ∧ config.state.missionItemState = .trajectory ∧
        AbortsAlone config .proceed ∧
        (((machine routeConfiguration).step config .proceed).any fun aborted =>
          ((machine routeConfiguration).run UntilActivation aborted abortReturns).any
            fun returned => decide (returned.agenda.length ≤ config.agenda.tail.length)) = true)
      abortInFlight (by decide +kernel)
  obtain ⟨active, reason, rest, agenda⟩ := agenda_of_aboutToAbort aborts
  obtain ⟨aborted, stepped, runs⟩ := (Option.any_eq_true _ _).mp runs
  obtain ⟨returned, ran, back⟩ := (Option.any_eq_true _ _).mp runs
  have onward := Lib.Machine.reaches_of_run _ ran
  have final := abort_is_final rfl reaches agenda active alone stepped onward .refl
  exact ⟨reached, aborted, returned, trajectory, stepped, onward, final.1,
    final.2.2 (by simpa [agenda] using back)⟩

/-- The callback that is told about the activity calls `abort()`, while `onActivate` sets the
index. -/
def abortInCallback : List Input :=
  [.userEvent, .op (.setMission photoMission fun _ => none),
    .op (.setCallback .onActivityInfoChange true fun _ => none), .ret, armedStatus 23 1] ++
  proceeds 3 ++ [.op .abort]

/-- Through the onFailure action, up to the end of `onActivate`. -/
def activationGoesOn : List Input :=
  proceeds 1 ++ .ret :: proceeds 8 ++ .ret :: proceeds 5 ++
  [.command .success, .proceed, .ret, .proceed, .proceed]

/-- The abort is over, and the first item of the mission is started. -/
theorem item_started_after_abort :
    ∃ reached aborted later started : Config,
      photoConfiguration.findAction "onFailure" = some .onFailure ∧
      (machine photoConfiguration).Reaches Lib.Machine.unrestricted
        (initial true 1 photoMode .missing) reached ∧
      reached.state.isActive = true ∧ (∃ reason rest, reached.agenda = .abort reason :: rest) ∧
      (machine photoConfiguration).step reached .proceed = some aborted ∧
      (machine photoConfiguration).Reaches (fun config input => activates config input = false)
        aborted later ∧
      (∃ task ∈ later.agenda.head?, task.startsItem = true) ∧
      (machine photoConfiguration).step later .proceed = some started ∧
      ∃ task ∈ started.agenda, task.isRun = true := by
  obtain ⟨reached, reaches, aborts, runs⟩ :=
    Lib.Machine.reaches_of_run_any (machine photoConfiguration) Lib.Machine.unrestricted
      (initial true 1 photoMode .missing)
      (fun config => aboutToAbort config = true ∧
        (((machine photoConfiguration).step config .proceed).any fun aborted =>
          ((machine photoConfiguration).run (fun config input => activates config input = false)
            aborted activationGoesOn).any fun later =>
              later.agenda.head?.any Task.startsItem &&
                ((machine photoConfiguration).step later .proceed).any fun started =>
                  started.agenda.any Task.isRun) = true)
      abortInCallback (by decide)
  have aborting := agenda_of_aboutToAbort aborts
  obtain ⟨aborted, stepped, runs⟩ := (Option.any_eq_true _ _).mp runs
  obtain ⟨later, ran, starts⟩ := (Option.any_eq_true _ _).mp runs
  obtain ⟨item, runs⟩ := Bool.and_eq_true_iff.mp starts
  obtain ⟨started, stepped', run⟩ := (Option.any_eq_true _ _).mp runs
  exact ⟨reached, aborted, later, started, rfl, reaches, aborting.1, aborting.2, stepped,
    Lib.Machine.reaches_of_run _ ran, (Option.any_eq_true _ _).mp item, stepped',
    List.any_eq_true.mp run⟩

end Px4Ros2.MissionExecutor
