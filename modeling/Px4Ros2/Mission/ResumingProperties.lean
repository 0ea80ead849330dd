import Px4Ros2.Mission.MissionProgress
import Px4Ros2.Mission.ResumeState

/-! The flag of a start is right as long as the history of the items keeps account of what the index
stands for. -/

set_option autoImplicit false

namespace Px4Ros2.MissionExecutor

/-- Nothing is interrupted any more when an item begins, or another item is. -/
structure Pending (history : ItemHistory) (reached : Config) : Prop where
  head : ∀ task ∈ reached.agenda.head?, task.begins = true → history.interrupted = none ∨
    task = .runCurrentMissionItem false ∧
      history.interrupted ≠ reached.state.state.currentIndex
  tail : ∀ task ∈ reached.agenda.tail, task.begins = true → history.interrupted = none
  idle : reached.state.isActive = false → ∀ task ∈ reached.agenda, task.drives = false

/-- The lambdas that there are as long as an interrupted item is not restarted. -/
def ItemHistory.provenance (history : ItemHistory) (bound : HandlerId) : Provenance :=
  { nextItem := fun handler _ => handler < bound ∨ history.interrupted = none
    resumed := fun handler previousIndex => handler < bound ∨ history.interrupted = none ∨
      previousIndex = history.interrupted
    navigate := fun _ => True
    segment := fun handler _ => handler < bound ∨ history.interrupted = none }

/-- What was interrupted is what the index says, in memory and in the file. -/
structure Account (history : ItemHistory) (executor : MissionExecutor) : Prop where
  left : history.launched = false → history.interrupted = history.leftAt
  launched : history.launched = true → history.interrupted = none
  inactive : executor.isActive = false → history.launched = false
  unset : executor.state.currentIndex = none → history.interrupted = none
  fresh : executor.mission.items.all unflagged = true
  file : ∀ content state, executor.persistenceFile = .json content →
    PersistentState.fromJson content = some state → state.currentIndex = history.filed
  starts : ∀ start ∈ history.starts, (start.resuming = some true ↔ start.restarts = true)

structure Accounted (config : Configuration) (history : ItemHistory) (reached : Config) : Prop where
  sound : Sound reached
  inactive : Inactive config reached
  account : Account history reached.state
  pending : Pending history reached
  closures : AllFrom (history.provenance reached.state.actionHandler)
    (reached.state, reached.agenda)

variable {config : Configuration} {executor : MissionExecutor} {history : ItemHistory}
  {task : Task} {input : Input} {after : MissionExecutor × List Task} {reached : Config}

theorem Pending.of_all (all : ∀ task ∈ reached.agenda, task.begins = true →
      history.interrupted = none)
    (idle : reached.state.isActive = false → ∀ task ∈ reached.agenda, task.drives = false) :
    Pending history reached :=
  ⟨fun task member begins => .inl (all task (List.mem_of_mem_head? member) begins),
    fun task member => all task (List.mem_of_mem_tail member), idle⟩

/-- A task leaves others that begin nothing while something is interrupted. -/
theorem Pending.push {before after : MissionExecutor} {tasks rest : List Task}
    (pending : Pending history ⟨before, task :: rest⟩) (isActive : after.isActive = before.isActive)
    (begins : ∀ other ∈ tasks, other.begins = true → history.interrupted = none)
    (idle : before.isActive = false → ∀ other ∈ tasks, other.drives = false) :
    Pending history ⟨after, tasks ++ rest⟩ := by
  refine .of_all ?_ ?_
  · intro other member
    rcases List.mem_append.mp member with first | later
    · exact begins other first
    · exact pending.tail other later
  · intro stopped other member
    have was : before.isActive = false := isActive.symm.trans stopped
    rcases List.mem_append.mp member with first | later
    · exact idle was other first
    · exact pending.idle was other (List.mem_cons_of_mem _ later)

theorem Pending.calm {before after : MissionExecutor} {tasks rest : List Task}
    (pending : Pending history ⟨before, task :: rest⟩) (isActive : after.isActive = before.isActive)
    (calm : ∀ other ∈ tasks, other.drives = false) : Pending history ⟨after, tasks ++ rest⟩ := by
  refine pending.push isActive ?_ fun _ => calm
  intro other member begins
  have drives := drives_of_begins begins
  rw [calm other member] at drives
  cases drives

/-- While the executor is inactive nothing is pending at all. -/
theorem Pending.of_idle {history' : ItemHistory} {before after : MissionExecutor}
    {tasks rest : List Task} (pending : Pending history ⟨before, task :: rest⟩)
    (was : before.isActive = false) (calm : ∀ other ∈ tasks, other.drives = false) :
    Pending history' ⟨after, tasks ++ rest⟩ := by
  have none : ∀ other ∈ tasks ++ rest, other.drives = false := by
    intro other member
    rcases List.mem_append.mp member with first | later
    · exact calm other first
    · exact pending.idle was other (List.mem_cons_of_mem _ later)
  refine .of_all (fun other member begins => ?_) fun _ => none
  have drives := drives_of_begins begins
  rw [none other member] at drives
  cases drives

theorem Pending.of_interrupted {history' : ItemHistory} (pending : Pending history reached)
    (same : history'.interrupted = history.interrupted) : Pending history' reached := by
  constructor
  · rw [same]
    exact pending.head
  · rw [same]
    exact pending.tail
  · exact pending.idle

theorem Account.of_progress {before after : MissionExecutor} (account : Account history before)
    (same : SameProgress before after)
    (index : after.state.currentIndex = none → before.state.currentIndex = none) :
    Account history after := by
  refine ⟨account.left, account.launched, ?_, fun none => account.unset (index none), ?_, ?_,
    account.starts⟩
  · intro stopped
    exact account.inactive (same.isActive.symm.trans stopped)
  · rw [same.mission]
    exact account.fresh
  · rw [same.persistenceFile]
    exact account.file

/-! What is recorded. -/

theorem itemRecorder_calm (calm : task.steers config input = false) :
    (itemRecorder config).task history executor task input = history := by
  simp only [itemRecorder]
  split
  · cases calm
  · cases calm
  · cases calm
  · cases calm
  · cases calm
  · cases calm
  · rfl

theorem itemRecorder_landDetected (landed : Bool) :
    (itemRecorder config).task history executor task (.landDetected landed) = history := by
  simp only [itemRecorder]

theorem resuming_of_set {json json' : Json}
    (set : json.set "internal:resuming" (.bool true) = some json') :
    (⟨json'⟩ : ActionArguments).resuming = some true := by
  unfold Json.set at set
  split at set
  · cases set
    rfl
  · cases set
    simp [ActionArguments.resuming, ActionArguments.contains, ActionArguments.at?,
      Json.contains, Json.at?, Lib.Entries.find?_insert, Json.getBool]
  · cases set

theorem runArguments_of_modeExecutor {before : MissionExecutor}
    {tasks : List (ModeExecutorBase.Task ModeCallback)} :
    runArguments (before, tasks.map Task.modeExecutor) = none := by
  cases tasks <;> rfl

theorem runArguments_runMode (modeId : ModeID) (onCompleted : Closure)
    (onFailure : Option Closure) :
    runArguments (executor.runMode modeId onCompleted onFailure) = none := by
  unfold runMode
  split
  · rfl
  · exact runArguments_of_modeExecutor

/-- Only an action item runs, with its own arguments or with the flag. -/
theorem runArguments_runCurrentMissionItem {resuming : Bool} {arguments : ActionArguments}
    (runs : runArguments (executor.runCurrentMissionItem config resuming) = some arguments) :
    ∃ index item, executor.state.currentIndex = some index ∧
      executor.mission.item? index = some (.action item) ∧
      resumingArguments resuming item.arguments = some arguments := by
  unfold runCurrentMissionItem at runs
  split at runs
  · rw [runArguments_runMode] at runs
    cases runs
  · rename_i index current
    split at runs
    · split at runs
      · cases runs
      · rw [runArguments_runMode] at runs
        cases runs
    · rename_i item found
      cases item with
      | navigation waypoint =>
          simp only [runMissionItem, runTrajectory] at runs
          split at runs
          · cases runs
          · split at runs <;> cases runs
      | action item =>
          refine ⟨index, item, current, found, ?_⟩
          simp only [runMissionItem] at runs
          split at runs
          · cases runs
          · rename_i passed resumes
            simp only [runAction] at runs
            split at runs
            · cases runs
            · split at runs
              · cases runs
              · cases runs
                exact resumes

/-- The flag of a start is right when a resumed item is the interrupted one, and another item is
not. -/
theorem start_exact {resuming : Bool} {start : ItemStart}
    (all : executor.mission.items.all unflagged = true)
    (resumed : resuming = true → executor.atAction = true →
      history.interrupted = executor.state.currentIndex)
    (begins : resuming = false → history.interrupted = none ∨
      history.interrupted ≠ executor.state.currentIndex)
    (member : start ∈ (history.start config executor resuming).starts) :
    start ∈ history.starts ∨ (start.resuming = some true ↔ start.restarts = true) := by
  simp only [ItemHistory.start, List.mem_append, Option.mem_toList,
    Option.bind_eq_some_iff, Option.map_eq_some_iff] at member
  obtain old | ⟨arguments, runs, index, current, rfl⟩ := member
  · exact .inl old
  · obtain ⟨index', item, current', found, passed⟩ := runArguments_runCurrentMissionItem runs
    obtain rfl : index = index' := Option.some.inj (current.symm.trans current')
    refine .inr ?_
    cases resuming with
    | true =>
        have action : executor.atAction = true := by
          simp [atAction, current, found]
        obtain ⟨json, set, rfl⟩ := Option.map_eq_some_iff.mp passed
        simp [resumed rfl action, current, resuming_of_set set]
    | false =>
        cases passed
        have unmarked : item.arguments.resuming ≠ some true := by
          have member : MissionItem.action item ∈ executor.mission.items := by
            rw [item?_of_nonneg (range_of_item? found).1] at found
            exact List.mem_of_getElem? found
          simpa [unflagged] using List.all_eq_true.mp all _ member
        have other : history.interrupted ≠ some index := by
          obtain none | other := begins rfl
          · simp [none]
          · rwa [current] at other
        simp [unmarked, other]

/-! What the account is after a step that is recorded. -/

theorem Account.start (account : Account history executor) {resuming : Bool}
    (active : executor.isActive = true)
    (resumed : resuming = true → executor.atAction = true →
      history.interrupted = executor.state.currentIndex)
    (begins : resuming = false → history.interrupted = none ∨
      history.interrupted ≠ executor.state.currentIndex) :
    Account (history.start config executor resuming)
      (executor.runCurrentMissionItem config resuming).1 := by
  have same := @runCurrentMissionItem_same config executor resuming
  constructor
  case left => intro launched; cases launched
  case launched => exact fun _ => rfl
  case inactive =>
    intro stopped
    rw [same.isActive, active] at stopped
    cases stopped
  case unset => exact fun _ => rfl
  case fresh =>
    rw [same.mission]
    exact account.fresh
  case file =>
    rw [same.persistenceFile]
    exact account.file
  case starts =>
    intro start member
    obtain old | exact' := start_exact account.fresh resumed begins member
    · exact account.starts start old
    · exact exact'

theorem Account.complete (account : Account history executor) :
    Account (history.complete config executor) executor :=
  ⟨account.left, account.launched, account.inactive, account.unset, account.fresh,
    account.file, account.starts⟩

theorem atAction_of_none (current : executor.state.currentIndex = none) :
    executor.atAction = false := by
  simp [atAction, current]

theorem Account.interrupt (account : Account history executor)
    (runs : executor.missionDone = false → executor.atAction = true →
      history.running.or history.interrupted = executor.state.currentIndex) :
    Account (history.interrupt executor) (executor.onDeactivate config).1 := by
  obtain ⟨mission, index, file, _⟩ := @onDeactivate_kept config executor
  have left : (history.interrupt executor).interrupted = (history.interrupt executor).leftAt := by
    simp only [ItemHistory.interrupt]
    split
    · rfl
    · rename_i going
      split
      · rename_i action
        exact runs (by simpa using going) action
      · rfl
  constructor
  case left => exact fun _ => left
  case launched => intro launched; cases launched
  case inactive => exact fun _ => rfl
  case unset =>
    intro none
    rw [left]
    exact index.symm.trans none
  case fresh =>
    rw [mission]
    exact account.fresh
  case file =>
    obtain same | cleared := file
    · rw [same]
      exact account.file
    · rw [cleared]
      intro content state other
      cases other
  case starts => exact account.starts

theorem Account.save (account : Account history executor) (range : executor.InRange)
    (stopped : executor.isActive = false)
    (left : config.persistence = true → executor.atAction = true →
      executor.state.currentIndex = history.leftAt) :
    Account (history.save config executor) (executor.savePersistentState config) := by
  unfold ItemHistory.save
  split
  · rename_i persistence
    have filed : (if executor.atAction = true then history.interrupted
        else executor.state.currentIndex) = executor.state.currentIndex := by
      split
      · rename_i action
        have interrupted := account.left (account.inactive stopped)
        exact interrupted.trans (left persistence action).symm
      · rfl
    obtain ⟨file, saved, kind⟩ := @savePersistentState_file config executor persistence
    rw [saved]
    refine ⟨account.left, account.launched, account.inactive, account.unset, account.fresh, ?_,
      account.starts⟩
    intro content state same read
    obtain missing | json := kind
    · rw [missing] at same
      cases same
    · rw [json] at same
      cases same
      obtain ⟨state', read', current, _⟩ :=
        PersistentState.fromJson_toJson executor.state range.index
      obtain rfl : state = state' := Option.some.inj (read.symm.trans read')
      exact current.trans filed.symm
  · rename_i none
    simpa [savePersistentState, none] using account

theorem Account.load (account : Account history executor) (stopped : executor.isActive = false)
    {mission : Mission} {canRun : CanRun} (unmarked : mission.items.all unflagged = true)
    (current : (executor.setMission config canRun mission).atAction = true →
      history.outdated = false) :
    Account (history.load (executor.setMission config canRun mission))
      (executor.setMission config canRun mission) := by
  obtain ⟨taken, state⟩ := @setMission_state config executor stopped canRun mission
  have only := @stateOnly_setMission config executor canRun mission
  have launched := account.inactive stopped
  have left : (history.load (executor.setMission config canRun mission)).interrupted =
      (history.load (executor.setMission config canRun mission)).leftAt := by
    simp only [ItemHistory.load]
    split
    · rename_i action
      rw [current action]
      cases loaded : { executor with mission }.tryLoadPersistentState config with
      | none =>
          rw [loaded] at state
          rw [atAction_of_none (by rw [state]; rfl)] at action
          cases action
      | some read =>
          rw [loaded] at state
          unfold tryLoadPersistentState at loaded
          split at loaded
          · obtain ⟨content, _, file, decoded, _⟩ := tryLoad_accepted loaded
            rw [state]
            exact (account.file content read file decoded).symm
          · cases loaded
    · rfl
  constructor
  case left => exact fun _ => left
  case launched =>
    intro launched'
    rw [show history.launched = true from launched'] at launched
    cases launched
  case inactive => exact fun _ => launched
  case unset =>
    intro none
    rw [left]
    exact none
  case fresh =>
    rw [taken]
    exact unmarked
  case file =>
    rw [show (executor.setMission config canRun mission).persistenceFile = executor.persistenceFile
      from only.persistenceFile]
    exact account.file
  case starts => exact account.starts

theorem Account.reset (account : Account history executor) (stopped : executor.isActive = false) :
    Account { history with leftAt := none, interrupted := none } executor.resetMission := by
  have reset : executor.resetMission = { executor with
      mission := {}
      hasValidMission := false
      missionErrors := ["No mission"] }.resetMissionState := by
    simp [resetMission, stopped]
  rw [reset]
  exact ⟨fun _ => rfl, fun _ => rfl, fun _ => account.inactive stopped, fun _ => rfl, rfl,
    account.file, account.starts⟩

/-! Steps and runs. -/

/-- The history of a step of an active executor keeps what is interrupted, or nothing is. -/
structure Recorded (config : Configuration) (history : ItemHistory) (executor : MissionExecutor)
    (history' : ItemHistory) (next : Config) : Prop where
  account : Account history' next.state
  pending : Pending history' next
  interrupted : next.state.isActive = true →
    history'.interrupted = history.interrupted ∨ history'.interrupted = none

theorem Recorded.same {rest tasks : List Task} {state : MissionExecutor}
    (account : Account history state) (pending : Pending history ⟨state, tasks ++ rest⟩) :
    Recorded config history executor history ⟨state, tasks ++ rest⟩ :=
  ⟨account, pending, fun _ => .inl rfl⟩

theorem recorded_exec {rest : List Task}
    (accounted : Accounted config history ⟨executor, task :: rest⟩)
    (keeps : KeepsAccount config history ⟨executor, task :: rest⟩ input)
    (executed : executor.exec config task input = some after) :
    Recorded config history executor ((itemRecorder config).task history executor task input)
      ⟨after.1, after.2 ++ rest⟩ := by
  obtain ⟨sound, stopped, account, pending, closures⟩ := accounted
  obtain ⟨range, keeps⟩ := keeps
  have head := pending.head task rfl
  have active : task.drives = true → executor.isActive = true := by
    intro drives
    cases active : executor.isActive with
    | true => rfl
    | false =>
        rw [pending.idle active task List.mem_cons_self] at drives
        cases drives
  cases exec_course executed with
  | again _ landed =>
      rw [itemRecorder_landDetected]
      exact .same (account.of_progress ⟨rfl, rfl, rfl⟩ id)
        ⟨pending.head, pending.tail, pending.idle⟩
  | calm calm same =>
      rw [itemRecorder_calm calm]
      refine .same (account.of_progress same.course.progress fun none => ?_)
        (pending.calm same.course.isActive same.tasks)
      rw [← same.course.currentIndex]
      exact none
  | onActivate =>
      obtain ⟨mission, file, index, begins⟩ := @onActivate_onward executor
      have activated : executor.onActivate.1.isActive = true := onActivate_isActive
      refine .same ⟨account.left, account.launched, ?_, fun none => account.unset (index none), ?_,
        ?_, account.starts⟩ (.of_all ?_ ?_)
      · intro inactive
        rw [activated] at inactive
        cases inactive
      · rw [mission]
        exact account.fresh
      · rw [file]
        exact account.file
      · intro other member begins'
        rcases List.mem_append.mp member with first | later
        · exact account.unset (begins other first begins')
        · exact pending.tail other later begins'
      · intro inactive
        rw [show executor.onActivate.1.isActive = false from inactive] at activated
        cases activated
  | onDeactivate reason =>
      refine ⟨account.interrupt keeps, ?_, ?_⟩
      · have modeExecutor := isModeExecutor_of_status sound.ordered rfl rfl
        have none : ∀ other ∈ (executor.onDeactivate config).2 ++ rest,
            other.drives = false := by
          intro other member
          rcases List.mem_append.mp member with first | later
          · exact onDeactivate_kept.2.2.2 other first
          · have kind := modeExecutor other later
            cases other with
            | modeExecutor => rfl
            | _ => cases kind
        refine .of_all (fun other member begins => ?_) fun _ => none
        have drives := drives_of_begins begins
        rw [none other member] at drives
        cases drives
      · intro active
        rw [show (executor.onDeactivate config).1.isActive = false from onDeactivate_isActive]
          at active
        cases active
  | onActivateRun startFromBeginning =>
      have begins : startFromBeginning = true → history.interrupted = none := fun first =>
        (head first).resolve_right (by simp)
      have starts := @startMission_onward config executor startFromBeginning
      unfold MissionExecutor.onActivateRun
      split
      · refine .same account (pending.push rfl (fun other member first => ?_)
          (fun was => absurd (active rfl) (by simp [was])))
        rcases List.mem_pair.mp member with rfl | rfl
        · cases first
        · exact begins first
      · refine .same (account.of_progress starts.1 fun none => starts.2.1 ▸ none)
          (pending.push starts.1.isActive (fun other member first => ?_)
            (fun was => absurd (active rfl) (by simp [was])))
        exact begins (starts.2.2 other member first)
  | onActivatedReturned previousHandler startFromBeginning =>
      have begins : startFromBeginning = true → history.interrupted = none := fun first =>
        (head first).resolve_right (by simp)
      have starts := @startMission_onward config executor startFromBeginning
      unfold MissionExecutor.onActivatedReturned
      split
      · refine .same (account.of_progress starts.1 fun none => starts.2.1 ▸ none)
          (pending.push starts.1.isActive (fun other member first => ?_)
            (fun was => absurd (active rfl) (by simp [was])))
        exact begins (starts.2.2 other member first)
      · exact .same account (pending.calm rfl (by simp))
  | runNextMissionItem =>
      have begins : history.interrupted = none := (head rfl).resolve_right (by simp)
      obtain ⟨index, next⟩ : ∃ index, executor.runNextMissionItem =
          ((executor.setCurrentMissionIndex index).1,
            (executor.setCurrentMissionIndex index).2 ++ [.runCurrentMissionItem false]) :=
        ⟨_, rfl⟩
      obtain ⟨same, current⟩ := @progress_setCurrentMissionIndex executor index
      rw [next]
      refine .same (account.of_progress same fun unset => ?_)
        (pending.push same.isActive (fun _ _ _ => begins)
          (fun was => absurd (active rfl) (by simp [was])))
      rw [current] at unset
      cases unset
  | runCurrentMissionItem resuming =>
      have going := active rfl
      have same := @runCurrentMissionItem_same config executor resuming
      refine ⟨account.start going ?_ ?_, .of_all (fun _ _ _ => rfl) ?_, fun _ => .inr rfl⟩
      · rintro rfl action
        obtain ⟨current, launched⟩ := keeps action
        exact (account.left launched).trans current.symm
      · rintro rfl
        obtain none | ⟨_, other⟩ := head rfl
        · exact .inl none
        · exact .inr other
      · intro inactive
        rw [← same.isActive, show (executor.runCurrentMissionItem config resuming).1.isActive = false
          from inactive] at going
        cases going
  | savePersistentState =>
      have inactive := stopped.saves List.mem_cons_self
      obtain ⟨file, saved⟩ := @savePersistentState_eq config executor
      have interrupted : (history.save config executor).interrupted = history.interrupted := by
        unfold ItemHistory.save
        split <;> rfl
      refine ⟨account.save range inactive keeps, ?_, fun _ => .inl interrupted⟩
      exact (pending.calm (by rw [saved]) (by simp)).of_interrupted interrupted
  | nextItem handler start =>
      simp only [itemRecorder]
      cases valid : executor.isValid handler with
      | true =>
          have going := not_stopped_of_valid sound stopped valid fun bound older => older
          have completed : history.interrupted = none := by
            obtain older | none := closures.tasks _ List.mem_cons_self
            · rw [isValid_of_lt sound.valid older] at valid
              cases valid
            · exact none
          have next : Pending history ⟨executor, [.runNextMissionItem] ++ rest⟩ :=
            pending.push rfl (fun _ _ _ => completed) (fun was => absurd going (by simp [was]))
          exact ⟨account.complete, next.of_interrupted rfl, fun _ => .inl rfl⟩
      | false => exact .same account (pending.calm rfl (by simp))
  | resumed handler previousIndex =>
      obtain ⟨same, index, invalid, begins⟩ := @resumed_onward executor handler previousIndex
      have account' : Account history (executor.resumed handler previousIndex).1 :=
        account.of_progress same fun unset => index ▸ unset
      cases valid : executor.isValid handler with
      | true =>
          have going := not_stopped_of_valid sound stopped valid fun bound older => older
          have known : history.interrupted = none ∨ previousIndex = history.interrupted := by
            obtain older | known := closures.tasks _ List.mem_cons_self
            · rw [isValid_of_lt sound.valid older] at valid
              cases valid
            · exact known
          have idle : executor.isActive = false →
              ∀ other ∈ (executor.resumed handler previousIndex).2, other.drives = false :=
            fun was => absurd going (by simp [was])
          refine .same account' ?_
          by_cases interrupted : history.interrupted = none
          · exact pending.push same.isActive (fun _ _ _ => interrupted) idle
          · by_cases unchanged : previousIndex = executor.state.currentIndex
            · exact pending.push same.isActive
                (fun other member first => absurd unchanged (begins other member first).1) idle
            · have changed : executor.resumed handler previousIndex =
                  (executor.setState { executor.state with continuousActions := .empty },
                    [.runCurrentMissionItem false]) := by
                simp [MissionExecutor.resumed, valid, unchanged]
              rw [changed]
              refine ⟨fun other member _ => ?_, pending.tail, fun was => ?_⟩
              · cases member
                refine .inr ⟨rfl, fun same => unchanged ?_⟩
                exact (known.resolve_left interrupted).trans same
              · rw [show executor.isActive = false from was] at going
                cases going
      | false =>
          refine .same account' (pending.calm same.isActive ?_)
          rw [invalid valid]
          simp
  | segment handler endIndex index =>
      simp only [itemRecorder, segmentReached]
      cases valid : executor.isValid handler with
      | true =>
          have going := not_stopped_of_valid sound stopped valid fun bound older => older
          have launched : history.interrupted = none := by
            obtain older | none := closures.tasks _ List.mem_cons_self
            · rw [isValid_of_lt sound.valid older] at valid
              cases valid
            · exact none
          obtain ⟨same, current⟩ := @progress_setCurrentMissionIndex executor (index + 1)
          refine .same (account.of_progress same fun unset => ?_)
            (pending.push same.isActive (fun _ _ _ => launched)
              (fun was => absurd going (by simp [was])))
          cases current.symm.trans unset
      | false => exact .same account (pending.calm rfl (by simp))
  | onResume name handler arguments onCompleted action =>
      obtain ⟨same, index, calm⟩ := @runOnResume_onward config executor handler arguments onCompleted
      exact .same (account.of_progress same index) (pending.calm same.isActive calm)
  | setIndex inRun reference handler index denoted =>
      obtain ⟨same, index, calm⟩ := @handlerOp_onward config executor handler
        (.setCurrentMissionIndex index)
      refine .same (account.of_progress same index) (pending.calm same.isActive ?_)
      intro other member
      rcases List.mem_append.mp member with first | last
      · exact calm other first
      · rw [List.mem_singleton.mp last]
        rfl
  | setMission inRun mission canRun =>
      simp only [itemRecorder]
      cases going : executor.isActive with
      | true =>
          have refused : executor.setMission config canRun mission = executor := if_pos going
          rw [refused]
          exact .same account (pending.calm rfl (by simp))
      | false =>
          obtain ⟨unmarked, current⟩ := keeps going
          have isActive := (@stateOnly_setMission config executor canRun mission).isActive
          refine ⟨account.load going unmarked current, pending.of_idle going (by simp),
            fun active => ?_⟩
          rw [show (executor.setMission config canRun mission).isActive = true from active, going]
            at isActive
          cases isActive
  | resetMission inRun =>
      simp only [itemRecorder]
      cases going : executor.isActive with
      | true =>
          have refused : executor.resetMission = executor := if_pos going
          rw [refused]
          exact .same account (pending.calm rfl (by simp))
      | false =>
          exact ⟨account.reset going, pending.of_idle going (by simp), fun _ => .inr rfl⟩

/-- New lambdas belong to an activation with nothing interrupted, or resume what is. -/
theorem admits_exec {rest : List Task}
    (accounted : Accounted config history ⟨executor, task :: rest⟩)
    (keeps : KeepsAccount config history ⟨executor, task :: rest⟩ .proceed)
    (called : ∀ startFromBeginning, task = .onActivateRun startFromBeginning →
      executor.callbacks.onActivated = false) :
    Admits (((itemRecorder config).task history executor task .proceed).provenance
      executor.actionHandler) config executor task := by
  have head := accounted.pending.head task rfl
  have resumes : ∀ startFromBeginning, task.begins = startFromBeginning →
      task ≠ .runCurrentMissionItem false →
      (startFromBeginning = false → executor.state.currentIndex = history.leftAt) →
      history.interrupted = none ∨ executor.state.currentIndex = history.interrupted := by
    intro startFromBeginning begins other current
    cases startFromBeginning with
    | true => exact .inl ((head begins).resolve_right fun same => other same.1)
    | false =>
        cases launched : history.launched with
        | true => exact .inl (accounted.account.launched launched)
        | false => exact .inr ((current rfl).trans (accounted.account.left launched).symm)
  refine ⟨?_, ?_, fun _ _ _ _ _ _ _ _ => trivial⟩
  · rintro ⟨resuming, rfl⟩ _
    exact ⟨.inr rfl, fun _ => .inr rfl⟩
  · rintro ⟨startFromBeginning, rfl | ⟨previous, rfl, valid⟩⟩ _
    · refine .inr (resumes startFromBeginning rfl (by simp) fun first => ?_)
      exact keeps.2 (by simp [resumesNow, first, called _ rfl])
    · refine .inr (resumes startFromBeginning rfl (by simp) fun first => ?_)
      exact keeps.2 (by simp [resumesNow, first, valid])

theorem provenance_within {history' : ItemHistory} {bound newer : HandlerId} (le : bound ≤ newer)
    (same : history'.interrupted = history.interrupted ∨ history'.interrupted = none) :
    (history.provenance bound).Within (history'.provenance newer) := by
  obtain same | none := same
  · constructor
    case nextItem | segment =>
      rintro handler _ (older | interrupted)
      · exact .inl (older.trans_le le)
      · exact .inr (same.trans interrupted)
    case resumed =>
      rintro handler previous (older | interrupted | current)
      · exact .inl (older.trans_le le)
      · exact .inr (.inl (same.trans interrupted))
      · exact .inr (.inr (current.trans same.symm))
    case navigate => exact fun _ _ => trivial
  · exact ⟨fun _ _ _ => .inr none, fun _ _ _ => .inr (.inl none), fun _ _ => trivial,
      fun _ _ _ => .inr none⟩

theorem olderThan_within_provenance {bound newer : HandlerId} (le : bound ≤ newer) :
    (olderThan bound).Within (history.provenance newer) :=
  ⟨fun _ _ older => .inl (lt_of_lt_of_le older le), fun _ _ older => .inl (lt_of_lt_of_le older le),
    fun _ _ => trivial, fun _ _ older => .inl (lt_of_lt_of_le older le)⟩

theorem closures_idle {next : Config} (stopped : Inactive config next)
    (inactive : next.state.isActive = false) :
    AllFrom (history.provenance next.state.actionHandler) (next.state, next.agenda) := by
  obtain ⟨bound, stopped⟩ := stopped.stopped inactive
  exact stopped.closures.mono (olderThan_within_provenance stopped.renewed)

theorem accounted_next {before next : Config} (accounted : Accounted config history before)
    (keeps : KeepsAccount config history before input)
    (stepped : (machine config).step before input = some next) :
    Accounted config ((itemRecorder config).record history before input) next := by
  have sound := sound_next accounted.sound stepped
  have inactive := inactive_next accounted.sound accounted.inactive stepped
  have le := actionHandler_le_of_step accounted.sound.made stepped
  rcases before with ⟨executor, agenda⟩
  obtain ⟨empty, state, tasks, taken, rfl⟩ | ⟨task, rest, state, tasks, shape, executed, rfl⟩ :=
    Lib.Machine.step_cases stepped
  · obtain rfl : agenda = [] := empty
    have calm := idle_calm taken
    have closures := allFrom_step accounted.closures (by simp) stepped
    refine ⟨sound, inactive, accounted.account.of_progress calm.course.progress fun none => ?_,
      .of_all (fun other member begins => ?_) (fun _ => calm.tasks),
      closures.mono (provenance_within le (.inl rfl))⟩
    · exact calm.course.currentIndex.symm.trans none
    · have drives := drives_of_begins begins
      rw [calm.tasks other member] at drives
      cases drives
  · obtain rfl : agenda = task :: rest := shape
    obtain ⟨account, pending, interrupted⟩ := recorded_exec accounted keeps executed
    refine ⟨sound, inactive, account, pending, ?_⟩
    cases active : state.isActive with
    | false => exact closures_idle inactive active
    | true =>
        refine AllFrom.mono (provenance_within le (.inl rfl)) (allFrom_exec_within
          accounted.closures (provenance_within (le_refl _) (interrupted active)) ?_ executed)
        rintro rfl called
        exact admits_exec accounted keeps called

variable {registered : Bool} {id : UInt8} {ownedMode : ModeBase}

theorem accounted_initial {file : PersistenceFile} {history : ItemHistory}
    (fresh : history.launched = false ∧ history.interrupted = none ∧ history.leftAt = none)
    (filed : ∀ content state, file = .json content →
      PersistentState.fromJson content = some state → state.currentIndex = history.filed)
    (starts : ∀ start ∈ history.starts, (start.resuming = some true ↔ start.restarts = true)) :
    Accounted config history (initial registered id ownedMode file) := by
  obtain ⟨launched, interrupted, left⟩ := fresh
  have sound := @sound_initial registered id ownedMode file
  refine ⟨sound, inactive_initial, ⟨?_, fun _ => interrupted, fun _ => launched, fun _ => interrupted,
    rfl, filed, starts⟩, .of_all (by simp [initial]) (by simp [initial]), ?_⟩
  · exact fun _ => interrupted.trans left.symm
  · exact closures_idle (@inactive_initial config registered id ownedMode file) rfl

/-- When every deactivation finds the current action item started and not completed, the index is
left alone until the mission goes on, which it does once, the arguments do not carry the flag and
the file is up to date, then an action item sees the flag exactly if it is the interrupted item that
is restarted, in this process or in a later one. -/
theorem resuming_flag_exact
    {reached : Lib.Config (Lib.Recorded Config ItemHistory) Empty}
    (reaches : (((machine config).restartable fun startup executor =>
        executor.restartProcess startup).recorded
        ((itemRecorder config).restartable ItemHistory.restarted)).Reaches
      (Lib.Machine.processGuard (KeepsAccount config))
      ⟨⟨initial registered id ownedMode .missing, {}⟩, []⟩ reached) :
    ∀ start ∈ reached.state.history.starts,
      (start.resuming = some true ↔ start.restarts = true) := by
  have accounted : Accounted config reached.state.history reached.state.state := by
    refine Lib.Machine.Reaches.process_invariant (Accounted config) ?_ ?_ ?_ reaches
    · exact accounted_initial ⟨rfl, rfl, rfl⟩ (by simp) (by simp)
    · exact fun _ _ _ _ accounted keeps stepped => accounted_next accounted keeps stepped
    · intro history reached startup accounted
      exact accounted_initial ⟨rfl, rfl, rfl⟩ accounted.account.file accounted.account.starts
  exact accounted.account.starts

/-- The second survey is interrupted, and the process ends. The next one resumes it. -/
def surveyResumed : List (Lib.ProcessInput Input Startup) :=
  ([Input.userEvent, .op (.setMission surveyMission fun _ => none), .ret, armedStatus 23 1] ++
    proceeds 7 ++ [Input.op (.call (.nextItem 0 0))] ++ proceeds 5 ++
    [Input.ret, .ret] ++ proceeds 8 ++ armedStatus 3 0 :: proceeds 16 ++ .ret ::
    proceeds 9).map .own ++
  .restart ⟨true, 2, surveyMode⟩ ::
  ([Input.userEvent, .op (.setMission surveyMission fun _ => none), .ret, armedStatus 23 2] ++
    proceeds 9).map .own

theorem resuming_flag_exact_of_survey :
    ∃ reached : Lib.Config (Lib.Recorded Config ItemHistory) Empty,
      reached.state.history.starts =
        [⟨0, some false, false⟩, ⟨1, some false, false⟩, ⟨1, some true, true⟩] ∧
      ∀ start ∈ reached.state.history.starts,
        (start.resuming = some true ↔ start.restarts = true) := by
  obtain ⟨reached, reaches, starts⟩ :=
    Lib.Machine.reaches_of_run_any
      (((machine surveyConfiguration).restartable fun startup executor =>
        executor.restartProcess startup).recorded
        ((itemRecorder surveyConfiguration).restartable ItemHistory.restarted))
      (Lib.Machine.processGuard (KeepsAccount surveyConfiguration))
      ⟨⟨initial true 1 surveyMode .missing, {}⟩, []⟩
      (fun config => config.state.history.starts =
        [⟨0, some false, false⟩, ⟨1, some false, false⟩, ⟨1, some true, true⟩])
      surveyResumed (by decide +kernel)
  exact ⟨reached, starts, resuming_flag_exact reaches⟩

/-- The user aborts the mission before its first item is started. -/
def abortedOnActivation : List (Lib.ProcessInput Input Startup) :=
  ([Input.userEvent, .op (.setCallback .onActivated true fun _ => none),
      .op (.setMission surveyMission fun _ => none), .ret, armedStatus 23 1] ++
    proceeds 4 ++ [Input.op .abort] ++ proceeds 10 ++ [Input.ret] ++ proceeds 4 ++
    [Input.command .success] ++ proceeds 1 ++ [Input.ret] ++ proceeds 5 ++
    armedStatus 3 0 :: proceeds 17 ++ [Input.ret] ++ proceeds 6 ++
    armedStatus 23 1 :: proceeds 4 ++ [Input.ret] ++ proceeds 7).map .own

/-- The first item is flagged as resumed though it never ran. -/
theorem resuming_before_first_start :
    ∃ reached : Lib.Config (Lib.Recorded Config ItemHistory) Empty,
      (((machine surveyConfiguration).restartable fun startup executor =>
        executor.restartProcess startup).recorded
        ((itemRecorder surveyConfiguration).restartable ItemHistory.restarted)).Reaches
        Lib.Machine.unrestricted ⟨⟨initial true 1 surveyMode .missing, {}⟩, []⟩ reached ∧
      reached.state.history.starts = [⟨0, some true, false⟩] :=
  Lib.Machine.reaches_of_run_any _ _ _ _ abortedOnActivation (by decide)

end Px4Ros2.MissionExecutor
