import Px4Ros2.Mission.ResumeState
import Px4Ros2.Mission.StoredActions
import Px4Ros2.Mission.TaskSources

/-! onResume is handed what it stored last, as long as the mission goes on between two
interruptions. -/

set_option autoImplicit false

namespace Px4Ros2.MissionExecutor

/-- The stored state that the mission has to go on with. -/
def ResumeHistory.due (history : ResumeHistory) : Option Json :=
  if history.wentOn then none else history.stored

/-- The lambdas that there are as long as the mission did not go on. -/
def ResumeHistory.provenance (history : ResumeHistory) (bound : HandlerId) : Provenance :=
  { nextItem := fun _ _ => True
    resumed := fun handler _ => handler < bound ∨ history.wentOn = true
    navigate := fun _ => True
    segment := fun _ _ => True }

/-- The arguments of a `run` that asks onResume to resume. -/
@[simp] def Task.askedWith : Task → Option ActionArguments
  | .run name _ arguments _ => if asksToResume name arguments then some arguments else none
  | _ => none

variable {config : Configuration} {executor : MissionExecutor} {history : ResumeHistory}
  {task : Task} {input : Input} {after : MissionExecutor × List Task} {reached : Config}

/-! What is recorded. -/

theorem resumeRecorder_landDetected (landed : Bool) :
    (resumeRecorder config).task history executor task (.landDetected landed) = history := by
  simp only [resumeRecorder]

theorem resumeRecorder_calm (calm : task.stores config input = false) :
    ((resumeRecorder config).task history executor task input).stored = history.stored ∧
      ((resumeRecorder config).task history executor task input).wentOn = history.wentOn := by
  simp only [resumeRecorder]
  split
  · cases calm
  · split <;> exact ⟨rfl, rfl⟩
  · cases calm
  · cases calm
  · split <;> exact ⟨rfl, rfl⟩
  · cases calm
  · cases calm
  · cases calm
  · exact ⟨rfl, rfl⟩

/-- A run that is recorded is one that asks. -/
theorem resumeRecorder_runs {run : ResumeRun}
    (recorded : run ∈ ((resumeRecorder config).task history executor task input).runs) :
    run ∈ history.runs ∨ run.stored = history.stored ∧ run.arguments ∈ task.askedWith := by
  have loaded : ∀ after, (history.load after).runs = history.runs := fun _ => rfl
  simp only [resumeRecorder] at recorded
  split at recorded
  · exact .inl recorded
  · split at recorded <;> exact .inl recorded
  · split at recorded <;> exact .inl recorded
  · split at recorded <;> exact .inl recorded
  · split at recorded
    · rename_i asks
      rcases List.mem_append.mp recorded with old | new
      · exact .inl old
      · rw [List.mem_singleton.mp new]
        exact .inr ⟨rfl, by simp [asks]⟩
    · exact .inl recorded
  · split at recorded <;> exact .inl recorded
  · split at recorded <;> exact .inl recorded
  · split at recorded <;> exact .inl recorded
  · exact .inl recorded

/-- What onResume gets when it is asked to resume. -/
def Hands (stored : Option Json) (arguments : ActionArguments) : Prop :=
  (stored.getD .null).set "action" (.string "resume") = some arguments.json

/-- The store and the file hold what onResume stored last, until the mission goes on. -/
structure ResumeKept (config : Configuration) (history : ResumeHistory) (reached : Config) :
    Prop where
  sound : Sound reached
  inactive : Inactive config reached
  inStep : InStep reached
  states : reached.state.state.resumeStates = history.due.toList
  idle : reached.state.isActive = false → history.wentOn = false
  startsOnce : StartsOnce reached
  waits : ∀ task ∈ reached.agenda, task.starts = true → history.wentOn = false
  closures : AllFrom (history.provenance reached.state.actionHandler)
    (reached.state, reached.agenda)
  asks : ∀ task ∈ reached.agenda, ∀ arguments ∈ task.askedWith, Hands history.stored arguments
  file : ∀ content state, reached.state.persistenceFile = .json content →
    PersistentState.fromJson content = some state → state.resumeStates = history.filed.toList
  runs : ∀ run ∈ history.runs, Hands run.stored run.arguments

/-- The state is taken out of the store, when there is at most one. -/
theorem getOnResumeStateAndClear_of {due : Option Json}
    (states : executor.state.resumeStates = due.toList) :
    executor.getOnResumeStateAndClear.2 = due.getD .null ∧
      executor.getOnResumeStateAndClear.1.state.resumeStates = [] := by
  have decided : (fun entry : ActionID × ActionState => decide (entry.2.name = "onResume")) =
      fun entry => entry.2.isFor "onResume" := rfl
  unfold getOnResumeStateAndClear
  rw [decided]
  cases due with
  | none =>
      have empty : Lib.Entries.select (ActionState.isFor "onResume")
          executor.state.continuousActions.entries = [] := List.map_eq_nil_iff.mp states
      have missing : executor.state.continuousActions.entries.find?
          (fun entry => entry.2.isFor "onResume") = none := by
        rw [List.find?_eq_none]
        intro entry member
        rw [Lib.Entries.select_eq_nil_iff.mp empty entry member]
        exact Bool.false_ne_true
      rw [missing]
      exact ⟨rfl, states⟩
  | some state =>
      obtain ⟨action, single, rfl⟩ := List.map_eq_singleton_iff.mp states
      obtain ⟨id, found, erased⟩ := Lib.Entries.find?_of_select single
      rw [found]
      refine ⟨rfl, ?_⟩
      unfold PersistentState.resumeStates
      exact congrArg (List.map _) erased

/-! Who asks onResume to resume. -/

theorem at?_set {json after value : Json} {key other : String} (set : json.set key value = some after)
    (different : other ≠ key) : after.at? other = json.at? other := by
  unfold Json.set at set
  split at set
  · cases set
    simp [Json.at?, Lib.Entries.find?, different]
  · cases set
    simp [Json.at?, Lib.Entries.find?_insert, different]
  · cases set

/-- The flag of a resumed item leaves the other arguments alone. -/
theorem asksToResume_of_resuming {resuming : Bool} {name : String}
    {arguments flagged : ActionArguments}
    (flag : resumingArguments resuming arguments = some flagged) :
    asksToResume name flagged = asksToResume name arguments := by
  unfold resumingArguments at flag
  split at flag
  · obtain ⟨json, set, rfl⟩ := Option.map_eq_some_iff.mp flag
    have kept := at?_set set (show "action" ≠ "internal:resuming" by decide)
    simp only [asksToResume, ActionArguments.at?, kept]
  · cases flag
    rfl

theorem startMission_clears {due : Option Json} (states : executor.state.resumeStates = due.toList)
    (startFromBeginning : Bool) :
    (executor.startMission config startFromBeginning).1.state.resumeStates = [] := by
  obtain ⟨_, cleared⟩ := getOnResumeStateAndClear_of states
  unfold startMission
  split
  · exact storedBy_of_empty rfl
  · dsimp only
    split
    · exact cleared
    · rename_i arguments _
      have same := @sameStore_runAction config executor.getOnResumeStateAndClear.1 "onResume"
        ⟨arguments⟩ (.resumed executor.actionHandler executor.state.currentIndex)
      exact (storedBy_of_same same.continuousActions).trans cleared

theorem run_of_askedWith {other : Task} {arguments : ActionArguments}
    (known : arguments ∈ other.askedWith) :
    ∃ name handler onCompleted, asksToResume name arguments = true ∧
      other = .run name handler arguments onCompleted := by
  cases other with
  | run name handler asked onCompleted =>
      simp only [Task.askedWith, Option.mem_def] at known
      split at known
      · rename_i asks
        cases known
        exact ⟨name, handler, onCompleted, asks, rfl⟩
      · cases known
  | _ => cases known

theorem exec_landDetected {landed : Bool}
    (executed : executor.exec config task (.landDetected landed) = some after) :
    after.2 = [task] := by
  unfold exec at executed
  split at executed
  · cases executed
  · cases executed
    rfl

/-! What a step keeps. -/

theorem due_of_wentOn (wentOn : history.wentOn = true) : history.due = none := if_pos wentOn

theorem due_of_waiting (waits : history.wentOn = false) : history.due = history.stored :=
  if_neg (by simp [waits])

theorem removeContinousAction_states {id : ActionID}
    (free : executor.isActive = true → executor.holds "onResume" id = false) :
    (executor.removeContinousAction id).state.resumeStates = executor.state.resumeStates := by
  obtain same | ⟨active, erased⟩ := @removeContinousAction_cases executor id
  · rw [same]
  · rw [erased]
    exact storedBy_of_erase (not_isFor_of_not_holds (free active)) rfl

theorem load_states (file : ∀ content state, executor.persistenceFile = .json content →
      PersistentState.fromJson content = some state → state.resumeStates = history.filed.toList)
    (stopped : executor.isActive = false) (canRun : CanRun) (mission : Mission) :
    (executor.setMission config canRun mission).state.resumeStates =
      (history.load (executor.setMission config canRun mission)).due.toList := by
  obtain ⟨taken, same, ⟨state, loaded, set⟩ | ⟨_, set⟩⟩ :=
    @setMission_of_inactive config executor stopped canRun mission
  · unfold tryLoadPersistentState at loaded
    split at loaded
    · obtain ⟨content, index, written, decoded, current, _⟩ := tryLoad_accepted loaded
      rw [same.persistenceFile] at written
      have filed := file content state written decoded
      rw [set, due_of_waiting rfl]
      simpa [ResumeHistory.load, setState, current] using filed
    · cases loaded
  · rw [set]
    exact storedBy_of_empty rfl

theorem states_exec {rest : List Task} (kept : ResumeKept config history ⟨executor, task :: rest⟩)
    (once : StoresOnce history ⟨executor, task :: rest⟩ input)
    (keeps : KeepsResumeState config history ⟨executor, task :: rest⟩ input)
    (executed : executor.exec config task input = some after) :
    after.1.state.resumeStates =
      ((resumeRecorder config).task history executor task input).due.toList := by
  have states : executor.state.resumeStates = history.due.toList := kept.states
  cases exec_storing executed with
  | again task landed =>
      rw [resumeRecorder_landDetected]
      exact states
  | same calm same =>
      obtain ⟨stored, wentOn⟩ := @resumeRecorder_calm config executor history task input calm
      rw [ResumeHistory.due, stored, wentOn]
      exact (storedBy_of_same same.continuousActions).trans states
  | onActivate =>
      simp only [resumeRecorder]
      rw [← states]
      refine storedBy_of_same ?_
      unfold MissionExecutor.onActivate
      split
      · rfl
      · exact (sameStore_setCurrentMissionIndex _).continuousActions
  | onDeactivate reason =>
      simp only [resumeRecorder]
      rw [@due_of_waiting history.forget rfl]
      unfold MissionExecutor.onDeactivate
      split
      · exact storedBy_of_empty rfl
      · rename_i going
        have none : history.due = none := by
          obtain none | wentOn := keeps (by simpa using going)
          · simp [ResumeHistory.due, none]
          · exact due_of_wentOn wentOn
        rw [none] at states
        exact (storedBy_of_same rfl).trans states
  | onActivateRun startFromBeginning =>
      simp only [resumeRecorder, MissionExecutor.onActivateRun]
      split
      · exact states
      · exact startMission_clears states startFromBeginning
  | onActivatedReturned previousHandler startFromBeginning =>
      simp only [resumeRecorder, MissionExecutor.onActivatedReturned]
      split
      · exact startMission_clears states startFromBeginning
      · exact states
  | resumed handler previousIndex =>
      simp only [resumeRecorder, MissionExecutor.resumed]
      split
      · rename_i valid
        have wentOn : history.wentOn = true := by
          obtain older | wentOn := kept.closures.tasks _ List.mem_cons_self
          · rw [isValid_of_lt kept.sound.valid older] at valid
            cases valid
          · exact wentOn
        rw [due_of_wentOn wentOn]
        split <;> exact storedBy_of_empty rfl
      · exact states
  | changeSettings name handler arguments onCompleted found =>
      have recorded : ((resumeRecorder config).task history executor
          (.run name handler arguments onCompleted) .proceed).due = history.due := by
        simp only [resumeRecorder]
        split <;> rfl
      rw [recorded, ← states]
      obtain same | ⟨valid, resets, options, inserted⟩ :=
        @runChangeSettings_stores config executor handler arguments onCompleted
      · exact storedBy_of_same same
      · have free : executor.holds "onResume" executor.nextContinuousActionId = false :=
          keeps (by simp [storesSettings, found, valid, resets])
        exact storedBy_of_insert (by simp) (not_isFor_of_not_holds free) inserted
  | deactivateSettings name =>
      simp only [resumeRecorder]
      exact states
  | releaseKeeper id =>
      simp only [resumeRecorder]
      rw [← states]
      exact removeContinousAction_states keeps
  | handlerOp inRun reference op handler stores resolved =>
      cases op with
      | storeState name arguments =>
          have refers : executor.refersToValid reference = executor.isValid handler := by
            simp [refersToValid, resolved]
          simp only [resumeRecorder, refers]
          cases valid : executor.isValid handler with
          | false =>
              rw [handlerOp_of_invalid valid rfl]
              simpa using states
          | true =>
              have free := not_isFor_of_not_holds (keeps (refers.trans valid))
              have inserted : (executor.handlerOp config handler
                  (.storeState name arguments)).1.state.continuousActions =
                    executor.state.continuousActions.insert executor.nextContinuousActionId
                      { name, arguments, keeper := some executor.nextContinuousActionId } := by
                simp [MissionExecutor.handlerOp, valid, handlerCall, addContinousAction]
              by_cases named : name = "onResume"
              · obtain ⟨storing, none⟩ := once.2 named (refers.trans valid)
                have stopped : executor.isActive = false := by
                  cases rest with
                  | nil => simp [inStoreState] at storing
                  | cons lower rest =>
                      cases lower with
                      | savePersistentState => exact kept.inactive.saves (by simp)
                      | _ => simp [inStoreState] at storing
                have waits : history.wentOn = false := kept.idle stopped
                rw [due_of_waiting waits, none] at states
                refine (storedBy_of_first named states inserted).trans ?_
                simp [named, ResumeHistory.due, waits]
              · refine (storedBy_of_insert named free inserted).trans ?_
                simpa [named] using states
      | clearTrajectoryOptions | setTrajectoryOptions =>
          simp only [resumeRecorder]
          rw [← states]
          unfold MissionExecutor.handlerOp
          split <;> rfl
      | _ => cases stores
  | userRelease inRun id =>
      simp only [resumeRecorder]
      rw [← states]
      exact @removeContinousAction_states
        { executor with userKeepers := executor.userKeepers.erase id } id keeps
  | setMission inRun mission canRun =>
      simp only [resumeRecorder]
      cases going : executor.isActive with
      | true =>
          have refused : executor.setMission config canRun mission = executor := if_pos going
          rw [refused]
          exact states
      | false => exact load_states kept.file going canRun mission
  | resetMission inRun =>
      simp only [resumeRecorder]
      cases going : executor.isActive with
      | true =>
          have refused : executor.resetMission = executor := if_pos going
          rw [refused]
          exact states
      | false =>
          have emptied : executor.resetMission.state.continuousActions = .empty := by
            unfold MissionExecutor.resetMission
            rw [if_neg (by simp [going])]
            rfl
          exact storedBy_of_empty emptied

theorem recorded_wentOn
    (wentOn : ((resumeRecorder config).task history executor task input).wentOn = true) :
    history.wentOn = true ∨ task.starts = true := by
  simp only [resumeRecorder] at wentOn
  split at wentOn
  · cases wentOn
  · split at wentOn <;> exact .inl wentOn
  · exact .inr rfl
  · exact .inr rfl
  · split at wentOn <;> exact .inl wentOn
  · split at wentOn <;> exact .inl wentOn
  · split at wentOn
    · exact .inl wentOn
    · cases wentOn
  · split at wentOn
    · exact .inl wentOn
    · cases wentOn
  · exact .inl wentOn

/-- Only what stops the mission, and what happens while it is stopped, can have it wait again. -/
theorem recorded_wentOn_of_active (executed : executor.exec config task input = some after)
    (active : after.1.isActive = true) (wentOn : history.wentOn = true) :
    ((resumeRecorder config).task history executor task input).wentOn = true := by
  simp only [resumeRecorder]
  split
  · obtain ⟨landed, same, _⟩ | ⟨_, same⟩ := exec_hook executed
    · cases same
    · rw [same] at active
      cases active.symm.trans onDeactivate_isActive
  · split <;> exact wentOn
  · split
    · exact wentOn
    · rfl
  · split
    · rfl
    · exact wentOn
  · split <;> exact wentOn
  · split <;> exact wentOn
  · have same := exec_isActive executed (by simp) (by simp)
    rw [if_pos (same.symm.trans active)]
    exact wentOn
  · have same := exec_isActive executed (by simp) (by simp)
    rw [if_pos (same.symm.trans active)]
    exact wentOn
  · exact wentOn

theorem idle_exec {rest : List Task} (kept : ResumeKept config history ⟨executor, task :: rest⟩)
    (executed : executor.exec config task input = some after) (stopped : after.1.isActive = false) :
    ((resumeRecorder config).task history executor task input).wentOn = false := by
  by_contra wentOn
  obtain went | starts := recorded_wentOn (by simpa using wentOn)
  · have active : executor.isActive = true := by
      cases was : executor.isActive with
      | true => rfl
      | false => exact absurd (kept.idle was) (by simp [went])
    have deactivates : ∃ reason, task = .modeExecutor (.hook (.onDeactivate reason)) := by
      by_contra other
      have same := exec_isActive executed ?_ fun reason same => other ⟨reason, same⟩
      · rw [same, active] at stopped
        cases stopped
      · rintro rfl
        exact absurd (kept.inStep.hook rfl) (by simp [active])
    obtain ⟨reason, rfl⟩ := deactivates
    obtain ⟨landed, _, rfl⟩ | ⟨rfl, _⟩ := exec_hook executed
    · exact absurd stopped (by simp [active])
    · exact wentOn (by simp [resumeRecorder, ResumeHistory.forget])
  · have active : executor.isActive = true := (kept.startsOnce.rest starts).1
    have same := exec_isActive executed (by rintro rfl; cases starts)
      (by rintro reason rfl; cases starts)
    rw [same, active] at stopped
    cases stopped

theorem waits_exec {rest : List Task} (kept : ResumeKept config history ⟨executor, task :: rest⟩)
    (executed : executor.exec config task input = some after) :
    ∀ other ∈ after.2 ++ rest, other.starts = true →
      ((resumeRecorder config).task history executor task input).wentOn = false := by
  intro other member starts
  rcases List.mem_append.mp member with first | last
  · obtain rfl | ⟨started, ⟨landed, rfl⟩ | ⟨startFromBeginning, rfl, called⟩⟩ :=
      exec_starting executed first starts
    · have waits := kept.idle (kept.inStep.hook rfl)
      cases input <;> exact waits
    · rw [resumeRecorder_landDetected]
      exact kept.waits task List.mem_cons_self started
    · have waits := kept.waits _ List.mem_cons_self started
      cases input with
      | proceed => simpa [resumeRecorder, called] using waits
      | _ => exact waits
  · by_contra wentOn
    obtain went | started := recorded_wentOn (by simpa using wentOn)
    · rw [kept.waits other (List.mem_cons_of_mem _ last) starts] at went
      cases went
    · rw [(kept.startsOnce.rest started).2 other last] at starts
      cases starts

theorem recorded_stored (starts : task.starts = true) :
    ((resumeRecorder config).task history executor task input).stored = history.stored := by
  cases task with
  | onActivateRun | onActivatedReturned =>
      cases input with
      | proceed =>
          simp only [resumeRecorder]
          split <;> rfl
      | _ => rfl
  | _ => cases starts

theorem asks_exec {rest : List Task} (kept : ResumeKept config history ⟨executor, task :: rest⟩)
    (once : StoresOnce history ⟨executor, task :: rest⟩ input)
    (executed : executor.exec config task input = some after) :
    ∀ other ∈ after.2 ++ rest, ∀ arguments ∈ other.askedWith,
      Hands ((resumeRecorder config).task history executor task input).stored arguments := by
  intro other member arguments known
  obtain ⟨name, handler, onCompleted, asks, rfl⟩ := run_of_askedWith known
  rcases List.mem_append.mp member with first | last
  · by_cases again : ∃ landed, input = .landDetected landed
    · obtain ⟨landed, rfl⟩ := again
      rw [resumeRecorder_landDetected]
      rw [exec_landDetected executed] at first
      rw [List.mem_singleton.mp first] at known
      exact kept.asks task List.mem_cons_self arguments known
    · cases exec_runs executed first rfl with
      | again _ landed => exact absurd ⟨landed, rfl⟩ again
      | resume json starts set =>
          have states : executor.state.resumeStates = history.stored.toList := by
            rw [← due_of_waiting (kept.waits task List.mem_cons_self starts)]
            exact kept.states
          rw [recorded_stored starts, Hands, ← (getOnResumeStateAndClear_of states).1]
          exact set
      | storeState => cases asks
      | stored action rest named => simp [asksToResume, named] at asks
      | item resuming index item _ current found flagged =>
          obtain ⟨landed, same, _⟩ | ⟨rfl, _⟩ := exec_internal rfl executed
          · exact absurd ⟨landed, same⟩ again
          · have unasked : executor.currentItemAsks = false := once.2
            rw [asksToResume_of_resuming flagged] at asks
            simp [currentItemAsks, current, found, asks] at unasked
      | takeoff _ _ _ _ index item _ takeoff =>
          simp [asksToResume, previousTakeoff_name takeoff] at asks
      | user =>
          have unasked : asksToResume name arguments = false := once.2
          rw [asks] at unasked
          cases unasked
      | onFailure => simp [asksToResume] at asks
  · have none := kept.sound.ordered.run _ last
    cases none

theorem file_exec {rest : List Task} (kept : ResumeKept config history ⟨executor, task :: rest⟩)
    (range : executor.InRange) (executed : executor.exec config task input = some after) :
    ∀ content state, after.1.persistenceFile = .json content →
      PersistentState.fromJson content = some state →
      state.resumeStates =
        ((resumeRecorder config).task history executor task input).filed.toList := by
  by_cases saves : task = .savePersistentState
  · subst saves
    obtain ⟨landed, rfl, rfl⟩ | ⟨rfl, rfl⟩ := exec_internal rfl executed
    · rw [resumeRecorder_landDetected]
      exact kept.file
    · have stopped : executor.isActive = false := kept.inactive.saves List.mem_cons_self
      simp only [resumeRecorder, internal]
      split
      · rename_i persistence
        obtain ⟨file, saved, missing | json⟩ := @savePersistentState_file config executor persistence
        · rw [saved, missing]
          intro content state same
          cases same
        · rw [saved, json]
          intro content state same decoded
          cases same
          obtain ⟨read, written, _, _, entries⟩ :=
            PersistentState.fromJson_toJson executor.state range.index
          obtain rfl : state = read := Option.some.inj (decoded.symm.trans written)
          rw [← due_of_waiting (kept.idle stopped)]
          exact (storedBy_renumbered entries).trans kept.states
      · rename_i persistence
        have same : executor.savePersistentState config = executor := by
          simp [savePersistentState, persistence]
        rw [same]
        exact kept.file
  · have filed : ((resumeRecorder config).task history executor task input).filed =
        history.filed := by
      simp only [resumeRecorder]
      split
      · rfl
      · exact absurd rfl saves
      all_goals first | rfl | (split <;> rfl)
    rw [filed]
    by_cases deactivates : ∃ reason, task = .modeExecutor (.hook (.onDeactivate reason))
    · obtain ⟨reason, rfl⟩ := deactivates
      obtain ⟨landed, rfl, rfl⟩ | ⟨rfl, rfl⟩ := exec_hook executed
      · exact kept.file
      · obtain ⟨_, _, same | missing, _⟩ := @onDeactivate_kept config executor
        · simp only [modeExecutorHook, same]
          exact kept.file
        · simp only [modeExecutorHook, missing]
          intro content state same
          cases same
    · rw [exec_file executed saves fun reason same => deactivates ⟨reason, same⟩]
      exact kept.file

theorem provenance_mono {history' : ResumeHistory} {bound newer : HandlerId} (le : bound ≤ newer)
    (more : history.wentOn = true → history'.wentOn = true) :
    (history.provenance bound).Within (history'.provenance newer) :=
  ⟨fun _ _ _ => trivial, fun _ _ => Or.imp (fun older => lt_of_lt_of_le older le) more,
    fun _ _ => trivial, fun _ _ _ => trivial⟩

theorem closures_of_inactive {next : Config} (stopped : Inactive config next)
    (inactive : next.state.isActive = false) :
    AllFrom (history.provenance next.state.actionHandler) (next.state, next.agenda) := by
  obtain ⟨bound, stopped⟩ := stopped.stopped inactive
  exact stopped.closures.mono ⟨fun _ _ _ => trivial,
    fun _ _ older => Or.inl (lt_of_lt_of_le older stopped.renewed), fun _ _ => trivial,
    fun _ _ _ => trivial⟩

theorem closures_exec {rest : List Task} (kept : ResumeKept config history ⟨executor, task :: rest⟩)
    (executed : executor.exec config task input = some after) (active : after.1.isActive = true) :
    AllFrom (((resumeRecorder config).task history executor task input).provenance
      executor.actionHandler) (after.1, after.2 ++ rest) := by
  refine allFrom_exec_within kept.closures
    (provenance_mono (le_refl _) (recorded_wentOn_of_active executed active)) ?_ executed
  rintro rfl called
  refine ⟨fun _ _ => ⟨trivial, fun _ => trivial⟩, ?_, fun _ _ _ _ _ _ _ _ => trivial⟩
  rintro ⟨startFromBeginning, rfl | ⟨previous, rfl, valid⟩⟩ _
  · have waits : executor.callbacks.onActivated = false := called startFromBeginning rfl
    refine Or.inr ?_
    simp [resumeRecorder, waits]
  · have usable : executor.isValid previous = true := valid
    refine Or.inr ?_
    simp [resumeRecorder, usable]

theorem resumeKept_next {before next : Config} (kept : ResumeKept config history before)
    (once : StoresOnce history before input) (keeps : KeepsResumeState config history before input)
    (stepped : (machine config).step before input = some next) :
    ResumeKept config ((resumeRecorder config).record history before input) next := by
  have sound := sound_next kept.sound stepped
  have inactive := inactive_next kept.sound kept.inactive stepped
  have inStep := inStep_next kept.inStep stepped
  have startsOnce := startsOnce_next kept.startsOnce kept.sound.ordered kept.inStep stepped
  have le := actionHandler_le_of_step kept.sound.made stepped
  rcases before with ⟨executor, agenda⟩
  obtain ⟨empty, state, tasks, taken, rfl⟩ | ⟨task, rest, state, tasks, shape, executed, rfl⟩ :=
    Lib.Machine.step_cases stepped
  · obtain rfl : agenda = [] := empty
    have calm := idle_calm taken
    have closures := allFrom_step kept.closures (by simp) stepped
    refine ⟨sound, inactive, inStep, ?_, ?_, startsOnce, ?_, closures.mono (provenance_mono le id),
      ?_, ?_, kept.runs⟩
    · exact (storedBy_of_same (idle_sameStore taken).continuousActions).trans kept.states
    · exact fun stopped => kept.idle (calm.course.isActive.symm.trans stopped)
    · intro other member starts
      rw [starts_of_not_drives (calm.tasks other member)] at starts
      cases starts
    · intro task member arguments known
      obtain ⟨name, handler, onCompleted, _, rfl⟩ := run_of_askedWith known
      cases idle_runless taken _ member
    · rw [show state.persistenceFile = executor.persistenceFile from calm.course.persistenceFile]
      exact kept.file
  · obtain rfl : agenda = task :: rest := shape
    refine ⟨sound, inactive, inStep, states_exec kept once keeps executed,
      idle_exec kept executed, startsOnce, waits_exec kept executed, ?_, asks_exec kept once executed,
      file_exec kept once.1 executed, ?_⟩
    · cases active : state.isActive with
      | false => exact closures_of_inactive inactive active
      | true => exact (closures_exec kept executed active).mono (provenance_mono le id)
    · intro run recorded
      obtain old | ⟨stored, asked⟩ := resumeRecorder_runs recorded
      · exact kept.runs run old
      · rw [stored]
        exact kept.asks task List.mem_cons_self run.arguments asked

variable {registered : Bool} {id : UInt8} {ownedMode : ModeBase}

theorem resumeKept_initial {file : PersistenceFile}
    (filed : ∀ content state, file = .json content →
      PersistentState.fromJson content = some state → state.resumeStates = history.filed.toList)
    (fresh : history.stored = none ∧ history.wentOn = false)
    (runs : ∀ run ∈ history.runs, Hands run.stored run.arguments) :
    ResumeKept config history (initial registered id ownedMode file) := by
  obtain ⟨stored, waits⟩ := fresh
  refine ⟨sound_initial, inactive_initial, .done false, ?_, fun _ => waits, startsOnce_initial,
    by simp [initial], closures_of_inactive (@inactive_initial config registered id ownedMode file) rfl,
    by simp [initial], filed, runs⟩
  rw [due_of_waiting waits, stored]
  exact storedBy_of_empty rfl

/-- When the mission goes on between two interruptions and the number of a stored state is neither
given to another one nor released, there is at most one stored state of onResume, and whenever it is
asked to resume it gets what it stored last, in this process or in an earlier one. -/
theorem resume_state_exact
    {reached : Lib.Config (Lib.Recorded Config ResumeHistory) Empty}
    (reaches : ((processes config).recorded
        ((resumeRecorder config).restartable ResumeHistory.forget)).Reaches
      (Lib.Machine.processGuard fun history reached input =>
        StoresOnce history reached input ∧ KeepsResumeState config history reached input)
      ⟨⟨initial registered id ownedMode .missing, {}⟩, []⟩ reached) :
    reached.state.state.state.state.resumeStates.length ≤ 1 ∧
      ∀ run ∈ reached.state.history.runs, Hands run.stored run.arguments := by
  have kept : ResumeKept config reached.state.history reached.state.state := by
    refine Lib.Machine.Reaches.process_invariant (ResumeKept config) ?_ ?_ ?_ reaches
    · exact resumeKept_initial (by simp) ⟨rfl, rfl⟩ (by simp)
    · exact fun _ _ _ _ kept keeps stepped => resumeKept_next kept keeps.1 keeps.2 stepped
    · exact fun _ _ _ kept => resumeKept_initial kept.file ⟨rfl, rfl⟩ kept.runs
  refine ⟨?_, kept.runs⟩
  rw [kept.states]
  cases reached.state.history.due <;> simp

/-- A survey with an onResume action that stores the leg that was flown last. -/
def legConfiguration : Configuration :=
  { surveyConfiguration with
    customActions := [("survey", .custom (fun _ => false) false),
      ("onResume", .custom (fun _ => true) false)] }

def leg (json : Json) : Option Int := (json.at? "leg").bind Json.getInt

def storeLeg (number : Int) : Input :=
  .op (.handler .parameter (.storeState "onResume" ⟨.object [("leg", .integer number)]⟩))

/-- What was stored last and what onResume got, for every run that asks it to resume. -/
def legs (history : ResumeHistory) : List (Option Int × Option Int) :=
  history.runs.map fun run => (run.stored.bind leg, leg run.arguments.json)

theorem Hands.leg {stored : Option Json} {arguments : ActionArguments}
    (hands : Hands stored arguments) : leg arguments.json = stored.bind MissionExecutor.leg := by
  have kept := at?_set hands (show "leg" ≠ "action" by decide)
  unfold MissionExecutor.leg
  rw [kept]
  cases stored <;> rfl

/-- The survey is interrupted, and the process ends. The next one resumes it. -/
def legResumed : List (Lib.ProcessInput Input Startup) :=
  ([Input.userEvent, .op (.setMission surveyMission fun _ => none), .ret, armedStatus 23 1] ++
    proceeds 7 ++ [Input.ret] ++ proceeds 8 ++ armedStatus 3 0 :: proceeds 7 ++
    [storeLeg 1, Input.ret] ++ proceeds 8).map .own ++
  .restart ⟨true, 2, surveyMode⟩ ::
  ([Input.userEvent, .op (.setMission surveyMission fun _ => none), .ret, armedStatus 23 2] ++
    proceeds 5).map .own

theorem resume_state_exact_of_legs :
    ∃ reached : Lib.Config (Lib.Recorded Config ResumeHistory) Empty,
      legs reached.state.history = [(some 1, some 1)] ∧
      reached.state.state.state.state.resumeStates.length ≤ 1 ∧
      ∀ run ∈ reached.state.history.runs, Hands run.stored run.arguments := by
  obtain ⟨reached, reaches, handed⟩ :=
    Lib.Machine.reaches_of_run_any
      ((processes legConfiguration).recorded
        ((resumeRecorder legConfiguration).restartable ResumeHistory.forget))
      (Lib.Machine.processGuard fun history reached input =>
        StoresOnce history reached input ∧
          KeepsResumeState legConfiguration history reached input)
      ⟨⟨initial true 1 surveyMode .missing, {}⟩, []⟩
      (fun config => legs config.state.history = [(some 1, some 1)])
      legResumed (by decide +kernel)
  exact ⟨reached, handed, resume_state_exact reaches⟩

/-- The second activation is aborted before the mission goes on, and interrupted. -/
def abortedBeforeResume : List (Lib.ProcessInput Input Startup) :=
  ([Input.userEvent, .op (.setMission surveyMission fun _ => none), .ret, armedStatus 23 1] ++
    proceeds 7 ++ [Input.ret] ++ proceeds 8 ++ armedStatus 3 0 :: proceeds 7 ++
    [storeLeg 1, Input.ret] ++ proceeds 8 ++ [Input.ret] ++ proceeds 3 ++ [Input.ret] ++
    proceeds 9 ++
    [Input.userEvent, .op (.setCallback .onActivated true fun _ => none), .ret,
      armedStatus 23 1] ++
    proceeds 4 ++ [Input.op .abort] ++ proceeds 8 ++ [Input.ret] ++ proceeds 3 ++ [Input.ret] ++
    proceeds 4 ++ [Input.command .success] ++ proceeds 1 ++ [Input.ret] ++ proceeds 5 ++
    armedStatus 3 0 :: proceeds 8 ++ [storeLeg 2, Input.ret] ++ proceeds 8 ++ [Input.ret] ++
    proceeds 3 ++ [Input.ret] ++ proceeds 6).map .own

/-- Two states are stored then, and the third activation gets the older one. -/
theorem resume_state_stale :
    (∃ reached : Lib.Config (Lib.Recorded Config ResumeHistory) Empty,
      ((processes legConfiguration).recorded
        ((resumeRecorder legConfiguration).restartable ResumeHistory.forget)).Reaches
        (Lib.Machine.processGuard StoresOnce)
        ⟨⟨initial true 1 surveyMode .missing, {}⟩, []⟩ reached ∧
      reached.state.state.state.isActive = false ∧ reached.state.state.agenda.length = 0 ∧
      reached.state.state.state.state.resumeStates.length = 2) ∧
    ∃ reached : Lib.Config (Lib.Recorded Config ResumeHistory) Empty,
      ((processes legConfiguration).recorded
        ((resumeRecorder legConfiguration).restartable ResumeHistory.forget)).Reaches
        (Lib.Machine.processGuard StoresOnce)
        ⟨⟨initial true 1 surveyMode .missing, {}⟩, []⟩ reached ∧
      ∃ run ∈ reached.state.history.runs, ¬ Hands run.stored run.arguments := by
  refine ⟨Lib.Machine.reaches_of_run_any _ _ _ _ abortedBeforeResume (by decide +kernel), ?_⟩
  obtain ⟨reached, reaches, handed⟩ :=
    Lib.Machine.reaches_of_run_any
      ((processes legConfiguration).recorded
        ((resumeRecorder legConfiguration).restartable ResumeHistory.forget))
      (Lib.Machine.processGuard StoresOnce) ⟨⟨initial true 1 surveyMode .missing, {}⟩, []⟩
      (fun config => legs config.state.history = [(some 2, some 1)])
      (abortedBeforeResume ++
        (armedStatus 23 1 :: proceeds 4 ++ [Input.ret] ++ proceeds 2).map .own)
      (by decide +kernel)
  obtain ⟨run, recorded, same⟩ : ∃ run ∈ reached.state.history.runs,
      (run.stored.bind leg, leg run.arguments.json) = (some 2, some 1) := by
    refine List.mem_map.mp ?_
    rw [show reached.state.history.runs.map _ = legs reached.state.history from rfl, handed]
    exact List.mem_singleton_self _
  refine ⟨reached, reaches, run, recorded, fun hands => ?_⟩
  have other := hands.leg
  simp [(Prod.mk.inj same).1, (Prod.mk.inj same).2] at other

end Px4Ros2.MissionExecutor
