import Px4Ros2.Components.RunState

/-! An executor that runs its states one after the other never waits for two things at once, in any
run of its process: no assertion fails, and what it requests are its states in their order. -/

set_option autoImplicit false

namespace Px4Ros2.RunState

open Lib ExecutorProcess

variable {State : Type} {program : RunState State} {process : ExecutorProcess}
  {executor : ModeExecutorBase CompletedCallback} {rest : List ExecutorProcess.Task}

/-- The callbacks that were not called yet: in a slot, or on the agenda. -/
def live (config : ExecutorProcess.Config) : List CompletedCallback :=
  config.state.executor.heldCallbacks ++ config.agenda.flatMap Task.callbacks

theorem occurrences_live (p : CompletedCallback → Bool) (config : ExecutorProcess.Config) :
    occurrences p config =
      (config.state.invoked.map Prod.fst).countP p + (live config).countP p := by
  simp only [occurrences, live, List.countP_append]
  omega

/-- A step that calls nothing moves the callbacks, brings one in or drops one. -/
theorem live_step {config next : ExecutorProcess.Config} {input : Input}
    (stepped : machine.step config input = some next)
    (same : next.state.invoked = config.state.invoked) (kept : lost config input = []) :
    (live next).Perm (issued config input ++ live config) := by
  refine List.perm_iff_count.mpr fun callback => ?_
  have moved := occurrences_step (p := (· == callback)) stepped
  rw [occurrences_live, occurrences_live, same, kept] at moved
  simp only [List.count, List.countP_append, List.countP_nil] at moved ⊢
  omega

/-! ### Which slots are empty when a task is reached -/

/-- The slots are empty whenever the executor is about to enter or to leave charge. The flags tell
which slots are known to be empty before the first task, and whether the executor is in charge. -/
def Clears : Bool → Bool → Bool → List ExecutorProcess.Task → Prop
  | _, _, _, [] => True
  | scheduled, waiting, charge, .user :: rest => Clears scheduled waiting charge rest
  | scheduled, waiting, charge, .executor task :: rest =>
      match task with
      | .hook .onActivate =>
          scheduled = true ∧ waiting = true ∧ charge = true ∧
            rest.flatMap Task.callbacks = [] ∧ Clears false false true rest
      | .hook (.completed _ result) =>
          if result = .success then Clears false false charge rest
          else Clears scheduled waiting charge rest
      | .callOnActivate =>
          scheduled = true ∧ waiting = true ∧ rest.flatMap Task.callbacks = [] ∧
            Clears false false true rest
      | .callOnDeactivate _ => rest.flatMap Task.callbacks = [] ∧ Clears true true false rest
      | .cancelScheduledMode => Clears true waiting charge rest
      | .cancelWaitVehicleStatus => Clears scheduled true charge rest
      | .leaveCharge _ =>
          scheduled = true ∧ waiting = true ∧ rest.flatMap Task.callbacks = [] ∧
            Clears true true false rest
      | .sendScheduleMode modeId _ _ => modeId ≠ kModeIDInvalid ∧ Clears false false charge rest
      | .sendArmDisarm _ _ _ => Clears false false charge rest
      | .reactivateOnModeSwitch _ _ _ | .notifyFailsafeDeferred _ _ | .updateOwnedMode _ _
      | .finishStatusUpdate _ => rest.flatMap Task.callbacks = [] ∧ Clears false false false rest
      | .hook _ | .mode _ => Clears scheduled waiting charge rest

theorem Clears.mono {agenda : List ExecutorProcess.Task} {scheduled waiting charge : Bool}
    (clears : Clears scheduled waiting charge agenda) {scheduled' waiting' charge' : Bool}
    (moreScheduled : scheduled = true → scheduled' = true)
    (moreWaiting : waiting = true → waiting' = true)
    (moreCharge : charge = true → charge' = true) :
    Clears scheduled' waiting' charge' agenda := by
  induction agenda generalizing scheduled waiting charge scheduled' waiting' charge' with
  | nil => trivial
  | cons task rest ih =>
      cases task with
      | user => exact ih clears moreScheduled moreWaiting moreCharge
      | executor task =>
          cases task with
          | hook hook =>
              cases hook with
              | completed callback result =>
                  simp only [Clears] at clears ⊢
                  split at clears
                  · rename_i success
                    rw [if_pos success]
                    exact ih clears id id moreCharge
                  · rename_i failed
                    rw [if_neg failed]
                    exact ih clears moreScheduled moreWaiting moreCharge
              | onActivate =>
                  exact ⟨moreScheduled clears.1, moreWaiting clears.2.1, moreCharge clears.2.2.1,
                    clears.2.2.2⟩
              | onDeactivate | onFailsafeDeferred | mode =>
                  exact ih clears moreScheduled moreWaiting moreCharge
          | mode => exact ih clears moreScheduled moreWaiting moreCharge
          | callOnActivate | leaveCharge =>
              exact ⟨moreScheduled clears.1, moreWaiting clears.2.1, clears.2.2⟩
          | cancelScheduledMode => exact ih clears id moreWaiting moreCharge
          | cancelWaitVehicleStatus => exact ih clears moreScheduled id moreCharge
          | sendScheduleMode => exact ⟨clears.1, ih clears.2 id id moreCharge⟩
          | sendArmDisarm => exact ih clears id id moreCharge
          | callOnDeactivate | reactivateOnModeSwitch | notifyFailsafeDeferred | updateOwnedMode
          | finishStatusUpdate => exact clears

theorem Clears.weaken {charge : Bool} (clears : Clears false false charge rest)
    (scheduled waiting : Bool) : Clears scheduled waiting charge rest :=
  clears.mono (fun no => by cases no) (fun no => by cases no) id

theorem Clears.anywhere (clears : Clears false false false rest)
    (scheduled waiting charge : Bool) : Clears scheduled waiting charge rest :=
  clears.mono (fun no => by cases no) (fun no => by cases no) (fun no => by cases no)

/-- Tasks of the owned mode do not change which slots are empty. -/
theorem clears_map_mode (tasks : List ModeBase.Task) (scheduled waiting charge : Bool)
    (rest : List ExecutorProcess.Task) :
    Clears scheduled waiting charge
        ((tasks.map (@ModeExecutorBase.Task.mode CompletedCallback)).map
          ExecutorProcess.Task.executor ++ rest) ↔ Clears scheduled waiting charge rest := by
  induction tasks with
  | nil => exact .rfl
  | cons task tasks ih => exact ih

/-- The slots of an executor, with the flags that `Clears` is told. -/
structure SoundSlots (executor : ModeExecutorBase CompletedCallback) : Prop where
  filled : executor.currentScheduledMode.onCompletedCallback.isSome =
    executor.currentScheduledMode.active
  scheduled : executor.currentScheduledMode.assertionFailed = false
  waiting : executor.currentWaitVehicleStatus.assertionFailed = false

def ClearsFrom (executor : ModeExecutorBase CompletedCallback)
    (agenda : List ExecutorProcess.Task) : Prop :=
  Clears executor.currentScheduledMode.onCompletedCallback.isNone
    executor.currentWaitVehicleStatus.onCompletedCallback.isNone executor.isInCharge agenda

theorem SoundSlots.release (sound : SoundSlots executor) :
    SoundSlots { executor with currentScheduledMode := executor.currentScheduledMode.release } :=
  ⟨by simp [ScheduledMode.release, ScheduledMode.active], sound.scheduled, sound.waiting⟩

theorem SoundSlots.releaseWait (sound : SoundSlots executor) :
    SoundSlots { executor with
      currentWaitVehicleStatus := executor.currentWaitVehicleStatus.release } :=
  ⟨sound.filled, sound.scheduled, sound.waiting⟩

theorem SoundSlots.of_same {after : ModeExecutorBase CompletedCallback}
    (sound : SoundSlots executor)
    (scheduled : after.currentScheduledMode = executor.currentScheduledMode)
    (waiting : after.currentWaitVehicleStatus = executor.currentWaitVehicleStatus) :
    SoundSlots after :=
  ⟨by rw [scheduled]; exact sound.filled, by rw [scheduled]; exact sound.scheduled,
    by rw [waiting]; exact sound.waiting⟩

/-- What a task leaves of the slots and of the agenda. -/
structure Leaves (after : ModeExecutorBase CompletedCallback ×
    List (ModeExecutorBase.Task CompletedCallback)) (rest : List ExecutorProcess.Task) :
    Prop where
  sound : SoundSlots after.1
  clears : ClearsFrom after.1 (after.2.map .executor ++ rest)

theorem leaves_cancelScheduledMode (sound : SoundSlots executor)
    (clears : Clears true executor.currentWaitVehicleStatus.onCompletedCallback.isNone
      executor.isInCharge rest) :
    Leaves executor.cancelScheduledMode rest := by
  unfold ModeExecutorBase.cancelScheduledMode
  split
  · refine ⟨sound.release, ?_⟩
    split
    · simpa [ClearsFrom, Clears, ScheduledMode.release, Result.success, Result.deactivated]
        using clears
    · simpa [ClearsFrom, ScheduledMode.release] using clears
  · rename_i inactive
    have empty : executor.currentScheduledMode.onCompletedCallback.isNone = true := by
      have filled := sound.filled
      simp only [Bool.not_eq_true] at inactive
      rw [inactive, Option.isSome_eq_false_iff] at filled
      exact filled
    exact ⟨sound, by simpa [ClearsFrom, empty] using clears⟩

theorem leaves_cancelWaitVehicleStatus (sound : SoundSlots executor)
    (clears : Clears executor.currentScheduledMode.onCompletedCallback.isNone true
      executor.isInCharge rest) :
    Leaves executor.cancelWaitVehicleStatus rest := by
  unfold ModeExecutorBase.cancelWaitVehicleStatus
  split
  · refine ⟨sound.releaseWait, ?_⟩
    simpa [ClearsFrom, Clears, WaitForVehicleStatusCondition.release, Result.success,
      Result.deactivated] using clears
  · rename_i empty
    exact ⟨sound, by simpa [ClearsFrom, empty] using clears⟩

theorem leaves_updateWaitVehicleStatus (sound : SoundSlots executor)
    (clears : Clears false false executor.isInCharge rest) (msg : VehicleStatus) :
    Leaves (executor.updateWaitVehicleStatus msg) rest := by
  unfold ModeExecutorBase.updateWaitVehicleStatus
  split
  · split
    · exact ⟨sound.releaseWait, by simpa [ClearsFrom, Clears] using clears⟩
    · exact ⟨sound, clears.weaken _ _⟩
  · exact ⟨sound, clears.weaken _ _⟩

theorem leaves_resume {task : ModeExecutorBase.Task CompletedCallback} {result : Result}
    (internal : ∀ hook, task ≠ .hook hook) (sound : SoundSlots executor)
    (clears : ClearsFrom executor (.executor task :: rest))
    (kept : executor.overwritten result task = []) :
    Leaves (executor.resume result task) rest := by
  cases task with
  | hook hook => exact absurd rfl (internal hook)
  | mode task =>
      cases task with
      | hook hook => exact ⟨sound, clears⟩
      | activated | updateSetpointUpdateTimer =>
          exact ⟨sound.of_same rfl rfl, (clears_map_mode _ _ _ _ rest).mpr clears⟩
  | callOnActivate =>
      exact ⟨sound.of_same rfl rfl, clears.1, clears.2.1, rfl, clears.2.2⟩
  | callOnDeactivate reason => exact ⟨sound, rfl, rfl, clears⟩
  | cancelScheduledMode => exact leaves_cancelScheduledMode sound clears
  | cancelWaitVehicleStatus => exact leaves_cancelWaitVehicleStatus sound clears
  | leaveCharge reason =>
      obtain ⟨scheduled, waiting, -, later⟩ := clears
      exact ⟨sound.of_same rfl rfl, later.mono (fun _ => scheduled) (fun _ => waiting) id⟩
  | sendScheduleMode modeId cmd onCompleted =>
      obtain ⟨valid, later⟩ := clears
      simp only [ModeExecutorBase.resume]
      split
      · rename_i refused
        have failed : result ≠ .success := by simpa using refused
        refine ⟨sound, ?_⟩
        simp only [ClearsFrom, List.map_cons, List.map_nil, List.singleton_append, Clears,
          if_neg failed]
        exact later.weaken _ _
      · rename_i accepted
        have empty : executor.currentScheduledMode.onCompletedCallback = none := by
          simpa [ModeExecutorBase.overwritten, show result = .success by simpa using accepted]
            using kept
        have inactive : executor.currentScheduledMode.active = false := by
          rw [← sound.filled, empty]
          rfl
        refine ⟨⟨?_, ?_, sound.waiting⟩, later.weaken _ _⟩
        · simpa [ScheduledMode.activate, ScheduledMode.active] using valid
        · simp [ScheduledMode.activate, sound.scheduled, inactive]
  | sendArmDisarm check cmd onCompleted =>
      simp only [ModeExecutorBase.resume]
      split
      · rename_i refused
        have failed : result ≠ .success := by simpa using refused
        refine ⟨sound, ?_⟩
        simp only [ClearsFrom, List.map_cons, List.map_nil, List.singleton_append, Clears,
          if_neg failed]
        exact Clears.weaken clears _ _
      · rename_i accepted
        have empty : executor.currentWaitVehicleStatus.onCompletedCallback = none := by
          simpa [ModeExecutorBase.overwritten, show result = .success by simpa using accepted]
            using kept
        refine ⟨⟨sound.filled, sound.scheduled, ?_⟩, Clears.weaken clears _ _⟩
        simp [WaitForVehicleStatusCondition.activate, sound.waiting,
          WaitForVehicleStatusCondition.active, empty]
  | reactivateOnModeSwitch msg changedToArmed gotActivated =>
      obtain ⟨calm, later⟩ := clears
      simp only [ModeExecutorBase.resume]
      split
      · exact ⟨sound, calm, rfl, rfl, calm, calm, later⟩
      · exact ⟨sound, calm, later⟩
  | notifyFailsafeDeferred msg changedToArmed =>
      obtain ⟨calm, later⟩ := clears
      simp only [ModeExecutorBase.resume]
      split <;> exact ⟨sound, calm, later⟩
  | updateOwnedMode msg changedToArmed =>
      obtain ⟨calm, later⟩ := clears
      refine ⟨sound.of_same rfl rfl, ?_⟩
      simp only [ModeExecutorBase.resume, List.map_append, List.append_assoc, ClearsFrom,
        clears_map_mode]
      exact ⟨calm, later⟩
  | finishStatusUpdate msg =>
      obtain ⟨calm, later⟩ := clears
      have same : SoundSlots { executor with prevNavState := msg.navState } :=
        sound.of_same rfl rfl
      exact leaves_updateWaitVehicleStatus same (later.anywhere _ _ _) msg

/-! ### The phase of the states and the process -/

/-- What the process holds in a phase. -/
inductive Coupled (program : RunState State) (history : History State)
    (config : ExecutorProcess.Config) : Phase State → Prop where
  | resting : live config = [] → history.due program = none → Coupled program history config
      .resting
  | due (state : State) (rest : List ExecutorProcess.Task) : live config = [] →
      history.state = some state → (program.request state).isSome = true →
      config.agenda = .user :: rest →
      Clears false false config.state.executor.isInCharge rest →
      Coupled program history config (.due state)
  | running (state : State) (callback : CompletedCallback) : live config = [callback] →
      history.captured callback = program.next state → history.due program = none →
      Coupled program history config (.running state)

structure Runs (program : RunState State) (history : History State)
    (config : ExecutorProcess.Config) : Prop where
  phase : ∃ phase, program.Follows history.events phase ∧ Coupled program history config phase
  /-- Without charge nothing is requested. -/
  charge : config.state.executor.isInCharge = false →
    live config = [] ∧ history.due program = none
  sound : SoundSlots config.state.executor
  clears : ClearsFrom config.state.executor config.agenda

variable {history : History State} {config next : ExecutorProcess.Config} {input : Input}

theorem Runs.length_live (runs : Runs program history config) : (live config).length ≤ 1 := by
  obtain ⟨phase, -, coupled⟩ := runs.phase
  cases coupled with
  | resting empty => simp [empty]
  | due state rest empty => simp [empty]
  | running state callback one => simp [one]

/-- Where internal code runs, nothing is due. -/
theorem Runs.nothing_due (runs : Runs program history config)
    (notUser : ∀ rest, config.agenda ≠ .user :: rest) : history.due program = none := by
  obtain ⟨phase, -, coupled⟩ := runs.phase
  cases coupled with
  | resting empty nothing => exact nothing
  | due state rest empty running requests top => exact absurd top (notUser rest)
  | running state callback one captured nothing => exact nothing

/-- Moving the callbacks keeps the phase. -/
theorem Runs.phase_of_perm (runs : Runs program history config)
    (notUser : ∀ rest, config.agenda ≠ .user :: rest) (same : (live next).Perm (live config)) :
    ∃ phase, program.Follows history.events phase ∧ Coupled program history next phase := by
  obtain ⟨phase, follows, coupled⟩ := runs.phase
  cases coupled with
  | resting empty nothing =>
      exact ⟨_, follows, .resting (List.perm_nil.mp (empty ▸ same)) nothing⟩
  | due state rest empty running requests top => exact absurd top (notUser rest)
  | running state callback one captured nothing =>
      exact ⟨_, follows, .running state callback (List.perm_singleton.mp (one ▸ same)) captured
        nothing⟩

theorem overwritten_nil {task : ModeExecutorBase.Task CompletedCallback} (result : Result)
    (single : (live ⟨process, .executor task :: rest⟩).length ≤ 1) :
    process.executor.overwritten result task = [] := by
  cases task with
  | sendScheduleMode modeId cmd onCompleted | sendArmDisarm check cmd onCompleted =>
      simp only [live, ModeExecutorBase.heldCallbacks, List.flatMap_cons, Task.callbacks,
        ModeExecutorBase.Task.callbacks, List.length_append, List.length_cons,
        List.length_nil] at single
      simp only [ModeExecutorBase.overwritten]
      split
      · exact List.length_eq_zero_iff.mp (by omega)
      · rfl
  | _ => rfl

theorem isInCharge_cancelScheduledMode (executor : ModeExecutorBase CompletedCallback) :
    executor.cancelScheduledMode.1.isInCharge = executor.isInCharge := by
  unfold ModeExecutorBase.cancelScheduledMode
  split <;> rfl

theorem isInCharge_cancelWaitVehicleStatus (executor : ModeExecutorBase CompletedCallback) :
    executor.cancelWaitVehicleStatus.1.isInCharge = executor.isInCharge := by
  unfold ModeExecutorBase.cancelWaitVehicleStatus
  split <;> rfl

theorem isInCharge_updateWaitVehicleStatus (executor : ModeExecutorBase CompletedCallback)
    (msg : VehicleStatus) :
    (executor.updateWaitVehicleStatus msg).1.isInCharge = executor.isInCharge := by
  unfold ModeExecutorBase.updateWaitVehicleStatus
  split
  · split <;> rfl
  · rfl

/-- Only `leaveCharge` ends the charge. -/
theorem isInCharge_resume (result : Result) {task : ModeExecutorBase.Task CompletedCallback}
    (left : (executor.resume result task).1.isInCharge = false) :
    executor.isInCharge = false ∨ ∃ reason, task = .leaveCharge reason := by
  cases task with
  | leaveCharge reason => exact .inr ⟨reason, rfl⟩
  | callOnActivate => cases left
  | hook | callOnDeactivate | updateOwnedMode => exact .inl left
  | mode task => cases task <;> exact .inl left
  | cancelScheduledMode => exact .inl (isInCharge_cancelScheduledMode executor ▸ left)
  | cancelWaitVehicleStatus => exact .inl (isInCharge_cancelWaitVehicleStatus executor ▸ left)
  | sendScheduleMode | sendArmDisarm | reactivateOnModeSwitch | notifyFailsafeDeferred =>
      simp only [ModeExecutorBase.resume] at left
      split at left <;> exact .inl left
  | finishStatusUpdate msg =>
      have same := isInCharge_updateWaitVehicleStatus
        { executor with prevNavState := msg.navState } msg
      exact .inl (same ▸ left)

theorem live_of_clears {reason : DeactivateReason}
    (clears : ClearsFrom process.executor (.executor (.leaveCharge reason) :: rest)) :
    live ⟨process, .executor (.leaveCharge reason) :: rest⟩ = [] := by
  obtain ⟨scheduled, waiting, calm, -⟩ := clears
  simp only [Option.isNone_iff_eq_none] at scheduled waiting
  simpa [live, ModeExecutorBase.heldCallbacks, scheduled, waiting, Task.callbacks,
    ModeExecutorBase.Task.callbacks] using calm

/-! ### Steps -/

theorem Runs.resume {task : ModeExecutorBase.Task CompletedCallback} {result : Result}
    (runs : Runs program history ⟨process, .executor task :: rest⟩)
    (internal : ∀ hook, task ≠ .hook hook)
    (stepped : machine.step ⟨process, .executor task :: rest⟩ input =
      some (process.applied (process.executor.resume result task) rest))
    (lostNothing : lost ⟨process, .executor task :: rest⟩ input =
      process.executor.overwritten result task)
    (issuedNothing : issued ⟨process, .executor task :: rest⟩ input = []) :
    Runs program history (process.applied (process.executor.resume result task) rest) := by
  have notUser : ∀ others,
      (⟨process, .executor task :: rest⟩ : ExecutorProcess.Config).agenda ≠ .user :: others :=
    fun others same => by cases same
  have kept := overwritten_nil result runs.length_live
  have moved := live_step stepped rfl (lostNothing.trans kept)
  rw [issuedNothing, List.nil_append] at moved
  obtain ⟨sound, clears⟩ := leaves_resume internal runs.sound runs.clears kept
  refine ⟨runs.phase_of_perm notUser moved, fun left => ⟨?_, runs.nothing_due notUser⟩, sound,
    clears⟩
  obtain before | ⟨reason, rfl⟩ := isInCharge_resume result left
  · exact List.perm_nil.mp ((runs.charge before).1 ▸ moved)
  · exact List.perm_nil.mp (live_of_clears runs.clears ▸ moved)

theorem leaves_vehicleStatusReceived (sound : SoundSlots executor) (msg : VehicleStatus)
    (charge : executor.isInCharge = false → executor.heldCallbacks = []) :
    Leaves (executor.vehicleStatusReceived msg) [] := by
  unfold ModeExecutorBase.vehicleStatusReceived ModeExecutorBase.vehicleStatusUpdated
  split
  · dsimp only
    split
    · rename_i changed
      split
      · rename_i entering
        have before : executor.isInCharge = false := by
          rw [entering] at changed
          simpa using changed
        obtain ⟨scheduled, waiting⟩ := List.append_eq_nil_iff.mp (charge before)
        rw [Option.toList_eq_nil_iff] at scheduled waiting
        refine ⟨sound.of_same rfl rfl, ?_⟩
        simp [ClearsFrom, Clears, scheduled, waiting, Task.callbacks,
          ModeExecutorBase.Task.callbacks]
      · exact ⟨sound.of_same rfl rfl, rfl, rfl, trivial⟩
    · exact ⟨sound.of_same rfl rfl, rfl, trivial⟩
  · exact ⟨sound, trivial⟩

theorem leaves_modeCompletedReceived (sound : SoundSlots executor) (msg : ModeCompleted) :
    Leaves (executor.modeCompletedReceived msg) [] := by
  unfold ModeExecutorBase.modeCompletedReceived
  split
  · refine ⟨sound.release, ?_⟩
    split <;> simp [ClearsFrom, Clears]
  · exact ⟨sound, trivial⟩

/-- What a request leaves while no callback is held. -/
theorem leaves_request {request : Request} (sound : SoundSlots process.executor)
    (empty : process.executor.heldCallbacks = [])
    (valid : ∀ modeId forced, request = .scheduleMode modeId forced → modeId ≠ kModeIDInvalid)
    (clears : Clears false false process.executor.isInCharge rest) :
    SoundSlots (process.request request).1.executor ∧
      ClearsFrom (process.request request).1.executor
        ((process.request request).2 ++ .user :: rest) := by
  obtain ⟨scheduled, waiting⟩ := List.append_eq_nil_iff.mp empty
  rw [Option.toList_eq_nil_iff] at scheduled waiting
  have failed : Result.rejected ≠ .success := by decide
  cases request with
  | scheduleMode modeId forced =>
      simp only [ExecutorProcess.request, ModeExecutorBase.scheduleMode,
        ModeExecutorBase.scheduleModeCommand]
      split
      · refine ⟨sound, ?_⟩
        simp only [ExecutorProcess.apply, ClearsFrom, List.map_cons, List.map_nil,
          List.singleton_append, Clears, if_neg failed]
        exact clears.weaken _ _
      · exact ⟨sound, valid modeId forced rfl, clears⟩
  | takeoff | land | rtl =>
      simp only [ExecutorProcess.request, ModeExecutorBase.takeoff, ModeExecutorBase.land,
        ModeExecutorBase.rtl, ModeExecutorBase.scheduleMode, ModeExecutorBase.scheduleModeCommand]
      split
      · refine ⟨sound, ?_⟩
        simp only [ExecutorProcess.apply, ClearsFrom, List.map_cons, List.map_nil,
          List.singleton_append, Clears, if_neg failed]
        exact clears.weaken _ _
      · exact ⟨sound, by decide, clears⟩
  | arm | disarm =>
      simp only [ExecutorProcess.request, ModeExecutorBase.arm, ModeExecutorBase.disarm]
      split
      · refine ⟨sound, ?_⟩
        simp only [ExecutorProcess.apply, ClearsFrom, List.map_cons, List.map_nil,
          List.singleton_append, Clears, if_true]
        exact clears
      · exact ⟨sound, clears⟩
  | waitReadyToArm | waitUntilDisarmed =>
      simp only [ExecutorProcess.request, ModeExecutorBase.waitReadyToArm,
        ModeExecutorBase.waitUntilDisarmed]
      split
      · refine ⟨sound, ?_⟩
        simp only [ExecutorProcess.apply, ClearsFrom, List.map_cons, List.map_nil,
          List.singleton_append, Clears, if_true]
        exact clears
      · refine ⟨⟨sound.filled, sound.scheduled, ?_⟩, clears.weaken _ _⟩
        simp [ExecutorProcess.apply, WaitForVehicleStatusCondition.activate, sound.waiting,
          WaitForVehicleStatusCondition.active, waiting]

theorem Runs.idle {after : ModeExecutorBase CompletedCallback ×
      List (ModeExecutorBase.Task CompletedCallback)}
    (runs : Runs program history ⟨process, []⟩)
    (stepped : machine.step ⟨process, []⟩ input = some (process.applied after []))
    (issuedNothing : issued ⟨process, []⟩ input = []) (lostNothing : lost ⟨process, []⟩ input = [])
    (same : after.1.isInCharge = process.executor.isInCharge) (leaves : Leaves after []) :
    Runs program history (process.applied after []) := by
  have moved := live_step stepped rfl lostNothing
  rw [issuedNothing, List.nil_append] at moved
  have notUser : ∀ others,
      (⟨process, []⟩ : ExecutorProcess.Config).agenda ≠ .user :: others :=
    fun others same => by cases same
  refine ⟨runs.phase_of_perm notUser moved, fun left => ?_, leaves.sound, leaves.clears⟩
  obtain ⟨empty, nothing⟩ := runs.charge (same.symm.trans left)
  exact ⟨List.perm_nil.mp (empty ▸ moved), nothing⟩

theorem isInCharge_vehicleStatusReceived (executor : ModeExecutorBase CompletedCallback)
    (msg : VehicleStatus) :
    (executor.vehicleStatusReceived msg).1.isInCharge = executor.isInCharge := by
  unfold ModeExecutorBase.vehicleStatusReceived ModeExecutorBase.vehicleStatusUpdated
  split
  · dsimp only
    split
    · split <;> rfl
    · rfl
  · rfl

theorem isInCharge_modeCompletedReceived (executor : ModeExecutorBase CompletedCallback)
    (msg : ModeCompleted) :
    (executor.modeCompletedReceived msg).1.isInCharge = executor.isInCharge := by
  unfold ModeExecutorBase.modeCompletedReceived
  split <;> rfl

theorem heldCallbacks_of_live (empty : live config = []) :
    config.state.executor.heldCallbacks = [] :=
  (List.append_eq_nil_iff.mp empty).1

/-- A callback that runs the next state, or does nothing. -/
theorem Runs.completed {callback : CompletedCallback} {result : Result}
    (runs : Runs program history ⟨process, .executor (.hook (.completed callback result)) :: rest⟩) :
    Runs program
      { history with
        state := if result = .success then history.captured callback else none
        events := history.events ++ [.completed result] }
      ⟨(process.enter (.completed callback result)).1, .user :: rest⟩ := by
  obtain ⟨phase, follows, coupled⟩ := runs.phase
  have called : callback ∈ live ⟨process, .executor (.hook (.completed callback result)) :: rest⟩ :=
    by simp [live, Task.callbacks, ModeExecutorBase.Task.callbacks]
  cases coupled with
  | resting empty => simp [empty] at called
  | due state others empty running requests top => cases top
  | running state other one captured nothing =>
      obtain rfl : callback = other := by simpa [one] using called
      have empty : live ⟨(process.enter (.completed callback result)).1, .user :: rest⟩ = [] := by
        have length := congrArg List.length one
        simp only [live, List.flatMap_cons, Task.callbacks, ModeExecutorBase.Task.callbacks,
          List.length_append, List.length_cons, List.length_nil] at length
        refine List.length_eq_zero_iff.mp ?_
        simp only [live, enter, List.flatMap_cons, Task.callbacks, List.length_append,
          List.length_nil]
        omega
      have charged : process.executor.isInCharge = true := by
        cases charge : process.executor.isInCharge with
        | true => rfl
        | false => simp [(runs.charge charge).1] at called
      have clears := runs.clears
      refine ⟨⟨_, follows.step (.completed state result), ?_⟩, fun left => ?_, runs.sound, ?_⟩
      · by_cases success : result = .success
        · simp only [ClearsFrom, Clears, if_pos success] at clears
          simp only [Phase.goOn, if_pos success, captured]
          cases following : program.next state with
          | none => exact .resting empty rfl
          | some next =>
              simp only [Phase.run]
              split
              · rename_i requests
                exact .due next rest empty rfl requests rfl clears
              · rename_i final
                exact .resting empty (by simpa [History.due] using final)
        · simp only [Phase.goOn, if_neg success]
          exact .resting empty rfl
      · have inCharge : true = false := charged.symm.trans left
        cases inCharge
      · simp only [ClearsFrom, Clears] at clears ⊢
        split at clears
        · exact clears.weaken _ _
        · exact clears

/-- The first state. -/
theorem Runs.activated
    (runs : Runs program history ⟨process, .executor (.hook .onActivate) :: rest⟩) :
    Runs program
      { history with state := some program.first, events := history.events ++ [.activated] }
      ⟨(process.enter .onActivate).1, .user :: rest⟩ := by
  obtain ⟨scheduled, waiting, charge, calm, later⟩ := runs.clears
  have empty : live ⟨process, .executor (.hook .onActivate) :: rest⟩ = [] := by
    simp only [Option.isNone_iff_eq_none] at scheduled waiting
    simpa [live, ModeExecutorBase.heldCallbacks, scheduled, waiting, Task.callbacks,
      ModeExecutorBase.Task.callbacks] using calm
  obtain ⟨phase, follows, coupled⟩ := runs.phase
  cases coupled with
  | due state others empty running requests top => cases top
  | running state other one =>
      rw [empty] at one
      cases one
  | resting _ nothing =>
      have later' : Clears false false process.executor.isInCharge rest := by rwa [charge]
      refine ⟨⟨_, follows.step .activated, ?_⟩, fun left => ?_, runs.sound, later'.weaken _ _⟩
      · unfold Phase.run
        split
        · rename_i requests
          exact .due _ rest empty rfl requests rfl later'
        · rename_i final
          exact .resting empty (by simpa [History.due] using final)
      · have inCharge : true = false := charge.symm.trans left
        cases inCharge

theorem Runs.enter_other {hook : ModeExecutorBase.Hook CompletedCallback}
    (runs : Runs program history ⟨process, .executor (.hook hook) :: rest⟩)
    (same : live ⟨process, .user :: rest⟩ = live ⟨process, .executor (.hook hook) :: rest⟩)
    (clears : ClearsFrom process.executor (.user :: rest)) :
    Runs program history ⟨process, .user :: rest⟩ := by
  have notUser : ∀ others, (⟨process, .executor (.hook hook) :: rest⟩ :
      ExecutorProcess.Config).agenda ≠ .user :: others := fun others same => by cases same
  exact ⟨runs.phase_of_perm notUser (.of_eq same), fun left => same ▸ runs.charge left, runs.sound,
    clears⟩

/-- The request of a state. -/
theorem Runs.request {request : Request}
    (runs : Runs program history ⟨process, .user :: rest⟩)
    (requested : history.due program = some request)
    (stepped : machine.step ⟨process, .user :: rest⟩ (.request request) = some
      ⟨(process.request request).1, (process.request request).2 ++ .user :: rest⟩) :
    Runs program
      (History.task program history process .user (.request request))
      ⟨(process.request request).1, (process.request request).2 ++ .user :: rest⟩ := by
  obtain ⟨phase, follows, coupled⟩ := runs.phase
  cases coupled with
  | resting empty nothing =>
      rw [requested] at nothing
      cases nothing
  | running state callback one captured nothing =>
      rw [requested] at nothing
      cases nothing
  | due state others empty running requests top clears =>
      cases top
      have here : program.request state = some request := by
        simpa [History.due, running] using requested
      have held := heldCallbacks_of_live empty
      obtain ⟨sound, cleared⟩ := leaves_request runs.sound held
        (fun modeId forced same => program.validMode state modeId forced (same ▸ here)) clears
      have kept : lost ⟨process, .user :: rest⟩ (.request request) = [] := by
        obtain ⟨-, waiting⟩ := List.append_eq_nil_iff.mp held
        cases request <;> simp [lost, requestOverwrites, waiting]
      have moved := live_step stepped (by cases request <;> rfl) kept
      rw [empty, List.append_nil] at moved
      have charge : (process.request request).1.executor.isInCharge =
          process.executor.isInCharge := by
        cases request <;>
          simp only [ExecutorProcess.request, ModeExecutorBase.takeoff, ModeExecutorBase.land,
            ModeExecutorBase.rtl, ModeExecutorBase.scheduleMode,
            ModeExecutorBase.scheduleModeCommand, ModeExecutorBase.arm, ModeExecutorBase.disarm,
            ModeExecutorBase.waitReadyToArm, ModeExecutorBase.waitUntilDisarmed] <;>
          split <;> rfl
      refine ⟨⟨.running state, ?_, ?_⟩, fun left => ?_, sound, cleared⟩
      · simpa [History.task, running] using follows.step (.requested state)
      · refine .running state (process.passed request) (List.perm_singleton.mp moved) ?_ ?_
        · simp [History.task, running]
        · simp [History.task, running, History.due]
      · have nothing := (runs.charge (charge.symm.trans left)).2
        rw [requested] at nothing
        cases nothing

theorem Runs.ret (runs : Runs program history ⟨process, .user :: rest⟩)
    (nothing : history.due program = none) :
    Runs program { history with state := none } ⟨process, rest⟩ := by
  refine ⟨?_, fun left => ⟨(runs.charge left).1, rfl⟩, runs.sound, runs.clears⟩
  obtain ⟨phase, follows, coupled⟩ := runs.phase
  cases coupled with
  | resting empty => exact ⟨_, follows, .resting empty rfl⟩
  | due state others empty running requests =>
      have requesting : (history.due program).isSome = true := by
        simpa [History.due, running] using requests
      simp [nothing] at requesting
  | running state callback one captured =>
      exact ⟨_, follows, .running state callback one captured rfl⟩

theorem runs_step (runs : Runs program history config)
    (obeyed : program.obeys ⟨⟨config.state, history⟩, config.agenda⟩ input = true)
    (stepped : machine.step config input = some next) :
    Runs program (program.recorder.record history config input) next := by
  cases step_does stepped with
  | vehicleStatus process msg =>
      refine runs.idle stepped rfl rfl (isInCharge_vehicleStatusReceived _ msg)
        (leaves_vehicleStatusReceived runs.sound msg fun left => ?_)
      exact heldCallbacks_of_live (runs.charge left).1
  | modeCompleted process msg =>
      exact runs.idle stepped rfl rfl (isInCharge_modeCompletedReceived _ msg)
        (leaves_modeCompletedReceived runs.sound msg)
  | userEvent process =>
      have notUser : ∀ others,
          (⟨process, []⟩ : ExecutorProcess.Config).agenda ≠ .user :: others :=
        fun others same => by cases same
      exact ⟨runs.phase_of_perm notUser (.refl _), runs.charge, runs.sound, trivial⟩
  | enter process rest hook =>
      cases hook with
      | completed callback result => exact runs.completed
      | onActivate => exact runs.activated
      | onDeactivate | onFailsafeDeferred | mode => exact runs.enter_other rfl runs.clears
  | command process rest task result awaits =>
      have internal : ∀ hook, task ≠ .hook hook := by
        rintro hook rfl
        cases awaits
      have after := runs.resume internal stepped rfl rfl
      cases task with
      | sendScheduleMode | sendArmDisarm => exact after
      | _ => cases awaits
  | resume process rest task awaits internal =>
      have kept : lost ⟨process, .executor task :: rest⟩ .proceed =
          process.executor.overwritten .success task := by
        cases task with
        | sendScheduleMode | sendArmDisarm => cases awaits
        | _ => rfl
      have after := runs.resume internal stepped kept rfl
      cases task with
      | hook hook => exact absurd rfl (internal hook)
      | _ => exact after
  | request process rest request =>
      exact runs.request (by simpa [obeys] using obeyed) stepped
  | ret process rest =>
      exact runs.ret (by simpa [obeys] using obeyed)

/-! ### Runs -/

/-- A process that is just started, with user code that runs states. -/
def started (registered : Bool) (id : UInt8) (activation : Activation) (ownedMode : ModeBase) :
    Lib.Config (Recorded ExecutorProcess (History State)) ExecutorProcess.Task :=
  ⟨⟨(initial registered id activation ownedMode).state, {}⟩, []⟩

theorem runs_of_reaches {registered : Bool} {id : UInt8} {activation : Activation}
    {ownedMode : ModeBase}
    {config : Lib.Config (Recorded ExecutorProcess (History State)) ExecutorProcess.Task}
    (reached : (machine.recorded program.recorder).Reaches
      (fun config input => program.obeys config input = true)
      (started registered id activation ownedMode) config) :
    Runs program config.state.history config.forget := by
  induction reached with
  | refl =>
      exact ⟨⟨.resting, .start, .resting rfl rfl⟩, fun _ => ⟨rfl, rfl⟩, ⟨rfl, rfl, rfl⟩, trivial⟩
  | step _ obeyed stepped before =>
      rw [Machine.step_history stepped]
      exact runs_step before obeyed (Machine.step_forget stepped)

/-- Whatever the vehicle does, an executor that runs its states one after the other waits for at
most one of its requests at a time, so that no assertion of the scheduling functions fails. It is
activated only when the states of the last activation have ended, and without charge it rests. -/
theorem states_run_in_order (program : RunState State) (registered : Bool) (id : UInt8)
    (activation : Activation) (ownedMode : ModeBase)
    (config : Lib.Config (Recorded ExecutorProcess (History State)) ExecutorProcess.Task)
    (reached : (machine.recorded program.recorder).Reaches
      (fun config input => program.obeys config input = true)
      (started registered id activation ownedMode) config) :
    config.state.state.executor.currentScheduledMode.assertionFailed = false ∧
    config.state.state.executor.currentWaitVehicleStatus.assertionFailed = false ∧
    ∃ phase, program.Follows config.state.history.events phase ∧
      (live config.forget).length = (if phase matches .running _ then 1 else 0) ∧
      (config.agenda = [] → config.state.state.executor.isInCharge = false →
        phase = .resting) := by
  have runs := runs_of_reaches reached
  refine ⟨runs.sound.scheduled, runs.sound.waiting, ?_⟩
  obtain ⟨phase, follows, coupled⟩ := runs.phase
  refine ⟨phase, follows, ?_⟩
  cases coupled with
  | resting empty => exact ⟨by simp [empty], fun _ _ => rfl⟩
  | due state rest empty running requests top =>
      refine ⟨by simp [empty], fun quiescent => ?_⟩
      have idle : config.forget.agenda = [] := quiescent
      rw [top] at idle
      cases idle
  | running state callback one =>
      refine ⟨by simp [one], fun _ left => ?_⟩
      have empty := (runs.charge left).1
      rw [one] at empty
      cases empty

/-- The takeoff of the example is completed, and its own mode is scheduled. -/
theorem states_run_in_order_takeoff :
    ∃ config, (machine.recorded (ModeWithExecutor.runState ⟨100, by decide⟩).recorder).Reaches
        (fun config input => (ModeWithExecutor.runState ⟨100, by decide⟩).obeys config input = true)
        (started true 1 .activateOnlyWhenArmed { id := 100, activateEvenWhileDisarmed := false })
        config ∧
      config.state.history.events = [.activated, .requested .takingOff, .completed .success,
        .requested .myMode] ∧
      config.state.state.executor.currentScheduledMode.assertionFailed = false := by
  obtain ⟨config, reached, events⟩ := Machine.reaches_of_run_any
    (machine.recorded (ModeWithExecutor.runState ⟨100, by decide⟩).recorder)
    (fun config input => (ModeWithExecutor.runState ⟨100, by decide⟩).obeys config input = true)
    (started true 1 .activateOnlyWhenArmed { id := 100, activateEvenWhileDisarmed := false })
    (fun config => config.state.history.events = [.activated, .requested .takingOff,
      .completed .success, .requested .myMode])
    [.vehicleStatus ⟨VehicleStatus.armingStateArmed, 100, 1, false, 0, true⟩, .proceed, .proceed,
      .request (.takeoff none none), .proceed, .command .success, .ret, .proceed, .proceed,
      .proceed, .proceed, .modeCompleted ⟨17, 0⟩, .proceed,
      .request (.scheduleMode 100 false)] (by decide)
  exact ⟨config, reached, events,
    (states_run_in_order (ModeWithExecutor.runState ⟨100, by decide⟩) _ _ _ _ config reached).1⟩

end Px4Ros2.RunState
