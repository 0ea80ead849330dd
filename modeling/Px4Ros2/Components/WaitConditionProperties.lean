import Px4Ros2.Lib.History
import Px4Ros2.Components.CallbackAccounting

/-! The callbacks passed to `arm`, `disarm` and the wait functions. They share the one slot
`_current_wait_vehicle_status`, which no request clears before it fills it. -/

set_option autoImplicit false

namespace Px4Ros2

/-- The condition, as far as a message shows it. -/
def RunCheck.holds (msg : VehicleStatus) : RunCheck → Bool
  | .armed => msg.armingState == VehicleStatus.armingStateArmed
  | .disarmed => msg.armingState != VehicleStatus.armingStateArmed
  | .preFlightChecksPass => msg.preFlightChecksPass

/-- The condition at the time of the call; an armed vehicle does not wait to be ready for it. -/
def RunCheck.heldAtCall (isArmed : Bool) : RunCheck → Bool
  | .armed | .preFlightChecksPass => isArmed
  | .disarmed => !isArmed

namespace ExecutorProcess

/-! ### What the claims about a wait refer to -/

def Request.runCheck? : Request → Option RunCheck
  | .arm _ => some .armed
  | .disarm _ | .waitUntilDisarmed => some .disarmed
  | .waitReadyToArm => some .preFlightChecksPass
  | .scheduleMode _ _ | .takeoff _ _ | .land | .rtl => none

/-- A callback that was called, with the message that was processed then. -/
structure RecordedCall where
  onCompleted : CompletedCallback
  result : Result
  during : Option VehicleStatus

structure WaitHistory where
  /-- The vehicle status that is processed. -/
  current : Option VehicleStatus := none
  /-- The conditions of the requests so far, with whether they held at the call. -/
  conditions : List (RunCheck × Bool) := []
  calls : List RecordedCall := []

/-- A request that waits gets the next number. -/
def WaitHistory.noteRequest (history : WaitHistory) (request : Request) (isArmed : Bool) :
    WaitHistory :=
  { history with
    conditions := history.conditions ++ request.runCheck?.toList.map fun check =>
      (check, check.heldAtCall isArmed) }

def waitRecorder : Lib.Recorder ExecutorProcess Task Input WaitHistory where
  event history _ input :=
    match input with
    | .vehicleStatus msg => { history with current := some msg }
    | _ => { history with current := none }
  task history process task input :=
    match task, input with
    | .user, .request request => history.noteRequest request process.executor.isArmed
    | .executor (.hook (.completed onCompleted result)), _ =>
        { history with calls := history.calls ++ [⟨onCompleted, result, history.current⟩] }
    | _, _ => history

abbrev WaitConfig := Lib.Config (Lib.Recorded ExecutorProcess WaitHistory) Task

abbrev waitMachine : Lib.Machine (Lib.Recorded ExecutorProcess WaitHistory) Task Input :=
  machine.recorded waitRecorder

def waitInitial (registered : Bool) (id : UInt8) (activation : Activation)
    (ownedMode : ModeBase) : WaitConfig :=
  ⟨⟨(initial registered id activation ownedMode).state, {}⟩, []⟩

/-- The condition of the request held when it was made, or for this message. -/
def WaitHistory.Satisfied (history : WaitHistory) (id : Nat) (during : Option VehicleStatus) :
    Prop :=
  ∃ check held, history.conditions[id]? = some (check, held) ∧
    (held = true ∨ ∃ msg, during = some msg ∧ check.holds msg = true)

/-- Every callback passed to `arm`, `disarm`, `waitReadyToArm` or `waitUntilDisarmed` is called at
most once; at a quiescent point it was called or is the one in `_current_wait_vehicle_status`; it
is told of a success only when its condition held; and the assertion of `activate` never failed. -/
structure WaitCallbacksAccounted (config : WaitConfig) : Prop where
  once : ∀ id, (config.state.state.invoked.map Prod.fst).count (.waiting id) ≤ 1
  calledOrHeld : config.agenda = [] → ∀ id < config.state.state.waitingRequests,
    (CompletedCallback.waiting id ∈ config.state.state.invoked.map Prod.fst ∧
      config.state.state.executor.currentWaitVehicleStatus.onCompletedCallback ≠
        some (.waiting id)) ∨
    (CompletedCallback.waiting id ∉ config.state.state.invoked.map Prod.fst ∧
      config.state.state.executor.currentWaitVehicleStatus.onCompletedCallback =
        some (.waiting id))
  recorded : config.state.history.calls.map (fun call => (call.onCompleted, call.result)) =
    config.state.state.invoked
  satisfied : ∀ call ∈ config.state.history.calls, ∀ id, call.onCompleted = .waiting id →
    call.result = .success → config.state.history.Satisfied id call.during
  asserted : config.state.state.executor.currentWaitVehicleStatus.assertionFailed = false

/-- This input makes a request fill `_current_wait_vehicle_status`. -/
def fillsWaitSlot (config : Config) (input : Input) : Bool :=
  match config.agenda, input with
  | .executor (.sendArmDisarm _ _ _) :: _, .command result => result == .success
  | .user :: _, .request .waitReadyToArm => !config.state.executor.isArmed
  | .user :: _, .request .waitUntilDisarmed => config.state.executor.isArmed
  | _, _ => false

/-- A request that fills `_current_wait_vehicle_status` finds it empty. -/
def WaitSlotFreeWhenFilled (config : Config) (input : Input) : Prop :=
  fillsWaitSlot config input = true →
    config.state.executor.currentWaitVehicleStatus.onCompletedCallback = none

instance (config : Config) (input : Input) : Decidable (WaitSlotFreeWhenFilled config input) :=
  inferInstanceAs (Decidable (_ → _))

/-! ### No callback is lost -/

theorem waiting_not_lost {config : Config} {input : Input} (kinds : KindsKept config)
    (free : WaitSlotFreeWhenFilled config input) (id : Nat) :
    CompletedCallback.waiting id ∉ lost config input := by
  rcases config with ⟨process, agenda⟩
  simp only [lost]
  split
  · rename_i rest request
    cases request with
    | waitReadyToArm | waitUntilDisarmed =>
        simp only [requestOverwrites]
        cases armed : process.executor.isArmed <;>
          simp_all [WaitSlotFreeWhenFilled, fillsWaitSlot]
    | _ => simp [requestOverwrites]
  · rename_i task rest result
    cases task with
    | sendScheduleMode modeId cmd onCompleted =>
        simp only [ModeExecutorBase.overwritten]
        split
        · intro member
          obtain ⟨other, same⟩ := kinds.slots.scheduled _ (by simpa using member)
          cases same
        · simp
    | sendArmDisarm check cmd onCompleted =>
        simp only [ModeExecutorBase.overwritten]
        split
        · simp_all [WaitSlotFreeWhenFilled, fillsWaitSlot]
        · simp
    | _ => simp [ModeExecutorBase.overwritten]
  · simp

/-- A request fills the wait slot, or leaves it as it is. -/
theorem request_currentWaitVehicleStatus (process : ExecutorProcess) (rest : List Task)
    (request : Request) :
    (process.request request).1.executor.currentWaitVehicleStatus =
        process.executor.currentWaitVehicleStatus ∨
    (fillsWaitSlot ⟨process, .user :: rest⟩ (.request request) = true ∧
      ∃ check, request.runCheck? = some check ∧
        (process.request request).1.executor.currentWaitVehicleStatus =
          process.executor.currentWaitVehicleStatus.activate check
            (.waiting process.waitingRequests)) := by
  cases request with
  | scheduleMode | takeoff | land | rtl =>
      simp only [ExecutorProcess.request, ModeExecutorBase.takeoff, ModeExecutorBase.land,
        ModeExecutorBase.rtl, ModeExecutorBase.scheduleMode, ModeExecutorBase.scheduleModeCommand]
      split <;> exact .inl rfl
  | arm | disarm =>
      simp only [ExecutorProcess.request, ModeExecutorBase.arm, ModeExecutorBase.disarm]
      split <;> exact .inl rfl
  | waitReadyToArm | waitUntilDisarmed =>
      simp only [ExecutorProcess.request, ModeExecutorBase.waitReadyToArm,
        ModeExecutorBase.waitUntilDisarmed, fillsWaitSlot]
      split
      · exact .inl rfl
      · exact .inr ⟨by simp_all, _, rfl, rfl⟩

/-- The assertion of `activate` holds as long as the slot is free when it is filled. -/
theorem waitAsserted_step {config next : Config} {input : Input}
    (before : config.state.executor.currentWaitVehicleStatus.assertionFailed = false)
    (free : WaitSlotFreeWhenFilled config input)
    (stepped : machine.step config input = some next) :
    next.state.executor.currentWaitVehicleStatus.assertionFailed = false := by
  have resumed : ∀ (process : ExecutorProcess) (rest : List Task)
      (task : ModeExecutorBase.Task CompletedCallback) (result : Result),
      process.executor.currentWaitVehicleStatus.assertionFailed = false →
      ((∃ check cmd onCompleted, task = .sendArmDisarm check cmd onCompleted) →
        result = .success →
        process.executor.currentWaitVehicleStatus.onCompletedCallback = none) →
      (process.applied (process.executor.resume result task) rest
        ).state.executor.currentWaitVehicleStatus.assertionFailed = false := by
    intro process rest task result before free
    rcases process.executor.resume_currentWaitVehicleStatus result task with
      same | released | ⟨check, cmd, onCompleted, shape, accepted, filled⟩
    · simpa [applied, same] using before
    · simpa [applied, released, WaitForVehicleStatusCondition.release] using before
    · simp [applied, filled, WaitForVehicleStatusCondition.activate,
        WaitForVehicleStatusCondition.active, before, free ⟨_, _, _, shape⟩ accepted]
  cases step_does stepped with
  | vehicleStatus process msg =>
      simpa [applied, ModeExecutorBase.vehicleStatusReceived_slots] using before
  | modeCompleted process msg =>
      simpa [applied, ModeExecutorBase.modeCompletedReceived_currentWaitVehicleStatus] using before
  | userEvent | ret => exact before
  | enter process rest hook => cases hook <;> exact before
  | command process rest task result awaits =>
      refine resumed process rest task result before ?_
      rintro ⟨check, cmd, onCompleted, rfl⟩ rfl
      exact free rfl
  | resume process rest task awaits internal =>
      refine resumed process rest task .success before ?_
      rintro ⟨check, cmd, onCompleted, rfl⟩
      cases awaits
  | request process rest request =>
      rcases request_currentWaitVehicleStatus process rest request with
        same | ⟨fills, check, -, filled⟩
      · simpa [same] using before
      · have empty := free fills
        simp only at empty before
        simp [filled, WaitForVehicleStatusCondition.activate,
          WaitForVehicleStatusCondition.active, before, empty]

/-! ### Success is told only when the condition held -/

namespace WaitHistory

/-- The request of this number has the condition. -/
def HasCondition (history : WaitHistory) (id : Nat) (check : RunCheck) : Prop :=
  ∃ held, history.conditions[id]? = some (check, held)

/-- The vehicle status is the one that is processed, and `_is_armed` is what it says. -/
def Current (history : WaitHistory) (executor : ModeExecutorBase CompletedCallback)
    (msg : VehicleStatus) : Prop :=
  history.current = some msg ∧
    executor.isArmed = (msg.armingState == VehicleStatus.armingStateArmed)

def Grounds (history : WaitHistory) (executor : ModeExecutorBase CompletedCallback) :
    ModeExecutorBase.Task CompletedCallback → Prop
  | .hook (.completed (.waiting id) result) =>
      result = .success → history.Satisfied id history.current
  | .sendArmDisarm check _ (.waiting id) => history.HasCondition id check
  | .reactivateOnModeSwitch msg _ _ | .notifyFailsafeDeferred msg _ | .updateOwnedMode msg _
  | .finishStatusUpdate msg => history.Current executor msg
  | _ => True

def GroundsSlot (history : WaitHistory) (executor : ModeExecutorBase CompletedCallback) : Prop :=
  ∀ id check, executor.currentWaitVehicleStatus.onCompletedCallback = some (.waiting id) →
    executor.currentWaitVehicleStatus.runCheckCallback = some check → history.HasCondition id check

/-- The later history still has the conditions of the earlier one. -/
def Extends (later history : WaitHistory) : Prop :=
  ∀ (id : Nat) entry, history.conditions[id]? = some entry → later.conditions[id]? = some entry

variable {history later : WaitHistory} {executor after : ModeExecutorBase CompletedCallback}

theorem Extends.of_same (same : later.conditions = history.conditions) :
    later.Extends history := fun _ _ found => same ▸ found

theorem extends_noteRequest (history : WaitHistory) (request : Request) (isArmed : Bool) :
    (history.noteRequest request isArmed).Extends history := by
  intro id entry found
  rw [noteRequest, List.getElem?_append_left (List.getElem?_eq_some_iff.mp found).1, found]

theorem HasCondition.mono (extended : later.Extends history) {id : Nat} {check : RunCheck}
    (condition : history.HasCondition id check) : later.HasCondition id check :=
  condition.imp fun _ found => extended _ _ found

theorem Satisfied.mono (extended : later.Extends history) {id : Nat}
    {during : Option VehicleStatus} (satisfied : history.Satisfied id during) :
    later.Satisfied id during := by
  obtain ⟨check, held, found, holds⟩ := satisfied
  exact ⟨check, held, extended _ _ found, holds⟩

theorem GroundsSlot.mono (extended : later.Extends history)
    (slot : history.GroundsSlot executor) : later.GroundsSlot executor :=
  fun id check holds installed => (slot id check holds installed).mono extended

theorem Grounds.mono (extended : later.Extends history) (current : later.current = history.current)
    {task : ModeExecutorBase.Task CompletedCallback} (grounds : history.Grounds executor task) :
    later.Grounds executor task := by
  cases task with
  | hook hook =>
      cases hook with
      | completed onCompleted result =>
          cases onCompleted with
          | scheduled id => trivial
          | waiting id => exact fun success => current ▸ (grounds success).mono extended
      | _ => trivial
  | sendArmDisarm check cmd onCompleted =>
      cases onCompleted with
      | scheduled id => trivial
      | waiting id => exact HasCondition.mono extended grounds
  | reactivateOnModeSwitch | notifyFailsafeDeferred | updateOwnedMode | finishStatusUpdate =>
      exact ⟨current ▸ grounds.1, grounds.2⟩
  | _ => trivial

/-- What a mode task leaves behind needs no grounds. -/
theorem grounds_mode (tasks : List ModeBase.Task) :
    ∀ task ∈ tasks.map ModeExecutorBase.Task.mode, history.Grounds executor task := by
  simp [Grounds]

theorem grounds_updateWaitVehicleStatus {msg : VehicleStatus}
    (slot : history.GroundsSlot executor) (current : history.Current executor msg) :
    ∀ task ∈ (executor.updateWaitVehicleStatus msg).2,
      history.Grounds (executor.updateWaitVehicleStatus msg).1 task := by
  simp only [ModeExecutorBase.updateWaitVehicleStatus]
  split
  · rename_i onCompleted check held installed
    split
    · rename_i passes
      intro task member
      obtain rfl := List.mem_singleton.mp member
      cases onCompleted with
      | scheduled id => exact trivial
      | waiting id =>
          obtain ⟨atCall, condition⟩ := slot id check held installed
          refine fun _ => ⟨check, atCall, condition, .inr ⟨msg, current.1, ?_⟩⟩
          cases check <;>
            simpa [ModeExecutorBase.runCheck, RunCheck.holds, current.2, bne] using passes
    · simp
  · simp

/-- What a task pushes has its grounds. -/
theorem grounds_resume {result : Result} {task : ModeExecutorBase.Task CompletedCallback}
    (slot : history.GroundsSlot executor) (grounds : history.Grounds executor task)
    (internal : ∀ hook, task ≠ .hook hook) :
    ∀ next ∈ (executor.resume result task).2,
      history.Grounds (executor.resume result task).1 next := by
  cases task with
  | hook hook => exact absurd rfl (internal hook)
  | mode task => cases task <;> simp [ModeExecutorBase.resume, ModeExecutorBase.resumeMode, Grounds]
  | callOnActivate | callOnDeactivate | leaveCharge =>
      simp [ModeExecutorBase.resume, Grounds]
  | cancelScheduledMode =>
      simp only [ModeExecutorBase.resume, ModeExecutorBase.cancelScheduledMode]
      split
      · cases executor.currentScheduledMode.onCompletedCallback with
        | none => simp
        | some onCompleted =>
            cases onCompleted <;> simp [Grounds, Result.deactivated, Result.success]
      · simp
  | cancelWaitVehicleStatus =>
      simp only [ModeExecutorBase.resume, ModeExecutorBase.cancelWaitVehicleStatus]
      split
      · rename_i onCompleted held
        cases onCompleted <;> simp [Grounds, Result.deactivated, Result.success]
      · simp
  | sendScheduleMode modeId cmd onCompleted | sendArmDisarm check cmd onCompleted =>
      simp only [ModeExecutorBase.resume]
      by_cases accepted : result = .success
      · simp [accepted]
      · cases onCompleted <;> simp [accepted, Grounds]
  | reactivateOnModeSwitch msg changedToArmed gotActivated =>
      simp only [ModeExecutorBase.resume]
      split <;> simpa [Grounds] using grounds
  | notifyFailsafeDeferred msg changedToArmed =>
      simp only [ModeExecutorBase.resume]
      split <;> simpa [Grounds] using grounds
  | updateOwnedMode msg changedToArmed =>
      simp only [ModeExecutorBase.resume]
      intro next member
      rcases List.mem_append.mp member with mode | finish
      · exact grounds_mode _ next mode
      · obtain rfl := List.mem_singleton.mp finish
        exact grounds
  | finishStatusUpdate msg => exact grounds_updateWaitVehicleStatus slot grounds

theorem resume_isArmed (result : Result) (task : ModeExecutorBase.Task CompletedCallback) :
    (executor.resume result task).1.isArmed = executor.isArmed := by
  cases task with
  | mode task => cases task <;> rfl
  | cancelScheduledMode =>
      simp only [ModeExecutorBase.resume, ModeExecutorBase.cancelScheduledMode]
      split <;> rfl
  | cancelWaitVehicleStatus =>
      simp only [ModeExecutorBase.resume, ModeExecutorBase.cancelWaitVehicleStatus]
      split <;> rfl
  | sendScheduleMode | sendArmDisarm | reactivateOnModeSwitch | notifyFailsafeDeferred =>
      simp only [ModeExecutorBase.resume]
      split <;> rfl
  | finishStatusUpdate msg =>
      simp only [ModeExecutorBase.resume, ModeExecutorBase.updateWaitVehicleStatus]
      split
      · split <;> rfl
      · rfl
  | _ => rfl

theorem grounds_of_isArmed (armed : after.isArmed = executor.isArmed)
    {task : ModeExecutorBase.Task CompletedCallback} (grounds : history.Grounds executor task) :
    history.Grounds after task := by
  cases task <;> simp_all [Grounds, Current]

theorem groundsSlot_resume {result : Result} {task : ModeExecutorBase.Task CompletedCallback}
    (slot : history.GroundsSlot executor) (grounds : history.Grounds executor task) :
    history.GroundsSlot (executor.resume result task).1 := by
  rcases executor.resume_currentWaitVehicleStatus result task with
    same | released | ⟨check, cmd, onCompleted, rfl, accepted, filled⟩
  · simpa [GroundsSlot, same] using slot
  · simp [GroundsSlot, released, WaitForVehicleStatusCondition.release]
  · intro id other holds installed
    simp only [filled, WaitForVehicleStatusCondition.activate, Option.some.injEq]
      at holds installed
    subst holds installed
    exact grounds

end WaitHistory

/-- The history explains what the process is about to tell of its waits, and what it has told. -/
structure Grounded (history : WaitHistory) (config : Config) : Prop where
  counted : history.conditions.length = config.state.waitingRequests
  slot : history.GroundsSlot config.state.executor
  tasks : ∀ task, Task.executor task ∈ config.agenda →
    history.Grounds config.state.executor task
  recorded : history.calls.map (fun call => (call.onCompleted, call.result)) = config.state.invoked
  satisfied : ∀ call ∈ history.calls, ∀ id, call.onCompleted = .waiting id →
    call.result = .success → history.Satisfied id call.during

namespace Grounded

variable {history : WaitHistory} {process : ExecutorProcess} {rest : List Task}

/-- A function of the executor that installs and pushes only what has its grounds. -/
theorem applied {after : ModeExecutorBase CompletedCallback ×
      List (ModeExecutorBase.Task CompletedCallback)} {agenda : List Task}
    (before : Grounded history ⟨process, agenda⟩) (slot : history.GroundsSlot after.1)
    (pushed : ∀ task ∈ after.2, history.Grounds after.1 task)
    (older : ∀ task, Task.executor task ∈ rest → history.Grounds after.1 task) :
    Grounded history (process.applied after rest) := by
  refine ⟨before.counted, slot, ?_, before.recorded, before.satisfied⟩
  intro task member
  rcases List.mem_append.mp member with new | old
  · obtain ⟨inner, innerMember, same⟩ := List.mem_map.mp new
    cases same
    exact pushed task innerMember
  · exact older task old

theorem resumed {task : ModeExecutorBase.Task CompletedCallback} (result : Result)
    (before : Grounded history ⟨process, .executor task :: rest⟩)
    (internal : ∀ hook, task ≠ .hook hook) :
    Grounded history (process.applied (process.executor.resume result task) rest) := by
  have grounds := before.tasks task List.mem_cons_self
  refine before.applied (WaitHistory.groundsSlot_resume before.slot grounds)
    (WaitHistory.grounds_resume before.slot grounds internal) ?_
  intro older member
  exact WaitHistory.grounds_of_isArmed (WaitHistory.resume_isArmed result task)
    (before.tasks older (List.mem_cons_of_mem _ member))

/-- A new vehicle status comes when nothing is pending. -/
theorem vehicleStatus (msg : VehicleStatus) (before : Grounded history ⟨process, []⟩) :
    Grounded { history with current := some msg }
      (process.applied (process.executor.vehicleStatusReceived msg) []) := by
  have same := process.executor.vehicleStatusReceived_slots msg
  have idle : Grounded { history with current := some msg } ⟨process, []⟩ :=
    ⟨before.counted, before.slot, by simp, before.recorded, before.satisfied⟩
  refine idle.applied ?_ ?_ (by simp)
  · have slot := before.slot.mono (.of_same rfl : { history with current := some msg }.Extends history)
    simpa [WaitHistory.GroundsSlot, same.1] using slot
  · simp only [ModeExecutorBase.vehicleStatusReceived, ModeExecutorBase.vehicleStatusUpdated]
    split
    · split
      · split <;> simp [WaitHistory.Grounds, WaitHistory.Current]
      · simp [WaitHistory.Grounds, WaitHistory.Current]
    · simp

theorem modeCompleted (msg : ModeCompleted) (kinds : KindsKept ⟨process, []⟩)
    (before : Grounded history ⟨process, []⟩) :
    Grounded { history with current := none }
      (process.applied (process.executor.modeCompletedReceived msg) []) := by
  have idle : Grounded { history with current := none } ⟨process, []⟩ :=
    ⟨before.counted, before.slot, by simp, before.recorded, before.satisfied⟩
  refine idle.applied ?_ ?_ (by simp)
  · have slot := before.slot.mono (.of_same rfl : { history with current := none }.Extends history)
    simpa [WaitHistory.GroundsSlot,
      ModeExecutorBase.modeCompletedReceived_currentWaitVehicleStatus] using slot
  · simp only [ModeExecutorBase.modeCompletedReceived]
    split
    · cases held : process.executor.currentScheduledMode.onCompletedCallback with
      | none => simp
      | some onCompleted =>
          obtain ⟨id, rfl⟩ := kinds.slots.scheduled onCompleted (by simp [held])
          simp [WaitHistory.Grounds]
    · simp

theorem request (request : Request) (before : Grounded history ⟨process, .user :: rest⟩) :
    Grounded (history.noteRequest request process.executor.isArmed)
      ⟨(process.request request).1, (process.request request).2 ++ .user :: rest⟩ := by
  have extended := WaitHistory.extends_noteRequest history request process.executor.isArmed
  have last : ∀ check, request.runCheck? = some check →
      (history.noteRequest request process.executor.isArmed).conditions[process.waitingRequests]? =
        some (check, check.heldAtCall process.executor.isArmed) := by
    intro check kind
    have number : process.waitingRequests = history.conditions.length := before.counted.symm
    simp [WaitHistory.noteRequest, kind, number]
  have armed : (process.request request).1.executor.isArmed = process.executor.isArmed := by
    cases request <;>
      simp only [ExecutorProcess.request, ModeExecutorBase.takeoff, ModeExecutorBase.land,
        ModeExecutorBase.rtl, ModeExecutorBase.scheduleMode, ModeExecutorBase.scheduleModeCommand,
        ModeExecutorBase.arm, ModeExecutorBase.disarm, ModeExecutorBase.waitReadyToArm,
        ModeExecutorBase.waitUntilDisarmed] <;>
      split <;> rfl
  constructor
  · cases request <;>
      simp [WaitHistory.noteRequest, Request.runCheck?, ExecutorProcess.request,
        ExecutorProcess.apply, before.counted]
  · rcases request_currentWaitVehicleStatus process rest request with
      same | ⟨fills, check, kind, filled⟩
    · have slot := before.slot.mono extended
      simpa [WaitHistory.GroundsSlot, same] using slot
    · intro id other holds installed
      simp only [filled, WaitForVehicleStatusCondition.activate, Option.some.injEq,
        CompletedCallback.waiting.injEq] at holds installed
      subst holds installed
      exact ⟨_, last check kind⟩
  · intro task member
    rcases List.mem_append.mp member with new | old
    · cases request with
      | scheduleMode | takeoff | land | rtl =>
          revert new
          simp only [ExecutorProcess.request, ModeExecutorBase.takeoff, ModeExecutorBase.land,
            ModeExecutorBase.rtl, ModeExecutorBase.scheduleMode,
            ModeExecutorBase.scheduleModeCommand]
          split <;> simp +contextual [ExecutorProcess.apply, WaitHistory.Grounds, or_imp]
      | arm | disarm =>
          revert new
          simp only [ExecutorProcess.request, ModeExecutorBase.arm, ModeExecutorBase.disarm]
          split
          · rename_i isArmed
            rintro new
            obtain rfl : task = .hook (.completed (.waiting process.waitingRequests) .success) := by
              simpa [ExecutorProcess.apply] using new
            exact fun _ => ⟨_, _, last _ rfl, .inl (by simpa [RunCheck.heldAtCall] using isArmed)⟩
          · rintro new
            simp only [ExecutorProcess.apply, List.map_cons, List.map_nil, List.mem_singleton,
              Task.executor.injEq] at new
            subst new
            exact ⟨_, last _ rfl⟩
      | waitReadyToArm | waitUntilDisarmed =>
          revert new
          simp only [ExecutorProcess.request, ModeExecutorBase.waitReadyToArm,
            ModeExecutorBase.waitUntilDisarmed]
          split
          · rename_i isArmed
            rintro new
            obtain rfl : task = .hook (.completed (.waiting process.waitingRequests) .success) := by
              simpa [ExecutorProcess.apply] using new
            exact fun _ => ⟨_, _, last _ rfl, .inl (by simpa [RunCheck.heldAtCall] using isArmed)⟩
          · simp [ExecutorProcess.apply]
    · have grounds := before.tasks task (by simpa using old)
      exact WaitHistory.grounds_of_isArmed armed (grounds.mono extended rfl)
  · have same : (process.request request).1.invoked = process.invoked := by
      cases request <;> rfl
    exact before.recorded.trans same.symm
  · exact fun call member id isWaiting success =>
      (before.satisfied call member id isWaiting success).mono extended

theorem enter (hook : ModeExecutorBase.Hook CompletedCallback)
    (before : Grounded history ⟨process, .executor (.hook hook) :: rest⟩) :
    Grounded (waitRecorder.task history process (.executor (.hook hook)) .proceed)
      ⟨(process.enter hook).1, .user :: rest⟩ := by
  have grounds := before.tasks _ List.mem_cons_self
  have older : ∀ task, Task.executor task ∈ Task.user :: rest →
      history.Grounds process.executor task := fun task member =>
    before.tasks task (List.mem_cons_of_mem _ (by simpa using member))
  cases hook with
  | completed onCompleted result =>
      refine ⟨before.counted, before.slot, ?_, ?_, ?_⟩
      · exact fun task member => (older task member).mono (.of_same rfl) rfl
      · simp [waitRecorder, ExecutorProcess.enter, before.recorded]
      · intro call member id isWaiting success
        rcases List.mem_append.mp member with old | new
        · exact before.satisfied call old id isWaiting success
        · obtain rfl := List.mem_singleton.mp new
          obtain rfl : onCompleted = .waiting id := isWaiting
          exact grounds success
  | onActivate | onDeactivate | onFailsafeDeferred | mode =>
      exact ⟨before.counted, before.slot, older, before.recorded, before.satisfied⟩

theorem step {config next : Config} {input : Input} (before : Grounded history config)
    (kinds : KindsKept config) (stepped : machine.step config input = some next) :
    Grounded (waitRecorder.record history config input) next := by
  cases step_does stepped with
  | vehicleStatus process msg => exact before.vehicleStatus msg
  | modeCompleted process msg => exact before.modeCompleted msg kinds
  | userEvent process =>
      exact ⟨before.counted, before.slot, by simp, before.recorded, before.satisfied⟩
  | enter process rest hook => exact before.enter hook
  | command process rest task result awaits =>
      have internal : ∀ hook, task ≠ .hook hook := by
        rintro hook rfl
        cases awaits
      have same : waitRecorder.record history ⟨process, .executor task :: rest⟩
          (.command result) = history := by
        cases task <;> first | rfl | cases awaits
      rw [same]
      exact before.resumed result internal
  | resume process rest task awaits internal =>
      have same : waitRecorder.record history ⟨process, .executor task :: rest⟩ .proceed =
          history := by
        cases task with
        | hook hook => exact absurd rfl (internal hook)
        | _ => rfl
      rw [same]
      exact before.resumed .success internal
  | request process rest request => exact before.request request
  | ret process rest =>
      exact ⟨before.counted, before.slot,
        fun task member => before.tasks task (List.mem_cons_of_mem _ member), before.recorded,
        before.satisfied⟩

end Grounded

/-- What holds of a history and its configuration in every run that meets the condition. -/
private structure WaitInvariant (history : WaitHistory) (config : Config) : Prop where
  conserved : Conserved .waiting config
  kinds : KindsKept config
  grounded : Grounded history config
  asserted : config.state.executor.currentWaitVehicleStatus.assertionFailed = false

private theorem waitInvariant_of_reaches {registered : Bool} {id : UInt8}
    {activation : Activation} {ownedMode : ModeBase} {config : WaitConfig}
    (reached : waitMachine.Reaches (fun config => WaitSlotFreeWhenFilled config.forget)
      (waitInitial registered id activation ownedMode) config) :
    WaitInvariant config.state.history config.forget := by
  refine reached.recorded_invariant ?_ ?_
  · exact ⟨conserved_initial registered id activation ownedMode, kindsKept_initial ..,
      ⟨rfl, by simp [WaitHistory.GroundsSlot, waitInitial, initial],
        by simp [waitInitial], rfl, by simp [waitInitial]⟩, rfl⟩
  · intro history config input next before free stepped
    exact ⟨conserved_step before.conserved (waiting_not_lost before.kinds free) stepped,
      kindsKept_step before.kinds stepped, before.grounded.step before.kinds stepped,
      waitAsserted_step before.asserted free stepped⟩

/-- In every run in which a request finds the wait slot empty when it fills it, whatever user code
requests in its callbacks. -/
theorem wait_callbacks_accounted (registered : Bool) (id : UInt8) (activation : Activation)
    (ownedMode : ModeBase) (config : WaitConfig)
    (reached : waitMachine.Reaches (fun config => WaitSlotFreeWhenFilled config.forget)
      (waitInitial registered id activation ownedMode) config) :
    WaitCallbacksAccounted config := by
  have invariant := waitInvariant_of_reaches reached
  exact ⟨invariant.conserved.nodup,
    fun quiescent number requested =>
      invariant.conserved.calledOrHeld invariant.kinds quiescent requested,
    invariant.grounded.recorded, invariant.grounded.satisfied, invariant.asserted⟩

/-- A wait for the preflight checks, then arming, as an executor does it; a message in between. -/
theorem wait_callbacks_accounted_in_turn :
    ∃ config : WaitConfig, config.state.state.waitingRequests = 2 ∧
      config.state.state.invoked.length = 2 ∧ config.agenda = [] ∧
      WaitCallbacksAccounted config := by
  obtain ⟨config, reached, requests, calls, quiescent⟩ := Lib.Machine.reaches_of_run_any
    waitMachine (fun config => WaitSlotFreeWhenFilled config.forget)
    (waitInitial true 1 .activateAlways ⟨100, false, false, false, false, 0, none⟩)
    (fun config => config.state.state.waitingRequests = 2 ∧
      config.state.state.invoked.length = 2 ∧ config.agenda = [])
    ([.vehicleStatus ⟨1, 4, 1, false, 0, false⟩, .proceed, .proceed, .request .waitReadyToArm,
      .ret, .proceed, .proceed, .proceed, .proceed,
      .vehicleStatus ⟨1, 4, 1, false, 0, true⟩, .proceed, .proceed, .proceed, .proceed, .proceed,
      .request (.arm true), .command .success, .ret,
      .vehicleStatus ⟨2, 4, 1, false, 0, true⟩, .proceed, .proceed, .proceed, .proceed, .proceed,
      .ret])
    (by decide)
  exact ⟨config, requests, calls, quiescent, wait_callbacks_accounted _ _ _ _ config reached⟩

/-- Arming while a wait for the preflight checks is pending: the first callback is overwritten. It
is neither called nor stored, and the assertion fails. -/
theorem arm_overwrites_pending_wait :
    ∃ config : WaitConfig,
      waitMachine.Reaches Lib.Machine.unrestricted
        (waitInitial true 1 .activateAlways ⟨100, false, false, false, false, 0, none⟩) config ∧
      ¬ WaitCallbacksAccounted config := by
  obtain ⟨config, reached, quiescent, requests, missing, stored⟩ :=
    Lib.Machine.reaches_of_run_any
      waitMachine Lib.Machine.unrestricted
      (waitInitial true 1 .activateAlways ⟨100, false, false, false, false, 0, none⟩)
      (fun config => config.agenda = [] ∧ 0 < config.state.state.waitingRequests ∧
        CompletedCallback.waiting 0 ∉ config.state.state.invoked.map Prod.fst ∧
        config.state.state.executor.currentWaitVehicleStatus.onCompletedCallback ≠
          some (.waiting 0))
      [.userEvent, .request .waitReadyToArm, .request (.arm true), .command .success, .ret]
      (by decide)
  refine ⟨config, reached, fun accounted => ?_⟩
  rcases accounted.calledOrHeld quiescent 0 requests with ⟨called, -⟩ | ⟨-, held⟩
  · exact missing called
  · exact stored held

end ExecutorProcess

end Px4Ros2
