import Px4Ros2.Components.ModeExecutor
import Mathlib.Algebra.Group.Nat.Defs

/-! Where the callbacks passed to a mode executor are. Every task moves callbacks between the two
slots and the agenda; only an accepted command can overwrite one that a slot still holds. -/

set_option autoImplicit false

namespace Px4Ros2.ModeExecutorBase

variable {Callback : Type}

def heldCallbacks (executor : ModeExecutorBase Callback) : List Callback :=
  executor.currentScheduledMode.onCompletedCallback.toList ++
    executor.currentWaitVehicleStatus.onCompletedCallback.toList

def Task.callbacks : Task Callback → List Callback
  | .hook (.completed onCompleted _) => [onCompleted]
  | .sendScheduleMode _ _ onCompleted => [onCompleted]
  | .sendArmDisarm _ _ onCompleted => [onCompleted]
  | _ => []

/-- The callbacks that running a task drops without calling them. -/
def overwritten (executor : ModeExecutorBase Callback) (commandResult : Result) :
    Task Callback → List Callback
  | .sendScheduleMode _ _ _ =>
      if commandResult = .success then
        executor.currentScheduledMode.onCompletedCallback.toList
      else []
  | .sendArmDisarm _ _ _ =>
      if commandResult = .success then
        executor.currentWaitVehicleStatus.onCompletedCallback.toList
      else []
  | _ => []

/-- An active slot holds a callback. -/
def SlotsFilled (executor : ModeExecutorBase Callback) : Prop :=
  executor.currentScheduledMode.active = true →
    executor.currentScheduledMode.onCompletedCallback.isSome = true

def callbackCount (p : Callback → Bool)
    (after : ModeExecutorBase Callback × List (Task Callback)) : Nat :=
  after.1.heldCallbacks.countP p + (after.2.flatMap Task.callbacks).countP p

@[simp] theorem callbackCount_mk (p : Callback → Bool) (executor : ModeExecutorBase Callback)
    (tasks : List (Task Callback)) :
    callbackCount p (executor, tasks) =
      executor.heldCallbacks.countP p + (tasks.flatMap Task.callbacks).countP p := rfl

@[simp] theorem flatMap_callbacks_map_mode (tasks : List ModeBase.Task) :
    (tasks.map (@Task.mode Callback)).flatMap Task.callbacks = [] := by
  induction tasks with
  | nil => rfl
  | cons task tasks ih => simp [Task.callbacks]

theorem cancelScheduledMode_callbackCount (p : Callback → Bool)
    (executor : ModeExecutorBase Callback) :
    callbackCount p executor.cancelScheduledMode = executor.heldCallbacks.countP p := by
  unfold cancelScheduledMode
  split
  · cases held : executor.currentScheduledMode.onCompletedCallback <;>
      simp [heldCallbacks, ScheduledMode.release, held, Task.callbacks, List.countP_cons,
        Nat.add_comm]
  · simp

theorem cancelWaitVehicleStatus_callbackCount (p : Callback → Bool)
    (executor : ModeExecutorBase Callback) :
    callbackCount p executor.cancelWaitVehicleStatus = executor.heldCallbacks.countP p := by
  unfold cancelWaitVehicleStatus
  cases held : executor.currentWaitVehicleStatus.onCompletedCallback <;>
    simp [heldCallbacks, WaitForVehicleStatusCondition.release, held, Task.callbacks]

theorem updateWaitVehicleStatus_callbackCount (p : Callback → Bool)
    (executor : ModeExecutorBase Callback) (msg : VehicleStatus) :
    callbackCount p (executor.updateWaitVehicleStatus msg) =
      executor.heldCallbacks.countP p := by
  unfold updateWaitVehicleStatus
  split
  · rename_i held _
    split
    · simp [heldCallbacks, WaitForVehicleStatusCondition.release, held, Task.callbacks]
    · simp
  · simp

theorem modeCompletedReceived_callbackCount (p : Callback → Bool)
    (executor : ModeExecutorBase Callback) (msg : ModeCompleted) :
    callbackCount p (executor.modeCompletedReceived msg) =
      executor.heldCallbacks.countP p := by
  unfold modeCompletedReceived
  split
  · cases held : executor.currentScheduledMode.onCompletedCallback <;>
      simp [heldCallbacks, ScheduledMode.release, held, Task.callbacks, List.countP_cons,
        Nat.add_comm]
  · simp

theorem vehicleStatusReceived_callbackCount (p : Callback → Bool)
    (executor : ModeExecutorBase Callback) (msg : VehicleStatus) :
    callbackCount p (executor.vehicleStatusReceived msg) =
      executor.heldCallbacks.countP p := by
  unfold vehicleStatusReceived vehicleStatusUpdated
  split
  · dsimp only
    split
    · split <;> simp [heldCallbacks, Task.callbacks]
    · simp [heldCallbacks, Task.callbacks]
  · simp

/-- Running a task moves callbacks, calls one, or drops those it overwrites. -/
theorem resume_callbackCount (p : Callback → Bool) (executor : ModeExecutorBase Callback)
    (commandResult : Result) (task : Task Callback) (internal : ∀ hook, task ≠ .hook hook) :
    callbackCount p (executor.resume commandResult task) +
        (executor.overwritten commandResult task).countP p =
      executor.heldCallbacks.countP p + task.callbacks.countP p := by
  cases task with
  | hook hook => exact absurd rfl (internal hook)
  | mode task =>
      cases task <;> simp [resume, resumeMode, overwritten, heldCallbacks, Task.callbacks]
  | callOnActivate => simp [resume, overwritten, heldCallbacks, Task.callbacks]
  | callOnDeactivate reason => simp [resume, overwritten, Task.callbacks]
  | cancelScheduledMode =>
      simp [resume, overwritten, Task.callbacks, cancelScheduledMode_callbackCount]
  | cancelWaitVehicleStatus =>
      simp [resume, overwritten, Task.callbacks, cancelWaitVehicleStatus_callbackCount]
  | leaveCharge reason => simp [resume, overwritten, heldCallbacks, Task.callbacks]
  | sendScheduleMode modeId cmd onCompleted =>
      by_cases accepted : commandResult = .success
      · simp only [resume, overwritten, accepted, bne_self_eq_false, Bool.false_eq_true, if_false,
          if_true, callbackCount_mk, heldCallbacks, ScheduledMode.activate, Task.callbacks,
          List.countP_append, Option.toList_some, List.flatMap_nil, List.countP_nil]
        omega
      · simp [resume, overwritten, accepted, Task.callbacks]
  | sendArmDisarm check cmd onCompleted =>
      by_cases accepted : commandResult = .success
      · simp only [resume, overwritten, accepted, bne_self_eq_false, Bool.false_eq_true, if_false,
          if_true, callbackCount_mk, heldCallbacks, WaitForVehicleStatusCondition.activate,
          Task.callbacks, List.countP_append, Option.toList_some, List.flatMap_nil,
          List.countP_nil]
        omega
      · simp [resume, overwritten, accepted, Task.callbacks]
  | reactivateOnModeSwitch msg changedToArmed gotActivated =>
      simp only [resume]
      split <;> simp [overwritten, Task.callbacks]
  | notifyFailsafeDeferred msg changedToArmed =>
      simp only [resume]
      split <;> simp [overwritten, Task.callbacks]
  | updateOwnedMode msg changedToArmed =>
      simp [resume, overwritten, heldCallbacks, Task.callbacks]
  | finishStatusUpdate msg =>
      simp [resume, overwritten, updateWaitVehicleStatus_callbackCount, Task.callbacks,
        heldCallbacks]

/-- Every callback that the slots hold or the tasks carry has the property. -/
def AllCallbacks (property : Callback → Prop)
    (after : ModeExecutorBase Callback × List (Task Callback)) : Prop :=
  (∀ callback ∈ after.1.heldCallbacks, property callback) ∧
    ∀ task ∈ after.2, ∀ callback ∈ task.callbacks, property callback

open Classical in
theorem allCallbacks_iff {property : Callback → Prop}
    {after : ModeExecutorBase Callback × List (Task Callback)} :
    AllCallbacks property after ↔
      callbackCount (fun callback => decide (¬ property callback)) after = 0 := by
  simp only [AllCallbacks, callbackCount, Nat.add_eq_zero_iff, List.countP_eq_zero,
    List.mem_flatMap, decide_eq_true_eq, not_not]
  constructor
  · rintro ⟨held, carried⟩
    exact ⟨held, fun callback ⟨task, member, carries⟩ => carried task member callback carries⟩
  · rintro ⟨held, carried⟩
    exact ⟨held, fun task member callback carries => carried callback ⟨task, member, carries⟩⟩

/-- Running a task brings no new callbacks in. -/
theorem resume_allCallbacks {property : Callback → Prop} {executor : ModeExecutorBase Callback}
    {task : Task Callback} (commandResult : Result) (internal : ∀ hook, task ≠ .hook hook)
    (before : AllCallbacks property (executor, [task])) :
    AllCallbacks property (executor.resume commandResult task) := by
  classical
  rw [allCallbacks_iff] at before ⊢
  have moved := resume_callbackCount (fun callback => decide (¬ property callback)) executor
    commandResult task internal
  simp only [callbackCount_mk, List.flatMap_cons, List.flatMap_nil, List.append_nil] at before
  omega

theorem modeCompletedReceived_allCallbacks {property : Callback → Prop}
    {executor : ModeExecutorBase Callback} (msg : ModeCompleted)
    (held : ∀ callback ∈ executor.heldCallbacks, property callback) :
    AllCallbacks property (executor.modeCompletedReceived msg) := by
  classical
  rw [allCallbacks_iff, modeCompletedReceived_callbackCount, List.countP_eq_zero]
  simpa using held

theorem vehicleStatusReceived_allCallbacks {property : Callback → Prop}
    {executor : ModeExecutorBase Callback} (msg : VehicleStatus)
    (held : ∀ callback ∈ executor.heldCallbacks, property callback) :
    AllCallbacks property (executor.vehicleStatusReceived msg) := by
  classical
  rw [allCallbacks_iff, vehicleStatusReceived_callbackCount, List.countP_eq_zero]
  simpa using held

theorem scheduleModeCommand_allCallbacks {property : Callback → Prop}
    {executor : ModeExecutorBase Callback} (modeId : ModeID) (cmd : VehicleCommand)
    {onCompleted : Callback} (forced : Bool)
    (held : ∀ callback ∈ executor.heldCallbacks, property callback)
    (passed : property onCompleted) :
    AllCallbacks property (executor.scheduleModeCommand modeId cmd onCompleted forced) := by
  unfold scheduleModeCommand
  split <;> exact ⟨held, by simpa [Task.callbacks] using passed⟩

/-- The scheduling slot holds callbacks of one kind, the wait slot callbacks of another. -/
structure SlotKinds (Scheduled Waiting : Callback → Prop)
    (executor : ModeExecutorBase Callback) : Prop where
  scheduled : ∀ callback ∈ executor.currentScheduledMode.onCompletedCallback, Scheduled callback
  waiting : ∀ callback ∈ executor.currentWaitVehicleStatus.onCompletedCallback, Waiting callback

/-- The task fills each slot with callbacks of its kind. -/
def Task.Kinds (Scheduled Waiting : Callback → Prop) : Task Callback → Prop
  | .sendScheduleMode _ _ onCompleted => Scheduled onCompleted
  | .sendArmDisarm _ _ onCompleted => Waiting onCompleted
  | _ => True

variable {Scheduled Waiting : Callback → Prop} {executor : ModeExecutorBase Callback}

theorem cancelScheduledMode_kinds (kinds : executor.SlotKinds Scheduled Waiting) :
    executor.cancelScheduledMode.1.SlotKinds Scheduled Waiting ∧
      ∀ task ∈ executor.cancelScheduledMode.2, task.Kinds Scheduled Waiting := by
  unfold cancelScheduledMode
  split
  · refine ⟨⟨by simp [ScheduledMode.release], kinds.waiting⟩, ?_⟩
    cases executor.currentScheduledMode.onCompletedCallback <;> simp [Task.Kinds]
  · exact ⟨kinds, by simp⟩

theorem modeCompletedReceived_kinds (kinds : executor.SlotKinds Scheduled Waiting)
    (msg : ModeCompleted) :
    (executor.modeCompletedReceived msg).1.SlotKinds Scheduled Waiting ∧
      ∀ task ∈ (executor.modeCompletedReceived msg).2, task.Kinds Scheduled Waiting := by
  unfold modeCompletedReceived
  split
  · refine ⟨⟨by simp [ScheduledMode.release], kinds.waiting⟩, ?_⟩
    cases executor.currentScheduledMode.onCompletedCallback <;> simp [Task.Kinds]
  · exact ⟨kinds, by simp⟩

theorem cancelWaitVehicleStatus_kinds (kinds : executor.SlotKinds Scheduled Waiting) :
    executor.cancelWaitVehicleStatus.1.SlotKinds Scheduled Waiting ∧
      ∀ task ∈ executor.cancelWaitVehicleStatus.2, task.Kinds Scheduled Waiting := by
  unfold cancelWaitVehicleStatus
  split
  · exact ⟨⟨kinds.scheduled, by simp [WaitForVehicleStatusCondition.release]⟩,
      by simp [Task.Kinds]⟩
  · exact ⟨kinds, by simp⟩

theorem updateWaitVehicleStatus_kinds (kinds : executor.SlotKinds Scheduled Waiting)
    (msg : VehicleStatus) :
    (executor.updateWaitVehicleStatus msg).1.SlotKinds Scheduled Waiting ∧
      ∀ task ∈ (executor.updateWaitVehicleStatus msg).2, task.Kinds Scheduled Waiting := by
  unfold updateWaitVehicleStatus
  split
  · split
    · exact ⟨⟨kinds.scheduled, by simp [WaitForVehicleStatusCondition.release]⟩,
        by simp [Task.Kinds]⟩
    · exact ⟨kinds, by simp⟩
  · exact ⟨kinds, by simp⟩

theorem vehicleStatusReceived_kinds (kinds : executor.SlotKinds Scheduled Waiting)
    (msg : VehicleStatus) :
    (executor.vehicleStatusReceived msg).1.SlotKinds Scheduled Waiting ∧
      ∀ task ∈ (executor.vehicleStatusReceived msg).2, task.Kinds Scheduled Waiting := by
  unfold vehicleStatusReceived vehicleStatusUpdated
  split
  · dsimp only
    split
    · split <;> exact ⟨⟨kinds.scheduled, kinds.waiting⟩, by simp [Task.Kinds]⟩
    · exact ⟨⟨kinds.scheduled, kinds.waiting⟩, by simp [Task.Kinds]⟩
  · exact ⟨kinds, by simp⟩

/-- No task mixes the two kinds up. -/
theorem resume_kinds (kinds : executor.SlotKinds Scheduled Waiting) (commandResult : Result)
    {task : Task Callback} (taskKinds : task.Kinds Scheduled Waiting) :
    (executor.resume commandResult task).1.SlotKinds Scheduled Waiting ∧
      ∀ next ∈ (executor.resume commandResult task).2, next.Kinds Scheduled Waiting := by
  cases task with
  | hook hook => exact ⟨kinds, by simp [resume]⟩
  | mode task =>
      cases task <;>
        exact ⟨⟨kinds.scheduled, kinds.waiting⟩, by simp [resume, resumeMode, Task.Kinds]⟩
  | callOnActivate | callOnDeactivate | leaveCharge =>
      exact ⟨⟨kinds.scheduled, kinds.waiting⟩, by simp [resume, Task.Kinds]⟩
  | cancelScheduledMode => exact cancelScheduledMode_kinds kinds
  | cancelWaitVehicleStatus => exact cancelWaitVehicleStatus_kinds kinds
  | sendScheduleMode modeId cmd onCompleted =>
      simp only [resume]
      split
      · exact ⟨kinds, by simp [Task.Kinds]⟩
      · refine ⟨⟨?_, kinds.waiting⟩, by simp⟩
        simpa [ScheduledMode.activate, Task.Kinds] using taskKinds
  | sendArmDisarm check cmd onCompleted =>
      simp only [resume]
      split
      · exact ⟨kinds, by simp [Task.Kinds]⟩
      · refine ⟨⟨kinds.scheduled, ?_⟩, by simp⟩
        simpa [WaitForVehicleStatusCondition.activate, Task.Kinds] using taskKinds
  | reactivateOnModeSwitch msg changedToArmed gotActivated =>
      simp only [resume]
      split <;> exact ⟨kinds, by simp [Task.Kinds]⟩
  | notifyFailsafeDeferred msg changedToArmed =>
      simp only [resume]
      split <;> exact ⟨kinds, by simp [Task.Kinds]⟩
  | updateOwnedMode msg changedToArmed =>
      refine ⟨⟨kinds.scheduled, kinds.waiting⟩, ?_⟩
      simp only [resume, List.mem_append, List.mem_map, List.mem_singleton]
      rintro next (⟨task, _, rfl⟩ | rfl) <;> trivial
  | finishStatusUpdate msg =>
      have renamed : ({ executor with prevNavState := msg.navState }).SlotKinds
          Scheduled Waiting := ⟨kinds.scheduled, kinds.waiting⟩
      exact updateWaitVehicleStatus_kinds renamed msg

/-- What the other functions of the class leave alone: the scheduling slot changes only by being
emptied or by an accepted command. -/
theorem resume_currentScheduledMode (executor : ModeExecutorBase Callback)
    (commandResult : Result) (task : Task Callback) :
    (executor.resume commandResult task).1.currentScheduledMode = executor.currentScheduledMode ∨
    (executor.resume commandResult task).1.currentScheduledMode =
      executor.currentScheduledMode.release ∨
    ∃ modeId cmd onCompleted, task = .sendScheduleMode modeId cmd onCompleted ∧
      commandResult = .success ∧
      (executor.resume commandResult task).1.currentScheduledMode =
        executor.currentScheduledMode.activate modeId onCompleted := by
  cases task with
  | hook | callOnActivate | callOnDeactivate | leaveCharge | updateOwnedMode => exact .inl rfl
  | mode task => cases task <;> exact .inl rfl
  | cancelScheduledMode =>
      simp only [resume, cancelScheduledMode]
      split
      · exact .inr (.inl rfl)
      · exact .inl rfl
  | cancelWaitVehicleStatus =>
      simp only [resume, cancelWaitVehicleStatus]
      split <;> exact .inl rfl
  | sendScheduleMode modeId cmd onCompleted =>
      simp only [resume]
      by_cases accepted : commandResult = .success
      · exact .inr (.inr ⟨modeId, cmd, onCompleted, rfl, accepted, by simp [accepted]⟩)
      · exact .inl (by simp [accepted])
  | sendArmDisarm check cmd onCompleted =>
      simp only [resume]
      split <;> exact .inl rfl
  | reactivateOnModeSwitch msg changedToArmed gotActivated =>
      simp only [resume]
      split <;> exact .inl rfl
  | notifyFailsafeDeferred msg changedToArmed =>
      simp only [resume]
      split <;> exact .inl rfl
  | finishStatusUpdate msg =>
      simp only [resume, updateWaitVehicleStatus]
      split
      · split <;> exact .inl rfl
      · exact .inl rfl

/-- The wait slot changes only by being emptied or by an accepted command. -/
theorem resume_currentWaitVehicleStatus (executor : ModeExecutorBase Callback)
    (commandResult : Result) (task : Task Callback) :
    (executor.resume commandResult task).1.currentWaitVehicleStatus =
        executor.currentWaitVehicleStatus ∨
    (executor.resume commandResult task).1.currentWaitVehicleStatus =
      executor.currentWaitVehicleStatus.release ∨
    ∃ check cmd onCompleted, task = .sendArmDisarm check cmd onCompleted ∧
      commandResult = .success ∧
      (executor.resume commandResult task).1.currentWaitVehicleStatus =
        executor.currentWaitVehicleStatus.activate check onCompleted := by
  cases task with
  | hook | callOnActivate | callOnDeactivate | leaveCharge | updateOwnedMode => exact .inl rfl
  | mode task => cases task <;> exact .inl rfl
  | cancelScheduledMode =>
      simp only [resume, cancelScheduledMode]
      split <;> exact .inl rfl
  | cancelWaitVehicleStatus =>
      simp only [resume, cancelWaitVehicleStatus]
      split
      · exact .inr (.inl rfl)
      · exact .inl rfl
  | sendScheduleMode modeId cmd onCompleted =>
      simp only [resume]
      split <;> exact .inl rfl
  | sendArmDisarm check cmd onCompleted =>
      simp only [resume]
      by_cases accepted : commandResult = .success
      · exact .inr (.inr ⟨check, cmd, onCompleted, rfl, accepted, by simp [accepted]⟩)
      · exact .inl (by simp [accepted])
  | reactivateOnModeSwitch msg changedToArmed gotActivated =>
      simp only [resume]
      split <;> exact .inl rfl
  | notifyFailsafeDeferred msg changedToArmed =>
      simp only [resume]
      split <;> exact .inl rfl
  | finishStatusUpdate msg =>
      simp only [resume, updateWaitVehicleStatus]
      split
      · split
        · exact .inr (.inl rfl)
        · exact .inl rfl
      · exact .inl rfl

theorem vehicleStatusReceived_slots (executor : ModeExecutorBase Callback) (msg : VehicleStatus) :
    (executor.vehicleStatusReceived msg).1.currentWaitVehicleStatus =
        executor.currentWaitVehicleStatus ∧
      (executor.vehicleStatusReceived msg).1.currentScheduledMode =
        executor.currentScheduledMode := by
  simp only [vehicleStatusReceived, vehicleStatusUpdated]
  split
  · split
    · split <;> exact ⟨rfl, rfl⟩
    · exact ⟨rfl, rfl⟩
  · exact ⟨rfl, rfl⟩

theorem modeCompletedReceived_currentWaitVehicleStatus (executor : ModeExecutorBase Callback)
    (msg : ModeCompleted) :
    (executor.modeCompletedReceived msg).1.currentWaitVehicleStatus =
      executor.currentWaitVehicleStatus := by
  simp only [modeCompletedReceived]
  split <;> rfl

end Px4Ros2.ModeExecutorBase
