import Px4Ros2.Components.CallbackAccounting

/-! The callbacks passed to the scheduling functions. Each of them is somewhere: already called,
in the slot, or on the agenda, and only overwriting the slot can lose one. -/

set_option autoImplicit false

namespace Px4Ros2.ExecutorProcess

/-- The scheduling requests whose callbacks were called, in order. -/
def invokedScheduled (process : ExecutorProcess) : List Nat :=
  process.invoked.filterMap fun call => call.1.scheduledId?

/-- Every callback passed to a scheduling function is called at most once; at a quiescent point it
was called or is the one in `_current_scheduled_mode`; and `assert(!active())` never failed. -/
def ScheduledCallbacksAccounted (config : Config) : Prop :=
  config.state.invokedScheduled.Nodup ∧
  (config.agenda = [] → ∀ id < config.state.scheduledRequests,
    (id ∈ config.state.invokedScheduled ∧
      config.state.executor.currentScheduledMode.onCompletedCallback ≠ some (.scheduled id)) ∨
    (id ∉ config.state.invokedScheduled ∧
      config.state.executor.currentScheduledMode.onCompletedCallback = some (.scheduled id))) ∧
  config.state.executor.currentScheduledMode.assertionFailed = false

instance (config : Config) : Decidable (ScheduledCallbacksAccounted config) :=
  inferInstanceAs (Decidable (_ ∧ _ ∧ _))

/-- A scheduling request waits for the answer to its command. -/
def awaitsScheduleMode (config : Config) : Bool :=
  match config.agenda with
  | .executor (.sendScheduleMode _ _ _) :: _ => true
  | _ => false

/-- When the command of a scheduling request is accepted, `_current_scheduled_mode` holds no
callback. -/
def SlotFreeOnAcceptance (config : Config) (input : Input) : Prop :=
  awaitsScheduleMode config = true → input = .command .success →
    config.state.executor.currentScheduledMode.onCompletedCallback = none

instance (config : Config) (input : Input) : Decidable (SlotFreeOnAcceptance config input) :=
  inferInstanceAs (Decidable (_ → _ → _))

private theorem invokedScheduled_count (process : ExecutorProcess) (id : Nat) :
    process.invokedScheduled.count id =
      (process.invoked.map Prod.fst).count (.scheduled id) := by
  unfold invokedScheduled
  induction process.invoked with
  | nil => rfl
  | cons call calls ih =>
      obtain ⟨callback, result⟩ := call
      cases callback <;> simp_all [CompletedCallback.scheduledId?, List.count_cons]

private theorem mem_invokedScheduled {process : ExecutorProcess} {id : Nat} :
    id ∈ process.invokedScheduled ↔ CompletedCallback.scheduled id ∈ process.invoked.map Prod.fst := by
  rw [← List.count_pos_iff, invokedScheduled_count, List.count_pos_iff]

/-- What is overwritten is never a scheduled callback. -/
private theorem scheduled_not_lost {config : Config} {input : Input} (kinds : KindsKept config)
    (free : SlotFreeOnAcceptance config input) (id : Nat) :
    CompletedCallback.scheduled id ∉ lost config input := by
  have waiting : CompletedCallback.scheduled id ∉
      config.state.executor.currentWaitVehicleStatus.onCompletedCallback.toList := by
    intro member
    obtain ⟨_, same⟩ := kinds.slots.waiting _ (by simpa using member)
    cases same
  rcases config with ⟨process, agenda⟩
  simp only [lost]
  split
  · rename_i rest request
    cases request with
    | waitReadyToArm | waitUntilDisarmed =>
        simp only [requestOverwrites]
        split <;> first | exact waiting | simp
    | _ => simp [requestOverwrites]
  · rename_i task rest result
    cases task with
    | sendScheduleMode modeId cmd onCompleted =>
        simp only [ModeExecutorBase.overwritten]
        split
        · rename_i accepted
          have empty := free rfl (congrArg _ accepted)
          simp only at empty
          simp [empty]
        · simp
    | sendArmDisarm check cmd onCompleted =>
        simp only [ModeExecutorBase.overwritten]
        split
        · exact waiting
        · simp
    | _ => simp [ModeExecutorBase.overwritten]
  · simp

/-- The slot stays filled and its assertion holds as long as it is free when it is activated. -/
private def SlotSound (executor : ModeExecutorBase CompletedCallback) : Prop :=
  executor.SlotsFilled ∧ executor.currentScheduledMode.assertionFailed = false

private theorem slotSound_of_change {executor after : ModeExecutorBase CompletedCallback}
    (before : SlotSound executor)
    (change : after.currentScheduledMode = executor.currentScheduledMode ∨
      after.currentScheduledMode = executor.currentScheduledMode.release ∨
      ∃ modeId onCompleted, executor.currentScheduledMode.onCompletedCallback = none ∧
        after.currentScheduledMode =
          executor.currentScheduledMode.activate modeId onCompleted) : SlotSound after := by
  obtain ⟨filled, asserted⟩ := before
  rcases change with same | released | ⟨modeId, onCompleted, free, activated⟩
  · exact ⟨by simpa [ModeExecutorBase.SlotsFilled, same] using filled, by rw [same]; exact asserted⟩
  · refine ⟨?_, by rw [released]; exact asserted⟩
    simp [ModeExecutorBase.SlotsFilled, released, ScheduledMode.release, ScheduledMode.active]
  · have inactive : executor.currentScheduledMode.active = false := by
      cases activity : executor.currentScheduledMode.active with
      | false => rfl
      | true =>
          have some := filled activity
          simp [free] at some
    refine ⟨?_, ?_⟩
    · simp [ModeExecutorBase.SlotsFilled, activated, ScheduledMode.activate]
    · rw [activated]
      simp [ScheduledMode.activate, asserted, inactive]

private theorem slotSound_resume {process : ExecutorProcess}
    {task : ModeExecutorBase.Task CompletedCallback} {result : Result}
    (before : SlotSound process.executor)
    (free : ∀ modeId cmd onCompleted, task = .sendScheduleMode modeId cmd onCompleted →
      result = .success → process.executor.currentScheduledMode.onCompletedCallback = none) :
    SlotSound (process.executor.resume result task).1 := by
  refine slotSound_of_change before ?_
  rcases process.executor.resume_currentScheduledMode result task with
    same | released | ⟨modeId, cmd, onCompleted, shape, accepted, activated⟩
  · exact .inl same
  · exact .inr (.inl released)
  · exact .inr (.inr ⟨modeId, onCompleted, free _ _ _ shape accepted, activated⟩)

/-- No request fills the slot before its command is answered. -/
private theorem request_currentScheduledMode (process : ExecutorProcess) (request : Request) :
    (process.request request).1.executor.currentScheduledMode =
      process.executor.currentScheduledMode := by
  cases request <;>
    simp only [ExecutorProcess.request, ModeExecutorBase.takeoff, ModeExecutorBase.land,
      ModeExecutorBase.rtl, ModeExecutorBase.scheduleMode, ModeExecutorBase.scheduleModeCommand,
      ModeExecutorBase.arm, ModeExecutorBase.disarm, ModeExecutorBase.waitReadyToArm,
      ModeExecutorBase.waitUntilDisarmed] <;>
    split <;> rfl

private theorem slotSound_step {config next : Config} {input : Input}
    (before : SlotSound config.state.executor) (free : SlotFreeOnAcceptance config input)
    (stepped : machine.step config input = some next) : SlotSound next.state.executor := by
  cases step_does stepped with
  | vehicleStatus process msg =>
      exact slotSound_of_change before
        (.inl (process.executor.vehicleStatusReceived_slots msg).2)
  | modeCompleted process msg =>
      refine slotSound_of_change before ?_
      simp only [applied, ModeExecutorBase.modeCompletedReceived]
      split
      · exact .inr (.inl rfl)
      · exact .inl rfl
  | userEvent | ret => exact before
  | enter process rest hook => cases hook <;> exact before
  | command process rest task result awaits =>
      refine slotSound_resume before ?_
      rintro modeId cmd onCompleted rfl rfl
      exact free rfl rfl
  | resume process rest task awaits internal =>
      refine slotSound_resume before ?_
      rintro modeId cmd onCompleted rfl
      cases awaits
  | request process rest request =>
      exact slotSound_of_change before (.inl (request_currentScheduledMode process request))

private structure ScheduledInvariant (config : Config) : Prop where
  conserved : Conserved .scheduled config
  kinds : KindsKept config
  sound : SlotSound config.state.executor

private theorem scheduledInvariant_of_reaches {registered : Bool} {id : UInt8}
    {activation : Activation} {ownedMode : ModeBase} {config : Config}
    (reached : machine.Reaches SlotFreeOnAcceptance (initial registered id activation ownedMode)
      config) : ScheduledInvariant config := by
  induction reached with
  | refl =>
      exact ⟨conserved_initial registered id activation ownedMode, kindsKept_initial ..,
        by simp [ModeExecutorBase.SlotsFilled, initial, ScheduledMode.active], rfl⟩
  | step _ free stepped before =>
      exact ⟨conserved_step before.conserved (scheduled_not_lost before.kinds free) stepped,
        kindsKept_step before.kinds stepped, slotSound_step before.sound free stepped⟩

/-- In every run in which an accepted scheduling command finds the slot free, whatever the user
code does in its callbacks, no scheduled callback is lost or called twice. -/
theorem scheduled_callbacks_accounted (registered : Bool) (id : UInt8) (activation : Activation)
    (ownedMode : ModeBase) (config : Config)
    (reached : machine.Reaches SlotFreeOnAcceptance (initial registered id activation ownedMode)
      config) : ScheduledCallbacksAccounted config := by
  have invariant := scheduledInvariant_of_reaches reached
  refine ⟨?_, ?_, invariant.sound.2⟩
  · rw [List.nodup_iff_count_le_one]
    exact fun id => invokedScheduled_count config.state id ▸ invariant.conserved.nodup id
  · intro quiescent id issued
    rw [mem_invokedScheduled]
    exact invariant.conserved.calledOrHeld invariant.kinds quiescent issued

/-- An executor that is armed and in charge, with its user code in `onActivate`. -/
private def activated : List Input :=
  [.vehicleStatus ⟨VehicleStatus.armingStateArmed, 100, 1, false, 0, true⟩, .proceed, .proceed]

private def ownedMode : ModeBase := { id := 100, activateEvenWhileDisarmed := false }

/-- RTL is scheduled over a takeoff whose callback is passive. -/
theorem scheduled_callbacks_accounted_passive :
    ∃ config, machine.Reaches SlotFreeOnAcceptance
      (initial true 1 .activateOnlyWhenArmed ownedMode) config ∧
      config.state.scheduledRequests = 2 ∧ ScheduledCallbacksAccounted config := by
  obtain ⟨config, reached, requests⟩ := Lib.Machine.reaches_of_run_any machine
    SlotFreeOnAcceptance (initial true 1 .activateOnlyWhenArmed ownedMode)
    (fun config => config.state.scheduledRequests = 2)
    (activated ++ [.request (.takeoff none none), .proceed, .command .success,
      .request .rtl, .proceed, .proceed, .ret, .command .success]) (by decide)
  exact ⟨config, reached, requests,
    scheduled_callbacks_accounted true 1 .activateOnlyWhenArmed ownedMode config reached⟩

/-- RTL is scheduled over a takeoff whose callback schedules hold as it is cancelled. The hold
request is overwritten: its callback is neither called nor held, and the assertion fails. -/
theorem reschedule_when_cancelled_loses_callback :
    ∃ config, machine.Reaches Lib.Machine.unrestricted
      (initial true 1 .activateOnlyWhenArmed ownedMode) config ∧
      ¬ ScheduledCallbacksAccounted config :=
  Lib.Machine.reaches_of_run_any _ _ _ _
    (activated ++ [.request (.takeoff none none), .proceed, .command .success,
      .request .rtl, .proceed, .proceed,
      .request (.scheduleMode kModeIDLoiter false), .proceed, .command .success, .ret,
      .command .success, .ret, .proceed, .proceed, .proceed, .proceed]) (by decide)

end Px4Ros2.ExecutorProcess
