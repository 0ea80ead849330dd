import Px4Ros2.Components.ExecutorProcess

/-! Counting callbacks along the runs of a mode executor. A callback is called already, in a slot,
or on the agenda; a step adds the callback that a request passes in and loses those it
overwrites. -/

set_option autoImplicit false

namespace Px4Ros2.ExecutorProcess

def Task.callbacks : Task → List CompletedCallback
  | .executor task => task.callbacks
  | .user => []

/-- The callback that a request passes in. -/
def passed (process : ExecutorProcess) : Request → CompletedCallback
  | .scheduleMode _ _ | .takeoff _ _ | .land | .rtl => .scheduled process.scheduledRequests
  | .arm _ | .disarm _ | .waitReadyToArm | .waitUntilDisarmed =>
      .waiting process.waitingRequests

/-- The callbacks that a request drops before it returns to its caller. -/
def requestOverwrites (process : ExecutorProcess) : Request → List CompletedCallback
  | .waitReadyToArm =>
      if process.executor.isArmed then []
      else process.executor.currentWaitVehicleStatus.onCompletedCallback.toList
  | .waitUntilDisarmed =>
      if process.executor.isArmed then
        process.executor.currentWaitVehicleStatus.onCompletedCallback.toList
      else []
  | _ => []

/-- The callbacks that enter the process with this input. -/
def issued (config : Config) (input : Input) : List CompletedCallback :=
  match config.agenda, input with
  | .user :: _, .request request => [config.state.passed request]
  | _, _ => []

/-- The callbacks that are dropped without being called. -/
def lost (config : Config) (input : Input) : List CompletedCallback :=
  match config.agenda, input with
  | .user :: _, .request request => config.state.requestOverwrites request
  | .executor task :: _, .command result => config.state.executor.overwritten result task
  | _, _ => []

/-- How many callbacks with the property were called, are held by a slot, or are on the agenda. -/
def occurrences (p : CompletedCallback → Bool) (config : Config) : Nat :=
  (config.state.invoked.map Prod.fst).countP p + config.state.executor.heldCallbacks.countP p +
    (config.agenda.flatMap Task.callbacks).countP p

variable {p : CompletedCallback → Bool} {process : ExecutorProcess} {rest : List Task}

@[simp] theorem occurrences_mk {agenda : List Task} :
    occurrences p ⟨process, agenda⟩ =
      (process.invoked.map Prod.fst).countP p + process.executor.heldCallbacks.countP p +
        (agenda.flatMap Task.callbacks).countP p := rfl

theorem flatMap_callbacks_map_executor
    (tasks : List (ModeExecutorBase.Task CompletedCallback)) :
    (tasks.map Task.executor).flatMap Task.callbacks =
      tasks.flatMap ModeExecutorBase.Task.callbacks := by
  simp [List.flatMap_map, Task.callbacks]

/-- A function of the executor keeps what was called. -/
theorem occurrences_applied
    (after : ModeExecutorBase CompletedCallback ×
      List (ModeExecutorBase.Task CompletedCallback)) :
    occurrences p (process.applied after rest) =
      (process.invoked.map Prod.fst).countP p + ModeExecutorBase.callbackCount p after +
        (rest.flatMap Task.callbacks).countP p := by
  simp only [applied, occurrences_mk, ModeExecutorBase.callbackCount, List.flatMap_append,
    List.countP_append, flatMap_callbacks_map_executor]
  omega

/-- A request brings its callback in and drops what it overwrites. -/
theorem occurrences_request (p : CompletedCallback → Bool) (process : ExecutorProcess)
    (rest : List Task) (request : Request) :
    occurrences p ⟨(process.request request).1, (process.request request).2 ++ rest⟩ +
        (process.requestOverwrites request).countP p =
      occurrences p ⟨process, rest⟩ + [process.passed request].countP p := by
  cases request with
  | scheduleMode modeId forced =>
      simp only [request, ModeExecutorBase.scheduleMode, ModeExecutorBase.scheduleModeCommand]
      split <;>
        simp [apply, Task.callbacks, ModeExecutorBase.Task.callbacks, requestOverwrites, passed,
          List.countP_cons] <;> omega
  | takeoff altitude heading =>
      simp only [request, ModeExecutorBase.takeoff, ModeExecutorBase.scheduleModeCommand]
      split <;>
        simp [apply, Task.callbacks, ModeExecutorBase.Task.callbacks, requestOverwrites, passed,
          List.countP_cons] <;> omega
  | land | rtl =>
      simp only [request, ModeExecutorBase.land, ModeExecutorBase.rtl,
        ModeExecutorBase.scheduleMode, ModeExecutorBase.scheduleModeCommand]
      split <;>
        simp [apply, Task.callbacks, ModeExecutorBase.Task.callbacks, requestOverwrites, passed,
          List.countP_cons] <;> omega
  | arm | disarm =>
      simp only [request, ModeExecutorBase.arm, ModeExecutorBase.disarm]
      split <;>
        simp [apply, Task.callbacks, ModeExecutorBase.Task.callbacks, requestOverwrites, passed,
          List.countP_cons] <;> omega
  | waitReadyToArm | waitUntilDisarmed =>
      simp only [request, ModeExecutorBase.waitReadyToArm, ModeExecutorBase.waitUntilDisarmed]
      split <;>
        simp_all [apply, Task.callbacks, ModeExecutorBase.Task.callbacks, requestOverwrites,
          passed, List.countP_cons, ModeExecutorBase.heldCallbacks,
          WaitForVehicleStatusCondition.activate] <;> omega

theorem occurrences_enter (rest : List Task) (hook : ModeExecutorBase.Hook CompletedCallback) :
    occurrences p ⟨(process.enter hook).1, .user :: rest⟩ =
      occurrences p ⟨process, .executor (.hook hook) :: rest⟩ := by
  cases hook with
  | completed onCompleted result =>
      simp [enter, Task.callbacks, ModeExecutorBase.Task.callbacks, List.countP_cons]
      omega
  | onActivate | onDeactivate | onFailsafeDeferred | mode =>
      simp [enter, Task.callbacks, ModeExecutorBase.Task.callbacks]

theorem occurrences_resume (p : CompletedCallback → Bool) (process : ExecutorProcess)
    (rest : List Task) {task : ModeExecutorBase.Task CompletedCallback} (result : Result)
    (internal : ∀ hook, task ≠ .hook hook) :
    occurrences p (process.applied (process.executor.resume result task) rest) +
        (process.executor.overwritten result task).countP p =
      occurrences p ⟨process, .executor task :: rest⟩ := by
  have moved := process.executor.resume_callbackCount p result task internal
  rw [occurrences_applied]
  simp only [occurrences_mk, List.flatMap_cons, List.countP_append, Task.callbacks]
  omega

/-- Every callback is accounted for in every step. -/
theorem occurrences_step {config next : Config} {input : Input}
    (stepped : machine.step config input = some next) :
    occurrences p next + (lost config input).countP p =
      occurrences p config + (issued config input).countP p := by
  cases step_does stepped with
  | vehicleStatus process msg =>
      simp [occurrences_applied, ModeExecutorBase.vehicleStatusReceived_callbackCount, lost, issued]
  | modeCompleted process msg =>
      simp [occurrences_applied, ModeExecutorBase.modeCompletedReceived_callbackCount, lost, issued]
  | userEvent process => simp [lost, issued, Task.callbacks]
  | enter process rest hook => simpa [lost, issued] using occurrences_enter rest hook
  | command process rest task result awaits =>
      have internal : ∀ hook, task ≠ .hook hook := by
        rintro hook rfl
        cases awaits
      simpa [lost, issued] using occurrences_resume p process rest result internal
  | resume process rest task awaits internal =>
      have kept : process.executor.overwritten .success task = [] := by
        cases task with
        | sendScheduleMode | sendArmDisarm => cases awaits
        | _ => rfl
      have moved := occurrences_resume p process rest .success internal
      simpa [lost, issued, kept] using moved
  | request process rest request =>
      simpa [lost, issued, Task.callbacks] using
        occurrences_request p process (.user :: rest) request
  | ret process rest => simp [lost, issued, Task.callbacks]

/-! ### The two kinds of callbacks -/

def IsScheduled (callback : CompletedCallback) : Prop :=
  ∃ id, callback = .scheduled id

def IsWaiting (callback : CompletedCallback) : Prop :=
  ∃ id, callback = .waiting id

def Task.Kinds : Task → Prop
  | .executor task => task.Kinds IsScheduled IsWaiting
  | .user => True

/-- Each slot and each task on the way to it has callbacks of its own kind. -/
structure KindsKept (config : Config) : Prop where
  slots : config.state.executor.SlotKinds IsScheduled IsWaiting
  tasks : ∀ task ∈ config.agenda, task.Kinds

private theorem kindsKept_applied (process : ExecutorProcess)
    {after : ModeExecutorBase CompletedCallback ×
      List (ModeExecutorBase.Task CompletedCallback)}
    (kinds : after.1.SlotKinds IsScheduled IsWaiting ∧
      ∀ task ∈ after.2, task.Kinds IsScheduled IsWaiting)
    (older : ∀ task ∈ rest, task.Kinds) : KindsKept (process.applied after rest) := by
  refine ⟨kinds.1, ?_⟩
  intro task member
  rcases List.mem_append.mp member with pushed | old
  · obtain ⟨inner, innerMember, rfl⟩ := List.mem_map.mp pushed
    exact kinds.2 inner innerMember
  · exact older task old

private theorem kindsKept_request (before : KindsKept ⟨process, rest⟩) (request : Request) :
    KindsKept ⟨(process.request request).1, (process.request request).2 ++ rest⟩ := by
  have slots := before.slots
  cases request with
  | scheduleMode | takeoff | land | rtl =>
      refine kindsKept_applied
        { process with scheduledRequests := process.scheduledRequests + 1 } ?_ before.tasks
      simp only [ModeExecutorBase.takeoff, ModeExecutorBase.land, ModeExecutorBase.rtl,
        ModeExecutorBase.scheduleMode, ModeExecutorBase.scheduleModeCommand]
      split <;> exact ⟨slots, by simp [ModeExecutorBase.Task.Kinds, IsScheduled]⟩
  | arm | disarm =>
      refine kindsKept_applied
        { process with waitingRequests := process.waitingRequests + 1 } ?_ before.tasks
      simp only [ModeExecutorBase.arm, ModeExecutorBase.disarm]
      split <;> exact ⟨slots, by simp [ModeExecutorBase.Task.Kinds, IsWaiting]⟩
  | waitReadyToArm | waitUntilDisarmed =>
      refine kindsKept_applied
        { process with waitingRequests := process.waitingRequests + 1 } ?_ before.tasks
      simp only [ModeExecutorBase.waitReadyToArm, ModeExecutorBase.waitUntilDisarmed]
      split
      all_goals first
        | exact ⟨slots, by simp [ModeExecutorBase.Task.Kinds]⟩
        | exact ⟨⟨slots.scheduled, by simp [WaitForVehicleStatusCondition.activate, IsWaiting]⟩,
            by simp⟩

theorem kindsKept_step {config next : Config} {input : Input} (before : KindsKept config)
    (stepped : machine.step config input = some next) : KindsKept next := by
  cases step_does stepped with
  | vehicleStatus process msg =>
      exact kindsKept_applied process (ModeExecutorBase.vehicleStatusReceived_kinds before.slots msg)
        before.tasks
  | modeCompleted process msg =>
      exact kindsKept_applied process (ModeExecutorBase.modeCompletedReceived_kinds before.slots msg)
        before.tasks
  | userEvent process => exact ⟨before.slots, by simp [Task.Kinds]⟩
  | enter process rest hook =>
      have older := (List.forall_mem_cons.mp before.tasks).2
      cases hook <;> exact ⟨before.slots, List.forall_mem_cons.mpr ⟨trivial, older⟩⟩
  | command process rest task result | resume process rest task =>
      obtain ⟨kind, older⟩ := List.forall_mem_cons.mp before.tasks
      exact kindsKept_applied process (ModeExecutorBase.resume_kinds before.slots _ kind) older
  | request process rest request =>
      exact kindsKept_request ⟨before.slots, before.tasks⟩ request
  | ret process rest => exact ⟨before.slots, (List.forall_mem_cons.mp before.tasks).2⟩

theorem kindsKept_initial (registered : Bool) (id : UInt8) (activation : Activation)
    (ownedMode : ModeBase) : KindsKept (initial registered id activation ownedMode) :=
  ⟨⟨by simp [initial], by simp [initial]⟩, by simp [initial]⟩

/-! ### Numbered callbacks -/

inductive CallbackKind where
  | scheduled
  | waiting

def CallbackKind.callback : CallbackKind → Nat → CompletedCallback
  | .scheduled => .scheduled
  | .waiting => .waiting

/-- How many callbacks of the kind were passed in so far. -/
def requests (process : ExecutorProcess) : CallbackKind → Nat
  | .scheduled => process.scheduledRequests
  | .waiting => process.waitingRequests

/-- Every callback that was passed in is somewhere, once. -/
def Conserved (kind : CallbackKind) (config : Config) : Prop :=
  ∀ id, occurrences (· == kind.callback id) config =
    if id < config.state.requests kind then 1 else 0

variable {kind : CallbackKind}

@[simp] theorem requests_applied
    (after : ModeExecutorBase CompletedCallback ×
      List (ModeExecutorBase.Task CompletedCallback)) :
    (process.applied after rest).state.requests kind = process.requests kind := by
  cases kind <;> rfl

@[simp] theorem requests_enter (hook : ModeExecutorBase.Hook CompletedCallback) :
    (process.enter hook).1.requests kind = process.requests kind := by
  cases kind <;> cases hook <;> rfl

theorem requests_request (request : Request) :
    (process.request request).1.requests kind =
      if process.passed request = kind.callback (process.requests kind) then
        process.requests kind + 1
      else process.requests kind := by
  cases kind <;> cases request <;>
    simp [requests, request, passed, CallbackKind.callback, apply]

/-- The callback passed in is the next of its kind. -/
theorem passed_eq_iff (request : Request) (id : Nat) :
    process.passed request = kind.callback id ↔
      id = process.requests kind ∧ process.passed request = kind.callback (process.requests kind) := by
  cases kind <;> cases request <;> simp [requests, passed, CallbackKind.callback] <;> omega

theorem requests_step {config next : Config} {input : Input}
    (stepped : machine.step config input = some next) (id : Nat) :
    (if id < next.state.requests kind then 1 else 0) =
      (if id < config.state.requests kind then 1 else 0) +
        (issued config input).countP (· == kind.callback id) := by
  cases step_does stepped with
  | vehicleStatus | modeCompleted | userEvent | enter | command | resume | ret => simp [issued]
  | request process rest request =>
      simp only [issued, List.countP_singleton, beq_iff_eq, requests_request, passed_eq_iff request id]
      by_cases next : process.passed request = kind.callback (process.requests kind)
      · simp only [next, if_true, and_true]
        split <;> split <;> split <;> omega
      · simp [next]

/-- As long as no callback of the kind is overwritten, none is lost or doubled. -/
theorem conserved_step {config next : Config} {input : Input} (before : Conserved kind config)
    (kept : ∀ id, kind.callback id ∉ lost config input)
    (stepped : machine.step config input = some next) : Conserved kind next := by
  intro id
  have moved := occurrences_step (p := (· == kind.callback id)) stepped
  have nothing : (lost config input).countP (· == kind.callback id) = 0 := by
    rw [List.countP_eq_zero]
    intro callback member same
    obtain rfl : callback = kind.callback id := by simpa using same
    exact kept id member
  rw [nothing, before id, Nat.add_zero] at moved
  rw [moved, requests_step stepped id]

theorem conserved_initial (registered : Bool) (id : UInt8) (activation : Activation)
    (ownedMode : ModeBase) : Conserved kind (initial registered id activation ownedMode) := by
  intro number
  cases kind <;> simp [initial, requests, ModeExecutorBase.heldCallbacks]

theorem Conserved.nodup {config : Config} (conserved : Conserved kind config) (id : Nat) :
    (config.state.invoked.map Prod.fst).count (kind.callback id) ≤ 1 := by
  have count := conserved id
  simp only [occurrences] at count
  rw [List.count]
  split at count <;> omega

/-- The slot for callbacks of the kind. -/
def stored (process : ExecutorProcess) : CallbackKind → Option CompletedCallback
  | .scheduled => process.executor.currentScheduledMode.onCompletedCallback
  | .waiting => process.executor.currentWaitVehicleStatus.onCompletedCallback

theorem KindsKept.count_held {config : Config} (kinds : KindsKept config) (id : Nat) :
    config.state.executor.heldCallbacks.count (kind.callback id) =
      if config.state.stored kind = some (kind.callback id) then 1 else 0 := by
  have single : ∀ slot : Option CompletedCallback,
      slot.toList.count (kind.callback id) = if slot = some (kind.callback id) then 1 else 0 := by
    intro slot
    cases slot <;> simp [List.count_singleton]
  rw [ModeExecutorBase.heldCallbacks, List.count_append]
  cases kind with
  | scheduled =>
      have other : CallbackKind.scheduled.callback id ∉
          config.state.executor.currentWaitVehicleStatus.onCompletedCallback.toList := by
        intro member
        obtain ⟨_, same⟩ := kinds.slots.waiting _ (by simpa using member)
        cases same
      rw [List.count_eq_zero.mpr other, Nat.add_zero, single, stored]
  | waiting =>
      have other : CallbackKind.waiting.callback id ∉
          config.state.executor.currentScheduledMode.onCompletedCallback.toList := by
        intro member
        obtain ⟨_, same⟩ := kinds.slots.scheduled _ (by simpa using member)
        cases same
      rw [List.count_eq_zero.mpr other, Nat.zero_add, single, stored]

/-- At a quiescent point a callback was called, or is the one in its slot. -/
theorem Conserved.calledOrHeld {config : Config} (conserved : Conserved kind config)
    (kinds : KindsKept config) (quiescent : config.agenda = []) {id : Nat}
    (requested : id < config.state.requests kind) :
    (kind.callback id ∈ config.state.invoked.map Prod.fst ∧
      config.state.stored kind ≠ some (kind.callback id)) ∨
    (kind.callback id ∉ config.state.invoked.map Prod.fst ∧
      config.state.stored kind = some (kind.callback id)) := by
  have count : (config.state.invoked.map Prod.fst).count (kind.callback id) +
      config.state.executor.heldCallbacks.count (kind.callback id) = 1 := by
    simpa [occurrences, quiescent, requested, List.count] using conserved id
  rw [kinds.count_held] at count
  by_cases held : config.state.stored kind = some (kind.callback id)
  · rw [if_pos held] at count
    exact .inr ⟨List.count_eq_zero.mp (by omega), held⟩
  · rw [if_neg held] at count
    exact .inl ⟨List.count_pos_iff.mp (by omega), held⟩

end Px4Ros2.ExecutorProcess
