import Px4Ros2.Lib.History
import Px4Ros2.Components.ExecutorProcess

/-! The activation life cycle of a mode executor: which vehicle status puts it in charge, when it
is activated again without a change of charge, and when its owned mode must not become active. -/

set_option autoImplicit false

namespace Px4Ros2

def VehicleStatus.isArmed (msg : VehicleStatus) : Bool :=
  msg.armingState == VehicleStatus.armingStateArmed

inductive ChargeEvent where
  | activated
  | deactivated
deriving DecidableEq, Repr

/-- The events alternate, the first one is an activation. -/
def Alternating (events : List ChargeEvent) : Prop :=
  ∀ i event, events[i]? = some event → (event = .activated ↔ i % 2 = 0)

namespace Alternating

variable {events : List ChargeEvent} {event : ChargeEvent}

theorem append (event : ChargeEvent) (alternating : Alternating events)
    (next : event = .activated ↔ events.length % 2 = 0) : Alternating (events ++ [event]) := by
  intro i other found
  rcases lt_trichotomy i events.length with before | rfl | after
  · rw [List.getElem?_append_left before] at found
    exact alternating i other found
  · obtain rfl : event = other := by simpa using found
    exact next
  · have missing : (events ++ [event])[i]? = none :=
      List.getElem?_eq_none (by rw [List.length_append]; exact after)
    rw [missing] at found
    cases found

theorem left {later : List ChargeEvent} (alternating : Alternating (events ++ later)) :
    Alternating events := by
  intro i event found
  refine alternating i event ?_
  rw [List.getElem?_append_left (List.getElem?_eq_some_iff.mp found).1, found]

theorem next {later : List ChargeEvent} (alternating : Alternating (events ++ event :: later)) :
    event = .activated ↔ events.length % 2 = 0 :=
  alternating events.length event (by simp)

end Alternating

namespace ModeExecutorBase

variable {Callback : Type}

/-- The activation or deactivation that is still to be told to the subclass. -/
def Task.charge? : Task Callback → Option ChargeEvent
  | .callOnActivate | .hook .onActivate => some .activated
  | .callOnDeactivate _ | .leaveCharge _ | .hook (.onDeactivate _) => some .deactivated
  | _ => none

/-- The same, once `_is_in_charge` has its new value. -/
def Task.entering? : Task Callback → Option ChargeEvent
  | .hook .onActivate => some .activated
  | .hook (.onDeactivate _) => some .deactivated
  | _ => none

/-- A part of `vehicleStatusUpdated`. -/
def Task.isStatusUpdate : Task Callback → Bool
  | .reactivateOnModeSwitch _ _ _ | .notifyFailsafeDeferred _ _ | .updateOwnedMode _ _
  | .finishStatusUpdate _ => true
  | _ => false

/-- What only a vehicle status changes before its last part, and what nothing changes. -/
structure SameStatus (executor after : ModeExecutorBase Callback) : Prop where
  registered : after.registered = executor.registered
  id : after.id = executor.id
  activation : after.activation = executor.activation
  ownedMode : after.ownedMode.id = executor.ownedMode.id
  isArmed : after.isArmed = executor.isArmed
  prevNavState : after.prevNavState = executor.prevNavState

/-- What a change of charge changes. -/
structure SameCharge (executor after : ModeExecutorBase Callback) : Prop where
  isInCharge : after.isInCharge = executor.isInCharge
  wasNeverActivated : after.wasNeverActivated = executor.wasNeverActivated

theorem SameStatus.refl (executor : ModeExecutorBase Callback) : executor.SameStatus executor :=
  ⟨rfl, rfl, rfl, rfl, rfl, rfl⟩

theorem SameCharge.refl (executor : ModeExecutorBase Callback) : executor.SameCharge executor :=
  ⟨rfl, rfl⟩

variable {executor : ModeExecutorBase Callback} {result : Result} {task : Task Callback}

/-- `is_in_charge` of `vehicleStatusUpdated`. -/
def chargeFor (executor : ModeExecutorBase Callback) (msg : VehicleStatus) : Bool :=
  executor.id == msg.executorInCharge &&
    (msg.isArmed || executor.wantsToActivateImmediately ||
      executor.activation == .activateAlways)

/-- A vehicle status sets `_is_armed`, and changes the charge when it is not the wanted one. -/
theorem vehicleStatusReceived_eq (registered : executor.registered = true)
    (msg : VehicleStatus) :
    executor.vehicleStatusReceived msg =
      ({ executor with isArmed := msg.isArmed },
        if executor.isInCharge = executor.chargeFor msg then
          [.reactivateOnModeSwitch msg (!executor.isArmed && msg.isArmed) false]
        else if executor.chargeFor msg then
          [.callOnActivate, .reactivateOnModeSwitch msg (!executor.isArmed && msg.isArmed) true]
        else
          [.callOnDeactivate (if msg.failsafe then .failsafeActivated else .other),
            .reactivateOnModeSwitch msg (!executor.isArmed && msg.isArmed) false]) := by
  obtain ⟨charge, isCharge⟩ : ∃ charge, charge = executor.chargeFor msg := ⟨_, rfl⟩
  have computed : (executor.id == msg.executorInCharge &&
      ((msg.armingState == VehicleStatus.armingStateArmed) ||
        (executor.activation == .activateImmediately && executor.wasNeverActivated) ||
        executor.activation == .activateAlways)) = charge := isCharge.symm
  rw [vehicleStatusReceived, if_pos registered, ← isCharge]
  simp only [vehicleStatusUpdated, wantsToActivateImmediately, computed, VehicleStatus.isArmed]
  by_cases same : executor.isInCharge = charge
  · simp [same]
  · rw [if_pos (by simpa using same), if_neg same]
    cases charge <;> rfl

theorem updateSetpointUpdateTimer_id (mode : ModeBase) :
    mode.updateSetpointUpdateTimer.id = mode.id := by
  simp only [ModeBase.updateSetpointUpdateTimer]
  split
  · split <;> rfl
  · rfl

theorem modeResume_id (mode : ModeBase) (task : ModeBase.Task) :
    (mode.resume task).1.id = mode.id := by
  cases task with
  | hook => rfl
  | activated =>
      simp only [ModeBase.resume]
      split <;> rfl
  | updateSetpointUpdateTimer => exact updateSetpointUpdateTimer_id mode

theorem modeVehicleStatusUpdated_id (mode : ModeBase) (msg : VehicleStatus)
    (doNotActivate : Bool) : (mode.vehicleStatusUpdated msg doNotActivate).1.id = mode.id := by
  simp only [ModeBase.vehicleStatusUpdated]
  split
  · split
    · split <;> rfl
    · rfl
  · rfl

/-- A task that is not part of a status update pushes no such part, and keeps its promise. -/
theorem resume_other (executor : ModeExecutorBase Callback) (result : Result) (internal : ∀ hook, task ≠ .hook hook)
    (other : task.isStatusUpdate = false) :
    executor.SameStatus (executor.resume result task).1 ∧
      (executor.resume result task).2.filterMap Task.charge? = task.charge?.toList ∧
      ∀ next ∈ (executor.resume result task).2, next.isStatusUpdate = false := by
  cases task with
  | hook hook => exact absurd rfl (internal hook)
  | mode task =>
      cases task with
      | hook hook => exact ⟨.refl executor, rfl, by simp [resume, resumeMode, Task.isStatusUpdate]⟩
      | activated | updateSetpointUpdateTimer =>
          refine ⟨⟨rfl, rfl, rfl, modeResume_id .., rfl, rfl⟩, ?_, ?_⟩
          · simp [resume, resumeMode, Task.charge?, List.filterMap_map, Function.comp_def]
          · simp [resume, resumeMode, Task.isStatusUpdate]
  | callOnActivate | callOnDeactivate | leaveCharge =>
      exact ⟨⟨rfl, rfl, rfl, rfl, rfl, rfl⟩, rfl, by simp [resume, Task.isStatusUpdate]⟩
  | cancelScheduledMode =>
      simp only [resume, cancelScheduledMode]
      split
      · refine ⟨⟨rfl, rfl, rfl, rfl, rfl, rfl⟩, ?_⟩
        cases executor.currentScheduledMode.onCompletedCallback <;>
          simp [Task.charge?, Task.isStatusUpdate]
      · exact ⟨.refl executor, rfl, by simp⟩
  | cancelWaitVehicleStatus =>
      simp only [resume, cancelWaitVehicleStatus]
      split
      · exact ⟨⟨rfl, rfl, rfl, rfl, rfl, rfl⟩, rfl, by simp [Task.isStatusUpdate]⟩
      · exact ⟨.refl executor, rfl, by simp⟩
  | sendScheduleMode | sendArmDisarm =>
      simp only [resume]
      split
      · exact ⟨.refl executor, rfl, by simp [Task.isStatusUpdate]⟩
      · exact ⟨⟨rfl, rfl, rfl, rfl, rfl, rfl⟩, rfl, by simp⟩
  | reactivateOnModeSwitch | notifyFailsafeDeferred | updateOwnedMode | finishStatusUpdate =>
      cases other

/-- The charge changes in two tasks only. -/
theorem resume_sameCharge (activate : task ≠ .callOnActivate)
    (leave : ∀ reason, task ≠ .leaveCharge reason) :
    executor.SameCharge (executor.resume result task).1 := by
  cases task with
  | hook | callOnDeactivate | updateOwnedMode => exact ⟨rfl, rfl⟩
  | mode task => cases task <;> exact ⟨rfl, rfl⟩
  | callOnActivate => exact absurd rfl activate
  | leaveCharge reason => exact absurd rfl (leave reason)
  | cancelScheduledMode =>
      simp only [resume, cancelScheduledMode]
      split <;> exact ⟨rfl, rfl⟩
  | cancelWaitVehicleStatus =>
      simp only [resume, cancelWaitVehicleStatus]
      split <;> exact ⟨rfl, rfl⟩
  | sendScheduleMode | sendArmDisarm | reactivateOnModeSwitch | notifyFailsafeDeferred =>
      simp only [resume]
      split <;> exact ⟨rfl, rfl⟩
  | finishStatusUpdate msg =>
      simp only [resume, updateWaitVehicleStatus]
      split
      · split <;> exact ⟨rfl, rfl⟩
      · exact ⟨rfl, rfl⟩

/-- Only the two hooks that follow a change of charge are pushed with it. -/
theorem resume_entering (activate : task ≠ .callOnActivate)
    (leave : ∀ reason, task ≠ .leaveCharge reason) :
    (executor.resume result task).2.filterMap Task.entering? = [] := by
  cases task with
  | hook | callOnDeactivate => rfl
  | mode task =>
      cases task <;>
        simp [resume, resumeMode, Task.entering?, List.filterMap_map, Function.comp_def]
  | callOnActivate => exact absurd rfl activate
  | leaveCharge reason => exact absurd rfl (leave reason)
  | cancelScheduledMode =>
      simp only [resume, cancelScheduledMode]
      split
      · cases executor.currentScheduledMode.onCompletedCallback <;> rfl
      · rfl
  | cancelWaitVehicleStatus =>
      simp only [resume, cancelWaitVehicleStatus]
      split <;> rfl
  | sendScheduleMode | sendArmDisarm | reactivateOnModeSwitch | notifyFailsafeDeferred =>
      simp only [resume]
      split <;> rfl
  | updateOwnedMode msg changedToArmed =>
      simp [resume, Task.entering?, List.filterMap_append, List.filterMap_map, Function.comp_def]
  | finishStatusUpdate msg =>
      simp only [resume, updateWaitVehicleStatus]
      split
      · split <;> rfl
      · rfl

end ModeExecutorBase

namespace ExecutorProcess

/-- A vehicle status that was received, with what held before it. -/
structure Receipt where
  msg : VehicleStatus
  previousNavState : ModeID
  scheduled : Option ModeID
  wasInCharge : Bool
  wasArmed : Bool
  everDeactivated : Bool

structure ChargeHistory where
  /-- The vehicle status that was received last. -/
  receipt : Option Receipt := none
  /-- The calls of `onActivate` and `onDeactivate` so far. -/
  charges : List ChargeEvent := []
  /-- Those of them since the last vehicle status. -/
  during : List ChargeEvent := []

def scheduledMode? (executor : ModeExecutorBase CompletedCallback) : Option ModeID :=
  if executor.currentScheduledMode.active then some executor.currentScheduledMode.modeId else none

def chargeRecorder : Lib.Recorder ExecutorProcess Task Input ChargeHistory where
  event history process input :=
    match input with
    | .vehicleStatus msg =>
        { history with
          receipt := some
            { msg
              previousNavState := process.executor.prevNavState
              scheduled := scheduledMode? process.executor
              wasInCharge := process.executor.isInCharge
              wasArmed := process.executor.isArmed
              everDeactivated := history.charges.contains .deactivated }
          during := [] }
    | _ => history
  task history _ task _ :=
    match task with
    | .executor task =>
        { history with
          charges := history.charges ++ task.entering?.toList
          during := history.during ++ task.entering?.toList }
    | .user => history

abbrev ChargeConfig := Lib.Config (Lib.Recorded ExecutorProcess ChargeHistory) Task

abbrev chargeMachine : Lib.Machine (Lib.Recorded ExecutorProcess ChargeHistory) Task Input :=
  machine.recorded chargeRecorder

/-- A registered executor before its first message. -/
def chargeInitial (id : UInt8) (activation : Activation) (ownedMode : ModeBase) : ChargeConfig :=
  ⟨⟨(initial true id activation ownedMode).state, {}⟩, []⟩

namespace Receipt

/-- The message puts this executor in charge. -/
def putsInCharge (receipt : Receipt) (executor : ModeExecutorBase CompletedCallback) : Bool :=
  executor.id == receipt.msg.executorInCharge &&
    (receipt.msg.isArmed || executor.activation == .activateAlways ||
      executor.activation == .activateImmediately && !receipt.everDeactivated)

/-- The user switches from the scheduled mode to the owned mode while armed. -/
structure SwitchesToOwned (receipt : Receipt) (executor : ModeExecutorBase CompletedCallback) :
    Prop where
  wasInCharge : receipt.wasInCharge = true
  staysInCharge : receipt.putsInCharge executor = true
  isArmed : receipt.msg.isArmed = true
  fromScheduled : receipt.scheduled = some receipt.previousNavState
  toOwned : receipt.msg.navState = executor.ownedMode.id
  switches : receipt.previousNavState ≠ receipt.msg.navState

/-- The message arms the vehicle. -/
def armingEdge (receipt : Receipt) : Bool :=
  !receipt.wasArmed && receipt.msg.isArmed

end Receipt

/-! ### The agenda of a status update -/

def Task.charge? : Task → Option ChargeEvent
  | .executor task => task.charge?
  | .user => none

def Task.entering? : Task → Option ChargeEvent
  | .executor task => task.entering?
  | .user => none

def Task.isStatusUpdate : Task → Bool
  | .executor task => task.isStatusUpdate
  | .user => false

/-- The calls of `onActivate` and `onDeactivate` to come. -/
def planned (agenda : List Task) : List ChargeEvent :=
  agenda.filterMap Task.charge?

def entering (agenda : List Task) : List ChargeEvent :=
  agenda.filterMap Task.entering?

@[simp] theorem planned_nil : planned [] = [] := rfl

@[simp] theorem entering_nil : entering [] = [] := rfl

@[simp] theorem planned_cons {task : Task} {rest : List Task} :
    planned (task :: rest) = task.charge?.toList ++ planned rest := by
  cases charge : task.charge? <;> simp [planned, charge]

@[simp] theorem entering_cons {task : Task} {rest : List Task} :
    entering (task :: rest) = task.entering?.toList ++ entering rest := by
  cases enters : task.entering? <;> simp [entering, enters]

@[simp] theorem planned_append {first second : List Task} :
    planned (first ++ second) = planned first ++ planned second :=
  List.filterMap_append

@[simp] theorem entering_append {first second : List Task} :
    entering (first ++ second) = entering first ++ entering second :=
  List.filterMap_append

/-- Only the oldest task may be part of a status update. -/
def StatusLast : List Task → Prop
  | [] => True
  | task :: rest => (task.isStatusUpdate = true → rest = []) ∧ StatusLast rest

theorem StatusLast.cons_other {task : Task} {rest : List Task}
    (other : task.isStatusUpdate = false) (last : StatusLast rest) : StatusLast (task :: rest) :=
  ⟨fun update => absurd update (by simp [other]), last⟩

theorem StatusLast.append {pushed rest : List Task}
    (others : ∀ task ∈ pushed, task.isStatusUpdate = false) (last : StatusLast rest) :
    StatusLast (pushed ++ rest) := by
  induction pushed with
  | nil => exact last
  | cons task pushed ih =>
      obtain ⟨other, others⟩ := List.forall_mem_cons.mp others
      exact .cons_other other (ih others)

/-- The part of the status update that is left, for the last receipt. -/
def Receipt.Matches (receipt : Receipt) (executor : ModeExecutorBase CompletedCallback) :
    ModeExecutorBase.Task CompletedCallback → Prop
  | .reactivateOnModeSwitch msg changedToArmed _ | .notifyFailsafeDeferred msg changedToArmed
  | .updateOwnedMode msg changedToArmed =>
      msg = receipt.msg ∧ changedToArmed = receipt.armingEdge ∧
        executor.prevNavState = receipt.previousNavState ∧ executor.isArmed = receipt.msg.isArmed
  | _ => True

/-- What holds of the history and the configuration in every run of a registered executor. -/
structure ChargeInvariant (history : ChargeHistory) (config : Config) : Prop where
  registered : config.state.executor.registered = true
  alternating : Alternating (history.charges ++ planned config.agenda)
  top : entering config.agenda.tail = []
  parity : config.state.executor.isInCharge =
    decide ((history.charges ++ entering config.agenda).length % 2 = 1)
  deactivated : config.state.executor.wasNeverActivated =
    !(history.charges ++ entering config.agenda).contains .deactivated
  started : history.receipt = none →
    history.charges = [] ∧ history.during = [] ∧ planned config.agenda = []
  /-- The charge that is reached when all that is planned is done. -/
  target : ∀ receipt, history.receipt = some receipt →
    decide ((history.charges ++ planned config.agenda).length % 2 = 1) =
      receipt.putsInCharge config.state.executor
  last : StatusLast config.agenda
  status : ∀ task, Task.executor task ∈ config.agenda → task.isStatusUpdate = true →
    ∃ receipt, history.receipt = some receipt ∧ receipt.Matches config.state.executor task
  pair : ∀ receipt, history.receipt = some receipt →
    (history.during ++ planned config.agenda).length ≤ 1 ∨
    (history.during ++ planned config.agenda = [.deactivated, .activated] ∧
      receipt.SwitchesToOwned config.state.executor)
  /-- Nothing has happened since the receipt, or the executor will not be in charge. -/
  fresh : ∀ msg changedToArmed,
    Task.executor (.reactivateOnModeSwitch msg changedToArmed false) ∈ config.agenda →
    ∀ receipt, history.receipt = some receipt →
      (config.agenda = [.executor (.reactivateOnModeSwitch msg changedToArmed false)] ∧
        history.during = [] ∧ receipt.wasInCharge = true ∧
        receipt.scheduled = scheduledMode? config.state.executor) ∨
      receipt.putsInCharge config.state.executor = false

theorem Receipt.putsInCharge_congr {executor after : ModeExecutorBase CompletedCallback}
    (same : executor.SameStatus after) (receipt : Receipt) :
    receipt.putsInCharge after = receipt.putsInCharge executor := by
  rw [putsInCharge, putsInCharge, same.id, same.activation]

theorem Receipt.SwitchesToOwned.congr {executor after : ModeExecutorBase CompletedCallback}
    (same : executor.SameStatus after) {receipt : Receipt}
    (switched : receipt.SwitchesToOwned executor) : receipt.SwitchesToOwned after :=
  { switched with
    staysInCharge := (receipt.putsInCharge_congr same).trans switched.staysInCharge
    toOwned := switched.toOwned.trans same.ownedMode.symm }

theorem Receipt.Matches.congr {executor after : ModeExecutorBase CompletedCallback}
    (same : executor.SameStatus after) {receipt : Receipt}
    {task : ModeExecutorBase.Task CompletedCallback} (matched : receipt.Matches executor task) :
    receipt.Matches after task := by
  cases task <;> simp_all [Matches, same.prevNavState, same.isArmed]

namespace ChargeInvariant

variable {history : ChargeHistory} {process after : ExecutorProcess} {pushed rest : List Task}

/-- A task that is not part of a status update is replaced by what it pushes, which keeps what is
planned. -/
theorem moved (top : Option Task) (pushed : List Task) (before : ChargeInvariant history ⟨process, top.toList ++ rest⟩)
    (other : ∀ task ∈ top, task.isStatusUpdate = false)
    (same : process.executor.SameStatus after.executor)
    (plan : planned pushed = planned top.toList)
    (others : ∀ task ∈ pushed, task.isStatusUpdate = false)
    (pushedTop : entering (pushed ++ rest).tail = [])
    (parity : after.executor.isInCharge =
      decide ((history.charges ++ entering (pushed ++ rest)).length % 2 = 1))
    (deactivated : after.executor.wasNeverActivated =
      !(history.charges ++ entering (pushed ++ rest)).contains .deactivated)
    (idle : top = none → rest = []) :
    ChargeInvariant history ⟨after, pushed ++ rest⟩ := by
  have samePlan : planned (pushed ++ rest) = planned (top.toList ++ rest) := by
    rw [planned_append, planned_append, plan]
  have restLast : StatusLast rest := by
    have last := before.last
    cases top with
    | none => exact last
    | some task => exact last.2
  have older : ∀ task, Task.executor task ∈ pushed ++ rest → task.isStatusUpdate = true →
      Task.executor task ∈ rest := by
    intro task member update
    rcases List.mem_append.mp member with new | old
    · have none : task.isStatusUpdate = false := others _ new
      rw [none] at update
      cases update
    · exact old
  constructor
  · exact same.registered.trans before.registered
  · exact samePlan ▸ before.alternating
  · exact pushedTop
  · exact parity
  · exact deactivated
  · exact fun none => samePlan ▸ before.started none
  · exact fun receipt received =>
      (receipt.putsInCharge_congr same).symm ▸ samePlan ▸ before.target receipt received
  · exact .append others restLast
  · intro task member update
    obtain ⟨receipt, received, matched⟩ := before.status task
      (List.mem_append_right _ (older task member update)) update
    exact ⟨receipt, received, matched.congr same⟩
  · intro receipt received
    simp only [samePlan]
    exact (before.pair receipt received).imp id fun ⟨pair, switched⟩ => ⟨pair, switched.congr same⟩
  · intro msg changedToArmed member receipt received
    have inRest := older _ member rfl
    rw [receipt.putsInCharge_congr same]
    rcases before.fresh msg changedToArmed (List.mem_append_right _ inRest) receipt received with
      ⟨alone, -⟩ | leaves
    · cases top with
      | none =>
          rw [idle rfl] at inRest
          cases inRest
      | some task =>
          obtain ⟨rfl, rfl⟩ := List.cons.inj alone
          cases inRest
    · exact .inr leaves

/-- The only task left, a part of the status update, makes room for the next part. -/
theorem updated (after : ExecutorProcess) {task : ModeExecutorBase.Task CompletedCallback}
    (before : ChargeInvariant history ⟨process, [.executor task]⟩)
    (update : task.isStatusUpdate = true)
    (same : process.executor.SameCharge after.executor)
    (settings : after.executor.registered = process.executor.registered ∧
      after.executor.id = process.executor.id ∧
      after.executor.activation = process.executor.activation ∧
      after.executor.ownedMode.id = process.executor.ownedMode.id)
    (plan : planned pushed = []) (enters : entering pushed = []) (last : StatusLast pushed)
    (status : ∀ next, Task.executor next ∈ pushed → next.isStatusUpdate = true →
      ∃ receipt, history.receipt = some receipt ∧ receipt.Matches after.executor next)
    (fresh : ∀ msg changedToArmed gotActivated,
      Task.executor (.reactivateOnModeSwitch msg changedToArmed gotActivated) ∉ pushed) :
    ChargeInvariant history ⟨after, pushed⟩ := by
  have nothing : planned [Task.executor task] = [] ∧ entering [Task.executor task] = [] := by
    cases task <;> first | exact ⟨rfl, rfl⟩ | cases update
  have samePuts : ∀ receipt : Receipt,
      receipt.putsInCharge after.executor = receipt.putsInCharge process.executor := by
    intro receipt
    rw [Receipt.putsInCharge, Receipt.putsInCharge, settings.2.1, settings.2.2.1]
  have alternating := before.alternating
  have parity := before.parity
  have deactivated := before.deactivated
  have started := before.started
  have target := before.target
  have pair := before.pair
  simp only [nothing.1, nothing.2, List.append_nil] at alternating parity deactivated target pair
  constructor
  · exact settings.1.trans before.registered
  · simpa [plan] using alternating
  · cases pushed with
    | nil => rfl
    | cons head rest => exact (List.append_eq_nil_iff.mp (entering_cons ▸ enters)).2
  · simpa [enters, same.isInCharge] using parity
  · simpa [enters, same.wasNeverActivated] using deactivated
  · exact fun none => ⟨(started none).1, (started none).2.1, plan⟩
  · intro receipt received
    simpa [plan, samePuts] using target receipt received
  · exact last
  · exact status
  · intro receipt received
    rw [plan, List.append_nil]
    refine (pair receipt received).imp id fun ⟨events, switched⟩ => ⟨events, ?_⟩
    exact { switched with
      staysInCharge := (samePuts receipt).trans switched.staysInCharge
      toOwned := switched.toOwned.trans settings.2.2.2.symm }
  · exact fun msg changedToArmed member => absurd member (fresh msg changedToArmed false)

/-- A part of the status update is the only task left. -/
theorem alone {task : ModeExecutorBase.Task CompletedCallback}
    (before : ChargeInvariant history ⟨process, .executor task :: rest⟩)
    (update : task.isStatusUpdate = true) : rest = [] :=
  before.last.1 update

/-- What is planned when nothing is entered is still to come. -/
theorem enters_nothing {task : ModeExecutorBase.Task CompletedCallback}
    (before : ChargeInvariant history ⟨process, .executor task :: rest⟩)
    (outer : ModeExecutorBase.Task.entering? task = none) :
    entering (Task.executor task :: rest) = [] := by
  rw [entering_cons, Task.entering?, outer]
  exact before.top

/-- `_is_in_charge` gets its new value, and the hook of the subclass is next. -/
theorem changed (event : ChargeEvent) (hook : ModeExecutorBase.Task CompletedCallback)
    {task : ModeExecutorBase.Task CompletedCallback}
    (before : ChargeInvariant history ⟨process, .executor task :: rest⟩)
    (charge : task.charge? = some event) (outer : task.entering? = none)
    (other : task.isStatusUpdate = false) (isHook : hook.charge? = some event)
    (enters : hook.entering? = some event) (notUpdate : hook.isStatusUpdate = false)
    (same : process.executor.SameStatus after.executor)
    (inCharge : after.executor.isInCharge = (event == .activated))
    (never : after.executor.wasNeverActivated =
      (process.executor.wasNeverActivated && event != .deactivated)) :
    ChargeInvariant history ⟨after, .executor hook :: rest⟩ := by
  have none := before.enters_nothing outer
  have noneRest : entering rest = [] := before.top
  have enteringNow : entering ([Task.executor hook] ++ rest) = [event] := by
    simp [Task.entering?, enters, noneRest]
  have next : event = .activated ↔ history.charges.length % 2 = 0 := by
    have alternating := before.alternating
    rw [planned_cons, Task.charge?, charge] at alternating
    exact alternating.next
  refine ChargeInvariant.moved (some (.executor task)) [.executor hook] before
    (by simpa [Task.isStatusUpdate] using other) same
    (by simp [planned, Task.charge?, charge, isHook])
    (by simpa [Task.isStatusUpdate] using notUpdate) noneRest ?_ ?_ (by simp)
  · rw [enteringNow, inCharge, List.length_append, List.length_singleton]
    cases event with
    | activated =>
        have even := next.mp rfl
        simp only [beq_self_eq_true, true_eq_decide_iff]
        omega
    | deactivated =>
        have odd : ¬ history.charges.length % 2 = 0 := fun even => nomatch next.mpr even
        simp only [show (ChargeEvent.deactivated == ChargeEvent.activated) = false from rfl,
          false_eq_decide_iff]
        omega
  · have deactivated := before.deactivated
    rw [none, List.append_nil] at deactivated
    rw [enteringNow, never, deactivated]
    cases event <;> simp [List.contains_eq_mem]

/-- A hook is entered: its event has happened. -/
theorem entered {hook : ModeExecutorBase.Hook CompletedCallback}
    (before : ChargeInvariant history ⟨process, .executor (.hook hook) :: rest⟩) :
    ChargeInvariant (chargeRecorder.task history process (.executor (.hook hook)) .proceed)
      ⟨(process.enter hook).1, .user :: rest⟩ := by
  have executor : (process.enter hook).1.executor = process.executor := by cases hook <;> rfl
  have event : (ModeExecutorBase.Task.hook hook).charge? =
      (ModeExecutorBase.Task.hook hook).entering? := by cases hook <;> rfl
  have noneRest : entering rest = [] := before.top
  have plan : planned (Task.executor (.hook hook) :: rest) =
      (ModeExecutorBase.Task.hook hook).entering?.toList ++ planned rest := by
    rw [planned_cons, Task.charge?, event]
  have enters : entering (Task.executor (.hook hook) :: rest) =
      (ModeExecutorBase.Task.hook hook).entering?.toList := by
    rw [entering_cons, noneRest, List.append_nil, Task.entering?]
  have user : planned (Task.user :: rest) = planned rest ∧ entering (Task.user :: rest) = [] := by
    exact ⟨rfl, noneRest⟩
  constructor
  · exact executor ▸ before.registered
  · simpa [chargeRecorder, user.1, plan] using before.alternating
  · exact noneRest
  · simpa only [chargeRecorder, executor, user.2, enters, List.append_nil] using before.parity
  · simpa only [chargeRecorder, executor, user.2, enters, List.append_nil] using before.deactivated
  · intro none
    obtain ⟨charges, during, nothing⟩ := before.started none
    rw [plan, List.append_eq_nil_iff] at nothing
    exact ⟨by simp [chargeRecorder, charges, nothing.1], by simp [chargeRecorder, during, nothing.1],
      user.1 ▸ nothing.2⟩
  · intro receipt received
    simpa only [chargeRecorder, executor, user.1, plan, List.append_assoc] using
      before.target receipt received
  · exact .cons_other rfl before.last.2
  · intro task member update
    rw [executor]
    exact before.status task (List.mem_cons_of_mem _ (by simpa using member)) update
  · intro receipt received
    simpa only [chargeRecorder, executor, user.1, plan, List.append_assoc] using
      before.pair receipt received
  · intro msg changedToArmed member receipt received
    rcases before.fresh msg changedToArmed (List.mem_cons_of_mem _ (by simpa using member)) receipt
      received with ⟨alone, -⟩ | leaves
    · cases (List.cons.inj alone).1
    · exact .inr (executor ▸ leaves)

/-- Nothing is planned at the bottom of a status update: the charge has reached its target. -/
theorem reached {task : ModeExecutorBase.Task CompletedCallback} {receipt : Receipt}
    (before : ChargeInvariant history ⟨process, [.executor task]⟩)
    (update : task.isStatusUpdate = true) (received : history.receipt = some receipt) :
    process.executor.isInCharge = receipt.putsInCharge process.executor ∧
      process.executor.isInCharge = decide (history.charges.length % 2 = 1) := by
  have parity := before.parity
  have target := before.target receipt received
  have nothing : planned [Task.executor task] = [] ∧ entering [Task.executor task] = [] := by
    cases task <;> first | exact ⟨rfl, rfl⟩ | cases update
  rw [nothing.1, List.append_nil] at target
  rw [nothing.2, List.append_nil] at parity
  exact ⟨parity.trans target, parity⟩

/-- The executor is activated again. -/
theorem reactivated {msg : VehicleStatus} {changedToArmed : Bool}
    (before : ChargeInvariant history
      ⟨process, [.executor (.reactivateOnModeSwitch msg changedToArmed false)]⟩)
    (switched : process.executor.switchedToOwnedMode msg = true) :
    ChargeInvariant history ⟨process, [.executor (.callOnDeactivate .other),
      .executor .callOnActivate, .executor (.notifyFailsafeDeferred msg changedToArmed)]⟩ := by
  obtain ⟨receipt, received, rfl, rfl, navState, armed⟩ :=
    before.status _ List.mem_cons_self rfl
  simp only at navState armed
  obtain ⟨target, parity⟩ := before.reached rfl received
  simp only [ModeExecutorBase.switchedToOwnedMode, Bool.and_eq_true, beq_iff_eq, bne_iff_ne]
    at switched
  obtain ⟨⟨⟨⟨⟨inCharge, active⟩, scheduled⟩, toOwned⟩, switches⟩, isArmed⟩ := switched
  have odd : history.charges.length % 2 = 1 := by simpa [inCharge] using parity
  rcases before.fresh _ _ List.mem_cons_self receipt received with
    ⟨-, during, wasInCharge, slot⟩ | leaves
  · have alternating := before.alternating.left
    constructor
    · exact before.registered
    · have first := alternating.append .deactivated (by simp [odd])
      have second := first.append .activated (by simp; omega)
      simpa [Task.charge?, ModeExecutorBase.Task.charge?] using second
    · rfl
    · exact before.parity
    · exact before.deactivated
    · exact fun none => by simp [none] at received
    · intro other receivedOther
      have same := before.target other receivedOther
      rw [← same]
      simp [Task.charge?, ModeExecutorBase.Task.charge?]
    · exact .cons_other rfl (.cons_other rfl ⟨fun _ => rfl, trivial⟩)
    · intro task member update
      have isNotify : task = .notifyFailsafeDeferred receipt.msg receipt.armingEdge := by
        simp only [List.mem_cons, Task.executor.injEq, List.not_mem_nil, or_false] at member
        rcases member with rfl | rfl | rfl
        · cases update
        · cases update
        · rfl
      subst isNotify
      exact ⟨receipt, received, rfl, rfl, navState, armed⟩
    · intro other receivedOther
      obtain rfl : receipt = other := Option.some.inj (received.symm.trans receivedOther)
      refine .inr ⟨by simp [during, Task.charge?, ModeExecutorBase.Task.charge?], ?_⟩
      exact
        { wasInCharge
          staysInCharge := target ▸ inCharge
          isArmed := armed ▸ isArmed
          fromScheduled := by simp [slot, scheduledMode?, active, scheduled, ← navState]
          toOwned
          switches := navState ▸ switches }
    · intro other changed member
      simp at member
  · rw [← target, inCharge] at leaves
    cases leaves

theorem statusUpdate {task : ModeExecutorBase.Task CompletedCallback} (result : Result)
    (before : ChargeInvariant history ⟨process, .executor task :: rest⟩)
    (update : task.isStatusUpdate = true) :
    ChargeInvariant history (process.applied (process.executor.resume result task) rest) := by
  obtain rfl := before.alone update
  obtain ⟨receipt, received, matched⟩ := before.status task List.mem_cons_self update
  cases task with
  | reactivateOnModeSwitch msg changedToArmed gotActivated =>
      simp only [ModeExecutorBase.resume]
      split
      · rename_i switched
        simp only [Bool.and_eq_true, Bool.not_eq_true'] at switched
        obtain ⟨rfl, switched⟩ := switched
        exact before.reactivated switched
      · refine before.updated process rfl (.refl _) ⟨rfl, rfl, rfl, rfl⟩ rfl rfl
          ⟨fun _ => rfl, trivial⟩ ?_ (by simp)
        intro next member _
        obtain rfl := Task.executor.inj (List.mem_singleton.mp member)
        exact ⟨receipt, received, matched⟩
  | notifyFailsafeDeferred msg changedToArmed =>
      simp only [ModeExecutorBase.resume]
      split
      · refine before.updated process rfl (.refl _) ⟨rfl, rfl, rfl, rfl⟩ rfl rfl
          (.cons_other rfl ⟨fun _ => rfl, trivial⟩) ?_ (by simp)
        intro next member isUpdate
        simp only [List.map_cons, List.map_nil, List.append_nil, List.mem_cons,
          Task.executor.injEq, List.not_mem_nil, or_false] at member
        rcases member with rfl | rfl
        · cases isUpdate
        · exact ⟨receipt, received, matched⟩
      · refine before.updated process rfl (.refl _) ⟨rfl, rfl, rfl, rfl⟩ rfl rfl
          ⟨fun _ => rfl, trivial⟩ ?_ (by simp)
        intro next member _
        obtain rfl := Task.executor.inj (List.mem_singleton.mp member)
        exact ⟨receipt, received, matched⟩
  | updateOwnedMode msg changedToArmed =>
      refine before.updated _ rfl ⟨rfl, rfl⟩
        ⟨rfl, rfl, rfl, ModeExecutorBase.modeVehicleStatusUpdated_id ..⟩ ?_ ?_ ?_ ?_ ?_
      · simp [ModeExecutorBase.resume, planned, List.filterMap_append, List.filterMap_map,
          Function.comp_def, Task.charge?, ModeExecutorBase.Task.charge?]
      · simp [ModeExecutorBase.resume, entering, List.filterMap_append, List.filterMap_map,
          Function.comp_def, Task.entering?, ModeExecutorBase.Task.entering?]
      · simp only [ModeExecutorBase.resume, List.map_append, List.append_assoc]
        refine .append ?_ ⟨fun _ => rfl, trivial⟩
        simp [Task.isStatusUpdate, ModeExecutorBase.Task.isStatusUpdate]
      · intro next member isUpdate
        refine ⟨receipt, received, ?_⟩
        simp only [ModeExecutorBase.resume, List.append_nil, List.map_append, List.map_map,
          List.mem_append, List.mem_map, Function.comp_apply, List.mem_singleton] at member
        rcases member with ⟨inner, -, same⟩ | ⟨inner, same, isNext⟩
        · cases same
          cases isUpdate
        · cases same
          cases isNext
          trivial
      · simp [ModeExecutorBase.resume]
  | finishStatusUpdate msg =>
      simp only [ModeExecutorBase.resume, ModeExecutorBase.updateWaitVehicleStatus]
      split
      · split
        · exact before.updated _ rfl ⟨rfl, rfl⟩ ⟨rfl, rfl, rfl, rfl⟩ rfl rfl
            (.cons_other rfl trivial)
            (by simp [ModeExecutorBase.Task.isStatusUpdate]) (by simp)
        · exact before.updated _ rfl ⟨rfl, rfl⟩ ⟨rfl, rfl, rfl, rfl⟩ rfl rfl trivial
            (by simp) (by simp)
      · exact before.updated _ rfl ⟨rfl, rfl⟩ ⟨rfl, rfl, rfl, rfl⟩ rfl rfl trivial
          (by simp) (by simp)
  | hook | mode | callOnActivate | callOnDeactivate | leaveCharge | cancelScheduledMode
  | cancelWaitVehicleStatus | sendScheduleMode | sendArmDisarm => cases update

/-- A status update begins, with what changes the charge before its first part. -/
theorem begun (after : ExecutorProcess) (front : List Task) (receipt : Receipt)
    (gotActivated : Bool)
    (before : ChargeInvariant history ⟨process, []⟩)
    (armed : after.executor =
      { process.executor with isArmed := receipt.msg.isArmed })
    (navState : receipt.previousNavState = process.executor.prevNavState)
    (others : ∀ task ∈ front, task.isStatusUpdate = false) (enters : entering front = [])
    (alternating : Alternating (history.charges ++ planned front))
    (target : decide ((history.charges ++ planned front).length % 2 = 1) =
      receipt.putsInCharge process.executor)
    (few : (planned front).length ≤ 1)
    (fresh : gotActivated = false →
      (front = [] ∧ receipt.wasInCharge = true ∧
        receipt.scheduled = scheduledMode? process.executor) ∨
      receipt.putsInCharge process.executor = false) :
    ChargeInvariant { history with receipt := some receipt, during := [] }
      ⟨after, front ++ [.executor
        (.reactivateOnModeSwitch receipt.msg receipt.armingEdge gotActivated)]⟩ := by
  have parity := before.parity
  have deactivated := before.deactivated
  have plan : planned (front ++ [.executor
      (.reactivateOnModeSwitch receipt.msg receipt.armingEdge gotActivated)]) = planned front := by
    simp [Task.charge?, ModeExecutorBase.Task.charge?]
  have entersAll : entering (front ++ [.executor
      (.reactivateOnModeSwitch receipt.msg receipt.armingEdge gotActivated)]) = [] := by
    simp [enters, Task.entering?, ModeExecutorBase.Task.entering?]
  have isPart : ∀ task, Task.executor task ∈ front ++ [.executor
        (.reactivateOnModeSwitch receipt.msg receipt.armingEdge gotActivated)] →
      task.isStatusUpdate = true →
      task = .reactivateOnModeSwitch receipt.msg receipt.armingEdge gotActivated := by
    intro task member update
    rcases List.mem_append.mp member with inFront | isLast
    · have none : task.isStatusUpdate = false := others _ inFront
      rw [none] at update
      cases update
    · exact Task.executor.inj (List.mem_singleton.mp isLast)
  constructor
  · simpa [armed] using before.registered
  · exact plan ▸ alternating
  · cases front with
    | nil => rfl
    | cons head rest =>
        exact (List.append_eq_nil_iff.mp (entering_cons ▸ List.cons_append ▸ entersAll)).2
  · rw [entersAll, armed]
    exact parity
  · rw [entersAll, armed]
    exact deactivated
  · exact nofun
  · intro other isReceipt
    obtain rfl := Option.some.inj isReceipt
    rw [plan, armed]
    exact target
  · exact .append others ⟨fun _ => rfl, trivial⟩
  · intro task member update
    obtain rfl := isPart task member update
    exact ⟨receipt, rfl, rfl, rfl, by simp [armed, navState], by simp [armed]⟩
  · exact fun _ _ => .inl (by simpa [plan] using few)
  · intro msg changedToArmed member other isReceipt
    obtain rfl := Option.some.inj isReceipt
    obtain ⟨rfl, rfl, rfl⟩ :=
      ModeExecutorBase.Task.reactivateOnModeSwitch.inj (isPart _ member rfl)
    refine (fresh rfl).imp ?_ ?_
    · rintro ⟨rfl, wasInCharge, slot⟩
      exact ⟨rfl, rfl, wasInCharge, by simpa [armed, scheduledMode?] using slot⟩
    · intro leaves
      rw [armed]
      exact leaves

/-- A vehicle status comes when nothing is pending. -/
theorem received (msg : VehicleStatus) (before : ChargeInvariant history ⟨process, []⟩) :
    ChargeInvariant (chargeRecorder.event history process (.vehicleStatus msg))
      (process.applied (process.executor.vehicleStatusReceived msg) []) := by
  have registered : process.executor.registered = true := before.registered
  have alternating : Alternating history.charges := before.alternating.left
  have parity : process.executor.isInCharge = decide (history.charges.length % 2 = 1) := by
    simpa using before.parity
  have never : process.executor.wasNeverActivated = !history.charges.contains .deactivated := by
    simpa using before.deactivated
  obtain ⟨receipt, isReceipt⟩ : ∃ receipt : Receipt, receipt =
      { msg
        previousNavState := process.executor.prevNavState
        scheduled := scheduledMode? process.executor
        wasInCharge := process.executor.isInCharge
        wasArmed := process.executor.isArmed
        everDeactivated := history.charges.contains .deactivated } := ⟨_, rfl⟩
  have charge : process.executor.chargeFor msg = receipt.putsInCharge process.executor := by
    rw [isReceipt]
    simp only [Receipt.putsInCharge, ModeExecutorBase.chargeFor,
      ModeExecutorBase.wantsToActivateImmediately, never]
    congr 1
    rw [Bool.or_assoc, Bool.or_assoc, Bool.or_comm (_ && _)]
  obtain ⟨sameMsg, edge, previous, slot⟩ :
      receipt.msg = msg ∧ receipt.armingEdge = (!process.executor.isArmed && msg.isArmed) ∧
      receipt.previousNavState = process.executor.prevNavState ∧
      (receipt.wasInCharge = process.executor.isInCharge ∧
        receipt.scheduled = scheduledMode? process.executor) := by
    rw [isReceipt]
    exact ⟨rfl, rfl, rfl, rfl, rfl⟩
  have recorded : chargeRecorder.event history process (.vehicleStatus msg) =
      { history with receipt := some receipt, during := [] } := by
    rw [isReceipt]
    rfl
  rw [recorded, ModeExecutorBase.vehicleStatusReceived_eq registered, ← edge, ← sameMsg]
  rw [← sameMsg] at charge
  rw [charge]
  have goesOn := fun (front : List Task) (gotActivated : Bool) =>
    before.begun
      { process with executor := { process.executor with isArmed := receipt.msg.isArmed } }
      front receipt gotActivated rfl previous
  have activates : planned [Task.executor .callOnActivate] = [.activated] := rfl
  have leaves : ∀ reason, planned [Task.executor (.callOnDeactivate reason)] = [.deactivated] :=
    fun _ => rfl
  split
  · rename_i same
    refine goesOn [] false nofun rfl (by simpa using alternating) ?_ (Nat.zero_le 1) fun _ => ?_
    · rw [planned_nil, List.append_nil, ← parity, same]
    · cases now : receipt.putsInCharge process.executor with
      | true => exact .inl ⟨rfl, slot.1.trans (same.trans now), slot.2⟩
      | false => exact .inr rfl
  · rename_i differs
    split
    · rename_i now
      have even : history.charges.length % 2 ≠ 1 := by simpa [now, parity] using differs
      exact goesOn [.executor .callOnActivate] true (by simp [Task.isStatusUpdate,
          ModeExecutorBase.Task.isStatusUpdate]) rfl
        (activates ▸ alternating.append _ (by simp; omega)) (by simp [activates, now]; omega)
        (le_of_eq rfl) nofun
    · rename_i now
      have now : receipt.putsInCharge process.executor = false := by simpa using now
      have odd : history.charges.length % 2 = 1 := by simpa [now, parity] using differs
      exact goesOn [.executor (.callOnDeactivate _)] false (by simp [Task.isStatusUpdate,
          ModeExecutorBase.Task.isStatusUpdate]) rfl
        (leaves _ ▸ alternating.append _ (by simp; omega)) (by simp [leaves, now]; omega)
        (le_of_eq rfl) (fun _ => .inr now)

/-- A step that has to do neither with the charge nor with the status update. -/
theorem quiet (top : Option Task) (pushed : List Task) (before : ChargeInvariant history ⟨process, top.toList ++ rest⟩)
    (other : ∀ task ∈ top, task.isStatusUpdate = false ∧ task.entering? = none)
    (same : process.executor.SameStatus after.executor)
    (charge : process.executor.SameCharge after.executor)
    (plan : planned pushed = planned top.toList) (enters : entering pushed = [])
    (others : ∀ task ∈ pushed, task.isStatusUpdate = false) (idle : top = none → rest = []) :
    ChargeInvariant history ⟨after, pushed ++ rest⟩ := by
  have noneRest : entering rest = [] := by
    cases top with
    | none => rw [idle rfl, entering_nil]
    | some task => exact before.top
  have none : entering (pushed ++ rest) = [] := by rw [entering_append, enters, noneRest]; rfl
  have noneBefore : entering (top.toList ++ rest) = [] := by
    cases top with
    | none => exact noneRest
    | some task => simp [(other task rfl).2, noneRest]
  have parity := before.parity
  have deactivated := before.deactivated
  simp only [noneBefore] at parity deactivated
  refine before.moved top pushed (fun task isTop => (other task isTop).1) same plan others ?_ ?_ ?_ idle
  · cases shape : pushed ++ rest with
    | nil => rfl
    | cons head agenda =>
        rw [shape, entering_cons] at none
        exact (List.append_eq_nil_iff.mp none).2
  · rw [none, charge.isInCharge, parity]
  · rw [none, charge.wasNeverActivated, deactivated]

theorem map_executor (tasks : List (ModeExecutorBase.Task CompletedCallback)) :
    planned (tasks.map .executor) = tasks.filterMap ModeExecutorBase.Task.charge? ∧
      entering (tasks.map .executor) = tasks.filterMap ModeExecutorBase.Task.entering? := by
  rw [planned, entering, List.filterMap_map, List.filterMap_map]
  exact ⟨rfl, rfl⟩

theorem resumed {task : ModeExecutorBase.Task CompletedCallback} (result : Result)
    (before : ChargeInvariant history ⟨process, .executor task :: rest⟩)
    (internal : ∀ hook, task ≠ .hook hook) :
    ChargeInvariant history (process.applied (process.executor.resume result task) rest) := by
  cases update : task.isStatusUpdate with
  | true => exact before.statusUpdate result update
  | false =>
      obtain ⟨same, plan, others⟩ :=
        process.executor.resume_other result internal update
      by_cases activate : task = .callOnActivate
      · subst activate
        exact before.changed .activated (.hook .onActivate) rfl rfl rfl rfl rfl
          rfl same rfl (by simp [ModeExecutorBase.resume])
      · by_cases leave : ∃ reason, task = .leaveCharge reason
        · obtain ⟨reason, rfl⟩ := leave
          exact before.changed .deactivated (.hook (.onDeactivate reason)) rfl
            rfl rfl rfl rfl rfl same rfl (by simp [ModeExecutorBase.resume])
        · have notLeave : ∀ reason, task ≠ .leaveCharge reason :=
            fun reason isLeave => leave ⟨reason, isLeave⟩
          have outer : task.entering? = none := by
            cases task with
            | hook hook => exact absurd rfl (internal hook)
            | _ => rfl
          obtain ⟨planMap, enterMap⟩ := map_executor (process.executor.resume result task).2
          refine before.quiet (some (.executor task)) _ ?_ same
            (ModeExecutorBase.resume_sameCharge activate notLeave) ?_ ?_ ?_ (by simp)
          · simpa [Task.isStatusUpdate, Task.entering?] using ⟨update, outer⟩
          · rw [planMap, plan]
            simp [Task.charge?]
          · rw [enterMap, ModeExecutorBase.resume_entering activate notLeave]
          · intro next member
            obtain ⟨inner, innerMember, rfl⟩ := List.mem_map.mp member
            exact others inner innerMember

theorem requested (request : Request) (before : ChargeInvariant history ⟨process, .user :: rest⟩) :
    ChargeInvariant history
      ⟨(process.request request).1, (process.request request).2 ++ .user :: rest⟩ := by
  rw [List.append_cons]
  refine before.quiet (some .user) _ (by simp [Task.isStatusUpdate, Task.entering?])
    ?_ ?_ ?_ ?_ ?_ (by simp)
  all_goals
    cases request <;>
      simp only [ExecutorProcess.request, ModeExecutorBase.takeoff, ModeExecutorBase.land,
        ModeExecutorBase.rtl, ModeExecutorBase.scheduleMode, ModeExecutorBase.scheduleModeCommand,
        ModeExecutorBase.arm, ModeExecutorBase.disarm, ModeExecutorBase.waitReadyToArm,
        ModeExecutorBase.waitUntilDisarmed] <;>
      split
  all_goals first
    | exact ⟨rfl, rfl, rfl, rfl, rfl, rfl⟩
    | exact ⟨rfl, rfl⟩
    | rfl
    | simp [apply, Task.isStatusUpdate, ModeExecutorBase.Task.isStatusUpdate]

theorem modeCompleted (msg : ModeCompleted) (before : ChargeInvariant history ⟨process, []⟩) :
    ChargeInvariant history
      (process.applied (process.executor.modeCompletedReceived msg) []) := by
  have agenda : ∀ tasks : List (ModeExecutorBase.Task CompletedCallback),
      (∀ task ∈ tasks, ∃ onCompleted result, task = .hook (.completed onCompleted result)) →
      planned (tasks.map .executor) = [] ∧ entering (tasks.map .executor) = [] ∧
        ∀ task ∈ tasks.map Task.executor, task.isStatusUpdate = false := by
    intro tasks completions
    refine ⟨?_, ?_, ?_⟩
    · simp only [planned, List.filterMap_eq_nil_iff, List.mem_map]
      rintro _ ⟨task, member, rfl⟩
      obtain ⟨onCompleted, result, rfl⟩ := completions task member
      rfl
    · simp only [entering, List.filterMap_eq_nil_iff, List.mem_map]
      rintro _ ⟨task, member, rfl⟩
      obtain ⟨onCompleted, result, rfl⟩ := completions task member
      rfl
    · simp only [List.mem_map]
      rintro _ ⟨task, member, rfl⟩
      obtain ⟨onCompleted, result, rfl⟩ := completions task member
      rfl
  obtain ⟨plan, enters, others⟩ := agenda (process.executor.modeCompletedReceived msg).2 (by
    simp only [ModeExecutorBase.modeCompletedReceived]
    split
    · split <;> simp
    · simp)
  refine before.quiet none _ (by simp) ?_ ?_ plan enters others fun _ => rfl
  all_goals
    simp only [ModeExecutorBase.modeCompletedReceived]
    split
  all_goals first | exact ⟨rfl, rfl, rfl, rfl, rfl, rfl⟩ | exact ⟨rfl, rfl⟩

theorem record_inner {task : ModeExecutorBase.Task CompletedCallback} {input : Input}
    (outer : task.entering? = none) :
    chargeRecorder.record history ⟨process, .executor task :: rest⟩ input = history := by
  simp [Lib.Recorder.record, chargeRecorder, outer]

theorem step {config next : Config} {input : Input} (before : ChargeInvariant history config)
    (stepped : machine.step config input = some next) :
    ChargeInvariant (chargeRecorder.record history config input) next := by
  cases step_does stepped with
  | vehicleStatus process msg => exact before.received msg
  | modeCompleted process msg => exact before.modeCompleted msg
  | userEvent process =>
      exact before.quiet none [.user] (by simp) (.refl _) (.refl _) rfl rfl
        (by simp [Task.isStatusUpdate]) fun _ => rfl
  | enter process rest hook => exact before.entered
  | command process rest task result awaits =>
      have internal : ∀ hook, task ≠ .hook hook := by
        rintro hook rfl
        cases awaits
      rw [record_inner (by cases task <;> first | rfl | cases awaits)]
      exact before.resumed result internal
  | resume process rest task awaits internal =>
      have outer : task.entering? = none := by
        cases task with
        | hook hook => exact absurd rfl (internal hook)
        | _ => rfl
      rw [record_inner outer]
      exact before.resumed .success internal
  | request process rest request => exact before.requested request
  | ret process rest =>
      exact before.quiet (some .user) []
        (by simp [Task.isStatusUpdate, Task.entering?]) (.refl _) (.refl _) rfl rfl (by simp)
        (by simp)

end ChargeInvariant

theorem chargeInvariant_of_reaches {id : UInt8} {activation : Activation} {ownedMode : ModeBase}
    {config : ChargeConfig}
    (reached : chargeMachine.Reaches (fun config => Lib.Machine.unrestricted config.forget)
      (chargeInitial id activation ownedMode) config) :
    ChargeInvariant config.state.history config.forget := by
  refine reached.recorded_invariant ?_ fun _ _ _ _ before _ stepped => before.step stepped
  exact ⟨rfl, by simp [Alternating, chargeInitial], rfl, rfl, rfl, fun _ => ⟨rfl, rfl, rfl⟩,
    nofun, trivial, nofun, nofun, nofun⟩

/-! ### The owned mode -/

theorem modeResume_isActive (mode : ModeBase) (task : ModeBase.Task) :
    (mode.resume task).1.isActive = mode.isActive := by
  cases task with
  | hook => rfl
  | activated =>
      simp only [ModeBase.resume]
      split <;> rfl
  | updateSetpointUpdateTimer =>
      simp only [ModeBase.resume, ModeBase.updateSetpointUpdateTimer]
      split
      · split <;> rfl
      · rfl

/-- Only a vehicle status activates a mode, unless it is told not to. -/
theorem vehicleStatusUpdated_activates {mode : ModeBase} {msg : VehicleStatus}
    {doNotActivate : Bool} (inactive : mode.isActive = false)
    (active : (mode.vehicleStatusUpdated msg doNotActivate).1.isActive = true) :
    doNotActivate = false := by
  cases doNotActivate with
  | false => rfl
  | true =>
      simp only [ModeBase.vehicleStatusUpdated, ModeBase.callOnDeactivate, Bool.not_true,
        Bool.false_eq_true, if_false] at active
      split at active
      · split at active
        · simp [inactive] at active
        · cases active
      · simp [inactive] at active

theorem resume_activates {executor : ModeExecutorBase CompletedCallback}
    {task : ModeExecutorBase.Task CompletedCallback} {result : Result}
    (inactive : executor.ownedMode.isActive = false)
    (active : (executor.resume result task).1.ownedMode.isActive = true) :
    ∃ msg changedToArmed, task = .updateOwnedMode msg changedToArmed ∧
      (executor.doNotActivateMode changedToArmed && executor.isInCharge) = false := by
  have unchanged : (executor.resume result task).1.ownedMode.isActive =
      executor.ownedMode.isActive ∨ ∃ msg changedToArmed,
        task = .updateOwnedMode msg changedToArmed := by
    cases task with
    | hook | callOnActivate | callOnDeactivate | leaveCharge => exact .inl rfl
    | mode task =>
        cases task with
        | hook => exact .inl rfl
        | activated | updateSetpointUpdateTimer => exact .inl (modeResume_isActive ..)
    | updateOwnedMode msg changedToArmed => exact .inr ⟨msg, changedToArmed, rfl⟩
    | cancelScheduledMode =>
        simp only [ModeExecutorBase.resume, ModeExecutorBase.cancelScheduledMode]
        split <;> exact .inl rfl
    | cancelWaitVehicleStatus =>
        simp only [ModeExecutorBase.resume, ModeExecutorBase.cancelWaitVehicleStatus]
        split <;> exact .inl rfl
    | sendScheduleMode | sendArmDisarm | reactivateOnModeSwitch | notifyFailsafeDeferred =>
        simp only [ModeExecutorBase.resume]
        split <;> exact .inl rfl
    | finishStatusUpdate msg =>
        simp only [ModeExecutorBase.resume, ModeExecutorBase.updateWaitVehicleStatus]
        split
        · split <;> exact .inl rfl
        · exact .inl rfl
  rcases unchanged with same | ⟨msg, changedToArmed, rfl⟩
  · rw [same, inactive] at active
    cases active
  · exact ⟨msg, changedToArmed, rfl, vehicleStatusUpdated_activates inactive active⟩

/-- The owned mode becomes active in the status update only. -/
theorem step_activates {config next : Config} {input : Input}
    (stepped : machine.step config input = some next)
    (inactive : config.state.executor.ownedMode.isActive = false)
    (active : next.state.executor.ownedMode.isActive = true) :
    ∃ msg changedToArmed rest,
      config.agenda = .executor (.updateOwnedMode msg changedToArmed) :: rest ∧
      (config.state.executor.doNotActivateMode changedToArmed &&
        config.state.executor.isInCharge) = false := by
  have absurd_of_same : ∀ {before after : ModeExecutorBase CompletedCallback},
      after.ownedMode = before.ownedMode → before.ownedMode.isActive = false →
      after.ownedMode.isActive = true → False := by
    intro before after same inactive active
    rw [same, inactive] at active
    cases active
  cases step_does stepped with
  | vehicleStatus process msg =>
      refine (absurd_of_same ?_ inactive active).elim
      simp only [applied, ModeExecutorBase.vehicleStatusReceived,
        ModeExecutorBase.vehicleStatusUpdated]
      split
      · split
        · split <;> rfl
        · rfl
      · rfl
  | modeCompleted process msg =>
      refine (absurd_of_same ?_ inactive active).elim
      simp only [applied, ModeExecutorBase.modeCompletedReceived]
      split <;> rfl
  | userEvent | ret => exact (absurd_of_same rfl inactive active).elim
  | enter process rest hook =>
      exact (absurd_of_same (by cases hook <;> rfl) inactive active).elim
  | command process rest task result awaits =>
      obtain ⟨msg, changedToArmed, rfl, allowed⟩ := resume_activates inactive active
      exact ⟨msg, changedToArmed, rest, rfl, allowed⟩
  | resume process rest task awaits internal =>
      obtain ⟨msg, changedToArmed, rfl, allowed⟩ := resume_activates inactive active
      exact ⟨msg, changedToArmed, rest, rfl, allowed⟩
  | request process rest request =>
      refine (absurd_of_same ?_ inactive active).elim
      cases request <;>
        simp only [ExecutorProcess.request, ModeExecutorBase.takeoff, ModeExecutorBase.land,
          ModeExecutorBase.rtl, ModeExecutorBase.scheduleMode,
          ModeExecutorBase.scheduleModeCommand, ModeExecutorBase.arm, ModeExecutorBase.disarm,
          ModeExecutorBase.waitReadyToArm, ModeExecutorBase.waitUntilDisarmed] <;>
        split <;> rfl

/-! ### The life cycle -/

theorem two_of_both {events : List ChargeEvent} (deactivated : .deactivated ∈ events)
    (activated : .activated ∈ events) : 2 ≤ events.length := by
  cases events with
  | nil => cases deactivated
  | cons event events =>
      cases events with
      | nil =>
          have same := List.mem_singleton.mp deactivated
          rw [← List.mem_singleton.mp activated] at same
          cases same
      | cons => simp

/-- With this step the owned mode becomes active. -/
def ActivatesOwnedMode (config next : ChargeConfig) : Prop :=
  config.state.state.executor.ownedMode.isActive = false ∧
    next.state.state.executor.ownedMode.isActive = true

structure ActivationLifeCycle (config : ChargeConfig) : Prop where
  alternating : Alternating config.state.history.charges
  charge : config.agenda = [] → ∀ receipt, config.state.history.receipt = some receipt →
    config.state.state.executor.isInCharge =
      receipt.putsInCharge config.state.state.executor
  /-- A deactivation and an activation by one message. -/
  reactivated : .deactivated ∈ config.state.history.during →
    .activated ∈ config.state.history.during →
    config.state.history.during = [.deactivated, .activated] ∧
      ∃ receipt, config.state.history.receipt = some receipt ∧
        receipt.SwitchesToOwned config.state.state.executor
  /-- Where the owned mode becomes active, the executor has done its part of the status update; if
  it is in charge, it has no other mode scheduled, and does not wait on an arming edge. -/
  ownedMode : ∀ input next, chargeMachine.step config input = some next →
    ActivatesOwnedMode config next →
    ∃ receipt, config.state.history.receipt = some receipt ∧
      config.agenda = [.executor (.updateOwnedMode receipt.msg receipt.armingEdge)] ∧
      (config.state.state.executor.isInCharge = true →
        (∀ modeId, scheduledMode? config.state.state.executor = some modeId →
          modeId = config.state.state.executor.ownedMode.id) ∧
        ¬ (receipt.armingEdge = true ∧
          config.state.state.executor.currentWaitVehicleStatus.active = true))

theorem activation_life_cycle (id : UInt8) (activation : Activation) (ownedMode : ModeBase)
    (config : ChargeConfig)
    (reached : chargeMachine.Reaches Lib.Machine.unrestricted
      (chargeInitial id activation ownedMode) config) : ActivationLifeCycle config := by
  have invariant := chargeInvariant_of_reaches reached
  rcases config with ⟨⟨process, history⟩, agenda⟩
  constructor
  · exact invariant.alternating.left
  · intro quiescent receipt received
    obtain rfl : agenda = [] := quiescent
    have parity := invariant.parity
    have target := invariant.target receipt received
    exact parity.trans target
  · intro deactivated activated
    cases received : history.receipt with
    | none =>
        have none := (invariant.started received).2.1
        simp only at deactivated none
        rw [none] at deactivated
        cases deactivated
    | some receipt =>
        have enough := two_of_both deactivated activated
        rcases invariant.pair receipt received with few | ⟨pair, switched⟩
        · simp only [List.length_append] at few enough
          omega
        · refine ⟨?_, receipt, rfl, switched⟩
          have total := congrArg List.length pair
          simp only [List.length_append, List.length_cons, List.length_nil] at total enough
          have none : planned agenda = [] := by
            rw [← List.length_eq_zero_iff]
            simp only [Lib.Config.forget] at total
            omega
          simpa [Lib.Config.forget, none] using pair
  · intro input next stepped activates
    obtain ⟨msg, changedToArmed, rest, shape, allowed⟩ :=
      step_activates (Lib.Machine.step_forget stepped) activates.1 activates.2
    obtain rfl : agenda = .executor (.updateOwnedMode msg changedToArmed) :: rest := shape
    obtain rfl := ChargeInvariant.alone invariant rfl
    obtain ⟨receipt, received, rfl, rfl, -⟩ := invariant.status _ List.mem_cons_self rfl
    refine ⟨receipt, received, rfl, fun inCharge => ?_⟩
    simp only [Lib.Config.forget] at inCharge allowed
    simp only [inCharge, Bool.and_true, ModeExecutorBase.doNotActivateMode, Bool.or_eq_false_iff,
      Bool.and_eq_false_iff, bne_eq_false_iff_eq] at allowed
    obtain ⟨scheduled, waits⟩ := allowed
    constructor
    · intro modeId isScheduled
      simp only [scheduledMode?] at isScheduled
      split at isScheduled
      · rename_i active
        obtain rfl := Option.some.inj isScheduled
        rcases scheduled with inactive | same
        · rw [inactive] at active
          cases active
        · exact same.symm
      · cases isScheduled
    · rintro ⟨edge, waiting⟩
      rcases waits with noEdge | notWaiting
      · rw [noEdge] at edge
        cases edge
      · rw [notWaiting] at waiting
        cases waiting

/-- RTL is scheduled, and the user switches to the owned mode. -/
theorem activation_life_cycle_mode_switch :
    ∃ config : ChargeConfig, config.agenda = [] ∧
      config.state.history.during = [.deactivated, .activated] ∧ ActivationLifeCycle config := by
  obtain ⟨config, reached, quiescent, during⟩ := Lib.Machine.reaches_of_run_any
    chargeMachine Lib.Machine.unrestricted
    (chargeInitial 1 .activateOnlyWhenArmed ⟨100, false, false, false, false, 0, none⟩)
    (fun config => config.agenda = [] ∧
      config.state.history.during = [.deactivated, .activated])
    ([.vehicleStatus ⟨2, 4, 1, false, 0, true⟩, .proceed, .proceed, .request .rtl, .proceed,
      .command .success, .ret, .proceed, .proceed, .proceed, .proceed,
      .vehicleStatus ⟨2, 5, 1, false, 0, true⟩, .proceed, .proceed, .proceed, .proceed,
      .vehicleStatus ⟨2, 100, 1, false, 0, true⟩, .proceed, .proceed, .proceed, .proceed, .ret,
      .proceed, .proceed, .proceed, .ret, .proceed, .proceed, .ret, .proceed, .proceed, .proceed,
      .proceed, .ret, .proceed, .proceed, .proceed])
    (by decide +kernel)
  exact ⟨config, quiescent, during, activation_life_cycle _ _ _ config reached⟩

/-- An executor that is not in charge waits for the preflight checks, which it asked for when it
was deactivated. Arming then activates its owned mode. -/
theorem owned_mode_activated_while_waiting :
    ∃ config next receipt, chargeMachine.Reaches Lib.Machine.unrestricted
        (chargeInitial 1 .activateOnlyWhenArmed ⟨100, false, false, false, false, 0, none⟩) config ∧
      chargeMachine.step config .proceed = some next ∧ ActivatesOwnedMode config next ∧
      config.state.history.receipt = some receipt ∧ receipt.armingEdge = true ∧
      config.state.state.executor.currentWaitVehicleStatus.active = true := by
  obtain ⟨config, reached, edge, inactive, waits, active⟩ := Lib.Machine.reaches_of_run_any
    chargeMachine Lib.Machine.unrestricted
    (chargeInitial 1 .activateOnlyWhenArmed ⟨100, false, false, false, false, 0, none⟩)
    (fun config => config.state.history.receipt.any Receipt.armingEdge = true ∧
      config.state.state.executor.ownedMode.isActive = false ∧
      config.state.state.executor.currentWaitVehicleStatus.active = true ∧
      (chargeMachine.step config .proceed).any
        (fun next => next.state.state.executor.ownedMode.isActive) = true)
    [.vehicleStatus ⟨2, 4, 1, false, 0, true⟩, .proceed, .proceed, .ret, .proceed, .proceed,
      .proceed, .proceed,
      .vehicleStatus ⟨1, 4, 1, false, 0, false⟩, .proceed, .proceed, .proceed, .proceed, .proceed,
      .request .waitReadyToArm, .ret, .proceed, .proceed, .proceed, .proceed,
      .vehicleStatus ⟨2, 100, 0, false, 0, false⟩, .proceed, .proceed]
    (by decide)
  obtain ⟨receipt, received, isEdge⟩ := (Option.any_eq_true _ _).mp edge
  obtain ⟨next, stepped, isActive⟩ := (Option.any_eq_true _ _).mp active
  exact ⟨config, next, receipt, reached, stepped, ⟨inactive, isActive⟩, received, isEdge, waits⟩

end ExecutorProcess

end Px4Ros2
