import Px4Ros2.Components.SetpointTypes

/-! After a registration exactly one setpoint type is active, and FMU was told so, unless another
one than the first was active when the registration came to its end. -/

set_option autoImplicit false

namespace Px4Ros2

open Lib

namespace SetpointProcess

variable {component after : Component} {call : RegisterCall} {input : Input} {history : History}
  {position : Nat} {messages : List SetpointMessage}
  {environment : Component.Environment} {assertions : Bool} {tasks : List Task}

/-- The two cases of `onUpdate`. -/
theorem update_cases (updated : component.update position = some (after, messages)) :
    ∃ setpoint, component.setpointTypes[position]? = some setpoint ∧
      (((setpoint.active = true ∨ setpoint.hasShouldActivateCallback = false) ∧
          after = component ∧ messages = [.setpoint position]) ∨
        (setpoint.active = false ∧ setpoint.hasShouldActivateCallback = true ∧
          after = (component.shouldActivate position setpoint).1 ∧
          messages = [.controlMode (component.controlMode setpoint), .setpoint position])) := by
  obtain ⟨setpoint, found, result⟩ := Option.map_eq_some_iff.mp updated
  refine ⟨setpoint, found, ?_⟩
  split at result
  · rename_i switches
    obtain ⟨rfl, rfl⟩ := Prod.mk.inj result
    simp only [Bool.and_eq_true, Bool.not_eq_true'] at switches
    exact .inr ⟨switches.1, switches.2, rfl, rfl⟩
  · rename_i stays
    obtain ⟨rfl, rfl⟩ := Prod.mk.inj result
    refine .inl ⟨?_, rfl, rfl⟩
    cases active : setpoint.active with
    | true => exact .inl rfl
    | false => exact .inr (by simpa [active] using stays)

/-- All setpoint types have their callback. -/
def HaveCallbacks (component : Component) : Prop :=
  ∀ setpoint ∈ component.setpointTypes, setpoint.hasShouldActivateCallback = true

/-- The registration that the mode points to, and its state. -/
structure SamePointers (before after : Component) : Prop where
  registrations : after.registrations = before.registrations
  modeRegistration : after.modeRegistration = before.modeRegistration

theorem SamePointers.registration (same : SamePointers component after) :
    after.registration = component.registration := by
  simp [Component.registration, same.registrations, same.modeRegistration]

theorem updates_spec (updated : updates component input = some after)
    (callbacks : HaveCallbacks component) :
    SamePointers component after ∧ HaveCallbacks after := by
  cases input with
  | doRegister call environment => cases updated
  | addSetpointType configuration rate => cases updated
  | proceed => cases updated
  | updateNew position =>
      simp only [updates] at updated
      split at updated
      · cases updated
        exact ⟨⟨rfl, rfl⟩, callbacks⟩
      · cases updated
  | update position =>
      obtain ⟨⟨result, messages⟩, called, rfl⟩ := Option.map_eq_some_iff.mp updated
      obtain ⟨setpoint, found, ⟨-, rfl, -⟩ | ⟨-, -, rfl, -⟩⟩ := update_cases called
      · exact ⟨⟨rfl, rfl⟩, callbacks⟩
      · refine ⟨⟨rfl, rfl⟩, ?_⟩
        intro other member
        obtain ⟨index, inRange, rfl⟩ := List.mem_mapIdx.mp member
        exact callbacks component.setpointTypes[index] (List.getElem_mem inRange)

/-- Exactly one setpoint type is active, FMU has its configuration, and the next update tells FMU
about a change before it sends the setpoint. -/
structure Exclusive (history : History) (component : Component) : Prop where
  active : ∀ position setpoint, component.setpointTypes[position]? = some setpoint →
    (setpoint.active = true ↔ position = history.updated)
  exists_ : history.updated < component.setpointTypes.length
  published : ∀ setpoint, component.setpointTypes[history.updated]? = some setpoint →
    history.controlMode = some (component.controlMode setpoint)
  switches : ∀ position setpoint, component.setpointTypes[position]? = some setpoint →
    (component.update position).map Prod.snd =
      if position = history.updated then some [.setpoint position]
      else some [.controlMode (component.controlMode setpoint), .setpoint position]

/-- The active setpoint type only sends its setpoint, and any other one switches first. -/
theorem switches_of_active (callbacks : HaveCallbacks component) {updated : Nat}
    (active : ∀ position setpoint, component.setpointTypes[position]? = some setpoint →
      (setpoint.active = true ↔ position = updated))
    {setpoint : SetpointBase} (found : component.setpointTypes[position]? = some setpoint) :
    (component.update position).map Prod.snd =
      if position = updated then some [.setpoint position]
      else some [.controlMode (component.controlMode setpoint), .setpoint position] := by
  have hasCallback := callbacks setpoint (List.mem_of_getElem? found)
  have isActive := active position setpoint found
  by_cases same : position = updated
  · rw [if_pos same]
    simp [Component.update, found, isActive.mpr same]
  · have inactive : setpoint.active = false := by
      rw [Bool.eq_false_iff, ne_eq, isActive]
      exact same
    simp [Component.update, found, inactive, hasCallback, same, Component.shouldActivate]

theorem Exclusive.update (exclusive : Exclusive history component)
    (callbacks : HaveCallbacks component) (succeeded : history.succeeded = true)
    (updated : component.update position = some (after, messages)) :
    Exclusive (history.update component (.update position)) after := by
  obtain ⟨setpoint, found, outcome⟩ := update_cases updated
  have inRange : position < component.setpointTypes.length :=
    (List.getElem?_eq_some_iff.mp found).1
  have hasCallback := callbacks setpoint (List.mem_of_getElem? found)
  have nowUpdated : (history.update component (.update position)).updated = position := by
    simp [History.update, succeeded]
  rcases outcome with ⟨active | none, rfl, rfl⟩ | ⟨inactive, -, rfl, rfl⟩
  · have same : position = history.updated := (exclusive.active position setpoint found).mp active
    have unchanged : history.update after (.update position) = history := by
      obtain ⟨succeeded', updated', controlMode⟩ := history
      obtain rfl : position = updated' := same
      simp [History.update, updated, History.publish, SetpointMessage.controlMode?]
    rw [unchanged]
    exact exclusive
  · rw [hasCallback] at none
    cases none
  · have nowActive : ∀ index other,
        (component.shouldActivate position setpoint).1.setpointTypes[index]? = some other →
        (other.active = true ↔ index = position) := by
      intro index other there
      rw [Component.shouldActivate, List.getElem?_mapIdx] at there
      obtain ⟨before, -, rfl⟩ := Option.map_eq_some_iff.mp there
      simp
    have stillCallbacks : HaveCallbacks (component.shouldActivate position setpoint).1 := by
      have taken : updates component (.update position) =
          some (component.shouldActivate position setpoint).1 := by
        simpa [updates] using ⟨_, updated⟩
      exact (updates_spec taken callbacks).2
    constructor
    · rw [nowUpdated]
      exact nowActive
    · rw [nowUpdated]
      simpa [Component.shouldActivate] using inRange
    · intro other there
      rw [nowUpdated, Component.shouldActivate, List.getElem?_mapIdx, found] at there
      cases there
      simp [History.update, updated, History.publish, SetpointMessage.controlMode?]
      rfl
    · rw [nowUpdated]
      exact fun index other there => switches_of_active stillCallbacks nowActive there

theorem setup_controlModes {overrides result : OverridesState} {type id : UInt8}
    {published : List Published} (done : overrides.setup type id = some (result, published)) :
    published.filterMap publishedControlMode? = [] := by
  unfold OverridesState.setup at done
  split at done
  · cases done
  · dsimp only at done
    split at done <;> cases done <;> rfl

theorem setUpdateRate_setpointTypes (component : Component) :
    component.setSetpointUpdateRateFromSetpointTypes.setpointTypes = component.setpointTypes := by
  unfold Component.setSetpointUpdateRateFromSetpointTypes
  dsimp only
  split <;> rfl

/-- What `ModeBase::onRegistered` does to the setpoint types. -/
theorem modeOnRegistered_cases {ret : Bool} {published : List Published}
    (done : component.onRegistered = some (after, ret, published)) :
    SamePointers component after ∧
      ((ret = false ∧ after.setpointTypes = component.setpointTypes) ∨
        ∃ setpoint others, ret = true ∧ component.setpointTypes = setpoint :: others ∧
          after.setpointTypes = { setpoint with active := true } :: others ∧
          published.filterMap publishedControlMode? = [component.controlMode setpoint]) := by
  unfold Component.onRegistered at done
  obtain ⟨⟨overrides, first⟩, setUp, done⟩ := Option.bind_eq_some_iff.mp done
  have quiet := setup_controlModes setUp
  cases shape : component.setpointTypes with
  | nil =>
      simp only [shape, if_true] at done
      cases done
      exact ⟨⟨rfl, rfl⟩, .inl ⟨rfl, by simp⟩⟩
  | cons setpoint others =>
      simp only [shape, reduceCtorEq, if_false, Component.activateFirstSetpointType] at done
      cases done
      constructor
      · split
        · have same := RegisterCall.setSetpointUpdateRate_same
          exact ⟨(same _).registrations, (same _).modeRegistration⟩
        · exact ⟨rfl, rfl⟩
      · refine .inr ⟨setpoint, others, rfl, rfl, ?_, ?_⟩
        · split
          · rw [setUpdateRate_setpointTypes]
          · rfl
        · rw [List.filterMap_append, quiet]
          rfl

theorem onRegistered_cases {ret : Bool} {published : List Published}
    (done : onRegistered component call = some (after, ret, published)) :
    SamePointers component after ∧
      ((ret = false ∧ after.setpointTypes = component.setpointTypes) ∨
        ∃ setpoint others, ret = true ∧ component.setpointTypes = setpoint :: others ∧
          after.setpointTypes = { setpoint with active := true } :: others ∧
          published.filterMap publishedControlMode? = [component.controlMode setpoint]) := by
  obtain ⟨⟨middle, ret', first⟩, modeDone, done⟩ := Option.bind_eq_some_iff.mp done
  have outcome := modeOnRegistered_cases modeDone
  cases call with
  | modeBase =>
      cases done
      exact outcome
  | modeExecutorBase =>
      obtain ⟨⟨last, executorPublished⟩, executorDone, done⟩ := Option.bind_eq_some_iff.mp done
      obtain ⟨⟨overrides, messages⟩, setUp, same⟩ := Option.bind_eq_some_iff.mp executorDone
      cases same
      cases done
      rw [List.filterMap_append, setup_controlModes setUp, List.append_nil]
      exact ⟨⟨outcome.1.registrations, outcome.1.modeRegistration⟩, outcome.2⟩

theorem onRegistered_of_registeredNow {exchange : Registration.Exchange}
    {outcome : Component.Outcome}
    (done : call.registeredNow component exchange = some outcome) :
    ∃ published, onRegistered component call =
      some (outcome.component, outcome.result, published) := by
  obtain ⟨⟨after, ret, published⟩, modeDone, done⟩ := Option.bind_eq_some_iff.mp done
  cases call with
  | modeBase =>
      cases done
      exact ⟨published, by simp [onRegistered, modeDone]⟩
  | modeExecutorBase =>
      obtain ⟨⟨last, executorPublished⟩, executorDone, done⟩ := Option.bind_eq_some_iff.mp done
      cases done
      exact ⟨published ++ executorPublished, by simp [onRegistered, modeDone, executorDone]⟩

/-- A call of `doRegister` without any update in between is a run of its steps. -/
theorem run_of_doRegister {outcome : Component.Outcome}
    (unregistered : component.registration.registered = false)
    (done : call.doRegister component environment = some outcome) :
    ∃ count, (machine true).run Machine.unrestricted ⟨component, []⟩
      (.doRegister call environment :: List.replicate count .proceed) =
        some ⟨outcome.component, []⟩ := by
  rw [RegisterCall.doRegister_eq] at done
  split at done
  · cases done
  rename_i notRegistered
  split at done
  · rename_i passes
    split at done
    · rename_i holds
      have empty : component.setpointTypes = [] := by
        simp only [RegisterCall.assertionsHold, Bool.and_eq_true, decide_eq_true_eq] at holds
        exact holds.1.1
      obtain ⟨⟨after, exchange⟩, exchanged, done⟩ := Option.bind_eq_some_iff.mp done
      have started : doRegister true component call environment =
          some (call.prepared component, [.exchange call environment]) := by
        simp [doRegister, notRegistered, unregistered, passes, holds,
          RegisterCall.moved_eq_prepared call component empty]
      rw [RegisterCall.owner_prepared, RegisterCall.settings_prepared] at exchanged
      dsimp only at done
      split at done
      · rename_i isRegistered
        obtain ⟨published, last⟩ := onRegistered_of_registeredNow done
        exact ⟨2, by simp [Machine.run, Machine.step, machine, idle, started, exec, exchanged,
          isRegistered, last]⟩
      · rename_i failed
        cases done
        exact ⟨1, by simp [Machine.run, Machine.step, machine, idle, started, exec, exchanged,
          failed]⟩
    · cases done
  · rename_i refused
    cases done
    exact ⟨0, by simp [Machine.run, Machine.step, machine, idle, doRegister, notRegistered,
      unregistered, refused]⟩

/-- What a registration has pending, and what holds after it. -/
structure Progress (history : History) (config : Config) : Prop where
  callbacks : HaveCallbacks config.state
  pending : config.agenda = [] ∨
    history.succeeded = false ∧
      ((∃ call environment, config.agenda = [.exchange call environment] ∧
          config.state.modeRegistration = call.owner config.state) ∨
        ∃ call, config.agenda = [.onRegistered call] ∧
          config.state.registration.registered = true)
  registered : history.succeeded = true → config.state.registration.registered = true ∧
    Exclusive history config.state

@[simp] theorem succeeded_update :
    (history.update component input).succeeded = history.succeeded := by
  cases input <;> rfl

theorem updates_exclusive (updated : updates component input = some after)
    (callbacks : HaveCallbacks component)
    (registered : history.succeeded = true → component.registration.registered = true ∧
      Exclusive history component) :
    HaveCallbacks after ∧
      ((history.update component input).succeeded = true →
        after.registration.registered = true ∧
          Exclusive (history.update component input) after) := by
  obtain ⟨same, stillCallbacks⟩ := updates_spec updated callbacks
  refine ⟨stillCallbacks, ?_⟩
  intro succeeded
  rw [succeeded_update] at succeeded
  obtain ⟨isRegistered, exclusive⟩ := registered succeeded
  refine ⟨same.registration ▸ isRegistered, ?_⟩
  cases input with
  | doRegister call environment => cases updated
  | addSetpointType configuration rate => cases updated
  | proceed => cases updated
  | updateNew position =>
      simp only [updates] at updated
      split at updated
      · cases updated
        exact exclusive
      · cases updated
  | update position =>
      obtain ⟨⟨result, messages⟩, called, rfl⟩ := Option.map_eq_some_iff.mp updated
      exact exclusive.update callbacks succeeded called

theorem progress_idle {state : Component}
    (progress : Progress history ⟨component, []⟩)
    (taken : idle assertions component input = some (state, tasks)) :
    Progress (history.update component input) ⟨state, tasks⟩ := by
  unfold idle at taken
  split at taken
  · rename_i call environment
    unfold doRegister at taken
    split at taken
    · cases taken
    rename_i notRegistered
    have unregistered : component.registration.registered = false := by
      simp only [Bool.or_eq_true, not_or, Bool.not_eq_true] at notRegistered
      exact notRegistered.2
    have notYet : history.succeeded = false := by
      rw [Bool.eq_false_iff]
      intro succeeded
      rw [(progress.registered succeeded).1] at unregistered
      cases unregistered
    split at taken
    · cases taken
      exact progress
    split at taken
    · cases taken
    cases taken
    constructor
    · intro setpoint member
      rcases List.mem_append.mp member with old | new
      · exact progress.callbacks setpoint old
      · obtain ⟨before, -, rfl⟩ := List.mem_map.mp new
        rfl
    · exact .inr ⟨notYet, .inl ⟨call, environment, rfl, by cases call <;> rfl⟩⟩
    · intro succeeded
      rw [succeeded_update, notYet] at succeeded
      cases succeeded
  · obtain ⟨after, added, same⟩ := Option.map_eq_some_iff.mp taken
    cases same
    simp only [Component.addSetpointType] at added
    split at added
    · cases added
    · rename_i unregistered
      cases added
      refine ⟨progress.callbacks, .inl rfl, ?_⟩
      intro succeeded
      exact absurd (progress.registered succeeded).1 unregistered
  · obtain ⟨after, updated, same⟩ := Option.map_eq_some_iff.mp taken
    cases same
    obtain ⟨callbacks, registered⟩ :=
      updates_exclusive updated progress.callbacks progress.registered
    exact ⟨callbacks, .inl rfl, registered⟩

/-- What happens during a registration. -/
theorem exec_cases {task : Task} {state : Component}
    (executed : exec component task input = some (state, tasks)) :
    (∃ call environment exchange, task = .exchange call environment ∧ input = .proceed ∧
      component.exchange (call.owner component) (call.settings component) environment =
        some (state, exchange) ∧
      tasks = if call.registered state then [.onRegistered call] else []) ∨
    (∃ call ret published, task = .onRegistered call ∧ input = .proceed ∧
      onRegistered component call = some (state, ret, published) ∧ tasks = []) ∨
    (updates component input = some state ∧ tasks = [task]) := by
  unfold exec at executed
  split at executed
  · obtain ⟨⟨after, exchange⟩, done, same⟩ := Option.map_eq_some_iff.mp executed
    cases same
    exact .inl ⟨_, _, exchange, rfl, rfl, done, rfl⟩
  · obtain ⟨⟨after, ret, published⟩, done, same⟩ := Option.map_eq_some_iff.mp executed
    cases same
    exact .inr (.inl ⟨_, ret, published, rfl, rfl, done, rfl⟩)
  · obtain ⟨after, updated, same⟩ := Option.map_eq_some_iff.mp executed
    cases same
    exact .inr (.inr ⟨updated, rfl⟩)

theorem exchange_cases {owner : RegistrationOwner} {settings : RegistrationSettings}
    {exchange : Registration.Exchange}
    (done : component.exchange owner settings environment = some (after, exchange)) :
    after.setpointTypes = component.setpointTypes ∧
      after.modeRegistration = component.modeRegistration := by
  obtain ⟨exchanged, -, same⟩ := Option.bind_eq_some_iff.mp done
  cases same
  exact ⟨rfl, rfl⟩

/-- The first setpoint type is activated, and the others are inactive already. -/
theorem exclusive_onRegistered {published : List Published} (history : History)
    (callbacks : HaveCallbacks component)
    (inactive : OthersInactive component)
    (done : onRegistered component call = some (after, true, published)) :
    HaveCallbacks after ∧ Exclusive (history.register component call) after := by
  obtain ⟨same, ⟨no, -⟩ | ⟨setpoint, others, -, shape, now, messages⟩⟩ := onRegistered_cases done
  · cases no
  have stillCallbacks : HaveCallbacks after := by
    intro other member
    rw [now] at member
    rcases List.mem_cons.mp member with rfl | inOthers
    · exact callbacks setpoint (shape ▸ List.mem_cons_self)
    · exact callbacks other (shape ▸ List.mem_cons_of_mem _ inOthers)
  have active : ∀ position other, after.setpointTypes[position]? = some other →
      (other.active = true ↔ position = 0) := by
    intro position other there
    rw [now] at there
    cases position with
    | zero =>
        cases there
        simp
    | succ position =>
        have member : other ∈ component.setpointTypes.tail :=
          shape ▸ List.mem_of_getElem? there
        simp [inactive other member]
  have registers : history.register component call =
      { history with
        succeeded := true, updated := 0
        controlMode := some (component.controlMode setpoint) } := by
    simp [History.register, done, messages, History.publish]
  rw [registers]
  refine ⟨stillCallbacks, ?_⟩
  constructor
  · exact active
  · rw [now]
    exact Nat.zero_lt_succ _
  · intro other there
    rw [now] at there
    cases there
    simp [Component.controlMode, same.registration]
  · exact fun position other there => switches_of_active stillCallbacks active there

theorem register_failed {published : List Published}
    (done : onRegistered component call = some (after, false, published)) :
    (history.register component call).succeeded = false := by
  simp [History.register, done]

theorem progress_exec {task : Task} {rest : List Task} {state : Component}
    (progress : Progress history ⟨component, task :: rest⟩)
    (undisturbed : Undisturbed ⟨component, task :: rest⟩ input)
    (executed : exec component task input = some (state, tasks)) :
    Progress (recorder.task history component task input) ⟨state, tasks ++ rest⟩ := by
  obtain ⟨callbacks, empty | ⟨notYet, pending⟩, registered⟩ := progress
  · cases empty
  obtain rfl : rest = [] := by
    rcases pending with ⟨_, _, shape, -⟩ | ⟨_, shape, -⟩ <;> exact (List.cons.inj shape).2
  rw [List.append_nil]
  rcases exec_cases executed with ⟨call, environment, exchange, rfl, rfl, done, rfl⟩ |
    ⟨call, ret, published, rfl, rfl, done, rfl⟩ | ⟨updated, rfl⟩
  · obtain ⟨sameTypes, sameOwner⟩ := exchange_cases done
    refine ⟨fun setpoint member => callbacks setpoint (sameTypes ▸ member), ?_, ?_⟩
    · rcases pending with ⟨call', environment', shape, owner⟩ | ⟨_, shape, -⟩
      · cases shape
        split
        · rename_i isRegistered
          refine .inr ⟨notYet, .inr ⟨call, rfl, ?_⟩⟩
          have owner' : state.modeRegistration = call.owner state := by
            cases call with
            | modeBase => rfl
            | modeExecutorBase => exact sameOwner.trans owner
          rw [Component.registration, owner']
          exact isRegistered
        · exact .inl rfl
      · cases shape
    · intro succeeded
      rw [show (recorder.task history component (.exchange call environment) .proceed).succeeded =
        history.succeeded from rfl, notYet] at succeeded
      cases succeeded
  · rcases pending with ⟨_, _, shape, -⟩ | ⟨call', shape, isRegistered⟩
    · cases shape
    cases shape
    cases ret with
    | true =>
        obtain ⟨stillCallbacks, exclusive⟩ :=
          exclusive_onRegistered history callbacks undisturbed done
        refine ⟨stillCallbacks, .inl rfl, fun _ => ⟨?_, exclusive⟩⟩
        exact (onRegistered_cases done).1.registration ▸ isRegistered
    | false =>
        obtain ⟨-, ⟨-, sameTypes⟩ | ⟨_, _, yes, -⟩⟩ := onRegistered_cases done
        · refine ⟨fun setpoint member => callbacks setpoint (sameTypes ▸ member), .inl rfl, ?_⟩
          intro succeeded
          rw [show (recorder.task history component (.onRegistered call) .proceed).succeeded =
            false from register_failed done] at succeeded
          cases succeeded
        · cases yes
  · obtain ⟨stillCallbacks, stillRegistered⟩ := updates_exclusive updated callbacks registered
    have records : recorder.task history component task input =
        history.update component input := by
      cases task <;> cases input <;> first | rfl | cases updated
    rw [records]
    refine ⟨stillCallbacks, .inr ⟨by rw [succeeded_update, notYet], ?_⟩, stillRegistered⟩
    obtain ⟨same, -⟩ := updates_spec updated callbacks
    rcases pending with ⟨call, environment, shape, owner⟩ | ⟨call, shape, isRegistered⟩
    · cases shape
      refine .inl ⟨call, environment, rfl, ?_⟩
      cases call with
      | modeBase => rfl
      | modeExecutorBase => exact same.modeRegistration.trans owner
    · cases shape
      exact .inr ⟨call, rfl, same.registration ▸ isRegistered⟩

theorem progress_next (history : History) (config : Config) (input : Input) (next : Config)
    (progress : Progress history config) (undisturbed : Undisturbed config input)
    (stepped : (machine assertions).step config input = some next) :
    Progress (recorder.record history config input) next := by
  obtain ⟨component, agenda⟩ := config
  rcases Machine.step_cases stepped with
    ⟨quiescent, state, tasks, taken, rfl⟩ | ⟨task, rest, state, tasks, shape, executed, rfl⟩
  · obtain rfl : agenda = [] := quiescent
    exact progress_idle progress taken
  · obtain rfl : agenda = task :: rest := shape
    exact progress_exec progress undisturbed executed

/-- The setpoint types of a registered mode exclude each other, in builds with and without
assertions, whatever was updated before and during the attempts to register. -/
theorem exclusive_of_succeeded {newMode : Component} (notMoved : newMode.setpointTypes = [])
    {config : Lib.Config (Recorded Component History) Task}
    (reached : ((machine assertions).recorded recorder).Reaches
      (fun reached => Undisturbed reached.forget) ⟨⟨newMode, {}⟩, []⟩ config)
    (succeeded : config.state.history.succeeded = true) :
    Exclusive config.state.history config.state.state := by
  have start : Progress {} ⟨newMode, []⟩ := by
    refine ⟨?_, .inl rfl, nofun⟩
    intro setpoint member
    rw [notMoved] at member
    cases member
  have progress : Progress config.state.history config.forget :=
    reached.recorded_invariant start progress_next
  exact (progress.registered succeeded).2

section Examples

/-- A mode with two setpoint types, for position and for rates. -/
def positionAndRates : Component :=
  RegisterCall.newMode [{}, { configuration := { positionEnabled := false } }]

/-- FMU does not answer the request. -/
def silentFmu : Component.Environment :=
  { RegisterCall.acceptingFmu 1 with attempts := [] }

theorem exclusive_of_succeeded_two_types :
    ∃ config : Lib.Config (Recorded Component History) Task,
      (config.state.history.succeeded = true ∧ config.state.history.updated = 1) ∧
      Exclusive config.state.history config.state.state := by
  obtain ⟨config, reached, succeeded, updated⟩ := Machine.reaches_of_run_any
    ((machine true).recorded recorder) (fun reached => Undisturbed reached.forget)
    ⟨⟨positionAndRates, {}⟩, []⟩
    (fun config => config.state.history.succeeded = true ∧ config.state.history.updated = 1)
    [.updateNew 1, .doRegister .modeBase (RegisterCall.acceptingFmu 1), .update 1, .update 0,
      .proceed, .proceed, .update 0, .update 1]
    (by decide +kernel)
  exact ⟨config, ⟨succeeded, updated⟩, exclusive_of_succeeded rfl reached succeeded⟩

theorem not_exclusive_of_both {component : Component}
    (both : component.setpointTypes.map (·.active) = [true, true]) :
    ¬ Exclusive history component := by
  intro exclusive
  match shape : component.setpointTypes with
  | [] => simp [shape] at both
  | [_] => simp [shape] at both
  | first :: second :: rest =>
      simp only [shape, List.map_cons, List.cons.injEq] at both
      have zero := (exclusive.active 0 first (by simp [shape])).mp both.1
      have one := (exclusive.active 1 second (by simp [shape])).mp both.2.1
      omega

/-- The second setpoint type is updated during the only attempt, and, in a build without
assertions, between a failed attempt and a successful one. -/
theorem two_active_types :
    (∃ config : Lib.Config (Recorded Component History) Task,
      ((machine true).recorded recorder).Reaches Machine.unrestricted
        ⟨⟨positionAndRates, {}⟩, []⟩ config ∧
      config.state.history.succeeded = true ∧
      ¬ Exclusive config.state.history config.state.state) ∧
    ∃ config : Lib.Config (Recorded Component History) Task,
      ((machine false).recorded recorder).Reaches Machine.unrestricted
        ⟨⟨positionAndRates, {}⟩, []⟩ config ∧
      config.state.history.succeeded = true ∧
      ¬ Exclusive config.state.history config.state.state := by
  constructor
  · obtain ⟨config, reached, succeeded, both⟩ := Machine.reaches_of_run_any
      ((machine true).recorded recorder) Machine.unrestricted ⟨⟨positionAndRates, {}⟩, []⟩
      (fun config => config.state.history.succeeded = true ∧
        config.state.state.setpointTypes.map (·.active) = [true, true])
      [.doRegister .modeBase (RegisterCall.acceptingFmu 1), .update 1, .proceed, .proceed]
      (by decide +kernel)
    exact ⟨config, reached, succeeded, not_exclusive_of_both both⟩
  · obtain ⟨config, reached, succeeded, both⟩ := Machine.reaches_of_run_any
      ((machine false).recorded recorder) Machine.unrestricted ⟨⟨positionAndRates, {}⟩, []⟩
      (fun config => config.state.history.succeeded = true ∧
        config.state.state.setpointTypes.map (·.active) = [true, true])
      [.doRegister .modeBase silentFmu, .proceed, .update 1,
        .doRegister .modeBase (RegisterCall.acceptingFmu 1), .proceed, .proceed]
      (by decide +kernel)
    exact ⟨config, reached, succeeded, not_exclusive_of_both both⟩

end Examples

end SetpointProcess

end Px4Ros2
