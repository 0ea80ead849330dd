import Px4Ros2.Components.ModeRegistration

/-! When a call of `doRegister` leaves everything or nothing behind. -/

set_option autoImplicit false

namespace Px4Ros2

open Lib

/-- The two functions that register a component. -/
inductive RegisterCall where
  | modeBase
  | modeExecutorBase
deriving DecidableEq, Repr

namespace RegisterCall

variable {call : RegisterCall} {component : Component} {environment : Component.Environment}

def doRegister (call : RegisterCall) (component : Component)
    (environment : Component.Environment) : Option Component.Outcome :=
  match call with
  | .modeBase => component.doRegister environment
  | .modeExecutorBase => component.executorDoRegister environment

/-- Whose registration the object points to. -/
def owner (call : RegisterCall) (component : Component) : RegistrationOwner :=
  match call with
  | .modeBase => component.modeRegistration
  | .modeExecutorBase => .modeExecutorBase

/-- `_registration->registered()`. -/
def registered (call : RegisterCall) (component : Component) : Bool :=
  (component.registrations.get (call.owner component)).registered

def skipsMessageCompatibilityCheck (call : RegisterCall) (component : Component) : Bool :=
  match call with
  | .modeBase => component.modeSkipsMessageCompatibilityCheck
  | .modeExecutorBase => component.executorSkipsMessageCompatibilityCheck

def settings (call : RegisterCall) (component : Component) : RegistrationSettings :=
  match call with
  | .modeBase => component.getRegistrationSettings
  | .modeExecutorBase =>
      { component.getRegistrationSettings with
        registerModeExecutor := true
        activateModeImmediately := component.activation == .activateImmediately }

/-- The check is skipped or succeeds. -/
def passesCheck (call : RegisterCall) (component : Component)
    (environment : Component.Environment) : Bool :=
  call.skipsMessageCompatibilityCheck component ||
    (environment.fmuAnswers && environment.compatible)

/-- The assertions between the check and the request. -/
def assertionsHold (call : RegisterCall) (component : Component) : Bool :=
  component.setpointTypes = [] &&
    !(component.registrations.get component.healthRegistration).registered &&
    (call == .modeBase || !component.registration.registered)

/-- The component when the request is sent. -/
def prepared (call : RegisterCall) (component : Component) : Component :=
  { component with
    setpointTypes := component.newSetpointTypes.map
      ({ · with hasShouldActivateCallback := true })
    newSetpointTypes := []
    modeRequirements := ((component.newSetpointTypes.foldl (fun requirements setpoint =>
      requirements.require setpoint.configuration) component.modeRequirements)).relax
    healthRegistration := call.owner component
    modeRegistration := call.owner component
    vehicleStatusSubscribed :=
      match call with
      | .modeBase => component.vehicleStatusSubscribed
      | .modeExecutorBase => false }

/-- What follows in a registered component. -/
def registeredNow (call : RegisterCall) (component : Component)
    (exchange : Registration.Exchange) : Option Component.Outcome := do
  let requests := exchange.requests.map .registerExtComponentRequest
  let (component, ret, published) ← component.onRegistered
  match call with
  | .modeBase =>
      return { component, result := ret, taken := exchange.taken, published := requests ++ published }
  | .modeExecutorBase =>
      let (component, executorPublished) ← component.executorOnRegistered
      return { component, result := ret, taken := exchange.taken
               published := requests ++ published ++ executorPublished }

/-- The request and what follows it. -/
def request (call : RegisterCall) (component : Component)
    (environment : Component.Environment) : Option Component.Outcome := do
  let (component, exchange) ← component.exchange (call.owner component)
    (call.settings component) environment
  if call.registered component then call.registeredNow component exchange
  else return { component, result := false, taken := exchange.taken
                published := exchange.requests.map .registerExtComponentRequest }

theorem foldl_require_map (requirements : RequirementFlags) (setpoints : List SetpointBase) :
    (setpoints.map ({ · with hasShouldActivateCallback := true })).foldl
        (fun requirements setpoint => requirements.require setpoint.configuration) requirements =
      setpoints.foldl (fun requirements setpoint =>
        requirements.require setpoint.configuration) requirements := by
  rw [List.foldl_map]

theorem onAboutToRegister_eq (empty : component.setpointTypes = []) :
    component.onAboutToRegister = some { component with
      setpointTypes := component.newSetpointTypes.map
        ({ · with hasShouldActivateCallback := true })
      newSetpointTypes := []
      modeRequirements := (component.newSetpointTypes.foldl (fun requirements setpoint =>
        requirements.require setpoint.configuration) component.modeRequirements).relax } := by
  rw [Component.onAboutToRegister, if_pos empty]
  simp only [Component.updateModeRequirementsFromSetpoints, foldl_require_map]

theorem refusal_eq (skips answers compatible : Bool) :
    (!skips && (!answers || !compatible)) = !(skips || (answers && compatible)) := by
  cases skips <;> cases answers <;> rfl

theorem onAboutToRegister_eq_none (filled : component.setpointTypes ≠ []) :
    component.onAboutToRegister = none := by
  rw [Component.onAboutToRegister, if_neg filled]

/-- `ModeBase::doRegister` after the check. -/
theorem modeBase_request (component : Component) (environment : Component.Environment) :
    (do
      let component ← component.onAboutToRegister
      let component ← component.overrideHealthRegistration component.modeRegistration
      let (component, exchange) ← component.exchange component.modeRegistration
        component.getRegistrationSettings environment
      let requests := exchange.requests.map Published.registerExtComponentRequest
      if component.registration.registered then
        let (component, ret, published) ← component.onRegistered
        return { component, result := ret, taken := exchange.taken,
                 published := requests ++ published : Component.Outcome }
      else return { component, result := false, taken := exchange.taken, published := requests }) =
      if modeBase.assertionsHold component then
        modeBase.request (modeBase.prepared component) environment
      else none := by
  by_cases empty : component.setpointTypes = []
  · rw [onAboutToRegister_eq empty]
    cases health : (component.registrations.get component.healthRegistration).registered with
    | true => simp [Component.overrideHealthRegistration, assertionsHold, health]
    | false =>
        simp only [Option.bind_eq_bind, Option.bind_some, Component.overrideHealthRegistration,
          assertionsHold, health, empty]
        rfl
  · simp [onAboutToRegister_eq_none empty, assertionsHold, empty]

/-- `ModeExecutorBase::doRegister` after the check. -/
theorem modeExecutorBase_request (component : Component) (environment : Component.Environment) :
    (do
      let component ← component.onAboutToRegister
      let component ← component.overrideRegistration .modeExecutorBase
      let component := { component with vehicleStatusSubscribed := false }
      let settings :=
        { component.getRegistrationSettings with
          registerModeExecutor := true
          activateModeImmediately := component.activation == .activateImmediately }
      let (component, exchange) ← component.exchange .modeExecutorBase settings environment
      let requests := exchange.requests.map Published.registerExtComponentRequest
      if component.executorRegistration.registered then
        let (component, ret, published) ← component.onRegistered
        let (component, executorPublished) ← component.executorOnRegistered
        return { component, result := ret, taken := exchange.taken
                 published := requests ++ published ++ executorPublished : Component.Outcome }
      else return { component, result := false, taken := exchange.taken, published := requests }) =
      if modeExecutorBase.assertionsHold component then
        modeExecutorBase.request (modeExecutorBase.prepared component) environment
      else none := by
  by_cases empty : component.setpointTypes = []
  · rw [onAboutToRegister_eq empty]
    cases health : (component.registrations.get component.healthRegistration).registered with
    | true =>
        simp [Component.overrideRegistration, Component.overrideHealthRegistration,
          assertionsHold, health]
    | false =>
        cases mode : (component.registrations.get component.modeRegistration).registered with
        | true =>
            simp [Component.overrideRegistration, Component.registration, assertionsHold, mode]
        | false =>
            simp only [Option.bind_eq_bind, Option.bind_some, Component.overrideRegistration,
              Component.overrideHealthRegistration, Component.registration, assertionsHold,
              health, mode, empty]
            rfl
  · simp [onAboutToRegister_eq_none empty, assertionsHold, empty]

/-- Both functions are the check, the assertions, and one and the same request. -/
theorem doRegister_eq (call : RegisterCall) (component : Component)
    (environment : Component.Environment) :
    call.doRegister component environment =
      if call.registered component then none
      else if call.passesCheck component environment then
        if call.assertionsHold component then call.request (call.prepared component) environment
        else none
      else some { component, result := false } := by
  cases call with
  | modeBase =>
      rw [doRegister, Component.doRegister, refusal_eq, modeBase_request]
      unfold passesCheck skipsMessageCompatibilityCheck
      cases component.modeSkipsMessageCompatibilityCheck ||
        (environment.fmuAnswers && environment.compatible) <;> rfl
  | modeExecutorBase =>
      rw [doRegister, Component.executorDoRegister, refusal_eq, modeExecutorBase_request]
      unfold passesCheck skipsMessageCompatibilityCheck
      cases component.executorSkipsMessageCompatibilityCheck ||
        (environment.fmuAnswers && environment.compatible) <;> rfl

/-! ### The request -/

/-- The component with what the exchange has stored. -/
def stored (call : RegisterCall) (component : Component) (exchange : Registration.Exchange) :
    Component :=
  { component with
    registrations := component.registrations.set (call.owner component) exchange.registration }

@[simp] theorem registered_stored (exchange : Registration.Exchange) :
    call.registered (call.stored component exchange) = exchange.registration.registered := by
  cases call <;> simp [registered, stored, owner]

theorem request_refused {exchange : Registration.Exchange}
    (exchanged : (component.registrations.get (call.owner component)).doRegister
      (call.settings component) environment.requestId environment.attempts = some exchange)
    (refused : exchange.registration.registered = false) :
    call.request component environment = some
      { component := call.stored component exchange
        result := false
        taken := exchange.taken
        published := exchange.requests.map .registerExtComponentRequest } := by
  have unregistered : call.registered (call.stored component exchange) = _ :=
    registered_stored exchange
  rw [refused] at unregistered
  unfold stored at unregistered
  simp [request, Component.exchange, exchanged, unregistered, stored]

theorem request_accepted {exchange : Registration.Exchange}
    (exchanged : (component.registrations.get (call.owner component)).doRegister
      (call.settings component) environment.requestId environment.attempts = some exchange)
    (accepted : exchange.registration.registered = true) :
    call.request component environment =
      call.registeredNow (call.stored component exchange) exchange := by
  have registered : call.registered (call.stored component exchange) = _ :=
    registered_stored exchange
  rw [accepted] at registered
  unfold stored at registered
  simp [request, Component.exchange, exchanged, registered, stored]

/-- The overrides have not been set up. -/
def notSetUp (call : RegisterCall) (component : Component) : Bool :=
  !component.modeOverrides.isSetup &&
    (call == .modeBase || !component.executorOverrides.isSetup)

theorem setup_eq_none {overrides : OverridesState} {type id : UInt8}
    (isSetup : overrides.isSetup = true) : overrides.setup type id = none := by
  simp [OverridesState.setup, isSetup]

theorem setup_isSome {overrides : OverridesState} (type id : UInt8)
    (notSetup : overrides.isSetup = false) : ∃ result, overrides.setup type id = some result := by
  unfold OverridesState.setup
  rw [notSetup]
  cases overrides.requireUpdateAfterSetup <;> exact ⟨_, rfl⟩

/-- What `onRegistered` leaves alone. -/
structure SameRegistration (before after : Component) : Prop where
  registrations : after.registrations = before.registrations
  modeRegistration : after.modeRegistration = before.modeRegistration
  executorOverrides : after.executorOverrides = before.executorOverrides

theorem activateFirst_same (component : Component) :
    SameRegistration component component.activateFirstSetpointType.1 := by
  unfold Component.activateFirstSetpointType
  cases component.setpointTypes <;> exact ⟨rfl, rfl, rfl⟩

theorem setSetpointUpdateRate_same (component : Component) :
    SameRegistration component component.setSetpointUpdateRateFromSetpointTypes := by
  unfold Component.setSetpointUpdateRateFromSetpointTypes
  simp only
  split <;> exact ⟨rfl, rfl, rfl⟩

theorem SameRegistration.trans {first second third : Component}
    (here : SameRegistration first second) (there : SameRegistration second third) :
    SameRegistration first third :=
  ⟨there.registrations.trans here.registrations,
    there.modeRegistration.trans here.modeRegistration,
    there.executorOverrides.trans here.executorOverrides⟩

theorem SameRegistration.registered {before after : Component}
    (same : SameRegistration before after) :
    call.registered after = call.registered before := by
  cases call <;> simp [RegisterCall.registered, owner, same.registrations, same.modeRegistration]

/-- `onRegistered` fails exactly when there is no setpoint type. -/
theorem onRegistered_of_notSetUp (notSetUp : component.modeOverrides.isSetup = false) :
    ∃ after published, SameRegistration component after ∧ component.onRegistered =
      some (after, !decide (component.setpointTypes = []), published) := by
  obtain ⟨⟨overrides, published⟩, isSetup⟩ := setup_isSome
    ConfigOverridesRequest.sourceTypeMode component.registration.modeId notSetUp
  by_cases empty : component.setpointTypes = []
  · refine ⟨{ component with modeOverrides := overrides }, published, ⟨rfl, rfl, rfl⟩, ?_⟩
    simp [Component.onRegistered, isSetup, empty]
  · simp only [Component.onRegistered, isSetup, empty, Option.bind_eq_bind, Option.bind_some,
      if_false, decide_false, Bool.not_false]
    have first := activateFirst_same { component with modeOverrides := overrides }
    have start : SameRegistration component { component with modeOverrides := overrides } :=
      ⟨rfl, rfl, rfl⟩
    refine ⟨_, _, ?_, rfl⟩
    split
    · exact start.trans (first.trans (setSetpointUpdateRate_same _))
    · exact start.trans first

theorem onRegistered_of_setUp (setUp : component.modeOverrides.isSetup = true) :
    component.onRegistered = none := by
  simp [Component.onRegistered, setup_eq_none setUp]

theorem executorOnRegistered_of_notSetUp
    (notSetUp : component.executorOverrides.isSetup = false) :
    ∃ overrides published, component.executorOnRegistered =
      some ({ component with executorOverrides := overrides }, published) := by
  obtain ⟨⟨overrides, published⟩, isSetup⟩ := setup_isSome
    ConfigOverridesRequest.sourceTypeModeExecutor
    component.executorRegistration.unregisterExtComponent.modeExecutorId.toUInt8 notSetUp
  exact ⟨overrides, published, by simp [Component.executorOnRegistered, isSetup]⟩

theorem executorOnRegistered_of_setUp (setUp : component.executorOverrides.isSetup = true) :
    component.executorOnRegistered = none := by
  simp [Component.executorOnRegistered, setup_eq_none setUp]

/-- A registered component stays registered, whatever `onRegistered` returns. -/
theorem registeredNow_of_notSetUp (exchange : Registration.Exchange)
    (fresh : call.notSetUp component = true) :
    ∃ outcome, call.registeredNow component exchange = some outcome ∧
      outcome.result = !decide (component.setpointTypes = []) ∧
      call.registered outcome.component = call.registered component ∧
      exchange.requests.map .registerExtComponentRequest <+: outcome.published := by
  simp only [notSetUp, Bool.and_eq_true, Bool.not_eq_true', Bool.or_eq_true] at fresh
  obtain ⟨after, published, same, mode⟩ := onRegistered_of_notSetUp fresh.1
  cases call with
  | modeBase =>
      exact ⟨{ component := after, result := _, taken := exchange.taken, published := _ },
        by simp only [registeredNow, mode]; rfl, rfl, same.registered, List.prefix_append _ _⟩
  | modeExecutorBase =>
      have notSetup : after.executorOverrides.isSetup = false := by
        rw [same.executorOverrides]
        exact fresh.2.resolve_left (by decide)
      obtain ⟨overrides, executorPublished, executor⟩ :=
        executorOnRegistered_of_notSetUp notSetup
      have unchanged : modeExecutorBase.registered after = modeExecutorBase.registered component :=
        same.registered
      exact ⟨{ component := { after with executorOverrides := overrides }
               result := _
               taken := exchange.taken
               published := _ },
        by simp only [registeredNow, mode, Option.bind_eq_bind, Option.bind_some, executor]; rfl,
        rfl, unchanged, (List.prefix_append _ _).trans (List.prefix_append _ _)⟩

theorem registeredNow_of_setUp (exchange : Registration.Exchange)
    (used : call.notSetUp component = false) : call.registeredNow component exchange = none := by
  cases mode : component.modeOverrides.isSetup with
  | true => simp [registeredNow, onRegistered_of_setUp mode]
  | false =>
      obtain ⟨after, published, same, registered⟩ := onRegistered_of_notSetUp mode
      cases call with
      | modeBase => simp [notSetUp, mode] at used
      | modeExecutorBase =>
          have setUp : after.executorOverrides.isSetup = true := by
            rw [same.executorOverrides]
            simpa [notSetUp, mode] using used
          simp [registeredNow, registered, executorOnRegistered_of_setUp setUp]

/-! ### All or nothing -/

/-- Nobody acts upon a vehicle status. -/
def ignoresVehicleStatus (call : RegisterCall) (component : Component) : Prop :=
  (∀ msg, component.modeStatusReceived msg = (component, [])) ∧
    (call = .modeExecutorBase → ∀ (Callback : Type) (executor : ModeExecutorBase Callback) msg,
      component.executorStatusReceived executor msg = ({ executor with registered := false }, []))

/-- The next call from here does what the call would have done from there. -/
def sameAttempt (call : RegisterCall) (here there : Component)
    (environment : Component.Environment) : Prop :=
  ∃ first second, call.doRegister there environment = some first ∧
    call.doRegister here environment = some second ∧
    second.result = first.result ∧ second.taken = first.taken ∧
    second.published = first.published ∧
    second.component.setpointTypes = first.component.setpointTypes ∧
    second.component.modeRequirements = first.component.modeRequirements

/-- What a call returns, and that a call that returns false leaves nothing behind. -/
structure AllOrNothing (call : RegisterCall) (component : Component)
    (environment : Component.Environment) (outcome : Component.Outcome) : Prop where
  result : outcome.result = call.registered outcome.component
  undone : outcome.result = false → ∀ reply ∈ outcome.taken,
    Registration.matchesRequest component.getRegistrationSettings environment.requestId reply →
      reply.success → ∃ message, .unregisterExtComponent message ∈ outcome.published ∧
        message.armingCheckId = reply.armingCheckId ∧ message.modeId = reply.modeId ∧
        message.modeExecutorId = reply.modeExecutorId
  ignored : outcome.result = false → call.ignoresVehicleStatus outcome.component
  again : outcome.result = false →
    ∀ environment', call.sameAttempt outcome.component component environment'

/-- The first reply to the request, of a name that can be sent. -/
def firstReply? (call : RegisterCall) (component : Component)
    (environment : Component.Environment) : Option RegisterExtComponentReply :=
  if Registration.nameTooLong component.getRegistrationSettings then none
  else (Retry.messages (environment.attempts.take Registration.kRetries).flatten).find?
    (Registration.matchesRequest (call.settings component) environment.requestId)

/-- No assertion of a call can fail. -/
def ready (call : RegisterCall) (component : Component) : Bool :=
  !call.registered component && call.assertionsHold component &&
    (call.notSetUp component ||
      Registration.nameTooLong component.getRegistrationSettings)

/-- When a call is all or nothing: there are setpoint types and the flight controller accepts, or
there are none and it does not, or the check fails; and in the latter two cases nothing that a
later call asserts is spoilt. -/
def endsClean (call : RegisterCall) (component : Component)
    (environment : Component.Environment) : Bool :=
  if call.passesCheck component environment then
    if component.newSetpointTypes = [] then
      (call.firstReply? component environment).all (!·.success) &&
        (call.skipsMessageCompatibilityCheck component ||
          decide (component.modeRequirements.relax = component.modeRequirements)) &&
        call.ready component
    else (call.firstReply? component environment).any fun reply =>
      reply.success && reply.px4Ros2ApiVersion == kLatestPX4ROS2ApiVersion
  else call.ready component

@[simp] theorem settings_prepared (component : Component) :
    call.settings (call.prepared component) = call.settings component := by
  cases call <;> rfl

@[simp] theorem owner_prepared (component : Component) :
    call.owner (call.prepared component) = call.owner component := by
  cases call <;> rfl

theorem nameTooLong_settings (component : Component) :
    Registration.nameTooLong (call.settings component) =
      Registration.nameTooLong component.getRegistrationSettings := by
  cases call <;> rfl

@[simp] theorem skips_prepared (component : Component) :
    call.skipsMessageCompatibilityCheck (call.prepared component) =
      call.skipsMessageCompatibilityCheck component := by
  cases call <;> rfl

@[simp] theorem registrations_prepared (component : Component) :
    (call.prepared component).registrations = component.registrations := rfl

/-- A refused request leaves the setpoint types where they were moved. -/
def refusedOutcome (call : RegisterCall) (component : Component)
    (exchange : Registration.Exchange) : Component.Outcome :=
  { component := call.stored (call.prepared component) exchange
    result := false
    taken := exchange.taken
    published := exchange.requests.map .registerExtComponentRequest }

theorem request_prepared_refused {exchange : Registration.Exchange}
    (exchanged : (component.registrations.get (call.owner component)).doRegister
      (call.settings component) environment.requestId environment.attempts = some exchange)
    (refused : exchange.registration.registered = false) :
    call.request (call.prepared component) environment =
      some (call.refusedOutcome component exchange) :=
  request_refused (by simpa using exchanged) refused

theorem request_prepared_accepted {exchange : Registration.Exchange}
    (exchanged : (component.registrations.get (call.owner component)).doRegister
      (call.settings component) environment.requestId environment.attempts = some exchange)
    (accepted : exchange.registration.registered = true) :
    call.request (call.prepared component) environment =
      call.registeredNow (call.stored (call.prepared component) exchange) exchange :=
  request_accepted (by simpa using exchanged) accepted

theorem doRegister_unregistered {outcome : Component.Outcome}
    (called : call.doRegister component environment = some outcome) :
    call.registered component = false := by
  rw [doRegister_eq] at called
  split at called
  · cases called
  · rename_i unregistered
    exact eq_false_of_ne_true unregistered

theorem doRegister_notPassed {outcome : Component.Outcome}
    (called : call.doRegister component environment = some outcome)
    (refused : ¬ call.passesCheck component environment = true) :
    outcome = { component, result := false } := by
  rw [doRegister_eq] at called
  split at called
  · cases called
  · exact (Option.some.inj called).symm

/-- How a call that passes the check can end. -/
theorem doRegister_passed {outcome : Component.Outcome}
    (called : call.doRegister component environment = some outcome)
    (passes : call.passesCheck component environment = true) :
    call.assertionsHold component = true ∧ ∃ exchange,
      (component.registrations.get (call.owner component)).doRegister (call.settings component)
        environment.requestId environment.attempts = some exchange ∧
      ((exchange.registration.registered = false ∧
          outcome = call.refusedOutcome component exchange) ∨
        exchange.registration.registered = true ∧ call.notSetUp component = true ∧
          outcome.result = !decide (component.newSetpointTypes = []) ∧
          call.registered outcome.component = true ∧
          exchange.requests.map .registerExtComponentRequest <+: outcome.published) := by
  have unregistered := doRegister_unregistered called
  obtain ⟨exchange, exchanged⟩ := Registration.doRegister_isSome (call.settings component)
    environment.requestId environment.attempts unregistered
  rw [doRegister_eq] at called
  simp only [unregistered, passes, Bool.false_eq_true, if_false, if_true] at called
  split at called
  · rename_i holds
    refine ⟨holds, exchange, exchanged, ?_⟩
    cases accepted : exchange.registration.registered with
    | false =>
        rw [request_prepared_refused exchanged accepted] at called
        exact .inl ⟨rfl, (Option.some.inj called).symm⟩
    | true =>
        rw [request_prepared_accepted exchanged accepted] at called
        cases fresh : call.notSetUp (call.stored (call.prepared component) exchange) with
        | false =>
            rw [registeredNow_of_setUp exchange fresh] at called
            cases called
        | true =>
            obtain ⟨_, registered, result, still, sent⟩ := registeredNow_of_notSetUp exchange fresh
            rw [registered] at called
            cases called
            have empty : (call.stored (call.prepared component) exchange).setpointTypes = [] ↔
                component.newSetpointTypes = [] := List.map_eq_nil_iff
            refine .inr ⟨rfl, fresh, ?_, ?_, sent⟩
            · simp only [result, empty]
            · rw [still, registered_stored, accepted]
  · cases called

/-- A request is sent exactly by a call that passes the check and has a name to send. -/
theorem doRegister_sends_iff {outcome : Component.Outcome}
    (called : call.doRegister component environment = some outcome) :
    (∃ request, .registerExtComponentRequest request ∈ outcome.published) ↔
      call.passesCheck component environment = true ∧
        Registration.nameTooLong component.getRegistrationSettings = false := by
  by_cases passes : call.passesCheck component environment = true
  · obtain ⟨_, exchange, exchanged, ending⟩ := doRegister_passed called passes
    cases long : Registration.nameTooLong component.getRegistrationSettings with
    | true =>
        have tooLong : Registration.nameTooLong (call.settings component) = true := by
          rw [nameTooLong_settings, long]
        have nothing := Registration.doRegister_tooLong exchanged tooLong
        rcases ending with ⟨_, same⟩ | ⟨accepted, _⟩
        · simp [same, refusedOutcome, nothing]
        · rw [Registration.doRegister_short exchanged accepted] at tooLong
          cases tooLong
    | false =>
        have short : Registration.nameTooLong (call.settings component) = false := by
          rw [nameTooLong_settings, long]
        obtain ⟨count, fits, positive, _, sent⟩ :=
          (Registration.doRegister_shortCall exchanged (by simp [short])).requests
        simp only [passes, and_self, iff_true]
        have member : Published.registerExtComponentRequest
            (Registration.requestOf (call.settings component) fits environment.requestId) ∈
            exchange.requests.map .registerExtComponentRequest := by
          rw [sent]
          exact List.mem_map_of_mem (List.mem_replicate.mpr ⟨by omega, rfl⟩)
        rcases ending with ⟨_, same⟩ | ⟨_, _, _, _, published⟩
        · rw [same]
          exact ⟨_, member⟩
        · exact ⟨_, published.subset member⟩
  · rw [doRegister_notPassed called passes]
    simp [passes]

/-- In a ready component no call fails an assertion. -/
theorem isSome_of_ready (ready : call.ready component = true)
    (environment : Component.Environment) :
    ∃ outcome, call.doRegister component environment = some outcome := by
  simp only [RegisterCall.ready, Bool.and_eq_true, Bool.not_eq_true', Bool.or_eq_true] at ready
  obtain ⟨⟨unregistered, holds⟩, later⟩ := ready
  rw [doRegister_eq]
  simp only [unregistered, holds, Bool.false_eq_true, if_false, if_true]
  split
  · obtain ⟨exchange, exchanged⟩ := Registration.doRegister_isSome (call.settings component)
      environment.requestId environment.attempts unregistered
    cases accepted : exchange.registration.registered with
    | false => exact ⟨_, request_prepared_refused exchanged accepted⟩
    | true =>
        have short := Registration.doRegister_short exchanged accepted
        rw [nameTooLong_settings] at short
        have fresh : call.notSetUp (call.stored (call.prepared component) exchange) = true :=
          later.resolve_right (by simp [short])
        obtain ⟨outcome, registered, _⟩ := registeredNow_of_notSetUp exchange fresh
        exact ⟨outcome, by rw [request_prepared_accepted exchanged accepted, registered]⟩
  · exact ⟨_, rfl⟩

/-- If no call fails an assertion, the component is ready. -/
theorem ready_of_isSome
    (called : ∀ environment, ∃ outcome, call.doRegister component environment = some outcome) :
    call.ready component = true := by
  obtain ⟨_, unanswered⟩ := called ⟨false, false, 0, []⟩
  have unregistered := doRegister_unregistered unanswered
  have passes (attempts : List (List (Wait RegisterExtComponentReply))) :
      call.passesCheck component ⟨true, true, 0, attempts⟩ = true := by simp [passesCheck]
  obtain ⟨_, silent⟩ := called ⟨true, true, 0, []⟩
  have holds := (doRegister_passed silent (passes [])).1
  simp only [ready, unregistered, holds, Bool.not_false, Bool.true_and, Bool.or_eq_true]
  cases short : Registration.nameTooLong component.getRegistrationSettings with
  | true => exact .inr rfl
  | false =>
      rw [← nameTooLong_settings] at short
      obtain ⟨attempts, exchange, exchanged, accepted⟩ :=
        Registration.doRegister_accepting _ (call.settings component) unregistered short
      obtain ⟨outcome, answered⟩ := called ⟨true, true, 0, attempts⟩
      obtain ⟨_, other, same, ⟨refused, _⟩ | ⟨_, fresh, _⟩⟩ :=
        doRegister_passed answered (passes attempts)
      · rw [exchanged] at same
        cases same
        rw [accepted] at refused
        cases refused
      · exact .inl fresh

theorem ignoresVehicleStatus_of_unregistered
    (mode : component.registration.registered = false)
    (unregistered : call.registered component = false) : call.ignoresVehicleStatus component := by
  constructor
  · intro msg
    simp [Component.modeStatusReceived, mode]
  · intro executorCall Callback executor msg
    subst executorCall
    have executorUnregistered : component.executorRegistration.registered = false := unregistered
    simp [Component.executorStatusReceived, executorUnregistered,
      ModeExecutorBase.vehicleStatusReceived]

theorem mode_unregistered_of_ready (ready : call.ready component = true) :
    component.registration.registered = false := by
  simp only [RegisterCall.ready, assertionsHold, Bool.and_eq_true, Bool.not_eq_true',
    Bool.or_eq_true] at ready
  cases call with
  | modeBase => exact ready.1.1
  | modeExecutorBase => exact ready.1.2.2.resolve_left (by decide)

theorem unregistered_of_ready (ready : call.ready component = true) :
    call.registered component = false := by
  simp only [RegisterCall.ready, Bool.and_eq_true, Bool.not_eq_true'] at ready
  exact ready.1.1

theorem AllOrNothing.ready {outcome : Component.Outcome}
    (clean : AllOrNothing call component environment outcome)
    (failed : outcome.result = false) : call.ready component = true := by
  apply ready_of_isSome
  intro environment'
  obtain ⟨first, _, called, _⟩ := clean.again failed environment'
  exact ⟨first, called⟩

/-- A call that fails the check changes nothing. -/
theorem allOrNothing_notPassed :
    AllOrNothing call component environment { component, result := false } ↔
      call.ready component = true := by
  constructor
  · intro clean
    exact clean.ready rfl
  · intro ready
    constructor
    · exact (unregistered_of_ready ready).symm
    · intro _ reply member
      cases member
    · intro _
      exact ignoresVehicleStatus_of_unregistered (mode_unregistered_of_ready ready)
        (unregistered_of_ready ready)
    · intro _ environment'
      obtain ⟨first, called⟩ := isSome_of_ready ready environment'
      exact ⟨first, first, called, called, rfl, rfl, rfl, rfl, rfl⟩

/-- A registered component was returned false when there are no setpoint types. -/
theorem allOrNothing_accepted {outcome : Component.Outcome}
    (result : outcome.result = !decide (component.newSetpointTypes = []))
    (registered : call.registered outcome.component = true) :
    AllOrNothing call component environment outcome ↔ component.newSetpointTypes ≠ [] := by
  constructor
  · intro clean empty
    have same := clean.result
    rw [result, registered, empty] at same
    cases same
  · intro filled
    have true_result : outcome.result = true := by simpa [filled] using result
    have contradiction {property : Prop} (failed : outcome.result = false) : property := by
      rw [true_result] at failed
      cases failed
    exact ⟨true_result.trans registered.symm, contradiction, contradiction, contradiction⟩

/-- Without setpoint types, the component is prepared once and for all. -/
theorem prepared_prepared (empty : component.newSetpointTypes = []) :
    call.prepared (call.prepared component) = call.prepared component := by
  cases call <;> simp [prepared, empty, owner, RequirementFlags.relax_relax]

theorem stored_unchanged {exchange : Registration.Exchange}
    (same : exchange.registration = component.registrations.get (call.owner component)) :
    call.stored component exchange = component := by
  rw [stored, same, Registrations.set_get]

/-- An attempt without setpoint types can be repeated. -/
theorem sameAttempt_prepared (empty : component.newSetpointTypes = [])
    (kept : call.skipsMessageCompatibilityCheck component = true ∨
      component.modeRequirements.relax = component.modeRequirements)
    (ready : call.ready component = true) (environment : Component.Environment) :
    call.sameAttempt (call.prepared component) component environment := by
  obtain ⟨first, called⟩ := isSome_of_ready ready environment
  have unregistered := unregistered_of_ready ready
  have preparedUnregistered : call.registered (call.prepared component) = false := by
    rw [registered, owner_prepared]
    exact unregistered
  have preparedHolds : call.assertionsHold (call.prepared component) = true := by
    have moved : (call.prepared component).setpointTypes = [] := by simp [prepared, empty]
    have owner : ((call.prepared component).registrations.get
        (call.prepared component).healthRegistration).registered = false := unregistered
    have mode : (call.prepared component).registration.registered = false := unregistered
    rw [assertionsHold, moved, owner, mode]
    simp
  have types : component.setpointTypes = [] := by
    simp only [RegisterCall.ready, assertionsHold, Bool.and_eq_true, decide_eq_true_eq] at ready
    exact ready.1.2.1.1
  by_cases passes : call.passesCheck component environment = true
  · have again : call.doRegister (call.prepared component) environment =
        call.doRegister component environment := by
      have passesAgain : call.passesCheck (call.prepared component) environment = true := by
        rw [passesCheck, skips_prepared]
        exact passes
      have holds : call.assertionsHold component = true := (doRegister_passed called passes).1
      simp only [doRegister_eq, unregistered, preparedUnregistered, passes, passesAgain, holds,
        preparedHolds, prepared_prepared empty, Bool.false_eq_true, if_false, if_true]
    exact ⟨first, first, called, again.trans called, rfl, rfl, rfl, rfl, rfl⟩
  · have refused : ¬ call.passesCheck (call.prepared component) environment = true := by
      rw [passesCheck, skips_prepared]
      exact passes
    have relaxed : component.modeRequirements.relax = component.modeRequirements := by
      rcases kept with skips | relaxed
      · simp [passesCheck, skips] at passes
      · exact relaxed
    have second : call.doRegister (call.prepared component) environment =
        some { component := call.prepared component, result := false } := by
      rw [doRegister_eq, if_neg (by simp [preparedUnregistered]), if_neg refused]
    rw [doRegister_notPassed called passes] at called
    refine ⟨_, _, called, second, rfl, rfl, rfl, ?_, ?_⟩
    · simp [prepared, empty, types]
    · simpa [prepared, empty] using relaxed

theorem firstReply?_eq {exchange : Registration.Exchange}
    (exchanged : (component.registrations.get (call.owner component)).doRegister
      (call.settings component) environment.requestId environment.attempts = some exchange) :
    call.firstReply? component environment = exchange.taken.find?
      (Registration.matchesRequest (call.settings component) environment.requestId) := by
  rw [firstReply?, Registration.doRegister_first exchanged, nameTooLong_settings]

theorem matchesRequest_settings (component : Component) (requestId : UInt64) :
    Registration.matchesRequest (call.settings component) requestId =
      Registration.matchesRequest component.getRegistrationSettings requestId := by
  cases call <;> rfl

theorem allOrNothing_refused {exchange : Registration.Exchange}
    (unregistered : call.registered component = false)
    (exchanged : (component.registrations.get (call.owner component)).doRegister
      (call.settings component) environment.requestId environment.attempts = some exchange)
    (refused : exchange.registration.registered = false) :
    AllOrNothing call component environment (call.refusedOutcome component exchange) ↔
      component.newSetpointTypes = [] ∧
      (call.firstReply? component environment).all (!·.success) = true ∧
      (call.skipsMessageCompatibilityCheck component = true ∨
        component.modeRequirements.relax = component.modeRequirements) ∧
      call.ready component = true := by
  have first := firstReply?_eq exchanged
  have same := Registration.doRegister_unchanged exchanged refused
  have unchanged : (call.refusedOutcome component exchange).component =
      call.prepared component := stored_unchanged (by rw [same, owner_prepared]; rfl)
  constructor
  · intro clean
    have ready := clean.ready rfl
    have again (answers : Bool) := clean.again rfl ⟨answers, true, 0, []⟩
    rw [unchanged] at again
    have empty : component.newSetpointTypes = [] := by
      obtain ⟨_, _, _, second, _⟩ := again true
      have passes : call.passesCheck (call.prepared component) ⟨true, true, 0, []⟩ = true := by
        simp [passesCheck]
      have holds := (doRegister_passed second passes).1
      simp only [assertionsHold, prepared, Bool.and_eq_true] at holds
      exact List.map_eq_nil_iff.mp (of_decide_eq_true holds.1.1)
    refine ⟨empty, ?_, ?_, ready⟩
    · rw [first]
      cases found : exchange.taken.find?
          (Registration.matchesRequest (call.settings component) environment.requestId) with
      | none => rfl
      | some reply =>
          cases success : reply.success with
          | false => simp [success]
          | true =>
              have matched := List.find?_some found
              rw [matchesRequest_settings] at matched
              obtain ⟨message, sent, _⟩ := clean.undone rfl reply (List.mem_of_find?_eq_some found)
                matched success
              simp [refusedOutcome] at sent
    · by_cases skips : call.skipsMessageCompatibilityCheck component = true
      · exact .inl skips
      · -- an attempt that fails the check shows the requirements as they are
        obtain ⟨_, _, here, there, _, _, _, _, requirements⟩ := again false
        rw [doRegister_notPassed here (by simp [passesCheck, skips]),
          doRegister_notPassed there (by simp [passesCheck, skips])] at requirements
        exact .inr (by simpa [prepared, empty] using requirements)
  · intro conditions
    obtain ⟨empty, unsuccessful, kept, ready⟩ := conditions
    constructor
    · rw [unchanged, registered, owner_prepared]
      exact unregistered.symm
    · intro _ reply member matched success
      rw [← matchesRequest_settings] at matched
      rw [first, Registration.doRegister_only exchanged reply member matched] at unsuccessful
      simp [success] at unsuccessful
    · intro _
      rw [unchanged]
      refine ignoresVehicleStatus_of_unregistered unregistered ?_
      rw [registered, owner_prepared]
      exact unregistered
    · intro _ environment'
      rw [unchanged]
      exact sameAttempt_prepared empty kept ready environment'

/-- A call is all or nothing exactly if the setpoint types and the replies agree, and what a failed
attempt has moved cannot stop the next. -/
theorem doRegister_allOrNothing_iff (call : RegisterCall) (component : Component)
    (environment : Component.Environment) (outcome : Component.Outcome)
    (called : call.doRegister component environment = some outcome) :
    AllOrNothing call component environment outcome ↔
      call.endsClean component environment = true := by
  have unregistered := doRegister_unregistered called
  unfold endsClean
  by_cases passes : call.passesCheck component environment = true
  · rw [if_pos passes]
    obtain ⟨_, exchange, exchanged, ⟨refused, same⟩ | ⟨accepted, _, result, registered, _⟩⟩ :=
      doRegister_passed called passes
    · rw [same, allOrNothing_refused unregistered exchanged refused, firstReply?_eq exchanged]
      by_cases empty : component.newSetpointTypes = []
      · simp [empty, and_assoc]
      · simp only [empty, false_and, if_false, false_iff, Bool.not_eq_true]
        have notAccepted := (Registration.doRegister_registered_iff exchanged).not.mp
          (by simp [refused])
        rw [Option.any_eq_false]
        intro reply found
        by_contra accepted
        refine notAccepted ⟨reply, found, ?_⟩
        simpa using accepted
    · rw [allOrNothing_accepted result registered, firstReply?_eq exchanged]
      obtain ⟨reply, found, success, version⟩ :=
        (Registration.doRegister_registered_iff exchanged).mp accepted
      by_cases empty : component.newSetpointTypes = []
      · simp [empty, found, success]
      · simp [empty, found, success, version]
  · rw [if_neg passes, doRegister_notPassed called passes]
    exact allOrNothing_notPassed

section Examples

/-- A mode before its registration. -/
def newMode (newSetpointTypes : List SetpointBase) : Component :=
  { settings := { name := [97] }
    mode := { id := kModeIDInvalid, activateEvenWhileDisarmed := false }
    newSetpointTypes }

/-- The flight controller accepts the mode with this library version. -/
def acceptingFmu (px4Ros2ApiVersion : UInt16) : Component.Environment :=
  { fmuAnswers := true
    compatible := true
    requestId := 7
    attempts := [[.taken { Registration.replyTo [97] 7 23 with px4Ros2ApiVersion }]] }

theorem doRegister_allOrNothing_with_setpoint :
    ∃ outcome, modeBase.doRegister (newMode [{}]) (acceptingFmu 1) = some outcome ∧
      AllOrNothing .modeBase (newMode [{}]) (acceptingFmu 1) outcome :=
  ⟨_, rfl, (doRegister_allOrNothing_iff _ _ _ _ rfl).mpr (by decide)⟩

/-- Without setpoint types the mode is registered, although the call returns false. -/
theorem registered_without_setpoint_types :
    ∃ outcome, modeBase.doRegister (newMode []) (acceptingFmu 1) = some outcome ∧
      outcome.result = false ∧ modeBase.registered outcome.component = true ∧
      ¬ AllOrNothing .modeBase (newMode []) (acceptingFmu 1) outcome := by
  refine ⟨_, rfl, by decide, by decide, ?_⟩
  intro clean
  exact absurd clean.result (by decide)

end Examples

end RegisterCall

end Px4Ros2
