import Px4Ros2.Components.ModeRegistrationProperties
import Mathlib.Data.List.Dedup
import Mathlib.Data.List.Perm.Basic

/-! `NodeWithMode` and `NodeWithModeExecutor`: nodes that register their components when they are
constructed. A node that cannot register all of them is not constructed, and its destructors undo
the registrations that were made. -/

set_option autoImplicit false

namespace Px4Ros2

open Lib

/-- `Registration::~Registration`, with the message it publishes. -/
def Registration.destroy (registration : Registration) (contextValid : Bool) :
    List UnregisterExtComponent :=
  if contextValid then (registration.doUnregister contextValid).2.toList else []

/-- The name and the ids of a component. -/
structure Identity where
  name : List UInt8
  armingCheckId : Int8
  modeId : Int8
  modeExecutorId : Int8
deriving DecidableEq, Repr

/-- A component that the flight controller has accepted, with the version that it answered. -/
structure Acceptance where
  identity : Identity
  px4Ros2ApiVersion : UInt16
deriving DecidableEq, Repr

/-- The version of the reply is that of the request. -/
def Acceptance.sameVersion (acceptance : Acceptance) : Bool :=
  acceptance.px4Ros2ApiVersion == kLatestPX4ROS2ApiVersion

def UnregisterExtComponent.identity (message : UnregisterExtComponent) : Identity :=
  ⟨message.name.text, message.armingCheckId, message.modeId, message.modeExecutorId⟩

namespace Component

/-- What the constructors of a mode, and of an executor that owns it, leave. -/
structure Constructed (component : Component) : Prop where
  registrations : component.registrations = {}
  modeRegistration : component.modeRegistration = .modeBase
  healthRegistration : component.healthRegistration = .healthAndArmingChecks
  setpointTypes : component.setpointTypes = []
  modeOverrides : component.modeOverrides.isSetup = false
  executorOverrides : component.executorOverrides.isSetup = false

end Component

/-- The registrations that a component still points to, in the order of the last of its members
that does. The mode is destroyed before the executor. -/
def RegisterCall.pointedTo (call : RegisterCall) (component : Component) :
    List RegistrationOwner :=
  match call with
  | .modeBase => [component.healthRegistration, component.modeRegistration].dedup
  | .modeExecutorBase =>
      [component.healthRegistration, component.modeRegistration, .modeExecutorBase].dedup

/-- The destructors of a mode, and of the executor that owns it. -/
def RegisterCall.destroy (call : RegisterCall) (component : Component) (contextValid : Bool) :
    List UnregisterExtComponent :=
  (call.pointedTo component).flatMap fun owner =>
    (component.registrations.get owner).destroy contextValid

/-- A component that a node registers, and what its `doRegister` is given by the outside. -/
structure Registrant where
  component : Component
  environment : Component.Environment
  constructed : component.Constructed

/-- `doRegister() && ...`, with the components that this leaves. -/
structure RegisterAll where
  result : Bool := true
  /-- The calls that were made. -/
  outcomes : List Component.Outcome := []
  members : List (RegisterCall × Component) := []

def registerAll : List (RegisterCall × Registrant) → Option RegisterAll
  | [] => some {}
  | (call, member) :: members => do
      let outcome ← call.doRegister member.component member.environment
      if outcome.result then
        let others ← registerAll members
        return { others with
          outcomes := outcome :: others.outcomes
          members := (call, outcome.component) :: others.members }
      else
        return {
          result := false
          outcomes := [outcome]
          members := (call, outcome.component) ::
            members.map fun (other, member) => (other, member.component) }

/-- A call of a node's constructor. -/
structure Construction where
  /-- `Exception("Registration failed")`. -/
  threw : Bool
  outcomes : List Component.Outcome
  /-- The members of the node, as far as it was constructed. -/
  members : List (RegisterCall × Component)
  /-- What the destructors of the members publish. -/
  undone : List UnregisterExtComponent

/-- The part that both constructors share. -/
def construct (members : List (RegisterCall × Registrant)) (contextValid : Bool) :
    Option Construction := do
  let all ← registerAll members
  return {
    threw := !all.result
    outcomes := all.outcomes
    members := if all.result then all.members else []
    -- `_mode_executor` is the first member, and so destroyed last
    undone := if all.result then []
      else (all.members.tail ++ all.members.take 1).flatMap fun (call, component) =>
        call.destroy component contextValid }

def NodeWithMode.construct (mode : Registrant) (contextValid : Bool) : Option Construction :=
  Px4Ros2.construct [(.modeBase, mode)] contextValid

def NodeWithModeExecutor.construct (modeExecutor : Registrant) (otherModes : List Registrant)
    (contextValid : Bool) : Option Construction :=
  Px4Ros2.construct
    ((.modeExecutorBase, modeExecutor) :: otherModes.map fun mode => (.modeBase, mode)) contextValid

namespace RegisterCall

variable {call : RegisterCall} {component : Component} {environment : Component.Environment}
  {outcome : Component.Outcome}

/-! ### Where a component's registration is held -/

/-- What `onRegistered` leaves of the registrations and of the pointers to them. -/
structure SamePointers (before after : Component) : Prop where
  registrations : after.registrations = before.registrations
  modeRegistration : after.modeRegistration = before.modeRegistration
  healthRegistration : after.healthRegistration = before.healthRegistration

theorem SamePointers.trans {first second third : Component}
    (here : SamePointers first second) (there : SamePointers second third) :
    SamePointers first third :=
  ⟨there.registrations.trans here.registrations,
    there.modeRegistration.trans here.modeRegistration,
    there.healthRegistration.trans here.healthRegistration⟩

theorem activateFirst_pointers (component : Component) :
    SamePointers component component.activateFirstSetpointType.1 := by
  unfold Component.activateFirstSetpointType
  cases component.setpointTypes <;> exact ⟨rfl, rfl, rfl⟩

theorem setSetpointUpdateRate_pointers (component : Component) :
    SamePointers component component.setSetpointUpdateRateFromSetpointTypes := by
  unfold Component.setSetpointUpdateRateFromSetpointTypes
  simp only
  split <;> exact ⟨rfl, rfl, rfl⟩

theorem onRegistered_pointers {after : Component} {ret : Bool} {published : List Published}
    (registered : component.onRegistered = some (after, ret, published)) :
    SamePointers component after := by
  obtain ⟨⟨overrides, first⟩, -, rest⟩ := Option.bind_eq_some_iff.mp registered
  have start : SamePointers component { component with modeOverrides := overrides } :=
    ⟨rfl, rfl, rfl⟩
  simp only at rest
  split at rest
  · cases rest
    exact start
  · cases rest
    have activated := activateFirst_pointers { component with modeOverrides := overrides }
    split
    · exact start.trans (activated.trans (setSetpointUpdateRate_pointers _))
    · exact start.trans activated

theorem registeredNow_pointers {exchange : Registration.Exchange}
    (registered : call.registeredNow component exchange = some outcome) :
    SamePointers component outcome.component ∧ outcome.taken = exchange.taken := by
  obtain ⟨⟨after, ret, published⟩, mode, rest⟩ := Option.bind_eq_some_iff.mp registered
  have same := onRegistered_pointers mode
  cases call with
  | modeBase =>
      cases rest
      exact ⟨same, rfl⟩
  | modeExecutorBase =>
      obtain ⟨⟨executor, others⟩, setup, rest⟩ := Option.bind_eq_some_iff.mp rest
      obtain ⟨⟨overrides, sent⟩, -, result⟩ := Option.bind_eq_some_iff.mp setup
      cases result
      cases rest
      exact ⟨same.trans ⟨rfl, rfl, rfl⟩, rfl⟩

/-- How a call ends for the registration: as it was, or with what a reply has stored, which all the
members of the component then point to. -/
theorem doRegister_holds (called : call.doRegister component environment = some outcome) :
    (outcome.component.registrations = component.registrations ∧
      (outcome.result = false ∧ ∀ reply, outcome.taken.find?
          (Registration.matchesRequest (call.settings component) environment.requestId) =
            some reply →
        ¬ (reply.success = true ∧ reply.px4Ros2ApiVersion = kLatestPX4ROS2ApiVersion))) ∨
    ∃ exchange, (component.registrations.get (call.owner component)).doRegister
        (call.settings component) environment.requestId environment.attempts = some exchange ∧
      exchange.registration.registered = true ∧ outcome.taken = exchange.taken ∧
      outcome.component.registrations =
        component.registrations.set (call.owner component) exchange.registration ∧
      outcome.component.modeRegistration = call.owner component ∧
      outcome.component.healthRegistration = call.owner component := by
  by_cases passes : call.passesCheck component environment = true
  · obtain ⟨holds, exchange, exchanged, ⟨refused, rfl⟩ | ⟨accepted, -⟩⟩ :=
      doRegister_passed called passes
    · refine .inl ⟨?_, rfl, ?_⟩
      · simp [refusedOutcome, stored, Registration.doRegister_unchanged exchanged refused]
      · intro reply found success
        have registered := (Registration.doRegister_registered_iff exchanged).mpr
          ⟨reply, found, success⟩
        rw [refused] at registered
        cases registered
    · refine .inr ⟨exchange, exchanged, accepted, ?_⟩
      have unregistered := doRegister_unregistered called
      rw [doRegister_eq] at called
      simp only [unregistered, passes, holds, Bool.false_eq_true, if_false,
        if_true, request_prepared_accepted exchanged accepted] at called
      obtain ⟨same, taken⟩ := registeredNow_pointers called
      exact ⟨taken, by simpa [stored] using same.registrations, same.modeRegistration,
        same.healthRegistration⟩
  · rw [doRegister_notPassed called passes]
    exact .inl ⟨rfl, rfl, by simp⟩

/-- The component that a call has made known to the flight controller: the first reply to its
request, if that is a success. -/
def accepted (call : RegisterCall) (member : Registrant) (outcome : Component.Outcome) :
    Option Acceptance :=
  ((outcome.taken.find? (Registration.matchesRequest (call.settings member.component)
      member.environment.requestId)).filter (·.success)).map fun reply =>
    { identity := ⟨cString member.component.settings.name, reply.armingCheckId, reply.modeId,
        reply.modeExecutorId⟩
      px4Ros2ApiVersion := reply.px4Ros2ApiVersion }

theorem destroy_unregistered {registration : Registration}
    (unregistered : registration.registered = false) (contextValid : Bool) :
    registration.destroy contextValid = [] := by
  simp [Registration.destroy, Registration.doUnregister, unregistered]

theorem destroy_nothing (nothing : component.registrations = {}) (call : RegisterCall)
    (contextValid : Bool) : call.destroy component contextValid = [] := by
  simp only [destroy, List.flatMap_eq_nil_iff]
  intro owner _
  rw [nothing]
  exact destroy_unregistered (by cases owner <;> rfl) contextValid

theorem destroy_stored {registration : Registration} {owner : RegistrationOwner}
    (isOwner : call.owner component = owner)
    (mode : outcome.component.modeRegistration = owner)
    (health : outcome.component.healthRegistration = owner)
    (stored : outcome.component.registrations.get owner = registration) (contextValid : Bool) :
    call.destroy outcome.component contextValid = registration.destroy contextValid := by
  cases call with
  | modeBase => simp [destroy, pointedTo, mode, health, stored]
  | modeExecutorBase =>
      have executor : RegistrationOwner.modeExecutorBase = owner := isOwner
      simp [destroy, pointedTo, mode, health, executor, stored]

/-- What is destroyed after a call takes back what the call has registered, if the reply had the
version of the request. -/
theorem destroy_undoes {member : Registrant}
    (called : call.doRegister member.component member.environment = some outcome)
    (contextValid : Bool) :
    (call.destroy outcome.component contextValid).map (·.identity) =
      if contextValid then
        ((call.accepted member outcome).filter (·.sameVersion)).toList.map (·.identity)
      else [] := by
  obtain ⟨same, -, refused⟩ |
    ⟨exchange, exchanged, registered, taken, stored, mode, health⟩ := doRegister_holds called
  · have nothing : (call.accepted member outcome).filter (·.sameVersion) = none := by
      simp only [accepted, Option.filter_eq_none_iff, Option.map_eq_some_iff,
        Option.filter_eq_some_iff, Acceptance.sameVersion, beq_iff_eq]
      rintro acceptance ⟨reply, ⟨found, success⟩, rfl⟩ version
      exact refused reply found ⟨success, version⟩
    have destroyed := destroy_nothing (same.trans member.constructed.registrations) call
      contextValid
    simp [nothing, destroyed]
  · have held : outcome.component.registrations.get (call.owner member.component) =
        exchange.registration := by simp [stored]
    rw [destroy_stored rfl mode health held]
    obtain ⟨-, refused⟩ | ⟨reply, name, found, success, version, named, result⟩ :=
      Registration.doRegister_registration exchanged
    · obtain ⟨reply, found, ok⟩ := (Registration.doRegister_registered_iff exchanged).mp registered
      exact absurd ok (refused reply found)
    · have settings : (call.settings member.component).name = member.component.settings.name := by
        cases call <;> rfl
      have accepts : call.accepted member outcome =
          some ⟨⟨cString member.component.settings.name, reply.armingCheckId, reply.modeId,
            reply.modeExecutorId⟩, kLatestPX4ROS2ApiVersion⟩ := by
        simp [accepted, taken, found, Option.filter, success, version]
      cases contextValid <;>
        simp [accepts, Acceptance.sameVersion, Option.filter, result, Registration.destroy,
          Registration.doUnregister, UnregisterExtComponent.identity, named, settings]

theorem ready_constructed (constructed : component.Constructed) (call : RegisterCall) :
    call.ready component = true := by
  cases call <;>
    simp [ready, registered, assertionsHold, notSetUp, owner, Component.registration,
      Registrations.get, constructed.registrations, constructed.modeRegistration,
      constructed.healthRegistration, constructed.setpointTypes, constructed.modeOverrides,
      constructed.executorOverrides]

/-- What a call that returns true has made known is known in the version of the request. -/
theorem sameVersion_of_result {member : Registrant}
    (called : call.doRegister member.component member.environment = some outcome)
    (result : outcome.result = true) :
    ∀ acceptance ∈ call.accepted member outcome, acceptance.sameVersion = true := by
  intro acceptance accepted
  obtain ⟨-, refused, -⟩ | ⟨exchange, exchanged, registered, taken, -⟩ := doRegister_holds called
  · rw [refused] at result
    cases result
  · obtain ⟨reply, found, -, version⟩ :=
      (Registration.doRegister_registered_iff exchanged).mp registered
    rw [Option.mem_def, RegisterCall.accepted, taken, found] at accepted
    obtain ⟨other, chosen, rfl⟩ := Option.map_eq_some_iff.mp accepted
    obtain ⟨same, -⟩ := Option.filter_eq_some_iff.mp chosen
    cases same
    simp [Acceptance.sameVersion, version]

/-- A call that returns true has registered. -/
theorem registered_of_result (called : call.doRegister component environment = some outcome)
    (result : outcome.result = true) : call.registered outcome.component = true := by
  by_cases passes : call.passesCheck component environment = true
  · obtain ⟨-, exchange, -, ⟨-, rfl⟩ | ⟨-, -, -, registered, -⟩⟩ := doRegister_passed called passes
    · cases result
    · exact registered
  · rw [doRegister_notPassed called passes] at result
    cases result

end RegisterCall

/-! ### All members, or none -/

section Node

open RegisterCall

variable {members : List (RegisterCall × Registrant)} {all : RegisterAll}

/-- The components that the calls have made known to the flight controller, in order. -/
def acceptances (members : List (RegisterCall × Registrant))
    (outcomes : List Component.Outcome) : List Acceptance :=
  (members.zip outcomes).filterMap fun ((call, member), outcome) => call.accepted member outcome

theorem acceptances_cons (member : RegisterCall × Registrant)
    (members : List (RegisterCall × Registrant)) (outcome : Component.Outcome)
    (outcomes : List Component.Outcome) :
    acceptances (member :: members) (outcome :: outcomes) =
      (member.1.accepted member.2 outcome).toList ++ acceptances members outcomes := by
  simp only [acceptances, List.zip_cons_cons, List.filterMap_cons]
  cases member.1.accepted member.2 outcome <;> rfl

/-- What the destructors of some members would publish. -/
def destroyAll (members : List (RegisterCall × Component)) (contextValid : Bool) :
    List UnregisterExtComponent :=
  members.flatMap fun (call, component) => call.destroy component contextValid

theorem destroyAll_notCalled (members : List (RegisterCall × Registrant)) (contextValid : Bool) :
    destroyAll (members.map fun (other, member) => (other, member.component)) contextValid =
      [] := by
  simp only [destroyAll, List.flatMap_map, List.flatMap_eq_nil_iff]
  exact fun member _ =>
    destroy_nothing member.2.constructed.registrations member.1 contextValid

/-- The calls stop at the first that returns false. Those before it were answered in the version of
the request. -/
structure StopsAtFirstFailure (members : List (RegisterCall × Registrant)) (all : RegisterAll) :
    Prop where
  outcomes : if all.result then
      all.outcomes.length = members.length ∧ ∀ outcome ∈ all.outcomes, outcome.result = true
    else ∃ before failed, all.outcomes = before ++ [failed] ∧ before.length < members.length ∧
      failed.result = false ∧ (∀ outcome ∈ before, outcome.result = true) ∧
      ∀ acceptance ∈ acceptances members before, acceptance.sameVersion = true
  registered : all.result = true → all.members.length = members.length ∧
    ∀ member ∈ all.members, member.1.registered member.2 = true

theorem StopsAtFirstFailure.nothing : StopsAtFirstFailure [] {} :=
  ⟨by simp, by simp⟩

theorem registerAll_stops (called : registerAll members = some all) :
    StopsAtFirstFailure members all := by
  induction members generalizing all with
  | nil =>
      cases called
      exact .nothing
  | cons member members ih =>
      obtain ⟨outcome, registered, rest⟩ := Option.bind_eq_some_iff.mp called
      split at rest
      · rename_i result
        obtain ⟨others, more, rest⟩ := Option.bind_eq_some_iff.mp rest
        cases rest
        obtain ⟨outcomes, still⟩ := ih more
        constructor
        · simp only
          split
          · rename_i done
            rw [if_pos done] at outcomes
            exact ⟨by simp [outcomes.1], List.forall_mem_cons.mpr ⟨result, outcomes.2⟩⟩
          · rename_i failed
            rw [if_neg failed] at outcomes
            obtain ⟨before, last, split, short, failed, fine, same⟩ := outcomes
            refine ⟨outcome :: before, last, by simp [split], by simpa using short, failed,
              List.forall_mem_cons.mpr ⟨result, fine⟩, ?_⟩
            rw [acceptances_cons]
            refine List.forall_mem_append.mpr ⟨?_, same⟩
            simpa using sameVersion_of_result registered result
        · intro done
          obtain ⟨length, members⟩ := still done
          exact ⟨by simp [length],
            List.forall_mem_cons.mpr ⟨registered_of_result registered result, members⟩⟩
      · rename_i failed
        cases rest
        refine ⟨?_, by simp⟩
        rw [if_neg (by simp)]
        exact ⟨[], outcome, rfl, by simp, by simpa using failed, by simp, by simp [acceptances]⟩

theorem registerAll_undoes (called : registerAll members = some all) (contextValid : Bool) :
    (destroyAll all.members contextValid).map (·.identity) =
      if contextValid then
        ((acceptances members all.outcomes).filter (·.sameVersion)).map (·.identity)
      else [] := by
  induction members generalizing all with
  | nil =>
      cases called
      cases contextValid <;> rfl
  | cons member members ih =>
      obtain ⟨outcome, registered, rest⟩ := Option.bind_eq_some_iff.mp called
      have here := destroy_undoes registered contextValid
      rw [Option.toList_filter] at here
      split at rest
      · obtain ⟨others, more, rest⟩ := Option.bind_eq_some_iff.mp rest
        cases rest
        have there := ih more
        simp only [destroyAll, List.flatMap_cons, List.map_append, acceptances_cons,
          List.filter_append] at there ⊢
        rw [here, there]
        cases contextValid <;> rfl
      · cases rest
        have later := destroyAll_notCalled members contextValid
        simp only [destroyAll, List.flatMap_cons, List.map_append, acceptances_cons,
          List.filter_append] at later ⊢
        rw [here, later]
        simp [acceptances]

theorem registerAll_isSome (members : List (RegisterCall × Registrant)) :
    ∃ all, registerAll members = some all := by
  induction members with
  | nil => exact ⟨_, rfl⟩
  | cons member members ih =>
      obtain ⟨outcome, called⟩ := isSome_of_ready
        (ready_constructed member.2.constructed member.1) member.2.environment
      obtain ⟨others, more⟩ := ih
      simp only [registerAll, called, more, Option.bind_eq_bind, Option.bind_some]
      split <;> exact ⟨_, rfl⟩

theorem destroyAll_rotate (members : List (RegisterCall × Component)) (contextValid : Bool) :
    (destroyAll (members.tail ++ members.take 1) contextValid).Perm
      (destroyAll members contextValid) := by
  cases members with
  | nil => exact .refl _
  | cons member members =>
      simp only [destroyAll, List.tail_cons, List.take_succ_cons, List.take_zero,
        List.flatMap_append, List.flatMap_cons, List.flatMap_nil, List.append_nil]
      exact List.perm_append_comm

/-- A constructor registers every component of its node, or throws. If it throws, no call was made
after the one that failed, and while the context is valid the flight controller is told to forget
exactly the components that it has accepted in the version of the request. That includes one whose
call returned false although it was accepted. Only the call that failed can have been accepted in
another version. -/
theorem node_all_or_nothing (members : List (RegisterCall × Registrant)) (contextValid : Bool) :
    ∃ construction, construct members contextValid = some construction ∧
      (construction.threw = false →
        construction.outcomes.length = members.length ∧
        (∀ outcome ∈ construction.outcomes, outcome.result = true) ∧
        construction.members.length = members.length ∧
        (∀ member ∈ construction.members, member.1.registered member.2 = true) ∧
        construction.undone = []) ∧
      (construction.threw = true →
        (∃ before failed, construction.outcomes = before ++ [failed] ∧
          before.length < members.length ∧ failed.result = false ∧
          (∀ outcome ∈ before, outcome.result = true) ∧
          ∀ acceptance ∈ acceptances members before, acceptance.sameVersion = true) ∧
        (construction.undone.map (·.identity)).Perm
          (if contextValid then
            ((acceptances members construction.outcomes).filter (·.sameVersion)).map (·.identity)
          else [])) := by
  obtain ⟨all, called⟩ := registerAll_isSome members
  obtain ⟨outcomes, registered⟩ := registerAll_stops called
  refine ⟨_, by simp only [construct, called, Option.bind_eq_bind, Option.bind_some]; rfl, ?_, ?_⟩
  · intro constructed
    have done : all.result = true := by simpa using constructed
    rw [if_pos done] at outcomes
    obtain ⟨length, still⟩ := registered done
    simp only [done, if_true]
    exact ⟨outcomes.1, outcomes.2, length, still, trivial⟩
  · intro threw
    have failed : ¬ all.result = true := by simpa using threw
    rw [if_neg failed] at outcomes
    simp only [if_neg failed]
    rw [← registerAll_undoes called contextValid]
    exact ⟨outcomes, (destroyAll_rotate all.members contextValid).map _⟩

end Node

end Px4Ros2
