import Px4Ros2.Lib.History
import Px4Ros2.Components.MessageCompatibilityCheck
import Px4Ros2.Components.ModeRegistrationProperties

/-! The gate in front of registrations: one verdict for the whole process, whichever vehicle it was
obtained from. -/

set_option autoImplicit false

namespace Px4Ros2

open Lib

/-- `ALL_PX4_ROS2_MESSAGES`. -/
def allPx4Ros2Messages : List MessageCompatibilityTopic :=
  [("fmu/in/actuator_motors", ""), ("fmu/in/actuator_servos", ""),
    ("fmu/in/arming_check_reply", ""), ("fmu/in/aux_global_position", ""),
    ("fmu/in/config_control_setpoints", "VehicleControlMode"),
    ("fmu/in/config_overrides_request", "ConfigOverrides"),
    ("fmu/in/fixed_wing_lateral_setpoint", ""), ("fmu/in/fixed_wing_longitudinal_setpoint", ""),
    ("fmu/in/goto_setpoint", ""), ("fmu/in/lateral_control_configuration", ""),
    ("fmu/in/longitudinal_control_configuration", ""), ("fmu/in/mode_completed", ""),
    ("fmu/in/register_ext_component_request", ""), ("fmu/in/rover_attitude_setpoint", ""),
    ("fmu/in/rover_position_setpoint", ""), ("fmu/in/rover_rate_setpoint", ""),
    ("fmu/in/rover_speed_setpoint", ""), ("fmu/in/rover_steering_setpoint", ""),
    ("fmu/in/rover_throttle_setpoint", ""), ("fmu/in/trajectory_setpoint", ""),
    ("fmu/in/unregister_ext_component", ""), ("fmu/in/vehicle_attitude_setpoint", ""),
    ("fmu/in/vehicle_command", ""), ("fmu/in/vehicle_command_mode_executor", "VehicleCommand"),
    ("fmu/in/vehicle_rates_setpoint", ""), ("fmu/in/vehicle_visual_odometry", "VehicleOdometry"),
    ("fmu/out/airspeed_validated", ""), ("fmu/out/arming_check_request", ""),
    ("fmu/out/battery_status", ""), ("fmu/out/home_position", ""),
    ("fmu/out/manual_control_setpoint", ""), ("fmu/out/mode_completed", ""),
    ("fmu/out/register_ext_component_reply", ""), ("fmu/out/vehicle_attitude", ""),
    ("fmu/out/vehicle_angular_velocity", ""), ("fmu/out/vehicle_command_ack", ""),
    ("fmu/out/vehicle_global_position", ""), ("fmu/out/vehicle_land_detected", ""),
    ("fmu/out/vehicle_local_position", ""), ("fmu/out/vehicle_status", ""),
    ("fmu/out/vtol_vehicle_status", ""), ("fmu/out/vehicle_odometry", "")].map
  fun (topicName, topicType) => ⟨ascii topicName, ascii topicType⟩

/-- A call of `doRegister` on one of the components, with what their flight controller does. -/
structure GateCall where
  call : RegisterCall
  component : Nat
  fmuAnswers : Bool
  environment : MessageCompatibility.Environment
  /-- The responses while a topic is asked for. -/
  responses : MessageCompatibilityTopic → MessageCompatibility.Attempts
  requestId : UInt64
  attempts : List (List (Wait RegisterExtComponentReply))

structure RegistrationProcess where
  components : List Component
  /-- The static of `defaultMessageCompatibilityCheck`, when it is initialised. -/
  kResult : Option Bool := none
  /-- The checks that were made, with their topic prefix and verdict. -/
  checks : List (String × Bool) := []

namespace RegistrationProcess

variable {process : RegistrationProcess} {call : GateCall}

/-- The check against the flight controller of the call. -/
def ownVerdict (call : GateCall) : Option Bool :=
  messageCompatibilityCheck call.environment
    (allPx4Ros2Messages.map fun topic => (topic, call.responses topic))

def defaultMessageCompatibilityCheck (process : RegistrationProcess) (component : Component)
    (call : GateCall) : Option (RegistrationProcess × Bool) :=
  match process.kResult with
  | some kResult => some (process, kResult)
  | none => do
      let kResult ← ownVerdict call
      return ({ process with
        kResult := some kResult
        checks := process.checks ++ [(component.topicNamespacePrefix, kResult)] }, kResult)

/-- The verdict that a call goes by. The check is made if the component needs it and the flight
controller answers. -/
def verdict (process : RegistrationProcess) (component : Component) (call : GateCall) :
    Option (RegistrationProcess × Bool) :=
  if call.call.skipsMessageCompatibilityCheck component || !call.fmuAnswers then
    some (process, false)
  else process.defaultMessageCompatibilityCheck component call

/-- What a call leaves behind, and whether it got past the check. -/
structure Result where
  process : RegistrationProcess
  passed : Bool
  outcome : Component.Outcome

/-- `doRegister` of one component. -/
def doRegister (process : RegistrationProcess) (call : GateCall) : Option Result := do
  let component ← process.components[call.component]?
  if call.call.registered component then none
  else do
    let (process, compatible) ← process.verdict component call
    let environment :=
      { fmuAnswers := call.fmuAnswers, compatible, requestId := call.requestId,
        attempts := call.attempts }
    let outcome ← call.call.doRegister component environment
    return { process := { process with
               components := process.components.set call.component outcome.component }
             passed := call.call.passesCheck component environment
             outcome }

/-- A component that needs the check sends a request only after a check of its own flight controller
succeeded, and is let through if that check would succeed now. -/
def Gated (process : RegistrationProcess) (call : GateCall) : Prop :=
  ∀ component result, process.components[call.component]? = some component →
    process.doRegister call = some result →
    call.call.skipsMessageCompatibilityCheck component = false →
    ((∃ request, .registerExtComponentRequest request ∈ result.outcome.published) →
      (component.topicNamespacePrefix, true) ∈ result.process.checks) ∧
    (call.fmuAnswers = true → ownVerdict call = some true → result.passed = true)

/-- The stored verdict is the one the call would get for itself. -/
def VerdictFits (process : RegistrationProcess) (call : GateCall) : Prop :=
  ∀ component, process.components[call.component]? = some component →
    call.call.skipsMessageCompatibilityCheck component = false → call.fmuAnswers = true →
    match process.kResult with
    | none => True
    | some true => (component.topicNamespacePrefix, true) ∈ process.checks ∨
        Registration.nameTooLong component.getRegistrationSettings = true
    | some false => ownVerdict call ≠ some true

/-! ### One call -/

/-- A call that makes no check. -/
structure Unchecked (process : RegistrationProcess) (call : GateCall) (component : Component)
    (result : Result) : Prop where
  reason : call.call.skipsMessageCompatibilityCheck component = true ∨ call.fmuAnswers = false
  kResult : result.process.kResult = process.kResult
  checks : result.process.checks = process.checks
  passed : result.passed = call.call.skipsMessageCompatibilityCheck component

/-- A call that gets its verdict from the function with the static. -/
structure Checked (process : RegistrationProcess) (call : GateCall) (component : Component)
    (result : Result) : Prop where
  needed : call.call.skipsMessageCompatibilityCheck component = false
  answers : call.fmuAnswers = true
  verdict : ∃ checked, process.defaultMessageCompatibilityCheck component call =
      some (checked, result.passed) ∧
    result.process.kResult = checked.kResult ∧ result.process.checks = checked.checks

theorem doRegister_cases {result : Result} (called : process.doRegister call = some result) :
    ∃ component, process.components[call.component]? = some component ∧
      ((∃ request, .registerExtComponentRequest request ∈ result.outcome.published) ↔
        result.passed = true ∧
          Registration.nameTooLong component.getRegistrationSettings = false) ∧
      (Unchecked process call component result ∨ Checked process call component result) := by
  unfold doRegister at called
  obtain ⟨component, found, called⟩ := Option.bind_eq_some_iff.mp called
  refine ⟨component, found, ?_⟩
  split at called
  · cases called
  · obtain ⟨⟨checked, compatible⟩, gone, called⟩ := Option.bind_eq_some_iff.mp called
    obtain ⟨outcome, registered, same⟩ := Option.bind_eq_some_iff.mp called
    cases same
    refine ⟨RegisterCall.doRegister_sends_iff registered, ?_⟩
    unfold verdict at gone
    split at gone
    · rename_i unneeded
      cases gone
      refine .inl ⟨by simpa using unneeded, rfl, rfl, ?_⟩
      simp [RegisterCall.passesCheck]
    · rename_i needed
      simp only [Bool.or_eq_true, Bool.not_eq_true', not_or, Bool.not_eq_true,
        Bool.not_eq_false] at needed
      refine .inr ⟨needed.1, needed.2, checked, ?_, rfl, rfl⟩
      simpa [RegisterCall.passesCheck, needed.1, needed.2] using gone

theorem verdictFits_of_found {component : Component}
    (found : process.components[call.component]? = some component) :
    VerdictFits process call ↔
      (call.call.skipsMessageCompatibilityCheck component = false → call.fmuAnswers = true →
        match process.kResult with
        | none => True
        | some true => (component.topicNamespacePrefix, true) ∈ process.checks ∨
            Registration.nameTooLong component.getRegistrationSettings = true
        | some false => ownVerdict call ≠ some true) := by
  constructor
  · intro fits
    exact fits component found
  · intro fits other foundOther
    rw [found] at foundOther
    cases foundOther
    exact fits

theorem gated_of_called {component : Component} {result : Result}
    (found : process.components[call.component]? = some component)
    (called : process.doRegister call = some result)
    (sends : (∃ request, .registerExtComponentRequest request ∈ result.outcome.published) ↔
      result.passed = true ∧
        Registration.nameTooLong component.getRegistrationSettings = false) :
    Gated process call ↔
      (call.call.skipsMessageCompatibilityCheck component = false →
        (result.passed = true →
          Registration.nameTooLong component.getRegistrationSettings = false →
          (component.topicNamespacePrefix, true) ∈ result.process.checks) ∧
        (call.fmuAnswers = true → ownVerdict call = some true → result.passed = true)) := by
  constructor
  · intro gated needed
    obtain ⟨checked, passes⟩ := gated component result found called needed
    exact ⟨fun passed short => checked (sends.mpr ⟨passed, short⟩), passes⟩
  · intro gated other result' foundOther calledAgain needed
    rw [found] at foundOther
    cases foundOther
    rw [called] at calledAgain
    cases calledAgain
    obtain ⟨checked, passes⟩ := gated needed
    exact ⟨fun sent => checked (sends.mp sent).1 (sends.mp sent).2, passes⟩

/-- A call that is made is gated exactly if the stored verdict fits it. -/
theorem gated_iff_verdictFits {result : Result} (called : process.doRegister call = some result) :
    Gated process call ↔ VerdictFits process call := by
  obtain ⟨component, found, sends, ending⟩ := doRegister_cases called
  rw [gated_of_called found called sends, verdictFits_of_found found]
  apply imp_congr_right
  intro needed
  rcases ending with unchecked | checked
  · have silent := unchecked.reason.resolve_left (by simp [needed])
    have refused := unchecked.passed.trans needed
    simp [silent, refused]
  · obtain ⟨after, gone, _, sameChecks⟩ := checked.verdict
    have answers := checked.answers
    unfold defaultMessageCompatibilityCheck at gone
    cases stored : process.kResult with
    | none =>
        simp only [stored, Option.bind_eq_bind, Option.bind_eq_some_iff] at gone
        obtain ⟨own, verdict, same⟩ := gone
        cases same
        rw [sameChecks, verdict]
        refine iff_of_true ⟨?_, ?_⟩ (fun _ => trivial)
        · intro passed _
          simp [passed]
        · intro _ same
          exact Option.some.inj same
    | some kResult =>
        simp only [stored, Option.some.injEq, Prod.mk.injEq] at gone
        obtain ⟨rfl, passed⟩ := gone
        rw [sameChecks, ← passed, answers]
        cases kResult <;> simp [or_iff_not_imp_right]

/-! ### All calls of a process -/

/-- Calls are handed in one after the other; nothing is left to do between them. -/
def machine : Machine RegistrationProcess Empty GateCall where
  exec _ task _ := task.elim
  idle process call := (process.doRegister call).map fun result => (result.process, [])

/-- Every call, with the process that it found. -/
def calls : Recorder RegistrationProcess Empty GateCall (List (RegistrationProcess × GateCall)) where
  event history process call := history ++ [(process, call)]
  task history _ _ _ := history

/-- A process before the first call. -/
def initial (components : List Component) :
    Config (Recorded RegistrationProcess (List (RegistrationProcess × GateCall))) Empty :=
  ⟨⟨{ components }, []⟩, []⟩

/-- Every recorded call was made, and no process makes more than one check. -/
def Consistent (history : List (RegistrationProcess × GateCall))
    (config : Config RegistrationProcess Empty) : Prop :=
  (∀ entry ∈ history, ∃ result, entry.1.doRegister entry.2 = some result) ∧
    config.agenda = [] ∧
    config.state.checks.map Prod.snd = config.state.kResult.toList

theorem consistent_step {history : List (RegistrationProcess × GateCall)}
    {config next : Config RegistrationProcess Empty} (before : Consistent history config)
    (stepped : machine.step config call = some next) :
    Consistent (calls.record history config call) next := by
  obtain ⟨made, quiescent, checks⟩ := before
  rcases config with ⟨process, agenda⟩
  cases quiescent
  obtain ⟨after, taken, rfl⟩ := Option.map_eq_some_iff.mp stepped
  obtain ⟨result, called, rfl⟩ := Option.map_eq_some_iff.mp taken
  refine ⟨?_, rfl, ?_⟩
  · intro entry member
    rcases List.mem_append.mp member with old | new
    · exact made entry old
    · cases List.mem_singleton.mp new
      exact ⟨result, called⟩
  · obtain ⟨component, _, _, unchecked | checked⟩ := doRegister_cases called
    · simpa [unchecked.kResult, unchecked.checks] using checks
    · obtain ⟨after, gone, sameResult, sameChecks⟩ := checked.verdict
      unfold defaultMessageCompatibilityCheck at gone
      simp only at checks
      cases stored : process.kResult with
      | none =>
          simp only [stored, Option.bind_eq_bind, Option.bind_eq_some_iff] at gone
          obtain ⟨own, _, same⟩ := gone
          cases same
          have nothing : process.checks = [] := by simpa [stored] using checks
          simp [sameResult, sameChecks, nothing]
      | some kResult =>
          simp only [stored, Option.some.injEq, Prod.mk.injEq] at gone
          rw [sameResult, sameChecks, ← gone.1]
          exact checks

theorem consistent_of_reaches {components : List Component}
    {reached : Config (Recorded RegistrationProcess (List (RegistrationProcess × GateCall))) Empty}
    (reaches : (machine.recorded calls).Reaches (fun config =>
      Machine.unrestricted config.forget) (initial components) reached) :
    Consistent reached.state.history reached.forget := by
  refine reaches.recorded_invariant ?_ fun _ _ _ _ before _ stepped => consistent_step before stepped
  exact ⟨by simp [initial], rfl, rfl⟩

/-- In every run, the gate is right for all calls exactly if the stored verdict fits them all. -/
theorem all_gated_iff (components : List Component)
    (reached : Config (Recorded RegistrationProcess (List (RegistrationProcess × GateCall))) Empty)
    (reaches : (machine.recorded calls).Reaches (fun config =>
      Machine.unrestricted config.forget) (initial components) reached) :
    (∀ entry ∈ reached.state.history, Gated entry.1 entry.2) ↔
      ∀ entry ∈ reached.state.history, VerdictFits entry.1 entry.2 := by
  have called := (consistent_of_reaches reaches).1
  constructor
  · intro gated entry member
    obtain ⟨result, made⟩ := called entry member
    exact (gated_iff_verdictFits made).mp (gated entry member)
  · intro fits entry member
    obtain ⟨result, made⟩ := called entry member
    exact (gated_iff_verdictFits made).mpr (fits entry member)

/-- A vehicle on Zenoh whose only publisher has this type hash; the local one has zeros. -/
def vehicle (publisher : TypeHash) : MessageCompatibility.Environment :=
  { MessageCompatibility.twoPublishers with
    graph := { MessageCompatibility.twoPublishers.graph with
      publishersInfoByTopic := fun _ => [publisher] } }

/-- The modes of two vehicles, each with a setpoint type. -/
def twoVehicles : List Component :=
  [{ RegisterCall.newMode [{}] with topicNamespacePrefix := "one/" },
    { RegisterCall.newMode [{}] with topicNamespacePrefix := "two/" }]

def registerMode (component : Nat) (publisher : TypeHash) : GateCall :=
  { call := .modeBase
    component
    fmuAnswers := true
    environment := vehicle publisher
    responses := fun _ => []
    requestId := 7
    attempts := (RegisterCall.acceptingFmu 1).attempts }

def localHash : TypeHash := ⟨1, .zeros 32⟩

def otherHash : TypeHash := ⟨2, .zeros 32⟩

/-- Two modes of one vehicle. -/
def oneVehicle : List Component :=
  [{ RegisterCall.newMode [{}] with topicNamespacePrefix := "one/" },
    { RegisterCall.newMode [{}] with topicNamespacePrefix := "one/" }]

/-- The process when the first mode is registered. -/
def afterFirstMode (components : List Component) : RegistrationProcess :=
  (({ components } : RegistrationProcess).doRegister
    (registerMode 0 localHash)).elim { components := [] } Result.process

/-- It, with the call that was made. -/
def firstCall (components : List Component) :
    Recorded RegistrationProcess (List (RegistrationProcess × GateCall)) :=
  ⟨afterFirstMode components, [({ components }, registerMode 0 localHash)]⟩

theorem all_gated_one_vehicle : ∃ process result,
    process.checks = [("one/", true)] ∧
    process.doRegister (registerMode 1 localHash) = some result ∧ result.outcome.result = true ∧
    Gated process (registerMode 1 localHash) := by
  have first : (machine.recorded calls).step (initial oneVehicle) (registerMode 0 localHash) =
      some ⟨firstCall oneVehicle, []⟩ := rfl
  have second : (machine.recorded calls).step ⟨firstCall oneVehicle, []⟩
      (registerMode 1 localHash) =
      some ⟨⟨_, [_, (afterFirstMode oneVehicle, registerMode 1 localHash)]⟩, []⟩ := rfl
  have gated := (all_gated_iff _ _ ((Machine.Reaches.refl.step trivial first).step trivial
    second)).mpr (by
      refine List.forall_mem_cons.mpr ⟨fun _ _ _ _ => trivial, List.forall_mem_singleton.mpr ?_⟩
      rintro component found - -
      cases found
      exact .inl List.mem_cons_self)
  exact ⟨_, _, rfl, rfl, rfl, gated _ (List.mem_cons_of_mem _ List.mem_cons_self)⟩

/-- The second vehicle has other messages, and the verdict of the first one lets it through. -/
theorem second_vehicle_not_checked : ∃ reached,
    (machine.recorded calls).Reaches (fun config => Machine.unrestricted config.forget)
      (initial twoVehicles) reached ∧
    ∃ entry ∈ reached.state.history, ¬ Gated entry.1 entry.2 := by
  have first : (machine.recorded calls).step (initial twoVehicles) (registerMode 0 localHash) =
      some ⟨firstCall twoVehicles, []⟩ := rfl
  have second : (machine.recorded calls).step ⟨firstCall twoVehicles, []⟩
      (registerMode 1 otherHash) =
      some ⟨⟨_, [_, (afterFirstMode twoVehicles, registerMode 1 otherHash)]⟩, []⟩ := rfl
  refine ⟨_, (Machine.Reaches.refl.step trivial first).step trivial second, _,
    List.mem_cons_of_mem _ List.mem_cons_self, ?_⟩
  intro gated
  obtain ⟨checked, _⟩ := gated _ _ rfl rfl rfl
  exact absurd (checked ⟨_, List.mem_cons_self⟩) (by decide)

end RegistrationProcess

end Px4Ros2
