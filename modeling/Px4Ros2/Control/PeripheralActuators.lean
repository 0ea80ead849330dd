import Px4Ros2.Lib.Log
import Px4Ros2.Components.Messages

/-! `PeripheralActuatorControls`: commands to actuators, with a limit on their rate. Times are in
nanoseconds. -/

set_option autoImplicit false

namespace Px4Ros2

def VehicleCommand.doSetActuator : UInt32 := 187

structure PeripheralActuatorControls where
  lastUpdate : Int
deriving DecidableEq, Repr

namespace PeripheralActuatorControls

abbrev kNumActuators : Nat := 6

/-- The values of all actuators; `none` is NAN. -/
abbrev Values := Fin kNumActuators → Param

/-- `100ms`. -/
def interval : Int := 100000000

/-- A `PeripheralActuatorControls` after construction. -/
def constructed (now : Int) : PeripheralActuatorControls := ⟨now⟩

def command (values : Values) : VehicleCommand :=
  { command := VehicleCommand.doSetActuator
    params := List.ofFn values ++ [some 0]
    sourceComponent := 0 }

/-- `set`, with the command that it publishes. -/
def set (controls : PeripheralActuatorControls) (now : Int) (values : Values) :
    PeripheralActuatorControls × Option VehicleCommand :=
  if now - controls.lastUpdate > interval then (⟨now⟩, some (command values))
  else (controls, none)

/-- All values but one are NAN. -/
def only (index : Fin kNumActuators) (value : Param) : Values :=
  fun other => if other = index then value else none

/-- The overload of `set` for one actuator. -/
def setSingle (controls : PeripheralActuatorControls) (now : Int) (value : Param) (index : Nat) :
    PeripheralActuatorControls × Option VehicleCommand :=
  match value with
  | none => (controls, none)
  | some value =>
      if inside : index < kNumActuators then controls.set now (only ⟨index, inside⟩ (some value))
      else (controls, none)

inductive SetCall where
  | all (values : Values)
  | single (value : Param) (index : Nat)

namespace SetCall

/-- What is requested for an actuator. -/
def requests (call : SetCall) (actuator : Fin kNumActuators) : Param :=
  match call with
  | .all values => values actuator
  | .single value index => if index = actuator then value else none

def apply (call : SetCall) (controls : PeripheralActuatorControls) (now : Int) :
    PeripheralActuatorControls × Option VehicleCommand :=
  match call with
  | .all values => controls.set now values
  | .single value index => controls.setSingle now value index

end SetCall

/-- A call of `set` with its time and with what it published. -/
structure Outcome where
  time : Int
  call : SetCall
  published : Option VehicleCommand

/-- A call, after the calls before it. -/
def step (controls : PeripheralActuatorControls × List Outcome) (request : Int × SetCall) :
    PeripheralActuatorControls × List Outcome :=
  let after := request.2.apply controls.1 request.1
  (after.1, controls.2 ++ [⟨request.1, request.2, after.2⟩])

def run (start : Int) (requests : List (Int × SetCall)) :
    PeripheralActuatorControls × List Outcome :=
  requests.foldl step (constructed start, [])

/-- A command for whatever actuators was published shortly before. -/
def RecentlyPublished (earlier : List Outcome) (time : Int) : Prop :=
  ∃ outcome ∈ earlier, outcome.published.isSome = true ∧ time - outcome.time ≤ interval

variable {start now : Int} {requests : List (Int × SetCall)} {request : Int × SetCall}
  {controls : PeripheralActuatorControls} {call : SetCall} {actuator : Fin kNumActuators}
  {value : Rat}

theorem run_append : run start (requests ++ [request]) = step (run start requests) request := by
  simp [run]

theorem only_self (index : Fin kNumActuators) (value : Param) : only index value index = value :=
  if_pos rfl

/-- The value of an actuator in a command. -/
theorem command_params (values : Values) :
    (command values).params[(actuator : Nat)]? = some (values actuator) := by
  have inside : (actuator : Nat) < (List.ofFn values).length := by
    rw [List.length_ofFn]
    exact actuator.isLt
  simp only [command]
  rw [List.getElem?_append_left inside, List.getElem?_ofFn, dif_pos actuator.isLt]

/-- The calls that request something are all treated alike. -/
theorem apply_of_requests (requested : call.requests actuator = some value) :
    ∃ values, values actuator = some value ∧ call.apply controls now = controls.set now values := by
  cases call with
  | all values => exact ⟨values, requested, rfl⟩
  | single single index =>
      simp only [SetCall.requests] at requested
      split at requested
      · rename_i same
        refine ⟨only actuator (some value), only_self actuator _, ?_⟩
        simp only [SetCall.apply, setSingle, requested]
        rw [dif_pos (same ▸ actuator.isLt)]
        congr
      · cases requested

theorem apply_published {published : VehicleCommand}
    (sent : (call.apply controls now).2 = some published) :
    (call.apply controls now).1 = ⟨now⟩ ∧ now - controls.lastUpdate > interval := by
  have of_set : ∀ values, (controls.set now values).2 = some published →
      (controls.set now values).1 = ⟨now⟩ ∧ now - controls.lastUpdate > interval := by
    intro values sent
    unfold set at sent ⊢
    split at sent
    · rename_i late
      simp [late]
    · cases sent
  cases call with
  | all values => exact of_set values sent
  | single single index =>
      simp only [SetCall.apply, setSingle] at sent ⊢
      split at sent
      · cases sent
      · split at sent
        · rename_i inside
          simp only [inside, dite_true]
          exact of_set _ sent
        · cases sent

theorem apply_dropped (dropped : (call.apply controls now).2 = none) :
    (call.apply controls now).1 = controls := by
  have of_set : ∀ values, (controls.set now values).2 = none →
      (controls.set now values).1 = controls := by
    intro values dropped
    unfold set at dropped ⊢
    split at dropped
    · cases dropped
    · rename_i early
      simp [early]
  cases call with
  | all values => exact of_set values dropped
  | single single index =>
      simp only [SetCall.apply, setSingle] at dropped ⊢
      split at dropped
      · rfl
      · split at dropped
        · rename_i inside
          simp only [inside, dite_true]
          exact of_set _ dropped
        · rename_i outside
          simp [outside]

/-- What `lastUpdate` says about the commands that were published. -/
structure Tracks (start : Int) (state : PeripheralActuatorControls × List Outcome) : Prop where
  last : state.1.lastUpdate = start ∨
    ∃ outcome ∈ state.2, outcome.published.isSome = true ∧ outcome.time = state.1.lastUpdate
  latest : ∀ outcome ∈ state.2, outcome.published.isSome = true →
    outcome.time ≤ state.1.lastUpdate

theorem tracks_constructed (start : Int) : Tracks start (constructed start, []) :=
  ⟨.inl rfl, by simp⟩

theorem tracks_step {state : PeripheralActuatorControls × List Outcome}
    (tracks : Tracks start state) : Tracks start (step state request) := by
  cases sent : (request.2.apply state.1 request.1).2 with
  | none =>
      have same := apply_dropped sent
      constructor
      · simp only [step, same]
        cases tracks.last with
        | inl fresh => exact .inl fresh
        | inr published =>
            obtain ⟨outcome, member, isPublished, time⟩ := published
            exact .inr ⟨outcome, List.mem_append_left _ member, isPublished, time⟩
      · intro outcome member isPublished
        simp only [step, same, List.mem_append, List.mem_singleton] at member ⊢
        cases member with
        | inl before => exact tracks.latest outcome before isPublished
        | inr new =>
            subst new
            simp [sent] at isPublished
  | some published =>
      obtain ⟨updated, late⟩ := apply_published sent
      constructor
      · simp only [step, updated]
        exact .inr ⟨_, List.mem_append_right _ (List.mem_singleton_self _), by simp [sent], rfl⟩
      · intro outcome member isPublished
        simp only [step, updated, List.mem_append, List.mem_singleton] at member ⊢
        cases member with
        | inl before =>
            have known := tracks.latest outcome before isPublished
            simp only [interval] at late
            omega
        | inr new => rw [new]

theorem tracks_run (start : Int) (requests : List (Int × SetCall)) :
    Tracks start (run start requests) := by
  induction requests using List.reverseRecOn with
  | nil => exact tracks_constructed start
  | append_singleton requests request tracks =>
      rw [run_append]
      exact tracks_step tracks

/-- A call is too early exactly when a command was published shortly before. -/
theorem Tracks.early_iff {state : PeripheralActuatorControls × List Outcome}
    (tracks : Tracks start state) (later : start + interval < now) :
    now - state.1.lastUpdate ≤ interval ↔ RecentlyPublished state.2 now := by
  constructor
  · intro early
    cases tracks.last with
    | inl fresh => omega
    | inr published =>
        obtain ⟨outcome, member, isPublished, time⟩ := published
        exact ⟨outcome, member, isPublished, by omega⟩
  · intro recent
    obtain ⟨outcome, member, isPublished, near⟩ := recent
    have known := tracks.latest outcome member isPublished
    omega

/-- What a call of `set` does with a value, at its place in a run. -/
def Handles (earlier : List Outcome) (outcome : Outcome) : Prop :=
  ∀ actuator value, outcome.call.requests actuator = some value →
    (outcome.published = none ↔ RecentlyPublished earlier outcome.time) ∧
      ∀ command, outcome.published = some command →
        command.params[(actuator : Nat)]? = some (some value)

theorem handles_step {state : PeripheralActuatorControls × List Outcome}
    (tracks : Tracks start state) (later : start + interval < request.1) :
    Handles state.2 ⟨request.1, request.2, (request.2.apply state.1 request.1).2⟩ := by
  intro actuator value requested
  obtain ⟨values, carried, same⟩ : ∃ values, values actuator = some value ∧
      request.2.apply state.1 request.1 = state.1.set request.1 values :=
    apply_of_requests requested
  have early := tracks.early_iff later
  rw [← early]
  simp only [same, set]
  constructor
  · split
    · simp; omega
    · simp; omega
  · intro sent
    split
    · intro isSent
      cases isSent
      rw [command_params, carried]
    · intro isSent
      cases isSent

/-- A value is dropped exactly when a command was published at most 100 ms before, for whichever
actuators, and otherwise the command that is published has it. -/
theorem set_drops_iff_recent {start : Int} {requests : List (Int × SetCall)}
    (later : ∀ request ∈ requests, start + interval < request.1) :
    ∀ earlier outcome rest, (run start requests).2 = earlier ++ outcome :: rest →
      Handles earlier outcome := by
  induction requests using List.reverseRecOn with
  | nil =>
      intro earlier outcome rest outcomes
      simp [run] at outcomes
  | append_singleton requests request ih =>
      have laterBefore : ∀ request ∈ requests, start + interval < request.1 :=
        fun request member => later request (List.mem_append_left _ member)
      have laterNow : start + interval < request.1 :=
        later request (List.mem_append_right _ (List.mem_singleton_self _))
      rw [run_append]
      exact Lib.forall_snoc.mpr ⟨ih laterBefore, handles_step (tracks_run start requests) laterNow⟩

/-- Two calls for different actuators within 100 ms. -/
def releaseThenCamera : List (Int × SetCall) :=
  [(1000000000, .single (some 1) 0), (1050000000, .single (some (1 / 2)) 1)]

theorem set_drops_release_then_camera :
    RecentlyPublished ((run 0 releaseThenCamera).2.take 1) 1050000000 := by
  have later : ∀ request ∈ releaseThenCamera, 0 + interval < request.1 := by decide
  have handled := set_drops_iff_recent later ((run 0 releaseThenCamera).2.take 1)
    ⟨1050000000, .single (some (1 / 2)) 1, none⟩ [] rfl 1 (1 / 2) rfl
  exact handled.1.mp rfl

/-- The second value is dropped, and no command with a value for its actuator was published. -/
theorem set_drops_other_actuator :
    ∃ earlier outcome, (run 0 releaseThenCamera).2 = [earlier, outcome] ∧
      outcome.call.requests 1 = some (1 / 2) ∧ outcome.published = none ∧
      ∃ command, earlier.published = some command ∧ command.params[1]? = some none :=
  ⟨_, _, rfl, rfl, rfl, _, rfl, rfl⟩

end PeripheralActuatorControls

end Px4Ros2
