import Px4Ros2.Components.ModeRegistration
import Mathlib.Data.List.Infix

/-! The class `ConfigOverrides`: requests that are made before a component is registered are kept,
and told to the flight controller when the ids of the component are known. -/

set_option autoImplicit false

namespace Px4Ros2

/-- A call that changes the overrides. -/
inductive OverridesRequest where
  | controlAutoDisarm (enabled : Bool)
  | controlAutoSetHome (enabled : Bool)
  | deferFailsafes (enabled : Bool) (timeoutS : Int32)
deriving DecidableEq, Repr

/-- What the call sets. The timeout is an `int`, and the field of the message an `int16`. -/
def OverridesRequest.apply (overrides : ConfigOverridesRequest) :
    OverridesRequest → ConfigOverridesRequest
  | .controlAutoDisarm enabled => { overrides with disableAutoDisarm := !enabled }
  | .controlAutoSetHome enabled => { overrides with disableAutoSetHome := !enabled }
  | .deferFailsafes enabled timeoutS =>
      { overrides with deferFailsafes := enabled, deferFailsafesTimeoutS := timeoutS.toInt16 }

/-- The calls of a `ConfigOverrides` object. -/
inductive OverridesCall where
  | request (request : OverridesRequest)
  | setup (type id : UInt8)
deriving DecidableEq, Repr

namespace OverridesCall

def isSetup : OverridesCall → Bool
  | .request _ => false
  | .setup _ _ => true

end OverridesCall

namespace OverridesState

/-- `ConfigOverrides::update`. -/
def update (overrides : OverridesState) : OverridesState × List Published :=
  if overrides.isSetup then (overrides, [.configOverrides overrides.currentOverrides])
  else ({ overrides with requireUpdateAfterSetup := true }, [])

/-- One call, with what it publishes. A second `setup` fails its assertion. -/
def call (overrides : OverridesState) :
    OverridesCall → Option (OverridesState × List Published)
  | .request request =>
      some ({ overrides with
        currentOverrides := request.apply overrides.currentOverrides }.update)
  | .setup type id => overrides.setup type id

/-- A sequence of calls. -/
def calls (overrides : OverridesState) :
    List OverridesCall → Option (OverridesState × List Published)
  | [] => some (overrides, [])
  | first :: rest => do
      let (overrides, published) ← overrides.call first
      let (overrides, later) ← overrides.calls rest
      return (overrides, published ++ later)

variable {overrides : OverridesState} {requests : List OverridesRequest}

/-! ### Before and after the component is registered -/

theorem calls_append (first second : List OverridesCall) :
    overrides.calls (first ++ second) = (do
      let (overrides, published) ← overrides.calls first
      let (overrides, later) ← overrides.calls second
      return (overrides, published ++ later)) := by
  induction first generalizing overrides with
  | nil => simp [calls]
  | cons call rest ih =>
      simp only [List.cons_append, calls, ih]
      cases overrides.call call with
      | none => rfl
      | some result =>
          cases run : result.1.calls rest with
          | none => simp [run]
          | some final => cases later : final.1.calls second <;> simp [run, later]

/-- Requests that are made too early are only remembered. -/
theorem calls_early (early : overrides.isSetup = false) :
    overrides.calls (requests.map .request) = some ({ overrides with
      currentOverrides := requests.foldl OverridesRequest.apply overrides.currentOverrides
      requireUpdateAfterSetup := overrides.requireUpdateAfterSetup || !requests.isEmpty }, []) := by
  induction requests generalizing overrides with
  | nil => simp [calls]
  | cons request rest ih =>
      simp [calls, call, update, early, ih]

/-- Every later request tells all that was asked for until then. -/
theorem calls_registered (registered : overrides.isSetup = true) :
    overrides.calls (requests.map .request) = some ({ overrides with
        currentOverrides := requests.foldl OverridesRequest.apply overrides.currentOverrides },
      requests.inits.tail.map fun asked =>
        .configOverrides (asked.foldl OverridesRequest.apply overrides.currentOverrides)) := by
  induction requests generalizing overrides with
  | nil => simp [calls]
  | cons request rest ih =>
      have next := @ih { overrides with
        currentOverrides := request.apply overrides.currentOverrides } registered
      have inits : ((request :: rest).inits.tail.map fun asked =>
            Published.configOverrides
              (asked.foldl OverridesRequest.apply overrides.currentOverrides)) =
          rest.inits.map fun asked => Published.configOverrides
            (asked.foldl OverridesRequest.apply (request.apply overrides.currentOverrides)) := by
        simp [Function.comp_def]
      have shortest : rest.inits = [] :: rest.inits.tail := by cases rest <;> rfl
      simp only [registered] at next
      rw [inits, shortest]
      simp [calls, call, update, registered, next]

/-- No request changes the ids. -/
theorem foldl_apply_ids (overrides : ConfigOverridesRequest) (type id : UInt8) :
    requests.foldl OverridesRequest.apply { overrides with sourceType := type, sourceId := id } =
      { requests.foldl OverridesRequest.apply overrides with
        sourceType := type, sourceId := id } := by
  induction requests generalizing overrides with
  | nil => rfl
  | cons request rest ih =>
      have kept : (request.apply { overrides with sourceType := type, sourceId := id }) =
          { request.apply overrides with sourceType := type, sourceId := id } := by
        cases request <;> rfl
      rw [List.foldl_cons, kept, ih]
      rfl

/-- The only call that fails is a second `setup`. -/
theorem call_isSome {made : OverridesCall} :
    (overrides.call made).isSome ↔ (overrides.isSetup && made.isSetup) = false := by
  cases made with
  | request request => simp [call, OverridesCall.isSetup]
  | setup type id =>
      unfold call setup
      cases overrides.isSetup <;> cases overrides.requireUpdateAfterSetup <;>
        simp [OverridesCall.isSetup]

theorem call_isSetup {made : OverridesCall} {after : OverridesState} {published : List Published}
    (done : overrides.call made = some (after, published)) :
    after.isSetup = (overrides.isSetup || made.isSetup) := by
  cases made with
  | request request =>
      simp only [call, update, Option.some.injEq] at done
      split at done <;> obtain ⟨rfl, -⟩ := Prod.mk.inj done <;> simp [OverridesCall.isSetup]
  | setup type id =>
      simp only [call, setup] at done
      repeat' split at done
      all_goals simp_all [OverridesCall.isSetup]
      all_goals simp [← done.1]

theorem calls_isSome (made : List OverridesCall) :
    (overrides.calls made).isSome ↔
      made.countP OverridesCall.isSetup + overrides.isSetup.toNat ≤ 1 := by
  induction made generalizing overrides with
  | nil => cases overrides.isSetup <;> simp [calls]
  | cons first rest ih =>
      have possible := @call_isSome overrides first
      cases done : overrides.call first with
      | none =>
          have both : (overrides.isSetup && first.isSetup) = true := by simpa [done] using possible
          simp only [Bool.and_eq_true] at both
          simp [calls, done, both]
      | some result =>
          have fresh : (overrides.isSetup && first.isSetup) = false := by
            simpa [done] using possible
          have rests : (overrides.calls (first :: rest)).isSome = (result.1.calls rest).isSome := by
            cases later : result.1.calls rest <;> simp [calls, done, later]
          rw [rests, ih, call_isSetup done]
          cases known : overrides.isSetup <;> cases setups : first.isSetup <;> simp_all

end OverridesState

/-! ### What the flight controller is told -/

/-- All that is asked for by these requests, in the name of a component. -/
def OverridesRequest.told (type id : UInt8) (requests : List OverridesRequest) : Published :=
  .configOverrides
    { requests.foldl OverridesRequest.apply {} with sourceType := type, sourceId := id }

theorem OverridesRequest.told_append (type id : UInt8) (before after : List OverridesRequest) :
    told type id (before ++ after) =
      .configOverrides (after.foldl apply
        { before.foldl apply {} with sourceType := type, sourceId := id }) := by
  have named := @OverridesState.foldl_apply_ids after (before.foldl apply {}) type id
  rw [told, List.foldl_append, named]

/-- What a run of calls publishes, from what was asked for before `setup` and after it. -/
theorem overrides_told (before after : List OverridesRequest) (type id : UInt8)
    (made : List OverridesCall) :
    ((OverridesState.calls {} made).isSome ↔ made.countP OverridesCall.isSetup ≤ 1) ∧
      ((OverridesState.calls {} (before.map .request)).map Prod.snd = some []) ∧
      (OverridesState.calls {} (before.map .request ++ .setup type id :: after.map .request)).map
          Prod.snd =
        some ((if before = [] then [] else [OverridesRequest.told type id before]) ++
          after.inits.tail.map fun asked => OverridesRequest.told type id (before ++ asked)) := by
  refine ⟨by simp [OverridesState.calls_isSome], ?_, ?_⟩
  · simp [OverridesState.calls_early]
  · rw [OverridesState.calls_append, OverridesState.calls_early rfl]
    have registered := fun overrides : OverridesState =>
      @OverridesState.calls_registered overrides after
    simp only [OverridesRequest.told_append]
    cases before with
    | nil => simp [OverridesState.calls, OverridesState.call, OverridesState.setup, registered]
    | cons request rest =>
        simp [OverridesState.calls, OverridesState.call, OverridesState.setup, registered,
          OverridesRequest.told]

/-- A timeout that does not fit is told as another one. -/
example : OverridesRequest.told 1 1 [.deferFailsafes true 40000] =
    .configOverrides
      { deferFailsafes := true
        deferFailsafesTimeoutS := -25536
        sourceType := 1
        sourceId := 1 } := by
  decide

end Px4Ros2
