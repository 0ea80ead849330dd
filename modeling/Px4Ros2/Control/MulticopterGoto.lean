import Px4Ros2.Lib.Log
import Px4Ros2.Utils.MapProjectionProperties

/-! `MulticopterGotoSetpointType` and `MulticopterGotoGlobalSetpointType`: a local position setpoint,
and one that is made from a global position with the map projection. Whatever messages came before,
a global setpoint is published as soon as there was a reference, and leads to the position. -/

set_option autoImplicit false

namespace Px4Ros2.MulticopterGoto

open Lib Real

/-- What can be left out of a setpoint. -/
structure Options (Number : Type) where
  heading : Option Number := none
  maxHorizontalSpeed : Option Number := none
  maxVerticalSpeed : Option Number := none
  maxHeadingRate : Option Number := none

structure GotoSetpoint (Number : Type) where
  position : Vector3 Number
  heading : Number
  flagControlHeading : Bool
  maxHorizontalSpeed : Number
  maxVerticalSpeed : Number
  maxHeadingRate : Number
  flagSetMaxHorizontalSpeed : Bool
  flagSetMaxVerticalSpeed : Bool
  flagSetMaxHeadingRate : Bool

section Setpoints

variable {Number : Type}

/-- `MulticopterGotoSetpointType::update`, with the message it publishes. -/
def update [Zero Number] (position : Vector3 Number) (options : Options Number) :
    GotoSetpoint Number :=
  { position
    heading := options.heading.getD 0
    flagControlHeading := options.heading.isSome
    maxHorizontalSpeed := options.maxHorizontalSpeed.getD 0
    maxVerticalSpeed := options.maxVerticalSpeed.getD 0
    maxHeadingRate := options.maxHeadingRate.getD 0
    flagSetMaxHorizontalSpeed := options.maxHorizontalSpeed.isSome
    flagSetMaxVerticalSpeed := options.maxVerticalSpeed.isSome
    flagSetMaxHeadingRate := options.maxHeadingRate.isSome }

/-- `MulticopterGotoGlobalSetpointType::update`. -/
def updateGlobal [Field Number] [LinearOrder Number] (math : SphericalMath Number)
    (projection : MapProjectionImpl Number) (globalPosition : Vector3 Number)
    (options : Options Number) : Option (GotoSetpoint Number) :=
  if projection.refInitDone then
    some (update (projection.globalToLocal3 math globalPosition) options)
  else none

/-- What a flagged value of a message says. -/
def flagged (flag : Bool) (value : Number) : Option Number := if flag then some value else none

/-- The options as the flags of a message tell them. -/
def GotoSetpoint.options (sp : GotoSetpoint Number) : Options Number :=
  { heading := flagged sp.flagControlHeading sp.heading
    maxHorizontalSpeed := flagged sp.flagSetMaxHorizontalSpeed sp.maxHorizontalSpeed
    maxVerticalSpeed := flagged sp.flagSetMaxVerticalSpeed sp.maxVerticalSpeed
    maxHeadingRate := flagged sp.flagSetMaxHeadingRate sp.maxHeadingRate }

theorem flagged_getD [Zero Number] (value : Option Number) :
    flagged value.isSome (value.getD 0) = value := by
  cases value <;> rfl

theorem options_update [Zero Number] (position : Vector3 Number) (options : Options Number) :
    (update position options).options = options := by
  simp only [update, GotoSetpoint.options, flagged_getD]

/-- A message that the projection receives, or a call. -/
inductive Input (Number : Type) where
  | vehicleLocalPosition (msg : VehicleLocalPosition Number)
  | updateGlobal (globalPosition : Vector3 Number) (options : Options Number)

structure Entry (Number : Type) where
  input : Input Number
  published : Option (GotoSetpoint Number)

def step [Field Number] [LinearOrder Number] (math : SphericalMath Number)
    (state : MapProjectionImpl Number × List (Entry Number)) (input : Input Number) :
    MapProjectionImpl Number × List (Entry Number) :=
  match input with
  | .vehicleLocalPosition msg =>
      (MapProjection.vehicleLocalPositionCallback math.toTrigonometry state.1 msg,
        state.2 ++ [⟨input, none⟩])
  | .updateGlobal globalPosition options =>
      (state.1, state.2 ++ [⟨input, updateGlobal math state.1 globalPosition options⟩])

def run [Field Number] [LinearOrder Number] (math : SphericalMath Number)
    (inputs : List (Input Number)) : MapProjectionImpl Number × List (Entry Number) :=
  inputs.foldl (step math) (MapProjection.constructed 0, [])

def Entry.message? (entry : Entry Number) : Option (VehicleLocalPosition Number) :=
  match entry.input with
  | .vehicleLocalPosition msg => some msg
  | .updateGlobal _ _ => none

end Setpoints

/-- The projection after what a log tells. -/
noncomputable def projectionOf (log : List (Entry ℝ)) : MapProjectionImpl ℝ :=
  MapProjection.run realMath.toTrigonometry 0 (log.filterMap Entry.message?)

/-- A setpoint leads to a global position, and tells the options of the call. -/
structure LeadsTo (projection : MapProjectionImpl ℝ) (globalPosition : Vector3 ℝ)
    (options : Options ℝ) (sp : GotoSetpoint ℝ) : Prop where
  position : ∃ back, MapProjection.localToGlobal3 realMath projection sp.position = .ok back ∧
    MapProjectionImpl.SamePosition back.toVector2 globalPosition.toVector2 ∧
      back.z = globalPosition.z
  distance : √(sp.position.x ^ 2 + sp.position.y ^ 2) =
    horizontalDistanceToGlobalPosition realMath projection.referencePosition
      globalPosition.toVector2
  options : sp.options = options

variable {inputs : List (Input ℝ)} {input : Input ℝ} {before after : List (Entry ℝ)}
  {entry : Entry ℝ} {msgs : List (VehicleLocalPosition ℝ)} {globalPosition : Vector3 ℝ}
  {options : Options ℝ}

theorem run_snoc :
    run realMath (inputs ++ [input]) = step realMath (run realMath inputs) input := by
  simp [run]

theorem projectionOf_snoc (log : List (Entry ℝ)) (entry : Entry ℝ) :
    projectionOf (log ++ [entry]) =
      match entry.message? with
      | some msg => MapProjection.vehicleLocalPositionCallback realMath.toTrigonometry
          (projectionOf log) msg
      | none => projectionOf log := by
  simp only [projectionOf, List.filterMap_append]
  cases found : entry.message? with
  | some msg =>
      rw [List.filterMap_cons_some found, List.filterMap_nil, MapProjection.run_append]
  | none => rw [List.filterMap_cons_none found, List.filterMap_nil, List.append_nil]

/-- The projection is that of the messages in the log. -/
theorem projection_run : (run realMath inputs).1 = projectionOf (run realMath inputs).2 := by
  induction inputs using List.reverseRecOn with
  | nil => rfl
  | append_singleton inputs input ih =>
      rw [run_snoc]
      cases input with
      | vehicleLocalPosition msg =>
          simp only [step, projectionOf_snoc, Entry.message?, ih]
      | updateGlobal globalPosition options =>
          simp only [step, projectionOf_snoc, Entry.message?, ih]

theorem inputs_run : (run realMath inputs).2.map Entry.input = inputs := by
  induction inputs using List.reverseRecOn with
  | nil => rfl
  | append_singleton inputs input ih =>
      rw [run_snoc]
      cases input with
      | vehicleLocalPosition msg => simp [step, ih]
      | updateGlobal globalPosition options => simp [step, ih]

/-- A call is answered with the projection of the messages before it. -/
theorem published_run :
    ∀ before entry after, (run realMath inputs).2 = before ++ entry :: after →
      ∀ globalPosition options, entry.input = .updateGlobal globalPosition options →
        entry.published = updateGlobal realMath (projectionOf before) globalPosition options := by
  induction inputs using List.reverseRecOn with
  | nil =>
      intro before entry after shape
      simp [run] at shape
  | append_singleton inputs input ih =>
      rw [run_snoc]
      cases input with
      | vehicleLocalPosition msg =>
          refine forall_snoc.mpr ⟨ih, ?_⟩
          intro globalPosition options call
          cases call
      | updateGlobal position given =>
          refine forall_snoc.mpr ⟨ih, ?_⟩
          intro globalPosition options call
          cases call
          rw [← projection_run]

/-- There is a projection as soon as there was a reference. -/
theorem refInitDone_run :
    (MapProjection.run realMath.toTrigonometry 0 msgs).refInitDone = true ↔
      ∃ msg ∈ msgs, msg.refTimestamp ≠ 0 := by
  induction msgs using List.reverseRecOn with
  | nil => simp [MapProjection.run, MapProjection.constructed]
  | append_singleton msgs msg ih =>
      rw [MapProjection.run_append]
      simp only [List.mem_append, List.mem_singleton, or_and_right, exists_or, exists_eq_left,
        ← ih, MapProjection.vehicleLocalPositionCallback]
      cases started : (MapProjection.run realMath.toTrigonometry 0 msgs).refInitDone with
      | false =>
          by_cases missing : msg.refTimestamp = 0
          · simp [missing, started]
          · simp [missing, MapProjection.initReference]
      | true =>
          simp only [Bool.not_true, Bool.false_eq_true, if_false, true_or, iff_true]
          split
          · rfl
          · exact started

theorem leadsTo_update
    (initialised : (MapProjection.run realMath.toTrigonometry 0 msgs).refInitDone = true)
    (inRange : ∀ msg ∈ msgs, -90 ≤ msg.refLat ∧ msg.refLat ≤ 90)
    (least : -90 ≤ globalPosition.x) (most : globalPosition.x ≤ 90)
    (apart : ¬(MapProjection.run realMath.toTrigonometry 0 msgs).Antipodal
      globalPosition.toVector2) :
    LeadsTo (MapProjection.run realMath.toTrigonometry 0 msgs) globalPosition options
      (update ((MapProjection.run realMath.toTrigonometry 0 msgs).globalToLocal3 realMath
        globalPosition) options) := by
  have consistent := MapProjection.consistent_run initialised
  have reference := MapProjection.refLat_run_mem initialised inRange
  refine ⟨⟨(MapProjection.run realMath.toTrigonometry 0 msgs).localToGlobal3 realMath
    ((MapProjection.run realMath.toTrigonometry 0 msgs).globalToLocal3 realMath globalPosition),
      ?_, ?_, ?_⟩, ?_, options_update _ _⟩
  · simp only [MapProjection.localToGlobal3, MapProjection.assertInitalized, initialised, if_true]
    rfl
  · exact MapProjectionImpl.localToGlobal_globalToLocal consistent reference least most apart
  · simp [MapProjectionImpl.localToGlobal3, MapProjectionImpl.globalToLocal3]
  · rw [MapProjectionImpl.horizontalDistance_reference]
    exact MapProjectionImpl.norm_globalToLocal consistent apart

/-- Whatever messages and calls came before, a call publishes a setpoint if there was a reference,
and the setpoint leads to the position. -/
theorem gotos_lead_to_positions (inputs : List (Input ℝ)) (before after : List (Entry ℝ))
    (entry : Entry ℝ) (shape : (run realMath inputs).2 = before ++ entry :: after)
    (globalPosition : Vector3 ℝ) (options : Options ℝ)
    (call : entry.input = .updateGlobal globalPosition options)
    (inRange : ∀ msg ∈ before.filterMap Entry.message?, -90 ≤ msg.refLat ∧ msg.refLat ≤ 90)
    (least : -90 ≤ globalPosition.x) (most : globalPosition.x ≤ 90)
    (apart : ¬(projectionOf before).Antipodal globalPosition.toVector2) :
    before.map Entry.input ++ entry.input :: after.map Entry.input = inputs ∧
      ((∀ msg ∈ before.filterMap Entry.message?, msg.refTimestamp = 0) →
        entry.published = none) ∧
      ((∃ msg ∈ before.filterMap Entry.message?, msg.refTimestamp ≠ 0) →
        ∃ sp, entry.published = some sp ∧
          LeadsTo (projectionOf before) globalPosition options sp) := by
  have published := published_run before entry after shape globalPosition options call
  have logged : (run realMath inputs).2.map Entry.input = inputs := inputs_run
  rw [shape, List.map_append, List.map_cons] at logged
  refine ⟨logged, ?_, ?_⟩
  · intro missing
    have initialised : ¬(projectionOf before).refInitDone = true := by
      rw [projectionOf, refInitDone_run]
      push Not
      exact missing
    rw [published, updateGlobal, if_neg initialised]
  · intro found
    have initialised : (projectionOf before).refInitDone = true := refInitDone_run.mpr found
    refine ⟨_, ?_, leadsTo_update initialised inRange least most apart⟩
    rw [published, updateGlobal, if_pos initialised]
    rfl

/-- A heading and a limit of the climb. -/
def headingOptions : Options ℝ := { heading := some 1, maxVerticalSpeed := some 1 }

theorem gotos_lead_to_positions_quarter :
    ∃ sp, updateGlobal realMath (projectionOf [⟨.vehicleLocalPosition MapProjection.equator, none⟩])
        ⟨⟨0, 90⟩, 500⟩ headingOptions = some sp ∧
      LeadsTo (projectionOf [⟨.vehicleLocalPosition MapProjection.equator, none⟩]) ⟨⟨0, 90⟩, 500⟩
        headingOptions sp :=
  (gotos_lead_to_positions
    [.vehicleLocalPosition MapProjection.equator, .updateGlobal ⟨⟨0, 90⟩, 500⟩ headingOptions]
    [⟨.vehicleLocalPosition MapProjection.equator, none⟩] []
    ⟨.updateGlobal ⟨⟨0, 90⟩, 500⟩ headingOptions, _⟩ rfl ⟨⟨0, 90⟩, 500⟩ headingOptions rfl
    (by simp [Entry.message?, MapProjection.equator]) (by norm_num) (by norm_num)
    MapProjection.quarter_apart).2.2
    ⟨MapProjection.equator, by simp [Entry.message?], by simp [MapProjection.equator]⟩

end Px4Ros2.MulticopterGoto
