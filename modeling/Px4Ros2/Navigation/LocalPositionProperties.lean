import Mathlib.Data.Fin.Tuple.Basic
import Mathlib.Tactic.FinCases
import Px4Ros2.Navigation.LocalPosition

/-! A measurement is published only when it is usable. -/

set_option autoImplicit false

namespace Px4Ros2

variable {interface : LocalPositionMeasurementInterface} {measurement : LocalPositionMeasurement}
  {msg : AuxLocalPosition} {group : ValueGroup} {timestampSample : UInt64}

namespace ValueGroup

/-- How many components the value and the variance have. -/
def valueSize : ValueGroup → Nat
  | .positionXy | .velocityXy => 2
  | .positionZ | .velocityZ => 1
  | .attitude => 4

def varianceSize : ValueGroup → Nat
  | .positionXy | .velocityXy => 2
  | .positionZ | .velocityZ => 1
  | .attitude => 3

theorem valueSize_pos (group : ValueGroup) : 0 < group.valueSize := by
  cases group <;> decide

theorem forall_group {P : ValueGroup → Prop} :
    (∀ group, P group) ↔
      P .positionXy ∧ P .positionZ ∧ P .velocityXy ∧ P .velocityZ ∧ P .attitude := by
  constructor
  · intro all
    exact ⟨all _, all _, all _, all _, all _⟩
  · intro ⟨ofXy, ofZ, ofVelocityXy, ofVelocityZ, ofAttitude⟩ group
    cases group with
    | positionXy => exact ofXy
    | positionZ => exact ofZ
    | velocityXy => exact ofVelocityXy
    | velocityZ => exact ofVelocityZ
    | attitude => exact ofAttitude

end ValueGroup

namespace LocalPositionMeasurementInterface

/-! ### What the validators check -/

theorem ite_false_iff {first second : Bool} :
    (if first then false else second) = true ↔ first = false ∧ second = true := by
  cases first <;> simp

theorem lacksVariance_iff {α : Type} {n : Nat} {value : Option α}
    {variance : Option (Fin n → FloatValue)} :
    lacksVariance value variance = false ↔
      (value.isSome = true → ∃ given, variance = some given ∧
        ∀ component ∈ List.ofFn given, FloatValue.nonPositive component = false) := by
  cases value with
  | none => simp [lacksVariance]
  | some value =>
      cases variance with
      | none => simp [lacksVariance]
      | some variance =>
          simp [lacksVariance, FloatValue.anyNonPositive]

theorem hasNaN_iff {n : Nat} (vector : Fin n → FloatValue) :
    FloatValue.hasNaN vector = true ↔ none ∈ List.ofFn vector := by
  simp [FloatValue.hasNaN, List.mem_ofFn]

theorem any_hasNaN_iff {n : Nat} {vector : Option (Fin n → FloatValue)} :
    vector.any FloatValue.hasNaN = false ↔
      ∀ given, vector.map List.ofFn = some given → none ∉ given := by
  cases vector with
  | none => simp
  | some vector => simp [← hasNaN_iff]

theorem any_isNone_iff {scalar : Option FloatValue} :
    scalar.any (·.isNone) = false ↔ ∀ given, scalar.map ([·]) = some given → none ∉ given := by
  cases scalar with
  | none => simp
  | some scalar => cases scalar <;> simp

theorem isMeasurementNonEmpty_iff :
    isMeasurementNonEmpty measurement = true ↔ ∃ group, (measurement.value group).isSome = true := by
  constructor
  · intro nonEmpty
    simp only [isMeasurementNonEmpty, Bool.or_eq_true] at nonEmpty
    obtain (((given | given) | given) | given) | given := nonEmpty
    · exact ⟨.positionXy, by simpa [LocalPositionMeasurement.value] using given⟩
    · exact ⟨.positionZ, by simpa [LocalPositionMeasurement.value] using given⟩
    · exact ⟨.velocityXy, by simpa [LocalPositionMeasurement.value] using given⟩
    · exact ⟨.velocityZ, by simpa [LocalPositionMeasurement.value] using given⟩
    · exact ⟨.attitude, by simpa [LocalPositionMeasurement.value] using given⟩
  · intro ⟨group, given⟩
    cases group <;>
      simp_all [isMeasurementNonEmpty, LocalPositionMeasurement.value]

/-- A value that is given comes with a variance without a component that is not positive. -/
def VarianceGiven (measurement : LocalPositionMeasurement) (group : ValueGroup) : Prop :=
  (measurement.value group).isSome = true → ∃ variance, measurement.variance group = some variance ∧
    ∀ component ∈ variance, FloatValue.nonPositive component = false

theorem lacksVariance_vector {α : Type} {n : Nat} {value : Option α}
    {variance : Option (Fin n → FloatValue)} :
    lacksVariance value variance = false ↔
      (value.isSome = true → ∃ given, variance.map List.ofFn = some given ∧
        ∀ component ∈ given, FloatValue.nonPositive component = false) := by
  rw [lacksVariance_iff]
  cases variance <;> simp

theorem lacksVariance_scalar {α : Type} {value : Option α} {variance : Option FloatValue} :
    lacksVariance value (variance.map (![·])) = false ↔
      (value.isSome = true → ∃ given, variance.map ([·]) = some given ∧
        ∀ component ∈ given, FloatValue.nonPositive component = false) := by
  rw [lacksVariance_iff]
  cases variance <;> simp

theorem isVarianceValid_iff :
    isVarianceValid measurement = true ↔ ∀ group, VarianceGiven measurement group := by
  unfold isVarianceValid
  simp only [ite_false_iff, lacksVariance_scalar, and_true]
  simp only [lacksVariance_vector]
  rw [ValueGroup.forall_group]
  simp [VarianceGiven, LocalPositionMeasurement.value, LocalPositionMeasurement.variance]

theorem isValueNotNAN_iff :
    isValueNotNAN measurement = true ↔
      ∀ group, (∀ value, measurement.value group = some value → none ∉ value) ∧
        ∀ variance, measurement.variance group = some variance → none ∉ variance := by
  unfold isValueNotNAN
  simp only [ite_false_iff, any_hasNaN_iff, any_isNone_iff, and_true]
  rw [ValueGroup.forall_group]
  simp only [LocalPositionMeasurement.value, LocalPositionMeasurement.variance, and_assoc]

theorem isFrameValid_iff :
    interface.isFrameValid measurement = true ↔
      ((measurement.value .positionXy).isSome = true ∨ (measurement.value .positionZ).isSome = true →
        interface.poseFrame ≠ VehicleOdometry.poseFrameUnknown) ∧
      ((measurement.value .velocityXy).isSome = true ∨ (measurement.value .velocityZ).isSome = true →
        interface.velocityFrame ≠ VehicleOdometry.velocityFrameUnknown) := by
  unfold isFrameValid
  simp only [ite_false_iff, and_true, LocalPositionMeasurement.value, Option.isSome_map,
    Bool.and_eq_false_imp, Bool.or_eq_true, beq_eq_false_iff_ne]

/-! ### What is published -/

/-- A message that can be formed from the measurement, and that is usable. -/
structure Formed (interface : LocalPositionMeasurementInterface)
    (measurement : LocalPositionMeasurement) (msg : AuxLocalPosition) : Prop where
  nonEmpty : ∃ group, msg.Has group
  provided : ∀ group, msg.Has group ↔ (measurement.value group).isSome = true
  same : ∀ group value, measurement.value group = some value → msg.value group = value
  positive : ∀ group, msg.Has group →
    ∀ component ∈ msg.variance group, ∃ value, component = some value ∧ 0 < value
  sameVariance : ∀ group variance, measurement.variance group = some variance →
    msg.variance group = variance
  noVariance : ∀ group, measurement.variance group = none →
    ∀ component ∈ msg.variance group, component = none
  frameKnown : ∀ group, msg.Has group → msg.FrameKnown group
  sameFrames : msg.poseFrame = interface.poseFrame ∧ msg.velocityFrame = interface.velocityFrame
  sampled : msg.timestampSample ≠ 0
  sameTime : microseconds measurement.timestampSample = some msg.timestampSample

theorem populate_value (group : ValueGroup) :
    (interface.populate measurement timestampSample).value group =
      (measurement.value group).getD (List.replicate group.valueSize none) := by
  cases group with
  | positionXy => cases given : measurement.positionXy <;>
      simp [populate, AuxLocalPosition.value, LocalPositionMeasurement.value, given,
        ValueGroup.valueSize, List.ofFn_succ]
  | positionZ => cases given : measurement.positionZ <;>
      simp [populate, AuxLocalPosition.value, LocalPositionMeasurement.value, given,
        ValueGroup.valueSize]
  | velocityXy => cases given : measurement.velocityXy <;>
      simp [populate, AuxLocalPosition.value, LocalPositionMeasurement.value, given,
        ValueGroup.valueSize, List.ofFn_succ]
  | velocityZ => cases given : measurement.velocityZ <;>
      simp [populate, AuxLocalPosition.value, LocalPositionMeasurement.value, given,
        ValueGroup.valueSize]
  | attitude => cases given : measurement.attitudeQuaternion <;>
      simp [populate, AuxLocalPosition.value, LocalPositionMeasurement.value, given,
        ValueGroup.valueSize, List.ofFn_succ]

theorem populate_variance (group : ValueGroup) :
    (interface.populate measurement timestampSample).variance group =
      (measurement.variance group).getD (List.replicate group.varianceSize none) := by
  cases group with
  | positionXy => cases given : measurement.positionXyVariance <;>
      simp [populate, AuxLocalPosition.variance, LocalPositionMeasurement.variance, given,
        ValueGroup.varianceSize, List.ofFn_succ]
  | positionZ => cases given : measurement.positionZVariance <;>
      simp [populate, AuxLocalPosition.variance, LocalPositionMeasurement.variance, given,
        ValueGroup.varianceSize]
  | velocityXy => cases given : measurement.velocityXyVariance <;>
      simp [populate, AuxLocalPosition.variance, LocalPositionMeasurement.variance, given,
        ValueGroup.varianceSize, List.ofFn_succ]
  | velocityZ => cases given : measurement.velocityZVariance <;>
      simp [populate, AuxLocalPosition.variance, LocalPositionMeasurement.variance, given,
        ValueGroup.varianceSize]
  | attitude => cases given : measurement.attitudeVariance <;>
      simp [populate, AuxLocalPosition.variance, LocalPositionMeasurement.variance, given,
        ValueGroup.varianceSize, List.ofFn_succ]

/-- The measurement passes the checks of `update`. -/
def accepts (interface : LocalPositionMeasurementInterface)
    (measurement : LocalPositionMeasurement) : Prop :=
  isMeasurementNonEmpty measurement = true ∧ isVarianceValid measurement = true ∧
    interface.isFrameValid measurement = true ∧ isValueNotNAN measurement = true ∧
    measurement.timestampSample.toInt ≠ 0

theorem update_of_accepts (accepted : interface.accepts measurement) :
    interface.update measurement =
      match microseconds measurement.timestampSample with
      | none => .undefined
      | some timestampSample => .publishes (interface.populate measurement timestampSample) := by
  obtain ⟨nonEmpty, variance, frame, value, timestamp⟩ := accepted
  cases converted : microseconds measurement.timestampSample with
  | none => simp [update, nonEmpty, variance, frame, value, timestamp, converted]
  | some timestampSample => simp [update, nonEmpty, variance, frame, value, timestamp, converted]

theorem update_of_not_accepts (refused : ¬ interface.accepts measurement) :
    ∃ error, interface.update measurement = .throws error := by
  unfold update invalidArgument
  split
  · exact ⟨_, rfl⟩
  · split
    · exact ⟨_, rfl⟩
    · split
      · exact ⟨_, rfl⟩
      · split
        · exact ⟨_, rfl⟩
        · split
          · exact ⟨_, rfl⟩
          · refine absurd ?_ refused
            simp_all [accepts]

theorem isSome_value_attitude :
    (measurement.value .attitude).isSome = measurement.attitudeQuaternion.isSome := by
  simp [LocalPositionMeasurement.value]

theorem exists_mem_variance (msg : AuxLocalPosition) (group : ValueGroup) :
    ∃ component, component ∈ msg.variance group := by
  cases group <;> simp [AuxLocalPosition.variance, List.ofFn_succ]

/-- What can be formed and has no variance with NAN passes the checks. -/
theorem accepts_of_formed (formed : Formed interface measurement msg)
    (noNaN : ∀ group variance, measurement.variance group = some variance → none ∉ variance) :
    interface.accepts measurement := by
  have given : ∀ group, (measurement.value group).isSome = true → msg.Has group :=
    fun group isSome => (formed.provided group).mpr isSome
  refine ⟨?_, ?_, ?_, ?_, ?_⟩
  · obtain ⟨group, has⟩ := formed.nonEmpty
    exact isMeasurementNonEmpty_iff.mpr ⟨group, (formed.provided group).mp has⟩
  · refine isVarianceValid_iff.mpr fun group isSome => ?_
    have positive := formed.positive group (given group isSome)
    cases variance : measurement.variance group with
    | none =>
        obtain ⟨component, member⟩ := exists_mem_variance msg group
        obtain ⟨value, isValue, -⟩ := positive component member
        simp [formed.noVariance group variance component member] at isValue
    | some variance' =>
        refine ⟨variance', rfl, fun component member => ?_⟩
        rw [formed.sameVariance group variance' variance] at positive
        obtain ⟨value, rfl, above⟩ := positive component member
        simpa [FloatValue.nonPositive, Rat.not_le] using above
  · rw [isFrameValid_iff]
    obtain ⟨samePose, sameVelocity⟩ := formed.sameFrames
    rw [← samePose, ← sameVelocity]
    refine ⟨fun isSome => ?_, fun isSome => ?_⟩
    · cases isSome with
      | inl isSome => exact formed.frameKnown .positionXy (given _ isSome)
      | inr isSome => exact formed.frameKnown .positionZ (given _ isSome)
    · cases isSome with
      | inl isSome => exact formed.frameKnown .velocityXy (given _ isSome)
      | inr isSome => exact formed.frameKnown .velocityZ (given _ isSome)
  · refine isValueNotNAN_iff.mpr fun group => ⟨fun value isValue => ?_, noNaN group⟩
    have has := given group (by simp [isValue])
    exact formed.same group value isValue ▸ has
  · have late := microseconds_iff.mp ⟨_, formed.sameTime, formed.sampled⟩
    omega

/-- The message is as it should be if the checks passed that `update` makes and the two that it
does not make. -/
theorem formed_populate (accepted : interface.accepts measurement)
    (attitude : measurement.attitudeQuaternion = none ∨
      interface.poseFrame ≠ VehicleOdometry.poseFrameUnknown)
    (sampled : timestampSample ≠ 0)
    (sameTime : microseconds measurement.timestampSample = some timestampSample) :
    Formed interface measurement (interface.populate measurement timestampSample) := by
  obtain ⟨nonEmpty, variance, frame, value, -⟩ := accepted
  rw [isMeasurementNonEmpty_iff] at nonEmpty
  rw [isVarianceValid_iff] at variance
  rw [isFrameValid_iff] at frame
  rw [isValueNotNAN_iff] at value
  have provided : ∀ group, (interface.populate measurement timestampSample).Has group ↔
      (measurement.value group).isSome = true := by
    intro group
    unfold AuxLocalPosition.Has
    rw [populate_value]
    cases given : measurement.value group with
    | none => simpa using Nat.pos_iff_ne_zero.mp group.valueSize_pos
    | some value' => simpa using (value group).1 value' given
  constructor
  · obtain ⟨group, isSome⟩ := nonEmpty
    exact ⟨group, (provided group).mpr isSome⟩
  · exact provided
  · intro group value' isValue
    rw [populate_value, isValue]
    rfl
  · intro group has component member
    obtain ⟨variance', isVariance, positive⟩ := variance group ((provided group).mp has)
    rw [populate_variance, isVariance, Option.getD_some] at member
    have notNaN := (value group).2 variance' isVariance
    cases component with
    | none => exact absurd member notNaN
    | some value =>
        exact ⟨value, rfl, by simpa [FloatValue.nonPositive, Rat.not_le] using positive _ member⟩
  · intro group variance' isVariance
    rw [populate_variance, isVariance]
    rfl
  · intro group absent component member
    rw [populate_variance, absent] at member
    simpa using List.eq_of_mem_replicate member
  · intro group has
    have isSome := (provided group).mp has
    cases group with
    | positionXy => exact frame.1 (.inl isSome)
    | positionZ => exact frame.1 (.inr isSome)
    | velocityXy => exact frame.2 (.inl isSome)
    | velocityZ => exact frame.2 (.inr isSome)
    | attitude =>
        cases attitude with
        | inl absent => simp [isSome_value_attitude, absent] at isSome
        | inr known => exact known
  · exact ⟨rfl, rfl⟩
  · exact sampled
  · exact sameTime

/-- `update` publishes what is usable and throws where it cannot. -/
def Meets (interface : LocalPositionMeasurementInterface)
    (measurement : LocalPositionMeasurement) : Prop :=
  ((∃ error, interface.update measurement = .throws error) ∨
    ∃ msg, interface.update measurement = .publishes msg ∧ Formed interface measurement msg) ∧
  ((∃ error, interface.update measurement = .throws error) ↔
    (¬ ∃ msg, Formed interface measurement msg) ∨
      ∃ group variance, measurement.variance group = some variance ∧ none ∈ variance)

/-- What `update` accepts it ought to have checked. -/
theorem Meets.checked (meets : interface.Meets measurement)
    (accepted : interface.accepts measurement) :
    (measurement.attitudeQuaternion = none ∨
      interface.poseFrame ≠ VehicleOdometry.poseFrameUnknown) ∧
    1000 ≤ measurement.timestampSample.toInt := by
  have updated := update_of_accepts accepted
  obtain ⟨error, throws⟩ | ⟨msg, publishes, formed⟩ := meets.1
  · rw [throws] at updated
    split at updated <;> cases updated
  · constructor
    · cases given : measurement.attitudeQuaternion with
      | none => exact .inl rfl
      | some attitude =>
          have has := (formed.provided .attitude).mpr (by simp [isSome_value_attitude, given])
          exact .inr (formed.sameFrames.1 ▸ formed.frameKnown .attitude has)
    · exact microseconds_iff.mp ⟨_, formed.sameTime, formed.sampled⟩

/-- Two checks are missing: the frame of an attitude, and a timestamp that is zero in the unit of
the message. -/
theorem update_meets_iff (interface : LocalPositionMeasurementInterface)
    (measurement : LocalPositionMeasurement) :
    interface.Meets measurement ↔ (interface.accepts measurement →
      (measurement.attitudeQuaternion = none ∨
        interface.poseFrame ≠ VehicleOdometry.poseFrameUnknown) ∧
      1000 ≤ measurement.timestampSample.toInt) := by
  constructor
  · intro meets accepted
    exact meets.checked accepted
  · intro condition
    by_cases accepted : interface.accepts measurement
    · obtain ⟨attitude, late⟩ := condition accepted
      obtain ⟨timestampSample, sameTime, sampled⟩ := microseconds_iff.mpr late
      have formed := formed_populate accepted attitude sampled sameTime
      have publishes := update_of_accepts accepted
      rw [sameTime] at publishes
      refine ⟨.inr ⟨_, publishes, formed⟩, ?_⟩
      constructor
      · intro ⟨error, throws⟩
        simp [publishes] at throws
      · intro impossible
        obtain impossible | ⟨group, variance, given, isNaN⟩ := impossible
        · exact absurd ⟨_, formed⟩ impossible
        · exact absurd isNaN ((isValueNotNAN_iff.mp accepted.2.2.2.1 group).2 variance given)
    · have throws := update_of_not_accepts accepted
      refine ⟨.inl throws, fun _ => ?_, fun _ => throws⟩
      by_contra possible
      rw [not_or, not_not] at possible
      obtain ⟨⟨msg, formed⟩, noNaN⟩ := possible
      refine accepted (accepts_of_formed formed ?_)
      intro group variance given isNaN
      exact noNaN ⟨group, variance, given, isNaN⟩

/-- An attitude in an unknown frame. -/
def attitudeOnly : LocalPositionMeasurement :=
  { timestampSample := 1000000000
    attitudeQuaternion := some ![some 1, some 0, some 0, some 0]
    attitudeVariance := some ![some (1 / 10), some (1 / 10), some (1 / 10)] }

theorem update_publishes_unknown_frame :
    ¬ (constructed .unknown .localNed).Meets attitudeOnly := by
  intro meets
  have accepted : (constructed .unknown .localNed).accepts attitudeOnly := by
    unfold accepts
    decide +kernel
  have known := (meets.checked accepted).1
  revert known
  decide

end LocalPositionMeasurementInterface

end Px4Ros2
