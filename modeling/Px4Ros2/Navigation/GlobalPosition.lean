import Px4Ros2.Lib.Extended
import Px4Ros2.Navigation.Timestamp
import Mathlib.Analysis.Real.Sqrt

/-! `GlobalPositionMeasurementInterface`: latitude, longitude and altitude for the estimator.
Whatever calls are made, exactly the measurements that are not complete are refused, and the message
for one that is published says what the measurement says. -/

set_option autoImplicit false

namespace Px4Ros2

open Lib

structure AuxGlobalPosition (Number : Type) where
  timestampSample : UInt64
  id : UInt8
  source : UInt8
  latLonResetCounter : UInt8
  lat : Extended Number
  lon : Extended Number
  eph : Extended Number
  alt : Extended Number
  epv : Extended Number
deriving DecidableEq, Repr

structure GlobalPositionMeasurement (Number : Type) where
  /-- In nanoseconds. -/
  timestampSample : Int64 := 0
  latLon : Option (Extended Number × Extended Number) := none
  horizontalVariance : Option (Extended Number) := none
  altitudeMsl : Option (Extended Number) := none
  verticalVariance : Option (Extended Number) := none

structure GlobalPositionMeasurementInterface where
  id : UInt8
  source : UInt8
  latLonResetCounter : UInt8 := 0

namespace GlobalPositionMeasurementInterface

section Checks

variable {Number : Type} [Zero Number] [LE Number] [DecidableLE Number]

/-- `variance <= 0`, which is false of NAN. -/
def nonPositive : Extended Number → Bool
  | .number value => decide (value ≤ 0)
  | .infinity negative => negative
  | .nan => false

/-- A value without a variance, or with one that is not positive. -/
def lacksVariance {α : Type} (value : Option α) (variance : Option (Extended Number)) : Bool :=
  value.isSome && (variance.isNone || variance.any nonPositive)

def isMeasurementNonEmpty (measurement : GlobalPositionMeasurement Number) : Bool :=
  measurement.latLon.isSome || measurement.altitudeMsl.isSome

def isVarianceValid (measurement : GlobalPositionMeasurement Number) : Bool :=
  if lacksVariance measurement.latLon measurement.horizontalVariance then false
  else if lacksVariance measurement.altitudeMsl measurement.verticalVariance then false
  else true

def isValueNotNAN (measurement : GlobalPositionMeasurement Number) : Bool :=
  if measurement.latLon.any (fun latLon => latLon.1.isNaN || latLon.2.isNaN) then false
  else if measurement.horizontalVariance.any (·.isNaN) then false
  else if measurement.altitudeMsl.any (·.isNaN) then false
  else if measurement.verticalVariance.any (·.isNaN) then false
  else true

end Checks

inductive Outcome (Number : Type) where
  | throws (message : String)
  | publishes (message : AuxGlobalPosition Number)
  /-- The timestamp has no conversion. -/
  | undefined

/-- The text of a `NavigationInterfaceInvalidArgument`. -/
def invalidArgument {Number : Type} (message : String) : Outcome Number :=
  .throws ("PX4 ROS2 navigation interface: invalid argument: " ++ message)

inductive Call (Number : Type) where
  | update (measurement : GlobalPositionMeasurement Number)
  | reset

section Publishing

variable {Number : Type} [Zero Number] [LinearOrder Number] (sqrt : Number → Number)

/-- `sqrt`, which is NAN below zero. -/
def root : Extended Number → Extended Number
  | .number value => if value < 0 then .nan else .number (sqrt value)
  | .infinity negative => if negative then .nan else .infinity negative
  | .nan => .nan

def populate (interface : GlobalPositionMeasurementInterface)
    (measurement : GlobalPositionMeasurement Number) (timestampSample : UInt64) :
    AuxGlobalPosition Number :=
  let latLon := measurement.latLon.getD (.nan, .nan)
  { timestampSample
    id := interface.id
    source := interface.source
    latLonResetCounter := interface.latLonResetCounter
    lat := latLon.1
    lon := latLon.2
    eph := root sqrt (measurement.horizontalVariance.getD .nan)
    alt := measurement.altitudeMsl.getD .nan
    epv := root sqrt (measurement.verticalVariance.getD .nan) }

def update (interface : GlobalPositionMeasurementInterface)
    (measurement : GlobalPositionMeasurement Number) : Outcome Number :=
  if !isMeasurementNonEmpty measurement then
    invalidArgument "Measurement values are all empty."
  else if !isVarianceValid measurement then
    invalidArgument "Measurement has an invalid variance value."
  else if !isValueNotNAN measurement then
    invalidArgument "Measurement value contains a NAN."
  else if measurement.timestampSample.toInt == 0 then
    invalidArgument "Measurement timestamp sample is empty."
  else
    match microseconds measurement.timestampSample with
    | none => .undefined
    | some timestampSample => .publishes (populate sqrt interface measurement timestampSample)

def reset (interface : GlobalPositionMeasurementInterface) : GlobalPositionMeasurementInterface :=
  { interface with latLonResetCounter := interface.latLonResetCounter + 1 }

/-- The outcomes of the updates. -/
def run (interface : GlobalPositionMeasurementInterface) :
    List (Call Number) → GlobalPositionMeasurementInterface × List (Outcome Number)
  | [] => (interface, [])
  | .update measurement :: calls =>
      let (after, outcomes) := run interface calls
      (after, update sqrt interface measurement :: outcomes)
  | .reset :: calls => run interface.reset calls

end Publishing

def Call.isReset {Number : Type} : Call Number → Bool
  | .update _ => false
  | .reset => true

/-! ### Which measurements are published -/

variable {Number : Type} [Zero Number] [LinearOrder Number] {sqrt : Number → Number}
  {interface : GlobalPositionMeasurementInterface}
  {measurement : GlobalPositionMeasurement Number} {msg : AuxGlobalPosition Number}

/-- What the documentation asks of a measurement. -/
structure Complete (measurement : GlobalPositionMeasurement Number) : Prop where
  nonEmpty : measurement.latLon.isSome = true ∨ measurement.altitudeMsl.isSome = true
  latLon : ∀ lat lon, measurement.latLon = some (lat, lon) → lat ≠ .nan ∧ lon ≠ .nan
  altitude : measurement.altitudeMsl ≠ some .nan
  horizontal : measurement.latLon.isSome = true →
    ∃ variance, measurement.horizontalVariance = some variance ∧
      (Extended.number 0).less variance = true
  vertical : measurement.altitudeMsl.isSome = true →
    ∃ variance, measurement.verticalVariance = some variance ∧
      (Extended.number 0).less variance = true
  horizontalVariance : measurement.horizontalVariance ≠ some .nan
  verticalVariance : measurement.verticalVariance ≠ some .nan
  sampled : measurement.timestampSample.toInt ≠ 0

omit [Zero Number] [LinearOrder Number] in
theorem any_isNaN {value : Option (Extended Number)} :
    value.any (·.isNaN) = false ↔ value ≠ some .nan := by
  cases value with
  | none => simp
  | some value => cases value <;> simp [Extended.isNaN]

omit [Zero Number] [LinearOrder Number] in
theorem any_isNaN_latLon {latLon : Option (Extended Number × Extended Number)} :
    latLon.any (fun latLon => latLon.1.isNaN || latLon.2.isNaN) = false ↔
      ∀ lat lon, latLon = some (lat, lon) → lat ≠ .nan ∧ lon ≠ .nan := by
  obtain _ | ⟨lat, lon⟩ := latLon
  · simp
  · cases lat <;> cases lon <;> simp [Extended.isNaN]

/-- A variance that is no NAN. -/
theorem lacksVariance_iff {α : Type} {value : Option α} {variance : Option (Extended Number)}
    (number : variance ≠ some .nan) :
    lacksVariance value variance = false ↔
      (value.isSome = true →
        ∃ given, variance = some given ∧ (Extended.number 0).less given = true) := by
  cases value with
  | none => simp [lacksVariance]
  | some value =>
      cases variance with
      | none => simp [lacksVariance]
      | some variance =>
          cases variance with
          | nan => exact absurd rfl number
          | infinity negative => simp [lacksVariance, nonPositive, Extended.less]
          | number given => simp [lacksVariance, nonPositive, Extended.less]

theorem isVarianceValid_iff :
    isVarianceValid measurement = true ↔
      lacksVariance measurement.latLon measurement.horizontalVariance = false ∧
        lacksVariance measurement.altitudeMsl measurement.verticalVariance = false := by
  unfold isVarianceValid
  cases lacksVariance measurement.latLon measurement.horizontalVariance <;>
    cases lacksVariance measurement.altitudeMsl measurement.verticalVariance <;> simp

omit [Zero Number] [LinearOrder Number] in
theorem isValueNotNAN_iff :
    isValueNotNAN measurement = true ↔
      (∀ lat lon, measurement.latLon = some (lat, lon) → lat ≠ .nan ∧ lon ≠ .nan) ∧
        measurement.horizontalVariance ≠ some .nan ∧ measurement.altitudeMsl ≠ some .nan ∧
          measurement.verticalVariance ≠ some .nan := by
  rw [← any_isNaN_latLon, ← any_isNaN, ← any_isNaN, ← any_isNaN]
  unfold isValueNotNAN
  cases measurement.latLon.any (fun latLon => latLon.1.isNaN || latLon.2.isNaN) <;>
    cases measurement.horizontalVariance.any (·.isNaN) <;>
      cases measurement.altitudeMsl.any (·.isNaN) <;>
        cases measurement.verticalVariance.any (·.isNaN) <;> simp

/-- The checks of `update` ask for what is documented. -/
theorem complete_iff :
    Complete measurement ↔ isMeasurementNonEmpty measurement = true ∧
      isVarianceValid measurement = true ∧ isValueNotNAN measurement = true ∧
        measurement.timestampSample.toInt ≠ 0 := by
  rw [isVarianceValid_iff, isValueNotNAN_iff]
  constructor
  · rintro ⟨nonEmpty, latLon, altitude, horizontal, vertical, noNan, noNanEither, sampled⟩
    exact ⟨by simpa [isMeasurementNonEmpty] using nonEmpty,
      ⟨(lacksVariance_iff noNan).mpr horizontal, (lacksVariance_iff noNanEither).mpr vertical⟩,
      ⟨latLon, noNan, altitude, noNanEither⟩, sampled⟩
  · rintro ⟨nonEmpty, ⟨horizontal, vertical⟩, ⟨latLon, noNan, altitude, noNanEither⟩, sampled⟩
    exact ⟨by simpa [isMeasurementNonEmpty] using nonEmpty, latLon, altitude,
      (lacksVariance_iff noNan).mp horizontal, (lacksVariance_iff noNanEither).mp vertical,
      noNan, noNanEither, sampled⟩

theorem update_of_complete (complete : Complete measurement) :
    update sqrt interface measurement =
      match microseconds measurement.timestampSample with
      | none => .undefined
      | some timestampSample =>
          .publishes (populate sqrt interface measurement timestampSample) := by
  obtain ⟨nonEmpty, variance, value, sampled⟩ := complete_iff.mp complete
  cases converted : microseconds measurement.timestampSample <;>
    simp [update, nonEmpty, variance, value, sampled, converted]

theorem update_of_not_complete (incomplete : ¬ Complete measurement) :
    ∃ error, update sqrt interface measurement = .throws error := by
  rw [complete_iff] at incomplete
  unfold update invalidArgument
  split
  · exact ⟨_, rfl⟩
  · split
    · exact ⟨_, rfl⟩
    · split
      · exact ⟨_, rfl⟩
      · split
        · exact ⟨_, rfl⟩
        · refine absurd ?_ incomplete
          simp_all

/-- How an update of a complete measurement ends, and of any other. -/
theorem update_cases (sqrt : Number → Number) (interface : GlobalPositionMeasurementInterface)
    (measurement : GlobalPositionMeasurement Number) :
    ((∃ error, update sqrt interface measurement = .throws error) ↔ ¬ Complete measurement) ∧
      (update sqrt interface measurement = .undefined ↔
        Complete measurement ∧ measurement.timestampSample.toInt ≤ -1000) ∧
      ((∃ msg, update sqrt interface measurement = .publishes msg) ↔
        Complete measurement ∧ -1000 < measurement.timestampSample.toInt) := by
  by_cases complete : Complete measurement
  · have converts := @isSome_microseconds measurement.timestampSample
    rw [update_of_complete complete]
    cases converted : microseconds measurement.timestampSample with
    | none =>
        have early : measurement.timestampSample.toInt ≤ -1000 := by
          simpa [converted] using converts
        simp [complete, early]
    | some timestampSample =>
        have late : -1000 < measurement.timestampSample.toInt := by
          simpa [converted] using converts
        simp [complete, late]
  · obtain ⟨error, throws⟩ := @update_of_not_complete _ _ _ sqrt interface _ complete
    simp [throws, complete]

/-! ### Sequences of calls -/

theorem run_append (before after : List (Call Number)) :
    run sqrt interface (before ++ after) =
      ((run sqrt (run sqrt interface before).1 after).1,
        (run sqrt interface before).2 ++ (run sqrt (run sqrt interface before).1 after).2) := by
  induction before generalizing interface with
  | nil => rfl
  | cons call rest ih =>
      cases call with
      | update measurement => simp [run, ih]
      | reset => simp [run, ih]

/-- Only `reset` changes the object. -/
theorem run_interface (sqrt : Number → Number) (interface : GlobalPositionMeasurementInterface)
    (calls : List (Call Number)) :
    (run sqrt interface calls).1 = { interface with
      latLonResetCounter :=
        interface.latLonResetCounter + UInt8.ofNat (calls.countP Call.isReset) } := by
  induction calls generalizing interface with
  | nil => simp [run]
  | cons call rest ih =>
      cases call with
      | update measurement => simp [run, ih, Call.isReset]
      | reset =>
          simp only [run, ih, reset, List.countP_cons, Call.isReset, if_true,
            GlobalPositionMeasurementInterface.mk.injEq, true_and]
          rw [UInt8.ofNat_add, UInt8.add_assoc, UInt8.add_comm 1]
          rfl

/-! ### What the messages say -/

/-- A standard deviation, and the variance that it is of. -/
def IsDeviation : (deviation variance : Extended ℝ) → Prop
  | .number deviation, .number variance => 0 < deviation ∧ deviation ^ 2 = variance
  | .infinity false, .infinity false => True
  | _, _ => False

/-- A message tells a measurement, and how often the position was reset before. -/
structure Tells (id source : UInt8) (resets : Nat) (measurement : GlobalPositionMeasurement ℝ)
    (msg : AuxGlobalPosition ℝ) : Prop where
  sameSource : msg.id = id ∧ msg.source = source
  resetCounter : msg.latLonResetCounter.toNat = resets % 256
  sampled : microseconds measurement.timestampSample = some msg.timestampSample
  sameTime : SameTime measurement.timestampSample msg.timestampSample
  latLon : ∀ lat lon, lat ≠ .nan → lon ≠ .nan →
    (measurement.latLon = some (lat, lon) ↔ msg.lat = lat ∧ msg.lon = lon)
  altitude : ∀ alt, alt ≠ .nan → (measurement.altitudeMsl = some alt ↔ msg.alt = alt)
  horizontal : measurement.latLon.isSome = true →
    ∃ variance, measurement.horizontalVariance = some variance ∧ IsDeviation msg.eph variance
  vertical : measurement.altitudeMsl.isSome = true →
    ∃ variance, measurement.verticalVariance = some variance ∧ IsDeviation msg.epv variance

/-- The standard deviation of a given variance. -/
theorem root_given {given : Option (Extended ℝ)}
    (positive : ∃ variance, given = some variance ∧ (Extended.number 0).less variance = true) :
    ∃ variance, given = some variance ∧
      IsDeviation (root Real.sqrt (given.getD .nan)) variance := by
  obtain ⟨variance, rfl, positive⟩ := positive
  refine ⟨variance, rfl, ?_⟩
  cases variance with
  | nan => cases positive
  | infinity negative =>
      cases negative with
      | false => trivial
      | true => cases positive
  | number variance =>
      have above : 0 < variance := of_decide_eq_true positive
      rw [Option.getD_some, root, if_neg (not_lt.mpr above.le)]
      exact ⟨Real.sqrt_pos.mpr above, Real.sq_sqrt above.le⟩

theorem tells_populate {measurement : GlobalPositionMeasurement ℝ} {timestampSample : UInt64}
    {resets : Nat} (complete : Complete measurement)
    (counted : interface.latLonResetCounter = UInt8.ofNat resets)
    (converted : microseconds measurement.timestampSample = some timestampSample) :
    Tells interface.id interface.source resets measurement
      (populate Real.sqrt interface measurement timestampSample) where
  sameSource := ⟨rfl, rfl⟩
  resetCounter := by simp [populate, counted]
  sampled := converted
  sameTime := sameTime_of_microseconds converted
  latLon lat lon number _ := by
    obtain given | ⟨given, latLon⟩ := Option.eq_none_or_eq_some measurement.latLon
    · simp [populate, given, number.symm]
    · simp [populate, latLon, Prod.ext_iff]
  altitude alt number := by
    obtain given | ⟨given, altitude⟩ := Option.eq_none_or_eq_some measurement.altitudeMsl
    · simp [populate, given, number.symm]
    · simp [populate, altitude]
  horizontal given := root_given (complete.horizontal given)
  vertical given := root_given (complete.vertical given)

/-- Among all calls, a measurement that is not complete is refused and a complete one is published,
if its time can be converted, and then the message tells it. -/
theorem measurements_told (id source : UInt8) (before after : List (Call ℝ))
    (measurement : GlobalPositionMeasurement ℝ) :
    ∃ outcome later,
      (run Real.sqrt ⟨id, source, 0⟩ (before ++ .update measurement :: after)).2 =
        (run Real.sqrt ⟨id, source, 0⟩ before).2 ++ outcome :: later ∧
      ((∃ error, outcome = .throws error) ↔ ¬ Complete measurement) ∧
      (outcome = .undefined ↔
        Complete measurement ∧ measurement.timestampSample.toInt ≤ -1000) ∧
      ((∃ msg, outcome = .publishes msg) ↔
        Complete measurement ∧ -1000 < measurement.timestampSample.toInt) ∧
      ∀ msg, outcome = .publishes msg →
        Tells id source (before.countP Call.isReset) measurement msg := by
  have interface := run_interface Real.sqrt ⟨id, source, 0⟩ before
  obtain ⟨throws, undefined, publishes⟩ :=
    update_cases Real.sqrt (run Real.sqrt ⟨id, source, 0⟩ before).1 measurement
  refine ⟨_, _, by rw [run_append]; rfl, throws, undefined, publishes, ?_⟩
  intro msg published
  have complete := (publishes.mp ⟨msg, published⟩).1
  have counted : (run Real.sqrt ⟨id, source, 0⟩ before).1.latLonResetCounter =
      UInt8.ofNat (before.countP Call.isReset) := by
    rw [interface]
    exact UInt8.zero_add _
  rw [update_of_complete complete] at published
  split at published
  · cases published
  rename_i timestampSample converted
  obtain rfl := Outcome.publishes.inj published
  have told := tells_populate complete counted converted
  rw [show (run Real.sqrt ⟨id, source, 0⟩ before).1.id = id by rw [interface],
    show (run Real.sqrt ⟨id, source, 0⟩ before).1.source = source by rw [interface]] at told
  exact told

end GlobalPositionMeasurementInterface

end Px4Ros2
