import Px4Ros2.Lib.Rotation
import Px4Ros2.Navigation.Timestamp
import Mathlib.Data.Fin.VecNotation
import Mathlib.Data.Fintype.Basic
import Mathlib.Data.Rat.Defs

/-! `LocalPositionMeasurementInterface`: position, velocity and attitude for the estimator. -/

set_option autoImplicit false

namespace Px4Ros2

/-- A `float`; `none` is NAN. -/
abbrev FloatValue := Option Rat

namespace FloatValue

def hasNaN {n : Nat} (vector : Fin n → FloatValue) : Bool := decide (∃ i, vector i = none)

/-- A comparison with NAN is false. -/
def nonPositive : FloatValue → Bool
  | some value => decide (value ≤ 0)
  | none => false

def anyNonPositive {n : Nat} (vector : Fin n → FloatValue) : Bool :=
  decide (∃ i, nonPositive (vector i) = true)

end FloatValue

namespace VehicleOdometry

def poseFrameUnknown : UInt8 := 0
def poseFrameNed : UInt8 := 1
def poseFrameFrd : UInt8 := 2
def velocityFrameUnknown : UInt8 := 0
def velocityFrameNed : UInt8 := 1
def velocityFrameFrd : UInt8 := 2
def velocityFrameBodyFrd : UInt8 := 3

end VehicleOdometry

inductive PoseFrame where
  | unknown
  | localNed
  | localFrd
deriving DecidableEq, Repr

inductive VelocityFrame where
  | unknown
  | localNed
  | localFrd
  | bodyFrd
deriving DecidableEq, Repr

def poseFrameToMessageFrame : PoseFrame → UInt8
  | .unknown => VehicleOdometry.poseFrameUnknown
  | .localNed => VehicleOdometry.poseFrameNed
  | .localFrd => VehicleOdometry.poseFrameFrd

def velocityFrameToMessageFrame : VelocityFrame → UInt8
  | .unknown => VehicleOdometry.velocityFrameUnknown
  | .localNed => VehicleOdometry.velocityFrameNed
  | .localFrd => VehicleOdometry.velocityFrameFrd
  | .bodyFrd => VehicleOdometry.velocityFrameBodyFrd

structure AuxLocalPosition where
  timestampSample : UInt64
  poseFrame : UInt8
  position : Fin 3 → FloatValue
  positionVariance : Fin 3 → FloatValue
  /-- `w`, `x`, `y`, `z`. -/
  q : Fin 4 → FloatValue
  orientationVariance : Fin 3 → FloatValue
  velocityFrame : UInt8
  velocity : Fin 3 → FloatValue
  velocityVariance : Fin 3 → FloatValue
  angularVelocity : Fin 3 → FloatValue
deriving DecidableEq

structure LocalPositionMeasurement where
  /-- In nanoseconds. -/
  timestampSample : Int64
  positionXy : Option (Fin 2 → FloatValue) := none
  positionXyVariance : Option (Fin 2 → FloatValue) := none
  positionZ : Option FloatValue := none
  positionZVariance : Option FloatValue := none
  velocityXy : Option (Fin 2 → FloatValue) := none
  velocityXyVariance : Option (Fin 2 → FloatValue) := none
  velocityZ : Option FloatValue := none
  velocityZVariance : Option FloatValue := none
  /-- `w`, `x`, `y`, `z`. -/
  attitudeQuaternion : Option (Fin 4 → FloatValue) := none
  attitudeVariance : Option (Fin 3 → FloatValue) := none

structure LocalPositionMeasurementInterface where
  poseFrame : UInt8
  velocityFrame : UInt8
deriving DecidableEq, Repr

namespace LocalPositionMeasurementInterface

def constructed (poseFrame : PoseFrame) (velocityFrame : VelocityFrame) :
    LocalPositionMeasurementInterface :=
  ⟨poseFrameToMessageFrame poseFrame, velocityFrameToMessageFrame velocityFrame⟩

def isMeasurementNonEmpty (measurement : LocalPositionMeasurement) : Bool :=
  measurement.positionXy.isSome || measurement.positionZ.isSome ||
    measurement.velocityXy.isSome || measurement.velocityZ.isSome ||
    measurement.attitudeQuaternion.isSome

/-- A value without a variance, or with one that is not positive. -/
def lacksVariance {α : Type} {n : Nat} (value : Option α) (variance : Option (Fin n → FloatValue)) :
    Bool :=
  value.isSome && (variance.isNone || variance.any FloatValue.anyNonPositive)

def isVarianceValid (measurement : LocalPositionMeasurement) : Bool :=
  if lacksVariance measurement.positionXy measurement.positionXyVariance then false
  else if lacksVariance measurement.positionZ (measurement.positionZVariance.map (![·])) then false
  else if lacksVariance measurement.velocityXy measurement.velocityXyVariance then false
  else if lacksVariance measurement.velocityZ (measurement.velocityZVariance.map (![·])) then false
  else if lacksVariance measurement.attitudeQuaternion measurement.attitudeVariance then false
  else true

def isFrameValid (interface : LocalPositionMeasurementInterface)
    (measurement : LocalPositionMeasurement) : Bool :=
  if (measurement.positionXy.isSome || measurement.positionZ.isSome) &&
      interface.poseFrame == VehicleOdometry.poseFrameUnknown then false
  else if (measurement.velocityXy.isSome || measurement.velocityZ.isSome) &&
      interface.velocityFrame == VehicleOdometry.velocityFrameUnknown then false
  else true

def isValueNotNAN (measurement : LocalPositionMeasurement) : Bool :=
  if measurement.positionXy.any FloatValue.hasNaN then false
  else if measurement.positionXyVariance.any FloatValue.hasNaN then false
  else if measurement.positionZ.any (·.isNone) then false
  else if measurement.positionZVariance.any (·.isNone) then false
  else if measurement.velocityXy.any FloatValue.hasNaN then false
  else if measurement.velocityXyVariance.any FloatValue.hasNaN then false
  else if measurement.velocityZ.any (·.isNone) then false
  else if measurement.velocityZVariance.any (·.isNone) then false
  else if measurement.attitudeQuaternion.any FloatValue.hasNaN then false
  else if measurement.attitudeVariance.any FloatValue.hasNaN then false
  else true

def populate (interface : LocalPositionMeasurementInterface)
    (measurement : LocalPositionMeasurement) (timestampSample : UInt64) : AuxLocalPosition :=
  let positionXy := measurement.positionXy.getD ![none, none]
  let positionXyVariance := measurement.positionXyVariance.getD ![none, none]
  let attitudeQuaternion := measurement.attitudeQuaternion.getD ![none, none, none, none]
  let attitudeVariance := measurement.attitudeVariance.getD ![none, none, none]
  let velocityXy := measurement.velocityXy.getD ![none, none]
  let velocityXyVariance := measurement.velocityXyVariance.getD ![none, none]
  { timestampSample
    poseFrame := interface.poseFrame
    position := ![positionXy 0, positionXy 1, measurement.positionZ.getD none]
    positionVariance :=
      ![positionXyVariance 0, positionXyVariance 1, measurement.positionZVariance.getD none]
    q := attitudeQuaternion
    orientationVariance := attitudeVariance
    velocityFrame := interface.velocityFrame
    velocity := ![velocityXy 0, velocityXy 1, measurement.velocityZ.getD none]
    velocityVariance :=
      ![velocityXyVariance 0, velocityXyVariance 1, measurement.velocityZVariance.getD none]
    angularVelocity := ![none, none, none] }

inductive Outcome where
  | throws (message : String)
  | publishes (message : AuxLocalPosition)
  /-- The timestamp has no conversion. -/
  | undefined

/-- The text of a `NavigationInterfaceInvalidArgument`. -/
def invalidArgument (message : String) : Outcome :=
  .throws ("PX4 ROS2 navigation interface: invalid argument: " ++ message)

def update (interface : LocalPositionMeasurementInterface)
    (measurement : LocalPositionMeasurement) : Outcome :=
  if !isMeasurementNonEmpty measurement then
    invalidArgument "Measurement values are all empty."
  else if !isVarianceValid measurement then
    invalidArgument "Measurement has an invalid variance value."
  else if !interface.isFrameValid measurement then
    invalidArgument "Measurement has an unknown reference frame."
  else if !isValueNotNAN measurement then
    invalidArgument "Measurement value contains a NAN."
  else if measurement.timestampSample.toInt == 0 then
    invalidArgument "Measurement timestamp sample is empty."
  else
    match microseconds measurement.timestampSample with
    | none => .undefined
    | some timestampSample => .publishes (interface.populate measurement timestampSample)

end LocalPositionMeasurementInterface

/-! ### What is published -/

/-- The values that come with a variance of their own. -/
inductive ValueGroup where
  | positionXy
  | positionZ
  | velocityXy
  | velocityZ
  | attitude
deriving DecidableEq, Repr

def LocalPositionMeasurement.value (measurement : LocalPositionMeasurement) :
    ValueGroup → Option (List FloatValue)
  | .positionXy => measurement.positionXy.map List.ofFn
  | .positionZ => measurement.positionZ.map ([·])
  | .velocityXy => measurement.velocityXy.map List.ofFn
  | .velocityZ => measurement.velocityZ.map ([·])
  | .attitude => measurement.attitudeQuaternion.map List.ofFn

def LocalPositionMeasurement.variance (measurement : LocalPositionMeasurement) :
    ValueGroup → Option (List FloatValue)
  | .positionXy => measurement.positionXyVariance.map List.ofFn
  | .positionZ => measurement.positionZVariance.map ([·])
  | .velocityXy => measurement.velocityXyVariance.map List.ofFn
  | .velocityZ => measurement.velocityZVariance.map ([·])
  | .attitude => measurement.attitudeVariance.map List.ofFn

namespace AuxLocalPosition

def value (msg : AuxLocalPosition) : ValueGroup → List FloatValue
  | .positionXy => [msg.position 0, msg.position 1]
  | .positionZ => [msg.position 2]
  | .velocityXy => [msg.velocity 0, msg.velocity 1]
  | .velocityZ => [msg.velocity 2]
  | .attitude => List.ofFn msg.q

def variance (msg : AuxLocalPosition) : ValueGroup → List FloatValue
  | .positionXy => [msg.positionVariance 0, msg.positionVariance 1]
  | .positionZ => [msg.positionVariance 2]
  | .velocityXy => [msg.velocityVariance 0, msg.velocityVariance 1]
  | .velocityZ => [msg.velocityVariance 2]
  | .attitude => List.ofFn msg.orientationVariance

def FrameKnown (msg : AuxLocalPosition) : ValueGroup → Prop
  | .positionXy | .positionZ | .attitude => msg.poseFrame ≠ VehicleOdometry.poseFrameUnknown
  | .velocityXy | .velocityZ => msg.velocityFrame ≠ VehicleOdometry.velocityFrameUnknown

/-- The group has a value. -/
def Has (msg : AuxLocalPosition) (group : ValueGroup) : Prop := none ∉ msg.value group

end AuxLocalPosition

end Px4Ros2
