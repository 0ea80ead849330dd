import Px4Ros2.Utils.Geodesic
import Mathlib.Algebra.Field.Defs
import Mathlib.Algebra.Order.Group.Abs

/-! Global positions and their image in the plane of the map projection, and distances, headings
and way points on the sphere. -/

set_option autoImplicit false

namespace Px4Ros2

/-- The floating point functions that positions are computed with. -/
structure SphericalMath (Number : Type) extends Trigonometry Number where
  /-- `180.0 / M_PI`. -/
  degPerRad : Number
  asin : Number → Number
  acos : Number → Number
  sqrt : Number → Number
  atan2 : Number → Number → Number
  wrapPi : Number → Number

/-- `Eigen::Vector2`: north and east, or the latitude and the longitude in degrees. -/
structure Vector2 (Number : Type) where
  x : Number
  y : Number

/-- `Eigen::Vector3`: with down, or with the altitude. -/
structure Vector3 (Number : Type) extends Vector2 Number where
  z : Number

variable {Number : Type} [Field Number] [LinearOrder Number] (math : SphericalMath Number)

namespace SphericalMath

def degToRad (degrees : Number) : Number := degrees * math.radPerDeg

def radToDeg (radians : Number) : Number := radians * math.degPerRad

end SphericalMath

/-- In metres. -/
def kRadiusOfEarth : Number := 6371000

/-- `std::clamp(value, -1.0, 1.0)`. -/
def clampToUnit (value : Number) : Number :=
  if value < -1 then -1 else if 1 < value then 1 else value

namespace MapProjectionImpl

variable (projection : MapProjectionImpl Number)

def globalToLocal (globalPosition : Vector2 Number) : Vector2 Number :=
  let latRad := math.degToRad globalPosition.x
  let lonRad := math.degToRad globalPosition.y
  let sinLat := math.sin latRad
  let cosLat := math.cos latRad
  let cosDLon := math.cos (lonRad - projection.refLon)
  let arg := clampToUnit (projection.refSinLat * sinLat + projection.refCosLat * cosLat * cosDLon)
  let c := math.acos arg
  let k := if 0 < |c| then c / math.sin c else 1
  { x := k * (projection.refCosLat * sinLat - projection.refSinLat * cosLat * cosDLon) *
      kRadiusOfEarth
    y := k * cosLat * math.sin (lonRad - projection.refLon) * kRadiusOfEarth }

def localToGlobal (localPosition : Vector2 Number) : Vector2 Number :=
  let xRad := localPosition.x / kRadiusOfEarth
  let yRad := localPosition.y / kRadiusOfEarth
  let c := math.sqrt (xRad * xRad + yRad * yRad)
  if 0 < |c| then
    let sinC := math.sin c
    let cosC := math.cos c
    let latRad := math.asin (cosC * projection.refSinLat + xRad * sinC * projection.refCosLat / c)
    let lonRad := projection.refLon + math.atan2 (yRad * sinC)
      (c * projection.refCosLat * cosC - xRad * projection.refSinLat * sinC)
    { x := math.radToDeg latRad, y := math.radToDeg lonRad }
  else { x := math.radToDeg projection.refLat, y := math.radToDeg projection.refLon }

/-- The overload for positions with an altitude. -/
def globalToLocal3 (globalPosition : Vector3 Number) : Vector3 Number :=
  { globalToLocal math projection globalPosition.toVector2 with
    z := projection.refAltAmsl - globalPosition.z }

/-- The overload for positions with a third component. -/
def localToGlobal3 (localPosition : Vector3 Number) : Vector3 Number :=
  { localToGlobal math projection localPosition.toVector2 with
    z := projection.refAltAmsl - localPosition.z }

end MapProjectionImpl

namespace MapProjection

variable (projection : MapProjectionImpl Number)

def globalToLocal (globalPosition : Vector2 Number) : Except String (Vector2 Number) := do
  assertInitalized projection
  return projection.globalToLocal math globalPosition

def globalToLocal3 (globalPosition : Vector3 Number) : Except String (Vector3 Number) := do
  assertInitalized projection
  return projection.globalToLocal3 math globalPosition

def localToGlobal (localPosition : Vector2 Number) : Except String (Vector2 Number) := do
  assertInitalized projection
  return projection.localToGlobal math localPosition

def localToGlobal3 (localPosition : Vector3 Number) : Except String (Vector3 Number) := do
  assertInitalized projection
  return projection.localToGlobal3 math localPosition

end MapProjection

def horizontalDistanceToGlobalPosition (now next : Vector2 Number) : Number :=
  let latNowRad := math.degToRad now.x
  let latNextRad := math.degToRad next.x
  let dLat := latNextRad - latNowRad
  let dLon := math.degToRad next.y - math.degToRad now.y
  let a := math.sin (dLat / (2 : Nat)) * math.sin (dLat / (2 : Nat)) +
    math.sin (dLon / (2 : Nat)) * math.sin (dLon / (2 : Nat)) * math.cos latNowRad *
      math.cos latNextRad
  let c := math.atan2 (math.sqrt a) (math.sqrt (1 - a))
  kRadiusOfEarth * (2 : Nat) * c

def distanceToGlobalPosition (now next : Vector3 Number) : Number :=
  let dxy := horizontalDistanceToGlobalPosition math now.toVector2 next.toVector2
  let dz := now.z - next.z
  math.sqrt (dxy * dxy + dz * dz)

def headingToGlobalPosition (now next : Vector2 Number) : Number :=
  let latNowRad := math.degToRad now.x
  let latNextRad := math.degToRad next.x
  let cosLatNext := math.cos latNextRad
  let dLon := math.degToRad (next.y - now.y)
  let y := math.sin dLon * cosLatNext
  let x := math.cos latNowRad * math.sin latNextRad -
    math.sin latNowRad * cosLatNext * math.cos dLon
  math.wrapPi (math.atan2 y x)

def vectorToGlobalPosition (now next : Vector2 Number) : Vector2 Number :=
  let latNowRad := math.degToRad now.x
  let latNextRad := math.degToRad next.x
  let dLon := math.degToRad next.y - math.degToRad now.y
  { x := kRadiusOfEarth * (math.cos latNowRad * math.sin latNextRad -
      math.sin latNowRad * math.cos latNextRad * math.cos dLon)
    y := kRadiusOfEarth * math.sin dLon * math.cos latNextRad }

def globalPositionFromHeadingAndDist (now : Vector2 Number) (heading dist : Number) :
    Vector2 Number :=
  let heading := math.wrapPi heading
  let radiusRatio := dist / kRadiusOfEarth
  let latNowRad := math.degToRad now.x
  let lonNowRad := math.degToRad now.y
  let latTargetRad := math.asin (math.sin latNowRad * math.cos radiusRatio +
    math.cos latNowRad * math.sin radiusRatio * math.cos heading)
  let lonTargetRad := lonNowRad +
    math.atan2 (math.sin heading * math.sin radiusRatio * math.cos latNowRad)
      (math.cos radiusRatio - math.sin latNowRad * math.sin latTargetRad)
  { x := math.radToDeg latTargetRad, y := math.radToDeg lonTargetRad }

def globalPositionFromLineAndDist (lineStart lineEnd : Vector2 Number) (distFromStart : Number) :
    Vector2 Number :=
  globalPositionFromHeadingAndDist math lineStart
    (headingToGlobalPosition math lineStart lineEnd) distFromStart

end Px4Ros2
