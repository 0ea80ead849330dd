import Px4Ros2.Lib.Rotation
import Px4Ros2.Utils.MapProjection

/-! Conversions between attitudes and roll, pitch and yaw angles. -/

set_option autoImplicit false

namespace Px4Ros2

open Quaternion

/-- The functions that the conversions call, and `M_PI`. -/
structure EulerMath (Number : Type) extends SphericalMath Number where
  mPi : Number

variable {Number : Type}

section Quaternions

variable [Field Number] (math : EulerMath Number)

/-- `Eigen::AngleAxis`, as a quaternion. -/
def angleAxis (angle : Number) (axis : Fin 3 → Number) : Quaternion Number :=
  ⟨math.cos (angle / (2 : Nat)), math.sin (angle / (2 : Nat)) * axis 0,
    math.sin (angle / (2 : Nat)) * axis 1, math.sin (angle / (2 : Nat)) * axis 2⟩

def eulerRpyToQuaternion (euler : Vector3 Number) : Quaternion Number :=
  angleAxis math euler.z ![0, 0, 1] * angleAxis math euler.y ![0, 1, 0] *
    angleAxis math euler.x ![1, 0, 0]

/-- `Eigen::Quaternion::toRotationMatrix`. -/
def toRotationMatrix (q : Quaternion Number) : Matrix (Fin 3) (Fin 3) Number :=
  let tx := (2 : Nat) * q.imI
  let ty := (2 : Nat) * q.imJ
  let tz := (2 : Nat) * q.imK
  !![1 - (ty * q.imJ + tz * q.imK), ty * q.imI - tz * q.re, tz * q.imI + ty * q.re;
    ty * q.imI + tz * q.re, 1 - (tx * q.imI + tz * q.imK), tz * q.imJ - tx * q.re;
    tz * q.imI - ty * q.re, tz * q.imJ + tx * q.re, 1 - (tx * q.imI + ty * q.imJ)]

end Quaternions

section Angles

variable [Field Number] [LinearOrder Number] (math : EulerMath Number)

/-- `quaternionToEulerRpy`. Close to the vertical the roll is taken to be zero. -/
def quaternionToEulerRpy (q : Quaternion Number) : Vector3 Number :=
  let dcm := toRotationMatrix q
  let pitch := math.asin (-dcm 2 0)
  if |pitch - math.mPi / (2 : Nat)| < 1 / (1000 : Nat) then
    ⟨⟨0, pitch⟩, math.atan2 (dcm 1 2) (dcm 0 2)⟩
  else if |pitch + math.mPi / (2 : Nat)| < 1 / (1000 : Nat) then
    ⟨⟨0, pitch⟩, math.atan2 (-dcm 1 2) (-dcm 0 2)⟩
  else
    ⟨⟨math.atan2 (dcm 2 1) (dcm 2 2), pitch⟩, math.atan2 (dcm 1 0) (dcm 0 0)⟩

end Angles

end Px4Ros2
