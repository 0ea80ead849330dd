import Px4Ros2.Utils.Geometry
import Px4Ros2.Lib.Rotation
import Mathlib.Algebra.Quaternion
import Mathlib.LinearAlgebra.CrossProduct
import Mathlib.LinearAlgebra.Matrix.Notation

/-! Conversions between frames: north, east, down (NED) and east, north, up (ENU) for the world,
front, right, down (FRD) and front, left, up (FLU) for the body. -/

set_option autoImplicit false

namespace Px4Ros2

/-- `M_PI / 2` less the yaw. -/
def yawFromEast (yaw : Angle) : Angle := yaw.neg.add (mPi / 2)

def yawNedToEnu (rounds : Nat) (yawNed : Angle) : Option Angle :=
  wrapPi rounds (yawFromEast yawNed)

def yawEnuToNed (rounds : Nat) (yawEnu : Angle) : Option Angle :=
  wrapPi rounds (yawFromEast yawEnu)

section Attitude

variable {R : Type} [CommRing R]

/-- Half a turn about the axis between the first two, with `kHalfSqrt2` for both. -/
def qNedToEnu (kHalfSqrt2 : R) : Quaternion R := ⟨0, kHalfSqrt2, kHalfSqrt2, 0⟩

/-- Half a turn about the first axis. -/
def qFluToFrd : Quaternion R := ⟨0, 1, 0, 0⟩

@[simp] theorem re_qNedToEnu (kHalfSqrt2 : R) : (qNedToEnu kHalfSqrt2).re = 0 := rfl

@[simp] theorem imI_qNedToEnu (kHalfSqrt2 : R) : (qNedToEnu kHalfSqrt2).imI = kHalfSqrt2 := rfl

@[simp] theorem imJ_qNedToEnu (kHalfSqrt2 : R) : (qNedToEnu kHalfSqrt2).imJ = kHalfSqrt2 := rfl

@[simp] theorem imK_qNedToEnu (kHalfSqrt2 : R) : (qNedToEnu kHalfSqrt2).imK = 0 := rfl

@[simp] theorem re_qFluToFrd : (qFluToFrd : Quaternion R).re = 0 := rfl

@[simp] theorem imI_qFluToFrd : (qFluToFrd : Quaternion R).imI = 1 := rfl

@[simp] theorem imJ_qFluToFrd : (qFluToFrd : Quaternion R).imJ = 0 := rfl

@[simp] theorem imK_qFluToFrd : (qFluToFrd : Quaternion R).imK = 0 := rfl

def attitudeNedToEnu (kHalfSqrt2 : R) (qNed : Quaternion R) : Quaternion R :=
  qNedToEnu kHalfSqrt2 * qNed * qFluToFrd

def attitudeEnuToNed (kHalfSqrt2 : R) (qEnu : Quaternion R) : Quaternion R :=
  qNedToEnu kHalfSqrt2 * qEnu * qFluToFrd

def positionNedToEnu (ned : Fin 3 → R) : Fin 3 → R := ![ned 1, ned 0, -ned 2]

def positionEnuToNed (enu : Fin 3 → R) : Fin 3 → R := ![enu 1, enu 0, -enu 2]

def frdToFlu (frd : Fin 3 → R) : Fin 3 → R := ![frd 0, -frd 1, -frd 2]

def fluToFrd (flu : Fin 3 → R) : Fin 3 → R := ![flu 0, -flu 1, -flu 2]

def varianceNedToEnu (varianceNed : Fin 3 → R) : Fin 3 → R :=
  ![varianceNed 1, varianceNed 0, varianceNed 2]

def varianceEnuToNed (varianceEnu : Fin 3 → R) : Fin 3 → R :=
  ![varianceEnu 1, varianceEnu 0, varianceEnu 2]

end Attitude

end Px4Ros2
