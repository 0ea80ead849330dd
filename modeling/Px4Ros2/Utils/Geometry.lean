import Mathlib.Data.Rat.Defs
import Px4Ros2.Lib.Loop

/-! Conversions of angles. -/

set_option autoImplicit false

namespace Px4Ros2

/-- `M_PI`. -/
def mPi : Rat := 884279719003555 / 281474976710656

def radToDeg (rad : Rat) : Rat := rad * (180 / mPi)

def degToRad (deg : Rat) : Rat := deg * (mPi / 180)

/-- A floating point number that is not NaN, without rounding. -/
inductive Angle where
  | finite (value : Rat)
  | infinite (negative : Bool)
deriving DecidableEq, Repr

namespace Angle

/-- Adding a finite number does not change an infinite one. -/
def add (angle : Angle) (value : Rat) : Angle :=
  match angle with
  | .finite other => .finite (other + value)
  | .infinite negative => .infinite negative

def neg : Angle → Angle
  | .finite value => .finite (-value)
  | .infinite negative => .infinite !negative

/-- `angle >= bound`. -/
def atLeast (angle : Angle) (bound : Rat) : Bool :=
  match angle with
  | .finite value => bound ≤ value
  | .infinite negative => !negative

/-- `angle < bound`. -/
def below (angle : Angle) (bound : Rat) : Bool :=
  match angle with
  | .finite value => value < bound
  | .infinite negative => negative

end Angle

/-- `wrapPi`, when each of its loops ends within a number of rounds. -/
def wrapPi (rounds : Nat) (angle : Angle) : Option Angle := do
  let angle ← Lib.whileLoop (·.atLeast mPi) (·.add (-(2 * mPi))) rounds angle
  Lib.whileLoop (·.below (-mPi)) (·.add (2 * mPi)) rounds angle

end Px4Ros2
