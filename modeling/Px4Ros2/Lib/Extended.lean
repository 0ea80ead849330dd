import Mathlib.Order.Lattice

/-! Floating point numbers in exact arithmetic, together with the infinities and NAN. -/

set_option autoImplicit false

namespace Lib

inductive Extended (Number : Type) where
  | nan
  | infinity (negative : Bool)
  | number (value : Number)
deriving DecidableEq, Repr

namespace Extended

variable {Number : Type}

instance : Coe Number (Extended Number) := ⟨number⟩

/-- A function that has no value at the infinities. -/
def map (function : Number → Number) : Extended Number → Extended Number
  | number value => number (function value)
  | _ => nan

def neg [Neg Number] : Extended Number → Extended Number
  | nan => nan
  | infinity negative => infinity !negative
  | number value => number (-value)

def add [Add Number] : Extended Number → Extended Number → Extended Number
  | number value, number other => number (value + other)
  | infinity negative, number _ => infinity negative
  | number _, infinity negative => infinity negative
  | infinity negative, infinity other => if negative = other then infinity negative else nan
  | _, _ => nan

def sub [Sub Number] : Extended Number → Extended Number → Extended Number
  | number value, number other => number (value - other)
  | infinity negative, number _ => infinity negative
  | number _, infinity negative => infinity !negative
  | infinity negative, infinity other => if negative = other then nan else infinity negative
  | _, _ => nan

/-- An infinity times zero is NAN. -/
def mul [Mul Number] [Zero Number] [LinearOrder Number] :
    Extended Number → Extended Number → Extended Number
  | number value, number other => number (value * other)
  | infinity negative, number value | number value, infinity negative =>
      if value = 0 then nan else infinity (negative != decide (value < 0))
  | infinity negative, infinity other => infinity (negative != other)
  | _, _ => nan

instance [Neg Number] : Neg (Extended Number) := ⟨neg⟩

instance [Add Number] : Add (Extended Number) := ⟨add⟩

instance [Sub Number] : Sub (Extended Number) := ⟨sub⟩

instance [Mul Number] [Zero Number] [LinearOrder Number] : Mul (Extended Number) := ⟨mul⟩

def isNaN : Extended Number → Bool
  | nan => true
  | _ => false

def isInfinite : Extended Number → Bool
  | infinity _ => true
  | _ => false

/-- A comparison with NAN is false. -/
def less [LT Number] [DecidableLT Number] : Extended Number → Extended Number → Bool
  | number value, number other => decide (value < other)
  | infinity negative, number _ => negative
  | number _, infinity negative => !negative
  | infinity negative, infinity other => negative && !other
  | _, _ => false

/-- `std::clamp`. -/
def clamp [LT Number] [DecidableLT Number] (value low high : Extended Number) : Extended Number :=
  if value.less low then low else if high.less value then high else value

variable {value other : Number}

@[simp] theorem number_add [Add Number] : number value + number other = number (value + other) :=
  rfl

@[simp] theorem number_sub [Sub Number] : number value - number other = number (value - other) :=
  rfl

@[simp] theorem number_mul [Mul Number] [Zero Number] [LinearOrder Number] :
    number value * number other = number (value * other) := rfl

@[simp] theorem neg_number [Neg Number] : -number value = number (-value) := rfl

@[simp] theorem map_number (function : Number → Number) :
    map function (number value) = number (function value) := rfl

/-- Numbers are clamped to the nearest number between the bounds. -/
theorem clamp_number [LinearOrder Number] (value : Number) {low high : Number}
    (ordered : low ≤ high) :
    clamp (number value) (number low) (number high) = number (max low (min high value)) := by
  by_cases below : value < low
  · have least : max low (min high value) = low :=
      max_eq_left ((min_le_right high value).trans below.le)
    simp [clamp, less, below, least]
  · have atLeast : low ≤ value := not_lt.mp below
    by_cases above : high < value
    · simp [clamp, less, below, above, min_eq_left above.le, max_eq_right ordered]
    · simp [clamp, less, below, above, min_eq_right (not_lt.mp above), max_eq_right atLeast]

end Extended

end Lib
