import Px4Ros2.Lib.Rotation
import Px4Ros2.Lib.Sphere
import Mathlib.LinearAlgebra.Matrix.Notation
import Mathlib.Tactic.FinCases

/-! Rotations about the fixed axes x, y and z, one after the other, and the angles of a rotation. -/

set_option autoImplicit false

namespace Lib

open Real

noncomputable def aboutX (angle : ℝ) (v : Fin 3 → ℝ) : Fin 3 → ℝ :=
  ![v 0, cos angle * v 1 - sin angle * v 2, sin angle * v 1 + cos angle * v 2]

noncomputable def aboutY (angle : ℝ) (v : Fin 3 → ℝ) : Fin 3 → ℝ :=
  ![cos angle * v 0 + sin angle * v 2, v 1, cos angle * v 2 - sin angle * v 0]

noncomputable def aboutZ (angle : ℝ) (v : Fin 3 → ℝ) : Fin 3 → ℝ :=
  ![cos angle * v 0 - sin angle * v 1, sin angle * v 0 + cos angle * v 1, v 2]

/-- Roll, pitch and yaw in this order. -/
noncomputable def rollPitchYaw (roll pitch yaw : ℝ) : Matrix (Fin 3) (Fin 3) ℝ :=
  !![cos yaw * cos pitch, cos yaw * sin pitch * sin roll - sin yaw * cos roll,
      cos yaw * sin pitch * cos roll + sin yaw * sin roll;
    sin yaw * cos pitch, sin yaw * sin pitch * sin roll + cos yaw * cos roll,
      sin yaw * sin pitch * cos roll - cos yaw * sin roll;
    -sin pitch, cos pitch * sin roll, cos pitch * cos roll]

theorem rollPitchYaw_mulVec (roll pitch yaw : ℝ) (v : Fin 3 → ℝ) :
    (rollPitchYaw roll pitch yaw).mulVec v = aboutZ yaw (aboutY pitch (aboutX roll v)) := by
  funext index
  fin_cases index <;>
    simp [rollPitchYaw, aboutX, aboutY, aboutZ, Matrix.mulVec, dotProduct, Fin.sum_univ_three] <;>
    ring

/-- What the rows of a rotation matrix satisfy, as far as its angles depend on it. -/
structure IsRotation (m : Matrix (Fin 3) (Fin 3) ℝ) : Prop where
  firstRow : m 0 0 ^ 2 + m 0 1 ^ 2 + m 0 2 ^ 2 = 1
  lastRow : m 2 0 ^ 2 + m 2 1 ^ 2 + m 2 2 ^ 2 = 1
  firstColumn : m 0 0 ^ 2 + m 1 0 ^ 2 + m 2 0 ^ 2 = 1
  firstLast : m 0 0 * m 2 0 + m 0 1 * m 2 1 + m 0 2 * m 2 2 = 0
  middleLast : m 1 0 * m 2 0 + m 1 1 * m 2 1 + m 1 2 * m 2 2 = 0
  crossFirst : m 0 0 = m 1 1 * m 2 2 - m 1 2 * m 2 1
  crossMiddleX : m 1 0 = m 2 1 * m 0 2 - m 2 2 * m 0 1
  crossMiddleY : m 1 1 = m 2 2 * m 0 0 - m 2 0 * m 0 2
  crossMiddleZ : m 1 2 = m 2 0 * m 0 1 - m 2 1 * m 0 0

namespace IsRotation

variable {m : Matrix (Fin 3) (Fin 3) ℝ}

theorem sin_pitch (rotation : IsRotation m) : sin (arcsin (-m 2 0)) = -m 2 0 := by
  have unit := rotation.lastRow
  apply sin_arcsin <;> nlinarith [sq_nonneg (m 2 1), sq_nonneg (m 2 2)]

theorem cos_pitch_sq (rotation : IsRotation m) :
    cos (arcsin (-m 2 0)) ^ 2 = 1 - m 2 0 ^ 2 := by
  have unit := sin_sq_add_cos_sq (arcsin (-m 2 0))
  rw [rotation.sin_pitch] at unit
  linarith [unit, neg_sq (m 2 0)]

theorem cos_pitch_nonneg : 0 ≤ cos (arcsin (-m 2 0)) := by
  rw [cos_arcsin]
  exact sqrt_nonneg _

/-- The pitch takes a vector of the length of its cosine from the other angles. -/
theorem polar (rotation : IsRotation m) {x y : ℝ} (length : x ^ 2 + y ^ 2 = 1 - m 2 0 ^ 2) :
    cos (arcsin (-m 2 0)) * cos (atan2 y x) = x ∧
      cos (arcsin (-m 2 0)) * sin (atan2 y x) = y := by
  have norm : √(x ^ 2 + y ^ 2) = cos (arcsin (-m 2 0)) := by
    rw [length, ← rotation.cos_pitch_sq]
    exact sqrt_sq cos_pitch_nonneg
  rw [← norm]
  exact ⟨norm_mul_cos_atan2 x y, norm_mul_sin_atan2 x y⟩

/-- Off the vertical, the last row tells the roll and the first column the yaw. -/
theorem eq_rollPitchYaw (rotation : IsRotation m) (off : cos (arcsin (-m 2 0)) ≠ 0) :
    m = rollPitchYaw (atan2 (m 2 1) (m 2 2)) (arcsin (-m 2 0)) (atan2 (m 1 0) (m 0 0)) := by
  obtain ⟨cosRoll, sinRoll⟩ := rotation.polar (x := m 2 2) (y := m 2 1)
    (by linarith [rotation.lastRow])
  obtain ⟨cosYaw, sinYaw⟩ := rotation.polar (x := m 0 0) (y := m 1 0)
    (by linarith [rotation.firstColumn])
  have sinPitch := rotation.sin_pitch
  have unit := sin_sq_add_cos_sq (atan2 (m 2 1) (m 2 2))
  have cross := rotation.crossMiddleX
  generalize atan2 (m 2 1) (m 2 2) = roll at *
  generalize atan2 (m 1 0) (m 0 0) = yaw at *
  generalize arcsin (-m 2 0) = pitch at *
  have first : sin roll * m 0 1 + cos roll * m 0 2 = sin pitch * cos yaw := by
    apply mul_left_cancel₀ off
    rw [sinPitch]
    linear_combination rotation.firstLast + m 0 1 * sinRoll + m 0 2 * cosRoll + m 2 0 * cosYaw
  have second : sin yaw = sin roll * m 0 2 - cos roll * m 0 1 := by
    apply mul_left_cancel₀ off
    linear_combination cross + sinYaw - m 0 2 * sinRoll + m 0 1 * cosRoll
  have third : sin roll * m 1 1 + cos roll * m 1 2 = sin pitch * sin yaw := by
    apply mul_left_cancel₀ off
    rw [sinPitch]
    linear_combination rotation.middleLast + m 1 1 * sinRoll + m 1 2 * cosRoll + m 2 0 * sinYaw
  have fourth : cos yaw = m 1 1 * cos roll - m 1 2 * sin roll := by
    apply mul_left_cancel₀ off
    linear_combination rotation.crossFirst + cosYaw - m 1 1 * cosRoll + m 1 2 * sinRoll
  have m01 : m 0 1 = cos yaw * sin pitch * sin roll - sin yaw * cos roll := by
    linear_combination sin roll * first + cos roll * second - m 0 1 * unit
  have m02 : m 0 2 = cos yaw * sin pitch * cos roll + sin yaw * sin roll := by
    linear_combination cos roll * first - sin roll * second - m 0 2 * unit
  have m11 : m 1 1 = sin yaw * sin pitch * sin roll + cos yaw * cos roll := by
    linear_combination sin roll * third - cos roll * fourth - m 1 1 * unit
  have m12 : m 1 2 = sin yaw * sin pitch * cos roll - cos yaw * sin roll := by
    linear_combination cos roll * third + sin roll * fourth - m 1 2 * unit
  ext i j
  fin_cases i <;> fin_cases j <;>
    simp [rollPitchYaw, m01, m02, m11, m12, sinPitch, ← cosRoll, ← sinRoll, ← cosYaw, ← sinYaw,
      mul_comm (cos pitch)]

/-- A vector of length one from its angle. -/
theorem unit_polar {x y : ℝ} (unit : x ^ 2 + y ^ 2 = 1) :
    cos (atan2 y x) = x ∧ sin (atan2 y x) = y := by
  have first := norm_mul_cos_atan2 x y
  have second := norm_mul_sin_atan2 x y
  rw [unit, sqrt_one, one_mul] at first second
  exact ⟨first, second⟩

theorem zero_of_vertical (rotation : IsRotation m) (vertical : m 2 0 ^ 2 = 1) :
    m 2 1 = 0 ∧ m 2 2 = 0 ∧ m 0 0 = 0 ∧ m 1 0 = 0 := by
  have last := rotation.lastRow
  have column := rotation.firstColumn
  rw [vertical] at last column
  refine ⟨?_, ?_, ?_, ?_⟩
  · nlinarith [sq_nonneg (m 2 1), sq_nonneg (m 2 2)]
  · nlinarith [sq_nonneg (m 2 1), sq_nonneg (m 2 2)]
  · nlinarith [sq_nonneg (m 0 0), sq_nonneg (m 1 0)]
  · nlinarith [sq_nonneg (m 0 0), sq_nonneg (m 1 0)]

/-- Pointing up, only the difference of yaw and roll is left. -/
theorem eq_of_up (rotation : IsRotation m) (up : m 2 0 = -1) :
    m = rollPitchYaw 0 (π / 2) (atan2 (m 1 2) (m 0 2)) := by
  obtain ⟨m21, m22, m00, m10⟩ := rotation.zero_of_vertical (by rw [up]; norm_num)
  have m11 : m 1 1 = m 0 2 := by rw [rotation.crossMiddleY, m22, up]; ring
  have m01 : m 0 1 = -m 1 2 := by rw [rotation.crossMiddleZ, m21, up]; ring
  have first := rotation.firstRow
  rw [m00, m01] at first
  obtain ⟨cosYaw, sinYaw⟩ := unit_polar (x := m 0 2) (y := m 1 2) (by linarith)
  ext i j
  fin_cases i <;> fin_cases j <;>
    simp [rollPitchYaw, cosYaw, sinYaw, up, m00, m01, m10, m11, m21, m22]

/-- Pointing down, only their sum is left. -/
theorem eq_of_down (rotation : IsRotation m) (down : m 2 0 = 1) :
    m = rollPitchYaw 0 (-(π / 2)) (atan2 (-m 1 2) (-m 0 2)) := by
  obtain ⟨m21, m22, m00, m10⟩ := rotation.zero_of_vertical (by rw [down]; norm_num)
  have m11 : m 1 1 = -m 0 2 := by rw [rotation.crossMiddleY, m22, down]; ring
  have m01 : m 0 1 = m 1 2 := by rw [rotation.crossMiddleZ, m21, down]; ring
  have first := rotation.firstRow
  rw [m00, m01] at first
  obtain ⟨cosYaw, sinYaw⟩ := unit_polar (x := -m 0 2) (y := -m 1 2) (by linarith)
  ext i j
  fin_cases i <;> fin_cases j <;>
    simp [rollPitchYaw, cosYaw, sinYaw, down, m00, m01, m10, m11, m21, m22]

end IsRotation

end Lib
