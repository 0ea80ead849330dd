import Px4Ros2.Lib.EulerAngles
import Px4Ros2.Utils.EulerAngles
import Px4Ros2.Utils.MapProjectionProperties

/-! The conversions in exact arithmetic: roll, pitch and yaw turn about fixed axes, and converting
there and back gives the same angles, and the same attitude. -/

set_option autoImplicit false

namespace Px4Ros2

open Lib Quaternion Real

/-- The conversions over the real numbers. -/
noncomputable def realEuler : EulerMath ℝ := { realMath with mPi := π }

@[simp] theorem realEuler_sin : realEuler.sin = sin := rfl

@[simp] theorem realEuler_cos : realEuler.cos = cos := rfl

@[simp] theorem realEuler_asin : realEuler.asin = arcsin := rfl

@[simp] theorem realEuler_atan2 : realEuler.atan2 = atan2 := rfl

@[simp] theorem realEuler_mPi : realEuler.mPi = π := rfl

variable {q : Quaternion ℝ} {angle : ℝ} {axis v : Fin 3 → ℝ} {euler : Vector3 ℝ}

/-! ### Angles to attitudes -/

theorem cos_eq_half (angle : ℝ) : cos angle = 1 - 2 * sin (angle / 2) ^ 2 := by
  have double := cos_two_mul (angle / 2)
  have unit := sin_sq_add_cos_sq (angle / 2)
  rw [mul_div_cancel₀ angle two_ne_zero] at double
  linarith

theorem sin_eq_half (angle : ℝ) : sin angle = 2 * sin (angle / 2) * cos (angle / 2) := by
  have double := sin_two_mul (angle / 2)
  rwa [mul_div_cancel₀ angle two_ne_zero] at double

theorem normSq_angleAxis (unit : axis 0 ^ 2 + axis 1 ^ 2 + axis 2 ^ 2 = 1) :
    normSq (angleAxis realEuler angle axis) = 1 := by
  have half := sin_sq_add_cos_sq (angle / 2)
  rw [normSq_def']
  simp only [angleAxis, realEuler_sin, realEuler_cos, Nat.cast_ofNat]
  linear_combination sin (angle / 2) ^ 2 * unit + half

theorem rotate_angleAxis_x : rotate (angleAxis realEuler angle ![1, 0, 0]) v = aboutX angle v := by
  have cosine := cos_eq_half angle
  have sine := sin_eq_half angle
  funext index
  fin_cases index <;>
    simp [rotate, vec, angleAxis, aboutX, cross_apply, Matrix.vecHead, Matrix.vecTail, cosine,
      sine] <;>
    ring

theorem rotate_angleAxis_y : rotate (angleAxis realEuler angle ![0, 1, 0]) v = aboutY angle v := by
  have cosine := cos_eq_half angle
  have sine := sin_eq_half angle
  funext index
  fin_cases index <;>
    simp [rotate, vec, angleAxis, aboutY, cross_apply, Matrix.vecHead, Matrix.vecTail, cosine,
      sine] <;>
    ring

theorem rotate_angleAxis_z : rotate (angleAxis realEuler angle ![0, 0, 1]) v = aboutZ angle v := by
  have cosine := cos_eq_half angle
  have sine := sin_eq_half angle
  funext index
  fin_cases index <;>
    simp [rotate, vec, angleAxis, aboutZ, cross_apply, Matrix.vecHead, Matrix.vecTail, cosine,
      sine] <;>
    ring

theorem rotate_eulerRpyToQuaternion (euler : Vector3 ℝ) (v : Fin 3 → ℝ) :
    rotate (eulerRpyToQuaternion realEuler euler) v =
      aboutZ euler.z (aboutY euler.y (aboutX euler.x v)) := by
  have unitX : normSq (angleAxis realEuler euler.x ![1, 0, 0]) = 1 := normSq_angleAxis (by simp)
  have unitY : normSq (angleAxis realEuler euler.y ![0, 1, 0]) = 1 := normSq_angleAxis (by simp)
  have unitZ : normSq (angleAxis realEuler euler.z ![0, 0, 1]) = 1 := normSq_angleAxis (by simp)
  rw [eulerRpyToQuaternion, rotate_mul (normSq_mul unitZ unitY) unitX, rotate_mul unitZ unitY,
    rotate_angleAxis_x, rotate_angleAxis_y, rotate_angleAxis_z]

/-! ### The rotation matrix -/

theorem toRotationMatrix_mulVec (q : Quaternion ℝ) (v : Fin 3 → ℝ) :
    (toRotationMatrix q).mulVec v = rotate q v := by
  funext index
  fin_cases index <;>
    simp [toRotationMatrix, rotate, vec, cross_apply, Matrix.vecHead, Matrix.vecTail,
      Matrix.mulVec, dotProduct, Fin.sum_univ_three] <;>
    ring

theorem toRotationMatrix_eulerRpyToQuaternion (euler : Vector3 ℝ) :
    toRotationMatrix (eulerRpyToQuaternion realEuler euler) =
      rollPitchYaw euler.x euler.y euler.z := by
  refine Matrix.ext_iff_mulVec.mpr fun v => ?_
  rw [toRotationMatrix_mulVec, rotate_eulerRpyToQuaternion, rollPitchYaw_mulVec]

theorem isRotation_toRotationMatrix (unit : normSq q = 1) : IsRotation (toRotationMatrix q) := by
  rw [normSq_def'] at unit
  constructor <;> simp only [toRotationMatrix, Nat.cast_ofNat, Matrix.of_apply, Matrix.cons_val]
  · linear_combination 4 * (q.imJ ^ 2 + q.imK ^ 2) * unit
  · linear_combination 4 * (q.imI ^ 2 + q.imJ ^ 2) * unit
  · linear_combination 4 * (q.imJ ^ 2 + q.imK ^ 2) * unit
  · linear_combination -4 * q.imI * q.imK * unit
  · linear_combination -4 * q.imJ * q.imK * unit
  · linear_combination -4 * q.imI ^ 2 * unit
  · linear_combination -4 * q.imI * q.imJ * unit
  · linear_combination -4 * q.imJ ^ 2 * unit
  · linear_combination -4 * q.imJ * q.imK * unit

/-! ### There and back -/

theorem quaternionToEulerRpy_eq (q : Quaternion ℝ) :
    quaternionToEulerRpy realEuler q =
      if |arcsin (-toRotationMatrix q 2 0) - π / 2| < 1 / 1000 then
        ⟨⟨0, arcsin (-toRotationMatrix q 2 0)⟩,
          atan2 (toRotationMatrix q 1 2) (toRotationMatrix q 0 2)⟩
      else if |arcsin (-toRotationMatrix q 2 0) + π / 2| < 1 / 1000 then
        ⟨⟨0, arcsin (-toRotationMatrix q 2 0)⟩,
          atan2 (-toRotationMatrix q 1 2) (-toRotationMatrix q 0 2)⟩
      else
        ⟨⟨atan2 (toRotationMatrix q 2 1) (toRotationMatrix q 2 2),
          arcsin (-toRotationMatrix q 2 0)⟩,
          atan2 (toRotationMatrix q 1 0) (toRotationMatrix q 0 0)⟩ := by
  simp only [quaternionToEulerRpy, realEuler_asin, realEuler_atan2, realEuler_mPi,
    Nat.cast_ofNat]
  rfl

theorem pitch_quaternionToEulerRpy (q : Quaternion ℝ) :
    (quaternionToEulerRpy realEuler q).y = arcsin (-toRotationMatrix q 2 0) := by
  rw [quaternionToEulerRpy_eq]
  split_ifs <;> rfl

/-- Further than a thousandth from the vertical no angle is lost. -/
theorem angles_of_off (q : Quaternion ℝ)
    (off : |arcsin (-toRotationMatrix q 2 0)| + 1 / 1000 ≤ π / 2) :
    quaternionToEulerRpy realEuler q =
      ⟨⟨atan2 (toRotationMatrix q 2 1) (toRotationMatrix q 2 2),
        arcsin (-toRotationMatrix q 2 0)⟩,
        atan2 (toRotationMatrix q 1 0) (toRotationMatrix q 0 0)⟩ := by
  obtain ⟨least, most⟩ := abs_le.mp (le_sub_iff_add_le.mpr off)
  have above : ¬|arcsin (-toRotationMatrix q 2 0) - π / 2| < 1 / 1000 := by
    rw [abs_lt]
    rintro ⟨low, -⟩
    linarith
  have below : ¬|arcsin (-toRotationMatrix q 2 0) + π / 2| < 1 / 1000 := by
    rw [abs_lt]
    rintro ⟨-, high⟩
    linarith
  rw [quaternionToEulerRpy_eq, if_neg above, if_neg below]

theorem angles_of_up (q : Quaternion ℝ) (up : arcsin (-toRotationMatrix q 2 0) = π / 2) :
    quaternionToEulerRpy realEuler q =
      ⟨⟨0, π / 2⟩, atan2 (toRotationMatrix q 1 2) (toRotationMatrix q 0 2)⟩ := by
  have near : |arcsin (-toRotationMatrix q 2 0) - π / 2| < 1 / 1000 := by
    rw [up]
    norm_num
  rw [quaternionToEulerRpy_eq, if_pos near, up]

theorem angles_of_down (q : Quaternion ℝ) (down : arcsin (-toRotationMatrix q 2 0) = -(π / 2)) :
    quaternionToEulerRpy realEuler q =
      ⟨⟨0, -(π / 2)⟩, atan2 (-toRotationMatrix q 1 2) (-toRotationMatrix q 0 2)⟩ := by
  have above : ¬|arcsin (-toRotationMatrix q 2 0) - π / 2| < 1 / 1000 := by
    rw [down, abs_lt]
    rintro ⟨low, -⟩
    linarith [two_le_pi]
  have near : |arcsin (-toRotationMatrix q 2 0) + π / 2| < 1 / 1000 := by
    rw [down]
    norm_num
  rw [quaternionToEulerRpy_eq, if_neg above, if_pos near, down]

/-- Angles are found again, up to full turns of roll and yaw. -/
theorem angles_round_trip (euler : Vector3 ℝ) (off : |euler.y| + 1 / 1000 ≤ π / 2) :
    (∀ v, rotate (eulerRpyToQuaternion realEuler euler) v =
      aboutZ euler.z (aboutY euler.y (aboutX euler.x v))) ∧
      quaternionToEulerRpy realEuler (eulerRpyToQuaternion realEuler euler) =
        ⟨⟨toIocMod two_pi_pos (-π) euler.x, euler.y⟩, toIocMod two_pi_pos (-π) euler.z⟩ := by
  obtain ⟨least, most⟩ := abs_le.mp (le_sub_iff_add_le.mpr off)
  have positive : 0 < cos euler.y := cos_pos_of_mem_Ioo ⟨by linarith, by linarith⟩
  have matrix := toRotationMatrix_eulerRpyToQuaternion euler
  have pitch : arcsin (-toRotationMatrix (eulerRpyToQuaternion realEuler euler) 2 0) = euler.y := by
    rw [matrix]
    simp only [rollPitchYaw, Matrix.of_apply, Matrix.cons_val, neg_neg]
    exact arcsin_sin (by linarith) (by linarith)
  refine ⟨rotate_eulerRpyToQuaternion euler, ?_⟩
  rw [angles_of_off _ (by rwa [pitch]), pitch, matrix]
  simp only [rollPitchYaw, Matrix.of_apply, Matrix.cons_val]
  rw [mul_comm (sin euler.z), mul_comm (cos euler.z), atan2_polar positive, atan2_polar positive]

theorem angles_round_trip_climb :
    quaternionToEulerRpy realEuler (eulerRpyToQuaternion realEuler ⟨⟨1 / 2, 1 / 4⟩, 1⟩) =
      ⟨⟨toIocMod two_pi_pos (-π) (1 / 2), 1 / 4⟩, toIocMod two_pi_pos (-π) 1⟩ :=
  (angles_round_trip ⟨⟨1 / 2, 1 / 4⟩, 1⟩ (by
    rw [abs_of_pos (by norm_num)]
    linarith [two_le_pi])).2

theorem angles_in_range (q : Quaternion ℝ) :
    |(quaternionToEulerRpy realEuler q).x| ≤ π ∧ |(quaternionToEulerRpy realEuler q).y| ≤ π / 2 ∧
      |(quaternionToEulerRpy realEuler q).z| ≤ π := by
  refine ⟨?_, ?_, ?_⟩
  · rw [quaternionToEulerRpy_eq]
    split_ifs
    · simpa using pi_pos.le
    · simpa using pi_pos.le
    · exact Complex.abs_arg_le_pi _
  · rw [pitch_quaternionToEulerRpy, abs_le]
    exact ⟨neg_pi_div_two_le_arcsin _, arcsin_le_pi_div_two _⟩
  · rw [quaternionToEulerRpy_eq]
    split_ifs <;> exact Complex.abs_arg_le_pi _

/-- The attitude of a rotation's angles is the one they were taken from, on the vertical too. -/
theorem rotate_angles {q : Quaternion ℝ} (unit : normSq q = 1)
    (exact : |(quaternionToEulerRpy realEuler q).y| + 1 / 1000 ≤ π / 2 ∨
      |(quaternionToEulerRpy realEuler q).y| = π / 2) (v : Fin 3 → ℝ) :
    rotate (eulerRpyToQuaternion realEuler (quaternionToEulerRpy realEuler q)) v =
      rotate q v := by
  have rotation := isRotation_toRotationMatrix unit
  rw [pitch_quaternionToEulerRpy] at exact
  rw [← toRotationMatrix_mulVec, ← toRotationMatrix_mulVec,
    toRotationMatrix_eulerRpyToQuaternion]
  congr 1
  obtain off | vertical := exact
  · obtain ⟨least, most⟩ := abs_le.mp (le_sub_iff_add_le.mpr off)
    have positive : 0 < cos (arcsin (-toRotationMatrix q 2 0)) :=
      cos_pos_of_mem_Ioo ⟨by linarith, by linarith⟩
    rw [angles_of_off q off]
    exact (rotation.eq_rollPitchYaw positive.ne').symm
  · have sine := rotation.sin_pitch
    obtain up | down := eq_or_eq_neg_of_abs_eq vertical
    · rw [up, sin_pi_div_two] at sine
      rw [angles_of_up q up]
      exact (rotation.eq_of_up (by linarith)).symm
    · rw [down, sin_neg, sin_pi_div_two] at sine
      rw [angles_of_down q down]
      exact (rotation.eq_of_down (by linarith)).symm

/-- The angles of a rotation are in their ranges. Its attitude is found again from them, unless it
is nearly vertical. -/
theorem attitude_round_trip (q : Quaternion ℝ) (unit : normSq q = 1) :
    (|(quaternionToEulerRpy realEuler q).x| ≤ π ∧ |(quaternionToEulerRpy realEuler q).y| ≤ π / 2 ∧
      |(quaternionToEulerRpy realEuler q).z| ≤ π) ∧
    (|(quaternionToEulerRpy realEuler q).y| + 1 / 1000 ≤ π / 2 ∨
        |(quaternionToEulerRpy realEuler q).y| = π / 2 →
      ∀ v, rotate (eulerRpyToQuaternion realEuler (quaternionToEulerRpy realEuler q)) v =
        rotate q v) :=
  ⟨angles_in_range q, fun exact v => rotate_angles unit exact v⟩

/-- A roll to the right. -/
noncomputable def rolled : Quaternion ℝ := ⟨3 / 5, 4 / 5, 0, 0⟩

theorem attitude_round_trip_rolled :
    rotate (eulerRpyToQuaternion realEuler (quaternionToEulerRpy realEuler rolled)) ![0, 1, 0] =
      rotate rolled ![0, 1, 0] :=
  (attitude_round_trip rolled (by rw [normSq_def']; norm_num [rolled])).2 (by
    rw [pitch_quaternionToEulerRpy]
    left
    simp only [toRotationMatrix, rolled, Matrix.of_apply, Matrix.cons_val]
    norm_num
    linarith [two_le_pi]) _

end Px4Ros2
