import Px4Ros2.Lib.Rotation
import Px4Ros2.Lib.Wrapping
import Px4Ros2.Utils.FrameConversion
import Mathlib.Algebra.Order.Archimedean.Basic
import Mathlib.Data.Rat.Floor
import Mathlib.LinearAlgebra.Matrix.ToLin
import Mathlib.Analysis.Real.Sqrt

/-! Conversions of frames describe one change of frame, and wrapped angles are the ones that they
stand for. -/

set_option autoImplicit false

namespace Px4Ros2

open Lib Quaternion

/-! ### Attitudes -/

section Attitude

variable {R : Type} [CommRing R] {s : R} {q : Quaternion R} {v : Fin 3 → R}

theorem qNedToEnu_unit (half : 2 * s * s = 1) : normSq (qNedToEnu s) = 1 := by
  simp only [normSq_def', re_qNedToEnu, imI_qNedToEnu, imJ_qNedToEnu, imK_qNedToEnu]
  linear_combination half

theorem qFluToFrd_unit : normSq (qFluToFrd : Quaternion R) = 1 := by
  simp [normSq_def']

theorem rotate_qNedToEnu (half : 2 * s * s = 1) :
    rotate (qNedToEnu s) v = positionNedToEnu v := by
  funext index
  fin_cases index
  · simp [rotate, vec, positionNedToEnu, cross_apply, Matrix.vecHead, Matrix.vecTail]
    linear_combination (v 1 - v 0) * half
  · simp [rotate, vec, positionNedToEnu, cross_apply, Matrix.vecHead, Matrix.vecTail]
    linear_combination (v 0 - v 1) * half
  · simp [rotate, vec, positionNedToEnu, cross_apply, Matrix.vecHead, Matrix.vecTail]
    linear_combination (-2 * v 2) * half

theorem rotate_qFluToFrd : rotate (qFluToFrd : Quaternion R) v = frdToFlu v := by
  funext index
  fin_cases index
  · simp [rotate, vec, frdToFlu, cross_apply, Matrix.vecHead]
  · simp [rotate, vec, frdToFlu, cross_apply, Matrix.vecHead, Matrix.vecTail]
  · simp [rotate, vec, frdToFlu, cross_apply, Matrix.vecHead, Matrix.vecTail]

/-- Half a turn twice is the opposite quaternion. -/
theorem qNedToEnu_mul_self (half : 2 * s * s = 1) : qNedToEnu s * qNedToEnu s = -1 := by
  ext
  · simp
    linear_combination -half
  all_goals simp

theorem qFluToFrd_mul_self : (qFluToFrd : Quaternion R) * qFluToFrd = -1 := by
  ext <;> simp

/-- One conversion and then the other one. -/
theorem attitude_there_and_back (half : 2 * s * s = 1) :
    qNedToEnu s * (qNedToEnu s * q * qFluToFrd) * qFluToFrd = q := by
  calc qNedToEnu s * (qNedToEnu s * q * qFluToFrd) * qFluToFrd
      = qNedToEnu s * qNedToEnu s * q * (qFluToFrd * qFluToFrd) := by simp only [mul_assoc]
    _ = q := by rw [qNedToEnu_mul_self half, qFluToFrd_mul_self]; simp

theorem frdToFlu_frdToFlu : frdToFlu (frdToFlu v) = v := by
  funext index
  fin_cases index <;> simp [frdToFlu]

/-- The converted attitude rotates the converted vector as the attitude rotates the vector. -/
theorem rotate_converted (half : 2 * s * s = 1) (unit : normSq q = 1) :
    rotate (qNedToEnu s * q * qFluToFrd) (frdToFlu v) = positionNedToEnu (rotate q v) := by
  have world := qNedToEnu_unit half
  rw [rotate_mul (normSq_mul world unit) qFluToFrd_unit, rotate_mul world unit, rotate_qFluToFrd,
    frdToFlu_frdToFlu, rotate_qNedToEnu half]

/-- `positionNedToEnu` as a linear map. -/
def nedToEnu : (Fin 3 → R) →ₗ[R] (Fin 3 → R) where
  toFun := positionNedToEnu
  map_add' first second := by
    funext index
    fin_cases index <;> simp [positionNedToEnu, add_comm]
  map_smul' factor ned := by
    funext index
    fin_cases index <;> simp [positionNedToEnu]

theorem toMatrix_nedToEnu :
    LinearMap.toMatrix' (nedToEnu : (Fin 3 → R) →ₗ[R] (Fin 3 → R)) =
      !![0, 1, 0; 1, 0, 0; 0, 0, -1] := by
  ext row column
  fin_cases row <;> fin_cases column <;>
    simp [LinearMap.toMatrix'_apply, nedToEnu, positionNedToEnu]

/-- A covariance without correlations keeps none, with the converted variances. -/
theorem covariance_converted (variances : Fin 3 → R) :
    LinearMap.toMatrix' nedToEnu * Matrix.diagonal variances * (LinearMap.toMatrix' nedToEnu).transpose =
      Matrix.diagonal (varianceNedToEnu variances) := by
  rw [toMatrix_nedToEnu]
  ext row column
  fin_cases row <;> fin_cases column <;>
    simp [Matrix.mul_apply, Matrix.diagonal, Matrix.vecHead, Matrix.vecTail,
      varianceNedToEnu]

omit [CommRing R] in
theorem variances_there_and_back (variances : Fin 3 → R) :
    varianceEnuToNed (varianceNedToEnu variances) = variances ∧
      varianceNedToEnu (varianceEnuToNed variances) = variances := by
  constructor <;> funext index <;> fin_cases index <;> rfl

/-- The conversions of attitudes, of positions, of vectors of the body and of variances describe one
change of frame, in both directions. -/
theorem frame_conversions_commute (kHalfSqrt2 : R) (half : 2 * kHalfSqrt2 * kHalfSqrt2 = 1) :
    (∀ q : Quaternion R, normSq q = 1 → ∀ v,
      rotate (attitudeEnuToNed kHalfSqrt2 (attitudeNedToEnu kHalfSqrt2 q)) v = rotate q v ∧
      rotate (attitudeNedToEnu kHalfSqrt2 q) (frdToFlu v) = positionNedToEnu (rotate q v)) ∧
    (∀ q : Quaternion R, normSq q = 1 → ∀ v,
      rotate (attitudeNedToEnu kHalfSqrt2 (attitudeEnuToNed kHalfSqrt2 q)) v = rotate q v ∧
      rotate (attitudeEnuToNed kHalfSqrt2 q) (fluToFrd v) = positionEnuToNed (rotate q v)) ∧
    ∀ variances : Fin 3 → R,
      LinearMap.toMatrix' nedToEnu * Matrix.diagonal variances *
          (LinearMap.toMatrix' nedToEnu).transpose =
        Matrix.diagonal (varianceNedToEnu variances) := by
  refine ⟨fun q unit v => ⟨?_, rotate_converted half unit⟩,
    fun q unit v => ⟨?_, rotate_converted half unit⟩, covariance_converted⟩
  · rw [attitudeEnuToNed, attitudeNedToEnu, attitude_there_and_back half]
  · rw [attitudeEnuToNed, attitudeNedToEnu, attitude_there_and_back half]

theorem frame_conversions_commute_sqrt :
    2 * (Real.sqrt 2 / 2) * (Real.sqrt 2 / 2) = 1 ∧ ∀ v,
      rotate (attitudeNedToEnu (Real.sqrt 2 / 2) (ofVec ![0, 0, 1])) (frdToFlu v) =
        positionNedToEnu (rotate (ofVec ![0, 0, 1]) v) := by
  have half : 2 * (Real.sqrt 2 / 2) * (Real.sqrt 2 / 2) = 1 := by
    have square := Real.mul_self_sqrt (zero_le_two : (0 : ℝ) ≤ 2)
    linear_combination square / 2
  have unit : normSq (ofVec ![0, 0, 1] : Quaternion ℝ) = 1 := by simp [normSq_def']
  exact ⟨half, fun v => ((frame_conversions_commute _ half).1 _ unit v).2⟩

end Attitude

/-! ### Yaw -/

theorem two_mPi_pos : 0 < 2 * mPi := by norm_num [mPi]

/-- The angle in the range that stands for the same direction. -/
noncomputable def wrapped (value : Rat) : Rat := toIcoMod two_mPi_pos (-mPi) value

theorem wrapped_eq_iff {value other : Rat} :
    wrapped value = other ↔
      (-mPi ≤ other ∧ other < mPi) ∧ ∃ turns : ℤ, value = other + turns * (2 * mPi) := by
  have top : -mPi + 2 * mPi = mPi := by ring
  unfold wrapped
  rw [toIcoMod_eq_iff, Set.mem_Ico, top]
  simp only [zsmul_eq_mul]

theorem wrapped_spec (value : Rat) :
    (-mPi ≤ wrapped value ∧ wrapped value < mPi) ∧
      ∃ turns : ℤ, value = wrapped value + turns * (2 * mPi) :=
  wrapped_eq_iff.mp rfl

/-- Turning east to north and back does not depend on the turns that were left out. -/
theorem wrapped_yaw (value : Rat) : wrapped (mPi / 2 - wrapped (mPi / 2 - value)) = wrapped value := by
  obtain ⟨range, turns, same⟩ := wrapped_spec (mPi / 2 - value)
  have shifted : mPi / 2 - wrapped (mPi / 2 - value) = value + turns * (2 * mPi) := by
    linear_combination same
  obtain ⟨range', turns', same'⟩ := wrapped_spec value
  rw [shifted, wrapped_eq_iff]
  refine ⟨range', turns' + turns, ?_⟩
  push_cast
  linear_combination same'

/-- For a finite angle, the loops are those over numbers. -/
theorem wrapPi_eq_wrapLoops (rounds : Nat) (value : Rat) :
    wrapPi rounds (.finite value) = (wrapLoops (-mPi) (2 * mPi) rounds value).map .finite := by
  have top : -mPi + 2 * mPi = mPi := by ring
  have down (start : Rat) : whileLoop (fun angle : Angle => angle.atLeast mPi)
      (fun angle => angle.add (-(2 * mPi))) rounds (.finite start) =
        (whileLoop (fun value => decide (-mPi + 2 * mPi ≤ value)) (· - 2 * mPi) rounds start).map
          .finite :=
    whileLoop_map Angle.finite (fun value => by simp only [Angle.atLeast, top])
      fun value => by rw [Angle.add, sub_eq_add_neg]
  have up (start : Rat) : whileLoop (fun angle : Angle => angle.below (-mPi))
      (fun angle => angle.add (2 * mPi)) rounds (.finite start) =
        (whileLoop (fun value => decide (value < -mPi)) (· + 2 * mPi) rounds start).map .finite :=
    whileLoop_map Angle.finite (fun _ => rfl) fun _ => rfl
  unfold wrapPi wrapLoops
  rw [down]
  cases whileLoop (fun value => decide (-mPi + 2 * mPi ≤ value)) (· - 2 * mPi) rounds value with
  | none => rfl
  | some middle => exact up middle

theorem wrapPi_finite (value : Rat) :
    ∃ rounds, wrapPi rounds (.finite value) = some (.finite (wrapped value)) := by
  obtain ⟨rounds, ended⟩ := wrapLoops_ends two_mPi_pos value
  exact ⟨rounds, by rw [wrapPi_eq_wrapLoops, ended]; rfl⟩

/-- An infinite angle stays in one of the loops. -/
theorem wrapPi_infinite (rounds : Nat) (negative : Bool) :
    wrapPi rounds (.infinite negative) = none := by
  unfold wrapPi
  cases negative with
  | false =>
      have never := @whileLoop_never Angle (·.atLeast mPi) (·.add (-(2 * mPi))) rounds
        (.infinite false) (· = .infinite false) (by rintro _ rfl; rfl) (by rintro _ rfl; rfl) rfl
      rw [never]
      rfl
  | true =>
      have never := @whileLoop_never Angle (·.below (-mPi)) (·.add (2 * mPi)) rounds
        (.infinite true) (· = .infinite true) (by rintro _ rfl; rfl) (by rintro _ rfl; rfl) rfl
      cases rounds with
      | zero => rfl
      | succ rounds => exact never

theorem wrapPi_mono {rounds more : Nat} {angle result : Angle}
    (ended : wrapPi rounds angle = some result) (le : rounds ≤ more) :
    wrapPi more angle = some result := by
  unfold wrapPi at ended ⊢
  obtain ⟨middle, first, second⟩ := Option.bind_eq_some_iff.mp ended
  rw [whileLoop_mono first le]
  exact whileLoop_mono second le

/-- What is expected of `wrapPi` and of the conversions of yaw for a finite argument. -/
structure Wraps (value result : Rat) : Prop where
  returns : ∃ rounds, wrapPi rounds (.finite value) = some (.finite result)
  range : -mPi ≤ result ∧ result < mPi
  turns : ∃ turns : ℤ, value = result + turns * (2 * mPi)
  idempotent : ∃ rounds, wrapPi rounds (.finite result) = some (.finite result)
  yaw : ∃ rounds enu, yawNedToEnu rounds (.finite value) = some enu ∧
    yawEnuToNed rounds enu = some (.finite result)

theorem wraps_wrapped (value : Rat) : Wraps value (wrapped value) := by
  have self : wrapped (wrapped value) = wrapped value :=
    wrapped_eq_iff.mpr ⟨(wrapped_spec value).1, 0, by simp⟩
  obtain ⟨rounds, again⟩ := wrapPi_finite (wrapped value)
  obtain ⟨first, enu⟩ := wrapPi_finite (-value + mPi / 2)
  obtain ⟨second, ned⟩ := wrapPi_finite (-wrapped (-value + mPi / 2) + mPi / 2)
  have back : wrapped (-wrapped (-value + mPi / 2) + mPi / 2) = wrapped value := by
    simpa only [neg_add_eq_sub] using wrapped_yaw value
  rw [self] at again
  rw [back] at ned
  exact ⟨wrapPi_finite value, (wrapped_spec value).1, (wrapped_spec value).2, ⟨rounds, again⟩,
    max first second, _, wrapPi_mono enu (le_max_left _ _), wrapPi_mono ned (le_max_right _ _)⟩

/-- `wrapPi` ends, and is right, exactly for the finite arguments. -/
theorem wrapPi_correct_iff (angle : Angle) :
    ((∃ rounds result, wrapPi rounds angle = some result) ∧
      ∀ value, angle = .finite value → ∃ result, Wraps value result) ↔
        ∃ value, angle = .finite value := by
  constructor
  · rintro ⟨⟨rounds, result, ended⟩, _⟩
    cases angle with
    | finite value => exact ⟨value, rfl⟩
    | infinite negative => simp [wrapPi_infinite] at ended
  · rintro ⟨value, rfl⟩
    obtain ⟨rounds, ended⟩ := wrapPi_finite value
    exact ⟨⟨rounds, _, ended⟩, fun value _ => ⟨wrapped value, wraps_wrapped value⟩⟩

theorem wrapPi_infinite_never_ends :
    ¬ ∃ rounds result, wrapPi rounds (.infinite false) = some result := by
  rintro ⟨rounds, result, ended⟩
  simp [wrapPi_infinite] at ended

end Px4Ros2
