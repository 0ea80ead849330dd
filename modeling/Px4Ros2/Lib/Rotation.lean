import Mathlib.Algebra.Quaternion
import Mathlib.LinearAlgebra.CrossProduct
import Mathlib.Tactic.LinearCombination

/-! Rotation of vectors by unit quaternions. -/

set_option autoImplicit false

namespace Lib

open Quaternion

/-- A vector has an axis. -/
instance neZero_three : NeZero 3 := ⟨by decide⟩

variable {R : Type} [CommRing R]

/-- The vector part. -/
def vec (q : Quaternion R) : Fin 3 → R := ![q.imI, q.imJ, q.imK]

/-- A vector as a quaternion without scalar part. -/
def ofVec (v : Fin 3 → R) : Quaternion R := ⟨0, v 0, v 1, v 2⟩

/-- The rotation of a vector, with two cross products. -/
def rotate (q : Quaternion R) (v : Fin 3 → R) : Fin 3 → R :=
  let uv := crossProduct (vec q) v
  let uv := uv + uv
  v + q.re • uv + crossProduct (vec q) uv

variable {p q : Quaternion R} {v w : Fin 3 → R}

@[simp] theorem re_ofVec : (ofVec v).re = 0 := rfl

@[simp] theorem imI_ofVec : (ofVec v).imI = v 0 := rfl

@[simp] theorem imJ_ofVec : (ofVec v).imJ = v 1 := rfl

@[simp] theorem imK_ofVec : (ofVec v).imK = v 2 := rfl

theorem ofVec_injective (same : ofVec v = ofVec w) : v = w := by
  have parts := Quaternion.ext_iff.mp same
  funext index
  fin_cases index
  · exact parts.2.1
  · exact parts.2.2.1
  · exact parts.2.2.2

/-- For a unit quaternion it is the conjugation by it. -/
theorem ofVec_rotate (unit : normSq q = 1) : ofVec (rotate q v) = q * ofVec v * star q := by
  rw [normSq_def'] at unit
  ext
  · simp
    ring
  · simp [rotate, vec, cross_apply, Matrix.vecHead, Matrix.vecTail]
    linear_combination (-v 0) * unit
  · simp [rotate, vec, cross_apply, Matrix.vecHead, Matrix.vecTail]
    linear_combination (-v 1) * unit
  · simp [rotate, vec, cross_apply, Matrix.vecHead, Matrix.vecTail]
    linear_combination (-v 2) * unit

theorem normSq_mul (unitP : normSq p = 1) (unitQ : normSq q = 1) : normSq (p * q) = 1 := by
  rw [map_mul, unitP, unitQ, mul_one]

/-- A product rotates by its factors, the last one first. -/
theorem rotate_mul (unitP : normSq p = 1) (unitQ : normSq q = 1) :
    rotate (p * q) v = rotate p (rotate q v) := by
  apply ofVec_injective
  rw [ofVec_rotate (normSq_mul unitP unitQ), ofVec_rotate unitP, ofVec_rotate unitQ, star_mul]
  simp only [mul_assoc]

end Lib
