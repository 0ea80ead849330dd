import Mathlib.Analysis.SpecialFunctions.Complex.Arg
import Mathlib.Analysis.SpecialFunctions.Trigonometric.Inverse

/-! Points of a sphere, seen from a point of reference: how far north, east and up they lie. The
latitude of the reference is `reference`, the point has its own latitude and the longitude
`longitude` from there. -/

set_option autoImplicit false

namespace Lib

open Real

/-! ### The angle of a vector -/

/-- The angle of the vector `(x, y)`, in `(-π, π]`. -/
noncomputable def atan2 (y x : ℝ) : ℝ := Complex.arg ⟨x, y⟩

variable {x y factor angle : ℝ}

theorem norm_mk (x y : ℝ) : ‖(⟨x, y⟩ : ℂ)‖ = √(x ^ 2 + y ^ 2) := by
  rw [Complex.norm_eq_sqrt_sq_add_sq]

theorem norm_mul_cos_atan2 (x y : ℝ) : √(x ^ 2 + y ^ 2) * cos (atan2 y x) = x := by
  rw [← norm_mk, atan2]
  exact Complex.norm_mul_cos_arg ⟨x, y⟩

theorem norm_mul_sin_atan2 (x y : ℝ) : √(x ^ 2 + y ^ 2) * sin (atan2 y x) = y := by
  rw [← norm_mk, atan2]
  exact Complex.norm_mul_sin_arg ⟨x, y⟩

theorem atan2_mul (positive : 0 < factor) : atan2 (factor * y) (factor * x) = atan2 y x := by
  have scaled : (⟨factor * x, factor * y⟩ : ℂ) = factor * ⟨x, y⟩ := by
    apply Complex.ext <;> simp
  rw [atan2, scaled, Complex.arg_real_mul _ positive, atan2]

/-- The angle of a vector in polar coordinates, up to full turns. -/
theorem atan2_polar (positive : 0 < factor) (angle : ℝ) :
    atan2 (factor * sin angle) (factor * cos angle) = toIocMod two_pi_pos (-π) angle := by
  have polar : (⟨factor * cos angle, factor * sin angle⟩ : ℂ) =
      factor * (Complex.cos angle + Complex.sin angle * Complex.I) := by
    apply Complex.ext <;> simp [← Complex.ofReal_cos, ← Complex.ofReal_sin]
  rw [atan2, polar, Complex.arg_mul_cos_add_sin_mul_I_eq_toIocMod positive]

@[simp] theorem atan2_zero (nonneg : 0 ≤ x) : atan2 0 x = 0 :=
  Complex.arg_ofReal_of_nonneg nonneg

/-! ### North, east and up -/

noncomputable def north (reference latitude longitude : ℝ) : ℝ :=
  cos reference * sin latitude - sin reference * cos latitude * cos longitude

noncomputable def east (latitude longitude : ℝ) : ℝ := cos latitude * sin longitude

noncomputable def up (reference latitude longitude : ℝ) : ℝ :=
  sin reference * sin latitude + cos reference * cos latitude * cos longitude

variable {reference latitude longitude : ℝ}

theorem norm_sq_eq_one (reference latitude longitude : ℝ) :
    north reference latitude longitude ^ 2 + east latitude longitude ^ 2 +
      up reference latitude longitude ^ 2 = 1 := by
  have first := sin_sq_add_cos_sq reference
  have second := sin_sq_add_cos_sq latitude
  have third := sin_sq_add_cos_sq longitude
  calc north reference latitude longitude ^ 2 + east latitude longitude ^ 2 +
        up reference latitude longitude ^ 2
      = (sin reference ^ 2 + cos reference ^ 2) * sin latitude ^ 2 +
          (sin reference ^ 2 + cos reference ^ 2) * (cos latitude ^ 2 * cos longitude ^ 2) +
          cos latitude ^ 2 * sin longitude ^ 2 := by
        simp only [north, east, up]
        ring
    _ = sin latitude ^ 2 + cos latitude ^ 2 * (sin longitude ^ 2 + cos longitude ^ 2) := by
        rw [first]
        ring
    _ = 1 := by rw [third, mul_one, second]

theorem up_mem (reference latitude longitude : ℝ) :
    -1 ≤ up reference latitude longitude ∧ up reference latitude longitude ≤ 1 := by
  have unit := norm_sq_eq_one reference latitude longitude
  constructor <;> nlinarith [sq_nonneg (north reference latitude longitude),
    sq_nonneg (east latitude longitude)]

/-- The latitude of a point that lies north and up by so much. -/
theorem sin_latitude (reference latitude longitude : ℝ) :
    up reference latitude longitude * sin reference +
      north reference latitude longitude * cos reference = sin latitude := by
  have unit := sin_sq_add_cos_sq reference
  calc up reference latitude longitude * sin reference +
        north reference latitude longitude * cos reference
      = sin latitude * (sin reference ^ 2 + cos reference ^ 2) := by
        simp only [north, up]
        ring
    _ = sin latitude := by rw [unit, mul_one]

theorem cos_latitude_mul_cos_longitude (reference latitude longitude : ℝ) :
    up reference latitude longitude * cos reference -
      north reference latitude longitude * sin reference = cos latitude * cos longitude := by
  have unit := sin_sq_add_cos_sq reference
  calc up reference latitude longitude * cos reference -
        north reference latitude longitude * sin reference
      = cos latitude * cos longitude * (sin reference ^ 2 + cos reference ^ 2) := by
        simp only [north, up]
        ring
    _ = cos latitude * cos longitude := by rw [unit, mul_one]

/-! ### The angle between a point and the reference -/

/-- The angle between the reference and the point. -/
noncomputable def arc (reference latitude longitude : ℝ) : ℝ :=
  arccos (up reference latitude longitude)

theorem cos_arc (reference latitude longitude : ℝ) :
    cos (arc reference latitude longitude) = up reference latitude longitude := by
  obtain ⟨least, most⟩ := up_mem reference latitude longitude
  exact cos_arccos least most

theorem sin_arc_sq (reference latitude longitude : ℝ) :
    sin (arc reference latitude longitude) ^ 2 =
      north reference latitude longitude ^ 2 + east latitude longitude ^ 2 := by
  have unit := norm_sq_eq_one reference latitude longitude
  rw [sin_sq, cos_arc]
  linarith

theorem arc_nonneg (reference latitude longitude : ℝ) : 0 ≤ arc reference latitude longitude :=
  arccos_nonneg _

/-- The point is not the one on the other side of the sphere. -/
theorem sin_arc_pos (apart : up reference latitude longitude ≠ -1)
    (away : arc reference latitude longitude ≠ 0) :
    0 < sin (arc reference latitude longitude) := by
  refine sin_pos_of_pos_of_lt_pi ?_ ?_
  · exact lt_of_le_of_ne (arc_nonneg _ _ _) (Ne.symm away)
  · refine lt_of_le_of_ne (arccos_le_pi _) fun same => apart ?_
    rw [← cos_arc, same, cos_pi]

/-- A point at no distance is the reference. -/
theorem components_of_arc_zero (here : arc reference latitude longitude = 0) :
    north reference latitude longitude = 0 ∧ east latitude longitude = 0 ∧
      up reference latitude longitude = 1 := by
  have top : up reference latitude longitude = 1 := by rw [← cos_arc, here, cos_zero]
  have unit := norm_sq_eq_one reference latitude longitude
  rw [top] at unit
  refine ⟨?_, ?_, top⟩ <;> nlinarith [sq_nonneg (north reference latitude longitude),
    sq_nonneg (east latitude longitude)]

/-- The haversine of the angle. -/
theorem haversine (reference latitude longitude : ℝ) :
    sin ((latitude - reference) / 2) ^ 2 +
      sin (longitude / 2) ^ 2 * cos reference * cos latitude =
      (1 - up reference latitude longitude) / 2 := by
  have half (angle : ℝ) : sin (angle / 2) ^ 2 = (1 - cos angle) / 2 := by
    rw [sin_sq_eq_half_sub]
    ring_nf
  rw [half, half, cos_sub, up]
  ring

/-- The angle from its haversine. -/
theorem two_mul_atan2_haversine (reference latitude longitude : ℝ) :
    2 * atan2 (√((1 - up reference latitude longitude) / 2))
      (√(1 - (1 - up reference latitude longitude) / 2)) = arc reference latitude longitude := by
  obtain ⟨least, most⟩ := up_mem reference latitude longitude
  have unit := arc_nonneg reference latitude longitude
  have below : arc reference latitude longitude ≤ π := arccos_le_pi _
  have cosine : √(1 - (1 - up reference latitude longitude) / 2) =
      cos (arc reference latitude longitude / 2) := by
    rw [cos_half (by linarith) below, cos_arc]
    congr 1
    ring
  have sine : √((1 - up reference latitude longitude) / 2) =
      sin (arc reference latitude longitude / 2) := by
    rw [sin_half_eq_sqrt unit (by linarith), cos_arc]
  have polar := atan2_polar one_pos (arc reference latitude longitude / 2)
  rw [one_mul, one_mul] at polar
  rw [cosine, sine, polar, (toIocMod_eq_self two_pi_pos).mpr]
  · ring
  · constructor <;> linarith [pi_pos]

/-! ### Points at some angle from the reference -/

/-- North, east and up of the point that lies at an angle in the direction `(first, second)`. -/
theorem components_of_plane (reference : ℝ) {angle first second : ℝ} (positive : 0 < angle)
    (unit : first ^ 2 + second ^ 2 = angle ^ 2) :
    let latitude := arcsin (cos angle * sin reference +
      first * sin angle * cos reference / angle)
    let longitude := atan2 (second * sin angle)
      (angle * cos reference * cos angle - first * sin reference * sin angle)
    north reference latitude longitude = first * sin angle / angle ∧
      east latitude longitude = second * sin angle / angle ∧
      up reference latitude longitude = cos angle := by
  intro latitude longitude
  have ofReference := sin_sq_add_cos_sq reference
  have ofAngle := sin_sq_add_cos_sq angle
  have norm : (angle * cos reference * cos angle - first * sin reference * sin angle) ^ 2 +
      (second * sin angle) ^ 2 = angle ^ 2 * (1 - (cos angle * sin reference +
        first * sin angle * cos reference / angle) ^ 2) := by
    have expand : angle ^ 2 * (1 - (cos angle * sin reference +
        first * sin angle * cos reference / angle) ^ 2) =
        angle ^ 2 -
          (angle * cos angle * sin reference + first * sin angle * cos reference) ^ 2 := by
      field_simp
    rw [expand]
    have second' : second ^ 2 = angle ^ 2 - first ^ 2 := by linarith
    have cosine : cos reference ^ 2 = 1 - sin reference ^ 2 := by linarith
    have cosineAngle : cos angle ^ 2 = 1 - sin angle ^ 2 := by linarith
    ring_nf
    rw [second', cosine, cosineAngle]
    ring
  have bounded :
      (cos angle * sin reference + first * sin angle * cos reference / angle) ^ 2 ≤ 1 := by
    by_contra above
    have negative := mul_neg_of_pos_of_neg (pow_pos positive 2)
      (sub_neg_of_lt (not_le.mp above))
    nlinarith [sq_nonneg (angle * cos reference * cos angle - first * sin reference * sin angle),
      sq_nonneg (second * sin angle)]
  obtain ⟨least, most⟩ := abs_le.mp ((sq_le_one_iff_abs_le_one _).mp bounded)
  have sine : sin latitude = cos angle * sin reference +
      first * sin angle * cos reference / angle := sin_arcsin least most
  have root : √((angle * cos reference * cos angle - first * sin reference * sin angle) ^ 2 +
      (second * sin angle) ^ 2) = angle * cos latitude := by
    rw [norm, cos_arcsin, sqrt_mul (sq_nonneg _), sqrt_sq positive.le]
  have alongCos := norm_mul_cos_atan2
    (angle * cos reference * cos angle - first * sin reference * sin angle) (second * sin angle)
  have alongSin := norm_mul_sin_atan2
    (angle * cos reference * cos angle - first * sin reference * sin angle) (second * sin angle)
  rw [root] at alongCos alongSin
  have cosines : cos latitude * cos longitude =
      (angle * cos reference * cos angle - first * sin reference * sin angle) / angle := by
    rw [eq_div_iff positive.ne', ← alongCos]
    ring
  have sines : cos latitude * sin longitude = second * sin angle / angle := by
    rw [eq_div_iff positive.ne', ← alongSin]
    ring
  refine ⟨?_, sines, ?_⟩
  · rw [north, mul_assoc, cosines, sine]
    field_simp
    linear_combination first * sin angle * ofReference
  · rw [up, mul_assoc, cosines, sine]
    field_simp
    linear_combination angle * cos angle * ofReference

end Lib
