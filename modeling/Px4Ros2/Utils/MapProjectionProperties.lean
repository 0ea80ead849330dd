import Px4Ros2.Utils.MapProjection
import Px4Ros2.Lib.Rotation
import Px4Ros2.Lib.Sphere
import Px4Ros2.Lib.Wrapping

/-! The map projection in exact arithmetic: it can be inverted, it keeps distances and headings from
its reference, and the way point functions agree with it. -/

set_option autoImplicit false

namespace Px4Ros2

open Lib Real

/-- The functions as what they stand for, with `M_PI` for `π`. -/
noncomputable def realMath : SphericalMath ℝ where
  radPerDeg := π / 180
  degPerRad := 180 / π
  sin := sin
  cos := cos
  asin := arcsin
  acos := arccos
  sqrt := sqrt
  atan2 := atan2
  wrapPi := toIcoMod two_pi_pos (-π)

@[simp] theorem realMath_sin : realMath.sin = sin := rfl

@[simp] theorem realMath_cos : realMath.cos = cos := rfl

@[simp] theorem realMath_asin : realMath.asin = arcsin := rfl

@[simp] theorem realMath_acos : realMath.acos = arccos := rfl

@[simp] theorem realMath_sqrt (value : ℝ) : realMath.sqrt value = √value := rfl

@[simp] theorem realMath_atan2 : realMath.atan2 = atan2 := rfl

/-- The loops of `wrapPi` end with the wrapped angle. -/
theorem wrapPi_loops_end (angle : ℝ) :
    ∃ rounds, wrapLoops (-π) (2 * π) rounds angle = some (realMath.wrapPi angle) :=
  wrapLoops_ends two_pi_pos angle

@[simp] theorem realMath_radToDeg_degToRad (degrees : ℝ) :
    realMath.radToDeg (realMath.degToRad degrees) = degrees := by
  have positive := pi_pos
  simp only [SphericalMath.radToDeg, SphericalMath.degToRad, realMath]
  field_simp

@[simp] theorem realMath_degToRad_radToDeg (radians : ℝ) :
    realMath.degToRad (realMath.radToDeg radians) = radians := by
  have positive := pi_pos
  simp only [SphericalMath.radToDeg, SphericalMath.degToRad, realMath]
  field_simp

theorem degToRad_sub (first second : ℝ) :
    realMath.degToRad (first - second) = realMath.degToRad first - realMath.degToRad second :=
  sub_mul first second _

theorem degToRad_mem_Icc {degrees : ℝ} (least : -90 ≤ degrees) (most : degrees ≤ 90) :
    realMath.degToRad degrees ∈ Set.Icc (-(π / 2)) (π / 2) := by
  have positive := pi_pos
  simp only [SphericalMath.degToRad, realMath]
  constructor <;> nlinarith

theorem degToRad_mem_Ioo {degrees : ℝ} (least : -90 < degrees) (most : degrees < 90) :
    realMath.degToRad degrees ∈ Set.Ioo (-(π / 2)) (π / 2) := by
  have positive := pi_pos
  simp only [SphericalMath.degToRad, realMath]
  constructor <;> nlinarith

theorem kRadiusOfEarth_pos : (0 : ℝ) < kRadiusOfEarth := by norm_num [kRadiusOfEarth]

namespace MapProjectionImpl

variable {projection : MapProjectionImpl ℝ} {globalPosition localPosition : Vector2 ℝ}

/-- The stored sine and cosine are those of the reference latitude. -/
structure Consistent (projection : MapProjectionImpl ℝ) : Prop where
  sinLat : projection.refSinLat = sin projection.refLat
  cosLat : projection.refCosLat = cos projection.refLat

/-- The longitude of a position, from the reference. -/
noncomputable def deltaLon (projection : MapProjectionImpl ℝ) (globalPosition : Vector2 ℝ) :
    ℝ :=
  realMath.degToRad globalPosition.y - projection.refLon

/-- The angle between a position and the reference. -/
noncomputable def arcTo (projection : MapProjectionImpl ℝ) (globalPosition : Vector2 ℝ) : ℝ :=
  arc projection.refLat (realMath.degToRad globalPosition.x) (projection.deltaLon globalPosition)

/-- The position is on the other side of the earth. -/
def Antipodal (projection : MapProjectionImpl ℝ) (globalPosition : Vector2 ℝ) : Prop :=
  up projection.refLat (realMath.degToRad globalPosition.x)
    (projection.deltaLon globalPosition) = -1

theorem clampToUnit_eq {value : ℝ} (least : -1 ≤ value) (most : value ≤ 1) :
    clampToUnit value = value := by
  simp [clampToUnit, not_lt.mpr least, not_lt.mpr most]

/-- The stretch of the plane at some angle from the reference. -/
noncomputable def stretch (angle : ℝ) : ℝ := if angle = 0 then 1 else angle / sin angle

theorem globalToLocal_eq (consistent : projection.Consistent) (globalPosition : Vector2 ℝ) :
    projection.globalToLocal realMath globalPosition =
      { x := stretch (projection.arcTo globalPosition) * north projection.refLat
          (realMath.degToRad globalPosition.x) (projection.deltaLon globalPosition) *
          kRadiusOfEarth
        y := stretch (projection.arcTo globalPosition) * east
          (realMath.degToRad globalPosition.x) (projection.deltaLon globalPosition) *
          kRadiusOfEarth } := by
  obtain ⟨least, most⟩ := up_mem projection.refLat (realMath.degToRad globalPosition.x)
    (projection.deltaLon globalPosition)
  have argument : clampToUnit (sin projection.refLat * sin (realMath.degToRad globalPosition.x) +
      cos projection.refLat * cos (realMath.degToRad globalPosition.x) *
        cos (realMath.degToRad globalPosition.y - projection.refLon)) =
      up projection.refLat (realMath.degToRad globalPosition.x)
        (projection.deltaLon globalPosition) :=
    clampToUnit_eq least most
  have scale (angle : ℝ) : (if 0 < |angle| then angle / sin angle else 1) = stretch angle := by
    simp [stretch]
  simp only [globalToLocal, consistent.sinLat, consistent.cosLat, realMath_sin, realMath_cos,
    realMath_acos, argument, scale, Vector2.mk.injEq]
  exact ⟨rfl, by simp only [arcTo, arc, east, deltaLon]; ring⟩

/-- The distance from the origin of the plane is the distance on the sphere. -/
theorem norm_globalToLocal (consistent : projection.Consistent)
    (near : ¬projection.Antipodal globalPosition) :
    √((projection.globalToLocal realMath globalPosition).x ^ 2 +
      (projection.globalToLocal realMath globalPosition).y ^ 2) =
      kRadiusOfEarth * projection.arcTo globalPosition := by
  have square : sin (projection.arcTo globalPosition) ^ 2 = _ := sin_arc_sq _ _ _
  have nonneg : 0 ≤ projection.arcTo globalPosition := arc_nonneg _ _ _
  have radius := kRadiusOfEarth_pos
  rw [globalToLocal_eq consistent]
  by_cases here : projection.arcTo globalPosition = 0
  · obtain ⟨atNorth, atEast, -⟩ := components_of_arc_zero here
    simp [atNorth, atEast, here]
  · have positive : 0 < sin (projection.arcTo globalPosition) := sin_arc_pos near here
    rw [← sqrt_sq (mul_nonneg radius.le nonneg)]
    congr 1
    simp only [stretch, if_neg here]
    field_simp
    rw [← square]

/-- The angle that a point of the plane stands for. -/
noncomputable def planeArc (localPosition : Vector2 ℝ) : ℝ :=
  √(localPosition.x / kRadiusOfEarth * (localPosition.x / kRadiusOfEarth) +
    localPosition.y / kRadiusOfEarth * (localPosition.y / kRadiusOfEarth))

theorem planeArc_eq (localPosition : Vector2 ℝ) :
    kRadiusOfEarth * planeArc localPosition = √(localPosition.x ^ 2 + localPosition.y ^ 2) := by
  have radius := kRadiusOfEarth_pos
  have same : localPosition.x / kRadiusOfEarth * (localPosition.x / kRadiusOfEarth) +
      localPosition.y / kRadiusOfEarth * (localPosition.y / kRadiusOfEarth) =
      (localPosition.x ^ 2 + localPosition.y ^ 2) / kRadiusOfEarth ^ 2 := by
    field_simp
  rw [planeArc, same, sqrt_div' _ (sq_nonneg _), sqrt_sq radius.le]
  field_simp

theorem planeArc_globalToLocal (consistent : projection.Consistent)
    (near : ¬projection.Antipodal globalPosition) :
    planeArc (projection.globalToLocal realMath globalPosition) =
      projection.arcTo globalPosition := by
  have same := (planeArc_eq _).trans (norm_globalToLocal consistent near)
  exact mul_left_cancel₀ kRadiusOfEarth_pos.ne' same

theorem localToGlobal_of_planeArc_zero (here : planeArc localPosition = 0) :
    projection.localToGlobal realMath localPosition =
      ⟨realMath.radToDeg projection.refLat, realMath.radToDeg projection.refLon⟩ := by
  simp only [planeArc] at here
  simp [localToGlobal, here]

theorem localToGlobal_of_planeArc_pos (consistent : projection.Consistent)
    (away : planeArc localPosition ≠ 0) :
    projection.localToGlobal realMath localPosition =
      { x := realMath.radToDeg (arcsin (cos (planeArc localPosition) * sin projection.refLat +
          localPosition.x / kRadiusOfEarth * sin (planeArc localPosition) *
            cos projection.refLat / planeArc localPosition))
        y := realMath.radToDeg (projection.refLon +
          atan2 (localPosition.y / kRadiusOfEarth * sin (planeArc localPosition))
            (planeArc localPosition * cos projection.refLat * cos (planeArc localPosition) -
              localPosition.x / kRadiusOfEarth * sin projection.refLat *
                sin (planeArc localPosition))) } := by
  simp only [planeArc] at away
  simp [localToGlobal, planeArc, away, consistent.sinLat, consistent.cosLat]

/-- The same position, up to full turns of the longitude. -/
structure SamePosition (first second : Vector2 ℝ) : Prop where
  x : first.x = second.x
  /-- At a pole every longitude is the same. -/
  y : -90 < second.x → second.x < 90 → ∃ turns : ℤ, first.y = second.y + 360 * turns

theorem radToDeg_turns (projection : MapProjectionImpl ℝ) (globalPosition : Vector2 ℝ)
    (turns : ℤ) :
    realMath.radToDeg
        (projection.refLon + (projection.deltaLon globalPosition - turns * (2 * π))) =
      globalPosition.y + 360 * (-turns : ℤ) := by
  have positive := pi_pos
  simp only [deltaLon, SphericalMath.radToDeg, SphericalMath.degToRad, realMath]
  push_cast
  field_simp
  ring

/-- The projection of a position, turned back. -/
theorem localToGlobal_globalToLocal (consistent : projection.Consistent)
    (reference : projection.refLat ∈ Set.Icc (-(π / 2)) (π / 2))
    (least : -90 ≤ globalPosition.x) (most : globalPosition.x ≤ 90)
    (near : ¬projection.Antipodal globalPosition) :
    SamePosition
      (projection.localToGlobal realMath (projection.globalToLocal realMath globalPosition))
      globalPosition := by
  have latitude := degToRad_mem_Icc least most
  have angle := planeArc_globalToLocal consistent near
  have sinLatitude := sin_latitude projection.refLat (realMath.degToRad globalPosition.x)
    (projection.deltaLon globalPosition)
  have cosLatitude := cos_latitude_mul_cos_longitude projection.refLat
    (realMath.degToRad globalPosition.x) (projection.deltaLon globalPosition)
  by_cases here : projection.arcTo globalPosition = 0
  · obtain ⟨atNorth, atEast, atUp⟩ := components_of_arc_zero here
    rw [localToGlobal_of_planeArc_zero (angle.trans here)]
    rw [atNorth, atUp] at sinLatitude cosLatitude
    have same : projection.refLat = realMath.degToRad globalPosition.x :=
      injOn_sin reference latitude (by linarith)
    refine ⟨by simp [same], fun above below => ?_⟩
    have positive := cos_pos_of_mem_Ioo (degToRad_mem_Ioo above below)
    rw [← same] at cosLatitude positive
    have cosine : cos (projection.deltaLon globalPosition) = 1 := by
      have product : cos projection.refLat * cos (projection.deltaLon globalPosition) =
          cos projection.refLat * 1 := by linarith
      exact mul_left_cancel₀ positive.ne' product
    obtain ⟨turns, turned⟩ := (cos_eq_one_iff _).mp cosine
    have whole := radToDeg_turns projection globalPosition turns
    rw [turned, sub_self, add_zero] at whole
    exact ⟨-turns, whole⟩
  · have positive : 0 < sin (projection.arcTo globalPosition) := sin_arc_pos near here
    have nonneg : 0 < projection.arcTo globalPosition :=
      lt_of_le_of_ne (arc_nonneg _ _ _) (Ne.symm here)
    have radius := kRadiusOfEarth_pos
    have atUp : cos (projection.arcTo globalPosition) = _ := cos_arc _ _ _
    rw [localToGlobal_of_planeArc_pos consistent (angle ▸ here), angle,
      globalToLocal_eq consistent]
    simp only [stretch, if_neg here, atUp]
    constructor
    · have argument : up projection.refLat (realMath.degToRad globalPosition.x)
          (projection.deltaLon globalPosition) * sin projection.refLat +
          projection.arcTo globalPosition / sin (projection.arcTo globalPosition) *
            north projection.refLat (realMath.degToRad globalPosition.x)
              (projection.deltaLon globalPosition) * kRadiusOfEarth / kRadiusOfEarth *
            sin (projection.arcTo globalPosition) * cos projection.refLat /
            projection.arcTo globalPosition = sin (realMath.degToRad globalPosition.x) := by
        rw [← sinLatitude]
        field_simp
      rw [argument, arcsin_sin' latitude, realMath_radToDeg_degToRad]
    · intro above below
      have scaled := cos_pos_of_mem_Ioo (degToRad_mem_Ioo above below)
      have first : projection.arcTo globalPosition / sin (projection.arcTo globalPosition) *
          east (realMath.degToRad globalPosition.x) (projection.deltaLon globalPosition) *
          kRadiusOfEarth / kRadiusOfEarth * sin (projection.arcTo globalPosition) =
          projection.arcTo globalPosition * cos (realMath.degToRad globalPosition.x) *
            sin (projection.deltaLon globalPosition) := by
        rw [east]
        field_simp
      have second : projection.arcTo globalPosition * cos projection.refLat *
          up projection.refLat (realMath.degToRad globalPosition.x)
            (projection.deltaLon globalPosition) -
          projection.arcTo globalPosition / sin (projection.arcTo globalPosition) *
            north projection.refLat (realMath.degToRad globalPosition.x)
              (projection.deltaLon globalPosition) * kRadiusOfEarth / kRadiusOfEarth *
            sin projection.refLat * sin (projection.arcTo globalPosition) =
          projection.arcTo globalPosition * cos (realMath.degToRad globalPosition.x) *
            cos (projection.deltaLon globalPosition) := by
        rw [mul_assoc _ (cos _) (cos _), ← cosLatitude]
        field_simp
      refine ⟨-toIocDiv two_pi_pos (-π) (projection.deltaLon globalPosition), ?_⟩
      simp only [first, second]
      rw [atan2_polar (mul_pos nonneg scaled), toIocMod, zsmul_eq_mul]
      exact radToDeg_turns projection globalPosition _

/-- Where a point of the plane lies on the sphere. -/
theorem components_localToGlobal (consistent : projection.Consistent)
    (away : planeArc localPosition ≠ 0) :
    let globalPosition := projection.localToGlobal realMath localPosition
    north projection.refLat (realMath.degToRad globalPosition.x)
        (projection.deltaLon globalPosition) =
      localPosition.x / kRadiusOfEarth * sin (planeArc localPosition) / planeArc localPosition ∧
    east (realMath.degToRad globalPosition.x) (projection.deltaLon globalPosition) =
      localPosition.y / kRadiusOfEarth * sin (planeArc localPosition) / planeArc localPosition ∧
    up projection.refLat (realMath.degToRad globalPosition.x)
      (projection.deltaLon globalPosition) = cos (planeArc localPosition) := by
  have positive : 0 < planeArc localPosition := lt_of_le_of_ne (sqrt_nonneg _) (Ne.symm away)
  have unit : (localPosition.x / kRadiusOfEarth) ^ 2 + (localPosition.y / kRadiusOfEarth) ^ 2 =
      planeArc localPosition ^ 2 := by
    rw [planeArc, sq_sqrt (add_nonneg (mul_self_nonneg _) (mul_self_nonneg _)), sq, sq]
  intro globalPosition
  simp only [globalPosition, localToGlobal_of_planeArc_pos consistent away, deltaLon,
    realMath_degToRad_radToDeg, add_sub_cancel_left]
  exact components_of_plane projection.refLat positive unit

theorem arcTo_localToGlobal (consistent : projection.Consistent)
    (near : planeArc localPosition < π) :
    projection.arcTo (projection.localToGlobal realMath localPosition) =
      planeArc localPosition := by
  by_cases here : planeArc localPosition = 0
  · have top : up projection.refLat projection.refLat 0 = 1 := by
      have unit := sin_sq_add_cos_sq projection.refLat
      simp only [up, cos_zero, mul_one]
      linarith
    simp [arcTo, arc, deltaLon, localToGlobal_of_planeArc_zero here, here, top]
  · obtain ⟨-, -, atUp⟩ := components_localToGlobal consistent here
    have nonneg : 0 ≤ planeArc localPosition := sqrt_nonneg _
    rw [arcTo, arc, atUp, arccos_cos nonneg near.le]

theorem not_antipodal_localToGlobal (consistent : projection.Consistent)
    (near : planeArc localPosition < π) :
    ¬projection.Antipodal (projection.localToGlobal realMath localPosition) := by
  intro antipodal
  have angle := arcTo_localToGlobal consistent near
  rw [arcTo, arc, antipodal, arccos_neg_one] at angle
  exact near.ne angle.symm

/-- A point of the plane, turned into the sphere and back. -/
theorem globalToLocal_localToGlobal (consistent : projection.Consistent)
    (near : planeArc localPosition < π) :
    projection.globalToLocal realMath (projection.localToGlobal realMath localPosition) =
      localPosition := by
  have radius := kRadiusOfEarth_pos
  rw [globalToLocal_eq consistent, arcTo_localToGlobal consistent near]
  by_cases here : planeArc localPosition = 0
  · have norm := planeArc_eq localPosition
    rw [here, mul_zero, eq_comm, sqrt_eq_zero (by positivity)] at norm
    have atX : localPosition.x = 0 := by
      nlinarith [sq_nonneg localPosition.x, sq_nonneg localPosition.y]
    have atY : localPosition.y = 0 := by
      nlinarith [sq_nonneg localPosition.x, sq_nonneg localPosition.y]
    rw [localToGlobal_of_planeArc_zero here]
    obtain ⟨x, y⟩ := localPosition
    obtain rfl : x = 0 := atX
    obtain rfl : y = 0 := atY
    simp [north, east, deltaLon, mul_comm]
  · have positive : 0 < planeArc localPosition := lt_of_le_of_ne (sqrt_nonneg _) (Ne.symm here)
    have sine := sin_pos_of_pos_of_lt_pi positive near
    obtain ⟨atNorth, atEast, -⟩ := components_localToGlobal consistent here
    rw [atNorth, atEast, stretch, if_neg here]
    obtain ⟨x, y⟩ := localPosition
    rw [Vector2.mk.injEq]
    constructor <;> field_simp

/-! ### Distances and headings -/

/-- `getProjectionReferenceLat` and `getProjectionReferenceLon`. -/
noncomputable def referencePosition (projection : MapProjectionImpl ℝ) : Vector2 ℝ :=
  ⟨realMath.radToDeg projection.refLat, realMath.radToDeg projection.refLon⟩

theorem horizontalDistance_reference (projection : MapProjectionImpl ℝ)
    (globalPosition : Vector2 ℝ) :
    horizontalDistanceToGlobalPosition realMath projection.referencePosition globalPosition =
      kRadiusOfEarth * projection.arcTo globalPosition := by
  have half := haversine projection.refLat (realMath.degToRad globalPosition.x)
    (projection.deltaLon globalPosition)
  have angle := two_mul_atan2_haversine projection.refLat (realMath.degToRad globalPosition.x)
    (projection.deltaLon globalPosition)
  rw [sq, sq] at half
  simp only [horizontalDistanceToGlobalPosition, referencePosition, realMath_degToRad_radToDeg,
    realMath_sin, realMath_cos, realMath_sqrt, realMath_atan2, Nat.cast_ofNat]
  rw [deltaLon] at half angle
  rw [half, mul_assoc, angle]
  rfl

theorem headingToGlobalPosition_reference (projection : MapProjectionImpl ℝ)
    (globalPosition : Vector2 ℝ) :
    headingToGlobalPosition realMath projection.referencePosition globalPosition =
      realMath.wrapPi (atan2 (east (realMath.degToRad globalPosition.x)
        (projection.deltaLon globalPosition)) (north projection.refLat
          (realMath.degToRad globalPosition.x) (projection.deltaLon globalPosition))) := by
  simp only [headingToGlobalPosition, referencePosition, degToRad_sub, realMath_degToRad_radToDeg,
    realMath_sin, realMath_cos, realMath_atan2, east, north, deltaLon]
  rw [mul_comm (sin _) (cos _)]

theorem heading_reference (consistent : projection.Consistent)
    (near : ¬projection.Antipodal globalPosition) :
    headingToGlobalPosition realMath projection.referencePosition globalPosition =
      realMath.wrapPi (atan2 (projection.globalToLocal realMath globalPosition).y
        (projection.globalToLocal realMath globalPosition).x) := by
  have radius := kRadiusOfEarth_pos
  rw [headingToGlobalPosition_reference, globalToLocal_eq consistent]
  by_cases here : projection.arcTo globalPosition = 0
  · obtain ⟨atNorth, atEast, -⟩ := components_of_arc_zero here
    simp [atNorth, atEast]
  · have positive : 0 < sin (projection.arcTo globalPosition) := sin_arc_pos near here
    have away : 0 < projection.arcTo globalPosition :=
      lt_of_le_of_ne (arc_nonneg _ _ _) (Ne.symm here)
    have scale : 0 < projection.arcTo globalPosition / sin (projection.arcTo globalPosition) *
        kRadiusOfEarth := by positivity
    simp only [stretch, if_neg here, mul_right_comm _ (east _ _) kRadiusOfEarth,
      mul_right_comm _ (north _ _ _) kRadiusOfEarth, atan2_mul scale]

/-! ### Way points -/

theorem consistent_initReference (lat lon alt : ℝ) (timestamp : Nat) :
    Consistent (MapProjection.initReference realMath.toTrigonometry lat lon alt timestamp) :=
  ⟨rfl, rfl⟩

/-- A projection whose reference is a given position. -/
noncomputable def around (now : Vector2 ℝ) : MapProjectionImpl ℝ :=
  MapProjection.initReference realMath.toTrigonometry now.x now.y 0 0

theorem referencePosition_around (now : Vector2 ℝ) : (around now).referencePosition = now := by
  have x := realMath_radToDeg_degToRad now.x
  have y := realMath_radToDeg_degToRad now.y
  obtain ⟨lat, lon⟩ := now
  rw [referencePosition, Vector2.mk.injEq]
  exact ⟨x, y⟩

/-- The vector to a position points where the heading does. It is as long as the position is away
from the line through the centre of the earth. -/
theorem vectorToGlobalPosition_polar (now next : Vector2 ℝ) :
    √((vectorToGlobalPosition realMath now next).x ^ 2 +
        (vectorToGlobalPosition realMath now next).y ^ 2) =
      kRadiusOfEarth * sin (horizontalDistanceToGlobalPosition realMath now next /
        kRadiusOfEarth) ∧
    realMath.wrapPi (atan2 (vectorToGlobalPosition realMath now next).y
        (vectorToGlobalPosition realMath now next).x) =
      headingToGlobalPosition realMath now next := by
  have radius := kRadiusOfEarth_pos
  have x : (vectorToGlobalPosition realMath now next).x = kRadiusOfEarth *
      north (around now).refLat (realMath.degToRad next.x) ((around now).deltaLon next) := rfl
  have y : (vectorToGlobalPosition realMath now next).y = kRadiusOfEarth *
      east (realMath.degToRad next.x) ((around now).deltaLon next) := by
    rw [east, mul_comm (cos _), ← mul_assoc]
    rfl
  have distance := horizontalDistance_reference (around now) next
  have heading := headingToGlobalPosition_reference (around now) next
  rw [referencePosition_around] at distance heading
  rw [x, y, distance, heading, atan2_mul radius, mul_div_cancel_left₀ _ radius.ne']
  refine ⟨?_, rfl⟩
  have square : sin ((around now).arcTo next) ^ 2 = _ := sin_arc_sq _ _ _
  have nonneg : 0 ≤ sin ((around now).arcTo next) :=
    sin_nonneg_of_nonneg_of_le_pi (arc_nonneg _ _ _) (arccos_le_pi _)
  rw [← sqrt_sq (mul_nonneg radius.le nonneg), mul_pow, mul_pow, mul_pow, square]
  ring_nf

end MapProjectionImpl

open MapProjectionImpl

theorem cos_wrapPi (heading : ℝ) : cos (realMath.wrapPi heading) = cos heading := by
  change cos (toIcoMod two_pi_pos (-π) heading) = cos heading
  rw [toIcoMod, zsmul_eq_mul, cos_sub_int_mul_two_pi]

theorem sin_wrapPi (heading : ℝ) : sin (realMath.wrapPi heading) = sin heading := by
  change sin (toIcoMod two_pi_pos (-π) heading) = sin heading
  rw [toIcoMod, zsmul_eq_mul, sin_sub_int_mul_two_pi]

/-- The vector of some length in the direction of a heading. -/
noncomputable def headingVector (heading dist : ℝ) : Vector2 ℝ :=
  ⟨dist * cos heading, dist * sin heading⟩

theorem norm_headingVector (heading dist : ℝ) :
    √((headingVector heading dist).x ^ 2 + (headingVector heading dist).y ^ 2) = |dist| := by
  have unit := sin_sq_add_cos_sq heading
  rw [← sqrt_sq_eq_abs, headingVector]
  congr 1
  linear_combination dist ^ 2 * unit

theorem planeArc_headingVector (heading dist : ℝ) :
    planeArc (headingVector heading dist) = |dist / kRadiusOfEarth| := by
  have radius := kRadiusOfEarth_pos
  have norm := planeArc_eq (headingVector heading dist)
  rw [norm_headingVector] at norm
  rw [abs_div, abs_of_pos radius, eq_div_iff radius.ne', mul_comm]
  exact norm

theorem mul_sin_abs (angle : ℝ) : angle * sin |angle| = |angle| * sin angle := by
  obtain nonneg | negative := le_or_gt 0 angle
  · rw [abs_of_nonneg nonneg]
  · rw [abs_of_neg negative, sin_neg]
    ring

/-- The sine of the latitude at some angle and heading is one of a position. -/
theorem sin_latitude_mem (latitude angle heading : ℝ) :
    -1 ≤ sin latitude * cos angle + cos latitude * sin angle * cos heading ∧
      sin latitude * cos angle + cos latitude * sin angle * cos heading ≤ 1 := by
  have bounds := up_mem latitude (π / 2 - angle) heading
  rwa [up, sin_pi_div_two_sub, cos_pi_div_two_sub] at bounds

/-- The position at some heading and distance is that of the vector in the plane around the
start. -/
theorem globalPositionFromHeadingAndDist_eq (now : Vector2 ℝ) (least : -90 < now.x)
    (most : now.x < 90) (heading dist : ℝ) :
    globalPositionFromHeadingAndDist realMath now heading dist =
      (around now).localToGlobal realMath (headingVector heading dist) := by
  have consistent : (around now).Consistent := consistent_initReference _ _ _ _
  have closed := degToRad_mem_Icc least.le most.le
  have scale := cos_pos_of_mem_Ioo (degToRad_mem_Ioo least most)
  have refLat : (around now).refLat = realMath.degToRad now.x := rfl
  have refLon : (around now).refLon = realMath.degToRad now.y := rfl
  have unit := sin_sq_add_cos_sq (realMath.degToRad now.x)
  have arcOf := planeArc_headingVector heading dist
  have x : (headingVector heading dist).x / kRadiusOfEarth =
      dist / kRadiusOfEarth * cos heading := mul_div_right_comm _ _ _
  have y : (headingVector heading dist).y / kRadiusOfEarth =
      dist / kRadiusOfEarth * sin heading := mul_div_right_comm _ _ _
  simp only [globalPositionFromHeadingAndDist, cos_wrapPi, sin_wrapPi, realMath_sin, realMath_cos,
    realMath_asin, realMath_atan2]
  generalize dist / kRadiusOfEarth = angle at arcOf x y ⊢
  by_cases here : planeArc (headingVector heading dist) = 0
  · rw [localToGlobal_of_planeArc_zero here, refLat, refLon]
    obtain rfl : angle = 0 := abs_eq_zero.mp (arcOf.symm.trans here)
    have nonneg : 0 ≤ 1 - sin (realMath.degToRad now.x) * sin (realMath.degToRad now.x) := by
      nlinarith
    simp [arcsin_sin' closed, nonneg]
  · rw [localToGlobal_of_planeArc_pos consistent here, refLat, refLon, x, y, arcOf]
    rw [arcOf] at here
    have positive : 0 < |angle| := lt_of_le_of_ne (abs_nonneg _) (Ne.symm here)
    have turned := mul_sin_abs angle
    obtain ⟨low, high⟩ := sin_latitude_mem (realMath.degToRad now.x) angle heading
    have sine : cos |angle| * sin (realMath.degToRad now.x) +
        angle * cos heading * sin |angle| * cos (realMath.degToRad now.x) / |angle| =
        sin (realMath.degToRad now.x) * cos angle +
          cos (realMath.degToRad now.x) * sin angle * cos heading := by
      rw [cos_abs]
      field_simp
      linear_combination cos heading * cos (realMath.degToRad now.x) * turned
    have first : angle * sin heading * sin |angle| = |angle| * (sin heading * sin angle) := by
      linear_combination sin heading * turned
    have second : |angle| * cos (realMath.degToRad now.x) * cos |angle| -
        angle * cos heading * sin (realMath.degToRad now.x) * sin |angle| =
        |angle| * (cos (realMath.degToRad now.x) * cos angle -
          cos heading * sin (realMath.degToRad now.x) * sin angle) := by
      rw [cos_abs]
      linear_combination -(cos heading * sin (realMath.degToRad now.x)) * turned
    have third : cos angle - sin (realMath.degToRad now.x) *
        (sin (realMath.degToRad now.x) * cos angle +
          cos (realMath.degToRad now.x) * sin angle * cos heading) =
        cos (realMath.degToRad now.x) * (cos (realMath.degToRad now.x) * cos angle -
          cos heading * sin (realMath.degToRad now.x) * sin angle) := by
      linear_combination -cos angle * unit
    rw [sine, sin_arcsin low high, first, second, third, atan2_mul positive,
      mul_comm _ (cos (realMath.degToRad now.x)), atan2_mul scale]

theorem near_headingVector {heading dist : ℝ} (near : |dist| < π * kRadiusOfEarth) :
    planeArc (headingVector heading dist) < π := by
  have radius := kRadiusOfEarth_pos
  rw [planeArc_headingVector, abs_div, abs_of_pos radius, div_lt_iff₀ radius]
  exact near

/-- A way point lies at the distance and under the heading that it was made from. -/
theorem wayPoint_distance_heading (now : Vector2 ℝ) (least : -90 < now.x) (most : now.x < 90)
    (heading dist : ℝ) (nonneg : 0 ≤ dist) (near : dist < π * kRadiusOfEarth) :
    horizontalDistanceToGlobalPosition realMath now
        (globalPositionFromHeadingAndDist realMath now heading dist) = dist ∧
      (0 < dist → headingToGlobalPosition realMath now
        (globalPositionFromHeadingAndDist realMath now heading dist) =
          realMath.wrapPi heading) := by
  have consistent : (around now).Consistent := consistent_initReference _ _ _ _
  have close : planeArc (headingVector heading dist) < π :=
    near_headingVector (by rwa [abs_of_nonneg nonneg])
  have apart := not_antipodal_localToGlobal consistent close
  have distance := horizontalDistance_reference (around now)
    ((around now).localToGlobal realMath (headingVector heading dist))
  have direction := heading_reference consistent apart
  rw [referencePosition_around] at distance direction
  rw [globalPositionFromHeadingAndDist_eq now least most]
  constructor
  · rw [distance, arcTo_localToGlobal consistent close, planeArc_eq, norm_headingVector,
      abs_of_nonneg nonneg]
  · intro positive
    rw [direction, globalToLocal_localToGlobal consistent close, headingVector,
      atan2_polar positive]
    change toIcoMod two_pi_pos (-π) (toIocMod two_pi_pos (-π) heading) = _
    rw [toIocMod, toIcoMod_sub_zsmul]
    rfl

theorem wayPoint_distance_heading_near :
    horizontalDistanceToGlobalPosition realMath ⟨47, 8⟩
      (globalPositionFromHeadingAndDist realMath ⟨47, 8⟩ 4 100) = 100 :=
  (wayPoint_distance_heading ⟨47, 8⟩ (by norm_num) (by norm_num) 4 100 (by norm_num)
    (by norm_num [kRadiusOfEarth]; nlinarith [two_le_pi])).1

/-- Following the line to a position by its distance leads to that position. -/
theorem line_leads_to_end (lineStart lineEnd : Vector2 ℝ) (startLeast : -90 < lineStart.x)
    (startMost : lineStart.x < 90) (least : -90 ≤ lineEnd.x) (most : lineEnd.x ≤ 90)
    (near : horizontalDistanceToGlobalPosition realMath lineStart lineEnd ≠ π * kRadiusOfEarth) :
    SamePosition (globalPositionFromLineAndDist realMath lineStart lineEnd
      (horizontalDistanceToGlobalPosition realMath lineStart lineEnd)) lineEnd := by
  have consistent : (around lineStart).Consistent := consistent_initReference _ _ _ _
  have distance := horizontalDistance_reference (around lineStart) lineEnd
  rw [referencePosition_around] at distance
  have apart : ¬(around lineStart).Antipodal lineEnd := by
    intro antipodal
    rw [distance, arcTo, arc, antipodal, arccos_neg_one, mul_comm] at near
    exact near rfl
  have direction := heading_reference consistent apart
  rw [referencePosition_around] at direction
  have vector : headingVector (headingToGlobalPosition realMath lineStart lineEnd)
      (horizontalDistanceToGlobalPosition realMath lineStart lineEnd) =
      (around lineStart).globalToLocal realMath lineEnd := by
    rw [headingVector, direction, cos_wrapPi, sin_wrapPi, distance,
      ← norm_globalToLocal consistent apart, norm_mul_cos_atan2, norm_mul_sin_atan2]
  rw [globalPositionFromLineAndDist, globalPositionFromHeadingAndDist_eq lineStart startLeast
    startMost, vector]
  exact localToGlobal_globalToLocal consistent (degToRad_mem_Icc startLeast.le startMost.le) least
    most apart

/-- A quarter of the equator. -/
theorem quarter_up : up (realMath.degToRad 0) (realMath.degToRad 0)
    (realMath.degToRad 90 - realMath.degToRad 0) = 0 := by
  have quarter : (90 : ℝ) * (π / 180) = π / 2 := by ring
  simp [up, SphericalMath.degToRad, realMath, quarter]

theorem line_leads_to_end_quarter :
    SamePosition (globalPositionFromLineAndDist realMath ⟨0, 0⟩ ⟨0, 90⟩
      (horizontalDistanceToGlobalPosition realMath ⟨0, 0⟩ ⟨0, 90⟩)) ⟨0, 90⟩ :=
  line_leads_to_end ⟨0, 0⟩ ⟨0, 90⟩ (by norm_num) (by norm_num) (by norm_num) (by norm_num) <| by
    have distance := horizontalDistance_reference (around ⟨0, 0⟩) ⟨0, 90⟩
    rw [referencePosition_around] at distance
    have angle : (around ⟨0, 0⟩).arcTo ⟨0, 90⟩ = π / 2 :=
      (congrArg arccos quarter_up).trans arccos_zero
    rw [distance, angle]
    have radius := kRadiusOfEarth_pos
    nlinarith [pi_pos, mul_pos pi_pos radius]

/-! ### The projection that follows the estimator -/

namespace MapProjection

variable {msgs : List (VehicleLocalPosition ℝ)} {globalPosition localPosition : Vector3 ℝ}

section Overloads

variable {Number : Type} [Field Number] [LinearOrder Number] (math : SphericalMath Number)
  (projection : MapProjectionImpl Number)

/-- The altitude does not matter for the other components. -/
theorem globalToLocal3_toVector2 (globalPosition : Vector3 Number) :
    (globalToLocal3 math projection globalPosition).map Vector3.toVector2 =
      globalToLocal math projection globalPosition.toVector2 := by
  simp only [globalToLocal3, globalToLocal]
  cases assertInitalized projection <;> rfl

theorem localToGlobal3_toVector2 (localPosition : Vector3 Number) :
    (localToGlobal3 math projection localPosition).map Vector3.toVector2 =
      localToGlobal math projection localPosition.toVector2 := by
  simp only [localToGlobal3, localToGlobal]
  cases assertInitalized projection <;> rfl

end Overloads

theorem callback_cases (projection : MapProjectionImpl ℝ) (msg : VehicleLocalPosition ℝ) :
    vehicleLocalPositionCallback realMath.toTrigonometry projection msg = projection ∨
      vehicleLocalPositionCallback realMath.toTrigonometry projection msg =
        referenceOf realMath.toTrigonometry msg := by
  simp only [vehicleLocalPositionCallback]
  split
  · split
    · exact .inr rfl
    · exact .inl rfl
  · split
    · exact .inr rfl
    · exact .inl rfl

/-- An initialised projection is that of a message. -/
theorem run_eq_referenceOf
    (initialised : (run realMath.toTrigonometry 0 msgs).refInitDone = true) :
    ∃ msg ∈ msgs,
      run realMath.toTrigonometry 0 msgs = referenceOf realMath.toTrigonometry msg := by
  induction msgs using List.reverseRecOn with
  | nil => cases initialised
  | append_singleton msgs msg ih =>
      rw [run_append] at initialised ⊢
      obtain kept | fresh := callback_cases (run realMath.toTrigonometry 0 msgs) msg
      · rw [kept] at initialised ⊢
        obtain ⟨other, member, same⟩ := ih initialised
        exact ⟨other, List.mem_append_left _ member, same⟩
      · exact ⟨msg, by simp, fresh⟩

theorem consistent_run (initialised : (run realMath.toTrigonometry 0 msgs).refInitDone = true) :
    (run realMath.toTrigonometry 0 msgs).Consistent := by
  obtain ⟨msg, -, same⟩ := run_eq_referenceOf initialised
  rw [same]
  exact consistent_initReference _ _ _ _

theorem refLat_run_mem (initialised : (run realMath.toTrigonometry 0 msgs).refInitDone = true)
    (inRange : ∀ msg ∈ msgs, -90 ≤ msg.refLat ∧ msg.refLat ≤ 90) :
    (run realMath.toTrigonometry 0 msgs).refLat ∈ Set.Icc (-(π / 2)) (π / 2) := by
  obtain ⟨msg, member, same⟩ := run_eq_referenceOf initialised
  rw [same]
  exact degToRad_mem_Icc (inRange msg member).1 (inRange msg member).2

theorem assertInitalized_eq_ok {projection : MapProjectionImpl ℝ} {α : Type} {value result : α}
    (found : (do assertInitalized projection; return value : Except String α) = .ok result) :
    projection.refInitDone = true ∧ value = result := by
  simp only [assertInitalized] at found
  split at found
  · rename_i initialised
    exact ⟨initialised, Except.ok.inj found⟩
  · cases found

/-- Whatever messages came, a position that the projection maps is found again in the plane. -/
theorem positions_round_trip (msgs : List (VehicleLocalPosition ℝ))
    (inRange : ∀ msg ∈ msgs, -90 ≤ msg.refLat ∧ msg.refLat ≤ 90)
    (globalPosition localPosition : Vector3 ℝ) (least : -90 ≤ globalPosition.x)
    (most : globalPosition.x ≤ 90)
    (apart : ¬(run realMath.toTrigonometry 0 msgs).Antipodal globalPosition.toVector2)
    (mapped : globalToLocal3 realMath (run realMath.toTrigonometry 0 msgs) globalPosition =
      .ok localPosition) :
    ∃ back, localToGlobal3 realMath (run realMath.toTrigonometry 0 msgs) localPosition =
        .ok back ∧
      SamePosition back.toVector2 globalPosition.toVector2 ∧ back.z = globalPosition.z := by
  obtain ⟨initialised, rfl⟩ := assertInitalized_eq_ok mapped
  have consistent := consistent_run initialised
  have reference := refLat_run_mem initialised inRange
  refine ⟨_, by simp only [localToGlobal3, assertInitalized, initialised, if_true]; rfl, ?_, ?_⟩
  · exact localToGlobal_globalToLocal consistent reference least most apart
  · simp [MapProjectionImpl.localToGlobal3, MapProjectionImpl.globalToLocal3]

/-- A message with a reference on the equator. -/
noncomputable def equator : VehicleLocalPosition ℝ := ⟨5, 0, 0, 400⟩

theorem quarter_apart : ¬(run realMath.toTrigonometry 0 [equator]).Antipodal ⟨0, 90⟩ := by
  intro antipodal
  have zero := quarter_up.symm.trans antipodal
  norm_num at zero

theorem positions_round_trip_quarter :
    ∃ localPosition back, localToGlobal3 realMath (run realMath.toTrigonometry 0 [equator])
        localPosition = .ok back ∧
      SamePosition back.toVector2 ⟨0, 90⟩ ∧ back.z = 500 :=
  ⟨_, positions_round_trip [equator] (by simp [equator]) ⟨⟨0, 90⟩, 500⟩ _ (by norm_num)
    (by norm_num) quarter_apart rfl⟩

/-- A point of the plane within half the circumference of the earth is found again. -/
theorem plane_round_trip (msgs : List (VehicleLocalPosition ℝ))
    (localPosition globalPosition : Vector3 ℝ)
    (near : √(localPosition.x ^ 2 + localPosition.y ^ 2) < π * kRadiusOfEarth)
    (mapped : localToGlobal3 realMath (run realMath.toTrigonometry 0 msgs) localPosition =
      .ok globalPosition) :
    globalToLocal3 realMath (run realMath.toTrigonometry 0 msgs) globalPosition =
      .ok localPosition := by
  obtain ⟨initialised, rfl⟩ := assertInitalized_eq_ok mapped
  have close : planeArc localPosition.toVector2 < π := by
    rw [← planeArc_eq, mul_comm] at near
    exact lt_of_mul_lt_mul_right near kRadiusOfEarth_pos.le
  have plane := globalToLocal_localToGlobal (consistent_run initialised) close
  obtain ⟨⟨x, y⟩, z⟩ := localPosition
  simp only [globalToLocal3, assertInitalized, initialised, if_true,
    MapProjectionImpl.localToGlobal3, MapProjectionImpl.globalToLocal3, plane, sub_sub_cancel]
  rfl

theorem plane_round_trip_near :
    ∃ globalPosition, globalToLocal3 realMath (run realMath.toTrigonometry 0 [equator])
      globalPosition = .ok ⟨⟨3, 4⟩, -10⟩ :=
  ⟨_, plane_round_trip [equator] ⟨⟨3, 4⟩, -10⟩ _ (by
    rw [sqrt_lt' (mul_pos pi_pos kRadiusOfEarth_pos)]
    norm_num [kRadiusOfEarth]
    nlinarith [two_le_pi]) rfl⟩

/-- The plane keeps the distances and the headings from the reference. -/
theorem reference_distances_kept (msgs : List (VehicleLocalPosition ℝ))
    (globalPosition localPosition : Vector3 ℝ)
    (apart : ¬(run realMath.toTrigonometry 0 msgs).Antipodal globalPosition.toVector2)
    (mapped : globalToLocal3 realMath (run realMath.toTrigonometry 0 msgs) globalPosition =
      .ok localPosition) :
    √(localPosition.x ^ 2 + localPosition.y ^ 2) =
        horizontalDistanceToGlobalPosition realMath
          (run realMath.toTrigonometry 0 msgs).referencePosition globalPosition.toVector2 ∧
      headingToGlobalPosition realMath (run realMath.toTrigonometry 0 msgs).referencePosition
          globalPosition.toVector2 =
        realMath.wrapPi (atan2 localPosition.y localPosition.x) ∧
      √(localPosition.x ^ 2 + localPosition.y ^ 2 + localPosition.z ^ 2) =
        distanceToGlobalPosition realMath
          ⟨(run realMath.toTrigonometry 0 msgs).referencePosition,
            (run realMath.toTrigonometry 0 msgs).refAltAmsl⟩ globalPosition := by
  obtain ⟨initialised, rfl⟩ := assertInitalized_eq_ok mapped
  have consistent := consistent_run initialised
  have distance : √((MapProjectionImpl.globalToLocal3 realMath
      (run realMath.toTrigonometry 0 msgs) globalPosition).x ^ 2 +
      (MapProjectionImpl.globalToLocal3 realMath (run realMath.toTrigonometry 0 msgs)
        globalPosition).y ^ 2) = _ :=
    (norm_globalToLocal consistent apart).trans (horizontalDistance_reference _ _).symm
  refine ⟨distance, heading_reference consistent apart, ?_⟩
  rw [distanceToGlobalPosition, realMath_sqrt, ← distance, mul_self_sqrt (by positivity)]
  congr 1
  rw [← sq]
  rfl

theorem reference_distances_kept_quarter :
    ∃ localPosition : Vector3 ℝ, √(localPosition.x ^ 2 + localPosition.y ^ 2) =
      horizontalDistanceToGlobalPosition realMath
        (run realMath.toTrigonometry 0 [equator]).referencePosition ⟨0, 90⟩ :=
  ⟨_, (reference_distances_kept [equator] ⟨⟨0, 90⟩, 500⟩ _ quarter_apart rfl).1⟩

end MapProjection

end Px4Ros2
