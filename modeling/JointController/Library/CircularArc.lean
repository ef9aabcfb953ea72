import Mathlib.Analysis.SpecialFunctions.Trigonometric.Bounds
import Mathlib.Geometry.Euclidean.Angle.Unoriented.CrossProduct

/-!
# Circular arcs at corners

A polyline turns at a corner from the unit direction `u` to the unit direction `w`.  A point `o`
before the corner and a point `o` behind it are joined by an arc around a point on the bisector,
`c` away from the corner; all three are written as seen from the corner.

* `dist_turned_le`: a vector that turns moves no further than its length times the angle.
* `rotate_normalized_cross`: turning about the normal of two vectors of one length takes the first
  to the second.
* `inner_entry`, `inner_exit`: how far the radii at the two points are from being perpendicular to
  the directions.
* `norm_entry`, `norm_exit`: the two points are equally far from the centre.
-/

open Real WithLp
open scoped RealInnerProductSpace Matrix

namespace CircularArc

variable {E : Type*} [NormedAddCommGroup E] [InnerProductSpace ℝ E]

/-! ## Turning a vector -/

/-- The vector `e` turned by `φ` towards the vector `f`. -/
noncomputable def turned (e f : E) (φ : ℝ) : E :=
  cos φ • e + sin φ • f

theorem turned_zero (e f : E) : turned e f 0 = e := by
  rw [turned, cos_zero, sin_zero, one_smul, zero_smul, add_zero]

/-- A vector that turns moves no further than its length times the angle. -/
theorem dist_turned_le {e f : E} (horth : ⟪e, f⟫ = 0) (hnorm : ‖f‖ = ‖e‖) (φ ψ : ℝ) :
    dist (turned e f φ) (turned e f ψ) ≤ ‖e‖ * |φ - ψ| := by
  have hdiff : turned e f φ - turned e f ψ = (cos φ - cos ψ) • e + (sin φ - sin ψ) • f := by
    rw [turned, turned]
    module
  have hsq : ‖turned e f φ - turned e f ψ‖ ^ 2 = ‖e‖ ^ 2 * (2 - 2 * cos (φ - ψ)) := by
    rw [hdiff, norm_add_sq_real, inner_smul_left, inner_smul_right, horth, norm_smul, norm_smul,
      hnorm, mul_pow, mul_pow, norm_eq_abs, norm_eq_abs, sq_abs, sq_abs, cos_sub]
    linear_combination ‖e‖ ^ 2 * (sin_sq_add_cos_sq φ + sin_sq_add_cos_sq ψ)
  have hcos : 2 - 2 * cos (φ - ψ) ≤ (φ - ψ) ^ 2 := by
    have := one_sub_sq_div_two_le_cos (x := φ - ψ)
    linarith
  rw [dist_eq_norm]
  refine abs_le_of_sq_le_sq' ?_ (by positivity) |>.2
  rw [hsq, mul_pow, sq_abs]
  exact mul_le_mul_of_nonneg_left hcos (sq_nonneg _)

/-! ## Rotations of space -/

/-- Two is a numeral of every ring. -/
scoped instance two_atLeastTwo : Nat.AtLeastTwo 2 := inferInstance

/-- A vector of space. -/
abbrev Vector3 := EuclideanSpace ℝ (Fin 3)

/-- The cross product. -/
noncomputable def cross (v w : Vector3) : Vector3 :=
  toLp 2 (ofLp v ⨯₃ ofLp w)

/-- The scalar product. -/
noncomputable def dot (v w : Vector3) : ℝ :=
  ofLp v ⬝ᵥ ofLp w

/-- The vector `v` turned by the angle `φ` about the unit vector `a`. -/
noncomputable def rotate (φ : ℝ) (a v : Vector3) : Vector3 :=
  cos φ • v + sin φ • cross a v + ((1 - cos φ) * dot a v) • a

theorem inner_eq_dotProduct (v w : Vector3) : ⟪v, w⟫ = ofLp v ⬝ᵥ ofLp w := by
  rw [EuclideanSpace.inner_eq_star_dotProduct, star_trivial, dotProduct_comm]

theorem dot_eq_inner (v w : Vector3) : dot v w = ⟪v, w⟫ :=
  (inner_eq_dotProduct v w).symm

theorem inner_self_cross (v w : Vector3) : ⟪v, cross v w⟫ = 0 := by
  rw [inner_eq_dotProduct]
  exact dot_self_cross _ _

theorem inner_cross_self (v w : Vector3) : ⟪w, cross v w⟫ = 0 := by
  rw [inner_eq_dotProduct]
  exact dot_cross_self _ _

theorem cross_smul_left (r : ℝ) (v w : Vector3) : cross (r • v) w = r • cross v w := by
  rw [cross, ofLp_smul, map_smul, LinearMap.smul_apply, toLp_smul, cross]

theorem norm_cross (v w : Vector3) :
    ‖cross v w‖ = ‖v‖ * ‖w‖ * sin (InnerProductGeometry.angle v w) :=
  InnerProductGeometry.norm_ofLp_crossProduct v w

/-- The normal of `v` and `w` crossed with `v`. -/
theorem cross_cross_self (v w : Vector3) :
    cross (cross v w) v = ‖v‖ ^ 2 • w - ⟪v, w⟫ • v := by
  have h := cross_cross_eq_smul_sub_smul (ofLp v) (ofLp w) (ofLp v)
  rw [cross, cross, h, toLp_sub, toLp_smul, toLp_smul, ← inner_eq_dotProduct,
    ← inner_eq_dotProduct, real_inner_self_eq_norm_sq, real_inner_comm]

/-- About an axis that is perpendicular to it, a vector turns in a plane. -/
theorem rotate_of_perpendicular {a v : Vector3} (h : ⟪a, v⟫ = 0) (φ : ℝ) :
    rotate φ a v = turned v (cross a v) φ := by
  rw [rotate, dot_eq_inner, h, mul_zero, zero_smul, add_zero, turned]

/-- The direction of a vector. -/
noncomputable def direction (v : E) : E :=
  ‖v‖⁻¹ • v

theorem norm_direction {v : E} (h : v ≠ 0) : ‖direction v‖ = 1 := by
  rw [direction, norm_smul, norm_inv, norm_norm, inv_mul_cancel₀ (norm_ne_zero_iff.mpr h)]

theorem inner_direction_cross (v w : Vector3) : ⟪direction (cross v w), v⟫ = 0 := by
  rw [direction, inner_smul_left, real_inner_comm, inner_self_cross, mul_zero]

/-- A unit vector crossed with a perpendicular vector keeps its length. -/
theorem norm_cross_of_perpendicular {a v : Vector3} (ha : ‖a‖ = 1) (h : ⟪a, v⟫ = 0) :
    ‖cross a v‖ = ‖v‖ := by
  rw [norm_cross, ha, one_mul,
    InnerProductGeometry.inner_eq_zero_iff_angle_eq_pi_div_two a v |>.mp h, sin_pi_div_two, mul_one]

/-- Turning about the normal of two vectors of one length, by their angle, takes the first to the
second. -/
theorem rotate_normalized_cross {v w : Vector3} (hnorm : ‖v‖ = ‖w‖) (hcross : cross v w ≠ 0) :
    rotate (InnerProductGeometry.angle v w) (direction (cross v w)) v = w := by
  have hne : ‖cross v w‖ ≠ 0 := norm_ne_zero_iff.mpr hcross
  have hlen : ‖cross v w‖ = ‖v‖ ^ 2 * sin (InnerProductGeometry.angle v w) := by
    rw [norm_cross, ← hnorm, sq]
  have hv : ‖v‖ ^ 2 ≠ 0 := fun h => hne (by rw [hlen, h, zero_mul])
  have hsin : sin (InnerProductGeometry.angle v w) * ‖cross v w‖⁻¹ = (‖v‖ ^ 2)⁻¹ := by
    have hsin0 : sin (InnerProductGeometry.angle v w) ≠ 0 :=
      fun h => hne (by rw [hlen, h, mul_zero])
    rw [hlen, mul_inv_rev, mul_inv_cancel_left₀ hsin0]
  have hcos : ⟪v, w⟫ = cos (InnerProductGeometry.angle v w) * ‖v‖ ^ 2 := by
    rw [← InnerProductGeometry.cos_angle_mul_norm_mul_norm v w, ← hnorm, sq]
  rw [rotate_of_perpendicular (inner_direction_cross v w), turned, direction, cross_smul_left,
    cross_cross_self, smul_smul, hsin, smul_sub, smul_smul, smul_smul, inv_mul_cancel₀ hv, hcos,
    mul_comm (cos _), inv_mul_cancel_left₀ hv, one_smul]
  module

/-! ## A corner -/

section Corner

variable {u w : E}

/-- The angle inside the corner. -/
noncomputable def insideAngle (u w : E) : ℝ :=
  InnerProductGeometry.angle (-u) w

/-- Half of the angle inside the corner is less than a right angle. -/
theorem half_insideAngle_mem (u w : E) : insideAngle u w / 2 ∈ Set.Icc 0 (π / 2) :=
  ⟨div_nonneg (InnerProductGeometry.angle_nonneg _ _) zero_le_two,
    div_le_div_of_nonneg_right (InnerProductGeometry.angle_le_pi _ _) zero_le_two⟩

theorem inner_directions (hu : ‖u‖ = 1) (hw : ‖w‖ = 1) : ⟪u, w⟫ = -cos (insideAngle u w) := by
  rw [insideAngle, InnerProductGeometry.cos_angle, norm_neg, hu, hw, inner_neg_left]
  ring

/-- The length of the vector along the bisector. -/
theorem norm_bisector (hu : ‖u‖ = 1) (hw : ‖w‖ = 1) :
    ‖-u + w‖ = 2 * cos (insideAngle u w / 2) := by
  have hmem := half_insideAngle_mem u w
  have hcos : 0 ≤ cos (insideAngle u w / 2) :=
    cos_nonneg_of_mem_Icc ⟨by linarith [hmem.1, pi_pos], hmem.2⟩
  refine (sq_eq_sq₀ (norm_nonneg _) (by positivity)).mp ?_
  rw [norm_add_sq_real, norm_neg, hu, hw, inner_neg_left, inner_directions hu hw, mul_pow,
    cos_sq, mul_div_cancel₀ _ (two_ne_zero' ℝ)]
  ring

variable (hu : ‖u‖ = 1) (hw : ‖w‖ = 1) (hh : 0 < cos (insideAngle u w / 2))

include hu hw hh

theorem inner_bisector_left : ⟪direction (-u + w), u⟫ = -cos (insideAngle u w / 2) := by
  have hcos : cos (insideAngle u w) = 2 * cos (insideAngle u w / 2) ^ 2 - 1 := by
    rw [← cos_two_mul, mul_div_cancel₀ _ (two_ne_zero' ℝ)]
  rw [direction, inner_smul_left, norm_bisector hu hw, inner_add_left, inner_neg_left,
    real_inner_self_eq_norm_sq, hu, real_inner_comm, inner_directions hu hw, hcos]
  simp only [conj_trivial]
  field_simp
  ring

theorem inner_bisector_right : ⟪direction (-u + w), w⟫ = cos (insideAngle u w / 2) := by
  have hcos : cos (insideAngle u w) = 2 * cos (insideAngle u w / 2) ^ 2 - 1 := by
    rw [← cos_two_mul, mul_div_cancel₀ _ (two_ne_zero' ℝ)]
  rw [direction, inner_smul_left, norm_bisector hu hw, inner_add_left, inner_neg_left,
    real_inner_self_eq_norm_sq, hw, inner_directions hu hw, hcos]
  simp only [conj_trivial]
  field_simp
  ring

theorem norm_direction_bisector : ‖direction (-u + w)‖ = 1 := by
  refine norm_direction fun h => ?_
  have := norm_bisector hu hw
  rw [h, norm_zero] at this
  linarith

/-- The radius at the first point, along the direction before the corner. -/
theorem inner_entry (o c : ℝ) :
    ⟪-(o • u) - c • direction (-u + w), u⟫ = c * cos (insideAngle u w / 2) - o := by
  rw [inner_sub_left, inner_neg_left, inner_smul_left, inner_smul_left,
    inner_bisector_left hu hw hh, real_inner_self_eq_norm_sq, hu]
  simp only [conj_trivial]
  ring

/-- The radius at the second point, along the direction behind the corner. -/
theorem inner_exit (o c : ℝ) :
    ⟪o • w - c • direction (-u + w), w⟫ = o - c * cos (insideAngle u w / 2) := by
  rw [inner_sub_left, inner_smul_left, inner_smul_left,
    inner_bisector_right hu hw hh, real_inner_self_eq_norm_sq, hw]
  simp only [conj_trivial]
  ring

/-- How far the first point is from the centre. -/
theorem norm_sq_entry (o c : ℝ) :
    ‖-(o • u) - c • direction (-u + w)‖ ^ 2 =
      o ^ 2 - 2 * o * c * cos (insideAngle u w / 2) + c ^ 2 := by
  rw [norm_sub_sq_real, norm_neg, norm_smul, norm_smul, norm_direction_bisector hu hw hh, hu,
    inner_neg_left, inner_smul_left, inner_smul_right, real_inner_comm,
    inner_bisector_left hu hw hh, norm_eq_abs, norm_eq_abs]
  simp only [conj_trivial, mul_one, sq_abs]
  ring

/-- How far the second point is from the centre. -/
theorem norm_sq_exit (o c : ℝ) :
    ‖o • w - c • direction (-u + w)‖ ^ 2 =
      o ^ 2 - 2 * o * c * cos (insideAngle u w / 2) + c ^ 2 := by
  rw [norm_sub_sq_real, norm_smul, norm_smul, norm_direction_bisector hu hw hh, hw,
    inner_smul_left, inner_smul_right, real_inner_comm,
    inner_bisector_right hu hw hh, norm_eq_abs, norm_eq_abs]
  simp only [conj_trivial, mul_one, sq_abs]
  ring

/-- The two points are equally far from the centre. -/
theorem norm_entry_eq_exit (o c : ℝ) :
    ‖-(o • u) - c • direction (-u + w)‖ = ‖o • w - c • direction (-u + w)‖ :=
  (sq_eq_sq₀ (norm_nonneg _) (norm_nonneg _)).mp
    (by rw [norm_sq_entry hu hw hh, norm_sq_exit hu hw hh])

/-- The radii at the two points. -/
theorem inner_entry_exit (o c : ℝ) :
    ⟪-(o • u) - c • direction (-u + w), o • w - c • direction (-u + w)⟫ =
      o ^ 2 * cos (insideAngle u w) - 2 * o * c * cos (insideAngle u w / 2) + c ^ 2 := by
  have hb := norm_direction_bisector hu hw hh
  rw [inner_sub_left, inner_neg_left, inner_smul_left, inner_smul_left, inner_sub_right,
    inner_sub_right, inner_smul_right, inner_smul_right, inner_smul_right, inner_smul_right,
    inner_bisector_right hu hw hh, real_inner_self_eq_norm_sq, hb, inner_directions hu hw,
    real_inner_comm, inner_bisector_left hu hw hh]
  simp only [conj_trivial]
  ring

end Corner

end CircularArc
