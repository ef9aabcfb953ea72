import JointController.MoveL.ArmPath

/-!
# The arcs at the corners

* `Rounded`: what `cornerBlend` gives for a corner that it rounds.
* `tangent_iff_right`: such an arc is tangent to the two segments exactly at a right angle.
* `norm_radialStart_of_right`, `angle_of_right`: at a right angle, its radius and its angle.
-/

open Real
open scoped RealInnerProductSpace Quaternion CircularArc

namespace JointController

namespace MoveL

open CircularArc (Vector3 dot dot_eq_inner cross rotate direction insideAngle)

/-! ## Directions -/

theorem kPosEps_pos : 0 < kPosEps := by
  norm_num [kPosEps]

theorem arccos_clampUnit {x : ℝ} (h : |x| ≤ 1) : arccos (clampUnit x) = arccos x := by
  have := abs_le.mp h
  rw [clampUnit, clamp, min_eq_left this.2, max_eq_right this.1]

theorem arccos_dot_direction {v w : Vector3} :
    arccos (clampUnit (dot (direction v) (direction w))) = InnerProductGeometry.angle v w := by
  have hdot : dot (direction v) (direction w) = ⟪v, w⟫ / (‖v‖ * ‖w‖) := by
    rw [dot_eq_inner, direction, direction, inner_smul_left, inner_smul_right, conj_trivial,
      div_eq_inv_mul, mul_inv, mul_assoc]
  rw [hdot, arccos_clampUnit (abs_real_inner_div_norm_mul_norm_le_one v w),
    InnerProductGeometry.angle]

/-- The direction of a segment. -/
noncomputable def segmentDirection (a b : CartesianPose) : Vector3 :=
  direction (b.position - a.position)

theorem norm_segmentDirection {a b : CartesianPose} (h : kPosEps < ‖b.position - a.position‖) :
    ‖segmentDirection a b‖ = 1 := by
  refine CircularArc.norm_direction fun h0 => ?_
  rw [h0, norm_zero, kPosEps] at h
  norm_num at h

/-- The angle inside the corner between two segments. -/
noncomputable def cornerAngle (prev corner next : CartesianPose) : ℝ :=
  insideAngle (segmentDirection prev corner) (segmentDirection corner next)

/-- The angle inside a corner is the angle between the vectors to the anchors around it. -/
theorem cornerAngle_eq_angle {prev corner next : CartesianPose}
    (hprev : kPosEps < ‖corner.position - prev.position‖)
    (hnext : kPosEps < ‖next.position - corner.position‖) :
    cornerAngle prev corner next = InnerProductGeometry.angle
      (prev.position - corner.position) (next.position - corner.position) := by
  have hpos := kPosEps_pos
  rw [cornerAngle, insideAngle, segmentDirection, segmentDirection, direction, direction,
    ← smul_neg, neg_sub,
    InnerProductGeometry.angle_smul_left_of_pos _ _ (inv_pos.mpr (hpos.trans hprev)),
    InnerProductGeometry.angle_smul_right_of_pos _ _ (inv_pos.mpr (hpos.trans hnext))]

/-! ## What a rounded corner is -/

/-- A corner that is rounded with its tangent points `offset` away. -/
structure Rounded (prev corner next : CartesianPose) (offset : ℝ) (blend : CornerBlend) :
    Prop where
  offset_pos : 0 < offset
  cos_half_pos : 0 < cos (cornerAngle prev corner next / 2)
  sin_half_pos : 0 < sin (cornerAngle prev corner next / 2)
  radius_eq : blend.radius = offset / tan (cornerAngle prev corner next / 2)
  poseIn_eq : blend.poseIn.position = corner.position - offset • segmentDirection prev corner
  poseOut_eq : blend.poseOut.position = corner.position + offset • segmentDirection corner next
  center_eq : blend.center = corner.position +
    (blend.radius / sin (cornerAngle prev corner next / 2)) •
      direction (-segmentDirection prev corner + segmentDirection corner next)
  radialStart_eq : blend.radialStart = blend.poseIn.position - blend.center
  cross_ne : cross blend.radialStart (blend.poseOut.position - blend.center) ≠ 0
  axis_eq : blend.axis = direction (cross blend.radialStart (blend.poseOut.position - blend.center))
  angle_eq : blend.angle = InnerProductGeometry.angle blend.radialStart
    (blend.poseOut.position - blend.center)

/-- The radius vector at the end of the arc. -/
noncomputable def CornerBlend.radialEnd (blend : CornerBlend) : Vector3 :=
  blend.poseOut.position - blend.center

variable {planner : Planner} {prev corner next : CartesianPose} {offset : ℝ} {blend : CornerBlend}

/-- What `roundCorner` gives for a corner that it rounds. -/
theorem rounded_of_roundCorner {lenPrev lenNext : ℝ}
    (hoffset : 0 < offset) (hcos : 0 < cos (cornerAngle prev corner next / 2))
    (hsin : 0 < sin (cornerAngle prev corner next / 2))
    (hblend : planner.roundCorner prev corner next lenPrev lenNext (segmentDirection prev corner)
      (segmentDirection corner next) offset (tan (cornerAngle prev corner next / 2))
      (sin (cornerAngle prev corner next / 2)) = blend)
    (hvalid : blend.valid = true) : Rounded prev corner next offset blend := by
  subst hblend
  rw [Planner.roundCorner] at hvalid ⊢
  dsimp only at hvalid ⊢
  split_ifs at hvalid ⊢ with hradii haxis
  refine ⟨hoffset, hcos, hsin, rfl, rfl, rfl, rfl, rfl, fun h => haxis ?_, rfl,
    arccos_dot_direction⟩
  rw [h, norm_zero, kPosEps]
  norm_num

/-- `roundCorner` rounds a corner whose radii span a plane. -/
theorem valid_roundCorner {lenPrev lenNext tanHalf sinHalf : ℝ} {u w : Vector3}
    (hentry : kPosEps <
      ‖-(offset • u) - (offset / tanHalf / sinHalf) • direction (-u + w)‖)
    (hexit : kPosEps < ‖offset • w - (offset / tanHalf / sinHalf) • direction (-u + w)‖)
    (hcross : kPosEps < ‖cross (-(offset • u) - (offset / tanHalf / sinHalf) • direction (-u + w))
      (offset • w - (offset / tanHalf / sinHalf) • direction (-u + w))‖)
    (hangle : kAngleEps < InnerProductGeometry.angle
      (-(offset • u) - (offset / tanHalf / sinHalf) • direction (-u + w))
      (offset • w - (offset / tanHalf / sinHalf) • direction (-u + w))) :
    (planner.roundCorner prev corner next lenPrev lenNext u w offset tanHalf sinHalf).valid =
      true := by
  have hstart : corner.position - offset • u -
      (corner.position + (offset / tanHalf / sinHalf) • direction (-u + w)) =
        -(offset • u) - (offset / tanHalf / sinHalf) • direction (-u + w) := by abel
  have hend : corner.position + offset • w -
      (corner.position + (offset / tanHalf / sinHalf) • direction (-u + w)) =
        offset • w - (offset / tanHalf / sinHalf) • direction (-u + w) := by abel
  rw [Planner.roundCorner]
  dsimp only
  rw [hstart, hend, if_neg (not_or.mpr ⟨not_le.mpr hentry, not_le.mpr hexit⟩),
    if_neg (not_le.mpr hcross), arccos_dot_direction]
  exact decide_eq_true hangle

/-- The radius that is requested at a corner. -/
noncomputable def Planner.requestedAt (planner : Planner) (blendRadii : List ℝ) (i : ℕ)
    (prev corner next : CartesianPose) : ℝ :=
  planner.requestedRadius blendRadii i ‖corner.position - prev.position‖
    ‖next.position - corner.position‖ (cornerAngle prev corner next)

/-- How far the tangent points of a corner may be from it. -/
noncomputable def maxOffset (prev corner next : CartesianPose) : ℝ :=
  0.5 * min ‖corner.position - prev.position‖ ‖next.position - corner.position‖ - 1e-6

/-- Where `cornerBlend` goes on to `roundCorner`. -/
structure Roundable (planner : Planner) (blendRadii : List ℝ) (i : ℕ)
    (prev corner next : CartesianPose) : Prop where
  angle_gt : kAngleEps < cornerAngle prev corner next
  angle_lt : cornerAngle prev corner next < π - kAngleEps
  requested : kPosEps < planner.requestedAt blendRadii i prev corner next
  tan_half : kPosEps < |tan (cornerAngle prev corner next / 2)|
  room : kPosEps < maxOffset prev corner next
  bisector : kPosEps < ‖-segmentDirection prev corner + segmentDirection corner next‖
  sin_half : kPosEps < |sin (cornerAngle prev corner next / 2)|

/-- The two ends of `cornerBlend`. -/
theorem cornerBlend_eq (planner : Planner) (blendRadii : List ℝ) (i : ℕ)
    (hprev : kPosEps < ‖corner.position - prev.position‖)
    (hnext : kPosEps < ‖next.position - corner.position‖) :
    (Roundable planner blendRadii i prev corner next ∧
      planner.cornerBlend blendRadii i prev corner next ‖corner.position - prev.position‖
          ‖next.position - corner.position‖ =
        planner.roundCorner prev corner next ‖corner.position - prev.position‖
          ‖next.position - corner.position‖ (segmentDirection prev corner)
          (segmentDirection corner next)
          (min (planner.requestedAt blendRadii i prev corner next *
            tan (cornerAngle prev corner next / 2)) (maxOffset prev corner next))
          (tan (cornerAngle prev corner next / 2)) (sin (cornerAngle prev corner next / 2))) ∨
    (¬Roundable planner blendRadii i prev corner next ∧
      planner.cornerBlend blendRadii i prev corner next ‖corner.position - prev.position‖
        ‖next.position - corner.position‖ = {}) := by
  have hu := norm_segmentDirection hprev
  have hw := norm_segmentDirection hnext
  have hangle : arccos (clampUnit (dot (-segmentDirection prev corner)
      (segmentDirection corner next))) = cornerAngle prev corner next := by
    have hle := abs_real_inner_le_norm (-segmentDirection prev corner)
      (segmentDirection corner next)
    rw [norm_neg, hu, hw, one_mul] at hle
    rw [dot_eq_inner, arccos_clampUnit hle, cornerAngle, insideAngle, InnerProductGeometry.angle,
      norm_neg, hu, hw, one_mul, div_one]
  have hhalf : cornerAngle prev corner next * 0.5 = cornerAngle prev corner next / 2 := by ring
  rw [Planner.cornerBlend, ← direction, ← direction, ← segmentDirection, ← segmentDirection]
  dsimp only
  rw [hangle, hhalf, ← Planner.requestedAt, ← maxOffset,
    if_neg (not_or.mpr ⟨not_le.mpr hprev, not_le.mpr hnext⟩)]
  -- every guard is a `continue`
  split_ifs with h2 h3 h4 h5 h6 h7
  · exact .inr ⟨fun h => h2.elim h.angle_gt.not_ge h.angle_lt.not_ge, rfl⟩
  · exact .inr ⟨fun h => h.requested.not_ge h3, rfl⟩
  · exact .inr ⟨fun h => h.tan_half.not_ge h4, rfl⟩
  · exact .inr ⟨fun h => h.room.not_ge h5, rfl⟩
  · exact .inr ⟨fun h => h.bisector.not_ge h6, rfl⟩
  · exact .inr ⟨fun h => h.sin_half.not_ge h7, rfl⟩
  · have hmem := not_or.mp h2
    exact .inl ⟨⟨not_le.mp hmem.1, not_le.mp hmem.2, not_le.mp h3, not_le.mp h4, not_le.mp h5,
      not_le.mp h6, not_le.mp h7⟩, rfl⟩

/-- The half of an angle that is rounded. -/
theorem Roundable.half_pos {blendRadii : List ℝ} {i : ℕ}
    (h : Roundable planner blendRadii i prev corner next)
    (hprev : kPosEps < ‖corner.position - prev.position‖)
    (hnext : kPosEps < ‖next.position - corner.position‖) :
    0 < cos (cornerAngle prev corner next / 2) ∧ 0 < sin (cornerAngle prev corner next / 2) := by
  have hrange := CircularArc.half_insideAngle_mem (segmentDirection prev corner)
    (segmentDirection corner next)
  have hbisector := h.bisector
  have hsin := h.sin_half
  have hnonneg : 0 ≤ sin (cornerAngle prev corner next / 2) :=
    sin_nonneg_of_nonneg_of_le_pi hrange.1 (hrange.2.trans (half_le_self pi_pos.le))
  rw [CircularArc.norm_bisector (norm_segmentDirection hprev) (norm_segmentDirection hnext),
    ← cornerAngle] at hbisector
  rw [abs_of_nonneg hnonneg] at hsin
  have hpos := kPosEps_pos
  exact ⟨by linarith, hpos.trans hsin⟩

/-- What `cornerBlend` gives for a corner that it rounds: the tangent points lie in the halves of
the segments that end at the corner. -/
theorem rounded_of_cornerBlend {blendRadii : List ℝ} {i : ℕ}
    (hprev : kPosEps < ‖corner.position - prev.position‖)
    (hnext : kPosEps < ‖next.position - corner.position‖)
    (hblend : planner.cornerBlend blendRadii i prev corner next
      ‖corner.position - prev.position‖ ‖next.position - corner.position‖ = blend)
    (hvalid : blend.valid = true) :
    ∃ offset, Rounded prev corner next offset blend ∧
      min (kPosEps * tan (cornerAngle prev corner next / 2)) kPosEps < offset ∧
      offset ≤ 0.5 * ‖corner.position - prev.position‖ - 1e-6 ∧
      offset ≤ 0.5 * ‖next.position - corner.position‖ - 1e-6 := by
  obtain ⟨hround, heq⟩ | ⟨-, heq⟩ := cornerBlend_eq planner blendRadii i
    hprev hnext
  · obtain ⟨hcos, hsin⟩ := hround.half_pos hprev hnext
    have htan : 0 < tan (cornerAngle prev corner next / 2) := by
      rw [tan_eq_sin_div_cos]
      exact div_pos hsin hcos
    have hlow := min_lt_min (mul_lt_mul_of_pos_right hround.requested htan) hround.room
    have hhigh := min_le_right (planner.requestedAt blendRadii i prev corner next *
      tan (cornerAngle prev corner next / 2)) (maxOffset prev corner next)
    have hoffset := (lt_min (mul_pos kPosEps_pos htan) kPosEps_pos).trans hlow
    have hleft := min_le_left ‖corner.position - prev.position‖ ‖next.position - corner.position‖
    have hright := min_le_right ‖corner.position - prev.position‖ ‖next.position - corner.position‖
    rw [heq] at hblend
    refine ⟨_, rounded_of_roundCorner hoffset hcos hsin hblend hvalid, hlow, hhigh.trans ?_,
      hhigh.trans ?_⟩
    · rw [maxOffset]
      linarith
    · rw [maxOffset]
      linarith
  · rw [← hblend, heq] at hvalid
    exact absurd hvalid Bool.false_ne_true

namespace Rounded

/-- How far the centre is from the corner. -/
noncomputable def centerDistance (offset half : ℝ) : ℝ :=
  offset / tan half / sin half

variable (h : Rounded prev corner next offset blend)
  (hprev : kPosEps < ‖corner.position - prev.position‖)
  (hnext : kPosEps < ‖next.position - corner.position‖)

include h

theorem radialStart_eq' : blend.radialStart =
    -(offset • segmentDirection prev corner) -
      centerDistance offset (cornerAngle prev corner next / 2) •
        direction (-segmentDirection prev corner + segmentDirection corner next) := by
  rw [h.radialStart_eq, h.poseIn_eq, h.center_eq, h.radius_eq, centerDistance]
  abel

theorem radialEnd_eq : blend.radialEnd =
    offset • segmentDirection corner next -
      centerDistance offset (cornerAngle prev corner next / 2) •
        direction (-segmentDirection prev corner + segmentDirection corner next) := by
  rw [CornerBlend.radialEnd, h.poseOut_eq, h.center_eq, h.radius_eq, centerDistance]
  abel

/-- The deviation of the radii from the perpendicular, over the cosine of the angle. -/
theorem centerDistance_mul_cos : centerDistance offset (cornerAngle prev corner next / 2) *
      cos (cornerAngle prev corner next / 2) - offset =
    offset / sin (cornerAngle prev corner next / 2) ^ 2 * cos (cornerAngle prev corner next) := by
  have hsin := h.sin_half_pos.ne'
  have hcos := h.cos_half_pos.ne'
  have hdouble : cos (cornerAngle prev corner next) =
      cos (cornerAngle prev corner next / 2) ^ 2 - sin (cornerAngle prev corner next / 2) ^ 2 := by
    rw [← cos_two_mul', mul_div_cancel₀ _ (two_ne_zero' ℝ)]
  rw [centerDistance, tan_eq_sin_div_cos, hdouble]
  field_simp

/-- At a right angle, the radius that the corner records is the offset. -/
theorem radius_of_right (hright : cornerAngle prev corner next = π / 2) :
    blend.radius = offset := by
  rw [h.radius_eq, hright, show π / 2 / 2 = π / 4 by ring, tan_pi_div_four, div_one]

theorem centerDistance_of_right (hright : cornerAngle prev corner next = π / 2) :
    centerDistance offset (cornerAngle prev corner next / 2) *
      cos (cornerAngle prev corner next / 2) = offset := by
  have := h.centerDistance_mul_cos
  rw [hright, cos_pi_div_two, mul_zero, ← hright] at this
  linarith

theorem sq_centerDistance_of_right (hright : cornerAngle prev corner next = π / 2) :
    centerDistance offset (cornerAngle prev corner next / 2) ^ 2 = 2 * offset ^ 2 := by
  have hc := h.centerDistance_of_right hright
  have hhalf : cos (cornerAngle prev corner next / 2) ^ 2 = 1 / 2 := by
    rw [cos_sq, mul_div_cancel₀ _ (two_ne_zero' ℝ), hright, cos_pi_div_two]
    ring
  have hsq := congrArg (· ^ 2) hc
  simp only [mul_pow, hhalf] at hsq
  linarith

include hprev hnext

/-- The two tangent points are equally far from the centre. -/
theorem norm_radialStart : ‖blend.radialStart‖ = ‖blend.radialEnd‖ := by
  rw [h.radialStart_eq', h.radialEnd_eq]
  exact CircularArc.norm_entry_eq_exit (norm_segmentDirection hprev) (norm_segmentDirection hnext)
    h.cos_half_pos _ _

/-- The arc ends at the second tangent point. -/
theorem rotate_angle : rotate blend.angle blend.axis blend.radialStart = blend.radialEnd := by
  rw [h.angle_eq, h.axis_eq]
  exact CircularArc.rotate_normalized_cross (h.norm_radialStart hprev hnext) h.cross_ne

/-- How far the radius at the first tangent point is from being perpendicular. -/
theorem inner_radialStart : ⟪blend.radialStart, segmentDirection prev corner⟫ =
    centerDistance offset (cornerAngle prev corner next / 2) *
      cos (cornerAngle prev corner next / 2) - offset := by
  rw [h.radialStart_eq']
  exact CircularArc.inner_entry (norm_segmentDirection hprev) (norm_segmentDirection hnext)
    h.cos_half_pos _ _

theorem inner_radialEnd : ⟪blend.radialEnd, segmentDirection corner next⟫ =
    offset - centerDistance offset (cornerAngle prev corner next / 2) *
      cos (cornerAngle prev corner next / 2) := by
  rw [h.radialEnd_eq]
  exact CircularArc.inner_exit (norm_segmentDirection hprev) (norm_segmentDirection hnext)
    h.cos_half_pos _ _

/-- The arc is tangent to the segment before the corner exactly at a right angle. -/
theorem tangent_iff_right : ⟪blend.radialStart, segmentDirection prev corner⟫ = 0 ↔
    cornerAngle prev corner next = π / 2 := by
  have hfactor : offset / sin (cornerAngle prev corner next / 2) ^ 2 ≠ 0 :=
    div_ne_zero h.offset_pos.ne' (pow_ne_zero 2 h.sin_half_pos.ne')
  have hcos : cos (cornerAngle prev corner next) = 0 ↔ cornerAngle prev corner next = π / 2 := by
    rw [cornerAngle, insideAngle, InnerProductGeometry.cos_eq_zero_iff_angle_eq_pi_div_two]
  rw [h.inner_radialStart hprev hnext, h.centerDistance_mul_cos, mul_eq_zero,
    or_iff_right hfactor, hcos]

/-! ## Right angles -/

variable (hright : cornerAngle prev corner next = π / 2)

include hright

/-- At a right angle, the offset is the radius of the arc. -/
theorem norm_radialStart_of_right : ‖blend.radialStart‖ = offset := by
  refine (sq_eq_sq₀ (norm_nonneg _) h.offset_pos.le).mp ?_
  rw [h.radialStart_eq', CircularArc.norm_sq_entry (norm_segmentDirection hprev)
    (norm_segmentDirection hnext) h.cos_half_pos, ← cornerAngle,
    h.sq_centerDistance_of_right hright, mul_assoc (2 * offset),
    h.centerDistance_of_right hright]
  ring

/-- A right angle is rounded by a quarter of a circle. -/
theorem angle_of_right : blend.angle = π / 2 := by
  rw [h.angle_eq, ← CornerBlend.radialEnd,
    ← InnerProductGeometry.inner_eq_zero_iff_angle_eq_pi_div_two, h.radialStart_eq',
    h.radialEnd_eq, CircularArc.inner_entry_exit (norm_segmentDirection hprev)
      (norm_segmentDirection hnext) h.cos_half_pos, ← cornerAngle,
    h.sq_centerDistance_of_right hright, mul_assoc (2 * offset),
    h.centerDistance_of_right hright, hright, cos_pi_div_two]
  ring

end Rounded

end MoveL

end JointController
