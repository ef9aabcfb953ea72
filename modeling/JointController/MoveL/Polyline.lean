import JointController.MoveL.CornerArc
import Mathlib.Data.List.GetD

/-!
# The polyline of the anchors

* `Polyline`: anchors that lie apart, with the corners between them.
* `polyline_corners`: the corners that `buildArmPath` finds for such anchors.
* `pushSegment_eq`: every segment keeps a line, and the arc of a rounded corner follows it.
-/

open Real

namespace JointController

namespace MoveL

open CircularArc (Vector3 direction)

/-! ## Anchors and corners -/

/-- Consecutive anchors lie apart. -/
def Apart (a b : CartesianPose) : Prop :=
  kPosEps < ‖b.position - a.position‖

/-- The anchors of a polyline and its corners. -/
structure Polyline (anchors : List CartesianPose) (corners : List CornerBlend) : Prop where
  apart : ∀ i, i + 1 < anchors.length →
    Apart (anchors.getD i default) (anchors.getD (i + 1) default)
  length_corners : corners.length = anchors.length
  not_first : (corners.getD 0 {}).valid = false
  rounded : ∀ i, (corners.getD (i + 1) {}).valid = true → i + 2 < anchors.length ∧
    ∃ offset, Rounded (anchors.getD i default) (anchors.getD (i + 1) default)
        (anchors.getD (i + 2) default) offset (corners.getD (i + 1) {}) ∧
      min (kPosEps * tan (cornerAngle (anchors.getD i default) (anchors.getD (i + 1) default)
        (anchors.getD (i + 2) default) / 2)) kPosEps < offset ∧
      offset ≤ 0.5 * ‖(anchors.getD (i + 1) default).position -
        (anchors.getD i default).position‖ - 1e-6 ∧
      offset ≤ 0.5 * ‖(anchors.getD (i + 2) default).position -
        (anchors.getD (i + 1) default).position‖ - 1e-6

theorem translationLengths_of_apart (armName : String) (allow : Bool) :
    ∀ anchors : List CartesianPose, anchors.IsChain Apart → ∃ lengths,
      translationLengths armName allow anchors = .ok lengths ∧
      ∀ i, i + 1 < anchors.length → lengths.getD i 0 =
        ‖(anchors.getD (i + 1) default).position - (anchors.getD i default).position‖
  | [], _ => ⟨[], rfl, fun i hi => absurd hi (by simp)⟩
  | [a], _ => ⟨[], rfl, fun i hi => absurd hi (by simp)⟩
  | a :: b :: anchors, h => by
    have hab : Apart a b := (List.isChain_cons_cons.mp h).1
    obtain ⟨lengths, hlengths, hread⟩ :=
      translationLengths_of_apart armName allow (b :: anchors) (List.isChain_cons_cons.mp h).2
    have hlong : ¬(‖b.position - a.position‖ < kPosEps ∧
        kRotEps < quaternionAngularDistance a.orientation b.orientation) :=
      fun h => lt_asymm hab h.1
    refine ⟨‖b.position - a.position‖ :: lengths, ?_, ?_⟩
    · rw [translationLengths, if_neg hlong, hlengths]
      rfl
    · rintro (_ | i) hi
      · rfl
      · exact hread i (Nat.lt_of_succ_lt_succ hi)

theorem corners_getD (planner : Planner) (blendRadii : List ℝ) (anchors : List CartesianPose)
    (lengths : List ℝ) (i : ℕ) :
    (planner.corners blendRadii anchors lengths).getD i {} =
      if 1 ≤ i ∧ i + 1 < anchors.length then
        planner.cornerBlend blendRadii i (anchors.getD (i - 1) default) (anchors.getD i default)
          (anchors.getD (i + 1) default) (lengths.getD (i - 1) 0) (lengths.getD i 0)
      else {} := by
  by_cases hi : i < anchors.length
  · rw [List.getD_eq_getElem?_getD, Planner.corners, List.getElem?_map, List.getElem?_range hi]
    rfl
  · rw [if_neg fun h => hi (by omega)]
    refine List.getD_eq_default _ _ ?_
    rw [Planner.corners, List.length_map, List.length_range]
    exact not_lt.mp hi

/-- The anchors of a path and the corners that are built for them. -/
theorem polyline_corners (planner : Planner) (blendRadii : List ℝ) {anchors : List CartesianPose}
    {lengths : List ℝ} (hchain : anchors.IsChain Apart)
    (hread : ∀ i, i + 1 < anchors.length → lengths.getD i 0 =
      ‖(anchors.getD (i + 1) default).position - (anchors.getD i default).position‖) :
    Polyline anchors (planner.corners blendRadii anchors lengths) := by
  have hapart : ∀ i, i + 1 < anchors.length →
      Apart (anchors.getD i default) (anchors.getD (i + 1) default) := by
    intro i hi
    have := List.isChain_iff_getElem.mp hchain i hi
    rwa [List.getD_eq_getElem _ _ (Nat.lt_of_succ_lt hi), List.getD_eq_getElem _ _ hi]
  refine ⟨hapart, ?_, ?_, ?_⟩
  · rw [Planner.corners, List.length_map, List.length_range]
  · rw [corners_getD, if_neg fun h => absurd h.1 (by omega)]
  · intro i hvalid
    rw [corners_getD] at hvalid ⊢
    by_cases hi : 1 ≤ i + 1 ∧ i + 1 + 1 < anchors.length
    · rw [if_pos hi, Nat.add_sub_cancel, hread i (by omega), hread (i + 1) hi.2] at hvalid ⊢
      exact ⟨hi.2, rounded_of_cornerBlend (hapart i (by omega)) (hapart (i + 1) hi.2) rfl hvalid⟩
    · rw [if_neg hi] at hvalid
      exact absurd hvalid Bool.false_ne_true

/-! ## What is left of a segment -/

/-- Where the line of a segment starts. -/
noncomputable def lineStart (anchors : List CartesianPose) (corners : List CornerBlend) (k : ℕ) :
    CartesianPose :=
  if (corners.getD k {}).valid then (corners.getD k {}).poseOut else anchors.getD k default

/-- Where the line of a segment ends. -/
noncomputable def lineEnd (anchors : List CartesianPose) (corners : List CornerBlend) (k : ℕ) :
    CartesianPose :=
  if (corners.getD (k + 1) {}).valid then (corners.getD (k + 1) {}).poseIn
  else anchors.getD (k + 1) default

namespace Polyline

variable {anchors : List CartesianPose} {corners : List CornerBlend}

/-- The direction of a segment and the part that is left of it. -/
theorem line_eq (h : Polyline anchors corners) {k : ℕ} (hk : k + 1 < anchors.length) :
    ∃ r, kPosEps < r ∧ (lineEnd anchors corners k).position -
      (lineStart anchors corners k).position =
        r • segmentDirection (anchors.getD k default) (anchors.getD (k + 1) default) := by
  have hstart : ∃ a, (a = 0 ∨ a ≤ 0.5 * ‖(anchors.getD (k + 1) default).position -
      (anchors.getD k default).position‖ - 1e-6) ∧ (lineStart anchors corners k).position =
      (anchors.getD k default).position +
        a • segmentDirection (anchors.getD k default) (anchors.getD (k + 1) default) := by
    by_cases hvalid : (corners.getD k {}).valid = true
    · obtain _ | i := k
      · exact absurd (h.not_first ▸ hvalid) Bool.false_ne_true
      · obtain ⟨-, offset, hround, -, -, hle⟩ := h.rounded i hvalid
        exact ⟨offset, .inr hle, by rw [lineStart, if_pos hvalid, hround.poseOut_eq]⟩
    · exact ⟨0, .inl rfl, by rw [lineStart, if_neg hvalid, zero_smul, add_zero]⟩
  have hend : ∃ b, (b = 0 ∨ b ≤ 0.5 * ‖(anchors.getD (k + 1) default).position -
      (anchors.getD k default).position‖ - 1e-6) ∧ (lineEnd anchors corners k).position =
      (anchors.getD (k + 1) default).position -
        b • segmentDirection (anchors.getD k default) (anchors.getD (k + 1) default) := by
    by_cases hvalid : (corners.getD (k + 1) {}).valid = true
    · obtain ⟨-, offset, hround, -, hle, -⟩ := h.rounded k hvalid
      exact ⟨offset, .inr hle, by rw [lineEnd, if_pos hvalid, hround.poseIn_eq]⟩
    · exact ⟨0, .inl rfl, by rw [lineEnd, if_neg hvalid, zero_smul, sub_zero]⟩
  obtain ⟨a, ha, hstart⟩ := hstart
  obtain ⟨b, hb, hend⟩ := hend
  have hapart : kPosEps < ‖(anchors.getD (k + 1) default).position -
    (anchors.getD k default).position‖ := h.apart k hk
  have hdir : (anchors.getD (k + 1) default).position - (anchors.getD k default).position =
      ‖(anchors.getD (k + 1) default).position - (anchors.getD k default).position‖ •
        segmentDirection (anchors.getD k default) (anchors.getD (k + 1) default) := by
    rw [segmentDirection, direction, smul_inv_smul₀ (kPosEps_pos.trans hapart).ne']
  refine ⟨‖(anchors.getD (k + 1) default).position - (anchors.getD k default).position‖ - a - b,
    ?_, ?_⟩
  · rw [kPosEps] at hapart ⊢
    norm_num at hapart ha hb ⊢
    rcases ha with rfl | ha <;> rcases hb with rfl | hb <;> linarith
  · rw [hstart, hend, sub_smul, sub_smul, ← hdir]
    abel

/-- The line of a segment is long enough to be pushed. -/
theorem long_line (h : Polyline anchors corners) {k : ℕ} (hk : k + 1 < anchors.length) :
    kPosEps < ‖(lineEnd anchors corners k).position - (lineStart anchors corners k).position‖ := by
  obtain ⟨r, hr, heq⟩ := h.line_eq hk
  rw [heq, norm_smul, norm_segmentDirection (h.apart k hk), mul_one, norm_eq_abs,
    abs_of_pos (kPosEps_pos.trans hr)]
  exact hr

/-- What is pushed for a segment: its line, and the arc of the corner at its end. -/
theorem pushSegment_eq (h : Polyline anchors corners) {k : ℕ} (hk : k + 1 < anchors.length)
    (allow : Bool) (b : Build) :
    pushSegment allow anchors corners b k =
      if (corners.getD (k + 1) {}).valid then
        (b.pushPrimitive (linePrimitive (lineStart anchors corners k)
          (lineEnd anchors corners k))).pushArc (corners.getD (k + 1) {})
      else b.pushPrimitive (linePrimitive (lineStart anchors corners k)
        (lineEnd anchors corners k)) := by
  have hbefore : (0 < k ∧ (corners.getD k {}).valid = true) ↔ (corners.getD k {}).valid = true := by
    refine and_iff_right_of_imp fun hvalid => Nat.pos_of_ne_zero ?_
    rintro rfl
    exact absurd (h.not_first ▸ hvalid) Bool.false_ne_true
  have hafter : (k + 1 < corners.length ∧ (corners.getD (k + 1) {}).valid = true) ↔
      (corners.getD (k + 1) {}).valid = true :=
    and_iff_right (h.length_corners ▸ hk)
  have hlong := h.long_line hk
  simp only [pushSegment, hbefore, hafter]
  rw [← lineStart, ← lineEnd, Build.pushLine, if_pos hlong]

end Polyline

end MoveL

end JointController
