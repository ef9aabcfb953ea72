import JointController.MoveL.PathPieces

/-!
# The distance along the path of an arm

* `sampleArmPath_eq_walk`: sampling a path reads the curve of its primitives.
* `RightAngled`: every corner that is rounded is a right angle; then the curve has no gap, by
  `joined_builtTo`, and its pieces are as long as they say, by `paced_of_shaped`.
* `sample_first`, `sample_last`, `dist_sample_le`: the ends of a path, and how far it moves.
-/

open Real
open scoped RealInnerProductSpace Quaternion CircularArc

namespace JointController

namespace MoveL

open CircularArc (Vector3 cross rotate direction)
open PiecewiseCurve

/-! ## Sampling -/

namespace Planner

variable (planner : Planner)

/-- The position in a primitive whose end is stamped. -/
theorem samplePrimitive_position {p : CartesianPrimitive} {c : ℝ}
    (h : p.cumulativeEnd = c + p.length) (d : ℝ) :
    (planner.samplePrimitive p d).position = p.piece.held (d - c) := by
  have hstart : p.cumulativeEnd - p.length = c := by
    rw [h, add_sub_cancel_right]
  show positionAt p (if 1e-9 < p.length then
    clamp (d - (p.cumulativeEnd - p.length)) 0 p.length / p.length else 1) = _
  rw [hstart]
  rfl

/-- The primitive that is found gives the point of the curve. -/
theorem find_spec (d : ℝ) {ps : List CartesianPrimitive} :
    ∀ {c : ℝ} {a : Vector3}, Stamped c ps → ps ≠ [] → d ≤ c + total (pieces ps) →
      ∃ p, (ps.find? fun candidate => decide (d ≤ candidate.cumulativeEnd + 1e-9)) = some p ∧
        (planner.samplePrimitive p d).position = walk 1e-9 (pieces ps) a (d - c) := by
  induction ps with
  | nil =>
    intro c a _ hne _
    exact absurd rfl hne
  | cons p ps ih =>
    intro c a hs _ hd
    have hwalk : walk 1e-9 (pieces (p :: ps)) a (d - c) =
        if d - c ≤ p.length + 1e-9 then p.piece.held (d - c)
        else walk 1e-9 (pieces ps) p.piece.finish (d - c - p.length) := rfl
    by_cases hin : d ≤ p.cumulativeEnd + 1e-9
    · refine ⟨p, List.find?_cons_of_pos (decide_eq_true hin), ?_⟩
      rw [planner.samplePrimitive_position hs.1, hwalk, if_pos]
      rw [hs.1] at hin
      linarith
    · have hout : ¬d - c ≤ p.length + 1e-9 := by
        rw [hs.1] at hin
        intro h
        exact hin (by linarith)
      have htotal : total (pieces (p :: ps)) = p.length + total (pieces ps) := rfl
      have hne : ps ≠ [] := by
        rintro rfl
        rw [htotal, pieces, List.map_nil, total_nil, add_zero] at hd
        refine hout ?_
        norm_num
        linarith
      rw [htotal, ← add_assoc] at hd
      obtain ⟨q, hq, hpos⟩ := ih (a := p.piece.finish) hs.2 hne hd
      refine ⟨q, ?_, ?_⟩
      · rw [List.find?_cons_of_neg (by simpa using! hin)]
        exact hq
      · rw [hpos, hwalk, if_neg hout, sub_sub]

end Planner

/-- A path that moves, from what has been built. -/
structure Moves (corners : List CornerBlend) (b : Build) (path : PlannedArmPath) : Prop where
  built : Built corners b
  nonempty : b.primitives ≠ []
  primitives_eq : path.primitives = b.primitives
  totalLength_eq : path.totalLength = b.cumulativeLength
  moving : path.moving = true

variable {corners : List CornerBlend} {b : Build} {path : PlannedArmPath}

theorem Built.lengths_nonneg (h : Built corners b) : ∀ q ∈ pieces b.primitives, 0 ≤ q.length := by
  intro q hq
  obtain ⟨p, hp, rfl⟩ := List.mem_map.mp hq
  exact (kPosEps_pos.trans (h.shaped p hp).long).le

/-- Sampling a path reads the curve of its primitives. -/
theorem sampleArmPath_eq_walk (planner : Planner) (h : Moves corners b path) (d : ℝ)
    (a : Vector3) : (planner.sampleArmPath path d).position =
      walk 1e-9 (pieces b.primitives) a (clamp d 0 path.totalLength) := by
  have htotal : path.totalLength = total (pieces b.primitives) := by
    rw [h.totalLength_eq, h.built.cumulative]
  have hle : clamp d 0 path.totalLength ≤ 0 + total (pieces b.primitives) := by
    rw [zero_add, ← htotal]
    exact max_le (htotal ▸ total_nonneg h.built.lengths_nonneg) (min_le_right _ _)
  obtain ⟨p, hfind, hpos⟩ := planner.find_spec _ (a := a) h.built.stamped h.nonempty hle
  rw [sub_zero] at hpos
  rw [← hpos]
  cases hb : b.primitives with
  | nil => exact absurd hb h.nonempty
  | cons first rest =>
    rw [hb] at hfind
    rw [Planner.sampleArmPath, h.moving, h.primitives_eq, hb]
    show (planner.samplePrimitive (Planner.primitiveAt first rest _) _).position = _
    rw [Planner.primitiveAt, hfind, Option.getD_some]

/-! ## The ends of a path -/

variable {anchors : List CartesianPose}

theorem segmentLine_start (h : Polyline anchors corners) {k : ℕ} (hk : k + 1 < anchors.length)
    (c : ℝ) : ({ segmentLine anchors corners k with cumulativeEnd := c } :
      CartesianPrimitive).piece.point 0 = (lineStart anchors corners k).position := by
  rw [piece_start (h.long_line hk), segmentLine, linePrimitive_positionAt, zero_smul, add_zero]

theorem segmentLine_finish (h : Polyline anchors corners) {k : ℕ} (hk : k + 1 < anchors.length)
    (c : ℝ) : ({ segmentLine anchors corners k with cumulativeEnd := c } :
      CartesianPrimitive).piece.finish = (lineEnd anchors corners k).position := by
  rw [piece_finish (h.long_line hk), segmentLine, linePrimitive_positionAt, one_smul,
    add_sub_cancel]

theorem clamp_zero {x : ℝ} (hx : 0 ≤ x) : clamp 0 0 x = 0 := by
  rw [clamp, min_eq_left hx, max_self]

theorem clamp_self {x : ℝ} (hx : 0 ≤ x) : clamp x 0 x = x := by
  rw [clamp, min_self, max_eq_right hx]

theorem Moves.totalLength_nonneg (h : Moves corners b path) : 0 ≤ path.totalLength := by
  rw [h.totalLength_eq, h.built.cumulative]
  exact total_nonneg h.built.lengths_nonneg

/-- A path starts at the first anchor. -/
theorem sample_first (planner : Planner) (hpoly : Polyline anchors corners) (allow : Bool) {n : ℕ}
    (hn : n + 2 = anchors.length) (h : Moves corners (builtTo allow anchors corners (n + 1)) path) :
    (planner.sampleArmPath path 0).position = (anchors.getD 0 default).position := by
  obtain ⟨c, rest, hfirst⟩ := builtTo_first hpoly allow (n := n) (by omega)
  have hlong := hpoly.long_line (k := 0) (by omega)
  rw [sampleArmPath_eq_walk planner h 0 0, clamp_zero h.totalLength_nonneg, hfirst, pieces,
    List.map_cons, walk_zero (by norm_num) _ _ (kPosEps_pos.trans hlong).le,
    segmentLine_start hpoly (by omega), lineStart, hpoly.not_first]
  rfl

/-- A path ends at the last anchor. -/
theorem sample_last (planner : Planner) (hpoly : Polyline anchors corners) (allow : Bool) {n : ℕ}
    (hn : n + 2 = anchors.length) (h : Moves corners (builtTo allow anchors corners (n + 1)) path) :
    (planner.sampleArmPath path path.totalLength).position =
      (anchors.getD (n + 1) default).position := by
  obtain ⟨c, hlast⟩ := builtTo_last hpoly allow hn
  have hlong := hpoly.long_line (k := n) (by omega)
  have hvalid : (corners.getD (n + 1) {}).valid = false := by
    refine Bool.eq_false_iff.mpr fun hv => ?_
    have := (hpoly.rounded n hv).1
    omega
  rw [sampleArmPath_eq_walk planner h _ 0, clamp_self h.totalLength_nonneg, h.totalLength_eq,
    h.built.cumulative, hlast, pieces_append]
  have hend := walk_total (a := (0 : Vector3)) (show (0 : ℝ) ≤ 1e-9 by norm_num)
    (built_builtTo hpoly allow (n := n) (by omega)).lengths_nonneg (tolerance_lt hlong)
    (p := ({ segmentLine anchors corners n with cumulativeEnd := c } : CartesianPrimitive).piece)
  rw [segmentLine_finish hpoly (by omega), lineEnd, hvalid] at hend
  exact hend

/-! ## Right angles -/

/-- Every corner that is rounded is a right angle. -/
def RightAngled (anchors : List CartesianPose) (corners : List CornerBlend) : Prop :=
  ∀ k, (corners.getD (k + 1) {}).valid = true →
    cornerAngle (anchors.getD k default) (anchors.getD (k + 1) default)
      (anchors.getD (k + 2) default) = π / 2

section Right

variable (hpoly : Polyline anchors corners) {k : ℕ}
  (hvalid : (corners.getD (k + 1) {}).valid = true)
  (hright : cornerAngle (anchors.getD k default) (anchors.getD (k + 1) default)
    (anchors.getD (k + 2) default) = π / 2)

include hpoly hvalid hright

/-- The arc at a right angle is as long as its radius times its angle. -/
theorem length_of_right : (corners.getD (k + 1) {}).radius * (corners.getD (k + 1) {}).angle =
    ‖(corners.getD (k + 1) {}).radialStart‖ * (corners.getD (k + 1) {}).angle := by
  obtain ⟨hk, offset, hround, -, -, -⟩ := hpoly.rounded k hvalid
  rw [hround.radius_of_right hright, hround.norm_radialStart_of_right (hpoly.apart k (by omega))
    (hpoly.apart (k + 1) hk) hright]

/-- The arc at a right angle is long enough to be pushed. -/
theorem long_of_right :
    kPosEps < (corners.getD (k + 1) {}).radius * (corners.getD (k + 1) {}).angle := by
  obtain ⟨hk, offset, hround, hlow, -, -⟩ := hpoly.rounded k hvalid
  rw [hright, show π / 2 / 2 = π / 4 by ring, tan_pi_div_four, mul_one, min_self] at hlow
  have hpi : 1 ≤ π / 2 := one_le_pi_div_two
  rw [hround.radius_of_right hright, hround.angle_of_right (hpoly.apart k (by omega))
    (hpoly.apart (k + 1) hk) hright]
  exact hlow.trans_le (le_mul_of_one_le_right hround.offset_pos.le hpi)

end Right

/-- At right angles, the pieces of a path are as long as they say. -/
theorem paced_of_shaped (hpoly : Polyline anchors corners) (hright : RightAngled anchors corners)
    {p : CartesianPrimitive} (hp : Shaped corners p) : p.piece.Paced := by
  cases hp with
  | line a b c h => exact paced_line c h
  | arc k c hvalid h =>
    obtain ⟨hk, offset, hround, -, -, -⟩ := hpoly.rounded k hvalid
    refine paced_arc c h (length_of_right hpoly hvalid (hright k hvalid)) ?_ ?_ ?_
    · rw [hround.angle_eq]
      exact InnerProductGeometry.angle_nonneg _ _
    · rw [hround.axis_eq]
      exact CircularArc.norm_direction hround.cross_ne
    · rw [hround.axis_eq]
      exact CircularArc.inner_direction_cross _ _

/-- The arc of a rounded corner, from its first tangent point to its second. -/
theorem arc_ends (hpoly : Polyline anchors corners) {k : ℕ}
    (hvalid : (corners.getD (k + 1) {}).valid = true) (c : ℝ) :
    Planner.positionAt { arcPrimitive (corners.getD (k + 1) {}) with cumulativeEnd := c } 0 =
        (corners.getD (k + 1) {}).poseIn.position ∧
      Planner.positionAt { arcPrimitive (corners.getD (k + 1) {}) with cumulativeEnd := c } 1 =
        (corners.getD (k + 1) {}).poseOut.position := by
  obtain ⟨hk, offset, hround, -, -, -⟩ := hpoly.rounded k hvalid
  constructor
  · have hperp : ⟪(corners.getD (k + 1) {}).axis, (corners.getD (k + 1) {}).radialStart⟫ = 0 := by
      rw [hround.axis_eq]
      exact CircularArc.inner_direction_cross _ _
    rw [arcPrimitive_positionAt, mul_zero, CircularArc.rotate_of_perpendicular hperp,
      CircularArc.turned_zero, hround.radialStart_eq, add_sub_cancel]
  · rw [arcPrimitive_positionAt, mul_one, hround.rotate_angle (hpoly.apart k (by omega))
      (hpoly.apart (k + 1) hk), CornerBlend.radialEnd, add_sub_cancel]

/-- A primitive that is pushed goes on where the path has come to. -/
theorem joined_push {b : Build} {p : CartesianPrimitive} {a x y : Vector3}
    (h : Joined a (pieces b.primitives) x) (hlong : kPosEps < p.length)
    (hstart : ∀ c, Planner.positionAt { p with cumulativeEnd := c } 0 = x)
    (hend : ∀ c, Planner.positionAt { p with cumulativeEnd := c } 1 = y) :
    Joined a (pieces (b.pushPrimitive p).primitives) y := by
  have hstamped : kPosEps < ({ p with cumulativeEnd := b.cumulativeLength + p.length } :
    CartesianPrimitive).length := hlong
  rw [← hstart (b.cumulativeLength + p.length), ← piece_start hstamped] at h
  rw [Build.pushPrimitive, pieces_append, ← hend (b.cumulativeLength + p.length),
    ← piece_finish hstamped]
  exact h.concat

/-- At right angles, a path has no gap: after `n` segments it has come to where the next line
starts. -/
theorem joined_builtTo (hpoly : Polyline anchors corners) (hright : RightAngled anchors corners)
    (allow : Bool) {n : ℕ} (hn : n + 1 ≤ anchors.length) :
    Joined (anchors.getD 0 default).position (pieces (builtTo allow anchors corners n).primitives)
      (lineStart anchors corners n).position := by
  induction n with
  | zero =>
    rw [lineStart, hpoly.not_first]
    rfl
  | succ n ih =>
    have hk : n + 1 < anchors.length := by omega
    have hline : Joined (anchors.getD 0 default).position
        (pieces ((builtTo allow anchors corners n).pushPrimitive
          (segmentLine anchors corners n)).primitives) (lineEnd anchors corners n).position := by
      refine joined_push (ih (by omega)) (hpoly.long_line hk) (fun c => ?_) fun c => ?_
      · rw [segmentLine, linePrimitive_positionAt, zero_smul, add_zero]
      · rw [segmentLine, linePrimitive_positionAt, one_smul, add_sub_cancel]
    rw [builtTo_succ, hpoly.pushSegment_eq hk, ← segmentLine]
    by_cases hvalid : (corners.getD (n + 1) {}).valid = true
    · have hlong := long_of_right hpoly hvalid (hright n hvalid)
      rw [lineEnd, if_pos hvalid] at hline
      rw [if_pos hvalid, Build.pushArc, if_pos hlong, lineStart, if_pos hvalid]
      exact joined_push (b := Build.countArc _ _) hline hlong
        (fun c => (arc_ends hpoly hvalid c).1) fun c => (arc_ends hpoly hvalid c).2
    · rw [lineEnd, if_neg hvalid] at hline
      rw [if_neg hvalid, lineStart, if_neg hvalid]
      exact hline

/-- What is built for anchors that lie apart moves. -/
theorem moves_builtTo (hpoly : Polyline anchors corners) (allow : Bool) {n : ℕ}
    (hn : n + 2 = anchors.length)
    (hprimitives : path.primitives = (builtTo allow anchors corners (n + 1)).primitives)
    (htotal : path.totalLength = (builtTo allow anchors corners (n + 1)).cumulativeLength)
    (hmoving : path.moving = decide (kPosEps < path.totalLength)) :
    Moves corners (builtTo allow anchors corners (n + 1)) path := by
  have hbuilt := built_builtTo hpoly allow (n := n + 1) (by omega)
  obtain ⟨c, hlast⟩ := builtTo_last hpoly allow hn
  refine ⟨hbuilt, ?_, hprimitives, htotal, ?_⟩
  · rw [hlast]
    exact List.concat_ne_nil _ _
  · have hrest := total_nonneg
      (built_builtTo hpoly allow (n := n) (by omega)).lengths_nonneg
    have hlong := hpoly.long_line (k := n) (by omega)
    have hsum : total (pieces (builtTo allow anchors corners (n + 1)).primitives) =
        total (pieces (builtTo allow anchors corners n).primitives) +
          ‖(lineEnd anchors corners n).position - (lineStart anchors corners n).position‖ := by
      rw [hlast, pieces_append, total_append]
      exact congrArg _ (add_zero _)
    rw [hmoving, htotal, hbuilt.cumulative, hsum]
    exact decide_eq_true (hlong.trans_le (le_add_of_nonneg_left hrest))

/-- At right angles, the positions of a path are no further apart than their distances. -/
theorem dist_sample_le (planner : Planner) (hpoly : Polyline anchors corners)
    (hright : RightAngled anchors corners) (allow : Bool) {n : ℕ} (hn : n + 2 = anchors.length)
    (h : Moves corners (builtTo allow anchors corners (n + 1)) path) (d₁ d₂ : ℝ) :
    dist (planner.sampleArmPath path d₁).position (planner.sampleArmPath path d₂).position ≤
      |d₂ - d₁| + 1e-9 := by
  have hjoined := joined_builtTo hpoly hright allow (n := n + 1) (by omega)
  have hpaced : ∀ q ∈ pieces (builtTo allow anchors corners (n + 1)).primitives, q.Paced := by
    intro q hq
    obtain ⟨p, hp, rfl⟩ := List.mem_map.mp hq
    exact paced_of_shaped hpoly hright (h.built.shaped p hp)
  have hforward : ∀ d e, d ≤ e → dist (planner.sampleArmPath path d).position
      (planner.sampleArmPath path e).position ≤ e - d + 1e-9 := by
    intro d e hde
    rw [sampleArmPath_eq_walk planner h d (anchors.getD 0 default).position,
      sampleArmPath_eq_walk planner h e (anchors.getD 0 default).position]
    have hclamp : clamp d 0 path.totalLength ≤ clamp e 0 path.totalLength :=
      max_le_max le_rfl (min_le_min hde le_rfl)
    have hshort : clamp e 0 path.totalLength - clamp d 0 path.totalLength ≤ e - d := by
      rw [clamp, clamp]
      grind
    refine (dist_walk_le (by norm_num) hjoined hpaced hclamp).trans ?_
    exact add_le_add_left hshort _
  rcases le_total d₁ d₂ with hle | hle
  · rw [abs_of_nonneg (sub_nonneg.mpr hle)]
    exact hforward d₁ d₂ hle
  · rw [dist_comm, abs_sub_comm, abs_of_nonneg (sub_nonneg.mpr hle)]
    exact hforward d₂ d₁ hle

end MoveL

end JointController
