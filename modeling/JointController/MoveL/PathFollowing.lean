import JointController.MoveL.PathDistance

/-!
# What the path of an arm follows

* `ArcAt`, `TangentAt`, `RightAt`: an arc at a corner of the anchors.
* `tangentAt_iff_right`: an arc of a path is tangent to the segments exactly at a right angle.
* `follows_distance`: the arcs at right angles, the ends of a path, and how far it moves.
-/

open Real
open scoped RealInnerProductSpace Quaternion CircularArc

namespace JointController

namespace MoveL

open CircularArc (Vector3 cross rotate direction insideAngle)
open PiecewiseCurve

variable {corners : List CornerBlend} {anchors : List CartesianPose}

/-! ## The path that is built -/

/-- An anchor's position. -/
noncomputable def anchorAt (anchors : List CartesianPose) (i : ℕ) : Vector3 :=
  (anchors.getD i default).position

/-- The arc `p` lies at the corner behind the segment `i`: it leads from a point of that segment to
a point of the next one. -/
structure ArcAt (anchors : List CartesianPose) (i : ℕ) (p : CartesianPrimitive) : Prop where
  inner : i + 2 < anchors.length
  start_mem : p.startPose.position ∈ segment ℝ (anchorAt anchors i) (anchorAt anchors (i + 1))
  end_mem : p.endPose.position ∈ segment ℝ (anchorAt anchors (i + 1)) (anchorAt anchors (i + 2))
  radialStart_eq : p.radialStart = p.startPose.position - p.center
  positionAt_zero : Planner.positionAt p 0 = p.startPose.position
  positionAt_one : Planner.positionAt p 1 = p.endPose.position

/-- The corner behind the segment `i` is a right angle. -/
def RightAt (anchors : List CartesianPose) (i : ℕ) : Prop :=
  InnerProductGeometry.angle (anchorAt anchors i - anchorAt anchors (i + 1))
    (anchorAt anchors (i + 2) - anchorAt anchors (i + 1)) = π / 2

/-- The radii of the arc `p` at its two ends are perpendicular to the segments there. -/
structure TangentAt (anchors : List CartesianPose) (i : ℕ) (p : CartesianPrimitive) : Prop where
  entry : ⟪p.startPose.position - p.center, anchorAt anchors (i + 1) - anchorAt anchors i⟫ = 0
  exit : ⟪p.endPose.position - p.center, anchorAt anchors (i + 2) - anchorAt anchors (i + 1)⟫ = 0

/-- A vector between two anchors and its direction. -/
theorem smul_segmentDirection {a b : CartesianPose} (h : Apart a b) :
    ‖b.position - a.position‖ • segmentDirection a b = b.position - a.position := by
  rw [segmentDirection, direction, smul_inv_smul₀ (kPosEps_pos.trans h).ne']

theorem rightAt_iff (hpoly : Polyline anchors corners) {i : ℕ} (hi : i + 2 < anchors.length) :
    RightAt anchors i ↔ cornerAngle (anchors.getD i default) (anchors.getD (i + 1) default)
      (anchors.getD (i + 2) default) = π / 2 := by
  rw [RightAt, anchorAt, anchorAt, anchorAt, cornerAngle_eq_angle (hpoly.apart i (by omega))
    (hpoly.apart (i + 1) hi)]

/-- Where an arc of a path lies. -/
theorem arcAt_of_valid (hpoly : Polyline anchors corners) {i : ℕ}
    (hvalid : (corners.getD (i + 1) {}).valid = true) (c : ℝ) :
    ArcAt anchors i { arcPrimitive (corners.getD (i + 1) {}) with cumulativeEnd := c } := by
  obtain ⟨hi, offset, hround, -, hprev, hnext⟩ := hpoly.rounded i hvalid
  have hlenPrev := kPosEps_pos.trans (hpoly.apart i (by omega))
  have hlenNext := kPosEps_pos.trans (hpoly.apart (i + 1) hi)
  have hends := arc_ends hpoly hvalid c
  have hpos := hround.offset_pos
  refine ⟨hi, ?_, ?_, hround.radialStart_eq, hends.1, hends.2⟩
  · show (corners.getD (i + 1) {}).poseIn.position ∈ _
    rw [segment_symm, segment_eq_image']
    refine ⟨offset / ‖anchorAt anchors (i + 1) - anchorAt anchors i‖,
      ⟨(div_pos hpos hlenPrev).le, (div_le_one hlenPrev).mpr (by linarith)⟩, ?_⟩
    show anchorAt anchors (i + 1) + _ = _
    rw [hround.poseIn_eq, segmentDirection, direction, smul_smul, ← div_eq_mul_inv,
      ← neg_sub (anchorAt anchors (i + 1)) (anchorAt anchors i), smul_neg, ← sub_eq_add_neg]
    rfl
  · show (corners.getD (i + 1) {}).poseOut.position ∈ _
    rw [segment_eq_image']
    refine ⟨offset / ‖anchorAt anchors (i + 2) - anchorAt anchors (i + 1)‖,
      ⟨(div_pos hpos hlenNext).le, (div_le_one hlenNext).mpr (by linarith)⟩, ?_⟩
    show anchorAt anchors (i + 1) + _ = _
    rw [hround.poseOut_eq, segmentDirection, direction, smul_smul, ← div_eq_mul_inv]
    rfl

/-- The arc at a right angle is tangent to both segments. -/
theorem tangentAt_of_right (hpoly : Polyline anchors corners) {i : ℕ}
    (hvalid : (corners.getD (i + 1) {}).valid = true)
    (hright : cornerAngle (anchors.getD i default) (anchors.getD (i + 1) default)
      (anchors.getD (i + 2) default) = π / 2) (c : ℝ) :
    TangentAt anchors i { arcPrimitive (corners.getD (i + 1) {}) with cumulativeEnd := c } := by
  obtain ⟨hi, offset, hround, -, -, -⟩ := hpoly.rounded i hvalid
  have hprev := hpoly.apart i (by omega)
  have hnext := hpoly.apart (i + 1) hi
  have hcenter := hround.centerDistance_of_right hright
  constructor
  · show ⟪(corners.getD (i + 1) {}).poseIn.position - (corners.getD (i + 1) {}).center,
      (anchors.getD (i + 1) default).position - (anchors.getD i default).position⟫ = 0
    rw [← hround.radialStart_eq, ← smul_segmentDirection hprev, inner_smul_right,
      hround.inner_radialStart hprev hnext, hcenter, sub_self, mul_zero]
  · show ⟪(corners.getD (i + 1) {}).radialEnd,
      (anchors.getD (i + 2) default).position - (anchors.getD (i + 1) default).position⟫ = 0
    rw [← smul_segmentDirection hnext, inner_smul_right,
      hround.inner_radialEnd hprev hnext, hcenter, sub_self, mul_zero]

/-- The arc at a corner is tangent to the segments only at a right angle. -/
theorem tangentAt_iff_right (hpoly : Polyline anchors corners) {i : ℕ}
    (hvalid : (corners.getD (i + 1) {}).valid = true) (c : ℝ) :
    TangentAt anchors i { arcPrimitive (corners.getD (i + 1) {}) with cumulativeEnd := c } ↔
      RightAt anchors i := by
  obtain ⟨hi, offset, hround, -, -, -⟩ := hpoly.rounded i hvalid
  have hprev := hpoly.apart i (by omega)
  have hnext := hpoly.apart (i + 1) hi
  rw [rightAt_iff hpoly hi]
  refine ⟨fun h => ?_, fun h => tangentAt_of_right hpoly hvalid h c⟩
  have hentry : ⟪(corners.getD (i + 1) {}).poseIn.position - (corners.getD (i + 1) {}).center,
      (anchors.getD (i + 1) default).position - (anchors.getD i default).position⟫ = 0 := h.entry
  rw [← hround.radialStart_eq, ← smul_segmentDirection hprev, inner_smul_right] at hentry
  exact (hround.tangent_iff_right hprev hnext).mp
    ((mul_eq_zero_iff_left (kPosEps_pos.trans hprev).ne').mp hentry)

/-- Anchors that lie apart have a path. -/
theorem buildArmPath_of_apart (planner : Planner) (armName : String) {startPose : CartesianPose}
    {waypoints : List CartesianPose} (blendRadii : List ℝ) (allow : Bool)
    (hapart : (startPose :: waypoints).IsChain Apart) : ∃ lengths path,
      planner.buildArmPath armName true startPose waypoints blendRadii allow = .ok path ∧
      (∀ i, i + 1 < (startPose :: waypoints).length → lengths.getD i 0 =
        ‖anchorAt (startPose :: waypoints) (i + 1) - anchorAt (startPose :: waypoints) i‖) ∧
      path.primitives = (builtTo allow (startPose :: waypoints)
        (planner.corners blendRadii (startPose :: waypoints) lengths) waypoints.length).primitives ∧
      path.totalLength = (builtTo allow (startPose :: waypoints)
        (planner.corners blendRadii (startPose :: waypoints) lengths)
          waypoints.length).cumulativeLength ∧
      path.moving = decide (kPosEps < path.totalLength) ∧
      path.holdPose = waypoints.getLastD startPose := by
  obtain ⟨lengths, hlengths, hread⟩ := translationLengths_of_apart armName allow _ hapart
  refine ⟨lengths, ?_⟩
  rw [Planner.buildArmPath, Bool.not_true, if_neg Bool.false_ne_true]
  dsimp only
  rw [hlengths]
  exact ⟨_, rfl, hread, rfl, rfl, rfl, rfl⟩

theorem anchorAt_last (startPose : CartesianPose) (waypoints : List CartesianPose) :
    anchorAt (startPose :: waypoints) waypoints.length =
      (waypoints.getLastD startPose).position := by
  rw [anchorAt]
  congr 1
  cases hw : waypoints.reverse with
  | nil =>
    obtain rfl := List.reverse_eq_nil_iff.mp hw
    rfl
  | cons p ps =>
    have heq : waypoints = ps.reverse ++ [p] := by
      rw [← List.reverse_cons, ← hw, List.reverse_reverse]
    rw [heq, List.getLastD_concat, List.length_append, List.length_singleton,
      List.getD_cons_succ, List.getD_append_right _ _ _ _ le_rfl, Nat.sub_self]
    rfl

/-- How the corner behind the segment `i` is rounded. -/
noncomputable def Planner.roundedAt (planner : Planner) (blendRadii : List ℝ)
    (anchors : List CartesianPose) (i : ℕ) : CornerBlend :=
  planner.cornerBlend blendRadii (i + 1) (anchors.getD i default) (anchors.getD (i + 1) default)
    (anchors.getD (i + 2) default) ‖anchorAt anchors (i + 1) - anchorAt anchors i‖
    ‖anchorAt anchors (i + 2) - anchorAt anchors (i + 1)‖

/-- Right angles where corners are rounded. -/
theorem rightAngled_corners {planner : Planner} {blendRadii : List ℝ}
    {anchors : List CartesianPose} {lengths : List ℝ}
    (hpoly : Polyline anchors (planner.corners blendRadii anchors lengths))
    (hread : ∀ i, i + 1 < anchors.length →
      lengths.getD i 0 = ‖anchorAt anchors (i + 1) - anchorAt anchors i‖)
    (h : ∀ i, i + 2 < anchors.length → (planner.roundedAt blendRadii anchors i).valid = true →
      RightAt anchors i) :
    RightAngled anchors (planner.corners blendRadii anchors lengths) := by
  intro i hvalid
  obtain ⟨hi, -⟩ := hpoly.rounded i hvalid
  refine (rightAt_iff hpoly hi).mp (h i hi ?_)
  rw [corners_getD, if_pos ⟨Nat.le_add_left 1 i, hi⟩, Nat.add_sub_cancel, hread i (by omega),
    hread (i + 1) hi] at hvalid
  exact hvalid

theorem builtTo_zero (allow : Bool) (anchors : List CartesianPose) (corners : List CornerBlend) :
    builtTo allow anchors corners 0 = {} := rfl

/-- The arc of a rounded corner is in the path, if it is long enough. -/
theorem mem_builtTo_arc {anchors : List CartesianPose} {corners : List CornerBlend}
    (hpoly : Polyline anchors corners) (allow : Bool) {k : ℕ}
    (hvalid : (corners.getD (k + 1) {}).valid = true)
    (hlong : kPosEps < (corners.getD (k + 1) {}).radius * (corners.getD (k + 1) {}).angle) {n : ℕ}
    (hk : k < n) (hn : n + 1 ≤ anchors.length) :
    ∃ c, { arcPrimitive (corners.getD (k + 1) {}) with cumulativeEnd := c } ∈
      (builtTo allow anchors corners n).primitives := by
  induction n with
  | zero => omega
  | succ n ih =>
    rcases Nat.lt_succ_iff_lt_or_eq.mp hk with hlt | rfl
    · obtain ⟨c, hc⟩ := ih hlt (by omega)
      obtain ⟨c', arcs, heq, -⟩ :=
        primitives_pushSegment hpoly (k := n) (by omega) allow (builtTo allow anchors corners n)
      exact ⟨c, by rw [builtTo_succ, heq]; exact List.mem_append_left _ hc⟩
    · rw [builtTo_succ, hpoly.pushSegment_eq (by omega), if_pos hvalid, Build.pushArc, if_pos hlong]
      exact ⟨_, List.mem_append_right _ (List.mem_singleton_self _)⟩

/-- A corner that does not turn is not rounded. -/
theorem straight_not_rounded {anchors : List CartesianPose} {corners : List CornerBlend}
    (hpoly : Polyline anchors corners) {k : ℕ}
    (h : cornerAngle (anchors.getD k default) (anchors.getD (k + 1) default)
      (anchors.getD (k + 2) default) = π) : (corners.getD (k + 1) {}).valid = false := by
  refine Bool.eq_false_iff.mpr fun hv => ?_
  obtain ⟨-, offset, hround, -⟩ := hpoly.rounded k hv
  have hcos := hround.cos_half_pos
  rw [h, cos_pi_div_two] at hcos
  exact lt_irrefl _ hcos

/-- For anchors that lie apart, `buildArmPath` finds a path.  Every arc of it lies at a corner, and
at a right angle it is tangent to the segments and as long as its radius times its angle.  The
positions that `sampleArmPath` returns start at the first anchor and end at the last.  If every
corner that is rounded is a right angle, they move no further than the distance along the path and
the tolerance with which a primitive is found. -/
theorem follows_distance (planner : Planner) (armName : String) (startPose : CartesianPose)
    (waypoints : List CartesianPose) (blendRadii : List ℝ) (allow : Bool)
    (hapart : (startPose :: waypoints).IsChain Apart) :
    ∃ path, planner.buildArmPath armName true startPose waypoints blendRadii allow = .ok path ∧
      (∀ p ∈ path.primitives, p.type = .arc → ∃ i, ArcAt (startPose :: waypoints) i p ∧
        (RightAt (startPose :: waypoints) i → TangentAt (startPose :: waypoints) i p ∧
          p.length = ‖p.radialStart‖ * p.angle)) ∧
      (planner.sampleArmPath path 0).position = startPose.position ∧
      (planner.sampleArmPath path path.totalLength).position =
        (waypoints.getLastD startPose).position ∧
      ((∀ i, i + 2 < (startPose :: waypoints).length →
          (planner.roundedAt blendRadii (startPose :: waypoints) i).valid = true →
            RightAt (startPose :: waypoints) i) →
        ∀ d₁ d₂, dist (planner.sampleArmPath path d₁).position
          (planner.sampleArmPath path d₂).position ≤ |d₂ - d₁| + 1e-9) := by
  obtain ⟨lengths, path, hpath, hread, hprimitives, htotal, hmoving, hhold⟩ :=
    buildArmPath_of_apart planner armName blendRadii allow hapart
  have hpoly : Polyline (startPose :: waypoints)
      (planner.corners blendRadii (startPose :: waypoints) lengths) :=
    polyline_corners planner blendRadii hapart hread
  refine ⟨path, hpath, ?_, ?_⟩
  · intro p hp htype
    rw [hprimitives] at hp
    have hbuilt := built_builtTo hpoly allow (n := waypoints.length) (by simp)
    cases hbuilt.shaped p hp with
    | line a b c h => cases htype
    | arc k c hvalid h =>
      refine ⟨k, arcAt_of_valid hpoly hvalid c, fun hr => ?_⟩
      have hright := (rightAt_iff hpoly (hpoly.rounded k hvalid).1).mp hr
      exact ⟨tangentAt_of_right hpoly hvalid hright c, length_of_right hpoly hvalid hright⟩
  · obtain _ | ⟨w, ws⟩ := waypoints
    · have hstay : ∀ d, planner.sampleArmPath path d = startPose := by
        intro d
        rw [Planner.sampleArmPath, hprimitives]
        cases path.moving <;> exact hhold
      refine ⟨by rw [hstay], by rw [hstay]; rfl, fun _ d₁ d₂ => ?_⟩
      rw [hstay, hstay, dist_self]
      positivity
    · have hmoves := moves_builtTo hpoly allow rfl hprimitives htotal hmoving
      refine ⟨sample_first planner hpoly allow rfl hmoves, ?_, fun h =>
        dist_sample_le planner hpoly (rightAngled_corners hpoly hread h) allow rfl hmoves⟩
      rw [sample_last planner hpoly allow rfl hmoves, ← anchorAt_last]
      rfl

/-- A planner of poses that are all turned the same way. -/
noncomputable def benchPlanner : Planner where
  slerp a _ _ := a
  configuredAutoBlendTangentRatio := 0.05

noncomputable def benchPose (x y : ℝ) : CartesianPose where
  position := !₂[x, y, 0]
  orientation := 1

theorem norm_benchPose (x y x' y' : ℝ) :
    ‖(benchPose x y).position - (benchPose x' y').position‖ = √((x - x') ^ 2 + (y - y') ^ 2) := by
  rw [EuclideanSpace.norm_eq, Fin.sum_univ_three]
  simp [benchPose]

theorem inner_benchPose (x y x' y' a b a' b' : ℝ) :
    ⟪(benchPose x y).position - (benchPose x' y').position,
      (benchPose a b).position - (benchPose a' b').position⟫ =
        (x - x') * (a - a') + (y - y') * (b - b') := by
  rw [CircularArc.inner_eq_dotProduct, Matrix.vec3_dotProduct]
  simp [benchPose]

theorem follows_distance_bench : ∃ path, benchPlanner.buildArmPath "left" true (benchPose 0 0)
      [benchPose 1 0, benchPose 1 1] [] false = .ok path ∧
    (benchPlanner.sampleArmPath path path.totalLength).position = (benchPose 1 1).position ∧
    ∀ d₁ d₂, dist (benchPlanner.sampleArmPath path d₁).position
      (benchPlanner.sampleArmPath path d₂).position ≤ |d₂ - d₁| + 1e-9 := by
  have hapart : [benchPose 0 0, benchPose 1 0, benchPose 1 1].IsChain Apart := by
    simp only [List.isChain_cons_cons, List.isChain_singleton, and_true, Apart, norm_benchPose,
      kPosEps]
    norm_num
  obtain ⟨path, hpath, -, -, hlast, hmove⟩ :=
    follows_distance benchPlanner "left" (benchPose 0 0) [benchPose 1 0, benchPose 1 1] [] false
      hapart
  refine ⟨path, hpath, hlast, hmove fun i hi _ => ?_⟩
  obtain rfl : i = 0 := by
    simp at hi
    omega
  rw [RightAt, ← InnerProductGeometry.inner_eq_zero_iff_angle_eq_pi_div_two]
  refine (inner_benchPose 0 0 1 0 1 1 1 0).trans ?_
  norm_num


/-- On two segments in one line, a path is the two segments. -/
theorem primitives_of_straight {a b c : CartesianPose} (hpoly : Polyline [a, b, c] corners)
    (h : cornerAngle a b c = π) (allow : Bool) :
    ∃ s t, (builtTo allow [a, b, c] corners 2).primitives =
      [{ linePrimitive a b with cumulativeEnd := s },
        { linePrimitive b c with cumulativeEnd := t }] := by
  have hfirst : (corners.getD 1 {}).valid = false := straight_not_rounded hpoly (k := 0) h
  have hlast : (corners.getD 2 {}).valid = false := by
    refine Bool.eq_false_iff.mpr fun hv => ?_
    exact absurd (hpoly.rounded 1 hv).1 (by simp)
  have h0 : segmentLine [a, b, c] corners 0 = linePrimitive a b := by
    rw [segmentLine, lineStart, lineEnd, hpoly.not_first, hfirst]
    rfl
  have h1 : segmentLine [a, b, c] corners 1 = linePrimitive b c := by
    rw [segmentLine, lineStart, lineEnd, hfirst, hlast]
    rfl
  obtain ⟨s, arcs, hbegin, harcs⟩ :=
    primitives_pushSegment hpoly (k := 0) (by simp) allow {}
  obtain ⟨t, hend⟩ := builtTo_last hpoly allow (n := 1) rfl
  rw [builtTo_succ allow 0, builtTo_zero, hbegin, harcs hfirst, h0, h1] at hend
  exact ⟨s, t, hend⟩

theorem segmentDirection_bench {x y x' y' : ℝ} (h : (x' - x) ^ 2 + (y' - y) ^ 2 = 1) :
    segmentDirection (benchPose x y) (benchPose x' y') =
      (benchPose x' y').position - (benchPose x y).position := by
  rw [segmentDirection, direction, norm_benchPose, h, sqrt_one, inv_one, one_smul]

theorem chain_straight : [benchPose 0 0, benchPose 1 0, benchPose 2 0].IsChain Apart := by
  simp only [List.isChain_cons_cons, List.isChain_singleton, and_true, Apart, norm_benchPose,
    kPosEps]
  norm_num

/-- Two pieces of length one: behind the first, the curve rests for the tolerance, and then it is on
the second. -/
theorem walk_pair {p q : Piece Vector3} (hp : p.length = 1) (hq : q.length = 1) (a : Vector3) :
    walk 1e-9 [p, q] a (1 + 1e-9) = p.finish ∧ walk 1e-9 [p, q] a (1 + 2e-9) = q.point 2e-9 := by
  constructor
  · rw [walk, if_pos (by rw [hp]), Piece.held, min_eq_right (by rw [hp]; norm_num),
      max_eq_right (by rw [hp]; norm_num), Piece.finish]
  · rw [walk, if_neg (by rw [hp]; norm_num), walk, hp, hq, if_pos (by norm_num), Piece.held, hq,
      add_sub_cancel_left, min_eq_left (by norm_num), max_eq_right (by norm_num)]

theorem line_bench_length (x c : ℝ) :
    ({ linePrimitive (benchPose x 0) (benchPose (x + 1) 0) with cumulativeEnd := c } :
      CartesianPrimitive).length = 1 := by
  refine (norm_benchPose _ _ _ _).trans ?_
  rw [add_sub_cancel_left, sub_self]
  norm_num

theorem straight_bench : cornerAngle (benchPose 0 0) (benchPose 1 0) (benchPose 2 0) = π := by
  rw [cornerAngle, insideAngle, segmentDirection_bench (by norm_num),
    segmentDirection_bench (by norm_num), InnerProductGeometry.angle, inner_neg_left,
    inner_benchPose, norm_neg, norm_benchPose, norm_benchPose]
  norm_num

/-- On two segments in one line, the position rests behind the first and then catches up. -/
theorem catches_up : ∃ path, benchPlanner.buildArmPath "left" true (benchPose 0 0)
      [benchPose 1 0, benchPose 2 0] [] false = .ok path ∧
    |(1 + 2e-9) - (1 + 1e-9)| < dist (benchPlanner.sampleArmPath path (1 + 1e-9)).position
      (benchPlanner.sampleArmPath path (1 + 2e-9)).position := by
  obtain ⟨lengths, path, hpath, hread, hprimitives, htotal, hmoving, -⟩ :=
    buildArmPath_of_apart benchPlanner "left" [] false chain_straight
  have hpoly := polyline_corners benchPlanner [] chain_straight hread
  generalize benchPlanner.corners [] [benchPose 0 0, benchPose 1 0, benchPose 2 0] lengths =
    corners at hpoly hprimitives htotal
  have hmoves := moves_builtTo hpoly false (n := 1) rfl hprimitives htotal hmoving
  obtain ⟨c, c', hend⟩ := primitives_of_straight hpoly straight_bench false
  have hlen : ({ linePrimitive (benchPose 0 0) (benchPose 1 0) with cumulativeEnd := c } :
      CartesianPrimitive).length = 1 := by
    simpa using! line_bench_length 0 c
  have hlen' : ({ linePrimitive (benchPose 1 0) (benchPose 2 0) with cumulativeEnd := c' } :
      CartesianPrimitive).length = 1 := by
    have := line_bench_length 1 c'
    norm_num at this
    exact this
  have htwo : path.totalLength = 2 := by
    rw [hmoves.totalLength_eq, hmoves.built.cumulative, hend]
    show _ + (_ + 0) = (2 : ℝ)
    rw [CartesianPrimitive.piece, CartesianPrimitive.piece, hlen, hlen']
    norm_num
  have hsample : ∀ d, 0 ≤ d → d ≤ 2 → (benchPlanner.sampleArmPath path d).position =
      walk 1e-9 (pieces [{ linePrimitive (benchPose 0 0) (benchPose 1 0) with cumulativeEnd := c },
        { linePrimitive (benchPose 1 0) (benchPose 2 0) with cumulativeEnd := c' }]) 0 d := by
    intro d h0 h2
    rw [sampleArmPath_eq_walk benchPlanner hmoves d 0, htwo, clamp, min_eq_left h2,
      max_eq_right h0, ← hend]
  obtain ⟨hrest, hnext⟩ := walk_pair
    (p := ({ linePrimitive (benchPose 0 0) (benchPose 1 0) with cumulativeEnd := c } :
      CartesianPrimitive).piece)
    (q := ({ linePrimitive (benchPose 1 0) (benchPose 2 0) with cumulativeEnd := c' } :
      CartesianPrimitive).piece) hlen hlen' 0
  have hone : kPosEps < 1 := by norm_num [kPosEps]
  refine ⟨path, hpath, ?_⟩
  rw [hsample _ (by norm_num) (by norm_num), hsample _ (by norm_num) (by norm_num), pieces,
    List.map_cons, List.map_cons, List.map_nil, hrest, hnext,
    piece_finish (hone.trans_eq hlen.symm), piece_point (hone.trans_eq hlen'.symm),
    linePrimitive_positionAt, linePrimitive_positionAt, one_smul, add_sub_cancel,
    hlen', div_one, dist_eq_norm, sub_add_cancel_left, norm_neg, norm_smul, norm_benchPose]
  norm_num [abs_of_pos]

/-- The anchors of a corner of less than a right angle. -/
noncomputable def sharpStart : CartesianPose := benchPose 0.8 (-0.6)

noncomputable def sharpCorner : CartesianPose := benchPose 0 0

noncomputable def sharpEnd : CartesianPose := benchPose 0.8 0.6

theorem norm_sharp_prev : ‖sharpCorner.position - sharpStart.position‖ = 1 := by
  refine (norm_benchPose _ _ _ _).trans ?_
  norm_num

theorem norm_sharp_next : ‖sharpEnd.position - sharpCorner.position‖ = 1 := by
  refine (norm_benchPose _ _ _ _).trans ?_
  norm_num

theorem apart_sharp : Apart sharpStart sharpCorner ∧ Apart sharpCorner sharpEnd := by
  rw [Apart, Apart, norm_sharp_prev, norm_sharp_next, kPosEps]
  norm_num

theorem sharp_directions :
    ‖segmentDirection sharpStart sharpCorner‖ = 1 ∧ ‖segmentDirection sharpCorner sharpEnd‖ = 1 :=
  ⟨norm_segmentDirection apart_sharp.1, norm_segmentDirection apart_sharp.2⟩

theorem cos_sharp : cos (cornerAngle sharpStart sharpCorner sharpEnd) = 7 / 25 := by
  have h := CircularArc.inner_directions sharp_directions.1 sharp_directions.2
  rw [← cornerAngle] at h
  have hinner : ⟪segmentDirection sharpStart sharpCorner, segmentDirection sharpCorner sharpEnd⟫ =
      -(7 / 25) := by
    rw [segmentDirection, segmentDirection, direction, direction, norm_sharp_prev, norm_sharp_next,
      inv_one, one_smul, one_smul]
    refine (inner_benchPose _ _ _ _ _ _ _ _).trans ?_
    norm_num
  linarith

theorem half_sharp : cos (cornerAngle sharpStart sharpCorner sharpEnd / 2) = 4 / 5 ∧
    sin (cornerAngle sharpStart sharpCorner sharpEnd / 2) = 3 / 5 := by
  have hrange := CircularArc.half_insideAngle_mem (segmentDirection sharpStart sharpCorner)
    (segmentDirection sharpCorner sharpEnd)
  have hcos : cos (cornerAngle sharpStart sharpCorner sharpEnd / 2) ^ 2 = (4 / 5) ^ 2 := by
    rw [cos_sq, mul_div_cancel₀ _ (two_ne_zero' ℝ), cos_sharp]
    norm_num
  have hsin : sin (cornerAngle sharpStart sharpCorner sharpEnd / 2) ^ 2 = (3 / 5) ^ 2 := by
    rw [sin_sq, hcos]
    norm_num
  exact ⟨(sq_eq_sq₀ (cos_nonneg_of_mem_Icc ⟨by linarith [hrange.1, pi_pos], hrange.2⟩)
      (by norm_num)).mp hcos,
    (sq_eq_sq₀ (sin_nonneg_of_nonneg_of_le_pi hrange.1 (hrange.2.trans (half_le_self pi_pos.le)))
      (by norm_num)).mp hsin⟩

theorem tan_half_sharp : tan (cornerAngle sharpStart sharpCorner sharpEnd / 2) = 3 / 4 := by
  rw [tan_eq_sin_div_cos, half_sharp.1, half_sharp.2]
  norm_num

theorem sharp_requested :
    benchPlanner.requestedAt [0.4] 1 sharpStart sharpCorner sharpEnd = 0.4 := rfl

theorem sharp_maxOffset : maxOffset sharpStart sharpCorner sharpEnd = 0.5 - 1e-6 := by
  rw [maxOffset, norm_sharp_prev, norm_sharp_next, min_self, mul_one]

theorem roundable_sharp :
    Roundable benchPlanner [0.4] 1 sharpStart sharpCorner sharpEnd where
  angle_gt := by
    have h := sin_le (x := cornerAngle sharpStart sharpCorner sharpEnd / 2)
      (CircularArc.half_insideAngle_mem _ _).1
    rw [half_sharp.2] at h
    rw [kAngleEps]
    norm_num at h ⊢
    linarith
  angle_lt := by
    have h := sin_le (x := π / 2 - cornerAngle sharpStart sharpCorner sharpEnd / 2)
      (sub_nonneg.mpr (CircularArc.half_insideAngle_mem _ _).2)
    rw [sin_pi_div_two_sub, half_sharp.1] at h
    rw [kAngleEps]
    norm_num at h ⊢
    linarith
  requested := by
    rw [sharp_requested, kPosEps]
    norm_num
  tan_half := by
    rw [tan_half_sharp, kPosEps]
    norm_num [abs_of_pos]
  room := by
    rw [sharp_maxOffset, kPosEps]
    norm_num
  bisector := by
    rw [CircularArc.norm_bisector sharp_directions.1 sharp_directions.2, ← cornerAngle,
      half_sharp.1, kPosEps]
    norm_num
  sin_half := by
    rw [half_sharp.2, kPosEps]
    norm_num [abs_of_pos]

/-- The radii at a sharp corner, and the angle between them. -/
theorem sharp_radii (e x : Vector3)
    (he : e = -((3 / 10 : ℝ) • segmentDirection sharpStart sharpCorner) - (2 / 3 : ℝ) •
      direction (-segmentDirection sharpStart sharpCorner +
        segmentDirection sharpCorner sharpEnd))
    (hx : x = (3 / 10 : ℝ) • segmentDirection sharpCorner sharpEnd - (2 / 3 : ℝ) •
      direction (-segmentDirection sharpStart sharpCorner +
        segmentDirection sharpCorner sharpEnd)) :
    ‖e‖ ^ 2 = 193 / 900 ∧ ‖x‖ = ‖e‖ ∧ 1 / 2 < sin (InnerProductGeometry.angle e x) := by
  have hcos : 0 < cos (insideAngle (segmentDirection sharpStart sharpCorner)
      (segmentDirection sharpCorner sharpEnd) / 2) := by
    rw [← cornerAngle, half_sharp.1]
    norm_num
  have hnorm : ‖e‖ ^ 2 = 193 / 900 := by
    rw [he, CircularArc.norm_sq_entry sharp_directions.1 sharp_directions.2 hcos, ← cornerAngle,
      half_sharp.1]
    norm_num
  have hsame : ‖x‖ = ‖e‖ := by
    rw [he, hx, CircularArc.norm_entry_eq_exit sharp_directions.1 sharp_directions.2 hcos]
  have hinner : ⟪e, x⟫ = 3367 / 22500 := by
    rw [he, hx, CircularArc.inner_entry_exit sharp_directions.1 sharp_directions.2 hcos,
      ← cornerAngle, half_sharp.1, cos_sharp]
    norm_num
  have hangle : cos (InnerProductGeometry.angle e x) = 3367 / 4825 := by
    rw [InnerProductGeometry.cos_angle, hsame, ← sq, hinner, hnorm]
    norm_num
  refine ⟨hnorm, hsame, lt_of_pow_lt_pow_left₀ 2 (InnerProductGeometry.sin_angle_nonneg _ _) ?_⟩
  rw [sin_sq, hangle]
  norm_num

/-- The blend of the sharp corner. -/
noncomputable def sharpBlend : CornerBlend :=
  benchPlanner.cornerBlend [0.4] 1 sharpStart sharpCorner sharpEnd
    ‖sharpCorner.position - sharpStart.position‖ ‖sharpEnd.position - sharpCorner.position‖

theorem sharpBlend_eq : sharpBlend = benchPlanner.roundCorner sharpStart sharpCorner sharpEnd
    ‖sharpCorner.position - sharpStart.position‖ ‖sharpEnd.position - sharpCorner.position‖
    (segmentDirection sharpStart sharpCorner) (segmentDirection sharpCorner sharpEnd) (3 / 10)
    (tan (cornerAngle sharpStart sharpCorner sharpEnd / 2))
    (sin (cornerAngle sharpStart sharpCorner sharpEnd / 2)) := by
  obtain ⟨-, h⟩ | ⟨h, -⟩ := cornerBlend_eq benchPlanner [0.4] 1 apart_sharp.1
    apart_sharp.2
  · rw [sharpBlend, h, sharp_requested, sharp_maxOffset, tan_half_sharp,
      show min ((0.4 : ℝ) * (3 / 4)) (0.5 - 1e-6) = 3 / 10 by norm_num]
  · exact absurd roundable_sharp h

theorem sharpBlend_valid : sharpBlend.valid = true := by
  rw [sharpBlend_eq]
  have hdist : (3 / 10 : ℝ) / tan (cornerAngle sharpStart sharpCorner sharpEnd / 2) /
      sin (cornerAngle sharpStart sharpCorner sharpEnd / 2) = 2 / 3 := by
    rw [tan_half_sharp, half_sharp.2]
    norm_num
  obtain ⟨hnorm, hsame, hsin⟩ := sharp_radii _ _ rfl rfl
  have hlong : kPosEps < ‖-((3 / 10 : ℝ) • segmentDirection sharpStart sharpCorner) -
      (2 / 3 : ℝ) • direction (-segmentDirection sharpStart sharpCorner +
        segmentDirection sharpCorner sharpEnd)‖ := by
    refine lt_of_pow_lt_pow_left₀ 2 (norm_nonneg _) ?_
    rw [hnorm, kPosEps]
    norm_num
  apply valid_roundCorner <;> rw [hdist]
  · exact hlong
  · rw [hsame]
    exact hlong
  · rw [CircularArc.norm_cross, hsame, ← sq, hnorm, kPosEps]
    linarith
  · refine lt_of_lt_of_le ?_ (sin_le (InnerProductGeometry.angle_nonneg _ _))
    rw [kAngleEps]
    linarith

theorem rounded_sharp : Rounded sharpStart sharpCorner sharpEnd (3 / 10) sharpBlend := by
  refine rounded_of_roundCorner (by norm_num) ?_ ?_ sharpBlend_eq.symm sharpBlend_valid
  · rw [half_sharp.1]
    norm_num
  · rw [half_sharp.2]
    norm_num

theorem sharpBlend_radii : ‖sharpBlend.radialStart‖ ^ 2 = 193 / 900 ∧
    1 / 2 < sin (InnerProductGeometry.angle sharpBlend.radialStart sharpBlend.radialEnd) := by
  have hdist : Rounded.centerDistance (3 / 10) (cornerAngle sharpStart sharpCorner sharpEnd / 2) =
      2 / 3 := by
    rw [Rounded.centerDistance, tan_half_sharp, half_sharp.2]
    norm_num
  have hstart := rounded_sharp.radialStart_eq'
  have hend := rounded_sharp.radialEnd_eq
  rw [hdist] at hstart hend
  obtain ⟨hnorm, -, hsin⟩ := sharp_radii _ _ hstart hend
  exact ⟨hnorm, hsin⟩

theorem sharpBlend_angle : 1 / 2 < sharpBlend.angle := by
  rw [rounded_sharp.angle_eq, ← CornerBlend.radialEnd]
  exact sharpBlend_radii.2.trans_le (sin_le (InnerProductGeometry.angle_nonneg _ _))

theorem sharpBlend_long : kPosEps < sharpBlend.radius * sharpBlend.angle := by
  have hangle := sharpBlend_angle
  rw [rounded_sharp.radius_eq, tan_half_sharp, kPosEps]
  linarith

theorem sharpBlend_length : ¬sharpBlend.radius * sharpBlend.angle =
    ‖sharpBlend.radialStart‖ * sharpBlend.angle := by
  have hnorm := sharpBlend_radii.1
  have hangle := sharpBlend_angle
  intro h
  have hradius := mul_right_cancel₀ (by linarith : sharpBlend.angle ≠ 0) h
  rw [rounded_sharp.radius_eq, tan_half_sharp] at hradius
  rw [← hradius] at hnorm
  norm_num at hnorm

/-- The arc at a sharp corner is not tangent to the segments, and not as long as its radius times
its angle. -/
theorem bends : [sharpStart, sharpCorner, sharpEnd].IsChain Apart ∧
    ∃ path, benchPlanner.buildArmPath "left" true sharpStart
      [sharpCorner, sharpEnd] [0.4] false = .ok path ∧
    ∃ p ∈ path.primitives, p.type = .arc ∧ ArcAt [sharpStart, sharpCorner, sharpEnd] 0 p ∧
      ¬TangentAt [sharpStart, sharpCorner, sharpEnd] 0 p ∧
      p.length ≠ ‖p.radialStart‖ * p.angle := by
  have hchain : [sharpStart, sharpCorner, sharpEnd].IsChain Apart := by
    simpa only [List.isChain_cons_cons, List.isChain_singleton, and_true] using apart_sharp
  obtain ⟨lengths, path, hpath, hread, hprimitives, -⟩ :=
    buildArmPath_of_apart benchPlanner "left" [0.4] false hchain
  have hpoly := polyline_corners benchPlanner [0.4] hchain hread
  have hblend : (benchPlanner.corners [0.4] [sharpStart, sharpCorner, sharpEnd] lengths).getD
      (0 + 1) {} = sharpBlend := by
    rw [corners_getD, if_pos (by simp), hread 0 (by simp), hread 1 (by simp)]
    rfl
  have hvalid := sharpBlend_valid
  have hlong := sharpBlend_long
  rw [← hblend] at hvalid hlong
  obtain ⟨c, hc⟩ := mem_builtTo_arc hpoly false hvalid hlong (n := 2) (by omega) (by simp)
  refine ⟨hchain, path, hpath, _, hprimitives ▸ hc, rfl, arcAt_of_valid hpoly hvalid c,
    fun h => ?_, fun h => ?_⟩
  · have hright := (rightAt_iff hpoly (by simp)).mp ((tangentAt_iff_right hpoly hvalid c).mp h)
    have hcos : cos (cornerAngle sharpStart sharpCorner sharpEnd) = 0 := by
      rw [← cos_pi_div_two, ← hright]
      rfl
    rw [cos_sharp] at hcos
    norm_num at hcos
  · rw [hblend] at h
    exact sharpBlend_length h

/-- A path of two segments in one line moves further than the distance along it, and the arc of a
path at a sharp corner is not tangent to the segments. -/
theorem catches_up_and_bends :
    ([benchPose 0 0, benchPose 1 0, benchPose 2 0].IsChain Apart ∧
      ∃ path, benchPlanner.buildArmPath "left" true (benchPose 0 0)
          [benchPose 1 0, benchPose 2 0] [] false = .ok path ∧
        |(1 + 2e-9) - (1 + 1e-9)| < dist (benchPlanner.sampleArmPath path (1 + 1e-9)).position
          (benchPlanner.sampleArmPath path (1 + 2e-9)).position) ∧
    [sharpStart, sharpCorner, sharpEnd].IsChain Apart ∧
      ∃ path, benchPlanner.buildArmPath "left" true sharpStart
          [sharpCorner, sharpEnd] [0.4] false = .ok path ∧
        ∃ p ∈ path.primitives, p.type = .arc ∧ ArcAt [sharpStart, sharpCorner, sharpEnd] 0 p ∧
          ¬TangentAt [sharpStart, sharpCorner, sharpEnd] 0 p ∧
          p.length ≠ ‖p.radialStart‖ * p.angle :=
  ⟨⟨chain_straight, catches_up⟩, bends⟩

end MoveL

end JointController
