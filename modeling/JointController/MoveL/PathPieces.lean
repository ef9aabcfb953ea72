import JointController.Library.PiecewiseCurve
import JointController.MoveL.Polyline

/-!
# The primitives of a path as the pieces of a curve

* `paced_line`, `paced_arc`: lines, and arcs with their true length, are no longer than they say.
* `Built`: the length of the path is that of the primitives that have been pushed.
* `builtTo_first`, `builtTo_last`: the lines at the two ends of a path.
-/

open Real
open scoped RealInnerProductSpace Quaternion CircularArc

namespace JointController

namespace MoveL

open CircularArc (Vector3 cross rotate direction)
open PiecewiseCurve

/-! ## Primitives as pieces -/

/-- The piece of a curve that a primitive is. -/
noncomputable def CartesianPrimitive.piece (p : CartesianPrimitive) : Piece Vector3 where
  length := p.length
  point s := Planner.positionAt p (if 1e-9 < p.length then s / p.length else 1)

/-- The positions of a list of primitives. -/
noncomputable def pieces (ps : List CartesianPrimitive) : List (Piece Vector3) :=
  ps.map CartesianPrimitive.piece

/-- A primitive that the builder keeps. -/
theorem tolerance_lt {x : ℝ} (h : kPosEps < x) : 1e-9 < x := by
  refine lt_trans ?_ h
  norm_num [kPosEps]

theorem piece_point {p : CartesianPrimitive} (h : kPosEps < p.length) (s : ℝ) :
    p.piece.point s = Planner.positionAt p (s / p.length) := by
  show Planner.positionAt p (if 1e-9 < p.length then s / p.length else 1) = _
  rw [if_pos (tolerance_lt h)]

theorem piece_start {p : CartesianPrimitive} (h : kPosEps < p.length) :
    p.piece.point 0 = Planner.positionAt p 0 := by
  rw [piece_point h, zero_div]

theorem piece_finish {p : CartesianPrimitive} (h : kPosEps < p.length) :
    p.piece.finish = Planner.positionAt p 1 := by
  have hne : p.length ≠ 0 := (kPosEps_pos.trans h).ne'
  show p.piece.point p.length = _
  rw [piece_point h, div_self hne]

theorem linePrimitive_positionAt (a b : CartesianPose) (c t : ℝ) :
    Planner.positionAt { linePrimitive a b with cumulativeEnd := c } t =
      a.position + t • (b.position - a.position) := rfl

theorem arcPrimitive_positionAt (blend : CornerBlend) (c t : ℝ) :
    Planner.positionAt { arcPrimitive blend with cumulativeEnd := c } t =
      blend.center + rotate (blend.angle * t) blend.axis blend.radialStart := rfl

/-- A straight line is as long as it says. -/
theorem paced_line {a b : CartesianPose} (c : ℝ)
    (h : kPosEps < ‖b.position - a.position‖) :
    ({ linePrimitive a b with cumulativeEnd := c } : CartesianPrimitive).piece.Paced where
  length_nonneg := norm_nonneg _
  dist_le s t _ hst _ := by
    have hpos : 0 < ‖b.position - a.position‖ := kPosEps_pos.trans h
    rw [piece_point h, piece_point h, linePrimitive_positionAt, linePrimitive_positionAt,
      dist_add_left, dist_eq_norm, ← sub_smul, norm_smul, ← sub_div, norm_div, norm_eq_abs,
      abs_sub_comm, abs_of_nonneg (sub_nonneg.mpr hst), linePrimitive, norm_norm,
      div_mul_cancel₀ _ hpos.ne']

/-- An arc whose recorded length is its radius times its angle is as long as it says. -/
theorem paced_arc {blend : CornerBlend} (c : ℝ) (h : kPosEps < blend.radius * blend.angle)
    (hlen : blend.radius * blend.angle = ‖blend.radialStart‖ * blend.angle)
    (hangle : 0 ≤ blend.angle) (haxis : ‖blend.axis‖ = 1)
    (hperp : ⟪blend.axis, blend.radialStart⟫ = 0) :
    ({ arcPrimitive blend with cumulativeEnd := c } : CartesianPrimitive).piece.Paced where
  length_nonneg := (kPosEps_pos.trans h).le
  dist_le s t _ hst _ := by
    have hpos : 0 < blend.radius * blend.angle := kPosEps_pos.trans h
    have hturn := CircularArc.dist_turned_le (e := blend.radialStart)
      (f := cross blend.axis blend.radialStart)
      (CircularArc.inner_cross_self _ _) (CircularArc.norm_cross_of_perpendicular haxis hperp)
      (blend.angle * (s / (blend.radius * blend.angle)))
      (blend.angle * (t / (blend.radius * blend.angle)))
    rw [piece_point h, piece_point h, arcPrimitive_positionAt, arcPrimitive_positionAt,
      dist_add_left, CircularArc.rotate_of_perpendicular hperp,
      CircularArc.rotate_of_perpendicular hperp]
    refine hturn.trans (le_of_eq ?_)
    have habs : |blend.angle * (s / (blend.radius * blend.angle)) -
        blend.angle * (t / (blend.radius * blend.angle))| =
        blend.angle * ((t - s) / (blend.radius * blend.angle)) := by
      rw [← mul_sub, ← sub_div, abs_mul, abs_div, abs_sub_comm, abs_of_nonneg hangle,
        abs_of_nonneg (sub_nonneg.mpr hst), abs_of_pos hpos]
    rw [habs, ← mul_assoc, ← hlen, mul_div_cancel₀ _ hpos.ne']

/-! ## The primitives that are pushed -/

/-- Every primitive ends its length behind the end of the one before it. -/
def Stamped : ℝ → List CartesianPrimitive → Prop
  | _, [] => True
  | c, p :: ps => p.cumulativeEnd = c + p.length ∧ Stamped (c + p.length) ps

theorem Stamped.concat {p : CartesianPrimitive} {ps : List CartesianPrimitive} :
    ∀ {c : ℝ}, Stamped c ps → p.cumulativeEnd = c + total (pieces ps) + p.length →
      Stamped c (ps ++ [p]) := by
  induction ps with
  | nil =>
    intro c _ hp
    rw [pieces, List.map_nil, total_nil, add_zero] at hp
    exact ⟨hp, trivial⟩
  | cons q qs ih =>
    intro c hs hp
    refine ⟨hs.1, ih hs.2 ?_⟩
    rw [hp, pieces, List.map_cons, total_cons, ← add_assoc]
    rfl

/-- A primitive is a line or the arc of a rounded corner. -/
inductive Shaped (corners : List CornerBlend) : CartesianPrimitive → Prop where
  | line (a b : CartesianPose) (c : ℝ) (h : kPosEps < ‖b.position - a.position‖) :
    Shaped corners { linePrimitive a b with cumulativeEnd := c }
  | arc (k : ℕ) (c : ℝ) (hvalid : (corners.getD (k + 1) {}).valid = true)
    (h : kPosEps < (corners.getD (k + 1) {}).radius * (corners.getD (k + 1) {}).angle) :
    Shaped corners { arcPrimitive (corners.getD (k + 1) {}) with cumulativeEnd := c }

theorem Shaped.long {corners : List CornerBlend} {p : CartesianPrimitive} (h : Shaped corners p) :
    kPosEps < p.length := by
  cases h with
  | line a b c h => exact h
  | arc k c hvalid h => exact h

/-- A path while its primitives are pushed: its length is that of its primitives. -/
structure Built (corners : List CornerBlend) (b : Build) : Prop where
  stamped : Stamped 0 b.primitives
  cumulative : b.cumulativeLength = total (pieces b.primitives)
  shaped : ∀ p ∈ b.primitives, Shaped corners p

theorem pieces_append (ps qs : List CartesianPrimitive) :
    pieces (ps ++ qs) = pieces ps ++ pieces qs :=
  List.map_append

theorem built_empty (corners : List CornerBlend) : Built corners {} where
  stamped := trivial
  cumulative := rfl
  shaped _ hp := absurd hp List.not_mem_nil

theorem Built.push {corners : List CornerBlend} {b : Build} {p : CartesianPrimitive}
    (h : Built corners b)
    (hp : Shaped corners { p with cumulativeEnd := b.cumulativeLength + p.length }) :
    Built corners (b.pushPrimitive p) where
  stamped := h.stamped.concat (by rw [← h.cumulative, zero_add])
  cumulative := by
    rw [Build.pushPrimitive, pieces_append, total_append, ← h.cumulative]
    show _ = b.cumulativeLength + (p.length + 0)
    rw [add_zero]
  shaped q hq := by
    rcases List.mem_append.mp hq with hq | hq
    · exact h.shaped q hq
    · rw [List.mem_singleton.mp hq]
      exact hp

theorem Built.countArc {corners : List CornerBlend} {b : Build} (h : Built corners b) (r : ℝ) :
    Built corners (b.countArc r) :=
  ⟨h.stamped, h.cumulative, h.shaped⟩

section Segments

variable {anchors : List CartesianPose} {corners : List CornerBlend}

/-- The line of the segment from the anchor `k`. -/
noncomputable def segmentLine (anchors : List CartesianPose) (corners : List CornerBlend) (k : ℕ) :
    CartesianPrimitive :=
  linePrimitive (lineStart anchors corners k) (lineEnd anchors corners k)

theorem Built.pushSegmentLine (h : Polyline anchors corners) {k : ℕ}
    (hk : k + 1 < anchors.length) {b : Build} (hb : Built corners b) :
    Built corners (b.pushPrimitive (segmentLine anchors corners k)) :=
  hb.push (.line _ _ _ (h.long_line hk))

theorem Built.pushSegment (h : Polyline anchors corners) {k : ℕ} (hk : k + 1 < anchors.length)
    (allow : Bool) {b : Build} (hb : Built corners b) :
    Built corners (pushSegment allow anchors corners b k) := by
  have hline := hb.pushSegmentLine h hk
  rw [h.pushSegment_eq hk, ← segmentLine]
  split_ifs with hvalid
  · rw [Build.pushArc]
    split_ifs with hlong
    · exact (hline.countArc _).push (.arc k _ hvalid hlong)
    · exact hline
  · exact hline

/-- The path after `n` segments. -/
noncomputable def builtTo (allow : Bool) (anchors : List CartesianPose)
    (corners : List CornerBlend) (n : ℕ) : Build :=
  (List.range n).foldl (MoveL.pushSegment allow anchors corners) {}

theorem builtTo_succ (allow : Bool) (n : ℕ) : builtTo allow anchors corners (n + 1) =
    MoveL.pushSegment allow anchors corners (builtTo allow anchors corners n) n := by
  rw [builtTo, List.range_succ, List.foldl_append, List.foldl_cons, List.foldl_nil, builtTo]

theorem built_builtTo (h : Polyline anchors corners) (allow : Bool) {n : ℕ}
    (hn : n + 1 ≤ anchors.length) : Built corners (builtTo allow anchors corners n) := by
  induction n with
  | zero => exact built_empty _
  | succ n ih =>
    rw [builtTo_succ]
    exact (ih (by omega)).pushSegment h (by omega) allow

/-- A segment puts its line behind the path, and an arc where its corner is rounded. -/
theorem primitives_pushSegment (h : Polyline anchors corners) {k : ℕ}
    (hk : k + 1 < anchors.length) (allow : Bool) (b : Build) :
    ∃ c arcs, (MoveL.pushSegment allow anchors corners b k).primitives =
        b.primitives ++ { segmentLine anchors corners k with cumulativeEnd := c } :: arcs ∧
      ((corners.getD (k + 1) {}).valid = false → arcs = []) := by
  rw [h.pushSegment_eq hk, ← segmentLine]
  refine ⟨b.cumulativeLength + (segmentLine anchors corners k).length, ?_⟩
  split_ifs with hvalid
  · rw [Build.pushArc]
    split_ifs
    · exact ⟨_, List.append_assoc _ _ _, fun hf => absurd (hvalid.symm.trans hf) (by decide)⟩
    · exact ⟨[], rfl, fun _ => rfl⟩
  · exact ⟨[], rfl, fun _ => rfl⟩

/-- The path begins with the line from the first anchor. -/
theorem builtTo_first (h : Polyline anchors corners) (allow : Bool) {n : ℕ}
    (hn : n + 1 < anchors.length) : ∃ c rest, (builtTo allow anchors corners (n + 1)).primitives =
      { segmentLine anchors corners 0 with cumulativeEnd := c } :: rest := by
  induction n with
  | zero =>
    obtain ⟨c, arcs, heq, -⟩ := primitives_pushSegment h hn allow (builtTo allow anchors corners 0)
    exact ⟨c, arcs, by rw [builtTo_succ, heq]; rfl⟩
  | succ n ih =>
    obtain ⟨c, rest, hrest⟩ := ih (by omega)
    obtain ⟨c', arcs, heq, -⟩ :=
      primitives_pushSegment h hn allow (builtTo allow anchors corners (n + 1))
    exact ⟨c, _, by rw [builtTo_succ, heq, hrest, List.cons_append]⟩

/-- The path ends with the line to the last anchor. -/
theorem builtTo_last (h : Polyline anchors corners) (allow : Bool) {n : ℕ}
    (hn : n + 2 = anchors.length) : ∃ c, (builtTo allow anchors corners (n + 1)).primitives =
      (builtTo allow anchors corners n).primitives ++
        [{ segmentLine anchors corners n with cumulativeEnd := c }] := by
  obtain ⟨c, arcs, heq, harcs⟩ :=
    primitives_pushSegment h (k := n) (by omega) allow (builtTo allow anchors corners n)
  have hvalid : (corners.getD (n + 1) {}).valid = false := by
    refine Bool.eq_false_iff.mpr fun hv => ?_
    have := (h.rounded n hv).1
    omega
  exact ⟨c, by rw [builtTo_succ, heq, harcs hvalid]⟩

end Segments

end MoveL

end JointController
