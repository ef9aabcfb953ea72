import Mathlib.Algebra.Order.BigOperators.Group.List
import Mathlib.Topology.MetricSpace.Pseudo.Defs

/-!
# Curves in pieces

A curve is made of pieces, each with a length and a point for every distance along it, and is read
by the distance from its start: the first piece that reaches the distance, up to a tolerance, gives
the point.

* `Paced`: along the piece, no two points are further apart than the distance between them.
* `Joined`: every piece starts where the one before it ends.
* `dist_walk_le`: two points of a curve are no further apart than the distance between them and
  the tolerance.
* `walk_zero`, `walk_total`: the ends of a curve.
-/

namespace PiecewiseCurve

variable {α : Type*}

/-- A piece: its length, and its point at every distance along it. -/
structure Piece (α : Type*) where
  length : ℝ
  point : ℝ → α

/-- The point at a distance, the ends of the piece beyond them. -/
def Piece.held (p : Piece α) (d : ℝ) : α :=
  p.point (max 0 (min d p.length))

/-- The end of a piece. -/
def Piece.finish (p : Piece α) : α :=
  p.point p.length

/-- The point of a curve that starts at `a`, at the distance `d` from there. -/
noncomputable def walk (tol : ℝ) : List (Piece α) → α → ℝ → α
  | [], a, _ => a
  | p :: ps, _, d =>
    if d ≤ p.length + tol then p.held d else walk tol ps p.finish (d - p.length)

/-- The length of a curve. -/
def total (ps : List (Piece α)) : ℝ :=
  (ps.map Piece.length).sum

@[simp] theorem total_nil : total ([] : List (Piece α)) = 0 := rfl

@[simp] theorem total_cons (p : Piece α) (ps : List (Piece α)) :
    total (p :: ps) = p.length + total ps := rfl

/-- Every piece starts where the one before it ends: from `a` to `b`. -/
def Joined : α → List (Piece α) → α → Prop
  | a, [], b => a = b
  | a, p :: ps, b => p.point 0 = a ∧ Joined p.finish ps b

theorem Joined.append {ps qs : List (Piece α)} :
    ∀ {a b c : α}, Joined a ps b → Joined b qs c → Joined a (ps ++ qs) c := by
  induction ps with
  | nil =>
    intro a b c hab hbc
    obtain rfl : a = b := hab
    exact hbc
  | cons p ps ih =>
    intro a b c hab hbc
    exact ⟨hab.1, ih hab.2 hbc⟩

/-- A piece behind a curve. -/
theorem Joined.concat {ps : List (Piece α)} {p : Piece α} {a : α} (h : Joined a ps (p.point 0)) :
    Joined a (ps ++ [p]) p.finish :=
  h.append ⟨rfl, rfl⟩

/-! ## The ends -/

theorem Piece.held_zero {p : Piece α} (h : 0 ≤ p.length) : p.held 0 = p.point 0 := by
  rw [held, min_eq_left h, max_self]

theorem Piece.held_length {p : Piece α} (h : 0 ≤ p.length) : p.held p.length = p.finish := by
  rw [held, min_self, max_eq_right h, finish]

/-- At the distance zero, a curve is where its first piece starts. -/
theorem walk_zero {tol : ℝ} (htol : 0 ≤ tol) {p : Piece α} (ps : List (Piece α)) (a : α)
    (hp : 0 ≤ p.length) : walk tol (p :: ps) a 0 = p.point 0 := by
  rw [walk, if_pos (add_nonneg hp htol), Piece.held_zero hp]

theorem total_nonneg {ps : List (Piece α)} (hps : ∀ p ∈ ps, 0 ≤ p.length) : 0 ≤ total ps :=
  List.sum_nonneg (by
    intro x hx
    obtain ⟨p, hp, rfl⟩ := List.mem_map.mp hx
    exact hps p hp)

theorem total_append (ps qs : List (Piece α)) : total (ps ++ qs) = total ps + total qs := by
  rw [total, List.map_append, List.sum_append, total, total]

/-- At its length, a curve is where its last piece ends, if that is longer than the tolerance. -/
theorem walk_total {tol : ℝ} (htol : 0 ≤ tol) {ps : List (Piece α)} {p : Piece α} :
    ∀ {a : α}, (∀ q ∈ ps, 0 ≤ q.length) → tol < p.length →
      walk tol (ps ++ [p]) a (total (ps ++ [p])) = p.finish := by
  induction ps with
  | nil =>
    intro a _ hp
    rw [List.nil_append, walk, total_cons, total_nil, add_zero,
      if_pos (le_add_of_nonneg_right htol), Piece.held_length (htol.trans hp.le)]
  | cons q qs ih =>
    intro a hps hp
    have hqs : ∀ r ∈ qs, 0 ≤ r.length := fun r hr => hps r (List.mem_cons_of_mem _ hr)
    have hrest := total_nonneg hqs
    have hfar : ¬q.length + total (qs ++ [p]) ≤ q.length + tol := by
      rw [total_append, total_cons, total_nil]
      linarith
    rw [List.cons_append, walk, total_cons, if_neg hfar, add_sub_cancel_left]
    exact ih hqs hp

/-! ## The pace -/

variable [PseudoMetricSpace α]

/-- No two points of the piece are further apart than the distance along it. -/
structure Piece.Paced (p : Piece α) : Prop where
  length_nonneg : 0 ≤ p.length
  dist_le : ∀ s t, 0 ≤ s → s ≤ t → t ≤ p.length → dist (p.point s) (p.point t) ≤ t - s

theorem Piece.Paced.dist_held_le {p : Piece α} (hp : p.Paced) {d e : ℝ} (hde : d ≤ e) :
    dist (p.held d) (p.held e) ≤ max 0 (min e p.length) - max 0 (min d p.length) :=
  hp.dist_le _ _ (le_max_left _ _) (max_le_max le_rfl (min_le_min hde le_rfl))
    (max_le hp.length_nonneg (min_le_right _ _))

/-- A point of a curve is no further from its start than its distance. -/
theorem dist_walk_start_le {tol : ℝ} (htol : 0 ≤ tol) {ps : List (Piece α)} :
    ∀ {a b : α} {d : ℝ}, Joined a ps b → (∀ p ∈ ps, p.Paced) → 0 ≤ d →
      dist a (walk tol ps a d) ≤ d := by
  induction ps with
  | nil =>
    intro a b d _ _ hd
    rw [walk, dist_self]
    exact hd
  | cons p ps ih =>
    intro a b d hj hps hd
    have hp := hps p List.mem_cons_self
    rw [walk, ← hj.1]
    split_ifs with hin
    · have hheld := hp.dist_held_le hd
      rw [Piece.held_zero hp.length_nonneg, min_eq_left hp.length_nonneg, max_self,
        sub_zero] at hheld
      exact hheld.trans (max_le hd (min_le_left _ _))
    · have hfar : p.length ≤ d := by linarith
      have hwhole : dist (p.point 0) p.finish ≤ p.length := by
        simpa using! hp.dist_le 0 p.length le_rfl hp.length_nonneg le_rfl
      have hrest := ih hj.2 (fun q hq => hps q (List.mem_cons_of_mem _ hq)) (sub_nonneg.mpr hfar)
      calc dist (p.point 0) (walk tol ps p.finish (d - p.length))
          ≤ dist (p.point 0) p.finish + dist p.finish (walk tol ps p.finish (d - p.length)) :=
            dist_triangle _ _ _
        _ ≤ p.length + (d - p.length) := add_le_add hwhole hrest
        _ = d := add_sub_cancel _ _

/-- Two points of a curve are no further apart than the distance between them and the tolerance
with which its pieces are found. -/
theorem dist_walk_le {tol : ℝ} (htol : 0 ≤ tol) {ps : List (Piece α)} :
    ∀ {a b : α} {d e : ℝ}, Joined a ps b → (∀ p ∈ ps, p.Paced) → d ≤ e →
      dist (walk tol ps a d) (walk tol ps a e) ≤ e - d + tol := by
  induction ps with
  | nil =>
    intro a b d e _ _ hde
    rw [walk, walk, dist_self]
    linarith
  | cons p ps ih =>
    intro a b d e hj hps hde
    have hp := hps p List.mem_cons_self
    have hrest : ∀ q ∈ ps, q.Paced := fun q hq => hps q (List.mem_cons_of_mem _ hq)
    rw [walk, walk]
    by_cases hd : d ≤ p.length + tol
    · rw [if_pos hd]
      split_ifs with he
      · refine (hp.dist_held_le hde).trans ?_
        have : max 0 (min e p.length) - max 0 (min d p.length) ≤ e - d := by
          grind
        linarith
      · have hlen := hp.length_nonneg
        have hend : dist (p.held d) p.finish ≤ p.length - max 0 (min d p.length) :=
          hp.dist_le _ _ (le_max_left _ _) (max_le hlen (min_le_right _ _)) le_rfl
        have hbeyond : dist p.finish (walk tol ps p.finish (e - p.length)) ≤ e - p.length :=
          dist_walk_start_le htol hj.2 hrest (by linarith)
        have hkept : d - tol ≤ max 0 (min d p.length) :=
          (le_min (by linarith) (by linarith)).trans (le_max_right _ _)
        calc dist (p.held d) (walk tol ps p.finish (e - p.length))
            ≤ dist (p.held d) p.finish + dist p.finish (walk tol ps p.finish (e - p.length)) :=
              dist_triangle _ _ _
          _ ≤ e - d + tol := by linarith
    · have he : ¬e ≤ p.length + tol := fun h => hd (hde.trans h)
      rw [if_neg hd, if_neg he]
      have := ih hj.2 hrest (sub_le_sub_right hde p.length)
      linarith

end PiecewiseCurve
