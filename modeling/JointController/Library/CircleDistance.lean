import Mathlib.Analysis.Normed.Group.AddCircle

/-!
# Distances on a circle

The distance of two points of a circle is the norm of their difference.  For a difference of at most
one turn it is found by taking the difference back once.

* `wrapped`: the size of a difference, taken back from a turn when it is over half of it.
* `wrapped_eq_norm`: up to a turn it is the distance on the circle.
* `wrapped_neg`: over a turn it is negative.
* `norm_eq_zero_iff`: the distance is zero between points that are whole turns apart.
-/

namespace CircleDistance

/-- The size of a difference, taken back from a turn when it is over half of it. -/
def wrapped {α : Type*} [AddCommGroup α] [LinearOrder α] (half difference : α) : α :=
  if half < |difference| then half + half - |difference| else |difference|

variable {half difference turn : ℝ}

theorem norm_abs (turn difference : ℝ) :
    ‖((|difference| : ℝ) : AddCircle turn)‖ = ‖(difference : AddCircle turn)‖ := by
  obtain h | h := abs_choice difference
  · rw [h]
  · rw [h, AddCircle.coe_neg, norm_neg]

/-- A difference of more than half a turn and at most a turn is taken back. -/
theorem norm_of_half_lt (hturn : 0 < turn) (hhalf : turn / 2 ≤ |difference|)
    (hle : |difference| ≤ turn) : ‖(difference : AddCircle turn)‖ = turn - |difference| := by
  have hback :
      ((|difference| : ℝ) : AddCircle turn) = ((|difference| - turn : ℝ) : AddCircle turn) := by
    rw [AddCircle.coe_sub, AddCircle.coe_period, sub_zero]
  have hsmall : |(|difference| - turn)| = turn - |difference| := by
    rw [abs_of_nonpos (sub_nonpos.mpr hle), neg_sub]
  rw [← norm_abs, hback, (AddCircle.norm_coe_eq_abs_iff turn hturn.ne').mpr ?_, hsmall]
  rw [hsmall, abs_of_pos hturn]
  linarith

/-- Up to a turn it is the distance on the circle. -/
theorem wrapped_eq_norm (hhalf : 0 < half) (hle : |difference| ≤ half + half) :
    wrapped half difference = ‖(difference : AddCircle (half + half))‖ := by
  have hturn : 0 < half + half := add_pos hhalf hhalf
  unfold wrapped
  split_ifs with hover
  · refine (norm_of_half_lt hturn ?_ hle).symm
    linarith
  · refine ((AddCircle.norm_coe_eq_abs_iff _ hturn.ne').mpr ?_).symm
    rw [abs_of_pos hturn]
    linarith

/-- Over a turn it is negative. -/
theorem wrapped_neg (hhalf : 0 < half) (hlt : half + half < |difference|) :
    wrapped half difference < 0 := by
  have hover : half < |difference| := (lt_add_of_pos_right half hhalf).trans hlt
  unfold wrapped
  rw [if_pos hover]
  exact sub_neg.mpr hlt

/-- The distance is zero between points that are whole turns apart. -/
theorem norm_eq_zero_iff :
    ‖(difference : AddCircle turn)‖ = 0 ↔ ∃ k : ℤ, difference = k * turn := by
  rw [norm_eq_zero, AddCircle.coe_eq_zero_iff]
  refine exists_congr fun k => ?_
  rw [zsmul_eq_mul]
  exact eq_comm

end CircleDistance
