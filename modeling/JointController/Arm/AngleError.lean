import JointController.Arm.Processor
import JointController.Library.CircleDistance
import Mathlib.Analysis.Real.Pi.Bounds

/-!
# The position error of a joint

The goal check of a joint takes the difference of two angles back by one turn when it is over half a
turn.

* `wrappedError`: `wrappedAbsPositionError_` on numbers.
* `wrappedAbsPositionError_finite`: the function of the command processor on finite values.
* `IsAngularDistance`: a distance of two angles.
* `isAngularDistance_iff`: the function returns it for angles that differ by at most a turn.
* `not_isAngularDistance_sample`: for angles that differ by more the error is negative.
-/

namespace JointController

namespace Arm

/-- `wrappedAbsPositionError_` on numbers, with the value of `M_PI`. -/
def wrappedError {α : Type*} [AddCommGroup α] [LinearOrder α] (mPi current target : α) : α :=
  CircleDistance.wrapped mPi (current - target)

/-- The function of the command processor on finite values. -/
theorem Processor.wrappedAbsPositionError_finite (current target : ℚ) :
    wrappedAbsPositionError (.finite current) (.finite target) =
      .finite (wrappedError mPi.value current target) := by
  have hdifference : Double.finite current - .finite target = .finite (current - target) :=
    congrArg Double.finite (sub_eq_add_neg current target).symm
  have hlt : mPi < Double.finite |current - target| ↔ mPi.value < |current - target| :=
    Double.finite_lt_finite
  unfold wrappedAbsPositionError wrappedError CircleDistance.wrapped
  dsimp only
  rw [hdifference, Double.abs_finite]
  by_cases hover : mPi.value < |current - target|
  · have hback : Double.finite 2 * mPi - Double.finite |current - target| =
        .finite (2 * mPi.value + -|current - target|) := rfl
    rw [if_pos hover, if_pos (hlt.mpr hover), hback, two_mul, ← sub_eq_add_neg]
  · rw [if_neg hover, if_neg (hlt.not.mpr hover)]

/-- A full turn. -/
noncomputable def turn : ℝ := Real.pi + Real.pi

/-- The distance of two angles: it is the one on the circle, it is at most half a turn, and it is
zero exactly for angles that are whole turns apart. -/
structure IsAngularDistance (error current target : ℝ) : Prop where
  distance : error = ‖((current - target : ℝ) : AddCircle turn)‖
  range : 0 ≤ error ∧ error ≤ Real.pi
  zero : error = 0 ↔ ∃ k : ℤ, current - target = k * turn

/-- The distance on the circle is a distance of the angles. -/
theorem isAngularDistance_norm (current target : ℝ) :
    IsAngularDistance ‖((current - target : ℝ) : AddCircle turn)‖ current target := by
  have hturn : 0 < turn := add_pos Real.pi_pos Real.pi_pos
  refine ⟨rfl, ⟨norm_nonneg _, ?_⟩, CircleDistance.norm_eq_zero_iff⟩
  have hhalf := AddCircle.norm_le_half_period (x := ((current - target : ℝ) : AddCircle turn)) turn
    hturn.ne'
  rw [abs_of_pos hturn, turn, add_self_div_two] at hhalf
  exact hhalf

/-- The error of two angles is their distance exactly when they differ by at most a turn. -/
theorem isAngularDistance_iff (current target : ℝ) :
    IsAngularDistance (wrappedError Real.pi current target) current target ↔
      |current - target| ≤ 2 * Real.pi := by
  rw [two_mul]
  constructor
  · intro h
    by_contra hover
    exact absurd h.range.1 (not_le.mpr
      (CircleDistance.wrapped_neg Real.pi_pos (not_le.mp hover)))
  · intro hle
    have herror : wrappedError Real.pi current target =
        ‖((current - target : ℝ) : AddCircle turn)‖ :=
      CircleDistance.wrapped_eq_norm Real.pi_pos hle
    rw [herror]
    exact isAngularDistance_norm current target

/-- One and a half turns apart, the error is negative. -/
theorem not_isAngularDistance_sample :
    ¬ IsAngularDistance (wrappedError Real.pi (3 * Real.pi) 0) (3 * Real.pi) 0 := by
  intro h
  have hover : Real.pi + Real.pi < |3 * Real.pi - 0| := by
    rw [sub_zero, abs_of_pos (mul_pos three_pos Real.pi_pos)]
    linarith [Real.pi_pos]
  exact absurd h.range.1 (not_le.mpr (CircleDistance.wrapped_neg Real.pi_pos hover))

end Arm

end JointController
