import JointController.Arm.CubicPlanner

/-!
# The limits of a planned motion

One axis of the CUBIC planner, over every run of updates.  A motion that starts at rest has its
greatest acceleration at two times which are not among the 101 samples, and the scaling does not
see it there.

* `MeetsBoundary`: the motion starts at its start and ends at rest at its target,
  `plan_meetsBoundary`.
* `KeepsLimits`: the positions, the velocities and the accelerations of every run.
* `overruns_rest_iff`: the samples of a motion between two rests.
* `MotionConstraints.CoversPeak`: a motion that is stretched, or slow enough between the samples.
* `plan_meets_limits_iff`: boundary and limits.
-/

namespace JointController

namespace Arm

namespace Cubic

/-! ## The samples of a motion between two rests -/

/-- The largest sample is the one with the number 21. -/
theorem sample_le :
    ∀ i : Fin 101, ((i : ℤ) * (100 - i) * (100 - 2 * i)).natAbs ≤ 96222 := by
  decide +kernel

theorem abs_accelerationShape_sample_le {i : ℕ} (hi : i ≤ 100) :
    |Quintic.accelerationShape ((i : ℚ) / 100)| ≤ 577332 / 100000 := by
  have hvalue : Quintic.accelerationShape ((i : ℚ) / 100) =
      (((i : ℤ) * (100 - i) * (100 - 2 * i) : ℤ) : ℚ) * (60 / 1000000) := by
    simp only [Quintic.accelerationShape]
    push_cast
    ring
  have hsample : |(((i : ℤ) * (100 - i) * (100 - 2 * i) : ℤ) : ℚ)| ≤ 96222 := by
    have hle := sample_le ⟨i, by omega⟩
    rw [← Int.cast_abs, Int.abs_eq_natAbs]
    exact_mod_cast hle
  rw [hvalue, abs_mul, abs_of_pos (show (0 : ℚ) < 60 / 1000000 by norm_num)]
  linarith

theorem accelerationShape_sample : Quintic.accelerationShape (21 / 100 : ℚ) = 577332 / 100000 := by
  norm_num [Quintic.accelerationShape]

section Rest

variable (p p' : ℚ) {T : ℚ} (hT : 0 < T)

include hT

theorem abs_rest_velocity_sample (i : ℕ) :
    |(Quintic.between p 0 p' 0 T).velocity (T * i / 100)| =
      |p' - p| / T * Quintic.speedShape ((i : ℚ) / 100) := by
  rw [mul_div_assoc, Quintic.rest_velocity p p' hT.ne', abs_mul, abs_div, abs_of_pos hT,
    abs_of_nonneg (Quintic.speedShape_nonneg ((i : ℚ) / 100))]

theorem abs_rest_acceleration_sample (i : ℕ) :
    |(Quintic.between p 0 p' 0 T).acceleration (T * i / 100)| =
      |p' - p| / T ^ 2 * |Quintic.accelerationShape ((i : ℚ) / 100)| := by
  rw [mul_div_assoc, Quintic.rest_acceleration p p' hT.ne', abs_mul, abs_div,
    abs_of_pos (pow_pos hT 2)]

theorem rest_maxVel : maxVel (Quintic.between p 0 p' 0 T) T = |p' - p| / T * (15 / 8) := by
  apply le_antisymm
  · refine (peak_le_iff 100 _).mpr ⟨by positivity, fun i hi => ?_⟩
    have hi' : (i : ℚ) ≤ 100 := by exact_mod_cast hi
    rw [abs_rest_velocity_sample p p' hT]
    refine mul_le_mul_of_nonneg_left (Quintic.speedShape_le (by positivity) ?_) (by positivity)
    linarith
  · have hmiddle :=
      (abs_rest_velocity_sample p p' hT 50).symm.le.trans (le_maxVel _ T (by norm_num))
    have hhalf : ((50 : ℕ) : ℚ) / 100 = 1 / 2 := by norm_num
    simpa only [hhalf, Quintic.speedShape_half] using hmiddle

theorem rest_maxAccel :
    maxAccel (Quintic.between p 0 p' 0 T) T = |p' - p| / T ^ 2 * (577332 / 100000) := by
  apply le_antisymm
  · refine (peak_le_iff 100 _).mpr ⟨by positivity, fun i hi => ?_⟩
    rw [abs_rest_acceleration_sample p p' hT]
    exact mul_le_mul_of_nonneg_left (abs_accelerationShape_sample_le hi) (by positivity)
  · have hlargest :=
      (abs_rest_acceleration_sample p p' hT 21).symm.le.trans (le_maxAccel _ T (by norm_num))
    have hpart : ((21 : ℕ) : ℚ) / 100 = 21 / 100 := by norm_num
    have hpositive : (0 : ℚ) < 577332 / 100000 := by norm_num
    simpa only [hpart, accelerationShape_sample, abs_of_pos hpositive] using hlargest

theorem overruns_rest_iff (c : MotionConstraints) :
    c.Overruns (Quintic.between p 0 p' 0 T) T ↔
      8 * (c.maxVelocity * T) < 15 * |p' - p| ∨
        100000 * (c.maxAcceleration * T ^ 2) < 577332 * |p' - p| := by
  have hvel : c.maxVelocity < |p' - p| / T * (15 / 8) ↔
      8 * (c.maxVelocity * T) < 15 * |p' - p| := by
    rw [div_mul_eq_mul_div, lt_div_iff₀ hT]
    constructor <;> intro h <;> linarith
  have haccel : c.maxAcceleration < |p' - p| / T ^ 2 * (577332 / 100000) ↔
      100000 * (c.maxAcceleration * T ^ 2) < 577332 * |p' - p| := by
    rw [div_mul_eq_mul_div, lt_div_iff₀ (pow_pos hT 2)]
    constructor <;> intro h <;> linarith
  rw [overruns_iff, rest_maxVel p p' hT, rest_maxAccel p p' hT, hvel, haccel]

end Rest

/-! ## A stretched motion keeps the limits -/

section Stretched

variable (root : SquareRoot) (c : MotionConstraints) (p p' : ℚ) {T : ℚ} (hT : 0 < T)

include hT

/-- The speed at the middle is sampled, and the scaling brings it to the limit. -/
theorem rest_speed_le :
    |p' - p| / scaledDuration root c (.between p 0 p' 0 T) T * (15 / 8) ≤ c.maxVelocity := by
  have hbound := maxVel_le_scaleFactor root c (.between p 0 p' 0 T) T
  have hone := one_le_scaleFactor root c (.between p 0 p' 0 T) T
  rw [rest_maxVel p p' hT, div_mul_eq_mul_div, div_le_iff₀ hT] at hbound
  have hlonger : T * scaleFactor root c (.between p 0 p' 0 T) T ≤
      scaledDuration root c (.between p 0 p' 0 T) T := by
    unfold scaledDuration
    split_ifs with h
    · nlinarith
    · rw [le_antisymm (not_lt.mp h) hone, mul_one]
  have hpositive : 0 < scaledDuration root c (.between p 0 p' 0 T) T :=
    hT.trans_le (le_scaledDuration hT)
  rw [div_mul_eq_mul_div, div_le_iff₀ hpositive]
  nlinarith [c.maxVelocity_pos]

/-- The margin of the stretched duration is larger than what the samples miss of the peak. -/
theorem rest_peak_le (h : c.Overruns (.between p 0 p' 0 T) T) :
    100 * (p' - p) ^ 2 ≤
      3 * (c.maxAcceleration * scaledDuration root c (.between p 0 p' 0 T) T ^ 2) ^ 2 := by
  have hbound := maxAccel_le_scaleFactor root c (.between p 0 p' 0 T) T
  have hsquare : 0 < T ^ 2 := pow_pos hT 2
  rw [rest_maxAccel p p' hT] at hbound
  have hcleared : (1 - 1 / 2 ^ 50) * (|p' - p| * (577332 / 100000)) ≤
      scaleFactor root c (.between p 0 p' 0 T) T ^ 2 * c.maxAcceleration * T ^ 2 := by
    rw [← div_le_iff₀ hsquare]
    calc (1 - 1 / 2 ^ 50) * (|p' - p| * (577332 / 100000)) / T ^ 2
        = (1 - 1 / 2 ^ 50) * (|p' - p| / T ^ 2 * (577332 / 100000)) := by ring
      _ ≤ _ := hbound
  have hreserve : 6 * |p' - p| ≤
      c.maxAcceleration * scaledDuration root c (.between p 0 p' 0 T) T ^ 2 := by
    have hdistance := abs_nonneg (p' - p)
    rw [scaledDuration_of_overruns h]
    norm_num at hcleared
    linarith
  have hsix : (6 * |p' - p|) ^ 2 ≤
      (c.maxAcceleration * scaledDuration root c (.between p 0 p' 0 T) T ^ 2) ^ 2 :=
    pow_le_pow_left₀ (by positivity) hreserve 2
  rw [mul_pow, sq_abs] at hsix
  nlinarith [sq_nonneg (p' - p)]

end Stretched

/-- A distance and a duration that is stretched, as a sample exceeds a limit, or whose largest
acceleration keeps the limit. -/
def MotionConstraints.CoversPeak (c : MotionConstraints) (distance T : ℚ) : Prop :=
  8 * (c.maxVelocity * T) < 15 * |distance| ∨
    100000 * (c.maxAcceleration * T ^ 2) < 577332 * |distance| ∨
      100 * distance ^ 2 ≤ 3 * (c.maxAcceleration * T ^ 2) ^ 2

theorem rest_peak_le_iff (root : SquareRoot) (c : MotionConstraints) (p p' : ℚ) {T : ℚ}
    (hT : 0 < T) :
    100 * (p' - p) ^ 2 ≤
        3 * (c.maxAcceleration * scaledDuration root c (.between p 0 p' 0 T) T ^ 2) ^ 2 ↔
      c.CoversPeak (p' - p) T := by
  by_cases h : c.Overruns (.between p 0 p' 0 T) T
  · refine iff_of_true (rest_peak_le root c p p' hT h) ?_
    exact ((overruns_rest_iff p p' hT c).mp h).imp_right Or.inl
  · rw [scaledDuration_of_not_overruns h]
    rw [overruns_rest_iff p p' hT c, not_or] at h
    rw [MotionConstraints.CoversPeak, or_iff_right h.1, or_iff_right h.2]

/-! ## The boundary and the limits of a run -/

namespace SingleAxisCubicPlanner

/-- The polynomial of a plan and the points of its runs start at the start, with no acceleration,
and end at rest at the target. -/
structure MeetsBoundary (p : SingleAxisCubicPlanner) (startPos startVel target : ℚ) : Prop where
  first : ∀ start, (p.update start).1 = ⟨startPos, startVel, 0⟩
  polynomialStart : p.pointAt 0 = ⟨startPos, startVel, 0⟩
  polynomialEnd : p.pointAt p.duration = ⟨target, 0, 0⟩
  last : ∀ start times t, p.duration ≤ t - start →
    ((p.run (start :: times)).update t).1 = ⟨target, 0, 0⟩

/-- Every point that a run of updates returns is between start and target and within the limits. -/
structure KeepsLimits (p : SingleAxisCubicPlanner) (startPos target : ℚ) : Prop where
  position : ∀ times t, ((p.run times).update t).1.position ∈ Set.uIcc startPos target
  velocity : ∀ times t, |((p.run times).update t).1.velocity| ≤ p.constraints.maxVelocity
  acceleration : ∀ times t,
    |((p.run times).update t).1.acceleration| ≤ p.constraints.maxAcceleration

variable {p : SingleAxisCubicPlanner}

theorem Fresh.meetsBoundary (h : Fresh p) (hrest : p.targetVel = 0) :
    MeetsBoundary p p.currentPos p.currentVel p.targetPos where
  first start := (h.update_first start).1
  polynomialStart := by simp [pointAt, trajectory]
  polynomialEnd := by
    have hT := h.duration_pos.ne'
    simp only [pointAt, trajectory, Quintic.between_position_end _ _ _ _ hT,
      Quintic.between_velocity_end _ _ _ _ hT, Quintic.between_acceleration_end _ _ _ _ hT, hrest]
  last start times t ht := by
    obtain ⟨hcase, -, -⟩ := (h.follows_run start times).update_cases h.duration_pos t
    generalize ((p.run (start :: times)).update t).1 = point at hcase
    cases hcase with
    | under hlt => exact absurd ht (not_le.mpr hlt)
    | target velocity hvelocity =>
        have hzero : velocity = 0 := hvelocity.elim (fun hv => hv.trans hrest) id
        rw [hzero]

/-- A property of points that the points of the plan and its target have, every run has. -/
theorem Fresh.forall_point (h : Fresh p) (hrest : p.targetVel = 0) {P : TrajectoryPoint → Prop}
    (hpoint : ∀ tau, 0 ≤ tau → tau ≤ p.duration → P (p.pointAt tau))
    (htarget : P ⟨p.targetPos, 0, 0⟩) (times : List ℚ) (t : ℚ) :
    P ((p.run times).update t).1 := by
  cases times with
  | nil =>
      have hfirst := hpoint 0 le_rfl h.duration_pos.le
      rw [(h.meetsBoundary hrest).polynomialStart] at hfirst
      rw [run, List.foldl_nil, (h.update_first t).1]
      exact hfirst
  | cons start times =>
      obtain ⟨hcase, -, -⟩ := (h.follows_run start times).update_cases h.duration_pos t
      generalize ((p.run (start :: times)).update t).1 = point at hcase
      cases hcase with
      | under _ =>
          obtain ⟨hlow, hhigh⟩ := clamp_mem (x := t - start) h.duration_pos.le
          exact hpoint _ hlow hhigh
      | target velocity hvelocity =>
          have hzero : velocity = 0 := hvelocity.elim (fun hv => hv.trans hrest) id
          rw [hzero]
          exact htarget

/-- From rest to rest the position keeps to the way, and the two limits depend on the greatest
speed and the greatest acceleration of the polynomial. -/
theorem Fresh.keepsLimits_iff (h : Fresh p) (hstart : p.currentVel = 0) (hrest : p.targetVel = 0)
    (hspeed : |p.targetPos - p.currentPos| / p.duration * (15 / 8) ≤ p.constraints.maxVelocity) :
    KeepsLimits p p.currentPos p.targetPos ↔
      100 * (p.targetPos - p.currentPos) ^ 2 ≤
        3 * (p.constraints.maxAcceleration * p.duration ^ 2) ^ 2 := by
  have hpolynomial : p.trajectory = .between p.currentPos 0 p.targetPos 0 p.duration := by
    rw [trajectory, hstart, hrest]
  rw [← Quintic.rest_acceleration_le_iff p.currentPos p.targetPos h.duration_pos
    p.constraints.maxAcceleration_pos, ← hpolynomial]
  constructor
  · intro hkeeps tau htau htau'
    have hpoint := hkeeps.acceleration [0] tau
    obtain ⟨-, hfollows, hmoving⟩ := h.update_first 0
    rw [run, List.foldl_cons, List.foldl_nil,
      hfollows.update_under hmoving (by linarith) (by linarith), sub_zero] at hpoint
    exact hpoint
  · intro hacceleration
    refine ⟨?_, ?_, ?_⟩
    · refine h.forall_point hrest (P := fun x => x.position ∈ _) (fun tau htau htau' => ?_)
        Set.right_mem_uIcc
      rw [pointAt, hpolynomial]
      exact Quintic.rest_position_mem_uIcc _ _ h.duration_pos htau htau'
    · refine h.forall_point hrest (P := fun x => |x.velocity| ≤ _) (fun tau htau htau' => ?_) ?_
      · rw [pointAt, hpolynomial]
        exact (Quintic.abs_rest_velocity_le _ _ h.duration_pos htau htau').trans hspeed
      · rw [abs_zero]
        exact p.constraints.maxVelocity_pos.le
    · refine h.forall_point hrest (P := fun x => |x.acceleration| ≤ _) (fun tau htau htau' => ?_) ?_
      · rcases htau'.lt_or_eq with hlt | rfl
        · exact hacceleration tau htau hlt
        · rw [(h.meetsBoundary hrest).polynomialEnd, abs_zero]
          exact p.constraints.maxAcceleration_pos.le
      · rw [abs_zero]
        exact p.constraints.maxAcceleration_pos.le

end SingleAxisCubicPlanner

section Plan

variable (root : SquareRoot) (s : SingleAxisCubicPlanner) (startPos startVel endPos duration : ℚ)

/-- The motion of a plan starts where it should, and it ends at rest at the clamped target. -/
theorem plan_meetsBoundary :
    (s.plan root ⟨startPos, startVel, endPos, 0⟩ duration).MeetsBoundary startPos startVel
      (s.constraints.clampPosition endPos) :=
  (SingleAxisCubicPlanner.plan_fresh root ⟨startPos, startVel, endPos, 0⟩ duration
    s).meetsBoundary rfl

/-- From rest, the limits are kept exactly when the duration covers the peak. -/
theorem plan_keepsLimits_iff :
    (s.plan root ⟨startPos, 0, endPos, 0⟩ duration).KeepsLimits startPos
        (s.constraints.clampPosition endPos) ↔
      s.constraints.CoversPeak (s.constraints.clampPosition endPos - startPos)
        (s.constraints.startDuration startPos (s.constraints.clampPosition endPos) duration) := by
  have hT :
      0 < s.constraints.startDuration startPos (s.constraints.clampPosition endPos) duration :=
    startDuration_pos _ _ _
  rw [← rest_peak_le_iff root s.constraints _ _ hT]
  exact (SingleAxisCubicPlanner.plan_fresh root ⟨startPos, 0, endPos, 0⟩ duration
    s).keepsLimits_iff rfl rfl (rest_speed_le root s.constraints _ _ hT)

/-- The boundary is met from every start, and from rest the limits are kept exactly when the
duration covers the peak. -/
theorem plan_meets_limits_iff :
    ((s.plan root ⟨startPos, startVel, endPos, 0⟩ duration).MeetsBoundary startPos startVel
        (s.constraints.clampPosition endPos) ∧
      (startVel = 0 →
        (s.plan root ⟨startPos, startVel, endPos, 0⟩ duration).KeepsLimits startPos
          (s.constraints.clampPosition endPos))) ↔
      (startVel = 0 →
        s.constraints.CoversPeak (s.constraints.clampPosition endPos - startPos)
          (s.constraints.startDuration startPos (s.constraints.clampPosition endPos)
            duration)) := by
  rw [and_iff_right (plan_meetsBoundary root s startPos startVel endPos duration)]
  refine forall_congr' fun hzero => ?_
  subst hzero
  exact plan_keepsLimits_iff root s startPos endPos duration

end Plan

/-! ## A peak between two samples -/

theorem defaultVelocity_pos : (0 : ℚ) < 1 := by norm_num

theorem defaultAcceleration_pos : (0 : ℚ) < 5 := by norm_num

theorem defaultPosition_le : (-628 / 100 : ℚ) ≤ 628 / 100 := by norm_num

/-- The limits that the arm controller sets for a joint which its model does not know. -/
def defaultConstraints : MotionConstraints where
  maxVelocity := 1
  maxAcceleration := 5
  minPosition := -628 / 100
  maxPosition := 628 / 100
  maxVelocity_pos := defaultVelocity_pos
  maxAcceleration_pos := defaultAcceleration_pos
  minPosition_le := defaultPosition_le

/-- Over 0.21651 rad in half a second the samples stay below 5 rad/s², and the acceleration at
0.10566 s is above. -/
theorem peak_between_samples :
    ¬ (((SingleAxisCubicPlanner.initial defaultConstraints).plan .dyadic
          ⟨0, 0, 21651 / 100000, 0⟩ 0).MeetsBoundary 0 0
        (defaultConstraints.clampPosition (21651 / 100000)) ∧
      ((0 : ℚ) = 0 →
        ((SingleAxisCubicPlanner.initial defaultConstraints).plan .dyadic
            ⟨0, 0, 21651 / 100000, 0⟩ 0).KeepsLimits 0
          (defaultConstraints.clampPosition (21651 / 100000)))) := by
  rintro ⟨-, hkeeps⟩
  have hpoint := (hkeeps rfl).acceleration [0] (10566 / 100000)
  have hexceeds : ¬ |((((SingleAxisCubicPlanner.initial defaultConstraints).plan .dyadic
      ⟨0, 0, 21651 / 100000, 0⟩ 0).run [0]).update (10566 / 100000)).1.acceleration| ≤
        ((SingleAxisCubicPlanner.initial defaultConstraints).plan .dyadic
          ⟨0, 0, 21651 / 100000, 0⟩ 0).constraints.maxAcceleration := by
    decide +kernel
  exact hexceeds hpoint

end Cubic

end Arm

end JointController
