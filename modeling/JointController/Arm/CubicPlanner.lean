import JointController.Library.Quintic
import Mathlib.Data.Nat.Sqrt
import Mathlib.Data.Rat.Floor

/-!
# The CUBIC planner with its polynomials

The planner of `LocalPlanners` with its arithmetic, over the rational numbers and for any number of
axes.  The square root is a parameter: it is rounded, as any square root of a rational number is.

* `SquareRoot`, with `SquareRoot.dyadic`.
* `SingleAxisCubicPlanner` with `plan`, `replan` and `update`, and `scaledDuration` for
  `calculate_time_scaling`.
* `MultiAxisCubicPlanner` with `plan`, `update`, `replanAxis`, `replanAllAxes` and `setNewTargets`.
* `Fresh` and `Follows`: a planned axis before and after its first update, `follows_run` and
  `Follows.update_cases`.
-/

namespace JointController

namespace Arm

namespace Cubic

/-! ## The square root -/

/-- `std::sqrt` on the numbers above one: a relative error below `2⁻⁵⁰` in the square, and a root
above one. -/
structure SquareRoot where
  sqrt : ℚ → ℚ
  one_lt_sqrt : ∀ x, 1 < x → 1 < sqrt x
  le_sq : ∀ x, 1 < x → (1 - 1 / 2 ^ 50) * x ≤ sqrt x ^ 2
  sq_le : ∀ x, 1 < x → sqrt x ^ 2 ≤ (1 + 1 / 2 ^ 50) * x

/-- The root in steps of `2⁻⁶⁰`, rounded up. -/
def dyadicSqrt (x : ℚ) : ℚ := ((Nat.sqrt ⌊x * 4 ^ 60⌋₊ + 1 : ℕ) : ℚ) / 2 ^ 60

section Dyadic

variable {x : ℚ} (hx : 1 < x)

include hx

/-- The integer root of the scaled number, between its two neighbours. -/
theorem sqrt_floor_bounds :
    (2 : ℚ) ^ 60 ≤ Nat.sqrt ⌊x * 4 ^ 60⌋₊ ∧ (Nat.sqrt ⌊x * 4 ^ 60⌋₊ : ℚ) ^ 2 ≤ x * 4 ^ 60 ∧
      x * 4 ^ 60 ≤ ((Nat.sqrt ⌊x * 4 ^ 60⌋₊ : ℚ) + 1) ^ 2 := by
  have hscaled : (4 : ℚ) ^ 60 ≤ x * 4 ^ 60 := by linarith
  have hfloor : 4 ^ 60 ≤ ⌊x * 4 ^ 60⌋₊ := Nat.le_floor (by push_cast; exact hscaled)
  refine ⟨?_, ?_, ?_⟩
  · have hroot : 2 ^ 60 ≤ Nat.sqrt ⌊x * 4 ^ 60⌋₊ := Nat.le_sqrt.mpr (by omega)
    exact_mod_cast hroot
  · have hroot : (Nat.sqrt ⌊x * 4 ^ 60⌋₊ : ℚ) ^ 2 ≤ ⌊x * 4 ^ 60⌋₊ := by
      exact_mod_cast Nat.sqrt_le' _
    exact hroot.trans (Nat.floor_le (by linarith))
  · have hroot : (⌊x * 4 ^ 60⌋₊ : ℚ) + 1 ≤ ((Nat.sqrt ⌊x * 4 ^ 60⌋₊ : ℚ) + 1) ^ 2 := by
      exact_mod_cast Nat.succ_le_succ_sqrt' _
    exact (Nat.lt_floor_add_one _).le.trans hroot

theorem one_lt_dyadicSqrt : 1 < dyadicSqrt x := by
  have hroot := (sqrt_floor_bounds hx).1
  rw [dyadicSqrt, lt_div_iff₀ (by norm_num)]
  push_cast
  linarith

theorem le_dyadicSqrt_sq : (1 - 1 / 2 ^ 50) * x ≤ dyadicSqrt x ^ 2 := by
  have hroot := (sqrt_floor_bounds hx).2.2
  rw [dyadicSqrt, div_pow, le_div_iff₀ (by norm_num)]
  push_cast
  refine le_trans ?_ hroot
  have hscale : (4 : ℚ) ^ 60 = (2 ^ 60) ^ 2 := by norm_num
  rw [hscale]
  refine mul_le_mul_of_nonneg_right ?_ (by positivity)
  exact mul_le_of_le_one_left (by linarith) (by norm_num)

theorem dyadicSqrt_sq_le : dyadicSqrt x ^ 2 ≤ (1 + 1 / 2 ^ 50) * x := by
  obtain ⟨hlow, hhigh, -⟩ := sqrt_floor_bounds hx
  rw [dyadicSqrt, div_pow, div_le_iff₀ (by norm_num)]
  push_cast
  norm_num at hlow hhigh ⊢
  nlinarith

end Dyadic

/-- A square root that can be evaluated. -/
def SquareRoot.dyadic : SquareRoot where
  sqrt := dyadicSqrt
  one_lt_sqrt _ hx := one_lt_dyadicSqrt hx
  le_sq _ hx := le_dyadicSqrt_sq hx
  sq_le _ hx := dyadicSqrt_sq_le hx

/-! ## One axis -/

/-- `MotionConstraints`, with positive limits and a range that is not empty. -/
structure MotionConstraints where
  maxVelocity : ℚ
  maxAcceleration : ℚ
  minPosition : ℚ
  maxPosition : ℚ
  maxVelocity_pos : 0 < maxVelocity
  maxAcceleration_pos : 0 < maxAcceleration
  minPosition_le : minPosition ≤ maxPosition

/-- `TrajectoryPoint`. -/
structure TrajectoryPoint where
  position : ℚ
  velocity : ℚ
  acceleration : ℚ
  deriving DecidableEq

/-- The start and the end of a motion. -/
structure Motion where
  startPos : ℚ
  startVel : ℚ
  endPos : ℚ
  endVel : ℚ

/-- `std::clamp`. -/
def clamp (x low high : ℚ) : ℚ := if x < low then low else if high < x then high else x

/-- A target within the range of positions. -/
def MotionConstraints.clampPosition (c : MotionConstraints) (x : ℚ) : ℚ :=
  clamp x c.minPosition c.maxPosition

/-- The duration before the scaling: the requested one, or one for the distance. -/
def MotionConstraints.startDuration (c : MotionConstraints) (startPos targetPos duration : ℚ) : ℚ :=
  if 0 < duration then duration else max (1 / 2) (|targetPos - startPos| / c.maxVelocity)

/-- `max_vel`: the largest of 101 samples of the speed. -/
def maxVel (q : Quintic ℚ) (T : ℚ) : ℚ := peak 100 fun i => |q.velocity (T * i / 100)|

/-- `max_accel`: the largest of 101 samples of the acceleration. -/
def maxAccel (q : Quintic ℚ) (T : ℚ) : ℚ := peak 100 fun i => |q.acceleration (T * i / 100)|

/-- `scale_factor`. -/
def scaleFactor (root : SquareRoot) (c : MotionConstraints) (q : Quintic ℚ) (T : ℚ) : ℚ :=
  max (if c.maxAcceleration < maxAccel q T then root.sqrt (maxAccel q T / c.maxAcceleration) else 1)
    (if c.maxVelocity < maxVel q T then maxVel q T / c.maxVelocity else 1)

/-- The duration after `calculate_time_scaling`. -/
def scaledDuration (root : SquareRoot) (c : MotionConstraints) (q : Quintic ℚ) (T : ℚ) : ℚ :=
  if 1 < scaleFactor root c q T then T * scaleFactor root c q T * (105 / 100) else T

/-- `SingleAxisCubicPlanner`. -/
structure SingleAxisCubicPlanner where
  currentPos : ℚ
  currentVel : ℚ
  currentAcc : ℚ
  targetPos : ℚ
  targetVel : ℚ
  constraints : MotionConstraints
  duration : ℚ
  tStart : ℚ
  isMoving : Bool
  isFirstUpdate : Bool
  isPlanned : Bool
  coefficients : Quintic ℚ
  T : ℚ

namespace SingleAxisCubicPlanner

/-- The planner when it is made.  The coefficients and `T` are read after a first update only. -/
def initial (constraints : MotionConstraints) : SingleAxisCubicPlanner :=
  ⟨0, 0, 0, 0, 0, constraints, 1, 0, false, true, false, ⟨0, 0, 0, 0, 0, 0⟩, 0⟩

variable (root : SquareRoot) (s : SingleAxisCubicPlanner)

/-- The polynomial from the current state to the target. -/
def trajectory : Quintic ℚ :=
  .between s.currentPos s.currentVel s.targetPos s.targetVel s.duration

/-- `calculate_time_scaling`. -/
def calculateTimeScaling : SingleAxisCubicPlanner :=
  { s with duration := scaledDuration root s.constraints s.trajectory s.duration }

/-- What `plan` and `replan` have in common: the target, the duration and the scaling. -/
def aim (targetPos targetVel duration : ℚ) : SingleAxisCubicPlanner :=
  let target := s.constraints.clampPosition targetPos
  calculateTimeScaling root
    { s with
      targetPos := target
      targetVel := targetVel
      duration := s.constraints.startDuration s.currentPos target duration }

/-- `plan`. -/
def plan (motion : Motion) (duration : ℚ) : SingleAxisCubicPlanner :=
  { aim root { s with currentPos := motion.startPos, currentVel := motion.startVel }
      motion.endPos motion.endVel duration with
    isFirstUpdate := true
    isMoving := true
    isPlanned := true }

/-- `replan`: from the current state, and without the flag that says that there is a plan. -/
def replan (newTargetPos newTargetVel newDuration : ℚ) : SingleAxisCubicPlanner :=
  { s.aim root newTargetPos newTargetVel newDuration with
    isFirstUpdate := true
    isMoving := true }

/-- The first update of a plan fixes its start and its coefficients. -/
def startUpdate (currentTime : ℚ) : SingleAxisCubicPlanner :=
  if s.isFirstUpdate then
    { s with
      tStart := currentTime
      isFirstUpdate := false
      T := s.duration
      coefficients := s.trajectory }
  else s

/-- The point of the polynomial at a time since the start. -/
def point (tau : ℚ) : TrajectoryPoint :=
  ⟨s.coefficients.position tau, s.coefficients.velocity tau, s.coefficients.acceleration tau⟩

/-- `update`. -/
def update (currentTime : ℚ) : TrajectoryPoint × SingleAxisCubicPlanner :=
  if !s.isMoving || !s.isPlanned then (⟨s.currentPos, 0, 0⟩, s)
  else
    let s := s.startUpdate currentTime
    let tau := clamp (currentTime - s.tStart) 0 s.T
    if s.T ≤ tau then
      (⟨s.targetPos, s.targetVel, 0⟩,
        { s with
          isMoving := false
          currentPos := s.targetPos
          currentVel := s.targetVel
          currentAcc := 0 })
    else
      (s.point tau,
        { s with
          currentPos := (s.point tau).position
          currentVel := (s.point tau).velocity
          currentAcc := (s.point tau).acceleration })

/-- The planner after updates at some times. -/
def run (times : List ℚ) : SingleAxisCubicPlanner := times.foldl (fun s t => (s.update t).2) s

end SingleAxisCubicPlanner

/-! ## All axes -/

/-- The start and the end of each axis, when every vector has one value for each axis. -/
def readMotions (n : ℕ) (startPositions startVels endPositions endVels : List ℚ) :
    Except String (Fin n → Motion) :=
  if h : startPositions.length = n ∧ startVels.length = n ∧ endPositions.length = n ∧
      endVels.length = n then
    .ok fun i =>
      ⟨startPositions.get (i.cast h.1.symm), startVels.get (i.cast h.2.1.symm),
        endPositions.get (i.cast h.2.2.1.symm), endVels.get (i.cast h.2.2.2.symm)⟩
  else .error "输入参数数量与轴数不匹配"

/-- The target and the final velocity of each axis, when both vectors have one value for each. -/
def readTargets (n : ℕ) (positions vels : List ℚ) : Except String (Fin n → ℚ × ℚ) :=
  if h : positions.length = n ∧ vels.length = n then
    .ok fun i => (positions.get (i.cast h.1.symm), vels.get (i.cast h.2.symm))
  else .error "目标位置或速度数量与轴数不匹配"

/-- `MultiAxisCubicPlanner`.  None of its functions reads the four vectors that it shows. -/
structure MultiAxisCubicPlanner (n : ℕ) where
  planners : Fin n → SingleAxisCubicPlanner

namespace MultiAxisCubicPlanner

variable {n : ℕ} (root : SquareRoot) (m : MultiAxisCubicPlanner n)

/-- The planner when it is made. -/
def make (n : ℕ) (constraintsList : List MotionConstraints) :
    Except String (MultiAxisCubicPlanner n) :=
  if h : n = constraintsList.length then
    .ok ⟨fun i => .initial (constraintsList.get (i.cast h))⟩
  else .error "轴数与约束数量不匹配"

/-- The longest of a duration and the durations of the axes. -/
def maxDuration (duration : ℚ) : ℚ :=
  runningMax (fun i => (m.planners i).duration) duration (List.finRange n)

/-- Every axis is planned with one duration. -/
def planEach (motions : Fin n → Motion) (duration : ℚ) : MultiAxisCubicPlanner n :=
  ⟨fun i => (m.planners i).plan root (motions i) duration⟩

/-- `plan`, after the sizes are checked: all axes are planned again with the longest duration. -/
def planMotions (motions : Fin n → Motion) (duration : ℚ) : ℚ × MultiAxisCubicPlanner n :=
  let first := m.planEach root motions duration
  let longest := first.maxDuration duration
  (longest, if duration < longest then first.planEach root motions longest else first)

/-- `plan`. -/
def plan (startPositions startVels endPositions endVels : List ℚ) (duration : ℚ) :
    Except String (ℚ × MultiAxisCubicPlanner n) :=
  (readMotions n startPositions startVels endPositions endVels).map fun motions =>
    m.planMotions root motions duration

/-- `sync_all_axes_duration`.  What it hands to `replan` as the target is the current state. -/
def syncAllAxesDuration : MultiAxisCubicPlanner n :=
  ⟨fun i => (m.planners i).replan root (m.planners i).currentPos (m.planners i).currentVel
    (m.maxDuration 0)⟩

/-- `update`. -/
def update (currentTime : ℚ) : (Fin n → TrajectoryPoint) × MultiAxisCubicPlanner n :=
  (fun i => ((m.planners i).update currentTime).1,
    ⟨fun i => ((m.planners i).update currentTime).2⟩)

/-- The planner after updates at some times. -/
def run (times : List ℚ) : MultiAxisCubicPlanner n := times.foldl (fun m t => (m.update t).2) m

/-- `replan_axis`. -/
def replanAxis (axisIndex : ℕ) (newTargetPos newTargetVel newDuration : ℚ) :
    Except String (MultiAxisCubicPlanner n) :=
  if axisIndex < n then
    .ok (syncAllAxesDuration root
      ⟨fun i =>
        if i = axisIndex then (m.planners i).replan root newTargetPos newTargetVel newDuration
        else m.planners i⟩)
  else .error "轴索引超出范围"

/-- Every axis is planned again for its own target, and then all of them are synchronised. -/
def replanEach (targets : Fin n → ℚ × ℚ) (newDuration : ℚ) : MultiAxisCubicPlanner n :=
  syncAllAxesDuration root
    ⟨fun i => (m.planners i).replan root (targets i).1 (targets i).2 newDuration⟩

/-- `replan_all_axes`. -/
def replanAllAxes (newTargetPositions newTargetVels : List ℚ) (newDuration : ℚ) :
    Except String (MultiAxisCubicPlanner n) :=
  (readTargets n newTargetPositions newTargetVels).map fun targets =>
    m.replanEach root targets newDuration

/-- `set_new_targets`. -/
def setNewTargets (newTargetPositions newTargetVels : List ℚ) :
    Except String (MultiAxisCubicPlanner n) :=
  (readTargets n newTargetPositions newTargetVels).map fun targets =>
    m.replanEach root targets (-1)

end MultiAxisCubicPlanner

/-! ## The duration -/

/-- A limit is exceeded at one of the sampled times. -/
def MotionConstraints.Overruns (c : MotionConstraints) (q : Quintic ℚ) (T : ℚ) : Prop :=
  ∃ i ≤ 100, c.maxVelocity < |q.velocity (T * (i : ℕ) / 100)| ∨
    c.maxAcceleration < |q.acceleration (T * (i : ℕ) / 100)|

section Duration

variable (root : SquareRoot) (c : MotionConstraints) (q : Quintic ℚ) (T : ℚ)

theorem le_maxVel {i : ℕ} (hi : i ≤ 100) : |q.velocity (T * i / 100)| ≤ maxVel q T :=
  le_peak 100 (fun i : ℕ => |q.velocity (T * i / 100)|) hi

theorem le_maxAccel {i : ℕ} (hi : i ≤ 100) : |q.acceleration (T * i / 100)| ≤ maxAccel q T :=
  le_peak 100 (fun i : ℕ => |q.acceleration (T * i / 100)|) hi

theorem lt_maxVel_iff :
    c.maxVelocity < maxVel q T ↔ ∃ i ≤ 100, c.maxVelocity < |q.velocity (T * (i : ℕ) / 100)| :=
  lt_peak_iff 100 _ c.maxVelocity_pos.le

theorem lt_maxAccel_iff :
    c.maxAcceleration < maxAccel q T ↔
      ∃ i ≤ 100, c.maxAcceleration < |q.acceleration (T * (i : ℕ) / 100)| :=
  lt_peak_iff 100 _ c.maxAcceleration_pos.le

theorem overruns_iff :
    c.Overruns q T ↔ c.maxVelocity < maxVel q T ∨ c.maxAcceleration < maxAccel q T := by
  rw [lt_maxVel_iff, lt_maxAccel_iff, MotionConstraints.Overruns, ← exists_or]
  exact exists_congr fun i => and_or_left

/-- The duration is stretched exactly when a sample exceeds a limit. -/
theorem one_lt_scaleFactor_iff : 1 < scaleFactor root c q T ↔ c.Overruns q T := by
  have haccel : 1 < (if c.maxAcceleration < maxAccel q T then
      root.sqrt (maxAccel q T / c.maxAcceleration) else 1) ↔ c.maxAcceleration < maxAccel q T := by
    split_ifs with h
    · have hratio : 1 < maxAccel q T / c.maxAcceleration :=
        (one_lt_div c.maxAcceleration_pos).mpr h
      exact iff_of_true (root.one_lt_sqrt _ hratio) h
    · exact iff_of_false (lt_irrefl 1) h
  have hvel : 1 < (if c.maxVelocity < maxVel q T then maxVel q T / c.maxVelocity else 1) ↔
      c.maxVelocity < maxVel q T := by
    split_ifs with h
    · exact iff_of_true ((one_lt_div c.maxVelocity_pos).mpr h) h
    · exact iff_of_false (lt_irrefl 1) h
  rw [scaleFactor, lt_max_iff, haccel, hvel, overruns_iff, or_comm]

variable {root c q T}

theorem scaledDuration_of_not_overruns (h : ¬ c.Overruns q T) : scaledDuration root c q T = T :=
  if_neg fun hscale => h ((one_lt_scaleFactor_iff root c q T).mp hscale)

theorem scaledDuration_of_overruns (h : c.Overruns q T) :
    scaledDuration root c q T = T * scaleFactor root c q T * (105 / 100) :=
  if_pos ((one_lt_scaleFactor_iff root c q T).mpr h)

theorem lt_scaledDuration (hT : 0 < T) (h : c.Overruns q T) : T < scaledDuration root c q T := by
  have hscale := (one_lt_scaleFactor_iff root c q T).mpr h
  rw [scaledDuration_of_overruns h]
  nlinarith

theorem le_scaledDuration (hT : 0 < T) : T ≤ scaledDuration root c q T := by
  by_cases h : c.Overruns q T
  · exact (lt_scaledDuration hT h).le
  · exact (scaledDuration_of_not_overruns h).ge

/-- The duration is kept exactly when no sample exceeds a limit. -/
theorem scaledDuration_eq_iff (hT : 0 < T) :
    scaledDuration root c q T = T ↔ ¬ c.Overruns q T :=
  ⟨fun h hover => (lt_scaledDuration hT hover).ne' h, scaledDuration_of_not_overruns⟩

variable (root c q T)

theorem one_le_scaleFactor : 1 ≤ scaleFactor root c q T := by
  refine le_max_of_le_right ?_
  split_ifs with h
  · exact ((one_lt_div c.maxVelocity_pos).mpr h).le
  · exact le_rfl

/-- The factor covers the excess of the speed. -/
theorem maxVel_le_scaleFactor : maxVel q T ≤ scaleFactor root c q T * c.maxVelocity := by
  by_cases h : c.maxVelocity < maxVel q T
  · have hfactor : maxVel q T / c.maxVelocity ≤ scaleFactor root c q T := by
      rw [scaleFactor, if_pos h]
      exact le_max_right _ _
    exact (div_le_iff₀ c.maxVelocity_pos).mp hfactor
  · exact (not_lt.mp h).trans
      (le_mul_of_one_le_left c.maxVelocity_pos.le (one_le_scaleFactor root c q T))

/-- The square of the factor covers the excess of the acceleration, up to the rounding. -/
theorem maxAccel_le_scaleFactor :
    (1 - 1 / 2 ^ 50) * maxAccel q T ≤ scaleFactor root c q T ^ 2 * c.maxAcceleration := by
  have hone := one_le_scaleFactor root c q T
  by_cases h : c.maxAcceleration < maxAccel q T
  · have hratio : 1 < maxAccel q T / c.maxAcceleration := (one_lt_div c.maxAcceleration_pos).mpr h
    have hfactor : root.sqrt (maxAccel q T / c.maxAcceleration) ≤ scaleFactor root c q T := by
      rw [scaleFactor, if_pos h]
      exact le_max_left _ _
    have hroot := root.one_lt_sqrt _ hratio
    have hsquare : (1 - 1 / 2 ^ 50) * (maxAccel q T / c.maxAcceleration) ≤
        scaleFactor root c q T ^ 2 :=
      (root.le_sq _ hratio).trans (pow_le_pow_left₀ (by linarith) hfactor 2)
    rwa [← mul_div_assoc, div_le_iff₀ c.maxAcceleration_pos] at hsquare
  · have hbound := not_lt.mp h
    have hpositive := c.maxAcceleration_pos
    have hlow : (1 - 1 / 2 ^ 50) * maxAccel q T ≤ c.maxAcceleration := by
      rcases le_total 0 (maxAccel q T) with hsign | hsign
      · linarith
      · linarith
    exact hlow.trans (le_mul_of_one_le_left hpositive.le (one_le_pow₀ hone))

variable {root c q T}

theorem startDuration_pos (startPos targetPos duration : ℚ) :
    0 < c.startDuration startPos targetPos duration := by
  unfold MotionConstraints.startDuration
  split_ifs with h
  · exact h
  · exact lt_max_of_lt_left (by norm_num)

end Duration

/-! ## Updates -/

theorem clamp_mem {x low high : ℚ} (h : low ≤ high) :
    low ≤ clamp x low high ∧ clamp x low high ≤ high := by
  unfold clamp
  split_ifs with hlow hhigh
  · exact ⟨le_rfl, h⟩
  · exact ⟨h, le_rfl⟩
  · exact ⟨not_lt.mp hlow, not_lt.mp hhigh⟩

theorem clamp_of_mem {x low high : ℚ} (hlow : low ≤ x) (hhigh : x ≤ high) :
    clamp x low high = x := by
  rw [clamp, if_neg (not_lt.mpr hlow), if_neg (not_lt.mpr hhigh)]

theorem clamp_of_ge {x low high : ℚ} (h : low ≤ high) (hx : high ≤ x) :
    clamp x low high = high := by
  rw [clamp, if_neg (not_lt.mpr (h.trans hx))]
  split_ifs with hhigh
  · rfl
  · exact le_antisymm (not_lt.mp hhigh) hx

namespace SingleAxisCubicPlanner

/-- There is a plan, and it has not been updated. -/
structure Fresh (p : SingleAxisCubicPlanner) : Prop where
  isFirstUpdate : p.isFirstUpdate = true
  isMoving : p.isMoving = true
  isPlanned : p.isPlanned = true
  duration_pos : 0 < p.duration

/-- The state in the motion of a plan `p` that was first updated at `start`: under way with its
coefficients, or at its target. -/
structure Follows (p : SingleAxisCubicPlanner) (start : ℚ) (s : SingleAxisCubicPlanner) :
    Prop where
  isFirstUpdate : s.isFirstUpdate = false
  isPlanned : s.isPlanned = true
  targetPos : s.targetPos = p.targetPos
  targetVel : s.targetVel = p.targetVel
  moving : s.isMoving = true → s.coefficients = p.trajectory ∧ s.T = p.duration ∧ s.tStart = start
  stopped : s.isMoving = false → s.currentPos = p.targetPos

/-- The point of a plan at a time since its start. -/
def pointAt (p : SingleAxisCubicPlanner) (tau : ℚ) : TrajectoryPoint :=
  ⟨p.trajectory.position tau, p.trajectory.velocity tau, p.trajectory.acceleration tau⟩

variable {p s : SingleAxisCubicPlanner} {start t : ℚ}

/-- An update of a motion that is under way, with `u` for the state once the motion has started. -/
theorem update_of_moving {u : SingleAxisCubicPlanner} (hu : s.startUpdate t = u)
    (hmoving : s.isMoving = true) (hplanned : s.isPlanned = true) :
    s.update t =
      if u.T ≤ clamp (t - u.tStart) 0 u.T then
        (⟨u.targetPos, u.targetVel, 0⟩,
          { u with
            isMoving := false
            currentPos := u.targetPos
            currentVel := u.targetVel
            currentAcc := 0 })
      else
        (u.point (clamp (t - u.tStart) 0 u.T),
          { u with
            currentPos := (u.point (clamp (t - u.tStart) 0 u.T)).position
            currentVel := (u.point (clamp (t - u.tStart) 0 u.T)).velocity
            currentAcc := (u.point (clamp (t - u.tStart) 0 u.T)).acceleration }) := by
  subst hu
  rw [update, if_neg (by simp [hmoving, hplanned])]

/-- An axis that stands, or that has no plan, reports where it is. -/
theorem update_of_still (h : s.isMoving = false ∨ s.isPlanned = false) :
    s.update t = (⟨s.currentPos, 0, 0⟩, s) := by
  rw [update, if_pos (by simpa using h)]

/-- What the update of a followed motion returns: the point of the plan, or its target once the
duration has passed. -/
inductive UpdateCase (p : SingleAxisCubicPlanner) (start t : ℚ) : TrajectoryPoint → Prop where
  | under (h : t - start < p.duration) :
      UpdateCase p start t (p.pointAt (clamp (t - start) 0 p.duration))
  | target (velocity : ℚ) (h : velocity = p.targetVel ∨ velocity = 0) :
      UpdateCase p start t ⟨p.targetPos, velocity, 0⟩

theorem Follows.update_cases (hduration : 0 < p.duration) (h : Follows p start s) (t : ℚ) :
    UpdateCase p start t (s.update t).1 ∧ Follows p start (s.update t).2 ∧
      (p.duration ≤ t - start → (s.update t).1.position = p.targetPos) := by
  rcases hmoving : s.isMoving with _ | _
  · rw [update_of_still (Or.inl hmoving), h.stopped hmoving]
    exact ⟨.target 0 (Or.inr rfl), h, fun _ => rfl⟩
  · obtain ⟨hcoefficients, hT, hstart⟩ := h.moving hmoving
    have hs : s.startUpdate t = s := if_neg (by simp [h.isFirstUpdate])
    rw [update_of_moving hs hmoving h.isPlanned, hT, hstart]
    split_ifs with hend
    · refine ⟨?_, ⟨h.isFirstUpdate, h.isPlanned, h.targetPos, h.targetVel, fun hm => ?_,
        fun _ => ?_⟩, fun _ => h.targetPos⟩
      · rw [h.targetPos, h.targetVel]
        exact .target p.targetVel (Or.inl rfl)
      · exact absurd hm (by simp)
      · exact h.targetPos
    · have hlt : t - start < p.duration := by
        by_contra hle
        exact hend (clamp_of_ge hduration.le (not_lt.mp hle)).ge
      refine ⟨?_, ⟨h.isFirstUpdate, h.isPlanned, h.targetPos, h.targetVel,
        fun _ => ⟨hcoefficients, rfl, rfl⟩, fun hm => ?_⟩, fun hle => absurd hlt (not_lt.mpr hle)⟩
      · rw [point, hcoefficients]
        exact .under hlt
      · exact absurd (hm.symm.trans hmoving) (by simp)

/-- While a motion is under way, an update within the duration returns the point of the plan. -/
theorem Follows.update_under (h : Follows p start s) (hmoving : s.isMoving = true)
    (ht : 0 ≤ t - start) (ht' : t - start < p.duration) :
    (s.update t).1 = p.pointAt (t - start) := by
  obtain ⟨hcoefficients, hT, hstart⟩ := h.moving hmoving
  have hs : s.startUpdate t = s := if_neg (by simp [h.isFirstUpdate])
  rw [update_of_moving hs hmoving h.isPlanned, hT, hstart, clamp_of_mem ht ht'.le,
    if_neg (not_le.mpr ht'), point, hcoefficients]
  rfl

/-- The first update of a plan returns its start. -/
theorem Fresh.update_first (h : Fresh p) (start : ℚ) :
    (p.update start).1 = ⟨p.currentPos, p.currentVel, 0⟩ ∧ Follows p start (p.update start).2 ∧
      (p.update start).2.isMoving = true := by
  have hs : p.startUpdate start =
      { p with
        tStart := start, isFirstUpdate := false, T := p.duration, coefficients := p.trajectory } :=
    if_pos h.isFirstUpdate
  have htau : clamp (start - start) 0 p.duration = 0 := by
    rw [sub_self]
    exact clamp_of_mem le_rfl h.duration_pos.le
  rw [update_of_moving hs h.isMoving h.isPlanned]
  simp only [htau]
  rw [if_neg (not_le.mpr h.duration_pos)]
  refine ⟨?_, ⟨rfl, h.isPlanned, rfl, rfl, fun _ => ⟨rfl, rfl, rfl⟩, fun hm => ?_⟩, h.isMoving⟩
  · simp [point, trajectory]
  · exact absurd (hm.symm.trans h.isMoving) (by simp)

theorem follows_run (hduration : 0 < p.duration) (h : Follows p start s) (times : List ℚ) :
    Follows p start (s.run times) := by
  induction times generalizing s with
  | nil => exact h
  | cons t times ih => exact ih (h.update_cases hduration t).2.1

/-- From the first update on, the motion of the plan is followed. -/
theorem Fresh.follows_run (h : Fresh p) (start : ℚ) (times : List ℚ) :
    Follows p start (p.run (start :: times)) :=
  SingleAxisCubicPlanner.follows_run h.duration_pos (h.update_first start).2.1 times

/-- The position that every run of updates comes to, once the duration has passed since the first
one. -/
def EndsAt (s : SingleAxisCubicPlanner) (position : ℚ) : Prop :=
  ∀ start times t, s.duration ≤ t - start →
    ((s.run (start :: times)).update t).1.position = position

theorem Fresh.endsAt (h : Fresh p) : p.EndsAt p.targetPos := fun start times t ht =>
  ((h.follows_run start times).update_cases h.duration_pos t).2.2 ht

/-- Without a plan nothing moves. -/
theorem run_of_not_planned (h : s.isPlanned = false) (times : List ℚ) : s.run times = s := by
  induction times with
  | nil => rfl
  | cons t times ih =>
      rw [run, List.foldl_cons, update_of_still (Or.inr h)]
      exact ih

theorem endsAt_of_not_planned (h : s.isPlanned = false) : s.EndsAt s.currentPos := by
  intro start times t _
  rw [run_of_not_planned h, update_of_still (Or.inr h)]

/-- There is one final position. -/
theorem EndsAt.unique {x y : ℚ} (hx : s.EndsAt x) (hy : s.EndsAt y) : x = y := by
  have hpassed : s.duration ≤ s.duration - 0 := by rw [sub_zero]
  rw [← hx 0 [] s.duration hpassed, hy 0 [] s.duration hpassed]

/-! ### What `plan` and `replan` leave -/

variable (root : SquareRoot) (motion : Motion) (duration : ℚ)

theorem plan_fresh (s : SingleAxisCubicPlanner) : Fresh (s.plan root motion duration) where
  isFirstUpdate := rfl
  isMoving := rfl
  isPlanned := rfl
  duration_pos :=
    (startDuration_pos _ _ _).trans_le (le_scaledDuration (startDuration_pos _ _ _))

theorem replan_fresh (s : SingleAxisCubicPlanner) (targetPos targetVel : ℚ)
    (h : s.isPlanned = true) : Fresh (s.replan root targetPos targetVel duration) where
  isFirstUpdate := rfl
  isMoving := rfl
  isPlanned := h
  duration_pos :=
    (startDuration_pos _ _ _).trans_le (le_scaledDuration (startDuration_pos _ _ _))

end SingleAxisCubicPlanner

end Cubic

end Arm

end JointController
