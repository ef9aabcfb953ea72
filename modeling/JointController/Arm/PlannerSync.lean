import JointController.Arm.PlannedMotion
import Mathlib.Data.Fin.VecNotation

/-!
# Axes that share a duration

`plan` asks every axis how long it takes, and plans all of them again for the longest answer; that
plan scales the time a second time.  The synchronisation after a replan hands the current state of
each axis to `replan` as its target.

* `planMotions_planner`: every axis after `plan`, as a plan for the slowest duration.
* `Synchronised`, `plan_synchronised_iff`: all axes take the returned duration exactly when no axis
  exceeds a limit at the slowest duration.
* `rest_synchronised`: from rest to rest they always do.
* `ReplanCall`, `replan_keeps_targets_iff`: the targets that a replan leaves.
-/

namespace JointController

namespace Arm

namespace Cubic

/-- The polynomial of a motion in a duration. -/
def Motion.trajectory (motion : Motion) (c : MotionConstraints) (T : ℚ) : Quintic ℚ :=
  .between motion.startPos motion.startVel (c.clampPosition motion.endPos) motion.endVel T

/-- The duration that an axis chooses for itself when it is asked for one. -/
def Motion.ownDuration (motion : Motion) (root : SquareRoot) (c : MotionConstraints)
    (duration : ℚ) : ℚ :=
  scaledDuration root c
    (motion.trajectory c
      (c.startDuration motion.startPos (c.clampPosition motion.endPos) duration))
    (c.startDuration motion.startPos (c.clampPosition motion.endPos) duration)

/-- The axis has somewhere to go, or a velocity. -/
def Motion.Moves (motion : Motion) (c : MotionConstraints) : Prop :=
  motion.startPos ≠ c.clampPosition motion.endPos ∨ motion.startVel ≠ 0 ∨ motion.endVel ≠ 0

/-- The longest of a requested duration and the durations that the axes choose. -/
def slowestDuration {n : ℕ} (root : SquareRoot) (c : Fin n → MotionConstraints)
    (motions : Fin n → Motion) (duration : ℚ) : ℚ :=
  runningMax (fun i => (motions i).ownDuration root (c i) duration) duration (List.finRange n)

section Slowest

variable {n : ℕ} (root : SquareRoot) (c : Fin n → MotionConstraints) (motions : Fin n → Motion)
  (duration : ℚ)

theorem ownDuration_pos (motion : Motion) (c : MotionConstraints) :
    0 < motion.ownDuration root c duration :=
  (startDuration_pos _ _ _).trans_le (le_scaledDuration (startDuration_pos _ _ _))

theorem ownDuration_le_slowest (i : Fin n) :
    (motions i).ownDuration root (c i) duration ≤ slowestDuration root c motions duration :=
  le_runningMax (fun i => (motions i).ownDuration root (c i) duration) duration (List.finRange n)
    (List.mem_finRange i)

theorem slowestDuration_pos (i : Fin n) : 0 < slowestDuration root c motions duration :=
  (ownDuration_pos root duration (motions i) (c i)).trans_le
    (ownDuration_le_slowest root c motions duration i)

end Slowest

section PlanDuration

variable (root : SquareRoot) (s : SingleAxisCubicPlanner) (motion : Motion)

theorem plan_duration_eq (duration : ℚ) :
    (s.plan root motion duration).duration = motion.ownDuration root s.constraints duration := by
  simp only [SingleAxisCubicPlanner.plan, SingleAxisCubicPlanner.aim,
    SingleAxisCubicPlanner.calculateTimeScaling, SingleAxisCubicPlanner.trajectory,
    Motion.ownDuration, Motion.trajectory]

/-- The duration of a plan for a positive duration. -/
theorem plan_duration {T : ℚ} (hT : 0 < T) :
    (s.plan root motion T).duration =
      scaledDuration root s.constraints (motion.trajectory s.constraints T) T := by
  have hstart : s.constraints.startDuration motion.startPos
      (s.constraints.clampPosition motion.endPos) T = T := if_pos hT
  rw [plan_duration_eq, Motion.ownDuration, hstart]

end PlanDuration

namespace MultiAxisCubicPlanner

variable {n : ℕ} (root : SquareRoot) (m : MultiAxisCubicPlanner n)

/-- The limits of the axes. -/
def constraints : Fin n → MotionConstraints := fun i => (m.planners i).constraints

/-- Every axis is updated by itself. -/
theorem run_planners (times : List ℚ) (i : Fin n) :
    (m.run times).planners i = (m.planners i).run times := by
  induction times generalizing m with
  | nil => rfl
  | cons t times ih => exact ih (m.update t).2

/-! ## After `plan` -/

theorem planEach_maxDuration (motions : Fin n → Motion) (duration : ℚ) :
    (m.planEach root motions duration).maxDuration duration =
      slowestDuration root m.constraints motions duration := by
  have hown : (fun i => ((m.planEach root motions duration).planners i).duration) =
      fun i => (motions i).ownDuration root (m.constraints i) duration :=
    funext fun i => plan_duration_eq root (m.planners i) (motions i) duration
  rw [maxDuration, slowestDuration, hown]

/-- `plan` with the slowest duration in place of the maximum that it computes. -/
theorem planMotions_eq (motions : Fin n → Motion) (duration : ℚ) :
    m.planMotions root motions duration =
      (slowestDuration root m.constraints motions duration,
        if duration < slowestDuration root m.constraints motions duration then
          (m.planEach root motions duration).planEach root motions
            (slowestDuration root m.constraints motions duration)
        else m.planEach root motions duration) := by
  rw [← planEach_maxDuration]
  rfl

theorem planMotions_fst (motions : Fin n → Motion) (duration : ℚ) :
    (m.planMotions root motions duration).1 =
      slowestDuration root m.constraints motions duration := by
  rw [planMotions_eq]

/-- After `plan` every axis has a plan for the slowest duration, which is positive. -/
theorem planMotions_planner (motions : Fin n → Motion) (duration : ℚ) (i : Fin n) :
    ∃ s : SingleAxisCubicPlanner, s.constraints = m.constraints i ∧
      (m.planMotions root motions duration).2.planners i =
        s.plan root (motions i) (slowestDuration root m.constraints motions duration) := by
  rw [planMotions_eq]
  by_cases h : duration < slowestDuration root m.constraints motions duration
  · refine ⟨(m.planners i).plan root (motions i) duration, rfl, ?_⟩
    rw [if_pos h]
    rfl
  · have hsame : slowestDuration root m.constraints motions duration = duration :=
      le_antisymm (not_lt.mp h) (le_runningMax_start _ duration _)
    refine ⟨m.planners i, rfl, ?_⟩
    rw [if_neg h, hsame]
    rfl

/-- All axes that move take as long as the returned duration, and at that duration all axes are at
their targets. -/
structure Synchronised (m : MultiAxisCubicPlanner n) (motions : Fin n → Motion) (D : ℚ) : Prop where
  duration : ∀ i, (motions i).Moves (m.constraints i) → (m.planners i).duration = D
  position : ∀ start times i, (((m.run (start :: times)).update (start + D)).1 i).position =
    (m.constraints i).clampPosition (motions i).endPos

end MultiAxisCubicPlanner

/-- An axis that does not move exceeds no limit. -/
theorem not_overruns_of_not_moves {motion : Motion} {c : MotionConstraints} {T : ℚ} (hT : 0 < T)
    (h : ¬ motion.Moves c) : ¬ c.Overruns (motion.trajectory c T) T := by
  rw [Motion.Moves, not_or, not_or, not_not, not_not, not_not] at h
  obtain ⟨hpos, hstart, hend⟩ := h
  rw [Motion.trajectory, ← hpos, hstart, hend, overruns_rest_iff _ _ hT, sub_self, abs_zero]
  have hvel := mul_pos c.maxVelocity_pos hT
  have haccel := mul_pos c.maxAcceleration_pos (pow_pos hT 2)
  rintro (h | h) <;> linarith

section Plan

open Cubic.MultiAxisCubicPlanner

variable {n : ℕ} (root : SquareRoot) (m : MultiAxisCubicPlanner n)

/-- The axes are synchronised exactly when at the slowest duration no axis exceeds a limit. -/
theorem planMotions_synchronised_iff (motions : Fin n → Motion) (duration : ℚ) :
    (m.planMotions root motions duration).2.Synchronised motions
        (slowestDuration root m.constraints motions duration) ↔
      ∀ i, ¬ (m.constraints i).Overruns
        ((motions i).trajectory (m.constraints i)
          (slowestDuration root m.constraints motions duration))
        (slowestDuration root m.constraints motions duration) := by
  have hplanner := m.planMotions_planner root motions duration
  have hpositive := slowestDuration_pos root m.constraints motions duration
  generalize slowestDuration root m.constraints motions duration = D at hplanner hpositive
  have hkept : ∀ i, ((m.planMotions root motions duration).2.planners i).duration = D ↔
      ¬ (m.constraints i).Overruns ((motions i).trajectory (m.constraints i) D) D := by
    intro i
    obtain ⟨s, hconstraints, hs⟩ := hplanner i
    rw [hs, plan_duration root s (motions i) (hpositive i), hconstraints,
      scaledDuration_eq_iff (hpositive i)]
  have hsame : ∀ i, (m.planMotions root motions duration).2.constraints i = m.constraints i := by
    intro i
    obtain ⟨s, hconstraints, hs⟩ := hplanner i
    exact (congrArg SingleAxisCubicPlanner.constraints hs).trans hconstraints
  constructor
  · intro hsync i
    by_cases hmoves : (motions i).Moves (m.constraints i)
    · refine (hkept i).mp (hsync.duration i ?_)
      rw [hsame]
      exact hmoves
    · exact not_overruns_of_not_moves (hpositive i) hmoves
  · intro hover
    refine ⟨fun i _ => (hkept i).mpr (hover i), fun start times i => ?_⟩
    obtain ⟨s, hconstraints, hs⟩ := hplanner i
    have hends := (SingleAxisCubicPlanner.plan_fresh root (motions i) D s).endsAt start times
      (start + D)
    rw [← hs, (hkept i).mpr (hover i), add_sub_cancel_left] at hends
    have hposition := hends le_rfl
    rw [← run_planners] at hposition
    rw [hsame, ← hconstraints]
    exact hposition.trans (congrArg SingleAxisCubicPlanner.targetPos hs)

/-- The vectors of a call with one value for each axis. -/
theorem readMotions_ofFn (startPositions startVels endPositions endVels : Fin n → ℚ) :
    readMotions n (List.ofFn startPositions) (List.ofFn startVels) (List.ofFn endPositions)
        (List.ofFn endVels) =
      .ok fun i => ⟨startPositions i, startVels i, endPositions i, endVels i⟩ := by
  rw [readMotions, dif_pos (by simp)]
  simp

/-- `plan` returns a duration, and the axes are synchronised at it exactly when at the slowest
duration no axis exceeds a limit at a sampled time. -/
theorem plan_synchronised_iff (startPositions startVels endPositions endVels : Fin n → ℚ)
    (duration : ℚ) :
    ∃ D m', m.plan root (List.ofFn startPositions) (List.ofFn startVels) (List.ofFn endPositions)
        (List.ofFn endVels) duration = .ok (D, m') ∧
      (m'.Synchronised (fun i => ⟨startPositions i, startVels i, endPositions i, endVels i⟩) D ↔
        ∀ i, ¬ (m.constraints i).Overruns
          (Motion.trajectory ⟨startPositions i, startVels i, endPositions i, endVels i⟩
            (m.constraints i)
            (slowestDuration root m.constraints
              (fun i => ⟨startPositions i, startVels i, endPositions i, endVels i⟩) duration))
          (slowestDuration root m.constraints
            (fun i => ⟨startPositions i, startVels i, endPositions i, endVels i⟩) duration)) := by
  refine ⟨_, _, ?_, planMotions_synchronised_iff root m _ duration⟩
  rw [plan, readMotions_ofFn]
  rfl

end Plan

/-! ## From rest to rest -/

section Rest

variable {n : ℕ} (root : SquareRoot) (m : MultiAxisCubicPlanner n)

/-- At its own duration an axis that starts and ends at rest exceeds no limit at the samples. -/
theorem not_overruns_own (c : MotionConstraints) (p p' : ℚ) {T : ℚ} (hT : 0 < T) :
    ¬ c.Overruns (.between p 0 p' 0 (scaledDuration root c (.between p 0 p' 0 T) T))
      (scaledDuration root c (.between p 0 p' 0 T) T) := by
  by_cases h : c.Overruns (.between p 0 p' 0 T) T
  · have hpositive : 0 < scaledDuration root c (.between p 0 p' 0 T) T :=
      hT.trans_le (le_scaledDuration hT)
    have hspeed := rest_speed_le root c p p' hT
    have hpeak := rest_peak_le root c p p' hT h
    generalize scaledDuration root c (.between p 0 p' 0 T) T = D at hpositive hspeed hpeak ⊢
    have hlimit : 0 < c.maxAcceleration * D ^ 2 :=
      mul_pos c.maxAcceleration_pos (pow_pos hpositive 2)
    rw [div_mul_eq_mul_div, div_le_iff₀ hpositive] at hspeed
    have hsquare : (577332 * |p' - p|) ^ 2 ≤ (100000 * (c.maxAcceleration * D ^ 2)) ^ 2 := by
      rw [mul_pow, sq_abs]
      nlinarith [sq_nonneg (p' - p)]
    have hsample := (abs_le_of_sq_le_sq' hsquare (by linarith)).2
    rw [overruns_rest_iff p p' hpositive]
    rintro (hover | hover) <;> linarith
  · rwa [scaledDuration_of_not_overruns h]

/-- A longer duration exceeds no limit either. -/
theorem not_overruns_longer (c : MotionConstraints) (p p' : ℚ) {T D : ℚ} (hT : 0 < T)
    (hD : T ≤ D) (h : ¬ c.Overruns (.between p 0 p' 0 T) T) :
    ¬ c.Overruns (.between p 0 p' 0 D) D := by
  rw [overruns_rest_iff p p' hT, not_or, not_lt, not_lt] at h
  have hvel : c.maxVelocity * T ≤ c.maxVelocity * D :=
    mul_le_mul_of_nonneg_left hD c.maxVelocity_pos.le
  have haccel : c.maxAcceleration * T ^ 2 ≤ c.maxAcceleration * D ^ 2 :=
    mul_le_mul_of_nonneg_left (pow_le_pow_left₀ hT.le hD 2) c.maxAcceleration_pos.le
  rw [overruns_rest_iff p p' (hT.trans_le hD)]
  rintro (hover | hover)
  · linarith [h.1]
  · linarith [h.2]

/-- From rest to rest the axes are always synchronised. -/
theorem rest_synchronised (motions : Fin n → Motion) (duration : ℚ)
    (hstart : ∀ i, (motions i).startVel = 0) (hend : ∀ i, (motions i).endVel = 0) :
    (m.planMotions root motions duration).2.Synchronised motions
      (m.planMotions root motions duration).1 := by
  rw [MultiAxisCubicPlanner.planMotions_fst]
  refine (planMotions_synchronised_iff root m motions duration).mpr fun i => ?_
  have hown := ownDuration_le_slowest root m.constraints motions duration i
  have hpositive := ownDuration_pos root duration (motions i) (m.constraints i)
  rw [Motion.trajectory, hstart i, hend i]
  refine not_overruns_longer (m.constraints i) _ _ hpositive hown ?_
  rw [Motion.ownDuration, Motion.trajectory, hstart i, hend i]
  exact not_overruns_own root (m.constraints i) _ _ (startDuration_pos _ _ _)

end Rest

/-- Two axes: the first one stays where it is with a measured velocity above its limit. -/
def fastStart : MultiAxisCubicPlanner 2 := ⟨fun _ => .initial defaultConstraints⟩

/-- The first axis is stretched from 4.2 s to 8.82 s by the second plan. -/
theorem fast_start_not_synchronised :
    ¬ ∃ D m', fastStart.plan .dyadic [0, 0] [2, 0] [0, 1 / 10] [0, 0] 2 = .ok (D, m') ∧
      m'.Synchronised ![⟨0, 2, 0, 0⟩, ⟨0, 0, 1 / 10, 0⟩] D := by
  rintro ⟨D, m', hplan, hsync⟩
  have hduration := hsync.duration 0 (Or.inr (Or.inl (by decide +kernel)))
  have hread : readMotions 2 [0, 0] [2, 0] [0, 1 / 10] [0, 0] =
      .ok ![⟨0, 2, 0, 0⟩, ⟨0, 0, 1 / 10, 0⟩] := by
    exact congrArg Except.ok (funext (Fin.forall_fin_two.mpr ⟨rfl, rfl⟩))
  rw [MultiAxisCubicPlanner.plan, hread] at hplan
  obtain ⟨rfl, rfl⟩ := Prod.mk.inj (Except.ok.inj hplan)
  revert hduration
  decide +kernel

/-! ## Replanning -/

/-- A call of `replan_axis`, `replan_all_axes` or `set_new_targets`. -/
inductive ReplanCall where
  | axis (axisIndex : ℕ) (newTargetPos newTargetVel newDuration : ℚ)
  | allAxes (newTargetPositions newTargetVels : List ℚ) (newDuration : ℚ)
  | newTargets (newTargetPositions newTargetVels : List ℚ)

namespace ReplanCall

variable {n : ℕ}

/-- The call on the planner. -/
def apply (root : SquareRoot) (m : MultiAxisCubicPlanner n) :
    ReplanCall → Except String (MultiAxisCubicPlanner n)
  | axis axisIndex newTargetPos newTargetVel newDuration =>
      m.replanAxis root axisIndex newTargetPos newTargetVel newDuration
  | allAxes newTargetPositions newTargetVels newDuration =>
      m.replanAllAxes root newTargetPositions newTargetVels newDuration
  | newTargets newTargetPositions newTargetVels =>
      m.setNewTargets root newTargetPositions newTargetVels

/-- The target that an axis should have after the call: the requested one within the range of the
axis, and the previous one for an axis that `replan_axis` does not name. -/
def expected (m : MultiAxisCubicPlanner n) (i : Fin n) : ReplanCall → ℚ
  | axis axisIndex newTargetPos _ _ =>
      if i = axisIndex then (m.constraints i).clampPosition newTargetPos
      else (m.planners i).targetPos
  | allAxes newTargetPositions _ _ => (m.constraints i).clampPosition (newTargetPositions.getD i 0)
  | newTargets newTargetPositions _ => (m.constraints i).clampPosition (newTargetPositions.getD i 0)

end ReplanCall

/-- Where the synchronisation sends an axis: to the position that it has. -/
def SingleAxisCubicPlanner.heldPos (s : SingleAxisCubicPlanner) : ℚ :=
  if s.isPlanned then s.constraints.clampPosition s.currentPos else s.currentPos

section Replan

variable {n : ℕ} (root : SquareRoot)

/-- A replan to the current position ends there, within the range of the axis if it has a plan. -/
theorem replan_current_endsAt (s : SingleAxisCubicPlanner) (duration : ℚ) :
    (s.replan root s.currentPos s.currentVel duration).EndsAt s.heldPos := by
  rcases hplanned : s.isPlanned with _ | _
  · have hheld : s.heldPos = s.currentPos := if_neg (by simp [hplanned])
    rw [hheld]
    exact SingleAxisCubicPlanner.endsAt_of_not_planned hplanned
  · have hheld : s.heldPos = s.constraints.clampPosition s.currentPos := if_pos hplanned
    rw [hheld]
    exact (SingleAxisCubicPlanner.replan_fresh root duration s s.currentPos s.currentVel
      hplanned).endsAt

/-- A replan leaves what the synchronisation reads: the position, the range and the flag. -/
theorem heldPos_replan (s : SingleAxisCubicPlanner) (targetPos targetVel duration : ℚ) :
    (s.replan root targetPos targetVel duration).heldPos = s.heldPos :=
  rfl

/-- After the synchronisation every axis ends where it was. -/
theorem sync_endsAt (m : MultiAxisCubicPlanner n) (i : Fin n) :
    ((m.syncAllAxesDuration root).planners i).EndsAt (m.planners i).heldPos :=
  replan_current_endsAt root (m.planners i) (m.maxDuration 0)

/-- With a target for each axis the call ends in the synchronisation. -/
theorem replanEach_endsAt {m m' : MultiAxisCubicPlanner n} {newDuration : ℚ}
    {targets : Except String (Fin n → ℚ × ℚ)}
    (h : (targets.map fun targets => m.replanEach root targets newDuration) = .ok m') (i : Fin n) :
    (m'.planners i).EndsAt (m.planners i).heldPos := by
  cases targets with
  | error message => cases h
  | ok targets =>
      obtain rfl := Except.ok.inj h
      exact sync_endsAt root _ i

/-- After a call that does not throw, every axis ends where it was before the call. -/
theorem apply_endsAt (m m' : MultiAxisCubicPlanner n) (call : ReplanCall)
    (h : call.apply root m = .ok m') (i : Fin n) :
    (m'.planners i).EndsAt (m.planners i).heldPos := by
  cases call with
  | axis axisIndex newTargetPos newTargetVel newDuration =>
      rw [ReplanCall.apply, MultiAxisCubicPlanner.replanAxis] at h
      split_ifs at h with hindex
      obtain rfl := Except.ok.inj h
      have hends := sync_endsAt root
        ⟨fun i => if (i : ℕ) = axisIndex then
          (m.planners i).replan root newTargetPos newTargetVel newDuration else m.planners i⟩ i
      dsimp only at hends
      split_ifs at hends with hi
      · rwa [heldPos_replan] at hends
      · exact hends
  | allAxes newTargetPositions newTargetVels newDuration => exact replanEach_endsAt root h i
  | newTargets newTargetPositions newTargetVels => exact replanEach_endsAt root h i

/-- The axes end at their new targets exactly when they were there before the call. -/
theorem replan_keeps_targets_iff (m m' : MultiAxisCubicPlanner n) (call : ReplanCall)
    (h : call.apply root m = .ok m') :
    (∀ i, (m'.planners i).EndsAt (call.expected m i)) ↔
      ∀ i, (m.planners i).heldPos = call.expected m i := by
  have hends := apply_endsAt root m m' call h
  constructor
  · intro hexpected i
    exact (hends i).unique (hexpected i)
  · intro hheld i
    rw [← hheld i]
    exact hends i

end Replan

/-- One axis with a plan, at rest at zero. -/
def restingAxis : MultiAxisCubicPlanner 1 :=
  ⟨fun _ => (SingleAxisCubicPlanner.initial defaultConstraints).plan .dyadic ⟨0, 0, 0, 0⟩ 1⟩

/-- A replan to where the axis is keeps its target. -/
theorem replan_to_current :
    ∃ m', (ReplanCall.axis 0 0 0 1).apply .dyadic restingAxis = .ok m' ∧
      ∀ i, (m'.planners i).EndsAt ((ReplanCall.axis 0 0 0 1).expected restingAxis i) :=
  ⟨_, rfl, (replan_keeps_targets_iff .dyadic restingAxis _ (.axis 0 0 0 1) rfl).mpr
    (Fin.forall_fin_one.mpr (by decide +kernel))⟩

/-- A replan from rest at zero to 0.5 rad ends at zero. -/
theorem replan_forgets_target :
    ¬ ∃ m', (ReplanCall.axis 0 (1 / 2) 0 1).apply .dyadic restingAxis = .ok m' ∧
      ∀ i, (m'.planners i).EndsAt ((ReplanCall.axis 0 (1 / 2) 0 1).expected restingAxis i) := by
  rintro ⟨m', hcall, hends⟩
  have hheld := apply_endsAt .dyadic restingAxis m' _ hcall 0
  have hpositions := hheld.unique (hends 0)
  revert hpositions
  decide +kernel

end Cubic

end Arm

end JointController
