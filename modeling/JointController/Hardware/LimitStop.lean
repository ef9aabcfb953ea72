import JointController.Hardware.Cycle
import JointController.Hardware.System
import Mathlib.Data.Sign.Basic

/-!
# The direction of the velocity at a limit

Which way the velocity loop drives the lift when a limit is in the way.

* `MotionContext.limitStop_congr`: a limit looks at the direction of a velocity only.
* `MotionContext.sign_slew_of_limitStop`: behind a limit stop the slew goes on in the direction of
  the velocity before.
* `LiftHardware.notOutward_iff`: the velocity behind a limit stop points outward exactly when the
  slew carries an outward velocity on.
* `LiftHardware.recovery_bounded`: outside the software range, and the bound of the velocity on the
  wire.
-/

namespace JointController

namespace Hardware

open SignType (sign)

/-! ## Clamping -/

theorem clamp_le {x low high : ℚ} (h : low ≤ high) : clamp x low high ≤ high := by
  unfold clamp
  split_ifs with hlow hhigh
  · exact h
  · exact le_rfl
  · exact not_lt.mp hhigh

theorem le_clamp {x low high : ℚ} (h : low ≤ high) : low ≤ clamp x low high := by
  unfold clamp
  split_ifs with hlow hhigh
  · exact le_rfl
  · exact h
  · exact not_lt.mp hlow

theorem abs_clamp_le {x bound : ℚ} (h : 0 ≤ bound) : |clamp x (-bound) bound| ≤ bound :=
  abs_le.mpr ⟨le_clamp (by linarith), clamp_le (by linarith)⟩

/-- A clamp to both sides of zero keeps the direction. -/
theorem sign_clamp {bound : ℚ} (h : 0 < bound) (x : ℚ) :
    sign (clamp x (-bound) bound) = sign x := by
  unfold clamp
  split_ifs with hlow hhigh
  · rw [sign_neg (by linarith), sign_neg (by linarith)]
  · rw [sign_pos h, sign_pos (by linarith)]
  · rfl

/-- Zero clamped to the reach of the velocity before goes on in its direction, unless it is in
reach. -/
theorem sign_clamp_zero {delta : ℚ} (h : 0 ≤ delta) (previous : ℚ) :
    sign (clamp 0 (previous - delta) (previous + delta)) =
      if delta < |previous| then sign previous else 0 := by
  unfold clamp
  split_ifs with hlow hfar hhigh hfar hfar
  · have hpos : 0 < previous := by linarith
    rw [sign_pos hlow, sign_pos hpos]
  · have hpos : 0 < previous := by linarith
    rw [abs_of_pos hpos] at hfar
    linarith
  · have hneg : previous < 0 := by linarith
    rw [sign_neg hhigh, sign_neg hneg]
  · have hneg : previous < 0 := by linarith
    rw [abs_of_neg hneg] at hfar
    linarith
  · exfalso
    obtain hpos | hneg := lt_abs.mp hfar
    · linarith
    · linarith
  · exact sign_zero

namespace MotionContext

variable (p : HardwareParameters) (x : MotionContext)

theorem sign_ne_zero : MotionContext.sign p ≠ 0 := by
  have habs := p.units.liftSign_abs
  have hsign : MotionContext.sign p = p.units.liftSign := if_pos (by linarith)
  rw [hsign, ← abs_pos]
  linarith

theorem sign_eq_liftSign : MotionContext.sign p = p.units.liftSign :=
  if_pos (by have habs := p.units.liftSign_abs; linarith)

/-- A limit looks at the direction of a velocity only. -/
theorem limitStop_congr {v w : ℚ} (h : SignType.sign v = SignType.sign w) :
    x.limitStop p v = x.limitStop p w := by
  have hpos : 0 < v ↔ 0 < w := by rw [← sign_eq_one_iff, h, sign_eq_one_iff]
  have hneg : v < 0 ↔ w < 0 := by rw [← sign_eq_neg_one_iff, h, sign_eq_neg_one_iff]
  simp only [limitStop, hpos, hneg]

@[simp] theorem limitStop_zero : x.limitStop p 0 = false := by
  simp [limitStop]

/-! ## Behind a limit stop -/

/-- The largest change of the velocity in a cycle. -/
def slewDelta (periodS : ℚ) : ℚ := p.velocitySlewRpmPerS * clamp periodS (1 / 1000) (1 / 10)

theorem slewDelta_nonneg (h : 0 < p.velocitySlewRpmPerS) (periodS : ℚ) :
    0 ≤ slewDelta p periodS := by
  have hdt : (1 / 1000 : ℚ) ≤ clamp periodS (1 / 1000) (1 / 10) := le_clamp (by norm_num)
  exact mul_nonneg h.le (by linarith)

/-- Behind a limit stop the slew goes on in the direction of the velocity before, if that is more
than a step away from zero. -/
theorem sign_slew_of_limitStop (hactive : x.motionActive p = true) (periodS : ℚ) :
    SignType.sign (x.slew p periodS true 0) =
      if 0 < p.velocitySlewRpmPerS ∧ slewDelta p periodS < |x.previousJointRpm p| then
        SignType.sign (x.previousJointRpm p)
      else 0 := by
  have hslew : x.slew p periodS true 0 =
      if 0 < p.velocitySlewRpmPerS then
        clamp 0 (x.previousJointRpm p - slewDelta p periodS)
          (x.previousJointRpm p + slewDelta p periodS)
      else 0 := by
    simp [slew, slewDelta, hactive]
  rw [hslew]
  by_cases hlimited : 0 < p.velocitySlewRpmPerS
  · rw [if_pos hlimited, sign_clamp_zero (slewDelta_nonneg p hlimited periodS)]
    simp [hlimited]
  · rw [if_neg hlimited, if_neg (fun h => hlimited h.1), sign_zero]

/-! ## Outside the software range -/

/-- A velocity points back into the software range. -/
def Inward (v : ℚ) : Prop :=
  (x.belowLowerLimit p = true ∧ 0 < v) ∨ (x.aboveUpperLimit p = true ∧ v < 0)

/-- The command asks for a velocity back into the software range. -/
def ExplicitInward : Prop :=
  (x.belowLowerLimit p = true ∧ 1 / 10 ^ 9 < x.commandedVelocity) ∨
    (x.aboveUpperLimit p = true ∧ x.commandedVelocity < -(1 / 10 ^ 9))

instance (v : ℚ) : Decidable (x.Inward p v) := inferInstanceAs (Decidable (_ ∨ _))

instance : Decidable (x.ExplicitInward p) := inferInstanceAs (Decidable (_ ∨ _))

/-- The recovery lets a velocity of this direction through. -/
def Recovers (v : ℚ) : Prop :=
  x.positionLimitViolation p = true → x.ExplicitInward p ∧ x.Inward p v

instance (v : ℚ) : Decidable (x.Recovers p v) := inferInstanceAs (Decidable (_ → _))

theorem inward_congr {v w : ℚ} (h : SignType.sign v = SignType.sign w) :
    x.Inward p v ↔ x.Inward p w := by
  have hpos : 0 < v ↔ 0 < w := by rw [← sign_eq_one_iff, h, sign_eq_one_iff]
  have hneg : v < 0 ↔ w < 0 := by rw [← sign_eq_neg_one_iff, h, sign_eq_neg_one_iff]
  rw [Inward, Inward, hpos, hneg]

theorem recovers_congr {v w : ℚ} (h : SignType.sign v = SignType.sign w) :
    x.Recovers p v ↔ x.Recovers p w := by
  rw [Recovers, Recovers, x.inward_congr p h]

theorem recover_of_not_recovers {v : ℚ} (h : ¬ x.Recovers p v) : x.recover p v = 0 := by
  obtain ⟨hviolation, hno⟩ := Classical.not_imp.mp h
  unfold recover
  rw [if_pos hviolation]
  exact if_pos (not_and_or.mp hno)

theorem recover_of_recovers {v : ℚ} (h : x.Recovers p v) : x.recover p v =
    if x.positionLimitViolation p then
      clamp v (-p.positionLimitRecoveryMaxRpm) p.positionLimitRecoveryMaxRpm
    else v := by
  unfold recover
  split
  · rename_i hviolation
    obtain ⟨hexplicit, hinward⟩ := h hviolation
    exact if_neg (not_or.mpr ⟨not_not.mpr hexplicit, not_not.mpr hinward⟩)
  · rfl

/-- The recovery stops a velocity or keeps its direction. -/
theorem sign_recover (v : ℚ) :
    SignType.sign (x.recover p v) = if x.Recovers p v then SignType.sign v else 0 := by
  have hmax : (0 : ℚ) < p.positionLimitRecoveryMaxRpm := by
    exact_mod_cast p.positionLimitRecoveryMaxRpm_pos
  by_cases h : x.Recovers p v
  · rw [if_pos h, x.recover_of_recovers p h]
    split
    · exact sign_clamp hmax v
    · rfl
  · rw [if_neg h, x.recover_of_not_recovers p h, sign_zero]

/-! ## The velocity of a cycle -/

/-- The slew carries a velocity on that points outward: the velocity before points outward, is more
than a step of the slew away from zero, and the recovery lets its direction through. -/
def SlewCarriesOutward (periodS : ℚ) : Prop :=
  0 < p.velocitySlewRpmPerS ∧ slewDelta p periodS < |x.previousJointRpm p| ∧
    x.limitStop p (x.previousJointRpm p) = true ∧ x.Recovers p (x.previousJointRpm p)

/-- Behind a limit stop the velocity points outward exactly when the slew carries an outward
velocity on. -/
theorem limitStop_jointRpm_iff (hactive : x.motionActive p = true)
    (hstop : x.limitStop p (x.limitedRpm p) = true) (periodS : ℚ) :
    x.limitStop p (x.jointRpm p periodS) = true ↔ x.SlewCarriesOutward p periodS := by
  have hmax : (0 : ℚ) < p.maxRpm := by exact_mod_cast p.maxRpm_pos
  have hzero : x.stopAtLimit p (x.limitedRpm p) = 0 := if_pos hstop
  set previous := x.previousJointRpm p with hprevious
  set slewed := x.slew p periodS true 0 with hslewed
  have hjoint : x.jointRpm p periodS = x.recover p (clamp slewed (-p.maxRpm) p.maxRpm) := by
    rw [hslewed, jointRpm, hstop, hzero]
  have hclamp := sign_clamp hmax slewed
  have hsign := x.sign_slew_of_limitStop p hactive periodS
  have hrecover := x.sign_recover p (clamp slewed (-p.maxRpm) p.maxRpm)
  rw [← hjoint, hclamp] at hrecover
  by_cases hcarried : 0 < p.velocitySlewRpmPerS ∧ slewDelta p periodS < |previous|
  · rw [if_pos hcarried] at hsign
    have hrecovers := x.recovers_congr p (hclamp.trans hsign)
    by_cases hkept : x.Recovers p previous
    · rw [if_pos (hrecovers.mpr hkept), hsign] at hrecover
      rw [x.limitStop_congr p hrecover]
      exact ⟨fun h => ⟨hcarried.1, hcarried.2, h, hkept⟩, fun h => h.2.2.1⟩
    · rw [if_neg (fun h => hkept (hrecovers.mp h)), ← sign_zero (α := ℚ)] at hrecover
      rw [x.limitStop_congr p hrecover, limitStop_zero]
      exact iff_of_false Bool.false_ne_true fun h => hkept h.2.2.2
  · rw [if_neg hcarried] at hsign
    have hstill : SignType.sign (x.jointRpm p periodS) = SignType.sign (0 : ℚ) := by
      rw [hrecover, hsign, sign_zero, ite_self]
    rw [x.limitStop_congr p hstill, limitStop_zero]
    exact iff_of_false Bool.false_ne_true fun h => hcarried ⟨h.1, h.2.1⟩

/-- Outside the software range the velocity is zero, or it points inward, is bounded by the recovery
velocity and the command asks for it. -/
theorem jointRpm_of_violation (h : x.positionLimitViolation p = true) (periodS : ℚ) :
    x.jointRpm p periodS = 0 ∨
      (x.Inward p (x.jointRpm p periodS) ∧ |x.jointRpm p periodS| ≤ p.positionLimitRecoveryMaxRpm ∧
        x.ExplicitInward p) := by
  have hmax : (0 : ℚ) < p.positionLimitRecoveryMaxRpm := by
    exact_mod_cast p.positionLimitRecoveryMaxRpm_pos
  unfold jointRpm
  dsimp only
  generalize clamp _ (-(p.maxRpm : ℚ)) p.maxRpm = v
  by_cases hkept : x.Recovers p v
  · right
    obtain ⟨hexplicit, hinward⟩ := hkept h
    have hsign := x.sign_recover p v
    rw [if_pos hkept] at hsign
    refine ⟨(x.inward_congr p hsign).mpr hinward, ?_, hexplicit⟩
    rw [x.recover_of_recovers p hkept, if_pos h]
    exact abs_clamp_le hmax.le
  · exact Or.inl (x.recover_of_not_recovers p hkept)

/-- The velocity of the joint is bounded. -/
theorem abs_jointRpm_le (periodS : ℚ) : |x.jointRpm p periodS| ≤ p.maxRpm := by
  have hmax : (0 : ℚ) ≤ p.maxRpm := Nat.cast_nonneg _
  have hrecoveryMax : (p.positionLimitRecoveryMaxRpm : ℚ) ≤ p.maxRpm := by
    exact_mod_cast p.positionLimitRecoveryMaxRpm_le
  unfold jointRpm
  dsimp only
  generalize hv : clamp _ (-(p.maxRpm : ℚ)) p.maxRpm = v
  have hbound : |v| ≤ p.maxRpm := hv ▸ abs_clamp_le hmax
  by_cases hkept : x.Recovers p v
  · rw [x.recover_of_recovers p hkept]
    split
    · exact (abs_clamp_le (Nat.cast_nonneg _)).trans hrecoveryMax
    · exact hbound
  · rw [x.recover_of_not_recovers p hkept, abs_zero]
    exact hmax

end MotionContext

namespace LiftHardware

variable (p : HardwareParameters) (hw : LiftHardware) (now : ℕ)

/-- What the velocity loop of a cycle computes from. -/
def cycleContext : MotionContext :=
  (hw.takeTarget p now).2.motionContext p now (hw.takeTarget p now).1

/-- The velocity loop comes to follow its target. -/
def followsTarget : Bool :=
  hw.feedbackIsFresh p now && !hw.motionBlocked && hw.commandsFinite p &&
    !hw.takeover.velocityRequest && (hw.cycleContext p now).motionActive p

/-- A limit demands a stop in this cycle. -/
def limitDemandsStop : Bool :=
  hw.followsTarget p now &&
    (hw.cycleContext p now).limitStop p ((hw.cycleContext p now).limitedRpm p)

/-- The velocity that is computed, as the joint sees it. -/
def emittedJointRpm (periodS : ℚ) : ℚ :=
  (hw.computeMotionCommand p now periodS).1 * MotionContext.sign p

/-- The velocity that is computed points out of the permitted range. -/
def emitsOutward (periodS : ℚ) : Bool :=
  (hw.cycleContext p now).limitStop p (hw.emittedJointRpm p now periodS)

/-- What the velocity loop computes: nothing, the velocity of the reset takeover, or that of the
joint toward its target. -/
theorem computeMotionCommand_cases (periodS : ℚ) :
    ((hw.computeMotionCommand p now periodS).1 = 0 ∧ hw.followsTarget p now = false) ∨
    ((hw.computeMotionCommand p now periodS).1 = resetWireRpm p ∧
      hw.takeover.velocityRequest = true ∧ hw.followsTarget p now = false) ∨
    ((hw.computeMotionCommand p now periodS).1 =
        (hw.cycleContext p now).jointRpm p periodS / MotionContext.sign p ∧
      hw.followsTarget p now = true) := by
  unfold computeMotionCommand followsTarget
  dsimp only
  split
  · rename_i hready
    refine Or.inl ⟨rfl, ?_⟩
    obtain hfresh | hblocked := hready
    · rw [show hw.feedbackIsFresh p now = false from eq_false_of_ne_true hfresh]
      rfl
    · rw [show hw.motionBlocked = true from hblocked]
      simp
  · rename_i hready
    obtain ⟨hfresh, hblocked⟩ := not_or.mp hready
    have hfresh' : hw.feedbackIsFresh p now = true := not_not.mp hfresh
    have hblocked' : hw.motionBlocked = false := eq_false_of_ne_true hblocked
    rw [hfresh', hblocked']
    split
    · rename_i hfinite
      rw [show hw.commandsFinite p = false from eq_false_of_ne_true hfinite]
      exact Or.inl ⟨rfl, rfl⟩
    · rename_i hfinite
      have hfinite' : hw.commandsFinite p = true := not_not.mp hfinite
      rw [hfinite']
      split
      · rename_i htakeover
        have htakeover' : hw.takeover.velocityRequest = true := htakeover
        rw [htakeover']
        exact Or.inr (Or.inl ⟨rfl, rfl, rfl⟩)
      · rename_i htakeover
        have htakeover' : hw.takeover.velocityRequest = false := eq_false_of_ne_true htakeover
        rw [htakeover']
        unfold followTarget
        dsimp only
        split
        · rename_i hactive
          have hactive' : (hw.cycleContext p now).motionActive p = false :=
            eq_false_of_ne_true hactive
          rw [hactive']
          exact Or.inl ⟨rfl, rfl⟩
        · rename_i hactive
          have hactive' : (hw.cycleContext p now).motionActive p = true := not_not.mp hactive
          rw [hactive']
          exact Or.inr (Or.inr ⟨rfl, rfl⟩)

theorem emittedJointRpm_of_followsTarget (h : hw.followsTarget p now = true) (periodS : ℚ) :
    hw.emittedJointRpm p now periodS = (hw.cycleContext p now).jointRpm p periodS := by
  unfold emittedJointRpm
  obtain ⟨-, hno⟩ | ⟨-, -, hno⟩ | ⟨hrpm, -⟩ := hw.computeMotionCommand_cases p now periodS
  · exact absurd (hno.symm.trans h) Bool.false_ne_true
  · exact absurd (hno.symm.trans h) Bool.false_ne_true
  · rw [hrpm, div_mul_cancel₀ _ (MotionContext.sign_ne_zero p)]

/-! ## Limit stops -/

/-- In a cycle in which a limit demands a stop, the velocity is zero or points back into the
permitted range exactly when the slew does not carry an outward velocity on. -/
theorem notOutward_iff (periodS : ℚ) :
    (hw.limitDemandsStop p now = true → hw.emitsOutward p now periodS = false) ↔
      ¬ (hw.limitDemandsStop p now = true ∧
        (hw.cycleContext p now).SlewCarriesOutward p periodS) := by
  rw [not_and]
  refine imp_congr_right fun hdemands => ?_
  obtain ⟨hfollows, hstop⟩ := (Bool.and_eq_true _ _).mp hdemands
  have hactive : (hw.cycleContext p now).motionActive p = true :=
    ((Bool.and_eq_true _ _).mp hfollows).2
  rw [← Bool.not_eq_true, emitsOutward, hw.emittedJointRpm_of_followsTarget p now hfollows,
    MotionContext.limitStop_jointRpm_iff p _ hactive hstop]

/-- The bench with a bounded rate of change of the velocity. -/
def slewedBench : HardwareParameters := { bench with velocitySlewRpmPerS := 600 }

/-- A lift that arrives at its upper limit at 500 rpm, and is asked to go on. -/
def atUpperLimit : LiftHardware :=
  { initial slewedBench 0 with
    feedback := { fresh := true, lastFeedbackNs := 1 }
    commands := { velocity := .finite (1 / 10) }
    output := { lastTargetWireRpm := 500 } }

/-- The lift at its upper limit goes on upward, a step of the slew slower. -/
theorem emitsOutward_atUpperLimit :
    atUpperLimit.limitDemandsStop slewedBench 1 = true ∧
      atUpperLimit.emitsOutward slewedBench 1 (1 / 100) = true ∧
      atUpperLimit.emittedJointRpm slewedBench 1 (1 / 100) = 494 := by
  decide +kernel

/-! ## Outside the software range, and the wire -/

theorem abs_resetWireRpm_le : |resetWireRpm p| ≤ p.maxRpm / |p.units.liftSign| := by
  have hmax : (0 : ℚ) ≤ p.maxRpm := Nat.cast_nonneg _
  unfold resetWireRpm
  rw [abs_div, MotionContext.sign_eq_liftSign]
  refine div_le_div_of_nonneg_right ?_ (abs_nonneg _)
  rw [abs_of_nonneg (le_clamp hmax)]
  exact clamp_le hmax

/-- The velocity on the wire is bounded. -/
theorem abs_computeMotionCommand_le (periodS : ℚ) :
    |(hw.computeMotionCommand p now periodS).1| ≤ p.maxRpm / |p.units.liftSign| := by
  obtain ⟨hrpm, -⟩ | ⟨hrpm, -⟩ | ⟨hrpm, -⟩ := hw.computeMotionCommand_cases p now periodS
  · rw [hrpm, abs_zero]
    exact div_nonneg (Nat.cast_nonneg _) (abs_nonneg _)
  · rw [hrpm]
    exact abs_resetWireRpm_le p
  · rw [hrpm, abs_div, MotionContext.sign_eq_liftSign]
    exact div_le_div_of_nonneg_right (MotionContext.abs_jointRpm_le p _ periodS) (abs_nonneg _)

theorem abs_computeOutput_le (i : WriteInput) (firstWriteSync fresh allowMotion : Bool) :
    |(hw.computeOutput p i firstWriteSync fresh allowMotion).1| ≤
      p.maxRpm / |p.units.liftSign| := by
  have hzero : |(0 : ℚ)| ≤ p.maxRpm / |p.units.liftSign| := by
    rw [abs_zero]
    exact div_nonneg (Nat.cast_nonneg _) (abs_nonneg _)
  have hloop : |(hw.runMotionLoop p i allowMotion).1| ≤ p.maxRpm / |p.units.liftSign| := by
    unfold runMotionLoop
    split
    · exact abs_computeMotionCommand_le p hw i.now _
    · exact hzero
  unfold computeOutput
  dsimp only
  split
  · exact hzero
  · exact hloop

/-- The velocity of the frame that a write hands to the backend is bounded on the wire. -/
theorem write_wireRpm (i : WriteInput) {frame : LiftRxPdo} (h : (hw.write p i).frame = some frame) :
    ∃ wireRpm, |wireRpm| ≤ p.maxRpm / |p.units.liftSign| ∧
      frame.targetVelocityUnitsPerS = p.units.wireRpmToVelocityUnits wireRpm := by
  cases hactive : hw.active with
  | false =>
    rw [hw.write_inactive p i hactive] at h
    cases h
  | true =>
    rw [hw.write_active p i hactive] at h
    obtain rfl := Option.some_inj.mp h
    refine ⟨_, ?_, rfl⟩
    unfold stopTakeover
    split
    · rw [abs_zero]
      exact div_nonneg (Nat.cast_nonneg _) (abs_nonneg _)
    · exact abs_computeOutput_le p _ i _ _ _

/-- The measured position is outside the software range. -/
def outsideRange : Bool :=
  decide (hw.feedback.hwPositionM < p.positionMinM - p.commandEpsilonM) ||
    decide (p.positionMaxM + p.commandEpsilonM < hw.feedback.hwPositionM)

/-- A velocity points back into the software range. -/
def PointsInward (v : ℚ) : Prop :=
  (hw.feedback.hwPositionM < p.positionMinM - p.commandEpsilonM ∧ 0 < v) ∨
    (p.positionMaxM + p.commandEpsilonM < hw.feedback.hwPositionM ∧ v < 0)

theorem inward_iff_pointsInward (v : ℚ) :
    (hw.cycleContext p now).Inward p v ↔ hw.PointsInward p v := by
  unfold MotionContext.Inward PointsInward MotionContext.belowLowerLimit
    MotionContext.aboveUpperLimit
  rw [decide_eq_true_iff, decide_eq_true_iff]
  exact Iff.rfl

theorem cycleContext_commandedVelocity :
    (hw.cycleContext p now).commandedVelocity = hw.commandedVelocity p := by
  have hcommands : (hw.takeTarget p now).2.commands.velocity = hw.commands.velocity := by
    unfold takeTarget
    dsimp only
    split <;> rfl
  unfold cycleContext motionContext
  dsimp only
  unfold commandedVelocity
  rw [hcommands]
  rfl

/-- Outside the software range and without a reset takeover, the velocity of the joint is zero, or
it points inward, is bounded by the recovery velocity and the explicit velocity command points
inward as well. -/
def RecoversInward (periodS : ℚ) : Prop :=
  hw.outsideRange p = true → hw.takeover.velocityRequest = false →
    hw.emittedJointRpm p now periodS = 0 ∨
      (hw.PointsInward p (hw.emittedJointRpm p now periodS) ∧
        |hw.emittedJointRpm p now periodS| ≤ p.positionLimitRecoveryMaxRpm ∧
        p.hasVelocityCommand = true ∧ hw.PointsInward p hw.commands.velocity.value)

theorem recoversInward (periodS : ℚ) : hw.RecoversInward p now periodS := by
  intro houtside htakeover
  obtain ⟨hrpm, -⟩ | ⟨-, hrequest, -⟩ | ⟨-, hfollows⟩ := hw.computeMotionCommand_cases p now periodS
  · left
    unfold emittedJointRpm
    rw [hrpm, zero_mul]
  · exact absurd (htakeover.symm.trans hrequest) Bool.false_ne_true
  · rw [hw.emittedJointRpm_of_followsTarget p now hfollows]
    obtain hzero | ⟨hinward, hbound, hexplicit⟩ :=
      (hw.cycleContext p now).jointRpm_of_violation p houtside periodS
    · exact Or.inl hzero
    · right
      refine ⟨(hw.inward_iff_pointsInward p now _).mp hinward, hbound, ?_⟩
      have hcommanded : hw.PointsInward p (hw.commandedVelocity p) := by
        rw [← hw.inward_iff_pointsInward p now, ← hw.cycleContext_commandedVelocity p now]
        obtain ⟨hbelow, hpos⟩ | ⟨habove, hneg⟩ := hexplicit
        · exact Or.inl ⟨hbelow, lt_trans (by norm_num) hpos⟩
        · exact Or.inr ⟨habove, lt_trans hneg (by norm_num)⟩
      have hne : hw.commandedVelocity p ≠ 0 := by
        obtain ⟨-, hpos⟩ | ⟨-, hneg⟩ := hcommanded
        · exact hpos.ne'
        · exact hneg.ne
      have hgiven : ¬ hw.takeover.holdRequest ∧ p.hasVelocityCommand ∧
          hw.commands.velocity.isFinite := by
        by_contra hno
        exact hne (if_neg hno)
      exact ⟨hgiven.2.1, (if_pos hgiven : hw.commandedVelocity p = _) ▸ hcommanded⟩

/-- Outside the software range the lift only moves back on request, and the velocity on the wire is
bounded in every state. -/
theorem recovery_bounded (periodS : ℚ) :
    hw.RecoversInward p now periodS ∧
      |(hw.computeMotionCommand p now periodS).1| ≤ p.maxRpm / |p.units.liftSign| ∧
      ∀ i, ∀ frame ∈ (hw.write p i).frame, ∃ wireRpm,
        |wireRpm| ≤ p.maxRpm / |p.units.liftSign| ∧
          frame.targetVelocityUnitsPerS = p.units.wireRpmToVelocityUnits wireRpm :=
  ⟨hw.recoversInward p now periodS, hw.abs_computeMotionCommand_le p now periodS,
    fun i _ hframe => hw.write_wireRpm p i hframe⟩

theorem half_le_abs_half : (1 / 2 : ℚ) ≤ |1 / 2| := by norm_num

/-- The bench with a sign of the lift that scales. -/
def scaledBench : HardwareParameters :=
  { bench with units := { bench.units with liftSign := 1 / 2, liftSign_abs := half_le_abs_half } }

/-- A lift at the lower end of its range that is asked to go to the upper end. -/
def atLowerEnd : LiftHardware :=
  { initial scaledBench 0 with
    feedback := { fresh := true, lastFeedbackNs := 1, positionM := -1, hwPositionM := -1 } }

/-- With a sign of one half the wire velocity exceeds the largest velocity. -/
theorem wireRpm_atLowerEnd : (atLowerEnd.computeMotionCommand scaledBench 1 (1 / 100)).1 = 2160 ∧
    ¬ |(atLowerEnd.computeMotionCommand scaledBench 1 (1 / 100)).1| ≤ scaledBench.maxRpm := by
  decide +kernel

end LiftHardware

end Hardware

end JointController
