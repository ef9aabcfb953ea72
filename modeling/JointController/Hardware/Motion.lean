import JointController.Hardware.State

/-!
# The velocity loop of the lift

`compute_motion_command`: the velocity that the drive is asked for while it may move.

* `MotionContext`: what the loop computes from, with `LiftHardware.motionContext`.
* `desiredRpm`, `slowDown`, `guardOvershoot`, `stopInWindow`, `stopAtLimit`, `slew`, `recover`: the
  stages from the control error to the joint velocity.
* `LiftHardware.computeMotionCommand`: the velocity on the wire.
* `computeMotionCommand_rpm`: a velocity is asked for only on fresh feedback and without a block.
-/

namespace JointController

namespace Hardware

/-- `std::clamp`. -/
def clamp (x low high : ℚ) : ℚ := if x < low then low else if high < x then high else x

/-- What the velocity loop computes from. -/
structure MotionContext where
  target : ℚ
  feedbackPosition : ℚ
  feedbackVelocity : ℚ
  commandedVelocity : ℚ
  terminalTarget : Bool
  digitalInputs : ℕ
  lastTargetWireRpm : ℚ

namespace MotionContext

variable (p : HardwareParameters) (x : MotionContext)

/-- The control error. -/
def error : ℚ := x.target - x.feedbackPosition

/-- The lift is below the software range. -/
def belowLowerLimit : Bool := decide (x.feedbackPosition < p.positionMinM - p.commandEpsilonM)

/-- The lift is above the software range. -/
def aboveUpperLimit : Bool := decide (p.positionMaxM + p.commandEpsilonM < x.feedbackPosition)

/-- The lift is outside the software range. -/
def positionLimitViolation : Bool := x.belowLowerLimit p || x.aboveUpperLimit p

/-- The trajectory asks for a velocity. -/
def trajectoryVelocityActive : Bool :=
  decide (p.stationaryVelocityThresholdMps < |x.commandedVelocity|)

/-- The lift has to move. -/
def motionActive : Bool := !decide (|x.error| ≤ p.deadbandM) || x.trajectoryVelocityActive p

/-- The sign of the lift. -/
def sign : ℚ := if 1 / 10 ^ 9 < |p.units.liftSign| then p.units.liftSign else -1

/-- Metres per second at one revolution a minute. -/
def rpmToMps : ℚ := |p.units.leadMmPerRev| / 60000

/-- The joint velocity that was asked for last. -/
def previousJointRpm : ℚ := x.lastTargetWireRpm * sign p

/-- Feedforward and control error. -/
def desiredRpm : ℚ :=
  let feedforwardRpm := if 1 / 10 ^ 9 < rpmToMps p then x.commandedVelocity / rpmToMps p else 0
  clamp (feedforwardRpm + x.error * p.kpRpmPerM +
    (x.commandedVelocity - x.feedbackVelocity) * p.kdRpmPerMps) (-p.maxRpm) p.maxRpm

/-- The largest velocity from which the lift still stops at the target. -/
def slowdownRpm : ℚ :=
  if 0 < p.brakeAccelRpmPerS ∧ 1 / 10 ^ 9 < rpmToMps p then
    let remaining := max 0 (|x.error| - p.deadbandM)
    let accelerationMps2 := p.brakeAccelRpmPerS * rpmToMps p
    p.sqrt (max 0 (2 * accelerationMps2 * remaining)) / rpmToMps p
  else
    let ramp := (|x.error| - p.deadbandM) / (p.slowdownDistanceM - p.deadbandM)
    p.maxRpm * clamp ramp 0 1

/-- The lift slows down near a target that stays where it is. -/
def slowDown (jointRpm : ℚ) : ℚ :=
  if x.terminalTarget ∧ p.deadbandM < p.slowdownDistanceM ∧ |x.error| < p.slowdownDistanceM then
    clamp jointRpm (-x.slowdownRpm p) (x.slowdownRpm p)
  else jointRpm

/-- Close to the target the lift creeps, and only toward it. -/
def guardOvershoot (jointRpm : ℚ) : ℚ :=
  if x.terminalTarget ∧ |x.error| ≤ p.overshootGuardWindowM then
    let recovery : ℚ := min p.overshootRecoveryMaxRpm p.maxRpm
    let jointRpm := clamp jointRpm (-recovery) recovery
    if jointRpm * x.error ≤ 0 then 0 else jointRpm
  else jointRpm

/-- In the stop window the lift creeps, and does not reverse. -/
def stopInWindow (jointRpm : ℚ) : ℚ :=
  if x.terminalTarget ∧ |x.error| ≤ p.stopWindowM then
    if p.directStopInStopWindow then 0
    else
      let stopLimit : ℚ := min p.stopWindowMaxRpm p.maxRpm
      let jointRpm := clamp jointRpm (-stopLimit) stopLimit
      if p.stationaryVelocityThresholdMps ≤ |x.feedbackVelocity| ∧
          jointRpm * x.feedbackVelocity < 0 then 0
      else jointRpm
  else jointRpm

/-- A limit switch is asserted. -/
def limitAsserted (bit : ℤ) : Bool :=
  if bit < 0 then false else x.digitalInputs.testBit bit.toNat == p.limitSwitchActiveHigh

/-- A limit forbids the velocity. -/
def limitStop (jointRpm : ℚ) : Bool :=
  decide (x.feedbackPosition ≤ p.positionMinM + p.commandEpsilonM ∧ jointRpm < 0) ||
    decide (p.positionMaxM - p.commandEpsilonM ≤ x.feedbackPosition ∧ 0 < jointRpm) ||
    (p.limitSwitchEnabled && x.limitAsserted p p.limitSwitchPositiveBit && decide (0 < jointRpm)) ||
    (p.limitSwitchEnabled && x.limitAsserted p p.limitSwitchNegativeBit && decide (jointRpm < 0))

/-- The velocity behind the limits. -/
def stopAtLimit (jointRpm : ℚ) : ℚ := if x.limitStop p jointRpm then 0 else jointRpm

/-- The velocity changes at a bounded rate. -/
def slew (periodS : ℚ) (limitStop : Bool) (jointRpm : ℚ) : ℚ :=
  let dt := clamp periodS (1 / 1000) (1 / 10)
  let previous := x.previousJointRpm p
  if |jointRpm| ≤ 1 / 10 ^ 9 ∧ 1 / 10 ^ 9 < |previous| ∧ 0 < p.stopSlewRpmPerS ∧ ¬ limitStop then
    let maxDelta := p.stopSlewRpmPerS * dt
    if maxDelta < |previous| then
      if 0 < previous then previous - maxDelta else previous + maxDelta
    else jointRpm
  else if x.motionActive p ∧ 0 < p.velocitySlewRpmPerS then
    let maxDelta := p.velocitySlewRpmPerS * dt
    clamp jointRpm (previous - maxDelta) (previous + maxDelta)
  else jointRpm

/-- Outside the software range the lift moves only on an explicit command back into it. -/
def recover (jointRpm : ℚ) : ℚ :=
  if x.positionLimitViolation p then
    let explicitInwardCommand :=
      (x.belowLowerLimit p ∧ 1 / 10 ^ 9 < x.commandedVelocity) ∨
        (x.aboveUpperLimit p ∧ x.commandedVelocity < -(1 / 10 ^ 9))
    let computedInwardMotion :=
      (x.belowLowerLimit p ∧ 0 < jointRpm) ∨ (x.aboveUpperLimit p ∧ jointRpm < 0)
    if ¬ explicitInwardCommand ∨ ¬ computedInwardMotion then 0
    else clamp jointRpm (-p.positionLimitRecoveryMaxRpm) p.positionLimitRecoveryMaxRpm
  else jointRpm

/-- The joint velocity before the slew. -/
def limitedRpm : ℚ :=
  x.stopInWindow p (x.guardOvershoot p (x.slowDown p (x.desiredRpm p)))

/-- The joint velocity. -/
def jointRpm (periodS : ℚ) : ℚ :=
  let limited := x.limitedRpm p
  let slewed := x.slew p periodS (x.limitStop p limited) (x.stopAtLimit p limited)
  x.recover p (clamp slewed (-p.maxRpm) p.maxRpm)

end MotionContext

namespace LiftHardware

variable (p : HardwareParameters) (hw : LiftHardware) (now : ℕ)

/-- The commands that the velocity loop uses are finite. -/
def commandsFinite : Bool :=
  hw.commands.position.isFinite && (!p.hasVelocityCommand || hw.commands.velocity.isFinite) &&
    (!p.hasAccelerationCommand || hw.commands.acceleration.isFinite)

/-- The position that is asked for, before it is clamped. -/
def unclampedTarget : ℚ :=
  if hw.takeover.holdRequest then hw.takeover.holdTargetM else hw.commands.position.value

/-- The velocity that is asked for. -/
def commandedVelocity : ℚ :=
  if ¬ hw.takeover.holdRequest ∧ p.hasVelocityCommand ∧ hw.commands.velocity.isFinite then
    hw.commands.velocity.value
  else 0

/-- The target is clamped to the software range, and the time of its last change is noted. -/
def takeTarget : ℚ × LiftHardware :=
  let unclamped := hw.unclampedTarget
  let target := clamp unclamped p.positionMinM p.positionMaxM
  let changed : Bool := match hw.output.lastTargetPositionM with
    | none => true
    | some last => decide (p.commandEpsilonM < |target - last|)
  (target, { hw with
    commands :=
      if 1 / 10 ^ 12 < |target - unclamped| then { hw.commands with position := .finite target }
      else hw.commands
    output := { hw.output with
      lastTargetPositionM := if changed then some target else hw.output.lastTargetPositionM
      targetChangeTime := if changed then now else hw.output.targetChangeTime } })

/-- What the velocity loop computes from. -/
def motionContext (target : ℚ) : MotionContext where
  target := target
  feedbackPosition := hw.feedback.hwPositionM
  feedbackVelocity := hw.feedback.filteredVelocityMps
  commandedVelocity := hw.commandedVelocity p
  terminalTarget :=
    hw.output.targetChangeTime != 0 &&
      decide (hw.output.targetChangeTime + msToNs p.stopTargetStableMs.toNat ≤ now) &&
      decide (|hw.commandedVelocity p| ≤ p.stationaryVelocityThresholdMps)
  digitalInputs := hw.feedback.digitalInputs
  lastTargetWireRpm := hw.output.lastTargetWireRpm

/-- The velocity of the reset takeover. -/
def resetWireRpm : ℚ := clamp (max 1 |p.resetVelocityRpm| : ℤ) 0 p.maxRpm / MotionContext.sign p

/-- The velocity on the wire for a position target. -/
def followTarget (periodS : ℚ) : ℚ × LiftHardware :=
  let taken := hw.takeTarget p now
  let hw := taken.2
  let x := hw.motionContext p now taken.1
  if ¬ x.motionActive p then
    (0, { hw with output := { hw.output with lastTargetWireRpm := 0 } })
  else
    let jointRpm := x.jointRpm p periodS
    let wireRpm := jointRpm / MotionContext.sign p
    (wireRpm, { hw with
      output := { hw.output with lastTargetWireRpm := wireRpm }
      limitRecoveryActive :=
        x.positionLimitViolation p && decide (p.commandEpsilonRpm < |jointRpm|) })

/-- `compute_motion_command`. -/
def computeMotionCommand (periodS : ℚ) : ℚ × LiftHardware :=
  let hw := { hw with limitRecoveryActive := false }
  if ¬ hw.feedbackIsFresh p now ∨ hw.motionBlocked then (0, hw)
  else if ¬ hw.commandsFinite p then (0, hw.latchMotionFault 6)
  else if hw.takeover.velocityRequest then (resetWireRpm p, hw)
  else hw.followTarget p now periodS

/-- A velocity is asked for only on fresh feedback and without a motion block. -/
theorem computeMotionCommand_rpm (periodS : ℚ)
    (h : (hw.computeMotionCommand p now periodS).1 ≠ 0) :
    hw.feedbackIsFresh p now = true ∧ hw.motionBlocked = false := by
  unfold computeMotionCommand at h
  dsimp only at h
  split at h
  · exact absurd rfl h
  · rename_i hready
    obtain ⟨hfresh, hblocked⟩ := not_or.mp hready
    exact ⟨not_not.mp hfresh, eq_false_of_ne_true hblocked⟩

end LiftHardware

end Hardware

end JointController
