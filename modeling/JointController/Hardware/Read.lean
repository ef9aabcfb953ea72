import JointController.Hardware.State

/-!
# The read half of a control cycle

* `ReadInput`: what the backend and the clock say during a call of `read`.
* `takeSample`, `observeHoming`, `followFeedback`, `checkPositionLimits`, `checkVelocity`: the
  stages of `read`.
* `LiftHardware.read`: `read`, which fails on an inactive lift and on a transport fault.
-/

namespace JointController

namespace Hardware

/-- What the backend and the clock say during a call of `read`. -/
structure ReadInput where
  now : ℕ
  sample : Option LiftTxPdo
  status : BackendStatus
  deriving DecidableEq

/-- The process data are fresh, from an operational link with the expected working counter. -/
def BackendStatus.healthy (p : HardwareParameters) (status : BackendStatus) : Bool :=
  status.pdoFresh && status.linkState == .operational &&
    decide (p.expectedWorkingCounter ≤ status.workingCounter)

namespace LiftHardware

variable (p : HardwareParameters) (hw : LiftHardware) (i : ReadInput)

/-- The process data are taken over. -/
def takeSample (sample : LiftTxPdo) : LiftHardware :=
  let fresh := i.status.healthy p
  let hw := { hw with
    feedback := { hw.feedback with rxPdo := sample, positionUnits := sample.actualPositionUnits }
    transport := { hw.transport with
      linkState := i.status.linkState
      workingCounter := i.status.workingCounter } }
  let hw := hw.updateTransportHealth fresh
  { hw with
    feedback := { hw.feedback with
      lastFeedbackNs := if fresh then i.now else hw.feedback.lastFeedbackNs
      fresh := fresh
      statusWord := sample.statusWord
      errorCode := sample.errorCode
      modeDisplay := sample.modeDisplay
      digitalInputs := sample.digitalInputs } }

/-- A homing run has failed or is complete. -/
def observeHoming (sample : LiftTxPdo) : LiftHardware :=
  if hw.homing.active then
    { hw with homing := { hw.homing with
      failed := hw.homing.failed || sample.errorCode != 0 || sample.statusWord &&& 0x2000 != 0
      complete := hw.homing.complete || sample.statusWord &&& 0x1400 == 0x1400 } }
  else hw

/-- The position in metres.  (It is finite, as the units are.) -/
def samplePositionM (sample : LiftTxPdo) : ℚ :=
  p.units.positionUnitsToM sample.actualPositionUnits hw.zero.offsetUnits

/-- The filtered velocity and the continuity guard follow the feedback. -/
def followFeedback (positionM velocityMps : ℚ) : LiftHardware :=
  let filtered := p.feedbackFilterAlpha * velocityMps +
    (1 - p.feedbackFilterAlpha) * hw.feedback.filteredVelocityMps
  let hw := { hw with feedback := { hw.feedback with
    filteredVelocityMps := filtered
    velocityMps := filtered
    positionM := positionM } }
  let hw :=
    if hw.continuityResetPending then
      { hw.resetFeedbackContinuity p with continuityResetPending := false }
    else hw
  hw.observeFeedbackContinuity p i.now positionM (i.status.healthy p && !hw.transport.faultActive)

/-- A reset search may go on at a position. -/
def inSearchWindow (positionM : ℚ) : Bool :=
  hw.takeover.velocityRequest &&
    decide (min hw.takeover.searchStartPositionM p.positionMinM - p.commandEpsilonM ≤ positionM) &&
    decide (positionM ≤
      hw.takeover.searchStartPositionM + p.resetMaxSearchTravelM + p.commandEpsilonM)

/-- A position is outside the software range and outside the window of a reset search. -/
def outsideLimits (positionM : ℚ) : Bool :=
  !hw.inSearchWindow p positionM &&
    (decide (positionM < p.positionMinM - p.commandEpsilonM) ||
      decide (p.positionMaxM + p.commandEpsilonM < positionM))

/-- The lift stops once when it leaves the software range. -/
def enterLimitViolation : LiftHardware :=
  { hw with
    brake := { hw.brake with requestEnable := false, stopRequested := true, unlocked := false }
    takeover := { hw.takeover with
      velocityRequest := false
      velocityStopPending := true
      holdRequest := false }
    output := { hw.output with lastTargetWireRpm := 0 } }

/-- The check of the software range. -/
def checkPositionLimits (positionM : ℚ) : LiftHardware :=
  let outside := hw.outsideLimits p positionM
  let wasOutside := hw.positionLimitViolation
  let hw := { hw with positionLimitViolation := outside, limitRecoveryActive := false }
  if outside ∧ ¬ hw.motionBlocked then
    let hw := { hw with errorReasonCode := 3 }
    if wasOutside then hw else hw.enterLimitViolation
  else hw

/-- The check of the measured velocity. -/
def checkVelocity (velocityMps : ℚ) : LiftHardware :=
  if p.maxFeedbackVelocityMps + .finite p.feedbackVelocityToleranceMps < .finite |velocityMps| then
    hw.latchMotionFault 5
  else hw

/-- The rest of `read`, once the process data are there. -/
def readSample (sample : LiftTxPdo) : LiftHardware :=
  let positionM := hw.samplePositionM p sample
  let velocityMps := p.units.velocityUnitsToMps sample.actualVelocityUnitsPerS
  let hw :=
    ((hw.takeSample p i sample).observeHoming sample).followFeedback p i positionM velocityMps
  let hw := (hw.checkPositionLimits p positionM).checkVelocity p velocityMps
  let hw := { hw with feedback := { hw.feedback with
    hwPositionM := positionM
    hwVelocityMps := velocityMps } }
  hw.updateStateInterfaces p i.now

/-- `read`. -/
def read : Bool × LiftHardware :=
  if ¬ hw.active then (false, hw)
  else match i.sample with
  | none => (false, hw.handleTransportFault p)
  | some sample => (true, hw.readSample p i sample)

end LiftHardware

end Hardware

end JointController
