import JointController.Hardware.Motion

/-!
# The write half of a control cycle

* `WriteInput`: what the backend and the clock say during a call of `write`.
* `applyPendingZeroOffset`, `observeLink`, `expireTakeover`, `enforceEstop`, `samplePower`,
  `diagnoseDrive`, `advanceBrakePhase`, `decide402`, `finishQuickStop`, `inferBrake`,
  `syncCommands`, `runMotionLoop`, `computeOutput`, `observeDisable`: the stages of `write`.
* `LiftHardware.prepare`: the state of a cycle before its decision.
* `LiftHardware.write`: `write`, with the frame that it hands to the backend.
-/

namespace JointController

namespace Hardware

/-- What the backend and the clock say during a call of `write`. -/
structure WriteInput where
  now : ℕ
  periodS : ℚ
  status : BackendStatus
  writeOk : Bool
  deriving DecidableEq

namespace LiftHardware

variable (p : HardwareParameters) (hw : LiftHardware) (i : WriteInput)

/-! ## Before the decision -/

/-- `apply_pending_zero_offset`. -/
def applyPendingZeroOffset (now : ℕ) : LiftHardware :=
  if ¬ hw.zero.applyPending then hw
  else
    let offset := hw.zero.offsetUnitsAtomic
    let positionM := p.units.positionUnitsToM hw.feedback.positionUnits offset
    let hw := { hw with
      zero := { hw.zero with applyPending := false, offsetUnits := offset, offsetLoaded := true }
      commands := { hw.commands with position := 0, velocity := 0, acceleration := 0 }
      feedback := { hw.feedback with
        positionM := positionM
        hwPositionM := positionM
        velocityMps := 0
        hwVelocityMps := 0 } }
    let hw := (hw.resetFeedbackContinuity p).observeFeedbackContinuity p now positionM true
    { hw with
      feedback := { hw.feedback with filteredVelocityMps := 0 }
      output := { hw.output with lastTargetWireRpm := 0, lastTargetPositionM := some positionM }
      zero := { hw.zero with generation := hw.zero.generation + 1 } }

/-- The state of the link is noted. -/
def observeLink : LiftHardware :=
  { hw with transport := { hw.transport with
    linkState := i.status.linkState
    workingCounter := i.status.workingCounter } }

/-- A reset takeover that is not refreshed ends in a hold. -/
def expireTakeover : LiftHardware :=
  if hw.takeover.velocityRequest ∧ hw.takeover.velocityStartTime ≠ 0 ∧
      hw.takeover.velocityStartTime + msToNs p.resetVelocityTimeoutMs ≤ i.now then
    { hw with takeover := { hw.takeover with
      velocityRequest := false
      velocityStopPending := true
      holdTargetM := hw.feedback.positionM
      holdRequest := true } }
  else hw

/-- A latched emergency stop is requested in every cycle. -/
def enforceEstop : LiftHardware :=
  if hw.estopLatched then
    { hw with
      brake := { hw.brake with requestEnable := false, stopRequested := true }
      takeover := { hw.takeover with velocityRequest := false } }
  else hw

/-- The power command is on. -/
def powerCommand : Bool :=
  hw.commands.power.isFinite && decide (Double.finite (1 / 2) ≤ hw.commands.power)

/-- The edges of the power command are followed.  A new edge from low to high is required after an
external safety disable. -/
def samplePower : LiftHardware :=
  let power := hw.powerCommand
  let hw := { hw with powerCommandRequested := power }
  if power = hw.brake.previousPowerCommand then hw
  else if power ∧ ¬ hw.estopLatched ∧ ¬ hw.motionBlocked then
    { hw with brake := { hw.brake with
      serviceDisableLatched := false
      stopRequested := false
      previousPowerCommand := power } }
  else if ¬ power then
    { hw with brake := { hw.brake with stopRequested := true, previousPowerCommand := power } }
  else { hw with brake := { hw.brake with previousPowerCommand := power } }

/-- `enable_requested`. -/
def enableRequested : Bool :=
  !hw.estopLatched && p.brakeControlEnabled && !hw.brake.serviceDisableLatched &&
    (hw.powerCommand || hw.brake.requestEnable)

/-- `stop_requested`. -/
def stopRequested : Bool := hw.estopLatched || hw.brake.stopRequested

/-- The process data are fresh enough to move on. -/
def pdoFresh : Bool :=
  hw.feedbackIsFresh p i.now && i.status.pdoFresh && !hw.transport.faultActive

/-- A drive error or a persistent mode mismatch blocks the motion. -/
def diagnoseDrive (enableRequested : Bool) : LiftHardware :=
  let fresh := hw.feedbackIsFresh p i.now
  let report (code : ℕ) : ℕ :=
    if hw.motionBlocked || hw.estopLatched then hw.errorReasonCode else code
  if fresh ∧ hw.feedback.rxPdo.errorCode ≠ 0 then
    let hw := { hw with modeMismatchCycles := 0 }
    if enableRequested ∨ hw.powerEnabled then hw.latchMotionFault 7
    else { hw with errorReasonCode := report 7 }
  else if fresh ∧ enableRequested ∧ hw.feedback.rxPdo.modeDisplay ≠ hw.expectedMode then
    let next := min (hw.modeMismatchCycles + 1) p.modeMismatchDebounceCycles
    let hw := { hw with modeMismatchCycles := next }
    if p.modeMismatchDebounceCycles ≤ next then hw.latchMotionFault 7
    else { hw with errorReasonCode := report 7 }
  else if i.status.linkState ≠ .operational ∨ ¬ hw.pdoFresh p i ∨
      i.status.workingCounter < p.expectedWorkingCounter then
    { hw with
      modeMismatchCycles := 0
      errorReasonCode := if hw.motionBlocked then hw.errorReasonCode else 1 }
  else if ¬ hw.motionBlocked ∧ ¬ hw.estopLatched then
    { hw with
      modeMismatchCycles := 0
      errorReasonCode := if hw.positionLimitViolation then 3 else 0 }
  else hw

/-- The state machine of a controlled stop. -/
def advanceBrakePhase (stopRequested enableRequested : Bool) : LiftHardware :=
  if stopRequested ∧ hw.brake.stopPhase = .idle then
    { hw with brake := { hw.brake with
      stopPhase := .quickStop
      stopStartTime := i.now
      stopTimeout := false } }
  else if ¬ stopRequested ∧ hw.brake.stopPhase = .quickStop then
    { hw with brake := { hw.brake with stopPhase := .idle, stopStartTime := 0 } }
  else if ¬ stopRequested ∧ hw.brake.stopPhase = .disabled ∧ enableRequested then
    { hw with brake := { hw.brake with stopPhase := .idle } }
  else hw

/-- The state of a cycle before the power command is sampled. -/
def unsampled : LiftHardware :=
  (((hw.applyPendingZeroOffset p i.now).observeLink i).expireTakeover p i).enforceEstop

/-- The state of a cycle once the power command is sampled. -/
def sampled : LiftHardware := (hw.unsampled p i).samplePower

/-- The state of a cycle before its decision. -/
def prepare : LiftHardware :=
  let sampled := hw.sampled p i
  let enable := sampled.enableRequested p
  (sampled.diagnoseDrive p i enable).advanceBrakePhase i sampled.stopRequested enable

/-! ## The decision -/

/-- A quick stop is under way. -/
def quickStopRequested : Bool := hw.brake.stopPhase == .quickStop

/-- The inputs of the CiA 402 state machine.  The freshness and the enable request are those of the
beginning of the cycle. -/
def cia402Inputs (pdoFresh enableRequested : Bool) : Cia402Inputs where
  statusWord := hw.feedback.rxPdo.statusWord
  errorCode := hw.feedback.rxPdo.errorCode
  modeDisplay := hw.feedback.rxPdo.modeDisplay
  expectedMode := hw.expectedMode
  linkOperational := i.status.linkState == .operational
  pdoFresh := pdoFresh
  workingCounterOk := decide (p.expectedWorkingCounter ≤ i.status.workingCounter)
  requestEnable := enableRequested && !hw.quickStopRequested
  requestQuickStop := hw.quickStopRequested
  requestFaultReset := p.autoFaultReset && !hw.estopLatched

/-- The drive is slow enough for the brake to be locked. -/
def lowSpeed : Bool :=
  let rawVelocityMps := |p.units.velocityUnitsToMps hw.feedback.rxPdo.actualVelocityUnitsPerS|
  let brakeThresholdMps := |p.units.rpmToMps p.brakeP0439Rpm|
  decide (rawVelocityMps ≤ max p.stationaryVelocityThresholdMps brakeThresholdMps)

/-- The controlled stop has taken too long. -/
def stopTimedOut : Bool :=
  hw.brake.stopStartTime != 0 &&
    decide (hw.brake.stopStartTime + msToNs p.brakeP0614Ms ≤ i.now)

/-- A homing run is started by bit 4 of the control word. -/
def homingWord (decision : Cia402Decision) : UInt16 :=
  if hw.homing.active ∧ decision.allowMotion then decision.controlWord ||| 0x0010
  else decision.controlWord

/-- A quick stop ends in a disabled drive, when the drive is slow or the time is over. -/
def finishQuickStop (controlWord : UInt16) : UInt16 × LiftHardware :=
  if hw.quickStopRequested ∧
      (hw.lowSpeed p ∨ hw.stopTimedOut p i ∨ controlWord = 0x0006) then
    (0x0006, { hw with brake := { hw.brake with
      stopPhase := .disabled
      stopStartTime := 0
      stopTimeout := (hw.stopTimedOut p i && !hw.lowSpeed p) || hw.brake.stopTimeout } })
  else (controlWord, hw)

/-- The decision of the cycle, the control word and the state behind them. -/
def decide402 (pdoFresh enableRequested : Bool) : Cia402Decision × UInt16 × LiftHardware :=
  let stepped := hw.cia402.step (hw.cia402Inputs p i pdoFresh enableRequested)
  let decision := stepped.1
  let word := hw.homingWord decision
  let hw := { hw with
    cia402 := stepped.2
    homing := { hw.homing with
      startRequested := hw.homing.startRequested && !(hw.homing.active && decision.allowMotion) } }
  let finished := hw.finishQuickStop p i word
  (decision, finished.1, finished.2)

/-! ## The velocity -/

/-- The release of the brake has been waited for. -/
def releaseWaitElapsed : Bool :=
  decide (0 ≤ p.brakeReleaseWaitMs) &&
    decide (hw.brake.enableTime + msToNs p.brakeReleaseWaitMs.toNat ≤ i.now)

/-- The brake is taken for unlocked once the drive has been enabled for long enough. -/
def inferBrake (allowMotion : Bool) : LiftHardware :=
  let hw := { hw with brake := { hw.brake with
    enableTime :=
      if allowMotion ∧ ¬ hw.brake.previousOperationEnabled then i.now else hw.brake.enableTime
    previousOperationEnabled := allowMotion } }
  { hw with brake := { hw.brake with
    unlocked := allowMotion && hw.releaseWaitElapsed p i && hw.brake.stopPhase == .idle &&
      !hw.motionBlocked } }

/-- The guard at the start is active. -/
def startupGuardActive : Bool :=
  p.startupMotionGuardEnabled && decide (i.now < hw.startupGuardUntil)

/-- The lift holds its position at the start and in an emergency stop. -/
def syncCommands : LiftHardware :=
  let hold := hw.startupGuardActive p i || hw.firstWriteSyncPending || hw.estopLatched
  { hw with
    firstWriteSyncPending := false
    commands :=
      if hold then
        { hw.commands with
          position := .finite hw.feedback.positionM
          velocity := 0
          acceleration := 0 }
      else hw.commands }

/-- The velocity loop runs while the brake is taken for unlocked. -/
def runMotionLoop (allowMotion : Bool) : ℚ × LiftHardware :=
  if hw.brake.unlocked ∧ allowMotion ∧ ¬ hw.homing.active then
    hw.computeMotionCommand p i.now (if 0 < i.periodS then i.periodS else 1 / 100)
  else (0, hw)

/-- The velocity on the wire.  The checks are those of the cycle before the commands are held. -/
def computeOutput (firstWriteSync fresh allowMotion : Bool) : ℚ × LiftHardware :=
  let computed := hw.runMotionLoop p i allowMotion
  if ¬ allowMotion ∨ ¬ hw.brake.unlocked ∨ ¬ fresh ∨ computed.2.motionBlocked ∨
      computed.2.estopLatched ∨ computed.2.startupGuardActive p i ∨ firstWriteSync then
    (0, { computed.2 with output := { computed.2.output with lastTargetWireRpm := 0 } })
  else computed

/-- A reset takeover that is being stopped is not sent again. -/
def stopTakeover (stopPending : Bool) (output : ℚ × LiftHardware) : ℚ × LiftHardware :=
  if stopPending then
    (0, { output.2 with output := { output.2.output with lastTargetWireRpm := 0 } })
  else output

/-- The controlled disable for a new zero is observed. -/
def observeDisable (allowMotion : Bool) (controlWord : UInt16) : LiftHardware :=
  if hw.zero.requestPending ∧ ¬ allowMotion ∧ controlWord = 0x0006 then
    { hw with zero := { hw.zero with disableObserved := true } }
  else hw

/-- The frame is handed to the backend. -/
def transmit (stopPending : Bool) : LiftHardware :=
  if ¬ i.writeOk then hw.handleTransportFault p
  else
    let hw :=
      if stopPending then { hw with takeover := { hw.takeover with velocityStopPending := false } }
      else hw
    hw.updateStateInterfaces p i.now

/-- The outcome of a call of `write`: the frame that is handed to the backend, whether the call
succeeds, and the hardware. -/
structure WriteResult where
  frame : Option LiftRxPdo
  ok : Bool
  hardware : LiftHardware

/-- The rest of a cycle, once its decision is made: the frame and the state before it is handed to
the backend. -/
def emit (stopPending fresh : Bool) (decision : Cia402Decision) (controlWord : UInt16) :
    LiftRxPdo × LiftHardware :=
  let inferred := hw.inferBrake p i decision.allowMotion
  let firstWriteSync := inferred.firstWriteSyncPending
  let output := stopTakeover stopPending
    ((inferred.syncCommands p i).computeOutput p i firstWriteSync fresh decision.allowMotion)
  let frame : LiftRxPdo :=
    { controlWord := controlWord
      targetVelocityUnitsPerS := p.units.wireRpmToVelocityUnits output.1 }
  (frame, { output.2 with
    txPdo := frame
    transmitted := output.2.commands })

/-- `write`. -/
def write : WriteResult :=
  if ¬ hw.active then ⟨none, false, hw⟩
  else
    let stopPending := (hw.applyPendingZeroOffset p i.now).takeover.velocityStopPending
    let sampled := hw.sampled p i
    let fresh := sampled.feedbackIsFresh p i.now
    let decided := (hw.prepare p i).decide402 p i (sampled.pdoFresh p i) (sampled.enableRequested p)
    let emitted := decided.2.2.emit p i stopPending fresh decided.1 decided.2.1
    let observed := emitted.2.observeDisable decided.1.allowMotion decided.2.1
    ⟨some emitted.1, i.writeOk, observed.transmit p i stopPending⟩

end LiftHardware

end Hardware

end JointController
