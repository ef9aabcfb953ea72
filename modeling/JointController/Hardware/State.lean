import JointController.Library.Double
import JointController.Hardware.Cia402
import JointController.Hardware.Continuity
import JointController.Hardware.Units

/-!
# The state of the lift hardware

The parameters and the state of `LiftHardware`.  The log lines, the copies that only the status text
shows and the details of a feedback jump are left out.

* `HardwareParameters`: what `on_init` and `on_configure` accept.
* `LiftRxPdo`, `LiftTxPdo`: the process data to and from the drive.
* `BrakeStopPhase`, `Brake`, `Takeover`, `Feedback`, `Commands`, `Zero`, `Homing`, `Transport`: the
  parts of the state.
* `Maintenance`: how far the service that is being handled has come.
* `LiftHardware`: the state, with `feedbackIsFresh` and `updateStateInterfaces`.
-/

namespace JointController

namespace Hardware

/-! ## Parameters -/

/-- The parameters of the lift hardware, as `on_init` and `on_configure` accept them. -/
structure HardwareParameters where
  units : LiftUnitConfig
  -- std::sqrt
  sqrt : ℚ → ℚ
  source : ℕ
  usePersistentZeroOffset : Bool
  brakeControlEnabled : Bool
  limitSwitchEnabled : Bool
  limitSwitchActiveHigh : Bool
  directStopInStopWindow : Bool
  autoFaultReset : Bool
  startupMotionGuardEnabled : Bool
  resetVelocityDebugEnabled : Bool
  hasVelocityCommand : Bool
  hasAccelerationCommand : Bool
  feedbackTimeoutMs : ℕ
  expectedWorkingCounter : ℕ
  brakeReleaseWaitMs : ℤ
  maxFaultResetAttempts : ℕ
  faultResetBackoffMs : ℕ
  motionCommandPeriodMs : ℕ
  modeMismatchDebounceCycles : ℕ
  resetVelocityRpm : ℤ
  resetVelocityTimeoutMs : ℕ
  homingMethod : ℤ
  homingSpeedHighUnitsS : ℕ
  homingSpeedLowUnitsS : ℕ
  homingAccelerationUnitsS2 : ℕ
  homingOffsetUnits : ℤ
  startupMotionGuardMs : ℕ
  maxRpm : ℕ
  positionLimitRecoveryMaxRpm : ℕ
  stopWindowMaxRpm : ℕ
  overshootRecoveryMaxRpm : ℕ
  stopTargetStableMs : ℤ
  brakeP0439Rpm : ℕ
  brakeP0614Ms : ℕ
  limitSwitchPositiveBit : ℤ
  limitSwitchNegativeBit : ℤ
  kpRpmPerM : ℚ
  kdRpmPerMps : ℚ
  deadbandM : ℚ
  slowdownDistanceM : ℚ
  stopWindowM : ℚ
  feedbackFilterAlpha : ℚ
  velocitySlewRpmPerS : ℚ
  stopSlewRpmPerS : ℚ
  brakeAccelRpmPerS : ℚ
  overshootGuardWindowM : ℚ
  stationaryVelocityThresholdMps : ℚ
  commandEpsilonM : ℚ
  commandEpsilonRpm : ℚ
  maxFeedbackJumpM : ℚ
  maxFeedbackVelocityMps : Double
  feedbackVelocityToleranceMps : ℚ
  positionMinM : ℚ
  positionMaxM : ℚ
  resetMaxSearchTravelM : ℚ
  feedbackTimeoutMs_pos : 0 < feedbackTimeoutMs
  expectedWorkingCounter_pos : 0 < expectedWorkingCounter
  brakeReleaseWaitMs_ge : -1 ≤ brakeReleaseWaitMs
  motionCommandPeriodMs_pos : 0 < motionCommandPeriodMs
  modeMismatchDebounceCycles_pos : 0 < modeMismatchDebounceCycles
  maxRpm_pos : 0 < maxRpm
  positionLimitRecoveryMaxRpm_pos : 0 < positionLimitRecoveryMaxRpm
  positionLimitRecoveryMaxRpm_le : positionLimitRecoveryMaxRpm ≤ maxRpm
  stationaryVelocityThresholdMps_pos : 0 < stationaryVelocityThresholdMps
  maxFeedbackJumpM_pos : 0 < maxFeedbackJumpM
  positionMinM_le : positionMinM ≤ positionMaxM
  resetMaxSearchTravelM_pos : 0 < resetMaxSearchTravelM

/-- `transport_recovery_required_cycles_`. -/
def transportRecoveryRequiredCycles : ℕ := 5

/-- Milliseconds in nanoseconds. -/
def msToNs (ms : ℕ) : ℕ := ms * 1000000

/-! ## Process data -/

/-- `EthercatLinkState`. -/
inductive EthercatLinkState where
  | offline | init | preOperational | safeOperational | operational
  deriving DecidableEq

/-- `LiftRxPdo`, the process data to the drive. -/
structure LiftRxPdo where
  controlWord : UInt16 := 0
  targetVelocityUnitsPerS : ℤ := 0
  torqueFeedforward : ℤ := 0
  deriving DecidableEq

/-- `LiftTxPdo`, the process data from the drive. -/
structure LiftTxPdo where
  statusWord : UInt16 := 0
  errorCode : UInt16 := 0
  modeDisplay : ℤ := 0
  actualPositionUnits : ℤ := 0
  actualVelocityUnitsPerS : ℤ := 0
  digitalInputs : ℕ := 0
  deriving DecidableEq

/-! ## The parts of the state -/

/-- `BrakeStopPhase`. -/
inductive BrakeStopPhase where
  | disabled | idle | quickStop
  deriving DecidableEq

/-- The requests to release or lock the brake, and how far the drive has followed them.  A time of
zero is unset. -/
structure Brake where
  requestEnable : Bool := false
  serviceDisableLatched : Bool := false
  stopRequested : Bool := false
  stopTimeout : Bool := false
  stopPhase : BrakeStopPhase := .disabled
  stopStartTime : ℕ := 0
  unlocked : Bool := false
  enableTime : ℕ := 0
  previousOperationEnabled : Bool := false
  previousPowerCommand : Bool := false
  deriving DecidableEq

/-- The reset takeover and the hold of the service interface. -/
structure Takeover where
  velocityRequest : Bool := false
  velocityStopPending : Bool := false
  velocityStartTime : ℕ := 0
  searchStartPositionM : ℚ := 0
  holdRequest : Bool := false
  holdTargetM : ℚ := 0
  deriving DecidableEq

/-- What the drive has reported. -/
structure Feedback where
  rxPdo : LiftTxPdo := {}
  positionUnits : ℤ := 0
  statusWord : UInt16 := 0
  errorCode : UInt16 := 0
  modeDisplay : ℤ := 0
  digitalInputs : ℕ := 0
  -- feedback_position_m_ and hw_positions_
  positionM : ℚ := 0
  hwPositionM : ℚ := 0
  -- feedback_velocity_mps_, filtered_velocity_mps_ and hw_velocities_
  velocityMps : ℚ := 0
  filteredVelocityMps : ℚ := 0
  hwVelocityMps : ℚ := 0
  fresh : Bool := false
  lastFeedbackNs : ℕ := 0
  deriving DecidableEq

/-- The command interfaces. -/
structure Commands where
  position : Double := 0
  velocity : Double := 0
  acceleration : Double := 0
  power : Double := 0
  deriving DecidableEq

/-- The zero offset and the request for a new one. -/
structure Zero where
  offsetUnits : ℤ := 0
  offsetLoaded : Bool := false
  offsetUnitsAtomic : ℤ := 0
  applyPending : Bool := false
  requestPending : Bool := false
  disableObserved : Bool := false
  generation : ℕ := 0
  deriving DecidableEq

/-- The drive maintenance. -/
structure Homing where
  active : Bool := false
  startRequested : Bool := false
  complete : Bool := false
  failed : Bool := false
  driveZeroPending : Bool := false
  deriving DecidableEq

/-- The health of the EtherCAT transport. -/
structure Transport where
  linkState : EthercatLinkState := .offline
  workingCounter : ℕ := 0
  faultActive : Bool := false
  recoveryHealthyCycles : ℕ := 0
  deriving DecidableEq

/-- The output of the velocity loop that the next cycle goes on from. -/
structure MotionOutput where
  lastTargetWireRpm : ℚ := 0
  lastTargetPositionM : Option ℚ := none
  targetChangeTime : ℕ := 0
  deriving DecidableEq

/-- Where a service handler waits for the control cycle. -/
inductive Maintenance where
  | idle
  -- handle_home
  | homeStops
  | homeSearches
  | homeDisables (homed : Bool)
  | homeSavesZero
  -- handle_set_drive_zero
  | driveZeroStops
  deriving DecidableEq

/-- `LiftHardware`. -/
structure LiftHardware where
  configured : Bool := false
  active : Bool := false
  initialized : Bool := false
  -- service_node_ and its thread are there
  serviceRunning : Bool := false
  txPdo : LiftRxPdo := {}
  feedback : Feedback := {}
  commands : Commands := {}
  -- the copies of the command interfaces that handle_safety_reset looks at
  transmitted : Commands := {}
  brake : Brake := {}
  takeover : Takeover := {}
  zero : Zero := {}
  homing : Homing := {}
  transport : Transport := {}
  output : MotionOutput := {}
  maintenance : Maintenance := .idle
  cia402 : Cia402Controller
  continuity : FeedbackContinuityGuard := {}
  continuityResetPending : Bool := false
  estopLatched : Bool := false
  motionBlocked : Bool := false
  latchedMotionReasonCode : ℕ := 0
  errorReasonCode : ℕ := 0
  positionLimitViolation : Bool := false
  limitRecoveryActive : Bool := false
  modeMismatchCycles : ℕ := 0
  powerCommandRequested : Bool := false
  powerEnabled : Bool := false
  firstWriteSyncPending : Bool := false
  startupGuardUntil : ℕ := 0
  deriving DecidableEq

/-- What the backend reports during a call. -/
structure BackendStatus where
  linkState : EthercatLinkState
  workingCounter : ℕ
  pdoFresh : Bool
  deriving DecidableEq

namespace LiftHardware

variable (p : HardwareParameters) (hw : LiftHardware) (now : ℕ)

/-- `feedback_is_fresh`. -/
def feedbackIsFresh : Bool :=
  hw.feedback.fresh && hw.feedback.lastFeedbackNs != 0 &&
    decide (hw.feedback.lastFeedbackNs ≤ now) &&
    decide (now ≤ hw.feedback.lastFeedbackNs + msToNs p.feedbackTimeoutMs)

/-- The drive stands still, as the filtered feedback shows. -/
def stationary : Bool := decide (|hw.feedback.velocityMps| ≤ p.stationaryVelocityThresholdMps)

/-- The mode that 6061h has to show. -/
def expectedMode : ℤ := if hw.homing.active then 6 else 9

/-- The drive is in operation enabled, as the last process data show. -/
def actualPowerEnabled : Bool :=
  hw.feedbackIsFresh p now && hw.transport.linkState == .operational &&
    decide (p.expectedWorkingCounter ≤ hw.transport.workingCounter) &&
    hw.feedback.rxPdo.errorCode == 0 && hw.feedback.rxPdo.modeDisplay == hw.expectedMode &&
    parseCia402Status hw.feedback.rxPdo.statusWord == .operationEnabled

/-- `update_state_interfaces`. -/
def updateStateInterfaces : LiftHardware :=
  { hw with powerEnabled := hw.actualPowerEnabled p now }

/-- `latch_motion_fault`. -/
def latchMotionFault (reasonCode : ℕ) : LiftHardware :=
  { hw with
    motionBlocked := true
    latchedMotionReasonCode := reasonCode
    errorReasonCode := reasonCode
    brake := { hw.brake with requestEnable := false, stopRequested := true, unlocked := false }
    takeover := { hw.takeover with
      velocityRequest := false
      velocityStopPending := true
      holdTargetM := hw.feedback.positionM
      holdRequest := true } }

/-- `reset_feedback_continuity`. -/
def resetFeedbackContinuity : LiftHardware :=
  { hw with continuity := hw.continuity.reset p.source }

/-- `invalidate_feedback_continuity`. -/
def invalidateFeedbackContinuity : LiftHardware :=
  { hw with continuity := hw.continuity.invalidate p.source }

/-- `observe_feedback_continuity`. -/
def observeFeedbackContinuity (positionM : ℚ) (fresh : Bool) : LiftHardware :=
  let observed := hw.continuity.observe positionM now p.source fresh
  let hw := { hw with continuity := observed.2 }
  if observed.1 = .jumpDetected then hw.latchMotionFault 2 else hw

/-- `update_transport_health`. -/
def updateTransportHealth (healthy : Bool) : LiftHardware :=
  if ¬ healthy then
    { hw with
      transport := { hw.transport with faultActive := true, recoveryHealthyCycles := 0 }
      errorReasonCode := if hw.motionBlocked then hw.errorReasonCode else 1 }
  else if ¬ hw.transport.faultActive then hw
  else
    let next := hw.transport.recoveryHealthyCycles + 1
    if next < transportRecoveryRequiredCycles then
      { hw with transport := { hw.transport with recoveryHealthyCycles := next } }
    else
      { hw with
        transport := { hw.transport with faultActive := false, recoveryHealthyCycles := 0 }
        errorReasonCode :=
          if hw.motionBlocked || hw.estopLatched then hw.errorReasonCode
          else if hw.positionLimitViolation then 3 else 0 }

/-- `handle_transport_fault`. -/
def handleTransportFault : LiftHardware :=
  let hw := { hw with
    txPdo := { hw.txPdo with targetVelocityUnitsPerS := 0, controlWord := 0x0006 }
    brake := { hw.brake with stopRequested := true, stopPhase := .disabled, unlocked := false }
    feedback := { hw.feedback with fresh := false, filteredVelocityMps := 0, velocityMps := 0 }
    transport := { hw.transport with faultActive := true, recoveryHealthyCycles := 0 } }
  let hw := hw.invalidateFeedbackContinuity p
  { hw with errorReasonCode := if hw.motionBlocked then hw.errorReasonCode else 1 }

end LiftHardware

end Hardware

end JointController
