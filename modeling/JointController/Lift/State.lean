import JointController.Lift.Profile
import JointController.Contract

/-!
# The state of the lift controller

The parameters and the state of `LiftController`.  Diagnostics (the fault history, the throttled
log lines, the status text) are left out.

* `LiftParameters`: what `on_configure` accepts.
* `MotionCommand`, `Mode`: the commands and the modes of the control loop.
* `Inbox`: what the callbacks leave for the control loop.
* `DriverStatus`: the last report of the drive, with `LiftController.driverGateReady`.
* `LiftController`: the state of the controller.
-/

namespace JointController

namespace Lift

/-! ## Parameters -/

/-- The parameters of the lift controller, as `on_configure` accepts them. -/
structure LiftParameters where
  limits : LiftMotionLimits
  jogTimeoutSec : ℚ
  brakeGateStableSec : ℚ
  driverStatusTimeoutSec : ℚ
  targetStableSec : ℚ
  goalToleranceM : ℚ
  stationaryVelocityMps : ℚ
  jogTimeoutSec_pos : 0 < jogTimeoutSec
  brakeGateStableSec_ge : 1 / 10 ≤ brakeGateStableSec
  driverStatusTimeoutSec_pos : 0 < driverStatusTimeoutSec
  targetStableSec_nonneg : 0 ≤ targetStableSec
  goalToleranceM_pos : 0 < goalToleranceM
  stationaryVelocityMps_pos : 0 < stationaryVelocityMps

/-- `joint_name_`, the one name that `on_configure` accepts. -/
def jointName : String := "joint_motor"

/-! ## Commands -/

/-- `LiftController::CommandType`. -/
inductive CommandType where
  | none | position | trajectory | jog | stream | softStop | hold
  deriving DecidableEq

/-- `LiftController::Mode`. -/
inductive Mode where
  | hold | brakeGate | position | trajectory | jog | streaming | softStop | estop | fault
  deriving DecidableEq

/-- `LiftController::SoftStopCompletion`. -/
inductive SoftStopCompletion where
  | disable | holdPowered
  deriving DecidableEq

/-- `LiftController::HoldFailureStage`. -/
inductive HoldFailureStage where
  | none | driverGate | motionProfile | velocityConfirmation | modeConfirmation
  deriving DecidableEq

/-- `LiftController::MotionCommand`. -/
structure MotionCommand where
  type : CommandType := .none
  positionM : Double := 0
  velocityMps : Double := 0
  accelerationMps2 : Double := 0
  accelerationLimitMps2 : Double := 0
  velocityScale : Double := 0
  generation : ℕ := 0
  heavySequence : ℕ := 0
  deriving DecidableEq

/-- `trajectory_msgs/JointTrajectoryPoint`. -/
structure JointTrajectoryPoint where
  positions : List Double
  velocities : List Double
  accelerations : List Double
  timeFromStartSec : ℤ
  timeFromStartNanosec : ℕ
  deriving DecidableEq

/-- `trajectory_msgs/JointTrajectory`. -/
structure JointTrajectory where
  jointNames : List String
  points : List JointTrajectoryPoint
  deriving DecidableEq

/-- `duration_seconds` of the time of a point. -/
def JointTrajectoryPoint.timeFromStart (point : JointTrajectoryPoint) : ℚ :=
  point.timeFromStartSec + point.timeFromStartNanosec / 10 ^ 9

/-! ## What the callbacks write -/

/-- The buffers and counters that the callbacks write and the control loop only reads. -/
structure Inbox where
  commandBuffer : MotionCommand := {}
  safetyCommandBuffer : MotionCommand := {}
  heavyCommandBuffer : MotionCommand := {}
  commandGeneration : ℕ := 0
  safetyCommandGeneration : ℕ := 0
  heavyCommandGeneration : ℕ := 0
  motionGeneration : ℕ := 0
  cancellationGeneration : ℕ := 0
  admittedHeavySequence : ℕ := 0
  heavyLeaseActive : Bool := false
  active : Bool := false
  deriving DecidableEq

/-- The atomic copies of the last status report of the drive. -/
structure DriverStatus where
  feedbackFresh : Bool := false
  ethercatOperational : Bool := false
  workingCounterOk : Bool := false
  operationEnabled : Bool := false
  brakeUnlocked : Bool := false
  estopLatched : Bool := false
  motionBlocked : Bool := false
  quickStop : Bool := false
  errorCode : ℕ := 0
  modeDisplay : ℤ := 0
  statusNs : ℕ := 0
  zeroGeneration : ℕ := 0
  zeroGenerationValid : Bool := false
  deriving DecidableEq

/-- The trajectories and their generations, under `trajectory_mutex_` in part. -/
structure Trajectories where
  pending : Option JointTrajectory := none
  active : Option JointTrajectory := none
  pendingGeneration : ℕ := 0
  consumedGeneration : ℕ := 0
  activeGeneration : ℕ := 0
  pointIndex : ℕ := 0
  elapsedSec : ℚ := 0
  waitingAtPoint : Bool := false
  deriving DecidableEq

/-- The values of the command interfaces. -/
structure CommandInterfaces where
  position : Double := 0
  velocity : Double := 0
  acceleration : Double := 0
  powerEnable : Bool := false
  deriving DecidableEq

/-- The atomic copies that `write_command_interfaces` leaves for the services. -/
structure Snapshot where
  measuredPosition : Double := 0
  measuredVelocity : Double := 0
  commandVelocity : Double := 0
  commandAcceleration : Double := 0
  mode : Mode := .hold
  trajectoryActive : Bool := false
  gatedCommandActive : Bool := false
  deriving DecidableEq

/-! ## The controller -/

/-- `LiftController`.  The times are readings of the steady clock in nanoseconds, and zero stands
for a time that is not set. -/
structure LiftController (otg : TrajectoryGenerator) where
  inbox : Inbox
  driver : DriverStatus
  trajectories : Trajectories
  profile : LiftMotionProfile otg
  commandSample : LiftMotionSample
  heavyLeaseActiveRt : Bool
  consumedGeneration : ℕ
  consumedSafetyCommandGeneration : ℕ
  consumedHeavyCommandGeneration : ℕ
  appliedHeavySequence : ℕ
  appliedCancellationGeneration : ℕ
  pendingHeavyFollowAckSequence : ℕ
  gatedCommand : MotionCommand
  gatedCommandValid : Bool
  mode : Mode
  measuredPositionM : Double
  measuredVelocityMps : Double
  goalStableActive : Bool
  softStopCompletion : SoftStopCompletion
  pendingHoldGeneration : ℕ
  completedHoldGeneration : ℕ
  failedHoldGeneration : ℕ
  holdFailureStage : HoldFailureStage
  goalStableSince : ℕ
  gateStableSince : ℕ
  lastJogCommandTime : ℕ
  appliedZeroGeneration : ℕ
  zeroResyncTotal : ℕ
  powerEnableRequested : Bool
  powerEnabledState : Bool
  interfaces : CommandInterfaces
  snapshot : Snapshot

variable {otg : TrajectoryGenerator}

/-- The controller after `on_configure`, before it is activated. -/
def LiftController.configured (p : LiftParameters) : LiftController otg where
  inbox := {}
  driver := {}
  trajectories := {}
  profile :=
    { input := LiftMotionProfile.applyLimits p.limits (.finite p.limits.defaultVelocityScale)
        ⟨.position, 0, 0, 0, 0, 0, 0, 0, 0, 0⟩
      memory := otg.initial
      mode := .hold
      state := ⟨0, 0, 0, 0, true, true⟩ }
  commandSample := ⟨0, 0, 0, 0, true, true⟩
  heavyLeaseActiveRt := false
  consumedGeneration := 0
  consumedSafetyCommandGeneration := 0
  consumedHeavyCommandGeneration := 0
  appliedHeavySequence := 0
  appliedCancellationGeneration := 0
  pendingHeavyFollowAckSequence := 0
  gatedCommand := {}
  gatedCommandValid := false
  mode := .hold
  measuredPositionM := 0
  measuredVelocityMps := 0
  goalStableActive := false
  softStopCompletion := .disable
  pendingHoldGeneration := 0
  completedHoldGeneration := 0
  failedHoldGeneration := 0
  holdFailureStage := .none
  goalStableSince := 0
  gateStableSince := 0
  lastJogCommandTime := 0
  appliedZeroGeneration := 0
  zeroResyncTotal := 0
  powerEnableRequested := false
  powerEnabledState := false
  interfaces := {}
  snapshot := {}

namespace LiftController

variable (p : LiftParameters) (c : LiftController otg) (now : ℕ)

/-- `driver_status_fresh`. -/
def driverStatusFresh : Bool :=
  decide (0 < c.driver.statusNs ∧ c.driver.statusNs ≤ now ∧
    ((now - c.driver.statusNs : ℕ) : ℚ) / 10 ^ 9 ≤ p.driverStatusTimeoutSec)

/-- `driver_gate_ready`. -/
def driverGateReady : Bool :=
  c.driverStatusFresh p now && c.driver.feedbackFresh && c.driver.ethercatOperational &&
    c.driver.workingCounterOk && c.powerEnabledState && c.driver.operationEnabled &&
    !c.driver.estopLatched && c.driver.errorCode == 0 && c.driver.modeDisplay == 9

/-- `hold_snapshot_is_safe`. -/
def holdSnapshotIsSafe : Bool :=
  c.snapshot.mode == .hold && !c.snapshot.trajectoryActive && !c.snapshot.gatedCommandActive &&
    decide (c.snapshot.measuredVelocity.abs ≤ .finite p.stationaryVelocityMps) &&
    decide (c.snapshot.commandVelocity.abs ≤ .finite p.stationaryVelocityMps) &&
    decide (c.snapshot.commandAcceleration.abs ≤ .finite (1 / 10 ^ 9))

/-- The nanoseconds between two readings of the clock exceed a number of seconds. -/
def longerThan (since : ℕ) (sec : ℚ) : Prop := sec * 10 ^ 9 < (now : ℚ) - since

instance (since : ℕ) (sec : ℚ) : Decidable (longerThan now since sec) :=
  inferInstanceAs (Decidable (_ < _))

/-- The nanoseconds between two readings of the clock have reached a number of seconds. -/
def atLeast (since : ℕ) (sec : ℚ) : Prop := sec * 10 ^ 9 ≤ (now : ℚ) - since

instance (since : ℕ) (sec : ℚ) : Decidable (atLeast now since sec) :=
  inferInstanceAs (Decidable (_ ≤ _))

end LiftController

end Lift

end JointController
