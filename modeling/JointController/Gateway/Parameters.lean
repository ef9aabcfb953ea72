import JointController.Contract

/-!
# Parameters of the Heavy gateway

`configureParameters` reads the node parameters and checks them in the order of the source.  What
it returns carries the outcome of the checks: a `Parameters` has positive timeouts, a retry
interval below the acknowledgement timeout, ordered lift limits inside the native ones and the
names of 14 arm joints.  A number that has been checked to be finite is kept as a rational, and a
duration in milliseconds as a count of nanoseconds of the steady clock.

* `NodeParameters`: the parameters with the defaults of the node.
* `Parameters`: the checked parameters.
* `configureParameters`: the checks, with the texts of their errors.
-/

namespace JointController

/-- A duration of `n` milliseconds in ticks of the steady clock. -/
def millis (n : ℕ) : ℕ := n * 1000000

theorem millis_pos {n : ℕ} (h : 0 < n) : 0 < millis n := Nat.mul_pos h (by decide)

/-- The node parameters under `heavy_v1`, with their defaults. -/
structure NodeParameters where
  commandRateHz : Double := .finite 100
  controllerRateHz : Double := .finite 100
  feedbackRateHz : Double := .finite 100
  statusRateHz : Double := .finite 10
  commandHoldTimeoutMs : ℤ := 100
  feedbackFaultTimeoutMs : ℤ := 300
  workspaceStatusTimeoutMs : ℤ := 3000
  executionLeaseTimeoutMs : ℤ := 500
  startupFeedbackGraceMs : ℤ := 2000
  controllerAckTimeoutMs : ℤ := 200
  controllerAckRetryIntervalMs : ℤ := 50
  serviceTimeoutMs : ℤ := 5000
  liftEnableTimeoutMs : ℤ := 1000
  armMaxVelocityRadS : Double := .finite (3 / 10)
  armMaxAccelerationRadS2 : Double := .finite 1
  liftMinPositionM : Double := .finite (-1)
  liftMaxPositionM : Double := .finite 0
  liftPositionToleranceM : Double := .finite (2 / 1000)
  liftMaxVelocityMps : Double := .finite (60 / 1000)
  liftMaxAccelerationMps2 : Double := .finite (10 / 100)
  allowLiftOnlyFollow : Bool := false
  liftOnlyArmHoldPositionToleranceRad : Double := .finite (1 / 1000)
  brakeLockVelocityThresholdMps : Double := .finite (1 / 1000)
  armNativeNames : List String :=
    ["ljoint1", "ljoint2", "ljoint3", "ljoint4", "ljoint5", "ljoint6", "ljoint7",
      "rjoint1", "rjoint2", "rjoint3", "rjoint4", "rjoint5", "rjoint6", "rjoint7"]
  liftNativeName : String := "joint_motor"
  heavyLiftBrakeNativeService : String := ""

/-- The checked parameters.  Durations are in ticks of the steady clock. -/
structure Parameters where
  commandRateHz : ℚ
  controllerRateHz : ℚ
  feedbackRateHz : ℚ
  statusRateHz : ℚ
  commandHoldTimeout : ℕ
  feedbackFaultTimeout : ℕ
  workspaceStatusTimeout : ℕ
  executionLeaseTimeout : ℕ
  startupFeedbackGrace : ℕ
  controllerAckTimeout : ℕ
  controllerAckRetryInterval : ℕ
  serviceTimeout : ℕ
  liftEnableTimeout : ℕ
  armMaxVelocityRadS : ℚ
  armMaxAccelerationRadS2 : ℚ
  liftMinPositionM : ℚ
  liftMaxPositionM : ℚ
  liftPositionToleranceM : ℚ
  liftMaxVelocityMps : ℚ
  liftMaxAccelerationMps2 : ℚ
  allowLiftOnlyFollow : Bool
  liftOnlyArmHoldPositionToleranceRad : ℚ
  brakeLockVelocityThresholdMps : ℚ
  armNativeNames : List String
  liftNativeName : String
  heavyLiftBrakeNativeService : String
  executionLeaseTimeout_pos : 0 < executionLeaseTimeout
  feedbackFaultTimeout_pos : 0 < feedbackFaultTimeout
  ackRetryInterval_lt : controllerAckRetryInterval < controllerAckTimeout
  liftLimits_lt : liftMinPositionM < liftMaxPositionM
  liftMaxVelocity_nonneg : 0 ≤ liftMaxVelocityMps
  liftMaxAcceleration_nonneg : 0 ≤ liftMaxAccelerationMps2
  liftPositionTolerance_nonneg : 0 ≤ liftPositionToleranceM
  armNativeNames_length : armNativeNames.length = 14
  liftNativeName_ne : liftNativeName ≠ ""
  deriving DecidableEq

/-- A native lift brake client exists, `heavy_lift_brake_client_ != nullptr`. -/
def Parameters.heavyLiftBrakeClient (p : Parameters) : Bool :=
  p.heavyLiftBrakeNativeService != ""

/-- `positiveMilliseconds`: the checked duration in ticks. -/
def positiveMilliseconds (name : String) (value : ℤ) : Except String { t : ℕ // 0 < t } :=
  if h : value ≤ 0 ∨ 600000 < value then
    .error (name ++ " must be in (0, 600000] milliseconds")
  else
    .ok ⟨millis value.toNat, millis_pos (by omega)⟩

/-- `positiveRate`. -/
def positiveRate (name : String) (value : Double) : Except String { q : ℚ // 0 < q } :=
  match value with
  | .finite q =>
    if h : q ≤ 0 ∨ 1000 < q then .error (name ++ " must be finite and in (0, 1000]")
    else .ok ⟨q, lt_of_not_ge fun hq => h (Or.inl hq)⟩
  | _ => .error (name ++ " must be finite and in (0, 1000]")

/-- The finite value of a parameter, or the error of its check. -/
def finiteOr (error : String) : Double → Except String ℚ
  | .finite q => .ok q
  | _ => .error error

/-- `configureParameters`. -/
def configureParameters (n : NodeParameters) : Except String Parameters := do
  let commandRateHz ← positiveRate "heavy_v1.command_rate_hz" n.commandRateHz
  let controllerRateHz ← positiveRate "heavy_v1.controller_rate_hz" n.controllerRateHz
  let feedbackRateHz ← positiveRate "heavy_v1.feedback_rate_hz" n.feedbackRateHz
  let statusRateHz ← positiveRate "heavy_v1.status_rate_hz" n.statusRateHz
  let commandHoldTimeout ← positiveMilliseconds
    "heavy_v1.command_hold_timeout_ms" n.commandHoldTimeoutMs
  let feedbackFaultTimeout ← positiveMilliseconds
    "heavy_v1.feedback_fault_timeout_ms" n.feedbackFaultTimeoutMs
  let workspaceStatusTimeout ← positiveMilliseconds
    "heavy_v1.workspace_status_timeout_ms" n.workspaceStatusTimeoutMs
  let executionLeaseTimeout ← positiveMilliseconds
    "heavy_v1.execution_lease_timeout_ms" n.executionLeaseTimeoutMs
  let startupFeedbackGrace ← positiveMilliseconds
    "heavy_v1.startup_feedback_grace_ms" n.startupFeedbackGraceMs
  let controllerAckTimeout ← positiveMilliseconds
    "heavy_v1.controller_ack_timeout_ms" n.controllerAckTimeoutMs
  let controllerAckRetryInterval ← positiveMilliseconds
    "heavy_v1.controller_ack_retry_interval_ms" n.controllerAckRetryIntervalMs
  let serviceTimeout ← positiveMilliseconds "heavy_v1.service_timeout_ms" n.serviceTimeoutMs
  let liftEnableTimeout ← positiveMilliseconds
    "heavy_v1.lift_enable_timeout_ms" n.liftEnableTimeoutMs
  let armMaxVelocityRadS ← positiveRate "heavy_v1.arm_max_velocity_rad_s" n.armMaxVelocityRadS
  let armMaxAccelerationRadS2 ← positiveRate
    "heavy_v1.arm_max_acceleration_rad_s2" n.armMaxAccelerationRadS2
  let liftMaxVelocityMps ← positiveRate "heavy_v1.lift_max_velocity_mps" n.liftMaxVelocityMps
  let liftMaxAccelerationMps2 ← positiveRate
    "heavy_v1.lift_max_acceleration_mps2" n.liftMaxAccelerationMps2
  let brakeLockVelocityThresholdMps ← positiveRate
    "heavy_v1.brake_lock_velocity_threshold_mps" n.brakeLockVelocityThresholdMps
  if liftMaxVelocityMps.1 < brakeLockVelocityThresholdMps.1 then
    throw "heavy_v1.brake_lock_velocity_threshold_mps exceeds lift maximum velocity"
  if hRetry : controllerAckTimeout.1 ≤ controllerAckRetryInterval.1 then
    throw ("heavy_v1.controller_ack_retry_interval_ms must be less than " ++
      "heavy_v1.controller_ack_timeout_ms")
  else
  let liftMinPositionM ← finiteOr "heavy_v1 lift position limits must be finite and ordered"
    n.liftMinPositionM
  let liftMaxPositionM ← finiteOr "heavy_v1 lift position limits must be finite and ordered"
    n.liftMaxPositionM
  if hLimits : liftMaxPositionM ≤ liftMinPositionM then
    throw "heavy_v1 lift position limits must be finite and ordered"
  else
  if liftMinPositionM < -1 ∨ 0 < liftMaxPositionM ∨ 60 / 1000 < liftMaxVelocityMps.1 ∨
      10 / 100 < liftMaxAccelerationMps2.1 then
    throw "heavy_v1 lift limits exceed the native lift controller safety limits"
  let liftPositionToleranceM ← finiteOr
    "heavy_v1.lift_position_tolerance_m must be finite and in [0, 0.01]" n.liftPositionToleranceM
  if hTolerance : liftPositionToleranceM < 0 ∨ 1 / 100 < liftPositionToleranceM then
    throw "heavy_v1.lift_position_tolerance_m must be finite and in [0, 0.01]"
  else
  let liftOnlyArmHoldPositionToleranceRad ← finiteOr
    "heavy_v1.lift_only_arm_hold_position_tolerance_rad must be in (0, 0.01]"
    n.liftOnlyArmHoldPositionToleranceRad
  if liftOnlyArmHoldPositionToleranceRad ≤ 0 ∨ 1 / 100 < liftOnlyArmHoldPositionToleranceRad then
    throw "heavy_v1.lift_only_arm_hold_position_tolerance_rad must be in (0, 0.01]"
  if hNames : n.armNativeNames.length ≠ 14 ∨ n.liftNativeName = "" then
    throw "heavy_v1 requires 14 arm_native_names and one lift name"
  else
  return {
    commandRateHz := commandRateHz.1
    controllerRateHz := controllerRateHz.1
    feedbackRateHz := feedbackRateHz.1
    statusRateHz := statusRateHz.1
    commandHoldTimeout := commandHoldTimeout.1
    feedbackFaultTimeout := feedbackFaultTimeout.1
    workspaceStatusTimeout := workspaceStatusTimeout.1
    executionLeaseTimeout := executionLeaseTimeout.1
    startupFeedbackGrace := startupFeedbackGrace.1
    controllerAckTimeout := controllerAckTimeout.1
    controllerAckRetryInterval := controllerAckRetryInterval.1
    serviceTimeout := serviceTimeout.1
    liftEnableTimeout := liftEnableTimeout.1
    armMaxVelocityRadS := armMaxVelocityRadS.1
    armMaxAccelerationRadS2 := armMaxAccelerationRadS2.1
    liftMinPositionM := liftMinPositionM
    liftMaxPositionM := liftMaxPositionM
    liftPositionToleranceM := liftPositionToleranceM
    liftMaxVelocityMps := liftMaxVelocityMps.1
    liftMaxAccelerationMps2 := liftMaxAccelerationMps2.1
    allowLiftOnlyFollow := n.allowLiftOnlyFollow
    liftOnlyArmHoldPositionToleranceRad := liftOnlyArmHoldPositionToleranceRad
    brakeLockVelocityThresholdMps := brakeLockVelocityThresholdMps.1
    armNativeNames := n.armNativeNames
    liftNativeName := n.liftNativeName
    heavyLiftBrakeNativeService := n.heavyLiftBrakeNativeService
    executionLeaseTimeout_pos := executionLeaseTimeout.2
    feedbackFaultTimeout_pos := feedbackFaultTimeout.2
    ackRetryInterval_lt := lt_of_not_ge hRetry
    liftLimits_lt := lt_of_not_ge hLimits
    liftMaxVelocity_nonneg := liftMaxVelocityMps.2.le
    liftMaxAcceleration_nonneg := liftMaxAccelerationMps2.2.le
    liftPositionTolerance_nonneg := le_of_not_gt fun h => hTolerance (Or.inl h)
    armNativeNames_length := not_ne_iff.mp fun h => hNames (Or.inl h)
    liftNativeName_ne := fun h => hNames (Or.inr h) }

/-- The parameters of a node that only names its native lift brake service. -/
def defaultParameters : Parameters where
  commandRateHz := 100
  controllerRateHz := 100
  feedbackRateHz := 100
  statusRateHz := 10
  commandHoldTimeout := millis 100
  feedbackFaultTimeout := millis 300
  workspaceStatusTimeout := millis 3000
  executionLeaseTimeout := millis 500
  startupFeedbackGrace := millis 2000
  controllerAckTimeout := millis 200
  controllerAckRetryInterval := millis 50
  serviceTimeout := millis 5000
  liftEnableTimeout := millis 1000
  armMaxVelocityRadS := 3 / 10
  armMaxAccelerationRadS2 := 1
  liftMinPositionM := -1
  liftMaxPositionM := 0
  liftPositionToleranceM := 2 / 1000
  liftMaxVelocityMps := 60 / 1000
  liftMaxAccelerationMps2 := 10 / 100
  allowLiftOnlyFollow := false
  liftOnlyArmHoldPositionToleranceRad := 1 / 1000
  brakeLockVelocityThresholdMps := 1 / 1000
  armNativeNames :=
    ["ljoint1", "ljoint2", "ljoint3", "ljoint4", "ljoint5", "ljoint6", "ljoint7",
      "rjoint1", "rjoint2", "rjoint3", "rjoint4", "rjoint5", "rjoint6", "rjoint7"]
  liftNativeName := "joint_motor"
  heavyLiftBrakeNativeService := "/lift_brake_command"
  executionLeaseTimeout_pos := by decide
  feedbackFaultTimeout_pos := by decide
  ackRetryInterval_lt := by decide
  liftLimits_lt := by decide +kernel
  liftMaxVelocity_nonneg := by decide +kernel
  liftMaxAcceleration_nonneg := by decide +kernel
  liftPositionTolerance_nonneg := by decide +kernel
  armNativeNames_length := by decide
  liftNativeName_ne := by decide

example : configureParameters { heavyLiftBrakeNativeService := "/lift_brake_command" } =
    .ok defaultParameters := by
  decide +kernel

end JointController
