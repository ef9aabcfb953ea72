import JointController.Gateway.State
import JointController.Library.Checks

/-!
# Readiness and admission checks of the Heavy gateway

The checks that the gateway makes on its cached feedback before it grants a lease, enables the
lift or admits a command.  A check that fails gives the reason the source writes.

* `isFresh`, `workspaceReadyLocked`, `feedbackReadyLocked`, `liftEnableReadyLocked`,
  `liftPowerEnabledLocked`, `controllerEndpointsReadyLocked`.
* `Rejection`: why a command is not admitted, with the text of the source.
* `validateCommandLocked`: the admission check, as the identity of the command, its fields, the
  aligned HOLD and the readiness of what it is sent to.
* `validateCommandLocked_eq_ok`: it passes when the four parts do.
-/

namespace JointController

/-! ## Feedback -/

/-- `isFresh`: a sample has arrived, at most `timeout` ago. -/
def isFresh (received : Bool) (stamp now timeout : ℕ) : Bool :=
  received && stamp != 0 && decide (stamp ≤ now) && decide (now - stamp ≤ timeout)

/-- `workspaceReadyLocked`. -/
def workspaceReadyLocked (p : Parameters) (f : FeedbackCache) (now : ℕ) : Except String Unit :=
  if ¬ isFresh f.workspaceReceived f.workspaceTime now p.workspaceStatusTimeout then
    .error "workspace status unavailable or stale"
  else if ¬ f.workspaceStatus.accepted ∨ f.workspaceStatus.state ≠ .running then
    .error "workspace is not RUNNING"
  else if ¬ isFresh f.controlModeReceived f.controlModeTime now p.feedbackFaultTimeout ∨
      f.controlModeStatus.activeMode ≠ .position ∨
      ¬ f.controlModeStatus.positionCommandReady then
    .error "arm POSITION control mode is not ready"
  else .ok ()

/-- `jointFeedbackCompleteLocked`. -/
def jointFeedbackCompleteLocked (p : Parameters) (f : FeedbackCache) (now : ℕ) : Bool :=
  isFresh f.joints.armReceived f.joints.armTime now p.feedbackFaultTimeout &&
  (f.joints.positionValidMask &&& armResourceMask) == armResourceMask &&
  (f.joints.velocityValidMask &&& armResourceMask) == armResourceMask &&
  isFresh f.joints.liftReceived f.joints.liftTime now p.feedbackFaultTimeout &&
  (f.joints.positionValidMask &&& liftResourceMask) != 0 &&
  (f.joints.velocityValidMask &&& liftResourceMask) != 0

/-- `feedbackReadyLocked`. -/
def feedbackReadyLocked (p : Parameters) (f : FeedbackCache) (now : ℕ) : Except String Unit :=
  if ¬ jointFeedbackCompleteLocked p f now then
    .error "joint position or velocity feedback is incomplete or stale"
  else if ¬ isFresh f.armPowerReceived f.armPowerTime now p.feedbackFaultTimeout ∨
      f.armPower.enabled.length ≠ 14 ∨ f.armPower.statusCodes.length ≠ 14 then
    .error "arm power feedback is incomplete or stale"
  else if ¬ isFresh f.liftStatusReceived f.liftStatusTime now p.feedbackFaultTimeout ∨
      ¬ f.liftStatus.valid ∨ ¬ f.liftStatus.feedbackFresh then
    .error "lift drive feedback is invalid or stale"
  else .ok ()

/-- The lift is stopped by its emergency stop, its motion latch or a drive error. -/
def LiftStatus.blocked (s : LiftStatus) : Bool :=
  s.estop || s.motionBlocked || s.errorCode != 0

/-- `liftEnableReadyLocked`. -/
def liftEnableReadyLocked (p : Parameters) (f : FeedbackCache) (now : ℕ) : Except String Unit := do
  workspaceReadyLocked p f now
  feedbackReadyLocked p f now
  Checks.refuse f.liftStatus.blocked
    "lift is blocked by an emergency stop, motion latch, or drive error"

/-- `liftPowerEnabledLocked`. -/
def liftPowerEnabledLocked (p : Parameters) (f : FeedbackCache) (now : ℕ) : Bool :=
  isFresh f.liftStatusReceived f.liftStatusTime now p.feedbackFaultTimeout &&
  f.liftStatus.valid && f.liftStatus.feedbackFresh &&
  f.liftStatus.ethercatOperational && f.liftStatus.workingCounterOk &&
  f.liftStatus.initialized && f.liftStatus.commandEnabled && f.liftStatus.enabled &&
  f.liftStatus.brakeUnlocked && f.liftStatus.cia402State == "operation_enabled" &&
  !f.liftStatus.blocked

/-- `controllerEndpointsReadyLocked`. -/
def controllerEndpointsReadyLocked (f : FeedbackCache) : Except String Unit :=
  if f.endpoints.commandSubscriptions < 2 ∨ f.endpoints.armAckPublishers < 1 ∨
      f.endpoints.liftAckPublishers < 1 then
    .error ("lower controller Heavy endpoints are not ready: command_subscriptions=" ++
      toString f.endpoints.commandSubscriptions ++ "/2 arm_ack_publishers=" ++
      toString f.endpoints.armAckPublishers ++ "/1 lift_ack_publishers=" ++
      toString f.endpoints.liftAckPublishers ++ "/1")
  else .ok ()

/-! ## Admission -/

/-- Why `validateCommandLocked` does not admit a command. -/
inductive Rejection where
  | protocolVersion
  | layoutCrc
  | ownerOrLease
  | mode
  | fieldMask
  | positionRequired
  | nonFinitePosition : Fin 15 → Rejection
  | nonFiniteVelocity : Fin 15 → Rejection
  | nonFiniteAcceleration : Fin 15 → Rejection
  | velocityLimit : Fin 15 → (value limit : Double) → Rejection
  | accelerationLimit : Fin 15 → (value limit : Double) → Rejection
  | liftTravel : (target min max tolerance feedback : Double) → (sequence : ℕ) → Rejection
  | alignedHold
  | notReady : String → Rejection
  | armDrives
  | armHold : String → Rejection
  | liftBlocked
  | brakeService
  | liftPower
  deriving DecidableEq

/-- The reason the source writes; `show` prints a number. -/
def Rejection.text (print : Double → String) : Rejection → String
  | protocolVersion => "protocol version mismatch"
  | layoutCrc => "layout CRC mismatch"
  | ownerOrLease => "owner or lease mismatch"
  | mode => "unsupported command mode"
  | fieldMask => "unsupported field mask"
  | positionRequired => "HOLD and FOLLOW_POSITION require position field"
  | nonFinitePosition i => "non-finite position at resource " ++ toString i
  | nonFiniteVelocity i => "non-finite velocity at resource " ++ toString i
  | nonFiniteAcceleration i => "non-finite acceleration at resource " ++ toString i
  | velocityLimit i value limit => "velocity exceeds resource limit at resource " ++ toString i ++
      ": value=" ++ print value ++ " limit=" ++ print limit
  | accelerationLimit i value limit => "acceleration exceeds resource limit at resource " ++
      toString i ++ ": value=" ++ print value ++ " limit=" ++ print limit
  | liftTravel target min max tolerance feedback sequence =>
      "lift position exceeds software travel: target=" ++ print target ++ " min=" ++ print min ++
      " max=" ++ print max ++ " tolerance=" ++ print tolerance ++ " feedback=" ++
      print feedback ++ " sequence=" ++ toString sequence
  | alignedHold => "aligned HOLD has not been confirmed"
  | notReady reason => reason
  | armDrives => "FOLLOW_POSITION requires all 14 arm drives enabled"
  | armHold reason => "lift-only FOLLOW_POSITION requires safe arm hold: " ++ reason
  | liftBlocked => "FOLLOW_POSITION requires an unblocked lift drive"
  | brakeService => "FOLLOW_POSITION requires lift brake release, but native lift brake " ++
      "service is not configured"
  | liftPower => "FOLLOW_POSITION requires confirmed Operation Enabled and brake release"

/-- The command names this protocol and the active lease. -/
def validateIdentity (l : LeaseState) (c : Command) : Except Rejection Unit :=
  if c.protocolMajor ≠ protocolMajor ∨ protocolMinor < c.protocolMinor then
    .error .protocolVersion
  else if c.layoutCrc32 ≠ layoutCrc32 then .error .layoutCrc
  else if ¬ l.active ∨ c.ownerId ≠ l.ownerId ∨ c.leaseId ≠ l.leaseId then .error .ownerOrLease
  else .ok ()

/-- One round of the loop over the resources. -/
def validateResource (p : Parameters) (c : Command) (i : Fin 15) : Except Rejection Unit :=
  let velocityLimit : Double :=
    .finite (if i = 0 then p.liftMaxVelocityMps else p.armMaxVelocityRadS)
  let accelerationLimit : Double :=
    .finite (if i = 0 then p.liftMaxAccelerationMps2 else p.armMaxAccelerationRadS2)
  if c.mode ≠ Command.modeStop ∧ c.has Command.fieldPosition ∧ ¬ (c.position i).isFinite then
    .error (.nonFinitePosition i)
  else if c.has Command.fieldVelocity ∧ ¬ (c.velocity i).isFinite then
    .error (.nonFiniteVelocity i)
  else if c.has Command.fieldAcceleration ∧ ¬ (c.acceleration i).isFinite then
    .error (.nonFiniteAcceleration i)
  else if c.mode ≠ Command.modeStop ∧ c.has Command.fieldVelocity ∧
      velocityLimit < (c.velocity i).abs then
    .error (.velocityLimit i (c.velocity i) velocityLimit)
  else if c.mode ≠ Command.modeStop ∧ c.has Command.fieldAcceleration ∧
      accelerationLimit < (c.acceleration i).abs then
    .error (.accelerationLimit i (c.acceleration i) accelerationLimit)
  else .ok ()

/-- The tolerance of the lift travel, which only a HOLD has. -/
def liftTravelTolerance (p : Parameters) (c : Command) : ℚ :=
  if c.mode = Command.modeHold then p.liftPositionToleranceM else 0

/-- The mode, the field mask and the values of a command.  The measured positions are only read
for the text of the travel error. -/
def validateFields (p : Parameters) (joints : JointSnapshot) (c : Command) :
    Except Rejection Unit :=
  let tolerance := liftTravelTolerance p c
  if Command.modeStop < c.mode then .error .mode
  else if c.fieldMask &&& ~~~(Command.fieldPosition ||| Command.fieldVelocity |||
      Command.fieldAcceleration) ≠ 0 then .error .fieldMask
  else if (c.mode = Command.modeHold ∨ c.mode = Command.modeFollowPosition) ∧
      ¬ c.has Command.fieldPosition then .error .positionRequired
  else do
    (List.finRange 15).forM (validateResource p c)
    if c.mode ≠ Command.modeStop ∧ c.has Command.fieldPosition ∧
        (c.position 0 < .finite (p.liftMinPositionM - tolerance) ∨
          .finite (p.liftMaxPositionM + tolerance) < c.position 0) then
      .error (.liftTravel (c.position 0) (.finite p.liftMinPositionM) (.finite p.liftMaxPositionM)
        (.finite tolerance) (joints.position 0) c.sequence)
    else .ok ()

/-- One round of the loop of `armHoldCommandLocked`, for the resource of an arm joint. -/
def validateArmHold (p : Parameters) (joints : JointSnapshot) (c : Command) (i : Fin 14) :
    Except String Unit :=
  let index := armResource i
  if .finite p.liftOnlyArmHoldPositionToleranceRad <
      (c.position index - joints.position index).abs then
    .error ("arm target differs from measured position at resource " ++ toString index)
  else if .finite (1 / 1000000000) < (c.velocity index).abs ∨
      .finite (1 / 1000000000) < (c.acceleration index).abs then
    .error ("arm velocity and acceleration must be zero at resource " ++ toString index)
  else .ok ()

/-- `armHoldCommandLocked`. -/
def armHoldCommandLocked (p : Parameters) (joints : JointSnapshot) (c : Command) :
    Except String Unit :=
  let required := Command.fieldPosition ||| Command.fieldVelocity ||| Command.fieldAcceleration
  if c.fieldMask &&& required ≠ required then
    .error "position, velocity, and acceleration fields are required"
  else (List.finRange 14).forM (validateArmHold p joints c)

/-- All 14 arm drives are enabled. -/
def ArmPowerStatus.allArmEnabled (s : ArmPowerStatus) : Bool :=
  s.allEnabled && s.commandEnabled && s.enabled.length == 14 && s.enabled.all id

/-- What a FOLLOW_POSITION needs of the arm drives: all of them enabled or, where the parameters
allow it, a command that holds the arms. -/
def validateArmDrives (p : Parameters) (f : FeedbackCache) (c : Command) : Except Rejection Unit :=
  if f.armPower.allArmEnabled then .ok ()
  else if ¬ p.allowLiftOnlyFollow then .error .armDrives
  else (armHoldCommandLocked p f.joints c).mapError .armHold

/-- What a FOLLOW_POSITION needs of the drives outside a simulation. -/
def validateDrives (p : Parameters) (f : FeedbackCache) (brakeLocked : Bool) (c : Command)
    (now : ℕ) (allowLiftPowerDisabled : Bool) : Except Rejection Unit := do
  validateArmDrives p f c
  Checks.refuse (f.liftStatus.motionBlocked ∨ f.liftStatus.estop ∨ f.liftStatus.errorCode ≠ 0)
    .liftBlocked
  Checks.refuse (brakeLocked ∧ ¬ p.heavyLiftBrakeClient) .brakeService
  Checks.refuse (¬ allowLiftPowerDisabled ∧ ¬ liftPowerEnabledLocked p f now) .liftPower

/-- The workspace, the feedback and, for a FOLLOW_POSITION outside a simulation, the drives.  In a
simulation no drive is energized, and the check ends before the physical gates. -/
def validateReadiness (p : Parameters) (f : FeedbackCache) (brakeLocked : Bool) (c : Command)
    (now : ℕ) (allowLiftPowerDisabled : Bool) : Except Rejection Unit := do
  (workspaceReadyLocked p f now).mapError .notReady
  (feedbackReadyLocked p f now).mapError .notReady
  if c.mode = Command.modeFollowPosition ∧ f.workspaceStatus.mode ≠ .simulation then
    validateDrives p f brakeLocked c now allowLiftPowerDisabled
  else .ok ()

/-- `validateCommandLocked`. -/
def validateCommandLocked (p : Parameters) (g : Gateway) (c : Command) (now : ℕ)
    (allowLiftPowerDisabled : Bool) : Except Rejection Unit := do
  validateIdentity g.lease c
  validateFields p g.feedback.joints c
  Checks.refuse (c.mode = Command.modeFollowPosition ∧ ¬ g.lease.alignedHold) .alignedHold
  validateReadiness p g.feedback g.brake.locked c now allowLiftPowerDisabled

theorem validateCommandLocked_eq_ok {p : Parameters} {g : Gateway} {c : Command} {now : ℕ}
    {allow : Bool} :
    validateCommandLocked p g c now allow = .ok () ↔
      validateIdentity g.lease c = .ok () ∧ validateFields p g.feedback.joints c = .ok () ∧
        (c.mode = Command.modeFollowPosition → g.lease.alignedHold = true) ∧
        validateReadiness p g.feedback g.brake.locked c now allow = .ok () := by
  simp only [validateCommandLocked, Checks.bind_eq_ok, Checks.refuse_eq_ok, not_and, not_not]

/-- A command is only admitted under an active lease. -/
theorem active_of_validate {p : Parameters} {g : Gateway} {c : Command} {now : ℕ} {allow : Bool}
    (h : validateCommandLocked p g c now allow = .ok ()) : g.lease.active = true := by
  have hidentity := (validateCommandLocked_eq_ok.mp h).1
  simp only [validateIdentity, Checks.guard_eq_ok, not_or, not_not] at hidentity
  exact hidentity.2.2.1.1

end JointController
