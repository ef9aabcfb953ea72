import JointController.Lift.Motion

/-!
# The callbacks of the lift controller

The topics and services of `LiftController::on_configure`, and the activation.

* `enqueueCommand`, `enqueueSafetyCommand`, `publishHeavy`: a command is numbered, announced and
  put into its buffer.
* `jogCallback`, `streamCallback`, `trajectoryCallback`, `commandService`: the native commands.
* `heavyTarget`, `heavyCommandCallback`: the Heavy commands.
* `leaseGateCallback`, `driverStatusCallback`, `stopService`, `holdService`.
* `onActivate`, `onDeactivate`.
-/

namespace JointController

namespace Lift

/-! ## Publication of a command -/

namespace Inbox

variable (inbox : Inbox)

/-- `next_motion_generation`: the counter is advanced, and its value numbers the next command. -/
def nextMotionGeneration : ℕ := inbox.motionGeneration + 1

/-- The first step of `enqueue_command`: the generation of the command is announced. -/
def announceCommand : Inbox :=
  { inbox with
    motionGeneration := inbox.nextMotionGeneration
    commandGeneration := inbox.nextMotionGeneration }

/-- The second step of `enqueue_command`: the buffer is replaced. -/
def writeCommand (command : MotionCommand) : Inbox := { inbox with commandBuffer := command }

/-- The first step of `enqueue_safety_command`: the generation of the command cancels the older
trajectories and is announced. -/
def announceSafetyCommand : Inbox :=
  { inbox with
    motionGeneration := inbox.nextMotionGeneration
    cancellationGeneration := inbox.nextMotionGeneration
    safetyCommandGeneration := inbox.nextMotionGeneration }

/-- The second step of `enqueue_safety_command`: the buffer is replaced. -/
def writeSafetyCommand (command : MotionCommand) : Inbox :=
  { inbox with safetyCommandBuffer := command }

/-- The first step of the Heavy publication: the generation of the command is announced. -/
def announceHeavyCommand : Inbox :=
  { inbox with
    motionGeneration := inbox.nextMotionGeneration
    heavyCommandGeneration := inbox.nextMotionGeneration }

/-- The second step of the Heavy publication: the buffer is replaced. -/
def writeHeavyCommand (command : MotionCommand) : Inbox :=
  { inbox with heavyCommandBuffer := command }

end Inbox

/-- The answer of a service. -/
structure ServiceResponse where
  accepted : Bool
  message : String
  deriving DecidableEq

namespace LiftController

variable {otg : TrajectoryGenerator} (p : LiftParameters) (c : LiftController otg)

/-- `enqueue_command`. -/
def enqueueCommand (command : MotionCommand) : LiftController otg :=
  let command := { command with generation := c.inbox.nextMotionGeneration }
  { c with inbox := c.inbox.announceCommand.writeCommand command }

/-- `enqueue_safety_command`. -/
def enqueueSafetyCommand (command : MotionCommand) : LiftController otg :=
  let command := { command with generation := c.inbox.nextMotionGeneration }
  let c := c.cancelPendingTrajectory c.inbox.nextMotionGeneration
  { c with inbox := c.inbox.announceSafetyCommand.writeSafetyCommand command }

/-- The end of the Heavy callback: the command is numbered and published. -/
def publishHeavy (command : MotionCommand) : LiftController otg :=
  let command := { command with generation := c.inbox.nextMotionGeneration }
  { c with inbox := c.inbox.announceHeavyCommand.writeHeavyCommand command }

/-! ## Native commands -/

/-- The native topics are closed by an emergency stop and by the Heavy lease. -/
def nativeBlocked : Bool := c.driver.estopLatched || c.inbox.heavyLeaseActive

/-- The command of a message on `jog_topic_`. -/
def jogCommand (velocity : Double) : MotionCommand :=
  { type := if velocity.abs ≤ .finite (1 / 10 ^ 9) then .softStop else .jog
    velocityMps := p.limits.clampVelocity velocity
    velocityScale := .finite 1 }

/-- The callback of `jog_topic_`. -/
def jogCallback (velocity : Double) : LiftController otg :=
  if ¬ velocity.isFinite ∨ c.nativeBlocked then c else c.enqueueCommand (jogCommand p velocity)

/-- The first value of a list if it is finite, else zero. -/
def firstFinite : List Double → Double
  | [] => 0
  | x :: _ => if x.isFinite then x else 0

/-- The callback of `stream_topic_`. -/
def streamCallback (message : JointTrajectoryPoint) : LiftController otg :=
  match message.positions with
  | [] => c
  | position :: _ =>
    if ¬ position.isFinite ∨ c.nativeBlocked then c
    else c.enqueueCommand
      { type := .stream
        positionM := p.limits.clampPosition position
        velocityMps := firstFinite message.velocities
        accelerationMps2 := firstFinite message.accelerations
        velocityScale := .finite p.limits.defaultVelocityScale }

/-- No value, or one that is finite. -/
def optionalFinite : List Double → Bool
  | [] => true
  | [x] => x.isFinite
  | _ => false

/-- The check of a trajectory point. -/
def acceptsPoint (point : JointTrajectoryPoint) : Bool :=
  match point.positions with
  | [position] =>
    position.isFinite && !decide (position < .finite p.limits.minPositionM) &&
      !decide (.finite p.limits.maxPositionM < position) && optionalFinite point.velocities &&
      optionalFinite point.accelerations
  | _ => false

/-- The callback of `trajectory_topic_`. -/
def trajectoryCallback (message : JointTrajectory) : LiftController otg :=
  if message.jointNames ≠ [jointName] ∨ message.points = [] ∨ c.nativeBlocked ∨
      ¬ message.points.all (acceptsPoint p) then c
  else { c with
    inbox := { c.inbox with motionGeneration := c.inbox.nextMotionGeneration }
    trajectories := { c.trajectories with
      pending := some message
      pendingGeneration := c.inbox.nextMotionGeneration } }

/-- The request of `SelectedJointControl`. -/
structure JointControlRequest where
  jointNames : List String
  values : List Double
  relative : Bool
  vel : Double
  acc : Double
  deriving DecidableEq

/-- The position that a request asks for, before it is clamped. -/
def requestedTarget (relative : Bool) (value : Double) : Double :=
  if relative then c.snapshot.measuredPosition + value else value

/-- The command of an accepted request of `command_service_`. -/
def positionCommand (request : JointControlRequest) (target : Double) : MotionCommand :=
  { type := .position
    positionM := p.limits.clampPosition target
    velocityScale :=
      if 0 < request.vel then
        (request.vel * .finite p.limits.maxVelocityMps⁻¹).clamp (.finite (1 / 100)) (.finite 1)
      else .finite p.limits.defaultVelocityScale
    accelerationLimitMps2 :=
      if 0 < request.acc then request.acc.min (.finite p.limits.maxAccelerationMps2)
      else .finite p.limits.maxAccelerationMps2 }

/-- `command_service_`. -/
def commandService (request : JointControlRequest) : ServiceResponse × LiftController otg :=
  if c.inbox.heavyLeaseActive then
    (⟨false, "lift command rejected: Heavy V1 execution lease is active"⟩, c)
  else if c.driver.estopLatched then
    (⟨false, "lift command rejected: emergency stop is latched"⟩, c)
  else match request.jointNames, request.values with
  | [name], [value] =>
    if name ≠ jointName ∨ ¬ value.isFinite ∨ ¬ request.vel.isFinite ∨ ¬ request.acc.isFinite then
      (⟨false, "expected one finite joint_motor target"⟩, c)
    else
      let target := c.requestedTarget request.relative value
      let command := positionCommand p request target
      (⟨true,
        if command.positionM ≤ target ∧ target ≤ command.positionM then "lift command accepted"
        else "lift command clamped to software travel"⟩,
        c.enqueueCommand command)
  | _, _ => (⟨false, "expected one finite joint_motor target"⟩, c)

/-! ## Heavy commands -/

/-- The lift is the first resource of a command. -/
def liftResource : Fin 15 := 0

/-- A value of the lift, or zero when its field is not provided. -/
def provided (message : Command) (field : UInt8) (values : Resources Double) : Double :=
  if message.has field then values liftResource else 0

/-- The check of a Heavy FOLLOW target. -/
def acceptsFollow (message : Command) : Bool :=
  let position := message.position liftResource
  let velocity := provided message Command.fieldVelocity message.velocity
  let acceleration := provided message Command.fieldAcceleration message.acceleration
  message.has Command.fieldPosition && position.isFinite &&
    !decide (position < .finite p.limits.minPositionM) &&
    !decide (.finite p.limits.maxPositionM < position) &&
    velocity.isFinite && !decide (.finite p.limits.maxVelocityMps < velocity.abs) &&
    acceleration.isFinite && !decide (.finite p.limits.maxAccelerationMps2 < acceleration.abs)

/-- The check of a Heavy HOLD target. -/
def acceptsHold (message : Command) : Bool :=
  message.has Command.fieldPosition && (message.position liftResource).isFinite

/-- The command of a Heavy message, if its target is accepted. -/
def heavyTarget (message : Command) : Option MotionCommand :=
  if message.mode = Command.modeFollowPosition then
    if acceptsFollow p message then
      some
        { type := .stream
          positionM := message.position liftResource
          velocityMps := provided message Command.fieldVelocity message.velocity
          accelerationMps2 := provided message Command.fieldAcceleration message.acceleration
          velocityScale := .finite p.limits.defaultVelocityScale
          heavySequence := message.sequence }
    else none
  else if message.mode = Command.modeStop then
    some { type := .softStop, heavySequence := message.sequence }
  else if message.mode = Command.modeHold then
    if acceptsHold message then
      some
        { type := .hold
          positionM := p.limits.clampPosition (message.position liftResource)
          heavySequence := message.sequence }
    else none
  else none

/-- The sequence of a message is noted as admitted, also when its target is rejected then. -/
def admitSequence (sequence : ℕ) : LiftController otg :=
  { c with inbox := { c.inbox with admittedHeavySequence := sequence } }

/-- The callback of the accepted commands, and the acknowledgement that it publishes. -/
def heavyCommandCallback (message : Command) : Option ℕ × LiftController otg :=
  if message.sequence ≤ c.inbox.admittedHeavySequence then
    -- a retransmission of the generation that the control loop has applied is acknowledged again
    (if message.sequence = c.appliedHeavySequence then some message.sequence else none, c)
  else
    let c := c.admitSequence message.sequence
    match heavyTarget p message with
    | none => (none, c)
    | some command => (none, c.publishHeavy command)

/-- The callback of the accepted commands puts a message into the buffer. -/
def takesHeavy (message : Command) : Bool :=
  decide (c.inbox.admittedHeavySequence < message.sequence) && (heavyTarget p message).isSome

/-- The callback of the lease gate: a closed gate forgets the sequences of the lease. -/
def leaseGateCallback (data : Bool) : LiftController otg :=
  if data then { c with inbox := { c.inbox with heavyLeaseActive := true } }
  else { c with
    inbox := { c.inbox with heavyLeaseActive := false, admittedHeavySequence := 0 }
    appliedHeavySequence := 0 }

/-! ## Safety services -/

/-- The callback of `/joint/lift/stop`.  Without a response the handler waits until the control loop
has applied the cancellation, for a second at most. -/
def stopService : Option ServiceResponse × LiftController otg :=
  let generation := c.inbox.nextMotionGeneration
  let c := c.enqueueSafetyCommand { type := .softStop }
  if ¬ c.inbox.active then
    (some ⟨true, "stage=inactive: lift controller is stopped; STOP is already fail-safe"⟩, c)
  else if c.holdSnapshotIsSafe p ∧ ¬ c.powerEnableRequested then
    (some ⟨true, "stage=idempotent: lift already stopped; old trajectory invalidated"⟩,
      { c with appliedCancellationGeneration := generation })
  else (none, c)

/-- The callback of `/joint/lift/hold`.  Without a response the handler waits until the control loop
has completed or failed the HOLD, for four seconds at most. -/
def holdService : Option ServiceResponse × LiftController otg :=
  if ¬ c.inbox.active then
    (some ⟨true, "stage=inactive: lift controller is stopped; HOLD is already fail-safe"⟩, c)
  else
    let generation := c.inbox.nextMotionGeneration
    let c := c.enqueueSafetyCommand
      { type := .hold, positionM := c.snapshot.measuredPosition }
    if c.holdSnapshotIsSafe p then
      (some ⟨true, "stage=idempotent: lift already in safe HOLD; old trajectory invalidated"⟩,
        { c with appliedCancellationGeneration := generation })
    else (none, c)

/-! ## Reports of the drive -/

/-- What `on_driver_status` finds in the text of a report. -/
structure DriverReport where
  feedbackFresh : Bool
  pdoFresh : Bool
  ethercatOperational : Bool
  linkOperational : Bool
  workingCounterOk : Bool
  operationEnabled : Bool
  brakeUnlockedInferred : Bool
  brakeUnlocked : Bool
  estopLatched : Bool
  motionBlocked : Bool
  quickStopActive : Bool
  errorCode : ℤ
  mode : ℤ
  modeDisplay : Option ℤ
  zeroGeneration : Option ℤ
  deriving DecidableEq

/-- `on_driver_status`. -/
def driverStatusCallback (now : ℕ) (report : DriverReport) : LiftController otg :=
  let driver : DriverStatus := { c.driver with
    feedbackFresh := report.feedbackFresh || report.pdoFresh
    ethercatOperational := report.ethercatOperational || report.linkOperational
    workingCounterOk := report.workingCounterOk
    operationEnabled := report.operationEnabled
    brakeUnlocked := report.brakeUnlockedInferred || report.brakeUnlocked
    estopLatched := report.estopLatched
    motionBlocked := report.motionBlocked
    quickStop := report.quickStopActive
    errorCode := (report.errorCode % 2 ^ 16).toNat
    modeDisplay := (report.modeDisplay.getD report.mode).bmod (2 ^ 8)
    statusNs := now }
  match report.zeroGeneration with
  | none => { c with driver := driver }
  | some reported =>
    let generation := (reported % 2 ^ 64).toNat
    { c with
      driver := { driver with zeroGeneration := generation, zeroGenerationValid := true }
      -- the first observation only adopts the frame
      appliedZeroGeneration :=
        if c.driver.zeroGenerationValid then c.appliedZeroGeneration else generation }

/-! ## Activation -/

/-- The values of the state interfaces. -/
structure StateInterfaces where
  position : Double
  velocity : Double
  powerEnabled : Double
  deriving DecidableEq

/-- All three values are finite. -/
def StateInterfaces.finite (i : StateInterfaces) : Bool :=
  i.position.isFinite && i.velocity.isFinite && i.powerEnabled.isFinite

theorem StateInterfaces.position_of_finite {i : StateInterfaces} (h : i.finite = true) :
    i.position.isFinite = true := by
  unfold StateInterfaces.finite at h
  simp only [Bool.and_eq_true] at h
  exact h.1.1

/-- `on_activate`, which fails on values that are not finite. -/
def onActivate (i : StateInterfaces) : LiftController otg :=
  let c := { c with measuredPositionM := i.position, measuredVelocityMps := i.velocity }
  if ¬ i.finite then c
  else
    let profile := c.profile.reset p.limits i.position 0 0
    let c := { c with
      powerEnabledState := decide (Double.finite (1 / 2) ≤ i.powerEnabled)
      powerEnableRequested := false
      profile := profile
      snapshot := { c.snapshot with
        measuredPosition := i.position
        measuredVelocity := i.velocity }
      commandSample := profile.state }
    -- the interfaces are written before the mode of the last activation is left
    let c := c.writeCommandInterfaces p profile.state
    { c with
      inbox := { c.inbox with
        cancellationGeneration := c.inbox.motionGeneration
        active := true }
      consumedGeneration := c.inbox.commandGeneration
      consumedSafetyCommandGeneration := c.inbox.safetyCommandGeneration
      consumedHeavyCommandGeneration := c.inbox.heavyCommandGeneration
      heavyLeaseActiveRt := false
      trajectories := { c.trajectories with
        pending := none
        active := none
        consumedGeneration := c.trajectories.pendingGeneration
        activeGeneration := 0 }
      gatedCommandValid := false
      mode := .hold
      softStopCompletion := .disable
      pendingHoldGeneration := 0
      appliedCancellationGeneration := c.inbox.motionGeneration
      goalStableActive := false }

/-- `on_deactivate`. -/
def onDeactivate (i : StateInterfaces) : LiftController otg :=
  let profile := c.profile.hold p.limits (if i.position.isFinite then i.position else 0)
  let c := { c with
    inbox := { c.inbox with active := false, heavyLeaseActive := false }
    consumedHeavyCommandGeneration := c.inbox.heavyCommandGeneration
    heavyLeaseActiveRt := false
    powerEnableRequested := false
    measuredPositionM := i.position
    profile := profile }
  c.writeCommandInterfaces p profile.state

end LiftController

end Lift

end JointController
