import JointController.Lift.State

/-!
# Motions of the lift

The member functions with which the control loop of the lift changes its mode.

* `enterHold`, `beginSoftStop`, `beginBrakeGate`, `startGatedMotion`: the mode changes.
* `applyZeroFrameResync`: the setpoint is seated again after a re-zero.
* `confirmPendingHold`, `failPendingHold`: the outcome of a HOLD request.
* `LiftController.waiting`: the command that waits behind the brake gate, and what each of these
  functions does to it.
-/

namespace JointController

namespace Lift

namespace LiftController

variable {otg : TrajectoryGenerator} (p : LiftParameters) (c : LiftController otg) (now : ℕ)

/-! ## The functions of the source -/

/-- `request_brake`. -/
def requestBrake (enable : Bool) : LiftController otg := { c with powerEnableRequested := enable }

/-- `write_command_interfaces`. -/
def writeCommandInterfaces (sample : LiftMotionSample) : LiftController otg :=
  let finite : Bool := sample.positionM.isFinite && sample.velocityMps.isFinite &&
    sample.accelerationMps2.isFinite
  let velocity := if finite then sample.velocityMps else 0
  let acceleration := if finite then sample.accelerationMps2 else 0
  { c with
    interfaces :=
      { position :=
          if finite then p.limits.clampPosition sample.positionM else c.measuredPositionM
        velocity := velocity
        acceleration := acceleration
        powerEnable := c.powerEnableRequested }
    snapshot := { c.snapshot with
      commandVelocity := velocity
      commandAcceleration := acceleration
      mode := c.mode
      trajectoryActive := c.mode == .trajectory && c.trajectories.active.isSome
      gatedCommandActive := c.gatedCommandValid } }

/-- `enter_hold`. -/
def enterHold (position : Double) : LiftController otg :=
  let profile := c.profile.hold p.limits (p.limits.clampPosition position)
  { c with
    profile := profile
    commandSample := profile.state
    mode := .hold
    goalStableActive := false }

/-- `begin_soft_stop`. -/
def beginSoftStop (completion : SoftStopCompletion) (holdGeneration : ℕ) : LiftController otg :=
  { c with
    gatedCommandValid := false
    trajectories := { c.trajectories with
      active := none
      activeGeneration := 0
      waitingAtPoint := false }
    profile := c.profile.requestSoftStop p.limits
    mode := .softStop
    softStopCompletion := completion
    pendingHoldGeneration := holdGeneration
    goalStableActive := false }

/-- `begin_brake_gate`. -/
def beginBrakeGate (command : MotionCommand) : LiftController otg :=
  let profile := c.profile.reset p.limits c.measuredPositionM 0 0
  { c with
    gatedCommand := command
    gatedCommandValid := true
    mode := .brakeGate
    profile := profile
    commandSample := profile.state
    gateStableSince := 0
    goalStableActive := false
    lastJogCommandTime := if command.type = .jog then now else c.lastJogCommandTime
    powerEnableRequested := true }

/-- `start_trajectory_point`, and whether it has accepted the point. -/
def startTrajectoryPoint (index : ℕ) : Bool × LiftController otg :=
  match c.trajectories.active.bind fun trajectory => trajectory.points[index]? with
  | none => (false, c)
  | some point =>
    let target := c.profile.setPositionTarget p.limits (point.positions.headD 0)
      (point.velocities.headD 0) (point.accelerations.headD 0)
      (.finite p.limits.defaultVelocityScale) 0
    (target.1,
      { c with
        trajectories := { c.trajectories with waitingAtPoint := false }
        profile := target.2 })

/-- The sample that a streamed setpoint asks for. -/
def streamSample (command : MotionCommand) : LiftMotionSample :=
  ⟨command.positionM, command.velocityMps, command.accelerationMps2, 0, false, true⟩

/-- `start_gated_motion`, when a command waits and no emergency stop is latched. -/
def startGatedCommand (command : MotionCommand) : LiftController otg :=
  let c := { c with gatedCommandValid := false }
  match command.type with
  | .position =>
    { c with
      profile := (c.profile.setPositionTarget p.limits command.positionM 0 0 command.velocityScale
        command.accelerationLimitMps2).2
      mode := .position }
  | .trajectory =>
    let c := { c with trajectories := { c.trajectories with
      elapsedSec := 0
      pointIndex := 0
      waitingAtPoint := false } }
    let start := c.startTrajectoryPoint p 0
    if start.1 then { start.2 with mode := .trajectory }
    else start.2.beginSoftStop p .disable 0
  | .jog =>
    { c with
      profile := (c.profile.setVelocityTarget p.limits command.velocityMps
        command.velocityScale).2
      lastJogCommandTime := now
      mode := .jog }
  | .stream => { c with commandSample := streamSample command, mode := .streaming }
  | _ => c.enterHold p c.measuredPositionM

/-- `start_gated_motion`. -/
def startGatedMotion : LiftController otg :=
  if ¬ c.gatedCommandValid ∨ c.driver.estopLatched then c
  else c.startGatedCommand p now c.gatedCommand

/-- The controller on a new zero frame: the command state is seated on the measured position, and a
latched fault or emergency stop stays latched. -/
def reseat (measured : Double) : LiftController otg :=
  let profile := c.profile.hold p.limits measured
  { c with
    trajectories := { c.trajectories with active := none }
    gatedCommandValid := false
    pendingHoldGeneration := 0
    goalStableActive := false
    profile := profile
    commandSample := profile.state
    mode := if c.mode = .fault ∨ c.mode = .estop then c.mode else .hold
    zeroResyncTotal := c.zeroResyncTotal + 1 }

/-- `apply_zero_frame_resync`. -/
def applyZeroFrameResync : LiftController otg :=
  if ¬ c.driver.zeroGenerationValid ∨ c.driver.zeroGeneration = c.appliedZeroGeneration then c
  else
    let c := { c with appliedZeroGeneration := c.driver.zeroGeneration }
    let measured := p.limits.clampPosition c.measuredPositionM
    if measured.isFinite then c.reseat p measured else c

/-- `fail_pending_hold`. -/
def failPendingHold (stage : HoldFailureStage) : LiftController otg :=
  if c.pendingHoldGeneration = 0 then c
  else { c with
    holdFailureStage := stage
    failedHoldGeneration := c.pendingHoldGeneration
    pendingHoldGeneration := 0 }

/-- `confirm_pending_hold`. -/
def confirmPendingHold : LiftController otg :=
  if c.pendingHoldGeneration = 0 ∨ c.mode ≠ .hold then c
  else if c.driver.estopLatched ∨ c.driver.motionBlocked ∨ c.driver.quickStop ∨
      c.driver.errorCode ≠ 0 then c.failPendingHold .driverGate
  else if .finite p.stationaryVelocityMps < c.measuredVelocityMps.abs ∨
      .finite p.stationaryVelocityMps < c.commandSample.velocityMps.abs ∨
      .finite (1 / 10 ^ 9) < c.commandSample.accelerationMps2.abs then c
  else if c.powerEnabledState ∧ (¬ c.driver.operationEnabled ∨ ¬ c.driver.brakeUnlocked) then c
  else { c with
    completedHoldGeneration := c.pendingHoldGeneration
    holdFailureStage := .none
    pendingHoldGeneration := 0 }

/-- `cancel_pending_trajectory`. -/
def cancelPendingTrajectory (generation : ℕ) : LiftController otg :=
  if c.trajectories.pendingGeneration ≤ generation then
    { c with trajectories := { c.trajectories with
      pending := none
      consumedGeneration := c.trajectories.pendingGeneration } }
  else c

/-! ## The brake gate and the intake -/

/-- A command waits behind the brake gate. -/
def Waits (command : MotionCommand) : Prop :=
  c.mode = .brakeGate ∧ c.gatedCommandValid = true ∧ c.gatedCommand = command

/-- What the callbacks write and what the control loop has consumed of it stay as they are. -/
structure SameIntake (c c' : LiftController otg) : Prop where
  inbox : c'.inbox = c.inbox
  driver : c'.driver = c.driver
  consumedSafety : c'.consumedSafetyCommandGeneration = c.consumedSafetyCommandGeneration
  consumedHeavy : c'.consumedHeavyCommandGeneration = c.consumedHeavyCommandGeneration

/-- The intake stays as it is, and no command joins the brake gate. -/
structure KeepsCommands (c c' : LiftController otg) : Prop extends SameIntake c c' where
  waits : ∀ command, c'.Waits command → c.Waits command

variable {c} {c' c'' : LiftController otg}

theorem SameIntake.trans (h : SameIntake c c') (h' : SameIntake c' c'') : SameIntake c c'' where
  inbox := h'.inbox.trans h.inbox
  driver := h'.driver.trans h.driver
  consumedSafety := h'.consumedSafety.trans h.consumedSafety
  consumedHeavy := h'.consumedHeavy.trans h.consumedHeavy

theorem KeepsCommands.refl (c : LiftController otg) : KeepsCommands c c :=
  ⟨⟨rfl, rfl, rfl, rfl⟩, fun _ h => h⟩

theorem KeepsCommands.trans (h : KeepsCommands c c') (h' : KeepsCommands c' c'') :
    KeepsCommands c c'' :=
  ⟨h.toSameIntake.trans h'.toSameIntake, fun command hw => h.waits command (h'.waits command hw)⟩

theorem not_waits_of_mode (mode : Mode) (h : c.mode = mode)
    (hmode : mode ≠ .brakeGate) (command : MotionCommand) : ¬ c.Waits command :=
  fun hw => hmode (h.symm.trans hw.1)

theorem not_waits_of_invalid (h : c.gatedCommandValid = false)
    (command : MotionCommand) : ¬ c.Waits command :=
  fun hw => Bool.false_ne_true (h.symm.trans hw.2.1)

variable (c)

theorem keepsCommands_requestBrake (enable : Bool) : KeepsCommands c (c.requestBrake enable) :=
  ⟨⟨rfl, rfl, rfl, rfl⟩, fun _ hw => hw⟩

theorem keepsCommands_writeCommandInterfaces (sample : LiftMotionSample) :
    KeepsCommands c (c.writeCommandInterfaces p sample) := ⟨⟨rfl, rfl, rfl, rfl⟩, fun _ hw => hw⟩

theorem keepsCommands_enterHold (position : Double) : KeepsCommands c (c.enterHold p position) :=
  ⟨⟨rfl, rfl, rfl, rfl⟩, fun command hw => absurd hw (not_waits_of_mode .hold rfl nofun command)⟩

theorem keepsCommands_beginSoftStop (completion : SoftStopCompletion) (generation : ℕ) :
    KeepsCommands c (c.beginSoftStop p completion generation) :=
  ⟨⟨rfl, rfl, rfl, rfl⟩, fun command hw => absurd hw (not_waits_of_invalid rfl command)⟩

theorem keepsCommands_startTrajectoryPoint (index : ℕ) :
    KeepsCommands c (c.startTrajectoryPoint p index).2 := by
  unfold startTrajectoryPoint
  split
  · exact .refl c
  · exact ⟨⟨rfl, rfl, rfl, rfl⟩, fun _ hw => hw⟩

theorem keepsCommands_startGatedCommand (command : MotionCommand) :
    KeepsCommands c (c.startGatedCommand p now command) := by
  unfold startGatedCommand
  cases command.type with
  | position =>
    exact ⟨⟨rfl, rfl, rfl, rfl⟩,
      fun command hw => absurd hw (not_waits_of_mode .position rfl nofun command)⟩
  | trajectory =>
    dsimp only
    set taken : LiftController otg := { c with
      gatedCommandValid := false
      trajectories := { c.trajectories with
        elapsedSec := 0, pointIndex := 0, waitingAtPoint := false } } with htaken
    have htake : KeepsCommands c taken :=
      ⟨⟨rfl, rfl, rfl, rfl⟩, fun command hw => absurd hw (not_waits_of_invalid rfl command)⟩
    have hstart := htake.trans (keepsCommands_startTrajectoryPoint p taken 0)
    split_ifs
    · exact ⟨⟨hstart.inbox, hstart.driver, hstart.consumedSafety, hstart.consumedHeavy⟩,
        fun command hw => absurd hw (not_waits_of_mode .trajectory rfl nofun command)⟩
    · exact hstart.trans (keepsCommands_beginSoftStop p _ _ _)
  | jog =>
    exact ⟨⟨rfl, rfl, rfl, rfl⟩,
      fun command hw => absurd hw (not_waits_of_mode .jog rfl nofun command)⟩
  | stream =>
    exact ⟨⟨rfl, rfl, rfl, rfl⟩,
      fun command hw => absurd hw (not_waits_of_mode .streaming rfl nofun command)⟩
  | _ =>
    exact ⟨⟨rfl, rfl, rfl, rfl⟩,
      fun command hw => absurd hw (not_waits_of_mode .hold rfl nofun command)⟩

theorem keepsCommands_startGatedMotion : KeepsCommands c (c.startGatedMotion p now) := by
  unfold startGatedMotion
  split_ifs
  · exact .refl c
  · exact keepsCommands_startGatedCommand p c now c.gatedCommand

theorem keepsCommands_reseat (measured : Double) : KeepsCommands c (c.reseat p measured) :=
  ⟨⟨rfl, rfl, rfl, rfl⟩, fun command hw => absurd hw (not_waits_of_invalid rfl command)⟩

theorem keepsCommands_applyZeroFrameResync : KeepsCommands c (c.applyZeroFrameResync p) := by
  have hadopt : KeepsCommands c { c with appliedZeroGeneration := c.driver.zeroGeneration } :=
    ⟨⟨rfl, rfl, rfl, rfl⟩, fun _ hw => hw⟩
  unfold applyZeroFrameResync
  dsimp only
  split_ifs
  · exact .refl c
  · exact hadopt.trans (keepsCommands_reseat p _ _)
  · exact hadopt

theorem keepsCommands_failPendingHold (stage : HoldFailureStage) :
    KeepsCommands c (c.failPendingHold stage) := by
  unfold failPendingHold
  split_ifs
  · exact .refl c
  · exact ⟨⟨rfl, rfl, rfl, rfl⟩, fun _ hw => hw⟩

theorem keepsCommands_confirmPendingHold : KeepsCommands c (c.confirmPendingHold p) := by
  unfold confirmPendingHold
  split_ifs
  · exact .refl c
  · exact keepsCommands_failPendingHold c .driverGate
  · exact .refl c
  · exact .refl c
  · exact ⟨⟨rfl, rfl, rfl, rfl⟩, fun _ hw => hw⟩

theorem keepsCommands_cancelPendingTrajectory (generation : ℕ) :
    KeepsCommands c (c.cancelPendingTrajectory generation) := by
  unfold cancelPendingTrajectory
  split_ifs
  · exact ⟨⟨rfl, rfl, rfl, rfl⟩, fun _ hw => hw⟩
  · exact .refl c

end LiftController

end Lift

end JointController
