import JointController.Lift.Callbacks

/-!
# The control cycle of the lift

`LiftController::update`, one function for each of its stages, in the order of the source.

* `readStateInterfaces`, `nonFiniteFault`, `estopCycle`, `leaveEstop`: what is checked first.
* `observeLeaseGate`, `takeTrajectory`, `selectCommand`, `isNew`: the intake of commands.
* `execute`: the command of the cycle is acted on.
* `checkDriverGate`, `runMode`, `checkSample`, `finishSoftStop`, `checkGoal`: the modes.
* `acknowledge`: the acknowledgements of the Heavy commands.
* `update`: the cycle, with the commands that it has acted on and released from the brake gate.
-/

namespace JointController

namespace Lift

open LiftController (StateInterfaces longerThan atLeast streamSample)

/-- What a cycle reads from outside: the state interfaces, the clock, the period in seconds, and
whether `trajectory_mutex_` is free. -/
structure UpdateInput where
  state : StateInterfaces
  now : ℕ
  period : ℚ
  trajectoryLock : Bool
  deriving DecidableEq

/-- `dt`. -/
def UpdateInput.dt (i : UpdateInput) : ℚ := if 0 < i.period then i.period else 1 / 100

/-- The buffer that the command of a cycle is read from. -/
inductive Source where
  | safety | heavy | native
  deriving DecidableEq

/-- The command that a cycle has read, `buffered`, with the buffer. -/
structure Selection where
  source : Source
  command : MotionCommand
  deriving DecidableEq

/-- The outcome of a cycle: the controller, whether the cycle returns `OK`, the acknowledgements
that it publishes, the new command that it has acted on and the command that it has released from
the brake gate. -/
structure CycleResult (otg : TrajectoryGenerator) where
  controller : LiftController otg
  ok : Bool
  acks : List ℕ
  executed : Option Selection
  started : Option MotionCommand

namespace LiftController

variable {otg : TrajectoryGenerator} (p : LiftParameters) (i : UpdateInput)
  (c : LiftController otg)

/-! ## The checks at the start of a cycle -/

/-- The state interfaces are read. -/
def readStateInterfaces : LiftController otg :=
  { c with
    measuredPositionM := i.state.position
    measuredVelocityMps := i.state.velocity
    powerEnabledState :=
      i.state.powerEnabled.isFinite && decide (Double.finite (1 / 2) ≤ i.state.powerEnabled)
    snapshot := { c.snapshot with
      measuredPosition := i.state.position
      measuredVelocity := i.state.velocity } }

/-- The fault `non_finite_state_interfaces`. -/
def nonFiniteFault : LiftController otg :=
  let c := { (c.failPendingHold .motionProfile) with
    mode := .fault
    powerEnableRequested := false
    commandSample := ⟨0, 0, 0, 0, true, false⟩ }
  c.writeCommandInterfaces p c.commandSample

/-- The pending trajectory is dropped if its mutex is free. -/
def dropPendingTrajectory : LiftController otg :=
  if i.trajectoryLock then
    { c with trajectories := { c.trajectories with
      pending := none
      consumedGeneration := c.trajectories.pendingGeneration } }
  else c

/-- A cycle while the emergency stop is latched. -/
def estopCycle : LiftController otg :=
  let c := { c with
    mode := .estop
    gatedCommandValid := false
    trajectories := { c.trajectories with active := none } }
  let c := c.dropPendingTrajectory i
  let profile := c.profile.hold p.limits c.measuredPositionM
  let c := { c with
    consumedGeneration := c.inbox.commandGeneration
    profile := profile
    commandSample := profile.state
    powerEnableRequested := false }
  c.writeCommandInterfaces p c.commandSample

/-- The first cycle after a safety reset waits in HOLD for a new command. -/
def leaveEstop : LiftController otg :=
  if c.mode = .estop then
    let c := { c with consumedGeneration := c.inbox.commandGeneration }
    c.enterHold p c.measuredPositionM
  else c

/-! ## The intake of commands -/

/-- The closing edge of the lease gate marks the last Heavy command as consumed. -/
def observeLeaseGate : LiftController otg :=
  { c with
    consumedHeavyCommandGeneration :=
      if ¬ c.inbox.heavyLeaseActive ∧ c.heavyLeaseActiveRt then c.inbox.heavyCommandGeneration
      else c.consumedHeavyCommandGeneration
    heavyLeaseActiveRt := c.inbox.heavyLeaseActive }

/-- The pending trajectory, if it is new and no safety command has cancelled it. -/
def newTrajectory : Option JointTrajectory :=
  if i.trajectoryLock ∧
      c.trajectories.consumedGeneration ≠ c.trajectories.pendingGeneration ∧
      c.inbox.cancellationGeneration < c.trajectories.pendingGeneration then
    c.trajectories.pending
  else none

/-- A new trajectory is taken over and waits in the brake gate. -/
def beginTrajectory (trajectory : JointTrajectory) : LiftController otg :=
  let c := { c with trajectories := { c.trajectories with
    active := some trajectory
    consumedGeneration := c.trajectories.pendingGeneration
    activeGeneration := c.trajectories.pendingGeneration
    pointIndex := 0
    elapsedSec := 0
    waitingAtPoint := false } }
  c.beginBrakeGate p i.now { type := .trajectory }

/-- While the Heavy lease is active every native command counts as consumed. -/
def discardNative : LiftController otg :=
  let c := { c with
    consumedGeneration := c.inbox.commandGeneration
    trajectories := { c.trajectories with active := none, activeGeneration := 0 } }
  c.dropPendingTrajectory i

/-- The intake of trajectories. -/
def takeTrajectory : LiftController otg :=
  if c.inbox.heavyLeaseActive then c.discardNative i
  else match c.newTrajectory i with
  | some trajectory => c.beginTrajectory p i trajectory
  | none => c

/-- The choice of the buffer: safety commands come first, then the commands of the source that the
lease gate selects. -/
def selectCommand : Option Selection × LiftController otg :=
  if c.inbox.safetyCommandGeneration ≠ c.consumedSafetyCommandGeneration then
    (some ⟨.safety, c.inbox.safetyCommandBuffer⟩,
      { c with consumedSafetyCommandGeneration := c.inbox.safetyCommandGeneration })
  else if c.inbox.heavyLeaseActive then
    if c.inbox.heavyCommandGeneration ≠ c.consumedHeavyCommandGeneration then
      (some ⟨.heavy, c.inbox.heavyCommandBuffer⟩,
        { c with consumedHeavyCommandGeneration := c.inbox.heavyCommandGeneration })
    else (none, c)
  else (some ⟨.native, c.inbox.commandBuffer⟩, c)

/-- `buffered_is_new`. -/
def isNew (s : Selection) : Bool :=
  s.command.generation != 0 &&
    (s.source == .safety || decide (c.inbox.cancellationGeneration < s.command.generation)) &&
    (s.source != .native || s.command.generation != c.consumedGeneration)

/-! ## The command of the cycle -/

/-- A safety command has cancelled every trajectory. -/
def applyCancellation (generation : ℕ) : LiftController otg :=
  let c := c.cancelPendingTrajectory generation
  { c with
    trajectories := { c.trajectories with active := none, activeGeneration := 0 }
    appliedCancellationGeneration := generation }

/-- The lift stands still in HOLD. -/
def standsInHold : Bool :=
  c.mode == .hold && decide (c.measuredVelocityMps.abs ≤ .finite p.stationaryVelocityMps) &&
    decide (c.commandSample.velocityMps.abs ≤ .finite p.stationaryVelocityMps)

/-- A STOP or HOLD command is executed. -/
def executeStop (s : Selection) : LiftController otg :=
  let safety : Bool := s.source == .safety
  let c := if safety then c.applyCancellation s.command.generation else c
  if c.standsInHold p then
    if s.command.type = .hold then
      let c := { c with pendingHoldGeneration := if safety then s.command.generation else 0 }
      c.enterHold p (if safety then c.measuredPositionM else s.command.positionM)
    else (c.enterHold p c.measuredPositionM).requestBrake false
  else if s.command.type = .hold then
    c.beginSoftStop p .holdPowered (if safety then s.command.generation else 0)
  else c.beginSoftStop p .disable 0

/-- A jog command changes the velocity of the jog that is under way. -/
def executeJog (command : MotionCommand) : LiftController otg :=
  let target := c.profile.setVelocityTarget p.limits command.velocityMps command.velocityScale
  if target.1 then { c with profile := target.2, lastJogCommandTime := i.now }
  else { c with
    mode := .fault
    profile := target.2.hold p.limits c.measuredPositionM
    powerEnableRequested := false }

/-- The new command of the cycle is acted on, and whether it is a streamed setpoint. -/
def execute (s : Selection) : Bool × LiftController otg :=
  let command := s.command
  let c := if s.source = .native then { c with consumedGeneration := command.generation } else c
  if command.type = .softStop ∨ command.type = .hold then (false, c.executeStop p s)
  else if c.mode = .brakeGate ∧ command.type ≠ .none then
    -- the samples of a jog or a stream do not restart the stability window
    (false, { c with
      gatedCommand := command
      gatedCommandValid := true
      lastJogCommandTime := if command.type = .jog then i.now else c.lastJogCommandTime })
  else if command.type = .jog ∧ c.mode = .jog ∧ c.driverGateReady p i.now then
    (false, c.executeJog p i command)
  else if command.type = .stream ∧ c.mode = .streaming ∧ c.driverGateReady p i.now then
    (true, { c with commandSample := streamSample command })
  else if command.type ≠ .none then
    let c := { c with trajectories := { c.trajectories with
      active := none
      activeGeneration := 0 } }
    (false, c.beginBrakeGate p i.now command)
  else (false, c)

/-! ## The mode of the cycle -/

/-- The fault `gate_lost_during_motion`. -/
def checkDriverGate : LiftController otg :=
  if c.mode ≠ .hold ∧ c.mode ≠ .brakeGate ∧ c.mode ≠ .estop ∧ ¬ c.driverGateReady p i.now ∧
      c.powerEnableRequested then
    let c := c.failPendingHold .driverGate
    { c with
      mode := .fault
      gatedCommandValid := false
      trajectories := { c.trajectories with active := none }
      profile := c.profile.hold p.limits c.measuredPositionM
      powerEnableRequested := false }
  else c

/-- The profile computes the next sample. -/
def advanceProfile : LiftController otg :=
  let profile := c.profile.update p.limits (.finite i.dt)
  { c with profile := profile, commandSample := profile.state }

/-- The last sample of the profile. -/
def showProfile : LiftController otg := { c with commandSample := c.profile.state }

/-- `jog_gate_timed_out`. -/
def jogGateTimedOut : Bool :=
  c.gatedCommandValid && c.gatedCommand.type == .jog && c.lastJogCommandTime != 0 &&
    decide (longerThan i.now c.lastJogCommandTime p.jogTimeoutSec)

/-- The driver gate has been ready for the whole stability window. -/
def gateStable : Bool :=
  c.gateStableSince != 0 && decide (atLeast i.now c.gateStableSince p.brakeGateStableSec)

/-- The command that `start_gated_motion` starts. -/
def released : Option MotionCommand :=
  if c.gatedCommandValid ∧ ¬ c.driver.estopLatched then some c.gatedCommand else none

/-- The outcome of the mode: the command released from the brake gate, whether a streamed setpoint
has been selected, and the controller. -/
structure ModeResult (otg : TrajectoryGenerator) where
  started : Option MotionCommand
  streamSelected : Bool
  controller : LiftController otg

/-- A cycle in the brake gate. -/
def brakeGateCycle (streamSelected : Bool) : ModeResult otg :=
  if c.jogGateTimedOut p i then
    ⟨none, streamSelected, (c.beginSoftStop p .disable 0).advanceProfile p i⟩
  else if c.driverGateReady p i.now then
    if c.gateStableSince = 0 then
      ⟨none, streamSelected, { c with gateStableSince := i.now }.showProfile⟩
    else if c.gateStable p i then
      let started := c.startGatedMotion p i.now
      ⟨c.released, started.mode == .streaming,
        if started.mode = .brakeGate then started.showProfile else started⟩
    else ⟨none, streamSelected, c.showProfile⟩
  else
    ⟨none, streamSelected,
      { c with gateStableSince := 0, powerEnableRequested := true }.showProfile⟩

/-- The time of the active point of the trajectory. -/
def pointTime : ℚ :=
  ((c.trajectories.active.bind fun t => t.points[c.trajectories.pointIndex]?).map
    JointTrajectoryPoint.timeFromStart).getD 0

/-- The number of points of the active trajectory. -/
def pointCount : ℕ := (c.trajectories.active.map fun t => t.points.length).getD 0

/-- The next point of the trajectory is started, after the last one the lift waits at it. -/
def nextTrajectoryPoint : LiftController otg :=
  let index := c.trajectories.pointIndex + 1
  if index < c.pointCount then
    let start := { c with trajectories := { c.trajectories with
      pointIndex := index } }.startTrajectoryPoint p index
    if start.1 then start.2 else start.2.beginSoftStop p .disable 0
  else { c with trajectories := { c.trajectories with waitingAtPoint := true } }

/-- A cycle of a trajectory. -/
def trajectoryCycle : LiftController otg :=
  let c := { c with trajectories := { c.trajectories with
    elapsedSec := c.trajectories.elapsedSec + i.dt } }
  let c := c.advanceProfile p i
  if c.commandSample.finished ∧ c.pointTime ≤ c.trajectories.elapsedSec + 1 / 10 ^ 9 then
    c.nextTrajectoryPoint p
  else c

/-- A cycle outside the brake gate. -/
def motionCycle : LiftController otg :=
  if c.mode = .jog ∧ longerThan i.now c.lastJogCommandTime p.jogTimeoutSec then
    (c.beginSoftStop p .disable 0).advanceProfile p i
  else if c.mode = .trajectory ∧ c.trajectories.active.isSome then c.trajectoryCycle p i
  else if c.mode = .position ∨ c.mode = .jog ∨ c.mode = .softStop then c.advanceProfile p i
  else if c.mode = .streaming then c
  else c.showProfile

/-- The mode computes the sample of the cycle. -/
def runMode (streamSelected : Bool) : ModeResult otg :=
  if c.mode = .brakeGate then c.brakeGateCycle p i streamSelected
  else ⟨none, streamSelected, c.motionCycle p i⟩

/-- The fault `ruckig_rejected_state`. -/
def checkSample : LiftController otg :=
  if c.commandSample.valid then c
  else
    let c := c.failPendingHold .motionProfile
    let profile := c.profile.hold p.limits c.measuredPositionM
    { c with
      mode := .fault
      profile := profile
      commandSample := profile.state
      powerEnableRequested := false }

/-- The end of a soft stop. -/
def finishSoftStop : LiftController otg :=
  if c.mode = .softStop ∧ c.commandSample.finished ∧
      c.commandSample.velocityMps.abs ≤ .finite p.stationaryVelocityMps ∧
      c.commandSample.accelerationMps2.abs ≤ .finite (1 / 10 ^ 9) then
    let c := c.enterHold p c.measuredPositionM
    if c.softStopCompletion = .disable then c.requestBrake false else c
  else c

/-- The lift is at the target of a position move or of the last trajectory point. -/
def atGoal : Bool :=
  (c.mode == .position || c.mode == .trajectory && c.trajectories.waitingAtPoint) &&
    decide ((c.profile.targetPositionM - c.measuredPositionM).abs ≤ .finite p.goalToleranceM) &&
    decide (c.measuredVelocityMps.abs ≤ .finite p.stationaryVelocityMps) &&
    decide (c.commandSample.velocityMps.abs ≤ .finite p.stationaryVelocityMps)

/-- A goal that has been stable for long enough ends in HOLD. -/
def checkGoal : LiftController otg :=
  if ¬ c.atGoal p then { c with goalStableActive := false }
  else if ¬ c.goalStableActive then { c with goalStableActive := true, goalStableSince := i.now }
  else if atLeast i.now c.goalStableSince p.targetStableSec then
    let target := c.profile.targetPositionM
    { c with trajectories := { c.trajectories with active := none } }.enterHold p target
  else c

/-! ## The acknowledgements -/

/-- A consumed Heavy command is acknowledged at once, or waits for the stream to be under way. -/
def acknowledgeConsumed (s : Option Selection) : List ℕ × LiftController otg :=
  match s with
  | some ⟨.heavy, command⟩ =>
    if command.heavySequence = 0 then ([], c)
    else if command.type = .stream then
      ([], { c with pendingHeavyFollowAckSequence := command.heavySequence })
    else ([command.heavySequence], { c with appliedHeavySequence := command.heavySequence })
  | _ => ([], c)

/-- The pending acknowledgement of a FOLLOW is published once the stream is under way. -/
def acknowledgeFollow (streamSelected : Bool) : List ℕ × LiftController otg :=
  if c.pendingHeavyFollowAckSequence ≠ 0 ∧ c.mode = .streaming ∧ c.driverGateReady p i.now ∧
      streamSelected then
    ([c.pendingHeavyFollowAckSequence],
      { c with
        appliedHeavySequence := c.pendingHeavyFollowAckSequence
        pendingHeavyFollowAckSequence := 0 })
  else ([], c)

/-! ## The cycle -/

/-- The command intake of a cycle. -/
def intake : LiftController otg := ((c.leaveEstop p).observeLeaseGate).takeTrajectory p i

/-- The new command of the cycle, if there is one. -/
def newCommand : Option Selection :=
  c.selectCommand.1.filter c.selectCommand.2.isNew

/-- The controller after the command of the cycle, and whether that is a streamed setpoint. -/
def dispatch : Bool × LiftController otg :=
  match c.newCommand with
  | some s => c.selectCommand.2.execute p i s
  | none => (false, c.selectCommand.2)

/-- What follows the mode of a cycle, up to the acknowledgements. -/
def finishCycle : LiftController otg :=
  let c := (((c.checkSample p).finishSoftStop p).checkGoal p i).applyZeroFrameResync p
  (c.writeCommandInterfaces p c.commandSample).confirmPendingHold p

/-- The rest of a cycle, after the intake. -/
def runCycle : CycleResult otg :=
  let dispatched := c.dispatch p i
  let ran := (dispatched.2.checkDriverGate p i).runMode p i dispatched.1
  let consumed := (ran.controller.finishCycle p i).acknowledgeConsumed c.selectCommand.1
  let follow := consumed.2.acknowledgeFollow p i ran.streamSelected
  { controller := follow.2
    ok := true
    acks := consumed.1 ++ follow.1
    executed := c.newCommand
    started := ran.started }

/-- `update`. -/
def update : CycleResult otg :=
  let c := c.readStateInterfaces i
  if ¬ i.state.finite then ⟨c.nonFiniteFault p, false, [], none, none⟩
  else if c.driver.estopLatched then ⟨c.estopCycle p i, true, [], none, none⟩
  else (c.intake p i).runCycle p i

end LiftController

end Lift

end JointController
