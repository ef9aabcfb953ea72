import JointController.Lift.Cycle
import Mathlib.Tactic.NormNum

/-!
# The lift controller as a state machine

The callbacks, the activation and the control cycle of the lift controller, in any order.  Each of
them is one step, and the control cycle runs only while the controller is active.

* `Event`: a callback, a change of the activation or a control cycle.
* `LiftController.step`: the step of an event.
* `LiftController.Unsequenced`: the native buffers hold no Heavy command.
* `CallbackCase`, `callback_cases`: what a callback does.
* `KeepsHeavy`, `keepsHeavy_step`: what the native callbacks leave alone.
* `KeepsLoop`, `keepsLoop_step`: what all callbacks leave alone.
* `activate_cases`: the outcomes of an activation.
* `immediateGenerator`, `defaultParameters`, `standing`, `readyReport`: a lift to run.
-/

namespace JointController

namespace Lift

open LiftController (JointControlRequest DriverReport StateInterfaces)

/-- What happens to the lift controller. -/
inductive Event where
  | jog (velocity : Double)
  | stream (message : JointTrajectoryPoint)
  | trajectory (message : JointTrajectory)
  | command (request : JointControlRequest)
  | stop
  | hold
  | driverStatus (now : ℕ) (report : DriverReport)
  | heavyCommand (message : Command)
  | leaseGate (data : Bool)
  | activate (state : StateInterfaces)
  | deactivate (state : StateInterfaces)
  | update (input : UpdateInput)
  deriving DecidableEq

/-- The event comes from the native interfaces or the drive: it is no delivery on a Heavy topic and
no change of the activation. -/
def Event.native : Event → Bool
  | jog _ | stream _ | trajectory _ | command _ | stop | hold | driverStatus _ _ => true
  | heavyCommand _ | leaseGate _ | activate _ | deactivate _ | update _ => false

/-- The event is a callback: it is no change of the activation and no control cycle. -/
def Event.callback : Event → Bool
  | jog _ | stream _ | trajectory _ | command _ | stop | hold | driverStatus _ _ | heavyCommand _
  | leaseGate _ => true
  | activate _ | deactivate _ | update _ => false

theorem Event.callback_of_native {e : Event} (h : e.native = true) : e.callback = true := by
  cases e with
  | heavyCommand | leaseGate | activate | deactivate | update => cases h
  | _ => rfl

namespace LiftController

variable {otg : TrajectoryGenerator} (p : LiftParameters) (c : LiftController otg)

/-- The step of an event. -/
def step : Event → Option (LiftController otg)
  | .jog velocity => some (c.jogCallback p velocity)
  | .stream message => some (c.streamCallback p message)
  | .trajectory message => some (c.trajectoryCallback p message)
  | .command request => some (c.commandService p request).2
  | .stop => some (c.stopService p).2
  | .hold => some (c.holdService p).2
  | .driverStatus now report => some (c.driverStatusCallback now report)
  | .heavyCommand message => some (c.heavyCommandCallback p message).2
  | .leaseGate data => some (c.leaseGateCallback data)
  | .activate state => if c.inbox.active then none else some (c.onActivate p state)
  | .deactivate state => if c.inbox.active then some (c.onDeactivate p state) else none
  | .update input => if c.inbox.active then some (c.update p input).controller else none

/-! ## The callbacks -/

/-- What a callback does. -/
inductive CallbackCase (p : LiftParameters) (c : LiftController otg) :
    Event → LiftController otg → Prop
  /-- It is refused. -/
  | refused (e : Event) : CallbackCase p c e c
  /-- A native command is published. -/
  | command (e : Event) (command : MotionCommand) (htype : command.type ≠ .trajectory)
      (hsequence : command.heavySequence = 0) : CallbackCase p c e (c.enqueueCommand command)
  | trajectory (message : JointTrajectory) (hpoints : message.points.all (acceptsPoint p) = true) :
      CallbackCase p c (.trajectory message) { c with
        inbox := { c.inbox with motionGeneration := c.inbox.nextMotionGeneration }
        trajectories := { c.trajectories with
          pending := some message
          pendingGeneration := c.inbox.nextMotionGeneration } }
  /-- A STOP or a HOLD is published, and its cancellation may be applied at once. -/
  | safety (e : Event) (command : MotionCommand)
      (htype : command.type = .softStop ∨ command.type = .hold)
      (hsequence : command.heavySequence = 0) (applied : ℕ) :
      CallbackCase p c e { c.enqueueSafetyCommand command with
        appliedCancellationGeneration := applied }
  /-- A report of the drive, of which the first zero generation is adopted. -/
  | report (now : ℕ) (report : DriverReport) (driver : DriverStatus) (applied : ℕ)
      (happlied : c.driver.zeroGenerationValid = true → applied = c.appliedZeroGeneration) :
      CallbackCase p c (.driverStatus now report) { c with
        driver := driver
        appliedZeroGeneration := applied }
  /-- The target of a Heavy command is rejected. -/
  | admits (message : Command) :
      CallbackCase p c (.heavyCommand message) (c.admitSequence message.sequence)
  | heavy (message : Command) (command : MotionCommand)
      (htarget : heavyTarget p message = some command) :
      CallbackCase p c (.heavyCommand message)
        ((c.admitSequence message.sequence).publishHeavy command)
  | gate (data : Bool) (sequence applied : ℕ) :
      CallbackCase p c (.leaseGate data) { c with
        inbox := { c.inbox with heavyLeaseActive := data, admittedHeavySequence := sequence }
        appliedHeavySequence := applied }

variable {e : Event} {c' : LiftController otg}

theorem callback_cases (he : e.callback = true) (h : c.step p e = some c') :
    CallbackCase p c e c' := by
  cases e with
  | jog velocity =>
    obtain rfl := Option.some_inj.mp h
    unfold jogCallback jogCommand
    split
    · exact .refused _
    · refine .command _ _ ?_ rfl
      dsimp only
      split_ifs <;> rintro ⟨⟩
  | stream message =>
    obtain rfl := Option.some_inj.mp h
    unfold streamCallback
    split
    · exact .refused _
    · split
      · exact .refused _
      · exact .command _ _ (by rintro ⟨⟩) rfl
  | trajectory message =>
    obtain rfl := Option.some_inj.mp h
    unfold trajectoryCallback
    split
    · exact .refused _
    · rename_i haccepted
      exact .trajectory message
        (not_not.mp fun hno => haccepted (Or.inr (Or.inr (Or.inr hno))))
  | command request =>
    obtain rfl := Option.some_inj.mp h
    unfold commandService
    split
    · exact .refused _
    · split
      · exact .refused _
      · split
        · split
          · exact .refused _
          · exact .command _ _ (by rintro ⟨⟩) rfl
        · exact .refused _
  | stop =>
    obtain rfl := Option.some_inj.mp h
    have hstop (applied : ℕ) := CallbackCase.safety (p := p) (c := c) .stop { type := .softStop }
      (Or.inl rfl) rfl applied
    unfold stopService
    dsimp only
    split
    · exact hstop _
    · split
      · exact hstop _
      · exact hstop _
  | hold =>
    obtain rfl := Option.some_inj.mp h
    have hhold (applied : ℕ) := CallbackCase.safety (p := p) (c := c) .hold
      { type := .hold, positionM := c.snapshot.measuredPosition } (Or.inr rfl) rfl applied
    unfold holdService
    dsimp only
    split
    · exact .refused _
    · split
      · exact hhold _
      · exact hhold _
  | driverStatus now report =>
    obtain rfl := Option.some_inj.mp h
    unfold driverStatusCallback
    dsimp only
    split
    · exact .report now report _ _ fun _ => rfl
    · exact .report now report _ _ fun hvalid => if_pos hvalid
  | heavyCommand message =>
    obtain rfl := Option.some_inj.mp h
    unfold heavyCommandCallback
    split
    · exact .refused _
    · dsimp only
      split
      · exact .admits message
      · rename_i command htarget
        exact .heavy message command htarget
  | leaseGate data =>
    obtain rfl := Option.some_inj.mp h
    unfold leaseGateCallback
    split
    · rename_i hdata
      subst hdata
      exact .gate true _ _
    · rename_i hdata
      obtain rfl := eq_false_of_ne_true hdata
      exact .gate false _ _
  | activate state => cases he
  | deactivate state => cases he
  | update input => cases he

/-! ## The native callbacks and the Heavy commands -/

/-- The buffers of the native commands hold no command with a Heavy sequence. -/
def Unsequenced : Prop :=
  c.inbox.commandBuffer.heavySequence = 0 ∧ c.inbox.safetyCommandBuffer.heavySequence = 0

/-- The Heavy commands, the lease gate and the brake gate stay as they are, and the generations
only grow. -/
structure KeepsHeavy (c c' : LiftController otg) : Prop where
  buffer : c'.inbox.heavyCommandBuffer = c.inbox.heavyCommandBuffer
  generation : c'.inbox.heavyCommandGeneration = c.inbox.heavyCommandGeneration
  leaseActive : c'.inbox.heavyLeaseActive = c.inbox.heavyLeaseActive
  active : c'.inbox.active = c.inbox.active
  consumed : c'.consumedHeavyCommandGeneration = c.consumedHeavyCommandGeneration
  waits : ∀ command, c'.Waits command → c.Waits command
  motion : c.inbox.motionGeneration ≤ c'.inbox.motionGeneration
  unsequenced : c.Unsequenced → c'.Unsequenced

theorem KeepsHeavy.refl : KeepsHeavy c c :=
  ⟨rfl, rfl, rfl, rfl, rfl, fun _ hw => hw, le_rfl, id⟩

theorem KeepsHeavy.trans {c c' c'' : LiftController otg} (h : KeepsHeavy c c')
    (h' : KeepsHeavy c' c'') : KeepsHeavy c c'' where
  buffer := h'.buffer.trans h.buffer
  generation := h'.generation.trans h.generation
  leaseActive := h'.leaseActive.trans h.leaseActive
  active := h'.active.trans h.active
  consumed := h'.consumed.trans h.consumed
  waits command hw := h.waits command (h'.waits command hw)
  motion := h.motion.trans h'.motion
  unsequenced := h'.unsequenced ∘ h.unsequenced

theorem KeepsCommands.keepsHeavy {c c' : LiftController otg} (h : KeepsCommands c c') :
    KeepsHeavy c c' where
  buffer := by rw [h.inbox]
  generation := by rw [h.inbox]
  leaseActive := by rw [h.inbox]
  active := by rw [h.inbox]
  consumed := h.consumedHeavy
  waits := h.waits
  motion := by rw [h.inbox]
  unsequenced hu := by
    unfold Unsequenced
    rw [h.inbox]
    exact hu

theorem keepsHeavy_enqueueCommand {command : MotionCommand} (h : command.heavySequence = 0) :
    KeepsHeavy c (c.enqueueCommand command) :=
  ⟨rfl, rfl, rfl, rfl, rfl, fun _ hw => hw, Nat.le_succ _, fun hu => ⟨h, hu.2⟩⟩

theorem keepsHeavy_enqueueSafetyCommand {command : MotionCommand} (h : command.heavySequence = 0) :
    KeepsHeavy c (c.enqueueSafetyCommand command) := by
  have hcancel := keepsCommands_cancelPendingTrajectory c c.inbox.nextMotionGeneration
  refine hcancel.keepsHeavy.trans ?_
  exact ⟨rfl, rfl, rfl, rfl, rfl, fun _ hw => hw, Nat.le_succ _, fun hu => ⟨hu.1, h⟩⟩

/-- No native callback touches a Heavy command, the lease gate or the brake gate. -/
theorem keepsHeavy_step (he : e.native = true) (h : c.step p e = some c') : KeepsHeavy c c' := by
  cases callback_cases p c (Event.callback_of_native he) h with
  | refused => exact .refl c
  | command _ command _ hsequence => exact keepsHeavy_enqueueCommand c hsequence
  | trajectory => exact ⟨rfl, rfl, rfl, rfl, rfl, fun _ hw => hw, Nat.le_succ _, id⟩
  | safety _ command _ hsequence => exact { keepsHeavy_enqueueSafetyCommand c hsequence with }
  | report => exact ⟨rfl, rfl, rfl, rfl, rfl, fun _ hw => hw, le_rfl, id⟩
  | admits => cases he
  | heavy => cases he
  | gate => cases he

/-! ## The callbacks and the control loop -/

/-- What only the control loop and the activation write stays as it is. -/
structure KeepsLoop (c c' : LiftController otg) : Prop where
  active : c'.inbox.active = c.inbox.active
  mode : c'.mode = c.mode
  gateStableSince : c'.gateStableSince = c.gateStableSince
  gatedCommand : c'.gatedCommand = c.gatedCommand
  gatedCommandValid : c'.gatedCommandValid = c.gatedCommandValid
  profile : c'.profile = c.profile
  commandSample : c'.commandSample = c.commandSample
  interfaces : c'.interfaces = c.interfaces
  powerEnableRequested : c'.powerEnableRequested = c.powerEnableRequested
  activeTrajectory : c'.trajectories.active = c.trajectories.active
  activeGeneration : c'.trajectories.activeGeneration = c.trajectories.activeGeneration
  consumed : c'.consumedGeneration = c.consumedGeneration
  consumedSafety : c'.consumedSafetyCommandGeneration = c.consumedSafetyCommandGeneration
  consumedHeavy : c'.consumedHeavyCommandGeneration = c.consumedHeavyCommandGeneration

theorem keepsLoop_enqueueSafetyCommand (command : MotionCommand) :
    KeepsLoop c (c.enqueueSafetyCommand command) := by
  unfold enqueueSafetyCommand cancelPendingTrajectory
  dsimp only
  split_ifs <;> exact ⟨rfl, rfl, rfl, rfl, rfl, rfl, rfl, rfl, rfl, rfl, rfl, rfl, rfl, rfl⟩

/-- No callback touches what the control loop writes. -/
theorem keepsLoop_step (he : e.callback = true) (h : c.step p e = some c') : KeepsLoop c c' := by
  cases callback_cases p c he h with
  | safety _ command => exact { keepsLoop_enqueueSafetyCommand c command with }
  | _ => exact ⟨rfl, rfl, rfl, rfl, rfl, rfl, rfl, rfl, rfl, rfl, rfl, rfl, rfl, rfl⟩

/-! ## Activation -/

/-- A controller that is active after `on_activate` rests in HOLD, with nothing left to do. -/
structure Fresh (c : LiftController otg) : Prop where
  mode : c.mode = .hold
  gatedCommandValid : c.gatedCommandValid = false
  cancelled : c.inbox.cancellationGeneration = c.inbox.motionGeneration
  consumed : c.consumedGeneration = c.inbox.commandGeneration
  consumedSafety : c.consumedSafetyCommandGeneration = c.inbox.safetyCommandGeneration
  consumedHeavy : c.consumedHeavyCommandGeneration = c.inbox.heavyCommandGeneration
  pending : c.trajectories.pending = none
  activeTrajectory : c.trajectories.active = none

/-- An activation leaves a fresh controller, or fails and leaves it inactive. -/
theorem activate_cases {c' : LiftController otg} {state : StateInterfaces}
    (h : c.step p (.activate state) = some c') :
    (c'.inbox.active = true ∧ Fresh c') ∨
      (c'.inbox.active = false ∧ c' = { c with
        measuredPositionM := state.position
        measuredVelocityMps := state.velocity }) := by
  dsimp only [step] at h
  split_ifs at h with hactive
  obtain rfl := Option.some_inj.mp h
  unfold onActivate
  dsimp only
  split
  · exact Or.inr ⟨eq_false_of_ne_true hactive, rfl⟩
  · exact Or.inl ⟨rfl, rfl, rfl, rfl, rfl, rfl, rfl, rfl, rfl⟩

theorem deactivate_inactive {c' : LiftController otg} {state : StateInterfaces}
    (h : c.step p (.deactivate state) = some c') : c'.inbox.active = false := by
  dsimp only [step] at h
  split_ifs at h
  obtain rfl := Option.some_inj.mp h
  rfl

theorem update_of_step {c' : LiftController otg} {input : UpdateInput}
    (h : c.step p (.update input) = some c') :
    c.inbox.active = true ∧ c' = (c.update p input).controller := by
  dsimp only [step] at h
  split_ifs at h with hactive
  exact ⟨hactive, (Option.some_inj.mp h).symm⟩

end LiftController

/-! ## A lift to run -/

/-- A generator that is at its target at once. -/
def immediateGenerator : TrajectoryGenerator where
  Memory := Unit
  initial := ()
  reset := id
  update _ _ input := (.finished, ⟨input.targetPosition, 0, 0, 0⟩, ())
  sqrt := id

/-- The parameters of `lift_hardware.yaml`. -/
def defaultParameters : LiftParameters where
  limits :=
    { minPositionM := -1
      maxPositionM := 0
      maxVelocityMps := 60 / 1000
      maxAccelerationMps2 := 33333333 / 10 ^ 9
      maxJerkMps3 := 4 / 10
      defaultVelocityScale := 8 / 10
      position_lt := by norm_num
      maxVelocity_pos := by norm_num
      maxAcceleration_pos := by norm_num
      maxJerk_pos := by norm_num
      defaultVelocityScale_pos := by norm_num
      defaultVelocityScale_le := by norm_num }
  jogTimeoutSec := 45 / 100
  brakeGateStableSec := 1 / 10
  driverStatusTimeoutSec := 2
  targetStableSec := 1
  goalToleranceM := 1 / 1000
  stationaryVelocityMps := 1 / 1000
  jogTimeoutSec_pos := by norm_num
  brakeGateStableSec_ge := by norm_num
  driverStatusTimeoutSec_pos := by norm_num
  targetStableSec_nonneg := by norm_num
  goalToleranceM_pos := by norm_num
  stationaryVelocityMps_pos := by norm_num

/-- The lift stands at its zero. -/
def standing : LiftController.StateInterfaces := ⟨0, 0, .finite 1⟩

/-- The report of a drive that is ready for motion. -/
def readyReport : LiftController.DriverReport where
  feedbackFresh := true
  pdoFresh := true
  ethercatOperational := true
  linkOperational := true
  workingCounterOk := true
  operationEnabled := true
  brakeUnlockedInferred := true
  brakeUnlocked := true
  estopLatched := false
  motionBlocked := false
  quickStopActive := false
  errorCode := 0
  mode := 9
  modeDisplay := some 9
  zeroGeneration := none

end Lift

end JointController
