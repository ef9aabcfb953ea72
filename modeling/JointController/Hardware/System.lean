import JointController.Library.Runs
import JointController.Hardware.Lifecycle
import JointController.Hardware.Read
import JointController.Hardware.Services
import JointController.Hardware.Write

/-!
# The lift hardware as a system

The control cycle, the lifecycle callbacks and the service thread act on one `LiftHardware`, one
call after the other.  What the backend, the clock and the files say is part of an event.

* `Event`: the calls, with `Event.service` for those of the service thread.
* `handle`: what a call hands to the backend, what it answers and the hardware that it leaves.
* `step`: a call is enabled when its thread is free.
* `writtenFrame`: the frame of a write.
* `bench`: a parameter set for runs on fixed inputs.
-/

namespace JointController

namespace Hardware

/-- The calls of the lift hardware. -/
inductive Event where
  -- the controllers set the command interfaces
  | command (commands : Commands)
  | read (i : ReadInput)
  | write (i : WriteInput)
  | configure (i : ConfigureInput)
  | activate (i : ActivateInput)
  | deactivate
  | brakeCommand (data : Bool)
  | resetVelocity (now : ℕ) (data : Bool)
  | resetHold (now : ℕ) (data : Bool)
  -- /lift_reset_zero and /lift_set_zero_position
  | resetZero (now : ℕ)
  | estop
  | safetyReset (now : ℕ)
  | home (now : ℕ)
  | setDriveZero (now : ℕ)
  -- a maintenance handler looks again
  | maintain (m : LiftHardware.MaintenanceInput)
  -- the status timer
  | publishStatus (now : ℕ) (saveOk : Bool)
  deriving DecidableEq

/-- The calls that the service thread takes when no handler waits. -/
def Event.service : Event → Bool
  | .brakeCommand _ | .resetVelocity _ _ | .resetHold _ _ | .resetZero _ | .estop | .safetyReset _
  | .home _ | .setDriveZero _ | .publishStatus _ _ => true
  | _ => false

/-- The outcome of a call: the frames that are handed to the backend, the answer of a service and
the hardware. -/
structure Outcome where
  frames : List LiftRxPdo := []
  response : Option ServiceResponse := none
  hardware : LiftHardware

namespace LiftHardware

variable (p : HardwareParameters) (hw : LiftHardware)

/-- The outcome of a handler that answers at once. -/
def answered (answer : ServiceResponse × LiftHardware) : Outcome where
  response := some answer.1
  hardware := answer.2

/-- The outcome of a handler that may wait. -/
def awaited (answer : Option ServiceResponse × LiftHardware) : Outcome where
  response := answer.1
  hardware := answer.2

/-- The outcome of a lifecycle callback. -/
def called (result : CallbackResult) : Outcome where
  frames := result.frames
  hardware := result.hardware

/-- The outcome of a call. -/
def handle : Event → Outcome
  | .command commands => { hardware := { hw with commands := commands } }
  | .read i => { hardware := (hw.read p i).2 }
  | .write i => { frames := (hw.write p i).frame.toList, hardware := (hw.write p i).hardware }
  | .configure i => called (hw.onConfigure p i)
  | .activate i => called (hw.onActivate p i)
  | .deactivate => called (hw.onDeactivate p)
  | .brakeCommand data => answered (hw.handleBrakeCommand p data)
  | .resetVelocity now data => answered (hw.handleResetVelocity p now data)
  | .resetHold now data => answered (hw.handleResetHold p now data)
  | .resetZero now => answered (hw.handleResetZero p now)
  | .estop => answered hw.handleEstop
  | .safetyReset now => answered (hw.handleSafetyReset p now)
  | .home now => awaited (hw.handleHome p now)
  | .setDriveZero now => awaited (hw.handleSetDriveZero p now)
  | .maintain m => awaited (hw.maintain p m)
  | .publishStatus now saveOk => { hardware := hw.completePendingZero p now saveOk }

/-- A call of the service thread needs the thread, and a handler that waits keeps it. -/
def enabled (e : Event) : Bool :=
  match e with
  | .maintain _ => hw.maintenance != .idle
  | e => !e.service || (hw.serviceRunning && hw.maintenance == .idle)

/-- The system takes a call. -/
def step (hw : LiftHardware) (e : Event) : Option LiftHardware :=
  if hw.enabled e then some (hw.handle p e).hardware else none

/-- The frame of a write. -/
def writtenFrame : Event → Option LiftRxPdo
  | .write i => (hw.write p i).frame
  | _ => none

theorem step_eq_some {hw hw' : LiftHardware} {e : Event} :
    step p hw e = some hw' ↔ hw.enabled e = true ∧ (hw.handle p e).hardware = hw' := by
  unfold step
  split
  · rename_i h
    rw [Option.some_inj]
    exact ⟨fun heq => ⟨h, heq⟩, fun hboth => hboth.2⟩
  · rename_i h
    exact ⟨fun hnone => absurd hnone.symm (Option.some_ne_none hw'), fun hboth => absurd hboth.1 h⟩

end LiftHardware

/-! ## A lift on the bench -/

theorem benchThreshold_pos : (0 : ℚ) < 1 / 1000 := by norm_num

/-- A parameter set for runs on fixed inputs: a spindle with a lead of 10 mm, and a position in
micrometres. -/
def bench : HardwareParameters where
  units :=
    { leadMmPerRev := 10
      liftSign := 1
      commandUnitsPerRev := 10000
      effectiveCommandUnitsPerRev := 10000
      leadMmPerRev_pos := by decide
      liftSign_abs := by norm_num
      commandUnitsPerRev_pos := by decide }
  sqrt := fun x => x
  source := 1
  usePersistentZeroOffset := true
  brakeControlEnabled := true
  limitSwitchEnabled := false
  limitSwitchActiveHigh := true
  directStopInStopWindow := false
  autoFaultReset := true
  startupMotionGuardEnabled := false
  resetVelocityDebugEnabled := true
  hasVelocityCommand := true
  hasAccelerationCommand := true
  feedbackTimeoutMs := 100
  expectedWorkingCounter := 3
  brakeReleaseWaitMs := 0
  maxFaultResetAttempts := 3
  faultResetBackoffMs := 1000
  motionCommandPeriodMs := 10
  modeMismatchDebounceCycles := 10
  resetVelocityRpm := 30
  resetVelocityTimeoutMs := 200
  homingMethod := 17
  homingSpeedHighUnitsS := 10000
  homingSpeedLowUnitsS := 1000
  homingAccelerationUnitsS2 := 10000
  homingOffsetUnits := 0
  startupMotionGuardMs := 0
  maxRpm := 1080
  positionLimitRecoveryMaxRpm := 60
  stopWindowMaxRpm := 30
  overshootRecoveryMaxRpm := 30
  stopTargetStableMs := 200
  brakeP0439Rpm := 30
  brakeP0614Ms := 500
  limitSwitchPositiveBit := -1
  limitSwitchNegativeBit := -1
  kpRpmPerM := 3000
  kdRpmPerMps := 0
  deadbandM := 0
  slowdownDistanceM := 0
  stopWindowM := 0
  feedbackFilterAlpha := 1
  velocitySlewRpmPerS := 0
  stopSlewRpmPerS := 0
  brakeAccelRpmPerS := 0
  overshootGuardWindowM := 0
  stationaryVelocityThresholdMps := 1 / 1000
  commandEpsilonM := 1 / 2000
  commandEpsilonRpm := 1
  maxFeedbackJumpM := 1 / 5
  maxFeedbackVelocityMps := .finite 1
  feedbackVelocityToleranceMps := 1 / 10
  positionMinM := -1
  positionMaxM := 0
  resetMaxSearchTravelM := 1 / 10
  feedbackTimeoutMs_pos := by decide
  expectedWorkingCounter_pos := by decide
  brakeReleaseWaitMs_ge := by decide
  motionCommandPeriodMs_pos := by decide
  modeMismatchDebounceCycles_pos := by decide
  maxRpm_pos := by decide
  positionLimitRecoveryMaxRpm_pos := by decide
  positionLimitRecoveryMaxRpm_le := by decide
  stationaryVelocityThresholdMps_pos := benchThreshold_pos
  maxFeedbackJumpM_pos := by norm_num
  positionMinM_le := by decide
  resetMaxSearchTravelM_pos := by norm_num

namespace Bench

/-- The time of a control cycle. -/
def time (cycle : ℕ) : ℕ := msToNs (10 * cycle)

/-- A healthy link. -/
def status : BackendStatus := ⟨.operational, 3, true⟩

/-- A drive that stands still at a position, in the velocity mode. -/
def sample (statusWord : UInt16) (position : ℤ) : LiftTxPdo :=
  { statusWord := statusWord, modeDisplay := 9, actualPositionUnits := position }

/-- A read of a healthy link. -/
def readAt (cycle : ℕ) (statusWord : UInt16) (position : ℤ) : Event :=
  .read ⟨time cycle, some (sample statusWord position), status⟩

/-- A write to a healthy link. -/
def writeAt (cycle : ℕ) : WriteInput := ⟨time cycle, 1 / 100, status, true⟩

/-- The controllers ask for a position, with the power on. -/
def powerOn (positionM : ℚ) : Event := .command ⟨.finite positionM, 0, 0, .finite 1⟩

/-- The lift is configured and activated at a position, with the drive ready to switch on. -/
def start (cycle : ℕ) (position : ℤ) : List Event :=
  [.configure ⟨true, .missing⟩,
    .activate ⟨true, time cycle, status,
      (List.range 5).map fun k => ⟨time (cycle + k), some (sample 0x0021 position), true, status⟩,
      time (cycle + 5)⟩]

/-- The power is switched on, and the drive follows into operation enabled. -/
def enable (cycle : ℕ) (position : ℤ) (positionM : ℚ) : List Event :=
  [readAt cycle 0x0021 position, .write (writeAt cycle), powerOn positionM,
    readAt (cycle + 1) 0x0021 position, .write (writeAt (cycle + 1)),
    readAt (cycle + 2) 0x0023 position, .write (writeAt (cycle + 2)),
    readAt (cycle + 3) 0x0027 position]

end Bench

end Hardware

end JointController
