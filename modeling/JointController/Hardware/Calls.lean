import JointController.Hardware.System

/-!
# What the calls leave as they are

Most calls do not touch the latches of the lift.

* `CallConstants`: the part of the state that the calls are compared on.
* `asks_call`: the calls that only ask for something.
* `maintain_call`, `completePendingZero_call`: the service thread changes the zero.
* `read_call`: a read changes the health of the transport.
* `activate_call`: what an activation changes.
-/

namespace JointController

namespace Hardware

/-- The calls that only ask for something: the controllers, a deactivation, and the services that
set requests. -/
def Event.asks : Event → Bool
  | .command _ | .deactivate | .brakeCommand _ | .resetVelocity _ _ | .resetHold _ _ | .home _
  | .setDriveZero _ => true
  | _ => false

namespace LiftHardware

/-- What most calls leave as it is. -/
structure CallConstants where
  estopLatched : Bool
  zero : Zero
  faultActive : Bool
  recoveryHealthyCycles : ℕ
  enableTime : ℕ
  previousOperationEnabled : Bool

variable (p : HardwareParameters) (hw : LiftHardware)

/-- The constants of a call. -/
def callConstants : CallConstants where
  estopLatched := hw.estopLatched
  zero := hw.zero
  faultActive := hw.transport.faultActive
  recoveryHealthyCycles := hw.transport.recoveryHealthyCycles
  enableTime := hw.brake.enableTime
  previousOperationEnabled := hw.brake.previousOperationEnabled

/-! ## The service thread -/

theorem asks_call (e : Event) (h : e.asks = true) :
    (hw.handle p e).hardware.callConstants = hw.callConstants := by
  cases e with
  | command commands => rfl
  | deactivate => rfl
  | brakeCommand data =>
    show (hw.handleBrakeCommand p data).2.callConstants = hw.callConstants
    unfold handleBrakeCommand
    repeat' first | rfl | split
  | resetVelocity now data =>
    show (hw.handleResetVelocity p now data).2.callConstants = hw.callConstants
    unfold handleResetVelocity
    repeat' first | rfl | split
  | resetHold now data =>
    show (hw.handleResetHold p now data).2.callConstants = hw.callConstants
    unfold handleResetHold
    repeat' first | rfl | split
  | home now =>
    show (hw.handleHome p now).2.callConstants = hw.callConstants
    unfold handleHome
    repeat' first | rfl | split
  | setDriveZero now =>
    show (hw.handleSetDriveZero p now).2.callConstants = hw.callConstants
    unfold handleSetDriveZero
    repeat' first | rfl | split
  | _ => exact absurd h (by rintro ⟨⟩)

theorem resetZero_call (now : ℕ) : (hw.handleResetZero p now).2.callConstants =
    { hw.callConstants with zero := (hw.handleResetZero p now).2.zero } := by
  unfold handleResetZero
  repeat' first | rfl | split

theorem safetyReset_call (now : ℕ) : (hw.handleSafetyReset p now).2.callConstants =
    { hw.callConstants with estopLatched := (hw.handleSafetyReset p now).2.estopLatched } := by
  unfold handleSafetyReset
  repeat' first | rfl | split

theorem completePendingZero_call (now : ℕ) (saveOk : Bool) :
    (hw.completePendingZero p now saveOk).callConstants =
      { hw.callConstants with zero := (hw.completePendingZero p now saveOk).zero } := by
  unfold completePendingZero
  dsimp only
  repeat' first | rfl | split

theorem maintain_call (m : MaintenanceInput) : (hw.maintain p m).2.callConstants =
    { hw.callConstants with zero := (hw.maintain p m).2.zero } := by
  unfold maintain
  split
  · rfl
  · unfold homeStopped
    repeat' first | rfl | split
  · unfold homeSearched
    split <;> rfl
  · unfold homeDisabled
    dsimp only
    repeat' first | rfl | split
  · unfold homeSavesZero
    dsimp only
    split
    · rfl
    · split
      · exact completePendingZero_call p hw m.now m.saveOk
      · split
        · exact completePendingZero_call p hw m.now m.saveOk
        · exact completePendingZero_call p hw m.now m.saveOk
  · unfold driveZeroStopped
    dsimp only
    split
    · rfl
    · split
      · rfl
      · split
        · rfl
        · exact completePendingZero_call p _ m.now m.saveOk

/-! ## The control cycle and the lifecycle -/

/-- A read of a sample changes the health of the transport, and nothing else of these. -/
theorem readSample_call (i : ReadInput) (sample : LiftTxPdo) :
    (hw.readSample p i sample).callConstants =
      (hw.updateTransportHealth (i.status.healthy p)).callConstants := by
  have hobserve (hw : LiftHardware) (now : ℕ) (positionM : ℚ) (fresh : Bool) :
      (hw.observeFeedbackContinuity p now positionM fresh).callConstants = hw.callConstants := by
    unfold observeFeedbackContinuity
    dsimp only
    split <;> rfl
  have hfollow (hw : LiftHardware) (positionM velocityMps : ℚ) :
      (hw.followFeedback p i positionM velocityMps).callConstants = hw.callConstants := by
    unfold followFeedback
    dsimp only
    rw [hobserve]
    split <;> rfl
  have hlimits (hw : LiftHardware) (positionM : ℚ) :
      (hw.checkPositionLimits p positionM).callConstants = hw.callConstants := by
    unfold checkPositionLimits
    dsimp only
    split
    · split <;> rfl
    · rfl
  have hvelocity (hw : LiftHardware) (velocityMps : ℚ) :
      (hw.checkVelocity p velocityMps).callConstants = hw.callConstants := by
    unfold checkVelocity
    split <;> rfl
  have hhoming (hw : LiftHardware) :
      (hw.observeHoming sample).callConstants = hw.callConstants := by
    unfold observeHoming
    split <;> rfl
  have hsample : (hw.takeSample p i sample).callConstants =
      (hw.updateTransportHealth (i.status.healthy p)).callConstants := by
    unfold takeSample updateTransportHealth
    dsimp only
    repeat' first | rfl | split
  have hread : (hw.readSample p i sample).callConstants =
      (((((hw.takeSample p i sample).observeHoming sample).followFeedback p i
        (hw.samplePositionM p sample)
        (p.units.velocityUnitsToMps sample.actualVelocityUnitsPerS)).checkPositionLimits p
        (hw.samplePositionM p sample)).checkVelocity p
        (p.units.velocityUnitsToMps sample.actualVelocityUnitsPerS)).callConstants := rfl
  rw [hread, hvelocity, hlimits, hfollow, hhoming, hsample]

theorem read_call (i : ReadInput) : (hw.read p i).2.callConstants =
    { hw.callConstants with
      faultActive := (hw.read p i).2.transport.faultActive
      recoveryHealthyCycles := (hw.read p i).2.transport.recoveryHealthyCycles } := by
  have hhealth (healthy : Bool) : (hw.updateTransportHealth healthy).callConstants =
      { hw.callConstants with
        faultActive := (hw.updateTransportHealth healthy).transport.faultActive
        recoveryHealthyCycles :=
          (hw.updateTransportHealth healthy).transport.recoveryHealthyCycles } := by
    unfold updateTransportHealth
    dsimp only
    repeat' first | rfl | split
  unfold read
  split
  · rfl
  · split
    · rfl
    · rename_i sample _
      have hsample := readSample_call p hw i sample
      have hfault : (hw.readSample p i sample).transport.faultActive =
          (hw.updateTransportHealth (i.status.healthy p)).transport.faultActive :=
        congrArg CallConstants.faultActive hsample
      have hcycles : (hw.readSample p i sample).transport.recoveryHealthyCycles =
          (hw.updateTransportHealth (i.status.healthy p)).transport.recoveryHealthyCycles :=
        congrArg CallConstants.recoveryHealthyCycles hsample
      dsimp only
      rw [hsample, hhealth, hfault, hcycles]

/-- An activation that gets to its bootstrap begins anew with the transport and the observation. -/
theorem activate_call (i : ActivateInput) :
    (hw.onActivate p i).hardware.callConstants =
      if hw.configured && i.startOk then
        { estopLatched := hw.estopLatched
          zero := { hw.zero with disableObserved := false, applyPending := false }
          faultActive := false
          recoveryHealthyCycles := 0
          enableTime := i.now
          previousOperationEnabled := false }
      else hw.callConstants := by
  have hbootstrap := bootstrap_keeps p
    (I := fun hw' => hw'.callConstants = (hw.prepareActivation p i).callConstants)
    (fun _ _ h => h) (fun _ _ _ _ _ h => h) i.rounds (hw.prepareActivation p i) {} rfl
  unfold onActivate
  cases hw.configured with
  | false => rfl
  | true =>
    cases i.startOk with
    | false => rfl
    | true =>
      rw [if_neg (by decide)]
      dsimp only
      split
      · exact hbootstrap
      · exact hbootstrap

end LiftHardware

end Hardware

end JointController
