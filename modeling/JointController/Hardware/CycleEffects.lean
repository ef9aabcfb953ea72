import JointController.Hardware.System

/-!
# What the calls do to the motion block and to a maintenance run

The calls other than those of a maintenance handler and of the lifecycle leave a maintenance handler
where it is, at most clear the flags of its run, and leave the motion block with its reason.

* `BlockStep`: the block and its reason stay as they are, are cleared together, or the reason is one
  that has a text.
* `CycleEffect`: that, and what happens to a maintenance run.
* `read_effect`, `write_effect`, `handle_effect`: the calls of a cycle, and all of these calls.
-/

namespace JointController

namespace Hardware

/-- The motion block and its reason code stay as they are, are cleared together, or the code becomes
one that has a text. -/
inductive BlockStep (blocked : Bool) (code : ℕ) : Bool → ℕ → Prop where
  | keeps : BlockStep blocked code blocked code
  | clears : BlockStep blocked code false 0
  | names (blocked' : Bool) (code' : ℕ) (hpos : 0 < code') (hle : code' ≤ 8) :
      BlockStep blocked code blocked' code'

theorem BlockStep.trans {b b' b'' : Bool} {c c' c'' : ℕ} (h : BlockStep b c b' c')
    (h' : BlockStep b' c' b'' c'') : BlockStep b c b'' c'' := by
  cases h' with
  | keeps => exact h
  | clears => exact .clears
  | names _ _ hpos hle => exact .names _ _ hpos hle

namespace LiftHardware

/-- A call leaves a maintenance handler where it is and at most clears the flags of its run, and the
motion block keeps its reason. -/
structure CycleEffect (hw hw' : LiftHardware) : Prop where
  maintenance : hw'.maintenance = hw.maintenance
  active : hw'.homing.active = true → hw.homing.active = true
  startRequested : hw'.homing.startRequested = true → hw.homing.startRequested = true
  driveZeroPending : hw'.homing.driveZeroPending = true → hw.homing.driveZeroPending = true
  block : BlockStep hw.motionBlocked hw.latchedMotionReasonCode hw'.motionBlocked
    hw'.latchedMotionReasonCode

theorem CycleEffect.trans {hw hw' hw'' : LiftHardware} (h : CycleEffect hw hw')
    (h' : CycleEffect hw' hw'') : CycleEffect hw hw'' where
  maintenance := h'.maintenance.trans h.maintenance
  active := fun hactive => h.active (h'.active hactive)
  startRequested := fun hstart => h.startRequested (h'.startRequested hstart)
  driveZeroPending := fun hpending => h.driveZeroPending (h'.driveZeroPending hpending)
  block := h.block.trans h'.block

variable (p : HardwareParameters) (hw : LiftHardware)

/-! ## Faults -/

theorem latchMotionFault_effect (code : ℕ) (hpos : 0 < code) (hle : code ≤ 8) :
    CycleEffect hw (hw.latchMotionFault code) := ⟨rfl, id, id, id, .names true code hpos hle⟩

theorem observeFeedbackContinuity_effect (now : ℕ) (positionM : ℚ) (fresh : Bool) :
    CycleEffect hw (hw.observeFeedbackContinuity p now positionM fresh) := by
  unfold observeFeedbackContinuity
  dsimp only
  split
  · exact ⟨rfl, id, id, id, .names true 2 (by decide) (by decide)⟩
  · exact ⟨rfl, id, id, id, .keeps⟩

theorem updateTransportHealth_effect (healthy : Bool) :
    CycleEffect hw (hw.updateTransportHealth healthy) := by
  unfold updateTransportHealth
  dsimp only
  split
  · exact ⟨rfl, id, id, id, .keeps⟩
  · split
    · exact ⟨rfl, id, id, id, .keeps⟩
    · split <;> exact ⟨rfl, id, id, id, .keeps⟩

/-! ## Reads -/

variable (i : ReadInput) (sample : LiftTxPdo)

theorem takeSample_effect : CycleEffect hw (hw.takeSample p i sample) := by
  unfold takeSample
  dsimp only
  have hhealth := updateTransportHealth_effect
    { hw with
      feedback := { hw.feedback with rxPdo := sample, positionUnits := sample.actualPositionUnits }
      transport := { hw.transport with
        linkState := i.status.linkState
        workingCounter := i.status.workingCounter } } (i.status.healthy p)
  exact ⟨hhealth.maintenance, hhealth.active, hhealth.startRequested, hhealth.driveZeroPending,
    hhealth.block⟩

theorem observeHoming_effect : CycleEffect hw (hw.observeHoming sample) := by
  unfold observeHoming
  split <;> exact ⟨rfl, id, id, id, .keeps⟩

theorem followFeedback_effect (positionM velocityMps : ℚ) :
    CycleEffect hw (hw.followFeedback p i positionM velocityMps) := by
  unfold followFeedback
  dsimp only
  refine CycleEffect.trans ?_ (observeFeedbackContinuity_effect p _ _ _ _)
  split <;> exact ⟨rfl, id, id, id, .keeps⟩

theorem checkPositionLimits_effect (positionM : ℚ) :
    CycleEffect hw (hw.checkPositionLimits p positionM) := by
  unfold checkPositionLimits
  dsimp only
  split
  · split <;> exact ⟨rfl, id, id, id, .keeps⟩
  · exact ⟨rfl, id, id, id, .keeps⟩

theorem checkVelocity_effect (velocityMps : ℚ) :
    CycleEffect hw (hw.checkVelocity p velocityMps) := by
  unfold checkVelocity
  split
  · exact latchMotionFault_effect hw 5 (by decide) (by decide)
  · exact ⟨rfl, id, id, id, .keeps⟩

theorem readSample_effect : CycleEffect hw (hw.readSample p i sample) := by
  have htaken := (takeSample_effect p hw i sample).trans (observeHoming_effect _ sample)
  have hfollowed := htaken.trans (followFeedback_effect p _ i (hw.samplePositionM p sample)
    (p.units.velocityUnitsToMps sample.actualVelocityUnitsPerS))
  have hlimits := hfollowed.trans (checkPositionLimits_effect p _ (hw.samplePositionM p sample))
  have hchecked := hlimits.trans (checkVelocity_effect p _
    (p.units.velocityUnitsToMps sample.actualVelocityUnitsPerS))
  exact ⟨hchecked.maintenance, hchecked.active, hchecked.startRequested,
    hchecked.driveZeroPending, hchecked.block⟩

theorem read_effect : CycleEffect hw (hw.read p i).2 := by
  unfold read
  split
  · exact ⟨rfl, id, id, id, .keeps⟩
  · split
    · exact ⟨rfl, id, id, id, .keeps⟩
    · exact readSample_effect p hw i _

/-! ## Writes -/

variable (w : WriteInput)

theorem applyPendingZeroOffset_effect (now : ℕ) :
    CycleEffect hw (hw.applyPendingZeroOffset p now) := by
  unfold applyPendingZeroOffset
  split
  · exact ⟨rfl, id, id, id, .keeps⟩
  · dsimp only
    have hobserved := observeFeedbackContinuity_effect p
      (LiftHardware.resetFeedbackContinuity p { hw with
        zero := { hw.zero with
          applyPending := false
          offsetUnits := hw.zero.offsetUnitsAtomic
          offsetLoaded := true }
        commands := { hw.commands with position := 0, velocity := 0, acceleration := 0 }
        feedback := { hw.feedback with
          positionM := p.units.positionUnitsToM hw.feedback.positionUnits hw.zero.offsetUnitsAtomic
          hwPositionM :=
            p.units.positionUnitsToM hw.feedback.positionUnits hw.zero.offsetUnitsAtomic
          velocityMps := 0
          hwVelocityMps := 0 } }) now
      (p.units.positionUnitsToM hw.feedback.positionUnits hw.zero.offsetUnitsAtomic) true
    exact ⟨hobserved.maintenance, hobserved.active, hobserved.startRequested,
      hobserved.driveZeroPending, hobserved.block⟩

theorem expireTakeover_effect : CycleEffect hw (hw.expireTakeover p w) := by
  unfold expireTakeover
  split <;> exact ⟨rfl, id, id, id, .keeps⟩

theorem enforceEstop_effect : CycleEffect hw hw.enforceEstop := by
  unfold enforceEstop
  split <;> exact ⟨rfl, id, id, id, .keeps⟩

theorem samplePower_effect : CycleEffect hw hw.samplePower := by
  unfold samplePower
  dsimp only
  split
  · exact ⟨rfl, id, id, id, .keeps⟩
  · split
    · exact ⟨rfl, id, id, id, .keeps⟩
    · split <;> exact ⟨rfl, id, id, id, .keeps⟩

theorem sampled_effect : CycleEffect hw (hw.sampled p w) := by
  have hlinked : CycleEffect hw ((hw.applyPendingZeroOffset p w.now).observeLink w) :=
    (applyPendingZeroOffset_effect p hw w.now).trans ⟨rfl, id, id, id, .keeps⟩
  exact ((hlinked.trans (expireTakeover_effect p _ w)).trans (enforceEstop_effect _)).trans
    (samplePower_effect _)

theorem diagnoseDrive_effect (enableRequested : Bool) :
    CycleEffect hw (hw.diagnoseDrive p w enableRequested) := by
  unfold diagnoseDrive
  dsimp only
  split
  · split
    · exact ⟨rfl, id, id, id, .names true 7 (by decide) (by decide)⟩
    · exact ⟨rfl, id, id, id, .keeps⟩
  · split
    · split
      · exact ⟨rfl, id, id, id, .names true 7 (by decide) (by decide)⟩
      · exact ⟨rfl, id, id, id, .keeps⟩
    · split
      · exact ⟨rfl, id, id, id, .keeps⟩
      · split <;> exact ⟨rfl, id, id, id, .keeps⟩

theorem advanceBrakePhase_effect (stopRequested enableRequested : Bool) :
    CycleEffect hw (hw.advanceBrakePhase w stopRequested enableRequested) := by
  unfold advanceBrakePhase
  split
  · exact ⟨rfl, id, id, id, .keeps⟩
  · split
    · exact ⟨rfl, id, id, id, .keeps⟩
    · split <;> exact ⟨rfl, id, id, id, .keeps⟩

theorem prepare_effect : CycleEffect hw (hw.prepare p w) :=
  ((sampled_effect p hw w).trans (diagnoseDrive_effect p _ w _)).trans
    (advanceBrakePhase_effect _ w _ _)

/-- A decision at most takes the request to start a homing run back. -/
theorem decide402_effect (pdoFresh enableRequested : Bool) :
    CycleEffect hw (hw.decide402 p w pdoFresh enableRequested).2.2 := by
  have hstart {a b : Bool} (h : (a && b) = true) : a = true := ((Bool.and_eq_true a b).mp h).1
  unfold decide402 finishQuickStop
  dsimp only
  split
  · exact ⟨rfl, id, fun h => hstart h, id, .keeps⟩
  · exact ⟨rfl, id, fun h => hstart h, id, .keeps⟩

theorem followTarget_effect (now : ℕ) (periodS : ℚ) :
    CycleEffect hw (hw.followTarget p now periodS).2 := by
  unfold followTarget
  dsimp only
  split <;> exact ⟨rfl, id, id, id, .keeps⟩

theorem computeMotionCommand_effect (now : ℕ) (periodS : ℚ) :
    CycleEffect hw (hw.computeMotionCommand p now periodS).2 := by
  unfold computeMotionCommand
  dsimp only
  split
  · exact ⟨rfl, id, id, id, .keeps⟩
  · split
    · exact ⟨rfl, id, id, id, .names true 6 (by decide) (by decide)⟩
    · split
      · exact ⟨rfl, id, id, id, .keeps⟩
      · refine CycleEffect.trans ?_ (followTarget_effect p _ now periodS)
        exact ⟨rfl, id, id, id, .keeps⟩

theorem computeOutput_effect (firstWriteSync fresh allowMotion : Bool) :
    CycleEffect hw (hw.computeOutput p w firstWriteSync fresh allowMotion).2 := by
  have hloop : CycleEffect hw (hw.runMotionLoop p w allowMotion).2 := by
    unfold runMotionLoop
    split
    · exact computeMotionCommand_effect p hw w.now _
    · exact ⟨rfl, id, id, id, .keeps⟩
  unfold computeOutput
  dsimp only
  split
  · exact hloop.trans ⟨rfl, id, id, id, .keeps⟩
  · exact hloop

theorem emit_effect (stopPending fresh : Bool) (decision : Cia402Decision) (controlWord : UInt16) :
    CycleEffect hw (hw.emit p w stopPending fresh decision controlWord).2 := by
  have hheld : CycleEffect hw ((hw.inferBrake p w decision.allowMotion).syncCommands p w) :=
    ⟨rfl, id, id, id, .keeps⟩
  have houtput := hheld.trans (computeOutput_effect p _ w
    (hw.inferBrake p w decision.allowMotion).firstWriteSyncPending fresh decision.allowMotion)
  unfold emit stopTakeover
  dsimp only
  split
  · exact houtput.trans ⟨rfl, id, id, id, .keeps⟩
  · exact houtput.trans ⟨rfl, id, id, id, .keeps⟩

theorem transmit_effect (stopPending : Bool) : CycleEffect hw (hw.transmit p w stopPending) := by
  unfold transmit
  split
  · exact ⟨rfl, id, id, id, .keeps⟩
  · dsimp only
    split <;> exact ⟨rfl, id, id, id, .keeps⟩

theorem write_effect : CycleEffect hw (hw.write p w).hardware := by
  unfold write
  split
  · exact ⟨rfl, id, id, id, .keeps⟩
  · dsimp only
    refine CycleEffect.trans ?_ (transmit_effect p _ w _)
    have hdecided := (prepare_effect p hw w).trans (decide402_effect p _ w
      ((hw.sampled p w).pdoFresh p w) ((hw.sampled p w).enableRequested p))
    have hemitted := hdecided.trans (emit_effect p _ w
      (hw.applyPendingZeroOffset p w.now).takeover.velocityStopPending
      ((hw.sampled p w).feedbackIsFresh p w.now)
      ((hw.prepare p w).decide402 p w ((hw.sampled p w).pdoFresh p w)
        ((hw.sampled p w).enableRequested p)).1
      ((hw.prepare p w).decide402 p w ((hw.sampled p w).pdoFresh p w)
        ((hw.sampled p w).enableRequested p)).2.1)
    unfold observeDisable
    split
    · exact hemitted.trans ⟨rfl, id, id, id, .keeps⟩
    · exact hemitted

/-! ## Services -/

theorem completePendingZero_effect (now : ℕ) (saveOk : Bool) :
    CycleEffect hw (hw.completePendingZero p now saveOk) := by
  unfold completePendingZero
  dsimp only
  split
  · exact ⟨rfl, id, id, id, .keeps⟩
  · split
    · exact ⟨rfl, id, id, id, .keeps⟩
    · split
      · exact ⟨rfl, id, id, id, .names true 4 (by decide) (by decide)⟩
      · exact ⟨rfl, id, id, id, .keeps⟩

theorem handleSafetyReset_effect (now : ℕ) : CycleEffect hw (hw.handleSafetyReset p now).2 := by
  unfold handleSafetyReset
  split
  · exact ⟨rfl, id, id, id, .keeps⟩
  · split
    · exact ⟨rfl, id, id, id, .keeps⟩
    · exact ⟨rfl, id, id, id, .clears⟩

theorem handleBrakeCommand_effect (data : Bool) :
    CycleEffect hw (hw.handleBrakeCommand p data).2 := by
  unfold handleBrakeCommand
  repeat' first | exact ⟨rfl, id, id, id, .keeps⟩ | split

theorem handleResetVelocity_effect (now : ℕ) (data : Bool) :
    CycleEffect hw (hw.handleResetVelocity p now data).2 := by
  unfold handleResetVelocity
  repeat' first | exact ⟨rfl, id, id, id, .keeps⟩ | split

theorem handleResetHold_effect (now : ℕ) (data : Bool) :
    CycleEffect hw (hw.handleResetHold p now data).2 := by
  unfold handleResetHold
  repeat' first | exact ⟨rfl, id, id, id, .keeps⟩ | split

theorem handleResetZero_effect (now : ℕ) : CycleEffect hw (hw.handleResetZero p now).2 := by
  unfold handleResetZero
  repeat' first | exact ⟨rfl, id, id, id, .keeps⟩ | split

theorem onConfigure_effect (c : ConfigureInput) :
    CycleEffect hw (hw.onConfigure p c).hardware := by
  have hno {P : Prop} (h : false = true) : P := absurd h Bool.false_ne_true
  unfold onConfigure
  split
  · exact ⟨rfl, id, id, id, .keeps⟩
  · exact ⟨rfl, fun h => hno h, fun h => hno h, fun h => hno h, .clears⟩

end LiftHardware

/-- The calls that begin or go on with a maintenance run, and those of the lifecycle that an active
lift takes. -/
def Event.maintains : Event → Bool
  | .activate _ | .deactivate | .home _ | .setDriveZero _ | .maintain _ => true
  | _ => false

namespace LiftHardware

variable (p : HardwareParameters) (hw : LiftHardware)

/-- What the other calls do. -/
theorem handle_effect {e : Event} (h : e.maintains = false) :
    CycleEffect hw (hw.handle p e).hardware := by
  cases e with
  | command commands => exact ⟨rfl, id, id, id, .keeps⟩
  | read i => exact read_effect p hw i
  | write w => exact write_effect p hw w
  | configure c => exact onConfigure_effect p hw c
  | brakeCommand data => exact handleBrakeCommand_effect p hw data
  | resetVelocity now data => exact handleResetVelocity_effect p hw now data
  | resetHold now data => exact handleResetHold_effect p hw now data
  | resetZero now => exact handleResetZero_effect p hw now
  | estop => exact ⟨rfl, id, id, id, .names hw.motionBlocked 8 (by decide) (by decide)⟩
  | safetyReset now => exact handleSafetyReset_effect p hw now
  | publishStatus now saveOk => exact completePendingZero_effect p hw now saveOk
  | activate a => exact absurd h Bool.noConfusion
  | deactivate => exact absurd h Bool.noConfusion
  | home now => exact absurd h Bool.noConfusion
  | setDriveZero now => exact absurd h Bool.noConfusion
  | maintain m => exact absurd h Bool.noConfusion

end LiftHardware

end Hardware

end JointController
