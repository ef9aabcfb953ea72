import JointController.Hardware.Write

/-!
# What a write does

The stages of `write` one after the other: what each of them leaves as it is, and what the frame of
a cycle depends on.

* `CycleConstants`: the part of the state that the stages before the frame do not touch, with a
  lemma for each stage.
* `applyPendingZeroOffset_brake` and its like: a new zero offset does not stop the lift.
* `decided`, `emitted`: the decision and the frame of a write, with `write_active`.
* `write_constants`: what a write changes in `CycleConstants`.
* `emit_velocity`: what a frame with a velocity shows about the cycle.
-/

namespace JointController

namespace Hardware

namespace FeedbackContinuityGuard

/-- The first position of an epoch is not compared with another one. -/
theorem observe_reset (g : FeedbackContinuityGuard) (source sampleTimeNs : ℕ) (positionM : ℚ)
    (fresh : Bool) :
    ((g.reset source).observe positionM sampleTimeNs source fresh).1 ≠ .jumpDetected := by
  have hepoch : (g.reset source).epochFor sampleTimeNs source = g.reset source := by
    have hvalid : ¬ (g.reset source).baselineValid = true := Bool.false_ne_true
    have hsource : ¬ source ≠ (g.reset source).source := not_not.mpr rfl
    unfold epochFor
    rw [if_neg hsource, if_neg fun h => hvalid h.1]
  unfold observe
  split
  · rintro ⟨⟩
  · rw [hepoch]
    rintro ⟨⟩

end FeedbackContinuityGuard

namespace LiftHardware

/-- What no stage of a cycle changes on the way to its frame, but for the rise of the enable, the
first synchronisation and the disable for a new zero. -/
structure CycleConstants where
  configured : Bool
  active : Bool
  serviceRunning : Bool
  maintenance : Maintenance
  estopLatched : Bool
  startupGuardUntil : ℕ
  firstWriteSyncPending : Bool
  homingActive : Bool
  zeroRequestPending : Bool
  zeroDisableObserved : Bool
  zeroOffsetUnitsAtomic : ℤ
  rxPdo : LiftTxPdo
  feedbackFresh : Bool
  lastFeedbackNs : ℕ
  faultActive : Bool
  recoveryHealthyCycles : ℕ
  enableTime : ℕ
  previousOperationEnabled : Bool

variable (p : HardwareParameters) (hw : LiftHardware) (i : WriteInput)

/-- The constants of a cycle. -/
def constants : CycleConstants where
  configured := hw.configured
  active := hw.active
  serviceRunning := hw.serviceRunning
  maintenance := hw.maintenance
  estopLatched := hw.estopLatched
  startupGuardUntil := hw.startupGuardUntil
  firstWriteSyncPending := hw.firstWriteSyncPending
  homingActive := hw.homing.active
  zeroRequestPending := hw.zero.requestPending
  zeroDisableObserved := hw.zero.disableObserved
  zeroOffsetUnitsAtomic := hw.zero.offsetUnitsAtomic
  rxPdo := hw.feedback.rxPdo
  feedbackFresh := hw.feedback.fresh
  lastFeedbackNs := hw.feedback.lastFeedbackNs
  faultActive := hw.transport.faultActive
  recoveryHealthyCycles := hw.transport.recoveryHealthyCycles
  enableTime := hw.brake.enableTime
  previousOperationEnabled := hw.brake.previousOperationEnabled

/-! ## A new zero offset -/

/-- In a new epoch the continuity of the feedback does not stop the lift. -/
theorem observeFeedbackContinuity_reset (now : ℕ) (positionM : ℚ) (fresh : Bool) :
    (hw.resetFeedbackContinuity p).observeFeedbackContinuity p now positionM fresh =
      { hw with continuity :=
          ((hw.continuity.reset p.source).observe positionM now p.source fresh).2 } := by
  unfold observeFeedbackContinuity
  dsimp only
  rw [if_neg]
  · rfl
  · exact FeedbackContinuityGuard.observe_reset _ _ _ _ _

theorem applyPendingZeroOffset_constants (now : ℕ) :
    (hw.applyPendingZeroOffset p now).constants = hw.constants := by
  unfold applyPendingZeroOffset
  split
  · rfl
  · dsimp only
    rw [observeFeedbackContinuity_reset]
    rfl

theorem applyPendingZeroOffset_brake (now : ℕ) :
    (hw.applyPendingZeroOffset p now).brake = hw.brake := by
  unfold applyPendingZeroOffset
  split
  · rfl
  · dsimp only
    rw [observeFeedbackContinuity_reset]

theorem applyPendingZeroOffset_takeover (now : ℕ) :
    (hw.applyPendingZeroOffset p now).takeover = hw.takeover := by
  unfold applyPendingZeroOffset
  split
  · rfl
  · dsimp only
    rw [observeFeedbackContinuity_reset]

theorem applyPendingZeroOffset_motionBlocked (now : ℕ) :
    (hw.applyPendingZeroOffset p now).motionBlocked = hw.motionBlocked := by
  unfold applyPendingZeroOffset
  split
  · rfl
  · dsimp only
    rw [observeFeedbackContinuity_reset]

theorem applyPendingZeroOffset_power (now : ℕ) :
    (hw.applyPendingZeroOffset p now).commands.power = hw.commands.power := by
  unfold applyPendingZeroOffset
  split
  · rfl
  · dsimp only
    rw [observeFeedbackContinuity_reset]

/-! ## The stages before the decision -/

theorem observeLink_constants : (hw.observeLink i).constants = hw.constants := rfl

theorem expireTakeover_constants : (hw.expireTakeover p i).constants = hw.constants := by
  unfold expireTakeover
  split <;> rfl

theorem enforceEstop_constants : hw.enforceEstop.constants = hw.constants := by
  unfold enforceEstop
  split <;> rfl

theorem samplePower_constants : hw.samplePower.constants = hw.constants := by
  unfold samplePower
  dsimp only
  split_ifs <;> rfl

theorem unsampled_constants : (hw.unsampled p i).constants = hw.constants := by
  unfold unsampled
  rw [enforceEstop_constants, expireTakeover_constants, observeLink_constants,
    applyPendingZeroOffset_constants]

theorem sampled_constants : (hw.sampled p i).constants = hw.constants := by
  unfold sampled
  rw [samplePower_constants, unsampled_constants]

theorem diagnoseDrive_constants (enableRequested : Bool) :
    (hw.diagnoseDrive p i enableRequested).constants = hw.constants := by
  unfold diagnoseDrive
  dsimp only
  split
  · split <;> rfl
  · split
    · split <;> rfl
    · split
      · rfl
      · split <;> rfl

theorem advanceBrakePhase_constants (stopRequested enableRequested : Bool) :
    (hw.advanceBrakePhase i stopRequested enableRequested).constants = hw.constants := by
  unfold advanceBrakePhase
  split
  · rfl
  · split
    · rfl
    · split <;> rfl

theorem prepare_constants : (hw.prepare p i).constants = hw.constants := by
  unfold prepare
  rw [advanceBrakePhase_constants, diagnoseDrive_constants, sampled_constants]

/-! ## The decision -/

theorem finishQuickStop_constants (controlWord : UInt16) :
    (hw.finishQuickStop p i controlWord).2.constants = hw.constants := by
  unfold finishQuickStop
  split <;> rfl

theorem decide402_constants (pdoFresh enableRequested : Bool) :
    (hw.decide402 p i pdoFresh enableRequested).2.2.constants = hw.constants := by
  unfold decide402
  dsimp only
  rw [finishQuickStop_constants]
  rfl

/-- The decision of a write, its control word and the state behind them. -/
def decided : Cia402Decision × UInt16 × LiftHardware :=
  (hw.prepare p i).decide402 p i ((hw.sampled p i).pdoFresh p i)
    ((hw.sampled p i).enableRequested p)

/-- Motion is allowed by the decision of a write. -/
def allowsMotion : Bool := (hw.decided p i).1.allowMotion

/-- A write observes the controlled disable for a new zero. -/
def observesDisable : Bool :=
  hw.zero.requestPending && !hw.allowsMotion p i && (hw.decided p i).2.1 == 0x0006

theorem decided_constants : (hw.decided p i).2.2.constants = hw.constants := by
  unfold decided
  rw [decide402_constants, prepare_constants]

/-! ## The velocity -/

theorem inferBrake_constants (allowMotion : Bool) : (hw.inferBrake p i allowMotion).constants =
    { hw.constants with
      enableTime :=
        if allowMotion ∧ ¬ hw.brake.previousOperationEnabled then i.now else hw.brake.enableTime
      previousOperationEnabled := allowMotion } := rfl

theorem followTarget_constants (now : ℕ) (periodS : ℚ) :
    (hw.followTarget p now periodS).2.constants = hw.constants := by
  unfold followTarget
  dsimp only
  split <;> rfl

theorem computeMotionCommand_constants (now : ℕ) (periodS : ℚ) :
    (hw.computeMotionCommand p now periodS).2.constants = hw.constants := by
  unfold computeMotionCommand
  dsimp only
  split
  · rfl
  · split
    · rfl
    · split
      · rfl
      · rw [followTarget_constants]
        rfl

theorem runMotionLoop_constants (allowMotion : Bool) :
    (hw.runMotionLoop p i allowMotion).2.constants = hw.constants := by
  unfold runMotionLoop
  split
  · exact computeMotionCommand_constants p hw i.now _
  · rfl

theorem computeOutput_constants (firstWriteSync fresh allowMotion : Bool) :
    (hw.computeOutput p i firstWriteSync fresh allowMotion).2.constants = hw.constants := by
  unfold computeOutput
  dsimp only
  split
  · exact runMotionLoop_constants p hw i allowMotion
  · exact runMotionLoop_constants p hw i allowMotion

theorem stopTakeover_constants (stopPending : Bool) (output : ℚ × LiftHardware) :
    (stopTakeover stopPending output).2.constants = output.2.constants := by
  unfold stopTakeover
  split <;> rfl

/-- The frame of a write and the state before it is handed to the backend. -/
def emitted : LiftRxPdo × LiftHardware :=
  (hw.decided p i).2.2.emit p i (hw.applyPendingZeroOffset p i.now).takeover.velocityStopPending
    ((hw.sampled p i).feedbackIsFresh p i.now) (hw.decided p i).1 (hw.decided p i).2.1

/-- The write of an active lift. -/
theorem write_active (h : hw.active = true) : hw.write p i =
    ⟨some (hw.emitted p i).1, i.writeOk,
      ((hw.emitted p i).2.observeDisable (hw.allowsMotion p i) (hw.decided p i).2.1).transmit p i
        (hw.applyPendingZeroOffset p i.now).takeover.velocityStopPending⟩ := by
  unfold write
  rw [if_neg (by rw [h]; exact not_not.mpr rfl)]
  rfl

theorem write_inactive (h : hw.active = false) : hw.write p i = ⟨none, false, hw⟩ := by
  unfold write
  rw [if_pos (by rw [h]; exact Bool.false_ne_true)]

theorem emitted_constants : (hw.emitted p i).2.constants =
    { hw.constants with
      firstWriteSyncPending := false
      enableTime :=
        if hw.allowsMotion p i ∧ ¬ hw.brake.previousOperationEnabled then i.now
        else hw.brake.enableTime
      previousOperationEnabled := hw.allowsMotion p i } := by
  have hdecided := hw.decided_constants p i
  have htime : (hw.decided p i).2.2.brake.enableTime = hw.brake.enableTime :=
    congrArg CycleConstants.enableTime hdecided
  have hprevious : (hw.decided p i).2.2.brake.previousOperationEnabled =
      hw.brake.previousOperationEnabled :=
    congrArg CycleConstants.previousOperationEnabled hdecided
  have hemit : (hw.emitted p i).2.constants =
      { ((hw.decided p i).2.2.inferBrake p i (hw.allowsMotion p i)).constants with
        firstWriteSyncPending := false } := by
    unfold emitted emit
    dsimp only
    exact (stopTakeover_constants _ _).trans (computeOutput_constants _ _ _ _ _ _)
  rw [hemit, inferBrake_constants, hdecided, htime, hprevious]

/-! ## The transmission -/

theorem observeDisable_constants (allowMotion : Bool) (controlWord : UInt16) :
    (hw.observeDisable allowMotion controlWord).constants =
      { hw.constants with
        zeroDisableObserved := hw.zero.disableObserved ||
          hw.zero.requestPending && !allowMotion && controlWord == 0x0006 } := by
  unfold observeDisable
  split
  · rename_i h
    rw [h.1, eq_false_of_ne_true h.2.1, h.2.2]
    simp [constants]
  · rename_i h
    have hno : (hw.zero.requestPending && !allowMotion && controlWord == 0x0006) = false := by
      rw [← Bool.not_eq_true]
      simpa [and_assoc] using h
    rw [hno, Bool.or_false]
    rfl

theorem transmit_constants (stopPending : Bool) : (hw.transmit p i stopPending).constants =
    { hw.constants with
      feedbackFresh := i.writeOk && hw.feedback.fresh
      faultActive := !i.writeOk || hw.transport.faultActive
      recoveryHealthyCycles := if i.writeOk then hw.transport.recoveryHealthyCycles else 0 } := by
  unfold transmit
  cases i.writeOk with
  | false => rfl
  | true =>
    rw [if_neg (not_not.mpr rfl)]
    split <;> rfl

/-- What a write changes: it notes the rise of the enable and the disable for a new zero, the first
synchronisation is done, and a failed transmission is a transport fault. -/
theorem write_constants (h : hw.active = true) : (hw.write p i).hardware.constants =
    { hw.constants with
      firstWriteSyncPending := false
      zeroDisableObserved := hw.zero.disableObserved || hw.observesDisable p i
      enableTime :=
        if hw.allowsMotion p i ∧ ¬ hw.brake.previousOperationEnabled then i.now
        else hw.brake.enableTime
      previousOperationEnabled := hw.allowsMotion p i
      feedbackFresh := i.writeOk && hw.feedback.fresh
      faultActive := !i.writeOk || hw.transport.faultActive
      recoveryHealthyCycles := if i.writeOk then hw.transport.recoveryHealthyCycles else 0 } := by
  have hemitted := hw.emitted_constants p i
  have hobserved : (hw.emitted p i).2.zero.disableObserved = hw.zero.disableObserved :=
    congrArg CycleConstants.zeroDisableObserved hemitted
  have hpending : (hw.emitted p i).2.zero.requestPending = hw.zero.requestPending :=
    congrArg CycleConstants.zeroRequestPending hemitted
  have hdisable := observeDisable_constants (hw.emitted p i).2 (hw.allowsMotion p i)
    (hw.decided p i).2.1
  rw [hobserved, hpending, hemitted] at hdisable
  have hfresh := congrArg CycleConstants.feedbackFresh hdisable
  have hfault := congrArg CycleConstants.faultActive hdisable
  have hcycles := congrArg CycleConstants.recoveryHealthyCycles hdisable
  dsimp only [constants] at hfresh hfault hcycles
  rw [write_active p hw i h, transmit_constants, hdisable, hfresh, hfault, hcycles]
  rfl

/-! ## The motion block -/

theorem samplePower_motionBlocked : hw.samplePower.motionBlocked = hw.motionBlocked := by
  unfold samplePower
  dsimp only
  split_ifs <;> rfl

theorem unsampled_motionBlocked : (hw.unsampled p i).motionBlocked = hw.motionBlocked := by
  have hexpire (hw : LiftHardware) : (hw.expireTakeover p i).motionBlocked = hw.motionBlocked := by
    unfold expireTakeover
    split <;> rfl
  have hestop (hw : LiftHardware) : hw.enforceEstop.motionBlocked = hw.motionBlocked := by
    unfold enforceEstop
    split <;> rfl
  unfold unsampled
  rw [hestop, hexpire]
  exact applyPendingZeroOffset_motionBlocked p hw i.now

theorem sampled_motionBlocked : (hw.sampled p i).motionBlocked = hw.motionBlocked := by
  unfold sampled
  rw [samplePower_motionBlocked, unsampled_motionBlocked]

/-- A diagnosis does not lift a motion block. -/
theorem diagnoseDrive_motionBlocked {enableRequested : Bool}
    (h : (hw.diagnoseDrive p i enableRequested).motionBlocked = false) :
    hw.motionBlocked = false := by
  unfold diagnoseDrive at h
  dsimp only at h
  split at h
  · split at h
    · exact absurd h.symm Bool.false_ne_true
    · exact h
  · split at h
    · split at h
      · exact absurd h.symm Bool.false_ne_true
      · exact h
    · split at h
      · exact h
      · split at h
        · exact h
        · exact h

theorem advanceBrakePhase_motionBlocked (stopRequested enableRequested : Bool) :
    (hw.advanceBrakePhase i stopRequested enableRequested).motionBlocked = hw.motionBlocked := by
  unfold advanceBrakePhase
  split
  · rfl
  · split
    · rfl
    · split <;> rfl

theorem decide402_motionBlocked (pdoFresh enableRequested : Bool) :
    (hw.decide402 p i pdoFresh enableRequested).2.2.motionBlocked = hw.motionBlocked := by
  unfold decide402 finishQuickStop
  dsimp only
  split <;> rfl

/-- A write that ends its decision without a motion block has begun without one. -/
theorem decided_motionBlocked (h : (hw.decided p i).2.2.motionBlocked = false) :
    hw.motionBlocked = false := by
  unfold decided at h
  rw [decide402_motionBlocked] at h
  unfold prepare at h
  rw [advanceBrakePhase_motionBlocked] at h
  rw [← sampled_motionBlocked p hw i]
  exact diagnoseDrive_motionBlocked p _ i h

theorem write_motionBlocked (h : hw.active = true) :
    (hw.write p i).hardware.motionBlocked = (hw.emitted p i).2.motionBlocked := by
  have hobserve (hw : LiftHardware) (allowMotion : Bool) (controlWord : UInt16) :
      (hw.observeDisable allowMotion controlWord).motionBlocked = hw.motionBlocked := by
    unfold observeDisable
    split <;> rfl
  have htransmit (hw : LiftHardware) (stopPending : Bool) :
      (hw.transmit p i stopPending).motionBlocked = hw.motionBlocked := by
    unfold transmit
    split
    · rfl
    · dsimp only
      split <;> rfl
  rw [write_active p hw i h, htransmit, hobserve]

/-! ## The velocity of a frame -/

theorem startupGuardActive_of_constants {hw hw' : LiftHardware} (h : hw'.constants = hw.constants) :
    hw'.startupGuardActive p i = hw.startupGuardActive p i := by
  have huntil : hw'.startupGuardUntil = hw.startupGuardUntil :=
    congrArg CycleConstants.startupGuardUntil h
  unfold startupGuardActive
  rw [huntil]

theorem feedbackIsFresh_of_constants {hw hw' : LiftHardware} (h : hw'.constants = hw.constants)
    (now : ℕ) : hw'.feedbackIsFresh p now = hw.feedbackIsFresh p now := by
  have hfresh : hw'.feedback.fresh = hw.feedback.fresh := congrArg CycleConstants.feedbackFresh h
  have hlast : hw'.feedback.lastFeedbackNs = hw.feedback.lastFeedbackNs :=
    congrArg CycleConstants.lastFeedbackNs h
  unfold feedbackIsFresh
  rw [hfresh, hlast]

/-- What a velocity on the wire shows about the cycle. -/
theorem computeOutput_ne_zero {firstWriteSync fresh allowMotion : Bool}
    (h : (hw.computeOutput p i firstWriteSync fresh allowMotion).1 ≠ 0) :
    allowMotion = true ∧ hw.brake.unlocked = true ∧ fresh = true ∧ hw.homing.active = false ∧
      hw.estopLatched = false ∧ hw.startupGuardActive p i = false ∧ firstWriteSync = false ∧
      (hw.computeOutput p i firstWriteSync fresh allowMotion).2.motionBlocked = false := by
  have hconstants := runMotionLoop_constants p hw i allowMotion
  have hestop : (hw.runMotionLoop p i allowMotion).2.estopLatched = hw.estopLatched :=
    congrArg CycleConstants.estopLatched hconstants
  have hguard := startupGuardActive_of_constants p i hconstants
  unfold computeOutput at h ⊢
  dsimp only at h ⊢
  split at h
  · exact absurd rfl h
  · rename_i hgate
    rw [if_neg hgate]
    have hloop : hw.brake.unlocked = true ∧ allowMotion = true ∧ ¬ hw.homing.active = true := by
      by_contra hclosed
      unfold runMotionLoop at h
      rw [if_neg hclosed] at h
      exact h rfl
    simp only [not_or, Bool.not_eq_true, Bool.not_eq_false, hestop, hguard] at hgate
    obtain ⟨hallow, hunlocked, hfresh, hblocked, hlatched, hstartup, hsync⟩ := hgate
    exact ⟨hallow, hunlocked, hfresh, eq_false_of_ne_true hloop.2.2, hlatched, hstartup, hsync,
      hblocked⟩

theorem stopTakeover_ne_zero {stopPending : Bool} {output : ℚ × LiftHardware}
    (h : (stopTakeover stopPending output).1 ≠ 0) :
    stopPending = false ∧ stopTakeover stopPending output = output := by
  unfold stopTakeover at h ⊢
  cases stopPending with
  | false => exact ⟨rfl, rfl⟩
  | true => exact absurd rfl h

/-- What a frame with a velocity shows about the cycle. -/
theorem emit_velocity {stopPending fresh : Bool} {decision : Cia402Decision} {controlWord : UInt16}
    (h : (hw.emit p i stopPending fresh decision controlWord).1.targetVelocityUnitsPerS ≠ 0) :
    stopPending = false ∧ decision.allowMotion = true ∧
      (hw.inferBrake p i decision.allowMotion).brake.unlocked = true ∧ fresh = true ∧
      hw.homing.active = false ∧ hw.estopLatched = false ∧ hw.startupGuardActive p i = false ∧
      hw.firstWriteSyncPending = false ∧
      (hw.emit p i stopPending fresh decision controlWord).2.motionBlocked = false := by
  unfold emit at h ⊢
  dsimp only at h ⊢
  have houtput : (stopTakeover stopPending
      (((hw.inferBrake p i decision.allowMotion).syncCommands p i).computeOutput p i
        (hw.inferBrake p i decision.allowMotion).firstWriteSyncPending fresh
        decision.allowMotion)).1 ≠ 0 := by
    intro hzero
    rw [hzero] at h
    exact h p.units.wireRpmToVelocityUnits_zero
  obtain ⟨hstop, hsame⟩ := stopTakeover_ne_zero houtput
  rw [hsame] at houtput
  obtain ⟨hallow, hunlocked, hfresh, hhoming, hestop, hguard, hsync, hblocked⟩ :=
    computeOutput_ne_zero p _ i houtput
  refine ⟨hstop, hallow, hunlocked, hfresh, hhoming, hestop, hguard, hsync, ?_⟩
  rw [hsame]
  exact hblocked

end LiftHardware

end Hardware

end JointController
