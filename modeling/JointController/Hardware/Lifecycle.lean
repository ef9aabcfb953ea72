import JointController.Hardware.State

/-!
# The lifecycle of the lift hardware

* `initial`: the hardware that `on_init` leaves behind.
* `onConfigure`, `onActivate`, `onDeactivate`: the lifecycle callbacks, with the frames that they
  hand to the backend.
* `bootstrap`: `bootstrap_first_feedback`, by its rounds.
* `bootstrap_keeps`, `bootstrap_disabled`: what the bootstrap leaves as it is, and that its frames
  keep the drive disabled.
-/

namespace JointController

namespace Hardware

/-- `ZeroOffsetLoadResult`, with the offset of a record that is found. -/
inductive ZeroOffsetLoadResult where
  | missing
  | loaded (zeroOffsetUnits : ℤ)
  | invalid
  deriving DecidableEq

/-- What `on_configure` finds: whether the backend and the drive pass their checks, and the record
of the zero offset. -/
structure ConfigureInput where
  backendOk : Bool
  record : ZeroOffsetLoadResult
  deriving DecidableEq

/-- One round of the bootstrap: the sample and the status that the backend reports, and whether it
takes the frame. -/
structure BootstrapRound where
  now : ℕ
  sample : Option LiftTxPdo
  writeOk : Bool
  status : BackendStatus
  deriving DecidableEq

/-- What `on_activate` finds: whether the backend starts, the rounds before the bootstrap gives up
and the time behind them. -/
structure ActivateInput where
  startOk : Bool
  now : ℕ
  status : BackendStatus
  rounds : List BootstrapRound
  readyTime : ℕ
  deriving DecidableEq

/-- The outcome of a lifecycle callback: the frames that are handed to the backend, whether the
callback succeeds, and the hardware. -/
structure CallbackResult where
  frames : List LiftRxPdo
  success : Bool
  hardware : LiftHardware

/-- How far the bootstrap has come. -/
structure BootstrapProgress where
  stableSamples : ℕ := 0
  candidatePositionM : ℚ := 0
  faultResetAttempts : ℕ := 0
  nextFaultResetTime : ℕ := 0
  controlWord : UInt16 := 0x0006
  deriving DecidableEq

/-- `kRequiredStableSamples`. -/
def requiredStableSamples : ℕ := 5

namespace BootstrapProgress

variable (p : HardwareParameters) (b : BootstrapProgress) (now : ℕ) (sample : LiftTxPdo)

/-- The frame of the bootstrap. -/
def frame : LiftRxPdo := { controlWord := b.controlWord }

/-- A sticky fault of a drive that stands still may be reset, a bounded number of times. -/
def resetAllowed : Bool :=
  p.autoFaultReset && sample.errorCode != 0 && sample.actualVelocityUnitsPerS == 0 &&
    decide (b.faultResetAttempts < p.maxFaultResetAttempts) && decide (b.nextFaultResetTime ≤ now)

/-- The control word that answers a sample. -/
def answer : BootstrapProgress :=
  if b.resetAllowed p now sample then
    { b with
      controlWord := 0x0080
      faultResetAttempts := b.faultResetAttempts + 1
      nextFaultResetTime := now + msToNs p.faultResetBackoffMs }
  else { b with controlWord := 0x0006 }

/-- A sample is counted when the drive stands still in the right mode.  (The position and the
velocity are finite, as the units are.) -/
def count (positionM velocityMps : ℚ) : BootstrapProgress :=
  if ¬ (sample.modeDisplay = 9 ∧ parseCia402Status sample.statusWord ≠ .unknown ∧
      |velocityMps| ≤ p.stationaryVelocityThresholdMps) then { b with stableSamples := 0 }
  else if b.stableSamples = 0 ∨ p.maxFeedbackJumpM < |positionM - b.candidatePositionM| then
    { b with candidatePositionM := positionM, stableSamples := 1 }
  else { b with candidatePositionM := positionM, stableSamples := b.stableSamples + 1 }

end BootstrapProgress

namespace LiftHardware

variable (p : HardwareParameters) (hw : LiftHardware)

/-- The hardware behind `on_init`, with the initial position of the joint. -/
def initial (positionM : ℚ) : LiftHardware where
  feedback := { hwPositionM := positionM }
  commands := { position := .finite positionM }
  cia402 :=
    { maxFaultResetAttempts := p.maxFaultResetAttempts
      faultResetBackoffCycles := p.faultResetBackoffMs / p.motionCommandPeriodMs }

/-! ## Configuration -/

/-- `load_zero_offset`, when the record is not invalid. -/
def loadZeroOffset (record : ZeroOffsetLoadResult) : Zero :=
  match p.usePersistentZeroOffset, record with
  | true, .loaded units =>
    { hw.zero with offsetUnits := units, offsetUnitsAtomic := units, offsetLoaded := true }
  | _, _ => { hw.zero with offsetUnits := 0, offsetUnitsAtomic := 0, offsetLoaded := false }

/-- `on_configure`.  The emergency stop stays as it is. -/
def onConfigure (i : ConfigureInput) : CallbackResult :=
  if ¬ i.backendOk ∨ (p.usePersistentZeroOffset ∧ i.record = .invalid) then ⟨[], false, hw⟩
  else
    let hw := { hw with
      configured := true
      active := false
      initialized := false
      brake := { hw.brake with
        requestEnable := false
        serviceDisableLatched := false
        stopRequested := false
        stopTimeout := false
        stopPhase := .disabled
        stopStartTime := 0
        previousPowerCommand := false }
      takeover := { hw.takeover with
        velocityRequest := false
        velocityStopPending := false
        holdRequest := false }
      homing := {}
      zero := { hw.loadZeroOffset p i.record with
        requestPending := false
        disableObserved := false
        applyPending := false }
      firstWriteSyncPending := false
      motionBlocked := false
      latchedMotionReasonCode := 0
      transport := { hw.transport with faultActive := false, recoveryHealthyCycles := 0 }
      errorReasonCode := 0
      positionLimitViolation := false
      limitRecoveryActive := false
      modeMismatchCycles := 0
      continuity := hw.continuity.configure p.maxFeedbackJumpM (msToNs p.feedbackTimeoutMs)
      continuityResetPending := false
      output := { hw.output with lastTargetWireRpm := 0, lastTargetPositionM := none }
      commands :=
        { position := .finite hw.feedback.hwPositionM
          velocity := 0
          acceleration := 0
          power := 0 }
      powerCommandRequested := false
      powerEnabled := false }
    ⟨[], true, hw.resetFeedbackContinuity p⟩

/-! ## The first feedback -/

/-- The state of the link is noted. -/
def observeStatus (status : BackendStatus) : LiftHardware :=
  { hw with transport := { hw.transport with
    linkState := status.linkState
    workingCounter := status.workingCounter } }

/-- The feedback of the bootstrap is taken over. -/
def takeBootstrapSample (now : ℕ) (sample : LiftTxPdo) (positionM velocityMps : ℚ) : LiftHardware :=
  let hw := { hw with
    feedback :=
      { rxPdo := sample
        positionUnits := sample.actualPositionUnits
        statusWord := sample.statusWord
        errorCode := sample.errorCode
        modeDisplay := sample.modeDisplay
        digitalInputs := sample.digitalInputs
        positionM := positionM
        hwPositionM := positionM
        velocityMps := velocityMps
        filteredVelocityMps := velocityMps
        hwVelocityMps := velocityMps
        fresh := true
        lastFeedbackNs := now }
    commands := { position := .finite positionM, velocity := 0, acceleration := 0, power := 0 } }
  hw.updateStateInterfaces p now

/-- One round of the bootstrap, with the frames that it hands to the backend.  It ends the bootstrap
when enough samples are counted. -/
def bootstrapRound (b : BootstrapProgress) (r : BootstrapRound) :
    List LiftRxPdo × BootstrapProgress × Bool × LiftHardware :=
  match r.sample with
  | none => ([b.frame], b, false, hw)
  | some sample =>
    let b := b.answer p r.now sample
    if ¬ r.writeOk then ([b.frame, b.frame], b, false, hw)
    else
      let hw := hw.observeStatus r.status
      if ¬ (r.status.pdoFresh ∧ r.status.linkState = .operational ∧
          p.expectedWorkingCounter ≤ r.status.workingCounter) then
        ([b.frame, b.frame], b, false, hw)
      else
        let positionM := p.units.positionUnitsToM sample.actualPositionUnits hw.zero.offsetUnits
        let velocityMps := p.units.velocityUnitsToMps sample.actualVelocityUnitsPerS
        let b := b.count p sample positionM velocityMps
        if requiredStableSamples ≤ b.stableSamples then
          ([b.frame], b, true, hw.takeBootstrapSample p r.now sample positionM velocityMps)
        else ([b.frame, b.frame], b, false, hw)

/-- `bootstrap_first_feedback`: the rounds are those before the deadline. -/
def bootstrap (hw : LiftHardware) (b : BootstrapProgress) : List BootstrapRound → CallbackResult
  | [] => ⟨[], false, hw⟩
  | r :: rounds =>
    let round := hw.bootstrapRound p b r
    if round.2.2.1 then ⟨round.1, true, round.2.2.2⟩
    else
      let rest := bootstrap round.2.2.2 round.2.1 rounds
      ⟨round.1 ++ rest.frames, rest.success, rest.hardware⟩

/-- What the bootstrap keeps: everything that neither the state of the link nor a sample changes. -/
theorem bootstrap_keeps {I : LiftHardware → Prop}
    (hstatus : ∀ hw status, I hw → I (observeStatus hw status))
    (hsample : ∀ hw now sample positionM velocityMps, I hw →
      I (takeBootstrapSample p hw now sample positionM velocityMps)) :
    ∀ (rounds : List BootstrapRound) (hw : LiftHardware) (b : BootstrapProgress), I hw →
      I (bootstrap p hw b rounds).hardware
  | [], _, _, h => h
  | r :: rounds, hw, b, h => by
    have hround : I (hw.bootstrapRound p b r).2.2.2 := by
      unfold bootstrapRound
      split
      · exact h
      · dsimp only
        split
        · exact h
        · split
          · exact hstatus hw r.status h
          · split
            · exact hsample _ _ _ _ _ (hstatus hw r.status h)
            · exact hstatus hw r.status h
    unfold bootstrap
    dsimp only
    split
    · exact hround
    · exact bootstrap_keeps hstatus hsample rounds _ _ hround

/-- A frame that keeps the drive disabled: no velocity, and a shutdown or the reset of a fault. -/
def DisabledFrame (frame : LiftRxPdo) : Prop :=
  frame.targetVelocityUnitsPerS = 0 ∧ (frame.controlWord = 0x0006 ∨ frame.controlWord = 0x0080)

theorem answer_disabled (b : BootstrapProgress) (now : ℕ) (sample : LiftTxPdo) :
    DisabledFrame (b.answer p now sample).frame := by
  unfold BootstrapProgress.answer
  split
  · exact ⟨rfl, Or.inr rfl⟩
  · exact ⟨rfl, Or.inl rfl⟩

theorem bootstrapRound_disabled (b : BootstrapProgress) (r : BootstrapRound)
    (h : DisabledFrame b.frame) : DisabledFrame (hw.bootstrapRound p b r).2.1.frame ∧
      ∀ frame ∈ (hw.bootstrapRound p b r).1, DisabledFrame frame := by
  unfold bootstrapRound
  split
  · exact ⟨h, fun _ hf => List.mem_singleton.mp hf ▸ h⟩
  · rename_i sample _
    have hword := answer_disabled p b r.now sample
    have hcount : ∀ positionM velocityMps, DisabledFrame
        ((b.answer p r.now sample).count p sample positionM velocityMps).frame := by
      intro positionM velocityMps
      unfold BootstrapProgress.count
      split_ifs <;> exact hword
    have hboth {frame : LiftRxPdo} (hframe : DisabledFrame frame) :
        ∀ f ∈ [frame, frame], DisabledFrame f := by
      intro f hf
      rcases List.mem_cons.mp hf with rfl | hf
      · exact hframe
      · exact List.mem_singleton.mp hf ▸ hframe
    dsimp only
    split
    · exact ⟨hword, hboth hword⟩
    · split
      · exact ⟨hword, hboth hword⟩
      · split
        · exact ⟨hcount _ _, fun _ hf => List.mem_singleton.mp hf ▸ hcount _ _⟩
        · exact ⟨hcount _ _, hboth (hcount _ _)⟩

/-- The bootstrap keeps the drive disabled. -/
theorem bootstrap_disabled :
    ∀ (rounds : List BootstrapRound) (hw : LiftHardware) (b : BootstrapProgress),
      DisabledFrame b.frame → ∀ frame ∈ (bootstrap p hw b rounds).frames, DisabledFrame frame
  | [], _, _, _ => fun _ hf => absurd hf List.not_mem_nil
  | r :: rounds, hw, b, h => by
    obtain ⟨hnext, hround⟩ := bootstrapRound_disabled p hw b r h
    unfold bootstrap
    dsimp only
    split
    · exact hround
    · intro frame hf
      rcases List.mem_append.mp hf with hf | hf
      · exact hround frame hf
      · exact bootstrap_disabled rounds _ _ hnext frame hf

/-! ## Activation -/

/-- `on_activate` before the bootstrap.  The emergency stop, the motion block and a request for a
new zero stay as they are. -/
def prepareActivation (i : ActivateInput) : LiftHardware :=
  let hw := { hw with
    txPdo := {}
    feedback := { hw.feedback with
      rxPdo := {}
      lastFeedbackNs := 0
      fresh := false
      positionUnits := 0 }
    active := false
    brake := { hw.brake with
      enableTime := i.now
      previousOperationEnabled := false
      previousPowerCommand := false
      serviceDisableLatched := false
      unlocked := false
      stopRequested := false
      stopTimeout := false
      stopPhase := .disabled
      stopStartTime := 0 }
    commands := { hw.commands with power := 0 }
    powerCommandRequested := false
    powerEnabled := false
    transport :=
      { linkState := i.status.linkState
        workingCounter := i.status.workingCounter
        faultActive := false
        recoveryHealthyCycles := 0 }
    latchedMotionReasonCode := 0
    errorReasonCode := 0
    zero := { hw.zero with disableObserved := false, applyPending := false }
    cia402 := hw.cia402.reset
    modeMismatchCycles := 0
    positionLimitViolation := false
    limitRecoveryActive := false
    takeover := { hw.takeover with
      velocityRequest := false
      velocityStopPending := false
      holdRequest := false }
    homing := {}
    output := { hw.output with lastTargetWireRpm := 0, lastTargetPositionM := none }
    continuityResetPending := false }
  hw.resetFeedbackContinuity p

/-- `on_activate` behind the bootstrap. -/
def finishActivation (now : ℕ) : LiftHardware :=
  { hw.resetFeedbackContinuity p with
    startupGuardUntil :=
      if p.startupMotionGuardEnabled then now + msToNs p.startupMotionGuardMs else now
    firstWriteSyncPending := true
    initialized := true
    active := true
    serviceRunning := true }

/-- `on_activate`. -/
def onActivate (i : ActivateInput) : CallbackResult :=
  if ¬ hw.configured ∨ ¬ i.startOk then ⟨[], false, hw⟩
  else
    let booted := bootstrap p (hw.prepareActivation p i) {} i.rounds
    if booted.success then
      ⟨booted.frames, true, booted.hardware.finishActivation p i.readyTime⟩
    else ⟨booted.frames, false, booted.hardware⟩

/-- `on_deactivate`: a quick stop, and then the disable.  A maintenance handler that still waits
gives up before the service thread is joined. -/
def onDeactivate : CallbackResult :=
  let stop : LiftRxPdo := { hw.txPdo with controlWord := 0x000b, targetVelocityUnitsPerS := 0 }
  let disable : LiftRxPdo := { stop with controlWord := 0x0006 }
  let hw := hw.resetFeedbackContinuity p
  ⟨[stop, disable], true, { hw with
    active := false
    initialized := false
    serviceRunning := false
    maintenance := .idle
    txPdo := disable
    brake := { hw.brake with
      requestEnable := false
      serviceDisableLatched := true
      stopRequested := true
      stopTimeout := false
      stopPhase := .disabled
      unlocked := false }
    commands := { hw.commands with power := 0 }
    powerCommandRequested := false
    powerEnabled := false
    takeover := { hw.takeover with
      velocityRequest := false
      velocityStopPending := false
      holdRequest := false }
    homing := {}
    modeMismatchCycles := 0
    positionLimitViolation := false
    limitRecoveryActive := false }⟩

end LiftHardware

end Hardware

end JointController
