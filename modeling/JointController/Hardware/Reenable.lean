import JointController.Library.Observers
import JointController.Hardware.Cycle
import JointController.Hardware.System

/-!
# Stop requests and the edge of the power command

When a write switches the drive on, and what that means for a stop request that is still waiting for
an edge of the power command.

* `enableAsked`, `stopAsked`, `driveAnswers`: what decides whether a write switches the drive on.
* `write_enables`: a write sends an enabling control word exactly then.
* `StopObserver`: the edge that a stop request waits for.
* `StopHolds`, `stopsHold_iff`: the stop requests hold along a run exactly when no write of it meets
  with `Reenables`.
* `stop_undone`: a run with the power command held high.
-/

namespace JointController

namespace Hardware

namespace LiftHardware

variable (p : HardwareParameters) (hw : LiftHardware) (i : WriteInput)

/-! ## When a write switches the drive on -/

/-- A rising edge of the power command that a write follows. -/
def risingEdge : Bool :=
  hw.powerCommand && !hw.brake.previousPowerCommand && !hw.estopLatched && !hw.motionBlocked

/-- A write of this state asks the drive to enable. -/
def enableAsked : Bool :=
  !hw.estopLatched && p.brakeControlEnabled &&
    (!hw.brake.serviceDisableLatched || hw.risingEdge) &&
    (hw.powerCommand || hw.brake.requestEnable)

/-- A write of this state asks for a stop. -/
def stopAsked : Bool :=
  hw.estopLatched || (!hw.risingEdge &&
    (hw.brake.stopRequested || hw.brake.previousPowerCommand && !hw.powerCommand))

/-- The drive is healthy, and in a state from which an enable request switches it on. -/
def driveAnswers : Bool :=
  i.status.linkState == .operational && i.status.pdoFresh && hw.feedbackIsFresh p i.now &&
    !hw.transport.faultActive && decide (p.expectedWorkingCounter ≤ i.status.workingCounter) &&
    hw.feedback.rxPdo.modeDisplay == hw.expectedMode && hw.feedback.rxPdo.errorCode == 0 &&
    Cia402Controller.answersEnable (parseCia402Status hw.feedback.rxPdo.statusWord) &&
    !(hw.homing.active && parseCia402Status hw.feedback.rxPdo.statusWord == .operationEnabled)

/-- The controlled stop of a write is over, or not asked for. -/
def stopOver : Bool := !hw.stopAsked || hw.brake.stopPhase == .disabled

/-! ## Before the power command is sampled -/

/-- A latched emergency stop asks for a stop before the power command is sampled. -/
theorem unsampled_brake : (hw.unsampled p i).brake =
    if hw.estopLatched then { hw.brake with requestEnable := false, stopRequested := true }
    else hw.brake := by
  have hexpire (hw : LiftHardware) : (hw.expireTakeover p i).brake = hw.brake := by
    unfold expireTakeover
    split <;> rfl
  have hbrake : (((hw.applyPendingZeroOffset p i.now).observeLink i).expireTakeover p i).brake =
      hw.brake := (hexpire _).trans (applyPendingZeroOffset_brake p hw i.now)
  have hestop :
      (((hw.applyPendingZeroOffset p i.now).observeLink i).expireTakeover p i).estopLatched =
      hw.estopLatched := by
    have hconstants := (expireTakeover_constants p
      ((hw.applyPendingZeroOffset p i.now).observeLink i)
      i).trans (applyPendingZeroOffset_constants p hw i.now)
    exact congrArg CycleConstants.estopLatched hconstants
  unfold unsampled enforceEstop
  rw [hestop]
  split
  · dsimp only
    rw [hbrake]
  · exact hbrake

theorem unsampled_estopLatched : (hw.unsampled p i).estopLatched = hw.estopLatched :=
  congrArg CycleConstants.estopLatched (hw.unsampled_constants p i)

theorem unsampled_powerCommand : (hw.unsampled p i).powerCommand = hw.powerCommand := by
  have hexpire (hw : LiftHardware) : (hw.expireTakeover p i).commands = hw.commands := by
    unfold expireTakeover
    split <;> rfl
  have hestop (hw : LiftHardware) : hw.enforceEstop.commands = hw.commands := by
    unfold enforceEstop
    split <;> rfl
  have hpower : (hw.unsampled p i).commands.power = hw.commands.power := by
    unfold unsampled
    rw [hestop, hexpire]
    exact applyPendingZeroOffset_power p hw i.now
  unfold powerCommand
  rw [hpower]

/-- The brake behind an edge of the power command, or behind none. -/
theorem brake_sample (b : Brake) (power estop blocked : Bool) :
    (if power = b.previousPowerCommand then b
      else if power ∧ ¬ estop ∧ ¬ blocked then
        { b with
          serviceDisableLatched := false, stopRequested := false, previousPowerCommand := power }
      else if ¬ power then { b with stopRequested := true, previousPowerCommand := power }
      else { b with previousPowerCommand := power }) =
    { b with
      serviceDisableLatched := b.serviceDisableLatched &&
        !(power && !b.previousPowerCommand && !estop && !blocked)
      stopRequested := !(power && !b.previousPowerCommand && !estop && !blocked) &&
        (b.stopRequested || b.previousPowerCommand && !power)
      previousPowerCommand := power } := by
  obtain ⟨requestEnable, serviceDisableLatched, stopRequested, stopTimeout, stopPhase,
    stopStartTime,
    unlocked, enableTime, previousOperationEnabled, previousPowerCommand⟩ := b
  cases power <;> cases previousPowerCommand <;> cases estop <;> cases blocked <;> simp

/-- The sample of the power command: an edge that is followed clears the requests, and a falling
edge asks for a stop. -/
theorem samplePower_brake : hw.samplePower.brake =
    { hw.brake with
      serviceDisableLatched := hw.brake.serviceDisableLatched && !hw.risingEdge
      stopRequested := !hw.risingEdge &&
        (hw.brake.stopRequested || hw.brake.previousPowerCommand && !hw.powerCommand)
      previousPowerCommand := hw.powerCommand } := by
  refine Eq.trans ?_ (brake_sample hw.brake hw.powerCommand hw.estopLatched hw.motionBlocked)
  unfold samplePower
  dsimp only
  split
  · rfl
  · split
    · rfl
    · split <;> rfl

theorem unsampled_risingEdge : (hw.unsampled p i).risingEdge = hw.risingEdge := by
  have hprevious :
      (hw.unsampled p i).brake.previousPowerCommand = hw.brake.previousPowerCommand := by
    rw [unsampled_brake]
    split <;> rfl
  unfold risingEdge
  rw [unsampled_powerCommand, hprevious, unsampled_estopLatched, unsampled_motionBlocked]

theorem sampled_powerCommand : (hw.sampled p i).powerCommand = hw.powerCommand := by
  have hcommands (hw : LiftHardware) : hw.samplePower.commands = hw.commands := by
    unfold samplePower
    dsimp only
    repeat' first | rfl | split
  have hpower := unsampled_powerCommand p hw i
  unfold sampled
  unfold powerCommand at hpower ⊢
  rw [hcommands]
  exact hpower

theorem sampled_enableRequested : (hw.sampled p i).enableRequested p = hw.enableAsked p := by
  have hestop : (hw.sampled p i).estopLatched = hw.estopLatched :=
    congrArg CycleConstants.estopLatched (hw.sampled_constants p i)
  unfold enableRequested enableAsked
  rw [hestop, sampled_powerCommand]
  unfold sampled
  rw [samplePower_brake, unsampled_brake, unsampled_risingEdge]
  cases hw.estopLatched with
  | true => rfl
  | false =>
    dsimp only
    rw [if_neg Bool.false_ne_true, Bool.not_and, Bool.not_not]

theorem sampled_stopRequested : (hw.sampled p i).stopRequested = hw.stopAsked := by
  have hestop : (hw.sampled p i).estopLatched = hw.estopLatched :=
    congrArg CycleConstants.estopLatched (hw.sampled_constants p i)
  unfold stopRequested stopAsked
  rw [hestop]
  unfold sampled
  rw [samplePower_brake, unsampled_brake, unsampled_risingEdge, unsampled_powerCommand]
  cases hw.estopLatched with
  | true => rfl
  | false => rfl

theorem sampled_stopPhase : (hw.sampled p i).brake.stopPhase = hw.brake.stopPhase := by
  unfold sampled
  rw [samplePower_brake, unsampled_brake]
  split <;> rfl

/-! ## The quick stop -/

theorem diagnoseDrive_stopPhase (enableRequested : Bool) :
    (hw.diagnoseDrive p i enableRequested).brake.stopPhase = hw.brake.stopPhase := by
  unfold diagnoseDrive
  dsimp only
  repeat' first | rfl | split

theorem advanceBrakePhase_quickStop (stopRequested enableRequested : Bool) :
    (hw.advanceBrakePhase i stopRequested enableRequested).quickStopRequested =
      (stopRequested && hw.brake.stopPhase != .disabled) := by
  unfold quickStopRequested advanceBrakePhase
  cases stopRequested <;> cases enableRequested <;> cases hphase : hw.brake.stopPhase <;>
    simp [hphase]

/-- A quick stop is under way in the decision when a stop is asked for and the drive is not disabled
yet. -/
theorem prepare_quickStop : (hw.prepare p i).quickStopRequested = !hw.stopOver := by
  have hphase : ((hw.sampled p i).diagnoseDrive p i (hw.enableAsked p)).brake.stopPhase =
      hw.brake.stopPhase := (diagnoseDrive_stopPhase p _ i _).trans (sampled_stopPhase p hw i)
  unfold prepare stopOver
  dsimp only
  rw [advanceBrakePhase_quickStop, sampled_stopRequested, sampled_enableRequested, hphase,
    Bool.not_or, Bool.not_not]
  rfl

/-! ## The control word -/

/-- The health of the drive, as the decision of a write sees it. -/
theorem prepare_healthOk : ((hw.prepare p i).cia402Inputs p i ((hw.sampled p i).pdoFresh p i)
      ((hw.sampled p i).enableRequested p)).healthOk = true ∧
    Cia402Controller.answersEnable ((hw.prepare p i).cia402Inputs p i
      ((hw.sampled p i).pdoFresh p i) ((hw.sampled p i).enableRequested p)).state = true ∧
    ¬ (hw.homing.active = true ∧
      parseCia402Status hw.feedback.rxPdo.statusWord = .operationEnabled) ↔
    hw.driveAnswers p i = true := by
  have hprepare := hw.prepare_constants p i
  have hrx : (hw.prepare p i).feedback.rxPdo = hw.feedback.rxPdo :=
    congrArg CycleConstants.rxPdo hprepare
  have hhoming : (hw.prepare p i).homing.active = hw.homing.active :=
    congrArg CycleConstants.homingActive hprepare
  have hfault : (hw.sampled p i).transport.faultActive = hw.transport.faultActive :=
    congrArg CycleConstants.faultActive (hw.sampled_constants p i)
  have hfresh := feedbackIsFresh_of_constants p (hw.sampled_constants p i) i.now
  unfold Cia402Inputs.healthOk Cia402Inputs.modeOk Cia402Inputs.fault Cia402Inputs.state
    cia402Inputs
    expectedMode pdoFresh driveAnswers expectedMode
  dsimp only
  rw [hrx, hhoming, hfault, hfresh]
  cases hstate : parseCia402Status hw.feedback.rxPdo.statusWord <;>
    simp [Cia402Controller.answersEnable] <;> tauto

theorem finishQuickStop_word (controlWord : UInt16) :
    (hw.finishQuickStop p i controlWord).1 = controlWord ∨
      hw.quickStopRequested = true ∧ (hw.finishQuickStop p i controlWord).1 = 0x0006 := by
  unfold finishQuickStop
  split
  · rename_i h
    exact Or.inr ⟨h.1, rfl⟩
  · exact Or.inl rfl

/-- A write sends an enabling control word exactly when it asks the drive to enable, the controlled
stop is over and the drive answers. -/
theorem write_enables : Cia402Controller.enabling (hw.emitted p i).1.controlWord = true ↔
    hw.enableAsked p = true ∧ hw.stopOver = true ∧ hw.driveAnswers p i = true := by
  have hquick := hw.prepare_quickStop p i
  have hhealth := hw.prepare_healthOk p i
  have hrx : (hw.prepare p i).feedback.rxPdo = hw.feedback.rxPdo :=
    congrArg CycleConstants.rxPdo (hw.prepare_constants p i)
  have hhoming : (hw.prepare p i).homing.active = hw.homing.active :=
    congrArg CycleConstants.homingActive (hw.prepare_constants p i)
  set inputs := (hw.prepare p i).cia402Inputs p i ((hw.sampled p i).pdoFresh p i)
    ((hw.sampled p i).enableRequested p) with hinputs
  have hstate : inputs.state = parseCia402Status hw.feedback.rxPdo.statusWord := by
    rw [hinputs, ← hrx]
    rfl
  have hrequest : inputs.requestEnable = (hw.enableAsked p && hw.stopOver) := by
    rw [hinputs, ← sampled_enableRequested p hw i, ← Bool.not_not hw.stopOver, ← hquick]
    rfl
  have hstop : inputs.requestQuickStop = !hw.stopOver := hquick
  -- the control word of the frame
  set decision := ((hw.prepare p i).cia402.step inputs).1 with hdecision
  obtain ⟨stepped, hword, hsame⟩ : ∃ stepped : LiftHardware,
      (hw.emitted p i).1.controlWord =
          (stepped.finishQuickStop p i ((hw.prepare p i).homingWord decision)).1 ∧
        stepped.quickStopRequested = (hw.prepare p i).quickStopRequested := ⟨_, rfl, rfl⟩
  have henables := (hw.prepare p i).cia402.step_enables inputs
  rw [hword]
  constructor
  · intro henabling
    have hhomingWord : Cia402Controller.enabling ((hw.prepare p i).homingWord decision) = true := by
      rcases stepped.finishQuickStop_word p i ((hw.prepare p i).homingWord decision) with
        hkept | ⟨-, hdisabled⟩
      · exact hkept ▸ henabling
      · rw [hdisabled] at henabling
        exact absurd henabling (by decide)
    by_cases hmoves : (hw.prepare p i).homing.active = true ∧ decision.allowMotion = true
    · -- bit 4 starts the homing run
      have hallowed := (hw.prepare p i).cia402.step_allowMotion inputs hmoves.2
      have hfull := ((hw.prepare p i).cia402.step_enabled inputs hallowed.2.1 hallowed.2.2.2.2
        hallowed.2.2.2.1).1
      have hbit : (hw.prepare p i).homingWord decision = 0x001f := by
        unfold homingWord
        rw [if_pos hmoves, hdecision, hfull, hallowed.1]
        rfl
      rw [hbit] at hhomingWord
      exact absurd hhomingWord (by decide)
    · have hplain : (hw.prepare p i).homingWord decision = decision.controlWord := if_neg hmoves
      rw [hplain] at hhomingWord
      obtain ⟨hok, hasked, hno, hanswers⟩ := henables.mp hhomingWord
      rw [hrequest, Bool.and_eq_true] at hasked
      refine ⟨hasked.1, hasked.2, hhealth.mp ⟨hok, hanswers, ?_⟩⟩
      rintro ⟨hactive, henabled⟩
      refine hmoves ⟨hhoming.trans hactive, ?_⟩
      have hallow := ((hw.prepare p i).cia402.step_enabled inputs hok hno
        (hrequest ▸ Bool.and_eq_true_iff.mpr hasked)).2
      rw [hdecision, hallow, hstate, henabled]
      rfl
  · rintro ⟨hasked, hover, hanswers⟩
    obtain ⟨hok, hanswer, hnotHoming⟩ := hhealth.mpr hanswers
    have hno : inputs.requestQuickStop = false := by rw [hstop, hover]; rfl
    have hyes : inputs.requestEnable = true := by rw [hrequest, hasked, hover]; rfl
    have hplain : (hw.prepare p i).homingWord decision = decision.controlWord := by
      refine if_neg ?_
      rintro ⟨hactive, hallow⟩
      have hmotion := ((hw.prepare p i).cia402.step_enabled inputs hok hno hyes).2
      rw [← hdecision, hallow, hstate] at hmotion
      exact hnotHoming ⟨hhoming ▸ hactive, eq_of_beq hmotion.symm⟩
    have hkept : (stepped.finishQuickStop p i ((hw.prepare p i).homingWord decision)).1 =
        (hw.prepare p i).homingWord decision := by
      rcases stepped.finishQuickStop_word p i ((hw.prepare p i).homingWord decision) with
        hkept | ⟨hbusy, -⟩
      · exact hkept
      · rw [hsame, hquick, hover] at hbusy
        exact absurd hbusy Bool.false_ne_true
    rw [hkept, hplain]
    exact henables.mpr ⟨hok, hyes, hno, hanswer⟩

/-! ## Stop requests -/

/-- The hardware without a stop request. -/
def clearStop : LiftHardware := { hw with brake := { hw.brake with stopRequested := false } }

/-- A stage requests a stop: it leaves `brake_stop_requested_` set, whether it was set before or
not. -/
def setsStop (stage : LiftHardware → LiftHardware) : Bool :=
  (stage hw.clearStop).brake.stopRequested

/-- The diagnosis of a write requests a stop. -/
def diagnosisStops : Bool :=
  (hw.sampled p i).setsStop fun hw' => hw'.diagnoseDrive p i (hw.enableAsked p)

/-- A write requests a stop behind the sample of the power command: by its diagnosis, by its
commands or by a failed transmission. -/
def writeStops : Bool :=
  let stopPending := (hw.applyPendingZeroOffset p i.now).takeover.velocityStopPending
  let decided := hw.decided p i
  hw.diagnosisStops p i ||
    decided.2.2.setsStop (fun hw' => (hw'.emit p i stopPending
      ((hw.sampled p i).feedbackIsFresh p i.now) decided.1 decided.2.1).2) ||
    (hw.emitted p i).2.setsStop fun hw' => hw'.transmit p i stopPending

end LiftHardware

/-- The edge that the last stop request waits for: the power command has to be sampled low, and then
high. -/
inductive StopObserver where
  | none | awaitsLow | awaitsHigh
  deriving DecidableEq

namespace StopObserver

/-- The power command is sampled. -/
def sample (power : Bool) : StopObserver → StopObserver
  | .none => .none
  | .awaitsLow => if power then .awaitsLow else .awaitsHigh
  | .awaitsHigh => if power then .none else .awaitsHigh

/-- The observer follows a call.  A write samples the power command, and may request a stop of its
own. -/
def next (p : HardwareParameters) (hw : LiftHardware) (e : Event) (o : StopObserver) :
    StopObserver :=
  match e with
  | .write i =>
    if ¬ hw.active then o
    else if hw.writeStops p i then .awaitsLow
    else o.sample hw.powerCommand
  | e => if hw.setsStop fun hw' => (hw'.handle p e).hardware then .awaitsLow else o

end StopObserver

/-- A write that stands under a stop request sends no enabling control word. -/
def StopHolds (p : HardwareParameters) (s : LiftHardware × StopObserver) (e : Event)
    (_ : LiftHardware × StopObserver) : Prop :=
  ∀ i frame, e = .write i → (s.1.write p i).frame = some frame →
    (s.2.sample s.1.powerCommand ≠ .none ∨ s.1.diagnosisStops p i = true) →
      Cia402Controller.enabling frame.controlWord = false

/-- A write under a stop request does not meet with all of these: the lift is active, the drive is
asked to enable, the controlled stop is over and the drive answers. -/
def WaitsForEdge (p : HardwareParameters) (s : LiftHardware × StopObserver) (e : Event) : Prop :=
  ∀ i, e = .write i → s.2.sample s.1.powerCommand ≠ .none →
    ¬ (s.1.active = true ∧ s.1.enableAsked p = true ∧ s.1.stopOver = true ∧
      s.1.driveAnswers p i = true)

namespace LiftHardware

variable (p : HardwareParameters) (hw : LiftHardware) (i : WriteInput)

/-- A diagnosis requests a stop of a drive that is not healthy. -/
theorem diagnoseDrive_stop {enableRequested : Bool} (hclear : hw.brake.stopRequested = false)
    (h : (hw.diagnoseDrive p i enableRequested).brake.stopRequested = true) :
    hw.feedback.rxPdo.errorCode ≠ 0 ∨ hw.feedback.rxPdo.modeDisplay ≠ hw.expectedMode := by
  have hno : hw.brake.stopRequested ≠ true := by
    rw [hclear]
    exact Bool.false_ne_true
  unfold diagnoseDrive at h
  dsimp only at h
  split at h
  · rename_i herror
    exact Or.inl herror.2
  · split at h
    · rename_i hmode
      exact Or.inr hmode.2.2
    · split at h
      · exact absurd h hno
      · split at h
        · exact absurd h hno
        · exact absurd h hno

theorem diagnosisStops_answers (h : hw.diagnosisStops p i = true) :
    hw.driveAnswers p i = false := by
  have hconstants := hw.sampled_constants p i
  have hrx : (hw.sampled p i).feedback.rxPdo = hw.feedback.rxPdo :=
    congrArg CycleConstants.rxPdo hconstants
  have hexpected : (hw.sampled p i).expectedMode = hw.expectedMode := by
    have hhoming : (hw.sampled p i).homing.active = hw.homing.active :=
      congrArg CycleConstants.homingActive hconstants
    unfold expectedMode
    rw [hhoming]
  have hunhealthy : hw.feedback.rxPdo.errorCode ≠ 0 ∨
      hw.feedback.rxPdo.modeDisplay ≠ hw.expectedMode := by
    rw [← hrx, ← hexpected]
    exact diagnoseDrive_stop p (hw.sampled p i).clearStop i rfl h
  unfold driveAnswers
  rcases hunhealthy with herror | hmode
  · rw [beq_eq_false_iff_ne.mpr herror]
    simp
  · rw [beq_eq_false_iff_ne.mpr hmode]
    simp

/-- A step of a run keeps the stop requests exactly when it does not meet with a drive that
enables. -/
theorem stopHolds_iff (s : LiftHardware × StopObserver) (e : Event)
    (s' : LiftHardware × StopObserver) : StopHolds p s e s' ↔ WaitsForEdge p s e := by
  obtain ⟨hw, o⟩ := s
  constructor
  · rintro h i rfl hwaits ⟨hactive, henables⟩
    have hframe : (hw.write p i).frame = some (hw.emitted p i).1 := by
      rw [write_active p hw i hactive]
    have hno := h i _ rfl hframe (Or.inl hwaits)
    rw [(hw.write_enables p i).mpr henables] at hno
    exact absurd hno.symm Bool.false_ne_true
  · rintro h i frame rfl hframe hwaits
    cases hactive : hw.active with
    | false =>
      rw [write_inactive p hw i hactive] at hframe
      exact absurd hframe.symm (Option.some_ne_none frame)
    | true =>
      rw [write_active p hw i hactive] at hframe
      obtain rfl := Option.some_inj.mp hframe
      refine eq_false_of_ne_true fun henabling => ?_
      have henables := (hw.write_enables p i).mp henabling
      rcases hwaits with hwaits | hstops
      · exact h i rfl hwaits ⟨hactive, henables⟩
      · rw [hw.diagnosisStops_answers p i hstops] at henables
        exact absurd henables.2.2 Bool.false_ne_true

/-- Along a run no write under a stop request switches the drive on, exactly when no such write
meets with a drive that answers once the controlled stop is over. -/
theorem stopsHold_iff {positionM : ℚ} {calls : List Event} {hw : LiftHardware}
    (h : Runs.exec (step p) (initial p positionM) calls = some hw) :
    Runs.Throughout (Runs.observed (step p) (StopObserver.next p)) (StopHolds p)
        (initial p positionM, .none) calls ↔
      Runs.Meets (Runs.observed (step p) (StopObserver.next p)) (WaitsForEdge p)
        (initial p positionM, .none) calls := by
  have hexists : ∃ o, Runs.exec (Runs.observed (step p) (StopObserver.next p))
      (initial p positionM, .none) calls = some (hw, o) := Runs.exists_exec_observed _ h
  obtain ⟨o, hobserved⟩ := hexists
  exact Runs.throughout_iff_meets (fun s e s' _ => stopHolds_iff p s e s') hobserved

/-! ## Runs on fixed inputs -/

/-- The lift moves when a new zero is requested, and the power command stays high. -/
def heldCalls : List Event :=
  Bench.start 1 (-200000) ++ Bench.enable 10 (-200000) (-1 / 2) ++
    [Event.write (Bench.writeAt 13), .resetZero (Bench.time 13), .write (Bench.writeAt 14),
      Bench.readAt 15 0x0021 (-200000)]

/-- The power command goes low behind the request, and high again. -/
def edgeCalls : List Event :=
  Bench.start 1 (-200000) ++ Bench.enable 10 (-200000) (-1 / 2) ++
    [Event.write (Bench.writeAt 13), .resetZero (Bench.time 13), .command ⟨.finite 0, 0, 0, 0⟩,
      .write (Bench.writeAt 14), Bench.readAt 15 0x0021 (-200000)] ++
    Bench.enable 15 (-200000) (-1 / 2) ++ [Event.write (Bench.writeAt 18)]

/-- The controlled stop of a request is over, its flag is still set and the power command has been
high all the time: the next write switches the drive on again. -/
theorem stop_undone : ∃ hw,
    Runs.exec (Runs.observed (step bench) (StopObserver.next bench)) (initial bench 0, .none)
        heldCalls = some (hw, .awaitsLow) ∧
      hw.brake.stopRequested = true ∧ hw.brake.previousPowerCommand = true ∧
      hw.powerCommand = true ∧
      (hw.write bench (Bench.writeAt 15)).frame.map LiftRxPdo.controlWord = some 0x0007 := by
  have h : (Runs.exec (Runs.observed (step bench) (StopObserver.next bench))
      (initial bench 0, .none) heldCalls).any (fun s => s.2 == .awaitsLow &&
        (s.1.brake.stopRequested && s.1.brake.previousPowerCommand && s.1.powerCommand) &&
        (s.1.write bench (Bench.writeAt 15)).frame.map LiftRxPdo.controlWord == some 0x0007) =
      true := by
    decide +kernel
  obtain ⟨⟨hw, o⟩, hexec, hall⟩ := (Option.any_eq_true _ _).mp h
  simp only [Bool.and_eq_true, beq_iff_eq] at hall
  obtain ⟨⟨rfl, ⟨hstop, hprevious⟩, hpower⟩, hword⟩ := hall
  exact ⟨hw, hexec, hstop, hprevious, hpower, hword⟩

theorem stopsHold_iff_edgeCalls :
    Runs.Throughout (Runs.observed (step bench) (StopObserver.next bench)) (StopHolds bench)
      (initial bench 0, .none) edgeCalls := by
  have hruns : (Runs.exec (step bench) (initial bench 0) edgeCalls).isSome = true := by
    decide +kernel
  obtain ⟨hw, hexec⟩ := Option.isSome_iff_exists.mp hruns
  have hpasses : Runs.passes (Runs.observed (step bench) (StopObserver.next bench))
      (fun s e => match e with
        | .write i => s.2.sample s.1.powerCommand == .none ||
          !(s.1.enableAsked bench && s.1.stopOver && s.1.driveAnswers bench i)
        | _ => true) (initial bench 0, .none) edgeCalls = true := by
    decide +kernel
  refine (stopsHold_iff bench hexec).mpr (Runs.meets_of_passes ?_ hpasses)
  rintro s e htest i rfl hwaits ⟨-, hasked, hover, hanswers⟩
  simp only [Bool.or_eq_true, beq_iff_eq, hasked, hover, hanswers] at htest
  exact hwaits (htest.resolve_right (by decide))

end LiftHardware

end Hardware

end JointController
