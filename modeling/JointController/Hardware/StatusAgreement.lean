import JointController.Gateway.LiftStatusParser
import JointController.Hardware.DriverStatus

/-!
# An accepted status comes from a driver that may move

The lower gateway moves the lift on the status text that the driver publishes.  The text is read
back member by member, and the brake is only reported released while no motion latch is set.

* `ReleasedClear`: with the brake released no motion latch is set, in every reachable state.
* `Agrees`: a status has the flags and the codes of the hardware, with `agrees_of_parsed`.
* `movable_of_accepted`: what the gateway accepts comes from a movable driver.
* `Bench.release`: a run whose status is accepted.
-/

namespace JointController

namespace Hardware

open FlatJson Gateway.LiftStatusParser

namespace LiftHardware

variable (p : HardwareParameters) (hw : LiftHardware)

/-! ## A released brake and the motion latch -/

/-- With the brake released no motion latch is set, and the brake is under control. -/
def ReleasedClear : Prop :=
  hw.brake.unlocked = true → hw.motionBlocked = false ∧ p.brakeControlEnabled = true

variable {p hw}

theorem ReleasedClear.of_locked (h : hw.brake.unlocked = false) : hw.ReleasedClear p := by
  intro hunlocked
  exact absurd hunlocked (Bool.eq_false_iff.mp h)

/-- A call that does not release the brake and does not set the latch. -/
theorem ReleasedClear.of_keeps {hw' : LiftHardware} (h : hw.ReleasedClear p)
    (hunlocked : hw'.brake.unlocked = true → hw.brake.unlocked = true)
    (hblocked : hw'.motionBlocked = true → hw.motionBlocked = true) : hw'.ReleasedClear p := by
  intro hreleased
  obtain ⟨hclear, hcontrol⟩ := h (hunlocked hreleased)
  refine ⟨?_, hcontrol⟩
  by_contra hset
  exact absurd (hblocked (eq_true_of_ne_false hset)) (Bool.eq_false_iff.mp hclear)

variable (p hw)

/-! ### Reads -/

section Reads

variable {hw} (i : ReadInput) (sample : LiftTxPdo)

theorem updateTransportHealth_clear (h : hw.ReleasedClear p) (healthy : Bool) :
    (hw.updateTransportHealth healthy).ReleasedClear p := by
  unfold updateTransportHealth
  dsimp only
  split
  · exact h
  · split
    · exact h
    · split <;> exact h

theorem observeFeedbackContinuity_clear (h : hw.ReleasedClear p) (now : ℕ) (positionM : ℚ)
    (fresh : Bool) : (hw.observeFeedbackContinuity p now positionM fresh).ReleasedClear p := by
  unfold observeFeedbackContinuity
  dsimp only
  split
  · exact .of_locked rfl
  · exact h

theorem takeSample_clear (h : hw.ReleasedClear p) : (hw.takeSample p i sample).ReleasedClear p := by
  have hlinked : ReleasedClear p { hw with
      feedback := { hw.feedback with rxPdo := sample, positionUnits := sample.actualPositionUnits }
      transport := { hw.transport with
        linkState := i.status.linkState
        workingCounter := i.status.workingCounter } } := h
  exact updateTransportHealth_clear p hlinked (i.status.healthy p)

theorem followFeedback_clear (h : hw.ReleasedClear p) (positionM velocityMps : ℚ) :
    (hw.followFeedback p i positionM velocityMps).ReleasedClear p := by
  unfold followFeedback
  dsimp only
  refine observeFeedbackContinuity_clear p ?_ _ _ _
  split <;> exact h

theorem checkPositionLimits_clear (h : hw.ReleasedClear p) (positionM : ℚ) :
    (hw.checkPositionLimits p positionM).ReleasedClear p := by
  unfold checkPositionLimits
  dsimp only
  split
  · split
    · exact h
    · exact .of_locked rfl
  · exact h

theorem read_clear (h : hw.ReleasedClear p) : (hw.read p i).2.ReleasedClear p := by
  have hsample (sample : LiftTxPdo) : (hw.readSample p i sample).ReleasedClear p := by
    have htaken := takeSample_clear p i sample h
    have hhoming : ((hw.takeSample p i sample).observeHoming sample).ReleasedClear p := by
      unfold observeHoming
      split <;> exact htaken
    have hlimits := checkPositionLimits_clear p (followFeedback_clear p i hhoming
      (hw.samplePositionM p sample) (p.units.velocityUnitsToMps sample.actualVelocityUnitsPerS))
      (hw.samplePositionM p sample)
    unfold readSample checkVelocity
    dsimp only
    split
    · exact .of_locked rfl
    · exact hlimits
  unfold read
  split
  · exact h
  · split
    · exact .of_locked rfl
    · exact hsample _

end Reads

/-! ### Writes -/

section Writes

variable (i : WriteInput)

/-- A cycle only infers a released brake when the drive is enabled on request, and no latch is
set. -/
theorem inferBrake_clear (allowMotion : Bool)
    (h : allowMotion = true → p.brakeControlEnabled = true) :
    (hw.inferBrake p i allowMotion).ReleasedClear p := by
  intro hreleased
  simp only [inferBrake, Bool.and_eq_true, Bool.not_eq_true'] at hreleased
  exact ⟨hreleased.2, h hreleased.1.1.1⟩

theorem computeOutput_clear {hw : LiftHardware} (h : hw.ReleasedClear p)
    (firstWriteSync fresh allowMotion : Bool) :
    (hw.computeOutput p i firstWriteSync fresh allowMotion).2.ReleasedClear p := by
  have hfollow (hw : LiftHardware) (h : hw.ReleasedClear p) (periodS : ℚ) :
      (hw.followTarget p i.now periodS).2.ReleasedClear p := by
    unfold followTarget
    dsimp only
    split <;> exact h
  have hcompute (periodS : ℚ) : (hw.computeMotionCommand p i.now periodS).2.ReleasedClear p := by
    unfold computeMotionCommand
    dsimp only
    split
    · exact h
    · split
      · exact .of_locked rfl
      · split
        · exact h
        · refine hfollow _ ?_ periodS
          exact h
  have hloop : (hw.runMotionLoop p i allowMotion).2.ReleasedClear p := by
    unfold runMotionLoop
    split
    · exact hcompute _
    · exact h
  unfold computeOutput
  dsimp only
  split <;> exact hloop

theorem emit_clear (stopPending fresh : Bool) (decision : Cia402Decision)
    (controlWord : UInt16)
    (h : decision.allowMotion = true → p.brakeControlEnabled = true) :
    (hw.emit p i stopPending fresh decision controlWord).2.ReleasedClear p := by
  have hinferred : ((hw.inferBrake p i decision.allowMotion).syncCommands p i).ReleasedClear p :=
    inferBrake_clear p hw i decision.allowMotion h
  have houtput := computeOutput_clear p i hinferred
    (hw.inferBrake p i decision.allowMotion).firstWriteSyncPending fresh decision.allowMotion
  unfold emit stopTakeover
  dsimp only
  split <;> exact houtput

theorem write_clear {hw : LiftHardware} (h : hw.ReleasedClear p) :
    (hw.write p i).hardware.ReleasedClear p := by
  unfold write
  split
  · exact h
  · dsimp only
    generalize hdecided : (hw.prepare p i).decide402 p i ((hw.sampled p i).pdoFresh p i)
      ((hw.sampled p i).enableRequested p) = decided
    have hmotion : decided.1.allowMotion = true → p.brakeControlEnabled = true := by
      intro hallow
      rw [← hdecided] at hallow
      obtain ⟨-, -, -, hrequest, -⟩ := Cia402Controller.step_allowMotion _ _ hallow
      simp only [cia402Inputs, enableRequested, Bool.and_eq_true] at hrequest
      exact hrequest.1.1.1.2
    have hemitted := emit_clear p decided.2.2 i
      (hw.applyPendingZeroOffset p i.now).takeover.velocityStopPending
      ((hw.sampled p i).feedbackIsFresh p i.now) decided.1 decided.2.1 hmotion
    unfold transmit
    split
    · exact .of_locked rfl
    · dsimp only
      unfold observeDisable
      split <;> split <;> exact hemitted

end Writes

/-! ### Services and the lifecycle -/

section Services

variable {hw}

theorem completePendingZero_clear (h : hw.ReleasedClear p) (now : ℕ) (saveOk : Bool) :
    (hw.completePendingZero p now saveOk).ReleasedClear p := by
  unfold completePendingZero
  split
  · exact h
  · rename_i hready
    dsimp only
    split
    · exact h
    · split
      · -- the latch is set here with the brake as it is, which the request has waited for
        intro hreleased
        obtain ⟨-, hcontrol⟩ := h hreleased
        simp only [zeroReady, not_not, Bool.and_eq_true, hcontrol, Bool.not_true, Bool.false_or,
          Bool.not_eq_true'] at hready
        exact absurd hreleased (Bool.eq_false_iff.mp hready.1.1.2)
      · exact h

theorem handleBrakeCommand_clear (h : hw.ReleasedClear p) (data : Bool) :
    (hw.handleBrakeCommand p data).2.ReleasedClear p := by
  unfold handleBrakeCommand
  repeat' first | exact h | exact .of_locked rfl | split

theorem handleResetVelocity_clear (h : hw.ReleasedClear p) (now : ℕ) (data : Bool) :
    (hw.handleResetVelocity p now data).2.ReleasedClear p := by
  unfold handleResetVelocity
  repeat' first | exact h | split

theorem handleResetHold_clear (h : hw.ReleasedClear p) (now : ℕ) (data : Bool) :
    (hw.handleResetHold p now data).2.ReleasedClear p := by
  unfold handleResetHold
  repeat' first | exact h | split

theorem handleResetZero_clear (h : hw.ReleasedClear p) (now : ℕ) :
    (hw.handleResetZero p now).2.ReleasedClear p := by
  unfold handleResetZero
  repeat' first | exact h | exact .of_locked rfl | split

theorem handleSafetyReset_clear (h : hw.ReleasedClear p) (now : ℕ) :
    (hw.handleSafetyReset p now).2.ReleasedClear p := by
  have hno {P : Prop} (hset : false = true) : P := absurd hset Bool.false_ne_true
  unfold handleSafetyReset
  split
  · exact h
  · split
    · exact h
    · exact h.of_keeps id fun hset => hno hset

theorem handleHome_clear (h : hw.ReleasedClear p) (now : ℕ) :
    (hw.handleHome p now).2.ReleasedClear p := by
  unfold handleHome
  repeat' first | exact h | split

theorem handleSetDriveZero_clear (h : hw.ReleasedClear p) (now : ℕ) :
    (hw.handleSetDriveZero p now).2.ReleasedClear p := by
  unfold handleSetDriveZero
  repeat' first | exact h | split

theorem maintain_clear (h : hw.ReleasedClear p) (m : MaintenanceInput) :
    (hw.maintain p m).2.ReleasedClear p := by
  refine maintain_rule p (fun ha b hb => ?_)
    (fun ha => completePendingZero_clear p ha m.now m.saveOk) h
  obtain ⟨hblocked, -, hunlocked⟩ := hb
  exact ha.of_keeps hunlocked.symm.trans hblocked.symm.trans

theorem onConfigure_clear (h : hw.ReleasedClear p) (c : ConfigureInput) :
    (hw.onConfigure p c).hardware.ReleasedClear p := by
  have hno {P : Prop} (hset : false = true) : P := absurd hset Bool.false_ne_true
  unfold onConfigure
  split
  · exact h
  · exact h.of_keeps id fun hset => hno hset

theorem onActivate_clear (h : hw.ReleasedClear p) (a : ActivateInput) :
    (hw.onActivate p a).hardware.ReleasedClear p := by
  have hbooted := bootstrap_keeps p (I := fun s => s.brake.unlocked = false)
    (fun _ _ h => h) (fun _ _ _ _ _ h => h) a.rounds (hw.prepareActivation p a) {} rfl
  unfold onActivate
  split
  · exact h
  · dsimp only
    split
    · exact .of_locked hbooted
    · exact .of_locked hbooted

/-- No call releases the brake under a motion latch, or sets the latch under a released brake. -/
theorem handle_clear (h : hw.ReleasedClear p) (e : Event) :
    (hw.handle p e).hardware.ReleasedClear p := by
  cases e with
  | command commands => exact h
  | read i => exact read_clear p i h
  | write i => exact write_clear p i h
  | configure c => exact onConfigure_clear p h c
  | activate a => exact onActivate_clear p h a
  | deactivate => exact .of_locked rfl
  | brakeCommand data => exact handleBrakeCommand_clear p h data
  | resetVelocity now data => exact handleResetVelocity_clear p h now data
  | resetHold now data => exact handleResetHold_clear p h now data
  | resetZero now => exact handleResetZero_clear p h now
  | estop => exact .of_locked rfl
  | safetyReset now => exact handleSafetyReset_clear p h now
  | home now => exact handleHome_clear p h now
  | setDriveZero now => exact handleSetDriveZero_clear p h now
  | maintain m => exact maintain_clear p h m
  | publishStatus now saveOk => exact completePendingZero_clear p h now saveOk

theorem releasedClear_of_reachable {positionM : ℚ}
    (h : Runs.Reachable (step p) (initial p positionM) hw) : hw.ReleasedClear p := by
  refine h.induction (.of_locked rfl) ?_
  intro s e s' hclear hstep
  obtain ⟨-, rfl⟩ := (step_eq_some p).mp hstep
  exact handle_clear p hclear e

end Services

/-! ## The text and the state -/

section Text

variable (format : NumberFormat) (shown : StatusCopies) (now : ℕ)

/-- A status has the flags and the codes of the hardware. -/
structure Agrees (status : LiftDriverStatus) : Prop where
  feedbackFresh : status.feedbackFresh = hw.publishedFresh p now
  ethercatOperational : status.ethercatOperational = hw.ethercatOperational
  workingCounterOk : status.workingCounterOk = hw.workingCounterOk p
  initialized : status.initialized = hw.initialized
  cia402State : status.cia402State = ciaStateString (parseCia402Status hw.feedback.statusWord)
  statusWord : status.statusWord = hw.feedback.statusWord
  errorCode : status.errorCode = hw.feedback.errorCode
  commandEnabled : status.commandEnabled = hw.effectiveEnableCommand
  enabled : status.enabled = hw.powerEnabled
  brakeUnlocked : status.brakeUnlocked = hw.brake.unlocked
  estopLatched : status.estopLatched = hw.estopLatched
  motionBlocked : status.motionBlocked = hw.motionBlocked
  quickStopActive : status.quickStopActive = hw.quickStopActive

variable {p hw format shown now}

/-- What is read for a flag of the text. -/
theorem flag_read {root : Members} {key : String} {b b' : Bool}
    (hfind : find root key.toList = some (.boolean b)) (hread : requiredBool root key = .ok b') :
    b' = b := Except.ok.inj (hread.symm.trans (requiredBool_of_find hfind))

/-- What is read for a 16-bit code of the text. -/
theorem code_read {root : Members} {key : String} {code code' : UInt16}
    (hfind : find root key.toList = some (.integer code.toNat))
    (hread : ∃ n, requiredInteger root key 0 65535 = .ok n ∧ code' = UInt16.ofNat n.toNat) :
    code' = code := by
  obtain ⟨n, hn, rfl⟩ := hread
  rw [eq_of_requiredInteger hfind hn, Int.toNat_natCast, UInt16.ofNat_toNat]

theorem value_of_code (code : UInt16) :
    (Literal.integer code.toNat).value? = some (.integer code.toNat) := by
  have hlt : code.toNat < 2 ^ 16 := code.toNat_lt
  have hrange : -2 ^ 63 ≤ (code.toNat : ℤ) ∧ (code.toNat : ℤ) < 2 ^ 63 := by omega
  rw [Literal.value?, if_pos hrange]

/-- A status that was read from the text has the flags and the codes of the hardware. -/
theorem agrees_of_parsed {parse : List Char → Except String Document} (hparse : Faithful parse)
    {status : LiftDriverStatus}
    (h : parseLiftDriverStatus parse (hw.statusText p format shown now) = .ok status) :
    hw.Agrees p now status := by
  obtain ⟨root, hroot, hreads⟩ := parse_reads h
  obtain ⟨values, hvalues, hfind⟩ :=
    hparse _ _ (statusMembers_plain p format shown hw now) hroot
  obtain rfl : root = values := Document.object.inj hvalues
  -- the member of the text at an index
  have hmember (i : ℕ) {key : String} {literal : Literal} {value : Value}
      (hi : (hw.statusMembers p format shown now)[i]? = some (key, literal))
      (hvalue : literal.value? = some value) : find root key.toList = some value :=
    hfind _ (List.mem_map_of_mem (List.mem_of_getElem? hi)) value hvalue
  exact
    { feedbackFresh := flag_read (hmember 8 rfl rfl) hreads.feedbackFresh
      ethercatOperational := flag_read (hmember 10 rfl rfl) hreads.ethercatOperational
      workingCounterOk := flag_read (hmember 12 rfl rfl) hreads.workingCounterOk
      initialized := flag_read (hmember 15 rfl rfl) hreads.initialized
      cia402State := Except.ok.inj (hreads.cia402State.symm.trans
        (requiredString_of_find (hmember 2 rfl rfl)))
      statusWord := code_read (hmember 3 rfl (value_of_code _)) hreads.statusWord
      errorCode := code_read (hmember 4 rfl (value_of_code _)) hreads.errorCode
      commandEnabled := flag_read (hmember 16 rfl rfl) hreads.commandEnabled
      enabled := flag_read (hmember 17 rfl rfl) hreads.enabled
      brakeUnlocked := flag_read (hmember 19 rfl rfl) hreads.brakeUnlocked
      estopLatched := flag_read (hmember 21 rfl rfl) hreads.estopLatched
      motionBlocked := flag_read (hmember 22 rfl rfl) hreads.motionBlocked
      quickStopActive := flag_read (hmember 26 rfl rfl) hreads.quickStopActive }

end Text

/-! ## What the gateway accepts -/

/-- The driver may move the lift: no motion latch and no emergency stop is set, and the drive is
enabled, without an error, and its brake is released. -/
structure Movable : Prop where
  motionBlocked : hw.motionBlocked = false
  estopLatched : hw.estopLatched = false
  powerEnabled : hw.powerEnabled = true
  brakeUnlocked : hw.brake.unlocked = true
  operationEnabled : parseCia402Status hw.feedback.statusWord = .operationEnabled
  errorCode : hw.feedback.errorCode = 0

theorem operationEnabled_of_bits {statusWord : UInt16} (h : cia402StateBits statusWord = 0x0027) :
    parseCia402Status statusWord = .operationEnabled := by
  unfold parseCia402Status
  unfold cia402StateBits at h
  rw [h]
  rfl

/-- A published status that the gateway reads and accepts for motion comes from a driver that may
move, and has its flags. -/
theorem movable_of_accepted {positionM : ℚ} {hw : LiftHardware}
    (hreachable : Runs.Reachable (step p) (initial p positionM) hw) (format : NumberFormat)
    (shown : StatusCopies) {parse : List Char → Except String Document} (hparse : Faithful parse)
    {now : ℕ} {saveOk workspaceRunning : Bool} {status : LiftDriverStatus}
    (hparsed : parseLiftDriverStatus parse
      (hw.publishDriverStatus p format shown now saveOk).1 = .ok status)
    (haccepted : status.liftMotionPreconditionsMet workspaceRunning = .ok ()) :
    (hw.publishDriverStatus p format shown now saveOk).2.Movable ∧
      (hw.publishDriverStatus p format shown now saveOk).2.Agrees p now status := by
  have hagrees := agrees_of_parsed hparse hparsed
  have hshows := LiftDriverStatus.shows_of_met haccepted
  have hreleased : (hw.completePendingZero p now saveOk).brake.unlocked = true :=
    hagrees.brakeUnlocked.symm.trans hshows.brakeUnlocked
  have hclear := completePendingZero_clear p (releasedClear_of_reachable p hreachable) now saveOk
  refine ⟨?_, hagrees⟩
  exact
    { motionBlocked := (hclear hreleased).1
      estopLatched := hagrees.estopLatched.symm.trans hshows.estopLatched
      powerEnabled := hagrees.enabled.symm.trans hshows.enabled
      brakeUnlocked := hreleased
      operationEnabled := operationEnabled_of_bits (hagrees.statusWord ▸ hshows.operationEnabled)
      errorCode := hagrees.errorCode.symm.trans hshows.errorCode }

end LiftHardware

/-! ## A status on the bench -/

namespace Bench

/-- The numbers of a status on the bench, as a stream prints them. -/
def print (x : Double) : NumberText :=
  if x = .finite (1 / 10) then ⟨['0', '.', '1'], List.all_eq_true.mp rfl⟩
  else if x = .finite (1 / 5) then ⟨['0', '.', '2'], List.all_eq_true.mp rfl⟩
  else if x = .finite (1 / 10 ^ 6) then ⟨['1', 'e', '-', '0', '6'], List.all_eq_true.mp rfl⟩
  else if x = .finite 10 then ⟨['1', '0'], List.all_eq_true.mp rfl⟩
  else if x = .finite 10000 then ⟨['1', '0', '0', '0', '0'], List.all_eq_true.mp rfl⟩
  else ⟨['0'], List.all_eq_true.mp rfl⟩

/-- The format of the bench. -/
def format : NumberFormat := ⟨print, print⟩

/-- What only the text shows, for a lift that stands still on the mock backend. -/
def shown : StatusCopies where
  targetWireRpm := 0
  targetVelocityUnits := 0
  faultResetAttempts := 0
  recoveryExhausted := false
  feedbackBaselineValid := true
  feedbackEpoch := 1
  jump := ⟨0, 0, 0, 0, 1, 1⟩
  backendName := ⟨['m', 'o', 'c', 'k'], List.all_eq_true.mp rfl⟩

/-- The lift is started, enabled and has its brake released. -/
def release : List Event := start 1 0 ++ enable 7 0 0 ++ [Event.write (writeAt 10)]

/-- The gateway reads a text and accepts it for motion. -/
def accepts (text : List Char) : Bool :=
  (parseLiftDriverStatus read text).toOption.any fun status =>
    (status.liftMotionPreconditionsMet true).toOption.isSome

theorem exists_of_accepts {text : List Char} (h : accepts text = true) :
    ∃ status, parseLiftDriverStatus read text = .ok status ∧
      status.liftMotionPreconditionsMet true = .ok () := by
  unfold accepts at h
  cases hparse : parseLiftDriverStatus read text with
  | error e =>
    rw [hparse] at h
    exact absurd h Bool.false_ne_true
  | ok status =>
    rw [hparse] at h
    refine ⟨status, rfl, ?_⟩
    cases hmet : status.liftMotionPreconditionsMet true with
    | ok _ => rfl
    | error e =>
      simp [Except.toOption, hmet] at h

end Bench

namespace LiftHardware

/-- The gateway accepts the status of the lift on the bench. -/
theorem movable_of_accepted_bench :
    ∃ hw, Runs.Reachable (step bench) (initial bench 0) hw ∧
      (hw.publishDriverStatus bench Bench.format Bench.shown (Bench.time 10) true).2.Movable := by
  obtain ⟨hw, -, hreachable, haccepts⟩ := Runs.reachable_of_run (step bench) (initial bench 0)
    Bench.release (fun hw => Bench.accepts
      (hw.publishDriverStatus bench Bench.format Bench.shown (Bench.time 10) true).1)
    (by decide +kernel)
  obtain ⟨status, hparsed, haccepted⟩ := Bench.exists_of_accepts haccepts
  exact ⟨hw, hreachable, (movable_of_accepted bench hreachable Bench.format Bench.shown
    faithful_read hparsed haccepted).1⟩

end LiftHardware

end Hardware

end JointController
