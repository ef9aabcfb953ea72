import JointController.Library.Observers
import JointController.Hardware.Calls
import JointController.Hardware.Cycle

/-!
# The gate in front of the motion output

When a write may send a velocity to the drive.

* `MotionObserver`: since when the drive has been enabled, and the healthy reads since the last
  transport fault.
* `GateOpen`: what holds in a cycle that sends a velocity.
* `write_gate`: a write sends a velocity only through the gate.
* `Tracks`, `step_tracks`: the observer and the hardware agree.
* `gatesMotion`: along every run.
-/

namespace JointController

namespace Hardware

namespace LiftHardware

variable (p : HardwareParameters) (hw : LiftHardware) (i : WriteInput)

/-! ## One cycle -/

/-- What a decision that allows motion shows about the drive and the link. -/
theorem allowsMotion_spec (h : hw.allowsMotion p i = true) :
    parseCia402Status hw.feedback.rxPdo.statusWord = .operationEnabled ∧
      hw.feedback.rxPdo.errorCode = 0 ∧ hw.feedback.rxPdo.modeDisplay = hw.expectedMode ∧
      i.status.linkState = .operational ∧ (hw.sampled p i).pdoFresh p i = true ∧
      p.expectedWorkingCounter ≤ i.status.workingCounter := by
  have hprepare := hw.prepare_constants p i
  have hrx : (hw.prepare p i).feedback.rxPdo = hw.feedback.rxPdo :=
    congrArg CycleConstants.rxPdo hprepare
  have hhoming : (hw.prepare p i).homing.active = hw.homing.active :=
    congrArg CycleConstants.homingActive hprepare
  obtain ⟨hstate, hhealth, hfault, -, -⟩ := Cia402Controller.step_allowMotion _ _ h
  simp only [Cia402Inputs.healthOk, Cia402Inputs.modeOk, Bool.and_eq_true, beq_iff_eq,
    Bool.not_eq_true'] at hhealth
  simp only [Cia402Inputs.fault, Bool.or_eq_false_iff, bne_eq_false_iff_eq] at hfault
  obtain ⟨⟨⟨⟨hlink, hfresh⟩, hcounter⟩, hmode⟩, -⟩ := hhealth
  refine ⟨hrx ▸ hstate, hrx ▸ hfault.2, ?_, eq_of_beq hlink, hfresh, of_decide_eq_true hcounter⟩
  have hexpected : (hw.prepare p i).expectedMode = hw.expectedMode := by
    unfold expectedMode
    rw [hhoming]
  exact hexpected ▸ hrx ▸ hmode

theorem sampled_pdoFresh (h : (hw.sampled p i).pdoFresh p i = true) :
    hw.feedbackIsFresh p i.now = true ∧ i.status.pdoFresh = true ∧
      hw.transport.faultActive = false := by
  have hsampled := hw.sampled_constants p i
  have hfault : (hw.sampled p i).transport.faultActive = hw.transport.faultActive :=
    congrArg CycleConstants.faultActive hsampled
  unfold pdoFresh at h
  rw [feedbackIsFresh_of_constants p hsampled, hfault] at h
  simp only [Bool.and_eq_true, Bool.not_eq_true'] at h
  exact ⟨h.1.1, h.1.2, h.2⟩

end LiftHardware

/-! ## The gate -/

/-- What holds in a cycle that sends a velocity.  `rise` is the time since when the decisions have
allowed motion, this cycle included. -/
structure GateOpen (p : HardwareParameters) (hw : LiftHardware) (i : WriteInput) (rise : Option ℕ) :
    Prop where
  -- the drive
  operationEnabled : parseCia402Status hw.feedback.rxPdo.statusWord = .operationEnabled
  modeMatches : hw.feedback.rxPdo.modeDisplay = 9
  noDriveError : hw.feedback.rxPdo.errorCode = 0
  -- the link
  linkOperational : i.status.linkState = .operational
  pdoFresh : i.status.pdoFresh = true
  feedbackFresh : hw.feedbackIsFresh p i.now = true
  workingCounterFull : p.expectedWorkingCounter ≤ i.status.workingCounter
  noTransportFault : hw.transport.faultActive = false
  -- the brake
  releaseWaitElapsed : 0 ≤ p.brakeReleaseWaitMs ∧
    ∃ t, rise = some t ∧ t + msToNs p.brakeReleaseWaitMs.toNat ≤ i.now
  -- the latches
  notBlocked : hw.motionBlocked = false ∧ (hw.write p i).hardware.motionBlocked = false
  noEstop : hw.estopLatched = false
  noStartupGuard : hw.startupGuardActive p i = false
  noFirstSync : hw.firstWriteSyncPending = false
  noHoming : hw.homing.active = false
  noResetStop : hw.takeover.velocityStopPending = false

/-- What a property of the motion output needs to know about the past: since when the decisions of
the writes have allowed motion, and how many healthy reads there have been since the last transport
fault. -/
structure MotionObserver where
  enabledSince : Option ℕ := none
  healthyReads : Option ℕ := none
  deriving DecidableEq

namespace MotionObserver

/-- The observer follows a call.  An activation begins anew, and so does a configuration with
respect to transport faults. -/
def next (p : HardwareParameters) (hw : LiftHardware) (e : Event) (o : MotionObserver) :
    MotionObserver :=
  match e with
  | .write i =>
    if hw.active then
      { enabledSince := if hw.allowsMotion p i then some (o.enabledSince.getD i.now) else none
        healthyReads := if i.writeOk then o.healthyReads else some 0 }
    else o
  | .read i =>
    if hw.active then
      { o with healthyReads :=
          if i.sample.isSome && i.status.healthy p then o.healthyReads.map (· + 1) else some 0 }
    else o
  | .configure i => if (hw.onConfigure p i).success then { o with healthyReads := none } else o
  | .activate i => if hw.configured && i.startOk then {} else o
  | _ => o

end MotionObserver

/-- A write sends a velocity to the drive. -/
def LiftHardware.sendsVelocity (p : HardwareParameters) (hw : LiftHardware) (i : WriteInput) :
    Bool :=
  (hw.write p i).frame.any fun frame => frame.targetVelocityUnitsPerS != 0

/-- A write that sends a velocity has gone through the gate, and the transport has been healthy for
as many reads as a recovery requires. -/
def GatesMotion (p : HardwareParameters) (s : LiftHardware × MotionObserver) (e : Event)
    (s' : LiftHardware × MotionObserver) : Prop :=
  ∀ i, e = .write i → s.1.sendsVelocity p i = true →
    GateOpen p s.1 i s'.2.enabledSince ∧
      ∀ n, s.2.healthyReads = some n → transportRecoveryRequiredCycles ≤ n

/-- The hardware and the observer agree. -/
structure Tracks (s : LiftHardware × MotionObserver) : Prop where
  enabled : s.1.brake.previousOperationEnabled = s.2.enabledSince.isSome
  since : ∀ t, s.2.enabledSince = some t → s.1.brake.enableTime = t
  recovered : s.1.transport.faultActive = false →
    ∀ n, s.2.healthyReads = some n → transportRecoveryRequiredCycles ≤ n
  recovering : s.1.transport.faultActive = true →
    s.2.healthyReads = some s.1.transport.recoveryHealthyCycles

namespace LiftHardware

variable (p : HardwareParameters) (hw : LiftHardware) (i : WriteInput)

/-- The time that the brake has been waited for is the one that the observer has noted. -/
theorem releaseWait_of_tracks {o : MotionObserver} (h : Tracks (hw, o)) {t : ℕ}
    (hrise : (if hw.allowsMotion p i ∧ ¬ hw.brake.previousOperationEnabled then i.now
      else hw.brake.enableTime) = t) (hallow : hw.allowsMotion p i = true) :
    o.enabledSince.getD i.now = t := by
  rw [hallow, h.enabled] at hrise
  cases hsince : o.enabledSince with
  | none =>
    rw [hsince] at hrise
    simpa using hrise
  | some t' =>
    rw [hsince] at hrise
    have htime : hw.brake.enableTime = t' := h.since t' hsince
    rw [Option.getD_some, ← htime]
    simpa using hrise

/-- A write sends a velocity only through the gate. -/
theorem write_gate {o : MotionObserver} (h : Tracks (hw, o))
    (hsends : hw.sendsVelocity p i = true) :
    GateOpen p hw i (MotionObserver.next p hw (.write i) o).enabledSince := by
  obtain ⟨frame, hframe, hmoves⟩ := (Option.any_eq_true _ _).mp hsends
  have hvelocity : frame.targetVelocityUnitsPerS ≠ 0 := bne_iff_ne.mp hmoves
  cases hactive : hw.active with
  | false =>
    rw [write_inactive p hw i hactive] at hframe
    exact absurd hframe.symm (Option.some_ne_none frame)
  | true =>
    have hemitted : (hw.emitted p i).1 = frame := by
      rw [write_active p hw i hactive] at hframe
      exact Option.some_inj.mp hframe
    have hdecided := hw.decided_constants p i
    rw [← hemitted] at hvelocity
    obtain ⟨hstop, hallow, hunlocked, -, hhoming, hestop, hguard, hsync, hblocked⟩ :=
      emit_velocity p _ i hvelocity
    obtain ⟨hstate, herror, hmode, hlink, hpdo, hcounter⟩ := hw.allowsMotion_spec p i hallow
    obtain ⟨hfresh, hpdoFresh, hfault⟩ := hw.sampled_pdoFresh p i hpdo
    have hnotHoming : hw.homing.active = false :=
      (congrArg CycleConstants.homingActive hdecided).symm.trans hhoming
    have hexpected : hw.expectedMode = 9 := by
      unfold expectedMode
      rw [hnotHoming]
      rfl
    -- the brake
    simp only [inferBrake, Bool.and_eq_true, Bool.not_eq_true', releaseWaitElapsed,
      decide_eq_true_eq] at hunlocked
    obtain ⟨⟨⟨-, hwait, htime⟩, -⟩, hnotBlocked⟩ := hunlocked
    have henableTime : (hw.decided p i).2.2.brake.enableTime = hw.brake.enableTime :=
      congrArg CycleConstants.enableTime hdecided
    have hprevious : (hw.decided p i).2.2.brake.previousOperationEnabled =
        hw.brake.previousOperationEnabled :=
      congrArg CycleConstants.previousOperationEnabled hdecided
    rw [henableTime, hprevious] at htime
    have hrise := releaseWait_of_tracks p hw i h rfl hallow
    have hnext : (MotionObserver.next p hw (.write i) o).enabledSince =
        some (o.enabledSince.getD i.now) := by
      unfold MotionObserver.next
      dsimp only
      rw [if_pos hactive]
      exact if_pos hallow
    exact
      { operationEnabled := hstate
        modeMatches := hmode.trans hexpected
        noDriveError := herror
        linkOperational := hlink
        pdoFresh := hpdoFresh
        feedbackFresh := hfresh
        workingCounterFull := hcounter
        noTransportFault := hfault
        releaseWaitElapsed := ⟨hwait, _, hnext, hrise ▸ htime⟩
        notBlocked :=
          ⟨decided_motionBlocked p hw i hnotBlocked,
            (write_motionBlocked p hw i hactive).trans hblocked⟩
        noEstop := (congrArg CycleConstants.estopLatched hdecided).symm.trans hestop
        noStartupGuard := (startupGuardActive_of_constants p i hdecided).symm.trans hguard
        noFirstSync := (congrArg CycleConstants.firstWriteSyncPending hdecided).symm.trans hsync
        noHoming := hnotHoming
        noResetStop := (applyPendingZeroOffset_takeover p hw i.now) ▸ hstop }

/-! ## Along a run -/

/-- The observer follows neither the emergency stop nor the zero. -/
theorem tracks_of_call {hw hw' : LiftHardware} {o : MotionObserver} {estopLatched : Bool}
    {zero : Zero} (h : Tracks (hw, o)) (hsame : hw'.callConstants =
      { hw.callConstants with estopLatched := estopLatched, zero := zero }) : Tracks (hw', o) := by
  have henabled : hw'.brake.previousOperationEnabled = hw.brake.previousOperationEnabled :=
    congrArg CallConstants.previousOperationEnabled hsame
  have htime : hw'.brake.enableTime = hw.brake.enableTime := congrArg CallConstants.enableTime hsame
  have hfault : hw'.transport.faultActive = hw.transport.faultActive :=
    congrArg CallConstants.faultActive hsame
  have hcycles : hw'.transport.recoveryHealthyCycles = hw.transport.recoveryHealthyCycles :=
    congrArg CallConstants.recoveryHealthyCycles hsame
  exact
    { enabled := henabled.trans h.enabled
      since := fun t ht => htime.trans (h.since t ht)
      recovered := fun hno => h.recovered (hfault ▸ hno)
      recovering := fun hyes => (h.recovering (hfault ▸ hyes)).trans (congrArg some hcycles.symm) }

theorem tracks_write {o : MotionObserver} (h : Tracks (hw, o)) :
    Tracks ((hw.write p i).hardware, MotionObserver.next p hw (.write i) o) := by
  cases hactive : hw.active with
  | false =>
    rw [write_inactive p hw i hactive]
    unfold MotionObserver.next
    rw [hactive]
    exact h
  | true =>
    have hconstants := hw.write_constants p i hactive
    have htime := congrArg CycleConstants.enableTime hconstants
    have hprevious := congrArg CycleConstants.previousOperationEnabled hconstants
    have hfault := congrArg CycleConstants.faultActive hconstants
    have hcycles := congrArg CycleConstants.recoveryHealthyCycles hconstants
    dsimp only [constants] at htime hprevious hfault hcycles
    unfold MotionObserver.next
    dsimp only
    rw [if_pos hactive]
    refine ⟨?_, ?_, ?_, ?_⟩
    · rw [hprevious]
      cases hw.allowsMotion p i <;> rfl
    · intro t ht
      dsimp only at ht ⊢
      split at ht
      · rename_i hallow
        rw [← Option.some_inj.mp ht, htime]
        exact (releaseWait_of_tracks p hw i h rfl hallow).symm
      · exact absurd ht.symm (Option.some_ne_none t)
    · intro hno n hn
      rw [hfault, Bool.or_eq_false_iff, Bool.not_eq_false'] at hno
      dsimp only at hn
      rw [if_pos hno.1] at hn
      exact h.recovered hno.2 n hn
    · intro hyes
      dsimp only
      rw [hcycles]
      split
      · rename_i hok
        rw [hfault, hok] at hyes
        exact h.recovering hyes
      · rfl

theorem tracks_updateTransportHealth {o : MotionObserver} (h : Tracks (hw, o)) (healthy : Bool) :
    Tracks (hw.updateTransportHealth healthy,
      { o with healthyReads := if healthy then o.healthyReads.map (· + 1) else some 0 }) := by
  unfold updateTransportHealth
  cases healthy with
  | false =>
    rw [if_pos Bool.false_ne_true]
    exact ⟨h.enabled, h.since, fun hno => absurd hno.symm Bool.false_ne_true, fun _ => rfl⟩
  | true =>
    rw [if_neg (not_not.mpr rfl)]
    cases hfault : hw.transport.faultActive with
    | false =>
      rw [if_pos Bool.false_ne_true]
      refine ⟨h.enabled, h.since, fun _ n hn => ?_, fun hyes => ?_⟩
      · obtain ⟨m, hm, rfl⟩ := Option.map_eq_some_iff.mp hn
        exact le_trans (h.recovered hfault m hm) (Nat.le_succ m)
      · exact absurd (hfault.symm.trans hyes) Bool.false_ne_true
    | true =>
      have hcount := h.recovering hfault
      rw [if_neg (not_not.mpr rfl)]
      dsimp only at hcount ⊢
      rw [hcount]
      split
      · exact ⟨h.enabled, h.since,
          fun hno => absurd (hfault.symm.trans hno).symm Bool.false_ne_true,
          fun _ => rfl⟩
      · rename_i hdone
        refine ⟨h.enabled, h.since, fun _ n hn => ?_, fun hyes => absurd hyes Bool.false_ne_true⟩
        rw [← Option.some_inj.mp hn]
        exact not_lt.mp hdone

theorem tracks_read {o : MotionObserver} (h : Tracks (hw, o)) (i : ReadInput) :
    Tracks ((hw.read p i).2, MotionObserver.next p hw (.read i) o) := by
  unfold read MotionObserver.next
  dsimp only
  cases hactive : hw.active with
  | false => exact h
  | true =>
    rw [if_neg (not_not.mpr rfl)]
    cases hsample : i.sample with
    | none =>
      exact ⟨h.enabled, h.since, fun hno => absurd hno.symm Bool.false_ne_true, fun _ => rfl⟩
    | some sample =>
      have hhealth := tracks_updateTransportHealth hw h (i.status.healthy p)
      exact tracks_of_call hhealth (readSample_call p hw i sample)

theorem tracks_activate {o : MotionObserver} (h : Tracks (hw, o)) (i : ActivateInput) :
    Tracks ((hw.onActivate p i).hardware, MotionObserver.next p hw (.activate i) o) := by
  have hcall := activate_call p hw i
  unfold MotionObserver.next
  dsimp only
  cases hready : hw.configured && i.startOk with
  | false =>
    rw [hready, if_neg Bool.false_ne_true] at hcall
    exact tracks_of_call h hcall
  | true =>
    rw [hready, if_pos rfl] at hcall
    have hprevious : (hw.onActivate p i).hardware.brake.previousOperationEnabled = false :=
      congrArg CallConstants.previousOperationEnabled hcall
    have hfault : (hw.onActivate p i).hardware.transport.faultActive = false :=
      congrArg CallConstants.faultActive hcall
    exact ⟨hprevious, fun _ ht => absurd ht.symm (Option.some_ne_none _),
      fun _ _ hn => absurd hn.symm (Option.some_ne_none _),
      fun hyes => absurd (hfault.symm.trans hyes) Bool.false_ne_true⟩

theorem tracks_configure {o : MotionObserver} (h : Tracks (hw, o)) (i : ConfigureInput) :
    Tracks ((hw.onConfigure p i).hardware, MotionObserver.next p hw (.configure i) o) := by
  unfold MotionObserver.next onConfigure
  dsimp only
  split
  · exact h
  · exact ⟨h.enabled, h.since, fun _ _ hn => absurd hn.symm (Option.some_ne_none _),
      fun hyes => absurd hyes Bool.false_ne_true⟩

/-- Every step keeps the observer and the hardware in agreement. -/
theorem step_tracks (s : LiftHardware × MotionObserver) (e : Event)
    (s' : LiftHardware × MotionObserver) (h : Tracks s)
    (hstep : Runs.observed (step p) (MotionObserver.next p) s e = some s') : Tracks s' := by
  obtain ⟨hnext, hobserver⟩ := Runs.observed_eq_some.mp hstep
  obtain ⟨-, hhandle⟩ := (step_eq_some p).mp hnext
  obtain ⟨hw, o⟩ := s
  obtain ⟨hw', o'⟩ := s'
  obtain rfl := hhandle
  obtain rfl := hobserver
  cases e with
  | read i => exact tracks_read p hw h i
  | write i => exact tracks_write p hw i h
  | configure i => exact tracks_configure p hw h i
  | activate i => exact tracks_activate p hw h i
  | resetZero now => exact tracks_of_call h (resetZero_call p hw now)
  | estop => exact tracks_of_call h rfl
  | safetyReset now => exact tracks_of_call h (safetyReset_call p hw now)
  | maintain m => exact tracks_of_call h (maintain_call p hw m)
  | publishStatus now saveOk => exact tracks_of_call h (completePendingZero_call p hw now saveOk)
  | _ => exact tracks_of_call h (asks_call p hw _ rfl)

/-- The output gate: along every run a velocity goes to the drive only through the gate, and after a
transport fault only once the transport has recovered. -/
theorem gatesMotion (positionM : ℚ) (calls : List Event) :
    Runs.Throughout (Runs.observed (step p) (MotionObserver.next p)) (GatesMotion p)
      (initial p positionM, {}) calls := by
  refine Runs.throughout_of_invariant (step_tracks p) ?_ ?_
  · rintro ⟨hw, o⟩ e ⟨hw', o'⟩ h hstep i rfl hsends
    obtain ⟨-, rfl⟩ := Runs.observed_eq_some.mp hstep
    have hgate := write_gate p hw i h hsends
    exact ⟨hgate, h.recovered hgate.noTransportFault⟩
  · exact ⟨rfl, fun _ ht => absurd ht.symm (Option.some_ne_none _),
      fun _ _ hn => absurd hn.symm (Option.some_ne_none _),
      fun hyes => absurd hyes Bool.false_ne_true⟩

/-! ## What does not close the gate -/

/-- The drive is enabled and moves while a request for a new zero waits for its disable. -/
def zeroCalls : List Event :=
  Bench.start 1 (-200000) ++ [Event.resetZero (Bench.time 7)] ++ Bench.enable 10 (-200000) (-1 / 2)

/-- The lift stands a little above its range when a reset takeover is not refreshed. -/
def takeoverCalls : List Event :=
  Bench.start 1 400 ++ Bench.enable 10 400 0 ++
    [Event.write (Bench.writeAt 13), .resetVelocity (Bench.time 13) true,
      Bench.readAt 33 0x0027 400]

/-- A transmission fails while the lift moves. -/
def faultCalls : List Event :=
  Bench.start 1 (-200000) ++ Bench.enable 10 (-200000) (-1 / 2) ++
    [Event.write { Bench.writeAt 13 with writeOk := false }]

/-- The lift is activated anew, with a bootstrap that sees an unhealthy sample among the others. -/
def recoveryCalls : List Event :=
  [Event.deactivate,
    .activate ⟨true, Bench.time 20, Bench.status,
      (List.range 6).map fun k => ⟨Bench.time (20 + k), some (Bench.sample 0x0021 (-200000)), true,
        { Bench.status with pdoFresh := k != 4 }⟩,
      Bench.time 26⟩] ++ Bench.enable 30 (-200000) (-1 / 2)

/-- The reads of a list of calls. -/
def readCount (calls : List Event) : ℕ :=
  calls.countP fun e => match e with
    | .read _ => true
    | _ => false

/-- A request for a new zero does not stop the lift, a takeover that expires within a cycle does not
stop that cycle, and an activation ends the recovery from a transport fault. -/
theorem gate_left_open :
    (∃ hw, Runs.exec (step bench) (initial bench 0) zeroCalls = some hw ∧
      hw.zero.requestPending = true ∧ hw.sendsVelocity bench (Bench.writeAt 14) = true) ∧
    (∃ hw, Runs.exec (step bench) (initial bench 0) takeoverCalls = some hw ∧
      (hw.write bench (Bench.writeAt 33)).hardware.takeover.velocityStopPending = true ∧
      hw.sendsVelocity bench (Bench.writeAt 33) = true) ∧
    (∃ hw, Runs.exec (step bench) (initial bench 0) (faultCalls ++ recoveryCalls) = some hw ∧
      readCount recoveryCalls < transportRecoveryRequiredCycles ∧
      hw.sendsVelocity bench (Bench.writeAt 33) = true) := by
  refine ⟨?_, ?_, ?_⟩
  · have h : (Runs.exec (step bench) (initial bench 0) zeroCalls).any (fun hw =>
        hw.zero.requestPending && hw.sendsVelocity bench (Bench.writeAt 14)) = true := by
      decide +kernel
    obtain ⟨hw, hexec, hboth⟩ := (Option.any_eq_true _ _).mp h
    exact ⟨hw, hexec, (Bool.and_eq_true_iff.mp hboth).1, (Bool.and_eq_true_iff.mp hboth).2⟩
  · have h : (Runs.exec (step bench) (initial bench 0) takeoverCalls).any (fun hw =>
        (hw.write bench (Bench.writeAt 33)).hardware.takeover.velocityStopPending &&
          hw.sendsVelocity bench (Bench.writeAt 33)) = true := by
      decide +kernel
    obtain ⟨hw, hexec, hboth⟩ := (Option.any_eq_true _ _).mp h
    exact ⟨hw, hexec, (Bool.and_eq_true_iff.mp hboth).1, (Bool.and_eq_true_iff.mp hboth).2⟩
  · have h : (Runs.exec (step bench) (initial bench 0) (faultCalls ++ recoveryCalls)).any
        (fun hw => hw.sendsVelocity bench (Bench.writeAt 33)) = true := by
      decide +kernel
    obtain ⟨hw, hexec, hsends⟩ := (Option.any_eq_true _ _).mp h
    exact ⟨hw, hexec, by decide, hsends⟩

end LiftHardware

end Hardware

end JointController
