import JointController.Lift.BrakeGate

/-!
# The latched fault of the lift

A fault stops the lift where it stands.  Its mode is left like any other one, though: what comes in
while the lift is in fault is executed.

* `KeepsFault`: a step leaves the lift in fault, and a cycle writes the sample that it has written
  before.
* `jog_leaves_fault`: a new command ends the fault, and the lift moves.
* `Undisturbed`: the cycles in fault that nothing comes in to.
* `Frozen`, `frozen_step`: the setpoint of a fault is a finite standing sample.
* `keepsFault_of_undisturbed`: an undisturbed fault lasts until the next activation.
-/

namespace JointController

namespace Lift

namespace LiftController

variable {otg : TrajectoryGenerator} (p : LiftParameters) (i : UpdateInput)
  (c : LiftController otg) {c' c'' : LiftController otg}

/-! ## The property -/

/-- The interfaces ask for the same setpoint. -/
def SameSetpoint (a b : CommandInterfaces) : Prop :=
  a.position = b.position ∧ a.velocity = b.velocity ∧ a.acceleration = b.acceleration

/-- A fault lasts until the lift is activated, and no cycle changes the setpoint of the lift in
fault. -/
def KeepsFault (c : LiftController otg) (e : Event) (c' : LiftController otg) : Prop :=
  c.mode = .fault → (∀ state, e ≠ .activate state) →
    c'.mode = .fault ∧ ∀ i, e = .update i → SameSetpoint c'.interfaces c.interfaces

/-- The fault lasts for the whole run that keeps it, if no step of it is an activation. -/
theorem KeepsFault.run {run : List Event} (hrun : ∀ e ∈ run, ∀ state, e ≠ .activate state) :
    ∀ {c c' : LiftController otg}, Runs.Throughout (step p) KeepsFault c run →
      Runs.exec (step p) c run = some c' → c.mode = .fault → c'.mode = .fault := by
  induction run with
  | nil =>
    intro c c' _ hexec hfault
    obtain rfl := Option.some_inj.mp hexec
    exact hfault
  | cons e run ih =>
    intro c c' hall hexec hfault
    obtain ⟨d, hd, hexec⟩ := Runs.exec_cons_eq_some.mp hexec
    obtain ⟨hkeeps, hall⟩ := hall d hd
    have hlater : ∀ e ∈ run, ∀ state, e ≠ .activate state := fun e he =>
      hrun e (List.mem_cons_of_mem _ he)
    exact ih hlater hall hexec (hkeeps hfault (hrun e List.mem_cons_self)).1

/-- The driver gate is lost during a jog, and the lift goes into fault. -/
def faultRun : List Event :=
  [.activate standing, .driverStatus (10 * 10 ^ 6) readyReport, .jog (.finite (-1 / 100)),
    .update ⟨standing, 20 * 10 ^ 6, 1 / 100, true⟩,
    .update ⟨standing, 120 * 10 ^ 6, 1 / 100, true⟩,
    .driverStatus (125 * 10 ^ 6) { readyReport with operationEnabled := false },
    .update ⟨standing, 130 * 10 ^ 6, 1 / 100, true⟩]

/-- A new jog comes in. -/
def rejogRun : List Event :=
  [.driverStatus (140 * 10 ^ 6) readyReport, .jog (.finite (-2 / 100)),
    .update ⟨standing, 150 * 10 ^ 6, 1 / 100, true⟩,
    .update ⟨standing, 250 * 10 ^ 6, 1 / 100, true⟩]

/-- The lift moves again without having been activated. -/
theorem jog_leaves_fault :
    ∃ c c' : LiftController immediateGenerator,
      Runs.exec (step defaultParameters) (configured defaultParameters) faultRun = some c ∧
      c.mode = .fault ∧ Runs.exec (step defaultParameters) c rejogRun = some c' ∧
      c'.mode = .jog ∧
      ¬ Runs.Throughout (step defaultParameters) KeepsFault
        (configured defaultParameters : LiftController immediateGenerator)
        (faultRun ++ rejogRun) := by
  obtain ⟨c, hc, -, hP⟩ := Runs.reachable_of_run (step defaultParameters)
    (configured defaultParameters : LiftController immediateGenerator) faultRun
    (fun c => c.mode == .fault &&
      (Runs.exec (step defaultParameters) c rejogRun).any fun c' => c'.mode == .jog)
    (by decide +kernel)
  simp only [Bool.and_eq_true, Option.any_eq_true, beq_iff_eq] at hP
  obtain ⟨hfault, c', hc', hjog⟩ := hP
  refine ⟨c, c', hc, hfault, hc', hjog, fun hall => ?_⟩
  have hlater : ∀ e ∈ rejogRun, ∀ state, e ≠ .activate state := by
    simp [rejogRun]
  have hlasts := KeepsFault.run defaultParameters hlater (hall.of_append hc) hc' hfault
  cases hjog.symm.trans hlasts

/-! ## The condition -/

/-- A cycle in fault takes nothing in: its state interfaces are finite, no emergency stop is
latched, no command or trajectory is new, the zero frame is the one that the controller has, and the
fault did not begin with interfaces that were not finite. -/
structure Undisturbed (c : LiftController otg) (i : UpdateInput) : Prop where
  finite : i.state.finite = true
  estop : c.driver.estopLatched = false
  command : c.newCommand = none
  trajectory : c.takesTrajectory i = false
  zeroFrame : c.driver.zeroGenerationValid = true →
    c.driver.zeroGeneration = c.appliedZeroGeneration
  sample : c.commandSample.valid = true

instance : Decidable (Undisturbed c i) :=
  decidable_of_iff (i.state.finite = true ∧ c.driver.estopLatched = false ∧
      c.newCommand.isNone = true ∧ c.takesTrajectory i = false ∧
      (c.driver.zeroGenerationValid = true → c.driver.zeroGeneration = c.appliedZeroGeneration) ∧
      c.commandSample.valid = true)
    ⟨fun ⟨hfinite, hestop, hcommand, htrajectory, hzero, hsample⟩ =>
        ⟨hfinite, hestop, Option.isNone_iff_eq_none.mp hcommand, htrajectory, hzero, hsample⟩,
      fun h => ⟨h.finite, h.estop, Option.isNone_iff_eq_none.mpr h.command, h.trajectory,
        h.zeroFrame, h.sample⟩⟩

/-- Every cycle in fault is undisturbed. -/
def FaultUndisturbed (c : LiftController otg) : Event → Prop
  | .update i => c.mode = .fault → Undisturbed c i
  | _ => True

instance (c : LiftController otg) (e : Event) : Decidable (FaultUndisturbed c e) := by
  cases e <;> unfold FaultUndisturbed <;> infer_instance

/-! ## A standing setpoint -/

/-- The sample is finite and valid. -/
structure Sound (sample : LiftMotionSample) : Prop where
  position : sample.positionM.isFinite = true
  velocity : sample.velocityMps.isFinite = true
  acceleration : sample.accelerationMps2.isFinite = true
  valid : sample.valid = true

theorem sound_hold (l : LiftMotionLimits) (profile : LiftMotionProfile otg) {x : Double}
    (h : x.isFinite = true) : Sound (profile.hold l x).state where
  position := Double.isFinite_clamp h rfl rfl
  velocity := Double.isFinite_clamp rfl rfl rfl
  acceleration := Double.isFinite_clamp rfl rfl rfl
  valid := rfl

/-- The interfaces show the sample. -/
def Shows (interfaces : CommandInterfaces) (sample : LiftMotionSample) : Prop :=
  interfaces.position = p.limits.clampPosition sample.positionM ∧
    interfaces.velocity = sample.velocityMps ∧ interfaces.acceleration = sample.accelerationMps2

theorem shows_writeCommandInterfaces {sample : LiftMotionSample} (h : Sound sample) :
    Shows p (c.writeCommandInterfaces p sample).interfaces sample := by
  unfold writeCommandInterfaces Shows
  dsimp only
  rw [h.position, h.velocity, h.acceleration]
  exact ⟨rfl, rfl, rfl⟩

/-- The setpoint of the lift is the finite sample of its profile, and the brake is to be locked. -/
structure AtRest (c : LiftController otg) : Prop where
  brake : c.powerEnableRequested = false
  profile : c.profile.state = c.commandSample
  sound : Sound c.commandSample

/-- The setpoint of a fault stands still, unless the fault began with interfaces that were not
finite. -/
structure Frozen (c : LiftController otg) : Prop where
  brake : c.powerEnableRequested = false
  rest : c.commandSample.valid = true → AtRest c ∧ Shows p c.interfaces c.commandSample

/-! ## A cycle that goes into fault -/

/-- The controller has measured a position, and if it is in fault its profile stands still. -/
structure Braced (x : Double) (c : LiftController otg) : Prop where
  measured : c.measuredPositionM = x
  fault : c.mode = .fault → c.powerEnableRequested = false ∧ Sound c.profile.state

/-- The same once the mode of the cycle has chosen the setpoint. -/
structure Rested (x : Double) (c : LiftController otg) : Prop where
  measured : c.measuredPositionM = x
  fault : c.mode = .fault → AtRest c

variable {c} {x : Double}

theorem Braced.of_mode (hmeasured : c.measuredPositionM = x) {mode : Mode} (hmode : c.mode = mode)
    (h : mode ≠ .fault) : Braced x c :=
  ⟨hmeasured, fun hfault => absurd (hmode.symm.trans hfault) h⟩

theorem Rested.of_mode (hmeasured : c.measuredPositionM = x) {mode : Mode} (hmode : c.mode = mode)
    (h : mode ≠ .fault) : Rested x c :=
  ⟨hmeasured, fun hfault => absurd (hmode.symm.trans hfault) h⟩

theorem Braced.intake (h : Braced x c) : Braced x (c.intake p i) := by
  have hestop : Braced x (c.leaveEstop p) := by
    unfold leaveEstop
    split_ifs
    · exact .of_mode h.measured rfl (by rintro ⟨⟩)
    · exact h
  have hobserve : Braced x (c.leaveEstop p).observeLeaseGate := ⟨hestop.measured, hestop.fault⟩
  show Braced x ((c.leaveEstop p).observeLeaseGate.takeTrajectory p i)
  generalize (c.leaveEstop p).observeLeaseGate = d at hobserve
  unfold takeTrajectory discardNative dropPendingTrajectory
  split_ifs
  · exact ⟨hobserve.measured, hobserve.fault⟩
  · exact ⟨hobserve.measured, hobserve.fault⟩
  · split
    · exact .of_mode hobserve.measured rfl (by rintro ⟨⟩)
    · exact hobserve

theorem Braced.executeStop (h : Braced x c) (s : Selection) : Braced x (c.executeStop p s) := by
  have hcancelled : (c.cancelled s).measuredPositionM = x := by
    unfold cancelled applyCancellation cancelPendingTrajectory
    split_ifs <;> exact h.measured
  have hstops := stops_executeStop p c s
  generalize c.executeStop p s = c' at hstops ⊢
  cases hstops with
  | hold => exact .of_mode hcancelled rfl (by rintro ⟨⟩)
  | brake => exact .of_mode hcancelled rfl (by rintro ⟨⟩)
  | softStop => exact .of_mode hcancelled rfl (by rintro ⟨⟩)

theorem Braced.execute (h : Braced x c) (hx : x.isFinite = true) (s : Selection) :
    Braced x (c.execute p i s).2 := by
  have hconsume : Braced x (c.consume s) := by
    unfold consume
    split_ifs
    · exact ⟨h.measured, h.fault⟩
    · exact h
  have hexecutes := executes p i c s
  generalize (c.execute p i s).2 = c' at hexecutes ⊢
  cases hexecutes with
  | stop => exact hconsume.executeStop p s
  | waits => exact ⟨hconsume.measured, hconsume.fault⟩
  | jog htype hmode =>
    unfold executeJog
    dsimp only
    split_ifs
    · exact .of_mode hconsume.measured hmode (by rintro ⟨⟩)
    · refine ⟨hconsume.measured, fun _ => ⟨rfl, sound_hold _ _ ?_⟩⟩
      rw [hconsume.measured]
      exact hx
  | stream => exact ⟨hconsume.measured, hconsume.fault⟩
  | gate => exact .of_mode hconsume.measured rfl (by rintro ⟨⟩)
  | nothing => exact hconsume

theorem Braced.dispatch (h : Braced x c) (hx : x.isFinite = true) :
    Braced x (c.dispatch p i).2 := by
  have hselect : Braced x c.selectCommand.2 := by
    unfold selectCommand
    split_ifs <;> exact ⟨h.measured, h.fault⟩
  unfold LiftController.dispatch
  split
  · exact hselect.execute p i hx _
  · exact hselect

theorem Braced.checkDriverGate (h : Braced x c) (hx : x.isFinite = true) :
    Braced x (c.checkDriverGate p i) := by
  have hmeasured : (c.failPendingHold .driverGate).measuredPositionM = x := by
    unfold failPendingHold
    split_ifs <;> exact h.measured
  unfold LiftController.checkDriverGate
  split_ifs
  · refine ⟨hmeasured, fun _ => ⟨rfl, sound_hold _ _ ?_⟩⟩
    rw [hmeasured]
    exact hx
  · exact h

/-- The controller has measured a position and is not in fault. -/
def Awake (x : Double) (c : LiftController otg) : Prop :=
  c.measuredPositionM = x ∧ c.mode ≠ .fault

theorem Awake.startTrajectoryPoint (h : Awake x c) (index : ℕ) :
    Awake x (c.startTrajectoryPoint p index).2 := by
  unfold LiftController.startTrajectoryPoint
  split <;> exact h

theorem Awake.beginSoftStop (h : Awake x c) (completion : SoftStopCompletion) (generation : ℕ) :
    Awake x (c.beginSoftStop p completion generation) := ⟨h.1, by rintro ⟨⟩⟩

theorem Awake.startGatedMotion (h : Awake x c) : Awake x (c.startGatedMotion p i.now) := by
  unfold LiftController.startGatedMotion startGatedCommand
  split_ifs
  · exact h
  · cases c.gatedCommand.type with
    | trajectory =>
      dsimp only
      set taken : LiftController otg := { c with
        gatedCommandValid := false
        trajectories := { c.trajectories with
          elapsedSec := 0, pointIndex := 0, waitingAtPoint := false } }
      have hpoint : Awake x (taken.startTrajectoryPoint p 0).2 :=
        Awake.startTrajectoryPoint (c := taken) p h 0
      split_ifs
      · exact ⟨hpoint.1, by rintro ⟨⟩⟩
      · exact hpoint.beginSoftStop p _ _
    | _ => exact ⟨h.1, by rintro ⟨⟩⟩

theorem Awake.nextTrajectoryPoint (h : Awake x c) : Awake x (c.nextTrajectoryPoint p) := by
  have hpoint (trajectories : Trajectories) (index : ℕ) :
      Awake x ({ c with trajectories := trajectories }.startTrajectoryPoint p index).2 :=
    Awake.startTrajectoryPoint (c := { c with trajectories := trajectories }) p h index
  unfold LiftController.nextTrajectoryPoint
  dsimp only
  split_ifs
  · exact hpoint _ _
  · exact (hpoint _ _).beginSoftStop p _ _
  · exact h

theorem Awake.brakeGateCycle (h : Awake x c) (streamSelected : Bool) :
    Awake x (c.brakeGateCycle p i streamSelected).controller := by
  have hstart := h.startGatedMotion p i
  unfold LiftController.brakeGateCycle
  dsimp only
  split_ifs
  · exact ⟨h.1, by rintro ⟨⟩⟩
  · exact h
  · exact hstart
  · exact hstart
  · exact h
  · exact h

theorem Awake.motionCycle (h : Awake x c) : Awake x (c.motionCycle p i) := by
  unfold LiftController.motionCycle
  split_ifs
  · exact ⟨h.1, by rintro ⟨⟩⟩
  · unfold trajectoryCycle
    dsimp only
    split_ifs
    · exact Awake.nextTrajectoryPoint p (c := LiftController.advanceProfile p i _) h
    · exact h
  · exact h
  · exact h
  · exact h

theorem Awake.runMode (h : Awake x c) (streamSelected : Bool) :
    Awake x (c.runMode p i streamSelected).controller := by
  unfold LiftController.runMode
  split_ifs
  · exact h.brakeGateCycle p i streamSelected
  · exact h.motionCycle p i

/-- No mode but the fault itself goes on in fault, and the fault shows its profile. -/
theorem Braced.runMode (h : Braced x c) (streamSelected : Bool) :
    Rested x (c.runMode p i streamSelected).controller := by
  by_cases hfault : c.mode = .fault
  · have hshows : (c.runMode p i streamSelected).controller = c.showProfile := by
      unfold LiftController.runMode motionCycle
      rw [hfault]
      rfl
    obtain ⟨hbrake, hsound⟩ := h.fault hfault
    rw [hshows]
    exact ⟨h.measured, fun _ => ⟨hbrake, rfl, hsound⟩⟩
  · obtain ⟨hmeasured, hmode⟩ := Awake.runMode p i ⟨h.measured, hfault⟩ streamSelected
    exact ⟨hmeasured, fun hfault => absurd hfault hmode⟩

theorem Rested.checkSample (h : Rested x c) (hx : x.isFinite = true) :
    Rested x (c.checkSample p) := by
  have hmeasured : (c.failPendingHold .motionProfile).measuredPositionM = x := by
    unfold failPendingHold
    split_ifs <;> exact h.measured
  unfold LiftController.checkSample
  split_ifs
  · exact h
  · have hsound := sound_hold p.limits (c.failPendingHold .motionProfile).profile
      (hmeasured.symm ▸ hx)
    exact ⟨hmeasured, fun _ => ⟨rfl, rfl, hsound⟩⟩

theorem Rested.finishSoftStop (h : Rested x c) : Rested x (c.finishSoftStop p) := by
  unfold LiftController.finishSoftStop
  dsimp only
  split_ifs
  · exact .of_mode h.measured rfl (by rintro ⟨⟩)
  · exact .of_mode h.measured rfl (by rintro ⟨⟩)
  · exact h

theorem Rested.checkGoal (h : Rested x c) : Rested x (c.checkGoal p i) := by
  have hsame {d : LiftController otg} (hmeasured : d.measuredPositionM = c.measuredPositionM)
      (hmode : d.mode = c.mode) (hbrake : d.powerEnableRequested = c.powerEnableRequested)
      (hprofile : d.profile = c.profile) (hsample : d.commandSample = c.commandSample) :
      Rested x d := by
    refine ⟨hmeasured.trans h.measured, fun hfault => ?_⟩
    obtain ⟨hb, hp, hs⟩ := h.fault (hmode.symm.trans hfault)
    exact ⟨hbrake.trans hb, by rw [hprofile, hsample, hp], hsample ▸ hs⟩
  unfold LiftController.checkGoal
  split
  · exact hsame rfl rfl rfl rfl rfl
  · split
    · exact hsame rfl rfl rfl rfl rfl
    · split
      · exact .of_mode h.measured rfl (by rintro ⟨⟩)
      · exact h

theorem Rested.applyZeroFrameResync (h : Rested x c) : Rested x (c.applyZeroFrameResync p) := by
  unfold LiftController.applyZeroFrameResync reseat
  dsimp only
  split_ifs with hframe hfinite hlatched
  · exact h
  · refine ⟨h.measured, fun hfault => ?_⟩
    exact ⟨(h.fault hfault).brake, rfl, sound_hold p.limits c.profile hfinite⟩
  · exact .of_mode h.measured rfl (by rintro ⟨⟩)
  · exact ⟨h.measured, fun hfault => ⟨(h.fault hfault).1, (h.fault hfault).2, (h.fault hfault).3⟩⟩

/-- What the end of a cycle leaves alone once the interfaces are written. -/
structure KeepsSetpoint (c c' : LiftController otg) : Prop where
  mode : c'.mode = c.mode
  profile : c'.profile = c.profile
  sample : c'.commandSample = c.commandSample
  brake : c'.powerEnableRequested = c.powerEnableRequested
  interfaces : c'.interfaces = c.interfaces

theorem KeepsSetpoint.trans (h : KeepsSetpoint c c') (h' : KeepsSetpoint c' c'') :
    KeepsSetpoint c c'' where
  mode := h'.mode.trans h.mode
  profile := h'.profile.trans h.profile
  sample := h'.sample.trans h.sample
  brake := h'.brake.trans h.brake
  interfaces := h'.interfaces.trans h.interfaces

theorem keepsSetpoint_confirmPendingHold : KeepsSetpoint c (c.confirmPendingHold p) := by
  unfold confirmPendingHold failPendingHold
  split_ifs <;> exact ⟨rfl, rfl, rfl, rfl, rfl⟩

theorem keepsSetpoint_acknowledge (s : Option Selection) (streamSelected : Bool) :
    KeepsSetpoint c ((c.acknowledgeConsumed s).2.acknowledgeFollow p i streamSelected).2 := by
  have hconsumed : KeepsSetpoint c (c.acknowledgeConsumed s).2 := by
    unfold acknowledgeConsumed
    split
    · split_ifs <;> exact ⟨rfl, rfl, rfl, rfl, rfl⟩
    · exact ⟨rfl, rfl, rfl, rfl, rfl⟩
  unfold acknowledgeFollow
  split_ifs
  · exact hconsumed.trans ⟨rfl, rfl, rfl, rfl, rfl⟩
  · exact hconsumed

theorem AtRest.keep (h : AtRest c) (hkeep : KeepsSetpoint c c') : AtRest c' where
  brake := hkeep.brake.trans h.brake
  profile := by rw [hkeep.profile, hkeep.sample, h.profile]
  sound := hkeep.sample ▸ h.sound

/-- A cycle ends with its interfaces written. -/
structure Written (s : Option Selection) (streamSelected : Bool) (c c' : LiftController otg) :
    Prop where
  eq : c' = ((((c.writeCommandInterfaces p c.commandSample).confirmPendingHold p
    ).acknowledgeConsumed s).2.acknowledgeFollow p i streamSelected).2

variable {s : Option Selection} {streamSelected : Bool}

theorem Written.keeps (h : Written p i s streamSelected c c') :
    KeepsSetpoint (c.writeCommandInterfaces p c.commandSample) c' := by
  rw [h.eq]
  exact (keepsSetpoint_confirmPendingHold p).trans (keepsSetpoint_acknowledge p i s _)

theorem Written.mode (h : Written p i s streamSelected c c') : c'.mode = c.mode :=
  (h.keeps p i).mode

/-- The interfaces that are written show the setpoint if it stands still. -/
theorem Written.atRest (h : Written p i s streamSelected c c') (hrest : AtRest c) :
    AtRest c' ∧ c'.commandSample = c.commandSample ∧ Shows p c'.interfaces c.commandSample := by
  have hwritten : AtRest (c.writeCommandInterfaces p c.commandSample) :=
    ⟨hrest.brake, hrest.profile, hrest.sound⟩
  refine ⟨hwritten.keep (h.keeps p i), (h.keeps p i).sample, ?_⟩
  rw [(h.keeps p i).interfaces]
  exact shows_writeCommandInterfaces p c hrest.sound

theorem Written.frozen (h : Written p i s streamSelected c c') (hrested : Rested x c)
    (hfault : c'.mode = .fault) : Frozen p c' := by
  have hrest : AtRest c := hrested.fault ((h.mode p i).symm.trans hfault)
  obtain ⟨hrest', hsample, hshows⟩ := h.atRest p i hrest
  exact ⟨hrest'.brake, fun _ => ⟨hrest', hsample ▸ hshows⟩⟩

/-- A cycle that goes into fault leaves the setpoint standing. -/
theorem frozen_update (hmode : c.mode ≠ .fault)
    (hfault : (c.update p i).controller.mode = .fault) :
    Frozen p (c.update p i).controller := by
  by_cases hfinite : i.state.finite = true
  · have hestop : c.driver.estopLatched = false := by
      by_contra hlatched
      rw [update_estop p i c hfinite (Bool.not_eq_false _ ▸ hlatched)] at hfault
      unfold estopCycle dropPendingTrajectory at hfault
      dsimp only at hfault
      split_ifs at hfault <;> cases hfault
    have hx : i.state.position.isFinite = true := by
      unfold StateInterfaces.finite at hfinite
      rw [Bool.and_eq_true, Bool.and_eq_true] at hfinite
      exact hfinite.1.1
    have hread : Braced i.state.position (c.readStateInterfaces i) := .of_mode rfl rfl hmode
    have hstage := ((hread.intake p i).dispatch p i hx).checkDriverGate p i hx
    rw [update_run p i c hfinite hestop] at hfault ⊢
    generalize (c.readStateInterfaces i).intake p i = d at hstage hfault ⊢
    have hended := ((((hstage.runMode p i (d.dispatch p i).1).checkSample p hx).finishSoftStop p
      ).checkGoal p i).applyZeroFrameResync p
    have hwritten : Written p i d.selectCommand.1 _ _ (d.runCycle p i).controller := ⟨rfl⟩
    exact hwritten.frozen p i hended hfault
  · have hcycle := update_nonFinite p i c (eq_false_of_ne_true hfinite)
    rw [hcycle]
    exact ⟨rfl, by rintro ⟨⟩⟩

/-! ## An undisturbed cycle -/

/-- What decides about the setpoint of a fault stays as it is. -/
structure Untouched (c c' : LiftController otg) : Prop where
  mode : c'.mode = c.mode
  profile : c'.profile = c.profile
  sample : c'.commandSample = c.commandSample
  brake : c'.powerEnableRequested = c.powerEnableRequested
  driver : c'.driver = c.driver
  zeroFrame : c'.appliedZeroGeneration = c.appliedZeroGeneration

/-- The new command depends on the buffers and on what has been consumed of the selected one. -/
theorem newCommand_congr (hinbox : c'.inbox = c.inbox)
    (hsafety : c'.consumedSafetyCommandGeneration = c.consumedSafetyCommandGeneration)
    (hheavy : c.inbox.heavyLeaseActive = true →
      c'.consumedHeavyCommandGeneration = c.consumedHeavyCommandGeneration)
    (hnative : c.inbox.heavyLeaseActive = false → c'.consumedGeneration = c.consumedGeneration) :
    c'.newCommand = c.newCommand := by
  unfold newCommand selectCommand
  rw [hinbox, hsafety]
  by_cases hnew : c.inbox.safetyCommandGeneration ≠ c.consumedSafetyCommandGeneration
  · simp [if_pos hnew, Option.filter_some, isNew]
  · rw [if_neg hnew, if_neg hnew]
    cases hlease : c.inbox.heavyLeaseActive with
    | true =>
      rw [hheavy hlease]
      by_cases hpending : c.inbox.heavyCommandGeneration ≠ c.consumedHeavyCommandGeneration
      · simp [if_pos hpending, Option.filter_some, isNew]
      · simp [if_neg hpending]
    | false => simp [Option.filter_some, isNew, hinbox, hnative hlease]

/-- The intake of a cycle in fault changes nothing unless a trajectory is taken over. -/
theorem untouched_intake (hfault : c.mode = .fault) (htrajectory : c.takesTrajectory i = false) :
    Untouched c (c.intake p i) ∧ (c.intake p i).newCommand = c.newCommand := by
  have hstays : c.leaveEstop p = c := by
    unfold leaveEstop
    rw [if_neg]
    intro hestop
    cases hfault.symm.trans hestop
  unfold intake takeTrajectory
  rw [hstays]
  cases hlease : c.inbox.heavyLeaseActive with
  | true =>
    rw [if_pos (show c.observeLeaseGate.inbox.heavyLeaseActive = true from hlease)]
    unfold discardNative dropPendingTrajectory
    refine ⟨?_, newCommand_congr ?_ ?_ (fun _ => ?_) (fun hclosed => ?_)⟩
    · split_ifs <;> exact ⟨rfl, rfl, rfl, rfl, rfl, rfl⟩
    · split_ifs <;> rfl
    · split_ifs <;> rfl
    · have hopen : c.observeLeaseGate.consumedHeavyCommandGeneration =
          c.consumedHeavyCommandGeneration := if_neg fun h => h.1 hlease
      split_ifs <;> exact hopen
    · cases hlease.symm.trans hclosed
  | false =>
    have hnone : c.newTrajectory i = none := by
      unfold takesTrajectory at htrajectory
      rw [hlease] at htrajectory
      exact Option.not_isSome_iff_eq_none.mp (by simpa using htrajectory)
    have hclosed : ¬ c.observeLeaseGate.inbox.heavyLeaseActive = true := ne_true_of_eq_false hlease
    have hsame : c.observeLeaseGate.newTrajectory i = none := hnone
    rw [if_neg hclosed, hsame]
    refine ⟨⟨rfl, rfl, rfl, rfl, rfl, rfl⟩, newCommand_congr rfl rfl (fun hopen => ?_) fun _ => rfl⟩
    cases hlease.symm.trans hopen

/-- The end of a cycle in a standing fault writes the setpoint, and nothing else. -/
theorem applyZeroFrameResync_fault (hfault : c.mode = .fault) (hrest : AtRest c)
    (hzero : c.driver.zeroGenerationValid = true →
      c.driver.zeroGeneration = c.appliedZeroGeneration) :
    ((((c.checkSample p).finishSoftStop p).checkGoal p i).applyZeroFrameResync p) =
      { c with goalStableActive := false } := by
  have hsample : c.checkSample p = c := if_pos hrest.sound.valid
  have hstop : c.finishSoftStop p = c := by
    unfold finishSoftStop
    rw [hfault, if_neg]
    rintro ⟨⟨⟩, -⟩
  have hgoal : c.checkGoal p i = { c with goalStableActive := false } := by
    unfold checkGoal atGoal
    rw [hfault, if_pos]
    simp
  rw [hsample, hstop, hgoal]
  unfold applyZeroFrameResync
  rw [if_pos]
  by_cases hvalid : c.driver.zeroGenerationValid = true
  · exact Or.inr (hzero hvalid)
  · exact Or.inl hvalid

/-- A cycle in a standing fault writes its sample again. -/
theorem undisturbed_runCycle (hfault : c.mode = .fault) (hrest : AtRest c)
    (hnone : c.newCommand = none) (hzero : c.driver.zeroGenerationValid = true →
      c.driver.zeroGeneration = c.appliedZeroGeneration) :
    (c.runCycle p i).controller.mode = .fault ∧ AtRest (c.runCycle p i).controller ∧
      (c.runCycle p i).controller.commandSample = c.commandSample ∧
      Shows p (c.runCycle p i).controller.interfaces c.commandSample := by
  have hselect : Untouched c c.selectCommand.2 := by
    unfold selectCommand
    split_ifs <;> exact ⟨rfl, rfl, rfl, rfl, rfl, rfl⟩
  have hdispatch : c.dispatch p i = (false, c.selectCommand.2) := by
    unfold dispatch
    rw [hnone]
  set d := c.selectCommand.2 with hd
  have hfault' : d.mode = .fault := hselect.mode.trans hfault
  have hrest' : AtRest d := by
    refine ⟨hselect.brake.trans hrest.brake, ?_, ?_⟩
    · rw [hselect.profile, hselect.sample, hrest.profile]
    · exact hselect.sample ▸ hrest.sound
  have hzero' : d.driver.zeroGenerationValid = true →
      d.driver.zeroGeneration = d.appliedZeroGeneration := by
    rw [hselect.driver, hselect.zeroFrame]
    exact hzero
  have hchecked : d.checkDriverGate p i = d := by
    unfold checkDriverGate
    rw [if_neg]
    rintro ⟨-, -, -, -, hbrake⟩
    cases hrest'.brake.symm.trans hbrake
  have hshown : d.showProfile = d := by
    unfold showProfile
    rw [hrest'.profile]
  have hran : d.runMode p i false = ⟨none, false, d⟩ := by
    unfold runMode motionCycle
    rw [hfault', hshown]
    rfl
  have hended := applyZeroFrameResync_fault p i hfault' hrest' hzero'
  have hwritten : Written p i c.selectCommand.1 false { d with goalStableActive := false }
      (c.runCycle p i).controller := by
    refine ⟨?_⟩
    unfold runCycle finishCycle
    rw [hdispatch]
    dsimp only
    rw [hchecked, hran]
    dsimp only
    rw [hended]
  obtain ⟨hrests, hsample, hshows⟩ :=
    hwritten.atRest p i ⟨hrest'.brake, hrest'.profile, hrest'.sound⟩
  refine ⟨(hwritten.mode p i).trans hfault', hrests, hsample.trans hselect.sample, ?_⟩
  rw [← hselect.sample]
  exact hshows

/-- An undisturbed cycle in a frozen fault leaves it frozen, with the same setpoint. -/
theorem undisturbed_update (hfault : c.mode = .fault) (hfrozen : Frozen p c)
    (h : Undisturbed c i) :
    (c.update p i).controller.mode = .fault ∧ Frozen p (c.update p i).controller ∧
      SameSetpoint (c.update p i).controller.interfaces c.interfaces := by
  obtain ⟨hrest, hshows⟩ := hfrozen.rest h.sample
  obtain ⟨hintake, hnew⟩ := untouched_intake (c := c.readStateInterfaces i) p i hfault h.trajectory
  rw [update_run p i c h.finite h.estop]
  set d := (c.readStateInterfaces i).intake p i with hd
  have hrest' : AtRest d := by
    refine ⟨hintake.brake.trans hrest.brake, ?_, ?_⟩
    · rw [hintake.profile, hintake.sample]
      exact hrest.profile
    · rw [hintake.sample]
      exact hrest.sound
  have hread : (c.readStateInterfaces i).newCommand = c.newCommand :=
    newCommand_congr rfl rfl (fun _ => rfl) fun _ => rfl
  have hnone : d.newCommand = none := hnew.trans (hread.trans h.command)
  have hzero : d.driver.zeroGenerationValid = true →
      d.driver.zeroGeneration = d.appliedZeroGeneration := by
    rw [hintake.driver, hintake.zeroFrame]
    exact h.zeroFrame
  have hsample : d.commandSample = c.commandSample := hintake.sample
  obtain ⟨hmode, hended, hkept, hshown⟩ :=
    undisturbed_runCycle p i (hintake.mode.trans hfault) hrest' hnone hzero
  refine ⟨hmode, ⟨hended.brake, fun _ => ⟨hended, hkept ▸ hshown⟩⟩, ?_⟩
  rw [hsample] at hshown
  exact ⟨hshown.1.trans hshows.1.symm, hshown.2.1.trans hshows.2.1.symm,
    hshown.2.2.trans hshows.2.2.symm⟩

/-! ## Runs of undisturbed faults -/

/-- While the controller is active its fault is frozen. -/
def FrozenFault (c : LiftController otg) : Prop :=
  c.inbox.active = true → c.mode = .fault → Frozen p c

theorem Frozen.keepsLoop (h : Frozen p c) (hkeep : KeepsLoop c c') : Frozen p c' where
  brake := hkeep.powerEnableRequested.trans h.brake
  rest := by
    rw [hkeep.commandSample, hkeep.interfaces]
    intro hvalid
    obtain ⟨hrest, hshows⟩ := h.rest hvalid
    refine ⟨⟨hkeep.powerEnableRequested.trans hrest.brake, ?_, ?_⟩, hshows⟩
    · rw [hkeep.profile, hkeep.commandSample, hrest.profile]
    · rw [hkeep.commandSample]
      exact hrest.sound

/-- The fault stays frozen in every step whose cycles are undisturbed. -/
theorem frozenFault_step {e : Event} (h : FrozenFault p c) (hquiet : FaultUndisturbed c e)
    (hstep : c.step p e = some c') : FrozenFault p c' := by
  intro hactive hfault
  cases e with
  | activate state =>
    rcases activate_cases p c hstep with ⟨-, hfresh⟩ | ⟨hinactive, -⟩
    · cases hfresh.mode.symm.trans hfault
    · cases hinactive.symm.trans hactive
  | deactivate state => cases (deactivate_inactive p c hstep).symm.trans hactive
  | update i =>
    obtain ⟨hrunning, rfl⟩ := update_of_step p c hstep
    by_cases hmode : c.mode = .fault
    · exact (undisturbed_update p i hmode (h hrunning hmode) (hquiet hmode)).2.1
    · exact frozen_update p i hmode hfault
  | _ =>
    have hkeep := keepsLoop_step p c rfl hstep
    exact (h (hkeep.active.symm.trans hactive) (hkeep.mode.symm.trans hfault)).keepsLoop p hkeep

theorem keepsFault_step {e : Event} (h : FrozenFault p c) (hquiet : FaultUndisturbed c e)
    (hstep : c.step p e = some c') : KeepsFault c e c' := by
  intro hfault hnone
  cases e with
  | activate state => exact absurd rfl (hnone state)
  | deactivate state =>
    dsimp only [step] at hstep
    split_ifs at hstep
    obtain rfl := Option.some_inj.mp hstep
    exact ⟨hfault, by rintro i ⟨⟩⟩
  | update i =>
    obtain ⟨hactive, rfl⟩ := update_of_step p c hstep
    obtain ⟨hmode, -, hsame⟩ := undisturbed_update p i hfault (h hactive hfault) (hquiet hfault)
    refine ⟨hmode, fun i' hi => ?_⟩
    obtain rfl := Event.update.inj hi
    exact hsame
  | _ => exact ⟨(keepsLoop_step p c rfl hstep).mode.trans hfault, by rintro i ⟨⟩⟩

/-- A run whose cycles in fault are undisturbed keeps every fault until the next activation. -/
theorem keepsFault_of_undisturbed {run : List Event}
    (h : Runs.Meets (step p) FaultUndisturbed (configured p : LiftController otg) run) :
    Runs.Throughout (step p) KeepsFault (configured p : LiftController otg) run := by
  refine Runs.throughout_of_meets (I := FrozenFault p) (C := FaultUndisturbed) ?_ ?_ ?_ h
  · intro c e c' hc hquiet hstep
    exact frozenFault_step p hc hquiet hstep
  · intro c e c' hc hquiet hstep
    exact keepsFault_step p hc hquiet hstep
  · rintro ⟨⟩

/-- The driver gate comes back, and the lift in fault is left alone. -/
def quietRun : List Event :=
  [.driverStatus (140 * 10 ^ 6) readyReport, .update ⟨standing, 150 * 10 ^ 6, 1 / 100, true⟩,
    .update ⟨standing, 160 * 10 ^ 6, 1 / 100, true⟩]

theorem keepsFault_of_undisturbed_quietRun :
    ∃ c c' : LiftController immediateGenerator,
      Runs.exec (step defaultParameters) (configured defaultParameters) faultRun = some c ∧
      c.mode = .fault ∧ Runs.exec (step defaultParameters) c quietRun = some c' ∧
      Runs.Throughout (step defaultParameters) KeepsFault
        (configured defaultParameters : LiftController immediateGenerator)
        (faultRun ++ quietRun) := by
  obtain ⟨c, hc, -, hP⟩ := Runs.reachable_of_run (step defaultParameters)
    (configured defaultParameters : LiftController immediateGenerator) faultRun
    (fun c => c.mode == .fault && (Runs.exec (step defaultParameters) c quietRun).isSome)
    (by decide +kernel)
  rw [Bool.and_eq_true, beq_iff_eq, Option.isSome_iff_exists] at hP
  obtain ⟨hfault, c', hc'⟩ := hP
  exact ⟨c, c', hc, hfault, hc', keepsFault_of_undisturbed defaultParameters
    (Runs.meets_of_passes (fun _ _ => of_decide_eq_true) (by decide +kernel))⟩

end LiftController

end Lift

end JointController
