import JointController.Lift.Guidance

/-!
# The start of a soft stop

A soft stop decelerates on the profile, from where the profile goes on.  Whether that is the sample
that the hardware has got last depends on the mode that the soft stop begins in.

* `stopBegun`: a soft stop begins out of a mode that follows a setpoint.
* `StartsAsWritten`: the profile goes on from the sample written last.
* `StaysOn`: what the stages before the mode of a cycle do to a motion.
* `stopBegun_spec`: where the profile of a soft stop goes on from.
* `startsAsWritten_iff`: only a streamed setpoint is not where the profile goes on from.
* `softStops_iff`: the same along every run.
-/

namespace JointController

namespace Lift

namespace LiftController

open LiftMotionProfile (Aligned SameStart)

variable {otg : TrajectoryGenerator} (p : LiftParameters) (i : UpdateInput)
  (c : LiftController otg) {c' c'' : LiftController otg}

/-! ## The property -/

/-- The controller right behind the call of `begin_soft_stop` with which a cycle ends a mode that
follows a setpoint: on a STOP or HOLD command, when the jog is no longer kept alive, and at an
invalid trajectory point.  The profile has not been advanced since. -/
def stopBegun : Option (LiftController otg) :=
  let d := (c.readStateInterfaces i).intake p i
  let m := c.modeStage p i
  if i.state.finite = false ∨ c.driver.estopLatched = true then none
  else if d.mode.moves = true ∧ (d.dispatch p i).2.mode = .softStop then some (d.dispatch p i).2
  else if m.mode = .jog ∧ longerThan i.now m.lastJogCommandTime p.jogTimeoutSec then
    some (m.beginSoftStop p .disable 0)
  else if m.mode = .trajectory ∧ (m.motionCycle p i).mode = .softStop then some (m.motionCycle p i)
  else none

/-- The interfaces ask for a position, a velocity and an acceleration. -/
def Asks (interfaces : CommandInterfaces) (position velocity acceleration : Double) : Prop :=
  interfaces.position = position ∧ interfaces.velocity = velocity ∧
    interfaces.acceleration = acceleration

instance (interfaces : CommandInterfaces) (position velocity acceleration : Double) :
    Decidable (Asks interfaces position velocity acceleration) :=
  inferInstanceAs (Decidable (_ ∧ _ ∧ _))

/-- The sample written last is the sample of the profile, and its generator goes on from there, with
the position clamped to the travel as it is in every sample. -/
def StartsAsWritten : Prop :=
  Asks c.interfaces c.profile.state.positionM c.profile.state.velocityMps
      c.profile.state.accelerationMps2 ∧
    Asks c.interfaces (p.limits.clampPosition c.profile.input.currentPosition)
      c.profile.input.currentVelocity c.profile.input.currentAcceleration

instance : Decidable (StartsAsWritten p c) := inferInstanceAs (Decidable (_ ∧ _))

/-- A soft stop that a cycle begins starts from the sample written last. -/
def StopsAsWritten (p : LiftParameters) (c : LiftController otg) (e : Event)
    (_ : LiftController otg) : Prop :=
  ∀ i, e = .update i → ∀ d, stopBegun p i c = some d → StartsAsWritten p d

/-! ## The condition -/

/-- A soft stop out of a stream begins while the sample written last stands where the brake gate has
seated the profile. -/
def StreamStands (p : LiftParameters) (c : LiftController otg) : Event → Prop
  | .update i => c.inbox.active = true → c.mode = .streaming → (stopBegun p i c).isSome = true →
      Asks c.interfaces c.profile.state.positionM 0 0
  | _ => True

instance (e : Event) : Decidable (StreamStands p c e) :=
  match e with
  | .update i => inferInstanceAs (Decidable (c.inbox.active = true → c.mode = .streaming →
      (stopBegun p i c).isSome = true → Asks c.interfaces c.profile.state.positionM 0 0))
  | .jog _ | .stream _ | .trajectory _ | .command _ | .stop | .hold | .driverStatus _ _
  | .heavyCommand _ | .leaseGate _ | .activate _ | .deactivate _ => .isTrue trivial

/-! ## A motion up to the mode of the cycle -/

/-- The interfaces stay as they are, and a motion in the state behind is the motion before, with a
profile that goes on from the same state. -/
structure StaysOn (c c' : LiftController otg) : Prop where
  interfaces : c'.interfaces = c.interfaces
  motion : c'.mode.moves = true → c'.mode = c.mode ∧ SameStart c.profile c'.profile

variable {c}

theorem StaysOn.refl (c : LiftController otg) : StaysOn c c := ⟨rfl, fun _ => ⟨rfl, .refl _⟩⟩

theorem StaysOn.of_rests (hinterfaces : c'.interfaces = c.interfaces) (h : c'.mode.rests = true) :
    StaysOn c c' where
  interfaces := hinterfaces
  motion hmoves := by cases h.symm.trans (Mode.not_rests_of_moves hmoves)

theorem StaysOn.trans (h : StaysOn c c') (h' : StaysOn c' c'') : StaysOn c c'' where
  interfaces := h'.interfaces.trans h.interfaces
  motion hmoves := by
    obtain ⟨hmode', hprofile'⟩ := h'.motion hmoves
    obtain ⟨hmode, hprofile⟩ := h.motion (hmode' ▸ hmoves)
    exact ⟨hmode'.trans hmode, hprofile.trans hprofile'⟩

variable (c)

theorem staysOn_intake : StaysOn c (c.intake p i) := by
  have hestop : StaysOn c (c.leaveEstop p) := by
    unfold leaveEstop
    split_ifs
    · exact .of_rests rfl rfl
    · exact .refl c
  have htake (d : LiftController otg) : StaysOn d (d.takeTrajectory p i) := by
    unfold takeTrajectory discardNative dropPendingTrajectory
    split_ifs
    · exact ⟨rfl, fun _ => ⟨rfl, .refl _⟩⟩
    · exact ⟨rfl, fun _ => ⟨rfl, .refl _⟩⟩
    · split
      · exact ⟨rfl, by rintro ⟨⟩⟩
      · exact .refl d
  have hobserve (d : LiftController otg) : StaysOn d d.observeLeaseGate :=
    ⟨rfl, fun _ => ⟨rfl, .refl _⟩⟩
  exact (hestop.trans (hobserve _)).trans (htake _)

theorem cancelled_same (s : Selection) :
    (c.cancelled s).mode = c.mode ∧ (c.cancelled s).interfaces = c.interfaces ∧
      (c.cancelled s).profile = c.profile := by
  unfold cancelled applyCancellation cancelPendingTrajectory
  split_ifs <;> exact ⟨rfl, rfl, rfl⟩

theorem executeStop_interfaces (s : Selection) :
    (c.executeStop p s).interfaces = c.interfaces := by
  rw [← (cancelled_same c s).2.1]
  have hstops := stops_executeStop p c s
  generalize c.executeStop p s = c' at hstops ⊢
  cases hstops <;> rfl

/-- A stop begins a soft stop from a motion, and keeps where its profile goes on from. -/
theorem executeStop_start (s : Selection) (hmoves : c.mode.moves = true) :
    SameStart c.profile (c.executeStop p s).profile := by
  obtain ⟨hmode, -, hprofile⟩ := cancelled_same c s
  have hnot : ¬ (c.cancelled s).standsInHold p = true := by
    unfold standsInHold
    rw [hmode, Bool.and_eq_true, Bool.and_eq_true, beq_iff_eq]
    rintro ⟨⟨hhold, -⟩, -⟩
    rw [hhold] at hmoves
    cases hmoves
  rw [← hprofile]
  have hstops := stops_executeStop p c s
  generalize c.executeStop p s = c' at hstops ⊢
  cases hstops with
  | hold hstands => exact absurd hstands hnot
  | brake hstands => exact absurd hstands hnot
  | softStop => exact (c.cancelled s).profile.sameStart_requestSoftStop p.limits

/-- What the command of a cycle does to a motion, and to the motion that it ends with a soft
stop. -/
theorem execute_start (s : Selection) :
    StaysOn c (c.execute p i s).2 ∧
      (c.mode.moves = true → (c.execute p i s).2.mode = .softStop →
        SameStart c.profile (c.execute p i s).2.profile) := by
  have hconsume : (c.consume s).mode = c.mode ∧ (c.consume s).interfaces = c.interfaces ∧
      (c.consume s).profile = c.profile := by
    unfold consume
    split_ifs <;> exact ⟨rfl, rfl, rfl⟩
  have hexecutes := executes p i c s
  generalize (c.execute p i s).2 = c' at hexecutes ⊢
  generalize c.consume s = d at hconsume hexecutes
  obtain ⟨hmode, hinterfaces, hprofile⟩ := hconsume
  have hd : StaysOn c d := ⟨hinterfaces, fun _ => ⟨hmode, hprofile ▸ .refl _⟩⟩
  rw [← hmode, ← hprofile]
  have hother {d' : LiftController otg} (hstays : StaysOn d d') (hstop : d'.mode ≠ .softStop) :
      StaysOn c d' ∧ (d.mode.moves = true → d'.mode = .softStop →
        SameStart d.profile d'.profile) :=
    ⟨hd.trans hstays, fun _ hmode => absurd hmode hstop⟩
  cases hexecutes with
  | stop =>
    exact ⟨hd.trans (.of_rests (executeStop_interfaces p d s) (executeStop_rests p d s)),
      fun hmoves _ => executeStop_start p d s hmoves⟩
  | waits hstop hnone hgate =>
    exact hother ⟨rfl, fun _ => ⟨rfl, .refl _⟩⟩ (by rw [hgate]; rintro ⟨⟩)
  | jog htype hjog =>
    unfold executeJog
    dsimp only
    split_ifs
    · exact hother ⟨rfl, fun _ => ⟨rfl, LiftMotionProfile.sameStart_setVelocityTarget _ _ _ _⟩⟩
        (by rw [hjog]; rintro ⟨⟩)
    · exact ⟨hd.trans (.of_rests rfl rfl), by rintro - ⟨⟩⟩
  | stream htype hstream =>
    exact hother ⟨rfl, fun _ => ⟨rfl, .refl _⟩⟩ (by rw [hstream]; rintro ⟨⟩)
  | gate => exact hother ⟨rfl, by rintro ⟨⟩⟩ (by rintro ⟨⟩)
  | nothing => exact ⟨hd, fun hmoves hstop => by rw [hstop] at hmoves; cases hmoves⟩

theorem dispatch_start :
    StaysOn c (c.dispatch p i).2 ∧
      (c.mode.moves = true → (c.dispatch p i).2.mode = .softStop →
        SameStart c.profile (c.dispatch p i).2.profile) := by
  have hselect : c.selectCommand.2.mode = c.mode ∧
      c.selectCommand.2.interfaces = c.interfaces ∧ c.selectCommand.2.profile = c.profile := by
    unfold selectCommand
    split_ifs <;> exact ⟨rfl, rfl, rfl⟩
  unfold dispatch
  generalize c.selectCommand.2 = d at hselect ⊢
  obtain ⟨hmode, hinterfaces, hprofile⟩ := hselect
  have hd : StaysOn c d := ⟨hinterfaces, fun _ => ⟨hmode, hprofile ▸ .refl _⟩⟩
  rw [← hmode, ← hprofile]
  split
  · obtain ⟨hstays, hstop⟩ := execute_start p i d _
    exact ⟨hd.trans hstays, hstop⟩
  · exact ⟨hd, fun hmoves hstop => by rw [hstop] at hmoves; cases hmoves⟩

theorem staysOn_modeStage : StaysOn c (c.modeStage p i) := by
  have hread : StaysOn c (c.readStateInterfaces i) := ⟨rfl, fun _ => ⟨rfl, .refl _⟩⟩
  have hgate (d : LiftController otg) : StaysOn d (d.checkDriverGate p i) := by
    unfold checkDriverGate failPendingHold
    split_ifs
    · exact .of_rests rfl rfl
    · exact .of_rests rfl rfl
    · exact .refl d
  exact ((hread.trans (staysOn_intake p i _)).trans (dispatch_start p i _).1).trans (hgate _)

/-! ## Where a soft stop starts -/

/-- A trajectory whose points have been accepted is not ended by a soft stop. -/
theorem Guided.motionCycle_trajectory {p : LiftParameters} {c : LiftController otg}
    (h : Guided p c) (hmode : c.mode = .trajectory) : (c.motionCycle p i).mode ≠ .softStop := by
  have hmoves : ∀ mode, mode = Mode.trajectory → mode ≠ .softStop := by
    rintro mode rfl ⟨⟩
  unfold LiftController.motionCycle
  rw [if_neg (fun hjog => by cases hmode.symm.trans hjog.1)]
  split
  · unfold trajectoryCycle
    dsimp only
    set d : LiftController otg := LiftController.advanceProfile p i { c with
      trajectories := { c.trajectories with
        elapsedSec := c.trajectories.elapsedSec + i.dt } } with hd
    split
    · unfold LiftController.nextTrajectoryPoint
      dsimp only
      split
      · rename_i hindex
        obtain ⟨t, hactive, hlong⟩ := pointCount_spec hindex
        have haccepted : Accepted p t := h.accepted t (Or.inl hactive)
        set taken : LiftController otg := { d with trajectories := { d.trajectories with
          pointIndex := d.trajectories.pointIndex + 1 } } with htaken
        rw [if_pos (startTrajectoryPoint_accepted (c := taken) p hactive haccepted hlong)]
        exact hmoves _ ((startTrajectoryPoint_keeps (c := taken) p _).1.trans hmode)
      · exact hmoves _ hmode
    · exact hmoves _ hmode
  · rw [if_neg (by rw [hmode]; rintro (⟨⟨⟩⟩ | ⟨⟨⟩⟩ | ⟨⟨⟩⟩)),
      if_neg (by rw [hmode]; rintro ⟨⟩)]
    exact hmoves _ hmode

variable {p c}

/-- A soft stop that ends a motion goes on from where the profile of the motion was. -/
theorem stopBegun_spec (h : Guided p c) {d : LiftController otg} (hd : stopBegun p i c = some d) :
    c.mode.moves = true ∧ d.interfaces = c.interfaces ∧ SameStart c.profile d.profile := by
  have hread : StaysOn c (c.readStateInterfaces i) := ⟨rfl, fun _ => ⟨rfl, .refl _⟩⟩
  have hintake := hread.trans (staysOn_intake p i (c.readStateInterfaces i))
  have hstage := staysOn_modeStage p i c
  unfold stopBegun at hd
  dsimp only at hd
  split at hd
  · cases hd
  · rename_i hruns
    obtain ⟨hfinite, hclear⟩ := not_or.mp hruns
    split at hd
    · rename_i hcommand
      obtain rfl := Option.some_inj.mp hd
      obtain ⟨hmode, hstart⟩ := hintake.motion hcommand.1
      obtain ⟨hstays, hsame⟩ := dispatch_start p i ((c.readStateInterfaces i).intake p i)
      exact ⟨hmode ▸ hcommand.1, hstays.interfaces.trans hintake.interfaces,
        hstart.trans (hsame hcommand.1 hcommand.2)⟩
    · split at hd
      · rename_i hjog
        obtain rfl := Option.some_inj.mp hd
        have hmoves : (c.modeStage p i).mode.moves = true := by
          rw [hjog.1]
          rfl
        obtain ⟨hmode, hstart⟩ := hstage.motion hmoves
        exact ⟨hmode ▸ hmoves, hstage.interfaces,
          hstart.trans ((c.modeStage p i).profile.sameStart_requestSoftStop p.limits)⟩
      · split at hd
        · rename_i htrajectory
          have hmeasured : (c.readStateInterfaces i).measuredPositionM.isFinite = true :=
            StateInterfaces.position_of_finite (eq_true_of_ne_false hfinite)
          have hguided : Guided p (c.modeStage p i) := by
            refine (((h.readStateInterfaces p i).intake p i hmeasured).dispatch p i ?_).settles
              (settles_checkDriverGate p i _)
            rw [intake_measured]
            exact hmeasured
          exact absurd htrajectory.2 (hguided.motionCycle_trajectory i htrajectory.1)
        · cases hd

theorem startsAsWritten_congr {d : LiftController otg} (hinterfaces : d.interfaces = c.interfaces)
    (hstart : SameStart c.profile d.profile) : StartsAsWritten p d ↔ StartsAsWritten p c := by
  unfold StartsAsWritten
  rw [hinterfaces, hstart.state, hstart.position, hstart.velocity, hstart.acceleration]

/-- The profile of a motion goes on from the sample written last, and in a stream it does if that
sample stands where the profile does. -/
theorem startsAsWritten_iff (h : Guided p c) (hwritten : ShowsProfile p c)
    (hmoves : c.mode.moves = true) :
    StartsAsWritten p c ↔
      (c.mode = .streaming → Asks c.interfaces c.profile.state.positionM 0 0) := by
  have hrests := Mode.not_rests_of_moves hmoves
  have haligned := h.aligned hrests
  unfold StartsAsWritten
  rw [← haligned.position, ← haligned.velocity, ← haligned.acceleration, and_self_iff]
  by_cases hstream : c.mode = .streaming
  · obtain ⟨x, hx⟩ := h.standing (Or.inr hstream)
    rw [hx]
    exact ⟨fun hasks _ => hasks, fun hasks => hasks hstream⟩
  · refine ⟨fun _ hno => absurd hno hstream, fun _ => ?_⟩
    obtain ⟨hposition, hvelocity, hacceleration⟩ := hwritten hrests hstream
    rw [haligned.position, p.limits.clampPosition_clampPosition, ← haligned.position] at hposition
    exact ⟨hposition, hvelocity, hacceleration⟩

/-! ## Runs -/

/-- While the controller is active, it is guided and has written the sample of the profile. -/
def Commands (p : LiftParameters) (c : LiftController otg) : Prop :=
  c.inbox.active = true → Guided p c ∧ ShowsProfile p c

theorem accepted_enqueueSafetyCommand (command : MotionCommand) {t : JointTrajectory}
    (ht : (c.enqueueSafetyCommand command).trajectories.pending = some t) :
    c.trajectories.pending = some t := by
  unfold enqueueSafetyCommand cancelPendingTrajectory at ht
  dsimp only at ht
  split_ifs at ht
  exact ht

/-- A callback leaves an accepted trajectory behind, or the one that was pending. -/
theorem accepted_step {e : Event} (he : e.callback = true) (h : c.step p e = some c')
    {t : JointTrajectory} (ht : c'.trajectories.pending = some t) :
    c.trajectories.pending = some t ∨ Accepted p t := by
  cases callback_cases p c he h with
  | trajectory message hpoints =>
    obtain rfl := Option.some_inj.mp ht
    exact Or.inr hpoints
  | safety _ command => exact Or.inl (accepted_enqueueSafetyCommand command ht)
  | _ => exact Or.inl ht

theorem commands_step {e : Event} (hc : Commands p c) (h : c.step p e = some c') :
    Commands p c' := by
  intro hactive
  by_cases he : e.callback = true
  · have hkeep := keepsLoop_step p c he h
    obtain ⟨hguided, hshows⟩ := hc (hkeep.active ▸ hactive)
    refine ⟨⟨fun t ht => ?_, ?_, ?_, ?_⟩, ?_⟩
    · rcases ht with ht | ht
      · exact hguided.accepted t (Or.inl (hkeep.activeTrajectory ▸ ht))
      · rcases accepted_step he h ht with hold | hnew
        · exact hguided.accepted t (Or.inr hold)
        · exact hnew
    · rw [hkeep.mode, hkeep.profile]
      exact hguided.aligned
    · rw [hkeep.mode, hkeep.profile, hkeep.commandSample]
      exact hguided.shown
    · rw [hkeep.mode, hkeep.profile]
      exact hguided.standing
    · unfold ShowsProfile
      rw [hkeep.mode, hkeep.interfaces, hkeep.profile]
      exact hshows
  · cases e with
    | activate state =>
      rcases activate_cases p c h with ⟨-, hfresh⟩ | ⟨hinactive, -⟩
      · have hrests : c'.mode.rests = true := by
          rw [hfresh.mode]
          rfl
        refine ⟨.of_rests (fun t ht => ?_) hrests, fun hno => by cases hrests.symm.trans hno⟩
        rw [hfresh.activeTrajectory, hfresh.pending] at ht
        rcases ht with ⟨⟨⟩⟩ | ⟨⟨⟩⟩
      · cases hinactive.symm.trans hactive
    | deactivate state => cases (deactivate_inactive p c h).symm.trans hactive
    | update input =>
      obtain ⟨hwas, rfl⟩ := update_of_step p c h
      exact (hc hwas).1.update p input
    | _ => exact absurd rfl he

theorem stopsAsWritten_iff_streamStands {e : Event} (hc : Commands p c)
    (h : c.step p e = some c') : StopsAsWritten p c e c' ↔ StreamStands p c e := by
  cases e with
  | update input =>
    obtain ⟨hactive, rfl⟩ := update_of_step p c h
    obtain ⟨hguided, hshows⟩ := hc hactive
    constructor
    · intro hstops _ hstream hsome
      obtain ⟨d, hd⟩ := Option.isSome_iff_exists.mp hsome
      obtain ⟨hmoves, hinterfaces, hstart⟩ := stopBegun_spec input hguided hd
      have hwritten := (startsAsWritten_congr hinterfaces hstart).mp (hstops input rfl d hd)
      exact (startsAsWritten_iff hguided hshows hmoves).mp hwritten hstream
    · rintro hstands _ ⟨⟩ d hd
      obtain ⟨hmoves, hinterfaces, hstart⟩ := stopBegun_spec input hguided hd
      refine (startsAsWritten_congr hinterfaces hstart).mpr
        ((startsAsWritten_iff hguided hshows hmoves).mpr fun hstream => ?_)
      exact hstands hactive hstream (Option.isSome_iff_exists.mpr ⟨d, hd⟩)
  | _ => exact ⟨fun _ => trivial, by rintro _ _ ⟨⟩⟩

/-- In every run each soft stop that ends a motion starts from the sample written last, exactly when
every stream that ends so stands where the brake gate has seated the profile. -/
theorem softStops_iff (p : LiftParameters) (run : List Event) :
    Runs.Throughout (step p) (StopsAsWritten p) (configured p : LiftController otg) run ↔
      Runs.Meets (step p) (StreamStands p) (configured p : LiftController otg) run := by
  refine Runs.throughout_iff_meets_from (I := Commands p) (C := StreamStands p)
    (R := StopsAsWritten p)
    (fun s e s' hs _ h => commands_step hs h)
    (fun s e s' hs h => stopsAsWritten_iff_streamStands hs h) (fun s e h => ?_) ?_
  · cases e with
    | update input =>
      intro hactive
      dsimp only [step] at h
      rw [if_pos hactive] at h
      cases h
    | _ => trivial
  · intro hactive
    cases hactive

/-- A streamed setpoint moves away from where the brake gate has seated the profile, and is
stopped. -/
def streamStopRun : List Event :=
  [.activate standing, .driverStatus (10 * 10 ^ 6) readyReport,
    .stream ⟨[.finite (-1 / 100)], [.finite (-2 / 100)], [0], 0, 0⟩,
    .update ⟨standing, 20 * 10 ^ 6, 1 / 100, true⟩, .update ⟨standing, 120 * 10 ^ 6, 1 / 100, true⟩,
    .stop]

/-- The stop of the stream. -/
def streamStopUpdate : UpdateInput := ⟨standing, 130 * 10 ^ 6, 1 / 100, true⟩

/-- The deceleration starts at rest at the zero of the lift, while the interfaces ask for the
streamed position and velocity. -/
theorem streamed_stop_jumps :
    (∃ c d : LiftController immediateGenerator,
      Runs.exec (step defaultParameters) (configured defaultParameters) streamStopRun = some c ∧
        stopBegun defaultParameters streamStopUpdate c = some d ∧
        Asks c.interfaces (.finite (-1 / 100)) (.finite (-2 / 100)) 0 ∧
        Asks { position := 0, velocity := 0, acceleration := 0 } d.profile.input.currentPosition
          d.profile.input.currentVelocity d.profile.input.currentAcceleration) ∧
      ¬ Runs.Throughout (step defaultParameters) (StopsAsWritten defaultParameters)
        (configured defaultParameters : LiftController immediateGenerator)
        (streamStopRun ++ [.update streamStopUpdate]) := by
  obtain ⟨c, hc, -, hP⟩ := Runs.reachable_of_run (step defaultParameters)
    (configured defaultParameters : LiftController immediateGenerator) streamStopRun
    (fun c => (c.step defaultParameters (.update streamStopUpdate)).isSome &&
      decide (Asks c.interfaces (.finite (-1 / 100)) (.finite (-2 / 100)) 0) &&
      (stopBegun defaultParameters streamStopUpdate c).any fun d =>
        decide (Asks { position := 0, velocity := 0, acceleration := 0 }
          d.profile.input.currentPosition d.profile.input.currentVelocity
          d.profile.input.currentAcceleration) &&
        !decide (StartsAsWritten defaultParameters d)) (by decide +kernel)
  simp only [Bool.and_eq_true, Option.any_eq_true, Option.isSome_iff_exists, decide_eq_true_eq,
    Bool.not_eq_true', decide_eq_false_iff_not] at hP
  obtain ⟨⟨⟨c', hc'⟩, hasks⟩, d, hd, hrest, hjumps⟩ := hP
  exact ⟨⟨c, d, hc, hd, hasks, hrest⟩, fun hall =>
    hjumps (hall.last hc hc' streamStopUpdate rfl d hd)⟩

end LiftController

end Lift

end JointController
