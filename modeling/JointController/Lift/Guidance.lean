import JointController.Lift.FaultLatch

/-!
# The profile and the commanded sample

In the modes that move on the profile the sample that is commanded is the profile's, and the profile
goes on from it.  A streamed setpoint is commanded past the profile, which stays as the brake gate
has seated it.

* `LiftMotionProfile.Aligned`: the sample of a profile is where its generator goes on from.
* `LiftMotionProfile.SameStart`: a new target does not change that.
* `Guided`: what the profile and the sample have to do with each other in each mode.
* `Settles`: what most stages of a cycle do.
* `Guided.update`: a cycle keeps the controller guided, and writes the sample of the profile.
-/

namespace JointController

namespace Lift

open LiftController (Sound sound_hold)

/-! ## Limits -/

namespace LiftMotionLimits

variable (l : LiftMotionLimits)

theorem clampPosition_clampPosition (x : Double) :
    l.clampPosition (l.clampPosition x) = l.clampPosition x := by
  have hmin : ¬ Double.finite l.minPositionM < .finite l.minPositionM := Double.lt_irrefl _
  have hmax : ¬ Double.finite l.maxPositionM < .finite l.maxPositionM := Double.lt_irrefl _
  have horder : ¬ Double.finite l.maxPositionM < .finite l.minPositionM :=
    fun h => absurd l.position_lt (Double.finite_lt_finite.mp h).asymm
  unfold clampPosition Double.clamp
  split_ifs <;> rfl

theorem clampVelocity_zero : l.clampVelocity 0 = 0 := by
  have hlow : ¬ (0 : Double) < .finite (-l.maxVelocityMps) :=
    fun h => absurd (Double.finite_lt_finite.mp h) (neg_lt_zero.mpr l.maxVelocity_pos).asymm
  have hhigh : ¬ Double.finite l.maxVelocityMps < 0 :=
    fun h => absurd (Double.finite_lt_finite.mp h) l.maxVelocity_pos.asymm
  unfold clampVelocity Double.clamp
  rw [if_neg hlow, if_neg hhigh]

theorem clampAcceleration_zero : l.clampAcceleration 0 = 0 := by
  have hlow : ¬ (0 : Double) < .finite (-l.maxAccelerationMps2) :=
    fun h => absurd (Double.finite_lt_finite.mp h) (neg_lt_zero.mpr l.maxAcceleration_pos).asymm
  have hhigh : ¬ Double.finite l.maxAccelerationMps2 < 0 :=
    fun h => absurd (Double.finite_lt_finite.mp h) l.maxAcceleration_pos.asymm
  unfold clampAcceleration Double.clamp
  rw [if_neg hlow, if_neg hhigh]

end LiftMotionLimits

/-! ## The profile -/

namespace LiftMotionProfile

variable {otg : TrajectoryGenerator} (l : LiftMotionLimits)
  {profile profile' : LiftMotionProfile otg}

/-- The sample of the profile is where its generator goes on from, with the position clamped to the
travel, and a valid sample is finite. -/
structure Aligned (profile : LiftMotionProfile otg) : Prop where
  position : profile.state.positionM = l.clampPosition profile.input.currentPosition
  velocity : profile.state.velocityMps = profile.input.currentVelocity
  acceleration : profile.state.accelerationMps2 = profile.input.currentAcceleration
  sound : profile.state.valid = true → Sound profile.state

/-- Both profiles have the same sample, and their generators go on from the same state. -/
structure SameStart (profile profile' : LiftMotionProfile otg) : Prop where
  state : profile'.state = profile.state
  position : profile'.input.currentPosition = profile.input.currentPosition
  velocity : profile'.input.currentVelocity = profile.input.currentVelocity
  acceleration : profile'.input.currentAcceleration = profile.input.currentAcceleration

theorem SameStart.refl (profile : LiftMotionProfile otg) : SameStart profile profile :=
  ⟨rfl, rfl, rfl, rfl⟩

theorem SameStart.trans {profile'' : LiftMotionProfile otg} (h : SameStart profile profile')
    (h' : SameStart profile' profile'') : SameStart profile profile'' :=
  ⟨h'.state.trans h.state, h'.position.trans h.position, h'.velocity.trans h.velocity,
    h'.acceleration.trans h.acceleration⟩

variable (profile)

theorem sameStart_setPositionTarget (x v a scale limit : Double) :
    SameStart profile (profile.setPositionTarget l x v a scale limit).2 := by
  unfold setPositionTarget
  split_ifs <;> exact ⟨rfl, rfl, rfl, rfl⟩

theorem sameStart_setVelocityTarget (v scale : Double) :
    SameStart profile (profile.setVelocityTarget l v scale).2 := by
  unfold setVelocityTarget
  split_ifs <;> exact ⟨rfl, rfl, rfl, rfl⟩

theorem sameStart_requestSoftStop : SameStart profile (profile.requestSoftStop l) :=
  ⟨rfl, rfl, rfl, rfl⟩

theorem hold_state (x : Double) : (profile.hold l x).state = .standing (l.clampPosition x) := by
  show LiftMotionSample.mk _ (l.clampVelocity 0) (l.clampAcceleration 0) 0 true true = _
  rw [l.clampVelocity_zero, l.clampAcceleration_zero]
  rfl

theorem aligned_hold {x : Double} (h : x.isFinite = true) : Aligned l (profile.hold l x) where
  position := (l.clampPosition_clampPosition x).symm
  velocity := rfl
  acceleration := rfl
  sound _ := sound_hold l profile h

variable {profile}

theorem Aligned.of_sameStart (h : Aligned l profile) (hsame : SameStart profile profile') :
    Aligned l profile' where
  position := by rw [hsame.state, hsame.position, h.position]
  velocity := by rw [hsame.state, hsame.velocity, h.velocity]
  acceleration := by rw [hsame.state, hsame.acceleration, h.acceleration]
  sound := by
    rw [hsame.state]
    exact h.sound

variable (profile)

theorem aligned_advance (result : GeneratorResult) (output : GeneratorOutput) (memory : otg.Memory)
    (input : GeneratorInput) : Aligned l (profile.advance l result output memory input) where
  position := rfl
  velocity := rfl
  acceleration := rfl
  sound hvalid := by
    have hall := hvalid
    simp only [advance, Bool.and_eq_true] at hall
    exact ⟨hall.1.1.1, hall.1.1.2, hall.1.2, hvalid⟩

variable {profile}

/-- The profile goes on from the sample that it has computed last. -/
theorem Aligned.update (h : Aligned l profile) (cycleSec : Double) :
    Aligned l (profile.update l cycleSec) := by
  unfold LiftMotionProfile.update
  dsimp only
  split
  · exact ⟨h.position, h.velocity, h.acceleration, by rintro ⟨⟩⟩
  · split
    · exact ⟨h.position, h.velocity, h.acceleration, fun hvalid =>
        ⟨(h.sound hvalid).position, (h.sound hvalid).velocity, (h.sound hvalid).acceleration,
          hvalid⟩⟩
    · generalize (if profile.mode = .velocity then _ else _) = target
      split
      · exact ⟨h.position, h.velocity, h.acceleration, by rintro ⟨⟩⟩
      · split
        · exact aligned_hold l _ (x := .finite l.minPositionM) rfl
        · split
          · exact aligned_hold l _ (x := .finite l.maxPositionM) rfl
          · exact aligned_advance l profile _ _ _ _

end LiftMotionProfile

namespace LiftController

open LiftMotionProfile (Aligned SameStart)

variable {otg : TrajectoryGenerator} (p : LiftParameters) (i : UpdateInput)
  (c : LiftController otg) {c' c'' : LiftController otg}

/-! ## Stages that settle -/

/-- The trajectories are among those of the controller before. -/
def KeepsTrajectories (c c' : LiftController otg) : Prop :=
  ∀ t, c'.trajectories.active = some t ∨ c'.trajectories.pending = some t →
    c.trajectories.active = some t ∨ c.trajectories.pending = some t

/-- The lift comes to rest, or its mode, its profile and its sample stay as they are. -/
structure Settles (c c' : LiftController otg) : Prop where
  rests : c'.mode.rests = true ∨
    (c'.mode = c.mode ∧ c'.profile = c.profile ∧ c'.commandSample = c.commandSample)
  trajectories : KeepsTrajectories c c'

variable {c}

theorem Settles.refl (c : LiftController otg) : Settles c c :=
  ⟨Or.inr ⟨rfl, rfl, rfl⟩, fun _ ht => ht⟩

theorem Settles.trans (h : Settles c c') (h' : Settles c' c'') : Settles c c'' where
  rests := by
    rcases h'.rests with hrests | ⟨hmode, hprofile, hsample⟩
    · exact Or.inl hrests
    · rw [hmode, hprofile, hsample]
      exact h.rests
  trajectories t ht := h.trajectories t (h'.trajectories t ht)

theorem KeepsTrajectories.dropped (hactive : c'.trajectories.active = none)
    (hpending : c'.trajectories.pending = c.trajectories.pending) : KeepsTrajectories c c' := by
  rintro t (ht | ht)
  · rw [hactive] at ht
    cases ht
  · exact Or.inr (hpending ▸ ht)

variable (c)

theorem settles_failPendingHold (stage : HoldFailureStage) :
    Settles c (c.failPendingHold stage) := by
  unfold failPendingHold
  split_ifs
  · exact .refl c
  · exact ⟨Or.inr ⟨rfl, rfl, rfl⟩, fun _ ht => ht⟩

theorem settles_dropPendingTrajectory : Settles c (c.dropPendingTrajectory i) := by
  unfold dropPendingTrajectory
  split_ifs
  · exact ⟨Or.inr ⟨rfl, rfl, rfl⟩, fun t ht => ht.imp id (by rintro ⟨⟩)⟩
  · exact .refl c

theorem settles_cancelPendingTrajectory (generation : ℕ) :
    Settles c (c.cancelPendingTrajectory generation) := by
  unfold cancelPendingTrajectory
  split_ifs
  · exact ⟨Or.inr ⟨rfl, rfl, rfl⟩, fun t ht => ht.imp id (by rintro ⟨⟩)⟩
  · exact .refl c

theorem settles_beginSoftStop (completion : SoftStopCompletion) (generation : ℕ) :
    Settles c (c.beginSoftStop p completion generation) := ⟨Or.inl rfl, .dropped rfl rfl⟩

theorem settles_leaveEstop : Settles c (c.leaveEstop p) := by
  unfold leaveEstop
  split_ifs
  · exact ⟨Or.inl rfl, fun _ ht => ht⟩
  · exact .refl c

theorem settles_discardNative : Settles c (c.discardNative i) :=
  have hdiscard : Settles c { c with
      consumedGeneration := c.inbox.commandGeneration
      trajectories := { c.trajectories with active := none, activeGeneration := 0 } } :=
    ⟨Or.inr ⟨rfl, rfl, rfl⟩, .dropped rfl rfl⟩
  hdiscard.trans (settles_dropPendingTrajectory i _)

theorem settles_selectCommand : Settles c c.selectCommand.2 := by
  unfold selectCommand
  split_ifs <;> exact ⟨Or.inr ⟨rfl, rfl, rfl⟩, fun _ ht => ht⟩

theorem settles_applyCancellation (generation : ℕ) :
    Settles c (c.applyCancellation generation) := by
  have hcancel := settles_cancelPendingTrajectory c generation
  exact hcancel.trans ⟨Or.inr ⟨rfl, rfl, rfl⟩, .dropped rfl rfl⟩

theorem settles_cancelled (s : Selection) : Settles c (c.cancelled s) := by
  unfold cancelled
  split_ifs
  · exact settles_applyCancellation c _
  · exact .refl c

theorem settles_executeStop (s : Selection) : Settles c (c.executeStop p s) := by
  refine (settles_cancelled c s).trans ?_
  have hstops := stops_executeStop p c s
  generalize c.executeStop p s = c' at hstops ⊢
  cases hstops with
  | hold => exact ⟨Or.inl rfl, fun _ ht => ht⟩
  | brake => exact ⟨Or.inl rfl, fun _ ht => ht⟩
  | softStop => exact settles_beginSoftStop p _ _ _

theorem settles_consume (s : Selection) : Settles c (c.consume s) := by
  unfold consume
  split_ifs
  · exact ⟨Or.inr ⟨rfl, rfl, rfl⟩, fun _ ht => ht⟩
  · exact .refl c

theorem settles_checkDriverGate : Settles c (c.checkDriverGate p i) := by
  unfold checkDriverGate
  split_ifs
  · have hfail := settles_failPendingHold c .driverGate
    exact hfail.trans ⟨Or.inl rfl, .dropped rfl rfl⟩
  · exact .refl c

theorem settles_checkSample : Settles c (c.checkSample p) := by
  unfold checkSample
  split_ifs
  · exact .refl c
  · have hfail := settles_failPendingHold c .motionProfile
    exact hfail.trans ⟨Or.inl rfl, fun _ ht => ht⟩

theorem settles_finishSoftStop : Settles c (c.finishSoftStop p) := by
  unfold finishSoftStop
  dsimp only
  split_ifs
  · exact ⟨Or.inl rfl, fun _ ht => ht⟩
  · exact ⟨Or.inl rfl, fun _ ht => ht⟩
  · exact .refl c

theorem settles_checkGoal : Settles c (c.checkGoal p i) := by
  unfold checkGoal
  split
  · exact ⟨Or.inr ⟨rfl, rfl, rfl⟩, fun _ ht => ht⟩
  · split
    · exact ⟨Or.inr ⟨rfl, rfl, rfl⟩, fun _ ht => ht⟩
    · split
      · exact ⟨Or.inl rfl, .dropped rfl rfl⟩
      · exact .refl c

theorem reseat_rests (measured : Double) : (c.reseat p measured).mode.rests = true := by
  unfold reseat
  dsimp only
  split
  · rename_i hlatched
    rcases hlatched with hmode | hmode <;> rw [hmode] <;> rfl
  · rfl

theorem settles_applyZeroFrameResync : Settles c (c.applyZeroFrameResync p) := by
  unfold applyZeroFrameResync
  dsimp only
  split_ifs
  · exact .refl c
  · exact ⟨Or.inl (reseat_rests p _ _), .dropped rfl rfl⟩
  · exact ⟨Or.inr ⟨rfl, rfl, rfl⟩, fun _ ht => ht⟩

theorem settles_writeCommandInterfaces (sample : LiftMotionSample) :
    Settles c (c.writeCommandInterfaces p sample) := ⟨Or.inr ⟨rfl, rfl, rfl⟩, fun _ ht => ht⟩

theorem settles_confirmPendingHold : Settles c (c.confirmPendingHold p) := by
  unfold confirmPendingHold
  split_ifs
  · exact .refl c
  · exact settles_failPendingHold c .driverGate
  · exact .refl c
  · exact .refl c
  · exact ⟨Or.inr ⟨rfl, rfl, rfl⟩, fun _ ht => ht⟩

theorem settles_acknowledge (s : Option Selection) (streamSelected : Bool) :
    Settles c ((c.acknowledgeConsumed s).2.acknowledgeFollow p i streamSelected).2 := by
  have hconsumed : Settles c (c.acknowledgeConsumed s).2 := by
    unfold acknowledgeConsumed
    split
    · split_ifs <;> exact ⟨Or.inr ⟨rfl, rfl, rfl⟩, fun _ ht => ht⟩
    · exact .refl c
  refine hconsumed.trans ?_
  unfold acknowledgeFollow
  split_ifs
  · exact ⟨Or.inr ⟨rfl, rfl, rfl⟩, fun _ ht => ht⟩
  · exact .refl _

/-! ## The profile in each mode -/

/-- A trajectory that the callback has accepted. -/
def Accepted (t : JointTrajectory) : Prop := t.points.all (acceptsPoint p) = true

/-- In the brake gate and in the modes that follow a setpoint the profile is aligned; its sample is
the one that is commanded, unless that is streamed; and it stands while the lift waits and while it
streams. -/
structure Guided (c : LiftController otg) : Prop where
  accepted : ∀ t, c.trajectories.active = some t ∨ c.trajectories.pending = some t → Accepted p t
  aligned : c.mode.rests = false → Aligned p.limits c.profile
  shown : c.mode.rests = false → c.mode ≠ .streaming → c.commandSample = c.profile.state
  standing : c.mode = .brakeGate ∨ c.mode = .streaming →
    ∃ x, c.profile.state = .standing x

variable {p c}

theorem Guided.of_rests (h : ∀ t, c.trajectories.active = some t ∨ c.trajectories.pending = some t →
    Accepted p t) (hrests : c.mode.rests = true) : Guided p c where
  accepted := h
  aligned hmode := by cases hrests.symm.trans hmode
  shown hmode := by cases hrests.symm.trans hmode
  standing hmode := by rcases hmode with hmode | hmode <;> rw [hmode] at hrests <;> cases hrests

theorem Guided.settles (h : Guided p c) (hsettles : Settles c c') : Guided p c' := by
  have haccepted := fun t ht => h.accepted t (hsettles.trajectories t ht)
  rcases hsettles.rests with hrests | ⟨hmode, hprofile, hsample⟩
  · exact .of_rests haccepted hrests
  · refine ⟨haccepted, ?_, ?_, ?_⟩
    · rw [hmode, hprofile]
      exact h.aligned
    · rw [hmode, hprofile, hsample]
      exact h.shown
    · rw [hmode, hprofile]
      exact h.standing

variable (p)

/-- A target is set, and the mode becomes one that follows the profile. -/
theorem Guided.target (h : Guided p c) (hmode : c.mode.rests = false)
    (hstream : c.mode ≠ .streaming)
    (htrajectories : KeepsTrajectories c c') (hprofile : SameStart c.profile c'.profile)
    (hsample : c'.commandSample = c.commandSample)
    (hgate : c'.mode ≠ .brakeGate ∧ c'.mode ≠ .streaming) : Guided p c' where
  accepted t ht := h.accepted t (htrajectories t ht)
  aligned _ := (h.aligned hmode).of_sameStart _ hprofile
  shown _ _ := by
    rw [hsample, hprofile.state]
    exact h.shown hmode hstream
  standing hwaits := absurd hwaits (not_or.mpr hgate)

/-- The brake gate seats the profile on the measured position. -/
theorem guided_beginBrakeGate (h : ∀ t, c.trajectories.active = some t ∨
    c.trajectories.pending = some t → Accepted p t)
    (hmeasured : c.measuredPositionM.isFinite = true)
    (command : MotionCommand) : Guided p (c.beginBrakeGate p i.now command) where
  accepted := h
  aligned _ := LiftMotionProfile.aligned_hold p.limits c.profile hmeasured
  shown _ _ := rfl
  standing _ := ⟨_, LiftMotionProfile.hold_state p.limits c.profile c.measuredPositionM⟩

theorem Guided.takeTrajectory (h : Guided p c) (hmeasured : c.measuredPositionM.isFinite = true) :
    Guided p (c.takeTrajectory p i) := by
  unfold LiftController.takeTrajectory
  split
  · exact h.settles (settles_discardNative i c)
  · split
    · rename_i trajectory hnew
      have hpending : c.trajectories.pending = some trajectory := by
        unfold newTrajectory at hnew
        split_ifs at hnew
        exact hnew
      unfold beginTrajectory
      refine guided_beginBrakeGate p i (fun t ht => ?_) ?_ _
      · rcases ht with ht | ht
        · exact h.accepted t (Or.inr (hpending.trans ht))
        · exact h.accepted t (Or.inr ht)
      · exact hmeasured
    · exact h

theorem intake_measured : (c.intake p i).measuredPositionM = c.measuredPositionM := by
  have htake (d : LiftController otg) :
      (d.takeTrajectory p i).measuredPositionM = d.measuredPositionM := by
    unfold LiftController.takeTrajectory discardNative dropPendingTrajectory
    split_ifs
    · rfl
    · rfl
    · split <;> rfl
  have hestop : (c.leaveEstop p).measuredPositionM = c.measuredPositionM := by
    unfold leaveEstop
    split_ifs <;> rfl
  exact (htake _).trans hestop

theorem Guided.intake (h : Guided p c) (hmeasured : c.measuredPositionM.isFinite = true) :
    Guided p (c.intake p i) := by
  have hestop := h.settles (settles_leaveEstop p c)
  have hobserve : Guided p (c.leaveEstop p).observeLeaseGate :=
    hestop.settles ⟨Or.inr ⟨rfl, rfl, rfl⟩, fun _ ht => ht⟩
  refine hobserve.takeTrajectory p i ?_
  show (c.leaveEstop p).measuredPositionM.isFinite = true
  unfold leaveEstop
  split_ifs <;> exact hmeasured

/-- A jog that is changed goes on from where it is, or the lift is in fault. -/
theorem Guided.executeJog (h : Guided p c) (hjog : c.mode = .jog) (command : MotionCommand) :
    Guided p (c.executeJog p i command) := by
  have hrests : c.mode.rests = false := by
    rw [hjog]
    rfl
  unfold LiftController.executeJog
  dsimp only
  split_ifs
  · refine h.target p hrests (by rw [hjog]; rintro ⟨⟩) (fun _ ht => ht)
      (LiftMotionProfile.sameStart_setVelocityTarget _ _ _ _) rfl ?_
    show c.mode ≠ .brakeGate ∧ c.mode ≠ .streaming
    rw [hjog]
    exact ⟨by rintro ⟨⟩, by rintro ⟨⟩⟩
  · exact .of_rests h.accepted rfl

theorem Guided.execute (h : Guided p c) (hmeasured : c.measuredPositionM.isFinite = true)
    (s : Selection) : Guided p (c.execute p i s).2 := by
  have hsame : (c.consume s).measuredPositionM.isFinite = true := by
    unfold consume
    split_ifs <;> exact hmeasured
  have hd := h.settles (settles_consume c s)
  have hexecutes := executes p i c s
  generalize (c.execute p i s).2 = c' at hexecutes ⊢
  cases hexecutes with
  | stop => exact hd.settles (settles_executeStop p _ s)
  | waits => exact hd.settles ⟨Or.inr ⟨rfl, rfl, rfl⟩, fun _ ht => ht⟩
  | jog htype hmode => exact hd.executeJog p i hmode s.command
  | stream htype hmode =>
    exact ⟨hd.accepted, hd.aligned, fun _ hno => absurd hmode hno, hd.standing⟩
  | gate =>
    have hdrop : Settles (c.consume s) { c.consume s with
        trajectories := { (c.consume s).trajectories with
          active := none, activeGeneration := 0 } } :=
      ⟨Or.inr ⟨rfl, rfl, rfl⟩, .dropped rfl rfl⟩
    exact guided_beginBrakeGate p i (hd.settles hdrop).accepted hsame s.command
  | nothing => exact hd

theorem Guided.dispatch (h : Guided p c) (hmeasured : c.measuredPositionM.isFinite = true) :
    Guided p (c.dispatch p i).2 := by
  have hselect := h.settles (settles_selectCommand c)
  unfold LiftController.dispatch
  split
  · refine hselect.execute p i ?_ _
    unfold selectCommand
    split_ifs <;> exact hmeasured
  · exact hselect

/-! ## The mode of the cycle -/

theorem Guided.advanceProfile (h : Guided p c) (hmode : c.mode.rests = false)
    (hgate : c.mode ≠ .brakeGate ∧ c.mode ≠ .streaming) : Guided p (c.advanceProfile p i) where
  accepted := h.accepted
  aligned _ := (h.aligned hmode).update _ _
  shown _ _ := rfl
  standing hwaits := absurd hwaits (not_or.mpr hgate)

theorem Guided.showProfile (h : Guided p c) : Guided p c.showProfile where
  accepted := h.accepted
  aligned := h.aligned
  shown _ _ := rfl
  standing := h.standing

/-- A point that the callback has accepted is accepted by the profile. -/
theorem startTrajectoryPoint_accepted {t : JointTrajectory} {index : ℕ}
    (hactive : c.trajectories.active = some t) (haccepted : Accepted p t)
    (hindex : index < t.points.length) : (c.startTrajectoryPoint p index).1 = true := by
  have hpoint : t.points[index]? = some t.points[index] := List.getElem?_eq_getElem hindex
  have hbind : (c.trajectories.active.bind fun t => t.points[index]?) = some t.points[index] := by
    rw [hactive]
    exact hpoint
  have hchecked : acceptsPoint p t.points[index] = true :=
    List.all_eq_true.mp haccepted _ (List.getElem_mem hindex)
  generalize t.points[index] = point at hbind hchecked
  have hoptional : ∀ xs : List Double, optionalFinite xs = true → (xs.headD 0).isFinite = true := by
    intro xs hxs
    match xs with
    | [] => rfl
    | [x] => exact hxs
  unfold LiftController.startTrajectoryPoint
  rw [hbind]
  obtain ⟨positions, velocities, accelerations, sec, nanosec⟩ := point
  match positions with
  | [position] =>
    simp only [acceptsPoint, Bool.and_eq_true] at hchecked
    have hvelocity := hoptional _ hchecked.1.2
    have hacceleration := hoptional _ hchecked.2
    show (LiftMotionProfile.setPositionTarget _ _ position _ _ _ 0).1 = true
    unfold LiftMotionProfile.setPositionTarget
    rw [if_neg]
    rintro (h | h | h | h)
    · exact h hchecked.1.1.1.1
    · exact h hvelocity
    · exact h hacceleration
    · exact h rfl
  | [] => cases hchecked
  | _ :: _ :: _ => cases hchecked

theorem pointCount_spec {index : ℕ} (h : index < c.pointCount) :
    ∃ t, c.trajectories.active = some t ∧ index < t.points.length := by
  unfold pointCount at h
  cases hactive : c.trajectories.active with
  | none =>
    rw [hactive] at h
    exact absurd h (Nat.not_lt_zero _)
  | some t =>
    rw [hactive] at h
    exact ⟨t, rfl, h⟩

theorem sameStart_startTrajectoryPoint (index : ℕ) :
    SameStart c.profile (c.startTrajectoryPoint p index).2.profile := by
  unfold LiftController.startTrajectoryPoint
  split
  · exact .refl _
  · exact LiftMotionProfile.sameStart_setPositionTarget _ _ _ _ _ _ _

theorem startTrajectoryPoint_keeps (index : ℕ) :
    (c.startTrajectoryPoint p index).2.mode = c.mode ∧
      (c.startTrajectoryPoint p index).2.commandSample = c.commandSample ∧
      KeepsTrajectories c (c.startTrajectoryPoint p index).2 := by
  unfold LiftController.startTrajectoryPoint
  split
  · exact ⟨rfl, rfl, fun _ ht => ht⟩
  · exact ⟨rfl, rfl, fun _ ht => ht⟩

theorem Guided.nextTrajectoryPoint (h : Guided p c) (hmode : c.mode = .trajectory) :
    Guided p (c.nextTrajectoryPoint p) := by
  unfold LiftController.nextTrajectoryPoint
  dsimp only
  set taken : LiftController otg := { c with trajectories := { c.trajectories with
    pointIndex := c.trajectories.pointIndex + 1 } } with htaken
  have hguided : Guided p taken := h.settles ⟨Or.inr ⟨rfl, rfl, rfl⟩, fun _ ht => ht⟩
  obtain ⟨hkept, hsample, htrajectories⟩ :=
    startTrajectoryPoint_keeps (c := taken) p (c.trajectories.pointIndex + 1)
  have hpoint : Guided p (taken.startTrajectoryPoint p (c.trajectories.pointIndex + 1)).2 := by
    have htrajectory : taken.mode = .trajectory := hmode
    refine hguided.target p (by rw [htrajectory]; rfl) (by rw [htrajectory]; rintro ⟨⟩)
      htrajectories (sameStart_startTrajectoryPoint p _) hsample ?_
    rw [hkept, htrajectory]
    exact ⟨by rintro ⟨⟩, by rintro ⟨⟩⟩
  split_ifs
  · exact hpoint
  · exact hpoint.settles (settles_beginSoftStop p _ _ _)
  · exact h.settles ⟨Or.inr ⟨rfl, rfl, rfl⟩, fun _ ht => ht⟩

theorem Guided.motionCycle (h : Guided p c) (hmode : c.mode ≠ .brakeGate) :
    Guided p (c.motionCycle p i) := by
  unfold LiftController.motionCycle
  split
  · exact .of_rests (fun t ht => h.accepted t (Or.inr (ht.resolve_left (by rintro ⟨⟩)))) rfl
  · split
    · rename_i htrajectory
      have hrests : c.mode.rests = false := by
        rw [htrajectory.1]
        rfl
      have hgate : c.mode ≠ .brakeGate ∧ c.mode ≠ .streaming := by
        rw [htrajectory.1]
        exact ⟨by rintro ⟨⟩, by rintro ⟨⟩⟩
      have hadvance : Guided p (LiftController.advanceProfile p i { c with
          trajectories := { c.trajectories with
            elapsedSec := c.trajectories.elapsedSec + i.dt } }) :=
        Guided.advanceProfile p i (h.settles ⟨Or.inr ⟨rfl, rfl, rfl⟩, fun _ ht => ht⟩) hrests hgate
      unfold trajectoryCycle
      dsimp only
      split
      · exact hadvance.nextTrajectoryPoint p htrajectory.1
      · exact hadvance
    · split
      · rename_i hprofile
        cases hrests : c.mode.rests with
        | true => exact .of_rests h.accepted hrests
        | false =>
          refine h.advanceProfile p i hrests ⟨hmode, fun hstream => ?_⟩
          rw [hstream] at hprofile
          rcases hprofile with hno | hno | hno <;> cases hno
      · split
        · exact h
        · exact h.showProfile

theorem Guided.startGatedMotion (h : Guided p c) (hmode : c.mode = .brakeGate) :
    Guided p (c.startGatedMotion p i.now) := by
  have hrests : c.mode.rests = false := by
    rw [hmode]
    rfl
  have hstream : c.mode ≠ .streaming := by
    rw [hmode]
    rintro ⟨⟩
  unfold LiftController.startGatedMotion
  split
  · exact h
  · unfold startGatedCommand
    cases c.gatedCommand.type with
    | position =>
      exact h.target p hrests hstream (fun _ ht => ht)
        (LiftMotionProfile.sameStart_setPositionTarget _ _ _ _ _ _ _) rfl
        ⟨by rintro ⟨⟩, by rintro ⟨⟩⟩
    | trajectory =>
      dsimp only
      set taken : LiftController otg := { c with
        gatedCommandValid := false
        trajectories := { c.trajectories with
          elapsedSec := 0, pointIndex := 0, waitingAtPoint := false } } with htaken
      obtain ⟨-, hsample, htrajectories⟩ := startTrajectoryPoint_keeps (c := taken) p 0
      have htarget : Guided p { (taken.startTrajectoryPoint p 0).2 with mode := .trajectory } :=
        h.target p hrests hstream htrajectories (sameStart_startTrajectoryPoint (c := taken) p 0)
          hsample ⟨by rintro ⟨⟩, by rintro ⟨⟩⟩
      split_ifs
      · exact htarget
      · exact .of_rests
          (fun t ht => h.accepted t (htrajectories t (Or.inr (ht.resolve_left (by rintro ⟨⟩))))) rfl
    | jog =>
      exact h.target p hrests hstream (fun _ ht => ht)
        (LiftMotionProfile.sameStart_setVelocityTarget _ _ _ _) rfl
        ⟨by rintro ⟨⟩, by rintro ⟨⟩⟩
    | stream =>
      exact ⟨h.accepted, fun _ => h.aligned hrests, fun _ hno => absurd rfl hno,
        fun _ => h.standing (Or.inl hmode)⟩
    | none => exact .of_rests h.accepted rfl
    | softStop => exact .of_rests h.accepted rfl
    | hold => exact .of_rests h.accepted rfl

theorem Guided.brakeGateCycle (h : Guided p c) (hmode : c.mode = .brakeGate)
    (streamSelected : Bool) : Guided p (c.brakeGateCycle p i streamSelected).controller := by
  have hshow {d : LiftController otg} (hd : Settles c d) : Guided p d.showProfile :=
    (h.settles hd).showProfile
  unfold LiftController.brakeGateCycle
  dsimp only
  split
  · exact .of_rests (fun t ht => h.accepted t (Or.inr (ht.resolve_left (by rintro ⟨⟩)))) rfl
  · split
    · split
      · exact hshow ⟨Or.inr ⟨rfl, rfl, rfl⟩, fun _ ht => ht⟩
      · split
        · have hstart := h.startGatedMotion p i hmode
          split
          · exact hstart.showProfile
          · exact hstart
        · exact hshow (.refl c)
    · exact hshow ⟨Or.inr ⟨rfl, rfl, rfl⟩, fun _ ht => ht⟩

theorem Guided.runMode (h : Guided p c) (streamSelected : Bool) :
    Guided p (c.runMode p i streamSelected).controller := by
  unfold LiftController.runMode
  split
  · rename_i hmode
    exact h.brakeGateCycle p i hmode streamSelected
  · rename_i hmode
    exact h.motionCycle p i hmode

/-! ## The end of the cycle -/

/-- The interfaces show the sample of the profile in the modes that follow the profile. -/
def ShowsProfile (p : LiftParameters) (c : LiftController otg) : Prop :=
  c.mode.rests = false → c.mode ≠ .streaming → Shows p c.interfaces c.profile.state

theorem ShowsProfile.keep (h : ShowsProfile p c) (hkeep : KeepsSetpoint c c') :
    ShowsProfile p c' := by
  unfold ShowsProfile
  rw [hkeep.mode, hkeep.interfaces, hkeep.profile]
  exact h

/-- A valid sample of the profile is written as it is. -/
theorem Guided.showsProfile (h : Guided p c)
    (hvalid : c.mode.rests = true ∨ c.commandSample.valid = true) :
    ShowsProfile p (c.writeCommandInterfaces p c.commandSample) := by
  intro hrests hstream
  have hshown : c.commandSample = c.profile.state := h.shown hrests hstream
  rcases hvalid with hno | hvalid
  · cases hno.symm.trans hrests
  · rw [hshown] at hvalid ⊢
    exact shows_writeCommandInterfaces p c ((h.aligned hrests).sound hvalid)

/-- What ends a cycle keeps the controller guided, and writes the sample of the profile. -/
theorem Guided.finishCycle (h : Guided p c) :
    Guided p (c.finishCycle p i) ∧ ShowsProfile p (c.finishCycle p i) := by
  have hcheck := settles_checkSample p c
  have hend : Settles (c.checkSample p)
      ((((c.checkSample p).finishSoftStop p).checkGoal p i).applyZeroFrameResync p) :=
    ((settles_finishSoftStop p _).trans (settles_checkGoal p i _)).trans
      (settles_applyZeroFrameResync p _)
  have hchecked : (c.checkSample p).mode.rests = true ∨
      (c.checkSample p).commandSample.valid = true := by
    unfold checkSample
    split_ifs with hvalid
    · exact Or.inr hvalid
    · exact Or.inl rfl
  have hguided := h.settles (hcheck.trans hend)
  unfold LiftController.finishCycle
  dsimp only
  generalize (((c.checkSample p).finishSoftStop p).checkGoal p i).applyZeroFrameResync p = d
    at hend hguided ⊢
  have hvalid : d.mode.rests = true ∨ d.commandSample.valid = true := by
    rcases hend.rests with hrests | ⟨hmode, -, hsample⟩
    · exact Or.inl hrests
    · rw [hmode, hsample]
      exact hchecked
  exact ⟨hguided.settles ((settles_writeCommandInterfaces p d _).trans
    (settles_confirmPendingHold p _)),
    (hguided.showsProfile p hvalid).keep p (keepsSetpoint_confirmPendingHold p)⟩

theorem Guided.runCycle (h : Guided p c) (hmeasured : c.measuredPositionM.isFinite = true) :
    Guided p (c.runCycle p i).controller ∧ ShowsProfile p (c.runCycle p i).controller := by
  have hgate := (h.dispatch p i hmeasured).settles (settles_checkDriverGate p i _)
  have hfinish := (hgate.runMode p i (c.dispatch p i).1).finishCycle p i
  exact ⟨hfinish.1.settles (settles_acknowledge p i _ _ _),
    hfinish.2.keep p (keepsSetpoint_acknowledge p i _ _)⟩

theorem Guided.readStateInterfaces (h : Guided p c) : Guided p (c.readStateInterfaces i) :=
  h.settles ⟨Or.inr ⟨rfl, rfl, rfl⟩, fun _ ht => ht⟩

/-- A cycle keeps the controller guided, and writes the sample of the profile. -/
theorem Guided.update (h : Guided p c) :
    Guided p (c.update p i).controller ∧ ShowsProfile p (c.update p i).controller := by
  have hread := h.readStateInterfaces p i
  have hrests {d : LiftController otg} (hd : d.mode.rests = true)
      (htrajectories : KeepsTrajectories (c.readStateInterfaces i) d) :
      Guided p d ∧ ShowsProfile p d :=
    ⟨.of_rests (fun t ht => hread.accepted t (htrajectories t ht)) hd,
      fun hno => by cases hd.symm.trans hno⟩
  cases hfinite : i.state.finite with
  | false =>
    rw [update_nonFinite p i c hfinite]
    exact hrests rfl (settles_failPendingHold _ _).trajectories
  | true =>
    cases hestop : c.driver.estopLatched with
    | true =>
      rw [update_estop p i c hfinite hestop]
      have hdrop := (settles_dropPendingTrajectory i { c.readStateInterfaces i with
        mode := .estop
        gatedCommandValid := false
        trajectories := { c.trajectories with active := none } }).trajectories
      refine hrests ?_ fun t ht => (hdrop t ht).imp (by rintro ⟨⟩) id
      unfold estopCycle dropPendingTrajectory
      split_ifs <;> rfl
    | false =>
      rw [update_run p i c hfinite hestop]
      have hmeasured : (c.readStateInterfaces i).measuredPositionM.isFinite = true :=
        StateInterfaces.position_of_finite hfinite
      refine (hread.intake p i hmeasured).runCycle p i ?_
      rw [intake_measured]
      exact hmeasured

end LiftController

end Lift

end JointController
