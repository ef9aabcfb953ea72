import JointController.Hardware.System
import JointController.Library.Runs

/-!
# The bound of a reset search

Whether a reset search is cancelled by the read that measures too long a travel.

* `beyondSearch`: a position is further from the start of the search than it may travel.
* `SearchCancelled`: the takeover is revoked and a stop is requested.
* `readSample_cancels_iff`: when a read cancels the search.
* `cancelsBeyond_iff`: along every run.
-/

namespace JointController

namespace Hardware

namespace LiftHardware

variable (p : HardwareParameters) (hw : LiftHardware)

/-- A reset search is on, and the position is beyond its start by more than the search may travel,
in the direction of the search. -/
def beyondSearch (positionM : ℚ) : Bool :=
  hw.takeover.velocityRequest &&
    decide (hw.takeover.searchStartPositionM + p.resetMaxSearchTravelM + p.commandEpsilonM <
      positionM)

/-- The search is cancelled: there is no further search velocity and a stop is requested. -/
def SearchCancelled : Prop :=
  hw.takeover.velocityRequest = false ∧ hw.takeover.velocityStopPending = true ∧
    hw.brake.stopRequested = true

/-- A position is outside the configured range. -/
def outsideRangeAt (positionM : ℚ) : Bool :=
  decide (positionM < p.positionMinM - p.commandEpsilonM) ||
    decide (p.positionMaxM + p.commandEpsilonM < positionM)

/-- The measured velocity is too high. -/
def overspeeds (velocityMps : ℚ) : Bool :=
  decide (p.maxFeedbackVelocityMps + .finite p.feedbackVelocityToleranceMps <
    .finite |velocityMps|)

/-! ## The stages of a read -/

/-- What a search depends on. -/
structure SearchState where
  takeover : Takeover
  brake : Brake
  motionBlocked : Bool
  positionLimitViolation : Bool

/-- What a search depends on. -/
def searchState : SearchState where
  takeover := hw.takeover
  brake := hw.brake
  motionBlocked := hw.motionBlocked
  positionLimitViolation := hw.positionLimitViolation

variable (i : ReadInput) (sample : LiftTxPdo)

theorem updateTransportHealth_searchState (healthy : Bool) :
    (hw.updateTransportHealth healthy).searchState = hw.searchState := by
  unfold updateTransportHealth
  dsimp only
  split
  · rfl
  · split
    · rfl
    · split <;> rfl

theorem takeSample_searchState : (hw.takeSample p i sample).searchState = hw.searchState := by
  unfold takeSample
  dsimp only
  exact updateTransportHealth_searchState _ _

theorem observeHoming_searchState : (hw.observeHoming sample).searchState = hw.searchState := by
  unfold observeHoming
  split <;> rfl

/-- The lift as it is when the feedback of a read is followed. -/
def sampleTaken : LiftHardware := (hw.takeSample p i sample).observeHoming sample

theorem sampleTaken_searchState : (hw.sampleTaken p i sample).searchState = hw.searchState := by
  unfold sampleTaken
  rw [observeHoming_searchState, takeSample_searchState]

/-- The continuity guard compares the position from where it is, or from a new epoch. -/
def rebasedGuard : FeedbackContinuityGuard :=
  if hw.continuityResetPending then hw.continuity.reset p.source else hw.continuity

/-- The feedback is followed by the continuity guard. -/
theorem followFeedback_eq (positionM velocityMps : ℚ) : ∃ base : LiftHardware,
    hw.followFeedback p i positionM velocityMps = base.observeFeedbackContinuity p i.now positionM
      (i.status.healthy p && !hw.transport.faultActive) ∧
    base.searchState = hw.searchState ∧ base.continuity = hw.rebasedGuard p := by
  unfold followFeedback rebasedGuard
  dsimp only
  split
  · exact ⟨_, rfl, rfl, rfl⟩
  · exact ⟨_, rfl, rfl, rfl⟩

/-- The position jumps, as the continuity guard sees it. -/
def detectsJump : Bool :=
  let taken := hw.sampleTaken p i sample
  ((taken.rebasedGuard p).observe (hw.samplePositionM p sample) i.now p.source
    (i.status.healthy p && !taken.transport.faultActive)).1 == .jumpDetected

/-- The lift as it is when its limits are checked. -/
def followed : LiftHardware :=
  (hw.sampleTaken p i sample).followFeedback p i (hw.samplePositionM p sample)
    (p.units.velocityUnitsToMps sample.actualVelocityUnitsPerS)

theorem latchMotionFault_cancels (reasonCode : ℕ) :
    (hw.latchMotionFault reasonCode).SearchCancelled := ⟨rfl, rfl, rfl⟩

theorem followed_of_jump (h : hw.detectsJump p i sample = true) :
    (hw.followed p i sample).SearchCancelled := by
  obtain ⟨base, hfollow, -, hguard⟩ := (hw.sampleTaken p i sample).followFeedback_eq p i
    (hw.samplePositionM p sample) (p.units.velocityUnitsToMps sample.actualVelocityUnitsPerS)
  have hjump := beq_iff_eq.mp h
  rw [← hguard] at hjump
  unfold followed
  rw [hfollow]
  unfold observeFeedbackContinuity
  dsimp only
  rw [if_pos hjump]
  exact latchMotionFault_cancels _ 2

theorem followed_of_no_jump (h : hw.detectsJump p i sample = false) :
    (hw.followed p i sample).searchState = hw.searchState := by
  obtain ⟨base, hfollow, hstate, hguard⟩ := (hw.sampleTaken p i sample).followFeedback_eq p i
    (hw.samplePositionM p sample) (p.units.velocityUnitsToMps sample.actualVelocityUnitsPerS)
  have hjump := beq_eq_false_iff_ne.mp h
  rw [← hguard] at hjump
  unfold followed
  rw [hfollow, ← hw.sampleTaken_searchState p i sample, ← hstate]
  unfold observeFeedbackContinuity
  dsimp only
  rw [if_neg hjump]
  rfl

/-! ## The checks -/

theorem checkPositionLimits_of_cancelled {hw : LiftHardware} (h : hw.SearchCancelled)
    (positionM : ℚ) : (hw.checkPositionLimits p positionM).SearchCancelled := by
  obtain ⟨hrequest, hpending, hstop⟩ := h
  unfold checkPositionLimits
  dsimp only
  split
  · split
    · exact ⟨hrequest, hpending, hstop⟩
    · exact ⟨rfl, rfl, rfl⟩
  · exact ⟨hrequest, hpending, hstop⟩

/-- Beyond its window, the check of the software range cancels a search exactly when the position is
outside the range, no motion fault is latched and the position was not outside before. -/
theorem checkPositionLimits_beyond {positionM : ℚ} (h : hw.beyondSearch p positionM = true) :
    if outsideRangeAt p positionM = true ∧ hw.motionBlocked = false ∧
        hw.positionLimitViolation = false then
      (hw.checkPositionLimits p positionM).SearchCancelled
    else (hw.checkPositionLimits p positionM).takeover = hw.takeover := by
  obtain ⟨-, hbeyond⟩ := (Bool.and_eq_true _ _).mp h
  have hwindow : hw.inSearchWindow p positionM = false := by
    unfold inSearchWindow
    rw [decide_eq_false (not_le.mpr (of_decide_eq_true hbeyond)), Bool.and_false]
  have houtside : hw.outsideLimits p positionM = outsideRangeAt p positionM := by
    unfold outsideLimits outsideRangeAt
    rw [hwindow]
    rfl
  unfold checkPositionLimits
  dsimp only
  rw [houtside]
  cases outsideRangeAt p positionM with
  | false => rfl
  | true =>
    cases hw.motionBlocked with
    | true => simp
    | false =>
      cases hw.positionLimitViolation with
      | true => rfl
      | false => exact ⟨rfl, rfl, rfl⟩

theorem checkVelocity_search (velocityMps : ℚ) :
    if overspeeds p velocityMps then (hw.checkVelocity p velocityMps).SearchCancelled
    else hw.checkVelocity p velocityMps = hw := by
  unfold checkVelocity overspeeds
  by_cases h : p.maxFeedbackVelocityMps + .finite p.feedbackVelocityToleranceMps <
      .finite |velocityMps|
  · rw [if_pos h, decide_eq_true h]
    exact latchMotionFault_cancels hw 5
  · rw [if_neg h, decide_eq_false h]
    rfl

/-! ## A read -/

/-- What makes a read that measures a position beyond the window cancel the search. -/
def CancelsSearch : Prop :=
  hw.detectsJump p i sample = true ∨
    overspeeds p (p.units.velocityUnitsToMps sample.actualVelocityUnitsPerS) = true ∨
    (outsideRangeAt p (hw.samplePositionM p sample) = true ∧ hw.motionBlocked = false ∧
      hw.positionLimitViolation = false)

theorem readSample_search : (hw.readSample p i sample).SearchCancelled ↔
    (((hw.followed p i sample).checkPositionLimits p (hw.samplePositionM p sample)).checkVelocity p
      (p.units.velocityUnitsToMps sample.actualVelocityUnitsPerS)).SearchCancelled := Iff.rfl

/-- When a read that measures a position beyond the window cancels the search. -/
theorem readSample_cancels_iff (h : hw.beyondSearch p (hw.samplePositionM p sample) = true) :
    (hw.readSample p i sample).SearchCancelled ↔ hw.CancelsSearch p i sample := by
  set positionM := hw.samplePositionM p sample with hposition
  set velocityMps := p.units.velocityUnitsToMps sample.actualVelocityUnitsPerS with hvelocity
  have hchecked := ((hw.followed p i sample).checkPositionLimits p positionM).checkVelocity_search p
    velocityMps
  rw [readSample_search, ← hposition, ← hvelocity]
  cases hspeed : overspeeds p velocityMps with
  | true =>
    rw [hspeed, if_pos rfl] at hchecked
    exact iff_of_true hchecked (Or.inr (Or.inl hspeed))
  | false =>
    rw [hspeed, if_neg Bool.false_ne_true] at hchecked
    rw [hchecked]
    cases hjump : hw.detectsJump p i sample with
    | true =>
      exact iff_of_true (checkPositionLimits_of_cancelled p
        (hw.followed_of_jump p i sample hjump) _)
        (Or.inl hjump)
    | false =>
      have hstate := hw.followed_of_no_jump p i sample hjump
      have htakeover : (hw.followed p i sample).takeover = hw.takeover :=
        congrArg SearchState.takeover hstate
      have hblocked : (hw.followed p i sample).motionBlocked = hw.motionBlocked :=
        congrArg SearchState.motionBlocked hstate
      have hviolation : (hw.followed p i sample).positionLimitViolation =
          hw.positionLimitViolation := congrArg SearchState.positionLimitViolation hstate
      have hbeyond : (hw.followed p i sample).beyondSearch p positionM = true := by
        unfold beyondSearch
        rw [htakeover]
        exact h
      have hlimits := (hw.followed p i sample).checkPositionLimits_beyond p hbeyond
      rw [hblocked, hviolation, htakeover] at hlimits
      have hrequest : hw.takeover.velocityRequest = true := ((Bool.and_eq_true _ _).mp h).1
      by_cases hcondition : outsideRangeAt p positionM = true ∧ hw.motionBlocked = false ∧
          hw.positionLimitViolation = false
      · rw [if_pos hcondition] at hlimits
        exact iff_of_true hlimits (Or.inr (Or.inr hcondition))
      · rw [if_neg hcondition] at hlimits
        refine iff_of_false (fun hcancelled => ?_) ?_
        · rw [SearchCancelled, hlimits, hrequest] at hcancelled
          exact Bool.false_ne_true hcancelled.1.symm
        · rintro (hno | hno | hno)
          · exact Bool.false_ne_true (hjump.symm.trans hno)
          · exact Bool.false_ne_true (hspeed.symm.trans hno)
          · exact hcondition hno

/-! ## Runs -/

/-- A read measures a position beyond the window of the search. -/
def measuresBeyond (e : Event) : Prop :=
  ∃ i sample, e = .read i ∧ i.sample = some sample ∧ hw.active = true ∧
    hw.beyondSearch p (hw.samplePositionM p sample) = true

/-- A read that measures a position beyond the window of the search cancels it. -/
def CancelsBeyond (hw : LiftHardware) (e : Event) (hw' : LiftHardware) : Prop :=
  hw.measuresBeyond p e → hw'.SearchCancelled

/-- A read that measures a position beyond the window detects a jump or too high a velocity, or it
is the first to measure a position outside the configured range. -/
def NoticesBeyond (hw : LiftHardware) (e : Event) : Prop :=
  hw.measuresBeyond p e → ∀ i sample, e = .read i → i.sample = some sample →
    hw.CancelsSearch p i sample

theorem read_active {hw hw' : LiftHardware} (hactive : hw.active = true)
    (hsample : i.sample = some sample) (h : step p hw (.read i) = some hw') :
    hw' = hw.readSample p i sample := by
  obtain ⟨-, hstep⟩ := (step_eq_some p).mp h
  rw [← hstep]
  show (hw.read p i).2 = _
  unfold read
  rw [if_neg (not_not.mpr hactive), hsample]

theorem cancelsBeyond_step {hw hw' : LiftHardware} {e : Event} (h : step p hw e = some hw') :
    CancelsBeyond p hw e hw' ↔ NoticesBeyond p hw e := by
  refine imp_congr_right fun hmeasures => ?_
  obtain ⟨i, sample, rfl, hsample, hactive, hbeyond⟩ := hmeasures
  rw [read_active p i sample hactive hsample h, hw.readSample_cancels_iff p i sample hbeyond]
  constructor
  · rintro hcancels j other hj hother
    obtain rfl := Event.read.inj hj
    obtain rfl := Option.some_inj.mp (hsample.symm.trans hother)
    exact hcancels
  · exact fun hnotices => hnotices i sample rfl hsample

/-- In every run, each read that measures a position beyond the window of the search cancels it
exactly when each of these reads notices by another check. -/
theorem cancelsBeyond_iff (events : List Event) :
    Runs.Throughout (step p) (CancelsBeyond p) hw events ↔
      Runs.Meets (step p) (NoticesBeyond p) hw events := by
  refine Runs.throughout_iff_meets_from (I := fun _ => True) (C := NoticesBeyond p)
    (R := CancelsBeyond p) (fun _ _ _ _ _ _ => trivial)
    (fun _ _ _ _ h => cancelsBeyond_step p h) ?_ trivial
  rintro s e hdisabled ⟨i, sample, rfl, -⟩
  -- a read is always enabled
  exact absurd hdisabled (Option.some_ne_none _)

/-! ## A search that goes on -/

/-- A search starts in the middle of the configured range, and the next read measures a position 110
mm further up, 10 mm beyond the window. -/
def overlongSearch : List Event :=
  Bench.start 1 (-500000) ++
    [Event.resetVelocity (Bench.time 6) true, Bench.readAt 7 0x0027 (-390000)]

/-- A read measures a position beyond the window, and the search goes on. -/
def escapes (hw : LiftHardware) (e : Event) : Bool :=
  match e with
  | .read i => match i.sample with
    | none => false
    | some sample => hw.active && hw.beyondSearch bench (hw.samplePositionM bench sample) &&
        (hw.readSample bench i sample).takeover.velocityRequest
  | _ => false

theorem not_cancelsBeyond_of_escapes (hw : LiftHardware) (e : Event) (h : escapes hw e = true) :
    ∃ hw', step bench hw e = some hw' ∧ ¬ CancelsBeyond bench hw e hw' := by
  cases e with
  | read i =>
    unfold escapes at h
    dsimp only at h
    cases hsample : i.sample with
    | none =>
      rw [hsample] at h
      exact absurd h Bool.false_ne_true
    | some sample =>
      rw [hsample] at h
      simp only [Bool.and_eq_true] at h
      obtain ⟨⟨hactive, hbeyond⟩, hgoes⟩ := h
      have hstep : step bench hw (.read i) = some (hw.read bench i).2 := rfl
      refine ⟨_, hstep, fun hcancels => ?_⟩
      have hcancelled := hcancels ⟨i, sample, rfl, hsample, hactive, hbeyond⟩
      rw [read_active bench i sample hactive hsample hstep] at hcancelled
      exact Bool.false_ne_true (hcancelled.1.symm.trans hgoes)
  | _ => exact absurd h Bool.false_ne_true

/-- A search inside the configured range goes on beyond its window. -/
theorem not_cancelsBeyond_overlongSearch :
    ¬ Runs.Throughout (step bench) (CancelsBeyond bench) (initial bench 0) overlongSearch := by
  intro h
  have hfound : Runs.finds (step bench) escapes (initial bench 0) overlongSearch = true := by
    decide +kernel
  exact Bool.false_ne_true ((h.finds_eq_false not_cancelsBeyond_of_escapes).symm.trans hfound)

end LiftHardware

end Hardware

end JointController
