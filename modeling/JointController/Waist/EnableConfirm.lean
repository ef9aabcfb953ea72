import JointController.Waist.Zeroing

/-!
# The confirmation of the enable

After the safe position frame `init_waist_once` waits for the drive to report that it is enabled.
Every pass of the wait tests the cached feedback, also one in which no frame has arrived, so that a
sample from before the safe frame can confirm the enable.

* `Feedback.confirms`: the report that the wait is for.
* `EnableNote`, `enableNote`: an observer notes what has arrived since the safe frame.
* `ConfirmedFresh`: the initialization succeeds only after a frame that confirms it.
* `HeardSince`: a cached report that would end the wait has come after the safe frame.
* `feedback_of_step`: only a frame brings a feedback.
* `isInitialized_of_step`: how an initialization succeeds.
* `confirmedFresh_iff`: the runs that keep the rule.
* `cached_sample_confirms`: a sample from before the safe frame confirms the enable.
-/

namespace JointController

namespace Waist

/-! ## The rule -/

/-- The drive is enabled, its brake is released, and there is no manufacturer error. -/
def Feedback.confirms (fb : Feedback) : Bool :=
  fb.state &&& kFeedbackStateEnabled != 0 && fb.state &&& kFeedbackStateBrakeReleased != 0 &&
    !(fb.state &&& kFeedbackStateError != 0)

/-- What an observer notes since the last safe frame: that a feedback has arrived, and that one has
arrived that confirms the enable. -/
structure EnableNote where
  heard : Bool
  confirmed : Bool

/-- The feedback that arrives in a step. -/
def Label.arrival (cfg : Settings) : Label → Option Feedback
  | .receive f => parseFeedback cfg.nodeId f
  | _ => none

namespace System

variable (s : System)

/-- The step sends the safe frame of `init_waist_once`. -/
def sendsSafeFrame : Label → Bool
  | .initStep proceeds =>
    match s.procedure with
    | .initializing _ .safeFrame => s.hw.bridge && proceeds
    | _ => false
  | _ => false

/-- The step is a pass of the last wait, and the cached feedback ends it with success. -/
def cacheConfirms : Label → Bool
  | .initStep proceeds =>
    match s.procedure with
    | .initializing _ .confirm =>
      proceeds && s.hw.feedbackValid && s.hw.feedback.confirms &&
        (s.hw.positionValid || s.hw.positionOk)
    | _ => false
  | _ => false

end System

/-- The observer. -/
def enableNote (cfg : Settings) (s : System) (l : Label) (n : EnableNote) : EnableNote :=
  if s.sendsSafeFrame l then ⟨false, false⟩
  else
    match l.arrival cfg with
    | some fb => ⟨true, n.confirmed || fb.confirms⟩
    | none => n

/-- `init_waist_once` returns true only when a feedback that has arrived since the safe frame
reports the drive enabled, the brake released and no error. -/
def ConfirmedFresh (s : System × EnableNote) (_ : Label) (s' : System × EnableNote) : Prop :=
  s.1.procedure.isInitializing = true → s'.1.isInitialized = true → s.2.confirmed = true

/-- When a pass of the last wait finds a cached feedback that confirms the enable, some feedback has
arrived since the safe frame. -/
def HeardSince (s : System × EnableNote) (l : Label) : Prop :=
  s.1.cacheConfirms l = true → s.2.heard = true

variable {cfg : Settings} {s s' : System} {l : Label}

/-! ## How the initialization succeeds -/

theorem positionValid_pollWaistPosition (hw : WaistHardware) :
    (hw.pollWaistPosition cfg).positionValid = (hw.positionValid || hw.positionOk) := by
  unfold WaistHardware.pollWaistPosition
  split_ifs with hok hvalid
  · rw [hok, Bool.or_true]
  · rw [hok, Bool.or_true]
  · rw [Bool.eq_false_of_not_eq_true hok, Bool.or_false]

/-- The initialization is over with success exactly when `init_waist_once` has returned true. -/
theorem isInitialized_initialized (caller : Caller) (ok : Bool) :
    (s.initialized caller ok).1.isInitialized = ok := by
  cases caller with
  | clearError =>
    unfold System.initialized System.errorCleared System.answer System.isInitialized
    exact Bool.and_true ok
  | activation attempts =>
    unfold System.initialized
    cases ok with
    | true => rfl
    | false =>
      simp only [Bool.false_eq_true, if_false]
      split_ifs
      · rfl
      · exact Bool.and_false _

/-- A driver that is being initialized has not been so with success. -/
theorem isInitialized_eq_false (h : s.procedure.isInitializing = true) :
    s.isInitialized = false := by
  unfold System.isInitialized
  rw [h, Bool.not_true, Bool.and_false]

/-- The last wait succeeds exactly when the cached feedback confirms the enable. -/
theorem isInitialized_confirm (caller : Caller) (proceeds : Bool)
    (h : s.procedure = .initializing caller .confirm) :
    (s.initStage cfg caller .confirm proceeds).1.isInitialized =
      (proceeds && s.hw.feedbackValid && s.hw.feedback.confirms &&
        (s.hw.positionValid || s.hw.positionOk)) := by
  have hinitializing : s.procedure.isInitializing = true := by
    rw [h]
    rfl
  unfold System.initStage WaistHardware.manufacturerErrorActive Feedback.confirms
  cases proceeds with
  | false => exact isInitialized_initialized caller false
  | true =>
    cases hvalid : s.hw.feedbackValid with
    | false => exact isInitialized_eq_false hinitializing
    | true =>
      cases herror : (s.hw.feedback.state &&& kFeedbackStateError != 0) with
      | true =>
        rw [Bool.not_true, Bool.and_false, Bool.and_false, Bool.false_and]
        exact isInitialized_initialized caller false
      | false =>
        cases hstate : (s.hw.feedback.state &&& kFeedbackStateEnabled != 0 &&
            s.hw.feedback.state &&& kFeedbackStateBrakeReleased != 0) with
        | false =>
          simp only [Bool.not_true, Bool.and_false, Bool.or_false, Bool.false_eq_true, if_false,
            Bool.true_and, hstate, Bool.false_and]
          exact isInitialized_eq_false hinitializing
        | true =>
          simp only [Bool.not_true, Bool.and_false, Bool.or_false, Bool.false_eq_true, if_false,
            Bool.true_and, hstate, if_true, Bool.not_false, Bool.and_true]
          rw [isInitialized_initialized, positionValid_pollWaistPosition]

/-- No stage before the last one ends the initialization with success. -/
theorem isInitialized_initStage (caller : Caller) (stage : Stage) (proceeds : Bool)
    (h : s.procedure = .initializing caller stage) (hstage : stage ≠ .confirm) :
    (s.initStage cfg caller stage proceeds).1.isInitialized = false := by
  have hwaits : s.isInitialized = false := isInitialized_eq_false (by rw [h]; rfl)
  have hgoes : ∀ (s : System) (next : Stage) (sent : List Frame),
      (s.proceed (.initializing caller next) sent).1.isInitialized = false :=
    fun _ _ _ => isInitialized_eq_false rfl
  have hfails : (s.initialized caller false).1.isInitialized = false :=
    isInitialized_initialized caller false
  cases stage with
  | confirm => exact (hstage rfl).elim
  | request index =>
    unfold System.initStage
    dsimp only
    split
    · split_ifs
      exacts [hgoes _ _ _, hfails]
    · exact hgoes _ _ _
  | _ =>
    unfold System.initStage
    dsimp only
    split_ifs
    all_goals first
      | exact hwaits
      | exact hgoes _ _ _
      | exact hfails

/-- The other threads do not end the initialization. -/
theorem isInitialized_of_moves (hinitializing : s.procedure.isInitializing = true)
    (hinit : ∀ proceeds, l ≠ .initStep proceeds) (hfinish : l ≠ .finishZero)
    (hactivate : ∀ acquired online, l ≠ .beginActivate acquired online) (h : Moves cfg s l s') :
    s'.isInitialized = false := by
  cases h with
  | serve _ procedure hl hidle hgoes =>
    rw [hidle] at hinitializing
    cases hinitializing
  | finishZero => exact (hfinish rfl).elim
  | initStep proceeds hw caller stage _ => exact (hinit proceeds rfl).elim
  | initialized proceeds _ hidle => exact (hinit proceeds rfl).elim
  | opened acquired online => exact (hactivate acquired online rfl).elim
  | closed hidle =>
    rw [hidle] at hinitializing
    cases hinitializing
  | _ => exact isInitialized_eq_false hinitializing

theorem initializing_of_isInitializing {procedure : Procedure}
    (h : procedure.isInitializing = true) :
    ∃ caller stage, procedure = .initializing caller stage := by
  cases procedure with
  | initializing caller stage => exact ⟨caller, stage, rfl⟩
  | _ => cases h

/-- An initialization ends with success in the pass of the last wait that finds a cached feedback
which confirms the enable. -/
theorem isInitialized_of_step (hinitializing : s.procedure.isInitializing = true)
    (h : s.step cfg l = some s') : s'.isInitialized = s.cacheConfirms l := by
  obtain ⟨caller, stage, hp⟩ := initializing_of_isInitializing hinitializing
  cases l with
  | initStep proceeds =>
    simp only [System.step, System.transition, hp, Option.map_some, Option.some_inj] at h
    subst h
    unfold System.cacheConfirms
    rw [hp]
    cases stage with
    | confirm => exact isInitialized_confirm caller proceeds hp
    | _ => exact isInitialized_initStage caller _ proceeds hp (by rintro ⟨⟩)
  | finishZero =>
    simp only [System.step, System.transition, hp, Option.map_none] at h
    cases h
  | beginActivate acquired online =>
    simp only [System.step, System.transition, hp] at h
    rw [if_neg (by rintro ⟨-, ⟨⟩⟩)] at h
    cases h
  | _ =>
    exact isInitialized_of_moves hinitializing (by rintro _ ⟨⟩) (by rintro ⟨⟩) (by rintro _ _ ⟨⟩)
      (moves_of_step h)

/-! ## Where the feedback comes from -/

theorem feedback_read (hw : WaistHardware) (period : ℚ) :
    (hw.read cfg period).feedback = hw.feedback := by
  have hpolled : ((hw.requestSync cfg).pollWaistPosition cfg).feedback = hw.feedback :=
    ((hw.requestSync cfg).feedback_pollWaistPosition cfg).1.trans (hw.requestSync_keeps cfg).2.2.1
  unfold WaistHardware.read
  split_ifs
  · unfold WaistHardware.updateVelocity WaistHardware.updateInitialized
    split_ifs
    all_goals exact hpolled
  · rfl

theorem feedback_write (hw : WaistHardware) : (hw.write cfg).feedback = hw.feedback := by
  unfold WaistHardware.write
  split
  · rfl
  · split_ifs
    all_goals rfl

theorem feedback_initialized (caller : Caller) (ok : Bool) :
    (s.initialized caller ok).1.hw.feedback = s.hw.feedback := by
  cases caller with
  | clearError => rfl
  | activation attempts =>
    unfold System.initialized
    dsimp only
    split_ifs
    all_goals rfl

theorem feedback_initStage (caller : Caller) (stage : Stage) (proceeds : Bool) :
    (s.initStage cfg caller stage proceeds).1.hw.feedback = s.hw.feedback := by
  have hpolled := (s.hw.feedback_pollWaistPosition cfg).1
  cases stage with
  | request index =>
    unfold System.initStage
    dsimp only
    split
    · split_ifs
      exacts [rfl, feedback_initialized _ _]
    · rfl
  | _ =>
    unfold System.initStage
    dsimp only
    split_ifs
    all_goals first
      | rfl
      | exact hpolled
      | exact feedback_initialized _ _
      | exact (feedback_initialized _ _).trans hpolled

/-- A step in which no feedback arrives keeps the cached one, or an activation forgets it. -/
theorem feedback_of_step (hl : l.arrival cfg = none) (h : s.step cfg l = some s') :
    s'.hw.feedback = s.hw.feedback ∨ s'.hw.feedback = noFeedback := by
  obtain ⟨next, hnext, rfl⟩ := Option.map_eq_some_iff.mp h
  cases l with
  | receive frame =>
    simp only [System.transition] at hnext
    obtain ⟨hbridge, hnext⟩ := Option.ite_none_right_eq_some.mp hnext
    obtain rfl := Option.some_inj.mp hnext
    have hparse : parseFeedback cfg.nodeId frame = none := hl
    refine Or.inl ?_
    dsimp only
    unfold WaistHardware.handleBridgeFrame
    rw [hparse]
  | read period =>
    obtain rfl := Option.some_inj.mp hnext
    exact Or.inl (feedback_read s.hw period)
  | write =>
    obtain rfl := Option.some_inj.mp hnext
    exact Or.inl (feedback_write s.hw)
  | work syncAccepted targetAccepted =>
    cases hw : s.worker with
    | running consumed =>
      simp only [System.transition, hw, Option.some_inj] at hnext
      subst hnext
      exact Or.inl rfl
    | _ =>
      simp only [System.transition, hw] at hnext
      cases hnext
  | finishZero =>
    cases hp : s.procedure with
    | measuredAgain before after =>
      simp only [System.transition, hp, Option.some_inj] at hnext
      subst hnext
      exact Or.inl rfl
    | _ =>
      simp only [System.transition, hp] at hnext
      cases hnext
  | initStep proceeds =>
    cases hp : s.procedure with
    | initializing caller stage =>
      simp only [System.transition, hp, Option.some_inj] at hnext
      subst hnext
      exact Or.inl (feedback_initStage caller stage proceeds)
    | _ =>
      simp only [System.transition, hp] at hnext
      cases hnext
  | beginActivate acquired online =>
    simp only [System.transition] at hnext
    obtain ⟨hinactive, hnext⟩ := Option.ite_none_right_eq_some.mp hnext
    obtain rfl := Option.some_inj.mp hnext
    split_ifs
    · exact Or.inr rfl
    · exact Or.inl rfl
  | beginZero _ _ | sendDisable _ | disableAnswered _ | sendZero _ | zeroAnswered _
  | measureAgain _ _ | beginClearError _ | clearErrorLow _ | errorCleared | clearErrorTimeout =>
    cases (serves_of_transition rfl hnext).2 with
    | goesOn procedure sent hsent hzeroing => exact Or.inl rfl
    | givesUp message => exact Or.inl rfl
  | startWorker | elapse _ | beginDeactivate _ _ | finishDeactivate =>
    simp only [System.transition] at hnext
    obtain ⟨-, hnext⟩ := Option.ite_none_right_eq_some.mp hnext
    obtain rfl := Option.some_inj.mp hnext
    exact Or.inl rfl
  | setCommands position velocity acceleration | setOnline online =>
    obtain rfl := Option.some_inj.mp hnext
    exact Or.inl rfl

/-- A feedback that arrives is the cached one afterwards. -/
theorem feedback_of_arrival {fb : Feedback} (hl : l.arrival cfg = some fb)
    (h : s.step cfg l = some s') : s'.hw.feedback = fb := by
  cases l with
  | receive frame =>
    obtain ⟨next, hnext, rfl⟩ := Option.map_eq_some_iff.mp h
    simp only [System.transition] at hnext
    obtain ⟨hbridge, hnext⟩ := Option.ite_none_right_eq_some.mp hnext
    obtain rfl := Option.some_inj.mp hnext
    have hparse : parseFeedback cfg.nodeId frame = some fb := hl
    dsimp only
    unfold WaistHardware.handleBridgeFrame
    rw [hparse]
  | _ => cases hl

/-! ## Runs -/

/-- The cached feedback has come after the safe frame when any has, and then the observer knows
whether it confirms the enable. -/
structure Tracked (s : System × EnableNote) : Prop where
  unheard : s.2.heard = false → s.2.confirmed = false
  heard : s.2.heard = true → s.1.hw.feedback.confirms = true → s.2.confirmed = true

theorem Tracked.next {s s' : System × EnableNote} (hs : Tracked s)
    (h : Runs.observed (System.step cfg) (enableNote cfg) s l = some s') : Tracked s' := by
  obtain ⟨s, n⟩ := s
  obtain ⟨s', n'⟩ := s'
  obtain ⟨hstep, hnote⟩ := Runs.observed_eq_some.mp h
  obtain rfl : n' = enableNote cfg s l n := hnote
  unfold enableNote
  split_ifs with hsafe
  · exact ⟨fun _ => rfl, by rintro ⟨⟩⟩
  · cases hl : l.arrival cfg with
    | some fb =>
      refine ⟨by rintro ⟨⟩, fun _ hconfirms => ?_⟩
      dsimp only at hconfirms
      rw [feedback_of_arrival hl hstep] at hconfirms
      dsimp only
      rw [hconfirms, Bool.or_true]
    | none =>
      refine ⟨hs.unheard, fun hheard hconfirms => ?_⟩
      dsimp only at hconfirms
      obtain hkept | hforgotten := feedback_of_step hl hstep
      · rw [hkept] at hconfirms
        exact hs.heard hheard hconfirms
      · rw [hforgotten] at hconfirms
        cases hconfirms

theorem confirms_of_cacheConfirms (h : s.cacheConfirms l = true) :
    s.procedure.isInitializing = true ∧ s.hw.feedback.confirms = true := by
  cases l with
  | initStep proceeds =>
    unfold System.cacheConfirms at h
    cases hp : s.procedure with
    | initializing caller stage =>
      rw [hp] at h
      cases stage with
      | confirm =>
        simp only [Bool.and_eq_true] at h
        exact ⟨rfl, h.1.2⟩
      | _ => cases h
    | _ =>
      rw [hp] at h
      cases h
  | _ => cases h

/-- The step lemma: a step keeps the rule exactly when a cached feedback that ends the last wait has
come after the safe frame. -/
theorem confirmedFresh_step {s s' : System × EnableNote} (hs : Tracked s)
    (h : Runs.observed (System.step cfg) (enableNote cfg) s l = some s') :
    ConfirmedFresh s l s' ↔ HeardSince s l := by
  have hstep := (Runs.observed_eq_some.mp h).1
  constructor
  · intro hrule hcache
    have hinitializing := (confirms_of_cacheConfirms hcache).1
    have hconfirmed :=
      hrule hinitializing ((isInitialized_of_step hinitializing hstep).trans hcache)
    by_contra hunheard
    rw [hs.unheard (Bool.eq_false_of_not_eq_true hunheard)] at hconfirmed
    cases hconfirmed
  · intro hheard hinitializing hdone
    rw [isInitialized_of_step hinitializing hstep] at hdone
    exact hs.heard (hheard hdone) (confirms_of_cacheConfirms hdone).2

/-- The driver and the observer before the first activation. -/
def enableInitial (now : ℚ) : System × EnableNote := (System.initial now, ⟨false, false⟩)

/-- In a run every `init_waist_once` that returns true has received a confirming feedback since its
safe frame if and only if, whenever a pass of the last wait finds a cached feedback that confirms
the enable, some feedback has arrived since the safe frame. -/
theorem confirmedFresh_iff (cfg : Settings) (now : ℚ) (labels : List Label) :
    Runs.Throughout (Runs.observed (System.step cfg) (enableNote cfg)) ConfirmedFresh
        (enableInitial now) labels ↔
      Runs.Meets (Runs.observed (System.step cfg) (enableNote cfg)) HeardSince (enableInitial now)
        labels := by
  refine Runs.throughout_iff_meets_from (I := Tracked) ?_ ?_ ?_ ⟨fun _ => rfl, by rintro ⟨⟩⟩
  · intro s l s' hs _ hstep
    exact hs.next hstep
  · intro s l s' hs hstep
    exact confirmedFresh_step hs hstep
  · -- A pass of the wait is always possible.
    intro s l hstep hcache
    cases l with
    | initStep proceeds =>
      obtain ⟨caller, stage, hp⟩ := initializing_of_isInitializing
        (confirms_of_cacheConfirms hcache).1
      simp only [Runs.observed, System.step, System.transition, hp, Option.map_some] at hstep
      cases hstep
    | _ => cases hcache

/-! ## A sample from before the safe frame -/

/-- An activation up to the safe frame, of a drive that was still enabled when it sent its only
feedback.  Then the last wait polls once, and nothing arrives. -/
def cachedRun : List Label :=
  [Label.beginActivate true true, .initStep true, .receive enabledFrame] ++
    List.replicate 12 (Label.initStep true) ++
    [Label.elapse (41 / 100), .initStep true, .elapse (1 / 20)]

/-- No feedback has arrived since the safe frame, and the next pass ends the initialization. -/
def cachedSample (s : System × EnableNote) : Bool :=
  s.1.cacheConfirms (.initStep true) && !s.2.confirmed

/-- The activation succeeds without any feedback since the safe frame. -/
theorem cached_sample_confirms :
    ¬ Runs.Throughout (Runs.observed (System.step sampleSettings) (enableNote sampleSettings))
      ConfirmedFresh (enableInitial 0) (cachedRun ++ [.initStep true]) := by
  intro h
  obtain ⟨s, hs, -, hlast⟩ := Runs.reachable_of_run
    (Runs.observed (System.step sampleSettings) (enableNote sampleSettings)) (enableInitial 0)
    cachedRun
    (fun s => cachedSample s && (Runs.observed (System.step sampleSettings)
      (enableNote sampleSettings) s (.initStep true)).isSome) (by decide +kernel)
  obtain ⟨hcached, hsome⟩ := Bool.and_eq_true_iff.mp hlast
  obtain ⟨s', hs'⟩ := Option.isSome_iff_exists.mp hsome
  obtain ⟨hcache, hunheard⟩ := Bool.and_eq_true_iff.mp hcached
  have hinitializing := (confirms_of_cacheConfirms hcache).1
  have hdone := (isInitialized_of_step hinitializing (Runs.observed_eq_some.mp hs').1).trans hcache
  have hconfirmed := h.last hs hs' hinitializing hdone
  rw [hconfirmed] at hunheard
  cases hunheard

end Waist

end JointController
