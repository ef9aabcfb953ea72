import JointController.Lift.ZeroFrame

/-!
# Runs with new zero frames

Whether the cycles of a run bring every target of the lift into the zero frame that was reported
last.

* `ZeroRun`: the controller, with the frames that its targets were written in, and whether a cycle
  has observed a generation since the activation.
* `Resyncs`: what a step has to do with a new generation.
* `LeavesNothing`: the condition on the state before a cycle.
* `resyncs_iff_leavesNothing`: the cycles of a run do what they have to, exactly when what they do
  not take over is no target of the old frame, and a re-zero is not the first generation that is
  observed after an activation.
-/

namespace JointController

namespace Lift

open LiftController (Reseated)

/-- The controller, the generations that had been reported when its targets were written, and
whether no cycle has observed a generation since the last activation. -/
structure ZeroRun (otg : TrajectoryGenerator) where
  lift : LiftController otg
  nativeFrame : Option ℕ
  heavyFrame : Option ℕ
  trajectoryFrame : Option ℕ
  unobserved : Bool

/-- The generation that was reported last. -/
def DriverStatus.frame (driver : DriverStatus) : Option ℕ :=
  if driver.zeroGenerationValid then some driver.zeroGeneration else none

namespace ZeroRun

variable {otg : TrajectoryGenerator} (p : LiftParameters) (s : ZeroRun otg)

/-- The controller after `on_configure`. -/
def configured : ZeroRun otg := ⟨.configured p, none, none, none, true⟩

/-- The frame of a buffer behind an event: a callback that numbers the buffer anew writes it in the
frame that was reported last. -/
def frameBehind (e : Event) (old new : ℕ) (frame : Option ℕ) : Option ℕ :=
  if e.callback && old != new then s.lift.driver.frame else frame

/-- No cycle has observed a generation since the last activation. -/
def unobservedBehind (c' : LiftController otg) : Event → Bool
  | .activate _ => c'.inbox.active || s.unobserved
  | .update i => s.unobserved && !s.lift.observes i
  | _ => s.unobserved

/-- The state behind an event. -/
def behind (e : Event) (c' : LiftController otg) : ZeroRun otg where
  lift := c'
  nativeFrame := s.frameBehind e s.lift.inbox.commandGeneration c'.inbox.commandGeneration
    s.nativeFrame
  heavyFrame := s.frameBehind e s.lift.inbox.heavyCommandGeneration c'.inbox.heavyCommandGeneration
    s.heavyFrame
  trajectoryFrame := s.frameBehind e s.lift.trajectories.pendingGeneration
    c'.trajectories.pendingGeneration s.trajectoryFrame
  unobserved := s.unobservedBehind c' e

/-- A step of the controller. -/
def step (e : Event) : Option (ZeroRun otg) := (s.lift.step p e).map (s.behind e)

/-! ## The property -/

/-- A target of another frame is left over. -/
def OldTarget : Prop :=
  (s.lift.TrajectoryLeft ∧ s.trajectoryFrame ≠ s.lift.driver.frame) ∨
    (s.lift.NativeLeft ∧ s.nativeFrame ≠ s.lift.driver.frame) ∨
      (s.lift.HeavyLeft ∧ s.heavyFrame ≠ s.lift.driver.frame)

instance : Decidable s.OldTarget := inferInstanceAs (Decidable (_ ∨ _ ∨ _))

/-- The event is a cycle that observes a generation which is not adopted. -/
def rezeroes : Event → Bool
  | .update i => s.lift.rezeroed i
  | _ => false

/-- A cycle that finds a new generation adopts it, seats the command state on the measured position
and leaves no target of another frame over.  The command state is seated again for nothing else, and
an adopted generation stays adopted.  The first generation that is observed after an activation is
not a new one. -/
structure Resyncs (s : ZeroRun otg) (e : Event) (s' : ZeroRun otg) : Prop where
  reseats : ∀ i, e = .update i → s.lift.rezeroed i = true →
    Reseated p i.state.position s'.lift ∧ ¬ s'.OldTarget
  total : s'.lift.zeroResyncTotal = s.lift.zeroResyncTotal + if s.rezeroes e then 1 else 0
  applied : s.lift.driver.zeroGenerationValid = true → s'.lift.appliedZeroGeneration =
    if s.rezeroes e then s.lift.driver.zeroGeneration else s.lift.appliedZeroGeneration
  first : s.rezeroes e = true → s.unobserved = false

/-! ## The condition -/

/-- The cycle does not take over a target of another frame. -/
def MissesOld (i : UpdateInput) : Prop :=
  (s.lift.MissesTrajectory i ∧ s.trajectoryFrame ≠ s.lift.driver.frame) ∨
    (s.lift.MissesNative ∧ s.nativeFrame ≠ s.lift.driver.frame) ∨
      (s.lift.MissesHeavy ∧ s.heavyFrame ≠ s.lift.driver.frame)

instance (i : UpdateInput) : Decidable (s.MissesOld i) := inferInstanceAs (Decidable (_ ∨ _ ∨ _))

/-- A cycle that finds a new generation takes over every target of another frame, and an earlier
cycle has observed a generation since the activation. -/
def LeavesNothing (s : ZeroRun otg) : Event → Prop
  | .update i => s.lift.inbox.active = true → s.lift.rezeroed i = true →
      ¬ s.MissesOld i ∧ s.unobserved = false
  | _ => True

instance (e : Event) : Decidable (s.LeavesNothing e) :=
  match e with
  | .update i => inferInstanceAs (Decidable (s.lift.inbox.active = true →
      s.lift.rezeroed i = true → ¬ s.MissesOld i ∧ s.unobserved = false))
  | .jog _ | .stream _ | .trajectory _ | .command _ | .stop | .hold | .driverStatus _ _
  | .heavyCommand _ | .leaseGate _ | .activate _ | .deactivate _ => .isTrue trivial

/-! ## A step -/

variable {p s} {s' : ZeroRun otg}

theorem step_eq_some {e : Event} :
    s.step p e = some s' ↔ ∃ c', s.lift.step p e = some c' ∧ s.behind e c' = s' := by
  unfold step
  rw [Option.map_eq_some_iff]

/-- No callback adopts a generation that it has not found first. -/
theorem callback_zero {c c' : LiftController otg} {e : Event} (he : e.callback = true)
    (h : c.step p e = some c') :
    c'.zeroResyncTotal = c.zeroResyncTotal ∧
      (c.driver.zeroGenerationValid = true →
        c'.appliedZeroGeneration = c.appliedZeroGeneration) := by
  have hsafety (command : MotionCommand) :
      (c.enqueueSafetyCommand command).zeroResyncTotal = c.zeroResyncTotal ∧
        (c.enqueueSafetyCommand command).appliedZeroGeneration = c.appliedZeroGeneration := by
    unfold LiftController.enqueueSafetyCommand LiftController.cancelPendingTrajectory
    dsimp only
    split_ifs <;> exact ⟨rfl, rfl⟩
  cases LiftController.callback_cases p c he h with
  | safety _ command => exact ⟨(hsafety command).1, fun _ => (hsafety command).2⟩
  | report _ _ _ _ happlied => exact ⟨rfl, happlied⟩
  | _ => exact ⟨rfl, fun _ => rfl⟩

/-- A step that is no cycle has nothing to do with a new generation. -/
theorem resyncs_of_not_update {c' : LiftController otg} {e : Event}
    (he : ∀ i, e ≠ .update i) (h : s.lift.step p e = some c') :
    Resyncs p s e (s.behind e c') := by
  have hno : s.rezeroes e = false := by
    cases e with
    | update i => exact absurd rfl (he i)
    | _ => rfl
  have hsame : c'.zeroResyncTotal = s.lift.zeroResyncTotal ∧
      (s.lift.driver.zeroGenerationValid = true →
        c'.appliedZeroGeneration = s.lift.appliedZeroGeneration) := by
    by_cases hcallback : e.callback = true
    · exact callback_zero hcallback h
    · cases e with
      | update i => exact absurd rfl (he i)
      | activate state =>
        dsimp only [LiftController.step] at h
        split_ifs at h
        obtain rfl := Option.some_inj.mp h
        unfold LiftController.onActivate
        dsimp only
        split <;> exact ⟨rfl, fun _ => rfl⟩
      | deactivate state =>
        dsimp only [LiftController.step] at h
        split_ifs at h
        obtain rfl := Option.some_inj.mp h
        exact ⟨rfl, fun _ => rfl⟩
      | _ => exact absurd rfl hcallback
  constructor
  · intro i hi
    exact absurd hi (he i)
  · rw [hno, if_neg Bool.false_ne_true]
    exact hsame.1
  · rw [hno, if_neg Bool.false_ne_true]
    exact hsame.2
  · intro hyes
    cases hno.symm.trans hyes

/-- A cycle leaves a target of another frame over exactly when it misses one. -/
theorem oldTarget_update {i : UpdateInput} (hc : LiftController.Numbered s.lift)
    (h : s.lift.rezeroed i = true) :
    (s.behind (.update i) (s.lift.update p i).controller).OldTarget ↔ s.MissesOld i := by
  have hcycle := LiftController.update_rezeroed p i s.lift hc h
  unfold OldTarget MissesOld
  show (_ ∧ s.trajectoryFrame ≠ (s.lift.update p i).controller.driver.frame) ∨
    (_ ∧ s.nativeFrame ≠ (s.lift.update p i).controller.driver.frame) ∨
    (_ ∧ s.heavyFrame ≠ (s.lift.update p i).controller.driver.frame) ↔ _
  rw [hcycle.driver]
  exact or_congr (and_congr_left' hcycle.trajectory)
    (or_congr (and_congr_left' hcycle.native) (and_congr_left' hcycle.heavy))

theorem resyncs_update {i : UpdateInput} (hc : LiftController.Numbered s.lift)
    (hactive : s.lift.inbox.active = true) :
    Resyncs p s (.update i) (s.behind (.update i) (s.lift.update p i).controller) ↔
      s.LeavesNothing (.update i) := by
  cases h : s.lift.rezeroed i with
  | true =>
    have hcycle := LiftController.update_rezeroed p i s.lift hc h
    have hyes : s.rezeroes (.update i) = true := h
    have hold := oldTarget_update (p := p) hc h
    constructor
    · intro hresyncs _ _
      exact ⟨fun hmisses => (hresyncs.reseats i rfl h).2 (hold.mpr hmisses), hresyncs.first hyes⟩
    · intro hleaves
      obtain ⟨hmisses, hfirst⟩ := hleaves hactive h
      refine ⟨?_, ?_, fun _ => ?_, fun _ => hfirst⟩
      · rintro _ ⟨⟩ _
        exact ⟨hcycle.reseated, fun hleft => hmisses (hold.mp hleft)⟩
      · rw [if_pos hyes]
        exact hcycle.total
      · rw [if_pos hyes]
        exact hcycle.applied
  | false =>
    have hcycle := LiftController.update_not_rezeroed p i s.lift h
    have hno : ¬ s.rezeroes (.update i) = true := fun hyes => by cases h.symm.trans hyes
    constructor
    · intro _ _ hyes
      cases h.symm.trans hyes
    · intro _
      refine ⟨?_, ?_, fun _ => ?_, fun hyes => absurd hyes hno⟩
      · rintro _ ⟨⟩ hyes
        exact absurd hyes hno
      · rw [if_neg hno]
        exact hcycle.2
      · rw [if_neg hno]
        exact hcycle.1

/-! ## Runs -/

/-- In every run the cycles bring all targets into the frame that was reported last, each generation
once and not as the first observation after an activation, exactly when every cycle that finds a new
generation takes over all targets of another frame, and is not the first to observe one since the
activation. -/
theorem resyncs_iff_leavesNothing (p : LiftParameters) (run : List Event) :
    Runs.Throughout (step p) (Resyncs p) (configured p : ZeroRun otg) run ↔
      Runs.Meets (step p) LeavesNothing (configured p : ZeroRun otg) run := by
  refine Runs.throughout_iff_meets_from (C := LeavesNothing) (R := Resyncs p)
    (I := fun s => LiftController.Numbered s.lift) (fun s e s' hs _ h => ?_)
    (fun s e s' hs h => ?_) (fun s e h => ?_) (LiftController.numbered_configured p)
  · obtain ⟨c', hc', rfl⟩ := step_eq_some.mp h
    exact LiftController.numbered_step p hs hc'
  · obtain ⟨c', hc', rfl⟩ := step_eq_some.mp h
    cases e with
    | update i =>
      obtain ⟨hactive, rfl⟩ := LiftController.update_of_step p s.lift hc'
      exact resyncs_update hs hactive
    | _ => exact ⟨fun _ => trivial, fun _ => resyncs_of_not_update (by rintro _ ⟨⟩) hc'⟩
  · cases e with
    | update i =>
      intro hactive
      unfold step at h
      dsimp only [LiftController.step] at h
      rw [if_pos hactive] at h
      cases h
    | _ => trivial

/-- A report of the drive with a zero generation. -/
def zeroReport (generation : ℤ) : LiftController.DriverReport :=
  { readyReport with zeroGeneration := some generation }

/-- A trajectory is pending when a re-zero is reported. -/
def rezeroRun : List Event :=
  [.activate standing, .driverStatus (10 * 10 ^ 6) (zeroReport 1),
    .update ⟨standing, 20 * 10 ^ 6, 1 / 100, true⟩,
    .trajectory ⟨[jointName], [⟨[.finite (-1 / 2)], [], [], 1, 0⟩]⟩,
    .driverStatus (25 * 10 ^ 6) (zeroReport 2)]

/-- The mutex of the trajectories is busy when the re-zero is observed. -/
def busyUpdate : UpdateInput := ⟨standing, 30 * 10 ^ 6, 1 / 100, false⟩

/-- A re-zero is reported before the lift is activated. -/
def restartRun : List Event :=
  [.driverStatus (10 * 10 ^ 6) (zeroReport 1), .driverStatus (15 * 10 ^ 6) (zeroReport 2),
    .activate standing]

/-- The pending trajectory outlives the re-zero, and after an activation the first generation that
is observed is taken for a re-zero. -/
theorem trajectory_outlives_rezero :
    (∃ s s' : ZeroRun immediateGenerator,
      Runs.exec (step defaultParameters) (configured defaultParameters) rezeroRun = some s ∧
        s.lift.rezeroed busyUpdate = true ∧
        s.step defaultParameters (.update busyUpdate) = some s' ∧ s'.lift.TrajectoryLeft ∧
        s'.trajectoryFrame = some 1 ∧ s'.lift.driver.frame = some 2) ∧
      ¬ Runs.Throughout (step defaultParameters) (Resyncs defaultParameters)
        (configured defaultParameters : ZeroRun immediateGenerator)
        (rezeroRun ++ [.update busyUpdate]) ∧
      ¬ Runs.Throughout (step defaultParameters) (Resyncs defaultParameters)
        (configured defaultParameters : ZeroRun immediateGenerator)
        (restartRun ++ [.update busyUpdate]) := by
  obtain ⟨s, hs, -, hP⟩ := Runs.reachable_of_run (step defaultParameters)
    (configured defaultParameters : ZeroRun immediateGenerator) rezeroRun
    (fun s => s.lift.rezeroed busyUpdate &&
      (s.step defaultParameters (.update busyUpdate)).any fun s' : ZeroRun immediateGenerator =>
        decide s'.lift.TrajectoryLeft && s'.trajectoryFrame == some 1 &&
          s'.lift.driver.frame == some 2) (by decide +kernel)
  obtain ⟨t, ht, -, hQ⟩ := Runs.reachable_of_run (step defaultParameters)
    (configured defaultParameters : ZeroRun immediateGenerator) restartRun
    (fun t => t.lift.rezeroed busyUpdate && t.unobserved &&
      (t.step defaultParameters (.update busyUpdate)).isSome) (by decide +kernel)
  simp only [Bool.and_eq_true, Option.any_eq_true, decide_eq_true_eq, beq_iff_eq,
    Option.isSome_iff_exists] at hP hQ
  obtain ⟨hnew, s', hs', ⟨hleft, hold⟩, hframe⟩ := hP
  obtain ⟨⟨hnew', hfirst⟩, t', ht'⟩ := hQ
  refine ⟨⟨s, s', hs, hnew, hs', hleft, hold, hframe⟩, fun hall => ?_, fun hall => ?_⟩
  · refine ((hall.last hs hs').reseats busyUpdate rfl hnew).2 (Or.inl ⟨hleft, ?_⟩)
    rw [hold, hframe]
    decide
  · cases hfirst.symm.trans ((hall.last ht ht').first hnew')

end ZeroRun

end Lift

end JointController
