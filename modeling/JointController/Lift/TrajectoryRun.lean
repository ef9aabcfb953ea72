import JointController.Lift.TrajectoryCourse

/-!
# Runs of trajectories

Along a run of the lift controller the points of a trajectory are started in order, each of them
once, and the lift ends in HOLD at the last one.

* `TrajectoryRun`: the controller, with the points of its trajectory and those that it has started.
* `LeavesPoint`: a cycle is done with a point.
* `CompletesAt`: a cycle ends the trajectory.
* `ConductsTrajectory`: what a step has to do with the trajectory.
* `OnTrack`: the invariant that ties the points that were started to the index, the profile and the
  elapsed time.
* `conducts_trajectory`: all runs conduct their trajectories.
-/

namespace JointController

namespace Lift

open LiftMotionProfile (Aims)

/-- The controller, the points of the trajectory that it has taken over last, and the indices of the
points that it has started since, the first one first. -/
structure TrajectoryRun (otg : TrajectoryGenerator) where
  lift : LiftController otg
  points : List JointTrajectoryPoint
  starts : List ℕ

namespace LiftController

variable {otg : TrajectoryGenerator} (p : LiftParameters) (i : UpdateInput)
  (c : LiftController otg)

/-- A cycle comes to its mode: the state interfaces are finite, and no emergency stop is latched. -/
def RunsMode (i : UpdateInput) (c : LiftController otg) : Prop :=
  i.state.finite = true ∧ c.driver.estopLatched = false

instance : Decidable (RunsMode i c) := inferInstanceAs (Decidable (_ ∧ _))

/-- The trajectory that a cycle takes over. -/
def takenTrajectory : Option JointTrajectory :=
  if RunsMode i c ∧ c.takesTrajectory i = true then c.newTrajectory i else none

/-- The points that a cycle starts. -/
def cycleStarts : List ℕ := if RunsMode i c then (c.modeStage p i).pointsStarted p i else []

/-- A cycle acts on a command, takes a trajectory over or finds a new zero frame. -/
def Interrupted : Prop :=
  (c.update p i).executed.isSome = true ∨ c.takesTrajectory i = true ∨ c.rezeroed i = true

end LiftController

namespace TrajectoryRun

variable {otg : TrajectoryGenerator} (p : LiftParameters) (s : TrajectoryRun otg)

/-- The controller after `on_configure`. -/
def configured : TrajectoryRun otg := ⟨.configured p, [], []⟩

/-- The state behind an event. -/
def behind (c' : LiftController otg) : Event → TrajectoryRun otg
  | .update i =>
    { lift := c'
      points := ((s.lift.takenTrajectory i).map JointTrajectory.points).getD s.points
      starts := (if (s.lift.takenTrajectory i).isSome then [] else s.starts) ++
        s.lift.cycleStarts p i }
  | _ => { s with lift := c' }

/-- A step of the controller. -/
def step (e : Event) : Option (TrajectoryRun otg) :=
  (s.lift.step p e).map fun c' => s.behind p c' e

/-- What is recorded does not restrict the runs of the controller. -/
theorem exec_lift (run : List Event) :
    (Runs.exec (step p) s run).map lift = Runs.exec (LiftController.step p) s.lift run := by
  refine Runs.exec_map (fun s e => ?_) run s
  unfold step
  rw [Option.map_map]
  have hlift : (lift ∘ fun c' => s.behind p c' e) = id := by
    funext c'
    cases e <;> rfl
  rw [hlift, Option.map_id, id]

/-! ## The property -/

/-- A cycle is done with the point that the lift moves to: the time of the point is over, up to a
nanosecond, and the sample of the profile is finished.  It is at the point, unless a travel limit
has stopped the profile or the cycle ends in a fault. -/
structure LeavesPoint (i : UpdateInput) (k : ℕ) (c' : LiftController otg) : Prop where
  mode : s.lift.mode = .trajectory
  index : s.lift.trajectories.pointIndex = k
  finished : (s.lift.profile.update p.limits (.finite i.dt)).state.finished = true
  point : ∃ point, s.points[k]? = some point ∧
    point.timeFromStart ≤ s.lift.trajectories.elapsedSec + i.dt + 1 / 10 ^ 9 ∧
    ((s.lift.profile.update p.limits (.finite i.dt)).state.positionM = point.positionM ∨
      (s.lift.profile.update p.limits (.finite i.dt)).mode = .hold ∨ c'.mode = .fault)

/-- A cycle ends the trajectory: all points have been started, the lift waits at the last one, and
it has been at its goal for the stability time.  The goal is the last point, unless a travel limit
has stopped the profile. -/
structure CompletesAt (i : UpdateInput) (c' : LiftController otg) : Prop where
  started : s.starts = List.range s.points.length
  waiting : s.lift.trajectories.waitingAtPoint = true ∨
    s.LeavesPoint p i (s.points.length - 1) c'
  active : s.lift.goalStableActive = true
  stable : LiftController.atLeast i.now s.lift.goalStableSince p.targetStableSec
  reached : ∃ point target, s.points.getLast? = some point ∧
    (target = point.positionM ∨
      (s.lift.profile.update p.limits (.finite i.dt)).mode = .hold) ∧
    (target - c'.measuredPositionM).abs ≤ .finite p.goalToleranceM
  stationary : c'.measuredVelocityMps.abs ≤ .finite p.stationaryVelocityMps

/-- The points that have been started are the first points of the trajectory, in order.  A point
behind the first one is started by a cycle that is done with the point before it, and the lift waits
once it is done with the last point.  The elapsed time counts from the start of the first point, as
long as the trajectory is not dropped.  While the goal counts as stable every cycle finds the lift
there, and a cycle that nothing interrupts ends the trajectory in HOLD only at its end. -/
structure ConductsTrajectory (s : TrajectoryRun otg) (e : Event) (s' : TrajectoryRun otg) :
    Prop where
  inOrder : s'.starts = List.range s'.starts.length ∧ s'.starts.length ≤ s'.points.length
  advances : ∀ i k, e = .update i → k + 1 ∈ s.lift.cycleStarts p i → s.LeavesPoint p i k s'.lift
  waits : ∀ i, e = .update i → s'.lift.mode = .trajectory →
    s'.lift.trajectories.waitingAtPoint = true →
      (s.lift.mode = .trajectory ∧ s.lift.trajectories.waitingAtPoint = true) ∨
        s.LeavesPoint p i (s.points.length - 1) s'.lift
  clock : ∀ i, e = .update i → s'.lift.mode = .trajectory →
    (s.lift.cycleStarts p i = [0] ∧ s'.lift.trajectories.elapsedSec = 0) ∨
      (s.lift.mode = .trajectory ∧
        (s'.lift.trajectories.elapsedSec = s.lift.trajectories.elapsedSec + i.dt ∨
          (s'.lift.trajectories.active = none ∧
            s'.lift.trajectories.elapsedSec = s.lift.trajectories.elapsedSec)))
  stable : ∀ i, e = .update i → s'.lift.mode = .trajectory → s'.lift.goalStableActive = true →
    s'.lift.atGoal p = true ∧ (s'.lift.goalStableSince = i.now ∨
      (s.lift.mode = .trajectory ∧ s.lift.goalStableActive = true ∧
        s'.lift.goalStableSince = s.lift.goalStableSince))
  completes : ∀ i, e = .update i → s.lift.mode = .trajectory → s'.lift.mode = .hold →
    ¬ s.lift.Interrupted p i → s.CompletesAt p i s'.lift

/-! ## The invariant -/

/-- The lift moves to the point that was started last, and waits only at the last point. -/
structure AtPoint : Prop where
  started : s.starts.length = s.lift.trajectories.pointIndex + 1
  aims : ∃ point, s.points[s.lift.trajectories.pointIndex]? = some point ∧
    Aims (p.limits.clampPosition point.positionM) s.lift.profile
  waiting : s.lift.trajectories.waitingAtPoint = true →
    s.lift.trajectories.pointIndex + 1 = s.points.length

/-- The points that were started are in order, and while the controller is active the lift is at the
last of them. -/
structure OnTrack : Prop where
  numbered : LiftController.Numbered s.lift
  commands : LiftController.Commands p s.lift
  accepted : ∀ point ∈ s.points, LiftController.acceptsPoint p point = true
  active : ∀ t, s.lift.trajectories.active = some t → t.points = s.points
  inOrder : s.starts = List.range s.starts.length ∧ s.starts.length ≤ s.points.length
  gated : s.lift.inbox.active = true → ∀ command, s.lift.Waits command →
    command.type = .trajectory → s.starts = []
  moving : s.lift.inbox.active = true → s.lift.mode = .trajectory → s.AtPoint p

theorem onTrack_configured : OnTrack p (configured p : TrajectoryRun otg) where
  numbered := LiftController.numbered_configured p
  commands hactive := by cases hactive
  accepted := by rintro point ⟨⟩
  active := by rintro t ⟨⟩
  inOrder := ⟨rfl, le_rfl⟩
  gated _ _ _ _ := rfl
  moving hactive := by cases hactive

variable {p s}

/-! ## Callbacks and activations -/

/-- No callback touches the cursor of the trajectory. -/
theorem callback_cursor {c c' : LiftController otg} {e : Event} (he : e.callback = true)
    (h : c.step p e = some c') :
    c'.trajectories.pointIndex = c.trajectories.pointIndex ∧
      c'.trajectories.waitingAtPoint = c.trajectories.waitingAtPoint := by
  cases LiftController.callback_cases p c he h with
  | safety _ command =>
    unfold LiftController.enqueueSafetyCommand LiftController.cancelPendingTrajectory
    dsimp only
    split_ifs <;> exact ⟨rfl, rfl⟩
  | _ => exact ⟨rfl, rfl⟩

theorem OnTrack.callback (hs : OnTrack p s) {e : Event} (he : e.callback = true)
    {c' : LiftController otg} (h : s.lift.step p e = some c') :
    OnTrack p { s with lift := c' } := by
  have hkeep := LiftController.keepsLoop_step p s.lift he h
  obtain ⟨hindex, hwaiting⟩ := callback_cursor he h
  refine ⟨LiftController.numbered_step p hs.numbered h,
    LiftController.commands_step hs.commands h, hs.accepted, fun t ht => ?_, hs.inOrder,
    fun hactive command hwaits => ?_, fun hactive hmode => ?_⟩
  · exact hs.active t (hkeep.activeTrajectory ▸ ht)
  · refine hs.gated (hkeep.active ▸ hactive) command ⟨?_, ?_, ?_⟩
    · exact hkeep.mode ▸ hwaits.1
    · exact hkeep.gatedCommandValid ▸ hwaits.2.1
    · exact hkeep.gatedCommand ▸ hwaits.2.2
  · obtain ⟨hstarted, haims, hlast⟩ := hs.moving (hkeep.active ▸ hactive) (hkeep.mode ▸ hmode)
    constructor
    · rw [hindex]
      exact hstarted
    · rw [hindex, hkeep.profile]
      exact haims
    · rw [hindex, hwaiting]
      exact hlast

/-- Behind a change of the activation the lift follows no trajectory, or it is inactive. -/
theorem OnTrack.activation (hs : OnTrack p s) {e : Event} {c' : LiftController otg}
    (h : s.lift.step p e = some c')
    (hkeeps : c'.trajectories.active = none ∨
      c'.trajectories.active = s.lift.trajectories.active)
    (hrests : c'.inbox.active = true → c'.mode = .hold) : OnTrack p { s with lift := c' } where
  numbered := LiftController.numbered_step p hs.numbered h
  commands := LiftController.commands_step hs.commands h
  accepted := hs.accepted
  active t ht := by
    rcases hkeeps with hnone | hsame
    · cases hnone.symm.trans ht
    · exact hs.active t (hsame.symm.trans ht)
  inOrder := hs.inOrder
  gated hactive _ hwaits _ := by cases (hrests hactive).symm.trans hwaits.1
  moving hactive hmode := by cases (hrests hactive).symm.trans hmode

/-! ## The stages of a cycle -/

section Cycle

variable {i : UpdateInput}

/-- The points of the trajectory, once a cycle has taken over a new one. -/
def pointsTaken (i : UpdateInput) (s : TrajectoryRun otg) : List JointTrajectoryPoint :=
  ((s.lift.takenTrajectory i).map JointTrajectory.points).getD s.points

/-- The points that have been started of it before the mode of the cycle is run. -/
def startsTaken (i : UpdateInput) (s : TrajectoryRun otg) : List ℕ :=
  if (s.lift.takenTrajectory i).isSome then [] else s.starts

theorem takenTrajectory_of_takes (hruns : LiftController.RunsMode i s.lift)
    (h : s.lift.takesTrajectory i = true) : ∃ t, s.lift.newTrajectory i = some t ∧
      s.pointsTaken i = t.points ∧ s.startsTaken i = [] := by
  obtain ⟨t, ht⟩ := Option.isSome_iff_exists.mp (Bool.and_eq_true_iff.mp h).2
  unfold pointsTaken startsTaken LiftController.takenTrajectory
  rw [if_pos ⟨hruns, h⟩, ht]
  exact ⟨t, rfl, rfl, rfl⟩

theorem takenTrajectory_of_not (h : ¬ (LiftController.RunsMode i s.lift ∧
    s.lift.takesTrajectory i = true)) :
    s.pointsTaken i = s.points ∧ s.startsTaken i = s.starts := by
  unfold pointsTaken startsTaken LiftController.takenTrajectory
  rw [if_neg h]
  exact ⟨rfl, rfl⟩

theorem newTrajectory_pending {c : LiftController otg} {t : JointTrajectory}
    (h : c.newTrajectory i = some t) : c.trajectories.pending = some t := by
  unfold LiftController.newTrajectory at h
  split_ifs at h
  exact h

/-- What the invariant says of the controller before the mode of a cycle is run. -/
structure BeforeMode (p : LiftParameters) (i : UpdateInput) (s : TrajectoryRun otg)
    (m : LiftController otg) : Prop where
  guided : LiftController.Guided p m
  accepted : ∀ point ∈ s.pointsTaken i, LiftController.acceptsPoint p point = true
  active : ∀ t, m.trajectories.active = some t → t.points = s.pointsTaken i
  inOrder : s.startsTaken i = List.range (s.startsTaken i).length ∧
    (s.startsTaken i).length ≤ (s.pointsTaken i).length
  gated : ∀ command, m.Waits command → command.type = .trajectory → s.startsTaken i = []
  moving : m.mode = .trajectory →
    (s.pointsTaken i = s.points ∧ s.startsTaken i = s.starts) ∧ s.lift.mode = .trajectory ∧
      m.course = s.lift.course ∧ s.AtPoint p

/-- A command that a cycle puts behind the brake gate is no trajectory. -/
theorem newCommand_type {c : LiftController otg} (hc : LiftController.Numbered c) {n : Selection}
    (h : c.newCommand = some n) : n.command.type ≠ .trajectory := by
  obtain ⟨hgeneration, -, -⟩ := LiftController.newCommand_isNew c h
  rcases LiftController.selectCommand_cases c (LiftController.newCommand_selected c h) with
    ⟨-, hcommand⟩ | ⟨-, hcommand, -⟩ | ⟨-, hcommand⟩
  · rw [hcommand] at hgeneration ⊢
    rcases hc.safetyType hgeneration with htype | htype <;> rw [htype] <;> rintro ⟨⟩
  · rw [hcommand]
    exact hc.heavyType
  · rw [hcommand]
    exact hc.commandType

theorem OnTrack.beforeMode (hs : OnTrack p s) (hactive : s.lift.inbox.active = true)
    (hruns : LiftController.RunsMode i s.lift) :
    BeforeMode p i s (s.lift.modeStage p i) := by
  obtain ⟨hguided, -⟩ := hs.commands hactive
  have hmeasured : (s.lift.readStateInterfaces i).measuredPositionM.isFinite = true :=
    LiftController.StateInterfaces.position_of_finite hruns.1
  have hstage : LiftController.Guided p (s.lift.modeStage p i) := by
    refine (((hguided.readStateInterfaces p i).intake p i hmeasured).dispatch p i ?_).settles
      (LiftController.settles_checkDriverGate p i _)
    rw [LiftController.intake_measured]
    exact hmeasured
  cases htakes : s.lift.takesTrajectory i with
  | true =>
    obtain ⟨t, hnew, hpoints, hstarts⟩ := takenTrajectory_of_takes hruns htakes
    obtain ⟨hmode, htaken⟩ := LiftController.modeStage_taken p i s.lift htakes
    have haccepted := hguided.accepted t (Or.inr (newTrajectory_pending hnew))
    refine ⟨hstage, ?_, fun t' ht' => ?_, ?_, fun _ _ _ => hstarts, fun hno => absurd hno hmode⟩
    · rw [hpoints]
      exact List.all_eq_true.mp haccepted
    · rw [hpoints, Option.some_inj.mp (hnew.symm.trans (htaken t' ht'))]
    · rw [hstarts]
      exact ⟨rfl, Nat.zero_le _⟩
  | false =>
    have hnot : ¬ (LiftController.RunsMode i s.lift ∧ s.lift.takesTrajectory i = true) := by
      rintro ⟨-, hno⟩
      cases htakes.symm.trans hno
    obtain ⟨hpoints, hstarts⟩ := takenTrajectory_of_not hnot
    have hkeeps := LiftController.keepsCourse_modeStage p i s.lift htakes
    refine ⟨hstage, ?_, fun t ht => ?_, ?_, fun command hwaits htype => ?_, fun hmode => ?_⟩
    · rw [hpoints]
      exact hs.accepted
    · rw [hpoints]
      exact hs.active t (hkeeps.active t ht)
    · rw [hpoints, hstarts]
      exact hs.inOrder
    · rw [hstarts]
      have hwaits := (LiftController.keepsCommands_checkDriverGate p i _).waits command hwaits
      rcases LiftController.dispatch_waits p i _ hwaits with hintake | ⟨n, hn, hcommand⟩
      · refine hs.gated hactive command ?_ htype
        have hsame := LiftController.takesTrajectory_intake p i (s.lift.readStateInterfaces i)
        rcases LiftController.takeTrajectory_cases p i
          ((s.lift.readStateInterfaces i).leaveEstop p).observeLeaseGate with
          ⟨-, -, hkept⟩ | ⟨htakes', -⟩
        · exact (LiftController.keepsCommands_leaveEstop p (s.lift.readStateInterfaces i)).waits
            command (hkept.waits command hintake)
        · cases htakes.symm.trans (hsame.symm.trans htakes')
      · rw [← hcommand] at htype
        refine absurd htype (newCommand_type (hs.numbered.of_inbox ?_) hn)
        rw [LiftController.intake_inbox]
        rfl
    · obtain ⟨hbefore, hcourse⟩ := hkeeps.course hmode
      exact ⟨⟨hpoints, hstarts⟩, hbefore, hcourse, hs.moving hactive hbefore⟩

/-! ## A cycle -/

theorem atGoal_spec {c : LiftController otg} (hmode : c.mode = .trajectory)
    (h : c.atGoal p = true) :
    c.trajectories.waitingAtPoint = true ∧
      (c.profile.targetPositionM - c.measuredPositionM).abs ≤ .finite p.goalToleranceM ∧
      c.measuredVelocityMps.abs ≤ .finite p.stationaryVelocityMps := by
  unfold LiftController.atGoal at h
  rw [hmode] at h
  simp only [Bool.and_eq_true, Bool.or_eq_true, decide_eq_true_eq] at h
  obtain ⟨⟨⟨hwaiting, hposition⟩, hvelocity⟩, -⟩ := h
  refine ⟨?_, hposition, hvelocity⟩
  rcases hwaiting with hno | ⟨-, hwaiting⟩
  · cases hno
  · exact hwaiting

theorem OnTrack.conducts_mode (h : BeforeMode p i s (s.lift.modeStage p i))
    (hruns : LiftController.RunsMode i s.lift) :
    LiftController.Conducts p i (s.lift.modeStage p i) (s.lift.cycleStarts p i)
      (s.lift.modeRun p i) := by
  unfold LiftController.cycleStarts
  rw [if_pos hruns]
  exact h.guided.conducts_runMode p i _

variable {m r c' : LiftController otg} {starts : List ℕ}

/-- The starts of a cycle go on where the earlier ones have stopped. -/
theorem BeforeMode.inOrder_append (h : BeforeMode p i s m)
    (hr : LiftController.Conducts p i m starts r) :
    s.startsTaken i ++ starts = List.range (s.startsTaken i ++ starts).length ∧
      (s.startsTaken i ++ starts).length ≤ (s.pointsTaken i).length := by
  cases hr with
  | first hwaits htype hactive hpoint =>
    rw [h.gated _ hwaits htype]
    refine ⟨rfl, ?_⟩
    rw [← h.active _ hactive]
    exact (List.getElem?_eq_some_iff.mp hpoint).1
  | next hmode hpasses hactive hpoint =>
    obtain ⟨⟨-, hstarts⟩, -, hcourse, hat⟩ := h.moving hmode
    have hindex : m.trajectories.pointIndex = s.lift.trajectories.pointIndex :=
      congrArg LiftController.Course.pointIndex hcourse
    have hlength : (s.startsTaken i).length = s.lift.trajectories.pointIndex + 1 := by
      rw [hstarts]
      exact hat.started
    rw [List.length_append, List.length_singleton, List.range_succ, ← h.inOrder.1, hlength, hindex]
    refine ⟨rfl, ?_⟩
    rw [← h.active _ hactive, ← hindex]
    exact (List.getElem?_eq_some_iff.mp hpoint).1
  | _ =>
    rw [List.append_nil]
    exact h.inOrder

/-- A cycle that is done with the active point. -/
theorem BeforeMode.leavesPoint (hotg : otg.FinishesAtTarget) (h : BeforeMode p i s m)
    (hs : OnTrack p s) (hmode : m.mode = .trajectory) (hpasses : m.PassesPoint p i)
    {t : JointTrajectory} (hactive : m.trajectories.active = some t)
    (hfault : (m.profile.update p.limits (.finite i.dt)).state.valid = false →
      c'.mode = .fault) :
    s.LeavesPoint p i s.lift.trajectories.pointIndex c' := by
  obtain ⟨⟨hpoints, -⟩, hbefore, hcourse, hat⟩ := h.moving hmode
  obtain ⟨point, hpoint, haims⟩ := hat.aims
  have hprofile : m.profile = s.lift.profile := congrArg LiftController.Course.profile hcourse
  have hindex : m.trajectories.pointIndex = s.lift.trajectories.pointIndex :=
    congrArg LiftController.Course.pointIndex hcourse
  have helapsed : m.trajectories.elapsedSec = s.lift.trajectories.elapsedSec :=
    congrArg LiftController.Course.elapsedSec hcourse
  have htime : m.pointTime = point.timeFromStart := by
    unfold LiftController.pointTime
    rw [hactive, hindex]
    show ((t.points[s.lift.trajectories.pointIndex]?).map _).getD 0 = _
    rw [h.active t hactive, hpoints, hpoint]
    rfl
  obtain ⟨hfinished, hover⟩ := hpasses
  rw [htime, helapsed] at hover
  rw [hprofile] at hfinished hfault
  have hclamp := LiftController.clampPosition_accepted p
    (hs.accepted point (List.mem_of_getElem? hpoint))
  refine ⟨hbefore, rfl, hfinished, point, hpoint, hover, ?_⟩
  cases hvalid : (s.lift.profile.update p.limits (.finite i.dt)).state.valid with
  | true =>
    rcases haims.finished p.limits hotg hfinished hvalid with hhold | hposition
    · exact Or.inr (Or.inl hhold)
    · rw [hclamp, hclamp] at hposition
      exact Or.inl hposition
  | false => exact Or.inr (Or.inr (hfault hvalid))

/-- The active point has no next one. -/
theorem BeforeMode.last (h : BeforeMode p i s m) (hmode : m.mode = .trajectory)
    {t : JointTrajectory} (hactive : m.trajectories.active = some t)
    (hlast : ¬ m.trajectories.pointIndex + 1 < t.points.length) :
    s.lift.trajectories.pointIndex + 1 = s.points.length := by
  obtain ⟨⟨hpoints, -⟩, -, hcourse, hat⟩ := h.moving hmode
  obtain ⟨point, hpoint, -⟩ := hat.aims
  have hindex : m.trajectories.pointIndex = s.lift.trajectories.pointIndex :=
    congrArg LiftController.Course.pointIndex hcourse
  rw [h.active _ hactive, hpoints, hindex] at hlast
  have hbound := (List.getElem?_eq_some_iff.mp hpoint).1
  omega

/-- A cycle that ends on the trajectory leaves the lift at the point that was started last. -/
theorem BeforeMode.atPoint (h : BeforeMode p i s m)
    (hr : LiftController.Conducts p i m starts r)
    (hends : LiftController.EndsOnCourse p i r c') :
    AtPoint p ⟨c', s.pointsTaken i, s.startsTaken i ++ starts⟩ := by
  -- with the same point the starts, the index and the target of the profile stay as they are
  have hsame (hmode : m.mode = .trajectory)
      (hindex : r.trajectories.pointIndex = m.trajectories.pointIndex)
      (haims : ∀ x, Aims x m.profile → Aims x r.profile)
      (hwaiting : r.trajectories.waitingAtPoint = true →
        m.trajectories.waitingAtPoint = true ∨
          s.lift.trajectories.pointIndex + 1 = s.points.length) :
      AtPoint p ⟨c', s.pointsTaken i, s.startsTaken i ++ []⟩ := by
    obtain ⟨⟨hpoints, hstarts⟩, -, hcourse, hat⟩ := h.moving hmode
    have hprofile : m.profile = s.lift.profile := congrArg LiftController.Course.profile hcourse
    have hindex' : r.trajectories.pointIndex = s.lift.trajectories.pointIndex :=
      hindex.trans (congrArg LiftController.Course.pointIndex hcourse)
    have hwaiting' : m.trajectories.waitingAtPoint = s.lift.trajectories.waitingAtPoint :=
      congrArg LiftController.Course.waitingAtPoint hcourse
    obtain ⟨point, hpoint, hpointAims⟩ := hat.aims
    rw [hpoints, hstarts, List.append_nil]
    constructor
    · rw [hends.trajectories, hindex']
      exact hat.started
    · rw [hends.trajectories, hindex', hends.profile]
      exact ⟨point, hpoint, haims _ (hprofile.symm ▸ hpointAims)⟩
    · rw [hends.trajectories, hindex']
      intro hwaits
      exact (hwaiting hwaits).elim (fun hm => hat.waiting (hwaiting' ▸ hm)) id
  cases hr with
  | elsewhere hbefore hmode => exact absurd hends.mode hmode
  | first hwaits htype hactive hpoint hmode _ hmoves =>
    constructor
    · rw [hends.trajectories, hmoves.index, h.gated _ hwaits htype]
      rfl
    · rw [hends.trajectories, hmoves.index, hends.profile, ← h.active _ hactive]
      exact ⟨_, hpoint, hmoves.aims⟩
    · rw [hends.trajectories, hmoves.waiting]
      rintro ⟨⟩
  | dropped hmode => exact hsame hmode rfl (fun _ haims => haims) Or.inl
  | onward hmode => exact hsame hmode rfl (fun _ haims => haims.update p.limits _) Or.inl
  | next hmode hpasses hactive hpoint _ _ _ hmoves =>
    obtain ⟨⟨-, hstarts⟩, -, hcourse, hat⟩ := h.moving hmode
    have hindex : m.trajectories.pointIndex = s.lift.trajectories.pointIndex :=
      congrArg LiftController.Course.pointIndex hcourse
    constructor
    · rw [hends.trajectories, hmoves.index, hstarts, List.length_append, hat.started, hindex]
      rfl
    · rw [hends.trajectories, hmoves.index, hends.profile, ← h.active _ hactive]
      exact ⟨_, hpoint, hmoves.aims⟩
    · rw [hends.trajectories, hmoves.waiting]
      rintro ⟨⟩
  | last hmode hpasses hactive hlast =>
    exact hsame hmode rfl (fun _ haims => haims.update p.limits _) fun _ =>
      Or.inr (h.last hmode hactive hlast)

/-- A cycle that does not come to its mode leaves the lift in a fault or an emergency stop. -/
theorem update_stops {c : LiftController otg} (hruns : ¬ LiftController.RunsMode i c) :
    (c.update p i).controller.mode ≠ .brakeGate ∧ (c.update p i).controller.mode ≠ .trajectory ∧
      (c.update p i).controller.mode ≠ .hold ∧
      ∀ t, (c.update p i).controller.trajectories.active = some t →
        c.trajectories.active = some t := by
  cases hfinite : i.state.finite with
  | false =>
    rw [LiftController.update_nonFinite p i c hfinite]
    refine ⟨by rintro ⟨⟩, by rintro ⟨⟩, by rintro ⟨⟩, fun t ht => ?_⟩
    unfold LiftController.nonFiniteFault LiftController.failPendingHold at ht
    dsimp only at ht
    split_ifs at ht <;> exact ht
  | true =>
    have hestop : c.driver.estopLatched = true := by
      by_contra hclear
      exact hruns ⟨hfinite, eq_false_of_ne_true hclear⟩
    rw [LiftController.update_estop p i c hfinite hestop]
    unfold LiftController.estopCycle LiftController.dropPendingTrajectory
    dsimp only
    split_ifs <;> exact ⟨by rintro ⟨⟩, by rintro ⟨⟩, by rintro ⟨⟩, by rintro t ⟨⟩⟩

/-- The state behind a cycle is on track. -/
theorem OnTrack.update (hs : OnTrack p s) {c' : LiftController otg}
    (h : s.lift.step p (.update i) = some c') : OnTrack p (s.behind p c' (.update i)) := by
  have hnumbered := LiftController.numbered_step p hs.numbered h
  have hcommands := LiftController.commands_step hs.commands h
  obtain ⟨hactive, rfl⟩ := LiftController.update_of_step p s.lift h
  by_cases hruns : LiftController.RunsMode i s.lift
  · have hbefore := hs.beforeMode hactive hruns
    have hconducts := OnTrack.conducts_mode hbefore hruns
    refine ⟨hnumbered, hcommands, hbefore.accepted, fun t ht => ?_,
      hbefore.inOrder_append hconducts, fun _ command hwaits htype => ?_, fun _ hmode => ?_⟩
    · exact hbefore.active t (LiftController.runMode_active p i _
        (LiftController.update_active p i hruns.1 hruns.2 ht))
    · have hwaits : (s.lift.update p i).controller.Waits command := hwaits
      rw [LiftController.update_run p i s.lift hruns.1 hruns.2] at hwaits
      have hstarts := hbefore.gated command
        ((LiftController.keepsCommands_modeRun p i _).waits command hwaits) htype
      have hgate : (s.lift.modeRun p i).mode = .brakeGate := by
        rcases LiftController.keepsWindow_runCycle p i
          ((s.lift.readStateInterfaces i).intake p i) with hrests | ⟨hmode, -⟩
        · rw [hwaits.1] at hrests
          cases hrests
        · exact hmode.symm.trans hwaits.1
      show s.startsTaken i ++ s.lift.cycleStarts p i = []
      rw [hstarts]
      generalize s.lift.cycleStarts p i = starts at hconducts ⊢
      generalize s.lift.modeRun p i = r at hconducts hgate
      cases hconducts with
      | first _ _ _ _ hmode => cases hgate.symm.trans hmode
      | next _ _ _ _ hmode => cases hgate.symm.trans hmode
      | _ => rfl
    · obtain ⟨-, -, hends⟩ := LiftController.update_onCourse p i hmode
      exact hbefore.atPoint hconducts hends
  · have hnot : ¬ (LiftController.RunsMode i s.lift ∧ s.lift.takesTrajectory i = true) :=
      fun hno => hruns hno.1
    obtain ⟨hpoints, hstarts⟩ := takenTrajectory_of_not hnot
    have hbehind : s.behind p (s.lift.update p i).controller (.update i) =
        ⟨(s.lift.update p i).controller, s.points, s.starts⟩ := by
      show TrajectoryRun.mk _ (s.pointsTaken i) (s.startsTaken i ++ s.lift.cycleStarts p i) = _
      unfold LiftController.cycleStarts
      rw [if_neg hruns, hpoints, hstarts, List.append_nil]
    obtain ⟨hgate, htrajectory, -, hkept⟩ := update_stops (p := p) hruns
    rw [hbehind]
    exact ⟨hnumbered, hcommands, hs.accepted, fun t ht => hs.active t (hkept t ht), hs.inOrder,
      fun _ _ hwaits _ => absurd hwaits.1 hgate, fun _ hmode => absurd hmode htrajectory⟩

theorem OnTrack.step (hs : OnTrack p s) {e : Event} {s' : TrajectoryRun otg}
    (h : s.step p e = some s') : OnTrack p s' := by
  obtain ⟨c', hc', rfl⟩ := Option.map_eq_some_iff.mp h
  by_cases he : e.callback = true
  · have hsame : s.behind p c' e = { s with lift := c' } := by
      cases e with
      | update => cases he
      | _ => rfl
    rw [hsame]
    exact hs.callback he hc'
  · cases e with
    | activate state =>
      refine hs.activation hc' ?_ fun hactive => ?_
      · rcases LiftController.activate_cases p s.lift hc' with ⟨-, hfresh⟩ | ⟨-, heq⟩
        · exact Or.inl hfresh.activeTrajectory
        · rw [heq]
          exact Or.inr rfl
      · rcases LiftController.activate_cases p s.lift hc' with ⟨-, hfresh⟩ | ⟨hinactive, -⟩
        · exact hfresh.mode
        · cases hinactive.symm.trans hactive
    | deactivate state =>
      refine hs.activation hc' (Or.inr ?_) fun hactive => ?_
      · dsimp only [LiftController.step] at hc'
        split_ifs at hc'
        obtain rfl := Option.some_inj.mp hc'
        rfl
      · cases (LiftController.deactivate_inactive p s.lift hc').symm.trans hactive
    | update input => exact hs.update hc'
    | _ => exact absurd rfl he

/-! ## What a cycle does with the trajectory -/

/-- A cycle behind which the goal counts as stable finds the lift there. -/
theorem BeforeMode.stable (h : BeforeMode p i s m)
    (hr : LiftController.Conducts p i m starts r)
    (hends : LiftController.EndsOnCourse p i r c') (hmode : c'.mode = .trajectory)
    (hactive : c'.goalStableActive = true) :
    c'.atGoal p = true ∧ (c'.goalStableSince = i.now ∨ (s.lift.mode = .trajectory ∧
      s.lift.goalStableActive = true ∧ c'.goalStableSince = s.lift.goalStableSince)) := by
  obtain ⟨hgoal, hsince⟩ := hends.goal hactive
  have hwaiting : r.trajectories.waitingAtPoint = true := by
    rw [← hends.trajectories]
    exact (atGoal_spec hmode hgoal).1
  refine ⟨hgoal, hsince.imp id fun hsame => ?_⟩
  -- the goal is noted in the controller before the mode, which goes on with the trajectory
  have hbefore (hstage : m.mode = .trajectory)
      (hactive' : r.goalStableActive = m.goalStableActive)
      (hsince' : r.goalStableSince = m.goalStableSince) :
      s.lift.mode = .trajectory ∧ s.lift.goalStableActive = true ∧
        c'.goalStableSince = s.lift.goalStableSince := by
    obtain ⟨-, hlift, hcourse, -⟩ := h.moving hstage
    have hflag : m.goalStableActive = s.lift.goalStableActive :=
      congrArg LiftController.Course.goalStableActive hcourse
    have htime : m.goalStableSince = s.lift.goalStableSince :=
      congrArg LiftController.Course.goalStableSince hcourse
    exact ⟨hlift, hflag ▸ hactive' ▸ hsame.1, hsame.2.trans (hsince'.trans htime)⟩
  cases hr with
  | elsewhere _ hno => exact absurd hends.mode hno
  | first _ _ _ _ _ _ hmoves => cases hmoves.waiting.symm.trans hwaiting
  | next _ _ _ _ _ _ _ hmoves => cases hmoves.waiting.symm.trans hwaiting
  | dropped hstage => exact hbefore hstage rfl rfl
  | onward hstage => exact hbefore hstage rfl rfl
  | last hstage => exact hbefore hstage rfl rfl

/-- Every point but the first one is started by a cycle that is done with the point before it. -/
theorem BeforeMode.advances (hotg : otg.FinishesAtTarget) (h : BeforeMode p i s m)
    (hs : OnTrack p s) (hr : LiftController.Conducts p i m starts r)
    (hfault : r.commandSample.valid = false → c'.mode = .fault) {k : ℕ} (hk : k + 1 ∈ starts) :
    s.LeavesPoint p i k c' := by
  cases hr with
  | first => cases List.mem_singleton.mp hk
  | next hmode hpasses hactive _ _ _ hsample =>
    obtain ⟨-, -, hcourse, -⟩ := h.moving hmode
    have hindex : m.trajectories.pointIndex = s.lift.trajectories.pointIndex :=
      congrArg LiftController.Course.pointIndex hcourse
    obtain rfl : k = s.lift.trajectories.pointIndex :=
      (Nat.succ_inj.mp (List.mem_singleton.mp hk)).trans hindex
    rw [hsample] at hfault
    exact h.leavesPoint hotg hs hmode hpasses hactive hfault
  | _ => cases hk

/-- The lift waits once it is done with the last point. -/
theorem BeforeMode.waits (hotg : otg.FinishesAtTarget) (h : BeforeMode p i s m)
    (hs : OnTrack p s) (hr : LiftController.Conducts p i m starts r)
    (hfault : r.commandSample.valid = false → c'.mode = .fault) (hmode : r.mode = .trajectory)
    (hwaits : r.trajectories.waitingAtPoint = true) :
    s.lift.trajectories.pointIndex + 1 = s.points.length ∧
      ((s.lift.mode = .trajectory ∧ s.lift.trajectories.waitingAtPoint = true) ∨
        s.LeavesPoint p i (s.points.length - 1) c') := by
  have hbefore (hstage : m.mode = .trajectory) (hwaits' : m.trajectories.waitingAtPoint = true) :
      s.lift.trajectories.pointIndex + 1 = s.points.length ∧ s.lift.mode = .trajectory ∧
        s.lift.trajectories.waitingAtPoint = true := by
    obtain ⟨-, hlift, hcourse, hat⟩ := h.moving hstage
    have hsame : m.trajectories.waitingAtPoint = s.lift.trajectories.waitingAtPoint :=
      congrArg LiftController.Course.waitingAtPoint hcourse
    rw [hsame] at hwaits'
    exact ⟨hat.waiting hwaits', hlift, hwaits'⟩
  cases hr with
  | elsewhere _ hno => exact absurd hmode hno
  | first _ _ _ _ _ _ hmoves => cases hmoves.waiting.symm.trans hwaits
  | next _ _ _ _ _ _ _ hmoves => cases hmoves.waiting.symm.trans hwaits
  | dropped hstage => exact (hbefore hstage hwaits).imp id Or.inl
  | onward hstage => exact (hbefore hstage hwaits).imp id Or.inl
  | last hstage hpasses hactive hlast =>
    have hindex := h.last hstage hactive hlast
    refine ⟨hindex, Or.inr ?_⟩
    rw [← hindex]
    exact h.leavesPoint hotg hs hstage hpasses hactive hfault

/-- The elapsed time counts from the start of the first point. -/
theorem BeforeMode.clock (h : BeforeMode p i s m) (hr : LiftController.Conducts p i m starts r)
    (hmode : r.mode = .trajectory) :
    (starts = [0] ∧ r.trajectories.elapsedSec = 0) ∨ (s.lift.mode = .trajectory ∧
      (r.trajectories.elapsedSec = s.lift.trajectories.elapsedSec + i.dt ∨
        (r.trajectories.active = none ∧
          r.trajectories.elapsedSec = s.lift.trajectories.elapsedSec))) := by
  have hbefore (hstage : m.mode = .trajectory) : s.lift.mode = .trajectory ∧
      m.trajectories.elapsedSec = s.lift.trajectories.elapsedSec := by
    obtain ⟨-, hlift, hcourse, -⟩ := h.moving hstage
    exact ⟨hlift, congrArg LiftController.Course.elapsedSec hcourse⟩
  cases hr with
  | elsewhere _ hno => exact absurd hmode hno
  | first _ _ _ _ _ helapsed => exact Or.inl ⟨rfl, helapsed⟩
  | dropped hstage hactive =>
    obtain ⟨hlift, hsame⟩ := hbefore hstage
    exact Or.inr ⟨hlift, Or.inr ⟨hactive, hsame⟩⟩
  | onward hstage =>
    obtain ⟨hlift, hsame⟩ := hbefore hstage
    exact Or.inr ⟨hlift, Or.inl (hsame ▸ rfl)⟩
  | next hstage _ _ _ _ helapsed =>
    obtain ⟨hlift, hsame⟩ := hbefore hstage
    exact Or.inr ⟨hlift, Or.inl (hsame ▸ helapsed)⟩
  | last hstage =>
    obtain ⟨hlift, hsame⟩ := hbefore hstage
    exact Or.inr ⟨hlift, Or.inl (hsame ▸ rfl)⟩

/-- What the mode of a cycle leaves of the goal of a trajectory that goes on. -/
theorem BeforeMode.goesOn (h : BeforeMode p i s m) (hs : OnTrack p s)
    (hr : LiftController.Conducts p i m starts r) (hstage : m.mode = .trajectory) :
    r.mode = .trajectory ∧
      (r.trajectories.waitingAtPoint = true →
        r.goalStableActive = s.lift.goalStableActive ∧
        r.goalStableSince = s.lift.goalStableSince ∧
        ∃ point, s.points[s.lift.trajectories.pointIndex]? = some point ∧
          (r.profile.targetPositionM = point.positionM ∨
            (s.lift.profile.update p.limits (.finite i.dt)).mode = .hold)) := by
  obtain ⟨-, -, hcourse, hat⟩ := h.moving hstage
  obtain ⟨point, hpoint, haims⟩ := hat.aims
  rw [LiftController.clampPosition_accepted p
    (hs.accepted point (List.mem_of_getElem? hpoint))] at haims
  have hprofile : m.profile = s.lift.profile := congrArg LiftController.Course.profile hcourse
  have hflag : m.goalStableActive = s.lift.goalStableActive :=
    congrArg LiftController.Course.goalStableActive hcourse
  have hsince : m.goalStableSince = s.lift.goalStableSince :=
    congrArg LiftController.Course.goalStableSince hcourse
  rw [← hprofile] at haims ⊢
  have hupdated := (haims.update p.limits (.finite i.dt)).elim Or.inr
    fun htarget => Or.inl htarget.2.2
  cases hr with
  | elsewhere hno => exact absurd hstage hno
  | first hwaits => cases hstage.symm.trans hwaits.1
  | next _ _ _ _ hmode _ _ hmoves =>
    exact ⟨hmode, fun hwaits => by cases hmoves.waiting.symm.trans hwaits⟩
  | dropped =>
    refine ⟨hstage, fun _ => ⟨hflag, hsince, point, hpoint, ?_⟩⟩
    rcases haims with hhold | ⟨-, -, htarget⟩
    · exact Or.inr (LiftMotionProfile.hold_update p.limits hhold _)
    · exact Or.inl htarget
  | onward => exact ⟨hstage, fun _ => ⟨hflag, hsince, point, hpoint, hupdated⟩⟩
  | last => exact ⟨hstage, fun _ => ⟨hflag, hsince, point, hpoint, hupdated⟩⟩

/-- A cycle that nothing interrupts leads from the trajectory to HOLD only at its end. -/
theorem OnTrack.completes (hotg : otg.FinishesAtTarget) (hs : OnTrack p s)
    (h : BeforeMode p i s (s.lift.modeStage p i)) (hruns : LiftController.RunsMode i s.lift)
    (hmode : s.lift.mode = .trajectory) (hhold : (s.lift.update p i).controller.mode = .hold)
    (hquiet : ¬ s.lift.Interrupted p i) :
    s.CompletesAt p i (s.lift.update p i).controller := by
  have hfault := LiftController.update_fault p i hruns.1 hruns.2
  have hconducts := OnTrack.conducts_mode h hruns
  obtain ⟨hexecuted, hquiet⟩ := not_or.mp hquiet
  obtain ⟨htakes, hzero⟩ := not_or.mp hquiet
  have hstage : (s.lift.modeStage p i).mode = .trajectory := by
    refine (LiftController.modeStage_uninterrupted p i hruns.1 hruns.2 hmode
      (eq_false_of_ne_true htakes) (Option.not_isSome_iff_eq_none.mp hexecuted)).resolve_right
      fun hstopped => ?_
    have hshows : s.lift.modeRun p i = (s.lift.modeStage p i).showProfile := by
      unfold LiftController.modeRun LiftController.runMode LiftController.motionCycle
      rw [hstopped]
      rfl
    have hended : (s.lift.modeRun p i).mode = .fault := by
      rw [hshows]
      exact hstopped
    cases (hfault (Or.inl hended)).symm.trans hhold
  obtain ⟨hrun, hgoal⟩ := h.goesOn hs hconducts hstage
  have hends := LiftController.update_completes p i hruns.1 hruns.2 hrun hhold
    (eq_false_of_ne_true hzero)
  obtain ⟨hwaits, hposition, hvelocity⟩ := atGoal_spec hrun hends.goal
  obtain ⟨hlast, hwaiting⟩ := h.waits hotg hs hconducts (fun hno => hfault (Or.inr hno)) hrun hwaits
  obtain ⟨hflag, hsince, point, hpoint, htarget⟩ := hgoal hwaits
  have hactive := hends.active
  have hstable := hends.stable
  rw [hflag] at hactive
  rw [hsince] at hstable
  refine ⟨?_, hwaiting.imp (fun hboth => hboth.2) id, hactive, hstable,
    ⟨point, (s.lift.modeRun p i).profile.targetPositionM, ?_, htarget, ?_⟩, ?_⟩
  · rw [hs.inOrder.1, (h.moving hstage).2.2.2.started, hlast]
  · rw [List.getLast?_eq_getElem?, ← hlast]
    exact hpoint
  · rw [hends.measuredPosition]
    exact hposition
  · rw [hends.measuredVelocity]
    exact hvelocity

end Cycle

/-! ## Runs -/

theorem OnTrack.conducts (hotg : otg.FinishesAtTarget) (hs : OnTrack p s) {e : Event}
    {s' : TrajectoryRun otg} (h : s.step p e = some s') : ConductsTrajectory p s e s' := by
  have hs' := hs.step h
  obtain ⟨c', hc', rfl⟩ := Option.map_eq_some_iff.mp h
  cases e with
  | update i =>
    obtain ⟨hactive, rfl⟩ := LiftController.update_of_step p s.lift hc'
    by_cases hruns : LiftController.RunsMode i s.lift
    · have hbefore := hs.beforeMode hactive hruns
      have hconducts := OnTrack.conducts_mode hbefore hruns
      have hfault (hno : (s.lift.modeRun p i).commandSample.valid = false) :=
        LiftController.update_fault p i hruns.1 hruns.2 (Or.inr hno)
      refine ⟨hs'.inOrder, ?_, ?_, ?_, ?_, ?_⟩
      · rintro _ k ⟨⟩ hk
        exact hbefore.advances hotg hs hconducts hfault hk
      · rintro _ ⟨⟩ hmode hwaits
        obtain ⟨-, -, hends⟩ := LiftController.update_onCourse p i hmode
        have hwaits : (s.lift.update p i).controller.trajectories.waitingAtPoint = true := hwaits
        rw [hends.trajectories] at hwaits
        exact (hbefore.waits hotg hs hconducts hfault hends.mode hwaits).2
      · rintro _ ⟨⟩ hmode
        obtain ⟨-, -, hends⟩ := LiftController.update_onCourse p i hmode
        have hclock := hbefore.clock hconducts hends.mode
        rw [← hends.trajectories] at hclock
        exact hclock
      · rintro _ ⟨⟩ hmode hstable
        obtain ⟨-, -, hends⟩ := LiftController.update_onCourse p i hmode
        exact hbefore.stable hconducts hends hmode hstable
      · rintro _ ⟨⟩ hmode hhold hquiet
        exact hs.completes hotg hbefore hruns hmode hhold hquiet
    · obtain ⟨-, htrajectory, hhold, -⟩ := update_stops (p := p) hruns
      refine ⟨hs'.inOrder, ?_, ?_, ?_, ?_, ?_⟩
      · rintro _ k ⟨⟩ hk
        unfold LiftController.cycleStarts at hk
        rw [if_neg hruns] at hk
        cases hk
      · rintro _ ⟨⟩ hmode
        exact absurd hmode htrajectory
      · rintro _ ⟨⟩ hmode
        exact absurd hmode htrajectory
      · rintro _ ⟨⟩ hmode
        exact absurd hmode htrajectory
      · rintro _ ⟨⟩ _ hmode
        exact absurd hmode hhold
  | _ =>
    exact ⟨hs'.inOrder, by rintro _ _ ⟨⟩, by rintro _ ⟨⟩, by rintro _ ⟨⟩, by rintro _ ⟨⟩,
      by rintro _ ⟨⟩⟩

/-- In every run, behind a generator that is finished only at its target, the points of each
accepted trajectory are started in order and once, the lift goes on from a point only when its
profile is finished and its time is over up to a nanosecond, and it ends in HOLD only when the last
point has been reached and the lift has been at the goal for the stability time. -/
theorem conducts_trajectory (hotg : otg.FinishesAtTarget) (p : LiftParameters)
    (run : List Event) :
    Runs.Throughout (step p) (ConductsTrajectory p) (configured p : TrajectoryRun otg) run :=
  Runs.throughout_of_invariant (I := OnTrack p) (fun _ _ _ hs h => hs.step h)
    (fun _ _ _ hs h => hs.conducts hotg h) (onTrack_configured p)

/-- A cycle of the lift at rest at a position, at a time in milliseconds, with a period. -/
def restInput (position : ℚ) (ms : ℕ) (period : ℚ) : UpdateInput :=
  ⟨⟨.finite position, 0, .finite 1⟩, ms * 10 ^ 6, period, true⟩

/-- A trajectory is taken over and leaves the brake gate. -/
def releasedRun (points : List JointTrajectoryPoint) : List Event :=
  [.activate standing, .driverStatus (10 * 10 ^ 6) readyReport,
    .trajectory ⟨[jointName], points⟩, .update (restInput 0 20 (1 / 100)),
    .update (restInput 0 120 (1 / 100))]

/-- A generator that moves at its highest velocity towards its target. -/
def steadyGenerator : TrajectoryGenerator where
  Memory := Unit
  initial := ()
  reset := id
  update _ deltaTime input :=
    match input.controlInterface with
    | .velocity =>
      (.finished,
        ⟨input.currentPosition + input.targetVelocity * deltaTime, input.targetVelocity, 0, 0⟩, ())
    | .position =>
      let velocity := if input.targetPosition < input.currentPosition then -input.maxVelocity
        else input.maxVelocity
      let way := velocity * deltaTime
      if (input.targetPosition - input.currentPosition).abs ≤ way.abs then
        (.finished, ⟨input.targetPosition, 0, 0, 0⟩, ())
      else (.working, ⟨input.currentPosition + way, velocity, 0, 0⟩, ())
  sqrt := id

theorem finishesAtTarget_steadyGenerator : steadyGenerator.FinishesAtTarget := by
  intro memory deltaTime input hposition hfinished
  unfold steadyGenerator at hfinished ⊢
  dsimp only at hfinished ⊢
  rw [hposition] at hfinished ⊢
  dsimp only at hfinished ⊢
  split_ifs at hfinished ⊢
  all_goals rfl

/-- The lift moves to two points, in three cycles each, and stands at the second one. -/
def twoPointRun : List Event :=
  releasedRun
      [⟨[.finite (-1 / 100)], [], [], 0, 3 * 10 ^ 8⟩,
        ⟨[.finite (-2 / 100)], [], [], 0, 6 * 10 ^ 8⟩] ++
    [Event.update (restInput 0 220 (1 / 10)), .update (restInput (-48 / 10 ^ 4) 320 (1 / 10)),
      .update (restInput (-96 / 10 ^ 4) 420 (1 / 10)), .update (restInput (-1 / 100) 520 (1 / 10)),
      .update (restInput (-148 / 10 ^ 4) 620 (1 / 10)),
      .update (restInput (-196 / 10 ^ 4) 720 (1 / 10)), .update (restInput (-2 / 100) 820 (1 / 10)),
      .update (restInput (-2 / 100) 1820 (1 / 10))]

theorem conducts_trajectory_twoPointRun :
    ∃ s : TrajectoryRun steadyGenerator,
      Runs.exec (step defaultParameters) (configured defaultParameters) twoPointRun = some s ∧
      s.starts = [0, 1] ∧ s.lift.mode = .hold ∧
      Runs.Throughout (step defaultParameters) (ConductsTrajectory defaultParameters)
        (configured defaultParameters : TrajectoryRun steadyGenerator) twoPointRun := by
  obtain ⟨s, hs, -, hP⟩ := Runs.reachable_of_run (step defaultParameters)
    (configured defaultParameters : TrajectoryRun steadyGenerator) twoPointRun
    (fun s => s.starts == [0, 1] && s.lift.mode == .hold) (by decide +kernel)
  rw [Bool.and_eq_true, beq_iff_eq, beq_iff_eq] at hP
  exact ⟨s, hs, hP.1, hP.2, conducts_trajectory finishesAtTarget_steadyGenerator
    defaultParameters twoPointRun⟩

/-- A cycle goes on to the next point only when the time of the point before it is over. -/
def AdvancesInTime (p : LiftParameters) (s : TrajectoryRun otg) (e : Event)
    (_ : TrajectoryRun otg) : Prop :=
  ∀ i k, e = .update i → k + 1 ∈ s.lift.cycleStarts p i → ∃ point, s.points[k]? = some point ∧
    point.timeFromStart ≤ s.lift.trajectories.elapsedSec + i.dt

/-- A cycle that nothing interrupts ends the trajectory in HOLD only at its last point. -/
def EndsAtLast (p : LiftParameters) (s : TrajectoryRun otg) (e : Event)
    (s' : TrajectoryRun otg) : Prop :=
  ∀ i, e = .update i → s.lift.mode = .trajectory → s'.lift.mode = .hold →
    ¬ s.lift.Interrupted p i → ∃ point, s.points.getLast? = some point ∧
      (point.positionM - s'.lift.measuredPositionM).abs ≤ .finite p.goalToleranceM

/-- A cycle that is a nanosecond shorter than the second until the first point. -/
def earlyInput : UpdateInput := restInput 0 1120 (999999999 / 10 ^ 9)

/-- A generator that overshoots the lower travel limit, and is never finished. -/
def overshootingGenerator : TrajectoryGenerator where
  Memory := Unit
  initial := ()
  reset := id
  update _ _ _ := (.working, ⟨.finite (-2), .finite (-1 / 100), 0, 0⟩, ())
  sqrt := id

/-- The lift is stopped at its lower limit on the way to a point. -/
def limitRun : List Event :=
  releasedRun [⟨[.finite (-1 / 2)], [], [], 0, 10 ^ 8⟩] ++
    [Event.update (restInput (-1) 130 (1 / 10))]

/-- The next point is started a nanosecond before the time of the point before it, and a travel
limit ends a trajectory in HOLD half a metre from its last point. -/
theorem starts_early_and_ends_at_limit :
    (immediateGenerator.FinishesAtTarget ∧
      ¬ Runs.Throughout (step defaultParameters) (AdvancesInTime defaultParameters)
        (configured defaultParameters : TrajectoryRun immediateGenerator)
        (releasedRun [⟨[.finite (-1 / 10)], [], [], 1, 0⟩, ⟨[.finite (-2 / 10)], [], [], 2, 0⟩] ++
          [.update earlyInput])) ∧
      (overshootingGenerator.FinishesAtTarget ∧
        ¬ Runs.Throughout (step defaultParameters) (EndsAtLast defaultParameters)
          (configured defaultParameters : TrajectoryRun overshootingGenerator)
          (limitRun ++ [.update (restInput (-1) 1130 (1 / 100))])) := by
  refine ⟨⟨finishesAtTarget_immediateGenerator, fun hall => ?_⟩, ⟨?_, fun hall => ?_⟩⟩
  · obtain ⟨s, hs, -, hP⟩ := Runs.reachable_of_run (step defaultParameters)
      (configured defaultParameters : TrajectoryRun immediateGenerator)
      (releasedRun [⟨[.finite (-1 / 10)], [], [], 1, 0⟩, ⟨[.finite (-2 / 10)], [], [], 2, 0⟩])
      (fun s => (s.step defaultParameters (.update earlyInput)).isSome &&
        decide (1 ∈ s.lift.cycleStarts defaultParameters earlyInput) &&
        (s.points[0]?).all fun point => decide
          (s.lift.trajectories.elapsedSec + earlyInput.dt < point.timeFromStart))
      (by decide +kernel)
    simp only [Bool.and_eq_true, Option.isSome_iff_exists, decide_eq_true_eq,
      Option.all_eq_true] at hP
    obtain ⟨⟨⟨s', hs'⟩, hstarts⟩, hearly⟩ := hP
    obtain ⟨point, hpoint, htime⟩ := hall.last hs hs' earlyInput 0 rfl hstarts
    exact absurd (hearly point hpoint) (not_lt.mpr htime)
  · rintro _ _ _ _ ⟨⟩
  · obtain ⟨s, hs, -, hP⟩ := Runs.reachable_of_run (step defaultParameters)
      (configured defaultParameters : TrajectoryRun overshootingGenerator) limitRun
      (fun s => s.lift.mode == .trajectory &&
        (s.lift.update defaultParameters (restInput (-1) 1130 (1 / 100))).executed.isNone &&
        !s.lift.takesTrajectory (restInput (-1) 1130 (1 / 100)) &&
        !s.lift.rezeroed (restInput (-1) 1130 (1 / 100)) &&
        (s.step defaultParameters (.update (restInput (-1) 1130 (1 / 100)))).any
          fun s' : TrajectoryRun overshootingGenerator => s'.lift.mode == .hold &&
            (s.points.getLast?).all fun point => !decide
              ((point.positionM - s'.lift.measuredPositionM).abs ≤ .finite (1 / 1000)))
      (by decide +kernel)
    simp only [Bool.and_eq_true, Option.any_eq_true, beq_iff_eq, Bool.not_eq_true',
      decide_eq_false_iff_not, Option.all_eq_true, Option.isNone_iff_eq_none] at hP
    obtain ⟨⟨⟨⟨hmode, hexecuted⟩, htakes⟩, hzero⟩, s', hs', hhold, hfar⟩ := hP
    obtain ⟨point, hpoint, hnear⟩ := hall.last hs hs' _ rfl hmode hhold (by
      rintro (hno | hno | hno)
      · rw [hexecuted] at hno
        cases hno
      · cases htakes.symm.trans hno
      · cases hzero.symm.trans hno)
    exact hfar point hpoint hnear

end TrajectoryRun

end Lift

end JointController
