import JointController.Lift.SoftStop
import JointController.Lift.ZeroFrame

/-!
# The course of a trajectory

A trajectory is followed point by point.  The profile moves to the active point, and the cycle in
which its sample is finished with the time of the point over goes on to the next point, or waits at
the last one until the lift stands there.

* `TrajectoryGenerator.FinishesAtTarget`: what is asked of the generator.
* `LiftMotionProfile.Aims`: the profile moves to a position, unless a travel limit has stopped it.
* `Course`, `KeepsCourse`: what the stages before the mode of a cycle leave alone.
* `passesPoint`, `pointsStarted`: a cycle is done with the active point, and what it starts.
* `Conducts`, `conducts_runMode`: what the mode of a cycle does with the trajectory.
* `update_onCourse`, `update_completes`: what the end of a cycle does with it.
-/

namespace JointController

namespace Lift

/-- The generator reports that it is finished only at the target position of its input. -/
def TrajectoryGenerator.FinishesAtTarget (otg : TrajectoryGenerator) : Prop :=
  ∀ memory deltaTime input, input.controlInterface = .position →
    (otg.update memory deltaTime input).1 = .finished →
    (otg.update memory deltaTime input).2.1.newPosition = input.targetPosition

theorem finishesAtTarget_immediateGenerator : immediateGenerator.FinishesAtTarget :=
  fun _ _ _ _ _ => rfl

/-- The position that a trajectory point asks for. -/
def JointTrajectoryPoint.positionM (point : JointTrajectoryPoint) : Double :=
  point.positions.headD 0

/-! ## The profile of a point -/

namespace LiftMotionProfile

variable {otg : TrajectoryGenerator} (l : LiftMotionLimits)
  (profile : LiftMotionProfile otg) {x : Double}

/-- The profile moves to a position, unless a travel limit has stopped it. -/
def Aims (x : Double) (profile : LiftMotionProfile otg) : Prop :=
  profile.mode = .hold ∨ (profile.mode = .position ∧
    profile.input.controlInterface = .position ∧ profile.targetPositionM = x)

theorem aims_setPositionTarget {v a scale limit : Double}
    (h : (profile.setPositionTarget l x v a scale limit).1 = true) :
    Aims (l.clampPosition x) (profile.setPositionTarget l x v a scale limit).2 := by
  unfold setPositionTarget at h ⊢
  split at h
  · cases h
  · rename_i haccepted
    rw [if_neg haccepted]
    exact Or.inr ⟨rfl, rfl, rfl⟩

/-- The profile stands, or it keeps its target and its sample is rejected or comes from the
generator. -/
theorem update_cases (cycleSec : Double) :
    (profile.update l cycleSec).mode = .hold ∨
      ((profile.update l cycleSec).mode = profile.mode ∧
        (profile.update l cycleSec).input.controlInterface = profile.input.controlInterface ∧
        (profile.update l cycleSec).targetPositionM = profile.targetPositionM ∧
        ((profile.update l cycleSec).state.valid = false ∨
          ∃ memory deltaTime input,
            input.controlInterface = profile.input.controlInterface ∧
            input.targetPosition = profile.targetPositionM ∧
            (profile.update l cycleSec).state.positionM =
              l.clampPosition (otg.update memory deltaTime input).2.1.newPosition ∧
            ((profile.update l cycleSec).state.finished = true →
              (otg.update memory deltaTime input).1 = .finished))) := by
  unfold LiftMotionProfile.update
  dsimp only
  split
  · exact Or.inr ⟨rfl, rfl, rfl, Or.inl rfl⟩
  · split
    · rename_i hhold
      exact Or.inl hhold
    · generalize (if profile.mode = .velocity then _ else _) = target
      split
      · exact Or.inr ⟨rfl, rfl, rfl, Or.inl rfl⟩
      · rename_i result output memory _ hcomputed
        split
        · exact Or.inl rfl
        · split
          · exact Or.inl rfl
          · refine Or.inr ⟨rfl, rfl, rfl, Or.inr ⟨profile.memory,
              cycleSec.clamp (.finite (1 / 1000)) (.finite (1 / 10)),
              { profile.input with targetVelocity := target }, rfl, rfl, ?_, fun hfinished => ?_⟩⟩
            · rw [hcomputed]
              rfl
            · rw [hcomputed]
              exact beq_iff_eq.mp hfinished

variable {profile}

theorem hold_update (h : profile.mode = .hold) (cycleSec : Double) :
    (profile.update l cycleSec).mode = .hold := by
  rcases profile.update_cases l cycleSec with hhold | ⟨hmode, -⟩
  · exact hhold
  · exact hmode.trans h

theorem Aims.update (h : Aims x profile) (cycleSec : Double) :
    Aims x (profile.update l cycleSec) := by
  rcases profile.update_cases l cycleSec with hhold | ⟨hmode, hinterface, htarget, -⟩
  · exact Or.inl hhold
  · unfold Aims
    rw [hmode, hinterface, htarget]
    exact h

/-- A finished sample is at the target, unless a travel limit has stopped the profile. -/
theorem Aims.finished (hotg : otg.FinishesAtTarget) (h : Aims x profile) {cycleSec : Double}
    (hfinished : (profile.update l cycleSec).state.finished = true)
    (hvalid : (profile.update l cycleSec).state.valid = true) :
    (profile.update l cycleSec).mode = .hold ∨
      (profile.update l cycleSec).state.positionM = l.clampPosition x := by
  rcases profile.update_cases l cycleSec with hhold | ⟨hmode, -, -, hsample⟩
  · exact Or.inl hhold
  · rcases h with hhold | ⟨-, hinterface, htarget⟩
    · exact Or.inl (hmode.trans hhold)
    · rcases hsample with hinvalid | ⟨memory, deltaTime, input, hinput, hgoal, hposition, hdone⟩
      · cases hinvalid.symm.trans hvalid
      · right
        rw [hposition, hotg memory deltaTime input (hinput.trans hinterface) (hdone hfinished),
          hgoal, htarget]

end LiftMotionProfile

namespace LiftController

open LiftMotionProfile (Aims)

variable {otg : TrajectoryGenerator} (p : LiftParameters) (i : UpdateInput)
  (c : LiftController otg) {c' c'' : LiftController otg}

/-- The callback has accepted the points whose positions lie in the travel. -/
theorem clampPosition_accepted {point : JointTrajectoryPoint} (h : acceptsPoint p point = true) :
    p.limits.clampPosition point.positionM = point.positionM := by
  obtain ⟨positions, velocities, accelerations, sec, nanosec⟩ := point
  match positions with
  | [position] =>
    simp only [acceptsPoint, Bool.and_eq_true, Bool.not_eq_true', decide_eq_false_iff_not] at h
    show Double.clamp position _ _ = position
    unfold Double.clamp
    rw [if_neg h.1.1.1.2, if_neg h.1.1.2]
  | [] => cases h
  | _ :: _ :: _ => cases h

/-! ## The stages before the mode -/

/-- Where a controller is on its trajectory. -/
structure Course (otg : TrajectoryGenerator) where
  profile : LiftMotionProfile otg
  pointIndex : ℕ
  elapsedSec : ℚ
  waitingAtPoint : Bool
  goalStableActive : Bool
  goalStableSince : ℕ

/-- The course of a controller. -/
def course : Course otg where
  profile := c.profile
  pointIndex := c.trajectories.pointIndex
  elapsedSec := c.trajectories.elapsedSec
  waitingAtPoint := c.trajectories.waitingAtPoint
  goalStableActive := c.goalStableActive
  goalStableSince := c.goalStableSince

/-- A trajectory is dropped or goes on as it was. -/
structure KeepsCourse (c c' : LiftController otg) : Prop where
  active : ∀ t, c'.trajectories.active = some t → c.trajectories.active = some t
  course : c'.mode = .trajectory → c.mode = .trajectory ∧ c'.course = c.course

variable {c}

theorem KeepsCourse.refl (c : LiftController otg) : KeepsCourse c c :=
  ⟨fun _ h => h, fun h => ⟨h, rfl⟩⟩

theorem KeepsCourse.trans (h : KeepsCourse c c') (h' : KeepsCourse c' c'') :
    KeepsCourse c c'' where
  active t ht := h.active t (h'.active t ht)
  course hmode := by
    obtain ⟨hmode', hcourse'⟩ := h'.course hmode
    obtain ⟨hmode, hcourse⟩ := h.course hmode'
    exact ⟨hmode, hcourse'.trans hcourse⟩

/-- Behind the stage the lift follows no trajectory. -/
theorem KeepsCourse.leaves
    (hactive : ∀ t, c'.trajectories.active = some t → c.trajectories.active = some t)
    (hmode : c'.mode ≠ .trajectory) : KeepsCourse c c' :=
  ⟨hactive, fun h => absurd h hmode⟩

theorem KeepsCourse.of_rests
    (hactive : ∀ t, c'.trajectories.active = some t → c.trajectories.active = some t)
    (hrests : c'.mode.rests = true) : KeepsCourse c c' := by
  refine .leaves hactive fun hmode => ?_
  rw [hmode] at hrests
  cases hrests

variable (c)

theorem keepsCourse_leaveEstop : KeepsCourse c (c.leaveEstop p) := by
  unfold leaveEstop
  split_ifs
  · exact .of_rests (fun _ h => h) rfl
  · exact .refl c

/-- The intake drops a trajectory when it takes over none. -/
theorem keepsCourse_takeTrajectory (h : c.takesTrajectory i = false) :
    KeepsCourse c (c.takeTrajectory p i) := by
  unfold takeTrajectory
  unfold takesTrajectory at h
  split_ifs with hlease
  · unfold discardNative dropPendingTrajectory
    dsimp only
    split_ifs <;> exact ⟨by rintro t ⟨⟩, fun hmode => ⟨hmode, rfl⟩⟩
  · split
    · rename_i hsome
      simp [hlease, hsome] at h
    · exact .refl c

theorem takesTrajectory_intake :
    (c.leaveEstop p).observeLeaseGate.takesTrajectory i = c.takesTrajectory i := by
  unfold leaveEstop
  split_ifs <;> rfl

theorem keepsCourse_intake (h : c.takesTrajectory i = false) : KeepsCourse c (c.intake p i) := by
  have hobserve : KeepsCourse c (c.leaveEstop p).observeLeaseGate :=
    (keepsCourse_leaveEstop p c).trans ⟨fun _ ht => ht, fun hmode => ⟨hmode, rfl⟩⟩
  exact hobserve.trans (keepsCourse_takeTrajectory p i _
    ((takesTrajectory_intake p i c).trans h))

theorem keepsCourse_selectCommand : KeepsCourse c c.selectCommand.2 := by
  unfold selectCommand
  split_ifs <;> exact ⟨fun _ ht => ht, fun hmode => ⟨hmode, rfl⟩⟩

theorem keepsCourse_consume (s : Selection) : KeepsCourse c (c.consume s) := by
  unfold consume
  split_ifs <;> exact ⟨fun _ ht => ht, fun hmode => ⟨hmode, rfl⟩⟩

theorem keepsCourse_executeStop (s : Selection) : KeepsCourse c (c.executeStop p s) := by
  have hcancelled : ∀ t, (c.cancelled s).trajectories.active = some t →
      c.trajectories.active = some t := by
    unfold cancelled applyCancellation
    split_ifs
    · rintro t ⟨⟩
    · exact fun _ ht => ht
  have hstops := stops_executeStop p c s
  generalize c.executeStop p s = c' at hstops ⊢
  cases hstops with
  | hold => exact .of_rests hcancelled rfl
  | brake => exact .of_rests hcancelled rfl
  | softStop => exact .of_rests (by rintro t ⟨⟩) rfl

/-- A command that is executed drops the trajectory or leaves it alone. -/
theorem keepsCourse_execute (s : Selection) : KeepsCourse c (c.execute p i s).2 := by
  have hexecutes := executes p i c s
  refine (keepsCourse_consume c s).trans ?_
  generalize (c.execute p i s).2 = c' at hexecutes ⊢
  cases hexecutes with
  | stop => exact keepsCourse_executeStop p _ s
  | waits => exact ⟨fun _ ht => ht, fun hmode => ⟨hmode, rfl⟩⟩
  | jog htype hjog =>
    unfold executeJog
    dsimp only
    split_ifs
    · exact .leaves (fun _ ht => ht) (by rw [hjog]; rintro ⟨⟩)
    · exact .of_rests (fun _ ht => ht) rfl
  | stream htype hstream => exact .leaves (fun _ ht => ht) (by rw [hstream]; rintro ⟨⟩)
  | gate => exact .leaves (by rintro t ⟨⟩) (by rintro ⟨⟩)
  | nothing => exact .refl _

theorem keepsCourse_dispatch : KeepsCourse c (c.dispatch p i).2 := by
  have hselect := keepsCourse_selectCommand c
  unfold dispatch
  split
  · exact hselect.trans (keepsCourse_execute p i _ _)
  · exact hselect

theorem keepsCourse_checkDriverGate : KeepsCourse c (c.checkDriverGate p i) := by
  unfold checkDriverGate
  split_ifs
  · exact .of_rests (by rintro t ⟨⟩) rfl
  · exact .refl c

/-- A cycle that takes over no trajectory drops the one that there is or goes on with it. -/
theorem keepsCourse_modeStage (h : c.takesTrajectory i = false) :
    KeepsCourse c (c.modeStage p i) := by
  have hread : KeepsCourse c (c.readStateInterfaces i) :=
    ⟨fun _ ht => ht, fun hmode => ⟨hmode, rfl⟩⟩
  exact ((hread.trans (keepsCourse_intake p i _ h)).trans (keepsCourse_dispatch p i _)).trans
    (keepsCourse_checkDriverGate p i _)

/-- A trajectory that a cycle takes over waits in the brake gate before its mode is run. -/
theorem modeStage_taken (h : c.takesTrajectory i = true) :
    (c.modeStage p i).mode ≠ .trajectory ∧
      ∀ t, (c.modeStage p i).trajectories.active = some t → c.newTrajectory i = some t := by
  set d : LiftController otg := ((c.readStateInterfaces i).leaveEstop p).observeLeaseGate with hd
  have htakes : d.takesTrajectory i = true :=
    (takesTrajectory_intake p i (c.readStateInterfaces i)).trans h
  have hnew : d.newTrajectory i = c.newTrajectory i := by
    rw [hd]
    unfold leaveEstop
    split_ifs <;> rfl
  obtain ⟨trajectory, htaken, hbegin⟩ : ∃ trajectory, d.newTrajectory i = some trajectory ∧
      (c.readStateInterfaces i).intake p i = d.beginTrajectory p i trajectory := by
    obtain ⟨hlease, hsome⟩ := Bool.and_eq_true_iff.mp htakes
    obtain ⟨trajectory, htaken⟩ := Option.isSome_iff_exists.mp hsome
    refine ⟨trajectory, htaken, ?_⟩
    show d.takeTrajectory p i = _
    unfold takeTrajectory
    rw [if_neg (by simpa using hlease), htaken]
  have hkeeps : KeepsCourse (d.beginTrajectory p i trajectory) (c.modeStage p i) := by
    unfold modeStage
    rw [hbegin]
    exact (keepsCourse_dispatch p i _).trans (keepsCourse_checkDriverGate p i _)
  constructor
  · intro hmode
    cases (hkeeps.course hmode).1
  · intro t ht
    rw [← hnew, htaken, ← hkeeps.active t ht]
    rfl

/-! ## The mode of the cycle -/

/-- The lift is done with the active point: the sample of the cycle is finished, and the time of the
point is over. -/
def PassesPoint : Prop :=
  (c.profile.update p.limits (.finite i.dt)).state.finished = true ∧
    c.pointTime ≤ c.trajectories.elapsedSec + i.dt + 1 / 10 ^ 9

instance : Decidable (c.PassesPoint p i) := inferInstanceAs (Decidable (_ ∧ _))

/-- The indices of the points that the mode of a cycle starts. -/
def pointsStarted : List ℕ :=
  if c.mode = .brakeGate then
    if (c.brakeGateCycle p i false).controller.mode = .trajectory then [0] else []
  else if c.mode = .trajectory ∧ c.trajectories.pointIndex + 1 < c.pointCount ∧
      c.PassesPoint p i then
    [c.trajectories.pointIndex + 1]
  else []

/-- The lift on its way to the active point, one cycle later. -/
def goesOn : LiftController otg :=
  { c with trajectories := { c.trajectories with
    elapsedSec := c.trajectories.elapsedSec + i.dt } }.advanceProfile p i

theorem trajectoryCycle_eq :
    c.trajectoryCycle p i =
      if c.PassesPoint p i then (c.goesOn p i).nextTrajectoryPoint p else c.goesOn p i :=
  if_congr Iff.rfl rfl rfl

/-- The profile moves to the point with an index. -/
structure MovesTo (index : ℕ) (point : JointTrajectoryPoint) (c : LiftController otg) : Prop where
  index : c.trajectories.pointIndex = index
  aims : Aims (p.limits.clampPosition point.positionM) c.profile
  waiting : c.trajectories.waitingAtPoint = false

/-- What the mode of a cycle does with the trajectory, and the points that it starts. -/
inductive Conducts (p : LiftParameters) (i : UpdateInput) (c : LiftController otg) :
    List ℕ → LiftController otg → Prop
  /-- The lift follows no trajectory, and none begins. -/
  | elsewhere {d : LiftController otg} (hbefore : c.mode ≠ .trajectory)
      (hmode : d.mode ≠ .trajectory) : Conducts p i c [] d
  /-- The trajectory leaves the brake gate. -/
  | first {command : MotionCommand} {t : JointTrajectory} {point : JointTrajectoryPoint}
      {d : LiftController otg} (hwaits : c.Waits command) (htype : command.type = .trajectory)
      (hactive : c.trajectories.active = some t) (hpoint : t.points[0]? = some point)
      (hmode : d.mode = .trajectory) (helapsed : d.trajectories.elapsedSec = 0)
      (hmoves : MovesTo p 0 point d) : Conducts p i c [0] d
  /-- The trajectory has been dropped, and the lift stays where its profile is. -/
  | dropped (hmode : c.mode = .trajectory) (hactive : c.trajectories.active = none) :
      Conducts p i c [] c.showProfile
  | onward (hmode : c.mode = .trajectory) : Conducts p i c [] (c.goesOn p i)
  | next {t : JointTrajectory} {point : JointTrajectoryPoint} {d : LiftController otg}
      (hmode : c.mode = .trajectory) (hpasses : c.PassesPoint p i)
      (hactive : c.trajectories.active = some t)
      (hpoint : t.points[c.trajectories.pointIndex + 1]? = some point)
      (hmode' : d.mode = .trajectory)
      (helapsed : d.trajectories.elapsedSec = c.trajectories.elapsedSec + i.dt)
      (hsample : d.commandSample = (c.profile.update p.limits (.finite i.dt)).state)
      (hmoves : MovesTo p (c.trajectories.pointIndex + 1) point d) :
      Conducts p i c [c.trajectories.pointIndex + 1] d
  /-- The lift is done with the last point and waits there. -/
  | last {t : JointTrajectory} (hmode : c.mode = .trajectory) (hpasses : c.PassesPoint p i)
      (hactive : c.trajectories.active = some t)
      (hlast : ¬ c.trajectories.pointIndex + 1 < t.points.length) :
      Conducts p i c [] { c.goesOn p i with
        trajectories := { (c.goesOn p i).trajectories with waitingAtPoint := true } }

variable {c}

theorem startTrajectoryPoint_spec {index : ℕ} (h : (c.startTrajectoryPoint p index).1 = true) :
    ∃ t point, c.trajectories.active = some t ∧ t.points[index]? = some point ∧
      (c.startTrajectoryPoint p index).2.trajectories =
        { c.trajectories with waitingAtPoint := false } ∧
      Aims (p.limits.clampPosition point.positionM)
        (c.startTrajectoryPoint p index).2.profile := by
  unfold startTrajectoryPoint at h ⊢
  split at h
  · cases h
  · rename_i point hpoint
    obtain ⟨t, hactive, hindex⟩ := Option.bind_eq_some_iff.mp hpoint
    exact ⟨t, point, hactive, hindex, rfl, LiftMotionProfile.aims_setPositionTarget _ _ h⟩

/-- A command that leads out of the brake gate into a trajectory starts its first point. -/
theorem startGatedCommand_trajectory {command : MotionCommand}
    (h : (c.startGatedCommand p i.now command).mode = .trajectory) :
    command.type = .trajectory ∧ ∃ t point, c.trajectories.active = some t ∧
      t.points[0]? = some point ∧
      (c.startGatedCommand p i.now command).trajectories.elapsedSec = 0 ∧
      MovesTo p 0 point (c.startGatedCommand p i.now command) := by
  unfold startGatedCommand at h ⊢
  cases htype : command.type with
  | trajectory =>
    rw [htype] at h
    dsimp only at h ⊢
    set taken : LiftController otg := { c with
      gatedCommandValid := false
      trajectories := { c.trajectories with
        elapsedSec := 0, pointIndex := 0, waitingAtPoint := false } }
    split at h
    · rename_i hstart
      obtain ⟨t, point, hactive, hpoint, htrajectories, haims⟩ :=
        startTrajectoryPoint_spec (c := taken) p hstart
      rw [if_pos hstart]
      refine ⟨rfl, t, point, hactive, hpoint, ?_, ?_, haims, ?_⟩
      · exact congrArg Trajectories.elapsedSec htrajectories
      · exact congrArg Trajectories.pointIndex htrajectories
      · exact congrArg Trajectories.waitingAtPoint htrajectories
    · cases h
  | _ =>
    rw [htype] at h
    cases h

/-- A cycle in the brake gate that leads into a trajectory starts its first point. -/
theorem brakeGateCycle_trajectory (streamSelected : Bool) (hgate : c.mode = .brakeGate)
    (h : (c.brakeGateCycle p i streamSelected).controller.mode = .trajectory) :
    Conducts p i c [0] (c.brakeGateCycle p i streamSelected).controller := by
  obtain ⟨command, hstarted⟩ := released_of_moves p i streamSelected hgate (by rw [h]; rfl)
  obtain ⟨hreleased, hcontroller⟩ := brakeGateCycle_started p i streamSelected hstarted
  have hwaits := released_waits c hgate hreleased
  have hstart : c.startGatedMotion p i.now = c.startGatedCommand p i.now command := by
    unfold released at hreleased
    split_ifs at hreleased with hvalid
    unfold startGatedMotion
    rw [if_neg (by rw [not_or, not_not]; exact hvalid), hwaits.2.2]
  rw [hcontroller] at h ⊢
  split at h
  · rename_i hstays
    cases hstays.symm.trans h
  · rename_i hleaves
    rw [if_neg hleaves, hstart]
    rw [hstart] at h
    obtain ⟨htype, t, point, hactive, hpoint, helapsed, hmoves⟩ :=
      startGatedCommand_trajectory p i h
    exact .first hwaits htype hactive hpoint h helapsed hmoves

theorem brakeGateCycle_controller (streamSelected : Bool) :
    (c.brakeGateCycle p i streamSelected).controller = (c.brakeGateCycle p i false).controller := by
  unfold brakeGateCycle
  dsimp only
  split_ifs <;> rfl

/-- The next point of an accepted trajectory is started, or the lift waits at the last one. -/
theorem Guided.conducts_next (h : Guided p c) (hmode : c.mode = .trajectory)
    (hpasses : c.PassesPoint p i) {t : JointTrajectory} (hactive : c.trajectories.active = some t) :
    Conducts p i c
      (if c.trajectories.pointIndex + 1 < t.points.length then [c.trajectories.pointIndex + 1]
        else [])
      ((c.goesOn p i).nextTrajectoryPoint p) := by
  have hcount : (c.goesOn p i).pointCount = t.points.length := by
    unfold pointCount
    rw [show (c.goesOn p i).trajectories.active = some t from hactive]
    rfl
  unfold LiftController.nextTrajectoryPoint
  dsimp only
  rw [hcount]
  show Conducts p i c _ (if c.trajectories.pointIndex + 1 < t.points.length then _ else _)
  by_cases hindex : c.trajectories.pointIndex + 1 < t.points.length
  · rw [if_pos hindex, if_pos hindex]
    set taken : LiftController otg := { c.goesOn p i with
      trajectories := { (c.goesOn p i).trajectories with
        pointIndex := (c.goesOn p i).trajectories.pointIndex + 1 } }
    have hstart := startTrajectoryPoint_accepted (c := taken) p hactive
      (h.accepted t (Or.inl hactive)) hindex
    obtain ⟨hkept, hsample, -⟩ :=
      startTrajectoryPoint_keeps (c := taken) p (c.trajectories.pointIndex + 1)
    obtain ⟨t', point, hactive', hpoint, htrajectories, haims⟩ :=
      startTrajectoryPoint_spec (c := taken) p hstart
    obtain rfl := Option.some_inj.mp (hactive.symm.trans hactive')
    rw [show (c.goesOn p i).trajectories.pointIndex = c.trajectories.pointIndex from rfl,
      if_pos hstart]
    exact .next hmode hpasses hactive hpoint (hkept.trans hmode)
      (congrArg Trajectories.elapsedSec htrajectories) hsample
      ⟨congrArg Trajectories.pointIndex htrajectories, haims,
        congrArg Trajectories.waitingAtPoint htrajectories⟩
  · rw [if_neg hindex, if_neg hindex]
    exact .last hmode hpasses hactive hindex

/-- What the mode of a cycle does with an accepted trajectory. -/
theorem Guided.conducts_runMode (h : Guided p c) (streamSelected : Bool) :
    Conducts p i c (c.pointsStarted p i) (c.runMode p i streamSelected).controller := by
  unfold pointsStarted LiftController.runMode
  by_cases hgate : c.mode = .brakeGate
  · rw [if_pos hgate, if_pos hgate]
    have hsame := brakeGateCycle_controller p i (c := c) streamSelected
    split
    · rename_i hmode
      exact brakeGateCycle_trajectory p i streamSelected hgate (by rw [hsame]; exact hmode)
    · rename_i hmode
      exact .elsewhere (by rw [hgate]; rintro ⟨⟩) (by rw [hsame]; exact hmode)
  · rw [if_neg hgate, if_neg hgate]
    by_cases hmode : c.mode = .trajectory
    · have hcycle : c.motionCycle p i =
          if c.trajectories.active.isSome = true then c.trajectoryCycle p i else c.showProfile := by
        unfold LiftController.motionCycle
        rw [hmode, if_neg (fun hjog => by cases hjog.1)]
        split
        · rename_i hactive
          rw [if_pos hactive.2]
        · rename_i hactive
          rw [if_neg (fun hsome => hactive ⟨rfl, hsome⟩),
            if_neg (by rintro (⟨⟨⟩⟩ | ⟨⟨⟩⟩ | ⟨⟨⟩⟩)), if_neg (by rintro ⟨⟩)]
      show Conducts p i c _ (c.motionCycle p i)
      rw [hcycle]
      cases hactive : c.trajectories.active with
      | none =>
        have hcount : c.pointCount = 0 := by
          unfold pointCount
          rw [hactive]
          rfl
        rw [if_neg (fun hstart => by rw [hcount] at hstart; exact absurd hstart.2.1 (by omega))]
        exact .dropped hmode hactive
      | some t =>
        have hcount : c.pointCount = t.points.length := by
          unfold pointCount
          rw [hactive]
          rfl
        rw [if_pos (show (some t).isSome = true from rfl), trajectoryCycle_eq, hcount]
        by_cases hpasses : c.PassesPoint p i
        · rw [if_pos hpasses]
          have hnext := h.conducts_next p i hmode hpasses hactive
          by_cases hindex : c.trajectories.pointIndex + 1 < t.points.length
          · rw [if_pos hindex] at hnext
            rw [if_pos ⟨hmode, hindex, hpasses⟩]
            exact hnext
          · rw [if_neg hindex] at hnext
            rw [if_neg fun hstart => hindex hstart.2.1]
            exact hnext
        · rw [if_neg hpasses, if_neg fun hstart => hpasses hstart.2.2]
          exact .onward hmode
    · rw [if_neg fun hstart => hmode hstart.1]
      refine .elsewhere hmode fun htrajectory => ?_
      rcases keepsWindow_motionCycle p i c with hrests | hsame
      · rw [show (c.motionCycle p i).mode = .trajectory from htrajectory] at hrests
        cases hrests
      · exact hmode (hsame.1.symm.trans htrajectory)

/-! ## The active trajectory -/

theorem startTrajectoryPoint_active (index : ℕ) :
    (c.startTrajectoryPoint p index).2.trajectories.active = c.trajectories.active := by
  unfold startTrajectoryPoint
  split <;> rfl

theorem startGatedMotion_active {t : JointTrajectory}
    (h : (c.startGatedMotion p i.now).trajectories.active = some t) :
    c.trajectories.active = some t := by
  unfold startGatedMotion startGatedCommand at h
  split at h
  · exact h
  · cases htype : c.gatedCommand.type with
    | trajectory =>
      rw [htype] at h
      dsimp only at h
      set taken : LiftController otg := { c with
        gatedCommandValid := false
        trajectories := { c.trajectories with
          elapsedSec := 0, pointIndex := 0, waitingAtPoint := false } }
      split at h
      · exact (startTrajectoryPoint_active (c := taken) p 0).symm.trans h
      · cases h
    | _ =>
      rw [htype] at h
      exact h

theorem brakeGateCycle_active (streamSelected : Bool) {t : JointTrajectory}
    (h : (c.brakeGateCycle p i streamSelected).controller.trajectories.active = some t) :
    c.trajectories.active = some t := by
  unfold brakeGateCycle at h
  dsimp only at h
  split at h
  · cases h
  · split at h
    · split at h
      · exact h
      · split at h
        · split at h
          · exact startGatedMotion_active p i h
          · exact startGatedMotion_active p i h
        · exact h
    · exact h

theorem nextTrajectoryPoint_active {t : JointTrajectory}
    (h : (c.nextTrajectoryPoint p).trajectories.active = some t) :
    c.trajectories.active = some t := by
  unfold nextTrajectoryPoint at h
  dsimp only at h
  set taken : LiftController otg := { c with trajectories := { c.trajectories with
    pointIndex := c.trajectories.pointIndex + 1 } }
  split at h
  · split at h
    · exact (startTrajectoryPoint_active (c := taken) p _).symm.trans h
    · cases h
  · exact h

/-- The mode of a cycle takes over no trajectory. -/
theorem runMode_active (streamSelected : Bool) {t : JointTrajectory}
    (h : (c.runMode p i streamSelected).controller.trajectories.active = some t) :
    c.trajectories.active = some t := by
  unfold runMode motionCycle at h
  split at h
  · exact brakeGateCycle_active p i streamSelected h
  · dsimp only at h
    split at h
    · cases h
    · split at h
      · rw [trajectoryCycle_eq] at h
        split at h
        · exact nextTrajectoryPoint_active (c := c.goesOn p i) p h
        · exact h
      · split at h
        · exact h
        · split at h
          · exact h
          · exact h

/-! ## The end of the cycle -/

theorem checkGoal_cases :
    (c.checkGoal p i = { c with goalStableActive := false }) ∨
      (c.atGoal p = true ∧
        c.checkGoal p i = { c with goalStableActive := true, goalStableSince := i.now }) ∨
      (c.atGoal p = true ∧ c.goalStableActive = true ∧
        atLeast i.now c.goalStableSince p.targetStableSec ∧
        c.checkGoal p i = { c with trajectories := { c.trajectories with
          active := none } }.enterHold p c.profile.targetPositionM) ∨
      (c.atGoal p = true ∧ c.goalStableActive = true ∧ c.checkGoal p i = c) := by
  unfold checkGoal
  by_cases hgoal : c.atGoal p = true
  · rw [if_neg (not_not.mpr hgoal)]
    by_cases hactive : c.goalStableActive = true
    · rw [if_neg (not_not.mpr hactive)]
      by_cases hstable : atLeast i.now c.goalStableSince p.targetStableSec
      · rw [if_pos hstable]
        exact Or.inr (Or.inr (Or.inl ⟨hgoal, hactive, hstable, rfl⟩))
      · rw [if_neg hstable]
        exact Or.inr (Or.inr (Or.inr ⟨hgoal, hactive, rfl⟩))
    · rw [if_pos hactive]
      exact Or.inr (Or.inl ⟨hgoal, rfl⟩)
  · rw [if_pos hgoal]
    exact Or.inl rfl

theorem atGoal_congr (hmode : c'.mode = c.mode) (hprofile : c'.profile = c.profile)
    (hsample : c'.commandSample = c.commandSample) (hmotion : KeepsMotion c c') :
    c'.atGoal p = c.atGoal p := by
  unfold atGoal
  rw [hmode, hprofile, hsample, hmotion.trajectories, hmotion.measuredPosition,
    hmotion.measuredVelocity]

/-- A fault lasts until the end of the cycle, and a rejected sample ends in one. -/
theorem checkSample_fault (h : c.mode = .fault ∨ c.commandSample.valid = false) :
    (((c.checkSample p).finishSoftStop p).checkGoal p i).mode = .fault := by
  have hfault : (c.checkSample p).mode = .fault := by
    unfold checkSample
    split
    · rename_i hvalid
      exact h.resolve_right (by rw [hvalid]; rintro ⟨⟩)
    · rfl
  have hstop : (c.checkSample p).finishSoftStop p = c.checkSample p := by
    unfold finishSoftStop
    rw [hfault, if_neg]
    rintro ⟨⟨⟩, -⟩
  have hgoal : (c.checkSample p).atGoal p = false := by
    unfold atGoal
    rw [hfault]
    rfl
  rw [hstop]
  unfold checkGoal
  rw [if_pos (by rw [hgoal]; exact Bool.false_ne_true)]
  exact hfault

theorem checkGoal_trajectory (hmode : c.mode = .trajectory)
    (hvalid : c.commandSample.valid = true) :
    ((c.checkSample p).finishSoftStop p).checkGoal p i = c.checkGoal p i := by
  have hsample : c.checkSample p = c := if_pos hvalid
  have hstop : c.finishSoftStop p = c := by
    unfold finishSoftStop
    rw [hmode, if_neg]
    rintro ⟨⟨⟩, -⟩
  rw [hsample, hstop]

/-- A new zero frame brings the lift to rest, or the motion goes on. -/
theorem resync_motion (h : (c.applyZeroFrameResync p).mode.rests = false) :
    KeepsMotion c (c.applyZeroFrameResync p) := by
  unfold applyZeroFrameResync at h ⊢
  dsimp only at h ⊢
  split at h
  · rename_i hsame
    rw [if_pos hsame]
    exact .refl c
  · rename_i hnew
    rw [if_neg hnew]
    split at h
    · cases (reseat_rests p _ _).symm.trans h
    · rename_i hmeasured
      rw [if_neg hmeasured]
      exact ⟨rfl, rfl, rfl, rfl, rfl, rfl, rfl⟩

/-- A cycle ends on the trajectory with the point that its mode has left it at, and it notes the
time since when the lift has been at its goal. -/
structure EndsOnCourse (c c' : LiftController otg) : Prop where
  mode : c.mode = .trajectory
  valid : c.commandSample.valid = true
  profile : c'.profile = c.profile
  trajectories : c'.trajectories = c.trajectories
  goal : c'.goalStableActive = true → c'.atGoal p = true ∧
    (c'.goalStableSince = i.now ∨
      (c.goalStableActive = true ∧ c'.goalStableSince = c.goalStableSince))

/-- A cycle ends in HOLD, since the lift has been at its goal for long enough. -/
structure EndsAtGoal (c c' : LiftController otg) : Prop where
  goal : c.atGoal p = true
  active : c.goalStableActive = true
  stable : atLeast i.now c.goalStableSince p.targetStableSec
  target : c'.profile.targetPositionM =
    p.limits.clampPosition (p.limits.clampPosition c.profile.targetPositionM)
  trajectories : c'.trajectories = { c.trajectories with active := none }
  measuredPosition : c'.measuredPositionM = c.measuredPositionM
  measuredVelocity : c'.measuredVelocityMps = c.measuredVelocityMps

variable (c)

/-- The controller behind the mode of a cycle. -/
def modeRun : LiftController otg :=
  ((c.modeStage p i).runMode p i (((c.readStateInterfaces i).intake p i).dispatch p i).1).controller

variable {c}

/-- A cycle that runs its mode ends with its interfaces written. -/
theorem update_written (hfinite : i.state.finite = true) (hestop : c.driver.estopLatched = false) :
    ∃ s streamSelected, Written p i s streamSelected
      (((((c.modeRun p i).checkSample p).finishSoftStop p).checkGoal p i).applyZeroFrameResync p)
      (c.update p i).controller := by
  rw [update_run p i c hfinite hestop]
  obtain ⟨streamSelected, hwritten⟩ := runCycle_written p i ((c.readStateInterfaces i).intake p i)
  exact ⟨_, streamSelected, hwritten⟩

theorem update_fault (hfinite : i.state.finite = true) (hestop : c.driver.estopLatched = false)
    (h : (c.modeRun p i).mode = .fault ∨ (c.modeRun p i).commandSample.valid = false) :
    (c.update p i).controller.mode = .fault := by
  obtain ⟨s, streamSelected, hwritten⟩ := update_written p i hfinite hestop
  have hfault := checkSample_fault p i h
  rw [hwritten.mode p i]
  generalize (((c.modeRun p i).checkSample p).finishSoftStop p).checkGoal p i = d at hfault
  unfold applyZeroFrameResync reseat
  dsimp only
  split_ifs with _ _ hlatched
  · exact hfault
  · exact hfault
  · exact absurd (Or.inl hfault) hlatched
  · exact hfault

/-- A cycle behind which the lift follows a trajectory. -/
theorem update_onCourse (hmode : (c.update p i).controller.mode = .trajectory) :
    i.state.finite = true ∧ c.driver.estopLatched = false ∧
      EndsOnCourse p i (c.modeRun p i) (c.update p i).controller := by
  have hruns : i.state.finite = true ∧ c.driver.estopLatched = false := by
    rcases update_modeStage p i c with hrests | ⟨hfinite, hestop, -⟩
    · rw [hmode] at hrests
      cases hrests
    · exact ⟨hfinite, hestop⟩
  obtain ⟨hfinite, hestop⟩ := hruns
  refine ⟨hfinite, hestop, ?_⟩
  have hvalid : (c.modeRun p i).commandSample.valid = true := by
    by_contra hinvalid
    have hfault := update_fault p i hfinite hestop (Or.inr (eq_false_of_ne_true hinvalid))
    cases hfault.symm.trans hmode
  obtain ⟨s, streamSelected, hwritten⟩ := update_written p i hfinite hestop
  generalize (c.update p i).controller = c' at hmode hwritten
  generalize c.modeRun p i = r at hvalid hwritten ⊢
  have hkept := keepsWindow_finishSoftStop p (r.checkSample p)
  have hwindow := ((keepsWindow_checkSample p r).trans hkept).trans (keepsWindow_checkGoal p i _)
  have hended := hwritten.mode p i
  rw [hmode] at hended
  have hrests : ((((r.checkSample p).finishSoftStop p).checkGoal p i).applyZeroFrameResync p
      ).mode.rests = false := by
    rw [← hended]
    rfl
  have hresync := resync_motion p hrests
  obtain ⟨hsame, hprofile, hsample⟩ :=
    (settles_applyZeroFrameResync p (((r.checkSample p).finishSoftStop p).checkGoal p i)
      ).rests.resolve_left (by rw [hrests]; exact Bool.false_ne_true)
  rw [← hended] at hsame
  have htrajectory : r.mode = .trajectory := by
    rcases hwindow with hno | ⟨hno, -⟩
    · rw [← hsame] at hno
      cases hno
    · exact hno.symm.trans hsame.symm
  have hmotion := hresync.trans (hwritten.motion p i)
  have hprofile' := (hwritten.keeps p i).profile.trans hprofile
  have hsample' := (hwritten.keeps p i).sample.trans hsample
  rw [checkGoal_trajectory p i htrajectory hvalid] at hsame hmotion hprofile' hsample'
  have hgoal := atGoal_congr p (hmode.trans hsame) hprofile' hsample' hmotion
  have hends (hprofile'' : (r.checkGoal p i).profile = r.profile)
      (htrajectories : (r.checkGoal p i).trajectories = r.trajectories)
      (hat : (r.checkGoal p i).goalStableActive = true → (r.checkGoal p i).atGoal p = true ∧
        ((r.checkGoal p i).goalStableSince = i.now ∨ (r.goalStableActive = true ∧
          (r.checkGoal p i).goalStableSince = r.goalStableSince))) :
      EndsOnCourse p i r c' := by
    refine ⟨htrajectory, hvalid, hprofile'.trans hprofile'',
      hmotion.trajectories.trans htrajectories, fun hactive => ?_⟩
    rw [hmotion.goalStableActive] at hactive
    rw [hgoal, hmotion.goalStableSince]
    exact hat hactive
  rcases checkGoal_cases (c := r) p i with
    heq | ⟨hat, heq⟩ | ⟨-, -, -, heq⟩ | ⟨hat, hactive, heq⟩
  · refine hends (by rw [heq]) (by rw [heq]) fun hactive => ?_
    rw [heq] at hactive
    cases hactive
  · refine hends (by rw [heq]) (by rw [heq]) fun _ => ?_
    rw [heq]
    exact ⟨hat, Or.inl rfl⟩
  · rw [heq] at hsame
    cases hsame
  · refine hends (by rw [heq]) (by rw [heq]) fun _ => ?_
    rw [heq]
    exact ⟨hat, Or.inr ⟨hactive, rfl⟩⟩

/-- A cycle that leads from a trajectory to HOLD, and seats no new zero frame. -/
theorem update_completes (hfinite : i.state.finite = true) (hestop : c.driver.estopLatched = false)
    (hmode : (c.modeRun p i).mode = .trajectory) (hhold : (c.update p i).controller.mode = .hold)
    (hzero : c.rezeroed i = false) :
    EndsAtGoal p i (c.modeRun p i) (c.update p i).controller := by
  have hvalid : (c.modeRun p i).commandSample.valid = true := by
    by_contra hinvalid
    have hfault := update_fault p i hfinite hestop (Or.inr (eq_false_of_ne_true hinvalid))
    cases hfault.symm.trans hhold
  have hsame :
      ((((c.modeRun p i).checkSample p).finishSoftStop p).checkGoal p i).applyZeroFrameResync p =
        (((c.modeRun p i).checkSample p).finishSoftStop p).checkGoal p i :=
    resync_beforeResync p i _ (intake_not_rezeroed p i c hfinite hestop hzero)
  obtain ⟨s, streamSelected, hwritten⟩ := update_written p i hfinite hestop
  rw [hsame] at hwritten
  generalize (c.update p i).controller = c' at hhold hwritten ⊢
  generalize c.modeRun p i = r at hmode hvalid hwritten ⊢
  rw [checkGoal_trajectory p i hmode hvalid] at hwritten
  have hended := (hwritten.mode p i).symm.trans hhold
  have hmotion := hwritten.motion p i
  have hprofile := (hwritten.keeps p i).profile
  rcases checkGoal_cases (c := r) p i with
    heq | ⟨-, heq⟩ | ⟨hat, hactive, hstable, heq⟩ | ⟨-, -, heq⟩
  · rw [heq] at hended
    cases hmode.symm.trans hended
  · rw [heq] at hended
    cases hmode.symm.trans hended
  · rw [heq] at hmotion hprofile
    refine ⟨hat, hactive, hstable, ?_, hmotion.trajectories, hmotion.measuredPosition,
      hmotion.measuredVelocity⟩
    rw [hprofile]
    rfl
  · rw [heq] at hended
    cases hmode.symm.trans hended

/-- The end of a cycle takes over no trajectory. -/
theorem update_active (hfinite : i.state.finite = true) (hestop : c.driver.estopLatched = false)
    {t : JointTrajectory} (h : (c.update p i).controller.trajectories.active = some t) :
    (c.modeRun p i).trajectories.active = some t := by
  obtain ⟨s, streamSelected, hwritten⟩ := update_written p i hfinite hestop
  rw [(hwritten.motion p i).trajectories] at h
  generalize c.modeRun p i = r at h ⊢
  have hresync (d : LiftController otg)
      (hd : (d.applyZeroFrameResync p).trajectories.active = some t) :
      d.trajectories.active = some t := by
    unfold applyZeroFrameResync at hd
    dsimp only at hd
    split at hd
    · exact hd
    · split at hd
      · cases hd
      · exact hd
  have hgoal (d : LiftController otg) (hd : (d.checkGoal p i).trajectories.active = some t) :
      d.trajectories.active = some t := by
    rcases checkGoal_cases (c := d) p i with heq | ⟨-, heq⟩ | ⟨-, -, -, heq⟩ | ⟨-, -, heq⟩
    · rw [heq] at hd
      exact hd
    · rw [heq] at hd
      exact hd
    · rw [heq] at hd
      cases hd
    · rw [heq] at hd
      exact hd
  have hstop :
      ((r.checkSample p).finishSoftStop p).trajectories.active = r.trajectories.active := by
    unfold finishSoftStop checkSample failPendingHold
    dsimp only
    split_ifs <;> rfl
  rw [← hstop]
  exact hgoal _ (hresync _ h)

/-- A cycle that nothing interrupts goes on with its trajectory, or ends in a fault. -/
theorem modeStage_uninterrupted (hfinite : i.state.finite = true)
    (hestop : c.driver.estopLatched = false) (hmode : c.mode = .trajectory)
    (htakes : c.takesTrajectory i = false) (hexecuted : (c.update p i).executed = none) :
    (c.modeStage p i).mode = .trajectory ∨ (c.modeStage p i).mode = .fault := by
  rw [update_run p i c hfinite hestop] at hexecuted
  have hnone : ((c.readStateInterfaces i).intake p i).newCommand = none := hexecuted
  have hintake : ((c.readStateInterfaces i).intake p i).mode = .trajectory := by
    have hstays : (c.readStateInterfaces i).leaveEstop p = c.readStateInterfaces i := by
      unfold leaveEstop
      rw [if_neg]
      intro hno
      cases hmode.symm.trans hno
    have hsame : (c.readStateInterfaces i).observeLeaseGate.takesTrajectory i = false := htakes
    unfold intake
    rw [hstays]
    unfold takeTrajectory
    unfold takesTrajectory at hsame
    split_ifs with hlease
    · unfold discardNative dropPendingTrajectory
      dsimp only
      split_ifs <;> exact hmode
    · split
      · rename_i hsome
        simp [hlease, hsome] at hsame
      · exact hmode
  have hdispatch : (((c.readStateInterfaces i).intake p i).dispatch p i).2.mode = .trajectory := by
    unfold dispatch selectCommand
    rw [hnone]
    dsimp only
    split_ifs <;> exact hintake
  unfold modeStage checkDriverGate
  split_ifs
  · exact Or.inr rfl
  · exact Or.inl hdispatch

end LiftController

end Lift

end JointController
