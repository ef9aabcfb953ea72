import JointController.Lift.System
import JointController.Library.Runs

/-!
# The brake gate of the lift

A motion of the lift begins behind the brake gate: its command waits until the driver gate has been
ready for the whole stability window.  Only a cycle in the brake gate leads into a motion.

* `Mode.moves`: the modes in which the lift follows a setpoint.
* `KeepsWindow`: what every stage of a cycle but the brake gate does.
* `Restrained`: what they do together, since a command may enter the brake gate on the way.
* `modeStage`, `ReadyInGate`: a cycle in the brake gate with a ready driver gate.
* `update_window`, `update_moves`: where a window and where a motion comes from.
* `OpenWindow`, `openWindow_of_exec`: an open window is a run of ready cycles.
* `gate_before_motion`: a motion begins behind a window of the stability time, a cycle that is not
  ready restarts the window, and a command that comes in meanwhile does not touch it.
-/

namespace JointController

namespace Lift

/-! ## Modes -/

/-- The lift follows a setpoint. -/
def Mode.moves : Mode → Bool
  | .position | .trajectory | .jog | .streaming => true
  | .hold | .brakeGate | .softStop | .estop | .fault => false

/-- The lift neither follows a setpoint nor waits to do so. -/
def Mode.rests : Mode → Bool
  | .hold | .softStop | .estop | .fault => true
  | .brakeGate | .position | .trajectory | .jog | .streaming => false

theorem Mode.moves_ne_brakeGate {mode : Mode} (h : mode.moves = true) : mode ≠ .brakeGate := by
  rintro rfl
  cases h

theorem Mode.not_rests_of_moves {mode : Mode} (h : mode.moves = true) : mode.rests = false := by
  cases mode <;> first | rfl | cases h

namespace LiftController

variable {otg : TrajectoryGenerator} (p : LiftParameters) (i : UpdateInput)
  (c : LiftController otg) {c' c'' : LiftController otg}

/-! ## Stages outside the brake gate -/

/-- The lift comes to rest, or its mode and the stability window stay as they are. -/
def KeepsWindow (c c' : LiftController otg) : Prop :=
  c'.mode.rests = true ∨ (c'.mode = c.mode ∧ c'.gateStableSince = c.gateStableSince)

/-- The lift comes to rest, waits in the brake gate with no window open, or its mode and the
stability window stay as they are. -/
def Restrained (c c' : LiftController otg) : Prop :=
  c'.mode.rests = true ∨ (c'.mode = .brakeGate ∧ c'.gateStableSince = 0) ∨
    (c'.mode = c.mode ∧ c'.gateStableSince = c.gateStableSince)

variable {c}

theorem KeepsWindow.refl (c : LiftController otg) : KeepsWindow c c := Or.inr ⟨rfl, rfl⟩

theorem KeepsWindow.trans (h : KeepsWindow c c') (h' : KeepsWindow c' c'') :
    KeepsWindow c c'' := by
  rcases h' with hrest | ⟨hmode', hsince'⟩
  · exact Or.inl hrest
  · rcases h with hrest | ⟨hmode, hsince⟩
    · exact Or.inl (hmode' ▸ hrest)
    · exact Or.inr ⟨hmode'.trans hmode, hsince'.trans hsince⟩

theorem KeepsWindow.restrained (h : KeepsWindow c c') : Restrained c c' :=
  h.elim Or.inl fun hsame => Or.inr (Or.inr hsame)

theorem Restrained.trans (h : Restrained c c') (h' : Restrained c' c'') : Restrained c c'' := by
  rcases h' with hrest | hgate | ⟨hmode', hsince'⟩
  · exact Or.inl hrest
  · exact Or.inr (Or.inl hgate)
  · rcases h with hrest | ⟨hmode, hsince⟩ | ⟨hmode, hsince⟩
    · exact Or.inl (hmode' ▸ hrest)
    · exact Or.inr (Or.inl ⟨hmode'.trans hmode, hsince'.trans hsince⟩)
    · exact Or.inr (Or.inr ⟨hmode'.trans hmode, hsince'.trans hsince⟩)

theorem KeepsWindow.rests (h : KeepsWindow c c') (hrests : c.mode.rests = true) :
    c'.mode.rests = true :=
  h.elim id fun hsame => hsame.1 ▸ hrests

theorem KeepsWindow.since_eq (h : KeepsWindow c c') (hmode : c'.mode = .brakeGate) :
    c'.gateStableSince = c.gateStableSince := by
  rcases h with hrest | ⟨-, hsince⟩
  · rw [hmode] at hrest
    cases hrest
  · exact hsince

/-- A window that is open behind such a stage was open before it. -/
theorem Restrained.open_window (h : Restrained c c') (hmode : c'.mode = .brakeGate)
    (hopen : c'.gateStableSince ≠ 0) :
    c.mode = .brakeGate ∧ c'.gateStableSince = c.gateStableSince := by
  rcases h with hrest | hgate | hsame
  · rw [hmode] at hrest
    cases hrest
  · exact absurd hgate.2 hopen
  · exact ⟨hsame.1.symm.trans hmode, hsame.2⟩

variable (c)

theorem keepsWindow_failPendingHold (stage : HoldFailureStage) :
    KeepsWindow c (c.failPendingHold stage) := by
  unfold failPendingHold
  split_ifs
  · exact .refl c
  · exact Or.inr ⟨rfl, rfl⟩

theorem keepsWindow_startTrajectoryPoint (index : ℕ) :
    KeepsWindow c (c.startTrajectoryPoint p index).2 := by
  unfold startTrajectoryPoint
  split
  · exact .refl c
  · exact Or.inr ⟨rfl, rfl⟩

theorem keepsWindow_dropPendingTrajectory : KeepsWindow c (c.dropPendingTrajectory i) := by
  unfold dropPendingTrajectory
  split_ifs
  · exact Or.inr ⟨rfl, rfl⟩
  · exact .refl c

theorem keepsWindow_nextTrajectoryPoint : KeepsWindow c (c.nextTrajectoryPoint p) := by
  unfold nextTrajectoryPoint
  dsimp only
  split_ifs
  · exact keepsWindow_startTrajectoryPoint p { c with trajectories := _ } _
  · exact Or.inl rfl
  · exact Or.inr ⟨rfl, rfl⟩

theorem keepsWindow_trajectoryCycle : KeepsWindow c (c.trajectoryCycle p i) := by
  unfold trajectoryCycle
  dsimp only
  split_ifs
  · exact keepsWindow_nextTrajectoryPoint p (LiftController.advanceProfile p i _)
  · exact Or.inr ⟨rfl, rfl⟩

theorem keepsWindow_motionCycle : KeepsWindow c (c.motionCycle p i) := by
  unfold motionCycle
  split_ifs
  · exact Or.inl rfl
  · exact keepsWindow_trajectoryCycle p i c
  · exact Or.inr ⟨rfl, rfl⟩
  · exact .refl c
  · exact Or.inr ⟨rfl, rfl⟩

/-! ## The start of a cycle -/

theorem keepsWindow_leaveEstop : KeepsWindow c (c.leaveEstop p) := by
  unfold leaveEstop
  split_ifs
  · exact Or.inl rfl
  · exact .refl c

/-- A cycle takes over a trajectory. -/
def takesTrajectory : Bool := !c.inbox.heavyLeaseActive && (c.newTrajectory i).isSome

/-- A trajectory that is taken over enters the brake gate anew. -/
theorem restrained_takeTrajectory : Restrained c (c.takeTrajectory p i) := by
  unfold takeTrajectory
  split_ifs
  · exact (keepsWindow_dropPendingTrajectory i { c with
      consumedGeneration := _, trajectories := _ }).restrained
  · split
    · exact Or.inr (Or.inl ⟨rfl, rfl⟩)
    · exact (KeepsWindow.refl c).restrained

theorem keepsWindow_takeTrajectory (h : c.takesTrajectory i = false) :
    KeepsWindow c (c.takeTrajectory p i) := by
  unfold takeTrajectory
  unfold takesTrajectory at h
  split_ifs with hlease
  · exact keepsWindow_dropPendingTrajectory i { c with
      consumedGeneration := _, trajectories := _ }
  · split
    · rename_i hsome
      simp [hlease, hsome] at h
    · exact .refl c

theorem restrained_intake : Restrained c (c.intake p i) :=
  (keepsWindow_leaveEstop p c).restrained.trans
    (restrained_takeTrajectory p i (c.leaveEstop p).observeLeaseGate)

theorem keepsWindow_selectCommand : KeepsWindow c c.selectCommand.2 := by
  unfold selectCommand
  split_ifs <;> exact Or.inr ⟨rfl, rfl⟩

theorem executeStop_rests (s : Selection) : (c.executeStop p s).mode.rests = true := by
  have hstops := stops_executeStop p c s
  generalize c.executeStop p s = c' at hstops ⊢
  cases hstops <;> rfl

theorem keepsWindow_executeJog (command : MotionCommand) :
    KeepsWindow c (c.executeJog p i command) := by
  unfold executeJog
  dsimp only
  split_ifs
  · exact Or.inr ⟨rfl, rfl⟩
  · exact Or.inl rfl

theorem keepsWindow_consume (s : Selection) : KeepsWindow c (c.consume s) := by
  unfold consume
  split_ifs <;> exact Or.inr ⟨rfl, rfl⟩

/-- A command in the brake gate replaces the one that waits, or stops the lift. -/
theorem keepsWindow_execute (s : Selection) (hgate : c.mode = .brakeGate) :
    KeepsWindow c (c.execute p i s).2 := by
  have hmode : (c.consume s).mode = .brakeGate := by
    unfold consume
    split_ifs <;> exact hgate
  have hexecutes := executes p i c s
  refine (keepsWindow_consume c s).trans ?_
  generalize (c.execute p i s).2 = c' at hexecutes ⊢
  cases hexecutes with
  | stop => exact Or.inl (executeStop_rests p _ s)
  | waits => exact Or.inr ⟨rfl, rfl⟩
  | jog htype hjog => cases hmode.symm.trans hjog
  | stream htype hstream => cases hmode.symm.trans hstream
  | gate hstop hnone hno => exact absurd hmode hno
  | nothing => exact .refl _

/-- A command that is executed enters the brake gate, or begins no motion. -/
theorem restrained_execute (s : Selection) : Restrained c (c.execute p i s).2 := by
  have hexecutes := executes p i c s
  refine (keepsWindow_consume c s).restrained.trans ?_
  generalize (c.execute p i s).2 = c' at hexecutes ⊢
  cases hexecutes with
  | stop => exact Or.inl (executeStop_rests p _ s)
  | waits => exact Or.inr (Or.inr ⟨rfl, rfl⟩)
  | jog => exact (keepsWindow_executeJog p i _ s.command).restrained
  | stream => exact Or.inr (Or.inr ⟨rfl, rfl⟩)
  | gate => exact Or.inr (Or.inl ⟨rfl, rfl⟩)
  | nothing => exact (KeepsWindow.refl _).restrained

theorem restrained_dispatch : Restrained c (c.dispatch p i).2 := by
  have hselect := (keepsWindow_selectCommand c).restrained
  unfold dispatch
  split
  · exact hselect.trans (restrained_execute p i _ _)
  · exact hselect

theorem keepsWindow_dispatch (hgate : c.mode = .brakeGate) :
    KeepsWindow c (c.dispatch p i).2 := by
  have hselect : c.selectCommand.2.mode = .brakeGate := by
    unfold selectCommand
    split_ifs <;> exact hgate
  unfold dispatch
  split
  · exact (keepsWindow_selectCommand c).trans (keepsWindow_execute p i _ _ hselect)
  · exact keepsWindow_selectCommand c

theorem keepsWindow_checkDriverGate : KeepsWindow c (c.checkDriverGate p i) := by
  unfold checkDriverGate
  split_ifs
  · exact Or.inl rfl
  · exact .refl c

/-- The controller when the mode of a cycle is run. -/
def modeStage : LiftController otg :=
  (((c.readStateInterfaces i).intake p i).dispatch p i).2.checkDriverGate p i

theorem restrained_modeStage : Restrained c (c.modeStage p i) :=
  ((restrained_intake p i (c.readStateInterfaces i)).trans
    (restrained_dispatch p i ((c.readStateInterfaces i).intake p i))).trans
    (keepsWindow_checkDriverGate p i _).restrained

/-! ## The end of a cycle -/

theorem keepsWindow_checkSample : KeepsWindow c (c.checkSample p) := by
  unfold checkSample
  split_ifs
  · exact .refl c
  · exact Or.inl rfl

theorem keepsWindow_finishSoftStop : KeepsWindow c (c.finishSoftStop p) := by
  unfold finishSoftStop
  dsimp only
  split_ifs
  · exact Or.inl rfl
  · exact Or.inl rfl
  · exact .refl c

theorem keepsWindow_checkGoal : KeepsWindow c (c.checkGoal p i) := by
  unfold checkGoal
  split
  · exact Or.inr ⟨rfl, rfl⟩
  · split
    · exact Or.inr ⟨rfl, rfl⟩
    · split
      · exact Or.inl rfl
      · exact .refl c

theorem keepsWindow_applyZeroFrameResync : KeepsWindow c (c.applyZeroFrameResync p) := by
  have hrest (d : LiftController otg) (measured : Double) :
      (d.reseat p measured).mode.rests = true := by
    unfold reseat
    dsimp only
    split_ifs with h
    · rcases h with h | h <;> rw [h] <;> rfl
    · rfl
  unfold applyZeroFrameResync
  dsimp only
  split_ifs
  · exact .refl c
  · exact Or.inl (hrest _ _)
  · exact Or.inr ⟨rfl, rfl⟩

theorem keepsWindow_confirmPendingHold : KeepsWindow c (c.confirmPendingHold p) := by
  unfold confirmPendingHold
  split_ifs
  · exact .refl c
  · exact keepsWindow_failPendingHold c .driverGate
  · exact .refl c
  · exact .refl c
  · exact Or.inr ⟨rfl, rfl⟩

theorem keepsWindow_finishCycle : KeepsWindow c (c.finishCycle p i) := by
  have hwrite (d : LiftController otg) (sample : LiftMotionSample) :
      KeepsWindow d (d.writeCommandInterfaces p sample) := Or.inr ⟨rfl, rfl⟩
  exact ((((keepsWindow_checkSample p c).trans (keepsWindow_finishSoftStop p _)).trans
    (keepsWindow_checkGoal p i _)).trans (keepsWindow_applyZeroFrameResync p _)).trans
    ((hwrite _ _).trans (keepsWindow_confirmPendingHold p _))

theorem keepsWindow_acknowledgeConsumed (s : Option Selection) :
    KeepsWindow c (c.acknowledgeConsumed s).2 := by
  unfold acknowledgeConsumed
  split
  · split_ifs <;> exact Or.inr ⟨rfl, rfl⟩
  · exact .refl c

theorem keepsWindow_acknowledgeFollow (streamSelected : Bool) :
    KeepsWindow c (c.acknowledgeFollow p i streamSelected).2 := by
  unfold acknowledgeFollow
  split_ifs
  · exact Or.inr ⟨rfl, rfl⟩
  · exact .refl c

/-! ## A cycle in the brake gate -/

theorem startGatedCommand_since (command : MotionCommand) :
    (c.startGatedCommand p i.now command).gateStableSince = c.gateStableSince := by
  have hpoint (d : LiftController otg) :
      (d.startTrajectoryPoint p 0).2.gateStableSince = d.gateStableSince := by
    unfold startTrajectoryPoint
    split <;> rfl
  unfold startGatedCommand
  cases command.type with
  | trajectory =>
    dsimp only
    split_ifs
    · exact hpoint _
    · exact hpoint _
  | _ => rfl

theorem startGatedMotion_since :
    (c.startGatedMotion p i.now).gateStableSince = c.gateStableSince := by
  unfold startGatedMotion
  split_ifs
  · rfl
  · exact startGatedCommand_since p i c _

/-- A cycle in the brake gate gives up, starts anew behind a gate that is not ready, or goes on
behind a ready gate and may then begin the motion once the window is long enough. -/
theorem brakeGateCycle_cases (streamSelected : Bool) (hgate : c.mode = .brakeGate) :
    (c.brakeGateCycle p i streamSelected).controller.mode.rests = true ∨
      (c.driverGateReady p i.now = false ∧
        (c.brakeGateCycle p i streamSelected).controller.mode = .brakeGate ∧
        (c.brakeGateCycle p i streamSelected).controller.gateStableSince = 0) ∨
      (c.driverGateReady p i.now = true ∧
        (c.brakeGateCycle p i streamSelected).controller.gateStableSince =
          (if c.gateStableSince = 0 then i.now else c.gateStableSince) ∧
        ((c.brakeGateCycle p i streamSelected).controller.mode.moves = true →
          c.gateStable p i = true)) := by
  have hwaits {mode : Mode} (h : mode = .brakeGate) (hmoves : mode.moves = true) :
      c.gateStable p i = true := absurd h (Mode.moves_ne_brakeGate hmoves)
  unfold brakeGateCycle
  dsimp only
  split
  · exact Or.inl rfl
  · split
    · rename_i hready
      refine Or.inr (Or.inr ⟨hready, ?_⟩)
      split
      · exact ⟨rfl, fun hmoves => hwaits hgate hmoves⟩
      · split
        · rename_i hstable
          refine ⟨?_, fun _ => hstable⟩
          split <;> exact startGatedMotion_since p i c
        · exact ⟨rfl, fun hmoves => hwaits hgate hmoves⟩
    · rename_i hnot
      exact Or.inr (Or.inl ⟨eq_false_of_ne_true hnot, hgate, rfl⟩)

/-! ## The cycle -/

/-- The cycle is in the brake gate when its mode is run. -/
def InGate : Prop :=
  i.state.finite = true ∧ c.driver.estopLatched = false ∧ (c.modeStage p i).mode = .brakeGate

/-- The cycle is in the brake gate, and the driver gate is ready. -/
def ReadyInGate : Prop := c.InGate p i ∧ (c.modeStage p i).driverGateReady p i.now = true

instance : Decidable (c.InGate p i) := inferInstanceAs (Decidable (_ ∧ _))

instance : Decidable (c.ReadyInGate p i) := inferInstanceAs (Decidable (_ ∧ _))

/-- A cycle that runs its mode does not begin a motion behind it. -/
theorem keepsWindow_runCycle :
    KeepsWindow (((c.dispatch p i).2.checkDriverGate p i).runMode p i (c.dispatch p i).1).controller
      (c.runCycle p i).controller :=
  (keepsWindow_finishCycle p i _).trans
    ((keepsWindow_acknowledgeConsumed _ _).trans (keepsWindow_acknowledgeFollow p i _ _))

/-- A cycle ends at rest, or runs its mode and does not begin a motion behind it. -/
theorem update_modeStage :
    (c.update p i).controller.mode.rests = true ∨
      (i.state.finite = true ∧ c.driver.estopLatched = false ∧ ∃ streamSelected,
        KeepsWindow ((c.modeStage p i).runMode p i streamSelected).controller
          (c.update p i).controller) := by
  unfold update
  dsimp only
  split
  · exact Or.inl rfl
  · rename_i hfinite
    split
    · refine Or.inl ?_
      unfold estopCycle dropPendingTrajectory
      split_ifs <;> rfl
    · rename_i hestop
      exact Or.inr ⟨not_not.mp hfinite, eq_false_of_ne_true hestop,
        (((c.readStateInterfaces i).intake p i).dispatch p i).1, keepsWindow_runCycle p i _⟩

/-- A cycle that ends in the brake gate has been there when its mode was run, and the window is
closed behind a gate that is not ready, and else goes on or begins. -/
theorem update_inGate (hmode : (c.update p i).controller.mode = .brakeGate) :
    c.InGate p i ∧
      (((c.modeStage p i).driverGateReady p i.now = false ∧
          (c.update p i).controller.gateStableSince = 0) ∨
        ((c.modeStage p i).driverGateReady p i.now = true ∧
          (c.update p i).controller.gateStableSince =
            if (c.modeStage p i).gateStableSince = 0 then i.now
            else (c.modeStage p i).gateStableSince)) := by
  have hgated {mode : Mode} (h : mode = .brakeGate) : mode.rests = false := h ▸ rfl
  rcases update_modeStage p i c with hrest | ⟨hfinite, hestop, streamSelected, hkeep⟩
  · cases (hgated hmode).symm.trans hrest
  rcases hkeep with hrest | ⟨hran, hsame⟩
  · cases (hgated hmode).symm.trans hrest
  rw [hmode] at hran
  have hran := hran.symm
  unfold runMode at hran hsame
  split at hran
  · rename_i hgate
    rw [if_pos hgate] at hsame
    refine ⟨⟨hfinite, hestop, hgate⟩, ?_⟩
    rcases brakeGateCycle_cases p i (c.modeStage p i) streamSelected hgate with
      hrest | ⟨hnot, -, hzero⟩ | ⟨hready, hsince, -⟩
    · cases (hgated hran).symm.trans hrest
    · exact Or.inl ⟨hnot, hsame.trans hzero⟩
    · exact Or.inr ⟨hready, hsame.trans hsince⟩
  · rename_i hgate
    rcases keepsWindow_motionCycle p i (c.modeStage p i) with hrest | hmotion
    · cases (hgated hran).symm.trans hrest
    · exact absurd (hmotion.1.symm.trans hran) hgate

/-- A window that is open behind a cycle was open before it or begins with it, and the driver gate
was ready in it. -/
theorem update_window (hmode : (c.update p i).controller.mode = .brakeGate)
    (hopen : (c.update p i).controller.gateStableSince ≠ 0) :
    c.ReadyInGate p i ∧ ((c.update p i).controller.gateStableSince = i.now ∨
      (c.mode = .brakeGate ∧
        (c.update p i).controller.gateStableSince = c.gateStableSince)) := by
  obtain ⟨hgate, ⟨-, hzero⟩ | ⟨hready, hsince⟩⟩ := update_inGate p i c hmode
  · exact absurd hzero hopen
  · refine ⟨⟨hgate, hready⟩, ?_⟩
    rw [hsince]
    split
    · exact Or.inl rfl
    · rename_i hpast
      exact Or.inr ((restrained_modeStage p i c).open_window hgate.2.2 hpast)

/-- A motion that begins in a cycle begins behind an open window that is long enough, and the
driver gate is ready. -/
theorem update_moves (hmoves : (c.update p i).controller.mode.moves = true)
    (hnew : (c.update p i).controller.mode ≠ c.mode) :
    c.ReadyInGate p i ∧ c.mode = .brakeGate ∧ c.gateStableSince ≠ 0 ∧
      atLeast i.now c.gateStableSince p.brakeGateStableSec := by
  have hmoving {mode : Mode} (hmode : (c.update p i).controller.mode = mode) :
      mode.rests = false ∧ mode ≠ .brakeGate := by
    rw [← hmode]
    exact ⟨Mode.not_rests_of_moves hmoves, Mode.moves_ne_brakeGate hmoves⟩
  rcases update_modeStage p i c with hrest | ⟨hfinite, hestop, streamSelected, hkeep⟩
  · rw [(hmoving rfl).1] at hrest
    cases hrest
  rcases hkeep with hrest | ⟨hran, -⟩
  · rw [(hmoving rfl).1] at hrest
    cases hrest
  obtain ⟨hnorest, hnogate⟩ := hmoving hran
  have hstage := restrained_modeStage p i c
  unfold runMode at hran hnorest hnogate
  split at hran
  · rename_i hgate
    rw [if_pos hgate] at hnorest hnogate
    rcases brakeGateCycle_cases p i (c.modeStage p i) streamSelected hgate with
      hrest | ⟨-, hwaits, -⟩ | ⟨hready, -, hstable⟩
    · rw [hnorest] at hrest
      cases hrest
    · exact absurd hwaits hnogate
    · obtain ⟨hpast, hlong⟩ := Bool.and_eq_true_iff.mp (hstable (hran ▸ hmoves))
      obtain ⟨hmode, hsince⟩ := hstage.open_window hgate (bne_iff_ne.mp hpast)
      rw [hsince] at hpast hlong
      exact ⟨⟨⟨hfinite, hestop, hgate⟩, hready⟩, hmode, bne_iff_ne.mp hpast,
        of_decide_eq_true hlong⟩
  · rename_i hgate
    rw [if_neg hgate] at hnorest hnogate
    rcases keepsWindow_motionCycle p i (c.modeStage p i) with hrest | hmotion
    · rw [hnorest] at hrest
      cases hrest
    · rcases hstage with hrest | hentered | hsame
      · rw [hmotion.1, hrest] at hnorest
        cases hnorest
      · exact absurd hentered.1 hgate
      · exact absurd (hran.trans (hmotion.1.trans hsame.1)) hnew

/-- Behind an open window a cycle that takes over no trajectory stays in that window until its
mode is run, whatever command it executes. -/
theorem modeStage_window (hgate : c.mode = .brakeGate)
    (htrajectory : c.takesTrajectory i = false) : KeepsWindow c (c.modeStage p i) := by
  have hstays : (c.readStateInterfaces i).leaveEstop p = c.readStateInterfaces i := by
    unfold leaveEstop
    rw [if_neg]
    intro hestop
    cases hgate.symm.trans hestop
  set d := (c.readStateInterfaces i).observeLeaseGate
  have hintake : (c.readStateInterfaces i).intake p i = d.takeTrajectory p i := by
    unfold intake
    rw [hstays]
  have htaken : KeepsWindow c (d.takeTrajectory p i) :=
    keepsWindow_takeTrajectory p i d htrajectory
  have hmode : (d.takeTrajectory p i).mode = .brakeGate := by
    unfold takeTrajectory
    unfold takesTrajectory at htrajectory
    split_ifs with hlease
    · unfold discardNative dropPendingTrajectory
      dsimp only
      split_ifs <;> exact hgate
    · split
      · rename_i hsome
        have hsome' : c.newTrajectory i = some _ := hsome
        have hlease' : c.inbox.heavyLeaseActive = false := eq_false_of_ne_true hlease
        simp [hlease', hsome'] at htrajectory
      · exact hgate
  unfold modeStage
  rw [hintake]
  exact (htaken.trans (keepsWindow_dispatch p i _ hmode)).trans (keepsWindow_checkDriverGate p i _)

/-! ## The window of a run -/

/-- A step inside a window: a cycle in the ready brake gate, or a callback. -/
def InWindow (e : Event) : Prop :=
  (∀ i, e = .update i → c.ReadyInGate p i) ∧ ∀ state, e ≠ .activate state ∧ e ≠ .deactivate state

/-- The window that is open at the end of a run: it begins with a cycle at the time noted in the
controller, and every cycle since then has been in the ready brake gate. -/
def OpenWindow (run : List Event) (c : LiftController otg) : Prop :=
  ∃ before first rest c₁, run = before ++ .update first :: rest ∧
    Runs.exec (step p) (configured p : LiftController otg) before = some c₁ ∧
    Runs.Meets (step p) (InWindow p) c₁ (.update first :: rest) ∧ first.now = c.gateStableSince

variable {p i c} {run : List Event}

theorem inWindow_callback {e : Event} (he : e.callback = true) : c.InWindow p e := by
  refine ⟨fun i heq => ?_, fun state => ⟨fun heq => ?_, fun heq => ?_⟩⟩ <;>
  · subst heq
    cases he

theorem inWindow_update (h : c.ReadyInGate p i) : c.InWindow p (.update i) := by
  refine ⟨fun i' heq => ?_, fun state => ⟨?_, ?_⟩⟩
  · cases heq
    exact h
  · rintro ⟨⟩
  · rintro ⟨⟩

theorem OpenWindow.snoc (h : OpenWindow p run c)
    (hrun : Runs.exec (step p) (configured p) run = some c) {e : Event} (he : c.InWindow p e)
    (hsince : c'.gateStableSince = c.gateStableSince) : OpenWindow p (run ++ [e]) c' := by
  obtain ⟨before, first, rest, c₁, rfl, hbefore, hmeets, hfirst⟩ := h
  rw [Runs.exec_append, hbefore] at hrun
  exact ⟨before, first, rest ++ [e], c₁, List.append_assoc _ _ _, hbefore, hmeets.snoc hrun he,
    hfirst.trans hsince.symm⟩

/-- A window that the controller has noted is open. -/
theorem openWindow_of_exec (h : Runs.exec (step p) (configured p) run = some c)
    (hactive : c.inbox.active = true) (hmode : c.mode = .brakeGate)
    (hopen : c.gateStableSince ≠ 0) : OpenWindow p run c := by
  refine Runs.exec_induction (I := fun run c => c.inbox.active = true →
    c.mode = .brakeGate → c.gateStableSince ≠ 0 → OpenWindow p run c) ?_ ?_ h hactive hmode hopen
  · rintro ⟨⟩
  · intro run c e c' hrun ih hstep hactive hmode hopen
    by_cases he : e.callback = true
    · have hkeep := keepsLoop_step p c he hstep
      rw [hkeep.active] at hactive
      rw [hkeep.mode] at hmode
      have hsince := hkeep.gateStableSince
      rw [hsince] at hopen
      exact (ih hactive hmode hopen).snoc hrun (inWindow_callback he) hsince
    · cases e with
      | update i =>
        obtain ⟨hbefore, rfl⟩ := update_of_step p c hstep
        obtain ⟨hready, hbegins | ⟨hgate, hsince⟩⟩ := update_window p i c hmode hopen
        · exact ⟨run, i, [], c, rfl, hrun, ⟨inWindow_update hready, fun _ _ => trivial⟩,
            hbegins.symm⟩
        · rw [hsince] at hopen
          exact (ih hbefore hgate hopen).snoc hrun (inWindow_update hready) hsince
      | activate state =>
        rcases activate_cases p c hstep with ⟨-, hfresh⟩ | ⟨hinactive, -⟩
        · cases hfresh.mode.symm.trans hmode
        · cases hinactive.symm.trans hactive
      | deactivate state => cases (deactivate_inactive p c hstep).symm.trans hactive
      | _ => exact absurd rfl he

/-- The last steps of a run and a cycle behind it are a window of the stability time: the first of
them is a control cycle, and every cycle of them is in the ready brake gate. -/
def BehindWindow (otg : TrajectoryGenerator) (p : LiftParameters) (run : List Event)
    (i : UpdateInput) : Prop :=
  ∃ before first rest, ∃ c₁ : LiftController otg, run = before ++ Event.update first :: rest ∧
    Runs.exec (step p) (configured p) before = some c₁ ∧
    Runs.Meets (step p) (InWindow p) c₁ (Event.update first :: rest ++ [Event.update i]) ∧
    atLeast i.now first.now p.brakeGateStableSec

/-- A cycle that leads from a mode without motion into a motion stands at the end of a window of the
stability time.  A cycle in the brake gate that is not ready leaves no window open, and one that is
ready keeps the window that is open, whatever command it executes.  Only a trajectory that is taken
over meanwhile begins anew. -/
theorem gate_before_motion (p : LiftParameters) {run : List Event} {c c' : LiftController otg}
    (h : Runs.exec (step p) (configured p) run = some c) {i : UpdateInput}
    (hstep : c.step p (.update i) = some c') :
    (c.mode.moves = false → c'.mode.moves = true → BehindWindow otg p run i) ∧
      (c.InGate p i → ¬ c.ReadyInGate p i → c'.mode = .brakeGate → c'.gateStableSince = 0) ∧
      (c.mode = .brakeGate → c.gateStableSince ≠ 0 → c.takesTrajectory i = false →
        c.ReadyInGate p i → c'.mode = .brakeGate →
        c'.gateStableSince = c.gateStableSince) := by
  obtain ⟨hactive, rfl⟩ := update_of_step p c hstep
  refine ⟨fun hrests hmoves => ?_, fun _ hnot hmode => ?_, 
    fun hgate hopen htrajectory hready hmode => ?_⟩
  · have hnew : (c.update p i).controller.mode ≠ c.mode := by
      intro hsame
      rw [hsame, hrests] at hmoves
      cases hmoves
    obtain ⟨hready, hgate, hopen, hlong⟩ := update_moves p i c hmoves hnew
    obtain ⟨before, first, rest, c₁, rfl, hbefore, hmeets, hfirst⟩ :=
      openWindow_of_exec h hactive hgate hopen
    rw [Runs.exec_append, hbefore] at h
    exact ⟨before, first, rest, c₁, rfl, hbefore, hmeets.snoc h (inWindow_update hready),
      hfirst ▸ hlong⟩
  · by_contra hopen
    exact hnot (update_window p i c hmode hopen).1
  · obtain ⟨hin, ⟨hnot, -⟩ | ⟨-, hsince⟩⟩ := update_inGate p i c hmode
    · cases hnot.symm.trans hready.2
    · have hsame := (modeStage_window p i c hgate htrajectory).since_eq hin.2.2
      rw [hsince, hsame, if_neg hopen]

/-- A jog waits behind the brake gate and is kept alive there until it begins. -/
def jogRun : List Event :=
  [.activate standing, .driverStatus (10 * 10 ^ 6) readyReport, .jog (.finite (-1 / 100)),
    .update ⟨standing, 20 * 10 ^ 6, 1 / 100, true⟩, .jog (.finite (-2 / 100)),
    .update ⟨standing, 60 * 10 ^ 6, 1 / 100, true⟩]

theorem gate_before_motion_jogRun :
    ∃ c c' : LiftController immediateGenerator,
      Runs.exec (step defaultParameters) (configured defaultParameters) jogRun = some c ∧
      c.step defaultParameters (.update ⟨standing, 120 * 10 ^ 6, 1 / 100, true⟩) = some c' ∧
      BehindWindow immediateGenerator defaultParameters jogRun
        ⟨standing, 120 * 10 ^ 6, 1 / 100, true⟩ := by
  obtain ⟨c, hc, -, hP⟩ := Runs.reachable_of_run (step defaultParameters)
    (configured defaultParameters : LiftController immediateGenerator) jogRun
    (fun c => !c.mode.moves &&
      (c.step defaultParameters (.update ⟨standing, 120 * 10 ^ 6, 1 / 100, true⟩)).any
        fun c' => c'.mode.moves) (by decide +kernel)
  obtain ⟨hrests, hmoves⟩ := Bool.and_eq_true_iff.mp hP
  obtain ⟨c', hc', hmoves⟩ := (Option.any_eq_true _ _).mp hmoves
  exact ⟨c, c', hc, hc', (gate_before_motion defaultParameters hc hc').1
    (Bool.not_eq_true' _ ▸ hrests) hmoves⟩

end LiftController

end Lift

end JointController
