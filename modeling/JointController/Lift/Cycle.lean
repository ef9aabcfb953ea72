import JointController.Lift.Update

/-!
# What a control cycle does with commands

The stages of `update` one by one, and from them the cycle as a whole.

* `keepsCommands_…`: the stages that leave the intake and the brake gate alone.
* `selectCommand_cases`: the three ways in which a cycle chooses a buffer.
* `Stops`, `Executes`: what a stop and a command do, with `stops_executeStop` and `executes`.
* `update_inbox`, `update_consumedHeavy`, `update_executed`, `update_waits`, `update_started`: the
  cycle as the callbacks see it.
-/

namespace JointController

namespace Lift

namespace LiftController

variable {otg : TrajectoryGenerator} (p : LiftParameters) (i : UpdateInput)
  (c : LiftController otg)

/-! ## The modes -/

theorem keepsCommands_showProfile : KeepsCommands c c.showProfile :=
  ⟨⟨rfl, rfl, rfl, rfl⟩, fun _ hw => hw⟩

theorem keepsCommands_advanceProfile : KeepsCommands c (c.advanceProfile p i) :=
  ⟨⟨rfl, rfl, rfl, rfl⟩, fun _ hw => hw⟩

theorem keepsCommands_checkDriverGate : KeepsCommands c (c.checkDriverGate p i) := by
  unfold checkDriverGate
  split_ifs
  · have hfail := keepsCommands_failPendingHold c .driverGate
    exact ⟨⟨hfail.inbox, hfail.driver, hfail.consumedSafety, hfail.consumedHeavy⟩,
      fun command hw => absurd hw (not_waits_of_invalid rfl command)⟩
  · exact .refl c

theorem keepsCommands_brakeGateCycle (streamSelected : Bool) :
    KeepsCommands c (c.brakeGateCycle p i streamSelected).controller := by
  have hstart := keepsCommands_startGatedMotion p c i.now
  unfold brakeGateCycle
  dsimp only
  split_ifs
  · exact (keepsCommands_beginSoftStop p c _ _).trans (keepsCommands_advanceProfile p i _)
  · exact ⟨⟨rfl, rfl, rfl, rfl⟩, fun _ hw => hw⟩
  · exact hstart.trans (keepsCommands_showProfile _)
  · exact hstart
  · exact keepsCommands_showProfile c
  · exact ⟨⟨rfl, rfl, rfl, rfl⟩, fun _ hw => hw⟩

theorem keepsCommands_nextTrajectoryPoint : KeepsCommands c (c.nextTrajectoryPoint p) := by
  have hnext (trajectories : Trajectories) :
      KeepsCommands c { c with trajectories := trajectories } :=
    ⟨⟨rfl, rfl, rfl, rfl⟩, fun _ hw => hw⟩
  unfold nextTrajectoryPoint
  dsimp only
  split_ifs
  · exact (hnext _).trans (keepsCommands_startTrajectoryPoint p _ _)
  · exact ((hnext _).trans (keepsCommands_startTrajectoryPoint p _ _)).trans
      (keepsCommands_beginSoftStop p _ _ _)
  · exact hnext _

theorem keepsCommands_trajectoryCycle : KeepsCommands c (c.trajectoryCycle p i) := by
  have hadvance (trajectories : Trajectories) :
      KeepsCommands c ({ c with trajectories := trajectories }.advanceProfile p i) :=
    ⟨⟨rfl, rfl, rfl, rfl⟩, fun _ hw => hw⟩
  unfold trajectoryCycle
  dsimp only
  split_ifs
  · exact (hadvance _).trans (keepsCommands_nextTrajectoryPoint p _)
  · exact hadvance _

theorem keepsCommands_motionCycle : KeepsCommands c (c.motionCycle p i) := by
  unfold motionCycle
  split_ifs
  · exact (keepsCommands_beginSoftStop p c _ _).trans (keepsCommands_advanceProfile p i _)
  · exact keepsCommands_trajectoryCycle p i c
  · exact keepsCommands_advanceProfile p i c
  · exact .refl c
  · exact keepsCommands_showProfile c

theorem keepsCommands_runMode (streamSelected : Bool) :
    KeepsCommands c (c.runMode p i streamSelected).controller := by
  unfold runMode
  split_ifs
  · exact keepsCommands_brakeGateCycle p i c streamSelected
  · exact keepsCommands_motionCycle p i c

theorem keepsCommands_checkSample : KeepsCommands c (c.checkSample p) := by
  unfold checkSample
  split_ifs
  · exact .refl c
  · have hfail := keepsCommands_failPendingHold c .motionProfile
    exact ⟨⟨hfail.inbox, hfail.driver, hfail.consumedSafety, hfail.consumedHeavy⟩,
      fun command hw => absurd hw (not_waits_of_mode .fault rfl nofun command)⟩

theorem keepsCommands_finishSoftStop : KeepsCommands c (c.finishSoftStop p) := by
  have hhold := keepsCommands_enterHold p c c.measuredPositionM
  unfold finishSoftStop
  dsimp only
  split_ifs
  · exact hhold.trans (keepsCommands_requestBrake _ _)
  · exact hhold
  · exact .refl c

theorem keepsCommands_checkGoal : KeepsCommands c (c.checkGoal p i) := by
  unfold checkGoal
  split
  · exact ⟨⟨rfl, rfl, rfl, rfl⟩, fun _ hw => hw⟩
  · split
    · exact ⟨⟨rfl, rfl, rfl, rfl⟩, fun _ hw => hw⟩
    · split
      · exact ⟨⟨rfl, rfl, rfl, rfl⟩,
          fun command hw => absurd hw (not_waits_of_mode .hold rfl nofun command)⟩
      · exact .refl c

theorem keepsCommands_finishCycle : KeepsCommands c (c.finishCycle p i) :=
  ((((keepsCommands_checkSample p c).trans (keepsCommands_finishSoftStop p _)).trans
    (keepsCommands_checkGoal p i _)).trans (keepsCommands_applyZeroFrameResync p _)).trans
    ((keepsCommands_writeCommandInterfaces p _ _).trans (keepsCommands_confirmPendingHold p _))

theorem keepsCommands_acknowledgeConsumed (s : Option Selection) :
    KeepsCommands c (c.acknowledgeConsumed s).2 := by
  unfold acknowledgeConsumed
  split
  · split_ifs <;> exact ⟨⟨rfl, rfl, rfl, rfl⟩, fun _ hw => hw⟩
  · exact .refl c

theorem keepsCommands_acknowledgeFollow (streamSelected : Bool) :
    KeepsCommands c (c.acknowledgeFollow p i streamSelected).2 := by
  unfold acknowledgeFollow
  split_ifs
  · exact ⟨⟨rfl, rfl, rfl, rfl⟩, fun _ hw => hw⟩
  · exact .refl c

/-! ## The start of a cycle -/

theorem keepsCommands_nonFiniteFault : KeepsCommands c (c.nonFiniteFault p) := by
  have hfail := keepsCommands_failPendingHold c .motionProfile
  exact ⟨⟨hfail.inbox, hfail.driver, hfail.consumedSafety, hfail.consumedHeavy⟩,
    fun command hw => absurd hw (not_waits_of_mode .fault rfl nofun command)⟩

theorem keepsCommands_dropPendingTrajectory : KeepsCommands c (c.dropPendingTrajectory i) := by
  unfold dropPendingTrajectory
  split_ifs
  · exact ⟨⟨rfl, rfl, rfl, rfl⟩, fun _ hw => hw⟩
  · exact .refl c

theorem keepsCommands_estopCycle : KeepsCommands c (c.estopCycle p i) := by
  have hestop : KeepsCommands c { c with
      mode := .estop
      gatedCommandValid := false
      trajectories := { c.trajectories with active := none } } :=
    ⟨⟨rfl, rfl, rfl, rfl⟩, fun command hw => absurd hw (not_waits_of_invalid rfl command)⟩
  have hdrop := hestop.trans (keepsCommands_dropPendingTrajectory i _)
  exact ⟨⟨hdrop.inbox, hdrop.driver, hdrop.consumedSafety, hdrop.consumedHeavy⟩,
    fun command hw => hdrop.waits command hw⟩

theorem keepsCommands_leaveEstop : KeepsCommands c (c.leaveEstop p) := by
  unfold leaveEstop
  split_ifs
  · exact ⟨⟨rfl, rfl, rfl, rfl⟩,
      fun command hw => absurd hw (not_waits_of_mode .hold rfl nofun command)⟩
  · exact .refl c

/-- The command with which a trajectory waits in the brake gate. -/
def trajectoryCommand : MotionCommand := { type := .trajectory }

theorem sameIntake_takeTrajectory : SameIntake c (c.takeTrajectory p i) := by
  unfold takeTrajectory
  split_ifs
  · have hdrop := keepsCommands_dropPendingTrajectory i { c with
      consumedGeneration := c.inbox.commandGeneration
      trajectories := { c.trajectories with active := none, activeGeneration := 0 } }
    exact ⟨hdrop.inbox, hdrop.driver, hdrop.consumedSafety, hdrop.consumedHeavy⟩
  · split
    · exact ⟨rfl, rfl, rfl, rfl⟩
    · exact (KeepsCommands.refl c).toSameIntake

theorem takeTrajectory_waits {command : MotionCommand}
    (h : (c.takeTrajectory p i).Waits command) :
    c.Waits command ∨ command = trajectoryCommand := by
  unfold takeTrajectory at h
  split_ifs at h
  · have hdrop := keepsCommands_dropPendingTrajectory i { c with
      consumedGeneration := c.inbox.commandGeneration
      trajectories := { c.trajectories with active := none, activeGeneration := 0 } }
    exact Or.inl (hdrop.waits command h)
  · split at h
    · exact Or.inr h.2.2.symm
    · exact Or.inl h

/-- The intake of commands leaves the inbox alone, and marks the last Heavy command as consumed at
most at the closing edge of the lease gate. -/
theorem intake_consumedHeavy :
    (c.intake p i).consumedHeavyCommandGeneration = c.consumedHeavyCommandGeneration ∨
      (c.inbox.heavyLeaseActive = false ∧
        (c.intake p i).consumedHeavyCommandGeneration = c.inbox.heavyCommandGeneration) := by
  have hestop := keepsCommands_leaveEstop p c
  have htake := sameIntake_takeTrajectory p i (c.leaveEstop p).observeLeaseGate
  have hedge : (c.intake p i).consumedHeavyCommandGeneration =
      if ¬ c.inbox.heavyLeaseActive ∧ (c.leaveEstop p).heavyLeaseActiveRt then
        c.inbox.heavyCommandGeneration
      else c.consumedHeavyCommandGeneration := by
    rw [← hestop.consumedHeavy, ← hestop.inbox]
    exact htake.consumedHeavy
  split_ifs at hedge with hclosed
  · exact Or.inr ⟨eq_false_of_ne_true hclosed.1, hedge⟩
  · exact Or.inl hedge

theorem intake_inbox : (c.intake p i).inbox = c.inbox :=
  (sameIntake_takeTrajectory p i _).inbox.trans (keepsCommands_leaveEstop p c).inbox

theorem intake_waits {command : MotionCommand} (h : (c.intake p i).Waits command) :
    c.Waits command ∨ command = trajectoryCommand := by
  rcases takeTrajectory_waits p i _ h with hwaits | htrajectory
  · exact Or.inl ((keepsCommands_leaveEstop p c).waits command hwaits)
  · exact Or.inr htrajectory

/-! ## The command of the cycle -/

/-- The command of a cycle comes from the buffer of its source, and a Heavy command only under an
open lease gate. -/
theorem selectCommand_cases {s : Selection} (h : c.selectCommand.1 = some s) :
    (s.source = .safety ∧ s.command = c.inbox.safetyCommandBuffer) ∨
      (s.source = .heavy ∧ s.command = c.inbox.heavyCommandBuffer ∧
        c.inbox.heavyLeaseActive = true ∧
        c.inbox.heavyCommandGeneration ≠ c.consumedHeavyCommandGeneration) ∨
      (s.source = .native ∧ s.command = c.inbox.commandBuffer) := by
  unfold selectCommand at h
  split_ifs at h with hsafety hlease hheavy
  · obtain rfl := Option.some_inj.mp h
    exact Or.inl ⟨rfl, rfl⟩
  · obtain rfl := Option.some_inj.mp h
    exact Or.inr (Or.inl ⟨rfl, rfl, hlease, hheavy⟩)
  · obtain rfl := Option.some_inj.mp h
    exact Or.inr (Or.inr ⟨rfl, rfl⟩)

theorem selectCommand_inbox : c.selectCommand.2.inbox = c.inbox := by
  unfold selectCommand
  split_ifs <;> rfl

theorem selectCommand_waits (command : MotionCommand) :
    c.selectCommand.2.Waits command ↔ c.Waits command := by
  unfold selectCommand
  split_ifs <;> exact Iff.rfl

/-- What a cycle selects from the Heavy buffer it consumes. -/
theorem selectCommand_consumedHeavy :
    c.selectCommand.2.consumedHeavyCommandGeneration = c.consumedHeavyCommandGeneration ∨
      c.selectCommand.2.consumedHeavyCommandGeneration = c.inbox.heavyCommandGeneration := by
  unfold selectCommand
  split_ifs
  · exact Or.inl rfl
  · exact Or.inr rfl
  · exact Or.inl rfl
  · exact Or.inl rfl

theorem keepsCommands_applyCancellation (generation : ℕ) :
    KeepsCommands c (c.applyCancellation generation) := by
  have hcancel := keepsCommands_cancelPendingTrajectory c generation
  exact ⟨⟨hcancel.inbox, hcancel.driver, hcancel.consumedSafety, hcancel.consumedHeavy⟩,
    fun command hw => hcancel.waits command hw⟩

/-- The state of a stop, once a safety command has cancelled the trajectories. -/
def cancelled (s : Selection) : LiftController otg :=
  if s.source == .safety then c.applyCancellation s.command.generation else c

theorem keepsCommands_cancelled (s : Selection) : KeepsCommands c (c.cancelled s) := by
  unfold cancelled
  split_ifs
  · exact keepsCommands_applyCancellation c _
  · exact .refl c

/-- What a stop does once the trajectories are cancelled. -/
inductive Stops (p : LiftParameters) (d : LiftController otg) : LiftController otg → Prop
  /-- A HOLD keeps a lift that stands. -/
  | hold (hstands : d.standsInHold p = true) (generation : ℕ) (position : Double) :
      Stops p d ({ d with pendingHoldGeneration := generation }.enterHold p position)
  /-- A STOP puts the brake on a lift that stands. -/
  | brake (hstands : d.standsInHold p = true) :
      Stops p d ((d.enterHold p d.measuredPositionM).requestBrake false)
  /-- A lift that does not stand is stopped softly. -/
  | softStop (hmoves : ¬ d.standsInHold p = true) (completion : SoftStopCompletion)
      (generation : ℕ) : Stops p d (d.beginSoftStop p completion generation)

theorem stops_executeStop (s : Selection) : Stops p (c.cancelled s) (c.executeStop p s) := by
  unfold executeStop cancelled
  dsimp only
  generalize (if s.source == .safety then c.applyCancellation s.command.generation else c) = d
  split
  · rename_i hstands
    split
    · exact .hold hstands _ _
    · exact .brake hstands
  · rename_i hmoves
    split
    · exact .softStop hmoves _ _
    · exact .softStop hmoves _ _

theorem keepsCommands_executeStop (s : Selection) : KeepsCommands c (c.executeStop p s) := by
  refine (keepsCommands_cancelled c s).trans ?_
  have hstops := stops_executeStop p c s
  generalize c.executeStop p s = c' at hstops ⊢
  cases hstops with
  | hold =>
    exact ⟨⟨rfl, rfl, rfl, rfl⟩,
      fun command hw => absurd hw (not_waits_of_mode .hold rfl nofun command)⟩
  | brake => exact (keepsCommands_enterHold p _ _).trans (keepsCommands_requestBrake _ _)
  | softStop => exact keepsCommands_beginSoftStop p _ _ _

theorem keepsCommands_executeJog (command : MotionCommand) (h : c.mode ≠ .brakeGate) :
    KeepsCommands c (c.executeJog p i command) := by
  unfold executeJog
  dsimp only
  split_ifs
  · exact ⟨⟨rfl, rfl, rfl, rfl⟩, fun command hw => absurd hw.1 h⟩
  · exact ⟨⟨rfl, rfl, rfl, rfl⟩,
      fun command hw => absurd hw (not_waits_of_mode .fault rfl nofun command)⟩

/-- The state of a command, once a native one counts as consumed. -/
def consume (s : Selection) : LiftController otg :=
  if s.source = .native then { c with consumedGeneration := s.command.generation } else c

theorem keepsCommands_consume (s : Selection) : KeepsCommands c (c.consume s) := by
  unfold consume
  split_ifs
  · exact ⟨⟨rfl, rfl, rfl, rfl⟩, fun _ hw => hw⟩
  · exact .refl c

/-- What a command does once it counts as consumed. -/
inductive Executes (p : LiftParameters) (i : UpdateInput) (s : Selection)
    (d : LiftController otg) : LiftController otg → Prop
  | stop (h : s.command.type = .softStop ∨ s.command.type = .hold) :
      Executes p i s d (d.executeStop p s)
  /-- It replaces the command that waits behind the brake gate. -/
  | waits (hstop : ¬ (s.command.type = .softStop ∨ s.command.type = .hold))
      (hnone : s.command.type ≠ .none) (hgate : d.mode = .brakeGate) (jogTime : ℕ) :
      Executes p i s d { d with
        gatedCommand := s.command
        gatedCommandValid := true
        lastJogCommandTime := jogTime }
  | jog (htype : s.command.type = .jog) (hmode : d.mode = .jog) :
      Executes p i s d (d.executeJog p i s.command)
  | stream (htype : s.command.type = .stream) (hmode : d.mode = .streaming) :
      Executes p i s d { d with commandSample := streamSample s.command }
  /-- It waits for the brake gate. -/
  | gate (hstop : ¬ (s.command.type = .softStop ∨ s.command.type = .hold))
      (hnone : s.command.type ≠ .none) (hgate : d.mode ≠ .brakeGate) :
      Executes p i s d ({ d with trajectories := { d.trajectories with
        active := none
        activeGeneration := 0 } }.beginBrakeGate p i.now s.command)
  | nothing (hnone : s.command.type = .none) : Executes p i s d d

theorem executes (s : Selection) : Executes p i s (c.consume s) (c.execute p i s).2 := by
  unfold execute consume
  dsimp only
  generalize (if s.source = .native then { c with consumedGeneration := s.command.generation }
    else c) = d
  split
  · rename_i hstop
    exact .stop hstop
  · rename_i hstop
    split
    · rename_i hgate
      exact .waits hstop hgate.2 hgate.1 _
    · rename_i hgate
      split
      · rename_i hjog
        exact .jog hjog.1 hjog.2.1
      · split
        · rename_i hstream
          exact .stream hstream.1 hstream.2.1
        · split
          · rename_i hnone
            exact .gate hstop hnone fun hmode => hgate ⟨hmode, hnone⟩
          · rename_i hnone
            exact .nothing (not_not.mp hnone)

/-- The command of a cycle is the only one that it can put behind the brake gate. -/
theorem execute_spec (s : Selection) :
    SameIntake c (c.execute p i s).2 ∧
      ∀ command, (c.execute p i s).2.Waits command → c.Waits command ∨ command = s.command := by
  have hconsume := keepsCommands_consume c s
  have hexecutes := executes p i c s
  generalize (c.execute p i s).2 = c' at hexecutes ⊢
  generalize c.consume s = d at hconsume hexecutes
  have hkeep {d' : LiftController otg} (hd : KeepsCommands d d') :
      SameIntake c d' ∧ ∀ command, d'.Waits command → c.Waits command ∨ command = s.command :=
    ⟨(hconsume.trans hd).toSameIntake, fun command hw =>
      Or.inl ((hconsume.trans hd).waits command hw)⟩
  cases hexecutes with
  | stop => exact hkeep (keepsCommands_executeStop p d s)
  | waits =>
    exact ⟨hconsume.toSameIntake.trans ⟨rfl, rfl, rfl, rfl⟩, fun command hw => Or.inr hw.2.2.symm⟩
  | jog htype hmode =>
    refine hkeep (keepsCommands_executeJog p i d s.command ?_)
    rw [hmode]
    exact nofun
  | stream => exact hkeep ⟨⟨rfl, rfl, rfl, rfl⟩, fun _ hw => hw⟩
  | gate =>
    exact ⟨hconsume.toSameIntake.trans ⟨rfl, rfl, rfl, rfl⟩, fun command hw => Or.inr hw.2.2.symm⟩
  | nothing => exact hkeep (.refl _)

theorem newCommand_selected {s : Selection} (h : c.newCommand = some s) :
    c.selectCommand.1 = some s := (Option.filter_eq_some_iff.mp h).1

theorem dispatch_inbox : (c.dispatch p i).2.inbox = c.inbox := by
  unfold dispatch
  split
  · exact (execute_spec p i c.selectCommand.2 _).1.inbox.trans (selectCommand_inbox c)
  · exact selectCommand_inbox c

theorem dispatch_consumedHeavy :
    (c.dispatch p i).2.consumedHeavyCommandGeneration = c.consumedHeavyCommandGeneration ∨
      (c.dispatch p i).2.consumedHeavyCommandGeneration = c.inbox.heavyCommandGeneration := by
  have hselect := selectCommand_consumedHeavy c
  unfold dispatch
  split
  · rw [(execute_spec p i c.selectCommand.2 _).1.consumedHeavy]
    exact hselect
  · exact hselect

theorem dispatch_waits {command : MotionCommand} (h : (c.dispatch p i).2.Waits command) :
    c.Waits command ∨ ∃ s, c.newCommand = some s ∧ s.command = command := by
  unfold dispatch at h
  split at h
  · rename_i s hs
    rcases (execute_spec p i c.selectCommand.2 s).2 command h with hwaits | hnew
    · exact Or.inl ((selectCommand_waits c command).mp hwaits)
    · exact Or.inr ⟨s, hs, hnew.symm⟩
  · exact Or.inl ((selectCommand_waits c command).mp h)

/-! ## The cycle -/

theorem released_waits {command : MotionCommand} (hmode : c.mode = .brakeGate)
    (h : c.released = some command) : c.Waits command := by
  unfold released at h
  split_ifs at h with hvalid
  exact ⟨hmode, hvalid.1, Option.some_inj.mp h⟩

theorem started_waits (streamSelected : Bool) {command : MotionCommand}
    (h : (c.runMode p i streamSelected).started = some command) : c.Waits command := by
  unfold runMode at h
  split_ifs at h with hmode
  unfold brakeGateCycle at h
  dsimp only at h
  split_ifs at h
  · exact released_waits c hmode h
  · exact released_waits c hmode h

/-- From the mode to the end of the cycle. -/
theorem keepsCommands_modeRun :
    KeepsCommands ((c.dispatch p i).2.checkDriverGate p i) (c.runCycle p i).controller :=
  ((keepsCommands_runMode p i _ _).trans (keepsCommands_finishCycle p i _)).trans
    ((keepsCommands_acknowledgeConsumed _ _).trans (keepsCommands_acknowledgeFollow p i _ _))

/-- From the command to the end of the cycle. -/
theorem keepsCommands_runCycle : KeepsCommands (c.dispatch p i).2 (c.runCycle p i).controller :=
  (keepsCommands_checkDriverGate p i _).trans (keepsCommands_modeRun p i c)

theorem runCycle_started {command : MotionCommand}
    (h : (c.runCycle p i).started = some command) : (c.dispatch p i).2.Waits command :=
  (keepsCommands_checkDriverGate p i _).waits command (started_waits p i _ _ h)

theorem keepsCommands_readStateInterfaces : KeepsCommands c (c.readStateInterfaces i) :=
  ⟨⟨rfl, rfl, rfl, rfl⟩, fun _ hw => hw⟩

theorem update_nonFinite (h : i.state.finite = false) :
    c.update p i = ⟨(c.readStateInterfaces i).nonFiniteFault p, false, [], none, none⟩ := by
  unfold update
  rw [if_pos (by rw [h]; exact Bool.false_ne_true)]

theorem update_estop (h : i.state.finite = true) (hestop : c.driver.estopLatched = true) :
    c.update p i = ⟨(c.readStateInterfaces i).estopCycle p i, true, [], none, none⟩ := by
  have hlatched : (c.readStateInterfaces i).driver.estopLatched = true := hestop
  unfold update
  rw [if_neg (not_not.mpr h), if_pos hlatched]

theorem update_run (h : i.state.finite = true) (hestop : c.driver.estopLatched = false) :
    c.update p i = ((c.readStateInterfaces i).intake p i).runCycle p i := by
  have hclear : ¬ (c.readStateInterfaces i).driver.estopLatched = true :=
    ne_true_of_eq_false hestop
  unfold update
  rw [if_neg (not_not.mpr h), if_neg hclear]

/-- A cycle ends at once in a fault or an emergency stop, or takes its commands in and runs. -/
theorem update_cases :
    (KeepsCommands c (c.update p i).controller ∧ (c.update p i).executed = none ∧
        (c.update p i).started = none) ∨
      c.update p i = ((c.readStateInterfaces i).intake p i).runCycle p i := by
  have hread := keepsCommands_readStateInterfaces i c
  unfold update
  dsimp only
  split
  · exact Or.inl ⟨hread.trans (keepsCommands_nonFiniteFault p _), rfl, rfl⟩
  · split
    · exact Or.inl ⟨hread.trans (keepsCommands_estopCycle p i _), rfl, rfl⟩
    · exact Or.inr rfl

/-- A cycle leaves alone what the callbacks write. -/
theorem update_inbox : (c.update p i).controller.inbox = c.inbox := by
  rcases update_cases p i c with ⟨hkeep, -, -⟩ | hrun
  · exact hkeep.inbox
  · rw [hrun, (keepsCommands_runCycle p i _).inbox, dispatch_inbox, intake_inbox]
    rfl

/-- A cycle consumes no Heavy command, or the last one. -/
theorem update_consumedHeavy :
    (c.update p i).controller.consumedHeavyCommandGeneration = c.consumedHeavyCommandGeneration ∨
      (c.update p i).controller.consumedHeavyCommandGeneration =
        c.inbox.heavyCommandGeneration := by
  rcases update_cases p i c with ⟨hkeep, -, -⟩ | hrun
  · exact Or.inl hkeep.consumedHeavy
  · rw [hrun, (keepsCommands_runCycle p i _).consumedHeavy]
    rcases dispatch_consumedHeavy p i ((c.readStateInterfaces i).intake p i) with hkeep | hconsume
    · rw [hkeep]
      rcases intake_consumedHeavy p i (c.readStateInterfaces i) with hkeep | ⟨-, hedge⟩
      · exact Or.inl hkeep
      · exact Or.inr hedge
    · rw [hconsume, intake_inbox]
      exact Or.inr rfl

/-- The command that a cycle acts on comes from a native buffer, or from the Heavy buffer under an
open lease gate, before the cycle has consumed it. -/
theorem update_executed {s : Selection} (h : (c.update p i).executed = some s) :
    (s.source = .safety ∧ s.command = c.inbox.safetyCommandBuffer) ∨
      (s.source = .heavy ∧ s.command = c.inbox.heavyCommandBuffer ∧
        c.inbox.heavyLeaseActive = true ∧
        c.inbox.heavyCommandGeneration ≠ c.consumedHeavyCommandGeneration) ∨
      (s.source = .native ∧ s.command = c.inbox.commandBuffer) := by
  rcases update_cases p i c with ⟨-, hnone, -⟩ | hrun
  · rw [hnone] at h
    exact (Option.some_ne_none s h.symm).elim
  · rw [hrun] at h
    have hcases := selectCommand_cases _ (newCommand_selected _ h)
    rw [intake_inbox] at hcases
    rcases hcases with hsafety | ⟨hsource, hcommand, hopen, hnew⟩ | hnative
    · exact Or.inl hsafety
    · refine Or.inr (Or.inl ⟨hsource, hcommand, hopen, ?_⟩)
      -- under an open gate the intake consumes nothing
      rcases intake_consumedHeavy p i (c.readStateInterfaces i) with hkeep | ⟨hclosed, -⟩
      · rw [hkeep] at hnew
        exact hnew
      · exact absurd (hclosed.symm.trans hopen) Bool.false_ne_true
    · exact Or.inr (Or.inr hnative)

/-- What a cycle leaves behind the brake gate had waited there, is the command of the cycle, or is a
trajectory. -/
theorem dispatch_intake_waits {command : MotionCommand}
    (h : (((c.readStateInterfaces i).intake p i).dispatch p i).2.Waits command) :
    c.Waits command ∨
      (∃ s, ((c.readStateInterfaces i).intake p i).newCommand = some s ∧ s.command = command) ∨
      command = trajectoryCommand := by
  rcases dispatch_waits p i _ h with hwaits | hnew
  · rcases intake_waits p i _ hwaits with hwaits | htrajectory
    · exact Or.inl hwaits
    · exact Or.inr (Or.inr htrajectory)
  · exact Or.inr (Or.inl hnew)

theorem update_waits {command : MotionCommand}
    (h : (c.update p i).controller.Waits command) :
    c.Waits command ∨ (∃ s, (c.update p i).executed = some s ∧ s.command = command) ∨
      command = trajectoryCommand := by
  rcases update_cases p i c with ⟨hkeep, -, -⟩ | hrun
  · exact Or.inl (hkeep.waits command h)
  · rw [hrun] at h ⊢
    exact dispatch_intake_waits p i c ((keepsCommands_runCycle p i _).waits command h)

/-- What a cycle releases from the brake gate had waited there, is the command of the cycle, or is a
trajectory. -/
theorem update_started {command : MotionCommand}
    (h : (c.update p i).started = some command) :
    c.Waits command ∨ (∃ s, (c.update p i).executed = some s ∧ s.command = command) ∨
      command = trajectoryCommand := by
  rcases update_cases p i c with ⟨-, -, hnone⟩ | hrun
  · rw [hnone] at h
    exact (Option.some_ne_none command h.symm).elim
  · rw [hrun] at h ⊢
    exact dispatch_intake_waits p i c (runCycle_started p i _ h)

end LiftController

end Lift

end JointController
