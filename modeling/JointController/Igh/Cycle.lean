import JointController.Igh.ArmGroup
import JointController.Igh.Monitor
import JointController.Library.Runs

/-!
# The cycle of the EtherCAT driver

A cycle reads the feedback and the commands of the application, updates the shared motor monitor,
and writes the command of every configured axis.  The first axis of the arm group prepares the
commands of the whole group.

* `Driver`, `Driver.cycle`: the memory of the driver, and a cycle with what it writes.
* `Driver.outputOf`: what a cycle writes to an axis, in terms of the start of its output stage.
* `Driver.step`, `Driver.outputs`: the cycle as a step.
* `Driver.outputs_eq`: a cycle writes this to each configured axis.
-/

namespace JointController

namespace Igh

/-- The memory of the driver; `toAxis` holds the last command of each axis with its mode state. -/
structure Driver where
  monitor : Monitor
  group : ArmGroup
  desire : AppCommands
  toAxis : Axis → AxisCommand × AxisModeState
  groupPrepared : Bool

/-- A command that was never written. -/
def AxisCommand.zero : AxisCommand := ⟨0, 0, 0, 0, 0⟩

namespace Driver

variable (cfg : Setup) (i : Input) (d : Driver)

/-- The driver at its start. -/
def initial (desire : AppCommands) : Driver where
  monitor := .initial
  group := .initial
  desire := desire
  toAxis := fun _ => (.zero, .init)
  groupPrepared := false

/-- `IsDrivePowerOnRequested`. -/
def isDrivePowerOnRequested : Bool := d.desire.ecPoweron != 0 && !d.monitor.forceShutdown

/-- `RefreshDesiredCommandsFromSharedMemory`. -/
def refreshDesired : Driver := { d with desire := i.desire }

/-- `ResetControlContextsForForcedShutdown`. -/
def resetControlContexts : Driver :=
  { d with
    group := { d.group.clearHoldContext cfg with powerWasRequested := false }
    groupPrepared := false }

/-- `UpdateSharedMotorMonitorState`. -/
def updateSharedMotorMonitorState : Driver :=
  let monitor := d.monitor.update (monitorInput cfg i d.group.isModeSwitchMonitorBypassed)
  let d := { d with monitor := monitor }
  if monitor.state = .faulted then d.resetControlContexts cfg else d

/-! ## The output stage -/

/-- `PrepareForcedShutdownAxisCommand`. -/
def forcedShutdownAxisCommand (a : Axis) : AxisCommand × AxisModeState :=
  let f := i.feedback a
  let mode :=
    if f.modeWord ≠ axisModeCsp ∧ f.modeWord ≠ axisModeCst ∧ f.modeWord ≠ axisModeCsv then
      axisModeCsp
    else f.modeWord
  (⟨mode, controlWordShutdown, f.actPos, 0, 0⟩, .success)

/-- `PrepareFixedCspAxisCommand`. -/
def fixedCspAxisCommand (a : Axis) : AxisCommand × AxisModeState :=
  let f := i.feedback a
  let target := (d.desire.axisCtr a).axisPosition
  axisModeStateChage f axisModeCsp target
    ⟨axisModeCsp, applyAxisEnableGate d.isDrivePowerOnRequested f, target, 0, 0⟩

/-- The command of an axis is set. -/
def setAxis (a : Axis) (command : AxisCommand × AxisModeState) : Driver :=
  { d with toAxis := fun b => if b = a then command else d.toAxis b }

/-- `PrepareArmGroupAxisCommand`. -/
def prepareArmGroupAxisCommand : Driver :=
  let power := d.isDrivePowerOnRequested
  let mode := ArmGroup.requestedMode power d.desire
  let prepared := d.group.prepare cfg i.feedback power d.desire
  { d with
    group := prepared.1
    desire := prepared.2
    toAxis := fun a =>
      if cfg.isModeSwitchAxis a then
        prepared.1.axisCommand cfg i.feedback power mode prepared.2 a
      else d.toAxis a }

/-- `UpdateAxisCommandState`. -/
def updateAxisCommandState (a : Axis) : Driver :=
  if d.monitor.forceShutdown then d.setAxis a (forcedShutdownAxisCommand i a)
  else if cfg.isModeSwitchAxis a then
    if d.groupPrepared then d
    else { d.prepareArmGroupAxisCommand cfg i with groupPrepared := true }
  else d.setAxis a (d.fixedCspAxisCommand i a)

/-- What goes into the process data of an axis. -/
def written (a : Axis) : PdoOutput :=
  writeAxisCommandToDomain (cfg.profile a) (d.toAxis a).1 (d.toAxis a).2

/-- `WriteMasterOutputs`, for the slaves of both masters. -/
def writeMasterOutputs (d : Driver) : List Axis → Driver × List (Axis × PdoOutput)
  | [] => (d, [])
  | a :: as =>
    let d := d.updateAxisCommandState cfg i a
    let rest := writeMasterOutputs d as
    (rest.1, (a, d.written cfg a) :: rest.2)

/-- The driver at the start of the output stage. -/
def beforeOutput : Driver :=
  { (d.refreshDesired i).updateSharedMotorMonitorState cfg i with groupPrepared := false }

/-- A cycle of `RunCyclicLoop`, with what it writes. -/
def cycle : Driver × List (Axis × PdoOutput) :=
  (d.beforeOutput cfg i).writeMasterOutputs cfg i cfg.order

/-- The cycle as a step. -/
def step (cfg : Setup) (d : Driver) (i : Input) : Option Driver := some (d.cycle cfg i).1

/-- What a cycle writes. -/
def outputs : List (Axis × PdoOutput) := (d.cycle cfg i).2

/-! ## What the output stage writes -/

/-- The command of an axis, from the start of the output stage. -/
def commandOf (a : Axis) : AxisCommand × AxisModeState :=
  if d.monitor.forceShutdown then forcedShutdownAxisCommand i a
  else if cfg.isModeSwitchAxis a then (d.prepareArmGroupAxisCommand cfg i).toAxis a
  else d.fixedCspAxisCommand i a

/-- What the stage writes to an axis. -/
def outputOf (a : Axis) : PdoOutput :=
  writeAxisCommandToDomain (cfg.profile a) (d.commandOf cfg i a).1 (d.commandOf cfg i a).2

/-- The stage may have prepared the group, and otherwise has changed last commands only. -/
structure Within (start now : Driver) : Prop where
  monitor : now.monitor = start.monitor
  unprepared : now.groupPrepared = false → now.group = start.group ∧ now.desire = start.desire
  prepared : now.groupPrepared = true →
    now.group = (start.prepareArmGroupAxisCommand cfg i).group ∧
      now.desire = (start.prepareArmGroupAxisCommand cfg i).desire ∧
      ∀ a, cfg.isModeSwitchAxis a = true →
        now.toAxis a = (start.prepareArmGroupAxisCommand cfg i).toAxis a

variable {cfg i} {start now : Driver} {a : Axis}

theorem Within.refl (hstart : start.groupPrepared = false) : Within cfg i start start where
  monitor := rfl
  unprepared := fun _ => ⟨rfl, rfl⟩
  prepared := fun h => by
    rw [hstart] at h
    cases h

theorem toAxis_setAxis (command : AxisCommand × AxisModeState) :
    (d.setAxis a command).toAxis a = command := if_pos rfl

/-- The command of a fixed axis does not depend on the group. -/
theorem Within.fixedCspAxisCommand (h : Within cfg i start now)
    (ha : cfg.isModeSwitchAxis a = false) :
    now.fixedCspAxisCommand i a = start.fixedCspAxisCommand i a := by
  have hdesire : now.desire.ecPoweron = start.desire.ecPoweron ∧
      now.desire.axisCtr a = start.desire.axisCtr a := by
    cases hprepared : now.groupPrepared with
    | false =>
      rw [(h.unprepared hprepared).2]
      exact ⟨rfl, rfl⟩
    | true =>
      rw [(h.prepared hprepared).2.1]
      obtain ⟨hpower, hctr⟩ := ArmGroup.desire_prepare cfg i.feedback
        start.isDrivePowerOnRequested start.group start.desire
      exact ⟨hpower, hctr a ha⟩
  unfold Driver.fixedCspAxisCommand isDrivePowerOnRequested
  rw [h.monitor, hdesire.1, hdesire.2]

/-- Setting the command of an axis outside the group stays within the stage. -/
theorem Within.setAxis (h : Within cfg i start now) (command : AxisCommand × AxisModeState)
    (ha : cfg.isModeSwitchAxis a = false) : Within cfg i start (now.setAxis a command) where
  monitor := h.monitor
  unprepared := h.unprepared
  prepared := fun hprepared => by
    obtain ⟨hgroup, hdesire, htoAxis⟩ := h.prepared hprepared
    refine ⟨hgroup, hdesire, fun b hb => ?_⟩
    have hne : b ≠ a := by
      rintro rfl
      rw [ha] at hb
      cases hb
    exact (if_neg hne).trans (htoAxis b hb)

/-- An axis gets its command, and the stage goes on. -/
theorem Within.update (h : Within cfg i start now) (hforce : start.monitor.forceShutdown = false)
    (a : Axis) :
    Within cfg i start (now.updateAxisCommandState cfg i a) ∧
      (now.updateAxisCommandState cfg i a).toAxis a = start.commandOf cfg i a ∧
      (cfg.isModeSwitchAxis a = true ∨ now.groupPrepared = true →
        (now.updateAxisCommandState cfg i a).groupPrepared = true) := by
  have hnow : now.monitor.forceShutdown = false := by
    rw [h.monitor]
    exact hforce
  unfold updateAxisCommandState commandOf
  rw [hnow, hforce]
  simp only [Bool.false_eq_true, if_false]
  cases hgroup : cfg.isModeSwitchAxis a with
  | true =>
    simp only [if_true]
    cases hprepared : now.groupPrepared with
    | true =>
      simp only [if_true]
      exact ⟨h, (h.prepared hprepared).2.2 a hgroup, fun _ => hprepared⟩
    | false =>
      obtain ⟨hg, hd⟩ := h.unprepared hprepared
      have hpower : now.isDrivePowerOnRequested = start.isDrivePowerOnRequested := by
        unfold isDrivePowerOnRequested
        rw [hd, h.monitor]
      have hcommand : ∀ b, cfg.isModeSwitchAxis b = true →
          (now.prepareArmGroupAxisCommand cfg i).toAxis b =
            (start.prepareArmGroupAxisCommand cfg i).toAxis b := by
        intro b hb
        unfold prepareArmGroupAxisCommand
        simp only [hb, if_true, hg, hd, hpower]
      simp only [Bool.false_eq_true, if_false]
      refine ⟨⟨h.monitor, fun hfalse => (by cases hfalse), fun _ => ⟨?_, ?_, hcommand⟩⟩,
        hcommand a hgroup, fun _ => trivial⟩
      · unfold prepareArmGroupAxisCommand
        simp only [hg, hd, hpower]
      · unfold prepareArmGroupAxisCommand
        simp only [hg, hd, hpower]
  | false =>
    simp only [Bool.false_eq_true, if_false]
    refine ⟨h.setAxis _ hgroup, ?_, ?_⟩
    · rw [toAxis_setAxis]
      exact h.fixedCspAxisCommand hgroup
    · rintro (hfalse | hprepared)
      · cases hfalse
      · exact hprepared

theorem Within.writeMasterOutputs (hforce : start.monitor.forceShutdown = false)
    (as : List Axis) : ∀ {now : Driver}, Within cfg i start now →
      (now.writeMasterOutputs cfg i as).2 = as.map (fun a => (a, start.outputOf cfg i a)) ∧
        Within cfg i start (now.writeMasterOutputs cfg i as).1 ∧
        ((∃ a ∈ as, cfg.isModeSwitchAxis a = true) ∨ now.groupPrepared = true →
          (now.writeMasterOutputs cfg i as).1.groupPrepared = true) := by
  induction as with
  | nil =>
    intro now h
    refine ⟨rfl, h, ?_⟩
    rintro (⟨a, ha, -⟩ | hprepared)
    · cases ha
    · exact hprepared
  | cons a as ih =>
    intro now h
    obtain ⟨hwithin, hcommand, hprepares⟩ := h.update hforce a
    obtain ⟨houtputs, hrest, hrestPrepared⟩ := ih hwithin
    have hwritten : (now.updateAxisCommandState cfg i a).written cfg a =
        start.outputOf cfg i a := by
      unfold written outputOf
      rw [hcommand]
    refine ⟨?_, hrest, fun hgroup => hrestPrepared ?_⟩
    · rw [List.map_cons, ← houtputs, ← hwritten]
      rfl
    · obtain ⟨b, hb, hbgroup⟩ | hprepared := hgroup
      · obtain rfl | hb := List.mem_cons.mp hb
        · exact Or.inr (hprepares (Or.inl hbgroup))
        · exact Or.inl ⟨b, hb, hbgroup⟩
      · exact Or.inr (hprepares (Or.inr hprepared))

/-- In a forced shutdown the stage writes the same to all axes, and leaves the rest alone. -/
theorem writeMasterOutputs_forced (as : List Axis) :
    ∀ {d : Driver}, d.monitor.forceShutdown = true →
      (d.writeMasterOutputs cfg i as).2 = as.map (fun a => (a, d.outputOf cfg i a)) ∧
        (d.writeMasterOutputs cfg i as).1.monitor = d.monitor ∧
        (d.writeMasterOutputs cfg i as).1.group = d.group := by
  induction as with
  | nil => exact fun _ => ⟨rfl, rfl, rfl⟩
  | cons a as ih =>
    intro d hforce
    have hupdate : d.updateAxisCommandState cfg i a =
        d.setAxis a (forcedShutdownAxisCommand i a) := by
      unfold updateAxisCommandState
      rw [hforce]
      rfl
    have hcommand : ∀ b, (d.setAxis a (forcedShutdownAxisCommand i a)).outputOf cfg i b =
        d.outputOf cfg i b := by
      intro b
      have hforce' : (d.setAxis a (forcedShutdownAxisCommand i a)).monitor.forceShutdown = true :=
        hforce
      unfold outputOf commandOf
      rw [hforce, hforce']
      rfl
    have hwritten : (d.setAxis a (forcedShutdownAxisCommand i a)).written cfg a =
        d.outputOf cfg i a := by
      unfold written outputOf commandOf
      rw [hforce, toAxis_setAxis]
      rfl
    obtain ⟨houtputs, hmonitor, hgroup⟩ :=
      ih (d := d.setAxis a (forcedShutdownAxisCommand i a)) hforce
    simp only [writeMasterOutputs, hupdate, houtputs, List.map_cons, hwritten, hcommand]
    exact ⟨trivial, hmonitor, hgroup⟩

variable (cfg i)

/-- The monitor of a cycle sees the mode switch as the last cycle has left it. -/
theorem monitor_beforeOutput :
    (d.beforeOutput cfg i).monitor =
      d.monitor.update (monitorInput cfg i d.group.isModeSwitchMonitorBypassed) := by
  unfold beforeOutput updateSharedMotorMonitorState
  dsimp only
  split_ifs <;> rfl

theorem desire_beforeOutput : (d.beforeOutput cfg i).desire = i.desire := by
  unfold beforeOutput updateSharedMotorMonitorState
  dsimp only
  split_ifs <;> rfl

/-- Without a fault the monitor leaves the group alone. -/
theorem group_beforeOutput (h : (d.beforeOutput cfg i).monitor.state ≠ .faulted) :
    (d.beforeOutput cfg i).group = d.group := by
  rw [monitor_beforeOutput] at h
  unfold beforeOutput updateSharedMotorMonitorState
  dsimp only
  split_ifs with hfaulted
  · exact (h hfaulted).elim
  · rfl

/-- A cycle writes to each configured axis, in the order of the slaves, what the start of its output
stage says. -/
theorem outputs_eq :
    d.outputs cfg i = cfg.order.map fun a => (a, (d.beforeOutput cfg i).outputOf cfg i a) := by
  unfold outputs cycle
  cases hforce : (d.beforeOutput cfg i).monitor.forceShutdown with
  | true => exact (writeMasterOutputs_forced cfg.order hforce).1
  | false => exact ((Within.refl rfl).writeMasterOutputs hforce cfg.order).1

theorem monitor_cycle : (d.cycle cfg i).1.monitor = (d.beforeOutput cfg i).monitor := by
  unfold cycle
  cases hforce : (d.beforeOutput cfg i).monitor.forceShutdown with
  | true => exact (writeMasterOutputs_forced cfg.order hforce).2.1
  | false => exact ((Within.refl rfl).writeMasterOutputs hforce cfg.order).2.1.monitor

theorem group_cycle_of_forced (hforce : (d.beforeOutput cfg i).monitor.forceShutdown = true) :
    (d.cycle cfg i).1.group = (d.beforeOutput cfg i).group :=
  (writeMasterOutputs_forced cfg.order hforce).2.2

/-- Without a forced shutdown a cycle prepares the arm group, if there is one. -/
theorem group_cycle (hforce : (d.beforeOutput cfg i).monitor.forceShutdown = false)
    (hgroup : ∃ a, cfg.isModeSwitchAxis a = true) :
    (d.cycle cfg i).1.group =
      ((d.beforeOutput cfg i).prepareArmGroupAxisCommand cfg i).group := by
  obtain ⟨a, ha⟩ := hgroup
  obtain ⟨-, hwithin, hprepared⟩ := (Within.refl rfl).writeMasterOutputs hforce cfg.order
  exact (hwithin.prepared (hprepared (Or.inl ⟨a, Setup.mem_order_of_modeSwitch ha, ha⟩))).1

end Driver

end Igh

end JointController
