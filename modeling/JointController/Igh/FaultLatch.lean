import JointController.Igh.Cycle

/-!
# The fault latch of the EtherCAT driver

A fault of the armed drives shuts all axes down from the same cycle on, and they stay down until the
application has taken the power request back and raises it again.

* `Trips`: a cycle in which the armed monitor has to fault.
* `ShutDown`: a cycle that shuts all configured axes down where they are.
* `EnergizesOnlyPowered`: a cycle that enables a drive, or resets its fault, only on request.
* `shutDown_of_faulted`, `energizesOnlyPowered`: the step lemmas.
* `shutDown_until_rising`: the fault state lasts along a run.
* `faultLatch`: both rules along every run.
-/

namespace JointController

namespace Igh

variable {cfg : Setup} {d : Driver} {i : Input}

/-! ## The rules -/

/-- Power is requested, and some axis is faulted or, outside the mode switch, some shared arm axis
is not enabled. -/
def Trips (cfg : Setup) (d : Driver) (i : Input) : Prop :=
  i.desire.ecPoweron ≠ 0 ∧
    ((∃ a, cfg.isAxisConfigured a = true ∧ isAxisFaulted (i.feedback a) = true) ∨
      d.group.isModeSwitchMonitorBypassed = false ∧
        ∃ a : Axis, a.val < kModeSwitchAxisCount ∧
          publishedState cfg i.feedback a ≠ stateOperationEnabled)

/-- Every configured axis is commanded to shut down, at its measured position and at rest. -/
def ShutDown (cfg : Setup) (d : Driver) (i : Input) : Prop :=
  (∀ a, cfg.isAxisConfigured a = true → ∃ out, (a, out) ∈ d.outputs cfg i) ∧
    ∀ a out, (a, out) ∈ d.outputs cfg i →
      out.controlword = 0x0006 ∧ out.targetPosition = (i.feedback a).actPos ∧
        (∀ v ∈ out.targetVelocity, v = 0) ∧ out.targetTorque = 0

/-- A drive is enabled, or its fault is reset, only on request and without a forced shutdown. -/
def EnergizesOnlyPowered (cfg : Setup) (d : Driver) (i : Input) (d' : Driver) : Prop :=
  ∀ a out, (a, out) ∈ d.outputs cfg i → Energizes out.controlword →
    i.desire.ecPoweron ≠ 0 ∧ d'.monitor.forceShutdown = false

/-- The power request has not gone and come again. -/
def NotRisen (inputs : List Input) : Prop :=
  inputs.Pairwise fun x y => x.desire.ecPoweron = 0 → y.desire.ecPoweron = 0

/-! ## One cycle -/

theorem mem_outputs {a : Axis} {out : PdoOutput} :
    (a, out) ∈ d.outputs cfg i ↔
      a ∈ cfg.order ∧ out = (d.beforeOutput cfg i).outputOf cfg i a := by
  rw [Driver.outputs_eq, List.mem_map]
  constructor
  · rintro ⟨b, hb, hout⟩
    obtain ⟨rfl, rfl⟩ := Prod.mk_inj.mp hout
    exact ⟨hb, rfl⟩
  · rintro ⟨ha, rfl⟩
    exact ⟨a, ha, rfl⟩

theorem mem_order_iff {a : Axis} : a ∈ cfg.order ↔ cfg.isAxisConfigured a = true := by
  rw [cfg.mem_order, Setup.isAxisConfigured, bne_iff_ne]

/-- In the fault state a cycle shuts all axes down. -/
theorem shutDown_of_faulted (hforce : (d.beforeOutput cfg i).monitor.forceShutdown = true) :
    ShutDown cfg d i := by
  refine ⟨fun a ha => ⟨_, mem_outputs.mpr ⟨mem_order_iff.mpr ha, rfl⟩⟩, ?_⟩
  intro a out hout
  obtain ⟨-, rfl⟩ := mem_outputs.mp hout
  have hcommand : (d.beforeOutput cfg i).commandOf cfg i a =
      Driver.forcedShutdownAxisCommand i a := if_pos hforce
  unfold Driver.outputOf
  rw [hcommand]
  refine ⟨rfl, rfl, fun v hv => ?_, rfl⟩
  simp only [writeAxisCommandToDomain, Driver.forcedShutdownAxisCommand] at hv
  split_ifs at hv
  all_goals first
    | exact (Option.some_inj.mp hv).symm
    | cases hv

/-- Only a requested power energizes an axis. -/
theorem powerOnRequested_of_commandOf {d : Driver} {a : Axis}
    (h : Energizes (d.commandOf cfg i a).1.ecCtrword.toUInt16) :
    d.isDrivePowerOnRequested = true := by
  unfold Driver.commandOf at h
  split_ifs at h with hforce hgroup
  · exact (not_energizes_shutdown h).elim
  · have hcommand : ((d.prepareArmGroupAxisCommand cfg i).toAxis a).1.ecCtrword =
        (d.prepareArmGroupAxisCommand cfg i).group.axisCtrword cfg i.feedback
          d.isDrivePowerOnRequested (ArmGroup.requestedMode d.isDrivePowerOnRequested d.desire)
          a := by
      unfold Driver.prepareArmGroupAxisCommand
      dsimp only
      rw [if_pos hgroup, ArmGroup.ecCtrword_axisCommand]
    rw [hcommand] at h
    obtain hshut | hgate := ArmGroup.axisCtrword_cases cfg i.feedback d.isDrivePowerOnRequested
      (d.prepareArmGroupAxisCommand cfg i).group
      (ArmGroup.requestedMode d.isDrivePowerOnRequested d.desire) a
    · rw [hshut] at h
      exact (not_energizes_shutdown h).elim
    · rw [hgate] at h
      exact powerOnRequested_of_energizes h
  · unfold Driver.fixedCspAxisCommand at h
    rw [ecCtrword_axisModeStateChage] at h
    exact powerOnRequested_of_energizes h

theorem energizesOnlyPowered (d : Driver) (i : Input) :
    EnergizesOnlyPowered cfg d i (d.cycle cfg i).1 := by
  intro a out hout henergizes
  obtain ⟨-, rfl⟩ := mem_outputs.mp hout
  have hpower := powerOnRequested_of_commandOf (d := d.beforeOutput cfg i) henergizes
  unfold Driver.isDrivePowerOnRequested at hpower
  rw [Driver.desire_beforeOutput, Bool.and_eq_true, bne_iff_ne, Bool.not_eq_true'] at hpower
  rw [Driver.monitor_cycle]
  exact hpower

/-! ## Runs -/

theorem consistent_cycle (h : d.monitor.Consistent) (i : Input) :
    (d.cycle cfg i).1.monitor.Consistent := by
  rw [Driver.monitor_cycle, Driver.monitor_beforeOutput]
  exact h.update _

theorem consistent_of_reachable {desire : AppCommands}
    (h : Runs.Reachable (Driver.step cfg) (Driver.initial desire) d) : d.monitor.Consistent := by
  have hinitial : (Driver.initial desire).monitor.Consistent := Monitor.consistent_initial
  refine h.induction (I := fun d => d.monitor.Consistent) hinitial ?_
  intro s l s' hs hstep
  obtain rfl := Option.some_inj.mp hstep
  exact consistent_cycle hs l

/-- The fault state lasts until power was off and rises again. -/
theorem shutDown_until_rising {later : List Input} :
    ∀ {d : Driver}, d.monitor.Consistent → d.monitor.state = .faulted →
      (d.monitor.seenPoweroffAfterFault = true → ∀ j ∈ later, j.desire.ecPoweron = 0) →
      NotRisen later →
      Runs.Throughout (Driver.step cfg) (fun d i _ => ShutDown cfg d i) d later := by
  induction later with
  | nil => exact fun _ _ _ _ => trivial
  | cons j later ih =>
    intro d hd hfaulted hseen hrisen
    obtain ⟨hj, hlater⟩ := List.pairwise_cons.mp hrisen
    -- The fault state lasts, and what was seen does not allow a later rise.
    have hnext : (d.beforeOutput cfg j).monitor.state = .faulted ∧
        ((d.beforeOutput cfg j).monitor.seenPoweroffAfterFault = true →
          ∀ k ∈ later, k.desire.ecPoweron = 0) := by
      rw [Driver.monitor_beforeOutput]
      by_cases hoff : j.desire.ecPoweron = 0
      · have hpower : (monitorInput cfg j d.group.isModeSwitchMonitorBypassed).powerOnRequested =
            false := bne_eq_false_iff_eq.mpr hoff
        exact ⟨d.monitor.faulted_of_poweroff _ hfaulted hpower, fun _ k hk => hj k hk hoff⟩
      · have hpower : (monitorInput cfg j d.group.isModeSwitchMonitorBypassed).powerOnRequested =
            true := bne_iff_ne.mpr hoff
        have hunseen : d.monitor.seenPoweroffAfterFault = false := by
          cases h : d.monitor.seenPoweroffAfterFault with
          | false => rfl
          | true => exact (hoff (hseen h j List.mem_cons_self)).elim
        obtain ⟨hstate, hstill⟩ := d.monitor.faulted_of_unseen _ hfaulted hpower hunseen
        refine ⟨hstate, fun h => ?_⟩
        rw [hstill] at h
        cases h
    have hbefore : (d.beforeOutput cfg j).monitor.Consistent := by
      rw [Driver.monitor_beforeOutput]
      exact hd.update _
    intro d' hd'
    obtain rfl := Option.some_inj.mp hd'
    refine ⟨shutDown_of_faulted (hbefore.forced.mpr hnext.1), ?_⟩
    refine ih (consistent_cycle hd j) ?_ ?_ hlater
    · rw [Driver.monitor_cycle]
      exact hnext.1
    · rw [Driver.monitor_cycle]
      exact hnext.2

/-- A cycle that trips the armed monitor leads to the fault state. -/
theorem faulted_of_trips (hd : d.monitor.Consistent) (harmed : d.monitor.state = .armed)
    (htrips : Trips cfg d i) :
    (d.beforeOutput cfg i).monitor.state = .faulted ∧
      (d.beforeOutput cfg i).monitor.seenPoweroffAfterFault = false := by
  obtain ⟨hpower, htrip⟩ := htrips
  rw [Driver.monitor_beforeOutput]
  refine d.monitor.faulted_of_trip _ hd harmed (bne_iff_ne.mpr hpower) ?_
  obtain hfault | ⟨hbypass, habnormal⟩ := htrip
  · exact Or.inl (decide_eq_true hfault)
  · refine Or.inr ?_
    have hdecided : sharedMotorNotOperationEnabled cfg i.feedback = true :=
      decide_eq_true habnormal
    unfold monitorInput findFirstSharedMotorNotOperationEnabled
    rw [hbypass, hdecided]
    rfl

/-- Along every run a drive is enabled, or its fault is reset, only on request; and from the cycle
in which the armed monitor trips, all axes are shut down in every cycle until power was off and its
request rises again. -/
theorem faultLatch (cfg : Setup) (desire : AppCommands) :
    (∀ inputs, Runs.Throughout (Driver.step cfg) (EnergizesOnlyPowered cfg)
      (Driver.initial desire) inputs) ∧
    ∀ d trigger later, Runs.Reachable (Driver.step cfg) (Driver.initial desire) d →
      d.monitor.state = .armed → Trips cfg d trigger → NotRisen (trigger :: later) →
      Runs.Throughout (Driver.step cfg) (fun d i _ => ShutDown cfg d i) d (trigger :: later) := by
  constructor
  · intro inputs
    refine Runs.throughout_of_invariant (I := fun _ => True) (fun _ _ _ _ _ => trivial) ?_ trivial
    intro s l s' _ hstep
    obtain rfl := Option.some_inj.mp hstep
    exact energizesOnlyPowered s l
  · intro d trigger later hreach harmed htrips hrisen d' hd'
    obtain rfl := Option.some_inj.mp hd'
    have hd := consistent_of_reachable hreach
    obtain ⟨hstate, hunseen⟩ := faulted_of_trips hd harmed htrips
    have hbefore : (d.beforeOutput cfg trigger).monitor.Consistent := by
      rw [Driver.monitor_beforeOutput]
      exact hd.update _
    refine ⟨shutDown_of_faulted (hbefore.forced.mpr hstate), ?_⟩
    refine shutDown_until_rising (consistent_cycle hd trigger) ?_ ?_
      (List.pairwise_cons.mp hrisen).2
    · rw [Driver.monitor_cycle]
      exact hstate
    · intro hseen
      rw [Driver.monitor_cycle, hunseen] at hseen
      cases hseen

/-! ## A fault of an armed arm -/

/-- Fourteen arm axes with drives of the profile `EyouPh`. -/
def armSetup : Setup where
  profile := fun a => if a.val < kModeSwitchAxisCount then .eyouPh else .none
  order := (List.finRange 16).filter fun a => decide (a.val < kModeSwitchAxisCount)
  nodup := (List.nodup_finRange 16).filter _
  mem_order := by decide

/-- An enabled drive in CSP at a standstill. -/
def enabledFeedback (position : Int32) : Feedback := ⟨position, 0, axisModeCsp, 0x27, 0⟩

/-- The application asks all axes to hold a position in a mode. -/
def holdRequest (poweron mode : UInt8) (position : Int32) : AppCommands where
  ecPoweron := poweron
  axisCtr := fun _ => ⟨mode, 0, position, 0, 0⟩

/-- All drives are enabled, and power is requested. -/
def enabledCycle : Input := ⟨fun _ => enabledFeedback 7, holdRequest 1 axisModeCsp 9⟩

/-- The drive of axis 3 reports a fault. -/
def faultCycle : Input where
  feedback := fun a => if a = 3 then ⟨7, 0, axisModeCsp, 0x08, 0⟩ else enabledFeedback 7
  desire := holdRequest 1 axisModeCsp 9

/-- A fault after the drives were enabled, and two more cycles. -/
theorem faultLatch_sample :
    ∃ d, Runs.exec (Driver.step armSetup) (Driver.initial (holdRequest 0 axisModeCsp 0))
        [enabledCycle] = some d ∧
      Runs.Throughout (Driver.step armSetup) (fun d i _ => ShutDown armSetup d i) d
        [faultCycle, enabledCycle, enabledCycle] := by
  obtain ⟨d, hd, hreach, harmed⟩ := Runs.reachable_of_run (Driver.step armSetup)
    (Driver.initial (holdRequest 0 axisModeCsp 0)) [enabledCycle]
    (fun d => d.monitor.state == .armed) (by decide +kernel)
  refine ⟨d, hd, (faultLatch armSetup _).2 d faultCycle [enabledCycle, enabledCycle] hreach
    (eq_of_beq harmed) ⟨by decide, Or.inl ⟨3, by decide, by decide⟩⟩ ?_⟩
  simp [NotRisen, faultCycle, enabledCycle, holdRequest]

end Igh

end JointController
