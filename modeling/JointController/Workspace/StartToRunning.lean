import JointController.Workspace.Calls

/-!
# A START from its command to RUNNING

A START stops every other stack, waits until nothing of it is left, starts the stack of its mode and
waits until that is ready.

* `Prepared`, `prepared_prepareStart`: the units after everything else has been stopped.
* `StartCondition`: from which states of the units, and with which delays, the stages fit together.
  The wait for the end looks at all units: at the target, which is not stopped if it is active, and
  at RViz, which is not stopped for the simulation.  The wait for the stack gives up at once if the
  unit does not show that it is active.
* `endsRunning_iff`: under this condition, and only then, a START ends with its unit as the only
  active control unit, after polls without issues over an unbroken interval.
* `not_endsRunning_failedReal`: with the target active, a failed stack makes a START fail.
-/

namespace JointController.Workspace

open StableWait

section

variable {p : Parameters} (h : Host p)

/-- The control units that do not belong to a mode, in the order in which they are stopped. -/
def otherUnits : Mode → List ManagedUnit
  | .simulation => [.bootRobot, .realStack, .legacyStack]
  | .real => [.bootRobot, .simulationStack, .legacyStack]

theorem mem_otherUnits {mode : Mode} {u : ManagedUnit} :
    u ∈ otherUnits mode ↔ u.isControl = true ∧ u ≠ unitForMode mode := by
  cases mode <;> cases u <;> decide

theorem nodup_otherUnits (mode : Mode) : (otherUnits mode).Nodup := by
  cases mode <;> decide

theorem isControl_unitForMode (mode : Mode) : (unitForMode mode).isControl = true := by
  cases mode <;> rfl

/-- Before other stacks are stopped. -/
def stopTargetAndRviz (mode : Mode) (w : World) : Preparation :=
  let s := stopFailedTarget h (unitForMode mode) w
  if mode ≠ .simulation then { s with world := stopSimulationRviz h s.world } else s

theorem prepareStart_eq (mode : Mode) (w : World) : prepareStart h mode w =
    { stopAll h (otherUnits mode) (stopTargetAndRviz h mode w) with
      world := resetFailedManagedUnits h
        (stopAll h (otherUnits mode) (stopTargetAndRviz h mode w)).world } := by
  unfold prepareStart
  dsimp only
  cases mode with
  | simulation =>
    rw [show (Mode.simulation != .simulation) = false from rfl, stopPrevious_of_not]
    rfl
  | real =>
    rw [show (Mode.real != .real) = false from rfl, stopPrevious_of_not]
    rfl

/-! ## Everything else is stopped -/

variable {h}
variable {mode : Mode} {states : ManagedUnit → UnitState} {w : World}

/-- Another stack is active or has failed. -/
def HasPrevious (mode : Mode) (states : ManagedUnit → UnitState) : Prop :=
  ∃ u ∈ otherUnits mode, states u ≠ .inactive

/-- RViz is not stopped: it is active, and neither the mode nor a failed target stops it. -/
def KeepsRviz (mode : Mode) (states : ManagedUnit → UnitState) : Prop :=
  mode = .simulation ∧ states .rviz = .active ∧ states (unitForMode mode) ≠ .failed

/-- The units after everything else has been stopped. -/
structure Prepared (h : Host p) (mode : Mode) (states : ManagedUnit → UnitState) (w : World)
    (s : Preparation) : Prop where
  result : s.result = 0
  stopped : s.stoppedPreviousStack = true ↔ HasPrevious mode states
  lowers : Lowers h w s.world
  target_up : states (unitForMode mode) = .active →
    Settled (s.world.units (unitForMode mode)) .active
  rviz_up : KeepsRviz mode states → Settled (s.world.units .rviz) .active
  falling : ∀ u, (u = unitForMode mode → states u ≠ .active) →
    (u = .rviz → ¬ KeepsRviz mode states) →
    Falling (s.world.units u) (s.world.now + h.stopWithin)

/-- A stack does not touch the other control units. -/
theorem not_touches_control {u v : ManagedUnit} (hv : v.isControl = true) (hne : v ≠ u) :
    ¬ Touches u v := by
  rw [touches_iff_of_control hv]
  exact hne

/-- Only the simulation touches RViz. -/
theorem not_touches_rviz {u : ManagedUnit} (hu : u ≠ .rviz ∧ u ≠ .simulationStack) :
    ¬ Touches u .rviz := by
  rintro (hsame | hpart)
  · exact hu.1 hsame.symm
  · exact hu.2 (List.mem_singleton.mp hpart)

/-- What holds before the other stacks are stopped. -/
theorem stopTargetAndRviz_spec (mode : Mode) (hs : ∀ u, Settled (w.units u) (states u)) :
    (stopTargetAndRviz h mode w).result = 0 ∧
      (stopTargetAndRviz h mode w).stoppedPreviousStack = false ∧
      Lowers h w (stopTargetAndRviz h mode w).world ∧
      (∀ u : ManagedUnit, u.isControl = true →
        (u = unitForMode mode → states u ≠ .failed) →
        Settled ((stopTargetAndRviz h mode w).world.units u) (states u)) ∧
      (KeepsRviz mode states →
        Settled ((stopTargetAndRviz h mode w).world.units .rviz) .active) ∧
      (¬ KeepsRviz mode states → Falls ((stopTargetAndRviz h mode w).world.units .rviz)
        ((stopTargetAndRviz h mode w).world.now + h.stopWithin)) := by
  obtain ⟨hresult, hnoted, hlowers, hframe, hfalls⟩ :=
    stopFailedTarget_spec (h := h) (hs (unitForMode mode))
  have hcontrol : ∀ u : ManagedUnit, u.isControl = true →
      (u = unitForMode mode → states u ≠ .failed) →
      Settled ((stopFailedTarget h (unitForMode mode) w).world.units u) (states u) := by
    intro u hu hkeep
    refine (hs u).watched (hframe u fun hfail => ?_)
    rw [touches_iff_of_control hu]
    rintro rfl
    exact hkeep rfl hfail
  cases mode with
  | simulation =>
    refine ⟨hresult, hnoted, hlowers, hcontrol, ?_, ?_⟩
    · rintro ⟨-, hactive, hkeep⟩
      rw [← hactive]
      exact (hs .rviz).watched (hframe .rviz fun hfail => absurd hfail hkeep)
    · intro hkeep
      by_cases hactive : states .rviz = .active
      · have hfail : states (unitForMode .simulation) = .failed := by
          by_contra hne
          exact hkeep ⟨rfl, hactive, hne⟩
        have hup := hs .rviz
        rw [hactive] at hup
        exact hfalls hfail .rviz (Or.inr (by decide)) hup
      · exact hlowers.falls .rviz ((hs .rviz).falls hactive _)
  | real =>
    have hstage := stopSimulationRviz_stage (h := h)
      (w := (stopFailedTarget h .realStack w).world)
    have hrviz : Settled ((stopFailedTarget h .realStack w).world.units .rviz) (states .rviz) :=
      (hs .rviz).watched (hframe .rviz fun _ => not_touches_rviz (by decide))
    refine ⟨hresult, hnoted, hlowers.trans hstage.lowers, fun u hu hkeep => ?_, ?_, fun _ => ?_⟩
    · refine (hcontrol u hu hkeep).watched (hstage.frame u ?_)
      refine not_touches_control hu ?_
      rintro rfl
      cases hu
    · rintro ⟨hmode, -⟩
      cases hmode
    · exact hstage.falls _ hrviz

theorem prepared_prepareStart (hs : ∀ u, Settled (w.units u) (states u)) :
    Prepared h mode states w (prepareStart h mode w) := by
  obtain ⟨hresult, hnoted, hlowers, hcontrol, hkeep, hrviz⟩ :=
    stopTargetAndRviz_spec (h := h) mode hs
  have hothers : ∀ u ∈ otherUnits mode,
      Settled ((stopTargetAndRviz h mode w).world.units u) (states u) := by
    intro u hu
    obtain ⟨hu, hne⟩ := mem_otherUnits.mp hu
    exact hcontrol u hu fun htarget => absurd htarget hne
  obtain ⟨hallResult, hallNoted, hall, hframe, hfalls⟩ := stopAll_spec (h := h) hresult
    (fun u hu => (mem_otherUnits.mp hu).1) (nodup_otherUnits mode) hothers
  obtain ⟨hresetLowers, hresetUp, hresetFalling⟩ := resetFailedManagedUnits_spec (h := h)
    (stopAll h (otherUnits mode) (stopTargetAndRviz h mode w)).world
  rw [prepareStart_eq]
  generalize stopAll h (otherUnits mode) (stopTargetAndRviz h mode w) = s
    at hallResult hallNoted hall hframe hfalls hresetLowers hresetUp hresetFalling
  generalize resetFailedManagedUnits h s.world = cleared at hresetLowers hresetUp hresetFalling
  generalize stopTargetAndRviz h mode w = before
    at hresult hnoted hlowers hcontrol hkeep hrviz hothers hallNoted hall hframe
  have hdown := hlowers.trans hall
  have htarget : ∀ u ∈ otherUnits mode, ¬ Touches u (unitForMode mode) := fun u hu =>
    not_touches_control (isControl_unitForMode mode) (mem_otherUnits.mp hu).2.symm
  refine ⟨hallResult, ?_, hdown.trans hresetLowers, fun hup => ?_, fun hrvizUp => ?_,
    fun u hu hrvizDown => hresetFalling u ?_⟩
  · rw [hallNoted, hnoted, or_iff_right Bool.false_ne_true]
    rfl
  · have hbefore := hcontrol _ (isControl_unitForMode mode)
      fun _ => by rw [hup]; decide
    rw [hup] at hbefore
    exact hresetUp _ (hbefore.watched (hframe _ htarget))
  · refine hresetUp _ ((hkeep hrvizUp).watched (hframe .rviz fun u hu => not_touches_rviz ?_))
    obtain ⟨rfl, -⟩ := hrvizUp
    obtain ⟨hu, hne⟩ := mem_otherUnits.mp hu
    refine ⟨?_, hne⟩
    rintro rfl
    cases hu
  · by_cases hmem : u ∈ otherUnits mode
    · exact hfalls u hmem
    · by_cases hmode : u = unitForMode mode
      · exact hdown.falls u ((hs u).falls (hu hmode) _)
      · have hcontrolled : u.isControl = false := by
          by_contra hyes
          exact hmem (mem_otherUnits.mpr ⟨(Bool.not_eq_false _).mp hyes, hmode⟩)
        obtain rfl : u = .rviz := by
          cases u with
          | rviz => rfl
          | _ => cases hcontrolled
        exact hall.falls .rviz (hrviz (hrvizDown rfl))

/-! ## The target -/

/-- Only the target may be up, and a start shows later. -/
structure Startable (h : Host p) (mode : Mode) (states : ManagedUnit → UnitState) (w : World) :
    Prop where
  others : ∀ u : ManagedUnit, u.isControl = true → u ≠ unitForMode mode →
    Settled (w.units u) .inactive
  target_up : states (unitForMode mode) = .active →
    Settled (w.units (unitForMode mode)) .active
  target_down : states (unitForMode mode) ≠ .active →
    (w.units (unitForMode mode)).goal = .inactive ∧ (w.units (unitForMode mode)).shown ≠ .active
  graph : w.graphDue ≤ w.now + max h.stopWithin h.startWithin
  calls : w.calls .start (unitForMode mode) = 0
  started : w.lifecycleStartedAt ≤ w.now

variable {s : Preparation}

/-- Where a START begins. -/
structure Begins (states : ManagedUnit → UnitState) (w : World) : Prop where
  settled : ∀ u, Settled (w.units u) (states u)
  graph : w.graphDue ≤ w.now
  calls : w.calls = fun _ _ => 0
  started : w.lifecycleStartedAt ≤ w.now

theorem Prepared.graph (hprepared : Prepared h mode states w s) (hw : Begins states w) :
    s.world.graphDue ≤ s.world.now + h.stopWithin :=
  hprepared.lowers.graph (Nat.le_trans hw.graph (Nat.le_add_right _ _))

theorem Prepared.started (hprepared : Prepared h mode states w s) (hw : Begins states w) :
    s.world.lifecycleStartedAt ≤ s.world.now := by
  rw [hprepared.lowers.started]
  exact Nat.le_trans hw.started hprepared.lowers.now_le

theorem Prepared.calls (hprepared : Prepared h mode states w s) (hw : Begins states w)
    (u : ManagedUnit) : s.world.calls .start u = 0 := by
  rw [hprepared.lowers.calls, hw.calls]

/-- Without another stack nothing has to be waited for. -/
theorem Prepared.startable (hprepared : Prepared h mode states w s) (hw : Begins states w)
    (hprevious : ¬ HasPrevious mode states) : Startable h mode states s.world where
  others u hu hne := by
    refine hprepared.lowers.down u ?_
    have hstate : states u = .inactive := by
      by_contra hother
      exact hprevious ⟨u, mem_otherUnits.mpr ⟨hu, hne⟩, hother⟩
    rw [← hstate]
    exact hw.settled u
  target_up := hprepared.target_up
  target_down hdown := by
    have hfalling := hprepared.falling (unitForMode mode) (fun _ => hdown) fun hrviz => by
      have hcontrol := isControl_unitForMode mode
      rw [hrviz] at hcontrol
      cases hcontrol
    have hbefore := hw.settled (unitForMode mode)
    refine ⟨hfalling.goal, (hprepared.lowers.notActive _ ⟨?_, ?_⟩).shown⟩
    · rw [hbefore.shown]
      exact hdown
    · rw [hbefore.goal]
      exact hdown
  graph := Nat.le_trans (hprepared.graph hw) (Nat.add_le_add_left (Nat.le_max_left _ _) _)
  calls := hprepared.calls hw _
  started := hprepared.started hw

/-- After another stack was stopped, the wait for the end decides. -/
theorem awaitCleanup_of_stopped (hresult : s.result = 0)
    (hstopped : s.stoppedPreviousStack = true) :
    (awaitCleanup h s).1 = afterCleanup s (waitForStackStopped h s.world) := by
  unfold awaitCleanup
  rw [if_pos ⟨hresult, hstopped⟩]

/-- Else nothing is waited for. -/
theorem awaitCleanup_of_not_stopped (hstopped : ¬ s.stoppedPreviousStack = true) :
    (awaitCleanup h s).1 = s := by
  unfold awaitCleanup
  rw [if_neg fun hboth => hstopped hboth.2]

/-- If the units that are waited for are down, the wait for the end succeeds. -/
theorem Prepared.startable_afterCleanup (hprepared : Prepared h mode states w s)
    (hw : Begins states w) (hdown : states (unitForMode mode) ≠ .active)
    {cleanup : Outcome World String} (hok : cleanup.ok = true)
    (hclean : Cleaning s.world.now (s.world.now + h.stopWithin) s.world.calls true
      cleanup.state) :
    (afterCleanup s cleanup).result = 0 ∧
      Startable h mode states (afterCleanup s cleanup).world := by
  obtain ⟨hunits, -⟩ := hclean.calm rfl
  refine ⟨?_, fun u _ _ => hunits u, fun hup => absurd hup hdown, fun _ => ⟨(hunits _).goal, ?_⟩,
    ?_, ?_, hclean.started⟩
  · unfold afterCleanup
    rw [hok]
    exact hprepared.result
  · show (cleanup.state.units (unitForMode mode)).shown ≠ .active
    rw [(hunits _).shown]
    decide
  · exact Nat.le_trans hclean.graph (Nat.add_le_add hclean.begun (Nat.le_max_left _ _))
  · show cleanup.state.calls .start (unitForMode mode) = 0
    rw [hclean.calls]
    exact hprepared.calls hw _

theorem awaitCleanup_ok (hprepared : Prepared h mode states w s) (hw : Begins states w)
    (hcondition : HasPrevious mode states →
      states (unitForMode mode) ≠ .active ∧ ¬ KeepsRviz mode states) :
    (awaitCleanup h s).1.result = 0 ∧ Startable h mode states (awaitCleanup h s).1.world := by
  by_cases hprevious : HasPrevious mode states
  · obtain ⟨hdown, hrviz⟩ := hcondition hprevious
    have hfalling : ∀ u, Falling (s.world.units u) (s.world.now + h.stopWithin) := fun u =>
      hprepared.falling u (fun hu => by rw [hu]; exact hdown) fun _ => hrviz
    obtain ⟨hok, hclean⟩ :=
      waitForStackStopped_ok hfalling (hprepared.graph hw) (hprepared.started hw)
    rw [awaitCleanup_of_stopped hprepared.result (hprepared.stopped.mpr hprevious)]
    exact hprepared.startable_afterCleanup hw hdown hok hclean
  · rw [awaitCleanup_of_not_stopped (mt hprepared.stopped.mp hprevious)]
    exact ⟨hprepared.result, hprepared.startable hw hprevious⟩

/-- If one of the units that are waited for stays active, the wait for the end does not succeed. -/
theorem awaitCleanup_not_ok (hprepared : Prepared h mode states w s)
    (hprevious : HasPrevious mode states)
    (hup : states (unitForMode mode) = .active ∨ KeepsRviz mode states) :
    (awaitCleanup h s).1.result ≠ 0 := by
  have hnot : (waitForStackStopped h s.world).ok = false := by
    rcases hup with hup | hrviz
    · exact waitForStackStopped_not_ok (hprepared.target_up hup)
    · exact waitForStackStopped_not_ok (hprepared.rviz_up hrviz)
  rw [awaitCleanup_of_stopped hprepared.result (hprepared.stopped.mpr hprevious)]
  unfold afterCleanup
  rw [hnot]
  exact (by decide : (125 : ℤ) ≠ 0)

/-! ## The stack is started -/

/-- Only the target is up, and the graph shows that in time. -/
structure Started (h : Host p) (mode : Mode) (states : ManagedUnit → UnitState) (w : World) :
    Prop where
  coming : Coming mode (w.now + max h.stopWithin h.startWithin + 1) false w
  up : states (unitForMode mode) = .active → (w.units (unitForMode mode)).shown = .active
  hidden : states (unitForMode mode) ≠ .active →
    (w.units (unitForMode mode)).shown ≠ .active ∧
      (w.units (unitForMode mode)).left =
        h.delay .start (unitForMode mode) 0 (unitForMode mode) ∧
      (w.units (unitForMode mode)).due = none

/-- A start leaves the other control units down. -/
theorem effect_start_other {u : ManagedUnit} (hu : u.isControl = true)
    (hne : u ≠ unitForMode mode) :
    effect .start (unitForMode mode) u .inactive = .inactive := by
  cases mode <;> cases u <;> first | rfl | exact absurd rfl hne | cases hu

theorem effect_start_self (u : ManagedUnit) (state : UnitState) :
    effect .start u u state = .active :=
  if_pos (Or.inl rfl)

/-- A start of the target, which has not been started before. -/
theorem Startable.start (hs : Startable h mode states w)
    (hdown : states (unitForMode mode) ≠ .active) :
    Started h mode states (w.call h .start (unitForMode mode)) := by
  obtain ⟨hgoal, hshown⟩ := hs.target_down hdown
  have hlife : (w.call h .start (unitForMode mode)).units (unitForMode mode) =
      { w.units (unitForMode mode) with
        goal := .active
        left := h.delay .start (unitForMode mode) 0 (unitForMode mode)
        due := none } := by
    show UnitLife.expect _ _ _ (w.units (unitForMode mode)) = _
    rw [effect_start_self, hs.calls]
    unfold UnitLife.expect
    rw [if_neg (by rw [hgoal]; decide)]
    rfl
  refine ⟨⟨?_, fun u hu hne => ?_, ?_, ?_, fun hcalm => by cases hcalm⟩,
    fun hup => absurd hup hdown, fun _ => ?_⟩
  · rw [hlife]
  · rw [call_units_of_effect_eq]
    · exact hs.others u hu hne
    · rw [(hs.others u hu hne).goal]
      exact effect_start_other hu hne
  · have hgraph := hs.graph
    show max w.graphDue (w.now + _ + h.startWithin) ≤
      w.now + _ + max h.stopWithin h.startWithin + 1
    omega
  · exact Nat.le_trans hs.started (Nat.le_add_right _ _)
  · rw [hlife]
    exact ⟨hshown, rfl, rfl⟩

/-- Nothing is started if the target is up. -/
theorem Startable.keep (hs : Startable h mode states w)
    (hup : states (unitForMode mode) = .active) : Started h mode states w where
  coming := ⟨(hs.target_up hup).goal, hs.others, Nat.le_succ_of_le hs.graph, hs.started,
    fun hcalm => by cases hcalm⟩
  up _ := (hs.target_up hup).shown
  hidden hdown := absurd hup hdown

theorem Startable.looks {w' : World} {k : ℕ} (hs : Startable h mode states w)
    (hlooks : Looks h k w w') : Startable h mode states w' where
  others u hu hne := (hs.others u hu hne).watched (hlooks.unit u)
  target_up hup := (hs.target_up hup).watched (hlooks.unit _)
  target_down hdown := by
    obtain ⟨hgoal, hshown⟩ := hs.target_down hdown
    have hnot : NotActive (w.units (unitForMode mode)) := ⟨hshown, by rw [hgoal]; decide⟩
    exact ⟨(hlooks.unit _).goal.trans hgoal, (hnot.watched (hlooks.unit _)).shown⟩
  graph := by
    rw [hlooks.graphDue]
    exact Nat.le_trans hs.graph (Nat.add_le_add_right hlooks.now_le _)
  calls := by
    rw [hlooks.calls]
    exact hs.calls
  started := by
    rw [hlooks.started]
    exact Nat.le_trans hs.started hlooks.now_le

/-- New samples of the hardware come in time. -/
theorem Startable.observeStart (hs : Startable h mode states w) :
    Startable h mode states (observeStart h mode w) := by
  unfold Workspace.observeStart
  split
  · refine ⟨hs.others, hs.target_up, hs.target_down, ?_, hs.calls, le_rfl⟩
    have hgraph := hs.graph
    show max w.graphDue (w.now + h.startWithin) ≤ w.now + max h.stopWithin h.startWithin
    omega
  · exact hs

theorem startTarget_spec (hresult : s.result = 0) (hs : Startable h mode states s.world) :
    (startTarget h mode s).result = 0 ∧ Started h mode states (startTarget h mode s).world := by
  have hobserved := hs.observeStart.looks (unitIsActive_looks h (unitForMode mode) _)
  unfold startTarget
  rw [if_pos hresult]
  dsimp only
  split
  · rename_i hactive
    refine ⟨hresult, hobserved.keep ?_⟩
    by_contra hdown
    exact (hobserved.target_down hdown).2 ((unitIsActive_iff _).mp hactive)
  · rename_i hactive
    refine ⟨rfl, hobserved.start fun hup => hactive ?_⟩
    exact (unitIsActive_iff _).mpr (hobserved.target_up hup).shown

/-! ## RUNNING -/

/-- From which states, and with which delays, the stages of a START fit together. -/
structure StartCondition (h : Host p) (mode : Mode) (states : ManagedUnit → UnitState) : Prop where
  /-- If another stack has to be stopped, the target is not up and RViz is stopped. -/
  previous : HasPrevious mode states →
    states (unitForMode mode) ≠ .active ∧ ¬ KeepsRviz mode states
  /-- If the target has to be started, it shows that at the second look at the latest. -/
  start : states (unitForMode mode) ≠ .active →
    h.delay .start (unitForMode mode) 0 (unitForMode mode) ≤ 1

/-- The end of a START. -/
structure EndsRunning (p : Parameters) (mode : Mode) (n : Supervisor) : Prop where
  currentState : n.currentState = .running
  currentMode : n.currentMode = some mode
  /-- The unit of the mode is the only active control unit. -/
  only : ∀ u : ManagedUnit, u.isControl = true →
    ((n.world.units u).shown = .active ↔ u = unitForMode mode)
  /-- Polls without issues cover an unbroken interval. -/
  polls : Wait.Unbroken (ms p.readinessStabilityMs) n.readinessPolls

variable {n : Supervisor} {commandSeq : ℕ} {r : Report}

theorem finishStart_of_not_succeeded (hnot : r.succeeded = false) :
    (n.finishStart h commandSeq mode r).currentState = .error := by
  unfold Supervisor.finishStart
  rw [hnot]
  rfl

/-- RViz is started for the simulation, and the control units stay as they are. -/
theorem effect_start_rviz {u : ManagedUnit} {state : UnitState} (hu : u.isControl = true)
    (hreal : u = .realStack → state = .inactive) : effect .start .rviz u state = state := by
  cases u with
  | realStack =>
    rw [hreal rfl]
    rfl
  | rviz => cases hu
  | _ => rfl

theorem startSimulationRviz_units {u : ManagedUnit} {state : UnitState} (hu : u.isControl = true)
    (hreal : u = .realStack → state = .inactive) (hs : Settled (w.units u) state) :
    Settled ((startSimulationRviz h w).units u) state := by
  have hafter := hs.watched ((unitIsActive_looks h .rviz w).unit u)
  unfold startSimulationRviz
  dsimp only
  split
  · exact hafter
  · show Settled ((World.call h _ .start .rviz).units u) state
    rw [call_units_of_effect_eq]
    · exact hafter
    · rw [hafter.goal]
      exact effect_start_rviz hu hreal

/-- The control units at the end of a START. -/
def OnlyActive (mode : Mode) (w : World) : Prop :=
  ∀ u : ManagedUnit, u.isControl = true →
    Settled (w.units u) (if u = unitForMode mode then .active else .inactive)

theorem Coming.onlyActive {t : ℕ} (hc : Coming mode t true w) : OnlyActive mode w := by
  intro u hu
  split
  · rename_i htarget
    rw [htarget]
    exact ⟨(hc.calm rfl).1, hc.goal⟩
  · rename_i hne
    exact hc.others u hu hne

theorem OnlyActive.startSimulationRviz (ho : OnlyActive .simulation w) :
    OnlyActive .simulation (startSimulationRviz h w) := fun u hu =>
  startSimulationRviz_units hu (fun hreal => by rw [hreal]; rfl) (ho u hu)

theorem OnlyActive.shown_iff (ho : OnlyActive mode w) {u : ManagedUnit} (hu : u.isControl = true) :
    (w.units u).shown = .active ↔ u = unitForMode mode := by
  rw [(ho u hu).shown]
  split
  · rename_i htarget
    exact iff_of_true rfl htarget
  · rename_i hne
    exact iff_of_false (by decide) hne

theorem finishStart_of_succeeded (hok : r.succeeded = true) (honly : OnlyActive mode r.world)
    (hpolls : Wait.Unbroken (ms p.readinessStabilityMs) r.readinessPolls) :
    EndsRunning p mode (n.finishStart h commandSeq mode r) := by
  have hworld : OnlyActive mode (n.finishStart h commandSeq mode r).world := by
    unfold Supervisor.finishStart
    rw [if_pos hok]
    cases mode with
    | simulation => exact honly.startSimulationRviz
    | real => exact honly
  refine ⟨?_, ?_, fun u hu => hworld.shown_iff hu, ?_⟩ <;>
    · unfold Supervisor.finishStart
      rw [if_pos hok]
      first | rfl | exact hpolls

/-! ## The worker -/

theorem startWorker_of_result (hresult : (startTarget h mode
      (awaitCleanup h (prepareStart h mode w)).1).result = 0) :
    ∃ cleanupIssues, startWorker h mode w = reportReady h mode
      (startTarget h mode (awaitCleanup h (prepareStart h mode w)).1).result cleanupIssues
      (waitForStackReady h (unitForMode mode)
        (startTarget h mode (awaitCleanup h (prepareStart h mode w)).1).world) := by
  refine ⟨(awaitCleanup h (prepareStart h mode w)).2, ?_⟩
  unfold startWorker
  dsimp only
  rw [if_pos hresult]

/-- A success of the worker is one of the wait for the stack. -/
theorem reportReady_succeeded (result : ℤ) (cleanupIssues : List String)
    (ready : Outcome World String) :
    (reportReady h mode result cleanupIssues ready).succeeded = ready.ok := by
  unfold reportReady
  split
  · rename_i hok
    exact hok.symm
  · rename_i hnot
    exact ((Bool.not_eq_true _).mp hnot).symm

theorem reportReady_of_ok (mode : Mode) (result : ℤ) (cleanupIssues : List String)
    {ready : Outcome World String} (hok : ready.ok = true) :
    (reportReady h mode result cleanupIssues ready).world = ready.state ∧
      (reportReady h mode result cleanupIssues ready).readinessPolls = ready.history := by
  unfold reportReady
  rw [if_pos hok]
  exact ⟨rfl, rfl⟩

/-- Under the condition the worker succeeds. -/
theorem startWorker_of_condition (hw : Begins states w)
    (hcondition : StartCondition h mode states) :
    (startWorker h mode w).succeeded = true ∧ OnlyActive mode (startWorker h mode w).world ∧
      Wait.Unbroken (ms p.readinessStabilityMs) (startWorker h mode w).readinessPolls := by
  obtain ⟨hcleaned, hstartable⟩ :=
    awaitCleanup_ok (prepared_prepareStart hw.settled) hw hcondition.previous
  obtain ⟨hresult, hstarted⟩ := startTarget_spec hcleaned hstartable
  obtain ⟨cleanupIssues, hreport⟩ := startWorker_of_result hresult
  generalize (startTarget h mode (awaitCleanup h (prepareStart h mode w)).1).world = begun
    at hstarted hreport
  have hshows : (begun.units (unitForMode mode)).shown = .active ∨
      (begun.units (unitForMode mode)).left ≤ 1 := by
    by_cases hup : states (unitForMode mode) = .active
    · exact Or.inl (hstarted.up hup)
    · refine Or.inr ?_
      rw [(hstarted.hidden hup).2.1]
      exact hcondition.start hup
  obtain ⟨hok, hcoming⟩ := waitForStackReady_ok hstarted.coming hshows
  have hpolls := Wait.unbroken_of_ok_none hok
  rw [hreport, reportReady_succeeded]
  obtain ⟨hworld, hhistory⟩ := reportReady_of_ok (h := h) mode _ cleanupIssues hok
  rw [hworld, hhistory]
  exact ⟨hok, hcoming.onlyActive, hpolls⟩

/-- Without a clean end the stack is not started. -/
theorem startWorker_of_result_ne (hresult : (awaitCleanup h (prepareStart h mode w)).1.result ≠ 0) :
    (startWorker h mode w).succeeded = false := by
  have hkept : (startTarget h mode (awaitCleanup h (prepareStart h mode w)).1).result ≠ 0 := by
    unfold startTarget
    rw [if_neg hresult]
    exact hresult
  unfold startWorker
  dsimp only
  rw [if_neg hkept]

/-- A target that does not show in time makes the worker give up. -/
theorem startWorker_of_hidden (hw : Begins states w)
    (hprevious : HasPrevious mode states →
      states (unitForMode mode) ≠ .active ∧ ¬ KeepsRviz mode states)
    (hdown : states (unitForMode mode) ≠ .active)
    (hdelay : 2 ≤ h.delay .start (unitForMode mode) 0 (unitForMode mode)) :
    (startWorker h mode w).succeeded = false := by
  obtain ⟨hcleaned, hstartable⟩ := awaitCleanup_ok (prepared_prepareStart hw.settled) hw hprevious
  obtain ⟨hresult, hstarted⟩ := startTarget_spec hcleaned hstartable
  obtain ⟨cleanupIssues, hreport⟩ := startWorker_of_result hresult
  obtain ⟨hshown, hleft, hdue⟩ := hstarted.hidden hdown
  rw [hreport, reportReady_succeeded]
  exact waitForStackReady_not_ok ⟨hshown, by rw [hleft]; exact hdelay, hdue⟩

/-- Without the condition the worker does not succeed. -/
theorem startWorker_of_not_condition (hw : Begins states w)
    (hcondition : ¬ StartCondition h mode states) :
    (startWorker h mode w).succeeded = false := by
  by_cases hprevious : HasPrevious mode states →
      states (unitForMode mode) ≠ .active ∧ ¬ KeepsRviz mode states
  · have hstart : ¬ (states (unitForMode mode) ≠ .active →
        h.delay .start (unitForMode mode) 0 (unitForMode mode) ≤ 1) := fun hstart =>
      hcondition ⟨hprevious, hstart⟩
    obtain ⟨hdown, hdelay⟩ := Classical.not_imp.mp hstart
    exact startWorker_of_hidden hw hprevious hdown (Nat.not_le.mp hdelay)
  · obtain ⟨hthere, hup⟩ := Classical.not_imp.mp hprevious
    refine startWorker_of_result_ne
      (awaitCleanup_not_ok (prepared_prepareStart hw.settled) hthere ?_)
    by_contra hneither
    obtain ⟨hdown, hrviz⟩ := not_or.mp hneither
    exact hup ⟨hdown, hrviz⟩

/-! ## The command -/

theorem anyIsActive_of_not {units : List ManagedUnit} (hs : ∀ u, Settled (w.units u) (states u))
    (hnot : ¬ (anyIsActive h units w).1 = true) : ∀ u ∈ units, states u ≠ .active := by
  induction units generalizing w with
  | nil =>
    intro u hu
    cases hu
  | cons v units ih =>
    intro u hu
    have hlooks := unitIsActive_looks h v w
    rw [anyIsActive] at hnot
    split at hnot
    · rename_i hactive
      exact absurd hactive hnot
    · rename_i hactive
      rcases List.mem_cons.mp hu with rfl | hu
      · exact mt (unitIsActive_of_settled (hs u)).mpr hactive
      · exact ih (fun u => (hs u).watched (hlooks.unit u)) hnot u hu

/-- A START is accepted, whatever the states of the units are. -/
theorem handleStart_eq (mode : Mode) (states : ManagedUnit → UnitState) (now commandSeq : ℕ) :
    ∃ n w, Begins states w ∧
      (Supervisor.idle (.initial states now)).handleStart h commandSeq mode =
        Supervisor.finishStart h n commandSeq mode (startWorker h mode w) := by
  have hinitial : ∀ u, Settled ((World.initial states now).units u) (states u) := fun _ =>
    ⟨rfl, rfl⟩
  have hactive : Looks h 4 (.initial states now) (anyStackIsActive h (.initial states now)).2 :=
    anyIsActive_looks h [.simulationStack, .realStack, .legacyStack, .bootRobot] _
  have hbegins : ∀ {k : ℕ} {w : World}, Looks h k (.initial states now) w → Begins states w :=
    fun hlooks => ⟨fun u => (hinitial u).watched (hlooks.unit u),
      Nat.le_trans (Nat.le_of_eq hlooks.graphDue) (Nat.zero_le _), hlooks.calls,
      Nat.le_trans (Nat.le_of_eq hlooks.started) (Nat.zero_le _)⟩
  unfold Supervisor.handleStart Supervisor.acceptStart
  dsimp only
  by_cases hany : (anyStackIsActive h (Supervisor.idle (.initial states now)).world).1 = true
  · rw [if_pos hany, if_pos List.isEmpty_nil]
    exact ⟨_, _, hbegins hactive, rfl⟩
  · rw [if_neg hany]
    have hstates := anyIsActive_of_not hinitial hany
    have hgoals : ∀ u : ManagedUnit, u.isControl = true →
        ((anyStackIsActive h (.initial states now)).2.units u).goal ≠ .active := by
      intro u hu
      rw [((hinitial u).watched (hactive.unit u)).goal]
      refine hstates u ?_
      cases u with
      | rviz => cases hu
      | _ => decide
    have hnil : (collectUnmanagedStackIssues h
        (anyStackIsActive h (Supervisor.idle (.initial states now)).world).2).1 = [] :=
      (collectUnmanagedStackIssues_eq_nil_iff hgoals).mpr
        (Or.inl (Nat.le_zero.mp hactive.graphLeft))
    rw [if_pos (List.isEmpty_iff.mpr hnil)]
    exact ⟨_, _, hbegins (hactive.trans (collectUnmanagedStackIssues_looks h _)), rfl⟩

/-- Without the condition a START does not end in RUNNING. -/
theorem not_running_of_not_condition {states : ManagedUnit → UnitState} {now : ℕ}
    (hcondition : ¬ StartCondition h mode states) :
    ¬ EndsRunning p mode
      ((Supervisor.idle (.initial states now)).handleStart h commandSeq mode) := by
  obtain ⟨n, w, hw, heq⟩ := handleStart_eq (h := h) mode states now commandSeq
  rw [heq]
  intro hruns
  have hstate := hruns.currentState
  rw [finishStart_of_not_succeeded (startWorker_of_not_condition hw hcondition)] at hstate
  cases hstate

/-- A START ends in RUNNING, with its unit as the only active control unit and after polls without
issues over an unbroken interval, exactly under the condition. -/
theorem endsRunning_iff (h : Host p) (mode : Mode) (states : ManagedUnit → UnitState)
    (now commandSeq : ℕ) :
    EndsRunning p mode ((Supervisor.idle (.initial states now)).handleStart h commandSeq mode) ↔
      StartCondition h mode states := by
  constructor
  · intro hruns
    by_contra hcondition
    exact not_running_of_not_condition hcondition hruns
  · intro hcondition
    obtain ⟨n, w, hw, heq⟩ := handleStart_eq (h := h) mode states now commandSeq
    obtain ⟨hok, honly, hpolls⟩ := startWorker_of_condition hw hcondition
    rw [heq]
    exact finishStart_of_succeeded hok honly hpolls

end

/-! ## A failed stack next to the active one -/

/-- What is seen of a stack that is all there as soon as that shows, and of none. -/
def promptSnapshot (goals : ManagedUnit → UnitState) (shows : Bool) (now : ℕ) : Snapshot :=
  if (∃ u ∈ ManagedUnit.all, u.isControl = true ∧ goals u = .active) ↔ shows = true then
    .ready now
  else .empty

variable {goals : ManagedUnit → UnitState} {shows : Bool} {now : ℕ}

theorem promptSnapshot_clean
    (hdown : ∀ u : ManagedUnit, u.isControl = true → goals u ≠ .active) :
    unmanagedStackIssues (promptSnapshot goals shows now) = [] ↔ shows = true := by
  have hnone : ¬ ∃ u ∈ ManagedUnit.all, u.isControl = true ∧ goals u = .active := by
    rintro ⟨u, -, hu, hup⟩
    exact hdown u hu hup
  unfold promptSnapshot
  by_cases hshows : shows = true
  · rw [if_neg fun hiff => hnone (hiff.mpr hshows)]
    exact iff_of_true unmanagedStackIssues_empty hshows
  · rw [if_pos (iff_of_false hnone hshows)]
    exact iff_of_false (unmanagedStackIssues_ne_nil
      (readinessIssues_ready (o := ⟨now, 0, now⟩) .rviz le_rfl)) hshows

theorem promptSnapshot_ready {mode : Mode} {o : Observation}
    (hup : goals (unitForMode mode) = .active) (hstarted : o.lifecycleStartedAt ≤ o.now) :
    readinessIssues (unitForMode mode) o (promptSnapshot goals shows o.now) true = [] ↔
      shows = true := by
  have hsome : ∃ u ∈ ManagedUnit.all, u.isControl = true ∧ goals u = .active :=
    ⟨unitForMode mode, ManagedUnit.mem_all _, isControl_unitForMode mode, hup⟩
  unfold promptSnapshot
  by_cases hshows : shows = true
  · rw [if_pos (iff_of_true hsome hshows)]
    exact iff_of_true (readinessIssues_ready _ hstarted) hshows
  · rw [if_neg fun hiff => hshows (hiff.mp hsome)]
    exact iff_of_false (readinessIssues_empty _ _ _) hshows

/-- A host on which everything shows at once. -/
def promptHost : Host .defaults where
  delay _ _ _ _ := 0
  graphDelay _ _ _ := 0
  feedbackDelay := 0
  cost _ := 0
  callCost _ _ _ := 0
  longestLook := 0
  stopWithin := 0
  startWithin := 0
  snapshot goals shows now _ := promptSnapshot goals shows now
  cost_le _ := le_rfl
  clean _ _ _ _ := promptSnapshot_clean
  ready goals _ _ _ mode _ honly hstarted :=
    promptSnapshot_ready ((honly _ (isControl_unitForMode mode)).mpr rfl) hstarted
  cleanup_time := by decide
  startup_time := by decide

/-- The simulation is active, and the real stack has failed. -/
def failedReal : ManagedUnit → UnitState
  | .simulationStack => .active
  | .realStack => .failed
  | _ => .inactive

/-- The stop of the failed stack makes the START wait for the end of the active one, which it does
not stop. -/
theorem not_endsRunning_failedReal :
    ¬ EndsRunning .defaults .simulation
      ((Supervisor.idle (.initial failedReal 0)).handleStart promptHost 1 .simulation) := by
  have hprevious : HasPrevious .simulation failedReal := ⟨.realStack, by decide, by decide⟩
  exact not_running_of_not_condition fun hcondition => (hcondition.previous hprevious).1 rfl

end JointController.Workspace
