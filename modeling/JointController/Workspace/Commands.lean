import JointController.Library.Observers
import JointController.Workspace.Stop

/-!
# Runs of commands

The node takes commands and refreshes its status, while a worker may be at work on a START or a
STOP.  After a STOP from any states of the units, every run of commands is carried out.

* `WorkspaceControl`, `WorkspaceNode.handleCommand`, `WorkspaceNode.refreshStatus`.
* `Event`, `step`: what the node meets, with its worker and with time in between.
* `goalNext`: what the commands that are not refused ask for.
* `carryOutStart_spec`: a START wherever a command before it has left the units.
* `Follows`: the units follow the commands, with `follows_step`.
* `run_carriedOut`: commands are carried out one at a time, and the others are refused.
-/

namespace JointController.Workspace

open StableWait

/-! ## Commands -/

/-- `WorkspaceControl`. -/
structure WorkspaceControl where
  seq : ℕ
  command : ℕ
  mode : ℕ
  source : String

/-- `WorkspaceControl`: the commands. -/
def commandStatus : ℕ := 0

/-- `WorkspaceControl`: the commands. -/
def commandStart : ℕ := 1

/-- `WorkspaceControl`: the commands. -/
def commandStop : ℕ := 2

/-- The modes of a START. -/
def modeOf : ℕ → Option Mode
  | 0 => some .simulation
  | 1 => some .real
  | _ => none

/-- `unit_for_mode`, also for an unknown mode. -/
def unitForKnownMode (mode : Option Mode) : ManagedUnit :=
  if mode = some .real then .realStack else .simulationStack

section

variable {p : Parameters} (h : Host p) (script : CleanupScript) (allowedSource : String)

/-- `detect_active_mode`. -/
def detectActiveMode (w : World) : Option Mode × World :=
  let real := unitIsActive h .realStack w
  if real.1 then (some .real, real.2)
  else
    let others := anyIsActive h [.simulationStack, .legacyStack, .bootRobot] real.2
    (if others.1 then some .simulation else none, others.2)

/-- `collect_readiness_issues`, whether the arms are powered or not. -/
def collectHealthIssues (u : ManagedUnit) (w : World) : List String × World :=
  let active := unitIsActive h u w
  if active.1 then
    let seen := active.2.takeSnapshot h
    (readinessIssues u ⟨seen.2.lifecycleStartedAt, p.hardwareFeedbackTimeoutMs, seen.2.now⟩
      seen.1 false, seen.2)
  else (["unit inactive: " ++ u.name], active.2)

/-- What a look at the workspace finds. -/
structure Health where
  active : Bool
  mode : Option Mode
  issues : List String
  world : World

/-- The mode of the active units and their issues, or what is left without one. -/
def observeHealth (w : World) : Health :=
  let active := anyStackIsActive h w
  if active.1 then
    let mode := detectActiveMode h active.2
    let issues := collectHealthIssues h (unitForKnownMode mode.1) mode.2
    ⟨true, mode.1, issues.1, issues.2⟩
  else
    let unmanaged := collectUnmanagedStackIssues h active.2
    ⟨false, none, unmanaged.1, unmanaged.2⟩

/-- The state that goes with what has been found. -/
def Health.state (found : Health) : WorkspaceState :=
  if found.issues.isEmpty then (if found.active then .running else .stopped) else .error

namespace Supervisor

variable (s : Supervisor)

/-- The node with what has been found. -/
def observed (found : Health) : Supervisor :=
  { s with currentState := found.state, currentMode := found.mode, world := found.world }

/-- `handle_command` with a STATUS, while no operation is in progress. -/
def handleStatus (commandSeq : ℕ) : Supervisor :=
  let found := observeHealth h s.world
  (s.observed found).publishStatus commandSeq found.issues.isEmpty
    (if found.issues.isEmpty then "status requested"
      else if found.active then "status requested; unhealthy: " ++ join found.issues
      else "status requested; unmanaged control processes: " ++ join found.issues)

/-- `refresh_status`, while no operation is in progress. -/
def refreshStatus : Supervisor :=
  let found := observeHealth h s.world
  let changed := (if found.active then WorkspaceState.running else .stopped) ≠ s.currentState ∨
    found.mode ≠ s.currentMode
  (s.observed found).publishStatus 0 found.issues.isEmpty
    (if found.issues.isEmpty then
      (if changed then "workspace state changed outside supervisor"
        else "workspace status heartbeat")
    else "workspace unhealthy: " ++ String.intercalate "; " found.issues)

end Supervisor

/-! ## The node and its worker -/

/-- A START or a STOP that a worker is at work on. -/
inductive Operation where
  | start (mode : Mode)
  /-- The mode is the one before the STOP, for the text of a failure. -/
  | stop (mode : Option Mode)

/-- What the workspace has to be after an operation. -/
def Operation.goal : Operation → Option Mode
  | .start mode => some mode
  | .stop _ => none

/-- `operation_in_progress_`, with what the worker has been given and whether it has reported. -/
structure Progress where
  operation : Operation
  commandSeq : ℕ
  reported : Bool

/-- The node, with its worker. -/
structure WorkspaceNode where
  supervisor : Supervisor
  operation : Option Progress

/-- The mode that a START asks for, and none for a STOP. -/
def WorkspaceControl.requested (msg : WorkspaceControl) : Except String (Option Mode) :=
  if msg.command ≠ commandStart ∧ msg.command ≠ commandStop then .error "unsupported command"
  else if msg.command = commandStart then
    (modeOf msg.mode).elim (.error "unsupported workspace mode") fun mode => .ok (some mode)
  else .ok none

namespace WorkspaceNode

variable (n : WorkspaceNode)

/-- `publish_status`. -/
def publishStatus (commandSeq : ℕ) (accepted : Bool) (message : String) : WorkspaceNode :=
  { n with supervisor := n.supervisor.publishStatus commandSeq accepted message }

/-- `handle_command` with a STATUS.  The units are looked at only between operations. -/
def handleStatus (commandSeq : ℕ) : WorkspaceNode :=
  if n.operation.isNone then { n with supervisor := n.supervisor.handleStatus h commandSeq }
  else n.publishStatus commandSeq true "status requested"

/-- `handle_command` with a START or a STOP.  An operation that is accepted goes to the worker. -/
def accept (commandSeq : ℕ) : Option Mode → WorkspaceNode
  | some mode =>
    let accepted := n.supervisor.acceptStart h commandSeq mode
    ⟨accepted.1, if accepted.2 then some ⟨.start mode, commandSeq, false⟩ else none⟩
  | none =>
    let accepted := n.supervisor.acceptStop h commandSeq
    ⟨accepted.1,
      if accepted.2 then some ⟨.stop n.supervisor.currentMode, commandSeq, false⟩ else none⟩

/-- `handle_command`. -/
def handleCommand (msg : WorkspaceControl) : WorkspaceNode :=
  if allowedSource ≠ "" ∧ msg.source ≠ allowedSource then
    n.publishStatus msg.seq false "source is not allowed"
  else if msg.command = commandStatus then n.handleStatus h msg.seq
  else
    match msg.requested with
    | .error message => n.publishStatus msg.seq false message
    | .ok asked =>
      if n.operation.isSome then
        n.publishStatus msg.seq false "another workspace operation is in progress"
      else n.accept h msg.seq asked

/-- `refresh_status`. -/
def refreshStatus : WorkspaceNode :=
  match n.operation with
  | some progress => n.publishStatus progress.commandSeq true
      (if n.supervisor.currentState = .starting then "start in progress" else "stop in progress")
  | none => { n with supervisor := n.supervisor.refreshStatus h }

/-- The worker up to its last status. -/
def carryOut (commandSeq : ℕ) : Operation → Supervisor
  | .start mode => n.supervisor.carryOutStart h commandSeq mode
  | .stop mode => n.supervisor.carryOutStop h script commandSeq mode

/-- Time goes by. -/
def elapse (duration : ℕ) : WorkspaceNode :=
  { n with
    supervisor := { n.supervisor with
      world := { n.supervisor.world with now := n.supervisor.world.now + duration } } }

end WorkspaceNode

/-! ## Runs -/

/-- What the node meets: a command, its timer, its worker, and time. -/
inductive Event where
  | command (msg : WorkspaceControl)
  | timer
  /-- The worker is through, and publishes what the operation has come to. -/
  | report
  /-- Then it clears `operation_in_progress_`. -/
  | finish
  | elapse (duration : ℕ)

/-- One event.  The units are touched by the worker alone while an operation is in progress, so all
its work is put where it reports. -/
def step (n : WorkspaceNode) : Event → Option WorkspaceNode
  | .command msg => some (n.handleCommand h allowedSource msg)
  | .timer => some (n.refreshStatus h)
  | .report =>
    match n.operation with
    | some ⟨operation, commandSeq, false⟩ =>
      some ⟨n.carryOut h script commandSeq operation, some ⟨operation, commandSeq, true⟩⟩
    | _ => none
  | .finish =>
    match n.operation with
    | some ⟨_, _, true⟩ => some { n with operation := none }
    | _ => none
  | .elapse duration => some (n.elapse duration)

/-- A command that is from the allowed source and asks for the mode, or for a stop. -/
def Asks (goal : Option Mode) (msg : WorkspaceControl) : Prop :=
  (allowedSource = "" ∨ msg.source = allowedSource) ∧
    (msg.command = commandStop ∧ goal = none ∨
      msg.command = commandStart ∧ goal ≠ none ∧ modeOf msg.mode = goal)

end

/-! ## Looks -/

section

variable {p : Parameters} {h : Host p} {w w' : World}

/-- Only the unit of the mode that is asked for is active. -/
def only (goal : Option Mode) (u : ManagedUnit) : UnitState :=
  if goal.map unitForMode = some u then .active else .inactive

/-- The longest time until a call shows in the processes and the graph. -/
def showsWithin (h : Host p) : ℕ := max h.stopWithin h.startWithin

variable {goal : Option Mode} {mode : Mode} {s : Preparation}

theorem only_unitForMode (mode : Mode) : only (some mode) (unitForMode mode) = .active :=
  if_pos rfl

theorem only_of_ne {u : ManagedUnit} (hne : goal.map unitForMode ≠ some u) :
    only goal u = .inactive := if_neg hne

theorem only_eq_active {u : ManagedUnit} :
    only goal u = .active ↔ goal.map unitForMode = some u := by
  unfold only
  split
  · rename_i heq
    exact iff_of_true rfl heq
  · rename_i hne
    exact iff_of_false (by decide) hne

theorem only_ne_failed (u : ManagedUnit) : only goal u ≠ .failed := by
  unfold only
  split <;> decide

theorem unitForMode_injective : Function.Injective unitForMode := by
  intro a b hab
  cases a <;> cases b <;> first | rfl | cases hab

theorem only_unitForMode_iff (mode : Mode) :
    only goal (unitForMode mode) = .active ↔ goal = some mode := by
  rw [only_eq_active, Option.map_eq_some_iff]
  constructor
  · rintro ⟨same, rfl, hsame⟩
    rw [unitForMode_injective hsame]
  · rintro rfl
    exact ⟨mode, rfl, rfl⟩

/-- Another stack has to be stopped exactly if another mode was asked for before. -/
theorem hasPrevious_only : HasPrevious mode (only goal) ↔ goal ≠ none ∧ goal ≠ some mode := by
  constructor
  · rintro ⟨u, hu, hup⟩
    obtain ⟨-, hne⟩ := mem_otherUnits.mp hu
    unfold only at hup
    split at hup
    · rename_i heq
      refine ⟨?_, ?_⟩
      · rintro rfl
        cases heq
      · rintro rfl
        exact hne (Option.some.inj heq).symm
    · exact absurd rfl hup
  · rintro ⟨hnone, hother⟩
    obtain ⟨before, rfl⟩ := Option.ne_none_iff_exists'.mp hnone
    refine ⟨unitForMode before, mem_otherUnits.mpr ⟨isControl_unitForMode before, ?_⟩, ?_⟩
    · intro hsame
      exact hother (congrArg some (unitForMode_injective hsame))
    · rw [only_unitForMode]
      decide

theorem rising_resetIfFailed {v : ManagedUnit} (hr : Rising (w.units v)) (u : ManagedUnit) :
    Rising ((resetIfFailed h w u).units v) := by
  have hafter := hr.watched ((unitIsFailed_looks h u w).unit v)
  unfold resetIfFailed
  dsimp only
  split
  · show Rising ((World.call h _ .resetFailed u).units v)
    rw [call_units_of_effect_eq (effect_reset_of_ne (by rw [hafter.goal]; decide))]
    exact hafter
  · exact hafter

/-- A reset leaves a unit alone that comes up. -/
theorem rising_resetFailedManagedUnits {v : ManagedUnit} (hr : Rising (w.units v)) :
    Rising ((resetFailedManagedUnits h w).units v) := by
  unfold resetFailedManagedUnits
  generalize ManagedUnit.all = units
  induction units generalizing w with
  | nil => exact hr
  | cons u units ih => exact ih (rising_resetIfFailed hr u)

theorem stopTargetAndRviz_tears (mode : Mode) (w : World) :
    Tears h w (stopTargetAndRviz h mode w).world := by
  unfold stopTargetAndRviz
  dsimp only
  split
  · exact (stopFailedTarget_tears _ w).trans stopSimulationRviz_tears
  · exact stopFailedTarget_tears _ w

/-- The units before the failed ones are reset. -/
def stopped (h : Host p) (mode : Mode) (w : World) : Preparation :=
  stopAll h (otherUnits mode) (stopTargetAndRviz h mode w)

theorem prepareStart_world (mode : Mode) (w : World) :
    (prepareStart h mode w).world = resetFailedManagedUnits h (stopped h mode w).world := by
  unfold stopped
  rw [prepareStart_eq]

theorem stopped_tears (mode : Mode) (w : World) : Tears h w (stopped h mode w).world :=
  (stopTargetAndRviz_tears mode w).trans (stopAll_tears (otherUnits mode) _)

theorem prepareStart_tears (mode : Mode) (w : World) :
    Tears h w (prepareStart h mode w).world := by
  rw [prepareStart_world]
  exact (stopped_tears (h := h) mode w).trans (resetFailedManagedUnits_tears _)

/-- Before other stacks are stopped, the control units are as they were, and RViz is not touched for
the simulation. -/
theorem stopTargetAndRviz_rests {within : ℕ} (hr : Rests within (only goal) w) (mode : Mode) :
    (stopTargetAndRviz h mode w).result = 0 ∧
      (stopTargetAndRviz h mode w).stoppedPreviousStack = false ∧
      (∀ u : ManagedUnit, u.isControl = true →
        Settled ((stopTargetAndRviz h mode w).world.units u) (only goal u)) ∧
      (mode = .simulation →
        Watched (w.units .rviz) ((stopTargetAndRviz h mode w).world.units .rviz)) ∧
      (Rising (w.units .rviz) → Rising ((stopTargetAndRviz h mode w).world.units .rviz) ∨
        Falling ((stopTargetAndRviz h mode w).world.units .rviz)
          ((stopTargetAndRviz h mode w).world.now + h.stopWithin)) := by
  have htarget := hr.control (unitForMode mode) (isControl_unitForMode mode)
  obtain ⟨hresult, hnoted, -, hframe, -⟩ := stopFailedTarget_spec (h := h) htarget
  have hkept : ∀ v, Watched (w.units v)
      ((stopFailedTarget h (unitForMode mode) w).world.units v) := fun v =>
    hframe v fun hfailed => absurd hfailed (only_ne_failed _)
  cases mode with
  | simulation =>
    exact ⟨hresult, hnoted, fun u hu => (hr.control u hu).watched (hkept u),
      fun _ => hkept .rviz, fun hup => Or.inl (hup.watched (hkept .rviz))⟩
  | real =>
    have hstage := stopSimulationRviz_stage (h := h)
      (w := (stopFailedTarget h .realStack w).world)
    refine ⟨hresult, hnoted, fun u hu => ?_, fun hsim => (by cases hsim), fun hup =>
      stopSimulationRviz_rising (hup.watched (hkept .rviz))⟩
    refine ((hr.control u hu).watched (hkept u)).watched
      (hstage.frame u (not_touches_control hu ?_))
    rintro rfl
    cases hu

/-- Where a START finds the units after it has stopped the others. -/
structure Stands (h : Host p) (goal : Option Mode) (w : World) : Prop where
  control : ∀ u : ManagedUnit, u.isControl = true → Settled (w.units u) (only goal u)
  rviz : Settled (w.units .rviz) .inactive ∨ (goal = some .simulation ∧ Rising (w.units .rviz))
  graph : w.graphDue ≤ w.now + showsWithin h
  started : w.lifecycleStartedAt ≤ w.now

theorem stopWithin_le : h.stopWithin ≤ showsWithin h := Nat.le_max_left _ _

theorem startWithin_le : h.startWithin ≤ showsWithin h := Nat.le_max_right _ _

theorem only_rviz (goal : Option Mode) : only goal .rviz = .inactive := by
  refine only_of_ne fun hsome => ?_
  obtain ⟨mode, -, hmode⟩ := Option.map_eq_some_iff.mp hsome
  have hcontrol := isControl_unitForMode mode
  rw [hmode] at hcontrol
  cases hcontrol

theorem only_simulation : only goal .simulationStack = .active ↔ goal = some .simulation :=
  only_unitForMode_iff .simulation

theorem Rests.stands (hr : Rests (showsWithin h) (only goal) w) : Stands h goal w where
  control := hr.control
  rviz := by
    have hrviz := hr.rviz
    rw [only_rviz, only_simulation] at hrviz
    exact hrviz
  graph := hr.graph
  started := hr.started

theorem Stands.rests (hs : Stands h goal w) (hquiet : goal = none → w.graphLeft = 0) :
    Rests (showsWithin h) (only goal) w where
  control := hs.control
  rviz := by
    rw [only_rviz, only_simulation]
    exact hs.rviz
  graph := hs.graph
  quiet hnone := by
    refine hquiet (Option.eq_none_iff_forall_ne_some.mpr fun mode hmode => ?_)
    refine hnone (unitForMode mode) (isControl_unitForMode mode) ?_
    rw [hmode]
    exact only_unitForMode mode
  started := hs.started

theorem Stands.passes (hs : Stands h goal w) (hp : Passes w w') : Stands h goal w' where
  control u hu := (hs.control u hu).watched (hp.unit u)
  rviz := hs.rviz.imp (fun hdown => hdown.watched (hp.unit .rviz))
    fun hup => ⟨hup.1, hup.2.watched (hp.unit .rviz)⟩
  graph := by
    rw [hp.graphDue]
    exact Nat.le_trans hs.graph (Nat.add_le_add_right hp.now_le _)
  started := by
    rw [hp.started]
    exact Nat.le_trans hs.started hp.now_le

/-- What the stops of a START come to. -/
theorem stopped_spec (mode : Mode) (hr : Rests (showsWithin h) (only goal) w) :
    (stopped h mode w).result = 0 ∧
      ((stopped h mode w).stoppedPreviousStack = true ↔ HasPrevious mode (only goal)) ∧
      (goal = some mode → Settled ((stopped h mode w).world.units (unitForMode mode)) .active) ∧
      (HasPrevious mode (only goal) → ∀ u, Falls ((stopped h mode w).world.units u)
        ((stopped h mode w).world.now + h.stopWithin)) ∧
      (mode = .simulation → Rising (w.units .rviz) →
        Rising ((stopped h mode w).world.units .rviz)) := by
  obtain ⟨hresult, hnoted, hcontrol, hsim, hrviz⟩ := stopTargetAndRviz_rests (h := h) hr mode
  have hbefore := (stopTargetAndRviz_tears (h := h) mode w).lowers
  unfold stopped
  generalize stopTargetAndRviz h mode w = before at hresult hnoted hcontrol hsim hrviz hbefore ⊢
  obtain ⟨hallResult, hallNoted, hlowers, hframe, hfalls⟩ := stopAll_spec (h := h) hresult
    (fun u hu => (mem_otherUnits.mp hu).1) (nodup_otherUnits mode)
    fun u hu => hcontrol u (mem_otherUnits.mp hu).1
  have hrvizFalls : mode = .real → goal = some .simulation → Rising (w.units .rviz) →
      Falling ((stopAll h (otherUnits mode) before).world.units .rviz)
        ((stopAll h (otherUnits mode) before).world.now + h.stopWithin) := by
    rintro rfl rfl hup
    exact stopAll_falling_rviz [.legacyStack] hresult (hcontrol .bootRobot rfl)
      (hcontrol .simulationStack rfl) (hrviz hup)
  generalize stopAll h (otherUnits mode) before = s
    at hallResult hallNoted hlowers hframe hfalls hrvizFalls ⊢
  refine ⟨hallResult, ?_, ?_, ?_, ?_⟩
  · rw [hallNoted, hnoted, or_iff_right Bool.false_ne_true]
    rfl
  · rintro rfl
    have htarget := hcontrol (unitForMode mode) (isControl_unitForMode mode)
    rw [only_unitForMode] at htarget
    exact htarget.watched (hframe _ fun u hu =>
      not_touches_control (isControl_unitForMode mode) (mem_otherUnits.mp hu).2.symm)
  · intro hprevious u
    obtain ⟨hnone, hother⟩ := hasPrevious_only.mp hprevious
    by_cases hmem : u ∈ otherUnits mode
    · exact hfalls u hmem
    · by_cases hu : u.isControl = true
      · have htarget : u = unitForMode mode := by
          by_contra hne
          exact hmem (mem_otherUnits.mpr ⟨hu, hne⟩)
        have hstate : only goal u ≠ .active := by
          rw [htarget, Ne, only_unitForMode_iff]
          exact hother
        exact hlowers.falls u ((hcontrol u hu).falls hstate _)
      · obtain rfl : u = .rviz := by
          cases u with
          | rviz => rfl
          | _ => exact absurd rfl hu
        rcases hr.stands.rviz with hdown | ⟨hgoal, hup⟩
        · exact (hbefore.trans hlowers).falls _ (hdown.falls (by decide) _)
        · refine Or.inl (hrvizFalls ?_ hgoal hup)
          cases mode with
          | simulation => exact absurd hgoal hother
          | real => rfl
  · rintro rfl hup
    refine (hup.watched (hsim rfl)).watched (hframe .rviz fun u hu => not_touches_rviz ?_)
    obtain ⟨hu, hne⟩ := mem_otherUnits.mp hu
    refine ⟨?_, hne⟩
    rintro rfl
    cases hu

theorem prepareStart_result (mode : Mode) (w : World) :
    (prepareStart h mode w).result = (stopped h mode w).result ∧
      (prepareStart h mode w).stoppedPreviousStack =
        (stopped h mode w).stoppedPreviousStack := by
  unfold stopped
  rw [prepareStart_eq]
  exact ⟨rfl, rfl⟩

/-- If nothing had to be stopped, the units are as they were. -/
theorem stands_prepareStart (hr : Rests (showsWithin h) (only goal) w)
    (hprevious : ¬ HasPrevious mode (only goal)) : Stands h goal (prepareStart h mode w).world := by
  have htears := prepareStart_tears (h := h) mode w
  obtain ⟨-, -, htarget, -, hrviz⟩ := stopped_spec (h := h) mode hr
  obtain ⟨-, hreset, -⟩ := resetFailedManagedUnits_spec (h := h) (stopped h mode w).world
  rw [← prepareStart_world] at hreset
  have hmode : ∀ m, goal = some m → m = mode := by
    intro m hm
    by_contra hne
    refine hprevious (hasPrevious_only.mpr ⟨by rw [hm]; exact Option.some_ne_none m,
      fun hsame => hne ?_⟩)
    rw [hm] at hsame
    exact Option.some.inj hsame
  refine ⟨fun u hu => ?_, ?_, htears.graph stopWithin_le hr.graph, ?_⟩
  · by_cases hup : only goal u = .active
    · obtain ⟨m, hm, rfl⟩ := Option.map_eq_some_iff.mp (only_eq_active.mp hup)
      obtain rfl := hmode m hm
      rw [hup]
      exact hreset _ (htarget hm)
    · have hdown : only goal u = .inactive := only_of_ne (mt only_eq_active.mpr hup)
      have hbefore := hr.control u hu
      rw [hdown] at hbefore ⊢
      exact htears.lowers.down u hbefore
  · rcases hr.stands.rviz with hdown | ⟨hgoal, hup⟩
    · exact Or.inl (htears.lowers.down .rviz hdown)
    · rw [prepareStart_world]
      exact Or.inr ⟨hgoal, rising_resetFailedManagedUnits (hrviz (hmode _ hgoal).symm hup)⟩
  · rw [htears.started]
    exact Nat.le_trans hr.started htears.now_le

theorem Cleaning.stands {begun : ℕ} {calls : Action → ManagedUnit → ℕ}
    (hc : Cleaning begun (begun + showsWithin h) calls true w) : Stands h none w := by
  obtain ⟨hunits, -⟩ := hc.calm rfl
  exact ⟨fun u _ => hunits u, Or.inl (hunits .rviz),
    Nat.le_trans hc.graph (Nat.add_le_add_right hc.begun _), hc.started⟩

/-- The wait for the end is long enough for what a START has changed, too. -/
def CleansUp (p : Parameters) (h : Host p) : Prop :=
  showsWithin h + 5 * pace h.longestLook + ms p.cleanupStabilityMs ≤ ms p.cleanupTimeoutMs

theorem afterCleanup_stands {cleanup : Outcome World String} {begun : ℕ}
    {calls : Action → ManagedUnit → ℕ} (hresult : s.result = 0) (hok : cleanup.ok = true)
    (hclean : Cleaning begun (begun + showsWithin h) calls true cleanup.state) :
    (afterCleanup s cleanup).result = 0 ∧ Stands h none (afterCleanup s cleanup).world := by
  unfold afterCleanup
  rw [if_pos hok]
  exact ⟨hresult, hclean.stands⟩

/-- Then nothing is up, or only the stack that is to be started. -/
theorem stands_awaitCleanup (mode : Mode) (hcleans : CleansUp p h)
    (hr : Rests (showsWithin h) (only goal) w) :
    (awaitCleanup h (prepareStart h mode w)).1.result = 0 ∧ ∃ before,
      (before = none ∨ before = some mode) ∧
        Stands h before (awaitCleanup h (prepareStart h mode w)).1.world := by
  obtain ⟨hresult, hnoted, -, hfalls, -⟩ := stopped_spec (h := h) mode hr
  obtain ⟨hsameResult, hsameNoted⟩ := prepareStart_result (h := h) mode w
  have hzero : (prepareStart h mode w).result = 0 := hsameResult.trans hresult
  rw [← hsameNoted] at hnoted
  by_cases hprevious : HasPrevious mode (only goal)
  · have htears := prepareStart_tears (h := h) mode w
    obtain ⟨-, -, hreset⟩ := resetFailedManagedUnits_spec (h := h) (stopped h mode w).world
    rw [← prepareStart_world] at hreset
    have hstarted : (prepareStart h mode w).world.lifecycleStartedAt ≤
        (prepareStart h mode w).world.now := by
      rw [htears.started]
      exact Nat.le_trans hr.started htears.now_le
    obtain ⟨hok, hclean⟩ := waitForStackStopped_within stopWithin_le hcleans
      (fun u => hreset u (hfalls hprevious u)) (htears.graph stopWithin_le hr.graph) hstarted
    rw [awaitCleanup_of_stopped hzero (hnoted.mpr hprevious)]
    obtain ⟨hdone, hstands⟩ := afterCleanup_stands hzero hok hclean
    exact ⟨hdone, none, Or.inl rfl, hstands⟩
  · rw [awaitCleanup_of_not_stopped (mt hnoted.mp hprevious)]
    refine ⟨hzero, goal, ?_, stands_prepareStart hr hprevious⟩
    by_contra hneither
    obtain ⟨hnone, hother⟩ := not_or.mp hneither
    exact hprevious (hasPrevious_only.mpr ⟨hnone, hother⟩)

/-! ## The stack is started -/

/-- Every start of a stack shows at the second look at the latest. -/
def ShowsStarts (h : Host p) : Prop :=
  ∀ mode n, h.delay .start (unitForMode mode) n (unitForMode mode) ≤ 1

/-- The stack comes up, and RViz only with the simulation. -/
structure ComesUp (h : Host p) (mode : Mode) (w : World) : Prop where
  coming : Coming mode (w.now + showsWithin h + 1) false w
  shows : (w.units (unitForMode mode)).shown = .active ∨ (w.units (unitForMode mode)).left ≤ 1
  rviz : Settled (w.units .rviz) .inactive ∨ (mode = .simulation ∧ Rising (w.units .rviz))
  graph : w.graphDue ≤ w.now + showsWithin h

theorem stands_observeStart (mode : Mode) (hs : Stands h goal w) :
    Stands h goal (observeStart h mode w) := by
  unfold observeStart
  split
  · refine ⟨hs.control, hs.rviz, ?_, le_rfl⟩
    show max w.graphDue (w.now + h.startWithin) ≤ w.now + showsWithin h
    exact Nat.max_le.mpr ⟨hs.graph, Nat.add_le_add_left startWithin_le _⟩
  · exact hs

theorem only_some_of_ne {u : ManagedUnit} (hne : u ≠ unitForMode mode) :
    only (some mode) u = .inactive :=
  only_of_ne fun heq => hne (Option.some.inj heq).symm

/-- A stack that is up stays up. -/
theorem Stands.comesUp (hs : Stands h (some mode) w) : ComesUp h mode w := by
  have htarget := hs.control (unitForMode mode) (isControl_unitForMode mode)
  rw [only_unitForMode] at htarget
  refine ⟨⟨htarget.goal, fun u hu hne => ?_, Nat.le_succ_of_le hs.graph, hs.started,
    fun hcalm => by cases hcalm⟩, Or.inl htarget.shown, ?_, hs.graph⟩
  · rw [← only_some_of_ne hne]
    exact hs.control u hu
  · exact hs.rviz.imp_right fun hup => ⟨Option.some.inj hup.1, hup.2⟩

/-- RViz is started with the simulation, and not with the real stack. -/
theorem rviz_call_start (hs : Settled (w.units .rviz) .inactive) :
    Settled ((w.call h .start (unitForMode mode)).units .rviz) .inactive ∨
      (mode = .simulation ∧ Rising ((w.call h .start (unitForMode mode)).units .rviz)) := by
  cases mode with
  | simulation =>
    refine Or.inr ⟨rfl, ?_⟩
    show Rising (UnitLife.expect .active _ _ (w.units .rviz))
    unfold UnitLife.expect
    rw [if_neg (by rw [hs.goal]; decide)]
    exact ⟨rfl, by rw [hs.shown]; decide⟩
  | real =>
    refine Or.inl ?_
    rw [call_units_of_effect_eq (by rw [hs.goal]; rfl)]
    exact hs

/-- A stack that is down is started. -/
theorem Stands.start (hshows : ShowsStarts h) (hs : Stands h none w) :
    ComesUp h mode (w.call h .start (unitForMode mode)) := by
  have hdown : ∀ u : ManagedUnit, u.isControl = true → Settled (w.units u) .inactive := hs.control
  have htarget := hdown (unitForMode mode) (isControl_unitForMode mode)
  have hlife : (w.call h .start (unitForMode mode)).units (unitForMode mode) =
      { w.units (unitForMode mode) with
        goal := .active
        left := h.delay .start (unitForMode mode) (w.calls .start (unitForMode mode))
          (unitForMode mode)
        due := none } := by
    show UnitLife.expect _ _ _ (w.units (unitForMode mode)) = _
    rw [effect_start_self]
    unfold UnitLife.expect
    rw [if_neg (by rw [htarget.goal]; decide)]
    rfl
  have hgraph : (w.call h .start (unitForMode mode)).graphDue ≤
      (w.call h .start (unitForMode mode)).now + showsWithin h := by
    have hbefore := hs.graph
    have hle := startWithin_le (h := h)
    show max w.graphDue (w.now + _ + h.startWithin) ≤ w.now + _ + showsWithin h
    omega
  refine ⟨⟨by rw [hlife], fun u hu hne => ?_, Nat.le_succ_of_le hgraph,
    Nat.le_trans hs.started (Nat.le_add_right _ _), fun hcalm => by cases hcalm⟩, ?_, ?_, hgraph⟩
  · rw [call_units_of_effect_eq]
    · exact hdown u hu
    · rw [(hdown u hu).goal]
      exact effect_start_other hu hne
  · rw [hlife]
    exact Or.inr (hshows mode _)
  · exact rviz_call_start (hs.rviz.resolve_right fun hup => by cases hup.1)

theorem comesUp_startTarget (hshows : ShowsStarts h) (hresult : s.result = 0)
    {before : Option Mode} (hbefore : before = none ∨ before = some mode)
    (hs : Stands h before s.world) :
    (startTarget h mode s).result = 0 ∧ ComesUp h mode (startTarget h mode s).world := by
  have hobserved := stands_observeStart mode hs
  have hlooked := hobserved.passes (unitIsActive_looks h (unitForMode mode) _).passes
  have hactive := unitIsActive_of_settled (h := h)
    (hobserved.control (unitForMode mode) (isControl_unitForMode mode))
  unfold startTarget
  rw [if_pos hresult]
  dsimp only
  split
  · rename_i hyes
    have hup := (only_unitForMode_iff _).mp (hactive.mp hyes)
    rw [hup] at hlooked
    exact ⟨hresult, hlooked.comesUp⟩
  · rename_i hno
    have hdown : before = none :=
      hbefore.resolve_right fun hup => hno (hactive.mpr ((only_unitForMode_iff _).mpr hup))
    rw [hdown] at hlooked
    exact ⟨rfl, hlooked.start hshows⟩

/-! ## RUNNING -/

/-- Where a START that has succeeded leaves the units. -/
theorem ComesUp.ready (hc : ComesUp h mode w) :
    (waitForStackReady h (unitForMode mode) w).ok = true ∧
      Stands h (some mode) (waitForStackReady h (unitForMode mode) w).state := by
  obtain ⟨hok, hcoming⟩ := waitForStackReady_ok hc.coming hc.shows
  have hpasses := waitForStackReady_passes (h := h) (w := w) (unitForMode mode)
  refine ⟨hok, ?_⟩
  generalize (waitForStackReady h (unitForMode mode) w).state = after at hcoming hpasses ⊢
  refine ⟨fun u hu => ?_, ?_, ?_, hcoming.started⟩
  · by_cases htarget : u = unitForMode mode
    · rw [htarget, only_unitForMode]
      exact ⟨(hcoming.calm rfl).1, hcoming.goal⟩
    · rw [only_some_of_ne htarget]
      exact hcoming.others u hu htarget
  · exact hc.rviz.imp (fun hdown => hdown.watched (hpasses.unit .rviz))
      fun hup => ⟨by rw [hup.1], hup.2.watched (hpasses.unit .rviz)⟩
  · rw [hpasses.graphDue]
    exact Nat.le_trans hc.graph (Nat.add_le_add_right hpasses.now_le _)

theorem Stands.onlyActive (hs : Stands h (some mode) w) : OnlyActive mode w := by
  intro u hu
  have hunit := hs.control u hu
  split
  · rename_i htarget
    rw [htarget, only_unitForMode] at hunit
    rw [htarget]
    exact hunit
  · rename_i hne
    rw [only_some_of_ne hne] at hunit
    exact hunit

/-- RViz is started after the simulation, if it has not come up with it. -/
theorem Stands.startSimulationRviz (hs : Stands h (some .simulation) w) :
    Stands h (some .simulation) (startSimulationRviz h w) := by
  have hlooked := hs.passes (unitIsActive_looks h .rviz w).passes
  unfold Workspace.startSimulationRviz
  dsimp only
  split
  · exact hlooked
  · show Stands h (some .simulation) (World.call h _ .start .rviz)
    generalize (unitIsActive h .rviz w).2 = seen at hlooked ⊢
    refine ⟨fun u hu => ?_, Or.inr ⟨rfl, ?_⟩, ?_,
      Nat.le_trans hlooked.started (Nat.le_add_right _ _)⟩
    · rw [call_units_of_effect_eq]
      · exact hlooked.control u hu
      · rw [(hlooked.control u hu).goal]
        refine effect_start_rviz hu fun hreal => ?_
        rw [hreal]
        rfl
    · show Rising (UnitLife.expect (effect .start .rviz .rviz _) _ _ (seen.units .rviz))
      rw [effect_start_self]
      have hshown : (seen.units .rviz).shown ≠ .failed := by
        rcases hlooked.rviz with hdown | ⟨-, hup⟩
        · rw [hdown.shown]
          decide
        · exact hup.shown
      unfold UnitLife.expect
      split
      · rename_i hgoal
        exact ⟨hgoal.symm, hshown⟩
      · exact ⟨rfl, hshown⟩
    · have hbefore := hlooked.graph
      have hle := startWithin_le (h := h)
      show max seen.graphDue (seen.now + _ + h.startWithin) ≤ seen.now + _ + showsWithin h
      omega

variable {n : Supervisor} {commandSeq : ℕ} {r : Report}

/-- The worker of a START succeeds. -/
theorem startWorker_spec (hcleans : CleansUp p h) (hshows : ShowsStarts h) (mode : Mode)
    (hr : Rests (showsWithin h) (only goal) w) :
    (startWorker h mode w).succeeded = true ∧ Stands h (some mode) (startWorker h mode w).world ∧
      Wait.Unbroken (ms p.readinessStabilityMs) (startWorker h mode w).readinessPolls := by
  obtain ⟨hcleaned, before, hbefore, hstands⟩ := stands_awaitCleanup mode hcleans hr
  obtain ⟨hresult, hcomes⟩ := comesUp_startTarget hshows hcleaned hbefore hstands
  obtain ⟨cleanupIssues, hreport⟩ := startWorker_of_result hresult
  generalize (startTarget h mode (awaitCleanup h (prepareStart h mode w)).1).world = begun
    at hcomes hreport
  obtain ⟨hok, hready⟩ := hcomes.ready
  have hpolls := Wait.unbroken_of_ok_none hok
  rw [hreport, reportReady_succeeded]
  obtain ⟨hworld, hhistory⟩ := reportReady_of_ok (h := h) mode _ cleanupIssues hok
  rw [hworld, hhistory]
  exact ⟨hok, hready, hpolls⟩

theorem finishStart_rests (hok : r.succeeded = true) (hs : Stands h (some mode) r.world) :
    Rests (showsWithin h) (only (some mode)) (n.finishStart h commandSeq mode r).world := by
  have hstands : Stands h (some mode) (n.finishStart h commandSeq mode r).world := by
    unfold Supervisor.finishStart
    rw [if_pos hok]
    cases mode with
    | simulation => exact hs.startSimulationRviz
    | real => exact hs
  exact hstands.rests fun hnone => by cases hnone

/-- A START is accepted wherever another command has left the units. -/
theorem acceptStart_spec (commandSeq : ℕ) (mode : Mode)
    (hr : Rests (showsWithin h) (only goal) n.world) :
    (n.acceptStart h commandSeq mode).2 = true ∧
      AcceptsLast commandSeq (n.acceptStart h commandSeq mode).1 ∧
      Rests (showsWithin h) (only goal) (n.acceptStart h commandSeq mode).1.world := by
  have hlooked := hr.passes (anyStackIsActive_looks (h := h) n.world).passes
  unfold Supervisor.acceptStart
  dsimp only
  by_cases hany : (anyStackIsActive h n.world).1 = true
  · rw [if_pos hany, if_pos List.isEmpty_nil]
    exact ⟨rfl, acceptsLast_publishStatus, hlooked⟩
  · have hnone : ∀ u : ManagedUnit, u.isControl = true → only goal u ≠ .active := fun _ hu =>
      hr.not_active hany hu
    have hnil := (collectUnmanagedStackIssues_eq_nil_iff (h := h) fun u hu => by
      rw [(hlooked.control u hu).goal]
      exact hnone u hu).mpr (Or.inl (hlooked.quiet hnone))
    rw [if_neg hany, if_pos (List.isEmpty_iff.mpr hnil)]
    exact ⟨rfl, acceptsLast_publishStatus,
      hlooked.passes (collectUnmanagedStackIssues_looks h _).passes⟩

/-! ## Operations -/

variable {script : CleanupScript} {allowedSource : String}

/-- What an operation has to end as. -/
def Ends (p : Parameters) (commandSeq : ℕ) (n : Supervisor) : Option Mode → Prop
  | none => EndsStopped commandSeq n
  | some mode => EndsRunning p mode n ∧
      n.published.getLast? = some ⟨commandSeq, .running, some mode, true, "start completed"⟩

/-- The worker ends a START as RUNNING. -/
theorem carryOutStart_spec (hcleans : CleansUp p h) (hshows : ShowsStarts h) (mode : Mode)
    (hr : Rests (showsWithin h) (only goal) n.world) :
    Ends p commandSeq (n.carryOutStart h commandSeq mode) (some mode) ∧
      Rests (showsWithin h) (only (some mode)) (n.carryOutStart h commandSeq mode).world := by
  obtain ⟨hok, hstands, hpolls⟩ := startWorker_spec hcleans hshows mode hr
  refine ⟨⟨finishStart_of_succeeded hok hstands.onlyActive hpolls, ?_⟩,
    finishStart_rests hok hstands⟩
  unfold Supervisor.carryOutStart Supervisor.finishStart
  rw [if_pos hok]
  exact List.getLast?_concat ..

/-- Where the node is between two events: the units follow the commands that are not refused. -/
inductive Follows (h : Host p) (goal : Option Mode) : WorkspaceNode → Prop where
  | idle {s : Supervisor} : Rests (showsWithin h) (only goal) s.world → Follows h goal ⟨s, none⟩
  /-- A STOP finds the units anywhere, and a START where another command has left them. -/
  | accepted {s : Supervisor} {operation : Operation} {commandSeq : ℕ}
    {states : ManagedUnit → UnitState} :
    operation.goal = goal → Rests (showsWithin h) states s.world →
    (goal ≠ none → ∃ before, states = only before) →
    Follows h goal ⟨s, some ⟨operation, commandSeq, false⟩⟩
  | reported {s : Supervisor} {operation : Operation} {commandSeq : ℕ} :
    operation.goal = goal → Rests (showsWithin h) (only goal) s.world →
    Follows h goal ⟨s, some ⟨operation, commandSeq, true⟩⟩

variable {node node' : WorkspaceNode}

theorem Follows.passes (hf : Follows h goal node) (hoperation : node'.operation = node.operation)
    (hp : Passes node.supervisor.world node'.supervisor.world) : Follows h goal node' := by
  obtain ⟨s', operation'⟩ := node'
  cases hf with
  | idle hr =>
    obtain rfl := hoperation
    exact .idle (hr.passes hp)
  | accepted hgoal hr hbefore =>
    obtain rfl := hoperation
    exact .accepted hgoal (hr.passes hp) hbefore
  | reported hgoal hr =>
    obtain rfl := hoperation
    exact .reported hgoal (hr.passes hp)

theorem Follows.rests (hf : Follows h goal node) (hnone : node.operation = none) :
    Rests (showsWithin h) (only goal) node.supervisor.world := by
  cases hf with
  | idle hr => exact hr
  | accepted => cases hnone
  | reported => cases hnone

/-- The worker ends its operation as what was asked for. -/
theorem Follows.carryOut (script : CleanupScript) (hcleans : CleansUp p h) (hshows : ShowsStarts h)
    {operation : Operation} (hf : Follows h goal node)
    (hsome : node.operation = some ⟨operation, commandSeq, false⟩) :
    Ends p commandSeq (node.carryOut h script commandSeq operation) goal ∧
      operation.goal = goal ∧
      Rests (showsWithin h) (only goal) (node.carryOut h script commandSeq operation).world := by
  cases hf with
  | idle => cases hsome
  | reported => cases hsome
  | accepted hgoal hr hbefore =>
    cases hsome
    cases operation with
    | start mode =>
      obtain rfl : some mode = goal := hgoal
      obtain ⟨before, rfl⟩ := hbefore (Option.some_ne_none mode)
      obtain ⟨hends, hrests⟩ := carryOutStart_spec hcleans hshows mode hr
      exact ⟨hends, rfl, hrests⟩
    | stop mode =>
      obtain rfl : none = goal := hgoal
      obtain ⟨hends, hrests⟩ := carryOutStop_spec script stopWithin_le hcleans hr
      exact ⟨hends, rfl, hrests⟩

/-- What becomes of a START or a STOP between operations: the worker gets it, or a STOP has nothing
to do. -/
def Taken (commandSeq : ℕ) (asked : Option Mode) (node : WorkspaceNode) : Prop :=
  (∃ operation, operation.goal = asked ∧ node.operation = some ⟨operation, commandSeq, false⟩ ∧
    AcceptsLast commandSeq node.supervisor) ∨
  (asked = none ∧ node.operation = none ∧ EndsStopped commandSeq node.supervisor)

theorem accept_stop {states : ManagedUnit → UnitState}
    (hr : Rests (showsWithin h) states node.supervisor.world) :
    Taken commandSeq none (node.accept h commandSeq none) ∧
      Follows h none (node.accept h commandSeq none) := by
  unfold WorkspaceNode.accept
  dsimp only
  obtain ⟨hended, hstopped, hrests⟩ | ⟨haccepted, hlast, hrests⟩ :=
    acceptStop_spec (h := h) commandSeq hr
  · rw [if_neg (by rw [hended]; decide)]
    exact ⟨Or.inr ⟨rfl, rfl, hstopped⟩, .idle hrests⟩
  · rw [if_pos haccepted]
    exact ⟨Or.inl ⟨_, rfl, rfl, hlast⟩, .accepted rfl hrests fun hsome => absurd rfl hsome⟩

theorem accept_start (hr : Rests (showsWithin h) (only goal) node.supervisor.world) :
    Taken commandSeq (some mode) (node.accept h commandSeq (some mode)) ∧
      Follows h (some mode) (node.accept h commandSeq (some mode)) := by
  obtain ⟨haccepted, hlast, hrests⟩ := acceptStart_spec commandSeq mode hr
  unfold WorkspaceNode.accept
  dsimp only
  rw [if_pos haccepted]
  exact ⟨Or.inl ⟨_, rfl, rfl, hlast⟩, .accepted rfl hrests fun _ => ⟨goal, rfl⟩⟩

/-- Between operations every START and every STOP is taken. -/
theorem Follows.accept (hf : Follows h goal node) (hnone : node.operation = none)
    (asked : Option Mode) :
    Taken commandSeq asked (node.accept h commandSeq asked) ∧
      Follows h asked (node.accept h commandSeq asked) := by
  cases asked with
  | none => exact accept_stop (hf.rests hnone)
  | some mode => exact accept_start (hf.rests hnone)

/-! ## Commands that ask for something, and the others -/

/-- The steps, one constructor for each. -/
inductive Moves (h : Host p) (script : CleanupScript) (allowedSource : String)
    (node : WorkspaceNode) : Event → WorkspaceNode → Prop where
  | command (msg : WorkspaceControl) :
    Moves h script allowedSource node (.command msg) (node.handleCommand h allowedSource msg)
  | timer : Moves h script allowedSource node .timer (node.refreshStatus h)
  | report (operation : Operation) (commandSeq : ℕ) :
    node.operation = some ⟨operation, commandSeq, false⟩ →
    Moves h script allowedSource node .report
      ⟨node.carryOut h script commandSeq operation, some ⟨operation, commandSeq, true⟩⟩
  | finish (operation : Operation) (commandSeq : ℕ) :
    node.operation = some ⟨operation, commandSeq, true⟩ →
    Moves h script allowedSource node .finish { node with operation := none }
  | elapse (duration : ℕ) :
    Moves h script allowedSource node (.elapse duration) (node.elapse duration)

theorem moves_of_step {e : Event} (hstep : step h script allowedSource node e = some node') :
    Moves h script allowedSource node e node' := by
  cases e with
  | command msg =>
    obtain rfl := Option.some.inj hstep
    exact .command msg
  | timer =>
    obtain rfl := Option.some.inj hstep
    exact .timer
  | report =>
    unfold step at hstep
    dsimp only at hstep
    split at hstep
    · rename_i operation commandSeq hsome
      obtain rfl := Option.some.inj hstep
      exact .report operation commandSeq hsome
    · cases hstep
  | finish =>
    unfold step at hstep
    dsimp only at hstep
    split at hstep
    · rename_i operation commandSeq hsome
      obtain rfl := Option.some.inj hstep
      exact .finish operation commandSeq hsome
    · cases hstep
  | elapse duration =>
    obtain rfl := Option.some.inj hstep
    exact .elapse duration

theorem Rests.shown_iff {within : ℕ} (hr : Rests within (only goal) w) {u : ManagedUnit}
    (hu : u.isControl = true) :
    (w.units u).shown = .active ↔ goal.map unitForMode = some u := by
  rw [(hr.control u hu).shown, only_eq_active]

end

end JointController.Workspace
