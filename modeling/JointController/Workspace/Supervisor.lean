import JointController.Workspace.Systemd

/-!
# The workspace supervisor

The supervisor starts and stops the stacks with `systemctl` and waits until that shows.

* `collectStoppedIssues`, `waitForStackStopped`: all units are down and nothing of a stack is left.
* `collectReadinessIssues`, `waitForStackReady`: a stack is up and stays ready.
* `prepareStart`, `startWorker`: what a START does.
* `Supervisor.handleStart`: a START command, from its acceptance to the status at its end.
-/

namespace JointController.Workspace

open StableWait

section

variable {p : Parameters} (h : Host p)

/-! ## Units -/

/-- `unit_is_active`. -/
def unitIsActive (u : ManagedUnit) (w : World) : Bool × World :=
  let seen := w.unitState h u
  (seen.1 == .active, seen.2)

/-- `unit_is_failed`. -/
def unitIsFailed (u : ManagedUnit) (w : World) : Bool × World :=
  let seen := w.unitState h u
  (seen.1 == .failed, seen.2)

/-- `unit_is_active(unit) || unit_is_failed(unit)`. -/
def unitIsPresent (u : ManagedUnit) (w : World) : Bool × World :=
  let active := unitIsActive h u w
  if active.1 then active else unitIsFailed h u active.2

/-- One of the units is active. -/
def anyIsActive : List ManagedUnit → World → Bool × World
  | [], w => (false, w)
  | u :: units, w =>
    let active := unitIsActive h u w
    if active.1 then active else anyIsActive units active.2

/-- `any_stack_is_active`. -/
def anyStackIsActive (w : World) : Bool × World :=
  anyIsActive h [.simulationStack, .realStack, .legacyStack, .bootRobot] w

/-- What `reset_failed_managed_units` does to a unit. -/
def resetIfFailed (w : World) (u : ManagedUnit) : World :=
  let failed := unitIsFailed h u w
  if failed.1 then (failed.2.runSystemctl h .resetFailed u).2 else failed.2

/-- `reset_failed_managed_units`. -/
def resetFailedManagedUnits (w : World) : World := ManagedUnit.all.foldl (resetIfFailed h) w

/-- `start_simulation_rviz`. -/
def startSimulationRviz (w : World) : World :=
  let active := unitIsActive h .rviz w
  if active.1 then active.2 else (active.2.runSystemctl h .start .rviz).2

/-- `stop_simulation_rviz`. -/
def stopSimulationRviz (w : World) : World :=
  let present := unitIsPresent h .rviz w
  if present.1 then (present.2.runSystemctl h .stop .rviz).2 else present.2

/-! ## Waiting for the end -/

/-- A unit that is not down. -/
def unitIssue (u : ManagedUnit) (w : World) : List String × World :=
  let active := unitIsActive h u w
  if active.1 then (["active unit: " ++ u.name], active.2)
  else
    let failed := unitIsFailed h u active.2
    if failed.1 then (["failed unit: " ++ u.name], failed.2) else ([], failed.2)

/-- The units of a list that are not down. -/
def unitIssues : List ManagedUnit → World → List String × World
  | [], w => ([], w)
  | u :: units, w =>
    let first := unitIssue h u w
    let rest := unitIssues units first.2
    (first.1 ++ rest.1, rest.2)

/-- `collect_unmanaged_stack_issues`. -/
def collectUnmanagedStackIssues (w : World) : List String × World :=
  let seen := w.takeSnapshot h
  (unmanagedStackIssues seen.1, seen.2)

/-- `collect_stopped_issues`. -/
def collectStoppedIssues (w : World) : List String × World :=
  let units := unitIssues h ManagedUnit.all w
  let unmanaged := collectUnmanagedStackIssues h units.2
  (units.1 ++ unmanaged.1, unmanaged.2)

theorem unitIsActive_looks (u : ManagedUnit) (w : World) :
    Looks h 1 w (unitIsActive h u w).2 := unitState_looks u

theorem unitIsFailed_looks (u : ManagedUnit) (w : World) :
    Looks h 1 w (unitIsFailed h u w).2 := unitState_looks u

theorem unitIsPresent_looks (u : ManagedUnit) (w : World) :
    Looks h 2 w (unitIsPresent h u w).2 := by
  unfold unitIsPresent
  dsimp only
  split
  · exact (unitIsActive_looks h u w).mono (by decide)
  · exact (unitIsActive_looks h u w).trans (unitIsFailed_looks h u _)

theorem anyIsActive_looks (units : List ManagedUnit) (w : World) :
    Looks h units.length w (anyIsActive h units w).2 := by
  induction units generalizing w with
  | nil => exact .refl _ _
  | cons u units ih =>
    rw [anyIsActive, List.length_cons, Nat.add_comm]
    split
    · exact (unitIsActive_looks h u w).mono (Nat.le_add_right _ _)
    · exact (unitIsActive_looks h u w).trans (ih _)

theorem unitIssue_looks (u : ManagedUnit) (w : World) : Looks h 2 w (unitIssue h u w).2 := by
  unfold unitIssue
  dsimp only
  split
  · exact (unitIsActive_looks h u w).mono (by decide)
  · split <;> exact (unitIsActive_looks h u w).trans (unitIsFailed_looks h u _)

theorem unitIssues_looks (units : List ManagedUnit) (w : World) :
    Looks h (2 * units.length) w (unitIssues h units w).2 := by
  induction units generalizing w with
  | nil => exact .refl _ _
  | cons u units ih =>
    rw [unitIssues, List.length_cons, Nat.mul_add, Nat.add_comm]
    exact (unitIssue_looks h u w).trans (ih _)

theorem collectUnmanagedStackIssues_looks (w : World) :
    Looks h 1 w (collectUnmanagedStackIssues h w).2 := takeSnapshot_looks

theorem collectStoppedIssues_looks (w : World) :
    Looks h 11 w (collectStoppedIssues h w).2 :=
  (unitIssues_looks h ManagedUnit.all w).trans (collectUnmanagedStackIssues_looks h _)

theorem now_lt_sleep (w : World) : w.now < w.sleep.now :=
  Nat.lt_add_of_pos_right (by decide)

/-- The loop of `wait_for_stack_stopped`.  The node is not shut down in it. -/
def stoppedWait : Wait World String where
  now := World.now
  poll := collectStoppedIssues h
  accept w :=
    let again := collectStoppedIssues h w
    (again.1.isEmpty, again.1, again.2)
  proceed w := .ok w.sleep
  expire w :=
    let last := collectStoppedIssues h w
    if last.1.isEmpty then
      (["cleanup did not remain continuously clean for " ++ toString p.cleanupStabilityMs ++
        "ms before timeout"], last.2)
    else last
  now_poll w := (collectStoppedIssues_looks h w).now_le
  now_proceed w w' hproceed := by
    obtain rfl := Except.ok.inj hproceed
    exact now_lt_sleep w

/-- `wait_for_stack_stopped`. -/
def waitForStackStopped (w : World) : Outcome World String :=
  (stoppedWait h).run (ms p.cleanupStabilityMs) (w.now + ms p.cleanupTimeoutMs) none w

/-! ## Waiting for a stack -/

/-- `collect_readiness_issues`, with the arms powered off. -/
def collectReadinessIssues (u : ManagedUnit) (w : World) : List String × World :=
  let active := unitIsActive h u w
  if active.1 then
    let seen := active.2.takeSnapshot h
    (readinessIssues u ⟨seen.2.lifecycleStartedAt, p.hardwareFeedbackTimeoutMs, seen.2.now⟩
      seen.1 true, seen.2)
  else (["unit inactive: " ++ u.name], active.2)

/-- After a while the wait for the real stack looks at the hardware, to log its issues. -/
def observeHardware (u : ManagedUnit) (startedAt : ℕ) (w : World) : World :=
  if u = .realStack ∧ startedAt + ms p.realHardwareReadinessTimeoutMs ≤ w.now then
    (w.takeSnapshot h).2
  else w

theorem collectReadinessIssues_looks (u : ManagedUnit) (w : World) :
    Looks h 2 w (collectReadinessIssues h u w).2 := by
  unfold collectReadinessIssues
  dsimp only
  split
  · exact (unitIsActive_looks h u w).trans takeSnapshot_looks
  · exact (unitIsActive_looks h u w).mono (by decide)

theorem observeHardware_looks (u : ManagedUnit) (startedAt : ℕ) (w : World) :
    Looks h 1 w (observeHardware h u startedAt w) := by
  unfold observeHardware
  split
  · exact takeSnapshot_looks
  · exact .refl _ _

/-- What `wait_for_stack_ready` does between two polls: it gives up if the unit is not active. -/
def readyProceed (u : ManagedUnit) (startedAt : ℕ) (w : World) :
    Except (List String × World) World :=
  let active := unitIsActive h u (observeHardware h u startedAt w)
  if active.1 then .ok active.2.sleep else .error (collectReadinessIssues h u active.2)

theorem readyProceed_looks (u : ManagedUnit) (startedAt : ℕ) (w : World) :
    Looks h 2 w (unitIsActive h u (observeHardware h u startedAt w)).2 :=
  (observeHardware_looks h u startedAt w).trans (unitIsActive_looks h u _)

/-- The loop of `wait_for_stack_ready`.  The node is not shut down in it. -/
def readyWait (u : ManagedUnit) (startedAt : ℕ) : Wait World String where
  now := World.now
  poll := collectReadinessIssues h u
  accept w :=
    let again := collectReadinessIssues h u w
    if again.1.isEmpty then
      let active := unitIsActive h u again.2
      (active.1, again.1, active.2)
    else (false, again.1, again.2)
  proceed := readyProceed h u startedAt
  expire w :=
    let last := collectReadinessIssues h u w
    if last.1.isEmpty then
      (["workspace readiness did not remain stable for " ++ toString p.readinessStabilityMs ++
        "ms before timeout"], last.2)
    else last
  now_poll w := (collectReadinessIssues_looks h u w).now_le
  now_proceed w w' hproceed := by
    unfold readyProceed at hproceed
    dsimp only at hproceed
    split at hproceed
    · obtain rfl := Except.ok.inj hproceed
      exact Nat.lt_of_le_of_lt (readyProceed_looks h u startedAt w).now_le (now_lt_sleep _)
    · cases hproceed

/-- `wait_for_stack_ready`. -/
def waitForStackReady (u : ManagedUnit) (w : World) : Outcome World String :=
  (readyWait h u w.now).run (ms p.readinessStabilityMs) (w.now + ms p.startupTimeoutMs) none w

/-! ## START -/

/-- The result of the calls so far, and whether another stack was stopped. -/
structure Preparation where
  result : ℤ
  stoppedPreviousStack : Bool
  world : World

/-- A failed unit is stopped before it is started again. -/
def stopFailedTarget (target : ManagedUnit) (w : World) : Preparation :=
  let active := unitIsActive h target w
  if active.1 then ⟨0, false, active.2⟩
  else
    let failed := unitIsFailed h target active.2
    if failed.1 then
      let stopped := failed.2.runSystemctl h .stop target
      ⟨stopped.1, false, stopped.2⟩
    else ⟨0, false, failed.2⟩

/-- Another unit is stopped if it is active or failed. -/
def stopPrevious (applies : Bool) (u : ManagedUnit) (s : Preparation) : Preparation :=
  if s.result = 0 ∧ applies = true then
    let present := unitIsPresent h u s.world
    if present.1 then
      let stopped := present.2.runSystemctl h .stop u
      ⟨stopped.1, true, stopped.2⟩
    else { s with world := present.2 }
  else s

/-- The part of a START that stops everything else. -/
def prepareStart (mode : Mode) (w : World) : Preparation :=
  let s := stopFailedTarget h (unitForMode mode) w
  let s := if mode ≠ .simulation then { s with world := stopSimulationRviz h s.world } else s
  let s := stopPrevious h true .bootRobot s
  let s := stopPrevious h (mode != .simulation) .simulationStack s
  let s := stopPrevious h (mode != .real) .realStack s
  let s := stopPrevious h true .legacyStack s
  { s with world := resetFailedManagedUnits h s.world }

/-- What a START has come to. -/
structure Report where
  succeeded : Bool
  result : ℤ
  cleanupIssues : List String
  readinessIssues : List String
  /-- The polls of the wait for the stack. -/
  readinessPolls : List (ℕ × List String)
  world : World

/-- What the end of `wait_for_stack_stopped` changes of a preparation. -/
def afterCleanup (s : Preparation) (cleanup : Outcome World String) : Preparation :=
  { s with result := if cleanup.ok then s.result else 125, world := cleanup.state }

/-- The wait for the end, if another stack was stopped. -/
def awaitCleanup (s : Preparation) : Preparation × List String :=
  if s.result = 0 ∧ s.stoppedPreviousStack = true then
    let cleanup := waitForStackStopped h s.world
    (afterCleanup s cleanup, cleanup.issues)
  else (s, [])

/-- The samples of the hardware are dropped before the real stack is started. -/
def observeStart (mode : Mode) (w : World) : World :=
  if mode = .real then w.beginRealHardwareObservation h else w

/-- The call that starts the stack, if it is not active yet. -/
def startTarget (mode : Mode) (s : Preparation) : Preparation :=
  if s.result = 0 then
    let active := unitIsActive h (unitForMode mode) (observeStart h mode s.world)
    if active.1 then { s with world := active.2 }
    else
      let started := active.2.runSystemctl h .start (unitForMode mode)
      { s with result := started.1, world := started.2 }
  else s

/-- A stack that did not become ready is stopped again. -/
def stopIncomplete (target : ManagedUnit) (issues : List String) (w : World) :
    List String × World :=
  let present := unitIsPresent h target w
  let stopped := if present.1 then present.2.runSystemctl h .stop target else (0, present.2)
  let issues :=
    if stopped.1 ≠ 0 then
      issues ++ ["failed to stop incomplete stack: systemctl exit=" ++ toString stopped.1]
    else issues
  let cleanup := waitForStackStopped h (resetFailedManagedUnits h stopped.2)
  (if cleanup.ok then issues
    else issues ++ ["incomplete stack cleanup timed out: " ++ join cleanup.issues], cleanup.state)

/-- What a START has come to after the wait for the stack. -/
def reportReady (mode : Mode) (result : ℤ) (cleanupIssues : List String)
    (ready : Outcome World String) : Report :=
  if ready.ok then ⟨true, result, cleanupIssues, ready.issues, ready.history, ready.state⟩
  else
    let stopped := stopIncomplete h (unitForMode mode) ready.issues ready.state
    ⟨false, result, cleanupIssues, stopped.1, ready.history, stopped.2⟩

/-- The worker of a START. -/
def startWorker (mode : Mode) (w : World) : Report :=
  let cleaned := awaitCleanup h (prepareStart h mode w)
  let s := startTarget h mode cleaned.1
  if s.result = 0 then
    reportReady h mode s.result cleaned.2 (waitForStackReady h (unitForMode mode) s.world)
  else ⟨false, s.result, cleaned.2, [], [], s.world⟩

/-! ## The node -/

/-- `WorkspaceStatus`: the states. -/
inductive WorkspaceState where
  | stopped
  | starting
  | running
  | stopping
  | error
  deriving DecidableEq

/-- `WorkspaceStatus`: what the node publishes.  Without a mode it is unknown. -/
structure Status where
  commandSeq : ℕ
  state : WorkspaceState
  mode : Option Mode
  accepted : Bool
  message : String
  deriving DecidableEq

/-- The node, with the statuses that it has published. -/
structure Supervisor where
  currentState : WorkspaceState
  currentMode : Option Mode
  published : List Status
  /-- The polls of the last wait for a stack. -/
  readinessPolls : List (ℕ × List String)
  world : World

namespace Supervisor

/-- A node that has just looked at its units. -/
def idle (w : World) : Supervisor := ⟨.stopped, none, [], [], w⟩

variable (s : Supervisor)

/-- `publish_status`. -/
def publishStatus (commandSeq : ℕ) (accepted : Bool) (message : String) : Supervisor :=
  { s with
    published := s.published ++ [⟨commandSeq, s.currentState, s.currentMode, accepted, message⟩] }

/-- The text of a failed START. -/
def startFailed (mode : Mode) (r : Report) : String :=
  "start failed (mode=" ++ (if mode = .real then "REAL" else "SIMULATION") ++
    ", systemctl exit=" ++ toString r.result ++ ")" ++
    (if r.readinessIssues.isEmpty then "" else "; readiness: " ++ join r.readinessIssues) ++
    (if r.cleanupIssues.isEmpty then "" else "; cleanup: " ++ join r.cleanupIssues)

/-- The end of the worker. -/
def finishStart (commandSeq : ℕ) (mode : Mode) (r : Report) : Supervisor :=
  if r.succeeded then
    let world := if mode = .simulation then startSimulationRviz h r.world else r.world
    { s with
      currentState := .running
      currentMode := some mode
      readinessPolls := r.readinessPolls
      world := world : Supervisor }.publishStatus commandSeq true "start completed"
  else
    { s with
      currentState := .error
      currentMode := some mode
      readinessPolls := r.readinessPolls
      world := r.world : Supervisor }.publishStatus commandSeq false (startFailed mode r)

/-- `handle_command` with a START, while no operation is in progress, up to its worker.  Whether it
is accepted comes second. -/
def acceptStart (commandSeq : ℕ) (mode : Mode) : Supervisor × Bool :=
  let active := anyStackIsActive h s.world
  let unmanaged :=
    if active.1 then (([] : List String), active.2) else collectUnmanagedStackIssues h active.2
  if unmanaged.1.isEmpty then
    ({ s with
      currentState := .starting
      currentMode := some mode
      world := unmanaged.2 : Supervisor }.publishStatus commandSeq true "start accepted", true)
  else
    ({ s with
      currentState := .error
      currentMode := none
      world := unmanaged.2 : Supervisor }.publishStatus commandSeq false
        ("start rejected; unmanaged control processes detected: " ++ join unmanaged.1), false)

/-- The worker of a START, and its end. -/
def carryOutStart (commandSeq : ℕ) (mode : Mode) : Supervisor :=
  s.finishStart h commandSeq mode (startWorker h mode s.world)

/-- A START that finds no operation in progress, and its worker. -/
def handleStart (commandSeq : ℕ) (mode : Mode) : Supervisor :=
  let accepted := s.acceptStart h commandSeq mode
  if accepted.2 then accepted.1.carryOutStart h commandSeq mode else accepted.1

end Supervisor

end

end JointController.Workspace
