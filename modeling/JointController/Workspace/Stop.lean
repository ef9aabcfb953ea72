import JointController.Workspace.StartToRunning

/-!
# A STOP

A STOP stops RViz and every control unit, resets the failed ones and waits until nothing is left.
If only remains without a unit are there, a script ends them.

* `CleanupScript`: the script, of which the exit code and the effect on the units are known.
* `Supervisor.handleStop`: a STOP command, from its acceptance to the status at its end.
* `Passes`: what time and looks can change, with `waitForStackReady_passes`.
* `Tears`: looks, stops and resets, one after the other.
* `Rests`: where a command finds the units.
* `stopWorker_spec`, `endsStopped_handleStop`: from every combination of states a STOP ends as
  STOPPED with all units down.
-/

namespace JointController.Workspace

open StableWait

section

variable {p : Parameters}

/-- What the passing of time and looks can change. -/
structure Passes (w w' : World) : Prop where
  now_le : w.now ≤ w'.now
  unit : ∀ u, Watched (w.units u) (w'.units u)
  graphLeft : w'.graphLeft ≤ w.graphLeft
  graphDue : w'.graphDue = w.graphDue
  calls : w'.calls = w.calls
  started : w'.lifecycleStartedAt = w.lifecycleStartedAt

/-- `stop.sh`, which ends processes by their command lines.  Its last command succeeds.  The units
are left alone when none of them is up. -/
structure CleanupScript where
  run : World → ℤ × World
  exit : ∀ w, (run w).1 = 0
  passes : ∀ w, (∀ u, (w.units u).goal ≠ .active) → Passes w (run w).2

variable (h : Host p) (script : CleanupScript)

/-- `any_managed_unit_is_failed`, for the units of a list. -/
def anyIsFailed : List ManagedUnit → World → Bool × World
  | [], w => (false, w)
  | u :: units, w =>
    let failed := unitIsFailed h u w
    if failed.1 then failed else anyIsFailed units failed.2

/-- `any_managed_unit_is_failed`. -/
def anyManagedUnitIsFailed (w : World) : Bool × World := anyIsFailed h ManagedUnit.all w

/-- `bootRobot` is looked at in any case. -/
def stopBootRobot (r : ℤ × World) : ℤ × World :=
  let present := unitIsPresent h .bootRobot r.2
  if present.1 then
    if r.1 = 0 then present.2.runSystemctl h .stop .bootRobot else (r.1, present.2)
  else (r.1, present.2)

/-- The other units are looked at as long as every call has succeeded. -/
def stopManaged (r : ℤ × World) (u : ManagedUnit) : ℤ × World :=
  if r.1 = 0 then
    let present := unitIsPresent h u r.2
    if present.1 then present.2.runSystemctl h .stop u else (r.1, present.2)
  else r

/-- Remains without a unit are ended by the script. -/
def cleanUnmanaged (w : World) : ℤ × World :=
  let active := anyStackIsActive h w
  if active.1 then (0, active.2)
  else
    let unmanaged := collectUnmanagedStackIssues h active.2
    if unmanaged.1.isEmpty then (0, unmanaged.2) else script.run unmanaged.2

/-- The part of a STOP that stops everything. -/
def stopStacks (w : World) : ℤ × World :=
  let cleaned := cleanUnmanaged h script (stopSimulationRviz h w)
  let stopped := [ManagedUnit.simulationStack, .realStack, .legacyStack].foldl (stopManaged h)
    (stopBootRobot h cleaned)
  (stopped.1, resetFailedManagedUnits h stopped.2)

/-- What a STOP has come to after the wait for the end. -/
def reportStopped (result : ℤ) (cleanup : Outcome World String) : Report :=
  ⟨cleanup.ok, result, cleanup.issues, [], [], cleanup.state⟩

/-- The worker of a STOP. -/
def stopWorker (w : World) : Report :=
  let stopped := stopStacks h script w
  if stopped.1 = 0 then reportStopped stopped.1 (waitForStackStopped h stopped.2)
  else ⟨false, stopped.1, [], [], [], stopped.2⟩

namespace Supervisor

variable (s : Supervisor)

/-- The text of a failed STOP. -/
def stopFailed (mode : Option Mode) (r : Report) : String :=
  "stop failed (mode=" ++ (if mode = some .real then "REAL" else "SIMULATION") ++
    ", systemctl exit=" ++ toString r.result ++ ")" ++
    (if r.cleanupIssues.isEmpty then "" else "; cleanup: " ++ join r.cleanupIssues)

/-- The end of the worker. -/
def finishStop (commandSeq : ℕ) (mode : Option Mode) (r : Report) : Supervisor :=
  if r.succeeded then
    { s with
      currentState := .stopped
      currentMode := none
      world := r.world : Supervisor }.publishStatus commandSeq true "stop completed"
  else
    { s with
      currentState := .error
      currentMode := none
      world := r.world : Supervisor }.publishStatus commandSeq false (stopFailed mode r)

/-- The looks with which a STOP begins: whether there is nothing to do. -/
def nothingToStop (w : World) : Bool × World :=
  let active := anyStackIsActive h w
  if active.1 then (false, active.2)
  else
    let unmanaged := collectUnmanagedStackIssues h active.2
    if unmanaged.1.isEmpty then
      let failed := anyManagedUnitIsFailed h unmanaged.2
      if failed.1 then (false, failed.2)
      else
        let rviz := unitIsActive h .rviz failed.2
        (!rviz.1, rviz.2)
    else (false, unmanaged.2)

/-- `handle_command` with a STOP, while no operation is in progress, up to its worker.  Whether it
is accepted comes second. -/
def acceptStop (commandSeq : ℕ) : Supervisor × Bool :=
  let looked := nothingToStop h s.world
  if looked.1 then
    ({ s with
      currentState := .stopped
      currentMode := none
      world := stopSimulationRviz h looked.2 : Supervisor }.publishStatus commandSeq true
        "workspace is already stopped", false)
  else
    ({ s with
      currentState := .stopping
      world := looked.2 : Supervisor }.publishStatus commandSeq true "stop accepted", true)

/-- The worker of a STOP, and its end. -/
def carryOutStop (commandSeq : ℕ) (mode : Option Mode) : Supervisor :=
  s.finishStop commandSeq mode (stopWorker h script s.world)

/-- A STOP that finds no operation in progress, and its worker. -/
def handleStop (commandSeq : ℕ) : Supervisor :=
  let accepted := s.acceptStop h commandSeq
  if accepted.2 then accepted.1.carryOutStop h script commandSeq s.currentMode else accepted.1

end Supervisor

end

/-! ## The passing of time -/

section

variable {p : Parameters} {h : Host p} {w w' w'' : World}

theorem Passes.refl (w : World) : Passes w w :=
  ⟨le_rfl, fun _ => .refl _, le_rfl, rfl, rfl, rfl⟩

theorem Passes.trans (hfirst : Passes w w') (hsecond : Passes w' w'') : Passes w w'' where
  now_le := Nat.le_trans hfirst.now_le hsecond.now_le
  unit u := (hfirst.unit u).trans (hsecond.unit u)
  graphLeft := Nat.le_trans hsecond.graphLeft hfirst.graphLeft
  graphDue := hsecond.graphDue.trans hfirst.graphDue
  calls := hsecond.calls.trans hfirst.calls
  started := hsecond.started.trans hfirst.started

theorem Looks.passes {k : ℕ} (hlooks : Looks h k w w') : Passes w w' :=
  ⟨hlooks.now_le, hlooks.unit, hlooks.graphLeft, hlooks.graphDue, hlooks.calls, hlooks.started⟩

theorem passes_sleep (w : World) : Passes w w.sleep :=
  ⟨Nat.le_add_right _ _, fun _ => .refl _, le_rfl, rfl, rfl, rfl⟩

theorem readyProceed_passes {u : ManagedUnit} {startedAt : ℕ}
    (hok : readyProceed h u startedAt w = .ok w') : Passes w w' := by
  have hlooks := readyProceed_looks h u startedAt w
  unfold readyProceed at hok
  dsimp only at hok
  split at hok
  · obtain rfl := Except.ok.inj hok
    exact hlooks.passes.trans (passes_sleep _)
  · cases hok

theorem readyProceed_giveUp {u : ManagedUnit} {startedAt : ℕ} {gaveUp : List String × World}
    (herror : readyProceed h u startedAt w = .error gaveUp) : Passes w gaveUp.2 := by
  have hlooks := readyProceed_looks h u startedAt w
  unfold readyProceed at herror
  dsimp only at herror
  split at herror
  · cases herror
  · obtain rfl := Except.error.inj herror
    exact hlooks.passes.trans (collectReadinessIssues_looks h u _).passes

/-- The wait for a stack only looks and sleeps. -/
theorem waitForStackReady_passes (u : ManagedUnit) :
    Passes w (waitForStackReady h u w).state := by
  refine Wait.run_keeps (B := fun w' => Passes w w') ?_ ?_ ?_ ?_ ?_ (.refl w)
  · intro s hs
    exact hs.trans (collectReadinessIssues_looks h u s).passes
  · intro s hs
    have hlooks := (collectReadinessIssues_looks h u s).passes
    refine hs.trans ?_
    show Passes s (if _ then _ else _ : Bool × List String × World).2.2
    split
    · exact hlooks.trans (unitIsActive_looks h u _).passes
    · exact hlooks
  · intro s s' hs hok
    exact hs.trans (readyProceed_passes hok)
  · intro s gaveUp hs herror
    exact hs.trans (readyProceed_giveUp herror)
  · intro s hs
    have hlooks := (collectReadinessIssues_looks h u s).passes
    refine hs.trans ?_
    show Passes s (if _ then _ else _ : List String × World).2
    split <;> exact hlooks

/-! ## Looks, stops and resets -/

/-- What a part of a command does that only looks, stops and resets. -/
inductive Tears (h : Host p) : World → World → Prop where
  | passes {w w' : World} : Passes w w' → Tears h w w'
  | call {w : World} {action : Action} (u : ManagedUnit) :
    action ≠ .start → Tears h w (w.call h action u)
  | trans {w w' w'' : World} : Tears h w w' → Tears h w' w'' → Tears h w w''

theorem Looks.tears {k : ℕ} (hlooks : Looks h k w w') : Tears h w w' := .passes hlooks.passes

theorem Tears.now_le (ht : Tears h w w') : w.now ≤ w'.now := by
  induction ht with
  | passes hp => exact hp.now_le
  | call _ _ => exact Nat.le_add_right _ _
  | trans _ _ ihfirst ihsecond => exact Nat.le_trans ihfirst ihsecond

theorem Tears.started (ht : Tears h w w') : w'.lifecycleStartedAt = w.lifecycleStartedAt := by
  induction ht with
  | passes hp => exact hp.started
  | call _ _ => rfl
  | trans _ _ ihfirst ihsecond => exact ihsecond.trans ihfirst

/-- The processes and the graph show a stop as early as anything else. -/
theorem Tears.graph {within : ℕ} (hwithin : h.stopWithin ≤ within) (ht : Tears h w w')
    (hgraph : w.graphDue ≤ w.now + within) : w'.graphDue ≤ w'.now + within := by
  induction ht with
  | passes hp =>
    rw [hp.graphDue]
    exact Nat.le_trans hgraph (Nat.add_le_add_right hp.now_le _)
  | @call w action u haction =>
    show max w.graphDue (w.now + _ + World.graphWithin h action) ≤ w.now + _ + within
    unfold World.graphWithin
    rw [if_neg haction]
    omega
  | trans _ _ ihfirst ihsecond => exact ihsecond (ihfirst hgraph)

theorem stopSimulationRviz_tears : Tears h w (stopSimulationRviz h w) := by
  have hlooks := unitIsPresent_looks h .rviz w
  unfold stopSimulationRviz
  dsimp only
  split
  · exact hlooks.tears.trans (.call .rviz (by decide))
  · exact hlooks.tears

theorem stopPrevious_tears (applies : Bool) (u : ManagedUnit) (s : Preparation) :
    Tears h s.world (stopPrevious h applies u s).world := by
  unfold stopPrevious
  dsimp only
  split
  · have hlooks := unitIsPresent_looks h u s.world
    split
    · exact hlooks.tears.trans (.call u (by decide))
    · exact hlooks.tears
  · exact .passes (.refl _)

theorem stopAll_tears (units : List ManagedUnit) (s : Preparation) :
    Tears h s.world (stopAll h units s).world := by
  induction units generalizing s with
  | nil => exact .passes (.refl _)
  | cons u units ih => exact (stopPrevious_tears true u s).trans (ih _)

theorem stopFailedTarget_tears (target : ManagedUnit) (w : World) :
    Tears h w (stopFailedTarget h target w).world := by
  have hlooks := (unitIsActive_looks h target w).trans
    (unitIsFailed_looks h target (unitIsActive h target w).2)
  unfold stopFailedTarget
  dsimp only
  split
  · exact (unitIsActive_looks h target w).tears
  · split
    · exact hlooks.tears.trans (.call target (by decide))
    · exact hlooks.tears

theorem resetFailedManagedUnits_tears (w : World) : Tears h w (resetFailedManagedUnits h w) := by
  have hone : ∀ (w : World) (u : ManagedUnit), Tears h w (resetIfFailed h w u) := by
    intro w u
    have hlooks := unitIsFailed_looks h u w
    unfold resetIfFailed
    dsimp only
    split
    · exact hlooks.tears.trans (.call u (by decide))
    · exact hlooks.tears
  unfold resetFailedManagedUnits
  generalize ManagedUnit.all = units
  induction units generalizing w with
  | nil => exact .passes (.refl _)
  | cons u units ih => exact (hone w u).trans (ih _)

/-! ## A unit that comes up -/

/-- A unit that has been started.  It need not show that yet. -/
structure Rising (life : UnitLife) : Prop where
  goal : life.goal = .active
  shown : life.shown ≠ .failed

theorem Rising.watched {a b : UnitLife} (hr : Rising a) (hw : Watched a b) : Rising b where
  goal := hw.goal.trans hr.goal
  shown := by
    rcases hw.shown with hshown | hshown
    · rw [hshown]
      exact hr.shown
    · rw [hshown, hr.goal]
      decide

/-- A stop takes a unit down, also if it does not show yet that it has come up. -/
theorem Rising.falling_stop {u v : ManagedUnit} (hr : Rising (w.units v)) (hv : Touches u v) :
    Falling ((w.call h .stop u).units v) ((w.call h .stop u).now + h.stopWithin) := by
  refine falling_call (by decide) ?_ ?_
  · rw [hr.goal]
    decide
  · rw [hr.goal]
    exact if_pos hv

/-- What becomes of RViz, if it has come up, as soon as it shows that. -/
theorem stopSimulationRviz_rising (hr : Rising (w.units .rviz)) :
    Rising ((stopSimulationRviz h w).units .rviz) ∨
      Falling ((stopSimulationRviz h w).units .rviz)
        ((stopSimulationRviz h w).now + h.stopWithin) := by
  have hafter := hr.watched ((unitIsPresent_looks h .rviz w).unit .rviz)
  unfold stopSimulationRviz
  dsimp only
  split
  · exact Or.inr (hafter.falling_stop (Or.inl rfl))
  · exact Or.inl hafter

/-- With an active unit also goes what is part of it. -/
theorem stopPrevious_falling {u v : ManagedUnit} {s : Preparation} (hresult : s.result = 0)
    (hs : Settled (s.world.units u) .active) (hv : Touches u v) (hr : Rising (s.world.units v)) :
    Falling ((stopPrevious h true u s).world.units v)
      ((stopPrevious h true u s).world.now + h.stopWithin) := by
  have hpresent := (unitIsPresent_of_settled (h := h) hs).mpr (by decide)
  unfold stopPrevious
  rw [if_pos ⟨hresult, rfl⟩]
  dsimp only
  rw [if_pos hpresent]
  exact (hr.watched ((unitIsPresent_looks h u s.world).unit v)).falling_stop hv

/-! ## Where a command finds the units -/

/-- The units stay as they are.  Only RViz may still come up, together with the simulation. -/
structure Rests (within : ℕ) (states : ManagedUnit → UnitState) (w : World) : Prop where
  control : ∀ u : ManagedUnit, u.isControl = true → Settled (w.units u) (states u)
  rviz : Settled (w.units .rviz) (states .rviz) ∨
    (states .simulationStack = .active ∧ Rising (w.units .rviz))
  graph : w.graphDue ≤ w.now + within
  /-- Without an active stack the graph has nothing to show. -/
  quiet : (∀ u : ManagedUnit, u.isControl = true → states u ≠ .active) → w.graphLeft = 0
  started : w.lifecycleStartedAt ≤ w.now

variable {within : ℕ} {states : ManagedUnit → UnitState}

theorem Rests.passes (hr : Rests within states w) (hp : Passes w w') : Rests within states w' where
  control u hu := (hr.control u hu).watched (hp.unit u)
  rviz := by
    rcases hr.rviz with hs | ⟨hsim, hrising⟩
    · exact Or.inl (hs.watched (hp.unit .rviz))
    · exact Or.inr ⟨hsim, hrising.watched (hp.unit .rviz)⟩
  graph := by
    rw [hp.graphDue]
    exact Nat.le_trans hr.graph (Nat.add_le_add_right hp.now_le _)
  quiet hnone :=
    Nat.le_zero.mp (Nat.le_trans hp.graphLeft (Nat.le_of_eq (hr.quiet hnone)))
  started := by
    rw [hp.started]
    exact Nat.le_trans hr.started hp.now_le

theorem rests_initial (states : ManagedUnit → UnitState) (now within : ℕ) :
    Rests within states (.initial states now) :=
  ⟨fun _ _ => ⟨rfl, rfl⟩, Or.inl ⟨rfl, rfl⟩, Nat.zero_le _, fun _ => rfl, Nat.zero_le _⟩

/-! ## Everything is stopped -/

theorem Passes.lowers (hp : Passes w w') : Lowers h w w' where
  now_le := hp.now_le
  down u hu := hu.watched (hp.unit u)
  falling u hu := hu.watched (hp.unit u) (Nat.add_le_add_right hp.now_le _)
  falls u hu := hu.watched (hp.unit u) (Nat.add_le_add_right hp.now_le _)
  notActive u hu := hu.watched (hp.unit u)
  graph hgraph := by
    rw [hp.graphDue]
    exact Nat.le_trans hgraph (Nat.add_le_add_right hp.now_le _)
  calls := by rw [hp.calls]
  started := hp.started

theorem Tears.lowers (ht : Tears h w w') : Lowers h w w' := by
  induction ht with
  | passes hp => exact hp.lowers
  | call _ haction => exact lowers_call haction
  | trans _ _ ihfirst ihsecond => exact ihfirst.trans ihsecond

variable (script : CleanupScript)

theorem not_active_of_anyIsActive {units : List ManagedUnit} {u : ManagedUnit}
    {state : UnitState} (hs : Settled (w.units u) state) (hu : u ∈ units)
    (hnot : ¬ (anyIsActive h units w).1 = true) : state ≠ .active := by
  induction units generalizing w with
  | nil => cases hu
  | cons v units ih =>
    rw [anyIsActive] at hnot
    split at hnot
    · rename_i hactive
      exact absurd hactive hnot
    · rename_i hactive
      rcases List.mem_cons.mp hu with rfl | hu
      · exact mt (unitIsActive_of_settled hs).mpr hactive
      · exact ih (hs.watched ((unitIsActive_looks h v w).unit u)) hu hnot

theorem anyStackIsActive_looks (w : World) : Looks h 4 w (anyStackIsActive h w).2 :=
  anyIsActive_looks h [.simulationStack, .realStack, .legacyStack, .bootRobot] w

/-- Without an active stack no control unit is active. -/
theorem not_active_of_anyStackIsActive {u : ManagedUnit} {state : UnitState}
    (hs : Settled (w.units u) state) (hu : u.isControl = true)
    (hnone : ¬ (anyStackIsActive h w).1 = true) : state ≠ .active := by
  refine not_active_of_anyIsActive hs ?_ hnone
  cases u with
  | rviz => cases hu
  | _ => decide

theorem Rests.not_active (hr : Rests within states w) (hnone : ¬ (anyStackIsActive h w).1 = true)
    {u : ManagedUnit} (hu : u.isControl = true) : states u ≠ .active :=
  not_active_of_anyStackIsActive (hr.control u hu) hu hnone

theorem cleanUnmanaged_exit (w : World) : (cleanUnmanaged h script w).1 = 0 := by
  unfold cleanUnmanaged
  dsimp only
  split
  · rfl
  · split
    · rfl
    · exact script.exit _

/-- The control units are not touched by the stop of RViz. -/
theorem Rests.rvizStopped (hr : Rests within states w) {u : ManagedUnit}
    (hu : u.isControl = true) : Settled ((stopSimulationRviz h w).units u) (states u) := by
  have hstage := stopSimulationRviz_stage (h := h) (w := w)
  refine (hr.control u hu).watched (hstage.frame u ?_)
  rw [touches_iff_of_control hu]
  rintro rfl
  cases hu

/-- Where the script runs no unit is up. -/
theorem Rests.not_up (hr : Rests within states w)
    (hnone : ¬ (anyStackIsActive h (stopSimulationRviz h w)).1 = true) (u : ManagedUnit) :
    ((stopSimulationRviz h w).units u).goal ≠ .active := by
  have hdown (v : ManagedUnit) (hv : v.isControl = true) : states v ≠ .active :=
    not_active_of_anyStackIsActive (hr.rvizStopped hv) hv hnone
  by_cases hu : u.isControl = true
  · rw [(hr.rvizStopped hu).goal]
    exact hdown u hu
  · obtain rfl : u = .rviz := by
      cases u with
      | rviz => rfl
      | _ => exact absurd rfl hu
    have hrviz := hr.rviz.resolve_right fun hup => hdown .simulationStack rfl hup.1
    obtain hfalling | hfailed := (stopSimulationRviz_stage (h := h)).falls (states .rviz) hrviz
    · rw [hfalling.goal]
      decide
    · rw [hfailed.goal]
      decide

theorem cleanUnmanaged_passes (hr : Rests within states w) :
    Passes (stopSimulationRviz h w) (cleanUnmanaged h script (stopSimulationRviz h w)).2 := by
  have hactive := (anyStackIsActive_looks (h := h) (stopSimulationRviz h w)).passes
  have hlooks := hactive.trans (collectUnmanagedStackIssues_looks h _).passes
  unfold cleanUnmanaged
  dsimp only
  split
  · exact hactive
  · rename_i hnone
    split
    · exact hlooks
    · refine hlooks.trans (script.passes _ fun u => ?_)
      rw [(hlooks.unit u).goal]
      exact hr.not_up hnone u

/-- A unit is stopped by a STOP as by a START. -/
theorem stopManaged_eq (u : ManagedUnit) (s : Preparation) :
    stopManaged h (s.result, s.world) u =
      ((stopPrevious h true u s).result, (stopPrevious h true u s).world) := by
  unfold stopManaged stopPrevious
  by_cases hresult : s.result = 0
  · rw [if_pos (show (s.result, s.world).1 = 0 from hresult),
      if_pos (show s.result = 0 ∧ true = true from ⟨hresult, rfl⟩)]
    dsimp only
    by_cases hpresent : (unitIsPresent h u s.world).1 = true
    · rw [if_pos hpresent, if_pos hpresent]
    · rw [if_neg hpresent, if_neg hpresent]
  · rw [if_neg (show ¬ (s.result, s.world).1 = 0 from hresult),
      if_neg (show ¬ (s.result = 0 ∧ true = true) from fun hboth => hresult hboth.1)]

theorem foldl_stopManaged_eq (units : List ManagedUnit) (s : Preparation) :
    units.foldl (stopManaged h) (s.result, s.world) =
      ((stopAll h units s).result, (stopAll h units s).world) := by
  induction units generalizing s with
  | nil => rfl
  | cons u units ih =>
    rw [List.foldl_cons, stopManaged_eq]
    exact ih _

theorem stopBootRobot_eq {r : ℤ × World} (hresult : r.1 = 0) :
    stopBootRobot h r = stopManaged h r .bootRobot := by
  unfold stopBootRobot stopManaged
  dsimp only
  rw [if_pos hresult, if_pos hresult]

/-- The control units in the order in which a STOP stops them. -/
def stopOrder : List ManagedUnit := [.bootRobot, .simulationStack, .realStack, .legacyStack]

theorem foldl_stopOrder {α : Type} (f : α → ManagedUnit → α) (a : α) :
    [ManagedUnit.simulationStack, .realStack, .legacyStack].foldl f (f a .bootRobot) =
      stopOrder.foldl f a := rfl

theorem mem_stopOrder {u : ManagedUnit} : u ∈ stopOrder ↔ u.isControl = true := by
  cases u <;> decide

theorem nodup_stopOrder : stopOrder.Nodup := by
  decide

/-- Where the stops begin. -/
def cleaned (h : Host p) (script : CleanupScript) (w : World) : Preparation :=
  ⟨0, false, (cleanUnmanaged h script (stopSimulationRviz h w)).2⟩

theorem stopStacks_eq (w : World) : stopStacks h script w =
    ((stopAll h stopOrder (cleaned h script w)).result,
      resetFailedManagedUnits h (stopAll h stopOrder (cleaned h script w)).world) := by
  have hexit := cleanUnmanaged_exit (h := h) script (stopSimulationRviz h w)
  have hpair : cleanUnmanaged h script (stopSimulationRviz h w) =
      ((cleaned h script w).result, (cleaned h script w).world) := Prod.ext hexit rfl
  unfold stopStacks
  dsimp only
  rw [stopBootRobot_eq hexit, hpair, foldl_stopOrder, foldl_stopManaged_eq]

theorem cleaned_passes (hr : Rests within states w) :
    Passes (stopSimulationRviz h w) (cleaned h script w).world := cleanUnmanaged_passes script hr

theorem cleaned_tears (hr : Rests within states w) : Tears h w (cleaned h script w).world :=
  stopSimulationRviz_tears.trans (.passes (cleaned_passes script hr))

theorem Rests.cleaned (hr : Rests within states w) {u : ManagedUnit} (hu : u.isControl = true) :
    Settled ((cleaned h script w).world.units u) (states u) :=
  (hr.rvizStopped hu).watched ((cleaned_passes script hr).unit u)

/-- RViz goes down with the simulation, if it has not been stopped itself. -/
theorem stopAll_falling_rviz {s : Preparation} (units : List ManagedUnit)
    (hresult : s.result = 0) {boot : UnitState} (hboot : Settled (s.world.units .bootRobot) boot)
    (hsim : Settled (s.world.units .simulationStack) .active)
    (hrviz : Rising (s.world.units .rviz) ∨
      Falling (s.world.units .rviz) (s.world.now + h.stopWithin)) :
    Falling ((stopAll h (.bootRobot :: .simulationStack :: units) s).world.units .rviz)
      ((stopAll h (.bootRobot :: .simulationStack :: units) s).world.now + h.stopWithin) := by
  rcases hrviz with hup | hdown
  · obtain ⟨hfirst, -, hstage⟩ := stopPrevious_spec (h := h) hresult hboot
    have hsimUp := hsim.watched
      (hstage.frame .simulationStack (not_touches_control rfl (by decide)))
    have hrvizUp := hup.watched (hstage.frame .rviz (not_touches_rviz (by decide)))
    have hfalling := stopPrevious_falling (h := h) hfirst hsimUp (Or.inr (by decide)) hrvizUp
    exact (stopAll_tears units _).lowers.falling _ hfalling
  · exact (stopAll_tears _ s).lowers.falling _ hdown

/-- RViz is down after the stops. -/
theorem Rests.rviz_falls (hr : Rests within states w) :
    Falls ((stopAll h stopOrder (Workspace.cleaned h script w)).world.units .rviz)
      ((stopAll h stopOrder (Workspace.cleaned h script w)).world.now + h.stopWithin) := by
  have hpassed := cleaned_passes (h := h) script hr
  have hsim := hr.cleaned (h := h) script (u := .simulationStack) rfl
  have hboot := hr.cleaned (h := h) script (u := .bootRobot) rfl
  have hrviz := hr.rviz.imp_right fun hboth =>
    And.intro hboth.1 (stopSimulationRviz_rising (h := h) hboth.2)
  have hstopped := (stopSimulationRviz_stage (h := h) (w := w)).falls (states .rviz)
  generalize stopSimulationRviz h w = begun at hpassed hrviz hstopped
  have hresult : (Workspace.cleaned h script w).result = 0 := rfl
  generalize Workspace.cleaned h script w = s at hpassed hsim hboot hresult
  rcases hrviz with hs | ⟨hactive, hrviz⟩
  · exact (stopAll_tears stopOrder s).lowers.falls _ (hpassed.lowers.falls _ (hstopped hs))
  · rw [hactive] at hsim
    exact Or.inl (stopAll_falling_rviz _ hresult hboot hsim
      (hrviz.imp (fun hup => hup.watched (hpassed.unit .rviz)) (hpassed.lowers.falling .rviz)))

/-- After the stops and the resets everything is down. -/
theorem stopStacks_spec (hr : Rests within states w) :
    (stopStacks h script w).1 = 0 ∧ Tears h w (stopStacks h script w).2 ∧
      ∀ u, Falling ((stopStacks h script w).2.units u)
        ((stopStacks h script w).2.now + h.stopWithin) := by
  have hcontrol : ∀ u ∈ stopOrder, Settled ((cleaned h script w).world.units u) (states u) :=
    fun u hu => hr.cleaned script (mem_stopOrder.mp hu)
  have hrviz := hr.rviz_falls (h := h) script
  have htears := cleaned_tears (h := h) script hr
  have hbegun : (cleaned h script w).result = 0 := rfl
  rw [stopStacks_eq]
  dsimp only
  generalize cleaned h script w = before at hcontrol hrviz htears hbegun ⊢
  obtain ⟨hresult, -, -, -, hfalls⟩ := stopAll_spec (h := h) hbegun
    (fun u hu => mem_stopOrder.mp hu) nodup_stopOrder hcontrol
  replace htears := htears.trans (stopAll_tears stopOrder before)
  generalize stopAll h stopOrder before = s at hresult hfalls hrviz htears ⊢
  obtain ⟨-, -, hreset⟩ := resetFailedManagedUnits_spec (h := h) s.world
  refine ⟨hresult, htears.trans (resetFailedManagedUnits_tears _), fun u => hreset u ?_⟩
  by_cases hu : u.isControl = true
  · exact hfalls u (mem_stopOrder.mpr hu)
  · obtain rfl : u = .rviz := by
      cases u with
      | rviz => rfl
      | _ => exact absurd rfl hu
    exact hrviz

/-- If everything is down, the wait for the end succeeds, also if the graph may need longer. -/
theorem waitForStackStopped_within (hwithin : h.stopWithin ≤ within)
    (htime : within + 5 * pace h.longestLook + ms p.cleanupStabilityMs ≤ ms p.cleanupTimeoutMs)
    (hunits : ∀ u, Falling (w.units u) (w.now + h.stopWithin))
    (hgraph : w.graphDue ≤ w.now + within) (hstarted : w.lifecycleStartedAt ≤ w.now) :
    (waitForStackStopped h w).ok = true ∧
      Cleaning w.now (w.now + within) w.calls true (waitForStackStopped h w).state := by
  have hpos := one_lt_pace h.longestLook
  refine Wait.ok_of_settles (c := false) (settles_stoppedWait _ _ _) (by omega)
    ⟨le_rfl, fun u => (hunits u).watched (.refl _) (Nat.add_le_add_left hwithin _), hgraph, rfl,
      hstarted, fun hfalse => by cases hfalse⟩ (Or.inl ⟨rfl, ?_⟩)
  show w.now ≤ _
  omega

theorem Cleaning.rests {begun : ℕ} {calls : Action → ManagedUnit → ℕ}
    (hc : Cleaning begun (begun + within) calls true w) :
    Rests within (fun _ => .inactive) w := by
  obtain ⟨hunits, hgraph⟩ := hc.calm rfl
  exact ⟨fun u _ => hunits u, Or.inl (hunits .rviz),
    Nat.le_trans hc.graph (Nat.add_le_add_right hc.begun _), fun _ => hgraph, hc.started⟩

theorem stopWorker_of_result (hresult : (stopStacks h script w).1 = 0) :
    stopWorker h script w = reportStopped (stopStacks h script w).1
      (waitForStackStopped h (stopStacks h script w).2) := by
  unfold stopWorker
  dsimp only
  rw [if_pos hresult]

theorem reportStopped_spec (result : ℤ) {cleanup : Outcome World String} {begun : ℕ}
    {calls : Action → ManagedUnit → ℕ} (hok : cleanup.ok = true)
    (hclean : Cleaning begun (begun + within) calls true cleanup.state) :
    (reportStopped result cleanup).succeeded = true ∧
      Rests within (fun _ => .inactive) (reportStopped result cleanup).world :=
  ⟨hok, hclean.rests⟩

/-- The worker of a STOP succeeds. -/
theorem stopWorker_spec (hwithin : h.stopWithin ≤ within)
    (htime : within + 5 * pace h.longestLook + ms p.cleanupStabilityMs ≤ ms p.cleanupTimeoutMs)
    (hr : Rests within states w) :
    (stopWorker h script w).succeeded = true ∧
      Rests within (fun _ => .inactive) (stopWorker h script w).world := by
  obtain ⟨hresult, htears, hfalling⟩ := stopStacks_spec (h := h) script hr
  have hstarted : (stopStacks h script w).2.lifecycleStartedAt ≤ (stopStacks h script w).2.now := by
    rw [htears.started]
    exact Nat.le_trans hr.started htears.now_le
  obtain ⟨hok, hclean⟩ := waitForStackStopped_within hwithin htime hfalling
    (htears.graph hwithin hr.graph) hstarted
  rw [stopWorker_of_result script hresult]
  exact reportStopped_spec _ hok hclean

/-! ## The command -/

/-- The end of a STOP. -/
structure EndsStopped (commandSeq : ℕ) (n : Supervisor) : Prop where
  currentState : n.currentState = .stopped
  currentMode : n.currentMode = none
  /-- The last status accepts the command as carried out. -/
  status : ∃ message, n.published.getLast? = some ⟨commandSeq, .stopped, none, true, message⟩
  /-- No unit is active or failed, and none will be. -/
  down : ∀ u, Settled (n.world.units u) .inactive

theorem anyIsFailed_looks (units : List ManagedUnit) (w : World) :
    Looks h units.length w (anyIsFailed h units w).2 := by
  induction units generalizing w with
  | nil => exact .refl _ _
  | cons u units ih =>
    rw [anyIsFailed, List.length_cons, Nat.add_comm]
    split
    · exact (unitIsFailed_looks h u w).mono (Nat.le_add_right _ _)
    · exact (unitIsFailed_looks h u w).trans (ih _)

theorem not_failed_of_anyIsFailed {units : List ManagedUnit} {u : ManagedUnit} {state : UnitState}
    (hs : Settled (w.units u) state) (hu : u ∈ units) (hnot : ¬ (anyIsFailed h units w).1 = true) :
    state ≠ .failed := by
  induction units generalizing w with
  | nil => cases hu
  | cons v units ih =>
    rw [anyIsFailed] at hnot
    split at hnot
    · rename_i hfailed
      exact absurd hfailed hnot
    · rename_i hfailed
      rcases List.mem_cons.mp hu with rfl | hu
      · exact mt (unitIsFailed_of_settled hs).mpr hfailed
      · exact ih (hs.watched ((unitIsFailed_looks h v w).unit u)) hu hnot

/-- The looks after which there is nothing to stop. -/
theorem nothingToStop_iff (w : World) : (Supervisor.nothingToStop h w).1 = true ↔
    ¬ (anyStackIsActive h w).1 = true ∧
      (collectUnmanagedStackIssues h (anyStackIsActive h w).2).1.isEmpty = true ∧
      ¬ (anyManagedUnitIsFailed h
        (collectUnmanagedStackIssues h (anyStackIsActive h w).2).2).1 = true ∧
      ¬ (unitIsActive h .rviz (anyManagedUnitIsFailed h
        (collectUnmanagedStackIssues h (anyStackIsActive h w).2).2).2).1 = true := by
  unfold Supervisor.nothingToStop
  dsimp only
  split
  · rename_i hactive
    exact iff_of_false Bool.false_ne_true fun hall => hall.1 hactive
  · rename_i hactive
    rw [and_iff_right hactive]
    split
    · rename_i hempty
      rw [and_iff_right hempty]
      split
      · rename_i hfailed
        exact iff_of_false Bool.false_ne_true fun hall => hall.1 hfailed
      · rename_i hfailed
        rw [and_iff_right hfailed, Bool.not_eq_true', Bool.not_eq_true]
    · rename_i hempty
      exact iff_of_false Bool.false_ne_true fun hall => hempty hall.1

theorem nothingToStop_passes (w : World) :
    Passes w (Supervisor.nothingToStop h w).2 := by
  have hactive := (anyStackIsActive_looks (h := h) w).passes
  have hunmanaged := hactive.trans (collectUnmanagedStackIssues_looks h _).passes
  have hfailed := hunmanaged.trans (anyIsFailed_looks (h := h) ManagedUnit.all _).passes
  unfold Supervisor.nothingToStop
  dsimp only
  split
  · exact hactive
  · split
    · split
      · exact hfailed
      · exact hfailed.trans (unitIsActive_looks h .rviz _).passes
    · exact hunmanaged

/-- There is nothing to stop only if every unit is down. -/
theorem Rests.states_of_nothingToStop (hr : Rests within states w)
    (hnothing : (Supervisor.nothingToStop h w).1 = true) :
    ∀ u, Settled (w.units u) .inactive := by
  obtain ⟨hnone, -, hnotFailed, hrvizDown⟩ := (nothingToStop_iff w).mp hnothing
  have hlooked := (anyStackIsActive_looks (h := h) w).passes.trans
    (collectUnmanagedStackIssues_looks h _).passes
  have hrviz : Settled (w.units .rviz) (states .rviz) :=
    hr.rviz.resolve_right fun hup => hr.not_active hnone rfl hup.1
  have hsettled : ∀ u, Settled (w.units u) (states u) := by
    intro u
    cases u with
    | rviz => exact hrviz
    | _ => exact hr.control _ rfl
  intro u
  have hfailed : states u ≠ .failed :=
    not_failed_of_anyIsFailed ((hsettled u).watched (hlooked.unit u)) (ManagedUnit.mem_all u)
      hnotFailed
  have hactive : states u ≠ .active := by
    by_cases hu : u.isControl = true
    · exact hr.not_active hnone hu
    · obtain rfl : u = .rviz := by
        cases u with
        | rviz => rfl
        | _ => exact absurd rfl hu
      have hseen := (hrviz.watched (hlooked.unit .rviz)).watched
        ((anyIsFailed_looks (h := h) ManagedUnit.all _).unit .rviz)
      exact mt (unitIsActive_of_settled hseen).mpr hrvizDown
  have hstate : states u = .inactive := by
    cases hcase : states u with
    | inactive => rfl
    | active => exact absurd hcase hactive
    | failed => exact absurd hcase hfailed
  rw [← hstate]
  exact hsettled u

/-- RViz is not stopped if it is down. -/
theorem stopSimulationRviz_of_down (hs : Settled (w.units .rviz) .inactive) :
    Passes w (stopSimulationRviz h w) := by
  have hnot : ¬ (unitIsPresent h .rviz w).1 = true := fun hpresent =>
    (unitIsPresent_of_settled hs).mp hpresent rfl
  unfold stopSimulationRviz
  dsimp only
  rw [if_neg hnot]
  exact (unitIsPresent_looks h .rviz w).passes

variable {n : Supervisor} {commandSeq : ℕ} {mode : Option Mode} {r : Report}

theorem finishStop_of_succeeded (hok : r.succeeded = true)
    (hr : Rests within (fun _ => .inactive) r.world) :
    EndsStopped commandSeq (n.finishStop commandSeq mode r) ∧
      Rests within (fun _ => .inactive) (n.finishStop commandSeq mode r).world := by
  have hdown : ∀ u, Settled (r.world.units u) .inactive := by
    intro u
    cases u with
    | rviz => exact hr.rviz.resolve_right fun hup => by cases hup.1
    | _ => exact hr.control _ rfl
  unfold Supervisor.finishStop
  rw [if_pos hok]
  exact ⟨⟨rfl, rfl, ⟨"stop completed", List.getLast?_concat ..⟩, hdown⟩, hr⟩

/-- The last status accepts the command. -/
def AcceptsLast (commandSeq : ℕ) (n : Supervisor) : Prop :=
  ∃ status, n.published.getLast? = some status ∧ status.commandSeq = commandSeq ∧
    status.accepted = true

theorem acceptsLast_publishStatus {message : String} :
    AcceptsLast commandSeq (n.publishStatus commandSeq true message) :=
  ⟨_, List.getLast?_concat .., rfl, rfl⟩

/-- A STOP with nothing to do has ended.  Any other one is accepted, and the units are as they
were. -/
theorem acceptStop_spec (commandSeq : ℕ) (hr : Rests within states n.world) :
    ((n.acceptStop h commandSeq).2 = false ∧ EndsStopped commandSeq (n.acceptStop h commandSeq).1 ∧
      Rests within (fun _ => .inactive) (n.acceptStop h commandSeq).1.world) ∨
    ((n.acceptStop h commandSeq).2 = true ∧ AcceptsLast commandSeq (n.acceptStop h commandSeq).1 ∧
      Rests within states (n.acceptStop h commandSeq).1.world) := by
  have hpassed := nothingToStop_passes (h := h) n.world
  unfold Supervisor.acceptStop
  dsimp only
  split
  · rename_i hnothing
    have hdown := hr.states_of_nothingToStop hnothing
    have hafter := hpassed.trans (stopSimulationRviz_of_down (h := h)
      ((hdown .rviz).watched (hpassed.unit .rviz)))
    have hrests : Rests within (fun _ => .inactive) n.world :=
      ⟨fun u _ => hdown u, Or.inl (hdown .rviz), hr.graph, fun _ => hr.quiet fun u hu hup => ?_,
        hr.started⟩
    · exact Or.inl ⟨rfl, ⟨rfl, rfl, ⟨_, List.getLast?_concat ..⟩,
        fun u => (hdown u).watched (hafter.unit u)⟩, hrests.passes hafter⟩
    · have hstate := (hr.control u hu).goal
      rw [(hdown u).goal, hup] at hstate
      cases hstate
  · exact Or.inr ⟨rfl, acceptsLast_publishStatus, hr.passes hpassed⟩

/-- The worker ends a STOP as STOPPED, wherever it finds the units. -/
theorem carryOutStop_spec (hwithin : h.stopWithin ≤ within)
    (htime : within + 5 * pace h.longestLook + ms p.cleanupStabilityMs ≤ ms p.cleanupTimeoutMs)
    (hr : Rests within states n.world) :
    EndsStopped commandSeq (n.carryOutStop h script commandSeq mode) ∧
      Rests within (fun _ => .inactive) (n.carryOutStop h script commandSeq mode).world := by
  obtain ⟨hok, hrests⟩ := stopWorker_spec script hwithin htime hr
  exact finishStop_of_succeeded hok hrests

/-- A STOP is carried out wherever it finds the units. -/
theorem handleStop_spec (hwithin : h.stopWithin ≤ within)
    (htime : within + 5 * pace h.longestLook + ms p.cleanupStabilityMs ≤ ms p.cleanupTimeoutMs)
    (hr : Rests within states n.world) :
    EndsStopped commandSeq (n.handleStop h script commandSeq) ∧
      Rests within (fun _ => .inactive) (n.handleStop h script commandSeq).world := by
  unfold Supervisor.handleStop
  dsimp only
  obtain ⟨hended, hstopped⟩ | ⟨haccepted, -, hrests⟩ :=
    acceptStop_spec (h := h) commandSeq hr
  · rw [if_neg (by rw [hended]; decide)]
    exact hstopped
  · rw [if_pos haccepted]
    exact carryOutStop_spec script hwithin htime hrests

/-- From every combination of states a STOP ends as STOPPED, with every unit down. -/
theorem endsStopped_handleStop (h : Host p) (script : CleanupScript) (n : Supervisor)
    (states : ManagedUnit → UnitState) (now commandSeq : ℕ) :
    EndsStopped commandSeq
      (Supervisor.handleStop h script { n with world := .initial states now } commandSeq) :=
  (handleStop_spec script (le_refl h.stopWithin) h.cleanup_time
    (rests_initial states now h.stopWithin)).1

end

end JointController.Workspace
