import JointController.Library.StableWait
import JointController.Workspace.Checks
import Mathlib.Logic.Function.Basic

/-!
# The units under systemd

A call of `systemctl` succeeds, and what it does to the units, the processes and the ROS graph shows
after some polls.  A unit is what it shows and what it will be, and a look at it may bring the two
together.

* `effect`: what a call does to a unit, with the dependencies of the unit files.
* `Host`: how long it takes until something shows, and what is seen of the processes and the graph.
* `World`, `World.unitState`, `World.takeSnapshot`, `World.call`: looks and calls.
* `Watched`, `Looks`: what looks can change, with `unitState_looks` and `takeSnapshot_looks`.
-/

namespace JointController.Workspace

/-- A duration in milliseconds, in nanoseconds. -/
def ms (n : ℕ) : ℕ := n * 1000000

/-- The parameters of the supervisor. -/
structure Parameters where
  startupTimeoutMs : ℕ
  readinessStabilityMs : ℕ
  cleanupTimeoutMs : ℕ
  cleanupStabilityMs : ℕ
  hardwareFeedbackTimeoutMs : ℕ
  realHardwareReadinessTimeoutMs : ℕ
  deriving DecidableEq

/-- The parameters that the constructor makes of the declared ones. -/
def Parameters.declared (startup readinessStability cleanup cleanupStability feedback
    hardwareReadiness : ℤ) : Parameters where
  startupTimeoutMs := startup.toNat
  readinessStabilityMs := readinessStability.toNat
  cleanupTimeoutMs := (max cleanup 1000).toNat
  cleanupStabilityMs := (max cleanupStability 0).toNat
  hardwareFeedbackTimeoutMs := (max feedback 100).toNat
  realHardwareReadinessTimeoutMs := (max hardwareReadiness 1000).toNat

/-- The parameters that are declared by default. -/
def Parameters.defaults : Parameters := .declared 45000 3000 30000 1000 1000 15000

/-- What `is-active` and `is-failed` tell of a unit. -/
inductive UnitState where
  | inactive
  | active
  | failed
  deriving DecidableEq

/-- The calls of `systemctl` that change something. -/
inductive Action where
  | start
  | stop
  | resetFailed
  deriving DecidableEq

/-! ## Unit files -/

namespace ManagedUnit

/-- The units that control the robot. -/
def isControl : ManagedUnit → Bool
  | rviz => false
  | _ => true

/-- The units that are looked at, in the order of the source. -/
def all : List ManagedUnit := [simulationStack, realStack, legacyStack, bootRobot, rviz]

theorem mem_all (u : ManagedUnit) : u ∈ all := by
  cases u <;> decide

/-- `Conflicts=`. -/
def conflicts : ManagedUnit → List ManagedUnit
  | simulationStack => [realStack, legacyStack, bootRobot]
  | realStack => [simulationStack, legacyStack, bootRobot]
  | legacyStack => [simulationStack, realStack, bootRobot]
  | bootRobot => []
  | rviz => [realStack]

/-- `Wants=`. -/
def wants : ManagedUnit → List ManagedUnit
  | simulationStack => [rviz]
  | _ => []

/-- `PartOf=`. -/
def partOf : ManagedUnit → List ManagedUnit
  | rviz => [simulationStack]
  | _ => []

end ManagedUnit

/-- A stop leaves a failed unit failed. -/
def UnitState.stopped : UnitState → UnitState
  | failed => failed
  | _ => inactive

/-- What a call on the unit `u` does to the unit `v`. -/
def effect (action : Action) (u v : ManagedUnit) (state : UnitState) : UnitState :=
  match action with
  | .start =>
    if v = u ∨ v ∈ u.wants then .active
    else if v ∈ u.conflicts ∨ u ∈ v.conflicts then state.stopped
    else state
  | .stop => if v = u ∨ u ∈ v.partOf then state.stopped else state
  | .resetFailed => if v = u ∧ state = .failed then .inactive else state

/-! ## What shows -/

/-- A unit: what it shows, what it will be, how many more looks do not show that, and the time at
which it shows at the latest. -/
structure UnitLife where
  shown : UnitState
  goal : UnitState
  left : ℕ
  due : Option ℕ
  deriving DecidableEq

/-- A unit in a state in which it stays. -/
def UnitLife.settled (state : UnitState) : UnitLife := ⟨state, state, 0, none⟩

/-- A look at a unit. -/
def UnitLife.look (now : ℕ) (life : UnitLife) : UnitLife :=
  if life.left = 0 ∨ life.due.any (fun due => due ≤ now) = true then
    { life with shown := life.goal, left := 0 }
  else { life with left := life.left - 1 }

/-- A call that makes a unit something else, which shows later. -/
def UnitLife.expect (goal : UnitState) (left : ℕ) (due : Option ℕ) (life : UnitLife) : UnitLife :=
  if goal = life.goal then life else { life with goal := goal, left := left, due := due }

/-- The longest time of a poll and of what follows it, for looks of a given length. -/
def pace (look : ℕ) : ℕ := ms 250 + 11 * look

/-- The modes of the workspace that can be started. -/
inductive Mode where
  | simulation
  | real
  deriving DecidableEq

/-- `unit_for_mode`. -/
def unitForMode : Mode → ManagedUnit
  | .simulation => .simulationStack
  | .real => .realStack

/-- A host on which every call succeeds.

The polls until a call shows are arbitrary: `delay` for the state of a unit, by the call, how often
it has been made, and the unit; `graphDelay` for the processes and the graph; `feedbackDelay` for
new hardware feedback.  A stop or a reset shows after `stopWithin` at the latest, and the processes,
the graph and the feedback of a start after `startWithin`, so that the time-outs are long enough. -/
structure Host (p : Parameters) where
  delay : Action → ManagedUnit → ℕ → ManagedUnit → ℕ
  graphDelay : Action → ManagedUnit → ℕ → ℕ
  feedbackDelay : ℕ
  /-- The time that a look takes, by the number of looks before it. -/
  cost : ℕ → ℕ
  callCost : Action → ManagedUnit → ℕ → ℕ
  longestLook : ℕ
  stopWithin : ℕ
  startWithin : ℕ
  /-- What is seen, by what the units will be, whether that shows, the time and the looks. -/
  snapshot : (ManagedUnit → UnitState) → Bool → ℕ → ℕ → Snapshot
  cost_le : ∀ n, cost n ≤ longestLook
  /-- Without a control unit nothing of a stack is left, once that shows. -/
  clean : ∀ goals shows now n, (∀ u : ManagedUnit, u.isControl = true → goals u ≠ .active) →
    (unmanagedStackIssues (snapshot goals shows now n) = [] ↔ shows = true)
  /-- With one control unit its stack is ready, once that shows. -/
  ready : ∀ goals shows now n mode started,
    (∀ u : ManagedUnit, u.isControl = true → (goals u = .active ↔ u = unitForMode mode)) →
    started ≤ now → (readinessIssues (unitForMode mode) ⟨started, p.hardwareFeedbackTimeoutMs, now⟩
      (snapshot goals shows now n) true = [] ↔ shows = true)
  cleanup_time : stopWithin + 5 * pace longestLook + ms p.cleanupStabilityMs ≤ ms p.cleanupTimeoutMs
  startup_time : max stopWithin startWithin + 5 * pace longestLook + ms p.readinessStabilityMs ≤
    ms p.startupTimeoutMs

/-- What the supervisor acts on. -/
structure World where
  now : ℕ
  looks : ℕ
  units : ManagedUnit → UnitLife
  graphLeft : ℕ
  graphDue : ℕ
  calls : Action → ManagedUnit → ℕ
  lifecycleStartedAt : ℕ

/-- A world in which nothing is about to change. -/
def World.initial (states : ManagedUnit → UnitState) (now : ℕ) : World where
  now := now
  looks := 0
  units u := .settled (states u)
  graphLeft := 0
  graphDue := 0
  calls _ _ := 0
  lifecycleStartedAt := 0

namespace World

variable {p : Parameters} (h : Host p) (w : World)

/-- A look takes time. -/
def tick : World := { w with now := w.now + h.cost w.looks, looks := w.looks + 1 }

/-- A look at a unit. -/
def unitState (u : ManagedUnit) : UnitState × World :=
  let w := w.tick h
  let life := (w.units u).look w.now
  (life.shown, { w with units := Function.update w.units u life })

/-- A look at the processes, the graph and the feedback. -/
def takeSnapshot : Snapshot × World :=
  let w := w.tick h
  let shows := decide (w.graphLeft = 0 ∨ w.graphDue ≤ w.now)
  (h.snapshot (fun u => (w.units u).goal) shows w.now w.looks,
    { w with graphLeft := if shows then 0 else w.graphLeft - 1 })

/-- The time by which a call shows.  Of the state of a started unit nothing is promised. -/
def dueOf (action : Action) (now : ℕ) : Option ℕ :=
  if action = .start then none else some (now + h.stopWithin)

/-- The time within which a call shows in the processes and the graph. -/
def graphWithin (action : Action) : ℕ := if action = .start then h.startWithin else h.stopWithin

/-- A call of `systemctl`. -/
def call (action : Action) (u : ManagedUnit) : World :=
  let n := w.calls action u
  let now := w.now + h.callCost action u n
  { w with
    now := now
    units := fun v => (w.units v).expect (effect action u v (w.units v).goal)
      (h.delay action u n v) (dueOf h action now)
    graphLeft := max w.graphLeft (h.graphDelay action u n)
    graphDue := max w.graphDue (now + graphWithin h action)
    calls := Function.update w.calls action (Function.update (w.calls action) u (n + 1)) }

/-- `run_systemctl` with a call that changes something: it succeeds. -/
def runSystemctl (action : Action) (u : ManagedUnit) : ℤ × World := (0, w.call h action u)

/-- `sleep_for(250ms)`. -/
def sleep : World := { w with now := w.now + ms 250 }

/-- `begin_real_hardware_observation`: the samples are dropped, and new ones come in later. -/
def beginRealHardwareObservation : World :=
  { w with
    lifecycleStartedAt := w.now
    graphLeft := max w.graphLeft h.feedbackDelay
    graphDue := max w.graphDue (w.now + h.startWithin) }

end World

/-! ## What looks change -/

/-- What a look can change of a unit. -/
structure Watched (a b : UnitLife) : Prop where
  goal : b.goal = a.goal
  due : b.due = a.due
  left : b.left ≤ a.left
  shown : b.shown = a.shown ∨ b.shown = a.goal

theorem Watched.refl (a : UnitLife) : Watched a a := ⟨rfl, rfl, le_rfl, Or.inl rfl⟩

theorem Watched.trans {a b c : UnitLife} (hab : Watched a b) (hbc : Watched b c) : Watched a c where
  goal := hbc.goal.trans hab.goal
  due := hbc.due.trans hab.due
  left := Nat.le_trans hbc.left hab.left
  shown := by
    rcases hbc.shown with hshown | hshown
    · rw [hshown]
      exact hab.shown
    · exact Or.inr (hshown.trans hab.goal)

theorem watched_look (now : ℕ) (a : UnitLife) : Watched a (a.look now) := by
  unfold UnitLife.look
  split
  · exact ⟨rfl, rfl, Nat.zero_le _, Or.inr rfl⟩
  · exact ⟨rfl, rfl, Nat.sub_le _ _, Or.inl rfl⟩

/-- What at most `k` looks can change, and sleep in between. -/
structure Looks {p : Parameters} (h : Host p) (k : ℕ) (w w' : World) : Prop where
  now_le : w.now ≤ w'.now
  pace : w'.now ≤ w.now + k * h.longestLook
  unit : ∀ u, Watched (w.units u) (w'.units u)
  graphLeft : w'.graphLeft ≤ w.graphLeft
  graphDue : w'.graphDue = w.graphDue
  calls : w'.calls = w.calls
  started : w'.lifecycleStartedAt = w.lifecycleStartedAt

variable {p : Parameters} {h : Host p} {w w' w'' : World}

theorem Looks.refl (k : ℕ) (w : World) : Looks h k w w :=
  ⟨le_rfl, Nat.le_add_right _ _, fun _ => .refl _, le_rfl, rfl, rfl, rfl⟩

theorem Looks.trans {k k' : ℕ} (hfirst : Looks h k w w') (hsecond : Looks h k' w' w'') :
    Looks h (k + k') w w'' where
  now_le := Nat.le_trans hfirst.now_le hsecond.now_le
  pace := by
    have hbefore := hfirst.pace
    have hafter := hsecond.pace
    rw [Nat.add_mul]
    omega
  unit u := (hfirst.unit u).trans (hsecond.unit u)
  graphLeft := Nat.le_trans hsecond.graphLeft hfirst.graphLeft
  graphDue := hsecond.graphDue.trans hfirst.graphDue
  calls := hsecond.calls.trans hfirst.calls
  started := hsecond.started.trans hfirst.started

theorem Looks.mono {k k' : ℕ} (hlooks : Looks h k w w') (hle : k ≤ k') : Looks h k' w w' :=
  { hlooks with
    pace := Nat.le_trans hlooks.pace (Nat.add_le_add_left (Nat.mul_le_mul_right _ hle) _) }

theorem unitState_looks (u : ManagedUnit) : Looks h 1 w (w.unitState h u).2 where
  now_le := Nat.le_add_right _ _
  pace := by
    rw [Nat.one_mul]
    exact Nat.add_le_add_left (h.cost_le _) _
  unit v := by
    show Watched (w.units v) (Function.update w.units u _ v)
    by_cases huv : v = u
    · subst huv
      rw [Function.update_self]
      exact watched_look _ _
    · rw [Function.update_of_ne huv]
      exact .refl _
  graphLeft := le_rfl
  graphDue := rfl
  calls := rfl
  started := rfl

theorem takeSnapshot_looks : Looks h 1 w (w.takeSnapshot h).2 where
  now_le := Nat.le_add_right _ _
  pace := by
    rw [Nat.one_mul]
    exact Nat.add_le_add_left (h.cost_le _) _
  unit _ := .refl _
  graphLeft := by
    show (if _ then 0 else w.graphLeft - 1) ≤ w.graphLeft
    split
    · exact Nat.zero_le _
    · exact Nat.sub_le _ _
  graphDue := rfl
  calls := rfl
  started := rfl

end JointController.Workspace
