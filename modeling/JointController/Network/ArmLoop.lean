import JointController.Library.Observers
import JointController.Network.Workers
import Mathlib.Data.List.Find

/-!
# Runs of the arm worker

The loop of the arm worker and its command handler change the same axes.  Every hundredth of a
second the loop moves the command positions towards the targets, watches the axes in motion for
stalls, and takes the power away when it finds a fault.

* `ArmRun`, `ArmLabel`, `ArmRun.step`: the worker with what it reads, and one step of a thread.
* `ArmWorker.firstEnd`, `ArmWorker.firstStall`: the axis that ends a cycle early, and the one whose
  stall a cycle detects.
* `ArmRun.Integral`: no axis has a float for a target.
* `ArmNote`, `armNote`: an observer notes the directions that stalls have blocked, and a cycle that
  has found a fault.
* `LoopKept`: what a step may do to the loop, the axes and the power.
* `ArmWorker.advanceAxes_of_none`, `ArmWorker.advanceAxes_of_some`: a cycle that comes to all axes
  and one that ends early.
* `loopKept_of_run`: the rule holds along every run.
* `not_claimed_samples`: a homing lifts a block, the axes of a disabled arm follow their feedback,
  and a fault between two cycles is not noticed.
-/

namespace JointController

namespace Network

/-! ## Steps -/

/-- The arm worker, the feedback of the driver, the clock, and whether the driver has exited and the
worker is to stop. -/
structure ArmRun where
  worker : ArmWorker
  real : Slot → AxisState
  now : ℚ
  exited : Bool
  stopped : Bool

/-- A step of the loop or of the command handler, or of the world around them. -/
inductive ArmLabel where
  | feedback (real : Slot → AxisState)
  | driverExit
  | elapse (duration : ℚ)
  | command (c : ArmCommand) (payload : Payload)
  | cycle
  | stop

namespace ArmRun

variable (env : Environment) (s : ArmRun)

/-- The worker when its thread starts. -/
def initial (numbers : ArmNumbers) (limits : Slot → ℤ × ℤ) (zeroOffset : Slot → ℤ)
    (real : Slot → AxisState) (now : ℚ) : ArmRun where
  worker := .started numbers limits zeroOffset real now
  real := real
  now := now
  exited := false
  stopped := false

/-- The next state.  The loop ends when it finds that it is to stop. -/
def step : ArmLabel → Option ArmRun
  | .feedback real => some { s with real := real }
  | .driverExit => some { s with exited := true }
  | .elapse duration => if 0 ≤ duration then some { s with now := s.now + duration } else none
  | .command c payload =>
    some { s with worker := (s.worker.command env s.real s.now c payload).2 }
  | .cycle =>
    if s.worker.looping then
      some (if s.stopped then { s with worker := { s.worker with looping := false } }
        else { s with worker := s.worker.loop s.real s.now s.exited })
    else none
  | .stop => some { s with stopped := true }

/-- There is an axis fault, or the driver has exited. -/
def trips : Bool := s.exited || armFaulted s.real

/-- The loop is running and does not find that it is to stop. -/
def cycles : Bool := s.worker.looping && !s.stopped

/-- A cycle of the loop powers the arm. -/
def powers : Bool := s.cycles && s.worker.enabled && !s.trips

end ArmRun

/-! ## Stalls -/

/-- A cycle finds that the axis stalls. -/
def ArmAxis.stalls (numbers : ArmNumbers) (now : ℚ) (actual : ℤ) (a : ArmAxis) : Bool :=
  !(a.watched numbers now actual).2

/-- The loop over the axes ends with this one. -/
def ArmAxis.ends (numbers : ArmNumbers) (now : ℚ) (actual : ℤ) (a : ArmAxis) : Bool :=
  !(a.cycled numbers now actual).2

/-- The axis that ends a cycle of the loop: the loop does not come to those behind it. -/
def ArmWorker.firstEnd (w : ArmWorker) (real : Slot → AxisState) (now : ℚ) : Option Slot :=
  (List.finRange 14).find? fun i => (w.axes i).ends w.numbers now (real i).position

/-- The axis whose stall a cycle of the loop detects. -/
def ArmWorker.firstStall (w : ArmWorker) (real : Slot → AxisState) (now : ℚ) : Option Slot :=
  (w.firstEnd real now).filter fun i => (w.axes i).stalls w.numbers now (real i).position

/-- The stall that a step detects. -/
def ArmRun.detects (s : ArmRun) : ArmLabel → Option Slot
  | .cycle => if s.powers then s.worker.firstStall s.real s.now else none
  | _ => none

/-- No axis has a float for a target. -/
def ArmRun.Integral (s : ArmRun) : Prop := ∀ i, (s.worker.axes i).targetFloat = false

/-- A jog whose direction is a float. -/
def ArmLabel.JogsFloat (l : ArmLabel) : Prop :=
  ∃ payload direction, l = .command .jog payload ∧ payload.direction? = some direction ∧
    direction.isFloat = true

/-! ## The rule -/

/-- What an observer notes: the direction that a stall has blocked for each axis, and whether a
cycle has found a fault since the last `ENABLE`. -/
structure ArmNote where
  blocked : Slot → ℤ
  tripped : Bool

/-- What a command leaves of the blocked directions.  A hold lifts all blocks, a homing the one of
its axis, and a jog the one of its axis against its direction. -/
def ArmRun.blocksAfter (env : Environment) (s : ArmRun) (c : ArmCommand) (payload : Payload)
    (blocked : Slot → ℤ) : Slot → ℤ :=
  match c with
  | .enable | .disable | .hold => fun _ => 0
  | .home =>
    match (do s.worker.checkReady s.real "homing"; payload.slot) with
    | .ok i => Function.update blocked i 0
    | .error _ => blocked
  | .jog =>
    match s.worker.jogArguments env s.real payload with
    | .ok (i, direction, _) =>
      if blocked i = -direction.sign then Function.update blocked i 0 else blocked
    | .error _ => blocked

/-- What a cycle that powers the arm makes of the blocked directions. -/
def ArmRun.blocksPowered (s : ArmRun) (blocked : Slot → ℤ) : Slot → ℤ :=
  match s.worker.firstStall s.real s.now with
  | some i => Function.update blocked i (s.worker.axes i).motionDirection
  | none => blocked

/-- The observer.  A cycle that does not power the arm holds all axes. -/
def armNote (env : Environment) (s : ArmRun) (l : ArmLabel) (n : ArmNote) : ArmNote where
  blocked :=
    match l with
    | .cycle =>
      if s.powers then s.blocksPowered n.blocked
      else if s.cycles then fun _ => 0
      else n.blocked
    | .command c payload => s.blocksAfter env c payload n.blocked
    | _ => n.blocked
  tripped :=
    match l with
    | .cycle => n.tripped || s.cycles && s.trips
    | .command .enable _ => false
    | _ => n.tripped

/-- The distance of one period. -/
def ArmNumbers.delta (numbers : ArmNumbers) : ℤ :=
  max 1 (truncate (numbers.maxSpeedRadS * numbers.positionUnitsPerRad / 100))

/-- From `before` to `after` it goes towards a target and not past it, by a step at most. -/
structure Towards (delta target before after : ℤ) : Prop where
  slow : -delta ≤ after - before ∧ after - before ≤ delta
  up : before ≤ target → before ≤ after ∧ after ≤ target
  down : target ≤ before → target ≤ after ∧ after ≤ before
  moves : before ≠ target → after ≠ before

/-- The drive of the axis has its command position. -/
def ArmAxis.Written (a : ArmAxis) : Prop := a.control.position = cInt32 a.commandPosition

/-- A drive keeps what it has, or gets the command position of its axis. -/
def ArmAxis.Sends (a b : ArmAxis) : Prop :=
  b.control.position = a.control.position ∨ b.Written

/-- The target and the directions of an axis stay. -/
structure SameCourse (a b : ArmAxis) : Prop where
  target : b.target = a.target
  motionDirection : b.motionDirection = a.motionDirection
  blockedDirection : b.blockedDirection = a.blockedDirection

/-- The rule for a step. -/
structure LoopKept (env : Environment) (s : ArmRun × ArmNote) (l : ArmLabel)
    (s' : ArmRun × ArmNote) : Prop where
  /-- The loop goes on until it is stopped, as long as it detects no stall and meets no float. -/
  running : s.1.worker.looping = true → s.1.stopped = false → s.1.detects l = none →
    s.1.Integral → s'.1.worker.looping = true
  /-- Only a jog whose direction is a float makes a float of a target. -/
  integral : s.1.Integral → ¬ l.JogsFloat → s'.1.Integral
  /-- A detected stall holds its axis at the measured position. -/
  holds : ∀ i, s.1.detects l = some i →
    (s'.1.worker.axes i).target = (s.1.real i).position ∧
      (s'.1.worker.axes i).commandPosition = (s.1.real i).position ∧
      (s'.1.worker.axes i).motionDirection = 0
  /-- It leaves the other axes on their course. -/
  spares : ∀ i j, s.1.detects l = some i → j ≠ i →
    SameCourse (s.1.worker.axes j) (s'.1.worker.axes j)
  /-- A jog in a blocked direction is refused. -/
  refuses : ∀ payload i direction, l = .command .jog payload → payload.slot = .ok i →
    payload.direction? = some direction → s.2.blocked i = direction.sign →
    (∃ e, (s.1.worker.command env s.1.real s.1.now .jog payload).1 = .error e) ∧
      s'.1.worker = s.1.worker
  /-- A cycle that powers the arm, detects no stall and meets no float moves every command position
  towards its target. -/
  steady : l = .cycle → s.1.powers = true → s.1.detects l = none → s.1.Integral → ∀ i,
    Towards s.1.worker.numbers.delta (s.1.worker.axes i).clampedTarget
      (s.1.worker.axes i).commandPosition (s'.1.worker.axes i).commandPosition
  /-- A cycle that detects no stall and meets no float gives the drives the command positions. -/
  written : l = .cycle → s.1.cycles = true → s.1.detects l = none → s.1.Integral → ∀ i,
    (s'.1.worker.axes i).Written
  /-- No step gives a drive anything else. -/
  sends : ∀ i, (s.1.worker.axes i).Sends (s'.1.worker.axes i)
  /-- Nothing but a cycle and a command changes an axis. -/
  rests : l ≠ .cycle → (∀ c payload, l ≠ .command c payload) →
    s'.1.worker.axes = s.1.worker.axes
  /-- Since a cycle has found a fault there is no power until an `ENABLE`. -/
  off : s'.2.tripped = true → s'.1.worker.powerOn = false

variable {env : Environment} {s s' : ArmRun} {l : ArmLabel}

/-! ## One axis in a cycle -/

namespace ArmAxis

variable {numbers : ArmNumbers} {now : ℚ} {actual : ℤ} {a : ArmAxis}

/-- A stall ends the cycle, and holds the axis. -/
theorem cycled_of_stalls (h : a.stalls numbers now actual = true) :
    a.cycled numbers now actual =
      ({ a with
        target := actual
        targetFloat := false
        commandPosition := actual
        motionDirection := 0
        blockedDirection := a.motionDirection }, false) := by
  unfold stalls at h
  unfold cycled
  unfold watched at h ⊢
  dsimp only at h ⊢
  split_ifs at h ⊢
  · cases h
  · cases h
  · rfl
  · cases h

/-- An axis that does not stall advances, on its course. -/
theorem cycled_of_not_stalls (h : a.stalls numbers now actual = false) :
    ∃ b, SameCourse a b ∧ b.targetFloat = a.targetFloat ∧ b.commandPosition = a.commandPosition ∧
      b.control = a.control ∧
      a.cycled numbers now actual = b.advance numbers a.clampedTarget a.clampedFloat := by
  unfold stalls at h
  unfold cycled
  unfold watched at h ⊢
  dsimp only at h ⊢
  split_ifs at h ⊢
  · exact ⟨a, ⟨rfl, rfl, rfl⟩, rfl, rfl, rfl, rfl⟩
  · exact ⟨{ a with watchPosition := actual, watchStarted := now }, ⟨rfl, rfl, rfl⟩, rfl, rfl, rfl,
      rfl⟩
  · cases h
  · exact ⟨a, ⟨rfl, rfl, rfl⟩, rfl, rfl, rfl, rfl⟩

/-- What an advance leaves of an axis, and its new command position. -/
theorem advance_fst (numbers : ArmNumbers) (target : ℤ) (targetFloat : Bool) (a : ArmAxis) :
    SameCourse a (a.advance numbers target targetFloat).1 ∧
      (a.advance numbers target targetFloat).1.targetFloat = a.targetFloat ∧
      (a.advance numbers target targetFloat).1.commandPosition = a.commandPosition +
        max (-numbers.delta) (min numbers.delta (target - a.commandPosition)) := by
  unfold advance
  dsimp only
  split_ifs
  all_goals exact ⟨⟨rfl, rfl, rfl⟩, rfl, rfl⟩

/-- An advance writes the command position, unless the store fails. -/
theorem advance_sends (numbers : ArmNumbers) (target : ℤ) (targetFloat : Bool) (a : ArmAxis) :
    (a.advance numbers target targetFloat).2 = false ∧
        (a.advance numbers target targetFloat).1.control = a.control ∨
      (a.advance numbers target targetFloat).1.Written := by
  unfold advance
  dsimp only
  split_ifs
  · exact Or.inl ⟨rfl, rfl⟩
  · exact Or.inr rfl

/-- The store of an integer succeeds. -/
theorem advance_of_integer (target : ℤ) : (a.advance numbers target false).2 = true := by
  unfold advance
  dsimp only
  rw [if_neg fun h => Bool.false_ne_true h.1]

theorem sameCourse_cycled (h : a.stalls numbers now actual = false) :
    SameCourse a (a.cycled numbers now actual).1 := by
  obtain ⟨b, hb, -, -, -, hcycled⟩ := cycled_of_not_stalls h
  rw [hcycled]
  obtain ⟨hadvance, -⟩ := advance_fst numbers a.clampedTarget a.clampedFloat b
  exact ⟨hadvance.target.trans hb.target, hadvance.motionDirection.trans hb.motionDirection,
    hadvance.blockedDirection.trans hb.blockedDirection⟩

theorem towards_cycled (h : a.stalls numbers now actual = false) :
    Towards numbers.delta a.clampedTarget a.commandPosition
      (a.cycled numbers now actual).1.commandPosition := by
  have hdelta : 1 ≤ numbers.delta := le_max_left _ _
  obtain ⟨b, -, -, hcommand, -, hcycled⟩ := cycled_of_not_stalls h
  rw [hcycled, (advance_fst numbers a.clampedTarget a.clampedFloat b).2.2, hcommand]
  refine ⟨?_, ?_, ?_, ?_⟩
  all_goals omega

/-- The loop goes on behind an axis that does not stall and whose target is an integer. -/
theorem not_ends_of_integer (h : a.stalls numbers now actual = false)
    (hinteger : a.targetFloat = false) : a.ends numbers now actual = false := by
  obtain ⟨b, -, -, -, -, hcycled⟩ := cycled_of_not_stalls h
  have hclamped : a.clampedFloat = false := by
    unfold clampedFloat
    rw [hinteger, Bool.false_and, Bool.false_and]
  unfold ends
  rw [hcycled, hclamped, advance_of_integer]
  rfl

theorem not_stalls_of_not_ends (h : a.ends numbers now actual = false) :
    a.stalls numbers now actual = false := by
  by_contra hstalls
  unfold ends at h
  rw [cycled_of_stalls ((Bool.not_eq_false _).mp hstalls)] at h
  cases h

theorem targetFloat_cycled (h : a.targetFloat = false) :
    (a.cycled numbers now actual).1.targetFloat = false := by
  cases hstalls : a.stalls numbers now actual with
  | true => rw [cycled_of_stalls hstalls]
  | false =>
    obtain ⟨b, -, hfloat, -, -, hcycled⟩ := cycled_of_not_stalls hstalls
    rw [hcycled, (advance_fst numbers a.clampedTarget a.clampedFloat b).2.1, hfloat, h]

/-- A cycle of an axis writes its command position, or ends there and writes nothing. -/
theorem cycled_sends (numbers : ArmNumbers) (now : ℚ) (actual : ℤ) (a : ArmAxis) :
    a.ends numbers now actual = true ∧ (a.cycled numbers now actual).1.control = a.control ∨
      (a.cycled numbers now actual).1.Written := by
  cases hstalls : a.stalls numbers now actual with
  | true =>
    unfold ends
    rw [cycled_of_stalls hstalls]
    exact Or.inl ⟨rfl, rfl⟩
  | false =>
    obtain ⟨b, -, -, -, hcontrol, hcycled⟩ := cycled_of_not_stalls hstalls
    unfold ends
    rw [hcycled]
    obtain ⟨hfails, hkept⟩ | hwritten := advance_sends numbers a.clampedTarget a.clampedFloat b
    · rw [hfails]
      exact Or.inl ⟨rfl, hkept.trans hcontrol⟩
    · exact Or.inr hwritten

end ArmAxis

/-! ## A cycle -/

namespace ArmWorker

variable {real : Slot → AxisState} {now : ℚ}

/-- The axis that ends the loop over some axes. -/
def endIn (w : ArmWorker) (real : Slot → AxisState) (now : ℚ) (slots : List Slot) : Option Slot :=
  slots.find? fun i => (w.axes i).ends w.numbers now (real i).position

/-- What a cycle makes of an axis. -/
def cycledAt (w : ArmWorker) (real : Slot → AxisState) (now : ℚ) (i : Slot) : ArmAxis :=
  ((w.axes i).cycled w.numbers now (real i).position).1

theorem advanceAxes_cons (i : Slot) (slots : List Slot) (w : ArmWorker) :
    w.advanceAxes real now (i :: slots) =
      if (w.axes i).ends w.numbers now (real i).position then
        { w.setAxis i (w.cycledAt real now i) with looping := false }
      else (w.setAxis i (w.cycledAt real now i)).advanceAxes real now slots := by
  rw [advanceAxes]
  unfold ArmAxis.ends cycledAt
  split
  · rename_i hgoes
    rw [hgoes]
    rfl
  · rename_i hends
    rw [hends]
    rfl

/-- The other axes end the loop as before when one is set. -/
theorem endIn_setAxis {w : ArmWorker} {i : Slot} {slots : List Slot} (hi : i ∉ slots)
    (a : ArmAxis) : (w.setAxis i a).endIn real now slots = w.endIn real now slots := by
  unfold endIn
  refine List.find?_congr fun j hj => ?_
  have hji : j ≠ i := fun hji => hi (hji ▸ hj)
  unfold setAxis
  dsimp only
  rw [Function.update_of_ne hji]

/-- A cycle makes the same of the other axes when one is set. -/
theorem cycledAt_setAxis {w : ArmWorker} {i j : Slot} (hji : j ≠ i) (a : ArmAxis) :
    (w.setAxis i a).cycledAt real now j = w.cycledAt real now j := by
  unfold cycledAt setAxis
  dsimp only
  rw [Function.update_of_ne hji]

/-- The loop changes no axis but its own. -/
theorem axes_advanceAxes_of_not_mem {j : Slot} (slots : List Slot) : ∀ {w : ArmWorker}, j ∉ slots →
    (w.advanceAxes real now slots).axes j = w.axes j := by
  induction slots with
  | nil =>
    intro w _
    rfl
  | cons i slots ih =>
    intro w hj
    obtain ⟨hji, hj⟩ := not_or.mp (List.mem_cons.not.mp hj)
    rw [advanceAxes_cons]
    split_ifs
    · exact Function.update_of_ne hji ..
    · exact (ih hj).trans (Function.update_of_ne hji ..)

/-- The loop that comes to all of its axes. -/
theorem advanceAxes_of_none (slots : List Slot) : ∀ {w : ArmWorker}, slots.Nodup →
    w.endIn real now slots = none →
    (w.advanceAxes real now slots).looping = w.looping ∧
      ∀ j ∈ slots, (w.advanceAxes real now slots).axes j = w.cycledAt real now j := by
  induction slots with
  | nil =>
    intro w _ _
    exact ⟨rfl, fun j hj => absurd hj List.not_mem_nil⟩
  | cons i slots ih =>
    intro w hnodup hnone
    obtain ⟨hi, hslots⟩ := List.nodup_cons.mp hnodup
    unfold endIn at hnone
    rw [List.find?_cons] at hnone
    cases hends : (w.axes i).ends w.numbers now (real i).position with
    | true =>
      rw [hends] at hnone
      cases hnone
    | false =>
      rw [hends] at hnone
      rw [advanceAxes_cons, hends, if_neg Bool.false_ne_true]
      obtain ⟨hlooping, hmoved⟩ := ih hslots ((endIn_setAxis hi _).trans hnone)
      refine ⟨hlooping, fun j hj => ?_⟩
      obtain rfl | hj := List.mem_cons.mp hj
      · rw [axes_advanceAxes_of_not_mem slots hi]
        exact Function.update_self ..
      · have hji : j ≠ i := fun hji => hi (hji ▸ hj)
        rw [hmoved j hj, cycledAt_setAxis hji]

/-- The loop up to the axis that ends it.  It has come to some of the others. -/
theorem advanceAxes_of_some {i : Slot} (slots : List Slot) : ∀ {w : ArmWorker}, slots.Nodup →
    w.endIn real now slots = some i →
    (w.advanceAxes real now slots).axes i = w.cycledAt real now i ∧
      ∀ j ≠ i, (w.advanceAxes real now slots).axes j = w.axes j ∨
        (w.axes j).ends w.numbers now (real j).position = false ∧
          (w.advanceAxes real now slots).axes j = w.cycledAt real now j := by
  induction slots with
  | nil =>
    intro w _ hsome
    cases hsome
  | cons k slots ih =>
    intro w hnodup hsome
    obtain ⟨hk, hslots⟩ := List.nodup_cons.mp hnodup
    unfold endIn at hsome
    rw [List.find?_cons] at hsome
    cases hends : (w.axes k).ends w.numbers now (real k).position with
    | true =>
      rw [hends] at hsome
      obtain rfl := Option.some_inj.mp hsome
      rw [advanceAxes_cons, hends, if_pos rfl]
      exact ⟨Function.update_self .., fun j hj => Or.inl (Function.update_of_ne hj ..)⟩
    | false =>
      rw [hends] at hsome
      have hik : i ≠ k := by
        rintro rfl
        exact hk (List.mem_of_find?_eq_some hsome)
      obtain ⟨hended, hothers⟩ := ih hslots ((endIn_setAxis hk (w.cycledAt real now k)).trans hsome)
      rw [advanceAxes_cons, hends, if_neg Bool.false_ne_true]
      refine ⟨hended.trans (cycledAt_setAxis hik _), fun j hj => ?_⟩
      by_cases hjk : j = k
      · subst hjk
        -- Its turn is over, and the loop does not come back to it.
        have hkept : ((w.setAxis j (w.cycledAt real now j)).advanceAxes real now slots).axes j =
            w.cycledAt real now j := by
          rw [axes_advanceAxes_of_not_mem slots hk]
          exact Function.update_self ..
        exact Or.inr ⟨hends, hkept⟩
      · have hother := hothers j hj
        rw [cycledAt_setAxis hjk] at hother
        unfold setAxis at hother ⊢
        dsimp only at hother
        rwa [Function.update_of_ne hjk] at hother

end ArmWorker

/-! ## The steps of a run -/

theorem firstEnd_eq_none {w : ArmWorker} {real : Slot → AxisState} {now : ℚ}
    (h : w.firstEnd real now = none) (i : Slot) :
    (w.axes i).ends w.numbers now (real i).position = false :=
  (Bool.not_eq_true _).mp (List.find?_eq_none.mp h i (List.mem_finRange i))

theorem firstEnd_eq_some {w : ArmWorker} {real : Slot → AxisState} {now : ℚ} {i : Slot}
    (h : w.firstEnd real now = some i) :
    (w.axes i).ends w.numbers now (real i).position = true :=
  List.find?_some (p := fun i => (w.axes i).ends w.numbers now (real i).position) h

theorem firstStall_eq_some {w : ArmWorker} {real : Slot → AxisState} {now : ℚ} {i : Slot}
    (h : w.firstStall real now = some i) : w.firstEnd real now = some i ∧
      (w.axes i).stalls w.numbers now (real i).position = true :=
  Option.filter_eq_some_iff.mp h

theorem not_stalls_of_firstStall {w : ArmWorker} {real : Slot → AxisState} {now : ℚ} {i : Slot}
    (h : w.firstStall real now = none) (hend : w.firstEnd real now = some i) :
    (w.axes i).stalls w.numbers now (real i).position = false := by
  unfold ArmWorker.firstStall at h
  rw [hend, Option.filter_some] at h
  by_contra hstalls
  rw [if_pos ((Bool.not_eq_false _).mp hstalls)] at h
  cases h

/-- A cycle without a stall that meets no float comes to all axes. -/
theorem firstEnd_of_integral (h : s.worker.firstStall s.real s.now = none) (hs : s.Integral) :
    s.worker.firstEnd s.real s.now = none := by
  cases hend : s.worker.firstEnd s.real s.now with
  | none => rfl
  | some i =>
    have hends := firstEnd_eq_some hend
    rw [ArmAxis.not_ends_of_integer (not_stalls_of_firstStall h hend) (hs i)] at hends
    cases hends

/-- A cycle that does not power the arm holds all axes, without power. -/
theorem ArmRun.loop_of_not_powers (hcycles : s.cycles = true) (hpowers : s.powers = false) :
    s.worker.loop s.real s.now s.exited =
      { s.worker with enabled := false, powerOn := false }.holdLocked s.real s.now := by
  obtain ⟨hlooping, -⟩ := Bool.and_eq_true_iff.mp hcycles
  have henabled : (s.worker.enabled && !s.exited && !armFaulted s.real) = false := by
    unfold powers trips at hpowers
    rw [hcycles, Bool.true_and, Bool.not_or, ← Bool.and_assoc] at hpowers
    exact hpowers
  unfold ArmWorker.loop
  simp only [hlooping, henabled, Bool.not_true, Bool.false_eq_true, if_false]

/-- What a cycle that powers the arm makes of the worker. -/
def ArmRun.powered (s : ArmRun) : ArmWorker :=
  { s.worker with powerOn := true }.advanceAxes s.real s.now (List.finRange 14)

theorem ArmRun.loop_of_powers (hpowers : s.powers = true) :
    s.worker.loop s.real s.now s.exited = s.powered := by
  unfold powers trips cycles at hpowers
  simp only [Bool.and_eq_true, Bool.not_eq_true', Bool.or_eq_false_iff] at hpowers
  obtain ⟨⟨⟨hlooping, -⟩, henabled⟩, hexited, hfaulted⟩ := hpowers
  unfold ArmWorker.loop powered
  simp only [hlooping, henabled, hexited, hfaulted, Bool.not_true, Bool.not_false, Bool.and_self,
    Bool.false_eq_true, if_false, if_true]

/-- A cycle that comes to all axes. -/
theorem ArmRun.powered_of_none (h : s.worker.firstEnd s.real s.now = none) :
    s.powered.looping = s.worker.looping ∧
      ∀ j, s.powered.axes j = s.worker.cycledAt s.real s.now j := by
  obtain ⟨hlooping, hmoved⟩ := ArmWorker.advanceAxes_of_none (List.finRange 14)
    (w := { s.worker with powerOn := true }) (List.nodup_finRange 14) h
  exact ⟨hlooping, fun j => hmoved j (List.mem_finRange j)⟩

/-- A cycle that an axis ends. -/
theorem ArmRun.powered_of_some {i : Slot} (h : s.worker.firstEnd s.real s.now = some i) :
    s.powered.axes i = s.worker.cycledAt s.real s.now i ∧
      ∀ j ≠ i, s.powered.axes j = s.worker.axes j ∨
        (s.worker.axes j).ends s.worker.numbers s.now (s.real j).position = false ∧
          s.powered.axes j = s.worker.cycledAt s.real s.now j :=
  ArmWorker.advanceAxes_of_some (List.finRange 14) (w := { s.worker with powerOn := true })
    (List.nodup_finRange 14) h

/-- A cycle comes to an axis once at most. -/
theorem ArmRun.axes_powered (s : ArmRun) (j : Slot) :
    s.powered.axes j = s.worker.axes j ∨
      s.powered.axes j = s.worker.cycledAt s.real s.now j := by
  cases hend : s.worker.firstEnd s.real s.now with
  | none => exact Or.inr ((ArmRun.powered_of_none hend).2 j)
  | some i =>
    obtain ⟨hended, hothers⟩ := ArmRun.powered_of_some hend
    by_cases hji : j = i
    · subst hji
      exact Or.inr hended
    · exact (hothers j hji).imp_right And.right

/-- The axes that do not end a cycle keep their course. -/
theorem ArmRun.sameCourse_powered {i j : Slot} (h : s.worker.firstEnd s.real s.now = some i)
    (hji : j ≠ i) : SameCourse (s.worker.axes j) (s.powered.axes j) := by
  obtain hkept | ⟨hends, hcycled⟩ := (ArmRun.powered_of_some h).2 j hji
  · rw [hkept]
    exact ⟨rfl, rfl, rfl⟩
  · rw [hcycled]
    exact ArmAxis.sameCourse_cycled (ArmAxis.not_stalls_of_not_ends hends)

/-- What a step can do to the worker. -/
inductive ArmMoves (env : Environment) (s : ArmRun) : ArmLabel → ArmWorker → Prop
  | outside (l : ArmLabel) (hcycle : l ≠ .cycle) (hcommand : ∀ c payload, l ≠ .command c payload) :
      ArmMoves env s l s.worker
  | command (c : ArmCommand) (payload : Payload) :
      ArmMoves env s (.command c payload) (s.worker.command env s.real s.now c payload).2
  | ended (hcycles : s.cycles = false) :
      ArmMoves env s .cycle { s.worker with looping := false }
  | held (hcycles : s.cycles = true) (hpowers : s.powers = false) :
      ArmMoves env s .cycle
        ({ s.worker with enabled := false, powerOn := false }.holdLocked s.real s.now)
  | powered (hpowers : s.powers = true) :
      ArmMoves env s .cycle s.powered

theorem armMoves_of_step (h : s.step env l = some s') : ArmMoves env s l s'.worker := by
  cases l with
  | feedback real =>
    obtain rfl := Option.some_inj.mp h
    exact ArmMoves.outside _ (by rintro ⟨⟩) (by rintro _ _ ⟨⟩)
  | driverExit =>
    obtain rfl := Option.some_inj.mp h
    exact ArmMoves.outside _ (by rintro ⟨⟩) (by rintro _ _ ⟨⟩)
  | elapse duration =>
    obtain ⟨hduration, h⟩ := Option.ite_none_right_eq_some.mp h
    obtain rfl := Option.some_inj.mp h
    exact ArmMoves.outside _ (by rintro ⟨⟩) (by rintro _ _ ⟨⟩)
  | command c payload =>
    obtain rfl := Option.some_inj.mp h
    exact ArmMoves.command c payload
  | stop =>
    obtain rfl := Option.some_inj.mp h
    exact ArmMoves.outside _ (by rintro ⟨⟩) (by rintro _ _ ⟨⟩)
  | cycle =>
    obtain ⟨hlooping, h⟩ := Option.ite_none_right_eq_some.mp h
    obtain rfl := Option.some_inj.mp h
    split_ifs with hstopped
    · refine ArmMoves.ended ?_
      unfold ArmRun.cycles
      rw [hstopped, Bool.not_true, Bool.and_false]
    · have hcycles : s.cycles = true := by
        unfold ArmRun.cycles
        rw [hlooping, (Bool.not_eq_true _).mp hstopped]
        rfl
      cases hpowers : s.powers with
      | true =>
        dsimp only
        rw [ArmRun.loop_of_powers hpowers]
        exact ArmMoves.powered hpowers
      | false =>
        dsimp only
        rw [ArmRun.loop_of_not_powers hcycles hpowers]
        exact ArmMoves.held hcycles hpowers

/-! ## The commands -/

theorem ArmWorker.jogArguments_eq_ok {w : ArmWorker} {real : Slot → AxisState} {payload : Payload}
    {i : Slot} {direction : Direction} {units : ℚ}
    (h : w.jogArguments env real payload = .ok (i, direction, units)) :
    payload.slot = .ok i ∧ payload.direction? = some direction ∧
      (w.axes i).blockedDirection ≠ direction.sign := by
  unfold jogArguments at h
  cases hready : w.checkReady real "jogging" with
  | error e =>
    rw [hready] at h
    cases h
  | ok _ =>
    rw [hready] at h
    cases hslot : payload.slot with
    | error e =>
      rw [hslot] at h
      cases h
    | ok j =>
      rw [hslot] at h
      cases hdirection : payload.direction? with
      | none =>
        rw [hdirection] at h
        cases h
      | some d =>
        rw [hdirection] at h
        cases hstep : env.jogStep payload.stepRad w.numbers.jogStepRad w.numbers.maxStepRad
            "arm jog step exceeds lower-machine limit" with
        | error e =>
          simp only [hstep, bind, Except.bind] at h
          cases h
        | ok step =>
          simp only [hstep, bind, Except.bind, Checks.refuse] at h
          split_ifs at h with hblocked
          obtain ⟨rfl, rfl, rfl⟩ := h
          exact ⟨rfl, rfl, hblocked⟩

variable (env) in
/-- A jog in the direction that is blocked for its axis is refused, and changes nothing. -/
theorem ArmWorker.jog_of_blocked {w : ArmWorker} {payload : Payload} {i : Slot}
    {direction : Direction} (real : Slot → AxisState) (now : ℚ) (hslot : payload.slot = .ok i)
    (hdirection : payload.direction? = some direction)
    (hblocked : (w.axes i).blockedDirection = direction.sign) :
    (∃ e, (w.jog env real now payload).1 = .error e) ∧ (w.jog env real now payload).2 = w := by
  unfold jog
  cases harguments : w.jogArguments env real payload with
  | error e => exact ⟨⟨e, rfl⟩, rfl⟩
  | ok arguments =>
    obtain ⟨j, d, units⟩ := arguments
    obtain ⟨hj, hd, hfree⟩ := jogArguments_eq_ok harguments
    obtain rfl := Except.ok.inj (hslot.symm.trans hj)
    obtain rfl := Option.some_inj.mp (hdirection.symm.trans hd)
    exact (hfree hblocked).elim

theorem ArmAxis.blockedDirection_turned (direction actual : ℤ) (a : ArmAxis) :
    (a.turned direction actual).blockedDirection =
      if a.blockedDirection = -direction ∨ a.motionDirection ≠ direction then 0
      else a.blockedDirection := by
  unfold turned
  split_ifs
  all_goals rfl

theorem ArmAxis.motionDirection_turned (direction actual : ℤ) (a : ArmAxis) :
    (a.turned direction actual).motionDirection = a.motionDirection := by
  unfold turned
  split_ifs
  all_goals rfl

/-- A command leaves the loop and the power alone, and only `ENABLE` enables the arm. -/
structure PowerKept (w w' : ArmWorker) : Prop where
  looping : w'.looping = w.looping
  powerOn : w'.powerOn = w.powerOn
  enabled : w'.enabled = true → w.enabled = true

theorem ArmWorker.powerKept_jog (w : ArmWorker) (real : Slot → AxisState) (now : ℚ)
    (payload : Payload) : PowerKept w (w.jog env real now payload).2 := by
  unfold jog
  cases w.jogArguments env real payload with
  | error e => exact ⟨rfl, rfl, id⟩
  | ok arguments =>
    dsimp only
    cases armRadToUnits arguments.2.2 w.numbers.positionUnitsPerRad with
    | none => exact ⟨rfl, rfl, id⟩
    | some units => exact ⟨rfl, rfl, id⟩

theorem ArmWorker.powerKept_home (w : ArmWorker) (real : Slot → AxisState) (payload : Payload) :
    PowerKept w (w.home real payload).2 := by
  unfold home
  split
  all_goals exact ⟨rfl, rfl, id⟩

variable (env) in
theorem ArmWorker.powerKept_command {c : ArmCommand} (hc : c ≠ .enable) (w : ArmWorker)
    (real : Slot → AxisState) (now : ℚ) (payload : Payload) :
    PowerKept w (w.command env real now c payload).2 := by
  cases c with
  | enable => exact (hc rfl).elim
  | disable => exact ⟨rfl, rfl, fun h => absurd h Bool.false_ne_true⟩
  | hold => exact ⟨rfl, rfl, id⟩
  | home => exact w.powerKept_home real payload
  | jog => exact w.powerKept_jog real now payload

variable (env) in
theorem ArmWorker.looping_command (c : ArmCommand) (w : ArmWorker) (real : Slot → AxisState)
    (now : ℚ) (payload : Payload) :
    (w.command env real now c payload).2.looping = w.looping := by
  by_cases hc : c = .enable
  · subst hc
    rfl
  · exact (ArmWorker.powerKept_command env hc w real now payload).looping

/-! ## What the observer knows -/

/-- The observer knows the blocked direction of an axis, and the directions are signs. -/
structure AxisNoted (blocked : ℤ) (a : ArmAxis) : Prop where
  blocked : a.blockedDirection = blocked
  blockedSign : -1 ≤ a.blockedDirection ∧ a.blockedDirection ≤ 1
  motionSign : -1 ≤ a.motionDirection ∧ a.motionDirection ≤ 1

/-- The observer knows the blocked directions.  When a cycle has found a fault, the arm is disabled
and has no power. -/
structure LoopNoted (s : ArmRun × ArmNote) : Prop where
  axes : ∀ i, AxisNoted (s.2.blocked i) (s.1.worker.axes i)
  tripped : s.2.tripped = true → s.1.worker.enabled = false ∧ s.1.worker.powerOn = false

theorem signed_zero : -1 ≤ (0 : ℤ) ∧ (0 : ℤ) ≤ 1 := by decide

theorem axisNoted_hold (numbers : ArmNumbers) (now : ℚ) (actual : ℤ) (a : ArmAxis) :
    AxisNoted 0 (a.hold numbers now actual) := ⟨rfl, signed_zero, signed_zero⟩

theorem AxisNoted.course {blocked : ℤ} {a b : ArmAxis} (h : AxisNoted blocked a)
    (hcourse : SameCourse a b) : AxisNoted blocked b := by
  obtain ⟨-, hmotion, hblocked⟩ := hcourse
  refine ⟨hblocked.trans h.blocked, ?_, ?_⟩
  · rw [hblocked]
    exact h.blockedSign
  · rw [hmotion]
    exact h.motionSign

/-- A change of one axis. -/
theorem axesNoted_setAxis {w : ArmWorker} {blocked : Slot → ℤ} {i : Slot} {b : ℤ} {a : ArmAxis}
    (h : ∀ j, AxisNoted (blocked j) (w.axes j)) (ha : AxisNoted b a) (j : Slot) :
    AxisNoted (Function.update blocked i b j) ((w.setAxis i a).axes j) := by
  unfold ArmWorker.setAxis
  dsimp only
  by_cases hji : j = i
  · subst hji
    rw [Function.update_self, Function.update_self]
    exact ha
  · rw [Function.update_of_ne hji, Function.update_of_ne hji]
    exact h j

variable (env) in
theorem axesNoted_home {blocked : Slot → ℤ} (h : ∀ j, AxisNoted (blocked j) (s.worker.axes j))
    (payload : Payload) (j : Slot) :
    AxisNoted (s.blocksAfter env .home payload blocked j)
      ((s.worker.home s.real payload).2.axes j) := by
  unfold ArmRun.blocksAfter ArmWorker.home
  dsimp only
  split
  · rename_i e hready
    rw [hready]
    exact h j
  · rename_i i hready
    rw [hready]
    refine axesNoted_setAxis h ?_ j
    exact ⟨rfl, signed_zero, signed_zero⟩

/-- The direction of a jog is a sign. -/
theorem Payload.direction_eq {payload : Payload} {direction : Direction}
    (h : payload.direction? = some direction) : direction.sign = -1 ∨ direction.sign = 1 := by
  obtain ⟨leaf, -, hleaf⟩ := Option.bind_eq_some_iff.mp h
  unfold Leaf.direction? at hleaf
  split at hleaf
  · obtain ⟨hsign, hleaf⟩ := Option.ite_none_right_eq_some.mp hleaf
    obtain rfl := Option.some_inj.mp hleaf
    exact hsign
  · obtain ⟨-, hleaf⟩ := Option.ite_none_right_eq_some.mp hleaf
    obtain rfl := Option.some_inj.mp hleaf
    exact Or.inr rfl
  · split_ifs at hleaf
    · obtain rfl := Option.some_inj.mp hleaf
      exact Or.inr rfl
    · obtain rfl := Option.some_inj.mp hleaf
      exact Or.inl rfl
  · cases hleaf

/-- A jog against the blocked direction lifts the block. -/
theorem axisNoted_turned {blocked direction : ℤ} {a : ArmAxis} (h : AxisNoted blocked a)
    (hfree : a.blockedDirection ≠ direction) (hdirection : direction = -1 ∨ direction = 1)
    (actual : ℤ) :
    AxisNoted (if blocked = -direction then 0 else blocked) (a.turned direction actual) := by
  have hblocked : (a.turned direction actual).blockedDirection =
      if blocked = -direction then 0 else blocked := by
    rw [ArmAxis.blockedDirection_turned]
    obtain ⟨rfl, hsign, -⟩ := h
    split_ifs
    all_goals omega
  refine ⟨hblocked, ?_, ?_⟩
  · obtain ⟨rfl, hsign, -⟩ := h
    rw [hblocked]
    split_ifs
    · exact signed_zero
    · exact hsign
  · rw [ArmAxis.motionDirection_turned]
    exact h.motionSign

theorem axesNoted_jog {blocked : Slot → ℤ} (h : ∀ j, AxisNoted (blocked j) (s.worker.axes j))
    (payload : Payload) (j : Slot) :
    AxisNoted (s.blocksAfter env .jog payload blocked j)
      ((s.worker.jog env s.real s.now payload).2.axes j) := by
  unfold ArmRun.blocksAfter ArmWorker.jog
  dsimp only
  cases harguments : s.worker.jogArguments env s.real payload with
  | error e => exact h j
  | ok arguments =>
    obtain ⟨i, direction, step⟩ := arguments
    obtain ⟨-, hdirection, hfree⟩ := ArmWorker.jogArguments_eq_ok harguments
    have hsign := Payload.direction_eq hdirection
    have hturned := axisNoted_turned (h i) hfree hsign (s.real i).position
    have hblocks : (if blocked i = -direction.sign then Function.update blocked i 0 else blocked) =
        Function.update blocked i (if blocked i = -direction.sign then 0 else blocked i) := by
      split_ifs
      · rfl
      · exact (Function.update_eq_self i blocked).symm
    dsimp only
    rw [hblocks]
    cases armRadToUnits step s.worker.numbers.positionUnitsPerRad with
    | none => exact axesNoted_setAxis h hturned j
    | some units =>
      refine axesNoted_setAxis h ?_ j
      refine ⟨hturned.blocked, hturned.blockedSign, ?_⟩
      unfold ArmAxis.jogged
      dsimp only
      omega

/-- A cycle that powers the arm blocks the direction of the axis whose stall it detects. -/
theorem axesNoted_powered {blocked : Slot → ℤ} (h : ∀ j, AxisNoted (blocked j) (s.worker.axes j))
    (j : Slot) : AxisNoted (s.blocksPowered blocked j) (s.powered.axes j) := by
  have hcourse (hstalls : (s.worker.axes j).stalls s.worker.numbers s.now (s.real j).position =
      false) : AxisNoted (blocked j) (s.powered.axes j) := by
    obtain hkept | hcycled := s.axes_powered j
    · rw [hkept]
      exact h j
    · rw [hcycled]
      exact (h j).course (ArmAxis.sameCourse_cycled hstalls)
  unfold ArmRun.blocksPowered
  cases hstall : s.worker.firstStall s.real s.now with
  | none =>
    cases hend : s.worker.firstEnd s.real s.now with
    | none => exact hcourse (ArmAxis.not_stalls_of_not_ends (firstEnd_eq_none hend j))
    | some i =>
      by_cases hji : j = i
      · subst hji
        exact hcourse (not_stalls_of_firstStall hstall hend)
      · exact (h j).course (ArmRun.sameCourse_powered hend hji)
  | some i =>
    obtain ⟨hend, hstalls⟩ := firstStall_eq_some hstall
    by_cases hji : j = i
    · subst hji
      rw [(ArmRun.powered_of_some hend).1]
      unfold ArmWorker.cycledAt
      rw [ArmAxis.cycled_of_stalls hstalls]
      dsimp only
      rw [Function.update_self]
      exact ⟨rfl, (h j).motionSign, signed_zero⟩
    · dsimp only
      rw [Function.update_of_ne hji]
      exact (h j).course (ArmRun.sameCourse_powered hend hji)

/-- The step lemma for the observer. -/
theorem LoopNoted.next {s s' : ArmRun × ArmNote} (hs : LoopNoted s)
    (h : Runs.observed (ArmRun.step env) (armNote env) s l = some s') : LoopNoted s' := by
  obtain ⟨s, n⟩ := s
  obtain ⟨s', n'⟩ := s'
  obtain ⟨hstep, hnote⟩ := Runs.observed_eq_some.mp h
  obtain rfl : n' = armNote env s l n := hnote
  have haxes : ∀ i, AxisNoted (n.blocked i) (s.worker.axes i) := hs.axes
  have htripped : n.tripped = true → s.worker.enabled = false ∧ s.worker.powerOn = false :=
    hs.tripped
  have hmoves : ArmMoves env s l s'.worker := armMoves_of_step hstep
  generalize hw : s'.worker = w' at hmoves
  suffices hkept : (∀ i, AxisNoted ((armNote env s l n).blocked i) (w'.axes i)) ∧
      ((armNote env s l n).tripped = true → w'.enabled = false ∧ w'.powerOn = false) by
    subst hw
    exact ⟨hkept.1, hkept.2⟩
  clear hw hstep h
  unfold armNote
  cases hmoves with
  | outside _ hcycle hcommand =>
    cases l with
    | cycle => exact (hcycle rfl).elim
    | command c payload => exact (hcommand c payload rfl).elim
    | _ => exact ⟨haxes, htripped⟩
  | command c payload =>
    refine ⟨?_, ?_⟩
    · cases c with
      | enable => exact fun i => axisNoted_hold _ _ _ _
      | disable => exact fun i => axisNoted_hold _ _ _ _
      | hold => exact fun i => axisNoted_hold _ _ _ _
      | home => exact axesNoted_home env haxes payload
      | jog => exact axesNoted_jog haxes payload
    · by_cases hc : c = .enable
      · subst hc
        rintro ⟨⟩
      · intro hnote
        have hkept := ArmWorker.powerKept_command env hc s.worker s.real s.now payload
        obtain ⟨henabled, hpower⟩ := htripped (by
          cases c with
          | enable => exact (hc rfl).elim
          | _ => exact hnote)
        refine ⟨?_, hkept.powerOn.trans hpower⟩
        by_contra hon
        rw [hkept.enabled ((Bool.not_eq_false _).mp hon)] at henabled
        cases henabled
  | ended hcycles =>
    have hpowers : s.powers = false := by
      unfold ArmRun.powers
      rw [hcycles, Bool.false_and, Bool.false_and]
    simp only [hpowers, hcycles, Bool.false_eq_true, if_false, Bool.false_and, Bool.or_false]
    exact ⟨haxes, htripped⟩
  | held hcycles hpowers =>
    simp only [hpowers, hcycles, Bool.false_eq_true, if_false, if_true]
    exact ⟨fun i => axisNoted_hold _ _ _ _, fun _ => ⟨rfl, rfl⟩⟩
  | powered hpowers =>
    have htrips : (s.cycles && s.trips) = false := by
      unfold ArmRun.powers at hpowers
      rw [Bool.and_eq_true, Bool.not_eq_true'] at hpowers
      rw [hpowers.2, Bool.and_false]
    have henabled : s.worker.enabled = true := by
      unfold ArmRun.powers at hpowers
      rw [Bool.and_eq_true, Bool.and_eq_true] at hpowers
      exact hpowers.1.2
    refine ⟨?_, fun hnote => ?_⟩
    · simp only [hpowers, if_true]
      exact axesNoted_powered haxes
    · dsimp only at hnote
      rw [htrips, Bool.or_false] at hnote
      rw [(htripped hnote).1] at henabled
      cases henabled

/-! ## Targets and drives -/

theorem ArmAxis.targetFloat_turned {a : ArmAxis} (h : a.targetFloat = false)
    (direction actual : ℤ) : (a.turned direction actual).targetFloat = false := by
  unfold turned
  split_ifs
  · rfl
  · exact h

theorem ArmAxis.control_turned (direction actual : ℤ) (a : ArmAxis) :
    (a.turned direction actual).control = a.control := by
  unfold turned
  split_ifs
  all_goals rfl

/-- A jog with an integer as its direction keeps the targets integers. -/
theorem ArmWorker.integral_jog {w : ArmWorker} (h : ∀ i, (w.axes i).targetFloat = false)
    {payload : Payload} (hpayload : ∀ d, payload.direction? = some d → d.isFloat = false)
    (real : Slot → AxisState) (now : ℚ) (i : Slot) :
    ((w.jog env real now payload).2.axes i).targetFloat = false := by
  unfold jog
  cases harguments : w.jogArguments env real payload with
  | error e => exact h i
  | ok arguments =>
    obtain ⟨j, direction, step⟩ := arguments
    obtain ⟨-, hdirection, -⟩ := jogArguments_eq_ok harguments
    have hturned := ArmAxis.targetFloat_turned (h j) direction.sign (real j).position
    dsimp only
    cases armRadToUnits step w.numbers.positionUnitsPerRad with
    | none => exact forall_setAxis (P := fun _ a => a.targetFloat = false) h hturned i
    | some units =>
      refine forall_setAxis (P := fun _ a => a.targetFloat = false) h ?_ i
      unfold ArmAxis.jogged ArmAxis.clampedFloat
      dsimp only
      rw [hturned, hpayload direction hdirection, Bool.or_self, Bool.false_and, Bool.false_and]

/-- Only a jog whose direction is a float makes a float of a target. -/
theorem integral_of_moves (h : ArmMoves env s l s'.worker) (hs : s.Integral)
    (hl : ¬ l.JogsFloat) : s'.Integral := by
  unfold ArmRun.Integral
  generalize s'.worker = w' at h
  intro i
  cases h with
  | outside _ _ _ => exact hs i
  | command c payload =>
    cases c with
    | enable => rfl
    | disable => rfl
    | hold => rfl
    | home =>
      unfold ArmWorker.command ArmWorker.home
      dsimp only
      split
      · exact hs i
      · exact ArmWorker.forall_setAxis (P := fun _ a => a.targetFloat = false) hs rfl i
    | jog =>
      refine ArmWorker.integral_jog hs (fun d hd => ?_) s.real s.now i
      by_contra hfloat
      exact hl ⟨payload, d, rfl, hd, (Bool.not_eq_false _).mp hfloat⟩
  | ended _ => exact hs i
  | held _ _ => rfl
  | powered _ =>
    obtain hkept | hcycled := s.axes_powered i
    · rw [hkept]
      exact hs i
    · rw [hcycled]
      exact ArmAxis.targetFloat_cycled (hs i)

/-- A jog gives the drives nothing. -/
theorem ArmWorker.sends_jog (w : ArmWorker) (real : Slot → AxisState) (now : ℚ)
    (payload : Payload) (i : Slot) :
    (w.axes i).Sends ((w.jog env real now payload).2.axes i) := by
  have hkept (j : Slot) : (w.axes j).Sends (w.axes j) := Or.inl rfl
  unfold jog
  cases w.jogArguments env real payload with
  | error e => exact hkept i
  | ok arguments =>
    obtain ⟨j, direction, step⟩ := arguments
    have hcontrol := ArmAxis.control_turned direction.sign (real j).position (w.axes j)
    dsimp only
    cases armRadToUnits step w.numbers.positionUnitsPerRad with
    | none =>
      refine forall_setAxis (P := fun k a => (w.axes k).Sends a) hkept (Or.inl ?_) i
      rw [hcontrol]
    | some units =>
      refine forall_setAxis (P := fun k a => (w.axes k).Sends a) hkept (Or.inl ?_) i
      exact congrArg AxisControl.position hcontrol

theorem sends_of_moves (h : ArmMoves env s l s'.worker) (i : Slot) :
    (s.worker.axes i).Sends (s'.worker.axes i) := by
  generalize s'.worker = w' at h
  cases h with
  | outside _ _ _ => exact Or.inl rfl
  | command c payload =>
    cases c with
    | enable => exact Or.inr rfl
    | disable => exact Or.inr rfl
    | hold => exact Or.inr rfl
    | home =>
      unfold ArmWorker.command ArmWorker.home
      dsimp only
      split
      · exact Or.inl rfl
      · refine ArmWorker.forall_setAxis (P := fun k a => (s.worker.axes k).Sends a)
          (fun _ => Or.inl rfl) (Or.inl ?_) i
        rfl
    | jog => exact s.worker.sends_jog s.real s.now payload i
  | ended _ => exact Or.inl rfl
  | held _ _ => exact Or.inr rfl
  | powered _ =>
    obtain hkept | hcycled := s.axes_powered i
    · exact Or.inl (by rw [hkept])
    · unfold ArmAxis.Sends
      rw [hcycled]
      obtain ⟨-, hcontrol⟩ | hwritten := ArmAxis.cycled_sends s.worker.numbers s.now
        (s.real i).position (s.worker.axes i)
      · exact Or.inl (congrArg AxisControl.position hcontrol)
      · exact Or.inr hwritten

/-! ## Runs -/

theorem detects_of_powers {i : Slot} (h : s.detects l = some i) :
    l = .cycle ∧ s.powers = true ∧ s.worker.firstStall s.real s.now = some i := by
  cases l with
  | cycle =>
    obtain ⟨hpowers, hstall⟩ := Option.ite_none_right_eq_some.mp h
    exact ⟨rfl, hpowers, hstall⟩
  | _ => cases h

/-- A cycle that powers the arm has run over the axes. -/
theorem worker_of_powers (hpowers : s.powers = true) (hmoves : ArmMoves env s .cycle s'.worker) :
    s'.worker = s.powered := by
  have hcycles : s.cycles = true := by
    unfold ArmRun.powers at hpowers
    rw [Bool.and_eq_true, Bool.and_eq_true] at hpowers
    exact hpowers.1.1
  generalize s'.worker = w' at hmoves
  cases hmoves with
  | outside _ hcycle hcommand => exact (hcycle rfl).elim
  | ended hended =>
    rw [hended] at hcycles
    cases hcycles
  | held _ hheld =>
    rw [hheld] at hpowers
    cases hpowers
  | powered _ => rfl

/-- A cycle that powers the arm, detects no stall and meets no float comes to all axes. -/
theorem firstEnd_of_detects (hpowers : s.powers = true) (hnone : s.detects .cycle = none)
    (hs : s.Integral) : s.worker.firstEnd s.real s.now = none := by
  unfold ArmRun.detects at hnone
  rw [if_pos hpowers] at hnone
  exact firstEnd_of_integral hnone hs

/-- A step from which the observer knows the axes keeps the rule. -/
theorem loopKept_of_step {s s' : ArmRun × ArmNote} (hs : LoopNoted s)
    (h : Runs.observed (ArmRun.step env) (armNote env) s l = some s') : LoopKept env s l s' where
  running := by
    intro hlooping hstopped hnone hintegral
    have hmoves := armMoves_of_step (Runs.observed_eq_some.mp h).1
    have hcycles : s.1.cycles = true := by
      unfold ArmRun.cycles
      rw [hlooping, hstopped]
      rfl
    generalize s'.1.worker = w' at hmoves
    cases hmoves with
    | outside _ hcycle hcommand => exact hlooping
    | command c payload => exact (ArmWorker.looping_command env c _ _ _ payload).trans hlooping
    | ended hended =>
      rw [hended] at hcycles
      cases hcycles
    | held _ hheld => exact hlooping
    | powered hpowers =>
      exact (ArmRun.powered_of_none (firstEnd_of_detects hpowers hnone hintegral)).1.trans hlooping
  integral := integral_of_moves (armMoves_of_step (Runs.observed_eq_some.mp h).1)
  holds := by
    intro i hstall
    obtain ⟨rfl, hpowers, hfirst⟩ := detects_of_powers hstall
    obtain ⟨hend, hstalls⟩ := firstStall_eq_some hfirst
    rw [worker_of_powers hpowers (armMoves_of_step (Runs.observed_eq_some.mp h).1),
      (ArmRun.powered_of_some hend).1]
    unfold ArmWorker.cycledAt
    rw [ArmAxis.cycled_of_stalls hstalls]
    exact ⟨rfl, rfl, rfl⟩
  spares := by
    intro i j hstall hji
    obtain ⟨rfl, hpowers, hfirst⟩ := detects_of_powers hstall
    rw [worker_of_powers hpowers (armMoves_of_step (Runs.observed_eq_some.mp h).1)]
    exact ArmRun.sameCourse_powered (firstStall_eq_some hfirst).1 hji
  refuses := by
    rintro payload i direction rfl hslot hdirection hblocked
    have hmoves := armMoves_of_step (Runs.observed_eq_some.mp h).1
    have hrefused := ArmWorker.jog_of_blocked env s.1.real s.1.now hslot hdirection
      ((hs.axes i).blocked.trans hblocked)
    generalize s'.1.worker = w' at hmoves
    cases hmoves with
    | outside _ hcycle hcommand => exact (hcommand _ _ rfl).elim
    | command c payload => exact hrefused
  steady := by
    rintro rfl hpowers hnone hintegral i
    have hend := firstEnd_of_detects hpowers hnone hintegral
    rw [worker_of_powers hpowers (armMoves_of_step (Runs.observed_eq_some.mp h).1),
      (ArmRun.powered_of_none hend).2 i]
    exact ArmAxis.towards_cycled (ArmAxis.not_stalls_of_not_ends (firstEnd_eq_none hend i))
  written := by
    rintro rfl hcycles hnone hintegral i
    have hmoves := armMoves_of_step (Runs.observed_eq_some.mp h).1
    generalize s'.1.worker = w' at hmoves
    cases hmoves with
    | outside _ hcycle hcommand => exact (hcycle rfl).elim
    | ended hended =>
      rw [hended] at hcycles
      cases hcycles
    | held _ hheld => exact rfl
    | powered hpowers =>
      have hend := firstEnd_of_detects hpowers hnone hintegral
      rw [(ArmRun.powered_of_none hend).2 i]
      obtain ⟨hends, -⟩ | hwritten := ArmAxis.cycled_sends s.1.worker.numbers s.1.now
        (s.1.real i).position (s.1.worker.axes i)
      · rw [firstEnd_eq_none hend i] at hends
        cases hends
      · exact hwritten
  sends := sends_of_moves (armMoves_of_step (Runs.observed_eq_some.mp h).1)
  rests := by
    intro hcycle hcommand
    have hmoves := armMoves_of_step (Runs.observed_eq_some.mp h).1
    generalize s'.1.worker = w' at hmoves
    cases hmoves with
    | outside _ _ _ => rfl
    | command c payload => exact (hcommand c payload rfl).elim
    | _ => exact (hcycle rfl).elim
  off := fun htripped => ((hs.next h).tripped htripped).2

/-- Along every run of the worker the rule holds. -/
theorem loopKept_of_run (env : Environment) (numbers : ArmNumbers) (limits : Slot → ℤ × ℤ)
    (zeroOffset : Slot → ℤ) (real : Slot → AxisState) (now : ℚ) (labels : List ArmLabel) :
    Runs.Throughout (Runs.observed (ArmRun.step env) (armNote env)) (LoopKept env)
      (ArmRun.initial numbers limits zeroOffset real now, ⟨fun _ => 0, false⟩) labels := by
  refine Runs.throughout_of_invariant (I := LoopNoted) ?_ ?_ ?_
  · intro s l s' hs hstep
    exact hs.next hstep
  · intro s l s' hs hstep
    exact loopKept_of_step hs hstep
  · exact ⟨fun i => axisNoted_hold _ _ _ _, by rintro ⟨⟩⟩

/-! ## What goes further -/

/-- What an observer notes who lets only a hold and a jog against its direction lift a block, and
every fault count: the blocked directions, and a fault since the last `ENABLE`. -/
structure ClaimNote where
  blocked : Slot → ℤ
  faulted : Bool

/-- This observer. -/
def claimNote (env : Environment) (s : ArmRun) (l : ArmLabel) (n : ClaimNote) : ClaimNote where
  blocked :=
    match l with
    | .cycle => if s.powers then s.blocksPowered n.blocked else n.blocked
    | .command .hold payload => s.blocksAfter env .hold payload n.blocked
    | .command .jog payload => s.blocksAfter env .jog payload n.blocked
    | _ => n.blocked
  faulted :=
    match l with
    | .feedback real => n.faulted || armFaulted real
    | .driverExit => true
    | .command .enable _ => false
    | _ => n.faulted

/-- A blocked direction stays blocked until a hold or a jog against it. -/
def BlocksLast (env : Environment) (s : ArmRun × ClaimNote) (l : ArmLabel)
    (_ : ArmRun × ClaimNote) : Prop :=
  ∀ payload i direction, l = .command .jog payload → payload.slot = .ok i →
    payload.direction? = some direction → s.2.blocked i = direction.sign →
    ∃ e, (s.1.worker.command env s.1.real s.1.now .jog payload).1 = .error e

/-- Every cycle without a stall moves every command position towards its target. -/
def SteadyCycles (s : ArmRun × ClaimNote) (l : ArmLabel) (s' : ArmRun × ClaimNote) : Prop :=
  l = .cycle → s.1.cycles = true → s.1.detects l = none → ∀ i,
    Towards s.1.worker.numbers.delta (s.1.worker.axes i).clampedTarget
      (s.1.worker.axes i).commandPosition (s'.1.worker.axes i).commandPosition

/-- The cycle after a fault takes the power away. -/
def FaultsCount (s : ArmRun × ClaimNote) (l : ArmLabel) (s' : ArmRun × ClaimNote) : Prop :=
  l = .cycle → s.1.cycles = true → s.2.faulted = true → s'.1.worker.powerOn = false

/-- Libraries that compute on integers only. -/
def benchEnvironment : Environment where
  Content := Unit
  parseFloat _ := none
  parseInt _ := none
  floatOfInt n := some (.finite n)
  hash _ := none
  safeDump _ := none
  safeLoad _ := none

/-- The numbers of the example: a jog of 1000 units, and 10 units in a period. -/
def benchNumbers : ArmNumbers where
  jogStepRad := 1
  maxStepRad := 1
  maxSpeedRadS := 1
  positionUnitsPerRad := 1000
  limitProgressToleranceRad := 1 / 1000
  limitStallTimeoutS := 1 / 2
  cspMode := 8

/-- The drives are enabled in CSP, at a position, with an error code. -/
def benchReal (position : ℤ) (errorCode : ℕ) : Slot → AxisState :=
  fun _ => ⟨8, 0x27, position, errorCode⟩

/-- The worker of the example. -/
def benchRun : ArmRun × ClaimNote :=
  (.initial benchNumbers (fun _ => (-2000, 2000)) (fun _ => 0) (benchReal 0 0) 0,
    ⟨fun _ => 0, false⟩)

/-- A joint, with a direction. -/
def benchPayload (direction : ℤ) : Payload :=
  ⟨some "ljoint1", some (.int direction), none, none⟩

/-- A jogged axis does not move, and its stall is detected.  Then it is sent home. -/
def homedRun : List ArmLabel :=
  [.command .enable (benchPayload 1), .command .jog (benchPayload 1), .cycle, .elapse 1, .cycle,
    .command .home (benchPayload 1)]

/-- The next jog goes in a blocked direction and is accepted. -/
def jogsBlocked (s : ArmRun × ClaimNote) : Bool :=
  s.2.blocked 0 == 1 &&
    (s.1.worker.command benchEnvironment s.1.real s.1.now .jog (benchPayload 1)).1.toOption.isSome

/-- The homing of an axis lifts its block, the axes of a disabled arm follow their feedback at any
speed, and a fault that is over before the next cycle takes no power away. -/
theorem not_claimed_samples :
    ¬ Runs.Throughout (Runs.observed (ArmRun.step benchEnvironment) (claimNote benchEnvironment))
        (BlocksLast benchEnvironment) benchRun (homedRun ++ [.command .jog (benchPayload 1)]) ∧
      ¬ Runs.Throughout (Runs.observed (ArmRun.step benchEnvironment) (claimNote benchEnvironment))
        SteadyCycles benchRun [.feedback (benchReal 500 0), .cycle] ∧
      ¬ Runs.Throughout (Runs.observed (ArmRun.step benchEnvironment) (claimNote benchEnvironment))
        FaultsCount benchRun
        [.command .enable (benchPayload 1), .feedback (benchReal 0 1), .feedback (benchReal 0 0),
          .cycle] := by
  refine ⟨fun h => ?_, fun h => ?_, fun h => ?_⟩
  · obtain ⟨s, hs, -, hlast⟩ := Runs.reachable_of_run
      (Runs.observed (ArmRun.step benchEnvironment) (claimNote benchEnvironment)) benchRun homedRun
      jogsBlocked (by decide +kernel)
    obtain ⟨hblocked, haccepted⟩ := Bool.and_eq_true_iff.mp hlast
    have hslot : (benchPayload 1).slot = .ok 0 := rfl
    obtain ⟨e, he⟩ := h.last hs rfl (benchPayload 1) 0 ⟨1, false⟩ rfl hslot rfl
      (beq_iff_eq.mp hblocked)
    rw [he] at haccepted
    cases haccepted
  · have hmoves := ((h _ rfl).2 _ rfl).1 rfl rfl rfl 0
    exact absurd hmoves.slow.2 (by decide +kernel)
  · have hoff := ((((h _ rfl).2 _ rfl).2 _ rfl).2 _ rfl).1 rfl (by decide +kernel)
      (by decide +kernel)
    exact absurd hoff (by decide +kernel)

end Network

end JointController
