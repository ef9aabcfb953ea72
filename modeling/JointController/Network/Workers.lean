import JointController.Network.ConfigStore
import Mathlib.Data.Fin.VecNotation
import Mathlib.Data.List.FinRange

/-!
# The workers of the hardware server

`ArmWorker`, `LiftWorker` and `HardwareWorkers`: the arm worker moves command positions towards
targets in the shared memory of the driver, the lift worker writes command lines to the process of
the lift.

* `AxisState`, `AxisControl`: the two sides of the shared memory of an arm axis.
* `ArmWorker.holdLocked`, `ArmWorker.loop`, `ArmWorker.command`: the arm worker.
* `LiftWorker.command`: the lift worker, with the lines that it has written.
* `HardwareWorkers.command`: the dispatch.
* `ArmWorker.OnHold`, `LiftWorker.OnHold`, `HardwareWorkers.OnHold`: nothing is driven to a target.
* `HardwareWorkers.onHold_command`, `ArmWorker.onHold_loop`: what takes a worker off its hold is a
  jog or a homing.
-/

namespace JointController

namespace Network

/-! ## The shared memory of the arm -/

/-- The number of arm axes. -/
abbrev Slot := Fin 14

instance instNeZeroSlot : @NeZero ℕ Zero.ofOfNat0 14 := ⟨by decide⟩

/-- `AxisFeedback`, as far as the server reads it. -/
structure AxisState where
  modeState : ℕ
  ctrState : ℕ
  position : ℤ
  errorCode : ℕ
  deriving DecidableEq

/-- `AxisCommand`, as far as the server writes it. -/
structure AxisControl where
  mode : ℕ
  position : ℤ
  velocity : ℤ
  effort : ℤ
  deriving DecidableEq

/-- The axes with a fault: the fault bit of the state, or an error code. -/
def AxisState.faulted (a : AxisState) : Bool := a.ctrState.testBit 3 || a.errorCode != 0

/-- `arm_status`: all axes enabled, without faults and in CSP. -/
def armReady (real : Slot → AxisState) : Bool :=
  (List.finRange 14).all fun i =>
    (real i).ctrState == 0x27 && !(real i).faulted && (real i).modeState == 0x08

/-- `arm_status`: some axis has a fault. -/
def armFaulted (real : Slot → AxisState) : Bool := (List.finRange 14).any fun i => (real i).faulted

/-- `ARM_AXIS_NAMES`. -/
def armAxisNames : List String :=
  ["ljoint1", "ljoint2", "ljoint3", "ljoint4", "ljoint5", "ljoint6", "ljoint7",
    "rjoint1", "rjoint2", "rjoint3", "rjoint4", "rjoint5", "rjoint6", "rjoint7"]

/-- The slot of a joint. -/
def slotOf (joint : String) : Option Slot :=
  (List.finRange 14).find? fun i => armAxisNames[i.val]? == some joint

/-! ## Numbers -/

/-- The numbers of the arm section that a worker runs with. -/
structure ArmNumbers where
  jogStepRad : ℚ
  maxStepRad : ℚ
  maxSpeedRadS : ℚ
  positionUnitsPerRad : ℚ
  limitProgressToleranceRad : ℚ
  limitStallTimeoutS : ℚ
  cspMode : ℕ

/-- The numbers of the lift section that a worker runs with. -/
structure LiftNumbers where
  jogStepM : ℚ
  maxStepM : ℚ

/-- `int` of a number. -/
def truncate (q : ℚ) : ℤ := if 0 ≤ q then q.floor else q.ceil

/-- `round` of a number: half goes to even. -/
def roundHalfEven (q : ℚ) : ℤ :=
  let below := q.floor
  let rest := q - below
  if rest < 1 / 2 then below
  else if 1 / 2 < rest then below + 1
  else if below % 2 = 0 then below else below + 1

/-- `arm_rad_to_units`, or the exception that it raises. -/
def armRadToUnits (positionRad unitsPerRad : ℚ) : Option ℤ :=
  let value := roundHalfEven (positionRad * unitsPerRad)
  if -2 ^ 31 ≤ value ∧ value ≤ 2 ^ 31 - 1 then some value else none

/-- A store to a `c_int32`, which keeps the low bits. -/
def cInt32 (n : ℤ) : ℤ := n.bmod (2 ^ 32)

/-- The payload of a command. -/
structure Payload where
  joint : Option String
  direction : Option Leaf
  stepRad : Option Leaf
  stepM : Option Leaf

/-- A direction, and whether Python holds it as a float. -/
structure Direction where
  sign : ℤ
  isFloat : Bool
  deriving DecidableEq

/-- `direction in (-1, 1)`.  The comparison is by value, so that `True` and `1.0` pass as well. -/
def Leaf.direction? : Leaf → Option Direction
  | .int n => if n = -1 ∨ n = 1 then some ⟨n, false⟩ else none
  | .bool b => if b then some ⟨1, false⟩ else none
  | .float (.finite q) =>
    if q = 1 then some ⟨1, true⟩ else if q = -1 then some ⟨-1, true⟩ else none
  | _ => none

/-- The direction of a payload, when it is one. -/
def Payload.direction? (payload : Payload) : Option Direction :=
  payload.direction.bind Leaf.direction?

/-- `WorkerError`, with its message, or an exception of Python itself. -/
inductive WorkerError where
  | worker (message : String)
  | builtin
  deriving DecidableEq

/-- `float(payload.get(key, default))`, within the limit of a jog. -/
def Environment.jogStep (env : Environment) (step : Option Leaf) (default maxStep : ℚ)
    (message : String) : Except WorkerError ℚ :=
  match (match step with
    | none => some (Double.finite default)
    | some leaf => env.float leaf) with
  | none => .error .builtin
  | some (.finite q) => if q ≤ 0 ∨ maxStep < q then .error (.worker message) else .ok q
  | some _ => .error (.worker message)

/-! ## The arm worker -/

/-- What `ArmWorker` keeps of an axis, with the axis of `DesireRegion`.  A jog whose direction is a
float leaves a target that Python holds as a float. -/
structure ArmAxis where
  target : ℤ
  targetFloat : Bool
  commandPosition : ℤ
  lower : ℤ
  upper : ℤ
  zeroOffset : ℤ
  motionDirection : ℤ
  blockedDirection : ℤ
  watchPosition : ℤ
  watchStarted : ℚ
  control : AxisControl
  deriving DecidableEq

/-- `ArmWorker`, while its driver runs. -/
structure ArmWorker where
  numbers : ArmNumbers
  enabled : Bool
  powerOn : Bool
  looping : Bool
  axes : Slot → ArmAxis

/-- One axis in `_hold_locked`. -/
def ArmAxis.hold (numbers : ArmNumbers) (now : ℚ) (actual : ℤ) (a : ArmAxis) : ArmAxis :=
  { a with
    control := { mode := numbers.cspMode, position := cInt32 actual, velocity := 0, effort := 0 }
    target := actual
    targetFloat := false
    commandPosition := actual
    motionDirection := 0
    blockedDirection := 0
    watchPosition := actual
    watchStarted := now }

/-- `_hold_locked`. -/
def ArmWorker.holdLocked (w : ArmWorker) (real : Slot → AxisState) (now : ℚ) : ArmWorker :=
  { w with axes := fun i => (w.axes i).hold w.numbers now (real i).position }

/-- The worker when its thread starts, which holds its pose. -/
def ArmWorker.started (numbers : ArmNumbers) (limits : Slot → ℤ × ℤ) (zeroOffset : Slot → ℤ)
    (real : Slot → AxisState) (now : ℚ) : ArmWorker :=
  { numbers := numbers
    enabled := false
    powerOn := false
    looping := true
    axes := fun i =>
      { target := 0, targetFloat := false, commandPosition := 0, lower := (limits i).1,
        upper := (limits i).2, zeroOffset := zeroOffset i, motionDirection := 0,
        blockedDirection := 0, watchPosition := 0, watchStarted := 0, control := ⟨0, 0, 0, 0⟩ }
    : ArmWorker }.holdLocked real now

/-- One axis is changed. -/
def ArmWorker.setAxis (w : ArmWorker) (i : Slot) (a : ArmAxis) : ArmWorker :=
  { w with axes := Function.update w.axes i a }

/-- What holds of the axes and of a new one holds of the axes with it. -/
theorem ArmWorker.forall_setAxis {P : Slot → ArmAxis → Prop} {w : ArmWorker} {i : Slot}
    {a : ArmAxis} (h : ∀ j, P j (w.axes j)) (ha : P i a) (j : Slot) :
    P j ((w.setAxis i a).axes j) := by
  unfold setAxis
  dsimp only
  by_cases hj : j = i
  · subst hj
    rw [Function.update_self]
    exact ha
  · rw [Function.update_of_ne hj]
    exact h j

/-- The axis has not moved for too long: `progress` is below its threshold, the timeout is over, and
the target is still half a jog away. -/
def ArmAxis.stalled (numbers : ArmNumbers) (now : ℚ) (actual : ℤ) (a : ArmAxis) : Bool :=
  decide (numbers.limitStallTimeoutS ≤ now - a.watchStarted) &&
    decide (max 1 (truncate (numbers.jogStepRad * numbers.positionUnitsPerRad / 2)) ≤
      (a.target - actual) * a.motionDirection)

/-- The axis follows its motion: progress restarts the watch. -/
def ArmAxis.watched (numbers : ArmNumbers) (now : ℚ) (actual : ℤ) (a : ArmAxis) : ArmAxis × Bool :=
  let progress := (actual - a.watchPosition) * a.motionDirection
  let progressUnits := max 1 (truncate
    (numbers.limitProgressToleranceRad * numbers.positionUnitsPerRad))
  if a.motionDirection = 0 then (a, true)
  else if progressUnits ≤ progress then
    ({ a with watchPosition := actual, watchStarted := now }, true)
  else if a.stalled numbers now actual then
    ({ a with
      target := actual
      targetFloat := false
      commandPosition := actual
      motionDirection := 0
      blockedDirection := a.motionDirection }, false)
  else (a, true)

/-- The target of an axis within its limits. -/
def ArmAxis.clampedTarget (a : ArmAxis) : ℤ := max a.lower (min a.upper a.target)

/-- The clamped target is a float.  At a limit `min` and `max` take the limit, an integer. -/
def ArmAxis.clampedFloat (a : ArmAxis) : Bool :=
  a.targetFloat && decide (a.lower < a.target) && decide (a.target < a.upper)

/-- The command position moves towards the target, by the distance of one period at most, and is
stored for the driver.  The second part says whether the store succeeds. -/
def ArmAxis.advance (numbers : ArmNumbers) (target : ℤ) (targetFloat : Bool) (a : ArmAxis) :
    ArmAxis × Bool :=
  let delta := max 1 (truncate (numbers.maxSpeedRadS * numbers.positionUnitsPerRad / 100))
  let rest := target - a.commandPosition
  let commanded := a.commandPosition + max (-delta) (min delta rest)
  -- A bound of the step is an integer.  Short of both the sum is a float, which a `c_int32` refuses
  -- with a `TypeError`.
  if targetFloat ∧ -delta < rest ∧ rest < delta then
    ({ a with commandPosition := commanded }, false)
  else
    ({ a with
      commandPosition := commanded
      control := { a.control with position := cInt32 commanded } }, true)

/-- One axis in the loop, and whether the loop goes on.  After a stall the name `LOG` is not
defined. -/
def ArmAxis.cycled (numbers : ArmNumbers) (now : ℚ) (actual : ℤ) (a : ArmAxis) : ArmAxis × Bool :=
  match a.watched numbers now actual with
  | (a', true) => a'.advance numbers a.clampedTarget a.clampedFloat
  | (a', false) => (a', false)

/-- The loop over the axes.  An exception ends the thread. -/
def ArmWorker.advanceAxes (real : Slot → AxisState) (now : ℚ) : List Slot → ArmWorker → ArmWorker
  | [], w => w
  | i :: slots, w =>
    match (w.axes i).cycled w.numbers now (real i).position with
    | (a, true) => (w.setAxis i a).advanceAxes real now slots
    | (a, false) => { w.setAxis i a with looping := false }

/-- One iteration of `_loop`; `exited` says whether the driver has exited. -/
def ArmWorker.loop (w : ArmWorker) (real : Slot → AxisState) (now : ℚ) (exited : Bool) :
    ArmWorker :=
  if !w.looping then w
  else
    let w := { w with enabled := w.enabled && !exited && !armFaulted real }
    if w.enabled then { w with powerOn := true }.advanceAxes real now (List.finRange 14)
    else { w with powerOn := false }.holdLocked real now

/-- The commands of the arm. -/
inductive ArmCommand where
  | enable | disable | hold | home | jog
  deriving DecidableEq

/-- The checks in front of a jog and of a homing. -/
def ArmWorker.checkReady (w : ArmWorker) (real : Slot → AxisState) (verb : String) :
    Except WorkerError Unit := do
  Checks.refuse (w.enabled = false) (.worker ("enable the arm before " ++ verb))
  Checks.refuse (armReady real = false)
    (.worker ("all 14 arm axes must be Operation Enabled before " ++ verb))

/-- The joint of a payload. -/
def Payload.slot (payload : Payload) : Except WorkerError Slot :=
  match payload.joint.bind slotOf with
  | some i => .ok i
  | none => .error (.worker "unknown arm joint")

/-- `HOME`. -/
def ArmWorker.home (w : ArmWorker) (real : Slot → AxisState) (payload : Payload) :
    Except WorkerError Unit × ArmWorker :=
  match (do w.checkReady real "homing"; payload.slot) with
  | .error e => (.error e, w)
  | .ok i =>
    (.ok (), w.setAxis i { w.axes i with
      target := (w.axes i).zeroOffset
      targetFloat := false
      commandPosition := (real i).position
      motionDirection := 0
      blockedDirection := 0 })

/-- The arguments of a jog. -/
def ArmWorker.jogArguments (env : Environment) (w : ArmWorker) (real : Slot → AxisState)
    (payload : Payload) : Except WorkerError (Slot × Direction × ℚ) := do
  w.checkReady real "jogging"
  let i ← payload.slot
  let direction ← match payload.direction? with
    | some d => .ok d
    | none => .error (.worker "direction must be -1 or 1")
  let step ← env.jogStep payload.stepRad w.numbers.jogStepRad w.numbers.maxStepRad
    "arm jog step exceeds lower-machine limit"
  Checks.refuse ((w.axes i).blockedDirection = direction.sign)
    (.worker "axis is blocked at its limit; jog in the opposite direction first")
  return (i, direction, step)

/-- The axis of a jog, before the step: a new direction starts at the actual position. -/
def ArmAxis.turned (direction actual : ℤ) (a : ArmAxis) : ArmAxis :=
  if a.blockedDirection = -direction ∨ a.motionDirection ≠ direction then
    { a with
      blockedDirection := 0
      target := actual
      targetFloat := false
      commandPosition := actual }
  else a

/-- The axis of a jog after the step, which the limits bound. -/
def ArmAxis.jogged (direction : Direction) (units actual : ℤ) (now : ℚ) (a : ArmAxis) : ArmAxis :=
  let a := { a with
    target := a.target + direction.sign * units
    targetFloat := a.targetFloat || direction.isFloat }
  { a with
    target := a.clampedTarget
    targetFloat := a.clampedFloat
    motionDirection := direction.sign
    watchPosition := actual
    watchStarted := now }

/-- `JOG`. -/
def ArmWorker.jog (env : Environment) (w : ArmWorker) (real : Slot → AxisState) (now : ℚ)
    (payload : Payload) : Except WorkerError Unit × ArmWorker :=
  match w.jogArguments env real payload with
  | .error e => (.error e, w)
  | .ok (i, direction, step) =>
    let actual := (real i).position
    let a := (w.axes i).turned direction.sign actual
    match armRadToUnits step w.numbers.positionUnitsPerRad with
    | none => (.error .builtin, w.setAxis i a)
    | some units => (.ok (), w.setAxis i (a.jogged direction units actual now))

/-- `ArmWorker.command`. -/
def ArmWorker.command (env : Environment) (w : ArmWorker) (real : Slot → AxisState) (now : ℚ)
    (c : ArmCommand) (payload : Payload) : Except WorkerError Unit × ArmWorker :=
  match c with
  | .enable => (.ok (), { w.holdLocked real now with enabled := true })
  | .disable => (.ok (), { w.holdLocked real now with enabled := false })
  | .hold => (.ok (), w.holdLocked real now)
  | .home => w.home real payload
  | .jog => w.jog env real now payload

/-! ## The lift worker -/

/-- The lines that `LiftWorker.command` writes to the process of the lift. -/
inductive LiftLine where
  | enable | disable | hold | zero | home
  | moveStep (deltaM : ℚ)
  deriving DecidableEq

/-- `LiftWorker`, while its process runs, with the lines written so far, the newest first. -/
structure LiftWorker where
  numbers : LiftNumbers
  enabled : Bool
  lines : List LiftLine

/-- The commands of the lift. -/
inductive LiftCommand where
  | enable | disable | hold | zero | home | jog
  deriving DecidableEq

/-- The line is written, unless the pipe is broken. -/
def LiftWorker.writeLine (w : LiftWorker) (pipe : Bool) (line : LiftLine) :
    Except WorkerError Unit × LiftWorker :=
  if pipe then (.ok (), { w with lines := line :: w.lines }) else (.error .builtin, w)

/-- `JOG`. -/
def LiftWorker.jog (env : Environment) (w : LiftWorker) (pipe : Bool) (payload : Payload) :
    Except WorkerError Unit × LiftWorker :=
  let line : Except WorkerError LiftLine := do
    Checks.refuse (w.enabled = false) (.worker "enable the lift before jogging")
    let direction ← match payload.direction? with
      | some d => .ok d
      | none => .error (.worker "direction must be -1 or 1")
    let step ← env.jogStep payload.stepM w.numbers.jogStepM w.numbers.maxStepM
      "lift jog step exceeds lower-machine limit"
    return .moveStep (direction.sign * step)
  match line with
  | .error e => (.error e, w)
  | .ok line => w.writeLine pipe line

/-- `LiftWorker.command`; `pipe` says whether the process still takes input. -/
def LiftWorker.command (env : Environment) (w : LiftWorker) (pipe : Bool) (c : LiftCommand)
    (payload : Payload) : Except WorkerError Unit × LiftWorker :=
  match c with
  | .jog => w.jog env pipe payload
  | .enable => { w with enabled := true }.writeLine pipe .enable
  | .disable => { w with enabled := false }.writeLine pipe .disable
  | .hold => w.writeLine pipe .hold
  | .zero => { w with enabled := false }.writeLine pipe .zero
  | .home => { w with enabled := true }.writeLine pipe .home

/-! ## Both workers -/

/-- A worker. -/
inductive Device where
  | arm | lift
  deriving DecidableEq

/-- `HardwareWorkers`: its configuration, the running workers, and the devices with a startup
thread. -/
structure HardwareWorkers where
  config : Config
  arm : Option ArmWorker
  lift : Option LiftWorker
  starting : List Device

/-- The device commands of the protocol. -/
inductive DeviceCommand where
  | arm (c : ArmCommand)
  | lift (c : LiftCommand)
  | holdAll
  deriving DecidableEq

namespace HardwareWorkers

variable (w : HardwareWorkers)

/-- The device has a running worker. -/
def has (d : Device) : Bool :=
  match d with
  | .arm => w.arm.isSome
  | .lift => w.lift.isSome

/-- `ensure_worker`. -/
def ensureWorker (d : Device) : HardwareWorkers :=
  if w.has d ∨ d ∈ w.starting then w else { w with starting := d :: w.starting }

/-- The arm part of `command`. -/
def commandArm (env : Environment) (real : Slot → AxisState) (now : ℚ) (c : ArmCommand)
    (payload : Payload) : Except WorkerError Unit × HardwareWorkers :=
  match w.arm with
  | none => (.error (.worker "arm worker is not running"), w)
  | some a => ((a.command env real now c payload).1,
      { w with arm := some (a.command env real now c payload).2 })

/-- The lift part of `command`. -/
def commandLift (env : Environment) (pipe : Bool) (c : LiftCommand) (payload : Payload) :
    Except WorkerError Unit × HardwareWorkers :=
  match w.lift with
  | none => (.error (.worker "lift worker is not running"), w)
  | some a => ((a.command env pipe c payload).1,
      { w with lift := some (a.command env pipe c payload).2 })

/-- `HOLD_ALL`: the workers that run. -/
def holdAll (real : Slot → AxisState) (now : ℚ) (pipe : Bool) :
    Except WorkerError Unit × HardwareWorkers :=
  let w := { w with arm := w.arm.map fun a : ArmWorker => a.holdLocked real now }
  match w.lift with
  | none => (.ok (), w)
  | some l => ((l.writeLine pipe .hold).1, { w with lift := some (l.writeLine pipe .hold).2 })

/-- `command`. -/
def command (env : Environment) (real : Slot → AxisState) (now : ℚ) (pipe : Bool)
    (c : DeviceCommand) (payload : Payload) : Except WorkerError Unit × HardwareWorkers :=
  match c with
  | .arm c => w.commandArm env real now c payload
  | .lift c => w.commandLift env pipe c payload
  | .holdAll => w.holdAll real now pipe

end HardwareWorkers

/-! ## Holding -/

/-- The target is the position that the last hold has taken, and the axis is not in motion. -/
def ArmAxis.OnHold (a : ArmAxis) : Prop := a.target = a.watchPosition ∧ a.motionDirection = 0

/-- All axes are on hold. -/
def ArmWorker.OnHold (w : ArmWorker) : Prop := ∀ i, (w.axes i).OnHold

/-- Whether a line gives the lift a target to go to (`HOME`, `MOVE_STEP`) or the position that it
has.  `ZERO` may be refused, which changes nothing. -/
def LiftLine.drives : LiftLine → Option Bool
  | .zero => none
  | .home | .moveStep _ => some true
  | .enable | .disable | .hold => some false

/-- The last line that concerns the target was no `HOME` or `MOVE_STEP`. -/
def LiftWorker.OnHold (w : LiftWorker) : Prop := w.lines.findSome? LiftLine.drives ≠ some true

/-- The workers that run are on hold. -/
structure HardwareWorkers.OnHold (w : HardwareWorkers) : Prop where
  arm : ∀ a, w.arm = some a → a.OnHold
  lift : ∀ l, w.lift = some l → l.OnHold

instance (a : ArmAxis) : Decidable a.OnHold := inferInstanceAs (Decidable (_ ∧ _))

instance (w : ArmWorker) : Decidable w.OnHold :=
  inferInstanceAs (Decidable (∀ i, (w.axes i).OnHold))

instance (w : LiftWorker) : Decidable w.OnHold := inferInstanceAs (Decidable (_ ≠ _))

instance (w : HardwareWorkers) : Decidable w.OnHold :=
  decidable_of_iff ((∀ a ∈ w.arm, a.OnHold) ∧ ∀ l ∈ w.lift, l.OnHold)
    ⟨fun h => ⟨h.1, h.2⟩, fun h => ⟨h.arm, h.lift⟩⟩

/-- A command that gives a target to go to. -/
def DeviceCommand.moves : DeviceCommand → Bool
  | .arm .home | .arm .jog | .lift .home | .lift .jog => true
  | _ => false

theorem ArmWorker.onHold_holdLocked (w : ArmWorker) (real : Slot → AxisState) (now : ℚ) :
    (w.holdLocked real now).OnHold := fun _ => ⟨rfl, rfl⟩

/-- An axis that is not in motion only follows its target. -/
theorem ArmAxis.watched_of_resting {numbers : ArmNumbers} {now : ℚ} {actual : ℤ} {a : ArmAxis}
    (h : a.motionDirection = 0) : a.watched numbers now actual = (a, true) := by
  simp [ArmAxis.watched, h]

theorem ArmAxis.OnHold.cycled {a : ArmAxis} (h : a.OnHold) (numbers : ArmNumbers) (now : ℚ)
    (actual : ℤ) : (a.cycled numbers now actual).1.OnHold := by
  unfold ArmAxis.cycled
  rw [ArmAxis.watched_of_resting h.2]
  unfold ArmAxis.advance
  dsimp only
  split_ifs
  all_goals exact h

/-- The loop over the axes keeps the hold. -/
theorem ArmWorker.onHold_advanceAxes {real : Slot → AxisState} {now : ℚ} (slots : List Slot) :
    ∀ {w : ArmWorker}, w.OnHold → (w.advanceAxes real now slots).OnHold := by
  induction slots with
  | nil =>
    intro w h
    exact h
  | cons i slots ih =>
    intro w h
    have hcycled := (h i).cycled w.numbers now (real i).position
    unfold ArmWorker.advanceAxes
    split
    · rename_i a hgoes
      rw [hgoes] at hcycled
      exact ih (ArmWorker.forall_setAxis (P := fun _ a => a.OnHold) h hcycled)
    · rename_i a hends
      rw [hends] at hcycled
      exact ArmWorker.forall_setAxis (P := fun _ a => a.OnHold) h hcycled

/-- The loop of the arm worker keeps the hold. -/
theorem ArmWorker.onHold_loop {w : ArmWorker} (h : w.OnHold) (real : Slot → AxisState) (now : ℚ)
    (exited : Bool) : (w.loop real now exited).OnHold := by
  unfold ArmWorker.loop
  by_cases hlooping : w.looping = true
  · by_cases henabled : (w.enabled && !exited && !armFaulted real) = true
    · simp only [hlooping, henabled, Bool.not_true, Bool.false_eq_true, if_false, if_true]
      exact ArmWorker.onHold_advanceAxes _ h
    · simp only [hlooping, henabled, Bool.not_true, Bool.false_eq_true, if_false]
      exact ArmWorker.onHold_holdLocked _ real now
  · simpa [hlooping] using h

/-- A command that gives no target to go to keeps the hold of the arm. -/
theorem ArmWorker.onHold_command {w : ArmWorker} {env : Environment} {real : Slot → AxisState}
    {now : ℚ} {c : ArmCommand} {payload : Payload} (hc : (DeviceCommand.arm c).moves = false) :
    (w.command env real now c payload).2.OnHold := by
  cases c with
  | enable => exact fun _ => ⟨rfl, rfl⟩
  | disable => exact fun _ => ⟨rfl, rfl⟩
  | hold => exact fun _ => ⟨rfl, rfl⟩
  | home => cases hc
  | jog => cases hc

theorem LiftWorker.onHold_writeLine {w : LiftWorker} (h : w.OnHold) (pipe : Bool) {line : LiftLine}
    (hline : line.drives ≠ some true) : (w.writeLine pipe line).2.OnHold := by
  cases pipe with
  | false => exact h
  | true =>
    change (line :: w.lines).findSome? LiftLine.drives ≠ some true
    rw [List.findSome?_cons]
    cases hdrives : line.drives with
    | none => exact h
    | some b =>
      rw [hdrives] at hline
      exact hline

/-- A command that gives no target to go to keeps the hold of the lift. -/
theorem LiftWorker.onHold_command {w : LiftWorker} (h : w.OnHold) {env : Environment} {pipe : Bool}
    {c : LiftCommand} {payload : Payload} (hc : (DeviceCommand.lift c).moves = false) :
    (w.command env pipe c payload).2.OnHold := by
  cases c with
  | enable => exact LiftWorker.onHold_writeLine (w := { w with enabled := true }) h pipe (by decide)
  | disable =>
    exact LiftWorker.onHold_writeLine (w := { w with enabled := false }) h pipe (by decide)
  | hold => exact LiftWorker.onHold_writeLine h pipe (by decide)
  | zero => exact LiftWorker.onHold_writeLine (w := { w with enabled := false }) h pipe (by decide)
  | home => cases hc
  | jog => cases hc

namespace HardwareWorkers

variable {w : HardwareWorkers} {env : Environment} {real : Slot → AxisState} {now : ℚ}
  {pipe : Bool}

theorem onHold_holdAll (h : w.OnHold) : (w.holdAll real now pipe).2.OnHold := by
  have harm : ∀ a, (w.arm.map fun a : ArmWorker => a.holdLocked real now) = some a → a.OnHold := by
    intro a ha
    obtain ⟨a', -, rfl⟩ := Option.map_eq_some_iff.mp ha
    exact a'.onHold_holdLocked real now
  unfold holdAll
  cases hlift : w.lift with
  | none =>
    exact ⟨harm, fun _ hl => absurd hl (Option.some_ne_none _).symm⟩
  | some l =>
    refine ⟨harm, fun l' hl' => ?_⟩
    rw [← Option.some_inj.mp hl']
    exact LiftWorker.onHold_writeLine (h.lift l hlift) pipe (by decide)

/-- A command that gives no target to go to keeps the hold of the workers. -/
theorem onHold_command (h : w.OnHold) {c : DeviceCommand} {payload : Payload}
    (hc : c.moves = false) : (w.command env real now pipe c payload).2.OnHold := by
  cases c with
  | arm c =>
    unfold command commandArm
    cases harm : w.arm with
    | none => exact h
    | some a =>
      refine ⟨fun a' ha' => ?_, h.lift⟩
      rw [← Option.some_inj.mp ha']
      exact ArmWorker.onHold_command hc
  | lift c =>
    unfold command commandLift
    cases hlift : w.lift with
    | none => exact h
    | some l =>
      refine ⟨h.arm, fun l' hl' => ?_⟩
      rw [← Option.some_inj.mp hl']
      exact LiftWorker.onHold_command (h.lift l hlift) hc
  | holdAll => exact onHold_holdAll h

end HardwareWorkers

end Network

end JointController
