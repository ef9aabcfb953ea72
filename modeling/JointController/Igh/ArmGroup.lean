import JointController.Igh.Axes

/-!
# The mode switch of the arm group

The arm axes switch between CSP and CST together.  Drives of the profile `EyouPh` are disabled on
the way, and after the way back to CSP the group holds its position until the application asks for
positions that are near it.

* `Reentry`: the way back, with `Reentry.advance` for a cycle in CSP.
* `ArmGroup`: the memory of the group, with `ArmGroup.prepare` for a cycle.
* `ArmGroup.axisCommand`: the command of an axis of the group.
-/

namespace JointController

namespace Igh

/-! ## Counters -/

/-- An `uint32_t` is incremented. -/
def increment (n : ℕ) : ℕ := (n + 1) % 2 ^ 32

theorem increment_le (n : ℕ) : increment n ≤ n + 1 := Nat.mod_le _ _

/-- `kStandstillRequiredCycles`. -/
def kStandstillRequiredCycles : ℕ := frequency / 5

/-- `kCspReentryTakeoverStableCycles`. -/
def kCspReentryTakeoverStableCycles : ℕ := frequency / 50

/-- `kEyouCstToCstDisableHoldCycles`. -/
def kEyouCstToCstDisableHoldCycles : ℕ := frequency / 5

/-- `kEyouCstToCstModeHoldCycles`. -/
def kEyouCstToCstModeHoldCycles : ℕ := frequency / 5

/-- `kEyouCstToCspDisableHoldCycles`. -/
def kEyouCstToCspDisableHoldCycles : ℕ := frequency / 20

/-- `kEyouCstToCspModeHoldCycles`. -/
def kEyouCstToCspModeHoldCycles : ℕ := frequency / 5

/-- `EyouCstToCstTransitionState` and `EyouCstToCspTransitionState`. -/
inductive TransitionState where
  | idle
  | disableHold
  | modeHold
  | reEnable
  deriving DecidableEq

/-! ## The way back to CSP -/

/-- `eyou_cst_to_csp_state`, `eyou_cst_to_csp_cycles` and the `csp_reentry` variables. -/
structure Reentry where
  state : TransitionState
  cycles : ℕ
  holdActive : Bool
  enablePending : Bool
  readyCycles : ℕ
  takeoverCycles : ℕ
  deriving DecidableEq

/-- What the way back looks at: all axes in CSP and enabled, all axes at a standstill, and all
requests within the window of the hold positions. -/
structure ReentryInput where
  enabledInCsp : Bool
  standstill : Bool
  withinWindow : Bool
  deriving DecidableEq

namespace Reentry

variable (r : Reentry) (i : ReentryInput)

/-- No way back. -/
def idle : Reentry := ⟨.idle, 0, false, false, 0, 0⟩

/-- The group leaves CST. -/
def begin (hasEyou : Bool) : Reentry where
  state := if hasEyou then .disableHold else .idle
  cycles := 0
  holdActive := hasEyou
  enablePending := hasEyou
  readyCycles := 0
  takeoverCycles := 0

/-- The takeover is accepted. -/
def release : Reentry :=
  { r with holdActive := false, enablePending := false, readyCycles := 0, takeoverCycles := 0 }

/-- `UpdateCspReentryHoldState`. -/
def updateHold : Reentry :=
  if !r.holdActive then r
  else if !(i.enabledInCsp && i.standstill) then { r with readyCycles := 0, takeoverCycles := 0 }
  else
    let r := { r with readyCycles := increment r.readyCycles }
    if r.readyCycles < kStandstillRequiredCycles then { r with takeoverCycles := 0 }
    else
      let r := { r with takeoverCycles := if i.withinWindow then increment r.takeoverCycles else 0 }
      if kCspReentryTakeoverStableCycles ≤ r.takeoverCycles then r.release else r

/-- A phase that lasts a number of cycles. -/
def wait (required : ℕ) (next : TransitionState) : Reentry :=
  let cycles := increment r.cycles
  if required ≤ cycles then { r with state := next, cycles := 0 } else { r with cycles := cycles }

/-- The switch over `eyou_cst_to_csp_state`. -/
def advance : Reentry :=
  match r.state with
  | .disableHold => r.wait kEyouCstToCspDisableHoldCycles .modeHold
  | .modeHold => r.wait kEyouCstToCspModeHoldCycles .reEnable
  | .reEnable =>
    let r := r.updateHold i
    if !r.holdActive && i.enabledInCsp then { r with state := .idle, enablePending := false } else r
  | .idle => r.updateHold i

end Reentry

/-! ## The group -/

/-- The memory of the arm group.  A hold position that is not initialized is `none`. -/
structure ArmGroup where
  previousMode : UInt8
  powerWasRequested : Bool
  holdActive : Bool
  cstState : TransitionState
  cstCycles : ℕ
  reentry : Reentry
  holdPosition : Axis → Option Int32

/-- `NormalizeArmGroupMode`. -/
def normalizeArmGroupMode (requestedMode : UInt8) : UInt8 :=
  if requestedMode = axisModeCst then axisModeCst else axisModeCsp

namespace ArmGroup

variable (cfg : Setup) (feedback : Axis → Feedback) (powerOnRequested : Bool) (g : ArmGroup)

/-- The group when the driver starts. -/
def initial : ArmGroup where
  previousMode := axisModeCsp
  powerWasRequested := false
  holdActive := false
  cstState := .idle
  cstCycles := 0
  reentry := .idle
  holdPosition := fun _ => none

/-- `IsArmModeSwitchMonitorBypassed`. -/
def isModeSwitchMonitorBypassed : Bool :=
  g.cstState != .idle || g.reentry.state != .idle || g.reentry.holdActive ||
    g.reentry.enablePending

/-- `ClearArmGroupHoldContext`. -/
def clearHoldContext : ArmGroup :=
  { g with
    holdActive := false
    cstState := .idle
    cstCycles := 0
    reentry := .idle
    holdPosition := fun a => if cfg.isModeSwitchAxis a then none else g.holdPosition a }

/-- `SnapshotModeSwitchAxisPositions`. -/
def snapshotPositions : ArmGroup :=
  { g with holdPosition := fun a =>
      if cfg.isModeSwitchAxis a then some (feedback a).actPos else g.holdPosition a }

/-- The mode that the application requests with axis 0; there is no CST without power. -/
def requestedMode (desire : AppCommands) : UInt8 :=
  let mode := normalizeArmGroupMode (desire.axisCtr 0).ecMode
  if mode = axisModeCst ∧ powerOnRequested = false then axisModeCsp else mode

/-- Power is off, or its request rises. -/
def followPower : ArmGroup :=
  if !powerOnRequested then { g.clearHoldContext cfg with powerWasRequested := false }
  else if !g.powerWasRequested then
    { g with holdActive := false, cstState := .idle, cstCycles := 0, reentry := .idle }
  else g

/-- The group enters CST. -/
def enterCst : ArmGroup :=
  { g.snapshotPositions cfg feedback with
    holdActive := true
    cstState := if cfg.hasAnyEyouPhModeSwitchAxis then .disableHold else .idle
    cstCycles := 0
    reentry := .idle }

/-- The switch over `eyou_cst_to_cst_state`. -/
def advanceCst : ArmGroup :=
  match g.cstState with
  | .disableHold =>
    let cycles := increment g.cstCycles
    if kEyouCstToCstDisableHoldCycles ≤ cycles then { g with cstState := .modeHold, cstCycles := 0 }
    else { g with cstCycles := cycles }
  | .modeHold =>
    let cycles := increment g.cstCycles
    if kEyouCstToCstModeHoldCycles ≤ cycles then { g with cstState := .reEnable, cstCycles := 0 }
    else { g with cstCycles := cycles }
  | .reEnable =>
    if areAllModeSwitchAxesInMode cfg feedback axisModeCst &&
        areAllModeSwitchAxesOperationEnabled cfg feedback then
      { g with cstState := .idle }
    else g
  | .idle => g

/-- The group leaves CST. -/
def leaveCst : ArmGroup :=
  { g.snapshotPositions cfg feedback with
    holdActive := false
    reentry := .begin cfg.hasAnyEyouPhModeSwitchAxis }

/-- What the way back looks at. -/
def reentryInput (desire : AppCommands) : ReentryInput where
  enabledInCsp := areAllModeSwitchAxesInMode cfg feedback axisModeCsp &&
    areAllModeSwitchAxesOperationEnabled cfg feedback
  standstill := areAllModeSwitchAxesStandstill cfg feedback
  withinWindow := areAllModeSwitchAxesDesiredPositionsWithinWindow cfg desire g.holdPosition

/-- A cycle on the way back; a release also ends the hold of the group. -/
def advanceReentry (desire : AppCommands) : ArmGroup :=
  let reentry := g.reentry.advance (g.reentryInput cfg feedback desire)
  { g with
    reentry := reentry
    holdActive := g.holdActive && !(g.reentry.holdActive && !reentry.holdActive) }

/-- The commands with which a feedback has been seeded: its position, at rest. -/
def seedDesired (position : Axis → Option Int32) (desire : AppCommands) : AppCommands :=
  { desire with axisCtr := fun a =>
      match cfg.isModeSwitchAxis a, position a with
      | true, some p => { desire.axisCtr a with axisPosition := p, axisVelocity := 0 }
      | _, _ => desire.axisCtr a }

/-- A requested CST is entered or goes on. -/
def inCst (desire : AppCommands) : ArmGroup × AppCommands :=
  let enters := g.previousMode != axisModeCst || !g.holdActive
  let entered := if enters then g.enterCst cfg feedback else g
  (if cfg.hasAnyEyouPhModeSwitchAxis then entered.advanceCst cfg feedback else entered,
    if enters then seedDesired cfg entered.holdPosition desire else desire)

/-- A requested CSP is entered or goes on. -/
def inCsp (desire : AppCommands) : ArmGroup × AppCommands :=
  let leaves := g.previousMode == axisModeCst && powerOnRequested
  let left := if leaves then g.leaveCst cfg feedback else g
  let desire := if leaves then seedDesired cfg left.holdPosition desire else desire
  ({ (if cfg.hasAnyEyouPhModeSwitchAxis then left.advanceReentry cfg feedback desire else left) with
      cstState := .idle
      cstCycles := 0 }, desire)

/-- `PrepareArmGroupAxisCommand` up to its commands. -/
def prepare (desire : AppCommands) : ArmGroup × AppCommands :=
  let mode := requestedMode powerOnRequested desire
  let rises := powerOnRequested && !g.powerWasRequested
  let g := g.followPower cfg powerOnRequested
  let desire :=
    if rises then seedDesired cfg (fun a => some (feedback a).actPos) desire else desire
  let next :=
    if mode = axisModeCst then g.inCst cfg feedback desire
    else g.inCsp cfg feedback powerOnRequested desire
  ({ next.1 with previousMode := mode, powerWasRequested := powerOnRequested }, next.2)

/-! ## The commands of the group -/

/-- The position that an axis holds. -/
def heldPosition (a : Axis) : Int32 := (g.holdPosition a).getD (feedback a).actPos

/-- The mode that the group commands to an axis. -/
def commandMode (mode : UInt8) (a : Axis) : UInt8 :=
  if cfg.isEyouPhModeSwitchAxis a then
    if mode = axisModeCst ∧ g.cstState = .disableHold then axisModeCsp
    else if mode = axisModeCst ∧ (g.cstState = .modeHold ∨ g.cstState = .reEnable) then axisModeCst
    else if mode = axisModeCsp ∧ g.reentry.state = .disableHold then axisModeCst
    else mode
  else mode

/-- The control word of an axis of the group. -/
def axisCtrword (mode : UInt8) (a : Axis) : UInt8 :=
  let gate := applyAxisEnableGate powerOnRequested (feedback a)
  if cfg.isEyouPhModeSwitchAxis a = true ∧ mode = axisModeCst ∧
      (g.cstState = .disableHold ∨ g.cstState = .modeHold) then controlWordShutdown
  else if mode = axisModeCst then gate
  else if (g.reentry.state = .disableHold ∨ g.reentry.state = .modeHold) ∧
      cfg.isEyouPhModeSwitchAxis a = true then controlWordShutdown
  else gate

/-- The position that the group targets in CSP. -/
def cspTarget (desire : AppCommands) (a : Axis) : Int32 :=
  if g.reentry.holdActive then (g.holdPosition a).getD (desire.axisCtr a).axisPosition
  else (desire.axisCtr a).axisPosition

/-- The command of an axis of the group.  (The control word, which the mode does not depend on, is
put in first.) -/
def axisCommand (mode : UInt8) (desire : AppCommands) (a : Axis) : AxisCommand × AxisModeState :=
  let f := feedback a
  let isEyou := cfg.isEyouPhModeSwitchAxis a
  let commandMode := g.commandMode cfg mode a
  let held := g.heldPosition feedback a
  let ctrword := g.axisCtrword cfg feedback powerOnRequested mode a
  if isEyou = true ∧ mode = axisModeCst ∧ g.cstState = .disableHold then
    axisModeStateChage f commandMode held ⟨commandMode, ctrword, held, 0, 0⟩
  else if commandMode = axisModeCst then
    let effort :=
      if isEyou = true ∧ mode = axisModeCst ∧ g.cstState = .modeHold then 0
      else (desire.axisCtr a).axisEffort
    axisModeStateChage f commandMode held ⟨commandMode, ctrword, held, 0, effort⟩
  else
    let velocity := if g.reentry.holdActive then 0 else (desire.axisCtr a).axisVelocity
    axisModeStateChage f axisModeCsp (g.cspTarget desire a)
      ⟨commandMode, ctrword, g.cspTarget desire a, velocity, 0⟩

/-! ## What they leave alone -/

theorem axisCtr_seedDesired (position : Axis → Option Int32) (desire : AppCommands) {a : Axis}
    (ha : cfg.isModeSwitchAxis a = false) :
    (seedDesired cfg position desire).axisCtr a = desire.axisCtr a := by
  unfold seedDesired
  simp only [ha]

/-- The group changes no command but those of its own axes. -/
theorem desire_prepare (desire : AppCommands) :
    (g.prepare cfg feedback powerOnRequested desire).2.ecPoweron = desire.ecPoweron ∧
      ∀ a, cfg.isModeSwitchAxis a = false →
        (g.prepare cfg feedback powerOnRequested desire).2.axisCtr a = desire.axisCtr a := by
  unfold prepare inCst inCsp
  dsimp only
  constructor
  · split_ifs <;> rfl
  · intro a ha
    split_ifs <;> simp only [axisCtr_seedDesired cfg _ _ ha]

/-- The gate, or a shutdown, decides the control word. -/
theorem axisCtrword_cases (mode : UInt8) (a : Axis) :
    g.axisCtrword cfg feedback powerOnRequested mode a = controlWordShutdown ∨
      g.axisCtrword cfg feedback powerOnRequested mode a =
        applyAxisEnableGate powerOnRequested (feedback a) := by
  unfold axisCtrword
  dsimp only
  split_ifs
  · exact Or.inl rfl
  · exact Or.inr rfl
  · exact Or.inl rfl
  · exact Or.inr rfl

theorem ecCtrword_axisCommand (mode : UInt8) (desire : AppCommands) (a : Axis) :
    (g.axisCommand cfg feedback powerOnRequested mode desire a).1.ecCtrword =
      g.axisCtrword cfg feedback powerOnRequested mode a := by
  unfold axisCommand
  dsimp only
  split_ifs <;> rw [ecCtrword_axisModeStateChage]

end ArmGroup

end Igh

end JointController
