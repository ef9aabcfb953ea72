import JointController.Contract
import JointController.Library.Checks

/-!
# Heavy commands at the arm controller

What `RobotController_arm` and its `CommandProcessor_arm` do with a command of the gateway.  The
local planners are left out: the Heavy stream does not enter them.

* `JointModel`: the position limits of the URDF, as `lowerPositionLimitForArmJoint` finds them.
* `CommandProcessor`, with `processHeavyPositionCommand`, `processHeavyHoldPositionCommand` and
  `requestPositionHold`.
* `applyHeavySetpoint_eq_ok`: the commands that the processor applies.
* `RobotController`, with the callbacks of the two Heavy topics and the Heavy part of the control
  cycle.
-/

namespace JointController

namespace Arm

/-- One value for each arm joint. -/
abbrev Joints (α : Type*) := Fin 14 → α

/-! ## Joint limits -/

/-- `arm_joint_mappings_`, by their index into the model, and the limits of the model. -/
structure JointModel where
  idxQ : List ℤ
  lowerPositionLimit : List Double
  upperPositionLimit : List Double

/-- The limit that the model has for an arm joint, or the default when it has none. -/
def JointModel.limitForArmJoint (m : JointModel) (limits : List Double) (default : Double)
    (i : Fin 14) : Double :=
  match m.idxQ[i.val]? with
  | none => default
  | some idx => if 0 ≤ idx ∧ idx < limits.length then limits.getD idx.toNat default else default

/-- `lowerPositionLimitForArmJoint_`. -/
def JointModel.lowerPositionLimitForArmJoint (m : JointModel) : Joints Double :=
  m.limitForArmJoint m.lowerPositionLimit (.finite (-628 / 100))

/-- `upperPositionLimitForArmJoint_`. -/
def JointModel.upperPositionLimitForArmJoint (m : JointModel) : Joints Double :=
  m.limitForArmJoint m.upperPositionLimit (.finite (628 / 100))

/-- The parameters of the arm controller, as `on_configure` accepts them. -/
structure ArmParameters where
  jointNames : List String
  model : JointModel
  heavyMaxVelocityRadS : ℚ
  heavyMaxAccelerationRadS2 : ℚ
  jointNames_length : jointNames.length = 14
  heavyMaxVelocity_pos : 0 < heavyMaxVelocityRadS
  heavyMaxAcceleration_pos : 0 < heavyMaxAccelerationRadS2

/-- The position of a joint is outside the limits of the URDF, or is no number. -/
def ArmParameters.exceedsLimit (p : ArmParameters) (position : Joints Double) (i : Fin 14) : Bool :=
  !(position i).isFinite || decide (position i < p.model.lowerPositionLimitForArmJoint i) ||
    decide (p.model.upperPositionLimitForArmJoint i < position i)

/-! ## The command processor -/

/-- `ControlMode`. -/
inductive ControlMode where
  | position | effort
  deriving DecidableEq

/-- `PositionControlState`. -/
inductive PositionControlState where
  | positionActive | effortActive | effortToPositionHold | waitFreshPositionTarget
  deriving DecidableEq

/-- `InterpolationMode`. -/
inductive InterpolationMode where
  | cubicPolynomial | ruckig
  deriving DecidableEq

/-- `RobotState`. -/
inductive RobotState where
  | idle | executingJoint | stopped | error
  deriving DecidableEq

/-- `MotorState`, with the fields that a setpoint has. -/
structure MotorState where
  position : Double
  velocity : Double
  acceleration : Double
  effort : Double
  deriving DecidableEq

/-- `HeavyArmSetpoint`: the arm part of a command of the gateway. -/
structure HeavyArmSetpoint where
  sequence : ℕ
  mode : ℕ
  fieldMask : UInt8
  position : Joints Double
  velocity : Joints Double
  acceleration : Joints Double

/-- The setpoint carries the field of a bit. -/
def HeavyArmSetpoint.has (s : HeavyArmSetpoint) (field : UInt8) : Bool := s.fieldMask &&& field != 0

/-- `CommandProcessor_arm`, with the fields that the Heavy commands read and write. -/
structure CommandProcessor where
  activeControlMode : ControlMode
  positionControlState : PositionControlState
  interpolationMode : InterpolationMode
  robotState : RobotState
  externalPositionStreamActive : Bool
  positionTargetsInitialized : Bool
  holdActive : Joints Bool
  getPos : Joints Double
  externalStreamTarget : Joints MotorState
  motorStateCurrent : Joints MotorState
  motorStateDesired : Joints MotorState

namespace CommandProcessor

variable (p : ArmParameters) (a : CommandProcessor)

/-- `isPositionCommandReady`. -/
def isPositionCommandReady : Bool :=
  a.activeControlMode == .position && a.positionControlState == .positionActive

/-- The `ArmControlModeStatus` that the processor publishes. -/
def controlModeStatus : ArmControlModeStatus :=
  ⟨match a.activeControlMode with | .position => .position | .effort => .effort,
    a.isPositionCommandReady⟩

/-- `deactivateHoldAll`. -/
def deactivateHoldAll : CommandProcessor := { a with holdActive := fun _ => false }

/-- One round of the loop of `processHeavyPositionCommand`. -/
def checkFollowJoint (s : HeavyArmSetpoint) (i : Fin 14) : Except String Unit :=
  if p.exceedsLimit s.position i then
    .error ("arm position exceeds URDF limit at index " ++ toString i)
  else if (s.has Command.fieldVelocity ∧ (¬ (s.velocity i).isFinite ∨
        .finite p.heavyMaxVelocityRadS < (s.velocity i).abs)) ∨
      (s.has Command.fieldAcceleration ∧ (¬ (s.acceleration i).isFinite ∨
        .finite p.heavyMaxAccelerationRadS2 < (s.acceleration i).abs)) then
    .error ("arm feedforward exceeds limit at index " ++ toString i)
  else .ok ()

/-- The checks of `processHeavyPositionCommand`. -/
def checkFollow (s : HeavyArmSetpoint) : Except String Unit := do
  Checks.refuse (a.activeControlMode = .effort ∨
    a.positionControlState = .effortToPositionHold) "arm controller is not in POSITION mode"
  Checks.refuse (p.heavyMaxVelocityRadS ≤ 0 ∨ p.heavyMaxAccelerationRadS2 ≤ 0)
    "invalid Heavy V1 arm limits"
  (List.finRange 14).forM (checkFollowJoint p s)

/-- The target that a FOLLOW streams to a joint. -/
def followTarget (s : HeavyArmSetpoint) (i : Fin 14) : MotorState where
  position := s.position i
  velocity := if s.has Command.fieldVelocity then s.velocity i else 0
  acceleration := if s.has Command.fieldAcceleration then s.acceleration i else 0
  effort := 0

/-- `processHeavyPositionCommand`. -/
def processHeavyPositionCommand (s : HeavyArmSetpoint) : Except String Unit × CommandProcessor :=
  match a.checkFollow p s with
  | .error reason => (.error reason, a)
  | .ok () =>
    let a := a.deactivateHoldAll
    (.ok (),
      { a with
        positionControlState :=
          if a.positionControlState = .waitFreshPositionTarget then .positionActive
          else a.positionControlState
        externalStreamTarget := followTarget s
        getPos := s.position
        positionTargetsInitialized := true
        externalPositionStreamActive := true })

/-- The loop of `processHeavyHoldPositionCommand`: it writes the target of a joint before it checks
the next one. -/
def holdTargets (position : Joints Double) :
    List (Fin 14) → CommandProcessor → Except String Unit × CommandProcessor
  | [], a => (.ok (), a)
  | i :: joints, a =>
    if p.exceedsLimit position i then
      (.error ("arm HOLD position exceeds URDF limit at index " ++ toString i), a)
    else
      holdTargets position joints
        { a with externalStreamTarget :=
          Function.update a.externalStreamTarget i ⟨position i, 0, 0, 0⟩ }

/-- `processHeavyHoldPositionCommand`. -/
def processHeavyHoldPositionCommand (position : Joints Double) :
    Except String Unit × CommandProcessor :=
  if a.activeControlMode ≠ .position then
    (.error "arm controller is not in POSITION mode", a)
  else
    match holdTargets p position (List.finRange 14) a with
    | (.error reason, a) => (.error reason, a)
    | (.ok (), a) =>
      (.ok (),
        { a.deactivateHoldAll with
          positionControlState := .positionActive
          positionTargetsInitialized := true
          externalPositionStreamActive := true
          getPos := position
          robotState := .stopped })

/-- `syncPositionTargetsToCurrent_`. -/
def syncPositionTargetsToCurrent : CommandProcessor :=
  { a with
    getPos := fun i => (a.motorStateCurrent i).position
    motorStateDesired := fun i =>
      { a.motorStateDesired i with
        position := (a.motorStateCurrent i).position
        velocity := 0
        acceleration := 0 }
    positionTargetsInitialized := true }

/-- `requestPositionHold`. -/
def requestPositionHold : Bool × CommandProcessor :=
  if a.activeControlMode ≠ .position then (false, a)
  else
    let a := { a.deactivateHoldAll with
      externalPositionStreamActive := false
      interpolationMode := .ruckig
      positionControlState := .positionActive }
    (true, { a.syncPositionTargetsToCurrent with robotState := .stopped })

/-- The mode of a setpoint chooses the function that applies it. -/
def applyHeavySetpoint (s : HeavyArmSetpoint) : Except String Unit × CommandProcessor :=
  if s.mode = Command.modeFollowPosition then
    if s.has Command.fieldPosition then a.processHeavyPositionCommand p s
    else (.error "Heavy FOLLOW missing position field", a)
  else if s.mode = Command.modeHold then
    if s.has Command.fieldPosition then a.processHeavyHoldPositionCommand p s.position
    else (.error "Heavy HOLD missing position field", a)
  else if s.mode = Command.modeStop then
    let held := a.requestPositionHold
    (if held.1 then .ok () else .error "", held.2)
  else (.error "unknown Heavy V1 arm command mode", a)

/-! ## What the processor applies -/

variable {p a}

theorem holdTargets_eq_ok {position : Joints Double} {joints : List (Fin 14)} :
    (holdTargets p position joints a).1 = .ok () ↔
      ∀ i ∈ joints, p.exceedsLimit position i = false := by
  induction joints generalizing a with
  | nil => simp [holdTargets]
  | cons i joints ih =>
    unfold holdTargets
    cases hi : p.exceedsLimit position i with
    | true => simp [hi]
    | false => simp [hi, ih]

theorem processHeavyHoldPositionCommand_eq_ok {position : Joints Double} :
    (a.processHeavyHoldPositionCommand p position).1 = .ok () ↔
      a.activeControlMode = .position ∧ ∀ i, p.exceedsLimit position i = false := by
  have hloop : (holdTargets p position (List.finRange 14) a).1 = .ok () ↔
      ∀ i ∈ List.finRange 14, p.exceedsLimit position i = false := holdTargets_eq_ok
  have hall : (∀ i ∈ List.finRange 14, p.exceedsLimit position i = false) ↔
      ∀ i, p.exceedsLimit position i = false := by simp
  unfold processHeavyHoldPositionCommand
  by_cases hmode : a.activeControlMode = .position
  · rw [if_neg (not_not.mpr hmode), ← hall, ← hloop]
    split
    · rename_i reason a' heq
      rw [heq]
      exact ⟨fun h => (nomatch h), fun h => (nomatch h.2)⟩
    · rename_i u a' heq
      rw [heq]
      exact ⟨fun _ => ⟨hmode, rfl⟩, fun _ => rfl⟩
  · rw [if_pos hmode]
    exact ⟨fun h => (nomatch h), fun h => absurd h.1 hmode⟩

theorem checkFollowJoint_eq_ok {s : HeavyArmSetpoint} {i : Fin 14} :
    checkFollowJoint p s i = .ok () ↔ p.exceedsLimit s.position i = false ∧
      (s.has Command.fieldVelocity = true → (s.velocity i).isFinite = true ∧
        ¬ .finite p.heavyMaxVelocityRadS < (s.velocity i).abs) ∧
      (s.has Command.fieldAcceleration = true → (s.acceleration i).isFinite = true ∧
        ¬ .finite p.heavyMaxAccelerationRadS2 < (s.acceleration i).abs) := by
  simp only [checkFollowJoint, Checks.guard_eq_ok, Bool.not_eq_true, Bool.not_eq_false, not_or,
    not_and, and_true]

theorem processHeavyPositionCommand_eq_ok {s : HeavyArmSetpoint} :
    (a.processHeavyPositionCommand p s).1 = .ok () ↔
      a.activeControlMode = .position ∧ a.positionControlState ≠ .effortToPositionHold ∧
        ∀ i, checkFollowJoint p s i = .ok () := by
  have hcheck : (a.processHeavyPositionCommand p s).1 = .ok () ↔ a.checkFollow p s = .ok () := by
    unfold processHeavyPositionCommand
    cases hc : a.checkFollow p s with
    | error reason => simp
    | ok u => simp
  have hmode : ¬ a.activeControlMode = .effort ↔ a.activeControlMode = .position := by
    cases a.activeControlMode with
    | position => simp
    | effort => simp
  rw [hcheck]
  unfold checkFollow
  rw [Checks.bind_eq_ok, Checks.bind_eq_ok, Checks.refuse_eq_ok, Checks.refuse_eq_ok,
    Checks.forM_eq_ok, not_or, not_or, hmode]
  constructor
  · rintro ⟨⟨hposition, hstate⟩, -, hjoints⟩
    exact ⟨hposition, hstate, fun i => hjoints i (List.mem_finRange i)⟩
  · rintro ⟨hposition, hstate, hjoints⟩
    exact ⟨⟨hposition, hstate⟩,
      ⟨not_le.mpr p.heavyMaxVelocity_pos, not_le.mpr p.heavyMaxAcceleration_pos⟩,
      fun i _ => hjoints i⟩

theorem requestPositionHold_eq_true :
    a.requestPositionHold.1 = true ↔ a.activeControlMode = .position := by
  unfold requestPositionHold
  split_ifs with hmode
  · simp [hmode]
  · simp [not_not.mp hmode]

end CommandProcessor

/-! ## The controller -/

/-- `RobotController_arm`, with the state of its Heavy topics. -/
structure RobotController where
  processor : CommandProcessor
  heavyCommandBuffer : HeavyArmSetpoint
  heavyCommandGeneration : ℕ
  consumedHeavyCommandGeneration : ℕ
  lastHeavySequence : ℕ
  heavyLeaseActive : Bool
  heavyLeaseActiveLastUpdate : Bool

/-- The setpoint of a message: the resources behind the lift. -/
def HeavyArmSetpoint.ofCommand (message : Command) : HeavyArmSetpoint where
  sequence := message.sequence
  mode := message.mode
  fieldMask := message.fieldMask
  position := fun i => message.position (armResource i)
  velocity := fun i => message.velocity (armResource i)
  acceleration := fun i => message.acceleration (armResource i)

namespace RobotController

/-- The controller after `on_configure`, with the command processor that it has made. -/
def configured (processor : CommandProcessor) : RobotController where
  processor := processor
  heavyCommandBuffer := ⟨0, 0, 0, fun _ => 0, fun _ => 0, fun _ => 0⟩
  heavyCommandGeneration := 0
  consumedHeavyCommandGeneration := 0
  lastHeavySequence := 0
  heavyLeaseActive := false
  heavyLeaseActiveLastUpdate := false

variable (p : ArmParameters) (r : RobotController)

/-- The callback of the accepted commands. -/
def heavyCommandCallback (message : Command) : RobotController :=
  { r with
    heavyCommandBuffer := .ofCommand message
    heavyCommandGeneration := r.heavyCommandGeneration + 1 }

/-- The callback of the lease gate. -/
def leaseGateCallback (data : Bool) : RobotController := { r with heavyLeaseActive := data }

/-- The Heavy part of `on_deactivate`. -/
def onDeactivate : RobotController :=
  { r with
    heavyLeaseActive := false
    consumedHeavyCommandGeneration := r.heavyCommandGeneration }

/-- The closing edge of the lease gate: the arms hold their pose, and the sequences of the lease are
forgotten. -/
def observeLeaseGate : RobotController :=
  if ¬ r.heavyLeaseActive ∧ r.heavyLeaseActiveLastUpdate then
    { r with
      processor := { r.processor with externalPositionStreamActive := false }.requestPositionHold.2
      lastHeavySequence := 0
      consumedHeavyCommandGeneration := r.heavyCommandGeneration
      heavyLeaseActiveLastUpdate := false }
  else { r with heavyLeaseActiveLastUpdate := r.heavyLeaseActive }

/-- The Heavy command of a control cycle, and the acknowledgement that the cycle publishes. -/
def consumeHeavy : Option ℕ × RobotController :=
  if r.heavyLeaseActive ∧ r.heavyCommandGeneration ≠ r.consumedHeavyCommandGeneration then
    let setpoint := r.heavyCommandBuffer
    let r := { r with consumedHeavyCommandGeneration := r.heavyCommandGeneration }
    if r.lastHeavySequence < setpoint.sequence then
      match r.processor.applyHeavySetpoint p setpoint with
      | (.ok (), processor) =>
        (some setpoint.sequence,
          { r with processor := processor, lastHeavySequence := setpoint.sequence })
      | (.error _, processor) => (none, { r with processor := processor })
    else (none, r)
  else (none, r)

/-- The Heavy part of `update`. -/
def updateHeavy : Option ℕ × RobotController := r.observeLeaseGate.consumeHeavy p

/-- An open gate is only noted. -/
theorem observeLeaseGate_open (hopen : r.heavyLeaseActive = true) :
    r.observeLeaseGate = { r with heavyLeaseActiveLastUpdate := true } := by
  unfold observeLeaseGate
  rw [if_neg (fun h => h.1 hopen), hopen]

/-- Under an open gate a setpoint at or below the last applied sequence is consumed, and neither
applied nor acknowledged. -/
theorem updateHeavy_old (hopen : r.heavyLeaseActive = true)
    (hpending : r.heavyCommandGeneration ≠ r.consumedHeavyCommandGeneration)
    (hold : r.heavyCommandBuffer.sequence ≤ r.lastHeavySequence) :
    r.updateHeavy p = (none, { r with
      consumedHeavyCommandGeneration := r.heavyCommandGeneration
      heavyLeaseActiveLastUpdate := true }) := by
  unfold updateHeavy consumeHeavy
  rw [observeLeaseGate_open r hopen]
  dsimp only
  rw [if_pos ⟨hopen, hpending⟩, if_neg (not_lt.mpr hold)]

/-- Under an open gate nothing happens without a new setpoint. -/
theorem updateHeavy_idle (hopen : r.heavyLeaseActive = true)
    (hidle : r.heavyCommandGeneration = r.consumedHeavyCommandGeneration) :
    r.updateHeavy p = (none, { r with heavyLeaseActiveLastUpdate := true }) := by
  unfold updateHeavy consumeHeavy
  rw [observeLeaseGate_open r hopen]
  dsimp only
  rw [if_neg (fun h => h.2 hidle)]

end RobotController

end Arm

end JointController
