import JointController.Gateway.System
import JointController.Lift.System
import JointController.Arm.HeavyCommand

/-!
# The three validators of a Heavy command

The gateway validates a user command before it forwards it, and each of the two lower controllers
validates it again.  A command that passes the first check and fails one of the others is never
acknowledged.

* `SameConfiguration`: the three components agree on names and limits.
* `forwardedCommand`: what the lower controllers receive of a user command.
* `takesHeavy_forwarded`: the lift controller takes every command that the gateway admits.
* `ArmWithinLimits`, `lowerControllersAccept_iff`: the arm controller does exactly when its mode and
  the limits of its joints allow it, and the gateway does not know the joint limits.
* `armMode_of_validate`: the mode is no reason to reject a command as long as the gateway is up to
  date about it.
* `arm_rejects_admitted`: a command that the gateway admits and the arm controller rejects.
-/

namespace JointController

open Gateway (effectiveCommand)

/-- The gateway and the two lower controllers are configured with the same joint names and the same
limits. -/
structure SameConfiguration (p : Parameters) (lift : Lift.LiftParameters)
    (arm : Arm.ArmParameters) : Prop where
  liftName : p.liftNativeName = Lift.jointName
  armNames : p.armNativeNames = arm.jointNames
  liftMin : lift.limits.minPositionM = p.liftMinPositionM
  liftMax : lift.limits.maxPositionM = p.liftMaxPositionM
  liftVelocity : lift.limits.maxVelocityMps = p.liftMaxVelocityMps
  liftAcceleration : lift.limits.maxAccelerationMps2 = p.liftMaxAccelerationMps2
  armVelocity : arm.heavyMaxVelocityRadS = p.armMaxVelocityRadS
  armAcceleration : arm.heavyMaxAccelerationRadS2 = p.armMaxAccelerationRadS2

/-- What the lower controllers receive of a user command: the gateway clamps the lift target of a
HOLD or STOP and gives the command its own generation. -/
def forwardedCommand (p : Parameters) (c : Command) (sequence : ℕ) : Command :=
  { effectiveCommand p c with sequence := sequence }

/-! ## What an admitted command satisfies -/

variable {p : Parameters} {c : Command}

/-- The values of a resource that the gateway has checked. -/
structure ResourceAdmitted (p : Parameters) (c : Command) (i : Fin 15) : Prop where
  position : c.mode ≠ Command.modeStop → c.has Command.fieldPosition = true →
    (c.position i).isFinite = true
  velocity : c.has Command.fieldVelocity = true → (c.velocity i).isFinite = true
  acceleration : c.has Command.fieldAcceleration = true → (c.acceleration i).isFinite = true
  velocityLimit : c.mode ≠ Command.modeStop → c.has Command.fieldVelocity = true →
    ¬ .finite (if i = 0 then p.liftMaxVelocityMps else p.armMaxVelocityRadS) <
      (c.velocity i).abs
  accelerationLimit : c.mode ≠ Command.modeStop → c.has Command.fieldAcceleration = true →
    ¬ .finite (if i = 0 then p.liftMaxAccelerationMps2 else p.armMaxAccelerationRadS2) <
      (c.acceleration i).abs

theorem validateResource_eq_ok {i : Fin 15} :
    validateResource p c i = .ok () ↔ ResourceAdmitted p c i := by
  simp only [validateResource, Checks.guard_eq_ok, not_and, not_not, and_true]
  constructor
  · rintro ⟨h1, h2, h3, h4, h5⟩
    exact ⟨h1, h2, h3, h4, h5⟩
  · rintro ⟨h1, h2, h3, h4, h5⟩
    exact ⟨h1, h2, h3, h4, h5⟩

/-- The fields of a command that the gateway has checked. -/
structure FieldsAdmitted (p : Parameters) (c : Command) : Prop where
  mode : c.mode ≤ Command.modeStop
  positionProvided : c.mode ≠ Command.modeStop → c.has Command.fieldPosition = true
  resources : ∀ i, ResourceAdmitted p c i
  liftTravel : c.mode ≠ Command.modeStop → c.has Command.fieldPosition = true →
    ¬ c.position 0 < .finite (p.liftMinPositionM - liftTravelTolerance p c) ∧
      ¬ .finite (p.liftMaxPositionM + liftTravelTolerance p c) < c.position 0

theorem mode_cases (h : c.mode ≤ Command.modeStop) :
    c.mode = Command.modeHold ∨ c.mode = Command.modeFollowPosition ∨
      c.mode = Command.modeStop := by
  unfold Command.modeHold Command.modeFollowPosition Command.modeStop at *
  omega

theorem Command.modeHold_ne_modeStop : modeHold ≠ modeStop := by decide

theorem Command.modeFollowPosition_ne_modeHold : modeFollowPosition ≠ modeHold := by decide

theorem Command.modeFollowPosition_ne_modeStop : modeFollowPosition ≠ modeStop := by decide

theorem fieldsAdmitted_of_validateFields {joints : JointSnapshot}
    (h : validateFields p joints c = .ok ()) : FieldsAdmitted p c := by
  simp only [validateFields, Checks.guard_eq_ok, Checks.bind_eq_ok, Checks.forM_eq_ok, not_and,
    not_or, not_not, and_true] at h
  obtain ⟨hmode, -, hposition, hresources, htravel⟩ := h
  have hle : c.mode ≤ Command.modeStop := not_lt.mp hmode
  refine ⟨hle, fun hstop => hposition ?_, fun i => ?_, htravel⟩
  · rcases mode_cases hle with hhold | hfollow | hstop'
    · exact Or.inl hhold
    · exact Or.inr hfollow
    · exact absurd hstop' hstop
  · exact validateResource_eq_ok.mp (hresources i (List.mem_finRange i))

/-! ## The lift controller -/

section Forwarded

variable (p : Parameters) (c : Command) (sequence : ℕ)

@[simp] theorem forwardedCommand_mode : (forwardedCommand p c sequence).mode = c.mode :=
  Gateway.effectiveCommand_mode p c

@[simp] theorem forwardedCommand_has (field : UInt8) :
    (forwardedCommand p c sequence).has field = c.has field := by
  unfold forwardedCommand effectiveCommand
  split <;> rfl

@[simp] theorem forwardedCommand_velocity :
    (forwardedCommand p c sequence).velocity = c.velocity := by
  unfold forwardedCommand effectiveCommand
  split <;> rfl

@[simp] theorem forwardedCommand_acceleration :
    (forwardedCommand p c sequence).acceleration = c.acceleration := by
  unfold forwardedCommand effectiveCommand
  split <;> rfl

theorem forwardedCommand_position (i : Fin 15) :
    (forwardedCommand p c sequence).position i =
      if (c.mode = Command.modeHold ∨ c.mode = Command.modeStop) ∧ i = 0 then
        Gateway.clampLiftSafetyTargetLocked p (c.position 0)
      else c.position i := by
  unfold forwardedCommand effectiveCommand
  by_cases hmode : c.mode = Command.modeHold ∨ c.mode = Command.modeStop
  · simp [hmode, Gateway.clampLift, Function.update_apply]
  · simp [hmode]

/-- The gateway leaves the arm targets as they are. -/
@[simp] theorem forwardedCommand_armPosition (i : Fin 14) :
    (forwardedCommand p c sequence).position (armResource i) = c.position (armResource i) := by
  rw [forwardedCommand_position, if_neg fun h => Fin.succ_ne_zero i h.2]

/-- The lift target of a FOLLOW is not clamped. -/
theorem forwardedCommand_follow (h : c.mode = Command.modeFollowPosition) (i : Fin 15) :
    (forwardedCommand p c sequence).position i = c.position i := by
  have hne : ¬ (c.mode = Command.modeHold ∨ c.mode = Command.modeStop) := by
    rw [h]
    decide
  rw [forwardedCommand_position, if_neg fun h => hne h.1]

theorem forwardedCommand_isFinite (h : (c.position 0).isFinite = true) :
    ((forwardedCommand p c sequence).position 0).isFinite = true := by
  have hclamp : (Gateway.clampLiftSafetyTargetLocked p (c.position 0)).isFinite = true := by
    unfold Gateway.clampLiftSafetyTargetLocked
    split_ifs
    · rfl
    · rfl
    · exact h
  rw [forwardedCommand_position]
  split_ifs
  · exact hclamp
  · exact h

end Forwarded

/-- A value that is not provided passes every check. -/
theorem provided_admitted (c : Command) (field : UInt8) (values : Resources Double) {limit : ℚ}
    (hlimit : 0 < limit)
    (hprovided : c.has field = true →
      (values 0).isFinite = true ∧ ¬ .finite limit < (values 0).abs) :
    (Lift.LiftController.provided c field values).isFinite = true ∧
      ¬ .finite limit < (Lift.LiftController.provided c field values).abs := by
  unfold Lift.LiftController.provided
  split_ifs with hhas
  · exact hprovided hhas
  · refine ⟨rfl, ?_⟩
    show ¬ Double.finite limit < (Double.finite 0).abs
    simpa using hlimit.le

/-- The lift target of a FOLLOW that the gateway admits. -/
theorem acceptsFollow_forwarded {lift : Lift.LiftParameters} {arm : Arm.ArmParameters}
    (hconf : SameConfiguration p lift arm) (hc : FieldsAdmitted p c) (sequence : ℕ)
    (hfollow : c.mode = Command.modeFollowPosition) :
    Lift.LiftController.acceptsFollow lift (forwardedCommand p c sequence) = true := by
  have hstop : c.mode ≠ Command.modeStop := hfollow.trans_ne Command.modeFollowPosition_ne_modeStop
  have hhold : c.mode ≠ Command.modeHold := hfollow.trans_ne Command.modeFollowPosition_ne_modeHold
  have hposition := hc.positionProvided hstop
  have hlift := hc.resources 0
  obtain ⟨hmin, hmax⟩ := hc.liftTravel hstop hposition
  have htolerance : liftTravelTolerance p c = 0 := if_neg hhold
  rw [htolerance, sub_zero, ← hconf.liftMin] at hmin
  rw [htolerance, add_zero, ← hconf.liftMax] at hmax
  obtain ⟨hvelocity, hvelocityLimit⟩ :=
    provided_admitted (forwardedCommand p c sequence) Command.fieldVelocity c.velocity
      lift.limits.maxVelocity_pos fun hhas => by
        rw [forwardedCommand_has] at hhas
        rw [hconf.liftVelocity]
        exact ⟨hlift.velocity hhas, hlift.velocityLimit hstop hhas⟩
  obtain ⟨hacceleration, haccelerationLimit⟩ :=
    provided_admitted (forwardedCommand p c sequence) Command.fieldAcceleration c.acceleration
      lift.limits.maxAcceleration_pos fun hhas => by
        rw [forwardedCommand_has] at hhas
        rw [hconf.liftAcceleration]
        exact ⟨hlift.acceleration hhas, hlift.accelerationLimit hstop hhas⟩
  unfold Lift.LiftController.acceptsFollow Lift.LiftController.liftResource
  simp only [forwardedCommand_follow p c sequence hfollow, forwardedCommand_has,
    forwardedCommand_velocity, forwardedCommand_acceleration, Bool.and_eq_true,
    Bool.not_eq_true', decide_eq_false_iff_not]
  exact ⟨⟨⟨⟨⟨⟨⟨hposition, hlift.position hstop hposition⟩, hmin⟩, hmax⟩, hvelocity⟩,
    hvelocityLimit⟩, hacceleration⟩, haccelerationLimit⟩

/-- The lift controller takes every command that the gateway admits. -/
theorem takesHeavy_forwarded {lift : Lift.LiftParameters} {arm : Arm.ArmParameters}
    (hconf : SameConfiguration p lift arm) (hc : FieldsAdmitted p c)
    {otg : Lift.TrajectoryGenerator} (controller : Lift.LiftController otg) {sequence : ℕ}
    (hnew : controller.inbox.admittedHeavySequence < sequence) :
    controller.takesHeavy lift (forwardedCommand p c sequence) = true := by
  have htarget :
      (Lift.LiftController.heavyTarget lift (forwardedCommand p c sequence)).isSome = true := by
    unfold Lift.LiftController.heavyTarget
    rw [forwardedCommand_mode]
    rcases mode_cases hc.mode with hhold | hfollow | hstop
    · have hne : c.mode ≠ Command.modeStop := hhold.trans_ne Command.modeHold_ne_modeStop
      have hposition := hc.positionProvided hne
      have haccepts :
          Lift.LiftController.acceptsHold (forwardedCommand p c sequence) = true := by
        unfold Lift.LiftController.acceptsHold
        rw [forwardedCommand_has, hposition, Bool.true_and]
        exact forwardedCommand_isFinite p c sequence ((hc.resources 0).position hne hposition)
      rw [hhold, haccepts]
      rfl
    · rw [if_pos hfollow, if_pos (acceptsFollow_forwarded hconf hc sequence hfollow)]
      rfl
    · rw [hstop]
      rfl
  unfold Lift.LiftController.takesHeavy
  rw [htarget, Bool.and_true]
  exact decide_eq_true hnew

/-! ## The arm controller -/

/-- The arm controller is in POSITION mode, for a FOLLOW not in the hold behind an EFFORT mode, and
every target of a HOLD or FOLLOW is within the limits of its joint. -/
def ArmWithinLimits (arm : Arm.ArmParameters) (a : Arm.CommandProcessor) (c : Command) : Prop :=
  a.activeControlMode = .position ∧
    (c.mode = Command.modeFollowPosition → a.positionControlState ≠ .effortToPositionHold) ∧
    (c.mode ≠ Command.modeStop → ∀ i,
      ¬ c.position (armResource i) < arm.model.lowerPositionLimitForArmJoint i ∧
        ¬ arm.model.upperPositionLimitForArmJoint i < c.position (armResource i))

section ArmController

variable {lift : Lift.LiftParameters} {arm : Arm.ArmParameters} (a : Arm.CommandProcessor)
  (sequence : ℕ)

/-- The arm targets of an admitted command are numbers, so only the limits of the URDF can reject
one. -/
theorem exceedsLimit_forwarded (hc : FieldsAdmitted p c) (hstop : c.mode ≠ Command.modeStop)
    (i : Fin 14) :
    arm.exceedsLimit (Arm.HeavyArmSetpoint.ofCommand (forwardedCommand p c sequence)).position i =
        false ↔
      ¬ c.position (armResource i) < arm.model.lowerPositionLimitForArmJoint i ∧
        ¬ arm.model.upperPositionLimitForArmJoint i < c.position (armResource i) := by
  have hfinite := (hc.resources (armResource i)).position hstop (hc.positionProvided hstop)
  unfold Arm.ArmParameters.exceedsLimit Arm.HeavyArmSetpoint.ofCommand
  simp [hfinite]

/-- The feedforward of an admitted FOLLOW is within the limits of the arm controller. -/
theorem checkFollowJoint_forwarded (hconf : SameConfiguration p lift arm)
    (hc : FieldsAdmitted p c) (hstop : c.mode ≠ Command.modeStop) (i : Fin 14) :
    Arm.CommandProcessor.checkFollowJoint arm
        (Arm.HeavyArmSetpoint.ofCommand (forwardedCommand p c sequence)) i = .ok () ↔
      ¬ c.position (armResource i) < arm.model.lowerPositionLimitForArmJoint i ∧
        ¬ arm.model.upperPositionLimitForArmJoint i < c.position (armResource i) := by
  have hi := hc.resources (armResource i)
  have hne : armResource i ≠ 0 := Fin.succ_ne_zero i
  have hvelocity := hi.velocityLimit hstop
  have hacceleration := hi.accelerationLimit hstop
  rw [if_neg hne, ← hconf.armVelocity] at hvelocity
  rw [if_neg hne, ← hconf.armAcceleration] at hacceleration
  rw [Arm.CommandProcessor.checkFollowJoint_eq_ok, exceedsLimit_forwarded sequence hc hstop,
    and_iff_left]
  unfold Arm.HeavyArmSetpoint.ofCommand
  rw [forwardedCommand_velocity, forwardedCommand_acceleration]
  refine ⟨fun hhas => ?_, fun hhas => ?_⟩
  · have hprovided := (forwardedCommand_has p c sequence Command.fieldVelocity).symm.trans hhas
    exact ⟨hi.velocity hprovided, hvelocity hprovided⟩
  · have hprovided :=
      (forwardedCommand_has p c sequence Command.fieldAcceleration).symm.trans hhas
    exact ⟨hi.acceleration hprovided, hacceleration hprovided⟩

/-- The arm controller applies an admitted command exactly when its mode and its joint limits allow
it. -/
theorem applyHeavySetpoint_forwarded (hconf : SameConfiguration p lift arm)
    (hc : FieldsAdmitted p c) :
    (a.applyHeavySetpoint arm
        (Arm.HeavyArmSetpoint.ofCommand (forwardedCommand p c sequence))).1 = .ok () ↔
      ArmWithinLimits arm a c := by
  set s := Arm.HeavyArmSetpoint.ofCommand (forwardedCommand p c sequence) with hs
  have hmode : s.mode = c.mode := forwardedCommand_mode p c sequence
  have hposition (hstop : c.mode ≠ Command.modeStop) : s.has Command.fieldPosition = true :=
    (forwardedCommand_has p c sequence _).trans (hc.positionProvided hstop)
  unfold Arm.CommandProcessor.applyHeavySetpoint ArmWithinLimits
  rw [hmode]
  rcases mode_cases hc.mode with hhold | hfollow | hstop
  · have hstop : c.mode ≠ Command.modeStop := hhold.trans_ne Command.modeHold_ne_modeStop
    have hnofollow : c.mode ≠ Command.modeFollowPosition :=
      hhold.trans_ne Command.modeFollowPosition_ne_modeHold.symm
    rw [if_neg hnofollow, if_pos hhold, if_pos (hposition hstop),
      Arm.CommandProcessor.processHeavyHoldPositionCommand_eq_ok]
    refine and_congr_right fun _ => ?_
    constructor
    · intro h
      exact ⟨fun hfollow => absurd hfollow hnofollow,
        fun _ i => (exceedsLimit_forwarded sequence hc hstop i).mp (h i)⟩
    · rintro ⟨-, h⟩ i
      exact (exceedsLimit_forwarded sequence hc hstop i).mpr (h hstop i)
  · have hstop : c.mode ≠ Command.modeStop :=
      hfollow.trans_ne Command.modeFollowPosition_ne_modeStop
    rw [if_pos hfollow, if_pos (hposition hstop),
      Arm.CommandProcessor.processHeavyPositionCommand_eq_ok]
    refine and_congr_right fun _ => ?_
    constructor
    · rintro ⟨hstate, h⟩
      exact ⟨fun _ => hstate,
        fun _ i => (checkFollowJoint_forwarded sequence hconf hc hstop i).mp (h i)⟩
    · rintro ⟨hstate, h⟩
      exact ⟨hstate hfollow,
        fun i => (checkFollowJoint_forwarded sequence hconf hc hstop i).mpr (h hstop i)⟩
  · have hnofollow : c.mode ≠ Command.modeFollowPosition :=
      hstop.trans_ne Command.modeFollowPosition_ne_modeStop.symm
    have hnohold : c.mode ≠ Command.modeHold := hstop.trans_ne Command.modeHold_ne_modeStop.symm
    rw [if_neg hnofollow, if_neg hnohold, if_pos hstop]
    have hheld := Arm.CommandProcessor.requestPositionHold_eq_true (a := a)
    dsimp only
    constructor
    · intro h
      refine ⟨hheld.mp ?_, fun hfollow => absurd hfollow hnofollow, fun h => absurd hstop h⟩
      by_contra hnot
      rw [if_neg hnot] at h
      exact nomatch h
    · rintro ⟨hposition, -, -⟩
      exact if_pos (hheld.mpr hposition)

end ArmController

/-! ## The agreement -/

/-- Both lower controllers accept what the gateway forwards of a command. -/
def LowerControllersAccept {otg : Lift.TrajectoryGenerator} (p : Parameters)
    (lift : Lift.LiftParameters) (arm : Arm.ArmParameters)
    (controller : Lift.LiftController otg) (a : Arm.CommandProcessor) (c : Command)
    (sequence : ℕ) : Prop :=
  controller.takesHeavy lift (forwardedCommand p c sequence) = true ∧
    (a.applyHeavySetpoint arm
      (Arm.HeavyArmSetpoint.ofCommand (forwardedCommand p c sequence))).1 = .ok ()

/-- The lower controllers accept a command that the gateway has admitted exactly when the arm
controller is in POSITION mode and, unless the command is a STOP, the arm targets are within the
limits of their joints, which the gateway does not check. -/
theorem lowerControllersAccept_iff {otg : Lift.TrajectoryGenerator} {lift : Lift.LiftParameters}
    {arm : Arm.ArmParameters} (hconf : SameConfiguration p lift arm) {g : Gateway} {now : ℕ}
    {allow : Bool} (hvalid : validateCommandLocked p g c now allow = .ok ())
    (controller : Lift.LiftController otg) (a : Arm.CommandProcessor) {sequence : ℕ}
    (hnew : controller.inbox.admittedHeavySequence < sequence) :
    LowerControllersAccept p lift arm controller a c sequence ↔ ArmWithinLimits arm a c := by
  have hc := fieldsAdmitted_of_validateFields (validateCommandLocked_eq_ok.mp hvalid).2.1
  unfold LowerControllersAccept
  rw [and_iff_right (takesHeavy_forwarded hconf hc controller hnew)]
  exact applyHeavySetpoint_forwarded a sequence hconf hc

/-- When the status that the gateway has of the arm controller is its present one, the mode is no
reason to reject a command. -/
theorem armMode_of_validate {arm : Arm.ArmParameters} {g : Gateway} {now : ℕ} {allow : Bool}
    (hvalid : validateCommandLocked p g c now allow = .ok ()) {a : Arm.CommandProcessor}
    (hstatus : g.feedback.controlModeStatus = a.controlModeStatus) :
    ArmWithinLimits arm a c ↔ (c.mode ≠ Command.modeStop → ∀ i,
      ¬ c.position (armResource i) < arm.model.lowerPositionLimitForArmJoint i ∧
        ¬ arm.model.upperPositionLimitForArmJoint i < c.position (armResource i)) := by
  have hready := (validateCommandLocked_eq_ok.mp hvalid).2.2.2
  simp only [validateReadiness, workspaceReadyLocked, Checks.bind_eq_ok, Checks.mapError_eq_ok,
    Checks.guard_eq_ok, not_or, not_not] at hready
  obtain ⟨⟨-, -, ⟨-, -, hcommandReady⟩, -⟩, -⟩ := hready
  have hboth : a.isPositionCommandReady = true := by
    rw [hstatus] at hcommandReady
    exact hcommandReady
  unfold Arm.CommandProcessor.isPositionCommandReady at hboth
  obtain ⟨hmode, hstate⟩ := Bool.and_eq_true_iff.mp hboth
  have hhold : a.positionControlState ≠ .effortToPositionHold := by
    rw [beq_iff_eq.mp hstate]
    rintro ⟨⟩
  exact ⟨fun h => h.2.2, fun h => ⟨beq_iff_eq.mp hmode, fun _ => hhold, h⟩⟩

/-! ## A command that is lost -/

/-- The arm controller with the joint names of the gateway and the limits of the URDF, the left arm
first. -/
def urdfArm : Arm.ArmParameters where
  jointNames := defaultParameters.armNativeNames
  model :=
    { idxQ := (List.range 14).map Int.ofNat
      lowerPositionLimit := [-314, -10, -314, -230, -314, -140, -165,
        -314, -314, -314, -140, -314, -140, -165].map fun (x : ℚ) => .finite (x / 100)
      upperPositionLimit := [314, 314, 314, 140, 314, 140, 65,
        314, 10, 314, 230, 314, 140, 65].map fun (x : ℚ) => .finite (x / 100) }
  heavyMaxVelocityRadS := 3 / 10
  heavyMaxAccelerationRadS2 := 1
  jointNames_length := defaultParameters.armNativeNames_length
  heavyMaxVelocity_pos := by norm_num
  heavyMaxAcceleration_pos := by norm_num

/-- The parameters of the gateway with the lift limits of `lift_hardware.yaml`. -/
def launchParameters : Parameters :=
  { defaultParameters with
    liftMaxAccelerationMps2 := 33333333 / 10 ^ 9
    liftMaxAcceleration_nonneg := by norm_num }

theorem sameConfiguration_launch :
    SameConfiguration launchParameters Lift.defaultParameters urdfArm :=
  ⟨rfl, rfl, rfl, rfl, rfl, rfl, rfl, rfl⟩

/-- The arm controller after its reset, at rest in POSITION mode. -/
def restingArm : Arm.CommandProcessor where
  activeControlMode := .position
  positionControlState := .positionActive
  interpolationMode := .ruckig
  robotState := .idle
  externalPositionStreamActive := false
  positionTargetsInitialized := false
  holdActive := fun _ => false
  getPos := fun _ => 0
  externalStreamTarget := fun _ => ⟨0, 0, 0, 0⟩
  motorStateCurrent := fun _ => ⟨0, 0, 0, 0⟩
  motorStateDesired := fun _ => ⟨0, 0, 0, 0⟩

/-- The lease of the first owner is granted and aligned in a simulation. -/
def alignedRun : List Gateway.Label :=
  Gateway.stepsAt (millis 2) 0
    ((Gateway.completeFeedback launchParameters .simulation true 0).map Gateway.Action.sample ++
      [Gateway.Action.acquire (Gateway.acquireRequest "upper"), .grant 7, .publish true,
        .publish true, .ack true 1, .ack false 1])

/-- A FOLLOW command that sends the first joint of the left arm to a position in radians. -/
def reachCommand (position : ℚ) : Command :=
  let c := Gateway.restCommand "upper" (Gateway.generateLeaseId "upper" 7 (millis 2) 1) 1000001
    Command.modeFollowPosition
  { c with position := Function.update c.position 1 (.finite position) }

/-- The gateway admits the command behind the alignment, and the status that it has of the arm
controller is the present one. -/
def admitsReach (position : ℚ) (s : Gateway.System) : Bool :=
  decide (validateCommandLocked launchParameters s.gateway (reachCommand position) (millis 3)
      false = .ok ()) &&
    decide (s.gateway.feedback.controlModeStatus = restingArm.controlModeStatus)

/-- The gateway admits a target of 100 rad, and the arm controller rejects it. -/
theorem arm_rejects_admitted :
    ∃ s, Runs.exec (Gateway.step launchParameters) (Gateway.System.init (millis 1)) alignedRun =
        some s ∧
      validateCommandLocked launchParameters s.gateway (reachCommand 100) (millis 3) false =
        .ok () ∧
      s.gateway.feedback.controlModeStatus = restingArm.controlModeStatus ∧
      ¬ LowerControllersAccept launchParameters Lift.defaultParameters urdfArm
        (.configured Lift.defaultParameters : Lift.LiftController Lift.immediateGenerator)
        restingArm (reachCommand 100) 2 := by
  obtain ⟨s, hs, -, hadmits⟩ := Runs.reachable_of_run (Gateway.step launchParameters)
    (Gateway.System.init (millis 1)) alignedRun (admitsReach 100) (by decide +kernel)
  obtain ⟨hvalid, hstatus⟩ := Bool.and_eq_true_iff.mp hadmits
  have hrejected : (restingArm.applyHeavySetpoint urdfArm (Arm.HeavyArmSetpoint.ofCommand
      (forwardedCommand launchParameters (reachCommand 100) 2))).1 =
        .error "arm position exceeds URDF limit at index 0" := by decide +kernel
  refine ⟨s, hs, of_decide_eq_true hvalid, of_decide_eq_true hstatus, fun haccept => ?_⟩
  exact nomatch hrejected.symm.trans haccept.2

/-- At 1 rad all three validators agree. -/
theorem lowerControllersAccept_reach :
    ∃ s, Runs.exec (Gateway.step launchParameters) (Gateway.System.init (millis 1)) alignedRun =
        some s ∧
      validateCommandLocked launchParameters s.gateway (reachCommand 1) (millis 3) false =
        .ok () ∧
      (LowerControllersAccept launchParameters Lift.defaultParameters urdfArm
        (.configured Lift.defaultParameters : Lift.LiftController Lift.immediateGenerator)
        restingArm (reachCommand 1) 2 ↔ ArmWithinLimits urdfArm restingArm (reachCommand 1)) ∧
      ArmWithinLimits urdfArm restingArm (reachCommand 1) := by
  obtain ⟨s, hs, -, hadmits⟩ := Runs.reachable_of_run (Gateway.step launchParameters)
    (Gateway.System.init (millis 1)) alignedRun (admitsReach 1) (by decide +kernel)
  have hvalid := of_decide_eq_true (Bool.and_eq_true_iff.mp hadmits).1
  refine ⟨s, hs, hvalid, lowerControllersAccept_iff sameConfiguration_launch hvalid _ _ ?_, ?_⟩
  · decide
  · unfold ArmWithinLimits
    decide +kernel

end JointController
