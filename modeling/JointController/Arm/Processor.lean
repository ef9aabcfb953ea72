import JointController.Arm.LocalPlanners
import JointController.Hardware.Units

/-!
# The command processor of the arm controller

The whole `CommandProcessor_arm`: its control mode and its power, the commands that go through the
local planners, and the cycle that commands the joints.

* `Planners`: Ruckig, the polynomials of the CUBIC planner and the rounding to `float`.
* `Processor`: the fields behind those of `CommandProcessor`.
* `updateJointState`, `requestControlMode`, `requestPowerEnable`.
* `processNewCommand`, `processNewArmJointCommand`, `commandArmPlan`.
* `updateJointCommands`: the cycle.
-/

namespace JointController

namespace Arm

/-! ## Values -/

/-- What the planners compute. -/
structure Planners where
  otg : Ruckig
  quintic : QuinticArithmetic
  toFloat : Double → Double

/-- `static_cast<int>(std::llround(x))`, for a finite value. -/
def statusCode : Double → Option ℤ
  | .finite q => some ((Hardware.LiftUnitConfig.llround q).bmod (2 ^ 32))
  | _ => none

/-- `is_motor_enabled`. -/
def isMotorEnabled (status : Double) : Bool := statusCode status == some 39

/-- The status is known: it is finite, and it is not `kUnknownStatusCode`. -/
def isStatusAvailable (status : Double) : Bool :=
  match statusCode status with
  | none => false
  | some code => code != 0

/-- The feedback of a joint. -/
structure JointFeedback where
  position : Double
  velocity : Double
  status : Double

/-- `Robotarmservomsg`, with its stamp in nanoseconds. -/
structure ServoMessage where
  position : Joints Double
  runMode : ℤ
  runTime : Double
  stamp : ℕ

/-- `Robotarmjoint`. -/
structure ArmJointMessage where
  joint : Joints Double
  vel : Double
  acc : Double

/-- `HardwareCommandMode`, with the modes that the processor commands. -/
inductive HardwareCommandMode where
  | cubicPolynomial
  | ruckig
  | effort
  | externalPositionStream
  deriving DecidableEq

/-- What the cycle writes for a joint. -/
structure JointCommand where
  position : Double
  velocity : Double
  effort : Double
  powerEnable : Bool
  runMode : HardwareCommandMode
  deriving DecidableEq

/-- `0.002f`. -/
def cycleTime : ℚ := 8589935 / 2 ^ 32

/-- `3.14f`. -/
def ruckigMaxVelocity : Double := .finite (13170115 / 2 ^ 22)

/-- `M_PI`. -/
def mPi : Double := .finite (884279719003555 / 2 ^ 48)

/-- `GOAL_TOLERANCE`. -/
def goalTolerance : Double := .finite (1 / 100000)

/-- `RUCKIG_DISABLE_VEL_TOLERANCE`. -/
def ruckigDisableVelTolerance : Double := .finite (1 / 1000)

/-- `RUCKIG_DISABLE_ACC_TOLERANCE`. -/
def ruckigDisableAccTolerance : Double := .finite (1 / 2)

/-- `REPEATED_TARGET_DEADBAND`. -/
def repeatedTargetDeadband : Double := .finite (1 / 1000)

/-! ## Joint limits -/

/-- `clampPositionToArmJointLimit_`. -/
def ArmParameters.clampPosition (p : ArmParameters) (i : Fin 14) (position : Double) : Double :=
  let lower := p.model.lowerPositionLimitForArmJoint i
  let upper := p.model.upperPositionLimitForArmJoint i
  if !lower.isFinite || !upper.isFinite || decide (upper < lower) then position
  else position.clamp lower upper

/-- `constraints_list_`. -/
def ArmParameters.constraints (p : ArmParameters) (i : Fin 14) : MotionConstraints where
  maxVelocity := .finite 1
  maxAcceleration := .finite 5
  minPosition := p.model.lowerPositionLimitForArmJoint i
  maxPosition := p.model.upperPositionLimitForArmJoint i

/-! ## The processor -/

/-- `CommandProcessor_arm`. -/
structure Processor (e : Planners) extends CommandProcessor where
  powerEnabled : Bool
  allEnabled : Bool
  hardwareAvailable : Bool
  runTime : Double
  startTime : Double
  positionReentryTime : ℕ
  plannedTargetVelocity : Joints Double
  plannedTargetAcceleration : Joints Double
  inputJointPlan : InputParameter
  outputJointPlan : OutputParameter
  otgJointPlan : e.otg.State
  planner : MultiAxisCubicPlanner
  cubicPlannerInitialized : Bool

namespace Processor

variable {e : Planners} (p : ArmParameters) (a : Processor e)

/-- The measured pose. -/
def measured (i : Fin 14) : Double := (a.motorStateCurrent i).position

/-- The processor when it is made. -/
def initial (e : Planners) : Processor e where
  activeControlMode := .position
  positionControlState := .positionActive
  interpolationMode := .ruckig
  robotState := .idle
  externalPositionStreamActive := false
  positionTargetsInitialized := false
  holdActive := fun _ => false
  getPos := fun _ => 0
  externalStreamTarget := fun _ => ⟨0, 0, 0, 0⟩
  motorStateCurrent := fun _ => ⟨0, 0, 0, 0⟩
  motorStateDesired := fun _ => ⟨0, 0, 0, 0⟩
  powerEnabled := false
  allEnabled := false
  hardwareAvailable := false
  runTime := 0
  startTime := 0
  positionReentryTime := 0
  plannedTargetVelocity := fun _ => 0
  plannedTargetAcceleration := fun _ => 0
  inputJointPlan :=
    { currentPosition := fun _ => 0
      currentVelocity := fun _ => 0
      currentAcceleration := fun _ => 0
      targetPosition := fun _ => 0
      targetVelocity := fun _ => 0
      targetAcceleration := fun _ => 0
      maxVelocity := fun _ => ruckigMaxVelocity
      maxAcceleration := fun _ => .finite 60
      maxJerk := fun _ => .finite 60
      enabled := fun _ => true
      synchronization := .phase }
  outputJointPlan := ⟨fun _ => 0, fun _ => 0, fun _ => 0⟩
  otgJointPlan := e.otg.initial
  planner := .initial
  cubicPlannerInitialized := false

/-- `deactivateHoldAll`. -/
def deactivateHoldAll : Processor e :=
  { a with toCommandProcessor := a.toCommandProcessor.deactivateHoldAll }

/-! ### Targets at the measured pose -/

/-- `resetCubicPlannerToCurrent_`.  The axes of the planner go on with their motions. -/
def resetCubicPlannerToCurrent : Processor e :=
  { a with
    planner := { a.planner with endPos := some a.measured }
    cubicPlannerInitialized := false }

/-- `resetRuckigPlanToCurrent_`. -/
def resetRuckigPlanToCurrent : Processor e :=
  { a with
    plannedTargetVelocity := fun _ => 0
    plannedTargetAcceleration := fun _ => 0
    inputJointPlan :=
      { a.inputJointPlan with
        currentPosition := a.measured
        currentVelocity := fun _ => 0
        currentAcceleration := fun _ => 0
        targetPosition := a.measured
        targetVelocity := fun _ => 0
        targetAcceleration := fun _ => 0
        enabled := fun _ => true }
    outputJointPlan := ⟨a.measured, fun _ => 0, fun _ => 0⟩ }

/-- `syncPositionTargetsToCurrent_`. -/
def syncPositionTargetsToCurrent : Processor e :=
  let a := { a with toCommandProcessor := a.toCommandProcessor.syncPositionTargetsToCurrent }
  a.resetRuckigPlanToCurrent.resetCubicPlannerToCurrent

/-- `reset`. -/
def reset : Processor e :=
  let a :=
    { a with
      getPos := fun _ => 0
      powerEnabled := false
      hardwareAvailable := false
      positionTargetsInitialized := false
      externalPositionStreamActive := false
      runTime := 0
      interpolationMode := .ruckig
      activeControlMode := .position
      positionControlState := .positionActive
      positionReentryTime := 0 }
  a.resetCubicPlannerToCurrent.resetRuckigPlanToCurrent

/-! ### Feedback and requests -/

/-- `updateJointState`. -/
def updateJointState (feedback : Joints JointFeedback) : Processor e :=
  let available := decide (∀ i, isStatusAvailable (feedback i).status = true)
  { a with
    motorStateCurrent := fun i =>
      { a.motorStateCurrent i with
        position := (feedback i).position
        velocity := (feedback i).velocity
        acceleration :=
          ((feedback i).velocity - (a.motorStateCurrent i).velocity) * .finite cycleTime⁻¹ }
    allEnabled := decide (∀ i, isMotorEnabled (feedback i).status = true)
    hardwareAvailable := available
    powerEnabled := a.powerEnabled && available }

/-- `requestControlMode`, at a time. -/
def requestControlMode (mode : ControlMode) (now : ℕ) : Processor e :=
  match mode with
  | .effort =>
    if a.activeControlMode = .effort ∧ a.positionControlState = .effortActive then a
    else
      { a.deactivateHoldAll with
        activeControlMode := .effort
        positionControlState := .effortActive
        robotState := .stopped }
  | .position =>
    if a.activeControlMode = .position ∧ a.positionControlState = .positionActive then a
    else
      { { a with activeControlMode := .position }.syncPositionTargetsToCurrent with
        positionReentryTime := now
        positionControlState := .effortToPositionHold
        robotState := .stopped }

/-- The desired state of a joint is the measured position, at rest. -/
def desireMeasured : Processor e :=
  { a with motorStateDesired := fun i => ⟨a.measured i, 0, 0, 0⟩ }

/-- `requestPowerEnable`. -/
def requestPowerEnable (enable : Bool) : Processor e :=
  if a.powerEnabled = enable then a
  else
    let a := { a with powerEnabled := enable }
    if enable then a
    else
      { ({ a with positionTargetsInitialized := false }.deactivateHoldAll).desireMeasured with
        robotState := .stopped }

/-! ### Heavy commands -/

/-- `processHeavyPositionCommand`. -/
def processHeavyPositionCommand (s : HeavyArmSetpoint) : Except String Unit × Processor e :=
  let r := a.toCommandProcessor.processHeavyPositionCommand p s
  (r.1, { a with toCommandProcessor := r.2 })

/-- `processHeavyHoldPositionCommand`. -/
def processHeavyHoldPositionCommand (position : Joints Double) :
    Except String Unit × Processor e :=
  let r := a.toCommandProcessor.processHeavyHoldPositionCommand p position
  (r.1, { a with toCommandProcessor := r.2 })

/-- `requestPositionHold`. -/
def requestPositionHold : Bool × Processor e :=
  let r := a.toCommandProcessor.requestPositionHold
  let a := { a with toCommandProcessor := r.2 }
  (r.1, if r.1 then a.resetRuckigPlanToCurrent.resetCubicPlannerToCurrent else a)

/-- `clearHeavyPositionStream`. -/
def clearHeavyPositionStream : Processor e := { a with externalPositionStreamActive := false }

/-! ### Commands for the local planners -/

/-- The limits of the Ruckig plan. -/
def setRuckigLimits (velocity acceleration jerk : Double) : Processor e :=
  { a with inputJointPlan :=
    { a.inputJointPlan with
      maxVelocity := fun _ => velocity
      maxAcceleration := fun _ => acceleration
      maxJerk := fun _ => jerk } }

/-- `updateInterpolationModeFromMsg_`. -/
def updateInterpolationMode (runMode : ℤ) : Bool × Processor e :=
  let previous := a.interpolationMode
  let ruckig := fun (s : Synchronization) =>
    let a := a.setRuckigLimits ruckigMaxVelocity (.finite 30) (.finite 40)
    { a with
      interpolationMode := .ruckig
      inputJointPlan := { a.inputJointPlan with synchronization := s } }
  if runMode = 0 then
    (previous != .cubicPolynomial, { a with interpolationMode := .cubicPolynomial })
  else if runMode = 1 then (previous != .ruckig, ruckig .none)
  else if runMode = 2 then (previous != .ruckig, ruckig .phase)
  else (false, a)

/-- `isFreshPositionStamp_`. -/
def isFreshPositionStamp (stamp : ℕ) : Bool :=
  decide (0 < stamp ∧ a.positionReentryTime < stamp)

/-- No position command is taken in EFFORT mode, or in the cycle of the way back from it. -/
def refusesPosition : Bool :=
  a.activeControlMode == .effort || a.positionControlState == .effortToPositionHold

/-- A command after the way back from EFFORT. -/
def endWait : Processor e :=
  { a with
    positionControlState :=
      if a.positionControlState = .waitFreshPositionTarget then .positionActive
      else a.positionControlState }

/-- A servo command is refused: there is no position control, or its stamp is too old. -/
def refusesServo (m : ServoMessage) : Bool :=
  a.refusesPosition ||
    (a.positionControlState == .waitFreshPositionTarget && !a.isFreshPositionStamp m.stamp)

/-- `processNewCommand`. -/
def processNewCommand (m : ServoMessage) : Bool × Processor e :=
  let a := { a with externalPositionStreamActive := false }
  if a.refusesServo m then (false, a)
  else
    let target := fun i => p.clampPosition i (m.position i)
    let targetChanged := decide (∃ i, repeatedTargetDeadband ≤ (target i - a.getPos i).abs)
    let runTimeChanged := decide (.finite (1 / 10 ^ 9) < (m.runTime - a.runTime).abs)
    let r := { a with runTime := m.runTime }.updateInterpolationMode m.runMode
    let a := r.2.deactivateHoldAll.endWait
    if targetChanged || r.1 || runTimeChanged then
      (true,
        { a with
          inputJointPlan := { a.inputJointPlan with enabled := fun _ => true }
          getPos := target
          positionTargetsInitialized := true })
    else (false, a)

/-- `processNewArmJointCommand`. -/
def processNewArmJointCommand (m : ArmJointMessage) : Bool × Processor e :=
  if a.refusesPosition then (false, a)
  else
    let target := fun i => p.clampPosition i (m.joint i)
    let a := a.deactivateHoldAll.endWait
    let a := a.setRuckigLimits (e.toFloat m.vel) (e.toFloat m.acc) (e.toFloat m.acc)
    (true,
      { a with
        interpolationMode := .ruckig
        plannedTargetVelocity := fun _ => 0
        plannedTargetAcceleration := fun _ => 0
        inputJointPlan :=
          { a.inputJointPlan with
            targetPosition := target
            targetVelocity := fun _ => 0
            targetAcceleration := fun _ => 0
            enabled := fun _ => true }
        getPos := target
        positionTargetsInitialized := true })

/-- `wrappedAbsPositionError_`. -/
def wrappedAbsPositionError (current target : Double) : Double :=
  let error := (current - target).abs
  if mPi < error then .finite 2 * mPi - error else error

/-- `shouldDisableRuckigAxis_`. -/
def shouldDisableRuckigAxis (i : Fin 14) (target : Double) : Bool :=
  decide (wrappedAbsPositionError (a.measured i) target ≤ goalTolerance ∧
    (a.motorStateCurrent i).velocity.abs ≤ ruckigDisableVelTolerance ∧
    (a.motorStateCurrent i).acceleration.abs ≤ ruckigDisableAccTolerance)

/-- The RUCKIG part of `command_arm_plan`: a joint at its target is left out. -/
def planRuckig : Processor e :=
  let disabled := fun i => a.shouldDisableRuckigAxis i (a.getPos i)
  let desired := a.motorStateDesired
  { a with inputJointPlan :=
    { a.inputJointPlan with
      enabled := fun i => !disabled i
      currentPosition := fun i => if disabled i then a.measured i else (desired i).position
      currentVelocity := fun i => if disabled i then 0 else (desired i).velocity
      currentAcceleration := fun i => if disabled i then 0 else (desired i).acceleration
      targetPosition := fun i => if disabled i then a.measured i else a.getPos i
      targetVelocity := fun i => if disabled i then 0 else a.plannedTargetVelocity i
      targetAcceleration := fun i => if disabled i then 0 else a.plannedTargetAcceleration i } }

/-- The planner has planned for other positions. -/
def cubicTargetChanged : Bool :=
  match a.planner.endPos with
  | none => true
  | some endPos => decide (∃ i, .finite (1 / 1000) < (a.getPos i - endPos i).abs)

/-- The CUBIC part of `command_arm_plan`. -/
def planCubic (time : Double) : Processor e :=
  if a.cubicTargetChanged then
    let motions := fun i =>
      ⟨a.measured i, (a.motorStateCurrent i).velocity, a.getPos i, 0⟩
    { a with
      planner :=
        { a.planner.plan e.quintic p.constraints motions a.runTime with endPos := some a.getPos }
      startTime := time
      cubicPlannerInitialized := true }
  else a

/-- `command_arm_plan`. -/
def commandArmPlan (time : Double) : Processor e :=
  if a.activeControlMode ≠ .position ∨ a.positionControlState ≠ .positionActive then a
  else if ∃ i, a.getPos i = .nan then a
  else
    match a.interpolationMode with
    | .ruckig => a.planRuckig
    | .cubicPolynomial => a.planCubic p time

/-! ### The cycle -/

/-- `currentHardwareCommandMode_`. -/
def currentHardwareCommandMode : HardwareCommandMode :=
  if a.activeControlMode = .effort then .effort
  else if a.externalPositionStreamActive then .externalPositionStream
  else
    match a.interpolationMode with
    | .ruckig => .ruckig
    | .cubicPolynomial => .cubicPolynomial

/-- `computeAndLogArmTorques_`. -/
def computeArmTorques : Processor e :=
  { a with motorStateDesired := fun i => { a.motorStateDesired i with effort := 0 } }

/-- The joints are to be at positions, at rest. -/
def desire (position : Joints Double) (state : RobotState) : Processor e :=
  { a with
    motorStateDesired := fun i =>
      { a.motorStateDesired i with position := position i, velocity := 0, acceleration := 0 }
    robotState := state }

/-- The RUCKIG branch of the cycle. -/
def executeRuckig : Processor e :=
  let a := { a with robotState := .executingJoint }
  match e.otg.update a.otgJointPlan a.inputJointPlan a.outputJointPlan with
  | (.working, output, otg) =>
    { a with
      motorStateDesired := fun i =>
        { a.motorStateDesired i with
          position := output.newPosition i
          velocity := output.newVelocity i
          acceleration := output.newAcceleration i }
      inputJointPlan := output.passToInput a.inputJointPlan
      outputJointPlan := output
      otgJointPlan := otg }
  | (.finished, output, otg) =>
    let target := a.inputJointPlan.targetPosition
    let a := a.desire target .stopped
    { a with
      inputJointPlan :=
        { a.inputJointPlan with
          currentPosition := target
          currentVelocity := fun _ => 0
          currentAcceleration := fun _ => 0
          targetVelocity := fun _ => 0
          targetAcceleration := fun _ => 0
          enabled := fun _ => false }
      outputJointPlan := output
      otgJointPlan := otg }
  | (.error, output, otg) => { a with outputJointPlan := output, otgJointPlan := otg }

/-- The CUBIC branch of the cycle. -/
def executeCubic (now : Double) : Processor e :=
  if !a.planner.allAxesStopped then
    let a :=
      if a.cubicPlannerInitialized then
        { a with startTime := now, cubicPlannerInitialized := false }
      else a
    let r := a.planner.update e.quintic (now - a.startTime)
    { a with
      motorStateDesired := fun i =>
        { a.motorStateDesired i with
          position := (r.1 i).position
          velocity := (r.1 i).velocity
          acceleration := (r.1 i).acceleration }
      planner := r.2
      robotState := .executingJoint }
  else a.desire a.getPos .stopped

/-- Targets have to be taken from the measured pose. -/
def seats : Bool := a.activeControlMode == .position && !a.positionTargetsInitialized

/-- The targets that the cycle executes. -/
def executeTargets (seated : Bool) (now : Double) : Processor e :=
  if a.activeControlMode = .effort then { a with robotState := .stopped }
  else if seated then a.desire a.getPos .stopped
  else if a.externalPositionStreamActive then
    { a with motorStateDesired := a.externalStreamTarget, robotState := .executingJoint }
  else if a.positionControlState = .effortToPositionHold ∨
      a.positionControlState = .waitFreshPositionTarget then
    a.desire a.getPos .stopped
  else
    match a.interpolationMode with
    | .ruckig => a.executeRuckig
    | .cubicPolynomial => a.executeCubic now

/-- The cycle with execution. -/
def execute (now : Double) : Processor e :=
  (if a.seats then a.syncPositionTargetsToCurrent else a).executeTargets a.seats now

/-- The cycle without execution. -/
def refuseExecution : Processor e :=
  { ({ a with positionTargetsInitialized := false }).desireMeasured with robotState := .stopped }

/-- `transitionPositionHoldToWait_`. -/
def transitionPositionHoldToWait : Processor e :=
  { a with
    positionControlState :=
      if a.positionControlState = .effortToPositionHold then .waitFreshPositionTarget
      else a.positionControlState }

/-- What the cycle writes for a joint. -/
def jointCommand (mode : HardwareCommandMode) (i : Fin 14) : JointCommand :=
  if a.activeControlMode = .effort then
    ⟨a.measured i, (a.motorStateCurrent i).velocity, (a.motorStateDesired i).effort,
      a.powerEnabled, mode⟩
  else
    ⟨(a.motorStateDesired i).position, (a.motorStateDesired i).velocity,
      (a.motorStateDesired i).effort, a.powerEnabled, mode⟩

/-- The drives are enabled, or a lease of the simulation moves them anyway. -/
def executionAllowed (simulated : Bool) : Bool := a.allEnabled || simulated

/-- `updateJointCommands`, with what it writes. -/
def updateJointCommands (simulated : Bool) (now : Double) : Processor e × Joints JointCommand :=
  let mode := a.currentHardwareCommandMode
  let a := a.computeArmTorques
  let a := if a.executionAllowed simulated then a.execute now else a.refuseExecution
  (a.transitionPositionHoldToWait, a.jointCommand mode)

end Processor

end Arm

end JointController
