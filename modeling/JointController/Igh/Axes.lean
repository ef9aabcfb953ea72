import JointController.Library.SignedWords
import Mathlib.Data.Fintype.Basic

/-!
# The axes of the EtherCAT driver

What a cycle of the driver reads and writes for each axis, and its questions about the feedback.

* `Setup`: the drives that the bus scan has found.
* `Feedback`, `Input`: the feedback of a cycle and the commands of the application.
* `AxisCommand`, `PdoOutput`: the command of an axis, and what of it goes into the process data.
* `checkAnyAxisFault`, `areAllModeSwitchAxesOperationEnabled` and the others: questions about the
  feedback of a cycle.
* `axisCtrwordStateChage`, `axisModeStateChage`: the state machines of an axis.
-/

namespace JointController

namespace Igh

/-! ## Constants -/

/-- `kMaxZeroAxisCount` axes. -/
abbrev Axis := Fin 16

instance instNeZeroAxis : @NeZero ℕ Zero.ofOfNat0 16 := ⟨by decide⟩

/-- `kModeSwitchAxisCount`. -/
def kModeSwitchAxisCount : ℕ := 14

/-- `FREQUENCY`. -/
def frequency : ℕ := 1000

/-- `AXIS_MODE_CSP`. -/
def axisModeCsp : UInt8 := 0x08

/-- `AXIS_MODE_CSV`. -/
def axisModeCsv : UInt8 := 0x09

/-- `AXIS_MODE_CST`. -/
def axisModeCst : UInt8 := 0x0A

/-- `AXIS_STATUES_ERR`. -/
def axisStatuesErr : UInt16 := 0x08

/-- `STATE_FAULT`. -/
def stateFault : UInt16 := 0x0008

/-- `STATE_SWITCH_ON_DISABLED`. -/
def stateSwitchOnDisabled : UInt16 := 0x0040

/-- `STATE_READY_TO_SWITCH_ON`. -/
def stateReadyToSwitchOn : UInt16 := 0x0021

/-- `STATE_SWITCHED_ON`. -/
def stateSwitchedOn : UInt16 := 0x0023

/-- `STATE_OPERATION_ENABLED`. -/
def stateOperationEnabled : UInt16 := 0x0027

/-- `CONTROL_WORD_SHUTDOWN`. -/
def controlWordShutdown : UInt8 := 0x06

/-- `CONTROL_WORD_SWITCH_ON`. -/
def controlWordSwitchOn : UInt8 := 0x07

/-- `CONTROL_WORD_ENABLE_OPERATION`. -/
def controlWordEnableOperation : UInt8 := 0x0F

/-- `CONTROL_WORD_FAULT_RESET`. -/
def controlWordFaultReset : UInt8 := 0x80

/-- `kStandstillVelocityThreshold`. -/
def kStandstillVelocityThreshold : Int32 := 100

/-- `CSP_REENTRY_COMMAND_WINDOW`. -/
def cspReentryCommandWindow : Int32 := 500

/-! ## Drives -/

/-- `DriveRuntimeProfile`. -/
inductive DriveRuntimeProfile where
  | none
  | zeroLegacy
  | zeroEyou
  | eyouPh
  deriving DecidableEq

namespace DriveRuntimeProfile

/-- `supports_cst` of the drive profiles. -/
def supportsCst : DriveRuntimeProfile → Bool
  | none => false
  | zeroLegacy => true
  | zeroEyou => true
  | eyouPh => true

/-- The profile has a target velocity. -/
def hasTargetVelocity : DriveRuntimeProfile → Bool
  | zeroLegacy => true
  | eyouPh => true
  | _ => false

/-- The digital outputs of the profile are registered. -/
def hasDigitalOutput : DriveRuntimeProfile → Bool
  | zeroEyou => true
  | _ => false

end DriveRuntimeProfile

/-- What the initialization has found: the profile of each axis, and the axes of both masters in the
order of their slaves.  A second slave with the alias of an axis is skipped. -/
structure Setup where
  profile : Axis → DriveRuntimeProfile
  order : List Axis
  nodup : order.Nodup
  mem_order : ∀ a, a ∈ order ↔ profile a ≠ .none

namespace Setup

variable (cfg : Setup) (a : Axis)

/-- `IsAxisConfigured`. -/
def isAxisConfigured : Bool := cfg.profile a != .none

/-- `mode_switch_axis_configured`, which `IsCstModeSwitchAxis` asks for. -/
def isModeSwitchAxis : Bool := decide (a.val < kModeSwitchAxisCount) && (cfg.profile a).supportsCst

/-- `IsEyouPhModeSwitchAxis`. -/
def isEyouPhModeSwitchAxis : Bool := cfg.isModeSwitchAxis a && cfg.profile a == .eyouPh

/-- `HasAnyEyouPhModeSwitchAxis`. -/
def hasAnyEyouPhModeSwitchAxis : Bool := decide (∃ a, cfg.isEyouPhModeSwitchAxis a = true)

variable {cfg a} in
/-- A mode switch axis is configured. -/
theorem mem_order_of_modeSwitch (ha : cfg.isModeSwitchAxis a = true) : a ∈ cfg.order := by
  rw [cfg.mem_order]
  intro hnone
  unfold isModeSwitchAxis at ha
  rw [hnone, Bool.and_eq_true] at ha
  exact Bool.false_ne_true ha.2

end Setup

/-! ## Feedback and commands -/

/-- The feedback of an axis: `act_pos`, `act_vel`, `mode_word`, `status_word` and
`axis_error_code` of the cycle cache. -/
structure Feedback where
  actPos : Int32
  actVel : Int32
  modeWord : UInt8
  statusWord : UInt16
  axisErrorCode : UInt16
  deriving DecidableEq

/-- `getDriveState`. -/
def Feedback.state (f : Feedback) : UInt16 := f.statusWord &&& 0x6F

/-- `ec_app_axis_read_reg_t`, without the counter and the checksum. -/
structure AxisCommand where
  ecMode : UInt8
  ecCtrword : UInt8
  axisPosition : Int32
  axisVelocity : Int32
  axisEffort : Int32
  deriving DecidableEq

/-- `ec_app_read_reg_t`: the commands of the application. -/
structure AppCommands where
  ecPoweron : UInt8
  axisCtr : Axis → AxisCommand

/-- What a cycle finds: the feedback of the configured axes and the commands in shared memory. -/
structure Input where
  feedback : Axis → Feedback
  desire : AppCommands

/-- What `WriteAxisCommandToDomain` puts into the process data of an axis. -/
structure PdoOutput where
  operationMode : UInt8
  controlword : UInt16
  digitalOutput : Option UInt32
  targetTorque : Int16
  targetVelocity : Option Int32
  targetPosition : Int32
  deriving DecidableEq

/-- `axis_mode_states`. -/
inductive AxisModeState where
  | init
  | busy
  | success
  deriving DecidableEq

/-! ## Questions about the feedback -/

section

variable (cfg : Setup) (feedback : Axis → Feedback)

/-- `IsAxisFaulted`, where the published state is the one of the feedback. -/
def isAxisFaulted (f : Feedback) : Bool :=
  f.statusWord &&& axisStatuesErr != 0 || f.axisErrorCode != 0 ||
    f.state &&& axisStatuesErr != 0

/-- `CheckAnyAxisFault`. -/
def checkAnyAxisFault : Bool :=
  decide (∃ a, cfg.isAxisConfigured a = true ∧ isAxisFaulted (feedback a) = true)

/-- A question that all configured axes of the arm group answer with yes. -/
def allModeSwitchAxes (question : Axis → Bool) : Bool :=
  decide (∀ a, cfg.isModeSwitchAxis a = true → question a = true)

theorem allModeSwitchAxes_eq_true {question : Axis → Bool} :
    allModeSwitchAxes cfg question = true ↔
      ∀ a, cfg.isModeSwitchAxis a = true → question a = true :=
  decide_eq_true_iff

/-- `AreAllModeSwitchAxesOperationEnabled`. -/
def areAllModeSwitchAxesOperationEnabled : Bool :=
  allModeSwitchAxes cfg fun a => (feedback a).state == stateOperationEnabled

/-- `AreAllModeSwitchAxesInMode`. -/
def areAllModeSwitchAxesInMode (mode : UInt8) : Bool :=
  allModeSwitchAxes cfg fun a => (feedback a).modeWord == mode

/-- `IsAxisStandstill`. -/
def isAxisStandstill (f : Feedback) : Bool :=
  decide (SignedWords.abs32 f.actVel < kStandstillVelocityThreshold)

/-- `AreAllModeSwitchAxesStandstill`. -/
def areAllModeSwitchAxesStandstill : Bool :=
  allModeSwitchAxes cfg fun a => isAxisStandstill (feedback a)

/-- `AreAllModeSwitchAxesDesiredPositionsWithinWindow`. -/
def areAllModeSwitchAxesDesiredPositionsWithinWindow (desire : AppCommands)
    (holdPosition : Axis → Option Int32) : Bool :=
  allModeSwitchAxes cfg fun a => (holdPosition a).any fun hold =>
    decide (SignedWords.abs32 ((desire.axisCtr a).axisPosition - hold) ≤ cspReentryCommandWindow)

end

/-! ## The state machines of an axis -/

/-- `axis_ctrword_state_chage`. -/
def axisCtrwordStateChage (ctrstate : UInt16) : UInt8 :=
  if ctrstate = stateFault then controlWordFaultReset
  else if ctrstate = stateSwitchOnDisabled then controlWordShutdown
  else if ctrstate = stateReadyToSwitchOn then controlWordSwitchOn
  else if ctrstate = stateSwitchedOn then controlWordEnableOperation
  else if ctrstate = stateOperationEnabled then controlWordEnableOperation
  else controlWordShutdown

/-- `axis_mode_state_chage` in the modes that the driver calls it with: what becomes of the command
and of the mode state. -/
def axisModeStateChage (f : Feedback) (mode : UInt8) (target : Int32) (command : AxisCommand) :
    AxisCommand × AxisModeState :=
  if mode = axisModeCst then
    if f.modeWord = axisModeCst then (command, .success)
    else ({ command with ecMode := axisModeCst }, .busy)
  else
    if f.modeWord = axisModeCsp then
      ({ command with
        axisPosition := if f.state ≠ stateOperationEnabled then f.actPos else target }, .success)
    else ({ command with ecMode := axisModeCsp, axisPosition := f.actPos }, .busy)

/-- `ApplyAxisEnableGate`. -/
def applyAxisEnableGate (powerOnRequested : Bool) (f : Feedback) : UInt8 :=
  if powerOnRequested then axisCtrwordStateChage f.state else controlWordShutdown

/-- `WriteAxisCommandToDomain`.  The offsets of velocity and torque are never registered. -/
def writeAxisCommandToDomain (profile : DriveRuntimeProfile) (command : AxisCommand)
    (mode : AxisModeState) : PdoOutput where
  operationMode := command.ecMode
  controlword := command.ecCtrword.toUInt16
  digitalOutput := if profile.hasDigitalOutput then some 0 else none
  targetTorque := command.axisEffort.toInt16
  targetVelocity :=
    if profile.hasTargetVelocity then
      some (if mode = .success ∧ command.ecMode = axisModeCsv then command.axisVelocity else 0)
    else none
  targetPosition := command.axisPosition

/-! ## What they give -/

/-- The control words that enable a drive or reset its fault. -/
def Energizes (controlword : UInt16) : Prop :=
  controlword = 0x0007 ∨ controlword = 0x000F ∨ controlword = 0x0080

instance (controlword : UInt16) : Decidable (Energizes controlword) :=
  inferInstanceAs (Decidable (_ ∨ _ ∨ _))

theorem not_energizes_shutdown : ¬ Energizes controlWordShutdown.toUInt16 := by decide

/-- The enable gate energizes an axis only when power is requested. -/
theorem powerOnRequested_of_energizes {powerOnRequested : Bool} {f : Feedback}
    (h : Energizes (applyAxisEnableGate powerOnRequested f).toUInt16) :
    powerOnRequested = true := by
  cases powerOnRequested with
  | true => rfl
  | false => exact (not_energizes_shutdown h).elim

theorem ecCtrword_axisModeStateChage (f : Feedback) (mode : UInt8) (target : Int32)
    (command : AxisCommand) :
    (axisModeStateChage f mode target command).1.ecCtrword = command.ecCtrword := by
  unfold axisModeStateChage
  split_ifs <;> rfl

/-- In CSP the position of an axis is the target, or the measured one when the drive is not in CSP
or not enabled. -/
theorem axisPosition_axisModeStateChage (f : Feedback) (target : Int32) (command : AxisCommand) :
    (axisModeStateChage f axisModeCsp target command).1.axisPosition =
      if f.modeWord = axisModeCsp ∧ f.state = stateOperationEnabled then target else f.actPos := by
  have hmode : axisModeCsp ≠ axisModeCst := by decide
  unfold axisModeStateChage
  rw [if_neg hmode]
  by_cases hcsp : f.modeWord = axisModeCsp
  · by_cases henabled : f.state = stateOperationEnabled
    · simp [hcsp, henabled]
    · simp [hcsp, henabled]
  · simp [hcsp]

/-- In CST the position is left alone. -/
theorem axisPosition_axisModeStateChage_cst (f : Feedback) (target : Int32)
    (command : AxisCommand) :
    (axisModeStateChage f axisModeCst target command).1.axisPosition = command.axisPosition := by
  unfold axisModeStateChage
  rw [if_pos rfl]
  split_ifs <;> rfl

end Igh

end JointController
