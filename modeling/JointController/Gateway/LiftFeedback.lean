import JointController.Contract
import JointController.Gateway.LiftStatusParser
import JointController.Power.Service

/-!
# The lift feedback of the lower gateway

`RobotLowerGatewayNode` keeps the last status of the lift driver, of the lift controller and of the
lift joint.  They are dropped when the workspace stops.

* `Channel`: the last message of one topic, and whether it could be read.
* `LiftFeedback`: the members behind `lift_feedback_mutex_`, with the callbacks of the topics.
* `LiftFeedback.liftCommandPreconditionsMet`: whether the lift may be powered and moved now.
* `LiftFeedback.matchesPowerState`: whether a newer status shows the lift powered, or not powered.

Times are in nanoseconds.  The time-outs, which the node keeps in seconds, are taken exactly, and
the generations do not wrap around.
-/

open Checks

namespace JointController

namespace Gateway

namespace Proxy

open LiftStatusParser

/-! ## Channels -/

/-- The last message of a topic that could be read, and whether one has arrived, the last one could
be read, why not, and when it arrived. -/
structure Channel (α : Type) where
  value : α
  received : Bool
  valid : Bool
  error : String
  time : ℤ

namespace Channel

variable {α : Type} (c : Channel α)

/-- A channel without messages. -/
def empty (value : α) : Channel α := ⟨value, false, false, "", 0⟩

/-- A message arrives. -/
def record (now : ℤ) : Except String α → Channel α
  | .ok value => ⟨value, true, true, "", now⟩
  | .error error => ⟨c.value, true, false, error, now⟩

/-- The last message is older than a time-out. -/
def Late (now timeout : ℤ) : Prop := timeout < now - c.time

instance (now timeout : ℤ) : Decidable (c.Late now timeout) := inferInstanceAs (Decidable (_ < _))

/-- The last message could be read and is not older than a time-out. -/
def fresh (now timeout : ℤ) : Bool := c.received && c.valid && decide (¬ c.Late now timeout)

/-- What is wrong with a channel. -/
def issues (name : String) (now timeout : ℤ) : List String :=
  if ¬ c.received then [name ++ " waiting"]
  else if ¬ c.valid then [name ++ " invalid: " ++ c.error]
  else if c.Late now timeout then [name ++ " stale"]
  else []

end Channel

/-! ## Feedback -/

/-- The position of the lift joint, and its velocity if the message has one. -/
structure LiftJoint where
  position : Double
  velocity : Option Double

/-- What is read from a joint state. -/
def readLiftJoint (nativeLiftJointName : String) (message : JointState) :
    Except String LiftJoint :=
  let index := message.name.idxOf nativeLiftJointName
  if nativeLiftJointName ∉ message.name then
    .error "native lift joint is missing from joint state"
  else if nativeLiftJointName ∈ message.name.drop (index + 1) then
    .error "native lift joint is duplicated in joint state"
  else if ¬ (message.position.getD index .nan).isFinite then
    .error "native lift position is missing or non-finite"
  else if message.velocity ≠ [] ∧ ¬ (message.velocity.getD index .nan).isFinite then
    .error "native lift velocity is incomplete or non-finite"
  else
    .ok ⟨message.position.getD index .nan, message.velocity[index]?⟩

/-- `LiftDriverStatus{}`. -/
def noDriverStatus : LiftDriverStatus where
  feedbackFresh := false
  ethercatOperational := false
  workingCounter := 0
  workingCounterOk := false
  initialized := false
  cia402State := ""
  statusWord := 0
  errorCode := 0
  modeDisplay := 0
  commandEnabled := false
  enabled := false
  brakeUnlocked := false
  estopLatched := false
  motionBlocked := false
  quickStopActive := false
  position := 0
  velocity := 0
  commandPosition := 0
  commandVelocity := 0
  commandAcceleration := 0
  pdoTargetAvailable := false
  targetRpm := 0
  targetVelocityUnits := 0
  velocityModeActive := false
  faultReason := ""

/-- `LiftControlStatus{}`. -/
def noControlStatus : LiftControlStatus := ⟨"", "", false, false⟩

/-- The time-outs of the node in milliseconds, and the names of the lift joint. -/
structure LiftParameters where
  statusStaleMs : ℤ
  jointStateStaleMs : ℤ
  liftJointName : String
  nativeLiftJointName : String

/-- The members behind `lift_feedback_mutex_`. -/
structure LiftFeedback where
  driver : Channel LiftDriverStatus
  control : Channel LiftControlStatus
  joint : Channel LiftJoint
  driverStatusGeneration : ℕ
  workspaceState : Option WorkspaceState

namespace LiftFeedback

variable (cfg : LiftParameters) (f : LiftFeedback) (now : ℤ)

/-- The feedback of a node that has just started. -/
def empty : LiftFeedback where
  driver := .empty noDriverStatus
  control := .empty noControlStatus
  joint := .empty ⟨0, none⟩
  driverStatusGeneration := 0
  workspaceState := none

/-- The callback of `/joint/lift/driver_status`. -/
def receiveDriverStatus (parsed : Except String LiftDriverStatus) : LiftFeedback :=
  { f with
    driver := f.driver.record now parsed
    driverStatusGeneration := f.driverStatusGeneration + 1 }

/-- The callback of `/joint/lift/control_status`. -/
def receiveControlStatus (parsed : Except String LiftControlStatus) : LiftFeedback :=
  { f with control := f.control.record now parsed }

/-- The callback of `/lift/joint_states`. -/
def receiveJointState (message : JointState) : LiftFeedback :=
  { f with joint := f.joint.record now (readLiftJoint cfg.nativeLiftJointName message) }

/-- The callback of `/workspace/status`.  The feedback is dropped when the workspace has come to a
stop. -/
def receiveWorkspaceStatus (state : WorkspaceState) : LiftFeedback :=
  if state = .stopped ∧ f.workspaceState ≠ some .stopped then
    { empty with
      driverStatusGeneration := f.driverStatusGeneration + 1
      workspaceState := some state }
  else { f with workspaceState := some state }

/-- The workspace is known to be running. -/
def workspaceRunning : Bool := f.workspaceState == some .running

/-! ## The checks -/

/-- `liftCommandPreconditionsMet`. -/
def liftCommandPreconditionsMet : Except String Unit := do
  refuse (¬ f.driver.received ∨ ¬ f.driver.valid) "lift command requires valid driver status"
  refuse (f.driver.Late now (Power.milliseconds cfg.statusStaleMs))
    "lift command requires fresh driver status"
  refuse (¬ f.control.fresh now (Power.milliseconds cfg.statusStaleMs))
    "lift command requires fresh controller status"
  refuse (¬ f.joint.fresh now (Power.milliseconds cfg.jointStateStaleMs))
    "lift command requires fresh joint_motor feedback"
  f.driver.value.liftEnablePreconditionsMet f.workspaceRunning
  refuse (f.control.value.mode = "fault" ∨ f.control.value.mode = "estop")
    ("lift command rejected while controller_mode=" ++ f.control.value.mode)

/-- The condition that `waitForLiftPowerState` waits for. -/
def matchesPowerState (enabled : Bool) (generationBefore : ℕ) : Bool :=
  decide (generationBefore < f.driverStatusGeneration) && f.driver.valid &&
    f.driver.value.liftPowerStateMatches enabled

/-- The description that `waitForLiftPowerState` gives. -/
def description : String :=
  let status := f.driver.value
  "generation=" ++ toString f.driverStatusGeneration ++
    " valid=" ++ LiftDriverStatus.flagText f.driver.valid ++
    " command_enabled=" ++ LiftDriverStatus.flagText status.commandEnabled ++
    " enabled=" ++ LiftDriverStatus.flagText status.enabled ++
    " brake_unlocked=" ++ LiftDriverStatus.flagText status.brakeUnlocked ++
    " cia402_state=" ++ status.cia402State ++
    " status_word=" ++ toString status.statusWord.toNat ++
    " error_code=" ++ toString status.errorCode.toNat ++
    (if f.driver.error = "" then "" else " parser_error='" ++ f.driver.error ++ "'")

end LiftFeedback

end Proxy

end Gateway

end JointController
