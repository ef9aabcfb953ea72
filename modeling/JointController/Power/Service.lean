import Mathlib.Data.Int.Notation
import Mathlib.Data.Nat.Notation

/-!
# The robot power service

`RobotPowerServiceNode`: a request to enable or disable the arms publishes a command and waits for
the power status of the arms to confirm it.  When an enable is not confirmed it publishes a disable
command, and waits for that to be confirmed.

* `ArmPowerStatus`: the status of the drives, with the texts of the service about it.
* `Phase`: where the callback of the service is between two of its steps.
* `PowerService`: the members of the node, the clock and the phase.
* `PowerService.handleServiceRequest`: the checks of a request, up to its command.
* `PowerService.look`, `PowerService.confirm`: one pass of the wait of a request, and of a rollback.
* `PowerService.transition`: one atomic step of one of the two callback threads.

Statuses arrive at any time outside the locked sections of the service.  A command is published when
it is handed to the publisher.  Times are in nanoseconds.
-/

namespace JointController

namespace Power

/-! ## The status of the drives -/

/-- `kUnknownStatusCode`. -/
def kUnknownStatusCode : Int32 := 0

/-- `ArmPowerStatus`, without its time stamp. -/
structure ArmPowerStatus where
  jointNames : List String
  statusCodes : List Int32
  enabled : List Bool
  commandEnabled : Bool
  allEnabled : Bool
  message : String
  deriving DecidableEq

/-- A truth value in a text. -/
def boolText (b : Bool) : String := if b then "true" else "false"

namespace ArmPowerStatus

/-- A status that was never received. -/
def empty : ArmPowerStatus := ⟨[], [], [], false, false, ""⟩

variable (status : ArmPowerStatus)

/-- `status_shape_valid`. -/
def statusShapeValid : Bool :=
  status.jointNames.length == 14 && status.statusCodes.length == 14 && status.enabled.length == 14

/-- The error of `status_shape_valid`. -/
def shapeError : String :=
  "invalid /arm/power_status array sizes: names=" ++ toString status.jointNames.length ++
    ", status_codes=" ++ toString status.statusCodes.length ++
    ", enabled=" ++ toString status.enabled.length

/-- `target_reached`. -/
def targetReached (enable : Bool) : Bool :=
  if enable then
    status.commandEnabled && status.allEnabled && status.enabled.all fun joint => joint
  else !status.commandEnabled && status.enabled.all fun joint => !joint

/-- The drives without a status code. -/
def unavailableDrives : List ℕ :=
  (List.range status.statusCodes.length).filter fun i =>
    status.statusCodes[i]? == some kUnknownStatusCode

/-- `unavailable_drive_message`; it is empty when all drives are available. -/
def unavailableDriveMessage : String :=
  let drives := status.unavailableDrives
  if drives = [] then ""
  else
    (if drives.length = status.statusCodes.length ∧ drives.length = 14 then
      "no EtherCAT drives detected; power enable rejected"
    else "not all 14 drives are available; power enable rejected") ++
    "; unavailable_drives=[" ++ String.intercalate ", " (drives.map fun i =>
      status.jointNames.getD i ("joint_" ++ toString i) ++ "=0") ++ "]"

/-- The number of enabled drives. -/
def enabledCount : ℕ := status.enabled.count true

/-- The drives that are not enabled, with their status codes. -/
def mismatches : List String :=
  (List.range status.enabled.length).filterMap fun i =>
    match status.enabled[i]?, status.jointNames[i]?, status.statusCodes[i]? with
    | some false, some name, some code => some (name ++ "=" ++ toString code.toInt)
    | _, _, _ => none

/-- `describe_status`. -/
def describeStatus (enable : Bool) : String :=
  "command_enabled=" ++ boolText status.commandEnabled ++
    ", all_enabled=" ++ boolText status.allEnabled ++
    ", enabled=" ++ toString status.enabledCount ++ "/" ++ toString status.enabled.length ++
    (if enable ∧ status.mismatches ≠ [] then
      ", mismatched_status=[" ++ String.intercalate ", " status.mismatches ++ "]" else "") ++
    (if status.message ≠ "" then ", hardware_message='" ++ status.message ++ "'" else "")

end ArmPowerStatus

/-! ## The node -/

/-- The time-outs of the node, in milliseconds. -/
structure Parameters where
  powerTimeoutMs : ℤ
  rollbackTimeoutMs : ℤ
  statusStaleTimeoutMs : ℤ

/-- `std::chrono::milliseconds`. -/
def milliseconds (count : ℤ) : ℤ := count * 1000000

/-- Where the callback of the service is.  A request is `publishing` until its command is out,
`published` until its deadline is set, and `waiting` in its loop.  A request to enable that has
`failed` is `rollingBack` until the disable command is out, `rolledBack` until the deadline of the
rollback is set, `armed` in front of its loop, and `confirming` in it. -/
inductive Phase where
  | idle
  | publishing (enable : Bool) (generationBefore : UInt64) (statusBefore : ArmPowerStatus)
  | published (enable : Bool) (generationBefore : UInt64) (statusBefore : ArmPowerStatus)
  | waiting (enable : Bool) (deadline : ℤ) (generationBefore : UInt64)
      (latestStatus : ArmPowerStatus) (receivedPostCommandStatus : Bool)
  | failed (message : String)
  | rollingBack (message : String) (generationBefore : UInt64)
  | rolledBack (message : String) (generationBefore : UInt64)
  | armed (message : String) (deadline : ℤ) (generationBefore : UInt64)
  | confirming (message : String) (deadline : ℤ) (generationBefore : UInt64)
  deriving DecidableEq

/-- The members of the node, the clock, `rclcpp::ok` and the phase. -/
structure PowerService where
  lastPowerStatus : ArmPowerStatus
  hasPowerStatus : Bool
  statusGeneration : UInt64
  lastStatusReceiveTime : ℤ
  now : ℤ
  ok : Bool
  phase : Phase

/-- The answer of the service. -/
structure Reply where
  success : Bool
  message : String
  deriving DecidableEq

/-- What a step publishes on `/robot_poweron`, and the answer that it gives. -/
structure Output where
  published : Option Bool
  reply : Option Reply

/-- Where a step of the service leads, with its output. -/
abbrev Next := Phase × Output

/-- Nothing is published or answered. -/
def Phase.quietly (phase : Phase) : Next := (phase, ⟨none, none⟩)

/-- `publish_power_command`. -/
def Phase.publishPowerCommand (phase : Phase) (enable : Bool) : Next := (phase, ⟨some enable, none⟩)

/-- The callback returns. -/
def answer (success : Bool) (message : String) : Next := (.idle, ⟨none, some ⟨success, message⟩⟩)

/-- The answer when the drives have been at the target before the request. -/
def alreadyText (enable : Bool) : String :=
  if enable then "Robot power already enabled: 14/14 motors enabled"
  else "Robot power already disabled: 0/14 motors enabled"

/-- The answer when the drives have reached the target. -/
def reachedText (enable : Bool) : String :=
  if enable then "Robot power enabled: 14/14 motors report status 39"
  else "Robot power disabled: 0/14 motors enabled"

namespace PowerService

variable (cfg : Parameters) (s : PowerService)

/-- The node before its first status. -/
def initial (now : ℤ) : PowerService := ⟨.empty, false, 0, 0, now, true, .idle⟩

/-- `handle_power_status`. -/
def handlePowerStatus (message : ArmPowerStatus) : PowerService :=
  { s with
    lastPowerStatus := message
    hasPowerStatus := true
    statusGeneration := s.statusGeneration + 1
    lastStatusReceiveTime := s.now }

/-- The service has a status that is not stale. -/
def statusIsFresh : Bool :=
  s.hasPowerStatus &&
    decide (s.now - s.lastStatusReceiveTime ≤ milliseconds cfg.statusStaleTimeoutMs)

/-! ## A request -/

/-- The status that a request begins with. -/
def statusBefore : ArmPowerStatus := if s.hasPowerStatus then s.lastPowerStatus else .empty

/-- Its generation. -/
def generationBefore : UInt64 := if s.hasPowerStatus then s.statusGeneration else 0

/-- `handle_service_request` up to its command.  A request to enable takes the lock of the robot
commands first, which may fail with an error. -/
def handleServiceRequest (enable : Bool) (guardError : Option String) : Next :=
  if enable ∧ guardError.isSome then answer false ("Enable rejected: " ++ guardError.getD "")
  else if enable ∧ s.statusIsFresh cfg = false then
    answer false "Enable rejected: /arm/power_status is unavailable or stale"
  else if enable ∧ s.statusBefore.statusShapeValid = false then
    answer false ("Enable rejected: " ++ s.statusBefore.shapeError)
  else if enable ∧ s.statusBefore.unavailableDriveMessage ≠ "" then
    answer false (s.statusBefore.unavailableDriveMessage ++ "; enabled=0/14")
  else if s.statusIsFresh cfg && s.statusBefore.statusShapeValid &&
      s.statusBefore.targetReached enable then
    answer true (alreadyText enable)
  else (Phase.publishing enable s.generationBefore s.statusBefore).quietly

/-- The wait of a request is over without a confirmation. -/
def giveUp (enable : Bool) (latestStatus : ArmPowerStatus) (received : Bool) : Next :=
  let message :=
    if received then "Power confirmation timed out: " ++ latestStatus.describeStatus enable
    else "Power command published but no post-command /arm/power_status was received"
  if enable then (Phase.failed message).quietly else answer false message

/-- The head of the loop of a request. -/
def wait (enable : Bool) (deadline : ℤ) (generationBefore : UInt64) (latestStatus : ArmPowerStatus)
    (received : Bool) : Next :=
  if s.ok then (Phase.waiting enable deadline generationBefore latestStatus received).quietly
  else giveUp enable latestStatus received

/-- The end of a pass of this loop. -/
def waitOn (enable : Bool) (deadline : ℤ) (generationBefore : UInt64)
    (latestStatus : ArmPowerStatus) (received : Bool) : Next :=
  if deadline ≤ s.now then giveUp enable latestStatus received
  else s.wait enable deadline generationBefore latestStatus received

/-- One pass of this loop. -/
def look (enable : Bool) (deadline : ℤ) (generationBefore : UInt64) (latestStatus : ArmPowerStatus)
    (received : Bool) : Next :=
  if generationBefore < s.statusGeneration then
    let latest := s.lastPowerStatus
    if enable ∧ latest.unavailableDriveMessage ≠ "" then
      (Phase.failed (latest.unavailableDriveMessage ++ "; enabled=" ++
        toString latest.enabledCount ++ "/14")).quietly
    else if latest.statusShapeValid && latest.targetReached enable then
      answer true (reachedText enable)
    else s.waitOn enable deadline s.statusGeneration latest true
  else s.waitOn enable deadline generationBefore latestStatus received

/-! ## The rollback -/

/-- The head of the loop of `rollback_failed_enable`. -/
def waitConfirmed (message : String) (deadline : ℤ) (generationBefore : UInt64) : Next :=
  if s.ok ∧ s.now < deadline then (Phase.confirming message deadline generationBefore).quietly
  else answer false
    (message ++ "; automatic disable rollback published but confirmation timed out")

/-- One pass of this loop. -/
def confirm (message : String) (deadline : ℤ) (generationBefore : UInt64) : Next :=
  if generationBefore < s.statusGeneration then
    if s.lastPowerStatus.statusShapeValid && s.lastPowerStatus.targetReached false then
      answer false (message ++ "; automatic disable rollback confirmed")
    else s.waitConfirmed message deadline s.statusGeneration
  else s.waitConfirmed message deadline generationBefore

/-! ## Steps -/

/-- `wait_until` has returned: the generation has grown, or the deadline is over. -/
def wakes (deadline : ℤ) (generationBefore : UInt64) : Prop :=
  generationBefore < s.statusGeneration ∨ deadline ≤ s.now

instance (deadline : ℤ) (generationBefore : UInt64) :
    Decidable (s.wakes deadline generationBefore) :=
  inferInstanceAs (Decidable (_ ∨ _))

/-- The next step of the callback of the service. -/
def advance : Option Next :=
  match s.phase with
  | .idle => none
  | .publishing enable generation status =>
    some ((Phase.published enable generation status).publishPowerCommand enable)
  | .published enable generation status =>
    some (s.wait enable (s.now + milliseconds cfg.powerTimeoutMs) generation status false)
  | .waiting enable deadline generation latest received =>
    if s.wakes deadline generation then some (s.look enable deadline generation latest received)
    else none
  | .failed message => some (Phase.rollingBack message s.statusGeneration).quietly
  | .rollingBack message generation =>
    some ((Phase.rolledBack message generation).publishPowerCommand false)
  | .rolledBack message generation =>
    some (Phase.armed message (s.now + milliseconds cfg.rollbackTimeoutMs) generation).quietly
  | .armed message deadline generation => some (s.waitConfirmed message deadline generation)
  | .confirming message deadline generation =>
    if s.wakes deadline generation then some (s.confirm message deadline generation) else none

end PowerService

/-- One step of one thread, or of the world around the node. -/
inductive Label where
  | status (message : ArmPowerStatus)
  | request (enable : Bool) (guardError : Option String)
  | advance
  | elapse (nanoseconds : ℕ)
  | shutdown

namespace PowerService

variable (cfg : Parameters) (s : PowerService)

/-- What the callback of the service does in a step. -/
def serve : Label → Option Next
  | .request enable guardError =>
    if s.phase = .idle then some (s.handleServiceRequest cfg enable guardError) else none
  | .advance => s.advance cfg
  | _ => none

/-- The next state. -/
def step : Label → Option PowerService
  | .status message => some (s.handlePowerStatus message)
  | .elapse nanoseconds => some { s with now := s.now + nanoseconds }
  | .shutdown => some { s with ok := false }
  | l => (s.serve cfg l).map fun next => { s with phase := next.1 }

/-- The command that a step publishes. -/
def published (l : Label) : Option Bool := (s.serve cfg l).bind fun next => next.2.published

/-- The answer that a step gives. -/
def reply (l : Label) : Option Reply := (s.serve cfg l).bind fun next => next.2.reply

end PowerService

end Power

end JointController
