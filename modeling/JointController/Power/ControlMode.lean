import JointController.Library.Checks
import JointController.Power.Service

/-!
# The service of the control mode

`ArmControlModeServiceNode`: a request for a control mode is checked against the feedback, passed on
to the internal service of the controller, and confirmed by a status of the mode.

* `ModeStatus`, `ModeResponse`: the status of the mode, and the response of both services.
* `ArmPowerStatus.powerIsSafelyDisabled`: the check of the drives in front of EFFORT.
* `ModePhase`, `ModeService`: where the callback of the service is, and what the node knows.
* `ModeService.examine`: the checks of a request.
* `ModeService.look`: one pass of the wait for the confirmation.
* `ModeService.step`: one atomic step of one of the callback threads.

The callback group lets one request in at a time, so that `command_mutex_` is always free.  Statuses
arrive at any time outside the locked sections.  Times are in nanoseconds, and the generations do
not wrap around.
-/

open Checks

namespace JointController

namespace Power

/-! ## Messages and parameters -/

/-- `SetArmControlMode::Request::POSITION`. -/
def positionMode : UInt8 := 0

/-- `SetArmControlMode::Request::EFFORT`. -/
def effortMode : UInt8 := 1

/-- `ArmControlModeStatus`, as far as the service reads it. -/
structure ModeStatus where
  requestedMode : UInt8
  activeMode : UInt8
  message : String
  deriving DecidableEq

/-- The response of the service, and of the internal one. -/
structure ModeResponse where
  success : Bool
  activeMode : UInt8
  message : String
  deriving DecidableEq

/-- The time-outs of the node, in milliseconds, and its switches. -/
structure ModeParameters where
  commandTimeoutMs : ℤ
  statusStaleTimeoutMs : ℤ
  enableEffortModeSwitch : Bool
  requirePowerDisabledForEffortSwitch : Bool

/-- `ArmPowerStatus::DISABLED_STATUS`. -/
def disabledStatus : Int32 := 64

/-- `mode_name`. -/
def modeName (mode : UInt8) : String := if mode = effortMode then "EFFORT" else "POSITION"

/-- The status shows a mode that is active and requested. -/
def ModeStatus.shows (status : ModeStatus) (mode : UInt8) : Prop :=
  status.activeMode = mode ∧ status.requestedMode = mode

instance (status : ModeStatus) (mode : UInt8) : Decidable (status.shows mode) :=
  inferInstanceAs (Decidable (_ ∧ _))

/-- The drive of a joint reports that it is disabled. -/
def ArmPowerStatus.driveDisabled (status : ArmPowerStatus) (i : Fin 14) : Bool :=
  !status.enabled.getD i false && status.statusCodes.getD i kUnknownStatusCode == disabledStatus

/-- `power_is_safely_disabled`. -/
def ArmPowerStatus.powerIsSafelyDisabled (status : ArmPowerStatus) : Except String Unit := do
  refuse (¬ status.statusShapeValid) "invalid /arm/power_status array sizes"
  refuse (status.commandEnabled ∨ status.allEnabled)
    "EFFORT switch requires command_enabled=false and all_enabled=false"
  (List.finRange 14).forM fun i =>
    refuse (¬ status.driveDisabled i)
      "EFFORT switch requires all 14 motors to report disabled status 64"

/-! ## The node -/

/-- Where the callback of the service is.  A request that has the locks is `locked`, it is `serving`
while it waits for the internal service, `sending` until its request to that is out, `awaiting` the
response, `accepted` until the deadline of the confirmation is set, `armed` in front of the loop,
and `confirming` in it.  The status and its generation are those of the checks, then those of the
last pass. -/
inductive ModePhase where
  | idle
  | locked (mode : UInt8)
  | serving (mode : UInt8) (generation : ℕ) (status : ModeStatus) (activeMode : UInt8)
  | sending (mode : UInt8) (generation : ℕ) (status : ModeStatus) (activeMode : UInt8)
  | awaiting (mode : UInt8) (generation : ℕ) (status : ModeStatus) (activeMode : UInt8)
  | accepted (mode : UInt8) (generation : ℕ) (status : ModeStatus)
  | armed (mode : UInt8) (generation : ℕ) (status : ModeStatus) (deadline : ℤ)
  | confirming (mode : UInt8) (generation : ℕ) (status : ModeStatus) (deadline : ℤ)
  deriving DecidableEq

/-- The members that the callbacks of the topics write, the clock, `rclcpp::ok` and the phase. -/
structure ModeService where
  lastModeStatus : ModeStatus
  hasModeStatus : Bool
  modeStatusGeneration : ℕ
  lastModeStatusReceiveTime : ℤ
  lastPowerStatus : ArmPowerStatus
  hasPowerStatus : Bool
  lastPowerStatusReceiveTime : ℤ
  now : ℤ
  ok : Bool
  phase : ModePhase

/-- What a step sends to the internal service, and the response that it gives. -/
structure ModeOutput where
  forwarded : Option UInt8
  response : Option ModeResponse

/-- Where a step of the callback leads, with its output. -/
abbrev ModeNext := ModePhase × ModeOutput

/-- Nothing is sent or answered. -/
def ModePhase.quietly (phase : ModePhase) : ModeNext := (phase, ⟨none, none⟩)

/-- The callback returns. -/
def respond (success : Bool) (activeMode : UInt8) (message : String) : ModeNext :=
  (.idle, ⟨none, some ⟨success, activeMode, message⟩⟩)

namespace ModeService

variable (cfg : ModeParameters) (s : ModeService)

/-- The node before its first statuses. -/
def initial (now : ℤ) : ModeService where
  lastModeStatus := ⟨0, 0, ""⟩
  hasModeStatus := false
  modeStatusGeneration := 0
  lastModeStatusReceiveTime := 0
  lastPowerStatus := .empty
  hasPowerStatus := false
  lastPowerStatusReceiveTime := 0
  now := now
  ok := true
  phase := .idle

/-- `handle_mode_status`. -/
def handleModeStatus (message : ModeStatus) : ModeService :=
  { s with
    lastModeStatus := message
    hasModeStatus := true
    modeStatusGeneration := s.modeStatusGeneration + 1
    lastModeStatusReceiveTime := s.now }

/-- `handle_power_status`. -/
def handlePowerStatus (message : ArmPowerStatus) : ModeService :=
  { s with
    lastPowerStatus := message
    hasPowerStatus := true
    lastPowerStatusReceiveTime := s.now }

/-- `is_fresh`. -/
def isFresh (receiveTime : ℤ) : Bool :=
  decide (s.now - receiveTime ≤ milliseconds cfg.statusStaleTimeoutMs)

/-- `has_fresh_mode_status`. -/
def hasFreshModeStatus : Bool := s.hasModeStatus && s.isFresh cfg s.lastModeStatusReceiveTime

/-- `has_fresh_power_status`. -/
def hasFreshPowerStatus : Bool := s.hasPowerStatus && s.isFresh cfg s.lastPowerStatusReceiveTime

/-! ## A request -/

/-- `handle_request` up to the locks, of which the one of the robot commands may be refused with an
error. -/
def handleRequest (mode : UInt8) (guardError : Option String) : ModeNext :=
  if mode ≠ positionMode ∧ mode ≠ effortMode then
    respond false 0 "invalid control mode; expected POSITION(0) or EFFORT(1)"
  else
    match guardError with
    | some error => respond false 0 ("Control mode request rejected: " ++ error)
    | none => (ModePhase.locked mode).quietly

/-- The checks in front of EFFORT. -/
def checkEffort : Except String Unit := do
  refuse (¬ cfg.enableEffortModeSwitch)
    "EFFORT mode switch is disabled; set enable_effort_mode_switch:=true explicitly"
  refuse (¬ s.hasFreshModeStatus cfg)
    "EFFORT mode rejected: /arm/control_mode_status is unavailable or stale"
  if cfg.requirePowerDisabledForEffortSwitch then do
    refuse (¬ s.hasFreshPowerStatus cfg)
      "EFFORT mode rejected: /arm/power_status is unavailable or stale"
    s.lastPowerStatus.powerIsSafelyDisabled.mapError fun error => "EFFORT mode rejected: " ++ error
  else .ok ()

/-- The checks that a mode needs. -/
def checkMode (mode : UInt8) : Except String Unit :=
  if mode = effortMode then s.checkEffort cfg else .ok ()

/-- A request from its look at the statuses to the wait for the internal service. -/
def examine (mode : UInt8) : ModeNext :=
  let activeMode :=
    if s.hasFreshModeStatus cfg then s.lastModeStatus.activeMode else positionMode
  match s.checkMode cfg mode with
  | .error error => respond false activeMode error
  | .ok _ =>
    if s.hasFreshModeStatus cfg ∧ s.lastModeStatus.shows mode then
      respond true mode ("Arm control mode already confirmed as " ++ modeName mode)
    else
      (ModePhase.serving mode (if s.hasModeStatus then s.modeStatusGeneration else 0)
        (if s.hasModeStatus then s.lastModeStatus else ⟨0, 0, ""⟩) activeMode).quietly

/-! ## The confirmation -/

/-- The wait is over without a confirmation. -/
def timedOut (mode : UInt8) (status : ModeStatus) : ModeNext :=
  respond false status.activeMode ("Control mode confirmation timed out; requested=" ++
    modeName mode ++ ", active=" ++ modeName status.activeMode)

/-- The head of the loop. -/
def wait (mode : UInt8) (generation : ℕ) (status : ModeStatus) (deadline : ℤ) : ModeNext :=
  if s.ok then (ModePhase.confirming mode generation status deadline).quietly
  else timedOut mode status

/-- The end of a pass. -/
def waitOn (mode : UInt8) (generation : ℕ) (status : ModeStatus) (deadline : ℤ) : ModeNext :=
  if deadline ≤ s.now then timedOut mode status else s.wait mode generation status deadline

/-- One pass of the loop. -/
def look (mode : UInt8) (generation : ℕ) (status : ModeStatus) (deadline : ℤ) : ModeNext :=
  if generation < s.modeStatusGeneration then
    if s.lastModeStatus.shows mode then
      respond true s.lastModeStatus.activeMode ("Arm control mode confirmed as " ++
        modeName mode ++ "; " ++ s.lastModeStatus.message)
    else s.waitOn mode s.modeStatusGeneration s.lastModeStatus deadline
  else s.waitOn mode generation status deadline

/-! ## Steps -/

/-- The next step of the callback that does not depend on the internal service. -/
def advance : Option ModeNext :=
  match s.phase with
  | .locked mode => some (s.examine cfg mode)
  | .sending mode generation status activeMode =>
    some (.awaiting mode generation status activeMode, ⟨some mode, none⟩)
  | .accepted mode generation status =>
    some (ModePhase.armed mode generation status
      (s.now + milliseconds cfg.commandTimeoutMs)).quietly
  | .armed mode generation status deadline => some (s.wait mode generation status deadline)
  | .confirming mode generation status deadline =>
    if generation < s.modeStatusGeneration ∨ deadline ≤ s.now then
      some (s.look mode generation status deadline)
    else none
  | _ => none

/-- The wait for the internal service is over. -/
def serviceWaited (available : Bool) : Option ModeNext :=
  match s.phase with
  | .serving mode generation status activeMode =>
    if available then some (ModePhase.sending mode generation status activeMode).quietly
    else some (respond false activeMode "internal arm control mode service is unavailable")
  | _ => none

/-- The wait for the response of the internal service is over. -/
def answered (response : Option ModeResponse) : Option ModeNext :=
  match s.phase, response with
  | .awaiting mode generation status _, some response =>
    if response.success then some (ModePhase.accepted mode generation status).quietly
    else some (respond false response.activeMode
      ("internal arm control mode request rejected: " ++ response.message))
  | .awaiting _ _ _ activeMode, none =>
    some (respond false activeMode "internal arm control mode service response timed out")
  | _, _ => none

end ModeService

/-- One step of one thread, or of the world around the node. -/
inductive ModeLabel where
  | modeStatus (message : ModeStatus)
  | powerStatus (message : ArmPowerStatus)
  | request (mode : UInt8) (guardError : Option String)
  | advance
  | service (available : Bool)
  | answer (response : Option ModeResponse)
  | elapse (nanoseconds : ℕ)
  | shutdown

namespace ModeService

variable (cfg : ModeParameters) (s : ModeService)

/-- What the callback of the service does in a step. -/
def serve : ModeLabel → Option ModeNext
  | .request mode guardError =>
    if s.phase = .idle then some (handleRequest mode guardError) else none
  | .advance => s.advance cfg
  | .service available => s.serviceWaited available
  | .answer response => s.answered response
  | _ => none

/-- The next state. -/
def step : ModeLabel → Option ModeService
  | .modeStatus message => some (s.handleModeStatus message)
  | .powerStatus message => some (s.handlePowerStatus message)
  | .elapse nanoseconds => some { s with now := s.now + nanoseconds }
  | .shutdown => some { s with ok := false }
  | l => (s.serve cfg l).map fun next => { s with phase := next.1 }

/-- The mode that a step asks the internal service for. -/
def forwarded (l : ModeLabel) : Option UInt8 :=
  (s.serve cfg l).bind fun next => next.2.forwarded

/-- The response that a step gives. -/
def response (l : ModeLabel) : Option ModeResponse :=
  (s.serve cfg l).bind fun next => next.2.response

end ModeService

end Power

end JointController
