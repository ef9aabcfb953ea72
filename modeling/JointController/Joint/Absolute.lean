import JointController.Joint.Arms
import JointController.Power.Service
import Mathlib.Logic.Function.Basic

/-!
# The service of the absolute joint targets

`JointAbsoluteControlSrv`: a request with fourteen joint targets is checked, waits for the arms to
rest, is published as one command, and waits until the feedback shows the arms at rest at the
targets.

* `Phase`: where the callback of the service is between two of its steps.
* `AbsoluteService`: what the callbacks of the topics write, the clock and the phase.
* `AbsoluteService.feedbackReady`: the check of the feedback in front of a command.
* `Watch.judge`: what one pass of the final wait makes of the feedback that it has copied.
* `AbsoluteService.step`: one atomic step of one of the two callback threads.

The callbacks of the topics run at any time outside the sections that hold `feedback_mutex_`.  Times
are in nanoseconds, and the counters do not wrap around.
-/

open Checks NearestInteger

namespace JointController

namespace Joint

/-! ## Messages and parameters -/

/-- `ArmMotionStatus`. -/
structure ArmMotionStatus where
  isMoving : Bool
  goalReached : Bool
  deriving DecidableEq

/-- The tolerance of the node and its time-outs, in milliseconds. -/
structure Parameters where
  positionTolerance : Double
  motionStartTimeoutMs : ℤ
  motionTimeoutMs : ℤ
  feedbackTimeoutMs : ℤ
  settledFeedbackMs : ℤ

/-- `ArmPowerStatus::ENABLED_STATUS`. -/
def enabledStatus : Int32 := 39

/-- `2.0 * M_PI`. -/
def fullTurn : ℚ := 884279719003555 / 2 ^ 47

/-- `std::chrono::seconds`. -/
def seconds (count : ℤ) : ℤ := Power.milliseconds (count * 1000)

/-! ## The node -/

/-- The configuration of the robot model, by the places of its variables. -/
abbrev Configuration := ℕ → Double

/-- What `waitForArmToReachPosition` keeps from pass to pass. -/
structure Watch where
  targetPositions : Configuration
  generationBefore : ℕ
  startTime : ℤ
  initialQ : Configuration
  motionDetected : Bool
  settlingSince : Option ℤ
  stoppedOutsideTargetSince : Option ℤ

/-- What a pass copies from the feedback. -/
structure Seen where
  currentQ : Configuration
  motionStatus : ArmMotionStatus
  motionGeneration : ℕ
  jointStateTime : ℤ
  motionStatusTime : ℤ

/-- Where the callback of the service is.  A request that has passed the checks of its numbers holds
the lock of the robot commands.  It is `checked` when the feedback is ready, `stopping` in front of
a look at the motion of the arms, `blocked` in `wait_until` behind one, and `stopped` when they
rest.  It is `publishing` until its command is out, `published` until the final wait begins, and
`starting` until that has noted where the arms are; then a pass is `watching`, `waiting` in
`wait_for`, and `looked` with its copy of the feedback. -/
inductive Phase where
  | idle
  | guarded (request : AbsoluteRequest)
  | checked (request : AbsoluteRequest)
  | stopping (request : AbsoluteRequest) (deadline : ℤ)
  | blocked (request : AbsoluteRequest) (deadline : ℤ)
  | stopped (request : AbsoluteRequest)
  | publishing (request : AbsoluteRequest) (generationBefore : ℕ)
  | published (request : AbsoluteRequest) (generationBefore : ℕ)
  | starting (request : AbsoluteRequest) (generationBefore : ℕ) (startTime : ℤ)
  | watching (w : Watch)
  | waiting (w : Watch)
  | looked (w : Watch) (seen : Seen)

/-- The members that the callbacks of the topics write, the clock, `rclcpp::ok` and the phase. -/
structure AbsoluteService where
  qCurrent : Configuration
  jointPositionReceived : ℕ → Bool
  hasJointState : Bool
  lastJointStateTime : ℤ
  lastMotionStatus : ArmMotionStatus
  hasMotionStatus : Bool
  motionStatusGeneration : ℕ
  lastMotionStatusTime : ℤ
  lastPowerStatus : Power.ArmPowerStatus
  hasPowerStatus : Bool
  lastPowerStatusTime : ℤ
  lastControlModeStatus : ArmControlModeStatus
  hasControlModeStatus : Bool
  lastControlModeStatusTime : ℤ
  now : ℤ
  ok : Bool
  phase : Phase

/-- What a step publishes on `/arm_joint_absolute_cmd`, and the answer that it gives. -/
structure Output where
  published : Option AbsoluteRequest
  reply : Option Power.Reply

/-- Where a step of the service leads, with its output. -/
abbrev Next := Phase × Output

/-- Nothing is published or answered. -/
def Phase.quietly (phase : Phase) : Next := (phase, ⟨none, none⟩)

/-- The command is published: the fourteen targets, the speed and the acceleration. -/
def Phase.publish (phase : Phase) (request : AbsoluteRequest) : Next :=
  (phase, ⟨some request, none⟩)

/-- The callback returns, and lets go of the lock. -/
def answer (success : Bool) (message : String) : Next := (.idle, ⟨none, some ⟨success, message⟩⟩)

namespace AbsoluteService

variable (model : ArmModel) (cfg : Parameters) (s : AbsoluteService)

/-- The node before its first messages. -/
def initial (now : ℤ) : AbsoluteService where
  qCurrent _ := 0
  jointPositionReceived _ := false
  hasJointState := false
  lastJointStateTime := 0
  lastMotionStatus := ⟨false, false⟩
  hasMotionStatus := false
  motionStatusGeneration := 0
  lastMotionStatusTime := 0
  lastPowerStatus := .empty
  hasPowerStatus := false
  lastPowerStatusTime := 0
  lastControlModeStatus := .empty
  hasControlModeStatus := false
  lastControlModeStatusTime := 0
  now := now
  ok := true
  phase := .idle

/-! ## The topics -/

/-- The position of one joint of a message. -/
def readJoint (entry : String × Double) : AbsoluteService :=
  match model.jointIndexMap entry.1 with
  | some index =>
    { s with
      qCurrent := Function.update s.qCurrent index entry.2
      jointPositionReceived := Function.update s.jointPositionReceived index true }
  | none => s

/-- `jointStateCallback`. -/
def jointStateCallback (message : JointState) : AbsoluteService :=
  { (message.name.zip message.position).foldl (readJoint model) s with
    hasJointState := true
    lastJointStateTime := s.now }

/-- `motionStatusCallback`. -/
def motionStatusCallback (message : ArmMotionStatus) : AbsoluteService :=
  { s with
    lastMotionStatus := message
    hasMotionStatus := true
    motionStatusGeneration := s.motionStatusGeneration + 1
    lastMotionStatusTime := s.now }

/-- `powerStatusCallback`. -/
def powerStatusCallback (message : Power.ArmPowerStatus) : AbsoluteService :=
  { s with
    lastPowerStatus := message
    hasPowerStatus := true
    lastPowerStatusTime := s.now }

/-- `controlModeStatusCallback`. -/
def controlModeStatusCallback (message : ArmControlModeStatus) : AbsoluteService :=
  { s with
    lastControlModeStatus := message
    hasControlModeStatus := true
    lastControlModeStatusTime := s.now }

/-! ## The check of the feedback -/

/-- A message is older than the time-out of the feedback. -/
def Stale (time : ℤ) : Prop := Power.milliseconds cfg.feedbackTimeoutMs < s.now - time

instance (time : ℤ) : Decidable (s.Stale cfg time) := inferInstanceAs (Decidable (_ < _))

/-- The drive of a joint reports that it is enabled. -/
def driveEnabled (i : Fin 14) : Bool :=
  s.lastPowerStatus.enabled.getD i false &&
    s.lastPowerStatus.statusCodes.getD i Power.kUnknownStatusCode == enabledStatus

/-- `feedbackReady`. -/
def feedbackReady : Except String Unit := do
  refuse (¬ s.hasJointState) "no /arm/joint_states feedback received"
  refuse (¬ s.hasMotionStatus) "no /arm/arm_controller/motion_status feedback received"
  refuse (¬ s.hasPowerStatus) "no /arm/power_status feedback received"
  refuse (¬ s.hasControlModeStatus) "no /arm/control_mode_status feedback received"
  (List.finRange 14).forM fun i =>
    refuse (¬ s.jointPositionReceived (model.armIndex i))
      ("joint state is missing " ++ canonicalJointNames i)
  refuse (s.Stale cfg s.lastJointStateTime) "/arm/joint_states feedback is stale"
  refuse (s.Stale cfg s.lastMotionStatusTime) "/arm/arm_controller/motion_status feedback is stale"
  refuse (s.Stale cfg s.lastPowerStatusTime) "/arm/power_status feedback is stale"
  refuse (s.Stale cfg s.lastControlModeStatusTime) "/arm/control_mode_status feedback is stale"
  refuse (¬ s.lastPowerStatus.statusShapeValid) "invalid /arm/power_status array sizes"
  refuse (¬ (s.lastPowerStatus.commandEnabled ∧ s.lastPowerStatus.allEnabled))
    "joint motion requires all 14 motors enabled"
  (List.finRange 14).forM fun i =>
    refuse (¬ s.driveEnabled i) "joint motion requires every motor to report enabled status 39"
  refuse (s.lastControlModeStatus.activeMode ≠ .position)
    "joint motion requires POSITION control mode"

/-- Fresh feedback of all kinds shows the fourteen drives enabled, in the mode of positions. -/
structure Ready : Prop where
  received : s.hasJointState ∧ s.hasMotionStatus ∧ s.hasPowerStatus ∧ s.hasControlModeStatus
  positions : ∀ i, s.jointPositionReceived (model.armIndex i)
  fresh : ¬ s.Stale cfg s.lastJointStateTime ∧ ¬ s.Stale cfg s.lastMotionStatusTime ∧
    ¬ s.Stale cfg s.lastPowerStatusTime ∧ ¬ s.Stale cfg s.lastControlModeStatusTime
  shape : s.lastPowerStatus.statusShapeValid
  power : s.lastPowerStatus.commandEnabled ∧ s.lastPowerStatus.allEnabled
  drives : ∀ i, s.driveEnabled i
  mode : s.lastControlModeStatus.activeMode = .position

theorem feedbackReady_eq_ok {model : ArmModel} {cfg : Parameters} {s : AbsoluteService} :
    s.feedbackReady model cfg = .ok () ↔ s.Ready model cfg := by
  unfold feedbackReady
  simp only [bind_eq_ok, refuse_eq_ok, forM_eq_ok, not_not, ne_eq, List.mem_finRange, true_implies]
  constructor
  · rintro ⟨hq, hmotion, hpower, hmode, hpositions, hfq, hfmotion, hfpower, hfmode, hshape, hon,
      hdrives, hposition⟩
    exact ⟨⟨hq, hmotion, hpower, hmode⟩, hpositions, ⟨hfq, hfmotion, hfpower, hfmode⟩, hshape, hon,
      hdrives, hposition⟩
  · intro h
    exact ⟨h.received.1, h.received.2.1, h.received.2.2.1, h.received.2.2.2, h.positions, h.fresh.1,
      h.fresh.2.1, h.fresh.2.2.1, h.fresh.2.2.2, h.shape, h.power, h.drives, h.mode⟩

end AbsoluteService

/-! ## The final wait -/

/-- The error of a joint, up to whole turns. -/
def jointError (current target : Double) : Double :=
  (remainder (current - target) (.finite fullTurn)).abs

/-- `maxArmPositionError`: the largest error, and the joint that has it. -/
def ArmModel.maxArmPositionError (model : ArmModel) (current target : Configuration) :
    Double × String :=
  (List.finRange 14).foldl (fun worst i =>
    let error := jointError (current (model.armIndex i)) (target (model.armIndex i))
    if worst.1 < error then (error, canonicalJointNames i) else worst) (0, "")

/-- `targetPositionsFromRequest`. -/
def ArmModel.targetPositionsFromRequest (model : ArmModel) (request : AbsoluteRequest) :
    Configuration :=
  (List.finRange 14).foldl (fun targets i =>
    Function.update targets (model.armIndex i) (request.joints i)) fun _ => 0

/-- `jointFeedbackSettlingCandidate`. -/
def jointFeedbackSettlingCandidate (positionsReached hasPostCommandStatus isMoving
    motionDetected : Bool) : Bool :=
  positionsReached && hasPostCommandStatus && !isMoving && motionDetected

/-- `jointMotionCompleted`. -/
def jointMotionCompleted (positionsReached hasPostCommandStatus isMoving controllerGoalReached
    motionDetected feedbackSettled : Bool) : Bool :=
  positionsReached && hasPostCommandStatus && !isMoving &&
    (controllerGoalReached || (motionDetected && feedbackSettled))

/-- The request has failed after its command was out. -/
def motionFailed (error : String) : Next := answer false ("Motion failed: " ++ error)

namespace Watch

variable (model : ArmModel) (cfg : Parameters) (w : Watch) (seen : Seen) (now : ℤ)

/-- `has_post_command_status`. -/
def hasPostCommandStatus : Bool := decide (w.generationBefore < seen.motionGeneration)

/-- `total_change > 1e-4`: some variable of the configuration has changed by more. -/
def changed : Bool :=
  (List.range model.nq).any fun n =>
    decide (.finite (1 / 10000) < (seen.currentQ n - w.initialQ n).abs)

/-- `motion_detected` after this pass. -/
def detects : Bool := w.motionDetected || seen.motionStatus.isMoving || w.changed model seen

/-- `max_error`, and `worst_joint`. -/
def error : Double × String := model.maxArmPositionError seen.currentQ w.targetPositions

/-- `positions_reached`. -/
def positionsReached : Bool := decide ((w.error model seen).1 ≤ cfg.positionTolerance)

/-- `settling_since` after this pass. -/
def settles : Option ℤ :=
  if jointFeedbackSettlingCandidate (w.positionsReached model cfg seen)
      (w.hasPostCommandStatus seen) seen.motionStatus.isMoving (w.detects model seen) then
    some (w.settlingSince.getD now)
  else none

/-- `feedback_settled`. -/
def feedbackSettled : Bool :=
  (w.settles model cfg seen now).any fun since =>
    decide (Power.milliseconds cfg.settledFeedbackMs ≤ now - since)

/-- The motion is complete. -/
def completed : Bool :=
  jointMotionCompleted (w.positionsReached model cfg seen) (w.hasPostCommandStatus seen)
    seen.motionStatus.isMoving seen.motionStatus.goalReached (w.detects model seen)
    (w.feedbackSettled model cfg seen now)

/-- `stopped_outside_target`. -/
def stoppedOutsideTarget : Bool :=
  w.detects model seen && w.hasPostCommandStatus seen && !seen.motionStatus.isMoving &&
    !seen.motionStatus.goalReached && !w.positionsReached model cfg seen

/-- What is kept for the next pass. -/
def next : Watch :=
  { w with
    motionDetected := w.detects model seen
    settlingSince := w.settles model cfg seen now
    stoppedOutsideTargetSince :=
      if w.stoppedOutsideTarget model cfg seen then some (w.stoppedOutsideTargetSince.getD now)
      else none }

/-- The largest error in the text of an error. -/
def errorText : String :=
  "max_position_error=" ++ fixedText (w.error model seen).1 ++ " rad at " ++
    (w.error model seen).2

/-- A pass of `waitForArmToReachPosition` behind its copy of the feedback. -/
def judge : Next :=
  if Power.milliseconds cfg.feedbackTimeoutMs < now - seen.jointStateTime then
    motionFailed "/arm/joint_states feedback stopped during motion"
  else if Power.milliseconds cfg.feedbackTimeoutMs < now - seen.motionStatusTime then
    motionFailed "/arm/arm_controller/motion_status feedback stopped during motion"
  else if w.completed model cfg seen now then
    answer true "Joint absolute control completed successfully"
  else if w.detects model seen = false ∧
      w.startTime + Power.milliseconds cfg.motionStartTimeoutMs ≤ now then
    motionFailed ("timeout waiting for arm to start moving; " ++ w.errorText model seen)
  else if w.stoppedOutsideTarget model cfg seen ∧
      w.stoppedOutsideTargetSince.any (fun since => decide (seconds 2 < now - since)) then
    motionFailed ("arm stopped before reaching target; " ++ w.errorText model seen)
  else if w.startTime + Power.milliseconds cfg.motionTimeoutMs ≤ now then
    motionFailed ("motion timeout; moving=" ++ Power.boolText seen.motionStatus.isMoving ++
      ", goal_reached=" ++ Power.boolText seen.motionStatus.goalReached ++ ", " ++
      w.errorText model seen)
  else (Phase.watching (w.next model cfg seen now)).quietly

end Watch

/-! ## Steps -/

namespace AbsoluteService

variable (model : ArmModel) (cfg : Parameters) (s : AbsoluteService)

/-- `handleAbsoluteControlRequest` up to the lock of the robot commands, which may be refused with
an error. -/
def handleAbsoluteControlRequest (request : AbsoluteRequest) (guardError : Option String) : Next :=
  match model.validateAbsoluteControlRequest request, guardError with
  | .error error, _ | .ok _, some error =>
    answer false ("Rejected joint absolute control request: " ++ error)
  | .ok _, none => (Phase.guarded request).quietly

/-- The request has failed before its command. -/
def cannotExecute (error : String) : Next :=
  answer false ("Cannot execute joint command: " ++ error)

/-- The head of the loop of `waitForArmToStop`. -/
def lookStopped (request : AbsoluteRequest) (deadline : ℤ) : Next :=
  if s.ok = false then cannotExecute "ROS shutdown while waiting for arm to stop"
  else if s.lastMotionStatus.isMoving then (Phase.blocked request deadline).quietly
  else (Phase.stopped request).quietly

/-- The copy of the feedback. -/
def seen : Seen where
  currentQ := s.qCurrent
  motionStatus := s.lastMotionStatus
  motionGeneration := s.motionStatusGeneration
  jointStateTime := s.lastJointStateTime
  motionStatusTime := s.lastMotionStatusTime

/-- The final wait begins. -/
def watch (request : AbsoluteRequest) (generationBefore : ℕ) (startTime : ℤ) : Watch where
  targetPositions := model.targetPositionsFromRequest request
  generationBefore := generationBefore
  startTime := startTime
  initialQ := s.qCurrent
  motionDetected := false
  settlingSince := none
  stoppedOutsideTargetSince := none

/-- The next step of the callback of the service. -/
def advance : Option Next :=
  match s.phase with
  | .idle => none
  | .guarded request =>
    match s.feedbackReady model cfg with
    | .error error => some (cannotExecute error)
    | .ok _ => some (Phase.checked request).quietly
  | .checked request => some (Phase.stopping request (s.now + seconds 5)).quietly
  | .stopping request deadline => some (s.lookStopped request deadline)
  | .blocked request deadline =>
    if deadline ≤ s.now then
      some (cannotExecute "timeout waiting for arm to stop before sending command")
    else some (s.lookStopped request deadline)
  | .stopped request => some (Phase.publishing request s.motionStatusGeneration).quietly
  | .publishing request generation => some ((Phase.published request generation).publish request)
  | .published request generation => some (Phase.starting request generation s.now).quietly
  | .starting request generation startTime =>
    some (Phase.watching (s.watch model request generation startTime)).quietly
  | .watching w =>
    if s.ok then some (Phase.waiting w).quietly
    else some (motionFailed "ROS shutdown while waiting for arm execution result")
  | .waiting w => some (Phase.looked w s.seen).quietly
  | .looked w seen => some (w.judge model cfg seen s.now)

end AbsoluteService

/-- One step of one thread, or of the world around the node. -/
inductive Label where
  | jointState (message : JointState)
  | motionStatus (message : ArmMotionStatus)
  | powerStatus (message : Power.ArmPowerStatus)
  | controlModeStatus (message : ArmControlModeStatus)
  | request (request : AbsoluteRequest) (guardError : Option String)
  | advance
  | elapse (nanoseconds : ℕ)
  | shutdown

namespace AbsoluteService

variable (model : ArmModel) (cfg : Parameters) (s : AbsoluteService)

/-- What the callback of the service does in a step. -/
def serve : Label → Option Next
  | .request request guardError =>
    match s.phase with
    | .idle => some (handleAbsoluteControlRequest model request guardError)
    | _ => none
  | .advance => s.advance model cfg
  | _ => none

/-- The next state. -/
def step : Label → Option AbsoluteService
  | .jointState message => some (s.jointStateCallback model message)
  | .motionStatus message => some (s.motionStatusCallback message)
  | .powerStatus message => some (s.powerStatusCallback message)
  | .controlModeStatus message => some (s.controlModeStatusCallback message)
  | .elapse nanoseconds => some { s with now := s.now + nanoseconds }
  | .shutdown => some { s with ok := false }
  | l => (s.serve model cfg l).map fun next => { s with phase := next.1 }

/-- The command that a step publishes. -/
def published (l : Label) : Option AbsoluteRequest :=
  (s.serve model cfg l).bind fun next => next.2.published

/-- The answer that a step gives. -/
def reply (l : Label) : Option Power.Reply :=
  (s.serve model cfg l).bind fun next => next.2.reply

end AbsoluteService

end Joint

end JointController
