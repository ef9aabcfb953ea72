import JointController.Joint.Absolute

/-!
# The service of the joint batches

`JointBatchControlSrv`: a request names some joints of the arms with their targets or changes.  It
is completed to fourteen targets with the positions of the other joints, and forwarded to the
service of the absolute targets.

* `BatchRequest`, `BatchControl.buildTarget`: the request, and the targets that it comes to.
* `BatchPhase`: where a callback of the service is between two of its steps.
* `BatchControl`: what the callbacks of the topics write, the clock, the flag and the callbacks.
* `BatchControl.step`: one atomic step of one of the callback threads.

The executor runs several callbacks of the service at once.  They exclude one another by the flag
`command_in_progress_`.  Times are in nanoseconds.
-/

open Checks NearestInteger

namespace JointController

namespace Joint

/-! ## Messages and parameters -/

/-- The `state` of `JointBatchExecutionStatus`. -/
inductive ExecutionState where
  | executing | succeeded | failed | rejected
  deriving DecidableEq

/-- `JointBatchExecutionStatus`, without its time stamp. -/
structure ExecutionStatus where
  commandSeq : ℕ
  state : ExecutionState
  sourceMode : ℕ
  accepted : Bool
  targetJoints : ArmPositions
  message : String

/-- `JointBatchControl::Request`. -/
structure BatchRequest where
  jointNames : List String
  values : List Double
  relative : Bool
  vel : Double
  acc : Double
  sourceMode : ℕ
  commandSeq : ℕ

/-- `JointBatchControl::Response`. -/
structure BatchResponse where
  accepted : Bool
  commandSeq : ℕ
  targetJoints : ArmPositions
  message : String

/-- The values of `source_mode`. -/
def manual : ℕ := 0

def trajectory : ℕ := 1

/-- The time-outs of the node, in milliseconds, and its limits. -/
structure BatchParameters where
  feedbackTimeoutMs : ℤ
  workspaceTimeoutMs : ℤ
  maxVelocityRadS : Double
  maxAccelerationRadS2 : Double
  maxSingleJointDeltaRad : Double
  noopJointToleranceRad : Double

/-- The place of a name among the canonical ones. -/
def canonicalIndex (name : String) : Option (Fin 14) :=
  (List.finRange 14).find? fun i => canonicalJointNames i = name

/-! ## The node -/

/-- Where a callback of the service is.  It is `entered` when it has set the flag, `snapped` with
the positions, `serving` while it waits for the other service, `sending` until its request is out,
`awaiting` the answer, and `leaving` when its last status is out. -/
inductive BatchPhase where
  | idle
  | entered (request : BatchRequest)
  | snapped (request : BatchRequest) (current : ArmPositions)
  | serving (request : BatchRequest) (target : ArmPositions)
  | sending (request : BatchRequest) (target : ArmPositions)
  | awaiting (request : BatchRequest) (target : ArmPositions)
  | leaving (response : BatchResponse)

/-- The members that the callbacks of the topics write, the clock, the flag and the callbacks of the
service.  Of the configuration only the variables of the arms are used. -/
structure BatchControl (ι : Type*) where
  qCurrent : ArmPositions
  latestJointStateComplete : Bool
  lastJointStateTime : ℤ
  lastMotionStatus : ArmMotionStatus
  hasMotionStatus : Bool
  lastMotionStatusTime : ℤ
  lastWorkspaceStatus : WorkspaceStatus
  hasWorkspaceStatus : Bool
  lastWorkspaceStatusTime : ℤ
  now : ℤ
  commandInProgress : Bool
  callbacks : ι → BatchPhase

/-- What a step of a callback publishes, sends to the other service and answers, and what it writes
to the flag. -/
structure BatchOutput where
  status : Option ExecutionStatus
  forwarded : Option AbsoluteRequest
  response : Option BatchResponse
  commandInProgress : Option Bool

/-- Where a step of a callback leads, with its output. -/
abbrev BatchNext := BatchPhase × BatchOutput

/-- Nothing is published, sent, answered or written. -/
def BatchPhase.quietly (phase : BatchPhase) : BatchNext := (phase, ⟨none, none, none, none⟩)

/-- A status is published. -/
def BatchPhase.publish (phase : BatchPhase) (status : ExecutionStatus) : BatchNext :=
  (phase, ⟨some status, none, none, none⟩)

/-- A status with the data of a request. -/
def BatchRequest.status (request : BatchRequest) (state : ExecutionState) (accepted : Bool)
    (target : ArmPositions) (message : String) : ExecutionStatus where
  commandSeq := request.commandSeq
  state := state
  sourceMode := request.sourceMode
  accepted := accepted
  targetJoints := target
  message := message

/-- The status of a request in front of its forwarding. -/
def BatchRequest.executing (request : BatchRequest) (target : ArmPositions) : ExecutionStatus :=
  request.status .executing true target "joint batch command forwarded to /arm_absolute_control"

/-- The response to a request. -/
def BatchRequest.respond (request : BatchRequest) (accepted : Bool) (target : ArmPositions)
    (message : String) : BatchResponse where
  accepted := accepted
  commandSeq := request.commandSeq
  targetJoints := target
  message := message

/-- The response is made, and its status published. -/
def BatchRequest.finish (request : BatchRequest) (state : ExecutionState) (accepted : Bool)
    (target : ArmPositions) (message : String) : BatchNext :=
  (BatchPhase.leaving (request.respond accepted target message)).publish
    (request.status state accepted target message)

/-- `reject`. -/
def BatchRequest.reject (request : BatchRequest) (target : ArmPositions) (message : String) :
    BatchNext :=
  request.finish .rejected false target message

/-- `makeAbsoluteRequest`. -/
def makeAbsoluteRequest (target : ArmPositions) (velocity acceleration : Double) :
    AbsoluteRequest :=
  ⟨target, velocity, acceleration⟩

namespace BatchControl

variable {ι : Type*} (model : ArmModel) (cfg : BatchParameters) (s : BatchControl ι)

/-- The node before its first messages. -/
def initial (now : ℤ) : BatchControl ι where
  qCurrent _ := 0
  latestJointStateComplete := false
  lastJointStateTime := 0
  lastMotionStatus := ⟨false, false⟩
  hasMotionStatus := false
  lastMotionStatusTime := 0
  lastWorkspaceStatus := .empty
  hasWorkspaceStatus := false
  lastWorkspaceStatusTime := 0
  now := now
  commandInProgress := false
  callbacks _ := .idle

/-! ## The topics -/

/-- The position of one joint of a message, unless the joint has one already. -/
def readPosition (snapshot : Fin 14 → Option Double) (entry : String × Double) :
    Fin 14 → Option Double :=
  match canonicalIndex entry.1 with
  | none => snapshot
  | some i =>
    if entry.2.isFinite ∧ snapshot i = none then Function.update snapshot i (some entry.2)
    else snapshot

/-- The positions in a message. -/
def readPositions (message : JointState) : Fin 14 → Option Double :=
  (message.name.zip message.position).foldl readPosition fun _ => none

/-- `handleJointState`. -/
def handleJointState (message : JointState) : BatchControl ι :=
  if ∀ i, readPositions message i ≠ none then
    { s with
      latestJointStateComplete := true
      qCurrent := fun i => (readPositions message i).getD 0
      lastJointStateTime := s.now }
  else { s with latestJointStateComplete := false }

/-- `handleMotionStatus`. -/
def handleMotionStatus (message : ArmMotionStatus) : BatchControl ι :=
  { s with
    lastMotionStatus := message
    hasMotionStatus := true
    lastMotionStatusTime := s.now }

/-- `handleWorkspaceStatus`. -/
def handleWorkspaceStatus (message : WorkspaceStatus) : BatchControl ι :=
  { s with
    lastWorkspaceStatus := message
    hasWorkspaceStatus := true
    lastWorkspaceStatusTime := s.now }

/-! ## A request -/

/-- A message is older than a time-out in milliseconds. -/
def Late (time timeoutMs : ℤ) : Prop := Power.milliseconds timeoutMs < s.now - time

instance (time timeoutMs : ℤ) : Decidable (s.Late time timeoutMs) :=
  inferInstanceAs (Decidable (_ < _))

/-- `snapshotCurrent`; the positions are `qCurrent`. -/
def snapshotCurrent : Except String Unit := do
  refuse (¬ s.hasWorkspaceStatus ∨ s.Late s.lastWorkspaceStatusTime cfg.workspaceTimeoutMs)
    "workspace status is unavailable or stale"
  refuse (¬ s.lastWorkspaceStatus.accepted ∨ s.lastWorkspaceStatus.state ≠ .running)
    "workspace must be RUNNING"
  refuse (¬ s.latestJointStateComplete ∨ s.Late s.lastJointStateTime cfg.feedbackTimeoutMs)
    "/arm/joint_states is incomplete or stale"
  refuse (¬ s.hasMotionStatus ∨ s.Late s.lastMotionStatusTime cfg.feedbackTimeoutMs)
    "motion status is unavailable or stale"
  refuse s.lastMotionStatus.isMoving "arm is already moving"

end BatchControl

/-- The checks of a request in front of its joints. -/
def BatchRequest.check (cfg : BatchParameters) (request : BatchRequest) : Except String Unit := do
  refuse (request.jointNames = [] ∨ 14 < request.jointNames.length ∨
      request.jointNames.length ≠ request.values.length)
    "joint_names and values must have the same size between 1 and 14"
  refuse (request.sourceMode ≠ manual ∧ request.sourceMode ≠ trajectory)
    "source_mode must be MANUAL or TRAJECTORY"
  refuse (¬ request.vel.isFinite ∨ request.vel ≤ 0 ∨ cfg.maxVelocityRadS < request.vel)
    ("vel must be finite, > 0, and <= " ++ fixedText cfg.maxVelocityRadS)
  refuse (¬ request.acc.isFinite ∨ request.acc ≤ 0 ∨ cfg.maxAccelerationRadS2 < request.acc)
    ("acc must be finite, > 0, and <= " ++ fixedText cfg.maxAccelerationRadS2)

/-- The targets after the joints of a request, as far as they are read, and what is wrong with
them.  `seen` are the names before. -/
def fillTarget (relative : Bool) (current : ArmPositions) :
    List (String × Double) → List String → ArmPositions → ArmPositions × Except String Unit
  | [], _, target => (target, .ok ())
  | (name, value) :: entries, seen, target =>
    match canonicalIndex name with
    | none => (target, .error ("unknown joint '" ++ name ++ "'"))
    | some i =>
      if name ∈ seen then (target, .error ("duplicate joint '" ++ name ++ "'"))
      else if ¬ value.isFinite then (target, .error "joint value must be finite")
      else
        fillTarget relative current entries (name :: seen)
          (Function.update target i (if relative then current i + value else value))

/-- The check of the target of a joint. -/
def checkReach (model : ArmModel) (cfg : BatchParameters) (current target : ArmPositions)
    (i : Fin 14) : Except String Unit := do
  refuse
    (¬ (target i).isFinite ∨ target i < model.lowerPositionLimit (model.canonicalModelIndex i) ∨
      model.upperPositionLimit (model.canonicalModelIndex i) < target i)
    ("target for " ++ canonicalJointNames i ++ " is outside URDF position limits")
  refuse (cfg.maxSingleJointDeltaRad < (target i - current i).abs)
    ("target delta for " ++ canonicalJointNames i ++ " exceeds " ++
      fixedText cfg.maxSingleJointDeltaRad ++ " rad")

/-- `buildTarget`: the targets as far as they are built, and what is wrong with the request. -/
def BatchRequest.buildTarget (model : ArmModel) (cfg : BatchParameters) (request : BatchRequest)
    (current : ArmPositions) : ArmPositions × Except String Unit :=
  match request.check cfg with
  | .error error => (fun _ => 0, .error error)
  | .ok _ =>
    let entries := request.jointNames.zip request.values
    match fillTarget request.relative current entries [] current with
    | (target, .error error) => (target, .error error)
    | (target, .ok _) => (target, (List.finRange 14).forM (checkReach model cfg current target))

/-- `already_at_target`. -/
def alreadyAtTarget (cfg : BatchParameters) (current target : ArmPositions) : Bool :=
  (List.finRange 14).all fun i =>
    decide ((target i - current i).abs ≤ cfg.noopJointToleranceRad)

/-- The text of a request that is rejected for a reason. -/
def rejectedText (error : String) : String := "joint batch command rejected: " ++ error

/-- A request from its snapshot to the wait for the other service. -/
def BatchRequest.proceed (model : ArmModel) (cfg : BatchParameters) (request : BatchRequest)
    (current : ArmPositions) : BatchNext :=
  match request.buildTarget model cfg current with
  | (target, .error error) => request.reject target (rejectedText error)
  | (target, .ok _) =>
    if alreadyAtTarget cfg current target then
      request.finish .succeeded true target "joint batch command already at target"
    else (BatchPhase.serving request target).quietly

/-! ## Steps -/

/-- One step of one thread, or of the world around the node.  The other service is available in time
or not, and its answer arrives in time or not. -/
inductive BatchLabel (ι : Type*) where
  | jointState (message : JointState)
  | motionStatus (message : ArmMotionStatus)
  | workspaceStatus (message : WorkspaceStatus)
  | elapse (nanoseconds : ℕ)
  | request (i : ι) (request : BatchRequest)
  | advance (i : ι)
  | service (i : ι) (available : Bool)
  | answer (i : ι) (reply : Option Power.Reply)

namespace BatchControl

variable {ι : Type*} (model : ArmModel) (cfg : BatchParameters) (s : BatchControl ι)

/-- The next step of a callback that does not depend on the other service. -/
def advance (i : ι) : Option BatchNext :=
  match s.callbacks i with
  | .entered request =>
    match s.snapshotCurrent cfg with
    | .error error => some (request.reject (fun _ => 0) (rejectedText error))
    | .ok _ => some (BatchPhase.snapped request s.qCurrent).quietly
  | .snapped request current => some (request.proceed model cfg current)
  | .sending request target =>
    some (.awaiting request target,
      ⟨none, some (makeAbsoluteRequest target request.vel request.acc), none, none⟩)
  | .leaving response => some (.idle, ⟨none, none, some response, some false⟩)
  | _ => none

/-- A request comes in.  One that finds the flag set is rejected. -/
def handleBatchRequest (request : BatchRequest) : BatchNext :=
  if s.commandInProgress then
    let message := rejectedText "another batch command is in progress"
    (.idle, ⟨some (request.status .rejected false (fun _ => 0) message), none,
      some (request.respond false (fun _ => 0) message), none⟩)
  else (.entered request, ⟨none, none, none, some true⟩)

/-- The wait for the other service is over. -/
def serviceWaited (i : ι) (available : Bool) : Option BatchNext :=
  match s.callbacks i with
  | .serving request target =>
    if available then
      some ((BatchPhase.sending request target).publish (request.executing target))
    else some (request.reject target (rejectedText "/arm_absolute_control is unavailable"))
  | _ => none

/-- The wait for the answer is over. -/
def answered (i : ι) (reply : Option Power.Reply) : Option BatchNext :=
  match s.callbacks i, reply with
  | .awaiting request target, some reply =>
    some (request.finish (if reply.success then .succeeded else .failed) reply.success target
      reply.message)
  | .awaiting request target, none =>
    some (request.reject target
      "joint batch command failed: timeout waiting for /arm_absolute_control")
  | _, _ => none

/-- What a callback of the service does in a step. -/
def serve : BatchLabel ι → Option (ι × BatchNext)
  | .request i request =>
    match s.callbacks i with
    | .idle => some (i, s.handleBatchRequest request)
    | _ => none
  | .advance i => (s.advance model cfg i).map (Prod.mk i)
  | .service i available => (s.serviceWaited i available).map (Prod.mk i)
  | .answer i reply => (s.answered i reply).map (Prod.mk i)
  | _ => none

/-- The status that a step publishes. -/
def published (l : BatchLabel ι) : Option (ι × ExecutionStatus) :=
  (s.serve model cfg l).bind fun next => next.2.2.status.map (Prod.mk next.1)

/-- What a step sends to the other service. -/
def forwarded (l : BatchLabel ι) : Option (ι × AbsoluteRequest) :=
  (s.serve model cfg l).bind fun next => next.2.2.forwarded.map (Prod.mk next.1)

/-- The response that a step gives. -/
def response (l : BatchLabel ι) : Option (ι × BatchResponse) :=
  (s.serve model cfg l).bind fun next => next.2.2.response.map (Prod.mk next.1)

/-- The next state. -/
def step [DecidableEq ι] (s : BatchControl ι) : BatchLabel ι → Option (BatchControl ι)
  | .jointState message => some (s.handleJointState message)
  | .motionStatus message => some (s.handleMotionStatus message)
  | .workspaceStatus message => some (s.handleWorkspaceStatus message)
  | .elapse nanoseconds => some { s with now := s.now + nanoseconds }
  | l => (s.serve model cfg l).map fun next =>
    { s with
      commandInProgress := next.2.2.commandInProgress.getD s.commandInProgress
      callbacks := Function.update s.callbacks next.1 next.2.1 }

end BatchControl

end Joint

end JointController
