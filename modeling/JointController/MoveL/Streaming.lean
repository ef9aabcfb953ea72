import JointController.Library.Double
import JointController.Library.Runs
import Mathlib.Data.Fintype.Basic

/-!
# The stream of a planned trajectory

The node takes single and path commands, plans each of them as a whole, and publishes the planned
joint points one by one from a timer.  The callbacks of its executor do not interrupt one another.
What the numerical planner returns is given with each command.

* `singleCmdCallback`, `pathCmdCallback`, `publishNext`, `jointStateCallback`: the callbacks.
* `step`, `published`: the state after a callback and what it publishes.
-/

namespace JointController

namespace MoveL

/-! ## Messages -/

inductive ExecutionState where
  | idle
  | planning
  | executing
  | streamFinished
  | failed
  | rejectedBusy
  deriving DecidableEq

structure CartesianExecutionStatus where
  state : ExecutionState
  plannedPoints : ℕ
  plannedDurationSec : Double
  message : String
  deriving DecidableEq

structure Robotarmservomsg where
  ljoint : Fin 7 → Double
  rjoint : Fin 7 → Double
  runMode : ℤ
  robotPower : Bool
  runTime : Double
  deriving DecidableEq

/-- What the node publishes on `/arm_axis_position_cmd` and on the topic of its status. -/
inductive Publication where
  | joints (msg : Robotarmservomsg)
  | status (msg : CartesianExecutionStatus)
  deriving DecidableEq

/-- The limits of a single command; its poses are read by the planner only. -/
structure Robotarmmovel where
  vel : Double
  acc : Double

/-- The orientation of a waypoint. -/
structure WaypointOrientation where
  w : Double
  x : Double
  y : Double
  z : Double

structure Robotarmmovelpath where
  useLeft : Bool
  useRight : Bool
  leftWaypoints : List WaypointOrientation
  leftBlendRadii : List Double
  rightWaypoints : List WaypointOrientation
  rightBlendRadii : List Double
  vel : Double
  acc : Double

structure JointState where
  name : List String
  position : List Double

/-! ## The node -/

inductive ActiveCommandSource where
  | none
  | single
  | path
  deriving DecidableEq

/-- What does not change: the joints of the model, those that planning requires, the joints of the
two arms among the `n` joints of a configuration, and the norm of a quaternion. -/
structure Robot (n : ℕ) where
  jointIndexMap : List String
  requiredPlanningJointNames : List String
  leftArmIndices : Fin 7 → Fin n
  rightArmIndices : Fin 7 → Fin n
  quaternionNorm : WaypointOrientation → Double

/-- A configuration of the joints. -/
abbrev Configuration (n : ℕ) := Fin n → Double

structure Node (n : ℕ) where
  receivedPlanningJointNames : List String := []
  jointTraj : List (Configuration n) := []
  trajIndex : ℕ := 0
  planningInProgress : Bool := false
  trajectoryActive : Bool := false
  activeCommandSource : ActiveCommandSource := .none
  lastPlannedPoints : ℕ := 0
  lastPlannedDurationSec : Double := 0
  lastExecutionState : ExecutionState := .idle
  lastPlanningFailureMessage : String := ""

/-- What `planTrajectory` returns: it fails, after it may have written a failure message, or it
leaves the points of a trajectory. -/
inductive Plan (n : ℕ) where
  | failed (message : Option String)
  | planned (points : List (Configuration n))

def offlineDt : Double := .finite (2 / 1000)

variable {n : ℕ}

namespace Node

variable (robot : Robot n) (node : Node n)

def isPlanningStateReady : Bool :=
  !robot.requiredPlanningJointNames.isEmpty &&
    decide (node.receivedPlanningJointNames.length = robot.requiredPlanningJointNames.length)

def jointStateCallback (msg : JointState) : Node n :=
  { node with
    receivedPlanningJointNames := (msg.name.take msg.position.length).foldl
      (fun received name =>
        if name ∈ robot.jointIndexMap ∧ name ∈ robot.requiredPlanningJointNames then
          received.insert name
        else received) node.receivedPlanningJointNames }

def publishExecutionStatus (state : ExecutionState) (message : String) :
    Node n × List Publication :=
  ({ node with lastExecutionState := state },
    [.status {
      state
      plannedPoints := node.lastPlannedPoints % 2 ^ 32
      plannedDurationSec := node.lastPlannedDurationSec
      message }])

def setPlanningFailureMessage (message : String) : Node n :=
  { node with lastPlanningFailureMessage := message }

def planningFailureMessageOr (fallback : String) : String :=
  if node.lastPlanningFailureMessage.isEmpty then fallback else node.lastPlanningFailureMessage

/-! ## Validation -/

def validateSingleCommand (cmd : Robotarmmovel) : Except String Unit :=
  if cmd.vel ≤ 0 ∨ cmd.acc ≤ 0 then .error "vel and acc must be positive" else .ok ()

/-- The checks of one arm in `validateCommand`. -/
def validateArm (use : Bool) (waypoints : List WaypointOrientation) (blendRadii : List Double)
    (emptyError sizeError disabledError : String) : Except String Unit :=
  if use then
    if waypoints.isEmpty then .error emptyError
    else if ¬blendRadii.isEmpty ∧
        blendRadii.length ≠ (if 0 < waypoints.length then waypoints.length - 1 else 0) then
      .error sizeError
    else .ok ()
  else if ¬waypoints.isEmpty ∨ ¬blendRadii.isEmpty then .error disabledError
  else .ok ()

def validateCommand (cmd : Robotarmmovelpath) : Except String Unit := do
  if !cmd.useLeft && !cmd.useRight then .error "At least one arm must be enabled"
  if cmd.vel ≤ 0 ∨ cmd.acc ≤ 0 then .error "vel and acc must be positive"
  validateArm cmd.useLeft cmd.leftWaypoints cmd.leftBlendRadii
    "Left arm is enabled but left_waypoints is empty"
    "left_blend_radii size does not match left_waypoints"
    "Left arm is disabled but left path data is not empty"
  validateArm cmd.useRight cmd.rightWaypoints cmd.rightBlendRadii
    "Right arm is enabled but right_waypoints is empty"
    "right_blend_radii size does not match right_waypoints"
    "Right arm is disabled but right path data is not empty"
  if cmd.leftBlendRadii.any (fun r => decide (r < 0)) ∨
      cmd.rightBlendRadii.any (fun r => decide (r < 0)) then
    .error "Blend radius must be non-negative"

/-- `parsePose`, as far as it can fail. -/
def parsePose (orientation : WaypointOrientation) : Except String Unit :=
  if robot.quaternionNorm orientation < .finite (1 / 10 ^ 8) then
    .error "Pose quaternion norm is zero"
  else .ok ()

def buildNormalizedPathRequest (cmd : Robotarmmovelpath) : Except String Unit := do
  cmd.leftWaypoints.forM (parsePose robot)
  cmd.rightWaypoints.forM (parsePose robot)

/-! ## The callbacks of the commands -/

/-- The planned trajectory after `planTrajectory`. -/
def planTrajectory (plan : Plan n) : Node n × Bool :=
  match plan with
  | .failed none => (node, false)
  | .failed (some message) => (node.setPlanningFailureMessage message, false)
  | .planned points => ({ node with jointTraj := points }, !points.isEmpty)

/-- The trajectory is dropped after planning has failed. -/
def dropTrajectory : Node n :=
  { node with
    jointTraj := []
    trajIndex := 0
    trajectoryActive := false
    activeCommandSource := .none }

/-- The trajectory begins. -/
def startTrajectory (source : ActiveCommandSource) : Node n :=
  { node with
    lastPlannedPoints := node.jointTraj.length
    lastPlannedDurationSec := .finite node.jointTraj.length * offlineDt
    trajIndex := 0
    trajectoryActive := true
    activeCommandSource := source }

def resetPlan : Node n :=
  { node with lastPlannedPoints := 0, lastPlannedDurationSec := 0 }

/-- `singleCmdCallback` from the status of planning on. -/
def planSingle (plan : Plan n) : Node n × List Publication :=
  let planning := node.publishExecutionStatus .planning "Planning single MoveL trajectory"
  let (node, ok) := planning.1.planTrajectory plan
  if !ok || node.jointTraj.isEmpty then
    let node := node.dropTrajectory
    let failed := node.publishExecutionStatus .failed
      (node.planningFailureMessageOr "Single MoveL planning failed")
    (failed.1, planning.2 ++ failed.2)
  else
    let executing := (node.startTrajectory .single).publishExecutionStatus .executing
      "Streaming planned single MoveL trajectory"
    (executing.1, planning.2 ++ executing.2)

/-- `pathCmdCallback` from the status of planning on. -/
def planPath (plan : Plan n) : Node n × List Publication :=
  let planning := node.publishExecutionStatus .planning "Planning path trajectory"
  let (node, ok) := planning.1.planTrajectory plan
  if !ok || node.jointTraj.isEmpty then
    let node := node.dropTrajectory
    let failureMessage := node.planningFailureMessageOr "Path trajectory planning failed"
    let failed := node.resetPlan.publishExecutionStatus .failed failureMessage
    (failed.1, planning.2 ++ failed.2)
  else
    let executing := (node.startTrajectory .path).publishExecutionStatus .executing
      "Streaming planned path trajectory"
    (executing.1, planning.2 ++ executing.2)

def singleCmdCallback (msg : Option Robotarmmovel) (plan : Plan n) : Node n × List Publication :=
  match msg with
  | none => (node, [])
  | some msg =>
    let node := (node.setPlanningFailureMessage "").resetPlan
    if !node.isPlanningStateReady robot then
      let failureMessage := "Cannot plan single MoveL before planning joints are ready"
      (node.setPlanningFailureMessage failureMessage).publishExecutionStatus .failed failureMessage
    else if node.planningInProgress || node.trajectoryActive then
      let failureMessage := "Unified planner is busy, ignoring single MoveL command"
      (node.setPlanningFailureMessage failureMessage).publishExecutionStatus .rejectedBusy
        failureMessage
    else
      match validateSingleCommand msg with
      | .error error =>
        let failureMessage := "Rejected single MoveL command: " ++ error
        (node.setPlanningFailureMessage failureMessage).publishExecutionStatus .failed
          failureMessage
      | .ok () =>
        node.planSingle plan

def pathCmdCallback (msg : Robotarmmovelpath) (plan : Plan n) : Node n × List Publication :=
  let node := (node.setPlanningFailureMessage "").resetPlan
  if !node.isPlanningStateReady robot then
    node.publishExecutionStatus .failed "Cannot plan path before planning joints are ready"
  else if node.planningInProgress || node.trajectoryActive then
    node.resetPlan.publishExecutionStatus .rejectedBusy "Path planner is busy"
  else
    match validateCommand msg with
    | .error error =>
      node.resetPlan.publishExecutionStatus .failed ("Rejected path command: " ++ error)
    | .ok () =>
      match buildNormalizedPathRequest robot msg with
      | .error error =>
        (node.setPlanningFailureMessage
          ("stage=normalize_path_request source=path reason=" ++ error)).publishExecutionStatus
            .failed ("Failed to normalize path command: " ++ error)
      | .ok () =>
        node.resetPlan.planPath plan

/-! ## The timer -/

/-- The servo message of a configuration. -/
def servoMessage (q : Configuration n) : Robotarmservomsg where
  ljoint i := q (robot.leftArmIndices i)
  rjoint i := q (robot.rightArmIndices i)
  runMode := 2
  robotPower := true
  runTime := offlineDt

/-- The status of a stream that has come to its end. -/
def publishFinished (completedSource : ActiveCommandSource) : Node n × List Publication :=
  match completedSource with
  | .path => node.publishExecutionStatus .streamFinished "Path trajectory published completely"
  | .single =>
    node.publishExecutionStatus .streamFinished "Single MoveL trajectory published completely"
  | .none => (node, [])

def publishNext : Node n × List Publication :=
  if !node.trajectoryActive then (node, [])
  else
    match node.jointTraj[node.trajIndex]? with
    | none => (node, [])
    | some q =>
      let next := { node with trajIndex := node.trajIndex + 1 }
      if next.jointTraj.length ≤ next.trajIndex then
        let finished := ({ next with
          trajectoryActive := false
          jointTraj := []
          trajIndex := 0
          activeCommandSource := .none }).publishFinished node.activeCommandSource
        (finished.1, .joints (servoMessage robot q) :: finished.2)
      else (next, [.joints (servoMessage robot q)])

end Node

/-! ## The system -/

/-- The callbacks, each with its message and with what the planner returns in it. -/
inductive Callback (n : ℕ) where
  | singleCmd (msg : Option Robotarmmovel) (plan : Plan n)
  | pathCmd (msg : Robotarmmovelpath) (plan : Plan n)
  | publishTimer
  | jointState (msg : JointState)

variable (robot : Robot n)

/-- A callback runs to its end. -/
def Node.run (node : Node n) : Callback n → Node n × List Publication
  | .singleCmd msg plan => node.singleCmdCallback robot msg plan
  | .pathCmd msg plan => node.pathCmdCallback robot msg plan
  | .publishTimer => node.publishNext robot
  | .jointState msg => (node.jointStateCallback robot msg, [])

/-- The state after a callback; none is disabled. -/
def Node.step (node : Node n) (callback : Callback n) : Option (Node n) :=
  some (node.run robot callback).1

/-- What a callback publishes. -/
def Node.published (node : Node n) (callback : Callback n) : List Publication :=
  (node.run robot callback).2

end MoveL

end JointController
