import Mathlib.Data.Int.Notation
import Mathlib.Data.List.Basic

/-!
# What the workspace supervisor looks for

The checks of the supervisor are functions of what it sees of the ROS graph, the processes and the
hardware feedback.  Each check gives the issues as texts.

* `Snapshot`: what is seen at one time.
* `unmanagedStackIssues`: what is left of a stack that has stopped.
* `readinessIssues`: what is missing of a stack that has started.
* `unmanagedStackIssues_ne_nil`: a stack that is ready is not gone.
* `readinessIssues_ready`, `unmanagedStackIssues_empty`: both kinds of checks can be passed.
-/

namespace JointController.Workspace

/-- The units that the supervisor manages. -/
inductive ManagedUnit where
  | simulationStack
  | realStack
  | legacyStack
  | bootRobot
  | rviz
  deriving DecidableEq

/-- The name of a unit. -/
def ManagedUnit.name : ManagedUnit → String
  | simulationStack => "joint-controller-stack-sim.service"
  | realStack => "joint-controller-stack-real.service"
  | legacyStack => "joint-controller-stack.service"
  | bootRobot => "robot.service"
  | rviz => "joint-controller-rviz.service"

/-- `join`. -/
def join (values : List String) : String := String.intercalate ", " values

/-- `ArmPowerStatus`. -/
structure ArmPowerStatus where
  jointNames : List String
  statusCodes : List ℤ
  enabled : List Bool
  commandEnabled : Bool
  allEnabled : Bool

/-- The status text of the lift driver, with what `json_bool`, `json_integer` and the search for the
CiA402 state find in it. -/
structure LiftStatus where
  jsonBool : String → Bool
  jsonInteger : String → Option ℤ
  operationEnabled : Bool

/-- `json_integer` with its fallback. -/
def LiftStatus.integer (status : LiftStatus) (key : String) (fallback : ℤ) : ℤ :=
  (status.jsonInteger key).getD fallback

/-- The last sample of a topic, with its time in nanoseconds. -/
structure Sample (α : Type) where
  value : α
  receivedAt : ℕ

/-- `ManagedProcess`. -/
structure ManagedProcess where
  pid : ℕ
  command : String

/-- What the queries of the ROS graph give. -/
structure RosGraph where
  serviceTypes : String → Option (List String)
  serviceOwners : String → Option (List String)
  publishers : String → ℕ
  nodeNames : List String

/-- What the supervisor sees, apart from the units.  A query of the graph may fail. -/
structure Snapshot where
  graph : Except String RosGraph
  stackProcesses : List ManagedProcess
  ighDriverProcesses : List ManagedProcess
  powerStatus : Option (Sample ArmPowerStatus)
  liftStatus : Option (Sample LiftStatus)

/-! ## The arm -/

/-- `expected_arm_joint_names`. -/
def expectedArmJointNames : List String :=
  ["ljoint1", "ljoint2", "ljoint3", "ljoint4", "ljoint5", "ljoint6", "ljoint7",
    "rjoint1", "rjoint2", "rjoint3", "rjoint4", "rjoint5", "rjoint6", "rjoint7"]

/-- `kArmAxisCount`. -/
def armAxisCount : ℕ := 14

/-- `arm_feedback_array_issue`. -/
def armFeedbackArrayIssue (status : ArmPowerStatus) : Option String :=
  if status.jointNames.length ≠ armAxisCount ∨ status.statusCodes.length ≠ armAxisCount ∨
      status.enabled.length ≠ armAxisCount then
    some ("REAL drive feedback has invalid array sizes: names=" ++
      toString status.jointNames.length ++ " status_codes=" ++
      toString status.statusCodes.length ++ " enabled=" ++
      toString status.enabled.length ++ " (expected 14 each)")
  else none

/-- A joint name that is not the expected one. -/
def mappingIssue (row : (String × String) × ℕ) : Option String :=
  if row.1.1 ≠ row.1.2 then
    some ("REAL drive mapping mismatch at index " ++ toString row.2 ++ ": got=" ++ row.1.1 ++
      " expected=" ++ row.1.2)
  else none

/-- A drive without a status. -/
def unavailableDrive (row : String × ℤ) : Option String :=
  if row.2 = 0 then some (row.1 ++ "(status=0/unavailable)") else none

/-- `collect_arm_drive_issues`. -/
def collectArmDriveIssues (status : ArmPowerStatus) : List String :=
  let unavailable := (status.jointNames.zip status.statusCodes).filterMap unavailableDrive
  (status.jointNames.zip expectedArmJointNames).zipIdx.filterMap mappingIssue ++
    if unavailable.isEmpty then []
    else ["REAL EtherCAT drives unavailable: " ++ join unavailable]

/-- `collect_startup_arm_power_issues`. -/
def collectStartupArmPowerIssues (status : ArmPowerStatus) (requireStartupPowerOff : Bool) :
    List String :=
  let enabledDrives := ((status.jointNames.zip status.enabled).filter Prod.snd).map Prod.fst
  if ¬ requireStartupPowerOff then []
  else if ¬ status.commandEnabled ∧ ¬ status.allEnabled ∧ enabledDrives.isEmpty then []
  else
    ["REAL startup is not in a confirmed power-off state: command_enabled=" ++
      (if status.commandEnabled then "true" else "false") ++ " all_enabled=" ++
      (if status.allEnabled then "true" else "false") ++ " enabled_drives=[" ++
      join enabledDrives ++ "]"]

/-! ## The lift -/

/-- An issue if a condition holds. -/
def issueIf (condition : Bool) (issue : String) : List String :=
  if condition then [issue] else []

/-- What a lift status tells. -/
def liftStatusIssues (status : LiftStatus) (requireStartupPowerOff : Bool) : List String :=
  let statusWord := status.integer "status_word" 0
  let errorCode := status.integer "error_code" (-1)
  let mode := status.integer "mode_display" (-1)
  issueIf (!status.jsonBool "initialized") "REAL lift hardware is not initialized" ++
    issueIf (!status.jsonBool "ethercat_operational")
      "REAL lift EtherCAT link is not operational" ++
    issueIf (!status.jsonBool "feedback_fresh")
      "REAL lift PDO feedback is unavailable or stale" ++
    issueIf (!status.jsonBool "working_counter_ok")
      "REAL lift PDO working counter is incomplete" ++
    issueIf (statusWord == 0) "REAL lift status_word=0/unavailable" ++
    issueIf (errorCode != 0) ("REAL lift error_code=" ++ toString errorCode) ++
    issueIf (mode != 9) ("REAL lift mode_display=" ++ toString mode ++ " (expected 9)") ++
    issueIf (requireStartupPowerOff && (status.jsonBool "power_enable_command" ||
        status.jsonBool "power_enabled" || status.operationEnabled))
      "REAL lift startup is not in a confirmed power-off state"

/-- A duration in whole milliseconds. -/
def toMs (ns : ℕ) : ℕ := ns / 1000000

/-- The observation of the hardware: its start, the time-out of the feedback in milliseconds, and
the time of the look. -/
structure Observation where
  lifecycleStartedAt : ℕ
  hardwareFeedbackTimeoutMs : ℕ
  now : ℕ

/-- The age of a sample. -/
def Observation.ageMs (o : Observation) {α : Type} (sample : Sample α) : ℕ :=
  toMs (o.now - sample.receivedAt)

/-- `collect_lift_hardware_issues`. -/
def collectLiftHardwareIssues (o : Observation) (snapshot : Snapshot)
    (requireStartupPowerOff : Bool) : List String :=
  match snapshot.liftStatus with
  | none => ["REAL lift feedback unavailable: no fresh driver_status sample"]
  | some sample =>
    if sample.receivedAt < o.lifecycleStartedAt then
      ["REAL lift feedback unavailable: no fresh driver_status sample"]
    else if o.hardwareFeedbackTimeoutMs < o.ageMs sample then
      ["REAL lift feedback stale: age=" ++ toString (o.ageMs sample) ++ "ms"]
    else liftStatusIssues sample.value requireStartupPowerOff

/-- What the power status tells, and then the lift. -/
def armStatusIssues (o : Observation) (snapshot : Snapshot) (requireStartupPowerOff : Bool)
    (status : ArmPowerStatus) : List String :=
  match armFeedbackArrayIssue status with
  | some issue => [issue]
  | none =>
    collectArmDriveIssues status ++ collectStartupArmPowerIssues status requireStartupPowerOff ++
      collectLiftHardwareIssues o snapshot requireStartupPowerOff

/-- `collect_real_hardware_issues`. -/
def collectRealHardwareIssues (o : Observation) (snapshot : Snapshot)
    (requireStartupPowerOff : Bool) : List String :=
  issueIf (snapshot.ighDriverProcesses.length != 1)
      ("REAL EtherCAT backend process count=" ++ toString snapshot.ighDriverProcesses.length ++
        " (expected 1 IGH driver)") ++
    match snapshot.powerStatus with
    | none => ["REAL hardware feedback unavailable: no fresh /arm/power_status sample"]
    | some sample =>
      if sample.receivedAt < o.lifecycleStartedAt then
        ["REAL hardware feedback unavailable: no fresh /arm/power_status sample"]
      else if o.hardwareFeedbackTimeoutMs < o.ageMs sample then
        ["REAL hardware feedback stale: age=" ++ toString (o.ageMs sample) ++ "ms"]
      else armStatusIssues o snapshot requireStartupPowerOff sample.value

/-! ## The stack -/

/-- The services that a stack has to offer, with their types. -/
def requiredServices : List (String × String) :=
  [("/set_arm_control_mode", "robot_control_msg/srv/SetArmControlMode"),
    ("/set_robot_power", "robot_control_msg/srv/SetRobotPower"),
    ("/arm_absolute_control", "robot_control_msg/srv/JointAbsoluteControl"),
    ("/arm/joint_batch_control", "robot_control_msg/srv/JointBatchControl"),
    ("/cartesian_absolute_control", "robot_control_msg/srv/CartesianAbsoluteControl"),
    ("/cartesian_increment_control", "robot_control_msg/srv/CartesianIncrementControl")]

/-- The topics that a stack has to publish. -/
def requiredTopics : List String :=
  ["/arm/power_status", "/arm/control_mode_status", "/arm/joint_states", "/arm_tcp_pose",
    "/arm/arm_controller/motion_status", "/arm_cartesian_path_execution_status",
    "/arm/joint_batch_execution_status", "/joint/lift/driver_status"]

/-- The nodes that there has to be once. -/
def uniqueNodes : List String :=
  ["/cartesian_single_control_srv", "/cartesian_moveL_path",
    "/cartesian_path_absolute_control_srv", "/cartesian_path_increment_control_srv",
    "/lift/controller_manager", "/lift/lift_controller"]

/-- `require_service`. -/
def requireService (graph : RosGraph) (service : String × String) : Option String :=
  match graph.serviceTypes service.1 with
  | none => some ("missing service " ++ service.1)
  | some types =>
    if service.2 ∈ types then none else some ("wrong type for service " ++ service.1)

/-- A topic that nobody publishes. -/
def publisherIssue (graph : RosGraph) (topic : String) : Option String :=
  if graph.publishers topic = 0 then some ("no publisher for " ++ topic) else none

/-- A node that there is not once. -/
def nodeIssue (graph : RosGraph) (node : String) : Option String :=
  let count := graph.nodeNames.count node
  if count ≠ 1 then
    some ("node count " ++ node ++ "=" ++ toString count ++ " (expected 1)")
  else none

/-- What `collect_readiness_issues` finds once the unit is active. -/
def readinessIssues (unit : ManagedUnit) (o : Observation) (snapshot : Snapshot)
    (requireStartupPowerOff : Bool) : List String :=
  match snapshot.graph with
  | .error what => ["ROS graph query failed: " ++ what]
  | .ok graph =>
    requiredServices.filterMap (requireService graph) ++
      requiredTopics.filterMap (publisherIssue graph) ++
      uniqueNodes.filterMap (nodeIssue graph) ++
      if unit = .realStack then collectRealHardwareIssues o snapshot requireStartupPowerOff else []

/-! ## What is left of a stack -/

/-- The services of a native stack. -/
def nativeServices : List String :=
  ["/set_robot_power", "/set_arm_control_mode", "/arm_absolute_control",
    "/arm/joint_batch_control", "/cartesian_absolute_control", "/cartesian_increment_control"]

/-- The nodes of a control stack. -/
def controlNodes : List String :=
  ["/arm/controller_manager", "/arm/erobot_controller_arm", "/arm/command_processor",
    "/lift/controller_manager", "/lift/lift_controller"]

/-- A service that is still offered, with its owners. -/
def nativeServiceIssue (graph : RosGraph) (service : String) : Option String :=
  match graph.serviceTypes service with
  | none => none
  | some _ =>
    let owners := (graph.serviceOwners service).getD []
    some ("native service server remains visible: " ++ service ++
      if owners.isEmpty then "" else " (owner=" ++ join owners ++ ")")

/-- A node that is still there. -/
def controlNodeIssue (graph : RosGraph) (node : String) : Option String :=
  if node ∈ graph.nodeNames then some ("control node remains visible: " ++ node) else none

/-- `describe_process`. -/
def describeProcess (process : ManagedProcess) : String :=
  "residual process pid=" ++ toString process.pid ++ " cmd='" ++ process.command ++ "'"

/-- `collect_unmanaged_stack_issues`. -/
def unmanagedStackIssues (snapshot : Snapshot) : List String :=
  match snapshot.graph with
  | .error what => ["ROS graph query failed: " ++ what]
  | .ok graph =>
    nativeServices.filterMap (nativeServiceIssue graph) ++
      controlNodes.filterMap (controlNodeIssue graph) ++
      issueIf (graph.publishers "/arm/power_status" != 0)
        "power feedback publisher remains visible" ++
      issueIf (graph.publishers "/joint/lift/driver_status" != 0)
        "lift driver feedback publisher remains visible" ++
      snapshot.stackProcesses.map describeProcess

/-- A stack that is ready is not gone: its power status still has a publisher. -/
theorem unmanagedStackIssues_ne_nil {unit : ManagedUnit} {o : Observation} {snapshot : Snapshot}
    {requireStartupPowerOff : Bool}
    (h : readinessIssues unit o snapshot requireStartupPowerOff = []) :
    unmanagedStackIssues snapshot ≠ [] := by
  unfold readinessIssues at h
  unfold unmanagedStackIssues
  split at h
  · cases h
  · rename_i graph _
    obtain ⟨⟨⟨-, htopics⟩, -⟩, -⟩ :=
      (List.append_eq_nil_iff.mp h).imp_left fun hrest =>
        (List.append_eq_nil_iff.mp hrest).imp_left List.append_eq_nil_iff.mp
    have hpower : publisherIssue graph "/arm/power_status" = none :=
      List.filterMap_eq_nil_iff.mp htopics _ List.mem_cons_self
    have hpublished : graph.publishers "/arm/power_status" ≠ 0 := by
      intro hzero
      unfold publisherIssue at hpower
      rw [if_pos hzero] at hpower
      cases hpower
    intro hnil
    obtain ⟨⟨⟨-, hissue⟩, -⟩, -⟩ :=
      (List.append_eq_nil_iff.mp hnil).imp_left fun hrest =>
        (List.append_eq_nil_iff.mp hrest).imp_left List.append_eq_nil_iff.mp
    unfold issueIf at hissue
    rw [if_pos (bne_iff_ne.mpr hpublished)] at hissue
    cases hissue

/-! ## A host with a stack and one without -/

/-- A host without a stack. -/
def Snapshot.empty : Snapshot where
  graph := .ok ⟨fun _ => none, fun _ => none, fun _ => 0, []⟩
  stackProcesses := []
  ighDriverProcesses := []
  powerStatus := none
  liftStatus := none

/-- The graph of a stack that is ready. -/
def RosGraph.ready : RosGraph where
  serviceTypes _ := some (requiredServices.map Prod.snd)
  serviceOwners _ := none
  publishers _ := 1
  nodeNames := uniqueNodes

/-- Drives that are there, without power. -/
def ArmPowerStatus.poweredOff : ArmPowerStatus where
  jointNames := expectedArmJointNames
  statusCodes := List.replicate armAxisCount 1
  enabled := List.replicate armAxisCount false
  commandEnabled := false
  allEnabled := false

/-- A lift that is there, without power. -/
def LiftStatus.poweredOff : LiftStatus where
  jsonBool key := decide
    (key ∈ ["initialized", "ethercat_operational", "feedback_fresh", "working_counter_ok"])
  jsonInteger key :=
    if key = "status_word" then some 1 else if key = "error_code" then some 0 else some 9
  operationEnabled := false

/-- A host with a stack that is ready, at a time. -/
def Snapshot.ready (now : ℕ) : Snapshot where
  graph := .ok .ready
  stackProcesses := []
  ighDriverProcesses := [⟨1, "igh_driver"⟩]
  powerStatus := some ⟨.poweredOff, now⟩
  liftStatus := some ⟨.poweredOff, now⟩

theorem unmanagedStackIssues_empty : unmanagedStackIssues .empty = [] := by decide

/-- Without a stack no stack is ready. -/
theorem readinessIssues_empty (unit : ManagedUnit) (o : Observation)
    (requireStartupPowerOff : Bool) :
    readinessIssues unit o .empty requireStartupPowerOff ≠ [] := fun hready =>
  unmanagedStackIssues_ne_nil hready unmanagedStackIssues_empty

variable {o : Observation}

/-- A sample that has just come in has no age. -/
theorem Observation.not_stale {α : Type} (value : α) :
    ¬ o.hardwareFeedbackTimeoutMs < o.ageMs (⟨value, o.now⟩ : Sample α) := by
  unfold Observation.ageMs
  rw [Nat.sub_self]
  exact Nat.not_lt_zero _

theorem collectLiftHardwareIssues_ready (hstarted : o.lifecycleStartedAt ≤ o.now) :
    collectLiftHardwareIssues o (.ready o.now) true = [] := by
  unfold collectLiftHardwareIssues Snapshot.ready
  dsimp only
  rw [if_neg (Nat.not_lt.mpr hstarted), if_neg (Observation.not_stale _)]
  decide

theorem collectRealHardwareIssues_ready (hstarted : o.lifecycleStartedAt ≤ o.now) :
    collectRealHardwareIssues o (.ready o.now) true = [] := by
  have harm : armStatusIssues o (.ready o.now) true .poweredOff = [] := by
    have hdrives : collectArmDriveIssues .poweredOff = [] := by decide
    have hpower : collectStartupArmPowerIssues .poweredOff true = [] := by decide
    unfold armStatusIssues
    rw [show armFeedbackArrayIssue .poweredOff = none from rfl]
    dsimp only
    rw [hdrives, hpower, collectLiftHardwareIssues_ready hstarted]
    rfl
  unfold collectRealHardwareIssues
  show [] ++ (if o.now < _ then _ else if _ then _ else _) = []
  rw [if_neg (Nat.not_lt.mpr hstarted), if_neg (Observation.not_stale _), harm]
  rfl

/-- A stack that is ready has no issue, whichever unit it belongs to. -/
theorem readinessIssues_ready (unit : ManagedUnit) (hstarted : o.lifecycleStartedAt ≤ o.now) :
    readinessIssues unit o (.ready o.now) true = [] := by
  have hservices : requiredServices.filterMap (requireService .ready) = [] := by decide
  have htopics : requiredTopics.filterMap (publisherIssue .ready) = [] := by decide
  have hnodes : uniqueNodes.filterMap (nodeIssue .ready) = [] := by decide
  show _ ++ _ ++ _ ++ _ = []
  rw [hservices, htopics, hnodes]
  split
  · exact collectRealHardwareIssues_ready hstarted
  · rfl

end JointController.Workspace
