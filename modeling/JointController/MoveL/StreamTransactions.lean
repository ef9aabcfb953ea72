import JointController.Library.Outputs
import JointController.MoveL.Streaming

/-!
# Every accepted command is streamed as a whole

* `admits`, `accepted`, `Refused`: the commands that the node takes, their points, and the others.
* `refusal_of_refused`, `planning_of_admits`: what a command does.
* `Sound`, `OwnPlan`: the invariants of the stream.
* `streams_transactions`: the points of every accepted command and one status of its end.
-/

namespace JointController

namespace MoveL

open Runs

variable {n : ℕ} (robot : Robot n)

/-! ## Accepted and refused commands -/

/-- The command is valid. -/
def Callback.valid : Callback n → Bool
  | .singleCmd (some msg) _ => (Node.validateSingleCommand msg).isOk
  | .pathCmd msg _ =>
    (Node.validateCommand msg).isOk && (Node.buildNormalizedPathRequest robot msg).isOk
  | _ => false

/-- The callback brings a command. -/
def Callback.isCommand : Callback n → Bool
  | .singleCmd (some _) _ => true
  | .pathCmd _ _ => true
  | _ => false

/-- Where the trajectory of a command comes from. -/
def Callback.source : Callback n → ActiveCommandSource
  | .singleCmd _ _ => .single
  | .pathCmd _ _ => .path
  | _ => .none

/-- The points that the planner returns in the callback. -/
def Callback.points : Callback n → List (Configuration n)
  | .singleCmd _ (.planned points) => points
  | .pathCmd _ (.planned points) => points
  | _ => []

/-- The command is planned: the planning joints are ready, the planner is not busy, and the command
is valid. -/
def Node.admits (node : Node n) (callback : Callback n) : Bool :=
  node.isPlanningStateReady robot && !(node.planningInProgress || node.trajectoryActive) &&
    callback.valid robot

/-- The command is refused, because the planning joints are not ready, because the planner is busy,
or because it is invalid. -/
def Refused (node : Node n) (callback : Callback n) : Prop :=
  callback.isCommand = true ∧ node.admits robot callback = false

instance (node : Node n) (callback : Callback n) : Decidable (Refused robot node callback) :=
  inferInstanceAs (Decidable (_ ∧ _))

/-- A command that is accepted: where it comes from and the points planned for it. -/
structure Acceptance (n : ℕ) where
  source : ActiveCommandSource
  points : List (Configuration n)

/-- The command that a callback accepts: it is planned, and there are points. -/
def Node.accepted (node : Node n) (callback : Callback n) : List (Acceptance n) :=
  if node.admits robot callback && !callback.points.isEmpty then
    [⟨callback.source, callback.points⟩]
  else []

/-! ## What a command does -/

/-- What a refused command leaves. -/
structure Leaves (node node' : Node n) : Prop where
  jointTraj_eq : node'.jointTraj = node.jointTraj
  trajIndex_eq : node'.trajIndex = node.trajIndex
  trajectoryActive_eq : node'.trajectoryActive = node.trajectoryActive
  activeCommandSource_eq : node'.activeCommandSource = node.activeCommandSource
  planningInProgress_eq : node'.planningInProgress = node.planningInProgress

/-- The plan data that the status reports. -/
structure SamePlan (node node' : Node n) : Prop where
  lastPlannedPoints_eq : node'.lastPlannedPoints = node.lastPlannedPoints
  lastPlannedDurationSec_eq : node'.lastPlannedDurationSec = node.lastPlannedDurationSec

/-- The messages that belong to streams: joint points and the status of an end. -/
def Publication.streamed : Publication → Bool
  | .joints _ => true
  | .status msg => msg.state == .streamFinished

/-- What a callback streams. -/
def Node.streams (node : Node n) (callback : Callback n) : List Publication :=
  (node.published robot callback).filter Publication.streamed

/-- The plan data after a command that was not accepted. -/
def NoPlan (node : Node n) : Prop :=
  node.lastPlannedPoints = 0 ∧ node.lastPlannedDurationSec = 0

variable {robot} {node : Node n} {callback : Callback n}

/-- The effect of a refusal: the trajectory and the cursor stay, the plan data is reset, and nothing
is streamed. -/
structure Refusal (node : Node n) (out : Node n × List Publication) : Prop where
  leaves : Leaves node out.1
  noPlan : NoPlan out.1
  streams : out.2.filter Publication.streamed = []

theorem admits_of (hready : ¬(!node.isPlanningStateReady robot) = true)
    (hbusy : ¬(node.planningInProgress || node.trajectoryActive) = true)
    (hvalid : callback.valid robot = true) : node.admits robot callback = true := by
  rw [Bool.not_eq_true', Bool.not_eq_false] at hready
  rw [Node.admits, hready, Bool.eq_false_iff.mpr hbusy, hvalid]
  rfl

theorem single_refused {msg : Robotarmmovel} {plan : Plan n}
    (h : node.admits robot (.singleCmd (some msg) plan) = false) :
    Refusal node (node.singleCmdCallback robot (some msg) plan) := by
  simp only [Node.singleCmdCallback]
  split_ifs with hready hbusy
  · exact ⟨⟨rfl, rfl, rfl, rfl, rfl⟩, ⟨rfl, rfl⟩, rfl⟩
  · exact ⟨⟨rfl, rfl, rfl, rfl, rfl⟩, ⟨rfl, rfl⟩, rfl⟩
  · split
    · exact ⟨⟨rfl, rfl, rfl, rfl, rfl⟩, ⟨rfl, rfl⟩, rfl⟩
    · next hvalid =>
      have hadmits : node.admits robot (.singleCmd (some msg) plan) = true :=
        admits_of hready hbusy (by rw [Callback.valid, hvalid]; rfl)
      exact absurd (hadmits.symm.trans h) (by decide)

theorem path_refused {msg : Robotarmmovelpath} {plan : Plan n}
    (h : node.admits robot (.pathCmd msg plan) = false) :
    Refusal node (node.pathCmdCallback robot msg plan) := by
  simp only [Node.pathCmdCallback]
  split_ifs with hready hbusy
  · exact ⟨⟨rfl, rfl, rfl, rfl, rfl⟩, ⟨rfl, rfl⟩, rfl⟩
  · exact ⟨⟨rfl, rfl, rfl, rfl, rfl⟩, ⟨rfl, rfl⟩, rfl⟩
  · split
    · exact ⟨⟨rfl, rfl, rfl, rfl, rfl⟩, ⟨rfl, rfl⟩, rfl⟩
    · next hvalid =>
      split
      · exact ⟨⟨rfl, rfl, rfl, rfl, rfl⟩, ⟨rfl, rfl⟩, rfl⟩
      · next hnormalized =>
        have hadmits : node.admits robot (.pathCmd msg plan) = true :=
          admits_of hready hbusy (by rw [Callback.valid, hvalid, hnormalized]; rfl)
        exact absurd (hadmits.symm.trans h) (by decide)

/-- A refused command leaves the trajectory and the cursor, but it resets the plan data. -/
theorem refusal_of_refused (h : Refused robot node callback) :
    Refusal node (node.run robot callback) := by
  obtain ⟨hcommand, hadmits⟩ := h
  cases callback with
  | singleCmd msg plan =>
    cases msg with
    | none => exact absurd hcommand Bool.false_ne_true
    | some msg => exact single_refused hadmits
  | pathCmd msg plan => exact path_refused hadmits
  | publishTimer => exact absurd hcommand Bool.false_ne_true
  | jointState msg => exact absurd hcommand Bool.false_ne_true

/-- The effect of a command that is planned: without points there is no trajectory afterwards, with
points it begins. -/
structure Planning (points : List (Configuration n)) (source : ActiveCommandSource)
    (out : Node n × List Publication) : Prop where
  streams : out.2.filter Publication.streamed = []
  jointTraj_eq : out.1.jointTraj = points
  trajIndex_eq : out.1.trajIndex = 0
  trajectoryActive_eq : out.1.trajectoryActive = !points.isEmpty
  planningInProgress_eq : out.1.planningInProgress = false
  begins : points ≠ [] → out.1.activeCommandSource = source ∧
    out.1.lastPlannedPoints = points.length ∧
    out.1.lastPlannedDurationSec = .finite points.length * offlineDt

theorem planSingle_spec (node : Node n) (h : node.planningInProgress = false)
    (msg : Option Robotarmmovel) (plan : Plan n) :
    Planning (Callback.singleCmd msg plan).points .single (node.planSingle plan) := by
  rcases plan with (_ | message) | (_ | ⟨q, qs⟩)
  · exact ⟨rfl, rfl, rfl, rfl, h, fun hne => absurd rfl hne⟩
  · exact ⟨rfl, rfl, rfl, rfl, h, fun hne => absurd rfl hne⟩
  · exact ⟨rfl, rfl, rfl, rfl, h, fun hne => absurd rfl hne⟩
  · exact ⟨rfl, rfl, rfl, rfl, h, fun _ => ⟨rfl, rfl, rfl⟩⟩

theorem planPath_spec (node : Node n) (h : node.planningInProgress = false)
    (msg : Robotarmmovelpath) (plan : Plan n) :
    Planning (Callback.pathCmd msg plan).points .path (node.planPath plan) := by
  rcases plan with (_ | message) | (_ | ⟨q, qs⟩)
  · exact ⟨rfl, rfl, rfl, rfl, h, fun hne => absurd rfl hne⟩
  · exact ⟨rfl, rfl, rfl, rfl, h, fun hne => absurd rfl hne⟩
  · exact ⟨rfl, rfl, rfl, rfl, h, fun hne => absurd rfl hne⟩
  · exact ⟨rfl, rfl, rfl, rfl, h, fun _ => ⟨rfl, rfl, rfl⟩⟩

/-- What makes a command be planned. -/
theorem of_admits (h : node.admits robot callback = true) :
    node.isPlanningStateReady robot = true ∧ node.planningInProgress = false ∧
      node.trajectoryActive = false ∧ callback.valid robot = true := by
  rw [Node.admits, Bool.and_eq_true, Bool.and_eq_true, Bool.not_eq_true', Bool.or_eq_false_iff] at h
  exact ⟨h.1.1, h.1.2.1, h.1.2.2, h.2⟩

/-- A command that is planned. -/
theorem planning_of_admits (h : node.admits robot callback = true) :
    Planning callback.points callback.source (node.run robot callback) := by
  obtain ⟨hready, hplanning, hactive, hvalid⟩ := of_admits h
  have hidle : ¬(node.planningInProgress || node.trajectoryActive) = true := by
    rw [hplanning, hactive]
    decide
  have hnow : ¬(!node.isPlanningStateReady robot) = true := by
    rw [hready]
    decide
  cases callback with
  | singleCmd msg plan =>
    cases msg with
    | none => exact absurd hvalid Bool.false_ne_true
    | some msg =>
      rw [Node.run, Node.singleCmdCallback]
      dsimp only
      rw [if_neg (by exact hnow), if_neg (by exact hidle)]
      cases hv : Node.validateSingleCommand msg with
      | error error =>
        rw [Callback.valid, hv] at hvalid
        exact absurd hvalid Bool.false_ne_true
      | ok u =>
        exact planSingle_spec ((node.setPlanningFailureMessage "").resetPlan) hplanning (some msg)
          plan
  | pathCmd msg plan =>
    rw [Node.run, Node.pathCmdCallback, if_neg (by exact hnow), if_neg (by exact hidle)]
    rw [Callback.valid, Bool.and_eq_true] at hvalid
    cases hv : Node.validateCommand msg with
    | error error =>
      rw [hv] at hvalid
      exact absurd hvalid.1 Bool.false_ne_true
    | ok u =>
      cases hn : Node.buildNormalizedPathRequest robot msg with
      | error error =>
        rw [hn] at hvalid
        exact absurd hvalid.2 Bool.false_ne_true
      | ok u =>
        exact planPath_spec ((node.setPlanningFailureMessage "").resetPlan.resetPlan) hplanning
          msg plan
  | publishTimer => exact absurd hvalid Bool.false_ne_true
  | jointState msg => exact absurd hvalid Bool.false_ne_true

/-! ## The stream -/

/-- The status at the end of a stream. -/
def finishedStatus (source : ActiveCommandSource) (points : ℕ) (duration : Double) : Publication :=
  .status {
    state := .streamFinished
    plannedPoints := points
    plannedDurationSec := duration
    message := if source = .path then "Path trajectory published completely"
      else "Single MoveL trajectory published completely" }

/-- What a callback leaves to be streamed of the running trajectory: the points from the cursor on
and the status with the plan data of the node. -/
def Node.pending (robot : Robot n) (node : Node n) : List Publication :=
  if node.trajectoryActive then
    (node.jointTraj.drop node.trajIndex).map
        (fun q => Publication.joints (Node.servoMessage robot q)) ++
      [finishedStatus node.activeCommandSource (node.lastPlannedPoints % 2 ^ 32)
        node.lastPlannedDurationSec]
  else []

/-- What is to be streamed for an accepted command: its points, and one status with the number of
its points and their duration. -/
def Acceptance.transaction (robot : Robot n) (a : Acceptance n) : List Publication :=
  a.points.map (fun q => .joints (Node.servoMessage robot q)) ++
    [finishedStatus a.source a.points.length (.finite a.points.length * offlineDt)]

/-- Between callbacks, no planning is in progress, and a running trajectory has a point at its
cursor and a source. -/
structure Sound (node : Node n) : Prop where
  notPlanning : node.planningInProgress = false
  cursor : node.trajectoryActive = true → node.trajIndex < node.jointTraj.length
  source : node.trajectoryActive = true →
    node.activeCommandSource = .single ∨ node.activeCommandSource = .path

/-- The plan data is that of the running trajectory. -/
def OwnPlan (node : Node n) : Prop :=
  node.trajectoryActive = true → node.lastPlannedPoints = node.jointTraj.length ∧
    node.lastPlannedPoints < 2 ^ 32 ∧
    node.lastPlannedDurationSec = .finite node.jointTraj.length * offlineDt

variable (robot) in
/-- No command comes while a trajectory is streamed, and the points of an accepted command can be
counted in the status. -/
def Undisturbed (node : Node n) (callback : Callback n) : Prop :=
  (callback.isCommand = true → node.trajectoryActive = false) ∧
    ∀ a ∈ node.accepted robot callback, a.points.length < 2 ^ 32

theorem publishNext_idle (h : node.trajectoryActive = false) :
    node.publishNext robot = (node, []) := by
  rw [Node.publishNext, h]
  rfl

theorem publishNext_next (h : node.trajectoryActive = true)
    (hi : node.trajIndex + 1 < node.jointTraj.length) :
    node.publishNext robot = ({ node with trajIndex := node.trajIndex + 1 },
      [.joints (Node.servoMessage robot node.jointTraj[node.trajIndex])]) := by
  rw [Node.publishNext, h, List.getElem?_eq_getElem (Nat.lt_of_succ_lt hi)]
  exact if_neg (not_le.mpr hi)

variable (robot) in
theorem publishNext_last (h : node.trajectoryActive = true) (hsound : Sound node)
    (hi : node.trajIndex + 1 = node.jointTraj.length) :
    (node.publishNext robot).2 =
        [.joints (Node.servoMessage robot (node.jointTraj.get ⟨node.trajIndex, hsound.cursor h⟩)),
          finishedStatus node.activeCommandSource (node.lastPlannedPoints % 2 ^ 32)
            node.lastPlannedDurationSec] ∧
      (node.publishNext robot).1.trajectoryActive = false ∧
      (node.publishNext robot).1.planningInProgress = node.planningInProgress := by
  have hlast : node.jointTraj.length ≤ node.trajIndex + 1 := hi.ge
  rw [Node.publishNext, h, List.getElem?_eq_getElem (hsound.cursor h)]
  dsimp only
  rw [if_neg (by decide), if_pos hlast]
  rcases hsound.source h with hs | hs <;> rw [hs] <;> exact ⟨rfl, rfl, rfl⟩

theorem pending_idle (h : node.trajectoryActive = false) : node.pending robot = [] := by
  rw [Node.pending, h]
  rfl

theorem pending_active (h : node.trajectoryActive = true) : node.pending robot =
    (node.jointTraj.drop node.trajIndex).map (fun q => .joints (Node.servoMessage robot q)) ++
      [finishedStatus node.activeCommandSource (node.lastPlannedPoints % 2 ^ 32)
        node.lastPlannedDurationSec] := by
  rw [Node.pending, h]
  rfl

theorem accepted_of_not_admits (h : node.admits robot callback = false) :
    node.accepted robot callback = [] := by
  rw [Node.accepted, h]
  rfl

theorem accepted_of_admits (h : node.admits robot callback = true) :
    node.accepted robot callback =
      if callback.points.isEmpty then [] else [⟨callback.source, callback.points⟩] := by
  rw [Node.accepted, h]
  cases callback.points <;> rfl

/-- The callbacks of the timer and of the joint states, and a missing message, accept nothing. -/
theorem admits_of_not_command (h : callback.isCommand = false) :
    node.admits robot callback = false := by
  have hvalid : callback.valid robot = false := by
    cases callback with
    | singleCmd msg plan =>
      cases msg with
      | none => rfl
      | some msg => exact absurd h.symm Bool.false_ne_true
    | pathCmd msg plan => exact absurd h.symm Bool.false_ne_true
    | publishTimer => rfl
    | jointState msg => rfl
  rw [Node.admits, hvalid, Bool.and_false]

/-- The source of a command. -/
theorem source_of_command (h : callback.isCommand = true) :
    callback.source = .single ∨ callback.source = .path := by
  cases callback with
  | singleCmd msg plan => exact .inl rfl
  | pathCmd msg plan => exact .inr rfl
  | publishTimer => exact absurd h Bool.false_ne_true
  | jointState msg => exact absurd h Bool.false_ne_true

theorem isCommand_of_admits (h : node.admits robot callback = true) : callback.isCommand = true :=
  (Bool.eq_false_or_eq_true callback.isCommand).resolve_right fun hf =>
    Bool.false_ne_true ((admits_of_not_command hf).symm.trans h)

variable (robot) in
/-- A callback refuses a command, plans one, or brings none. -/
theorem callback_cases (node : Node n) (callback : Callback n) :
    Refused robot node callback ∨ node.admits robot callback = true ∨
      callback.isCommand = false := by
  cases hc : callback.isCommand with
  | false => exact .inr (.inr rfl)
  | true =>
    cases ha : node.admits robot callback with
    | false => exact .inl ⟨hc, ha⟩
    | true => exact .inr (.inl rfl)

/-- The timer, where a trajectory is streamed. -/
theorem timer_cases (hsound : Sound node) :
    node.trajectoryActive = false ∨
      node.trajectoryActive = true ∧ node.trajIndex + 1 < node.jointTraj.length ∨
      node.trajectoryActive = true ∧ node.trajIndex + 1 = node.jointTraj.length := by
  cases ha : node.trajectoryActive with
  | false => exact .inl rfl
  | true =>
    rcases Nat.lt_or_eq_of_le (hsound.cursor ha) with h | h
    · exact .inr (.inl ⟨rfl, h⟩)
    · exact .inr (.inr ⟨rfl, h⟩)

theorem sound_publishNext (hsound : Sound node) : Sound (node.publishNext robot).1 := by
  rcases timer_cases hsound with h | ⟨h, hi⟩ | ⟨h, hi⟩
  · rw [publishNext_idle h]
    exact hsound
  · rw [publishNext_next h hi]
    exact ⟨hsound.notPlanning, fun _ => hi, hsound.source⟩
  · obtain ⟨-, hactive, hplanning⟩ := publishNext_last robot h hsound hi
    exact ⟨hplanning.trans hsound.notPlanning,
      fun ha => absurd (hactive.symm.trans ha) Bool.false_ne_true,
      fun ha => absurd (hactive.symm.trans ha) Bool.false_ne_true⟩

theorem Refusal.sound {out : Node n × List Publication} (h : Refusal node out)
    (hsound : Sound node) : Sound out.1 := by
  obtain ⟨⟨htraj, hindex, hactive, hsource, hplanning⟩, -, -⟩ := h
  refine ⟨hplanning.trans hsound.notPlanning, fun ha => ?_, fun ha => ?_⟩
  · rw [htraj, hindex]
    exact hsound.cursor (hactive ▸ ha)
  · rw [hsource]
    exact hsound.source (hactive ▸ ha)

theorem Planning.sound {points : List (Configuration n)} {source : ActiveCommandSource}
    {out : Node n × List Publication} (h : Planning points source out)
    (hsource : source = .single ∨ source = .path) : Sound out.1 := by
  refine ⟨h.planningInProgress_eq, fun ha => ?_, fun ha => ?_⟩
  · rw [h.trajectoryActive_eq] at ha
    rw [h.jointTraj_eq, h.trajIndex_eq]
    cases points with
    | nil => exact absurd ha Bool.false_ne_true
    | cons q qs => exact Nat.succ_pos _
  · rw [h.trajectoryActive_eq] at ha
    cases points with
    | nil => exact absurd ha Bool.false_ne_true
    | cons q qs =>
      rw [(h.begins (List.cons_ne_nil q qs)).1]
      exact hsource

/-- The invariant of the stream is kept by every callback. -/
theorem sound_run (hsound : Sound node) (callback : Callback n) :
    Sound (node.run robot callback).1 := by
  rcases callback_cases robot node callback with h | h | h
  · exact (refusal_of_refused h).sound hsound
  · exact (planning_of_admits h).sound (source_of_command (isCommand_of_admits h))
  · cases callback with
    | singleCmd msg plan =>
      cases msg with
      | none => exact hsound
      | some msg => exact absurd h.symm Bool.false_ne_true
    | pathCmd msg plan => exact absurd h.symm Bool.false_ne_true
    | publishTimer => exact sound_publishNext hsound
    | jointState msg => exact ⟨hsound.notPlanning, hsound.cursor, hsound.source⟩

/-- The plan data stays that of the running trajectory, unless a command comes while it is
streamed. -/
theorem ownPlan_run (hsound : Sound node) (hown : OwnPlan node)
    (hquiet : Undisturbed robot node callback) : OwnPlan (node.run robot callback).1 := by
  rcases callback_cases robot node callback with h | h | h
  · intro ha
    rw [(refusal_of_refused h).leaves.trajectoryActive_eq, hquiet.1 h.1] at ha
    exact absurd ha Bool.false_ne_true
  · have hplan := planning_of_admits h
    intro ha
    rw [hplan.trajectoryActive_eq, Bool.not_eq_true'] at ha
    have hne : callback.points ≠ [] := fun hnil => by
      rw [hnil] at ha
      exact absurd ha.symm Bool.false_ne_true
    obtain ⟨-, hpoints, hduration⟩ := hplan.begins hne
    have hcount := hquiet.2 ⟨callback.source, callback.points⟩ (by
      rw [accepted_of_admits h, ha]
      exact List.mem_singleton_self _)
    rw [hplan.jointTraj_eq]
    exact ⟨hpoints, hpoints ▸ hcount, hduration⟩
  · cases callback with
    | singleCmd msg plan =>
      cases msg with
      | none => exact hown
      | some msg => exact absurd h.symm Bool.false_ne_true
    | pathCmd msg plan => exact absurd h.symm Bool.false_ne_true
    | publishTimer =>
      show OwnPlan (node.publishNext robot).1
      rcases timer_cases hsound with hi | ⟨ha, hi⟩ | ⟨ha, hi⟩
      · rw [publishNext_idle hi]
        exact hown
      · rw [publishNext_next ha hi]
        exact hown
      · intro hactive
        rw [(publishNext_last robot ha hsound hi).2.1] at hactive
        exact absurd hactive Bool.false_ne_true
    | jointState msg => exact hown

/-- What is pending and what becomes owed is streamed in order, except for what is still
pending. -/
theorem balance_run (hsound : Sound node)
    (hquiet : Undisturbed robot node callback) :
    node.pending robot ++ (node.accepted robot callback).flatMap (Acceptance.transaction robot) =
      node.streams robot callback ++ (node.run robot callback).1.pending robot := by
  rcases callback_cases robot node callback with h | h | h
  · have hrefusal := refusal_of_refused h
    have hidle := hquiet.1 h.1
    rw [pending_idle hidle, accepted_of_not_admits h.2, Node.streams, Node.published,
      hrefusal.streams, pending_idle (hrefusal.leaves.trajectoryActive_eq.trans hidle)]
    rfl
  · have hplan := planning_of_admits h
    rw [pending_idle (of_admits h).2.2.1, accepted_of_admits h, Node.streams, Node.published,
      hplan.streams, List.nil_append, List.nil_append]
    cases hp : callback.points with
    | nil =>
      rw [hp] at hplan
      rw [pending_idle hplan.trajectoryActive_eq]
      rfl
    | cons q qs =>
      have hcount := hquiet.2 ⟨callback.source, callback.points⟩ (by
        rw [accepted_of_admits h, hp]
        exact List.mem_singleton_self _)
      rw [hp] at hplan hcount
      obtain ⟨hsource, hpoints, hduration⟩ := hplan.begins (List.cons_ne_nil q qs)
      rw [pending_active hplan.trajectoryActive_eq, hplan.jointTraj_eq, hplan.trajIndex_eq, hsource,
        hpoints, hduration, Nat.mod_eq_of_lt hcount, List.isEmpty_cons, if_neg Bool.false_ne_true,
        List.flatMap_singleton, Acceptance.transaction, List.drop_zero]
  · rw [accepted_of_not_admits (admits_of_not_command h), List.flatMap_nil, List.append_nil]
    cases callback with
    | singleCmd msg plan =>
      cases msg with
      | none => rfl
      | some msg => exact absurd h.symm Bool.false_ne_true
    | pathCmd msg plan => exact absurd h.symm Bool.false_ne_true
    | jointState msg => rfl
    | publishTimer =>
      show node.pending robot = (node.publishNext robot).2.filter Publication.streamed ++
        (node.publishNext robot).1.pending robot
      rcases timer_cases hsound with hi | ⟨ha, hi⟩ | ⟨ha, hi⟩
      · rw [publishNext_idle hi]
        rfl
      · rw [publishNext_next ha hi, pending_active ha, pending_active (by exact ha),
          List.drop_eq_getElem_cons (Nat.lt_of_succ_lt hi)]
        rfl
      · obtain ⟨hout, hactive, -⟩ := publishNext_last robot ha hsound hi
        rw [hout, pending_idle hactive, pending_active ha,
          List.drop_eq_getElem_cons (hsound.cursor ha), List.drop_eq_nil_of_le hi.ge]
        rfl

/-! ## Runs -/

variable (robot) in
/-- A refused command leaves the running trajectory, its cursor and its plan data, and an accepted
command reports the number of its own points. -/
structure Keeps (node : Node n) (callback : Callback n) (node' : Node n) : Prop where
  leaves : Refused robot node callback → Leaves node node'
  samePlan : Refused robot node callback → node.trajectoryActive = true → SamePlan node node'
  reports : ∀ a ∈ node.accepted robot callback,
    node'.lastPlannedPoints % 2 ^ 32 = a.points.length

theorem mem_accepted {a : Acceptance n} (h : a ∈ node.accepted robot callback) :
    node.admits robot callback = true ∧ a.points = callback.points ∧ callback.points ≠ [] := by
  rw [Node.accepted] at h
  split at h
  · next hc =>
    rw [Bool.and_eq_true, Bool.not_eq_true'] at hc
    rw [List.mem_singleton.mp h]
    refine ⟨hc.1, rfl, fun hnil => ?_⟩
    rw [hnil] at hc
    exact absurd hc.2.symm Bool.false_ne_true
  · exact absurd h List.not_mem_nil

/-- A callback keeps the running stream exactly when it does not disturb it. -/
theorem keeps_iff (hsound : Sound node) (hown : OwnPlan node) :
    Keeps robot node callback (node.run robot callback).1 ↔ Undisturbed robot node callback := by
  constructor
  · intro h
    refine ⟨fun hcommand => ?_, fun a ha => ?_⟩
    · refine Bool.eq_false_iff.mpr fun hactive => ?_
      have hrefused : Refused robot node callback :=
        ⟨hcommand, Bool.eq_false_iff.mpr fun hadmits =>
          Bool.false_ne_true ((of_admits hadmits).2.2.1.symm.trans hactive)⟩
      have hsame := (h.samePlan hrefused hactive).lastPlannedPoints_eq
      rw [(refusal_of_refused hrefused).noPlan.1, (hown hactive).1] at hsame
      have hcursor := hsound.cursor hactive
      omega
    · have hreports := h.reports a ha
      rw [← hreports]
      exact Nat.mod_lt _ (by decide)
  · intro h
    refine ⟨fun hr => (refusal_of_refused hr).leaves, fun hr hactive => ?_, fun a ha => ?_⟩
    · exact absurd ((h.1 hr.1).symm.trans hactive) Bool.false_ne_true
    · obtain ⟨hadmits, hpoints, hne⟩ := mem_accepted ha
      have hcount := h.2 a ha
      rw [((planning_of_admits hadmits).begins hne).2.1, ← hpoints]
      exact Nat.mod_eq_of_lt hcount

/-- The timer comes to the end of what is pending. -/
theorem timer_drains (robot : Robot n) (node : Node n) (hsound : Sound node) :
    ∃ k node', exec (Node.step robot) node (List.replicate k .publishTimer) = some node' ∧
      node'.pending robot = [] := by
  rcases hk : node.jointTraj.length - node.trajIndex with _ | m
  · refine ⟨0, node, rfl, pending_idle (Bool.eq_false_iff.mpr fun ha => ?_)⟩
    have := hsound.cursor ha
    omega
  · induction m generalizing node with
    | zero =>
      refine ⟨1, (node.publishNext robot).1, rfl, ?_⟩
      rcases timer_cases hsound with h | ⟨h, hi⟩ | ⟨h, hi⟩
      · rw [publishNext_idle h]
        exact pending_idle h
      · omega
      · exact pending_idle (publishNext_last robot h hsound hi).2.1
    | succ m ih =>
      rcases timer_cases hsound with h | ⟨h, hi⟩ | ⟨h, hi⟩
      · exact ⟨0, node, rfl, pending_idle h⟩
      · obtain ⟨k, node', hexec, hpending⟩ := ih (node.publishNext robot).1
          (sound_publishNext hsound) (by rw [publishNext_next h hi]; simp only; omega)
        exact ⟨k + 1, node', hexec, hpending⟩
      · omega

theorem step_eq {node' : Node n} (h : Node.step robot node callback = some node') :
    node' = (node.run robot callback).1 :=
  (Option.some_inj.mp h).symm

theorem flatMap_transaction_append (as bs : List (Acceptance n)) :
    (as ++ bs).flatMap (Acceptance.transaction robot) =
      as.flatMap (Acceptance.transaction robot) ++ bs.flatMap (Acceptance.transaction robot) :=
  List.flatMap_append

/-- Along a run that does not disturb the stream, what is pending at first and the transactions of
the accepted commands are streamed, except for what is still pending. -/
theorem stream_balance {callbacks : List (Callback n)} {node' : Node n} (hsound : Sound node)
    (hmeets : Meets (Node.step robot) (Undisturbed robot) node callbacks)
    (hexec : exec (Node.step robot) node callbacks = some node') :
    node.pending robot ++ (outputs (Node.step robot) (Node.accepted robot) node callbacks).flatMap
        (Acceptance.transaction robot) =
      (outputs (Node.step robot) (Node.published robot) node callbacks).filter
        Publication.streamed ++ node'.pending robot := by
  have hbalance : node.pending robot ++ outputs (Node.step robot)
        (fun s l => (s.accepted robot l).flatMap (Acceptance.transaction robot)) node callbacks =
      outputs (Node.step robot) (Node.streams robot) node callbacks ++ node'.pending robot :=
    outputs_balance (I := Sound) (C := Undisturbed robot)
      (fun s l s' hs _ h => step_eq h ▸ sound_run hs l)
      (fun s l s' hs hC h => step_eq h ▸ balance_run hs hC) hsound hmeets hexec
  have howed : outputs (Node.step robot)
        (fun s l => (s.accepted robot l).flatMap (Acceptance.transaction robot)) node callbacks =
      (outputs (Node.step robot) (Node.accepted robot) node callbacks).flatMap
        (Acceptance.transaction robot) :=
    outputs_read rfl flatMap_transaction_append
  have hstreams : outputs (Node.step robot) (Node.streams robot) node callbacks =
      (outputs (Node.step robot) (Node.published robot) node callbacks).filter
        Publication.streamed :=
    outputs_read rfl fun ps qs => List.filter_append ps qs
  rw [← hstreams, ← howed]
  exact hbalance

variable (robot) in
theorem timers_accept_nothing (k : ℕ) :
    ∀ node : Node n, Meets (Node.step robot) (Undisturbed robot) node
        (List.replicate k .publishTimer) ∧
      outputs (Node.step robot) (Node.accepted robot) node (List.replicate k .publishTimer) =
        [] := by
  induction k with
  | zero => exact fun _ => ⟨trivial, rfl⟩
  | succ k ih =>
    intro node
    have haccepted : node.accepted robot .publishTimer = [] :=
      accepted_of_not_admits (admits_of_not_command rfl)
    refine ⟨⟨⟨fun h => absurd h Bool.false_ne_true, fun a ha => ?_⟩, fun s _ => (ih s).1⟩, ?_⟩
    · rw [haccepted] at ha
      exact absurd ha List.not_mem_nil
    · rw [List.replicate_succ, outputs_cons rfl, haccepted, (ih _).2]
      rfl

theorem sound_start : Sound ({} : Node n) where
  notPlanning := rfl
  cursor h := absurd h Bool.false_ne_true
  source h := absurd h Bool.false_ne_true

theorem ownPlan_start : OwnPlan ({} : Node n) := fun h => absurd h Bool.false_ne_true

/-- In every run in which no command comes while a trajectory is streamed, and in which the points
of every accepted command can be counted, the stream is that of the accepted commands: the points
of each, in their order, and one status with its own number of points and duration.  What is
missing is pending, and the timer streams just that.  In such runs, and in no others, refused
commands leave the running trajectory with its cursor and plan data, and accepted ones report their
own number of points. -/
theorem streams_transactions (robot : Robot n) (callbacks : List (Callback n)) :
    (Throughout (Node.step robot) (Keeps robot) {} callbacks ↔
        Meets (Node.step robot) (Undisturbed robot) {} callbacks) ∧
      ∀ node, Meets (Node.step robot) (Undisturbed robot) {} callbacks →
        exec (Node.step robot) {} callbacks = some node →
        (outputs (Node.step robot) (Node.published robot) {} callbacks).filter
            Publication.streamed ++ node.pending robot =
          (outputs (Node.step robot) (Node.accepted robot) {} callbacks).flatMap
            (Acceptance.transaction robot) ∧
        ∃ k, (outputs (Node.step robot) (Node.published robot) node
          (List.replicate k .publishTimer)).filter Publication.streamed = node.pending robot := by
  constructor
  · refine throughout_iff_meets_from (I := fun s => Sound s ∧ OwnPlan s) ?_ ?_ ?_
      ⟨sound_start, ownPlan_start⟩
    · intro s l s' hI hC h
      rw [step_eq h]
      exact ⟨sound_run hI.1 l, ownPlan_run hI.1 hI.2 hC⟩
    · intro s l s' hI h
      rw [step_eq h]
      exact keeps_iff hI.1 hI.2
    · intro s l h
      exact absurd h (Option.some_ne_none _)
  · intro node hmeets hexec
    have hsound : Sound node := exec_invariant (I := Sound)
      (fun s l s' hs h => step_eq h ▸ sound_run hs l) sound_start hexec
    refine ⟨(stream_balance sound_start hmeets hexec).symm, ?_⟩
    obtain ⟨k, node', hdrain, hpending⟩ := timer_drains robot node hsound
    obtain ⟨hmeets', haccepted⟩ := timers_accept_nothing robot k node
    have hbalance := stream_balance hsound hmeets' hdrain
    rw [haccepted, hpending, List.flatMap_nil, List.append_nil, List.append_nil] at hbalance
    exact ⟨k, hbalance.symm⟩

/-! ## Two runs -/

instance (robot : Robot n) (node : Node n) (callback : Callback n) :
    Decidable (Undisturbed robot node callback) :=
  inferInstanceAs (Decidable (_ ∧ _))

/-- A robot with one joint in each arm. -/
def benchRobot : Robot 2 where
  jointIndexMap := ["left", "right"]
  requiredPlanningJointNames := ["left", "right"]
  leftArmIndices _ := 0
  rightArmIndices _ := 1
  quaternionNorm q := q.w

/-- The joint states come, and a single command is accepted, for which two points are planned. -/
def acceptRun : List (Callback 2) :=
  [.jointState ⟨["left", "right"], [0, 0]⟩,
    .singleCmd (some ⟨.finite 1, .finite 1⟩) (.planned [fun _ => 0, fun _ => .finite 1])]

/-- The two points are streamed. -/
def streamRun : List (Callback 2) :=
  acceptRun ++ [Callback.publishTimer, .publishTimer]

/-- Between the two points, another command comes and is refused. -/
def disturbedRun : List (Callback 2) :=
  acceptRun ++
    [Callback.publishTimer, .singleCmd (some ⟨.finite 1, .finite 1⟩) (.planned []), .publishTimer]

theorem streams_transactions_bench :
    Throughout (Node.step benchRobot) (Keeps benchRobot) {} streamRun ∧
      ∃ node, exec (Node.step benchRobot) {} streamRun = some node ∧
        (outputs (Node.step benchRobot) (Node.published benchRobot) {} streamRun).filter
            Publication.streamed ++ node.pending benchRobot =
          (outputs (Node.step benchRobot) (Node.accepted benchRobot) {} streamRun).flatMap
            (Acceptance.transaction benchRobot) := by
  have hmeets : Meets (Node.step benchRobot) (Undisturbed benchRobot) {} streamRun :=
    meets_of_passes (fun _ _ => of_decide_eq_true) (by decide +kernel)
  obtain ⟨hkeeps, hstream⟩ := streams_transactions benchRobot streamRun
  exact ⟨hkeeps.mpr hmeets, _, rfl, (hstream _ hmeets rfl).1⟩

/-- After a command was refused in the middle of a stream of two points, the status of the end of
the stream reports no points and no duration. -/
theorem refused_command_loses_plan :
    (outputs (Node.step benchRobot) (Node.accepted benchRobot) {} disturbedRun).map
        (fun a => a.points.length) = [2] ∧
      (outputs (Node.step benchRobot) (Node.published benchRobot) {} disturbedRun).getLast? =
        some (finishedStatus .single 0 0) ∧
      ¬Throughout (Node.step benchRobot) (Keeps benchRobot) {} disturbedRun := by
  refine ⟨by decide +kernel, by decide +kernel, fun h => ?_⟩
  have hstep := ((((h _ rfl).2 _ rfl).2 _ rfl).2 _ rfl).1
  have hsame := (hstep.samePlan (by decide +kernel) (by decide +kernel)).lastPlannedPoints_eq
  exact absurd hsame (by decide +kernel)

end MoveL

end JointController
