import JointController.Gateway.Parameters
import JointController.Library.LeasedChannel

/-!
# State of the Heavy gateway

The members of `HeavyGatewayV1` that its callbacks share under `mutex_`, grouped by what they are
about.  Texts and measurements that are only logged are left out; a time is a reading of the
steady clock, and the default time point is 0.

* `LeaseState`: the execution lease and the user commands accepted under it.
* `Transaction`: the one command the lower controllers own, its acknowledgements and the command
  staged behind it.
* `BrakeLatch`: the native lift brake and its queued lock.
* `FeedbackCache`: the last sample of every subscription, with its arrival time.
* `Counters`: the counts that the status message reports.
* `Gateway`: all of them, with a `history` of what happened to leases and transactions.
-/

namespace JointController

/-! ## Parts of the state -/

/-- The `state` of `HeavyUpperBodyGatewayStatusV1`. -/
inductive GatewayState where
  | offline | monitor | leasedHold | following | stopping | fault
  deriving DecidableEq

/-- `LeaseState`, with the members that describe the lease outside of it. -/
structure LeaseState where
  active : Bool
  ownerId : String
  leaseId : String
  /-- `lease_generation_`, the number of leases granted so far. -/
  generation : ℕ
  initialSequence : ℕ
  /-- `last_command_sequence_`. -/
  lastAcceptedSequence : ℕ
  appliedCommandSequence : ℕ
  /-- `last_command_time_`. -/
  lastAcceptedCommandTime : ℕ
  /-- `lease_deadline_`. -/
  deadline : ℕ
  state : GatewayState
  alignedHold : Bool
  firstUserCommand : Bool
  lastMode : ℕ
  watchdogHoldPosition : Resources Double
  watchdogHoldCaptured : Bool
  /-- `last_lease_clear_reason_`. -/
  lastClearReason : String

/-- The command transaction with the lower controllers. -/
structure Transaction where
  /-- `controller_command_generation_`, the last generation handed out. -/
  controllerGeneration : ℕ
  pendingValid : Bool
  pendingIsUser : Bool
  pendingSequence : ℕ
  pendingExternalSequence : ℕ
  pendingInternalCommand : Command
  pendingTime : ℕ
  /-- `last_pending_command_publish_time_`. -/
  lastPublishTime : ℕ
  ackRetryCount : ℕ
  armAckSequence : ℕ
  liftAckSequence : ℕ
  stagedValid : Bool
  stagedCommand : Command
  revokeAfterAck : Bool
  /-- `pending_lease_clear_reason_`. -/
  pendingClearReason : String
  /-- Not in the source: which received command is staged. -/
  stagedArrival : ℕ

/-- The native lift brake. -/
structure BrakeLatch where
  locked : Bool
  lockCommanded : Bool
  lockPending : Bool
  lockForce : Bool
  pendingReason : String
  transitionInProgress : Bool
  transitionCount : ℕ
  lastReason : String
  /-- Not in the source: how many commands had been accepted when the lock was queued. -/
  queuedAt : ℕ

/-- `JointSnapshot`. -/
structure JointSnapshot where
  position : Resources Double
  velocity : Resources Double
  positionValidMask : UInt16
  velocityValidMask : UInt16
  armReceived : Bool
  liftReceived : Bool
  armTime : ℕ
  liftTime : ℕ

/-- The discovery counts of the internal topics. -/
structure Endpoints where
  commandSubscriptions : ℕ
  armAckPublishers : ℕ
  liftAckPublishers : ℕ
  deriving DecidableEq

/-- The last sample of each subscription. -/
structure FeedbackCache where
  joints : JointSnapshot
  armPower : ArmPowerStatus
  armPowerReceived : Bool
  armPowerTime : ℕ
  liftStatus : LiftStatus
  liftStatusReceived : Bool
  liftStatusTime : ℕ
  workspaceStatus : WorkspaceStatus
  workspaceReceived : Bool
  workspaceTime : ℕ
  controlModeStatus : ArmControlModeStatus
  controlModeReceived : Bool
  controlModeTime : ℕ
  endpoints : Endpoints

/-- The counters that the gateway reports. -/
structure Counters where
  received : ℕ
  accepted : ℕ
  rejected : ℕ
  duplicate : ℕ
  outOfOrder : ℕ
  commandWatchdogHolds : ℕ
  leaseExpiries : ℕ
  ignoredArmAcks : ℕ
  ignoredLiftAcks : ℕ

/-! ## History -/

/-- What happens to leases and transactions.  The two lower controllers are the executors of the
channel, the arm controller `true` and the lift controller `false`.  A command is named by its
arrival, the value that it gives the received counter. -/
abbrev Event := LeasedChannel.Event Bool Command

/-! ## The gateway -/

/-- The shared state of the gateway.  The last two members are not in the source: the messages
published on the internal command topic and the history, the newest first in both. -/
structure Gateway where
  startedAt : ℕ
  lease : LeaseState
  transaction : Transaction
  brake : BrakeLatch
  feedback : FeedbackCache
  counters : Counters
  /-- `lease_acquisition_in_progress_`. -/
  acquisitionInProgress : Bool
  commandTopic : List Command
  history : List Event

/-- `JointSnapshot{}`. -/
def JointSnapshot.empty : JointSnapshot where
  position := fun _ => 0
  velocity := fun _ => 0
  positionValidMask := 0
  velocityValidMask := 0
  armReceived := false
  liftReceived := false
  armTime := 0
  liftTime := 0

/-- The members as the constructor leaves them. -/
def Gateway.init (startedAt : ℕ) : Gateway where
  startedAt := startedAt
  lease :=
    { active := false
      ownerId := ""
      leaseId := ""
      generation := 0
      initialSequence := 0
      lastAcceptedSequence := 0
      appliedCommandSequence := 0
      lastAcceptedCommandTime := 0
      deadline := 0
      state := .offline
      alignedHold := false
      firstUserCommand := true
      lastMode := Command.modeStop
      watchdogHoldPosition := fun _ => 0
      watchdogHoldCaptured := false
      lastClearReason := "none" }
  transaction :=
    { controllerGeneration := 0
      pendingValid := false
      pendingIsUser := false
      pendingSequence := 0
      pendingExternalSequence := 0
      pendingInternalCommand := Command.empty
      pendingTime := 0
      lastPublishTime := 0
      ackRetryCount := 0
      armAckSequence := 0
      liftAckSequence := 0
      stagedValid := false
      stagedCommand := Command.empty
      revokeAfterAck := false
      pendingClearReason := ""
      stagedArrival := 0 }
  brake :=
    { locked := true
      lockCommanded := false
      lockPending := false
      lockForce := false
      pendingReason := ""
      transitionInProgress := false
      transitionCount := 0
      lastReason := "startup: brake state awaiting feedback"
      queuedAt := 0 }
  feedback :=
    { joints := JointSnapshot.empty
      armPower := ArmPowerStatus.empty
      armPowerReceived := false
      armPowerTime := 0
      liftStatus := LiftStatus.empty
      liftStatusReceived := false
      liftStatusTime := 0
      workspaceStatus := WorkspaceStatus.empty
      workspaceReceived := false
      workspaceTime := 0
      controlModeStatus := ArmControlModeStatus.empty
      controlModeReceived := false
      controlModeTime := 0
      endpoints := ⟨0, 0, 0⟩ }
  counters := ⟨0, 0, 0, 0, 0, 0, 0, 0, 0⟩
  acquisitionInProgress := false
  commandTopic := []
  history := []

end JointController
