import JointController.Gateway.Readiness

/-!
# What the gateway does under its mutex

The helpers of the gateway's callbacks, as functions of the shared state.  Each takes the reading
`now` of the steady clock where the source reads the clock.

* `makeHoldCommandLocked`, `clampLiftSafetyTargetLocked`: the gateway's own HOLD.
* `clearHeavyLeaseLocked`, `beginSafetyHoldLocked`: the ends of a lease.
* `queueBrakeLockLocked`, `takePendingBrakeActionLocked`: the queued lock of the lift brake.
* `newestAdmittedCommandSequenceLocked`, `dispatchUserCommandLocked`: user commands.
* `updateStateWithoutLeaseLocked`: the reported state between leases.
-/

namespace JointController

namespace Gateway

/-! ## The gateway's own HOLD -/

/-- `clampLiftSafetyTargetLocked`: a target within the tolerance of a limit becomes the limit. -/
def clampLiftSafetyTargetLocked (p : Parameters) (target : Double) : Double :=
  if .finite p.liftMaxPositionM < target ∧
      target ≤ .finite (p.liftMaxPositionM + p.liftPositionToleranceM) then
    .finite p.liftMaxPositionM
  else if target < .finite p.liftMinPositionM ∧
      .finite (p.liftMinPositionM - p.liftPositionToleranceM) ≤ target then
    .finite p.liftMinPositionM
  else target

/-- A command with its lift target clamped. -/
def clampLift (p : Parameters) (c : Command) : Command :=
  { c with position := Function.update c.position 0 (clampLiftSafetyTargetLocked p (c.position 0)) }

/-- `makeHoldCommandLocked`. -/
def makeHoldCommandLocked (p : Parameters) (g : Gateway) (sequence : ℕ) : Command :=
  clampLift p
    { protocolMajor := protocolMajor
      protocolMinor := protocolMinor
      layoutCrc32 := layoutCrc32
      ownerId := g.lease.ownerId
      leaseId := g.lease.leaseId
      sequence := sequence
      mode := Command.modeHold
      fieldMask := Command.fieldPosition
      position := g.feedback.joints.position
      velocity := fun _ => 0
      acceleration := fun _ => 0 }

/-! ## The lift brake -/

/-- `BrakeAction`.  The last two fields are not in the source: whether a lock was forced, and how
many commands had been accepted when it was queued. -/
structure BrakeAction where
  release : Bool
  reason : String
  force : Bool
  queuedAt : ℕ
  deriving DecidableEq

/-- `queueBrakeLockLocked`. -/
def queueBrakeLockLocked (g : Gateway) (reason : String) (force : Bool) : Gateway :=
  if g.brake.locked ∨ g.brake.transitionInProgress ∨ g.brake.lockPending then g
  else
    { g with brake := { g.brake with
        lockPending := true
        lockForce := force
        pendingReason := reason
        queuedAt := g.counters.accepted } }

/-- Queueing a lock only changes the brake latch. -/
theorem queueBrakeLockLocked_eq (g : Gateway) (reason : String) (force : Bool) :
    queueBrakeLockLocked g reason force =
      { g with brake := (queueBrakeLockLocked g reason force).brake } := by
  unfold queueBrakeLockLocked
  split <;> rfl

section QueueFrame

variable (g : Gateway) (reason : String) (force : Bool)

@[simp] theorem queueBrakeLockLocked_lease :
    (queueBrakeLockLocked g reason force).lease = g.lease := by
  rw [queueBrakeLockLocked_eq]

@[simp] theorem queueBrakeLockLocked_transaction :
    (queueBrakeLockLocked g reason force).transaction = g.transaction := by
  rw [queueBrakeLockLocked_eq]

@[simp] theorem queueBrakeLockLocked_counters :
    (queueBrakeLockLocked g reason force).counters = g.counters := by
  rw [queueBrakeLockLocked_eq]

@[simp] theorem queueBrakeLockLocked_history :
    (queueBrakeLockLocked g reason force).history = g.history := by
  rw [queueBrakeLockLocked_eq]

end QueueFrame

/-- The lift stands still by a fresh sample of its status and its velocity. -/
def liftStationary (p : Parameters) (f : FeedbackCache) (now : ℕ) : Bool :=
  isFresh f.liftStatusReceived f.liftStatusTime now p.feedbackFaultTimeout &&
  isFresh f.joints.liftReceived f.joints.liftTime now p.feedbackFaultTimeout &&
  decide ((f.joints.velocity 0).abs ≤ .finite p.brakeLockVelocityThresholdMps) &&
  !f.liftStatus.trajectoryActive && !f.liftStatus.jogActive

/-- `takePendingBrakeActionLocked`. -/
def takePendingBrakeActionLocked (p : Parameters) (g : Gateway) (now : ℕ) :
    Option BrakeAction × Gateway :=
  if ¬ g.brake.lockPending ∨ g.brake.transitionInProgress ∨ g.brake.locked then (none, g)
  else if ¬ p.heavyLiftBrakeClient then
    (none, { g with brake := { g.brake with
      lockPending := false
      lastReason := g.brake.pendingReason ++ ": native lift brake service is not configured" } })
  else if ¬ g.brake.lockForce ∧ ¬ liftStationary p g.feedback now then (none, g)
  else
    (some ⟨false, g.brake.pendingReason, g.brake.lockForce, g.brake.queuedAt⟩,
      { g with brake := { g.brake with
        lockPending := false
        lockForce := false
        pendingReason := ""
        transitionInProgress := true } })

/-- Taking a queued lock only changes the brake latch. -/
theorem takePendingBrakeActionLocked_eq (p : Parameters) (g : Gateway) (now : ℕ) :
    (takePendingBrakeActionLocked p g now).2 =
      { g with brake := (takePendingBrakeActionLocked p g now).2.brake } := by
  unfold takePendingBrakeActionLocked
  repeat' split
  all_goals rfl

/-! ## The ends of a lease -/

/-- `clearHeavyLeaseLocked`. -/
def clearHeavyLeaseLocked (g : Gateway) (reason : String) : Gateway :=
  if ¬ g.lease.active then g
  else
    { g with
      lease := { g.lease with
        active := false
        alignedHold := false
        ownerId := ""
        leaseId := ""
        state := .monitor
        lastClearReason := reason }
      transaction := { g.transaction with
        pendingValid := false
        pendingIsUser := false
        stagedValid := false
        pendingExternalSequence := 0
        pendingInternalCommand := Command.empty
        lastPublishTime := 0
        ackRetryCount := 0
        armAckSequence := 0
        liftAckSequence := 0
        revokeAfterAck := false
        pendingClearReason := "" }
      history := .cleared g.lease.generation :: g.history }

@[simp] theorem clearHeavyLeaseLocked_counters (g : Gateway) (reason : String) :
    (clearHeavyLeaseLocked g reason).counters = g.counters := by
  unfold clearHeavyLeaseLocked
  split <;> rfl

@[simp] theorem clearHeavyLeaseLocked_brake (g : Gateway) (reason : String) :
    (clearHeavyLeaseLocked g reason).brake = g.brake := by
  unfold clearHeavyLeaseLocked
  split <;> rfl

@[simp] theorem clearHeavyLeaseLocked_generation (g : Gateway) (reason : String) :
    (clearHeavyLeaseLocked g reason).lease.generation = g.lease.generation := by
  unfold clearHeavyLeaseLocked
  split <;> rfl

@[simp] theorem clearHeavyLeaseLocked_initialSequence (g : Gateway) (reason : String) :
    (clearHeavyLeaseLocked g reason).lease.initialSequence = g.lease.initialSequence := by
  unfold clearHeavyLeaseLocked
  split <;> rfl

@[simp] theorem clearHeavyLeaseLocked_active (g : Gateway) (reason : String) :
    (clearHeavyLeaseLocked g reason).lease.active = false := by
  unfold clearHeavyLeaseLocked
  split
  · next h => exact Bool.eq_false_iff.mpr h
  · rfl

/-- The reason with which the command watchdog begins its HOLD. -/
def commandTimeoutReason : String := "command_timeout: FOLLOWING to HOLD"

/-- `beginSafetyHoldLocked`.  It publishes its HOLD before the mutex is released. -/
def beginSafetyHoldLocked (p : Parameters) (g : Gateway) (now : ℕ) (reason : String)
    (revokeLease : Bool) : Gateway :=
  if ¬ g.lease.active then g
  else
    let commandWatchdogHold := !revokeLease && reason == commandTimeoutReason
    let captured := g.lease.watchdogHoldCaptured || commandWatchdogHold
    let capturedPosition :=
      if commandWatchdogHold && !g.lease.watchdogHoldCaptured then g.feedback.joints.position
      else g.lease.watchdogHoldPosition
    let hold := makeHoldCommandLocked p g g.lease.lastAcceptedSequence
    let sequence := g.transaction.controllerGeneration + 1
    let internal := { hold with
      position := if captured && (commandWatchdogHold || revokeLease) then capturedPosition
        else hold.position
      sequence := sequence }
    let held := { g with
      lease := { g.lease with
        watchdogHoldPosition := capturedPosition
        watchdogHoldCaptured := captured
        state := if revokeLease then .stopping else .leasedHold
        lastMode := Command.modeHold }
      transaction := { g.transaction with
        controllerGeneration := sequence
        pendingSequence := sequence
        pendingExternalSequence := 0
        pendingInternalCommand := internal
        lastPublishTime := now
        ackRetryCount := 0
        pendingValid := true
        pendingIsUser := false
        stagedValid := false
        revokeAfterAck := revokeLease
        pendingClearReason := if revokeLease then reason else ""
        armAckSequence := 0
        liftAckSequence := 0
        pendingTime := now }
      counters := { g.counters with
        commandWatchdogHolds :=
          g.counters.commandWatchdogHolds + if commandWatchdogHold then 1 else 0 }
      commandTopic := internal :: g.commandTopic
      history := .held g.lease.generation sequence :: g.history }
    if revokeLease then queueBrakeLockLocked held reason true
    else if g.lease.lastMode = Command.modeFollowPosition then
      queueBrakeLockLocked held reason false
    else held

/-- The lock behind a safety HOLD only changes the brake latch. -/
theorem queueHoldLock_eq (held : Gateway) (reason : String) (revokeLease : Bool)
    (following : Prop) [Decidable following] :
    (if revokeLease then queueBrakeLockLocked held reason true
      else if following then queueBrakeLockLocked held reason false
      else held) =
      { held with brake := (if revokeLease then queueBrakeLockLocked held reason true
        else if following then queueBrakeLockLocked held reason false
        else held).brake } := by
  split_ifs
  · exact queueBrakeLockLocked_eq held reason true
  · exact queueBrakeLockLocked_eq held reason false
  · rfl

/-! ## User commands -/

/-- `newestAdmittedCommandSequenceLocked`. -/
def newestAdmittedCommandSequenceLocked (g : Gateway) : ℕ :=
  let t := g.transaction
  let accepted := g.lease.lastAcceptedSequence
  let pending := if t.pendingValid ∧ t.pendingIsUser then max accepted t.pendingExternalSequence
    else accepted
  if t.stagedValid then max pending t.stagedCommand.sequence else pending

theorem lastAccepted_le_newestAdmitted (g : Gateway) :
    g.lease.lastAcceptedSequence ≤ newestAdmittedCommandSequenceLocked g := by
  unfold newestAdmittedCommandSequenceLocked
  dsimp only
  split_ifs
  · exact (le_max_left _ _).trans (le_max_left _ _)
  · exact le_max_left _ _
  · exact le_max_left _ _
  · exact le_rfl

/-- The command that is handed to the lower controllers, before it gets its generation. -/
def effectiveCommand (p : Parameters) (c : Command) : Command :=
  if c.mode = Command.modeHold ∨ c.mode = Command.modeStop then clampLift p c else c

/-- The lock that a dispatched command queues. -/
def queueDispatchLock (l : LeaseState) (mode : ℕ) (g : Gateway) : Gateway :=
  if l.lastMode = Command.modeFollowPosition ∧ mode = Command.modeHold then
    queueBrakeLockLocked g "FOLLOW_POSITION_to_HOLD" false
  else if l.firstUserCommand ∧ mode = Command.modeHold then
    queueBrakeLockLocked g "first_HOLD_for_owner_or_lease" false
  else if mode = Command.modeStop then queueBrakeLockLocked g "MODE_STOP" true
  else g

theorem queueDispatchLock_eq (l : LeaseState) (mode : ℕ) (g : Gateway) :
    queueDispatchLock l mode g = { g with brake := (queueDispatchLock l mode g).brake } := by
  unfold queueDispatchLock
  split_ifs
  · exact queueBrakeLockLocked_eq _ _ _
  · exact queueBrakeLockLocked_eq _ _ _
  · exact queueBrakeLockLocked_eq _ _ _
  · rfl

section DispatchFrame

variable (l : LeaseState) (mode : ℕ) (g : Gateway)

@[simp] theorem queueDispatchLock_lease : (queueDispatchLock l mode g).lease = g.lease := by
  rw [queueDispatchLock_eq]

@[simp] theorem queueDispatchLock_transaction :
    (queueDispatchLock l mode g).transaction = g.transaction := by
  rw [queueDispatchLock_eq]

@[simp] theorem queueDispatchLock_feedback :
    (queueDispatchLock l mode g).feedback = g.feedback := by
  rw [queueDispatchLock_eq]

@[simp] theorem queueDispatchLock_counters :
    (queueDispatchLock l mode g).counters = g.counters := by
  rw [queueDispatchLock_eq]

@[simp] theorem queueDispatchLock_history :
    (queueDispatchLock l mode g).history = g.history := by
  rw [queueDispatchLock_eq]

end DispatchFrame

@[simp] theorem effectiveCommand_sequence (p : Parameters) (c : Command) :
    (effectiveCommand p c).sequence = c.sequence := by
  unfold effectiveCommand
  split <;> rfl

@[simp] theorem effectiveCommand_mode (p : Parameters) (c : Command) :
    (effectiveCommand p c).mode = c.mode := by
  unfold effectiveCommand
  split <;> rfl

/-- The state that a dispatched command puts the lease in. -/
def dispatchedState (mode : ℕ) : GatewayState :=
  if mode = Command.modeFollowPosition then .following
  else if mode = Command.modeStop then .stopping
  else .leasedHold

/-- `dispatchUserCommandLocked`, for the command that arrived as number `arrival`.  The command it
returns in the source is the pending internal command. -/
def dispatchUserCommandLocked (p : Parameters) (g : Gateway) (c : Command) (arrival now : ℕ) :
    Gateway :=
  let effective := effectiveCommand p c
  let sequence := g.transaction.controllerGeneration + 1
  queueDispatchLock g.lease effective.mode
    { g with
      lease := { g.lease with
        lastAcceptedSequence := effective.sequence
        deadline := now + p.executionLeaseTimeout
        lastAcceptedCommandTime := now
        watchdogHoldCaptured := false
        firstUserCommand := false
        lastMode := effective.mode
        state := dispatchedState effective.mode }
      transaction := { g.transaction with
        controllerGeneration := sequence
        pendingSequence := sequence
        pendingExternalSequence := effective.sequence
        pendingValid := true
        pendingIsUser := true
        revokeAfterAck := false
        armAckSequence := 0
        liftAckSequence := 0
        pendingTime := now
        pendingInternalCommand := { effective with sequence := sequence }
        lastPublishTime := now
        ackRetryCount := 0 }
      counters := { g.counters with accepted := g.counters.accepted + 1 }
      history := .dispatched g.lease.generation arrival sequence c :: g.history }

/-! ## Between leases -/

/-- `updateStateWithoutLeaseLocked`. -/
def updateStateWithoutLeaseLocked (p : Parameters) (g : Gateway) (now : ℕ) : Gateway :=
  if g.lease.active then g
  else
    let f := g.feedback
    let state : GatewayState :=
      if isFresh f.workspaceReceived f.workspaceTime now p.workspaceStatusTimeout ∧
          f.workspaceStatus.state = .starting then .offline
      else if workspaceReadyLocked p f now = .ok () ∧ feedbackReadyLocked p f now = .ok () then
        .monitor
      else if now - g.startedAt ≤ p.startupFeedbackGrace then .offline
      else .fault
    { g with lease := { g.lease with state := state } }

end Gateway

end JointController
