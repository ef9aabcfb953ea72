import JointController.Gateway.Subscriptions

/-!
# Locked sections of the gateway's handlers

Every handler of the gateway is a sequence of sections that hold the mutex.  Each section is a
function of the shared state and of the time, and returns what the handler goes on with after it
has released the mutex.

* `acquireCheck`, `prepareLease`, `acquireGrant`: the two sections of `handleAcquire`.
* `commandPreflight`, `commandAdmit`: the two sections of `handleCommand`.
* `handleAck`: one acknowledgement.
* `releaseBegin`, `releaseWake`: `handleRelease` up to its wait, and after it.
* `liftBrakeCheck`, `beginTransition`: the section of `handleLiftBrake`.
* `finishBrakeAction`: the last section of `executeBrakeAction`.
* `watchdogTick`: the section of `watchdogAndFeedbackTick`, one function for each of its branches.
-/

namespace JointController

namespace Gateway

/-! ## Acquiring a lease -/

/-- Why a lease is not granted. -/
inductive AcquireRefusal where
  | emptyOwner
  | protocolMajor
  | protocolMinor
  | layoutCrc
  | alreadyHeld : (owner lease : String) → GatewayState → AcquireRefusal
  | unavailable : String → AcquireRefusal
  | enableNotConfirmed
  | unavailableAfterPreparation : String → AcquireRefusal
  deriving DecidableEq

/-- What the first section of `handleAcquire` checks. -/
def acquireCheck (p : Parameters) (g : Gateway) (request : AcquireRequest) (now : ℕ) :
    Except AcquireRefusal Unit := do
  let f := g.feedback
  Checks.refuse (request.ownerId = "") .emptyOwner
  Checks.refuse (request.protocolMajor ≠ protocolMajor) .protocolMajor
  Checks.refuse (protocolMinor < request.protocolMinor) .protocolMinor
  Checks.refuse (request.layoutCrc32 ≠ layoutCrc32) .layoutCrc
  Checks.refuse (g.lease.active ∨ g.acquisitionInProgress)
    (.alreadyHeld g.lease.ownerId g.lease.leaseId g.lease.state)
  (workspaceReadyLocked p f now).mapError .unavailable
  (feedbackReadyLocked p f now).mapError .unavailable
  (controllerEndpointsReadyLocked f).mapError .unavailable
  (liftEnableReadyLocked p f now).mapError .unavailable
  Checks.refuse (¬ liftPowerEnabledLocked p f now ∧ ¬ p.heavyLiftBrakeClient)
    (.unavailable "lift power is disabled and the native enable service is not configured")

/-- The lift power has to be enabled before a lease is granted. -/
def enablesLift (p : Parameters) (f : FeedbackCache) (now : ℕ) : Bool :=
  f.workspaceStatus.mode == .real && !liftPowerEnabledLocked p f now

/-- The first section of `handleAcquire` after its checks.  The flag of the brake transition is set
without being read. -/
def prepareLease (p : Parameters) (g : Gateway) (now : ℕ) : Gateway :=
  { g with
    acquisitionInProgress := true
    brake := { g.brake with
      transitionInProgress := enablesLift p g.feedback now || g.brake.transitionInProgress } }

/-- The hexadecimal digits of a number. -/
def hexadecimal (n : ℕ) : String := String.ofList (Nat.toDigits 16 n)

/-- `generateLeaseId`, with the value of its random device. -/
def generateLeaseId (owner : String) (random now generation : ℕ) : String :=
  owner ++ "-" ++ hexadecimal random ++ "-" ++ hexadecimal now ++ "-" ++ hexadecimal generation

/-- The first sequence of a lease, `lease_generation_ * 1000000ULL + 1ULL`. -/
def initialSequenceOf (generation : ℕ) : ℕ := generation * 1000000 + 1

/-- The lease after a grant.  The applied sequence is the only sequence that is not reset. -/
def grantedLease (l : LeaseState) (request : AcquireRequest) (now random : ℕ) : LeaseState :=
  let generation := l.generation + 1
  { l with
    generation := generation
    initialSequence := initialSequenceOf generation
    lastAcceptedSequence := initialSequenceOf generation - 1
    ownerId := request.ownerId
    leaseId := generateLeaseId request.ownerId random now generation
    active := true
    alignedHold := false
    firstUserCommand := true
    lastMode := Command.modeStop
    deadline := 0
    lastAcceptedCommandTime := 0
    state := .monitor }

/-- The grant: a new lease, and a HOLD at the measured position for the lower controllers to
align to. -/
def grantLease (p : Parameters) (g : Gateway) (request : AcquireRequest) (now random : ℕ) :
    Gateway :=
  let lease := grantedLease g.lease request now random
  let alignment := makeHoldCommandLocked p { g with lease := lease } lease.lastAcceptedSequence
  let sequence := g.transaction.controllerGeneration + 1
  { g with
    lease := lease
    transaction := { g.transaction with
      controllerGeneration := sequence
      pendingSequence := sequence
      pendingExternalSequence := 0
      pendingInternalCommand := { alignment with sequence := sequence }
      lastPublishTime := now
      ackRetryCount := 0
      pendingValid := true
      pendingIsUser := false
      stagedValid := false
      revokeAfterAck := false
      armAckSequence := 0
      liftAckSequence := 0
      pendingTime := now }
    history := .held lease.generation sequence :: .granted lease.generation :: g.history }

/-- What the second section of `handleAcquire` checks again. -/
def acquireRecheck (p : Parameters) (g : Gateway) (now : ℕ) : Except String Unit := do
  let f := g.feedback
  Checks.refuse g.lease.active "lift power is not confirmed"
  workspaceReadyLocked p f now
  feedbackReadyLocked p f now
  controllerEndpointsReadyLocked f
  liftEnableReadyLocked p f now
  Checks.refuse (f.workspaceStatus.mode = .real ∧ ¬ liftPowerEnabledLocked p f now)
    "lift power is not confirmed"

/-- No acquisition is in progress any more. -/
def endAcquisition (g : Gateway) : Gateway := { g with acquisitionInProgress := false }

/-- The second section of `handleAcquire`. -/
def acquireGrant (p : Parameters) (g : Gateway) (request : AcquireRequest) (now random : ℕ) :
    Except AcquireRefusal Unit × Gateway :=
  let g := endAcquisition g
  match acquireRecheck p g now with
  | .error reason => (.error (.unavailableAfterPreparation reason), g)
  | .ok () => (.ok (), grantLease p g request now random)

/-! ## Commands -/

/-- The condition under which `handleCommand` releases the brake before a FOLLOW_POSITION. -/
def releasesBeforeFollow (p : Parameters) (g : Gateway) (c : Command) (now : ℕ) : Prop :=
  c.mode = Command.modeFollowPosition ∧ g.lease.active ∧ ¬ g.transaction.pendingValid ∧
    ¬ g.transaction.stagedValid ∧ c.ownerId = g.lease.ownerId ∧ c.leaseId = g.lease.leaseId ∧
    newestAdmittedCommandSequenceLocked g < c.sequence ∧ g.brake.locked ∧
    ¬ g.brake.transitionInProgress ∧ p.heavyLiftBrakeClient ∧
    validateCommandLocked p g c now true = .ok () ∧ liftEnableReadyLocked p g.feedback now = .ok ()

instance (p : Parameters) (g : Gateway) (c : Command) (now : ℕ) :
    Decidable (releasesBeforeFollow p g c now) := by
  unfold releasesBeforeFollow; infer_instance

/-- The first section of `handleCommand`: the command is counted, and a valid FOLLOW_POSITION
behind a locked brake starts the release of the brake. -/
def commandPreflight (p : Parameters) (g : Gateway) (c : Command) (now : ℕ) :
    Option BrakeAction × Gateway :=
  let g := { g with counters := { g.counters with received := g.counters.received + 1 } }
  if releasesBeforeFollow p g c now then
    (some ⟨true, "MODE_FOLLOW_POSITION brake release", false, 0⟩,
      { g with brake := { g.brake with transitionInProgress := true } })
  else (none, g)

/-- What becomes of a received command. -/
inductive CommandOutcome where
  | faulted
  | rejected : Rejection → CommandOutcome
  | outOfOrder
  | duplicate
  | pendingBrakeLocked
  | staged
  | forwarded
  deriving DecidableEq

/-- A rejected command is only counted. -/
def rejectCommand (g : Gateway) : Gateway :=
  { g with counters := { g.counters with rejected := g.counters.rejected + 1 } }

/-- The one command that may wait behind the outstanding transaction is replaced. -/
def stageCommand (g : Gateway) (c : Command) (arrival : ℕ) : Gateway :=
  { g with
    transaction := { g.transaction with
      stagedCommand := c
      stagedValid := true
      stagedArrival := arrival }
    history := .staged g.lease.generation arrival c :: g.history }

/-- The second section of `handleCommand`, for the command that arrived as number `arrival`. -/
def commandAdmit (p : Parameters) (g : Gateway) (c : Command) (arrival now : ℕ) :
    CommandOutcome × Gateway :=
  if g.lease.state = .fault then (.faulted, rejectCommand g)
  else
    match validateCommandLocked p g c now false with
    | .error reason => (.rejected reason, rejectCommand g)
    | .ok () =>
      let newest := newestAdmittedCommandSequenceLocked g
      if c.sequence < newest then
        (.outOfOrder, { g with counters := { g.counters with
          rejected := g.counters.rejected + 1
          outOfOrder := g.counters.outOfOrder + 1 } })
      else if c.sequence = newest then
        (.duplicate, { g with counters := { g.counters with
          duplicate := g.counters.duplicate + 1 } })
      else if g.transaction.pendingValid then
        if c.mode = Command.modeFollowPosition ∧ g.brake.locked then
          (.pendingBrakeLocked, rejectCommand g)
        else (.staged, stageCommand g c arrival)
      else (.forwarded, dispatchUserCommandLocked p g c arrival now)

/-- A command is counted, or staged, or dispatched; the last two only when it is valid and newer
than every admitted command. -/
theorem commandAdmit_cases (p : Parameters) (g : Gateway) (c : Command) (arrival now : ℕ) :
    (∃ counters : Counters, (commandAdmit p g c arrival now).2 = { g with counters := counters } ∧
      counters.accepted = g.counters.accepted ∧ counters.received = g.counters.received) ∨
    validateCommandLocked p g c now false = .ok () ∧
      newestAdmittedCommandSequenceLocked g < c.sequence ∧
      (g.transaction.pendingValid = true ∧
        (commandAdmit p g c arrival now).2 = stageCommand g c arrival ∨
      g.transaction.pendingValid = false ∧ commandAdmit p g c arrival now =
        (.forwarded, dispatchUserCommandLocked p g c arrival now)) := by
  unfold commandAdmit
  split
  · exact .inl ⟨_, rfl, rfl, rfl⟩
  split
  · exact .inl ⟨_, rfl, rfl, rfl⟩
  next hvalid =>
  dsimp only
  split
  · exact .inl ⟨_, rfl, rfl, rfl⟩
  next hlt =>
  split
  · exact .inl ⟨_, rfl, rfl, rfl⟩
  next hne =>
  have hseq : newestAdmittedCommandSequenceLocked g < c.sequence :=
    lt_of_le_of_ne (Nat.not_lt.mp hlt) (Ne.symm hne)
  split
  · next hpending =>
    split
    · exact .inl ⟨_, rfl, rfl, rfl⟩
    · exact .inr ⟨hvalid, hseq, .inl ⟨hpending, rfl⟩⟩
  · next hpending => exact .inr ⟨hvalid, hseq, .inr ⟨Bool.eq_false_iff.mpr hpending, rfl⟩⟩

/-! ## Acknowledgements -/

/-- What an acknowledgement leads to. -/
inductive AckOutcome where
  | ignored
  | partiallyAcked
  | confirmed
  | leaseCleared
  | promoted
  deriving DecidableEq

/-- The acknowledgement is recorded and, when it names the pending generation, kept. -/
def recordAck (g : Gateway) (arm : Bool) (sequence : ℕ) : Gateway :=
  { g with
    transaction := { g.transaction with
      armAckSequence := if arm then sequence else g.transaction.armAckSequence
      liftAckSequence := if arm then g.transaction.liftAckSequence else sequence }
    history := .acked arm sequence :: g.history }

/-- Both controllers have acknowledged the pending generation. -/
def confirmPending (g : Gateway) : Gateway :=
  { g with
    lease := { g.lease with
      appliedCommandSequence :=
        if g.transaction.pendingIsUser then g.transaction.pendingExternalSequence
        else g.lease.appliedCommandSequence
      alignedHold := true
      state :=
        if ¬ g.lease.alignedHold then .leasedHold
        else if g.lease.state = .stopping ∧ ¬ g.transaction.revokeAfterAck then .leasedHold
        else g.lease.state }
    transaction := { g.transaction with pendingValid := false } }

/-- The reason of a revocation, which the source falls back on when there is none. -/
def revocationReason (g : Gateway) : String :=
  if g.transaction.pendingClearReason = "" then "internal_state_invariant_failure"
  else g.transaction.pendingClearReason

/-- The staged command is dispatched. -/
def promoteStaged (p : Parameters) (g : Gateway) (now : ℕ) : Gateway :=
  let g := dispatchUserCommandLocked p g g.transaction.stagedCommand g.transaction.stagedArrival now
  { g with transaction := { g.transaction with stagedValid := false } }

/-- `handleAck`. -/
def handleAck (p : Parameters) (g : Gateway) (arm : Bool) (sequence now : ℕ) :
    AckOutcome × Gateway :=
  if ¬ g.transaction.pendingValid ∨ sequence ≠ g.transaction.pendingSequence then
    (.ignored,
      { g with
        counters := { g.counters with
          ignoredArmAcks := g.counters.ignoredArmAcks + if arm then 1 else 0
          ignoredLiftAcks := g.counters.ignoredLiftAcks + if arm then 0 else 1 }
        history := .acked arm sequence :: g.history })
  else
    let g := recordAck g arm sequence
    if g.transaction.armAckSequence ≠ g.transaction.pendingSequence ∨
        g.transaction.liftAckSequence ≠ g.transaction.pendingSequence then
      (.partiallyAcked, g)
    else
      let g := confirmPending g
      if g.transaction.revokeAfterAck then
        (.leaseCleared, clearHeavyLeaseLocked g (revocationReason g))
      else if g.transaction.stagedValid then (.promoted, promoteStaged p g now)
      else (.confirmed, g)

/-- The acknowledgement of the pending generation is the last one that it waits for. -/
def completesPending (g : Gateway) (arm : Bool) : Prop :=
  (if arm then g.transaction.liftAckSequence else g.transaction.armAckSequence) =
    g.transaction.pendingSequence

theorem recordAck_incomplete_iff {g : Gateway} (arm : Bool) :
    ((recordAck g arm g.transaction.pendingSequence).transaction.armAckSequence ≠
        g.transaction.pendingSequence ∨
      (recordAck g arm g.transaction.pendingSequence).transaction.liftAckSequence ≠
        g.transaction.pendingSequence) ↔ ¬ completesPending g arm := by
  cases arm <;> simp [recordAck, completesPending]

/-- An acknowledgement is ignored, or it is kept, or it completes the pending transaction; then the
lease is cleared, or the staged command is dispatched, or nothing more happens. -/
theorem handleAck_cases (p : Parameters) (g : Gateway) (arm : Bool) (sequence now : ℕ) :
    ((¬ g.transaction.pendingValid ∨ sequence ≠ g.transaction.pendingSequence) ∧
      ∃ counters : Counters, handleAck p g arm sequence now = (.ignored,
          { g with counters := counters, history := .acked arm sequence :: g.history }) ∧
        counters.received = g.counters.received ∧ counters.accepted = g.counters.accepted) ∨
    (g.transaction.pendingValid = true ∧ g.transaction.pendingSequence = sequence ∧
      let recorded := recordAck g arm g.transaction.pendingSequence
      let confirmed := confirmPending recorded
      (¬ completesPending g arm ∧ handleAck p g arm sequence now = (.partiallyAcked, recorded) ∨
      completesPending g arm ∧
        (g.transaction.revokeAfterAck = true ∧ handleAck p g arm sequence now =
            (.leaseCleared, clearHeavyLeaseLocked confirmed (revocationReason confirmed)) ∨
        g.transaction.revokeAfterAck = false ∧ g.transaction.stagedValid = true ∧
          handleAck p g arm sequence now = (.promoted, promoteStaged p confirmed now) ∨
        g.transaction.revokeAfterAck = false ∧ g.transaction.stagedValid = false ∧
          handleAck p g arm sequence now = (.confirmed, confirmed)))) := by
  unfold handleAck
  split
  · next h => exact .inl ⟨h, _, rfl, rfl, rfl⟩
  next h =>
  rw [not_or, not_not, not_not] at h
  obtain ⟨hpending, rfl⟩ := h
  refine .inr ⟨hpending, rfl, ?_⟩
  dsimp only
  split
  · next hpart => exact .inl ⟨(recordAck_incomplete_iff arm).mp hpart, rfl⟩
  next hall =>
  refine .inr ⟨not_not.mp fun hn => hall ((recordAck_incomplete_iff arm).mpr hn), ?_⟩
  split
  · next hrevoke => exact .inl ⟨hrevoke, rfl⟩
  next hrevoke =>
  split
  · next hstaged => exact .inr (.inl ⟨Bool.eq_false_iff.mpr hrevoke, hstaged, rfl⟩)
  · next hstaged =>
    exact .inr (.inr ⟨Bool.eq_false_iff.mpr hrevoke, Bool.eq_false_iff.mpr hstaged, rfl⟩)

/-! ## Releasing a lease -/

/-- What `handleRelease` does in its first section. -/
inductive ReleaseOutcome where
  | mismatch
  | releasedWithoutHold : String → ReleaseOutcome
  | waiting
  deriving DecidableEq

/-- The reason of a release while the workspace is not running, or `none` while it is. -/
def releaseWorkspaceStop (p : Parameters) (f : FeedbackCache) (now : ℕ) : Option String :=
  if ¬ isFresh f.workspaceReceived f.workspaceTime now p.workspaceStatusTimeout ∨
      ¬ f.workspaceStatus.accepted ∨ f.workspaceStatus.state ≠ .running then
    if workspaceReadyLocked p f now ≠ .ok () then
      some ("workspace_stop: " ++ Checks.reason (workspaceReadyLocked p f now))
    else some "workspace_stop: workspace is not RUNNING"
  else none

/-- `handleRelease` until it waits for the acknowledgement of its HOLD. -/
def releaseBegin (p : Parameters) (g : Gateway) (request : ReleaseRequest) (now : ℕ) :
    ReleaseOutcome × Gateway :=
  if ¬ g.lease.active ∨ request.ownerId ≠ g.lease.ownerId ∨ request.leaseId ≠ g.lease.leaseId then
    (.mismatch, g)
  else
    match releaseWorkspaceStop p g.feedback now with
    | some detail => (.releasedWithoutHold detail, clearHeavyLeaseLocked g detail)
    | none => (.waiting, beginSafetyHoldLocked p g now "explicit_release" true)

/-- The reason of a release whose HOLD was not acknowledged in time. -/
def releaseTimeoutReason : String := "explicit_release_ack_timeout: controller HOLD ack timeout"

/-- `handleRelease` when its wait ends at `now`: `none` while the wait goes on.  The wait is for
"no lease is active", whichever lease that is. -/
def releaseWake (g : Gateway) (deadline now : ℕ) : Option (ReleaseOutcome × Gateway) :=
  if ¬ g.lease.active then some (.waiting, g)
  else if deadline ≤ now then
    some (.releasedWithoutHold releaseTimeoutReason, clearHeavyLeaseLocked g releaseTimeoutReason)
  else none

/-! ## The lift brake -/

/-- Why `handleLiftBrake` does not start a transition. -/
inductive LiftBrakeRefusal where
  | notConfigured
  | alreadyLocked
  | alreadyReleased
  | inProgress
  | releaseRejected : String → LiftBrakeRefusal
  deriving DecidableEq

/-- What `handleLiftBrake` checks. -/
def liftBrakeCheck (p : Parameters) (g : Gateway) (request : LiftBrakeRequest) (now : ℕ) :
    Except LiftBrakeRefusal Unit := do
  let f := g.feedback
  Checks.refuse (¬ p.heavyLiftBrakeClient) .notConfigured
  Checks.refuse (¬ request.release ∧ g.brake.locked) .alreadyLocked
  Checks.refuse (request.release ∧ ¬ g.brake.locked) .alreadyReleased
  Checks.refuse g.brake.transitionInProgress .inProgress
  if request.release then
    (workspaceReadyLocked p f now).mapError .releaseRejected
    (feedbackReadyLocked p f now).mapError .releaseRejected
    Checks.refuse f.liftStatus.blocked (.releaseRejected "")
  else .ok ()

/-- The action that `handleLiftBrake` starts. -/
def liftBrakeAction (g : Gateway) (request : LiftBrakeRequest) : BrakeAction where
  release := request.release
  reason := if request.release then "explicit_brake_release" else "explicit_brake_lock"
  force := true
  queuedAt := g.counters.accepted

/-- A brake transition begins. -/
def beginTransition (g : Gateway) : Gateway :=
  { g with brake := { g.brake with transitionInProgress := true } }

/-- The last section of `executeBrakeAction`; `error` describes a failure. -/
def finishBrakeAction (g : Gateway) (action : BrakeAction) (confirmed : Bool) (error : String) :
    Gateway :=
  if confirmed then
    { g with brake := { g.brake with
        transitionInProgress := false
        locked := !action.release
        lockCommanded := !action.release
        transitionCount := g.brake.transitionCount + 1
        lastReason := action.reason } }
  else
    { g with brake := { g.brake with
        transitionInProgress := false
        lastReason := action.reason ++ ": " ++ error } }

/-! ## The watchdog -/

/-- The locals of `watchdogAndFeedbackTick` with the shared state. -/
structure Tick where
  gateway : Gateway
  releaseGate : Bool
  retryCommand : Option Command
  brakeAction : Option BrakeAction

/-- A FOLLOW_POSITION without a following command for the hold timeout becomes a HOLD. -/
def Tick.commandTimeout (p : Parameters) (now : ℕ) (t : Tick) : Tick :=
  let g := t.gateway
  if g.lease.active ∧ ¬ g.transaction.pendingValid ∧ g.lease.state = .following ∧
      p.commandHoldTimeout < now - g.lease.lastAcceptedCommandTime then
    { t with gateway := beginSafetyHoldLocked p g now commandTimeoutReason false }
  else t

/-- The reason of an expired lease. -/
def leaseExpiredReason (p : Parameters) : String :=
  "execution lease expired after " ++ toString (p.executionLeaseTimeout / 1000000) ++
    " ms without an accepted command"

/-- An accepted command has set the lease deadline, and it has passed. -/
def LeaseState.expired (l : LeaseState) (now : ℕ) : Prop :=
  l.active ∧ l.lastAcceptedCommandTime ≠ 0 ∧ l.deadline ≤ now

instance (l : LeaseState) (now : ℕ) : Decidable (LeaseState.expired l now) := by
  unfold LeaseState.expired; infer_instance

/-- The expiry of the lease begins a revoking HOLD, in every tick from the deadline on. -/
def Tick.leaseExpiry (p : Parameters) (now : ℕ) (t : Tick) : Tick :=
  let g := t.gateway
  if LeaseState.expired g.lease now then
    let counted := { g with counters := { g.counters with
      leaseExpiries := g.counters.leaseExpiries + 1 } }
    { t with gateway := beginSafetyHoldLocked p counted now (leaseExpiredReason p) true }
  else t

/-- The acknowledgement of the pending command is overdue. -/
def ackOverdue (p : Parameters) (t : Transaction) (now : ℕ) : Prop :=
  t.pendingValid ∧ p.controllerAckTimeout < now - t.pendingTime

instance (p : Parameters) (t : Transaction) (now : ℕ) : Decidable (ackOverdue p t now) := by
  unfold ackOverdue; infer_instance

/-- The fallback of a revocation whose HOLD is not acknowledged. -/
def Tick.revocationFallback (p : Parameters) (now : ℕ) (t : Tick) : Tick :=
  let g := t.gateway
  if g.lease.active ∧ g.transaction.revokeAfterAck ∧ ackOverdue p g.transaction now then
    { t with
      gateway := clearHeavyLeaseLocked g (revocationReason g ++ " (ack timeout fallback)")
      releaseGate := true }
  else t

/-- The reason of a lease that ends by an acknowledgement timeout. -/
def ackTimeoutReason : String :=
  "automatic release: controller HOLD ack timeout; lease revoked after STOP/HOLD submission"

/-- An overdue acknowledgement is a fault: it queues a lock and ends the lease. -/
def Tick.ackTimeout (p : Parameters) (now : ℕ) (t : Tick) : Tick :=
  let g := t.gateway
  if g.lease.active ∧ ackOverdue p g.transaction now ∧ g.lease.state ≠ .fault then
    let faulted := { g with lease := { g.lease with state := .fault } }
    let queued := queueBrakeLockLocked faulted "controller_apply_ack_timeout" true
    { t with
      gateway := clearHeavyLeaseLocked queued ackTimeoutReason
      releaseGate := true }
  else t

/-- The pending command is published again in the retry interval. -/
def Tick.retryPending (p : Parameters) (now : ℕ) (t : Tick) : Tick :=
  let g := t.gateway
  let pending := g.transaction
  if g.lease.active ∧ pending.pendingValid ∧ now - pending.pendingTime < p.controllerAckTimeout ∧
      p.controllerAckRetryInterval ≤ now - pending.lastPublishTime ∧
      pending.pendingInternalCommand.sequence = pending.pendingSequence then
    { t with
      gateway := { g with transaction :=
        { pending with ackRetryCount := pending.ackRetryCount + 1 } }
      retryCommand := some pending.pendingInternalCommand }
  else t

/-- The lease ends at once, after a last HOLD. -/
def holdAndClear (p : Parameters) (g : Gateway) (now : ℕ) (reason : String) : Gateway :=
  clearHeavyLeaseLocked (beginSafetyHoldLocked p g now reason true) reason

/-- The workspace that the lease needs is lost, and no revocation is under way. -/
def workspaceLost (p : Parameters) (g : Gateway) (now : ℕ) : Prop :=
  g.lease.active ∧ ¬ g.transaction.revokeAfterAck ∧
    workspaceReadyLocked p g.feedback now ≠ .ok ()

instance (p : Parameters) (g : Gateway) (now : ℕ) : Decidable (workspaceLost p g now) := by
  unfold workspaceLost; infer_instance

/-- The feedback that the lease needs is lost, and the lease is not stopping already. -/
def feedbackLost (p : Parameters) (g : Gateway) (now : ℕ) : Prop :=
  g.lease.active ∧ feedbackReadyLocked p g.feedback now ≠ .ok () ∧ g.lease.state ≠ .fault ∧
    g.lease.state ≠ .stopping

instance (p : Parameters) (g : Gateway) (now : ℕ) : Decidable (feedbackLost p g now) := by
  unfold feedbackLost; infer_instance

/-- A lost workspace or lost feedback ends the lease. -/
def Tick.readiness (p : Parameters) (now : ℕ) (t : Tick) : Tick :=
  let g := t.gateway
  if workspaceLost p g now then
    { t with
      gateway := holdAndClear p g now
        ("workspace_stop: " ++ Checks.reason (workspaceReadyLocked p g.feedback now))
      releaseGate := true }
  else if feedbackLost p g now then
    { t with
      gateway := holdAndClear p g now
        ("resource_fault: " ++ Checks.reason (feedbackReadyLocked p g.feedback now))
      releaseGate := true }
  else t

/-- The state between leases and the queued brake lock. -/
def Tick.brakeLock (p : Parameters) (now : ℕ) (t : Tick) : Tick :=
  let taken := takePendingBrakeActionLocked p (updateStateWithoutLeaseLocked p t.gateway now) now
  { t with gateway := taken.2, brakeAction := taken.1 }

/-- The section of `watchdogAndFeedbackTick`. -/
def watchdogTick (p : Parameters) (g : Gateway) (now : ℕ) : Tick :=
  Tick.brakeLock p now <| Tick.readiness p now <| Tick.retryPending p now <|
    Tick.ackTimeout p now <| Tick.revocationFallback p now <| Tick.leaseExpiry p now <|
    Tick.commandTimeout p now ⟨g, false, none, none⟩

end Gateway

end JointController
