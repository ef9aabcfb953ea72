import JointController.Gateway.System

/-!
# What changes the feedback of the Heavy gateway

The feedback is only changed by the callbacks of the subscriptions.  No other section of a handler
touches it.

* `handleAck_feedback`, `watchdogTick_feedback` and so on, for the sections.
* `turn_feedback`: a turn that takes no sample leaves the feedback as it is.
-/

namespace JointController

namespace Gateway

section Locked

variable (p : Parameters) (g : Gateway) (now : ℕ)

@[simp] theorem queueBrakeLockLocked_feedback (reason : String) (force : Bool) :
    (queueBrakeLockLocked g reason force).feedback = g.feedback := by
  rw [queueBrakeLockLocked_eq]

@[simp] theorem takePendingBrakeActionLocked_feedback :
    (takePendingBrakeActionLocked p g now).2.feedback = g.feedback := by
  rw [takePendingBrakeActionLocked_eq]

@[simp] theorem clearHeavyLeaseLocked_feedback (reason : String) :
    (clearHeavyLeaseLocked g reason).feedback = g.feedback := by
  unfold clearHeavyLeaseLocked
  split <;> rfl

@[simp] theorem beginSafetyHoldLocked_feedback (reason : String) (revokeLease : Bool) :
    (beginSafetyHoldLocked p g now reason revokeLease).feedback = g.feedback := by
  unfold beginSafetyHoldLocked
  dsimp only
  split
  · rfl
  · rw [queueHoldLock_eq]

@[simp] theorem dispatchUserCommandLocked_feedback (c : Command) (arrival : ℕ) :
    (dispatchUserCommandLocked p g c arrival now).feedback = g.feedback := by
  unfold dispatchUserCommandLocked
  exact queueDispatchLock_feedback _ _ _

@[simp] theorem updateStateWithoutLeaseLocked_feedback :
    (updateStateWithoutLeaseLocked p g now).feedback = g.feedback := by
  unfold updateStateWithoutLeaseLocked
  split_ifs <;> rfl

end Locked

section Sections

variable (p : Parameters) (g : Gateway) (now : ℕ)

@[simp] theorem acquireGrant_feedback (request : AcquireRequest) (random : ℕ) :
    (acquireGrant p g request now random).2.feedback = g.feedback := by
  unfold acquireGrant
  dsimp only
  split <;> rfl

@[simp] theorem commandPreflight_feedback (c : Command) :
    (commandPreflight p g c now).2.feedback = g.feedback := by
  unfold commandPreflight
  dsimp only
  split <;> rfl

@[simp] theorem commandAdmit_feedback (c : Command) (arrival : ℕ) :
    (commandAdmit p g c arrival now).2.feedback = g.feedback := by
  obtain ⟨counters, h, -⟩ | ⟨-, -, ⟨-, h⟩ | ⟨-, h⟩⟩ := commandAdmit_cases p g c arrival now
  · rw [h]
  · rw [h]
    rfl
  · rw [h]
    exact dispatchUserCommandLocked_feedback p g now c arrival

@[simp] theorem handleAck_feedback (arm : Bool) (sequence : ℕ) :
    (handleAck p g arm sequence now).2.feedback = g.feedback := by
  unfold handleAck
  split
  · rfl
  · dsimp only
    split
    · rfl
    · split
      · exact clearHeavyLeaseLocked_feedback _ _
      · split
        · exact dispatchUserCommandLocked_feedback p _ now _ _
        · rfl

@[simp] theorem releaseBegin_feedback (request : ReleaseRequest) :
    (releaseBegin p g request now).2.feedback = g.feedback := by
  unfold releaseBegin
  split
  · rfl
  · split
    · exact clearHeavyLeaseLocked_feedback g _
    · exact beginSafetyHoldLocked_feedback p g now _ _

theorem releaseWake_feedback {deadline : ℕ} {outcome : ReleaseOutcome} {g' : Gateway}
    (h : releaseWake g deadline now = some (outcome, g')) : g'.feedback = g.feedback := by
  unfold releaseWake at h
  split at h
  · cases h
    rfl
  · split at h
    · cases h
      exact clearHeavyLeaseLocked_feedback g _
    · cases h

@[simp] theorem finishBrakeAction_feedback (action : BrakeAction) (confirmed : Bool)
    (error : String) : (finishBrakeAction g action confirmed error).feedback = g.feedback := by
  unfold finishBrakeAction
  split <;> rfl

theorem watchdogTick_feedback : (watchdogTick p g now).gateway.feedback = g.feedback := by
  have hcommand (t : Tick) : (t.commandTimeout p now).gateway.feedback = t.gateway.feedback := by
    unfold Tick.commandTimeout
    dsimp only
    split
    · exact beginSafetyHoldLocked_feedback p _ now _ _
    · rfl
  have hexpiry (t : Tick) : (t.leaseExpiry p now).gateway.feedback = t.gateway.feedback := by
    unfold Tick.leaseExpiry
    dsimp only
    split
    · exact beginSafetyHoldLocked_feedback p _ now _ _
    · rfl
  have hrevocation (t : Tick) :
      (t.revocationFallback p now).gateway.feedback = t.gateway.feedback := by
    unfold Tick.revocationFallback
    dsimp only
    split
    · exact clearHeavyLeaseLocked_feedback _ _
    · rfl
  have hack (t : Tick) : (t.ackTimeout p now).gateway.feedback = t.gateway.feedback := by
    unfold Tick.ackTimeout
    dsimp only
    split
    · rw [clearHeavyLeaseLocked_feedback, queueBrakeLockLocked_feedback]
    · rfl
  have hretry (t : Tick) : (t.retryPending p now).gateway.feedback = t.gateway.feedback := by
    unfold Tick.retryPending
    dsimp only
    split <;> rfl
  have hready (t : Tick) : (t.readiness p now).gateway.feedback = t.gateway.feedback := by
    unfold Tick.readiness holdAndClear
    dsimp only
    split_ifs
    · rw [clearHeavyLeaseLocked_feedback, beginSafetyHoldLocked_feedback]
    · rw [clearHeavyLeaseLocked_feedback, beginSafetyHoldLocked_feedback]
    · rfl
  unfold watchdogTick Tick.brakeLock
  dsimp only
  rw [takePendingBrakeActionLocked_feedback, updateStateWithoutLeaseLocked_feedback, hready, hretry,
    hack, hrevocation, hexpiry, hcommand]

end Sections

/-- The sample that an action takes. -/
def Action.sample? : Action → Option Sample
  | .sample message => some message
  | _ => none

/-- A turn that takes no sample leaves the feedback as it is. -/
theorem turn_feedback {p : Parameters} {now : ℕ} {g : Gateway} {pc : Pc} {action : Action}
    {t : Turn} (h : turn p now g pc action = some t) :
    t.gateway.feedback =
      (action.sample?.elim g fun sample => receive p g now sample).feedback := by
  unfold turn at h
  split at h
  · cases h
    rfl
  · cases h
    exact (congrArg Gateway.feedback (ackTurn_gateway p now g _ _)).trans
      (handleAck_feedback p g now _ _)
  · cases h
    exact watchdogTick_feedback p g now
  · cases h
    exact (congrArg Gateway.feedback (commandTurn_gateway p now g _)).trans
      (commandPreflight_feedback p g now _)
  · cases h
    exact (congrArg Gateway.feedback (admitTurn_gateway p now g _ _)).trans
      (commandAdmit_feedback p g now _ _)
  · cases h
    unfold acquireTurn
    split <;> rfl
  · cases h
    exact (congrArg Gateway.feedback (grantTurn_gateway p now g _ _)).trans
      (acquireGrant_feedback p g now _ _)
  · cases h
    rfl
  · cases h
    exact (congrArg Gateway.feedback (releaseTurn_gateway p now g _)).trans
      (releaseBegin_feedback p g now _)
  · obtain ⟨outcome, hwake⟩ := releaseWakeTurn_eq_some now g h
    exact releaseWake_feedback g now hwake
  · cases h
    unfold liftBrakeTurn
    split <;> rfl
  · cases h
    rfl
  · obtain ⟨phase, -, rfl⟩ := Option.map_eq_some_iff.mp h
    rfl
  · cases h
    rfl
  · cases h
    exact finishBrakeAction_feedback g _ _ _
  · cases h
    unfold publishTurn publishInternalCommand
    split
    · rfl
    · dsimp only
      split <;> rfl
  · cases h

end Gateway

end JointController
