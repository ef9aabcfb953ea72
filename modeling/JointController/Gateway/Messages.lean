import JointController.Gateway.Subscriptions

/-!
# Published status and feedback

What the gateway publishes about itself: the status message with the diagnostics in its detail
text, and the joint feedback with the validity and fault bits of every resource.

* `publishStatus`, `publishFeedback`: the messages at a time, from the shared state.
* `publishFeedback_eq_none_iff`: the only time at which no feedback is published.
* `publishFeedback_complete`: under a lease, published feedback is complete.
-/

namespace JointController

namespace Gateway

/-! ## Status -/

/-- `leaseRemainingMsLocked`, in ticks of the clock. -/
def leaseRemaining (l : LeaseState) (now : ℕ) : ℕ :=
  if ¬ l.active ∨ l.deadline ≤ now then 0 else l.deadline - now

/-- `commandAgeMsLocked`, in ticks of the clock; `none` stands for `kNoCommandAgeMs`. -/
def commandAge (l : LeaseState) (now : ℕ) : Option ℕ :=
  if l.lastAcceptedCommandTime = 0 then none else some (now - l.lastAcceptedCommandTime)

/-- The status message, with the numbers that `brakeDiagnosticLocked` writes into its detail. -/
structure StatusMessage where
  state : GatewayState
  activeOwnerId : String
  activeLeaseId : String
  leaseRemaining : ℕ
  commandAge : Option ℕ
  counters : Counters
  commandMode : ℕ
  liftBrakeLocked : Bool
  brakeTransitionCount : ℕ
  lastBrakeReason : String
  lastAcceptedSequence : ℕ
  appliedSequence : ℕ
  pendingControllerGeneration : ℕ
  armAckGeneration : ℕ
  liftAckGeneration : ℕ

/-- `publishStatus`. -/
def publishStatus (g : Gateway) (now : ℕ) : StatusMessage where
  state := g.lease.state
  activeOwnerId := if g.lease.active then g.lease.ownerId else ""
  activeLeaseId := if g.lease.active then g.lease.leaseId else ""
  leaseRemaining := leaseRemaining g.lease now
  commandAge := commandAge g.lease now
  counters := g.counters
  commandMode := g.lease.lastMode
  liftBrakeLocked := g.brake.locked
  brakeTransitionCount := g.brake.transitionCount
  lastBrakeReason := g.brake.lastReason
  lastAcceptedSequence := g.lease.lastAcceptedSequence
  appliedSequence := g.lease.appliedCommandSequence
  pendingControllerGeneration :=
    if g.transaction.pendingValid then g.transaction.pendingSequence else 0
  armAckGeneration := g.transaction.armAckSequence
  liftAckGeneration := g.transaction.liftAckSequence

/-! ## Feedback -/

/-- The workspace state of a feedback message. -/
inductive FeedbackWorkspace where
  | stopped | simulation | real
  deriving DecidableEq

/-- `HeavyUpperBodyGatewayFeedbackV1`. -/
structure FeedbackMessage where
  appliedCommandSequence : ℕ
  activeOwnerId : String
  activeLeaseId : String
  workspaceState : FeedbackWorkspace
  positionMode : Bool
  positionValidMask : UInt16
  velocityValidMask : UInt16
  armTorqueEnabledMask : UInt16
  resourceFaultMask : UInt16
  liftDriveEnabled : Bool
  position : Resources Double
  velocity : Resources Double
  faultCode : Resources ℤ
  commandAge : Option ℕ

/-- The mask of the arm joints that satisfy a test. -/
def armMask (test : Fin 14 → Bool) : UInt16 :=
  (List.finRange 14).foldl (fun mask i => if test i then mask ||| armBit i else mask) 0

/-- A status code of an arm drive that is a fault. -/
def armFault (code : ℤ) : Bool := code == 0 || code == 8

/-- A validity mask without the resources whose joint feedback is not fresh. -/
def trimMask (p : Parameters) (joints : JointSnapshot) (now : ℕ) (mask : UInt16) : UInt16 :=
  let arm := isFresh joints.armReceived joints.armTime now p.feedbackFaultTimeout
  let lift := isFresh joints.liftReceived joints.liftTime now p.feedbackFaultTimeout
  let mask := if arm then mask else mask &&& liftResourceMask
  if lift then mask else mask &&& armResourceMask

/-- The fault bits and codes that the drives report. -/
def driveFaults (p : Parameters) (f : FeedbackCache) (now : ℕ) : UInt16 × Resources ℤ :=
  let arm := isFresh f.armPowerReceived f.armPowerTime now p.feedbackFaultTimeout &&
    f.armPower.enabled.length == 14 && f.armPower.statusCodes.length == 14
  let code (i : Fin 14) : ℤ := (f.armPower.statusCodes[i.1]?).getD 0
  let armCodes (i : Fin 14) : ℤ :=
    if arm && armFault (code i) then if code i = 0 then -1 else code i else 0
  let liftFault := !isFresh f.liftStatusReceived f.liftStatusTime now p.feedbackFaultTimeout ||
    !f.liftStatus.valid || f.liftStatus.errorCode != 0
  let liftCode : ℤ :=
    if liftFault then if f.liftStatus.errorCode = 0 then -1 else f.liftStatus.errorCode else 0
  ((if arm then armMask fun i => armFault (code i) else 0) |||
      (if liftFault then liftResourceMask else 0),
    Fin.cons liftCode armCodes)

/-- The fault bits and codes after those of incomplete joint feedback have been added. -/
def jointFaults (positionMask velocityMask : UInt16) (faults : UInt16 × Resources ℤ) :
    UInt16 × Resources ℤ :=
  let arm := (positionMask &&& armResourceMask) != armResourceMask ||
    (velocityMask &&& armResourceMask) != armResourceMask
  let lift := (positionMask &&& liftResourceMask) == 0 || (velocityMask &&& liftResourceMask) == 0
  (faults.1 ||| (if arm then armResourceMask else 0) ||| (if lift then liftResourceMask else 0),
    fun i =>
      let incomplete := if i = 0 then lift else arm
      if incomplete && faults.2 i == 0 then -1 else faults.2 i)

/-- `publishFeedback`: no message while a lease is active and the joint feedback is incomplete. -/
def publishFeedback (p : Parameters) (g : Gateway) (now : ℕ) : Option FeedbackMessage :=
  let f := g.feedback
  let complete := jointFeedbackCompleteLocked p f now
  if g.lease.active ∧ ¬ complete then none
  else
    let positionMask := trimMask p f.joints now f.joints.positionValidMask
    let velocityMask := trimMask p f.joints now f.joints.velocityValidMask
    let drive := driveFaults p f now
    let faults := if complete then drive else jointFaults positionMask velocityMask drive
    let workspaceFresh := isFresh f.workspaceReceived f.workspaceTime now p.workspaceStatusTimeout
    let armPowerFresh := isFresh f.armPowerReceived f.armPowerTime now p.feedbackFaultTimeout &&
      f.armPower.enabled.length == 14 && f.armPower.statusCodes.length == 14
    some
      { appliedCommandSequence := g.lease.appliedCommandSequence
        activeOwnerId := if g.lease.active then g.lease.ownerId else ""
        activeLeaseId := if g.lease.active then g.lease.leaseId else ""
        workspaceState :=
          if workspaceFresh ∧ f.workspaceStatus.state = .running then
            if f.workspaceStatus.mode = .real then .real else .simulation
          else .stopped
        positionMode :=
          isFresh f.controlModeReceived f.controlModeTime now p.feedbackFaultTimeout &&
            f.controlModeStatus.activeMode == .position
        positionValidMask := positionMask
        velocityValidMask := velocityMask
        armTorqueEnabledMask :=
          if armPowerFresh then armMask fun i => (f.armPower.enabled[i.1]?).getD false else 0
        resourceFaultMask := faults.1
        liftDriveEnabled :=
          isFresh f.liftStatusReceived f.liftStatusTime now p.feedbackFaultTimeout &&
            f.liftStatus.valid && f.liftStatus.enabled
        position := f.joints.position
        velocity := f.joints.velocity
        faultCode := faults.2
        commandAge := commandAge g.lease now }

theorem publishFeedback_eq_none_iff (p : Parameters) (g : Gateway) (now : ℕ) :
    publishFeedback p g now = none ↔
      g.lease.active = true ∧ jointFeedbackCompleteLocked p g.feedback now = false := by
  unfold publishFeedback
  dsimp only
  split
  · next h => exact ⟨fun _ => ⟨h.1, Bool.eq_false_iff.mpr h.2⟩, fun _ => rfl⟩
  · next h =>
    exact ⟨fun hn => (nomatch hn), fun hc => (h ⟨hc.1, Bool.eq_false_iff.mp hc.2⟩).elim⟩

/-- Fresh feedback is not trimmed. -/
theorem trimMask_of_complete {p : Parameters} {f : FeedbackCache} {now : ℕ}
    (h : jointFeedbackCompleteLocked p f now = true) (mask : UInt16) :
    trimMask p f.joints now mask = mask := by
  simp only [jointFeedbackCompleteLocked, Bool.and_eq_true] at h
  simp [trimMask, h]

/-- While a lease is active, a published feedback message has every validity bit that the gateway
needs, so no partially valid resource set is shown to the owner. -/
theorem publishFeedback_complete {p : Parameters} {g : Gateway} {now : ℕ} {m : FeedbackMessage}
    (h : publishFeedback p g now = some m) (hactive : g.lease.active = true) :
    m.positionValidMask &&& armResourceMask = armResourceMask ∧
      m.velocityValidMask &&& armResourceMask = armResourceMask ∧
      m.positionValidMask &&& liftResourceMask ≠ 0 ∧
      m.velocityValidMask &&& liftResourceMask ≠ 0 := by
  have hcomplete : jointFeedbackCompleteLocked p g.feedback now = true := by
    by_contra hn
    have hnone := (publishFeedback_eq_none_iff p g now).mpr
      ⟨hactive, Bool.eq_false_iff.mpr hn⟩
    exact nomatch hnone.symm.trans h
  have hmasks : m.positionValidMask = g.feedback.joints.positionValidMask ∧
      m.velocityValidMask = g.feedback.joints.velocityValidMask := by
    unfold publishFeedback at h
    rw [if_neg fun hc => hc.2 hcomplete, Option.some_inj] at h
    rw [← h]
    exact ⟨trimMask_of_complete hcomplete _, trimMask_of_complete hcomplete _⟩
  rw [hmasks.1, hmasks.2]
  simp only [jointFeedbackCompleteLocked, Bool.and_eq_true, beq_iff_eq, bne_iff_ne] at hcomplete
  exact ⟨hcomplete.1.1.1.1.2, hcomplete.1.1.1.2, hcomplete.1.2, hcomplete.2⟩

end Gateway

end JointController
