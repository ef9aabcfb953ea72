import JointController.Library.Double
import JointController.Waist.Frames

/-!
# The waist driver

The members that the threads of the waist driver share, and the steps of its control cycle and of
its runtime IO worker.

* `Settings`, `WaistHardware`: the configuration and the shared members.
* `WaistHardware.handleBridgeFrame`: a frame of the drive arrives.
* `WaistHardware.pollWaistPosition`, `WaistHardware.read`: the position follows the feedback.
* `WaistHardware.writeTarget`, `WaistHardware.write`: a target is queued for the worker.
* `WaistHardware.moveWaistAbsRadFrame`: the position frame of a target, unless the waist must not
  move.

The published status is left out, and so are the log and the time of the last frame, which nothing
reads.
-/

namespace JointController

namespace Waist

/-- The configuration, with what `on_init` has checked. -/
structure Settings where
  nodeId : ℕ
  initRetryCount : ℕ
  profileVel : ℤ
  profileAcc : ℤ
  minRad : ℚ
  maxRad : ℚ
  commandResendHz : ℚ
  feedbackSyncHz : ℚ
  commandEpsilon : ℚ
  sign : ℚ
  initRetryCount_pos : 0 < initRetryCount
  limits : minRad < maxRad
  commandResendHz_bound : 1 ≤ commandResendHz
  feedbackSyncHz_bound : 1 ≤ feedbackSyncHz
  commandEpsilon_pos : 0 < commandEpsilon
  sign_abs : sign = 1 ∨ sign = -1

/-- The shared members.  A time point that was never set is `none`; the measured positions are
finite, the commands need not be. -/
structure WaistHardware where
  bridge : Bool
  online : Bool
  now : ℚ
  initialized : Bool
  positionValid : Bool
  feedbackValid : Bool
  feedback : Feedback
  feedbackStamp : Option ℚ
  positionFeedbackStamp : Option ℚ
  position : ℚ
  velocity : ℚ
  prevPosition : ℚ
  command : Double
  velocityCommand : Double
  accelerationCommand : Double
  lastCommandEnqueueTime : Option ℚ
  lastSyncTime : Option ℚ
  syncRequested : Bool
  targetRad : ℚ
  targetSeq : UInt64

/-- `WaistHardware::clamp`. -/
def Settings.clamp (cfg : Settings) (value : ℚ) : ℚ :=
  if value < cfg.minRad then cfg.minRad else if cfg.maxRad < value then cfg.maxRad else value

/-- The age of a time point is over a bound, or it was never set. -/
def expired (now : ℚ) (stamp : Option ℚ) (bound : ℚ) : Bool :=
  stamp.all fun t => decide (bound < now - t)

/-- A period has gone since a time point, or it was never set. -/
def elapsed (now : ℚ) (stamp : Option ℚ) (period : ℚ) : Bool :=
  stamp.all fun t => decide (period ≤ now - t)

/-- No feedback yet. -/
def noFeedback : Feedback := ⟨0, 0, 0, 0, 0, 0, 0⟩

namespace WaistHardware

variable (cfg : Settings) (hw : WaistHardware)

/-- The driver before its first activation. -/
def initial (now : ℚ) : WaistHardware where
  bridge := false
  online := false
  now := now
  initialized := false
  positionValid := false
  feedbackValid := false
  feedback := noFeedback
  feedbackStamp := none
  positionFeedbackStamp := none
  position := 0
  velocity := 0
  prevPosition := 0
  command := 0
  velocityCommand := 0
  accelerationCommand := 0
  lastCommandEnqueueTime := none
  lastSyncTime := none
  syncRequested := false
  targetRad := 0
  targetSeq := 0

/-- `can_transport_ready`. -/
def canTransportReady : Bool := hw.bridge && hw.online

/-- `manufacturer_error_active`. -/
def manufacturerErrorActive : Bool :=
  hw.feedbackValid && hw.feedback.state &&& kFeedbackStateError != 0

/-- `handle_bridge_frame`, as far as it concerns feedback. -/
def handleBridgeFrame (f : Frame) : WaistHardware :=
  match parseFeedback cfg.nodeId f with
  | some feedback =>
    { hw with feedback := feedback, feedbackValid := true, feedbackStamp := some hw.now }
  | none => hw

/-! ## Reading -/

/-- The position that the feedback stands for. -/
def measuredPosition : ℚ := cfg.clamp (cfg.sign * rawToRad hw.feedback.positionRaw.toInt)

/-- `poll_waist_position` succeeds: the feedback is at most half a second old. -/
def positionOk : Bool := hw.feedbackValid && !expired hw.now hw.feedbackStamp (1 / 2)

/-- `poll_waist_position`.  A position that was not valid takes the command along. -/
def pollWaistPosition : WaistHardware :=
  if hw.positionOk then
    let measured := hw.measuredPosition cfg
    let hw' := { hw with
      position := measured
      positionValid := true
      positionFeedbackStamp := hw.feedbackStamp }
    if hw.positionValid then hw'
    else { hw' with
      command := .finite measured
      velocityCommand := 0
      prevPosition := measured }
  else hw

/-- A sync frame is due. -/
def requestSync : WaistHardware :=
  if elapsed hw.now hw.lastSyncTime (1 / cfg.feedbackSyncHz) then
    { hw with syncRequested := true, lastSyncTime := some hw.now }
  else hw

/-- What `read` makes of the polled position. -/
def updateInitialized (ok : Bool) : WaistHardware :=
  if ok = false then { hw with positionValid := false, initialized := false }
  else if hw.manufacturerErrorActive then { hw with initialized := false }
  else if hw.feedback.state &&& kFeedbackStateEnabled != 0 then { hw with initialized := true }
  else hw

/-- The velocity since the last call of `read`. -/
def updateVelocity (period : ℚ) : WaistHardware :=
  let dt := if 1e-6 < period then period else 1 / 100
  { hw with velocity := (hw.position - hw.prevPosition) / dt, prevPosition := hw.position }

/-- `read`. -/
def read (period : ℚ) : WaistHardware :=
  if hw.canTransportReady then
    (((hw.requestSync cfg).pollWaistPosition cfg).updateInitialized hw.positionOk).updateVelocity
      period
  else hw

/-- `read` finds a drive that reports to be enabled, and takes it for initialized. -/
def readsEnabled : Bool :=
  hw.canTransportReady && hw.positionOk && !hw.manufacturerErrorActive &&
    hw.feedback.state &&& kFeedbackStateEnabled != 0

/-! ## Writing -/

/-- The error state is unknown, or there is an error. -/
def errorSuspected : Bool := !hw.feedbackValid || hw.manufacturerErrorActive

/-- The commanded position within the limits, if all the commands are finite. -/
def requestedTarget : Option ℚ :=
  if hw.command.isFinite && hw.velocityCommand.isFinite && hw.accelerationCommand.isFinite then
    some (cfg.clamp hw.command.value)
  else none

/-- The target that `write` queues, if it queues one. -/
def writeTarget : Option ℚ :=
  if hw.canTransportReady && hw.initialized && hw.positionValid && !hw.errorSuspected then
    (hw.requestedTarget cfg).filter fun target =>
      decide (cfg.commandEpsilon < |target - hw.position|) &&
        elapsed hw.now hw.lastCommandEnqueueTime (1 / cfg.commandResendHz)
  else none

/-- `write`. -/
def write : WaistHardware :=
  match hw.writeTarget cfg with
  | some target =>
    { hw with
      targetRad := target
      targetSeq := hw.targetSeq + 1
      lastCommandEnqueueTime := some hw.now }
  | none =>
    if hw.canTransportReady && hw.initialized && hw.positionValid && hw.errorSuspected then
      { hw with initialized := false }
    else hw

/-! ## The runtime IO worker -/

/-- A frame goes out unless there is no bridge or it throws. -/
def sendFrame (accepted : Bool) (f : Frame) : List Frame :=
  if hw.bridge && accepted then [f] else []

/-- The position frame of a target. -/
def positionFrame (targetRad : ℚ) : Frame :=
  buildPositionFrameCommand cfg.nodeId (degToRaw (cfg.sign * cfg.clamp targetRad * 180 / kPi))
    cfg.profileAcc cfg.profileVel

/-- `move_waist_abs_rad_frame`. -/
def moveWaistAbsRadFrame (accepted : Bool) (targetRad : ℚ) : List Frame :=
  if !hw.initialized || !hw.positionValid || hw.manufacturerErrorActive then []
  else hw.sendFrame accepted (positionFrame cfg targetRad)

/-! ## What the steps leave alone -/

@[simp] theorem initialized_handleBridgeFrame (f : Frame) :
    (hw.handleBridgeFrame cfg f).initialized = hw.initialized := by
  unfold handleBridgeFrame
  split <;> rfl

@[simp] theorem targetSeq_handleBridgeFrame (f : Frame) :
    (hw.handleBridgeFrame cfg f).targetSeq = hw.targetSeq := by
  unfold handleBridgeFrame
  split <;> rfl

@[simp] theorem initialized_pollWaistPosition :
    (hw.pollWaistPosition cfg).initialized = hw.initialized := by
  unfold pollWaistPosition
  split_ifs <;> rfl

@[simp] theorem targetSeq_pollWaistPosition :
    (hw.pollWaistPosition cfg).targetSeq = hw.targetSeq := by
  unfold pollWaistPosition
  split_ifs <;> rfl

theorem feedback_pollWaistPosition :
    (hw.pollWaistPosition cfg).feedback = hw.feedback ∧
      (hw.pollWaistPosition cfg).feedbackValid = hw.feedbackValid := by
  unfold pollWaistPosition
  split_ifs <;> exact ⟨rfl, rfl⟩

theorem requestSync_keeps :
    (hw.requestSync cfg).initialized = hw.initialized ∧
      (hw.requestSync cfg).targetSeq = hw.targetSeq ∧
      (hw.requestSync cfg).feedback = hw.feedback ∧
      (hw.requestSync cfg).feedbackValid = hw.feedbackValid := by
  unfold requestSync
  split_ifs <;> exact ⟨rfl, rfl, rfl, rfl⟩

@[simp] theorem targetSeq_updateInitialized (ok : Bool) :
    (hw.updateInitialized ok).targetSeq = hw.targetSeq := by
  unfold updateInitialized
  split_ifs <;> rfl

theorem targetSeq_read (period : ℚ) : (hw.read cfg period).targetSeq = hw.targetSeq := by
  unfold read
  split_ifs with hready
  · have hkeeps : (((hw.requestSync cfg).pollWaistPosition cfg).updateInitialized
        hw.positionOk).targetSeq = hw.targetSeq := by
      rw [targetSeq_updateInitialized, targetSeq_pollWaistPosition, (requestSync_keeps cfg hw).2.1]
    exact hkeeps
  · rfl

/-- Only a drive that reports to be enabled makes `read` take the waist for initialized. -/
theorem initialized_read (period : ℚ) (hoff : hw.initialized = false)
    (hdisabled : hw.readsEnabled = false) : (hw.read cfg period).initialized = false := by
  obtain ⟨hinit, -, hfeedback, hvalid⟩ := requestSync_keeps cfg hw
  obtain ⟨hpolled, hpolledValid⟩ := feedback_pollWaistPosition cfg (hw.requestSync cfg)
  have herror : ((hw.requestSync cfg).pollWaistPosition cfg).manufacturerErrorActive =
      hw.manufacturerErrorActive := by
    unfold manufacturerErrorActive
    rw [hpolled, hpolledValid, hfeedback, hvalid]
  unfold read
  split_ifs with hready
  · have hkeeps : (((hw.requestSync cfg).pollWaistPosition cfg).updateInitialized
        hw.positionOk).initialized = false := by
      unfold updateInitialized
      rw [herror, hpolled, hfeedback]
      split_ifs with hok hactive henabled
      · rfl
      · rfl
      · unfold readsEnabled at hdisabled
        rw [hready, Bool.eq_true_of_not_eq_false hok, Bool.eq_false_of_not_eq_true hactive,
          henabled] at hdisabled
        cases hdisabled
      · rw [initialized_pollWaistPosition, hinit]
        exact hoff
    exact hkeeps
  · exact hoff

/-- A waist that is not initialized gets no target. -/
theorem writeTarget_of_not_initialized (hoff : hw.initialized = false) :
    hw.writeTarget cfg = none := by
  unfold writeTarget
  rw [hoff, Bool.and_false, Bool.false_and, Bool.false_and]
  exact if_neg Bool.false_ne_true

theorem initialized_write (hoff : hw.initialized = false) :
    (hw.write cfg).initialized = false := by
  unfold write
  rw [writeTarget_of_not_initialized cfg hw hoff]
  dsimp only
  split_ifs
  · rfl
  · exact hoff

theorem targetSeq_write (hnone : hw.writeTarget cfg = none) :
    (hw.write cfg).targetSeq = hw.targetSeq := by
  unfold write
  rw [hnone]
  dsimp only
  split_ifs <;> rfl

/-- A waist that is not initialized gets no position frame. -/
theorem moveWaistAbsRadFrame_of_not_initialized (accepted : Bool) (targetRad : ℚ)
    (hoff : hw.initialized = false) : hw.moveWaistAbsRadFrame cfg accepted targetRad = [] := by
  unfold moveWaistAbsRadFrame
  rw [hoff]
  rfl

end WaistHardware

end Waist

end JointController
