import JointController.Waist.Hardware
import JointController.Library.Runs

/-!
# The threads of the waist driver

The control loop calls `read` and `write`, the runtime IO worker sends the queued targets, and the
service thread answers one request after the other.  A procedure of the service thread waits for the
drive between its steps, and the other threads run in between.

* `Stage`: where `init_waist_once` is.
* `Procedure`: what the service thread does, or the activation, during which there is none.
* `System`, `Label`, `transition`: the driver with its threads, and one atomic step of one of them.
* `step`, `frames`: the next state, and what the step sends.

What the driver cannot know is part of the label: whether a frame is accepted by the bridge, whether
the drive acknowledges a request, and when a wait runs out.
-/

namespace JointController

namespace Waist

/-! ## Procedures -/

/-- Where `init_waist_once` is.  After the requests of `enableRequests` it sends a position frame
with the measured position, and waits for the drive to confirm. -/
inductive Stage where
  | sync
  | feedback
  | clearHigh
  | clearLow
  | cleared
  | request (index : ℕ)
  | acknowledge (index : ℕ)
  | safeFrame
  | confirm
  deriving DecidableEq

/-- Who has called `init_waist_once`: the service that clears errors, or an activation with the
attempts that it has left. -/
inductive Caller where
  | clearError
  | activation (attempts : ℕ)
  deriving DecidableEq

/-- The service thread between two steps. -/
inductive Procedure where
  | idle
  | measured (before : Option Int32)
  | disableSent (before : Option Int32)
  | disabled (before : Option Int32)
  | zeroSent (before : Option Int32)
  | zeroed (before : Option Int32)
  | measuredAgain (before after : Option Int32)
  | clearHighSent
  | clearLowSent
  | initializing (caller : Caller) (stage : Stage)
  deriving DecidableEq

/-- The zeroing has sent the disable command and has not returned. -/
def Procedure.isZeroing : Procedure → Bool
  | .disableSent _ | .disabled _ | .zeroSent _ | .zeroed _ | .measuredAgain _ _ => true
  | _ => false

/-- The waist is being initialized. -/
def Procedure.isInitializing : Procedure → Bool
  | .initializing _ _ => true
  | _ => false

/-- The runtime IO worker; it starts from the sequence number of its start. -/
inductive Worker where
  | stopped
  | starting
  | running (consumedTargetSeq : UInt64)
  deriving DecidableEq

/-- The lifecycle state of the component. -/
inductive Lifecycle where
  | inactive
  | activating
  | active
  | deactivating
  deriving DecidableEq

/-- The driver with its threads. -/
structure System where
  hw : WaistHardware
  procedure : Procedure
  worker : Worker
  lifecycle : Lifecycle

/-- The answer of a service. -/
structure Reply where
  success : Bool
  message : String
  deriving DecidableEq

/-- What a step gives away. -/
structure Output where
  frames : List Frame
  reply : Option Reply

/-- Nothing. -/
def Output.none : Output := ⟨[], Option.none⟩

/-- Some frames. -/
def Output.sent (frames : List Frame) : Output := ⟨frames, Option.none⟩

/-- An answer. -/
def Output.answer (success : Bool) (message : String) : Output := ⟨[], some ⟨success, message⟩⟩

/-! ## Texts -/

/-- `%0<width>X`. -/
def hex (width value : ℕ) : String :=
  let digits := (Nat.toDigits 16 value).map Char.toUpper
  String.ofList (List.replicate (width - digits.length) '0' ++ digits)

/-- A raw position in the answer of the zeroing. -/
def rawText (raw : Option Int32) : String :=
  match raw with
  | some value => toString value.toInt
  | Option.none => "unavailable/0"

/-- The answer of a successful zeroing. -/
def zeroedText (before after : Option Int32) : String :=
  "waist zero set; before_raw=" ++ rawText before ++ " after_raw=" ++ rawText after ++
    "; drive remains disabled"

/-- The answer of `clear_waist_error` when the error stays. -/
def timeoutText (feedback : Feedback) : String :=
  "clear-error timeout: state=0x" ++ hex 2 feedback.state.toNat ++ " error=0x" ++
    hex 4 feedback.errorCode.toNat

/-! ## Steps -/

/-- One step of one thread. -/
inductive Label where
  | read (period : ℚ)
  | write
  | work (syncAccepted targetAccepted : Bool)
  | startWorker
  | receive (frame : Frame)
  | setCommands (position velocity acceleration : Double)
  | elapse (duration : ℚ)
  | setOnline (online : Bool)
  | beginZero (accepted : Bool) (before : Option Int32)
  | sendDisable (accepted : Bool)
  | disableAnswered (acknowledged : Bool)
  | sendZero (accepted : Bool)
  | zeroAnswered (acknowledged : Bool)
  | measureAgain (accepted : Bool) (after : Option Int32)
  | finishZero
  | beginClearError (accepted : Bool)
  | clearErrorLow (accepted : Bool)
  | errorCleared
  | clearErrorTimeout
  | initStep (proceeds : Bool)
  | beginActivate (acquired online : Bool)
  | beginDeactivate (frameAccepted requestAccepted : Bool)
  | finishDeactivate

/-- The requests that enable the drive, in their order. -/
def enableRequests (nodeId : ℕ) : List Frame :=
  [buildSdoWriteU32 nodeId kIndexTargetVelocity 0, buildSdoWriteI8 nodeId kIndexMode 3,
    buildSdoWriteU16 nodeId kIndexControlword 0x0006,
    buildSdoWriteU16 nodeId kIndexControlword 0x0007,
    buildSdoWriteU16 nodeId kIndexControlword 0x000F]

namespace System

variable (cfg : Settings) (s : System)

/-- The component before its first activation. -/
def initial (now : ℚ) : System := ⟨.initial now, .idle, .stopped, .inactive⟩

/-- The service thread goes on. -/
def proceed (procedure : Procedure) (frames : List Frame) : System × Output :=
  ({ s with procedure := procedure }, .sent frames)

/-- The service thread answers. -/
def answer (success : Bool) (message : String) : System × Output :=
  ({ s with procedure := .idle }, .answer success message)

/-- The service thread is spinning and takes the next request. -/
def serves : Bool :=
  s.procedure == .idle && (s.lifecycle == .active || s.lifecycle == .deactivating)

/-- One pass of `runtime_io_worker_loop` with the sequence number that it has consumed. -/
def runWorker (consumed : UInt64) (syncAccepted targetAccepted : Bool) : System × Output :=
  let sync := if s.hw.syncRequested then s.hw.sendFrame syncAccepted syncFrame else []
  let move :=
    if s.hw.targetSeq ≠ consumed then s.hw.moveWaistAbsRadFrame cfg targetAccepted s.hw.targetRad
    else []
  ({ s with hw := { s.hw with syncRequested := false }, worker := .running s.hw.targetSeq },
    .sent (sync ++ move))

/-- `init_waist_once` has returned to `clear_waist_error`. -/
def errorCleared (ok : Bool) : System × Output :=
  { s with hw := { s.hw with initialized := ok } }.answer ok
    (if ok then "waist error cleared and drive enabled"
      else "waist error cleared but enable confirmation failed")

/-- `on_activate` has initialized the waist, and starts the worker. -/
def activated : System :=
  { s with
    hw := { s.hw with
      initialized := true
      command := .finite s.hw.position
      velocityCommand := 0
      accelerationCommand := 0
      prevPosition := s.hw.position
      lastCommandEnqueueTime := none
      lastSyncTime := some s.hw.now
      targetRad := s.hw.position
      targetSeq := 0
      syncRequested := false }
    procedure := .idle
    worker := .starting
    lifecycle := .active }

/-- `on_activate` has failed. -/
def notActivated : System :=
  { s with
    hw := { s.hw with initialized := false, bridge := false }
    procedure := .idle
    lifecycle := .inactive }

/-- `init_waist_once` has returned; a failed activation tries again as often as it may. -/
def initialized (caller : Caller) (ok : Bool) : System × Output :=
  match caller with
  | .clearError => s.errorCleared ok
  | .activation attempts =>
    if ok then (s.activated, .none)
    else if attempts = 0 then (s.notActivated, .none)
    else s.proceed (.initializing (.activation (attempts - 1)) .sync) []

/-- The next step of `init_waist_once`.  It proceeds when its frame is accepted, its request is
acknowledged, or its wait has brought a feedback; else it gives up. -/
def initStage (caller : Caller) (stage : Stage) (proceeds : Bool) : System × Output :=
  match stage with
  | .sync =>
    if s.hw.bridge && proceeds then s.proceed (.initializing caller .feedback) [syncFrame]
    else s.initialized caller false
  | .feedback =>
    if proceeds && s.hw.positionOk then
      let s := { s with hw := s.hw.pollWaistPosition cfg }
      s.proceed (.initializing caller
        (if s.hw.manufacturerErrorActive then .clearHigh else .request 0)) []
    else s.initialized caller false
  | .clearHigh =>
    if s.hw.bridge && proceeds then
      s.proceed (.initializing caller .clearLow) [buildClearErrorFrameCommand cfg.nodeId true]
    else s.initialized caller false
  | .clearLow =>
    if s.hw.bridge && proceeds then
      s.proceed (.initializing caller .cleared) [buildClearErrorFrameCommand cfg.nodeId false]
    else s.initialized caller false
  | .cleared =>
    -- The wait ends when the error is gone, or when its time has run out.
    if s.hw.feedbackValid && !s.hw.manufacturerErrorActive then
      s.proceed (.initializing caller (.request 0)) []
    else if proceeds then (s, .none)
    else if s.hw.manufacturerErrorActive then s.initialized caller false
    else s.proceed (.initializing caller (.request 0)) []
  | .request index =>
    match (enableRequests cfg.nodeId)[index]? with
    | some request =>
      if s.hw.bridge && proceeds then
        s.proceed (.initializing caller (.acknowledge index)) [request]
      else s.initialized caller false
    | none => s.proceed (.initializing caller .safeFrame) []
  | .acknowledge index =>
    if proceeds then s.proceed (.initializing caller (.request (index + 1))) []
    else s.initialized caller false
  | .safeFrame =>
    if s.hw.bridge && proceeds then
      s.proceed (.initializing caller .confirm)
        [buildPositionFrameCommand cfg.nodeId s.hw.feedback.positionRaw.toInt cfg.profileAcc
          cfg.profileVel]
    else s.initialized caller false
  | .confirm =>
    if !proceeds || s.hw.manufacturerErrorActive then s.initialized caller false
    else if s.hw.feedbackValid && s.hw.feedback.state &&& kFeedbackStateEnabled != 0 &&
        s.hw.feedback.state &&& kFeedbackStateBrakeReleased != 0 then
      let s := { s with hw := s.hw.pollWaistPosition cfg }
      s.initialized caller s.hw.positionValid
    else (s, .none)

/-- `on_activate` opens the bridge and forgets the feedback, then it initializes the waist. -/
def openBridge (online : Bool) : System :=
  { s with
    hw := { s.hw with
      bridge := true
      online := online
      feedbackValid := false
      positionValid := false
      feedback := noFeedback
      feedbackStamp := none
      positionFeedbackStamp := none }
    procedure := .initializing (.activation (cfg.initRetryCount - 1)) .sync
    lifecycle := .activating }

/-- `on_deactivate` has joined the service thread. -/
def closeBridge : System :=
  { s with
    hw := { s.hw with
      bridge := false
      initialized := false
      feedbackValid := false
      positionValid := false
      feedbackStamp := none
      positionFeedbackStamp := none }
    lifecycle := .inactive }

/-- A successful zeroing clears the flags and the commands before it returns. -/
def clearFlags : System :=
  { s with hw := { s.hw with
    initialized := false
    feedbackValid := false
    positionValid := false
    command := 0
    velocityCommand := 0 } }

/-- One atomic step of one thread. -/
def transition : Label → Option (System × Output)
  | .read period => some ({ s with hw := s.hw.read cfg period }, .none)
  | .write => some ({ s with hw := s.hw.write cfg }, .none)
  | .work syncAccepted targetAccepted =>
    match s.worker with
    | .running consumed => some (s.runWorker cfg consumed syncAccepted targetAccepted)
    | _ => none
  | .startWorker =>
    if s.worker = .starting then some ({ s with worker := .running s.hw.targetSeq }, .none)
    else none
  | .receive frame =>
    if s.hw.bridge then some ({ s with hw := s.hw.handleBridgeFrame cfg frame }, .none) else none
  | .setCommands position velocity acceleration =>
    some ({ s with hw := { s.hw with
      command := position
      velocityCommand := velocity
      accelerationCommand := acceleration } }, .none)
  | .elapse duration =>
    if 0 < duration then
      some ({ s with hw := { s.hw with now := s.hw.now + duration } }, .none)
    else none
  | .setOnline online => some ({ s with hw := { s.hw with online := online } }, .none)
  | .beginZero accepted before =>
    if s.serves then
      some (if s.hw.canTransportReady then
        s.proceed (.measured (if accepted then before else none))
          (s.hw.sendFrame accepted (buildSdoRead cfg.nodeId kIndexActualPosition))
        else s.answer false "waist transport not ready")
    else none
  | .sendDisable accepted =>
    match s.procedure with
    | .measured before =>
      some (if s.hw.bridge && accepted then
        s.proceed (.disableSent before) [buildSdoWriteU16 cfg.nodeId kIndexControlword 0x0000]
        else s.answer false "waist zero failed: disable command was not acknowledged")
    | _ => none
  | .disableAnswered acknowledged =>
    match s.procedure with
    | .disableSent before =>
      some (if acknowledged then s.proceed (.disabled before) []
        else s.answer false "waist zero failed: disable command was not acknowledged")
    | _ => none
  | .sendZero accepted =>
    match s.procedure with
    | .disabled before =>
      some (if s.hw.bridge && accepted then
        s.proceed (.zeroSent before) [buildSdoWriteU32 cfg.nodeId kIndexSetZeroPosition 1]
        else s.answer false "waist zero failed: 0x2531:00 was not acknowledged")
    | _ => none
  | .zeroAnswered acknowledged =>
    match s.procedure with
    | .zeroSent before =>
      some (if acknowledged then s.proceed (.zeroed before) []
        else s.answer false "waist zero failed: 0x2531:00 was not acknowledged")
    | _ => none
  | .measureAgain accepted after =>
    match s.procedure with
    | .zeroed before =>
      some (s.proceed (.measuredAgain before (if accepted then after else none))
        (s.hw.sendFrame accepted (buildSdoRead cfg.nodeId kIndexActualPosition)))
    | _ => none
  | .finishZero =>
    match s.procedure with
    | .measuredAgain before after =>
      some (s.clearFlags.answer true (zeroedText before after))
    | _ => none
  | .beginClearError accepted =>
    if s.serves then
      some (if !s.hw.canTransportReady then s.answer false "waist transport not ready"
        else if accepted then
          s.proceed .clearHighSent [buildClearErrorFrameCommand cfg.nodeId true]
        else s.answer false "clear-error high pulse send failed")
    else none
  | .clearErrorLow accepted =>
    if s.procedure = .clearHighSent then
      some (if s.hw.bridge && accepted then
        s.proceed .clearLowSent [buildClearErrorFrameCommand cfg.nodeId false]
        else s.answer false "clear-error low pulse send failed")
    else none
  | .errorCleared =>
    if s.procedure = .clearLowSent ∧ s.hw.feedbackValid ∧ !s.hw.manufacturerErrorActive then
      some (s.proceed (.initializing .clearError .sync) [])
    else none
  | .clearErrorTimeout =>
    if s.procedure = .clearLowSent then some (s.answer false (timeoutText s.hw.feedback))
    else none
  | .initStep proceeds =>
    match s.procedure with
    | .initializing caller stage => some (s.initStage cfg caller stage proceeds)
    | _ => none
  | .beginActivate acquired online =>
    if s.lifecycle = .inactive ∧ s.procedure = .idle then
      some (if acquired then (s.openBridge cfg online, .none)
        else ({ s with hw := { s.hw with bridge := false } }, .none))
    else none
  | .beginDeactivate frameAccepted requestAccepted =>
    if s.lifecycle = .active then
      some ({ s with worker := .stopped, lifecycle := .deactivating },
        .sent (if s.hw.canTransportReady then
          s.hw.sendFrame frameAccepted (buildClearErrorFrameCommand cfg.nodeId false) ++
            s.hw.sendFrame requestAccepted (buildSdoWriteU16 cfg.nodeId kIndexControlword 0x0000)
          else []))
    else none
  | .finishDeactivate =>
    if s.lifecycle = .deactivating ∧ s.procedure = .idle then some (s.closeBridge, .none) else none

/-- The next state. -/
def step (l : Label) : Option System := (s.transition cfg l).map Prod.fst

/-- The frames that a step sends. -/
def frames (l : Label) : List Frame :=
  match s.transition cfg l with
  | some next => next.2.frames
  | none => []

end System

end Waist

end JointController
