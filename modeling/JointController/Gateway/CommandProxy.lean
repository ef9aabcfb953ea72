import JointController.Gateway.LiftFeedback
import Mathlib.Logic.Function.Basic

/-!
# The command proxy of the lower gateway

`RobotLowerGatewayNode` offers the native services of the arms and of the lift under names of its
own.  Commands exclude one another by `command_mutex_`; what stops or disables the lift passes it
by.

* `Request`, `Response`, `CallFailure`: the requests to the proxies and to the native services, the
  responses, and why a native call has none.
* `Phase`, `Callback`: where a callback of a proxy is between two of its steps.
* `advance`, `reach`, `returned`: the steps of a callback.
* `ProxyNode`: the lift feedback, the clock, the mutex and the callbacks.
* `ProxyNode.step`: one atomic step of one of the callback threads.

The callback group is reentrant, so any number of callbacks run at once.  A native call may fail at
any time, as with a time-out or an exception of the client.
-/

open Checks

namespace JointController

namespace Gateway

namespace Proxy

open LiftStatusParser

/-! ## Messages -/

/-- The services of the arms. -/
inductive ArmService where
  | power | mode | jointBatch | jointAbsolute | cartesianIncrement | cartesianAbsolute
  deriving DecidableEq

/-- A request to a service of the arms.  The proxies read nothing of it but the number of a
batch. -/
structure ArmRequest (κ : Type) where
  service : ArmService
  commandSeq : ℕ
  content : κ

/-- `SelectedJointControl::Request`. -/
structure SelectedJointRequest where
  jointNames : List String
  values : List Double
  relative : Bool
  vel : Double
  acc : Double

/-- A request to a proxy, or to the native service behind it. -/
inductive Request (κ : Type) where
  | arm (request : ArmRequest κ)
  | liftPower (data : Bool)
  | liftCommand (request : SelectedJointRequest)
  | liftStop
  | liftHold
  | liftSetDriveZero
  | liftHostZero

/-- A response.  `success` is `accepted` where a service calls it so, and the fields that a service
does not have keep their defaults. -/
structure Response where
  success : Bool
  activeMode : UInt8
  commandSeq : ℕ
  targetJoints : List Double
  message : String

/-- A response with nothing but its success and its message. -/
def Response.plain (success : Bool) (message : String) : Response :=
  ⟨success, 0, 0, List.replicate 14 0, message⟩

/-- `rejectBusy`. -/
def rejectBusy : Response := .plain false "another lower gateway command is already in progress"

/-- The native services. -/
inductive NativeService where
  | arm (service : ArmService)
  | liftPower | liftCommand | liftStop | liftHold | liftSetDriveZero | liftHostZero
  deriving DecidableEq

/-- Why `callNativeServiceBounded` has no response. -/
inductive CallFailure where
  | unavailable
  | timeout
  | empty
  | exception (what : String)

/-- The text of a failure. -/
def CallFailure.text (service : String) : CallFailure → String
  | .unavailable => "native service unavailable: " ++ service
  | .timeout => "timeout waiting for native service " ++ service
  | .empty => "native service returned an empty response: " ++ service
  | .exception what => "native service call failed for " ++ service ++ ": " ++ what

/-- What a native call comes to. -/
abbrev Outcome := Except CallFailure Response

/-- The call was answered with success. -/
def Outcome.accepted : Outcome → Bool
  | .ok response => response.success
  | .error _ => false

/-- The message of the response, or the text of the failure. -/
def Outcome.explanation (service : String) : Outcome → String
  | .ok response => response.message
  | .error failure => failure.text service

/-- The names of the native services, the time-outs and the names of the lift joint. -/
structure ProxyParameters extends LiftParameters where
  nativeServices : NativeService → String
  liftPowerTimeoutMs : ℤ

namespace Request

variable {κ : Type}

/-- The native service of a request. -/
def service : Request κ → NativeService
  | .arm request => .arm request.service
  | .liftPower _ => .liftPower
  | .liftCommand _ => .liftCommand
  | .liftStop => .liftStop
  | .liftHold => .liftHold
  | .liftSetDriveZero => .liftSetDriveZero
  | .liftHostZero => .liftHostZero

/-- The proxy of the request takes `command_mutex_`. -/
def exclusive : Request κ → Bool
  | .liftPower data => data
  | .liftStop | .liftHold => false
  | _ => true

/-- The response when the native call has none.  That of a batch keeps its number. -/
def unanswered (request : Request κ) (error : String) : Response :=
  match request with
  | .arm ⟨.jointBatch, commandSeq, _⟩ => { Response.plain false error with commandSeq }
  | _ => .plain false error

end Request

/-! ## Callbacks -/

/-- What a callback waits for a power state for, with the generation of the status before the call
and the texts of the response. -/
inductive PowerCheck where
  | enable (generation : ℕ)
  | disable (generation : ℕ) (holdWarning stopWarning : String)
  | rollback (generation : ℕ) (feedback : String)

/-- The power state that is waited for. -/
def PowerCheck.enabled : PowerCheck → Bool
  | .enable _ => true
  | _ => false

/-- The generation of the status before the call. -/
def PowerCheck.generation : PowerCheck → ℕ
  | .enable generation | .disable generation _ _ | .rollback generation _ => generation

/-- What a native call is made for.  A `forward` is the call of a proxy itself, `recovery` is the
STOP that clears a latched fault, `hold` and `stop` come before and after a disable, and `rollback`
and `rollbackStop` after an enable that was not confirmed. -/
inductive Purpose where
  | forward
  | recovery (error : String)
  | hold
  | power (data : Bool) (generation : ℕ) (holdWarning : String)
  | stop (generation : ℕ) (holdWarning : String)
  | rollback (generation : ℕ) (feedback : String)
  | rollbackStop (generation : ℕ) (feedback : String) (outcome : Outcome)

/-- Where a callback is.  It is `enabling` and `commanded` in front of its checks, `recovering`
until it may repeat them, `examined` between the two checks of a command, `snapping` and `failed` in
front of its look at the generation of the status, `reaching` until its request to a native service
is out, `awaiting` the response, `confirming` until the deadline of its wait is set, and `waiting`
then. -/
inductive Phase (κ : Type) where
  | idle
  | enabling
  | recovering (time : ℤ)
  | snapping (data : Bool) (holdWarning : String)
  | commanded (request : SelectedJointRequest)
  | examined (request : SelectedJointRequest)
  | failed (feedback : String)
  | reaching (call : Request κ) (purpose : Purpose)
  | awaiting (call : Request κ) (purpose : Purpose)
  | confirming (check : PowerCheck)
  | waiting (check : PowerCheck) (deadline : ℤ)

/-- A callback, and whether it holds `command_mutex_`. -/
structure Callback (κ : Type) where
  phase : Phase κ
  locked : Bool

/-- Where a step of a callback leads, the request that it sends to a native service, and the
response that it returns with. -/
structure Next (κ : Type) where
  phase : Phase κ
  sent : Option (Request κ)
  response : Option Response

variable {κ : Type}

/-- Nothing is sent or answered. -/
def Phase.quietly (phase : Phase κ) : Next κ := ⟨phase, none, none⟩

/-- The callback returns. -/
def respond (response : Response) : Next κ := ⟨.idle, none, some response⟩

/-- The callback returns without success. -/
def fail (message : String) : Next κ := respond (.plain false message)

/-- The first phase of a callback that has the mutex if it needs it. -/
def begin : Request κ → Phase κ
  | .liftPower true => .enabling
  | .liftPower false => .reaching .liftHold .hold
  | .liftCommand request => .commanded request
  | request => .reaching request .forward

/-- A text occurs in another one. -/
def containsText (text needle : String) : Bool :=
  text.toList.tails.any fun rest => needle.toList.isPrefixOf rest

section

variable (cfg : ProxyParameters) (f : LiftFeedback) (now : ℤ)

/-- `handleLiftPowerProxy` behind the checks of an enable, with the error that they have left. -/
def afterChecks (error : String) : Next κ :=
  if error = "" then (Phase.snapping true "").quietly else fail error

/-- The checks of an enable.  A fault that the controller has latched is cleared by a STOP, if the
client of that is ready. -/
def checkEnable (stopReady : Bool) : Next κ :=
  match f.liftCommandPreconditionsMet cfg.toLiftParameters now with
  | .ok _ => (Phase.snapping true "").quietly
  | .error error =>
    if containsText error "controller_mode=" ∧ stopReady then
      (Phase.reaching .liftStop (.recovery error)).quietly
    else afterChecks error

/-- The checks of a command up to the first look at the feedback. -/
def checkCommand (request : SelectedJointRequest) : Except String Unit := do
  liftCommandRequestValid request.jointNames request.values request.vel request.acc
    cfg.liftJointName
  f.liftCommandPreconditionsMet cfg.toLiftParameters now

/-- The command as the native service takes it. -/
def nativeCommand (request : SelectedJointRequest) : SelectedJointRequest :=
  { request with jointNames := request.jointNames.set 0 cfg.nativeLiftJointName }

/-- A wait has found the power state that it waited for. -/
def confirmed : PowerCheck → Next κ
  | .enable _ => respond (.plain true ("lift power enabled and confirmed; " ++ f.description))
  | .disable _ holdWarning stopWarning =>
    respond (.plain true ("lift power disabled and confirmed; " ++ f.description ++
      (if holdWarning = "" then "" else "; warning: " ++ holdWarning) ++
      (if stopWarning = "" then "" else "; warning: " ++ stopWarning)))
  | .rollback _ feedback =>
    fail ("lift power enable confirmation failed: " ++ feedback ++
      "; automatic disable rollback confirmed")

/-- A wait has ended without the power state. -/
def unconfirmed : PowerCheck → Next κ
  | .enable _ => (Phase.failed f.description).quietly
  | .disable _ _ _ =>
    fail ("lift power disable was accepted but not confirmed: " ++ f.description)
  | .rollback _ feedback =>
    fail ("lift power enable confirmation failed: " ++ feedback ++
      "; automatic disable rollback NOT confirmed: " ++ f.description)

/-- The next step of a callback that does not depend on a native service. -/
def advance (stopReady : Bool) : Phase κ → Option (Next κ)
  | .enabling => some (checkEnable cfg f now stopReady)
  | .recovering time =>
    if time ≤ now then
      some (afterChecks (reason (f.liftCommandPreconditionsMet cfg.toLiftParameters now)))
    else none
  | .snapping data holdWarning =>
    some (Phase.reaching (.liftPower data)
      (.power data f.driverStatusGeneration holdWarning)).quietly
  | .commanded request =>
    match checkCommand cfg f now request with
    | .error error => some (fail error)
    | .ok _ => some (Phase.examined request).quietly
  | .examined request =>
    match f.driver.value.liftMotionPreconditionsMet f.workspaceRunning with
    | .error error => some (fail error)
    | .ok _ => some (Phase.reaching (.liftCommand (nativeCommand cfg request)) .forward).quietly
  | .failed feedback =>
    some (Phase.reaching (.liftPower false) (.rollback f.driverStatusGeneration feedback)).quietly
  | .confirming check =>
    some (Phase.waiting check (now + Power.milliseconds cfg.liftPowerTimeoutMs)).quietly
  | .waiting check deadline =>
    if f.matchesPowerState check.enabled check.generation then some (confirmed f check)
    else if deadline ≤ now then some (unconfirmed f check)
    else none
  | _ => none

/-- What a callback does with the outcome of a native call. -/
def returned (call : Request κ) (outcome : Outcome) : Purpose → Next κ
  | .forward =>
    match outcome with
    | .ok response => respond response
    | .error failure => respond (call.unanswered (failure.text (cfg.nativeServices call.service)))
  | .recovery error =>
    match outcome with
    | .ok _ => (Phase.recovering (now + Power.milliseconds 100)).quietly
    | .error _ => afterChecks error
  | .hold =>
    (Phase.snapping false (if outcome.accepted then "" else
      "pre-disable HOLD was not confirmed: " ++
        outcome.explanation (cfg.nativeServices .liftHold))).quietly
  | .power data generation holdWarning =>
    if outcome.accepted then
      if data then (Phase.confirming (.enable generation)).quietly
      else (Phase.reaching .liftStop (.stop generation holdWarning)).quietly
    else fail (outcome.explanation (cfg.nativeServices .liftPower))
  | .stop generation holdWarning =>
    (Phase.confirming (.disable generation holdWarning (if outcome.accepted then "" else
      "controller STOP request failed: " ++
        outcome.explanation (cfg.nativeServices .liftStop)))).quietly
  | .rollback generation feedback =>
    (Phase.reaching .liftStop (.rollbackStop generation feedback outcome)).quietly
  | .rollbackStop generation feedback power =>
    if power.accepted then (Phase.confirming (.rollback generation feedback)).quietly
    else
      fail ("lift power enable confirmation failed: " ++ feedback ++
        "; automatic disable rollback NOT confirmed: " ++
        match power with
        | .ok _ => ""
        | .error failure => failure.text (cfg.nativeServices .liftPower))

/-- The wait for a native service is over: the request is sent, or the call has failed. -/
def reach (failure : Option CallFailure) : Phase κ → Option (Next κ)
  | .reaching call purpose =>
    match failure with
    | none => some ⟨.awaiting call purpose, some call, none⟩
    | some failure => some (returned cfg now call (.error failure) purpose)
  | _ => none

/-- The wait for a response is over. -/
def answer (outcome : Outcome) : Phase κ → Option (Next κ)
  | .awaiting call purpose => some (returned cfg now call outcome purpose)
  | _ => none

end

/-! ## The node -/

/-- The lift feedback, the clock, the mutex and the callbacks. -/
structure ProxyNode (ι κ : Type) where
  feedback : LiftFeedback
  now : ℤ
  commandMutex : Bool
  callbacks : ι → Callback κ

/-- One step of one thread, or of the world around the node. -/
inductive ProxyLabel (ι κ : Type) where
  | request (i : ι) (request : Request κ)
  | advance (i : ι) (stopReady : Bool)
  | reach (i : ι) (failure : Option CallFailure)
  | answer (i : ι) (outcome : Outcome)
  | driverStatus (parsed : Except String LiftDriverStatus)
  | controlStatus (parsed : Except String LiftControlStatus)
  | jointState (message : JointState)
  | workspaceStatus (state : WorkspaceState)
  | elapse (nanoseconds : ℕ)

/-- What a step of a callback does: where the callback is then, what it sends and answers, and what
becomes of the mutex. -/
structure Served (κ : Type) where
  callback : Callback κ
  sent : Option (Request κ)
  response : Option Response
  commandMutex : Bool

namespace ProxyNode

variable {ι : Type} (cfg : ProxyParameters) (s : ProxyNode ι κ)

/-- The node before its first request. -/
def initial (now : ℤ) : ProxyNode ι κ := ⟨.empty, now, false, fun _ => ⟨.idle, false⟩⟩

/-- A request comes in.  It is refused when it needs the mutex and that is taken. -/
def enter (request : Request κ) : Served κ :=
  if request.exclusive ∧ s.commandMutex then
    ⟨⟨.idle, false⟩, none, some rejectBusy, s.commandMutex⟩
  else ⟨⟨begin request, request.exclusive⟩, none, none, request.exclusive || s.commandMutex⟩

/-- A callback makes a step.  When it returns, it gives back the mutex that it has. -/
def move (callback : Callback κ) (next : Next κ) : Served κ :=
  match next.response with
  | some response =>
    ⟨⟨.idle, false⟩, next.sent, some response, s.commandMutex && !callback.locked⟩
  | none => ⟨⟨next.phase, callback.locked⟩, next.sent, none, s.commandMutex⟩

/-- What a callback does in a step. -/
def serve : ProxyLabel ι κ → Option (ι × Served κ)
  | .request i request =>
    match (s.callbacks i).phase with
    | .idle => some (i, s.enter request)
    | _ => none
  | .advance i stopReady =>
    (advance cfg s.feedback s.now stopReady (s.callbacks i).phase).map fun next =>
      (i, s.move (s.callbacks i) next)
  | .reach i failure =>
    (reach cfg s.now failure (s.callbacks i).phase).map fun next =>
      (i, s.move (s.callbacks i) next)
  | .answer i outcome =>
    (answer cfg s.now outcome (s.callbacks i).phase).map fun next =>
      (i, s.move (s.callbacks i) next)
  | _ => none

/-- The state after a step of a callback. -/
def put [DecidableEq ι] (i : ι) (served : Served κ) : ProxyNode ι κ :=
  { s with
    commandMutex := served.commandMutex
    callbacks := Function.update s.callbacks i served.callback }

/-- The next state. -/
def step [DecidableEq ι] (s : ProxyNode ι κ) : ProxyLabel ι κ → Option (ProxyNode ι κ)
  | .driverStatus parsed =>
    some { s with feedback := s.feedback.receiveDriverStatus s.now parsed }
  | .controlStatus parsed =>
    some { s with feedback := s.feedback.receiveControlStatus s.now parsed }
  | .jointState message =>
    some { s with feedback := s.feedback.receiveJointState cfg.toLiftParameters s.now message }
  | .workspaceStatus state =>
    some { s with feedback := s.feedback.receiveWorkspaceStatus state }
  | .elapse nanoseconds => some { s with now := s.now + nanoseconds }
  | l => (s.serve cfg l).map fun served => s.put served.1 served.2

/-- The request that a step sends to a native service. -/
def sent (l : ProxyLabel ι κ) : Option (ι × Request κ) :=
  (s.serve cfg l).bind fun served => served.2.sent.map fun call => (served.1, call)

/-- The response that a step gives. -/
def response (l : ProxyLabel ι κ) : Option (ι × Response) :=
  (s.serve cfg l).bind fun served => served.2.response.map fun response => (served.1, response)

end ProxyNode

end Proxy

end Gateway

end JointController
