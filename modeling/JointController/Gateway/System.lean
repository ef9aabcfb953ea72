import JointController.Gateway.Handlers
import JointController.Library.Runs
import Mathlib.Logic.Function.Basic

/-!
# The gateway and its handler threads

The callback groups of the gateway are reentrant, so any number of handlers run at a time.  A
handler is a thread that alternates locked sections with what it does without the mutex: it
publishes, or it waits for the native brake service.  One step of the system is one locked
section, one publication or one answer of the native service, at one reading of the clock.

* `Pc`: where a handler stands between two steps.
* `Action`, `turn`: what a handler can do next, as a function of the shared state and its `Pc`.
* `System`, `step`: the shared state with all threads and the lease gate topic.
* `step_eq_some`: a step is a turn of a thread at a clock that does not run backwards.
-/

namespace JointController

namespace Gateway

/-! ## Handlers -/

/-- What a handler publishes after it has released the mutex.  A lease gate message goes with the
number of lease changes up to the one that it reports, which is not in the source. -/
inductive Publication where
  | leaseGate : (active : Bool) → (change : ℕ) → Publication
  | internalCommand : Command → Publication
  deriving DecidableEq

/-- Where `executeBrakeAction` stands. -/
inductive BrakePhase where
  /-- The native call is in flight. -/
  | calling
  /-- The brake has been released, and the lift status is awaited until the deadline. -/
  | confirming : (deadline : ℕ) → BrakePhase
  /-- The native call that takes the release back is in flight. -/
  | rollingBack : (error : String) → BrakePhase
  /-- The outcome is known. -/
  | finishing : (confirmed : Bool) → (error : String) → BrakePhase
  deriving DecidableEq

/-- The handler that runs `executeBrakeAction`. -/
inductive BrakeCaller where
  | watchdog
  | command : Command → (arrival : ℕ) → BrakeCaller
  | acquire : AcquireRequest → BrakeCaller
  | liftBrake
  deriving DecidableEq

/-- Where a handler stands. -/
inductive Pc where
  | idle
  /-- Publications are owed, and perhaps a brake action after them. -/
  | publishing : Publication → List Publication → Option BrakeAction → Pc
  | braking : BrakeAction → BrakePhase → BrakeCaller → Pc
  /-- `handleAcquire` before its second section. -/
  | acquiring : AcquireRequest → Pc
  /-- `handleAcquire` after a failed preparation. -/
  | abortingAcquire : AcquireRequest → Pc
  /-- `handleCommand` before its second section. -/
  | commanding : Command → (arrival : ℕ) → Pc
  /-- `handleRelease` in its wait.  The lease it began to release is not in the source. -/
  | releasing : ReleaseRequest → (lease deadline : ℕ) → Pc
  deriving DecidableEq

/-- A handler that owes publications, and perhaps a brake action, goes on. -/
def Pc.owing : List Publication → Option BrakeAction → Pc
  | m :: owed, next => .publishing m owed next
  | [], some a => .braking a .calling .watchdog
  | [], none => .idle

/-- The handler after `executeBrakeAction` has returned. -/
def BrakeCaller.resume : BrakeCaller → (confirmed : Bool) → Pc
  | .command c arrival, true => .commanding c arrival
  | .acquire request, true => .acquiring request
  | .acquire request, false => .abortingAcquire request
  | _, _ => .idle

/-- What a handler does in one step. -/
inductive Action where
  | sample : Sample → Action
  | ack : (arm : Bool) → (sequence : ℕ) → Action
  | tick
  | command : Command → Action
  | admission
  | acquire : AcquireRequest → Action
  | grant : (random : ℕ) → Action
  | abort
  | release : ReleaseRequest → Action
  | releaseWake
  | liftBrake : LiftBrakeRequest → Action
  | brakeReply : (success : Bool) → (error : String) → Action
  | brakeWake
  | brakeRolledBack
  | brakeFinish
  | publish : (locked : Bool) → Action

/-- The number of grants and ends of leases so far. -/
def leaseChanges (g : Gateway) : ℕ := g.history.countP LeasedChannel.Event.changesLease

/-- The gate message that reports the last lease change. -/
def gateMessage (g : Gateway) (active : Bool) : Publication := .leaseGate active (leaseChanges g)

/-- The outcome of a step of one handler: the shared state, where the handler stands, and the gate
message it has published. -/
structure Turn where
  gateway : Gateway
  pc : Pc
  gate : Option (Bool × ℕ) := none

/-- `publishInternalCommand`: its bookkeeping is skipped when the mutex is taken. -/
def publishInternalCommand (g : Gateway) (now : ℕ) (c : Command) (locked : Bool) : Gateway :=
  let g := { g with commandTopic := c :: g.commandTopic }
  if locked ∧ g.transaction.pendingValid ∧ g.transaction.pendingSequence = c.sequence then
    { g with transaction := { g.transaction with lastPublishTime := now } }
  else g

/-- The handler of an acknowledgement. -/
def ackTurn (p : Parameters) (now : ℕ) (g : Gateway) (arm : Bool) (sequence : ℕ) : Turn :=
  match handleAck p g arm sequence now with
  | (.leaseCleared, g) => ⟨g, .owing [gateMessage g false] none, none⟩
  | (.promoted, g) =>
    ⟨g, .owing [.internalCommand g.transaction.pendingInternalCommand] none, none⟩
  | (_, g) => ⟨g, .idle, none⟩

/-- The watchdog. -/
def tickTurn (p : Parameters) (now : ℕ) (g : Gateway) : Turn :=
  let t := watchdogTick p g now
  let gate := if t.releaseGate then [gateMessage t.gateway false] else []
  let retry := t.retryCommand.toList.map Publication.internalCommand
  ⟨t.gateway, .owing (gate ++ retry) t.brakeAction, none⟩

/-- The first section of `handleCommand`. -/
def commandTurn (p : Parameters) (now : ℕ) (g : Gateway) (c : Command) : Turn :=
  match commandPreflight p g c now with
  | (some action, g) => ⟨g, .braking action .calling (.command c g.counters.received), none⟩
  | (none, g) => ⟨g, .commanding c g.counters.received, none⟩

/-- The second section of `handleCommand`. -/
def admitTurn (p : Parameters) (now : ℕ) (g : Gateway) (c : Command) (arrival : ℕ) : Turn :=
  match commandAdmit p g c arrival now with
  | (.forwarded, g) =>
    ⟨g, .owing [.internalCommand g.transaction.pendingInternalCommand] none, none⟩
  | (_, g) => ⟨g, .idle, none⟩

/-- The action with which `handleAcquire` enables the lift. -/
def enableAction : BrakeAction := ⟨true, "lease preparation: lift power enable", false, 0⟩

/-- The first section of `handleAcquire`. -/
def acquireTurn (p : Parameters) (now : ℕ) (g : Gateway) (request : AcquireRequest) : Turn :=
  if acquireCheck p g request now = .ok () then
    ⟨prepareLease p g now,
      if enablesLift p g.feedback now then .braking enableAction .calling (.acquire request)
      else .acquiring request, none⟩
  else ⟨g, .idle, none⟩

/-- The second section of `handleAcquire`. -/
def grantTurn (p : Parameters) (now : ℕ) (g : Gateway) (request : AcquireRequest) (random : ℕ) :
    Turn :=
  match acquireGrant p g request now random with
  | (.error _, g) => ⟨g, .idle, none⟩
  | (.ok (), g) => ⟨g, .owing [gateMessage g true,
      .internalCommand g.transaction.pendingInternalCommand] none, none⟩

/-- `handleRelease` until its wait. -/
def releaseTurn (p : Parameters) (now : ℕ) (g : Gateway) (request : ReleaseRequest) : Turn :=
  match releaseBegin p g request now with
  | (.mismatch, g) => ⟨g, .idle, none⟩
  | (.releasedWithoutHold _, g) => ⟨g, .owing [gateMessage g false] none, none⟩
  | (.waiting, g) =>
    ⟨g, .releasing request g.lease.generation (now + p.controllerAckTimeout), none⟩

/-- The end of the wait of `handleRelease`. -/
def releaseWakeTurn (now : ℕ) (g : Gateway) (deadline : ℕ) : Option Turn :=
  match releaseWake g deadline now with
  | none => none
  | some (.releasedWithoutHold _, g) => some ⟨g, .owing [gateMessage g false] none, none⟩
  | some (_, g) => some ⟨g, .idle, none⟩

/-- The section of `handleLiftBrake`. -/
def liftBrakeTurn (p : Parameters) (now : ℕ) (g : Gateway) (request : LiftBrakeRequest) : Turn :=
  if liftBrakeCheck p g request now = .ok () then
    ⟨beginTransition g, .braking (liftBrakeAction g request) .calling .liftBrake, none⟩
  else ⟨g, .idle, none⟩

/-- The native brake service has answered, or has failed to.  A release in the real workspace is
only confirmed by the lift status. -/
def brakeReplyPhase (p : Parameters) (now : ℕ) (g : Gateway) (action : BrakeAction)
    (success : Bool) (error : String) : BrakePhase :=
  if success ∧ action.release ∧ g.feedback.workspaceStatus.mode = .real then
    if liftPowerEnabledLocked p g.feedback now then .finishing true ""
    else .confirming (now + p.liftEnableTimeout)
  else .finishing success error

/-- The wait for the lift status ends, or goes on. -/
def brakeWakePhase (p : Parameters) (now : ℕ) (g : Gateway) (deadline : ℕ) : Option BrakePhase :=
  if liftPowerEnabledLocked p g.feedback now then some (.finishing true "")
  else if deadline ≤ now then some (.rollingBack "Operation Enabled confirmation timed out")
  else none

/-- A publication. -/
def publishTurn (now : ℕ) (g : Gateway) (m : Publication) (owed : List Publication)
    (next : Option BrakeAction) (locked : Bool) : Turn :=
  match m with
  | .leaseGate active change => ⟨g, .owing owed next, some (active, change)⟩
  | .internalCommand c => ⟨publishInternalCommand g now c locked, .owing owed next, none⟩

/-- One step of a handler. -/
def turn (p : Parameters) (now : ℕ) (g : Gateway) : Pc → Action → Option Turn
  | .idle, .sample sample => some ⟨receive p g now sample, .idle, none⟩
  | .idle, .ack arm sequence => some (ackTurn p now g arm sequence)
  | .idle, .tick => some (tickTurn p now g)
  | .idle, .command c => some (commandTurn p now g c)
  | .commanding c arrival, .admission => some (admitTurn p now g c arrival)
  | .idle, .acquire request => some (acquireTurn p now g request)
  | .acquiring request, .grant random => some (grantTurn p now g request random)
  | .abortingAcquire _, .abort => some ⟨endAcquisition g, .idle, none⟩
  | .idle, .release request => some (releaseTurn p now g request)
  | .releasing _ _ deadline, .releaseWake => releaseWakeTurn now g deadline
  | .idle, .liftBrake request => some (liftBrakeTurn p now g request)
  | .braking action .calling caller, .brakeReply success error =>
    some ⟨g, .braking action (brakeReplyPhase p now g action success error) caller, none⟩
  | .braking action (.confirming deadline) caller, .brakeWake =>
    (brakeWakePhase p now g deadline).map fun phase => ⟨g, .braking action phase caller, none⟩
  | .braking action (.rollingBack error) caller, .brakeRolledBack =>
    some ⟨g, .braking action (.finishing false error) caller, none⟩
  | .braking action (.finishing confirmed error) caller, .brakeFinish =>
    some ⟨finishBrakeAction g action confirmed error, caller.resume confirmed, none⟩
  | .publishing m owed next, .publish locked => some (publishTurn now g m owed next locked)
  | _, _ => none

section TurnGateway

variable (p : Parameters) (now : ℕ) (g : Gateway)

@[simp] theorem ackTurn_gateway (arm : Bool) (sequence : ℕ) :
    (ackTurn p now g arm sequence).gateway = (handleAck p g arm sequence now).2 := by
  unfold ackTurn
  split <;> next h => rw [h]

@[simp] theorem commandTurn_gateway (c : Command) :
    (commandTurn p now g c).gateway = (commandPreflight p g c now).2 := by
  unfold commandTurn
  split <;> next h => rw [h]

@[simp] theorem admitTurn_gateway (c : Command) (arrival : ℕ) :
    (admitTurn p now g c arrival).gateway = (commandAdmit p g c arrival now).2 := by
  unfold admitTurn
  split <;> next h => rw [h]

@[simp] theorem grantTurn_gateway (request : AcquireRequest) (random : ℕ) :
    (grantTurn p now g request random).gateway = (acquireGrant p g request now random).2 := by
  unfold grantTurn
  split <;> next h => rw [h]

@[simp] theorem releaseTurn_gateway (request : ReleaseRequest) :
    (releaseTurn p now g request).gateway = (releaseBegin p g request now).2 := by
  unfold releaseTurn
  split <;> next h => rw [h]

theorem releaseWakeTurn_eq_some {deadline : ℕ} {t : Turn}
    (h : releaseWakeTurn now g deadline = some t) :
    ∃ outcome, releaseWake g deadline now = some (outcome, t.gateway) := by
  unfold releaseWakeTurn at h
  split at h
  · exact nomatch h
  · next ho => cases h; exact ⟨_, ho⟩
  · next ho => cases h; exact ⟨_, ho⟩

@[simp] theorem publishTurn_gateway_history (m : Publication) (owed : List Publication)
    (next : Option BrakeAction) (locked : Bool) :
    (publishTurn now g m owed next locked).gateway.history = g.history := by
  cases m with
  | leaseGate active change => rfl
  | internalCommand c =>
    simp only [publishTurn, publishInternalCommand]
    split <;> rfl

end TurnGateway

/-! ## The system -/

/-- The gateway with its handler threads and the lease gate topic, the newest message first. -/
structure System where
  clock : ℕ
  gateway : Gateway
  threads : ℕ → Pc
  gateTopic : List (Bool × ℕ)

/-- A step of one thread, at a reading of the clock. -/
structure Label where
  now : ℕ
  thread : ℕ
  action : Action

/-- The system after a turn of a thread. -/
def System.after (s : System) (l : Label) (t : Turn) : System where
  clock := l.now
  gateway := t.gateway
  threads := Function.update s.threads l.thread t.pc
  gateTopic := t.gate.toList ++ s.gateTopic

/-- One step of the system.  The clock does not run backwards. -/
def step (p : Parameters) (s : System) (l : Label) : Option System :=
  if l.now < s.clock then none
  else (turn p l.now s.gateway (s.threads l.thread) l.action).map (s.after l)

/-- The system after the constructor of the gateway, which has published a closed gate. -/
def System.init (startedAt : ℕ) : System where
  clock := startedAt
  gateway := Gateway.init startedAt
  threads := fun _ => .idle
  gateTopic := [(false, 0)]

/-- The states of the system, from the moment it has been constructed. -/
def Reachable (p : Parameters) (startedAt : ℕ) (s : System) : Prop :=
  Runs.Reachable (step p) (System.init startedAt) s

theorem step_eq_some {p : Parameters} {s s' : System} {l : Label} :
    step p s l = some s' ↔ s.clock ≤ l.now ∧
      ∃ t, turn p l.now s.gateway (s.threads l.thread) l.action = some t ∧ s' = s.after l t := by
  unfold step
  split_ifs with h
  · exact ⟨fun he => (nomatch he), fun hc => absurd hc.1 (Nat.not_le.mpr h)⟩
  · rw [Option.map_eq_some_iff]
    exact ⟨fun ⟨t, ht, hs⟩ => ⟨Nat.not_lt.mp h, t, ht, hs.symm⟩,
      fun ⟨_, t, ht, hs⟩ => ⟨t, ht, hs.symm⟩⟩

/-! ## Complete feedback -/

/-- The status of a lift drive in operation, with its brake released or locked. -/
def operationalLift (brakeUnlocked : Bool) : LiftStatus where
  valid := true
  feedbackFresh := true
  ethercatOperational := true
  workingCounterOk := true
  initialized := true
  commandEnabled := true
  enabled := true
  brakeUnlocked := brakeUnlocked
  estop := false
  motionBlocked := false
  trajectoryActive := false
  jogActive := false
  errorCode := 0
  cia402State := "operation_enabled"

/-- One message of every feedback topic, with which the gateway is ready: the arms at rest at zero
and the lift at half its travel. -/
def completeFeedback (p : Parameters) (mode : WorkspaceMode) (brakeUnlocked : Bool)
    (liftVelocity : ℚ) : List Sample :=
  [.workspace ⟨.running, mode, true⟩,
    .controlMode ⟨.position, true⟩,
    .armPower ⟨List.replicate 14 39, List.replicate 14 true, true, true⟩,
    .liftStatus (operationalLift brakeUnlocked),
    .armJoints ⟨p.armNativeNames, List.replicate 14 0, List.replicate 14 0⟩,
    .liftJoints ⟨[p.liftNativeName], [.finite (-1 / 2)], [.finite liftVelocity]⟩,
    .endpoints ⟨2, 1, 1⟩]

/-- The steps of a thread at one time. -/
def stepsAt (now thread : ℕ) (actions : List Action) : List Label :=
  actions.map fun a => ⟨now, thread, a⟩

/-- A request for a lease by an owner that speaks the protocol. -/
def acquireRequest (owner : String) : AcquireRequest :=
  ⟨owner, protocolMajor, protocolMinor, layoutCrc32⟩

/-- A command to hold, follow or stop at half the lift's travel. -/
def restCommand (owner lease : String) (sequence mode : ℕ) : Command where
  protocolMajor := protocolMajor
  protocolMinor := protocolMinor
  layoutCrc32 := layoutCrc32
  ownerId := owner
  leaseId := lease
  sequence := sequence
  mode := mode
  fieldMask := Command.fieldPosition
  position := Function.update (fun _ => 0) 0 (.finite (-1 / 2))
  velocity := fun _ => 0
  acceleration := fun _ => 0

end Gateway

end JointController
