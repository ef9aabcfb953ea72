import JointController.Network.Workers
import Mathlib.Logic.Function.Basic

/-!
# The hardware server

`ServerState` with its connections, the watchdog and the workers.  Each connection has a thread.  A
handler is a list of stages, which are the critical sections of the server lock and the steps
outside it, and the threads take their stages in any order.

* `Server`: the fields of `ServerState`, the configuration store and the connections.
* `Stage`, `Server.runStage`: a stage of a handler and what it does.
* `stages`: the handlers, one list for each message.
* `Server.releaseDirect`, `Server.sessionClosed`, `Server.watchdog`: the other critical sections.
* `Label`, `Server.step`: the interleavings.
-/

namespace JointController

namespace Network

variable (env : Environment)

/-- What the server runs with. -/
structure Settings where
  realBackend : Bool
  heartbeatTimeoutS : ℚ
  timeout_range : 1 / 4 ≤ heartbeatTimeoutS ∧ heartbeatTimeoutS ≤ 10
  /-- The numbers of a configuration that the workers read. -/
  armNumbers : Config → ArmNumbers
  liftNumbers : Config → LiftNumbers

/-- `mode`. -/
inductive Mode where
  | idle | directActive
  deriving DecidableEq

/-! ## Messages and their stages -/

/-- The messages.  A payload that the server cannot use is `none`. -/
inductive Message where
  /-- `HELLO`, `PING`, `GET_MODE`, `GET_CAPABILITIES`, `GET_CONFIG`, `GET_CONFIG_SCHEMA` and
  `GET_CONFIG_HISTORY`, which change nothing. -/
  | query
  | getState (d : Device)
  /-- The payload may have an error. -/
  | enterDirect (payloadError : Option String)
  | leaveDirect
  | acquireLease
  | releaseLease
  | device (c : DeviceCommand) (payload : Option Payload)
  | beginConfig
  | patchConfig (path : Option String) (value : Leaf)
  | validateConfig
  | commitConfig (expectedRevision : Option ℤ)
  | rollbackConfig
  | unsupported (type : String)

/-- A request, with its `session_id` when that is a string. -/
structure Request where
  sessionId : Option String
  message : Message

/-- A stage of a handler. -/
inductive Stage where
  | heartbeat
  | refuse (type : String)
  | enterDirect (payloadError : Option String)
  | leaveDirect
  | acquireLease
  | releaseLease
  | requireLease
  | checkPayload (c : DeviceCommand) (payload : Option Payload)
  | readWorkers
  | ensureWorker (d : Device)
  | readState
  | command (c : DeviceCommand) (payload : Option Payload)
  | requireMaintenance
  | claimOwner
  | requireOwner
  | requireOwnerIfAny
  | begin
  | patch (path : Option String) (value : Leaf)
  | validate
  | commit (expectedRevision : Option ℤ)
  | rollback
  | resetOwner

/-- The part of the handler of a device command behind its checks. -/
def commandStages (c : DeviceCommand) (payload : Option Payload) : List Stage :=
  match c with
  | .arm _ => [.readWorkers, .ensureWorker .arm, .command c payload]
  | .lift _ => [.readWorkers, .ensureWorker .lift, .command c payload]
  | .holdAll => [.readWorkers, .command c payload]

/-- The stages of `handle`. -/
def stages : Message → List Stage
  | .query => [.heartbeat]
  | .getState d => [.heartbeat, .readWorkers, .ensureWorker d, .readState]
  | .enterDirect payloadError => [.heartbeat, .enterDirect payloadError]
  | .leaveDirect => [.heartbeat, .leaveDirect]
  | .acquireLease => [.heartbeat, .acquireLease]
  | .releaseLease => [.heartbeat, .releaseLease]
  | .device c payload =>
    [.heartbeat, .requireLease, .checkPayload c payload] ++ commandStages c payload
  | .beginConfig => [.heartbeat, .requireMaintenance, .claimOwner, .begin]
  | .patchConfig path value => [.heartbeat, .requireMaintenance, .requireOwner, .patch path value]
  | .validateConfig => [.heartbeat, .requireOwnerIfAny, .validate]
  | .commitConfig expected =>
    [.heartbeat, .requireMaintenance, .requireOwner, .commit expected, .resetOwner]
  | .rollbackConfig => [.heartbeat, .requireMaintenance, .requireOwner, .rollback, .resetOwner]
  | .unsupported type => [.heartbeat, .refuse type]

/-! ## The server -/

/-- The thread of a connection.  `session` is the `session_id` of the first request that has one. -/
inductive Connection where
  | absent
  | idle (session : Option String)
  /-- In a handler, with the stages ahead of it.  After `LEAVE_DIRECT` the connection closes. -/
  | busy (session : String) (ahead : List Stage) (leaves : Bool)
  | closing (session : Option String)

/-- `ServerState`, the connections, and what it sees of its surroundings. -/
structure Server where
  config : ConfigStore env
  workers : Option HardwareWorkers
  ownerHeld : Bool
  mode : Mode
  directActive : Bool
  directSession : Option String
  leaseSession : Option String
  lastHeartbeat : String → Option ℚ
  configSession : Option String
  reaping : Bool
  connections : ℕ → Connection
  now : ℚ
  real : Slot → AxisState

/-- An error of a handler: one with a message, or an exception of Python itself. -/
inductive HandlerError where
  | busy (message : String)
  | config (message : String)
  | worker (message : String)
  | builtin
  deriving DecidableEq

/-- How a stage ends: the handler goes on, replies, replies with an error, or raises what the
connection does not catch. -/
inductive Outcome where
  | next
  | reply
  | error (e : HandlerError)
  | crash
  deriving DecidableEq

/-- The lock file of the hardware: free, locked by another process, or not to be opened. -/
inductive LockFile where
  | free | taken | broken
  deriving DecidableEq

/-- What a stage finds around it. -/
structure Surroundings where
  lockFile : LockFile
  /-- `active_reasons`: the other users of the hardware that the probe finds. -/
  activeReasons : List String
  /-- The process of the lift takes input. -/
  pipe : Bool
  /-- The file action of a commit that fails. -/
  fault : Option FaultPoint
  /-- An exception of Python itself is one that the connection catches. -/
  caught : Bool

variable {env}

/-- The outcome of an exception of Python itself. -/
def Surroundings.builtin (around : Surroundings) : Outcome :=
  if around.caught then .error .builtin else .crash

/-- The outcome of an operation of the store. -/
def Surroundings.ofStore (around : Surroundings) : Except StoreError Reply → Outcome
  | .ok _ => .next
  | .error (.config message) => .error (.config message)
  | .error .builtin => around.builtin

/-- The outcome of a command of the workers. -/
def Surroundings.ofWorkers (around : Surroundings) : Except WorkerError Unit → Outcome
  | .ok _ => .next
  | .error (.worker message) => .error (.worker message)
  | .error .builtin => around.builtin

/-- The checks of the payload of `ARM_JOG`, `ARM_HOME` and `LIFT_JOG`. -/
def checkPayload (c : DeviceCommand) (payload : Option Payload) : Outcome :=
  match c, payload with
  | .arm .jog, none | .arm .home, none | .lift .jog, none =>
    .error (.config "payload must be an object")
  | .arm .jog, some p =>
    if p.joint.bind slotOf = none then .error (.config "unknown arm joint")
    else if p.direction? = none then .error (.config "direction must be -1 or 1")
    else .next
  | .lift .jog, some p =>
    if p.direction? = none then .error (.config "direction must be -1 or 1") else .next
  | _, _ => .next

namespace Server

variable (s : Server env)

/-- `_release_direct_locked`. -/
def releaseDirect : Server env :=
  { s with
    workers := none
    leaseSession := none
    directActive := false
    directSession := none
    mode := .idle
    ownerHeld := false }

/-- `enter_direct` gives up: the lock file is released again. -/
def notEntered : Server env := { s with workers := none, ownerHeld := false }

/-- Direct mode is entered. -/
def entered (cfg : Settings) (session : String) : Server env :=
  { s with
    ownerHeld := true
    workers := if cfg.realBackend then
      some { config := s.config.config, arm := none, lift := none, starting := [] } else s.workers
    directActive := true
    directSession := some session
    mode := .directActive }

/-- `enter_direct`. -/
def enterDirect (cfg : Settings) (session : String) (around : Surroundings) :
    Server env × Outcome :=
  if s.directActive then
    if s.directSession = some session then (s, .next)
    else (s, .error (.busy "another Direct session is active"))
  else if s.ownerHeld = false ∧ around.lockFile = .taken then
    (s, .error (.busy "hardware is owned by ROS or another Direct worker"))
  else if s.ownerHeld = false ∧ around.lockFile = .broken then (s, around.builtin)
  else if around.activeReasons ≠ [] then
    (s.notEntered,
      .error (.busy ("hardware is already active: " ++ "; ".intercalate around.activeReasons)))
  else if cfg.realBackend = true ∧ env.hash s.config.config = none then
    (s.notEntered, around.builtin)
  else (s.entered cfg session, .next)

/-- `leave_direct`. -/
def leaveDirect (session : String) : Server env × Outcome :=
  if s.directSession ≠ none ∧ s.directSession ≠ some session then
    (s, .error (.busy "Direct mode belongs to another session"))
  else (s.releaseDirect, .next)

/-- `ACQUIRE_LEASE`. -/
def acquireLease (session : String) : Server env × Outcome :=
  if s.directActive = false ∨ s.directSession ≠ some session then
    (s, .error (.busy "enter Direct mode before acquiring a lease"))
  else if s.leaseSession ≠ none ∧ s.leaseSession ≠ some session then
    (s, .error (.busy "another session already holds the lease"))
  else ({ s with leaseSession := some session }, .next)

/-- `require_lease`. -/
def requireLease (session : String) : Outcome :=
  if s.leaseSession ≠ some session then
    .error (.busy "control lease is not held by this session")
  else .next

/-- `RELEASE_LEASE`. -/
def releaseLease (session : String) : Server env × Outcome :=
  match s.requireLease session with
  | .next => ({ s with leaseSession := none }, .next)
  | outcome => (s, outcome)

/-- `_require_config_maintenance`. -/
def requireMaintenance : Outcome :=
  if s.mode ≠ .idle ∨ s.leaseSession ≠ none then
    .error (.busy "configuration requires IDLE with no active lease")
  else .next

/-- `_require_config_owner`. -/
def requireOwner (session : String) : Outcome :=
  if s.configSession ≠ some session then
    .error (.busy "configuration transaction belongs to another session")
  else .next

/-- The second section of `BEGIN_CONFIG`. -/
def claimOwner (session : String) : Server env × Outcome :=
  if s.configSession ≠ none ∧ s.configSession ≠ some session then
    (s, .error (.busy "another session owns the configuration transaction"))
  else ({ s with configSession := some session }, .next)

/-- A call of `self.workers`, which is an error of Python itself when there are none. -/
def onWorkers (f : HardwareWorkers → Except WorkerError Unit × HardwareWorkers)
    (around : Surroundings) : Server env × Outcome :=
  match s.workers with
  | none => (s, .crash)
  | some w => ({ s with workers := some (f w).2 }, around.ofWorkers (f w).1)

/-- An operation of the store. -/
def onStore (call : Call) (around : Surroundings) : Server env × Outcome :=
  ({ s with config := (s.config.perform call).2 }, around.ofStore (s.config.perform call).1)

/-- What a stage does. -/
def runStage (cfg : Settings) (session : String) (around : Surroundings) :
    Stage → Server env × Outcome
  | .heartbeat =>
    ({ s with lastHeartbeat := Function.update s.lastHeartbeat session (some s.now) }, .next)
  | .refuse type => (s, .error (.config ("unsupported message type: " ++ type)))
  | .enterDirect (some message) => (s, .error (.config message))
  | .enterDirect none => s.enterDirect cfg session around
  | .leaveDirect => s.leaveDirect session
  | .acquireLease => s.acquireLease session
  | .releaseLease => s.releaseLease session
  | .requireLease => (s, s.requireLease session)
  | .checkPayload c payload => (s, Network.checkPayload c payload)
  | .readWorkers => (s, if s.workers.isSome then .next else .reply)
  | .ensureWorker d => s.onWorkers (fun w => (.ok (), w.ensureWorker d)) around
  | .readState => (s, if s.workers.isSome then .next else .crash)
  | .command c payload =>
    s.onWorkers (fun w => w.command env s.real s.now around.pipe c
      (payload.getD ⟨none, none, none, none⟩)) around
  | .requireMaintenance => (s, s.requireMaintenance)
  | .claimOwner => s.claimOwner session
  | .requireOwner => (s, s.requireOwner session)
  | .requireOwnerIfAny => (s, if s.configSession = none then .next else s.requireOwner session)
  | .begin => s.onStore ⟨.begin, none⟩ around
  | .patch (some path) value => s.onStore ⟨.patch path value, none⟩ around
  | .patch none _ => (s, .error .builtin)
  | .validate => s.onStore ⟨.validate, none⟩ around
  | .commit (some expected) => s.onStore ⟨.commit expected, around.fault⟩ around
  | .commit none => (s, .error .builtin)
  | .rollback => s.onStore ⟨.rollback, none⟩ around
  | .resetOwner => ({ s with configSession := none }, .next)

/-! ## Connections -/

/-- A reply has been sent.  The connection of a `LEAVE_DIRECT` closes. -/
def replied (session : Option String) (leaves : Bool) : Connection :=
  if leaves then .closing session else .idle session

/-- The thread after a stage. -/
def afterStage (session : String) (ahead : List Stage) (leaves : Bool) : Outcome → Connection
  | .next => if ahead.isEmpty then replied (some session) leaves else .busy session ahead leaves
  | .reply => replied (some session) leaves
  | .error _ => replied (some session) leaves
  | .crash => .closing (some session)

/-- The message is a `LEAVE_DIRECT`. -/
def isLeave : Message → Bool
  | .leaveDirect => true
  | _ => false

/-- The next request of a connection: `one TCP connection may use only one session_id`, and
`handle` needs one. -/
def receive (session : Option String) (r : Request) : Connection :=
  match session, r.sessionId with
  | none, none => replied none (isLeave r.message)
  | none, some x =>
    if x = "" then replied (some x) (isLeave r.message)
    else .busy x (stages r.message) (isLeave r.message)
  | some x, y =>
    if y ≠ some x ∨ x = "" then replied (some x) (isLeave r.message)
    else .busy x (stages r.message) (isLeave r.message)

/-- The thread of a connection moves. -/
def setConnection (c : ℕ) (connection : Connection) : Server env :=
  { s with connections := Function.update s.connections c connection }

/-- `session_closed`.  The owner stays when the snapshot of the rollback raises. -/
def sessionClosed (session : String) : Server env :=
  let s := { s with lastHeartbeat := Function.update s.lastHeartbeat session none }
  let s := if s.directSession = some session ∨ s.leaseSession = some session then s.releaseDirect
    else s
  if s.configSession = some session then
    match s.config.rollback with
    | (.ok _, config) => { s with config := config, configSession := none }
    | (.error _, config) => { s with config := config }
  else s

/-! ## The watchdog and the workers -/

/-- The last heartbeat of the session that holds the lease is too old. -/
def expired (cfg : Settings) : Bool :=
  match s.leaseSession with
  | none => false
  | some session => decide (cfg.heartbeatTimeoutS < s.now - (s.lastHeartbeat session).getD 0)

/-- A period of `_watchdog`. -/
def watchdog (cfg : Settings) : Server env := if s.expired cfg then s.releaseDirect else s

/-- The arm worker of a startup thread. -/
def startedArm (cfg : Settings) (w : HardwareWorkers) (limits : Slot → ℤ × ℤ)
    (zeroOffset : Slot → ℤ) : ArmWorker :=
  .started (cfg.armNumbers w.config) limits zeroOffset s.real s.now

/-- A startup thread ends, with a worker or without. -/
def started (cfg : Settings) (w : HardwareWorkers) (d : Device) (ok : Bool)
    (limits : Slot → ℤ × ℤ) (zeroOffset : Slot → ℤ) : HardwareWorkers :=
  let w := { w with starting := w.starting.erase d }
  if ok = false then w
  else
    match d with
    | .arm => { w with arm := some (s.startedArm cfg w limits zeroOffset) }
    | .lift => { w with lift := some ⟨cfg.liftNumbers w.config, false, []⟩ }

end Server

/-! ## Interleavings -/

/-- What may happen next. -/
inductive Label where
  | connect (c : ℕ)
  | request (c : ℕ) (r : Request)
  /-- The thread of a connection takes the next stage of its handler. -/
  | run (c : ℕ) (around : Surroundings)
  /-- End of file, a timeout, a bad frame, or a reply that cannot be sent. -/
  | hangUp (c : ℕ)
  | close (c : ℕ)
  | watchdog
  | elapse (d : ℚ)
  | started (d : Device) (ok : Bool) (limits : Slot → ℤ × ℤ) (zeroOffset : Slot → ℤ)
  | armLoop (exited : Bool)
  | feedback (real : Slot → AxisState)
  | shutdown

namespace Server

/-- A step, if the label is enabled. -/
def step (cfg : Settings) (s : Server env) : Label → Option (Server env)
  | .connect c =>
    match s.connections c with
    | .absent => some (s.setConnection c (.idle none))
    | _ => none
  | .request c r =>
    match s.connections c with
    | .idle session => some (s.setConnection c (receive session r))
    | _ => none
  | .run c around =>
    match s.connections c with
    | .busy session (stage :: ahead) leaves =>
      let result := s.runStage cfg session around stage
      some (result.1.setConnection c (afterStage session ahead leaves result.2))
    | _ => none
  | .hangUp c =>
    match s.connections c with
    | .idle session => some (s.setConnection c (.closing session))
    | _ => none
  | .close c =>
    match s.connections c with
    | .closing none => some (s.setConnection c .absent)
    | .closing (some session) => some ((s.sessionClosed session).setConnection c .absent)
    | _ => none
  | .watchdog => if s.reaping then some (s.watchdog cfg) else none
  | .elapse d => if 0 ≤ d then some { s with now := s.now + d } else none
  | .started d ok limits zeroOffset =>
    match s.workers with
    | none => none
    | some w =>
      if d ∈ w.starting then
        some { s with workers := some (s.started cfg w d ok limits zeroOffset) }
      else none
  | .armLoop exited =>
    match s.workers with
    | none => none
    | some w =>
      some { s with
        workers := some { w with
          arm := w.arm.map fun a : ArmWorker => a.loop s.real s.now exited } }
  | .feedback real => some { s with real := real }
  | .shutdown => some { s.releaseDirect with reaping := false }

/-- The server when it starts. -/
def initial (config : ConfigStore env) (now : ℚ) (real : Slot → AxisState) : Server env where
  config := config
  workers := none
  ownerHeld := false
  mode := .idle
  directActive := false
  directSession := none
  leaseSession := none
  lastHeartbeat := fun _ => none
  configSession := none
  reaping := true
  connections := fun _ => .absent
  now := now
  real := real

end Server

end Network

end JointController
