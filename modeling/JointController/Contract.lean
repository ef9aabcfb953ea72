import JointController.Library.Double
import Mathlib.Data.Fintype.Basic

/-!
# Messages of the Heavy upper-body interface

The message and service types that the gateway and the two lower controllers exchange, with the
constants of `junior_gateway_contract.hpp`.  A message keeps the fields that some modelled function
reads; header stamps and free texts are left out.

* `Resources α`: one value for each of the 15 resources, the lift at index 0 and then the arms.
* `Command`: a position command, and its modes and field bits.
* `JointState`, `ArmPowerStatus`, `LiftStatus`, `WorkspaceStatus`, `ArmControlModeStatus`: the
  feedback of the lower controllers and of the workspace supervisor.
* `AcquireRequest`, `ReleaseRequest`, `LiftBrakeRequest`: the service requests.
-/

namespace JointController

/-! ## Resources -/

/-- One value for each resource, in the order of `kResources`: the lift first, then the seven
joints of the left arm and the seven of the right arm. -/
abbrev Resources (α : Type*) := Fin 15 → α

/-- The lift is the resource `0`. -/
instance instNeZeroResources : @NeZero ℕ Zero.ofOfNat0 15 := ⟨by decide⟩

/-- The resource of an arm joint, `index + 1` in the source. -/
abbrev armResource (i : Fin 14) : Fin 15 := i.succ

/-- `kAllResourceMask` without the lift bit. -/
def armResourceMask : UInt16 := 0x7ffe

/-- The lift bit of a resource mask. -/
def liftResourceMask : UInt16 := 0x0001

/-! ## Commands -/

/-- `kProtocolMajor`. -/
def protocolMajor : ℕ := 1

/-- `kProtocolMinor`. -/
def protocolMinor : ℕ := 0

/-- `kLayoutCrc32`. -/
def layoutCrc32 : ℕ := 0x8c172bd8

/-- `HeavyUpperBodyGatewayCommandV1`. -/
structure Command where
  protocolMajor : ℕ
  protocolMinor : ℕ
  layoutCrc32 : ℕ
  ownerId : String
  leaseId : String
  sequence : ℕ
  mode : ℕ
  fieldMask : UInt8
  position : Resources Double
  velocity : Resources Double
  acceleration : Resources Double
  deriving DecidableEq

namespace Command

/-- `MODE_HOLD`. -/
def modeHold : ℕ := 0

/-- `MODE_FOLLOW_POSITION`. -/
def modeFollowPosition : ℕ := 1

/-- `MODE_STOP`. -/
def modeStop : ℕ := 2

/-- `FIELD_POSITION`. -/
def fieldPosition : UInt8 := 1

/-- `FIELD_VELOCITY`. -/
def fieldVelocity : UInt8 := 2

/-- `FIELD_ACCELERATION`. -/
def fieldAcceleration : UInt8 := 4

/-- The default message `Command{}`: empty strings and zeros. -/
def empty : Command where
  protocolMajor := 0
  protocolMinor := 0
  layoutCrc32 := 0
  ownerId := ""
  leaseId := ""
  sequence := 0
  mode := modeHold
  fieldMask := 0
  position := fun _ => 0
  velocity := fun _ => 0
  acceleration := fun _ => 0

/-- The message carries the field of a bit, `(field_mask & field) != 0`. -/
def has (c : Command) (field : UInt8) : Bool := c.fieldMask &&& field != 0

end Command

/-! ## Feedback -/

/-- `sensor_msgs/JointState`. -/
structure JointState where
  name : List String
  position : List Double
  velocity : List Double

/-- `ArmPowerStatus`. -/
structure ArmPowerStatus where
  statusCodes : List ℤ
  enabled : List Bool
  commandEnabled : Bool
  allEnabled : Bool
  deriving DecidableEq

/-- `LiftStatus`. -/
structure LiftStatus where
  valid : Bool
  feedbackFresh : Bool
  ethercatOperational : Bool
  workingCounterOk : Bool
  initialized : Bool
  commandEnabled : Bool
  enabled : Bool
  brakeUnlocked : Bool
  estop : Bool
  motionBlocked : Bool
  trajectoryActive : Bool
  jogActive : Bool
  errorCode : ℤ
  cia402State : String
  deriving DecidableEq

/-- The `state` of `WorkspaceStatus`. -/
inductive WorkspaceState where
  | stopped | starting | running | stopping | error
  deriving DecidableEq

/-- The `mode` of `WorkspaceStatus`. -/
inductive WorkspaceMode where
  | simulation | real | unknown
  deriving DecidableEq

/-- `WorkspaceStatus`. -/
structure WorkspaceStatus where
  state : WorkspaceState
  mode : WorkspaceMode
  accepted : Bool
  deriving DecidableEq

/-- The modes of `ArmControlModeStatus`. -/
inductive ArmControlMode where
  | position | effort
  deriving DecidableEq

/-- `ArmControlModeStatus`. -/
structure ArmControlModeStatus where
  activeMode : ArmControlMode
  positionCommandReady : Bool
  deriving DecidableEq

/-- The default message `ArmPowerStatus{}`. -/
def ArmPowerStatus.empty : ArmPowerStatus := ⟨[], [], false, false⟩

/-- The default message `LiftStatus{}`. -/
def LiftStatus.empty : LiftStatus where
  valid := false
  feedbackFresh := false
  ethercatOperational := false
  workingCounterOk := false
  initialized := false
  commandEnabled := false
  enabled := false
  brakeUnlocked := false
  estop := false
  motionBlocked := false
  trajectoryActive := false
  jogActive := false
  errorCode := 0
  cia402State := ""

/-- The default message `WorkspaceStatus{}`. -/
def WorkspaceStatus.empty : WorkspaceStatus := ⟨.stopped, .simulation, false⟩

/-- The default message `ArmControlModeStatus{}`. -/
def ArmControlModeStatus.empty : ArmControlModeStatus := ⟨.position, false⟩

/-! ## Service requests -/

/-- The request of `AcquireHeavyExecutionLeaseV1`. -/
structure AcquireRequest where
  ownerId : String
  protocolMajor : ℕ
  protocolMinor : ℕ
  layoutCrc32 : ℕ
  deriving DecidableEq

/-- The request of `ReleaseHeavyExecutionLeaseV1`. -/
structure ReleaseRequest where
  ownerId : String
  leaseId : String
  requestArmTorqueOff : Bool
  deriving DecidableEq

/-- The request of `SetHeavyLiftBrakeV1`. -/
structure LiftBrakeRequest where
  release : Bool
  deriving DecidableEq

end JointController
