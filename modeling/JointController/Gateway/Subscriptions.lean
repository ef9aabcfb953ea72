import JointController.Gateway.Locked

/-!
# Subscriptions of the Heavy gateway

What the gateway keeps of each message that the lower controllers and the workspace supervisor
publish.  None of these callbacks touches the lease or the transaction.

* `handleArmJointState`, `handleLiftJointState`: the joint feedback, by native joint names.
* `handleArmPower`, `handleLiftStatus`, `handleWorkspaceStatus`, `handleControlMode`.
* `Sample`, `receive`: a message of any of these topics, or a change of the discovery counts.
-/

namespace JointController

namespace Gateway

/-! ## Joint feedback -/

/-- What the loop of `handleArmJointState` has collected. -/
structure ArmScan where
  positions : Fin 14 → Double
  velocities : Fin 14 → Double
  seen : Fin 14 → Bool
  positionMask : UInt16
  velocityMask : UInt16

/-- The bit of an arm joint in a resource mask, `1U << (index + 1U)`. -/
def armBit (i : Fin 14) : UInt16 := 1 <<< UInt16.ofNat (i + 1)

/-- The finite value that a message has for a source index. -/
def finiteAt (values : List Double) (source : ℕ) : Option Double :=
  values[source]?.filter Double.isFinite

/-- One round of the loop of `handleArmJointState`.  A name that comes again takes back the
validity of its joint. -/
def ArmScan.next (p : Parameters) (message : JointState) (scan : ArmScan)
    (entry : String × ℕ) : ArmScan :=
  match (List.finRange 14).find? fun i => p.armNativeNames[i.1]? == some entry.1 with
  | none => scan
  | some i =>
    if scan.seen i then
      { scan with
        positionMask := scan.positionMask &&& ~~~armBit i
        velocityMask := scan.velocityMask &&& ~~~armBit i }
    else
      let position := finiteAt message.position entry.2
      let velocity := finiteAt message.velocity entry.2
      { positions := Function.update scan.positions i (position.getD (scan.positions i))
        velocities := Function.update scan.velocities i (velocity.getD (scan.velocities i))
        seen := Function.update scan.seen i true
        positionMask := if position.isSome then scan.positionMask ||| armBit i
          else scan.positionMask
        velocityMask := if velocity.isSome then scan.velocityMask ||| armBit i
          else scan.velocityMask }

/-- `handleArmJointState`. -/
def handleArmJointState (p : Parameters) (g : Gateway) (now : ℕ) (message : JointState) :
    Gateway :=
  let scan := message.name.zipIdx.foldl (ArmScan.next p message)
    ⟨fun _ => 0, fun _ => 0, fun _ => false, 0, 0⟩
  let joints := g.feedback.joints
  { g with feedback := { g.feedback with
      joints := { joints with
        position := Fin.cons (joints.position 0) scan.positions
        velocity := Fin.cons (joints.velocity 0) scan.velocities
        positionValidMask := (joints.positionValidMask &&& liftResourceMask) ||| scan.positionMask
        velocityValidMask := (joints.velocityValidMask &&& liftResourceMask) ||| scan.velocityMask
        armReceived := true
        armTime := now } } }

/-- What the loop of `handleLiftJointState` has collected. -/
structure LiftScan where
  seen : Bool
  duplicate : Bool
  position : Option Double
  velocity : Option Double

/-- One round of the loop of `handleLiftJointState`, which stops at the second occurrence of the
lift's name. -/
def LiftScan.next (p : Parameters) (message : JointState) (scan : LiftScan)
    (entry : String × ℕ) : LiftScan :=
  if scan.duplicate ∨ entry.1 ≠ p.liftNativeName then scan
  else if scan.seen then { scan with duplicate := true }
  else ⟨true, false, finiteAt message.position entry.2, finiteAt message.velocity entry.2⟩

/-- A validity mask with its lift bit set or cleared. -/
def setLiftBit (mask : UInt16) (valid : Bool) : UInt16 :=
  if valid then mask ||| liftResourceMask else mask &&& 0xfffe

/-- `handleLiftJointState`. -/
def handleLiftJointState (p : Parameters) (g : Gateway) (now : ℕ) (message : JointState) :
    Gateway :=
  let scan := message.name.zipIdx.foldl (LiftScan.next p message) ⟨false, false, none, none⟩
  let joints := g.feedback.joints
  { g with feedback := { g.feedback with
      joints := { joints with
        position := Function.update joints.position 0 (scan.position.getD 0)
        velocity := Function.update joints.velocity 0 (scan.velocity.getD 0)
        positionValidMask :=
          setLiftBit joints.positionValidMask (scan.position.isSome && !scan.duplicate)
        velocityValidMask :=
          setLiftBit joints.velocityValidMask (scan.velocity.isSome && !scan.duplicate)
        liftReceived := true
        liftTime := now } } }

/-! ## Status messages -/

/-- The callback of `/arm/power_status`. -/
def handleArmPower (g : Gateway) (now : ℕ) (message : ArmPowerStatus) : Gateway :=
  { g with feedback := { g.feedback with
      armPower := message
      armPowerReceived := true
      armPowerTime := now } }

/-- The callback of the lift status.  Before this gateway has committed a lock the status decides
whether the brake is locked; afterwards an older "unlocked" sample is ignored. -/
def handleLiftStatus (g : Gateway) (now : ℕ) (message : LiftStatus) : Gateway :=
  { g with
    feedback := { g.feedback with
      liftStatus := message
      liftStatusReceived := true
      liftStatusTime := now }
    brake := { g.brake with
      locked := if g.brake.lockCommanded then g.brake.locked else !message.brakeUnlocked } }

/-- A workspace status reports a running simulation. -/
def WorkspaceStatus.simulating (s : WorkspaceStatus) : Bool :=
  s.state == .running && s.mode == .simulation

/-- The callback of `/workspace/status`.  When a simulation starts, the samples of the run before
it are dropped. -/
def handleWorkspaceStatus (g : Gateway) (now : ℕ) (message : WorkspaceStatus) : Gateway :=
  let f := g.feedback
  let entering := WorkspaceStatus.simulating message &&
    (!f.workspaceReceived || !WorkspaceStatus.simulating f.workspaceStatus)
  let updated : FeedbackCache := { f with
    workspaceStatus := message
    workspaceReceived := true
    workspaceTime := now }
  { g with feedback :=
      if entering then
        { updated with
          joints := JointSnapshot.empty
          armPower := ArmPowerStatus.empty
          liftStatus := LiftStatus.empty
          armPowerReceived := false
          liftStatusReceived := false
          armPowerTime := 0
          liftStatusTime := 0 }
      else updated }

/-- The callback of `/arm/control_mode_status`. -/
def handleControlMode (g : Gateway) (now : ℕ) (message : ArmControlModeStatus) : Gateway :=
  { g with feedback := { g.feedback with
      controlModeStatus := message
      controlModeReceived := true
      controlModeTime := now } }

/-- A message of one of the feedback topics, or a change of the discovery counts. -/
inductive Sample where
  | armJoints : JointState → Sample
  | liftJoints : JointState → Sample
  | armPower : ArmPowerStatus → Sample
  | liftStatus : LiftStatus → Sample
  | workspace : WorkspaceStatus → Sample
  | controlMode : ArmControlModeStatus → Sample
  | endpoints : Endpoints → Sample

/-- The state after the callback of a sample. -/
def receive (p : Parameters) (g : Gateway) (now : ℕ) : Sample → Gateway
  | .armJoints message => handleArmJointState p g now message
  | .liftJoints message => handleLiftJointState p g now message
  | .armPower message => handleArmPower g now message
  | .liftStatus message => handleLiftStatus g now message
  | .workspace message => handleWorkspaceStatus g now message
  | .controlMode message => handleControlMode g now message
  | .endpoints counts => { g with feedback := { g.feedback with endpoints := counts } }

/-- A sample changes the feedback and at most whether the brake counts as locked. -/
theorem receive_eq (p : Parameters) (g : Gateway) (now : ℕ) (sample : Sample) :
    ∃ feedback locked, receive p g now sample =
      { g with feedback := feedback, brake := { g.brake with locked := locked } } := by
  cases sample <;> exact ⟨_, _, rfl⟩

end Gateway

end JointController
